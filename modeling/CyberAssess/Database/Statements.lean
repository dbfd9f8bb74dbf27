import CyberAssess.Database.Calls
import CyberAssess.Support.Transaction

/-!
# Database — four calls, statement by statement

The calls that `settle_execution` makes, as the statements they run in a connection: a call that
raises between two of them leaves what it has written to whoever holds the connection.

* `Journal` has the rows of the execution and the audit events of their changes.
* `update` is an `UPDATE` under its fence and returns `rowcount`.
* `transitionProcessOwnershipIn`, `abortExecutionStartIn`, `finishExecutionIn`,
  `settleExecutionAfterConfirmedTerminationIn`: the calls, in a connection of their own or in the
  active one.
* `abortTorn`, `finishTorn`, `settleTorn`: where one raises after it has written.

`[about ours]`: the events are those of changes; what `_record_dispatch_rejection_conn` notes of a
refusal is left out.
-/

namespace CyberAssess

open Transaction (connection)
open Python (isBlank nonBlankUpTo)

/-- An `AuditEvent` of a change. -/
structure ChangeEvent where
  actor : String
  organizationId : String
  action : String
  objectType : String
  objectId : String
  correlationId : String
  details : List (String × String)
deriving DecidableEq, Repr

/-- The rows, and the events of their changes, the newest first. -/
structure Journal where
  rows : Rows
  changes : List ChangeEvent
deriving DecidableEq, Repr

/-- `UPDATE … WHERE fence`, with its `rowcount`. -/
def update (fence : Rows → Bool) (write : Rows → Rows) : Transaction Journal DbError Nat := do
  let j ← get
  if fence j.rows then do
    set { j with rows := write j.rows }
    return 1
  else return 0

/-- `_insert_audit_event_conn`. -/
def insertAuditEventConn (e : ChangeEvent) : Transaction Journal DbError PUnit :=
  modify fun j => { j with changes := e :: j.changes }

/-! ### The ownership row -/

/-- `EXECUTION_PROCESS_OWNERSHIP_TRANSITIONED`. -/
def ownershipTransitioned (actor organizationId executionId correlationId : String)
    (details : List (String × String)) : ChangeEvent :=
  ⟨actor, organizationId, "EXECUTION_PROCESS_OWNERSHIP_TRANSITIONED", "execution_process_ownership",
    executionId, correlationId, details⟩

/-- `EXECUTION_RUN_TRANSITIONED`. -/
def runTransitioned (actor organizationId executionId correlationId : String)
    (details : List (String × String)) : ChangeEvent :=
  ⟨actor, organizationId, "EXECUTION_RUN_TRANSITIONED", "execution_run", executionId, correlationId,
    details⟩

/-- The statements of `transition_process_ownership`. -/
def transitionStatements (c : TransitionOwnershipArgs) (reasonCode : String) (a : Authority) :
    Transaction Journal DbError Bool := do
  let x := (← get).rows
  if !(ownershipFence c a x && ownershipAuthorized c a x &&
      !isBlank a.ownershipCorrelationId && ownershipCompatible c.record x.ownership) then
    return false
  else if x.ownership.ownershipState = .terminal then
    return ownershipReplays c.record a x.ownership
  else if !(x.ownership.ownershipState = c.expectedState &&
      a.ownershipCorrelationId = c.record.correlationId) then
    return false
  else do
    let updated ← update (·.ownership.ownershipState = c.expectedState) fun x =>
      { x with ownership := x.ownership.recorded c.record }
    if updated ≠ 1 then return false
    else do
      insertAuditEventConn (ownershipTransitioned "system" c.organizationId c.executionId
        c.record.correlationId
        [("from", c.expectedState.text), ("to", c.record.ownershipState.text),
          ("reason_code", reasonCode)])
      return true

/-- `transition_process_ownership`. -/
def transitionProcessOwnershipIn (active : Bool) (c : TransitionOwnershipArgs) (reasonCode : String)
    (a : Authority) : Transaction Journal DbError Bool := do
  ofExcept c.check
  if !(c.workerIdentity.any (nonBlankUpTo 256) &&
      c.record.workerGeneration.any (nonBlankUpTo 256) &&
      !isBlank c.record.correlationId) then return false
  else connection active (transitionStatements c reasonCode a)

/-! ### The run that did not start -/

/-- `row["correlation_id"] or f"corr-execution-{execution_id}"`. -/
def lifecycleCorrelation (a : Authority) : String :=
  if a.run.correlationId.isEmpty then "corr-execution-" ++ a.run.executionId else a.run.correlationId

/-- The statements of `abort_execution_start`. -/
def abortStatements (c : AbortStartArgs) (now : Instant) (a : Authority) :
    Transaction Journal DbError Bool := do
  let x := (← get).rows
  if !startAbortable c x then return false
  else do
    let run ← update (·.run.state = .starting) fun x =>
      { x with run := { x.run with
          state := c.terminalState
          reasonCode := some c.reasonCode
          processId := c.processId.or x.run.processId
          processGroupId := c.processGroupId.or x.run.processGroupId
          finishedAt := some now } }
    let dispatch ← update (·.dispatch.claimedWith c.workerIdentity c.dispatchClaimToken) fun x =>
      { x with dispatch :=
          x.dispatch.settled (safeDispatchState c.terminalState) now (some c.reasonCode) }
    let decision ← update
      (fun x => x.decision.claimedWith c.workerIdentity c.decisionClaimToken &&
        x.decision.consumedAt.isNone)
      fun x => { x with decision := x.decision.unclaimed }
    if run ≠ 1 || dispatch ≠ 1 || decision ≠ 1 then
      throw (.runtimeError "execution start abort lost its transaction fence")
    else do
      insertAuditEventConn ⟨c.workerIdentity, c.organizationId, "EXECUTION_AUTHORITY_RELEASED",
        "execution_run", a.run.executionId, lifecycleCorrelation a,
        [("to", c.terminalState.text), ("reason_code", c.reasonCode.text),
          ("dispatch_state", (safeDispatchState c.terminalState).text)]⟩
      insertAuditEventConn (runTransitioned c.workerIdentity c.organizationId a.run.executionId
        (lifecycleCorrelation a)
        [("from", "STARTING"), ("to", c.terminalState.text), ("reason_code", c.reasonCode.text)])
      return true

/-- `abort_execution_start`. -/
def abortExecutionStartIn (active : Bool) (c : AbortStartArgs) (now : Instant) (a : Authority) :
    Transaction Journal DbError Bool := do
  ofExcept c.check
  connection active (abortStatements c now a)

/-- Two updates have been made, and the third finds the decision consumed. -/
def abortTorn (c : AbortStartArgs) (x : Rows) : Bool :=
  c.check.isOk && startAbortable c x && x.decision.consumedAt.isSome

/-! ### The run that ended -/

/-- The statements of `finish_execution`. -/
def finishStatements (c : FinishArgs) (revokedTokens : List String) (now : Instant) (a : Authority) :
    Transaction Journal DbError Bool := do
  let x := (← get).rows
  if x.run.state.isTerminal then return finishReplays c x
  else if !finishAllowed c revokedTokens now a x then return false
  else do
    let run ← update
      (fun x => x.run.state = .running && x.run.workerIdentity = some c.workerIdentity &&
        x.run.processId = c.processId && x.run.processGroupId = c.processGroupId &&
        authorityCurrent revokedTokens now a x)
      fun x =>
        { x with run := { x.run with
            state := c.terminalState
            reasonCode := c.reasonCode
            processId := c.processId.or x.run.processId
            processGroupId := c.processGroupId.or x.run.processGroupId
            finishedAt := some now } }
    let dispatch ← update
      (fun x => x.dispatch.claimedWith c.workerIdentity c.dispatchClaimToken &&
        authorityCurrent revokedTokens now a x)
      fun x => { x with dispatch :=
        x.dispatch.settled (finishDispatchState c.terminalState) now c.reasonCode }
    if run ≠ 1 || dispatch ≠ 1 then
      throw (.runtimeError "execution finish lost its transaction fence")
    else do
      let reason := (c.reasonCode.map (·.text)).getD "null"
      insertAuditEventConn ⟨c.workerIdentity, c.organizationId,
        if finishDispatchState c.terminalState = .completed then "EXECUTION_DISPATCH_COMPLETED"
        else "EXECUTION_DISPATCH_FAILED",
        "execution_dispatch_intent", c.executionId, lifecycleCorrelation a,
        [("terminal_state", c.terminalState.text), ("reason_code", reason)]⟩
      insertAuditEventConn (runTransitioned c.workerIdentity c.organizationId c.executionId
        (lifecycleCorrelation a)
        [("from", "RUNNING"), ("to", c.terminalState.text), ("reason_code", reason)])
      return true

/-- `finish_execution`. -/
def finishExecutionIn (active : Bool) (c : FinishArgs) (revokedTokens : List String) (now : Instant)
    (a : Authority) : Transaction Journal DbError Bool :=
  if !c.complete then return false
  else connection active (finishStatements c revokedTokens now a)

/-- The dispatch has been updated, and the run has process columns the call does not name. -/
def finishTorn (c : FinishArgs) (revokedTokens : List String) (now : Instant) (a : Authority)
    (x : Rows) : Bool :=
  c.complete && !x.run.state.isTerminal && finishAllowed c revokedTokens now a x &&
    !(x.run.processId = c.processId && x.run.processGroupId = c.processGroupId)

/-! ### The confirmed termination -/

/-- `INSERT INTO execution_recovery_attempts`. -/
def insertAttempt (t : RecoveryAttempt) : Transaction Journal DbError PUnit := do
  let j ← get
  let y ← ofExcept (j.rows.appendAttempt t)
  set { j with rows := y }

/-- `if rowcount != 1: raise RuntimeError`. -/
def updateFenced (lost : String) (fence : Rows → Bool) (write : Rows → Rows) :
    Transaction Journal DbError PUnit := do
  let n ← update fence write
  if n ≠ 1 then throw (.runtimeError lost) else return ⟨⟩

/-- The dispatch of a settlement, where it has not ended. -/
def settleDispatchUpdate (c : SettleConfirmedArgs) (now : Instant) (x : Rows) :
    Transaction Journal DbError PUnit :=
  if x.dispatch.state = .pending || x.dispatch.state = .claimed then
    updateFenced "confirmed-termination settlement lost its dispatch fence"
      (fun y => y.dispatch.state = .pending || y.dispatch.state = .claimed)
      fun y => { y with dispatch :=
        y.dispatch.settled (safeDispatchState c.terminalState) now (some c.reasonCode) }
  else return ⟨⟩

/-- Its run, where it has not ended. -/
def settleRunUpdate (c : SettleConfirmedArgs) (now : Instant) (x : Rows) :
    Transaction Journal DbError PUnit :=
  if x.run.state.isTerminal then return ⟨⟩
  else
    updateFenced "confirmed-termination settlement lost its run fence" (!·.run.state.isTerminal)
      fun y => { y with run := y.run.settled c.terminalState (some c.reasonCode) now }

/-- The statements that write a first settlement, of the row that was read. -/
def settleUpdates (c : SettleConfirmedArgs) (proof : ExecutionProof) (now : Instant) (a : Authority)
    (x : Rows) : Transaction Journal DbError Bool := do
  let ownership ← update (·.ownership.ownershipState = x.ownership.ownershipState) fun y =>
    { y with ownership := { y.ownership with
        ownershipState := .terminal
        noProcessProof := some (.envelope proof)
        lastVerifiedAt :=
          if c.terminationStatus.isProcess then y.ownership.lastVerifiedAt else some now
        terminalizedAt := some now
        updatedAt := now } }
  if ownership ≠ 1 then return false
  else do
    settleDispatchUpdate c now x
    settleRunUpdate c now x
    let _ ← update (fun _ => true) fun y => { y with decision := y.decision.unclaimed }
    updateFenced "confirmed-termination settlement lost its recovery fence"
      (fun y => y.recovery.status = .requested || y.recovery.status = .deferred)
      fun y => { y with recovery :=
        { y.recovery.confirmed proof now with
          workerGeneration := some proof.workerGeneration
          attemptNumber := x.recovery.attemptNumber + 1 } }
    insertAttempt (c.attempt now a x)
    insertAuditEventConn (ownershipTransitioned c.actor c.organizationId c.executionId
      (lifecycleCorrelation a)
      [("from", x.ownership.ownershipState.text), ("to", "TERMINAL"),
        ("termination_status", c.terminationStatus.value), ("reason_code", c.reasonCode.text)])
    insertAuditEventConn (runTransitioned c.actor c.organizationId c.executionId
      (lifecycleCorrelation a) [("to", c.terminalState.text), ("reason_code", c.reasonCode.text)])
    return true

/-- The statements of `settle_execution_after_confirmed_termination`. -/
def settleStatements (c : SettleConfirmedArgs) (revokedTokens : List String) (jobEmpty : Bool)
    (now : Instant) (a : Authority) : Transaction Journal DbError Bool := do
  let x := (← get).rows
  if !settlementBinding c a x then return false
  else if x.ownership.ownershipState = .terminal then
    return (!c.terminationStatus.isProcess || settlementAttested c jobEmpty now a x) &&
      settlementReplays c a x
  else if !confirmedSettleable c revokedTokens jobEmpty now a x then return false
  else do
    let proof := terminationProof c now a x
    if !proof.fits then throw (.valueError "execution proof exceeds the bounded storage limit")
    else settleUpdates c proof now a x

/-- `settle_execution_after_confirmed_termination`. -/
def settleExecutionAfterConfirmedTerminationIn (active : Bool) (c : SettleConfirmedArgs)
    (revokedTokens : List String) (jobEmpty : Bool) (now : Instant) (a : Authority) :
    Transaction Journal DbError Bool := do
  ofExcept c.check
  if !(c.complete && c.identityFits) then return false
  else connection active (settleStatements c revokedTokens jobEmpty now a)

/-- Every update has been made, and the attempt has an id that is taken. -/
def settleTorn (c : SettleConfirmedArgs) (revokedTokens : List String) (jobEmpty : Bool)
    (now : Instant) (a : Authority) (x : Rows) : Bool :=
  c.check.isOk && c.complete && c.identityFits && settlementBinding c a x &&
    x.ownership.ownershipState ≠ .terminal && confirmedSettleable c revokedTokens jobEmpty now a x &&
    (terminationProof c now a x).fits && x.attempts.any (·.attemptId = c.attemptId)

end CyberAssess
