import CyberAssess.Service.Identity

/-!
# Service — the execution reaper

`_reap_execution_authority_once` of `core/observation_service.py`, one pass over the executions that
`list_execution_recovery_candidates` selects.

* `isRecoveryCandidate` is the `WHERE` of the selection, `listExecutionRecoveryCandidates` the
  selection in its order and batch.
* `reapUncertain` is the lease protocol for an uncertain or blocked process; `reapPreDispatch`,
  `reapNoProcess`, `recordIdentityUnavailable` and `reapProcess` are the other branches.
* `reapCandidate` chooses between them, and `reapExecutionAuthorityOnce` is the pass.

A pass changes the database and calls the supervisor; `Pass` keeps both.

`[about ours]`: the clock stands still during a pass, no other party writes, and a durable write
does not outlast its waiter.  The text of the errors the service keeps for its health report is
left out.
-/

namespace CyberAssess

/-! ### The selection -/

/-- `q.state = 'REVOKED' OR d.revoked_at IS NOT NULL OR EXISTS (… revoked_tokens …)`. -/
def authorityRevoked (revokedTokens : List String) (a : Authority) (x : Rows) : Bool :=
  x.request.state = .revoked || x.decision.revokedAt.isSome || a.sessionRevoked revokedTokens

/-- The authority is not approved, is revoked or has expired, or its dispatch lease has. -/
def authorityLost (revokedTokens : List String) (now : Instant) (a : Authority) (x : Rows) : Bool :=
  x.request.state ≠ .authorized || a.decision.approvalState ≠ .approved ||
    x.decision.revokedAt.isSome || a.sessionRevoked revokedTokens || x.request.expiresAt ≤ now ||
    x.decision.expiresAt ≤ now ||
    (x.dispatch.state = .claimed && x.dispatch.leaseExpiresAt.all (· ≤ now))

/-- `p.ownership_state IN ('LAUNCH_UNCERTAIN', 'RECOVERY_BLOCKED')` under a lapsed lease. -/
def recoveryLeaseLapsed (now : Instant) (s : RecoveryRow) : Bool :=
  s.status = .inProgress && leaseLapsed now s.leaseExpiresAt

/-- `s.next_retry_at IS NULL OR s.next_retry_at <= ?`. -/
def retryDue (now : Instant) (s : RecoveryRow) : Bool := s.nextRetryAt.all (· ≤ now)

/-- The ownership states of the last alternative of the selection. -/
def ownershipUnsettled : OwnershipState → Bool
  | .unknown | .externalProcessGoverned | .launchUncertain | .recoveryBlocked => true
  | _ => false

/-- The `WHERE` of `list_execution_recovery_candidates`. -/
def isRecoveryCandidate (revokedTokens : List String) (now : Instant) (a : Authority) (x : Rows) :
    Bool :=
  !x.run.state.isTerminal &&
    ((x.recovery.status ≠ .inProgress && x.recovery.status ≠ .exhausted) ||
      (needsRecovery x.ownership.ownershipState && recoveryLeaseLapsed now x.recovery)) &&
    retryDue now x.recovery &&
    (authorityLost revokedTokens now a x ||
      (ownershipUnsettled x.ownership.ownershipState &&
        ((x.recovery.status ≠ .inProgress && retryDue now x.recovery) ||
          recoveryLeaseLapsed now x.recovery)))

/-- The `terminal_state` and `reason_code` columns of a candidate. -/
def candidateOutcome (revokedTokens : List String) (a : Authority) (x : Rows) :
    RunState × ReasonCode :=
  if needsRecovery x.ownership.ownershipState then (.failed, .processLaunchUncertain)
  else if authorityRevoked revokedTokens a x then (.cancelled, .executionCancelled)
  else if x.request.state ≠ .authorized || a.decision.approvalState ≠ .approved then
    (.executionBlocked, .executionAuthorityRevokedOrExpired)
  else (.timedOut, .executionAuthorityExpired)

/-- A selected row. -/
structure Candidate where
  executionId : String
  organizationId : String
  processId : Option Int
  runState : RunState
  runWorkerGeneration : String
  ownershipState : OwnershipState
  dispatchState : DispatchState
  attemptNumber : Nat
  terminalState : RunState
  reasonCode : ReasonCode
deriving DecidableEq, Repr

/-- The columns of a selected execution. -/
def candidateOf (revokedTokens : List String) (e : Execution) : Candidate where
  executionId := e.fixed.run.executionId
  organizationId := e.fixed.request.organizationId
  processId := e.data.run.processId
  runState := e.data.run.state
  runWorkerGeneration := e.fixed.run.workerGeneration
  ownershipState := e.data.ownership.ownershipState
  dispatchState := e.data.dispatch.state
  attemptNumber := e.data.recovery.attemptNumber
  terminalState := (candidateOutcome revokedTokens e.fixed e.data).1
  reasonCode := (candidateOutcome revokedTokens e.fixed e.data).2

/-- `ORDER BY r.created_at LIMIT ?`, over the selected executions. -/
def recoveryBatch (limit : Nat) (now : Instant) (db : Db) : List Execution :=
  (((db.executions.rows.filter
      fun e => isRecoveryCandidate db.revokedTokens now e.fixed e.data).mergeSort
    fun e e' => decide (e.fixed.run.createdAt ≤ e'.fixed.run.createdAt))).take limit

/-- `list_execution_recovery_candidates`. -/
def listExecutionRecoveryCandidates (limit : Nat) (now : Instant) (db : Db) : List Candidate :=
  (recoveryBatch limit now db).map (candidateOf db.revokedTokens)

/-! ### One pass -/

/-- What the reaper does not decide itself. -/
structure ReaperEnv where
  now : Instant
  workerGeneration : String
  batchSize : Nat
  attestedJob : WindowsAttestation → Bool
  jobEmpty : String → Bool
  cancellationPending : String → Bool
  cancelExecution : String → Option ProcessIdentity → SupervisorReply
  token : String → String

/-- A call of the supervisor's `cancel_execution`. -/
structure SupervisorCancellation where
  executionId : String
  identity : Option ProcessIdentity
deriving DecidableEq, Repr

/-- A pass under way. -/
structure Pass where
  db : Db
  cancellations : List SupervisorCancellation
  reaped : Nat

/-- A durable write: what it returned, and the pass after it.  One that raises is rolled back and
logged. -/
def Pass.write (env : ReaperEnv) (c : ExecutionCall) (p : Pass) : Option Response × Pass :=
  match p.db.execute c env.now with
  | .ok (r, db) => (some r, { p with db := db })
  | .error _ => (none, p)

/-- A write that closes the execution is counted. -/
def Pass.close (env : ReaperEnv) (c : ExecutionCall) (p : Pass) : Pass :=
  match p.write env c with
  | (some r, q) => if r.granted then { q with reaped := q.reaped + 1 } else q
  | (none, q) => q

/-- A supervisor call, and its reply. -/
def Pass.cancel (env : ReaperEnv) (executionId : String) (identity : Option ProcessIdentity)
    (p : Pass) : SupervisorReply × Pass :=
  (env.cancelExecution executionId identity,
    { p with cancellations := p.cancellations ++ [⟨executionId, identity⟩] })

/-- `recovery_owner`. -/
def recoveryOwner : String := "execution-recovery-coordinator"

/-- `max_recovery_attempts`. -/
def maxRecoveryAttempts : Nat := 5

/-- `_retry_at`. -/
def retryAt (attemptNumber : Nat) (now : Instant) : RecoveryStatus × Option Instant :=
  if maxRecoveryAttempts ≤ attemptNumber then (.exhausted, none)
  else (.deferred, some (now + seconds (min 300 (5 * 2 ^ min (attemptNumber - 1) 6))))

/-- The status a reply is kept as: the typed status, or none where the waiter timed out. -/
def SupervisorReply.termination : SupervisorReply → Option CancellationStatus
  | .status s => some s
  | .timedOut | .raised _ => none

/-- `f"termination_{status.lower()}"`. -/
def CancellationStatus.outcome : CancellationStatus → String
  | .killed => "termination_killed"
  | .alreadyExited => "termination_already_exited"
  | .notFound => "termination_not_found"
  | .failed => "termination_failed"
  | .recoveryBlocked => "termination_recovery_blocked"
  | .invalidRequest => "termination_invalid_request"
  | .unknown => "termination_unknown"

/-! ### The uncertain process -/

/-- `complete_recovery` with the retry of the attempt. -/
def completeUncertain (env : ReaperEnv) (k : Candidate) (lease : RecoveryLease)
    (outcome error : String) (p : Pass) : Pass :=
  let (status, retry) := retryAt lease.attemptNumber env.now
  (p.write env (.completeRecovery
    { executionId := k.executionId
      organizationId := k.organizationId
      owner := recoveryOwner
      leaseToken := lease.leaseToken
      workerGeneration := env.workerGeneration
      status := status
      outcome := outcome
      error := some error
      nextRetryAt := retry })).2

/-- The arguments of `claim_recovery`. -/
def recoveryClaim (env : ReaperEnv) (k : Candidate) : ClaimRecoveryArgs where
  executionId := k.executionId
  organizationId := k.organizationId
  owner := recoveryOwner
  workerGeneration := env.workerGeneration
  leaseSeconds := 30
  token := env.token k.executionId

/-- The branch for `LAUNCH_UNCERTAIN` and `RECOVERY_BLOCKED`: only a confirmed result closes the
run. -/
def reapUncertain (env : ReaperEnv) (k : Candidate) (p : Pass) : Pass :=
  if env.cancellationPending k.executionId then p
  else
    match p.write env (.claimRecovery (recoveryClaim env k)) with
    | (some (.recoveryLease (some lease)), p) =>
        match (p.db.executionRun k.executionId k.organizationId).bind
            fun e => loadDurableProcessIdentity env.attestedJob env.now e.fixed e.data with
        | none =>
            completeUncertain env k lease "durable_identity_unavailable"
              "persisted process identity could not be validated; recovery remains fenced" p
        | some identity =>
            match p.cancel env k.executionId (some identity) with
            | (.status s, p) =>
                match s.confirmed with
                | some status =>
                    p.close env (.settleRecovery
                      { executionId := k.executionId
                        organizationId := k.organizationId
                        owner := recoveryOwner
                        leaseToken := lease.leaseToken
                        workerGeneration := env.workerGeneration
                        terminationStatus := status
                        terminalState := .failed
                        reasonCode := .processLaunchUncertain }
                      (env.jobEmpty k.executionId))
                | none =>
                    completeUncertain env k lease s.outcome
                      "termination was not confirmed; automatic recovery remains fenced" p
            | (.timedOut, p) =>
                completeUncertain env k lease "termination_timeout"
                  "identity-bound termination exceeded the recovery timeout; retry remains fenced" p
            | (.raised _, p) => p
    | (_, p) => p

/-! ### The other branches -/

/-- The settlement call of the reaper. -/
def reaperSettlement (env : ReaperEnv) (k : Candidate) (outcome : RunState × ReasonCode)
    (status : TerminationStatus) (identity : IdentityArgs)
    (workerGeneration workerIdentity : Option String) : ExecutionCall :=
  .settleConfirmed
    { executionId := k.executionId
      organizationId := k.organizationId
      terminalState := outcome.1
      reasonCode := outcome.2
      terminationStatus := status
      identity := identity
      workerGeneration := workerGeneration
      workerIdentity := workerIdentity
      identityAttestation := none
      actor := "execution-reaper"
      attemptId := env.token k.executionId }
    (env.jobEmpty k.executionId)

/-- The outcome of an execution that is closed before dispatch. -/
def preDispatchOutcome (k : Candidate) : RunState × ReasonCode :=
  if k.terminalState = .cancelled then (.cancelled, .executionCancelledBeforeDispatch)
  else (.executionBlocked, .executionAuthorityRevokedOrExpired)

/-- `settle-pre-dispatch`.  No worker identity is given. -/
def reapPreDispatch (env : ReaperEnv) (k : Candidate) (workerGeneration : Option String)
    (p : Pass) : Pass :=
  p.close env (reaperSettlement env k (preDispatchOutcome k) .preDispatch ⟨none, none, none, none⟩
    workerGeneration none)

/-- The outcome of an execution that started without a process. -/
def noProcessOutcome (k : Candidate) : Option (RunState × ReasonCode) :=
  match k.terminalState, k.reasonCode with
  | .cancelled, .executionCancelled => some (.cancelled, .executionCancelledBeforeProcessCreation)
  | .executionBlocked, .executionAuthorityRevokedOrExpired =>
      some (.executionBlocked, .executionAuthorityRevokedOrExpired)
  | .timedOut, .executionAuthorityExpired => some (.timedOut, .executionAuthorityExpired)
  | _, _ => none

/-- `settle-no-external-process`.  No worker identity is given. -/
def reapNoProcess (env : ReaperEnv) (k : Candidate) (outcome : RunState × ReasonCode)
    (workerGeneration : Option String) (p : Pass) : Pass :=
  p.close env (reaperSettlement env k outcome .noExternalProcess ⟨none, none, none, none⟩
    workerGeneration none)

/-- The observation the reaper records for the next attempt of a candidate. -/
def reaperObservation (env : ReaperEnv) (k : Candidate) (outcome error : String) :
    RecoveryObservation :=
  let (status, retry) := retryAt (k.attemptNumber + 1) env.now
  { executionId := k.executionId
    organizationId := k.organizationId
    recoveryWorkerIdentity := recoveryOwner
    recoveryWorkerGeneration := env.workerGeneration
    outcome := outcome
    error := error
    nextRetryAt := retry
    exhausted := status = .exhausted }

/-- The arguments of `record-identity-unavailable`. -/
def identityUnavailable (env : ReaperEnv) (k : Candidate) : UnavailableRecoveryArgs where
  observation := reaperObservation env k "identity_unavailable"
    "durable process identity unavailable; execution recovery remains fenced"
  workerIdentity := none
  workerGeneration := some k.runWorkerGeneration

/-- `record-identity-unavailable`. -/
def recordIdentityUnavailable (env : ReaperEnv) (k : Candidate) (p : Pass) : Pass :=
  (p.write env (.recordUnavailable (identityUnavailable env k))).2

/-- `record-governed-timeout` and `record-governed-unconfirmed`; without an identity nothing is
recorded. -/
def recordUnconfirmed (env : ReaperEnv) (k : Candidate) (identity : Option ProcessIdentity)
    (terminationStatus outcome error : String) (p : Pass) : Pass :=
  match identity with
  | some i =>
      (p.write env (.recordUnconfirmed
        { observation := reaperObservation env k outcome error
          identity := i.args
          terminationStatus := terminationStatus })).2
  | none => p

/-- The supervisor's cancellation, and what its reply settles or records. -/
def reapProcess (env : ReaperEnv) (k : Candidate) (identity : Option ProcessIdentity)
    (workerGeneration : Option String) (p : Pass) : Pass :=
  if env.cancellationPending k.executionId then p
  else
    match p.cancel env k.executionId identity with
    | (.timedOut, p) =>
        recordUnconfirmed env k identity "TIMEOUT" "termination_timeout"
          "identity-bound termination exceeded the recovery timeout; automatic recovery remains fenced"
          p
    | (.raised _, p) => p
    | (.status s, p) =>
        match s.confirmed, identity with
        | none, _ =>
            recordUnconfirmed env k identity s.text s.outcome
              "termination was not confirmed; automatic recovery remains fenced" p
        -- `durable_identity.pid` of a missing identity raises.
        | some _, none => p
        | some status, some i =>
            p.close env (reaperSettlement env k (k.terminalState, k.reasonCode) status i.args
              workerGeneration
              ((p.db.executionRun k.executionId k.organizationId).bind (·.data.run.workerIdentity)))

/-- One candidate. -/
def reapCandidate (env : ReaperEnv) (k : Candidate) (p : Pass) : Pass :=
  if needsRecovery k.ownershipState then reapUncertain env k p
  else
    let rows := p.db.executionRun k.executionId k.organizationId
    let workerGeneration := rows.bind (·.data.ownership.workerGeneration)
    let identity := rows.bind fun e =>
      loadDurableProcessIdentity env.attestedJob env.now e.fixed e.data
    if noProcessOwnership k.ownershipState ∧ k.runState = .requested ∧
        k.dispatchState = .pending then
      reapPreDispatch env k workerGeneration p
    else
      let outcome :=
        if k.ownershipState = .noExternalProcess ∧ k.runState = .starting ∧
            (k.dispatchState = .claimed ∨ k.dispatchState = .blocked) then noProcessOutcome k
        else none
      match outcome with
      | some outcome => reapNoProcess env k outcome workerGeneration p
      | none =>
          if identity = none ∧ (k.ownershipState = .unknown ∨
              k.ownershipState = .externalProcessGoverned) then
            recordIdentityUnavailable env k p
          else reapProcess env k identity workerGeneration p

/-- The candidates, in their order. -/
def reapCandidates (env : ReaperEnv) : List Candidate → Pass → Pass
  | [], p => p
  | k :: ks, p => reapCandidates env ks (reapCandidate env k p)

/-- `_reap_execution_authority_once`. -/
def reapExecutionAuthorityOnce (env : ReaperEnv) (db : Db) : Pass :=
  reapCandidates env (listExecutionRecoveryCandidates env.batchSize env.now db) ⟨db, [], 0⟩

end CyberAssess
