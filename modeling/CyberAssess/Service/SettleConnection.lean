import CyberAssess.Database.Statements
import CyberAssess.Service.Settle

/-!
# Service — a settlement in a connection

`settle_execution` of `core/execution_service.py`, on a database that keeps what was written until a
connection commits it or rolls it back.

* `onExecution` runs the statements of a call on the rows its `WHERE` finds.
* `noProcessStep`, `terminalStep`: what `record_no_process` and `record_terminal` answer, or the
  transition they ask for.
* `settleExecutionIn active`: the settlement, alone or inside a connection that is active.  The
  marker `_SettlementRejected` leaves the connection before it is caught.
-/

namespace CyberAssess

open Transaction (connection outcome)
open Python (isBlank)

/-- The tables, and the audit events of their changes, the newest first. -/
structure Ledger where
  db : Db
  changes : List ChangeEvent

/-- The statements of a call, on the rows it addresses. -/
def onExecution (c : ExecutionCall) (body : Authority → Transaction Journal DbError Bool) :
    Transaction Ledger DbError Bool := fun l =>
  match l.db.addressed c with
  | none => (c.missing.map Response.granted, l)
  | some e =>
      let r := outcome (body e.fixed) ⟨e.data, l.changes⟩
      (r.1, ⟨l.db.setRows e r.2.rows, r.2.changes⟩)

/-- `except ValueError: return False`. -/
def exceptValueError (m : Transaction Ledger DbError Bool) : Transaction Ledger DbError Bool :=
  tryCatch m fun
    | .valueError _ => return false
    | e => throw e

/-! ### The ownership part -/

/-- An answer, or a transition to ask for. -/
inductive RecordStep where
  | answered (b : Bool)
  | moves (t : TransitionOwnershipArgs)
deriving DecidableEq, Repr

/-- `record_no_process`, up to its transition. -/
def noProcessStep (k : ExecutionCapability) (c : NoProcessArgs) (now : Instant) (db : Db) :
    RecordStep :=
  match c.reasonCode, k.executionId with
  | some reason, some executionId =>
      if !(reason.isRegistered && c.proofCode = some reason && !executionId.isEmpty &&
          c.stateFits reason) then .answered false
      else
        match durableExecutionEvidence k db with
        | none => .answered false
        | some e =>
            match claimDigests k, proofRecoveryFields e.fixed e.data with
            | some digests, some recovery =>
                let proof := noProcessProof k executionId e.fixed (c.terminal reason) reason now
                  digests recovery
                if !(noProcessDispatch e.data.dispatch.state &&
                    !isBlank e.fixed.run.correlationId && proof.fits) then .answered false
                else
                  .moves
                    { executionId := executionId
                      organizationId := k.organizationId
                      record := noProcessRecord k e.fixed.run.correlationId proof now
                      expectedState := .unknown
                      workerIdentity := some k.workerIdentity }
            | _, _ => .answered false
  | _, _ => .answered false

/-- The first termination, up to its transition. -/
def firstTerminationStep (k : ExecutionCapability) (executionId : String) (c : TerminalArgs)
    (jobEmpty : Bool) (now : Instant) (db : Db) (existing : Execution) : RecordStep :=
  let p := existing.data.ownership
  let status := c.terminationStatus.getD .alreadyExited
  if !(isFinishState c.terminalState &&
      isValidExecutionTerminalOutcome c.terminalState c.reasonCode && status.isProcess) then
    .answered false
  else if !(if p.containerType = .windowsJob then
      terminalWindowsGiven p existing.fixed k.workerIdentity jobEmpty now c.identity
    else terminalPosixIdentity p && terminalPosixGiven p c.identity) then .answered false
  else
    match durableExecutionEvidence k db with
    | none => .answered false
    | some e =>
        match claimDigests k, proofRecoveryFields e.fixed e.data with
        | some digests, some recovery =>
            let proof := terminalProof k executionId e.fixed existing.data c status now digests
              recovery
            if isBlank e.fixed.run.correlationId || !proof.fits then .answered false
            else
              .moves
                { executionId := executionId
                  organizationId := k.organizationId
                  record := terminalRecord p e.fixed.run.correlationId proof now
                  expectedState := p.ownershipState
                  workerIdentity := some k.workerIdentity }
        | _, _ => .answered false

/-- `record_terminal`, up to its transition. -/
def terminalStep (k : ExecutionCapability) (c : TerminalArgs) (jobEmpty : Bool) (now : Instant)
    (db : Db) : RecordStep :=
  match k.executionId with
  | none => .answered false
  | some executionId =>
      if executionId.isEmpty then .answered false
      else
        match db.executionRun executionId k.organizationId with
        | none => .answered false
        | some existing =>
            match existing.data.ownership.ownershipState with
            | .terminal => .answered (repeatsTermination k executionId c now db existing)
            | .externalProcessGoverned =>
                firstTerminationStep k executionId c jobEmpty now db existing
            | _ => .answered false

/-- `database.transition_process_ownership`. -/
def transitionIn (active : Bool) (reasonCode : Option ReasonCode) (t : TransitionOwnershipArgs) :
    Transaction Ledger DbError Bool :=
  onExecution (.transitionOwnership t) fun a =>
    transitionProcessOwnershipIn active t ((reasonCode.map (·.text)).getD "null") a

/-- `record_no_process`. -/
def recordNoProcessIn (active : Bool) (k : ExecutionCapability) (c : NoProcessArgs) (now : Instant) :
    Transaction Ledger DbError Bool := fun l =>
  match noProcessStep k c now l.db with
  | .answered b => (.ok b, l)
  | .moves t => outcome (exceptValueError (transitionIn active c.reasonCode t)) l

/-- `record_terminal`. -/
def recordTerminalIn (active : Bool) (k : ExecutionCapability) (c : TerminalArgs) (jobEmpty : Bool)
    (now : Instant) : Transaction Ledger DbError Bool := fun l =>
  match terminalStep k c jobEmpty now l.db with
  | .answered b => (.ok b, l)
  | .moves t => outcome (transitionIn active c.reasonCode t) l

/-- The ownership part of a settlement. -/
def ownershipPartIn (active : Bool) (k : ExecutionCapability) (c : SettleArgs) (jobEmpty : Bool)
    (now : Instant) : Transaction Ledger DbError Bool :=
  if c.identity.processId.isNone then
    recordNoProcessIn active k
      ⟨c.reasonCode, c.reasonCode, some c.terminalState,
        some (expectedTerminalDispatch c.terminalState)⟩ now
  else
    recordTerminalIn active k ⟨c.terminalState, c.reasonCode, c.identity, c.status⟩ jobEmpty now

/-! ### The run part -/

/-- The arguments of `abort_execution_start`. -/
def SettleArgs.abort (c : SettleArgs) (k : ExecutionCapability) : AbortStartArgs where
  decisionId := k.decisionId
  organizationId := k.organizationId
  workerIdentity := k.workerIdentity
  decisionClaimToken := k.claimToken.getD ""
  dispatchClaimToken := k.dispatchClaimToken.getD ""
  terminalState := c.terminalState
  reasonCode := c.reasonCode.getD (.other "")
  processId := none
  processGroupId := none

/-- The arguments of `finish_execution`. -/
def SettleArgs.finish (c : SettleArgs) (k : ExecutionCapability) : FinishArgs where
  executionId := k.executionId.getD ""
  organizationId := k.organizationId
  workerIdentity := k.workerIdentity
  dispatchClaimToken := k.dispatchClaimToken.getD ""
  terminalState := c.terminalState
  reasonCode := c.reasonCode
  processId := c.identity.processId
  processGroupId := c.identity.processGroupId

/-- The run part of a settlement. -/
def runPartIn (active : Bool) (k : ExecutionCapability) (c : SettleArgs) (now : Instant) :
    Transaction Ledger DbError Bool := fun l =>
  if c.identity.processId.isNone then
    outcome (onExecution (.abortStart (c.abort k)) (abortExecutionStartIn active (c.abort k) now)) l
  else
    outcome (onExecution (.finish (c.finish k))
      (finishExecutionIn active (c.finish k) l.db.revokedTokens now)) l

/-! ### Both together, and the fallback -/

/-- An error of the database inside the settlement. -/
def raising (m : Transaction Ledger DbError Bool) : Transaction Ledger SettlementFailure Bool := fun l =>
  match outcome m l with
  | (.ok b, l') => (.ok b, l')
  | (.error e, l') => (.error (.raised e), l')

/-- The block in which `_ACTIVE_DATABASE_CONNECTION` is set. -/
def settleBlock (k : ExecutionCapability) (c : SettleArgs) (jobEmpty : Bool) (now : Instant) :
    Transaction Ledger SettlementFailure PUnit := do
  let recorded ← raising (ownershipPartIn true k c jobEmpty now)
  if !recorded then throw .rejected
  else do
    let settled ← raising (runPartIn true k c now)
    if !settled then throw .rejected else return ⟨⟩

/-- The arguments of the fallback. -/
def SettleArgs.confirmed (c : SettleArgs) (k : ExecutionCapability) (status : TerminationStatus)
    (attestation : Option Attestation) (identity : IdentityArgs) (attemptId : String) :
    SettleConfirmedArgs where
  executionId := k.executionId.getD ""
  organizationId := k.organizationId
  terminalState := c.terminalState
  reasonCode := c.reasonCode.getD (.other "")
  terminationStatus := status
  identity := identity
  workerGeneration := some k.workerGeneration
  workerIdentity := some k.workerIdentity
  identityAttestation := attestation
  actor := "process-supervisor"
  attemptId := attemptId

/-- The fallback a rejected settlement takes, if any. -/
def revokedSettlement (k : ExecutionCapability) (c : SettleArgs) (attemptId : String) (db : Db) :
    Option SettleConfirmedArgs :=
  if c.reasonCode = some .executionCancelled && c.identity.processId.isSome then
    match c.status.filter TerminationStatus.isProcess,
        db.executionRun (k.executionId.getD "") k.organizationId with
    | some status, some existing =>
        some (c.confirmed k status existing.data.ownership.identityAttestation c.identity attemptId)
    | _, _ => none
  else if c.reasonCode = some .executionCancelledBeforeProcessCreation &&
      c.identity.processId.isNone then
    some (c.confirmed k .noExternalProcess none ⟨none, none, none, none⟩ attemptId)
  else none

/-- The fallback, after the marker has left the connection. -/
def settleRevokedIn (active : Bool) (k : ExecutionCapability) (c : SettleArgs) (jobEmpty : Bool)
    (attemptId : String) (now : Instant) : Transaction Ledger DbError Bool := fun l =>
  match revokedSettlement k c attemptId l.db with
  | none => (.ok false, l)
  | some s =>
      outcome (onExecution (.settleConfirmed s jobEmpty)
        (settleExecutionAfterConfirmedTerminationIn active s l.db.revokedTokens jobEmpty now)) l

/-- `settle_execution`. -/
def settleExecutionIn (active : Bool) (k : ExecutionCapability) (c : SettleArgs) (jobEmpty : Bool)
    (attemptId : String) (now : Instant) : Transaction Ledger DbError Bool := fun l =>
  if absent k.executionId || absent k.dispatchClaimToken then (.ok false, l)
  else
    match outcome (connection active (settleBlock k c jobEmpty now)) l with
    | (.ok _, l') => (.ok true, l')
    | (.error (.raised e), l') => (.error e, l')
    | (.error .rejected, l') => outcome (settleRevokedIn active k c jobEmpty attemptId now) l'

end CyberAssess
