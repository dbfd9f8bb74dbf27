import CyberAssess.Service.Identity

/-!
# Service — the cancellation coordinator

`ExecutionCancellationCoordinator.cancel_request` of `core/execution_service.py`: revoke first, then
end the process, then settle.

* `cancelRequest` is the whole call, `afterRevocation` what follows a revocation that committed.
* `settlePreDispatch`, `settleNoProcess`: the two settlements without a process.
* `cancelProcess`: the supervisor's cancellation by the persisted identity.
* `CancellationOutcome.confirmed`: what the callers may report as cancelled.

`[about ours]`: the database and the clock do not move between the calls of one cancellation.
-/

namespace CyberAssess

open Python (isBlank)

/-- What the coordinator does not decide itself. -/
structure CancellationEnv where
  now : Instant
  taskStopped : Bool
  attestedJob : WindowsAttestation → Bool
  jobEmpty : Bool
  cancelExecution : String → Option ProcessIdentity → SupervisorReply
  attemptId : String

/-- `ExecutionCancellationOutcome`. -/
structure CancellationOutcome where
  executionId : Option String
  requestId : String
  authorityRevoked : Bool
  processStatus : String
  processConfirmed : Bool
  durableTerminal : Bool
  taskStopped : Bool
  reasonCode : Option ReasonCode
  errorCode : Option String
deriving DecidableEq, Repr

/-- `ExecutionCancellationOutcome.confirmed`. -/
def CancellationOutcome.confirmed (o : CancellationOutcome) : Bool :=
  o.taskStopped && o.durableTerminal &&
    (o.processConfirmed || o.reasonCode = some .executionCancelledBeforeDispatch ||
      o.reasonCode = some .executionCancelledBeforeProcessCreation || o.executionId.isNone)

/-- `recovery_required` of `_outcome`. -/
def CancellationOutcome.recoveryRequired (o : CancellationOutcome) : Bool := !o.confirmed

/-- `type(exc).__name__`. -/
def DbError.typeName : DbError → String
  | .valueError _ => "ValueError"
  | .runtimeError _ => "RuntimeError"
  | .integrityError _ => "IntegrityError"

/-- An outcome that ended before anything was confirmed. -/
def failedOutcome (executionId : Option String) (requestId processStatus errorCode : String) :
    CancellationOutcome where
  executionId := executionId
  requestId := requestId
  authorityRevoked := false
  processStatus := processStatus
  processConfirmed := false
  durableTerminal := false
  taskStopped := false
  reasonCode := none
  errorCode := some errorCode

/-- The settlement call of the coordinator. -/
def coordinatorSettlement (env : CancellationEnv) (executionId organizationId : String)
    (reason : ReasonCode) (status : TerminationStatus) (identity : IdentityArgs)
    (workerGeneration workerIdentity : Option String) : ExecutionCall :=
  .settleConfirmed
    { executionId := executionId
      organizationId := organizationId
      terminalState := .cancelled
      reasonCode := reason
      terminationStatus := status
      identity := identity
      workerGeneration := workerGeneration
      workerIdentity := workerIdentity
      identityAttestation := none
      actor := "execution-cancellation-coordinator"
      attemptId := env.attemptId }
    env.jobEmpty

/-- No identity argument. -/
def noIdentity : IdentityArgs := ⟨none, none, none, none⟩

/-- What `revoke_execution_request` closed before dispatch is settled as `PRE_DISPATCH`.  No
worker identity is given. -/
def settlePreDispatch (env : CancellationEnv) (requestId organizationId : String) (e : Execution)
    (db : Db) : Except DbError (CancellationOutcome × Db) := do
  let (settled, db) ← db.execute
    (coordinatorSettlement env e.fixed.run.executionId organizationId
      .executionCancelledBeforeDispatch .preDispatch noIdentity (some e.fixed.run.workerGeneration)
      none)
    env.now
  .ok
    ({ executionId := some e.fixed.run.executionId
       requestId := requestId
       authorityRevoked := true
       processStatus := "NOT_FOUND"
       processConfirmed := false
       durableTerminal := settled.granted
       taskStopped := env.taskStopped
       reasonCode := some .executionCancelledBeforeDispatch
       errorCode := none }, db)

/-- A run that started without a process is settled as `NO_EXTERNAL_PROCESS`.  No worker identity
is given. -/
def settleNoProcess (env : CancellationEnv) (requestId organizationId : String) (e : Execution)
    (db : Db) : Except DbError (CancellationOutcome × Db) := do
  let (settled, db) ← db.execute
    (coordinatorSettlement env e.fixed.run.executionId organizationId
      .executionCancelledBeforeProcessCreation .noExternalProcess noIdentity
      e.data.ownership.workerGeneration none)
    env.now
  let durable := settled.granted
  .ok
    ({ executionId := some e.fixed.run.executionId
       requestId := requestId
       authorityRevoked := true
       processStatus := if durable then "NO_EXTERNAL_PROCESS" else "FAILED"
       processConfirmed := false
       durableTerminal := durable
       taskStopped := env.taskStopped
       reasonCode := if durable then some .executionCancelledBeforeProcessCreation else none
       errorCode := if durable then none else some "EXECUTION_NO_PROCESS_SETTLEMENT_FAILED" }, db)

/-- The status and the error a reply becomes. -/
def SupervisorReply.processStatus : SupervisorReply → String
  | .status s => s.text
  | .timedOut | .raised _ => "FAILED"

/-- The error code of a call that raised. -/
def SupervisorReply.error : SupervisorReply → Option String
  | .status _ => none
  | .timedOut => some "TimeoutError"
  | .raised e => some e

/-- A status that confirms the termination. -/
def SupervisorReply.confirmed : SupervisorReply → Option TerminationStatus
  | .status s => s.confirmed
  | .timedOut | .raised _ => none

/-- The supervisor is called by the persisted identity, and a confirmed termination settled with
the worker the run names. -/
def cancelProcess (env : CancellationEnv) (requestId organizationId : String) (e : Execution)
    (identity : Option ProcessIdentity) (db : Db) : Except DbError (CancellationOutcome × Db) := do
  let executionId := e.fixed.run.executionId
  let reply := env.cancelExecution executionId identity
  let (settled, errorCode, db) ←
    match reply.confirmed, identity with
    | some status, some i => do
        let (r, db) ← db.execute
          (coordinatorSettlement env executionId organizationId .executionCancelled status i.args
            e.data.ownership.workerGeneration e.data.run.workerIdentity)
          env.now
        pure (r.granted,
          if r.granted then reply.error
          else reply.error.or (some "CONFIRMED_TERMINATION_SETTLEMENT_FAILED"), db)
    | some _, none =>
        pure (false, reply.error.or (some "DURABLE_PROCESS_IDENTITY_REQUIRED_FOR_SETTLEMENT"), db)
    | none, _ => pure (false, reply.error, db)
  let stored := ((db.executionRun executionId organizationId).bind (·.data.run.reasonCode)).filter
    (· ≠ .other "")
  .ok
    ({ executionId := some executionId
       requestId := requestId
       authorityRevoked := true
       processStatus := reply.processStatus
       processConfirmed := reply.confirmed.isSome
       durableTerminal := settled
       taskStopped := env.taskStopped
       reasonCode := stored.or (if settled then some .executionCancelled else none)
       errorCode := errorCode }, db)

/-- What follows a revocation that committed, by the run it left. -/
def afterRevocation (env : CancellationEnv) (requestId organizationId : String) (e : Execution)
    (db : Db) : Except DbError (CancellationOutcome × Db) :=
  if e.data.run.state = .cancelled ∧
      e.data.run.reasonCode = some .executionCancelledBeforeDispatch then
    settlePreDispatch env requestId organizationId e db
  else if e.data.ownership.ownershipState = .noExternalProcess ∧ e.data.run.state = .starting then
    settleNoProcess env requestId organizationId e db
  else
    let identity := loadDurableProcessIdentity env.attestedJob env.now e.fixed e.data
    let required := e.data.run.state = .starting ∨ e.data.run.state = .running ∨
      bearsProcess e.data.ownership.ownershipState = true
    if required ∧ identity = none then
      .ok
        ({ executionId := some e.fixed.run.executionId
           requestId := requestId
           authorityRevoked := true
           processStatus := "IDENTITY_UNAVAILABLE"
           processConfirmed := false
           durableTerminal := false
           taskStopped := env.taskStopped
           reasonCode := none
           errorCode := some "DURABLE_PROCESS_IDENTITY_UNAVAILABLE" }, db)
    else cancelProcess env requestId organizationId e identity db

/-- A request without a run is only revoked. -/
def cancelWithoutRun (env : CancellationEnv) (c : RevokeRequestArgs) (db : Db) :
    CancellationOutcome × Db :=
  match db.execute (.revokeRequest c) env.now with
  | .error x => (failedOutcome none c.requestId "FAILED" x.typeName, db)
  | .ok (r, db) =>
      ({ executionId := none
         requestId := c.requestId
         authorityRevoked := r.granted
         processStatus := if r.granted then "NOT_FOUND" else "FAILED"
         processConfirmed := false
         durableTerminal := r.granted
         taskStopped := env.taskStopped
         reasonCode := if r.granted then some .executionCancelledBeforeDispatch else none
         errorCode := if r.granted then none else some "EXECUTION_REQUEST_NOT_FOUND" }, db)

/-- A run that has ended is only revoked. -/
def cancelEnded (env : CancellationEnv) (c : RevokeRequestArgs) (e : Execution) (db : Db) :
    CancellationOutcome × Db :=
  let ended : CancellationOutcome :=
    { executionId := some e.fixed.run.executionId
      requestId := c.requestId
      authorityRevoked := false
      processStatus := "FAILED"
      processConfirmed := false
      durableTerminal := true
      taskStopped := false
      reasonCode := e.data.run.reasonCode
      errorCode := none }
  match db.execute (.revokeRequest c) env.now with
  | .error x => ({ ended with errorCode := some x.typeName }, db)
  | .ok (r, db) =>
      ({ ended with
         authorityRevoked := r.granted
         processStatus := if r.granted then "ALREADY_EXITED" else "FAILED"
         processConfirmed := r.granted
         taskStopped := env.taskStopped
         errorCode := if r.granted then none else some "EXECUTION_AUTHORITY_NOT_REVOKED" }, db)

/-- A run that has not ended is revoked, and then ended. -/
def cancelActive (env : CancellationEnv) (c : RevokeRequestArgs) (e : Execution) (db : Db) :
    Except DbError (CancellationOutcome × Db) :=
  let executionId := e.fixed.run.executionId
  match db.execute (.revokeRequest c) env.now with
  | .error x => .ok (failedOutcome (some executionId) c.requestId "FAILED" x.typeName, db)
  | .ok (r, db) =>
      if !r.granted then
        .ok (failedOutcome (some executionId) c.requestId "FAILED"
          "EXECUTION_AUTHORITY_NOT_REVOKED", db)
      else
        match db.executionRun executionId c.organizationId with
        | none =>
            cancelProcess env c.requestId c.organizationId e none db
        | some e => afterRevocation env c.requestId c.organizationId e db

/-- `cancel_request`. -/
def cancelRequest (env : CancellationEnv) (c : RevokeRequestArgs) (db : Db) :
    Except DbError (CancellationOutcome × Db) :=
  if isBlank c.requestId || isBlank c.organizationId || isBlank c.actor then
    .ok (failedOutcome none c.requestId "INVALID_REQUEST" "INVALID_CANCELLATION_REQUEST", db)
  else
    match db.executionRunForRequest c.requestId c.organizationId with
    | none => .ok (cancelWithoutRun env c db)
    | some e =>
        if e.fixed.run.executionId.isEmpty then
          .ok (failedOutcome none c.requestId "FAILED" "EXECUTION_IDENTITY_MISSING", db)
        else if e.data.run.state.isTerminal then .ok (cancelEnded env c e db)
        else cancelActive env c e db

end CyberAssess
