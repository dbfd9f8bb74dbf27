import CyberAssess.Service.Identity

/-!
# Service — settlement by the launching worker

`settle_execution` of `core/execution_service.py`, with which a worker that holds the claims of an
execution closes it: first the proof on the ownership row, then the run.

* `recordNoProcess`, `recordTerminal`: the two proofs, one without a process, one with.
* `settleInTransaction`: proof and run together, or neither.
* `settleExecution`: a rejected settlement of a cancellation is tried again by
  `settle_execution_after_confirmed_termination`, which a revoked authority needs.
* `ExecutionCapability.finish` is what the capability offers of it.

`[about ours]`: the clock is read once for each call.  A session or group column that is not
written in plain digits is taken as unreadable.
-/

namespace CyberAssess

open Python (isBlank natOfDigits nonBlankUpTo)

/-- `_expected_terminal_dispatch`. -/
def expectedTerminalDispatch : RunState → DispatchState
  | .succeeded | .partialResultsWithWarning => .completed
  | .cancelled | .executionBlocked => .blocked
  | _ => .failed

/-- `reason_code in EXECUTION_REASON_CODES`. -/
def ReasonCode.isRegistered : ReasonCode → Bool
  | .other _ => false
  | _ => true

/-- What settlement reads of an `ExecutionDecisionCapability`. -/
structure ExecutionCapability where
  decisionId : String
  organizationId : String
  workerIdentity : String
  workerGeneration : String
  executionId : Option String
  claimToken : Option String
  dispatchClaimToken : Option String
deriving DecidableEq, Repr

/-- `not value`, of an optional text. -/
def absent (s : Option String) : Bool := s.all String.isEmpty

/-- `_durable_execution_evidence`. -/
def durableExecutionEvidence (k : ExecutionCapability) (db : Db) : Option Execution :=
  match k.executionId with
  | none => none
  | some executionId =>
      if isBlank executionId || isBlank k.organizationId then none
      else (db.executionRun executionId k.organizationId).filter fun e =>
        e.data.run.workerIdentity = some k.workerIdentity &&
          e.fixed.run.workerGeneration = k.workerGeneration &&
          e.fixed.run.approvedDecisionId = k.decisionId

/-- `execution_claim_digest`, of a token that has a digest. -/
def executionClaimDigest (token : String) : Option ClaimDigest :=
  if nonBlankUpTo 512 token then some ⟨token⟩ else none

/-- `_claim_digests`: of the decision, and of the dispatch. -/
def claimDigests (k : ExecutionCapability) : Option (ClaimDigest × ClaimDigest) :=
  match k.claimToken.bind executionClaimDigest, k.dispatchClaimToken.bind executionClaimDigest with
  | some decision, some dispatch => some (decision, dispatch)
  | _, _ => none

/-! ### The recovery fields of a proof -/

/-- `recovery_status`, `recovery_attempt_number` and `recovery_attempt_id`. -/
structure ProofRecovery where
  status : RecoveryStatus
  attemptNumber : Nat
  attemptId : Option String
deriving DecidableEq, Repr

/-- `{"CONFIRMED", "KILLED", "ALREADY_EXITED", "NO_EXTERNAL_PROCESS", "PRE_DISPATCH"}`. -/
def confirmedCancellationStatuses : List String :=
  ["CONFIRMED", "KILLED", "ALREADY_EXITED", "NO_EXTERNAL_PROCESS", "PRE_DISPATCH"]

/-- The three stamps are there, in order. -/
def RecoveryAttempt.ordered (t : RecoveryAttempt) : Bool :=
  t.startedAt.any fun s => t.requestedAt ≤ s && t.completedAt.any (s ≤ ·)

/-- The texts of an attempt that may not be blank. -/
def RecoveryAttempt.named (t : RecoveryAttempt) : Bool :=
  !isBlank t.attemptId && !isBlank t.workerIdentity && !isBlank t.reasonCode &&
    !isBlank t.correlationId

/-- What `_proof_recovery_fields` asks of a confirmed attempt. -/
def confirmedAttemptBound (a : Authority) (x : Rows) (t : RecoveryAttempt) : Bool :=
  t.named && t.ordered && some t.workerIdentity = x.run.workerIdentity &&
    t.workerGeneration = a.run.workerGeneration &&
    t.attemptNumber = x.recovery.attemptNumber && t.correlationId = a.run.correlationId &&
    some t.reasonCode = x.run.reasonCode.map (·.text) &&
    t.cancellationStatus.any (· ∈ confirmedCancellationStatuses) && t.errorCode.isNone &&
    t.nextRetryAt.isNone && t.escalationLevel = x.recovery.escalationLevel

/-- The recovery row has no lease and no error. -/
def RecoveryRow.quiet (s : RecoveryRow) : Bool :=
  s.lastError.isNone && s.owner.isNone && s.leaseToken.isNone && s.leaseExpiresAt.isNone &&
    s.nextRetryAt.isNone

/-- `last_outcome` is a text that is not blank. -/
def outcomeGiven : Option ProofText → Bool
  | some (.envelope _) => true
  | some (.text s) => !isBlank s
  | none => false

/-- `_proof_recovery_fields`. -/
def proofRecoveryFields (a : Authority) (x : Rows) : Option ProofRecovery :=
  if !x.recovery.quiet then none
  else
    match x.recovery.status, confirmedAttempt x with
    | .requested, none =>
        if x.recovery.attemptNumber = 0 && x.recovery.lastOutcome.isNone &&
            x.recovery.escalationLevel = 0 then some ⟨.requested, 0, none⟩
        else none
    | .confirmedTerminated, some t =>
        if 1 ≤ x.recovery.attemptNumber && outcomeGiven x.recovery.lastOutcome &&
            confirmedAttemptBound a x t then
          some ⟨.confirmedTerminated, x.recovery.attemptNumber, some t.attemptId⟩
        else none
    | _, _ => none

/-! ### Proofs -/

/-- The keys the two proofs of a worker share. -/
def workerProof (k : ExecutionCapability) (executionId : String) (a : Authority)
    (terminalState : RunState) (reasonCode : Option ReasonCode) (now : Instant)
    (digests : ClaimDigest × ClaimDigest) (recovery : ProofRecovery)
    (ownershipState : OwnershipState) (containerType : ContainerType)
    (launchCommitState : LaunchCommitState) (detail : ProofDetail) : ExecutionProof where
  executionId := executionId
  organizationId := k.organizationId
  requestId := a.run.requestId
  decisionId := k.decisionId
  terminalState := terminalState
  dispatchState := expectedTerminalDispatch terminalState
  ownershipState := ownershipState
  containerType := containerType
  launchCommitState := launchCommitState
  workerIdentity := k.workerIdentity
  workerGeneration := k.workerGeneration
  correlationId := a.run.correlationId
  claimIdentityDigest := some digests.1
  dispatchIdentityDigest := some digests.2
  reasonCode := reasonCode
  observedAt := now
  recoveryStatus := recovery.status
  recoveryAttemptNumber := recovery.attemptNumber
  recoveryAttemptId := recovery.attemptId
  detail := detail

/-- `except ValueError: return False`; any other error goes on. -/
def catchValueError (db : Db) : Except DbError (Response × Db) → Except DbError (Bool × Db)
  | .ok (r, db') => .ok (r.granted, db')
  | .error (.valueError _) => .ok (false, db)
  | .error e => .error e

/-! ### No process -/

/-- The arguments of `record_no_process`. -/
structure NoProcessArgs where
  proofCode : Option ReasonCode
  reasonCode : Option ReasonCode
  terminalState : Option RunState
  dispatchState : Option DispatchState
deriving DecidableEq, Repr

/-- `terminal_state`, or the one the reason stands for. -/
def NoProcessArgs.terminal (c : NoProcessArgs) (reason : ReasonCode) : RunState :=
  c.terminalState.getD
    (if reason.text.startsWith "EXECUTION_CANCELLED" then .cancelled else .executionBlocked)

/-- `{"CANCELLED", "EXECUTION_BLOCKED", "FAILED", "TIMED_OUT"}` with its dispatch state. -/
def NoProcessArgs.stateFits (c : NoProcessArgs) (reason : ReasonCode) : Bool :=
  isSafeState (c.terminal reason) &&
    c.dispatchState.all (· = expectedTerminalDispatch (c.terminal reason))

/-- `{"CLAIMED", "PENDING", "BLOCKED"}`. -/
def noProcessDispatch : DispatchState → Bool
  | .claimed | .pending | .blocked => true
  | _ => false

/-- The ownership record of a run without a process. -/
def noProcessRecord (k : ExecutionCapability) (correlationId : String) (proof : ExecutionProof)
    (now : Instant) : OwnershipRecord where
  ownershipState := .noExternalProcess
  containerType := .none
  containerIdentity := none
  rootProcessId := none
  rootProcessStartToken := none
  processGroupId := none
  sessionId := none
  workerGeneration := some k.workerGeneration
  launchCommitState := .notAttempted
  noProcessProof := some (.envelope proof)
  identityAttestation := none
  correlationId := correlationId
  launchedAt := none
  lastVerifiedAt := some now
  terminalizedAt := none
  updatedAt := now

/-- The proof of `record_no_process`. -/
def noProcessProof (k : ExecutionCapability) (executionId : String) (a : Authority)
    (terminalState : RunState) (reason : ReasonCode) (now : Instant)
    (digests : ClaimDigest × ClaimDigest) (recovery : ProofRecovery) : ExecutionProof :=
  workerProof k executionId a terminalState (some reason) now digests recovery
    .noExternalProcess .none .notAttempted (.noExternalProcess reason)

/-- `record_no_process`. -/
def recordNoProcess (k : ExecutionCapability) (c : NoProcessArgs) (now : Instant) (db : Db) :
    Except DbError (Bool × Db) :=
  match c.reasonCode, k.executionId with
  | some reason, some executionId =>
      if !(reason.isRegistered && c.proofCode = some reason && !executionId.isEmpty &&
          c.stateFits reason) then .ok (false, db)
      else
        match durableExecutionEvidence k db with
        | none => .ok (false, db)
        | some e =>
            match claimDigests k, proofRecoveryFields e.fixed e.data with
            | some digests, some recovery =>
                let proof := noProcessProof k executionId e.fixed (c.terminal reason) reason now
                  digests recovery
                if !(noProcessDispatch e.data.dispatch.state &&
                    !isBlank e.fixed.run.correlationId && proof.fits) then .ok (false, db)
                else
                  catchValueError db (db.execute
                    (.transitionOwnership
                      { executionId := executionId
                        organizationId := k.organizationId
                        record := noProcessRecord k e.fixed.run.correlationId proof now
                        expectedState := .unknown
                        workerIdentity := some k.workerIdentity })
                    now)
            | _, _ => .ok (false, db)
  | _, _ => .ok (false, db)

/-! ### A process that has ended -/

/-- The arguments of `record_terminal`. -/
structure TerminalArgs where
  terminalState : RunState
  reasonCode : Option ReasonCode
  identity : IdentityArgs
  terminationStatus : Option TerminationStatus
deriving DecidableEq, Repr

/-- The identity checks of `record_terminal` on a POSIX row; the container type and the member
snapshot are not read. -/
def terminalPosixIdentity (p : OwnershipRow) : Bool :=
  match p.identityAttestation, p.rootProcessStartToken, p.processGroupId.bind natOfDigits,
      p.sessionId.bind natOfDigits with
  | some ⟨_, .posix att⟩, some token, some group, some session =>
      p.rootProcessId.any (1 < ·) && 1 < group && (posixStartToken token).any fun t =>
        bootIdShape t.1 && 0 < t.2 &&
          posixAttestationBound p att (p.workerGeneration.getD "") t.1 t.2 group session
  | _, _, _, _ => false

/-- The identity a POSIX worker has to give. -/
def terminalPosixGiven (p : OwnershipRow) (i : IdentityArgs) : Bool :=
  i.processId.any (1 < ·) && (i.processGroupId.bind natOfDigits).any (1 < ·) &&
    i.processStartToken.any (!isBlank ·) && i.sessionId.any (0 ≤ ·) &&
    p.rootProcessId = i.processId && p.processGroupId = i.processGroupId &&
    (p.sessionId.bind natOfDigits).map Int.ofNat = i.sessionId &&
    p.rootProcessStartToken = i.processStartToken

/-- The Windows row, whose job the kernel reports empty, and the identity given for it. -/
def terminalWindowsGiven (p : OwnershipRow) (a : Authority) (workerIdentity : String)
    (jobEmpty : Bool) (now : Instant) (i : IdentityArgs) : Bool :=
  windowsOwnershipValid p a workerIdentity false now && jobEmpty &&
    p.rootProcessId = i.processId && i.processGroupId.isNone && i.sessionId.isNone &&
    p.rootProcessStartToken = i.processStartToken

/-- The ownership row of a process that has ended. -/
def terminalRecord (p : OwnershipRow) (correlationId : String) (proof : ExecutionProof)
    (now : Instant) : OwnershipRecord where
  ownershipState := .terminal
  containerType := p.containerType
  containerIdentity := p.containerIdentity
  rootProcessId := p.rootProcessId
  rootProcessStartToken := p.rootProcessStartToken
  processGroupId := p.processGroupId
  sessionId := p.sessionId
  workerGeneration := p.workerGeneration
  launchCommitState := p.launchCommitState
  noProcessProof := some (.envelope proof)
  identityAttestation := p.identityAttestation
  correlationId := correlationId
  launchedAt := p.launchedAt
  lastVerifiedAt := p.lastVerifiedAt
  terminalizedAt := some now
  updatedAt := now

/-- The proof of `record_terminal`. -/
def terminalProof (k : ExecutionCapability) (executionId : String) (a : Authority) (x : Rows)
    (c : TerminalArgs) (status : TerminationStatus) (now : Instant)
    (digests : ClaimDigest × ClaimDigest) (recovery : ProofRecovery) : ExecutionProof :=
  workerProof k executionId a c.terminalState c.reasonCode now digests recovery .terminal
    x.ownership.containerType x.ownership.launchCommitState
    (.terminationConfirmed (terminationEvidence x.ownership status))

/-- The first termination, of a row that governs a process. -/
def recordFirstTermination (k : ExecutionCapability) (executionId : String) (c : TerminalArgs)
    (jobEmpty : Bool) (now : Instant) (db : Db) (existing : Execution) :
    Except DbError (Bool × Db) :=
  let p := existing.data.ownership
  let status := c.terminationStatus.getD .alreadyExited
  if !(isFinishState c.terminalState &&
      isValidExecutionTerminalOutcome c.terminalState c.reasonCode && status.isProcess) then
    .ok (false, db)
  else if !(if p.containerType = .windowsJob then
      terminalWindowsGiven p existing.fixed k.workerIdentity jobEmpty now c.identity
    else terminalPosixIdentity p && terminalPosixGiven p c.identity) then .ok (false, db)
  else
    match durableExecutionEvidence k db with
    | none => .ok (false, db)
    | some e =>
        match claimDigests k, proofRecoveryFields e.fixed e.data with
        | some digests, some recovery =>
            let proof := terminalProof k executionId e.fixed existing.data c status now digests
              recovery
            if isBlank e.fixed.run.correlationId || !proof.fits then .ok (false, db)
            else
              (db.execute
                (.transitionOwnership
                  { executionId := executionId
                    organizationId := k.organizationId
                    record := terminalRecord p e.fixed.run.correlationId proof now
                    expectedState := p.ownershipState
                    workerIdentity := some k.workerIdentity })
                now).map fun r => (r.1.granted, r.2)
        | _, _ => .ok (false, db)

/-- The identity a repeated termination has to give. -/
def repeatedIdentityGiven (p : OwnershipRow) (i : IdentityArgs) : Bool :=
  i.processId.any (1 < ·) && i.processStartToken.any (!isBlank ·) &&
    if p.containerType = .windowsJob then i.processGroupId.isNone && i.sessionId.isNone
    else (i.processGroupId.bind natOfDigits).any (1 < ·) && i.sessionId.any (0 ≤ ·)

/-- The stored proof is the one this worker would write of the row. -/
def repeatedProofBound (k : ExecutionCapability) (executionId : String) (c : TerminalArgs)
    (a : Authority) (x : Rows) (proof : ExecutionProof) (digests : ClaimDigest × ClaimDigest)
    (recovery : ProofRecovery) (status : TerminationStatus) : Bool :=
  { proof with observedAt := 0 } = terminalProof k executionId a x c status 0 digests recovery &&
    c.identity.processId = some ((x.ownership.rootProcessId).getD 0) &&
    c.identity.processGroupId = x.ownership.processGroupId &&
    c.identity.processStartToken = x.ownership.rootProcessStartToken &&
    c.identity.sessionId = (x.ownership.sessionId.bind natOfDigits).map Int.ofNat &&
    x.ownership.terminalizedAt = some proof.observedAt && x.ownership.rootProcessId.isSome

/-- A repeated termination, of a row that is `TERMINAL`: nothing is written. -/
def repeatsTermination (k : ExecutionCapability) (executionId : String) (c : TerminalArgs)
    (now : Instant) (db : Db) (existing : Execution) : Bool :=
  let p := existing.data.ownership
  (c.terminalState = .failed || c.terminalState = .timedOut || c.terminalState = .cancelled) &&
    isValidExecutionTerminalOutcome c.terminalState c.reasonCode &&
    repeatedIdentityGiven p c.identity &&
    match p.noProcessProof, c.terminationStatus, durableExecutionEvidence k db, claimDigests k with
    | some (.envelope proof), some status, some e, some digests =>
        status.isProcess && correlationBound e.fixed &&
          (proofRecoveryFields e.fixed e.data).any (fun recovery =>
            repeatedProofBound k executionId c e.fixed existing.data proof digests recovery status &&
              (recovery.status ≠ .confirmedTerminated ||
                (e.data.recovery.lastOutcome = p.noProcessProof &&
                  (confirmedAttempt e.data).any (·.cancellationStatus = some status.value)))) &&
          (if p.containerType = .windowsJob then
            windowsOwnershipValid p existing.fixed k.workerIdentity true now
          else terminalPosixIdentity p)
    | _, _, _, _ => false

/-- `record_terminal`. -/
def recordTerminal (k : ExecutionCapability) (c : TerminalArgs) (jobEmpty : Bool) (now : Instant)
    (db : Db) : Except DbError (Bool × Db) :=
  match k.executionId with
  | none => .ok (false, db)
  | some executionId =>
      if executionId.isEmpty then .ok (false, db)
      else
        match db.executionRun executionId k.organizationId with
        | none => .ok (false, db)
        | some existing =>
            match existing.data.ownership.ownershipState with
            | .terminal => .ok (repeatsTermination k executionId c now db existing, db)
            | .externalProcessGoverned =>
                recordFirstTermination k executionId c jobEmpty now db existing
            | _ => .ok (false, db)

/-! ### Both together -/

/-- The arguments of `settle_execution`. -/
structure SettleArgs where
  terminalState : RunState
  reasonCode : Option ReasonCode
  identity : IdentityArgs
  terminationStatus : Option TerminationStatus
deriving DecidableEq, Repr

/-- `_SettlementRejected`, or an error; both roll the transaction back. -/
inductive SettlementFailure where
  | rejected
  | raised (e : DbError)
deriving DecidableEq, Repr

/-- `if not …: raise _SettlementRejected`. -/
def orRejected {α : Type} (granted : α → Bool) :
    Except DbError (α × Db) → Except SettlementFailure Db
  | .ok (r, db) => if granted r then .ok db else .error .rejected
  | .error e => .error (.raised e)

/-- The termination status of an ordinary completion. -/
def SettleArgs.status (c : SettleArgs) : Option TerminationStatus :=
  if c.identity.processId.isNone then c.terminationStatus
  else some (c.terminationStatus.getD .alreadyExited)

/-- The settlement of a run without a process. -/
def settleWithoutProcess (k : ExecutionCapability) (c : SettleArgs) (now : Instant) (db : Db) :
    Except SettlementFailure Db := do
  let db ← orRejected id (recordNoProcess k
    ⟨c.reasonCode, c.reasonCode, some c.terminalState,
      some (expectedTerminalDispatch c.terminalState)⟩ now db)
  orRejected Response.granted (db.execute
    (.abortStart
      { decisionId := k.decisionId
        organizationId := k.organizationId
        workerIdentity := k.workerIdentity
        decisionClaimToken := k.claimToken.getD ""
        dispatchClaimToken := k.dispatchClaimToken.getD ""
        terminalState := c.terminalState
        reasonCode := c.reasonCode.getD (.other "")
        processId := none
        processGroupId := none })
    now)

/-- The settlement of a run with a process. -/
def settleWithProcess (k : ExecutionCapability) (c : SettleArgs) (jobEmpty : Bool) (now : Instant)
    (db : Db) : Except SettlementFailure Db := do
  let db ← orRejected id (recordTerminal k
    ⟨c.terminalState, c.reasonCode, c.identity, c.status⟩ jobEmpty now db)
  orRejected Response.granted (db.execute
    (.finish
      { executionId := k.executionId.getD ""
        organizationId := k.organizationId
        workerIdentity := k.workerIdentity
        dispatchClaimToken := k.dispatchClaimToken.getD ""
        terminalState := c.terminalState
        reasonCode := c.reasonCode
        processId := c.identity.processId
        processGroupId := c.identity.processGroupId })
    now)

/-- The transaction of `settle_execution`. -/
def settleInTransaction (k : ExecutionCapability) (c : SettleArgs) (jobEmpty : Bool)
    (now : Instant) (db : Db) : Except SettlementFailure Db :=
  if c.identity.processId.isNone then settleWithoutProcess k c now db
  else settleWithProcess k c jobEmpty now db

/-- The settlement of a cancellation whose authority is revoked. -/
def settleRevoked (k : ExecutionCapability) (c : SettleArgs) (jobEmpty : Bool) (attemptId : String)
    (now : Instant) (db : Db) : Except DbError (Bool × Db) :=
  let executionId := k.executionId.getD ""
  let settled (status : TerminationStatus) (attestation : Option Attestation)
      (identity : IdentityArgs) : Except DbError (Bool × Db) :=
    (db.execute
      (.settleConfirmed
        { executionId := executionId
          organizationId := k.organizationId
          terminalState := c.terminalState
          reasonCode := c.reasonCode.getD (.other "")
          terminationStatus := status
          identity := identity
          workerGeneration := some k.workerGeneration
          workerIdentity := some k.workerIdentity
          identityAttestation := attestation
          actor := "process-supervisor"
          attemptId := attemptId }
        jobEmpty)
      now).map fun r => (r.1.granted, r.2)
  if c.reasonCode = some .executionCancelled && c.identity.processId.isSome then
    match c.status.filter TerminationStatus.isProcess,
        db.executionRun executionId k.organizationId with
    | some status, some existing =>
        settled status existing.data.ownership.identityAttestation c.identity
    | _, _ => .ok (false, db)
  else if c.reasonCode = some .executionCancelledBeforeProcessCreation &&
      c.identity.processId.isNone then
    settled .noExternalProcess none ⟨none, none, none, none⟩
  else .ok (false, db)

/-- `settle_execution`. -/
def settleExecution (k : ExecutionCapability) (c : SettleArgs) (jobEmpty : Bool)
    (attemptId : String) (now : Instant) (db : Db) : Except DbError (Bool × Db) :=
  if absent k.executionId || absent k.dispatchClaimToken then .ok (false, db)
  else
    match settleInTransaction k c jobEmpty now db with
    | .ok db' => .ok (true, db')
    | .error (.raised e) => .error e
    | .error .rejected => settleRevoked k c jobEmpty attemptId now db

/-- `reason_code or "PROCESS_TERMINALIZED"`. -/
def terminalizedReason (reasonCode : Option ReasonCode) : ReasonCode :=
  (reasonCode.filter (!·.text.isEmpty)).getD (.other "PROCESS_TERMINALIZED")

/-- `ExecutionDecisionCapability.finish`; it has no start token, session or termination status to
pass on. -/
def ExecutionCapability.finish (k : ExecutionCapability) (terminalState : RunState)
    (reasonCode : Option ReasonCode) (processId : Option Int) (processGroupId : Option String)
    (jobEmpty : Bool) (attemptId : String) (now : Instant) (db : Db) :
    Except DbError (Bool × Db) :=
  settleExecution k
    { terminalState := terminalState
      reasonCode := some (terminalizedReason reasonCode)
      identity := ⟨processId, processGroupId, none, none⟩
      terminationStatus := none }
    jobEmpty attemptId now db

end CyberAssess
