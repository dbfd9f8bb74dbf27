import CyberAssess.Execution.Dispatch
import CyberAssess.Execution.Recovery
import CyberAssess.Execution.Proof

/-!
# Execution — settlement after a confirmed termination

The two calls of `core/db.py` that close run, dispatch, ownership and recovery together, with a
proof of what they saw.

* `settleRecoveryExecution` closes a recovered uncertain process under its recovery lease.
* `settleExecutionAfterConfirmedTermination` closes an execution whose authority is gone.
  `PRE_DISPATCH` and `NO_EXTERNAL_PROCESS` are its outcomes without a process, `KILLED` and
  `ALREADY_EXITED` those with one.

`[about ours]`: `jobEmpty` is what the kernel answers for the attested Windows job.
-/

namespace CyberAssess

open Checked (ensure)
open Python (isBlank nonBlankUpTo natOfDigits)

/-! ### Claim digests -/

/-- The newest `claim_identity_digest`. -/
def decisionDigest : List ClaimEvent → Option ClaimDigest
  | [] => none
  | .decisionClaimed d :: _ => some d
  | .dispatchClaimed _ :: es => decisionDigest es

/-- The newest `dispatch_identity_digest`. -/
def dispatchDigest : List ClaimEvent → Option ClaimDigest
  | [] => none
  | .dispatchClaimed d :: _ => some d
  | .decisionClaimed _ :: es => dispatchDigest es

/-! ### The recovered process -/

/-- The arguments of `settle_recovery_execution`. -/
structure SettleRecoveryArgs where
  executionId : String
  organizationId : String
  owner : String
  leaseToken : String
  workerGeneration : String
  terminationStatus : TerminationStatus
  terminalState : RunState
  reasonCode : ReasonCode
deriving DecidableEq, Repr

/-- `{"KILLED", "ALREADY_EXITED"}`. -/
def TerminationStatus.isProcess : TerminationStatus → Bool
  | .killed | .alreadyExited => true
  | .preDispatch | .noExternalProcess => false

/-- `valid_recovery_commit_states`. -/
def recoveryCommitState (p : OwnershipRow) : Bool :=
  p.launchCommitState = .uncertain ||
    (p.launchCommitState = .committed && p.ownershipState ≠ .launchUncertain)

/-- The POSIX identity a recovery settles on; it does not read the member snapshot. -/
def recoveryPosixIdentity (p : OwnershipRow) (workerGeneration : String) : Bool :=
  p.containerType = .posixSession &&
    match p.identityAttestation, p.rootProcessStartToken, p.processGroupId.bind natOfDigits,
        p.sessionId.bind natOfDigits with
    | some ⟨_, .posix att⟩, some token, some group, some session =>
        p.rootProcessId.any (· ≠ 0) && (posixStartToken token).any fun t =>
          !t.1.isEmpty && posixAttestationBound p att workerGeneration t.1 t.2 group session
    | _, _, _, _ => false

/-- The row tests of `settle_recovery_execution`. -/
def recoverySettleable (c : SettleRecoveryArgs) (jobEmpty : Bool) (now : Instant)
    (a : Authority) (x : Rows) : Bool :=
  x.recovery.leasedBy c.owner c.leaseToken c.workerGeneration now &&
    needsRecovery x.ownership.ownershipState && workerBound a x && correlationBound a &&
    recoveryCommitState x.ownership &&
    x.ownership.workerGeneration = some a.run.workerGeneration &&
    (if x.ownership.containerType = .windowsJob then
      windowsOwnershipValid x.ownership a a.decision.workerIdentity false now && jobEmpty
    else recoveryPosixIdentity x.ownership a.run.workerGeneration) &&
    (decisionDigest x.claimEvents).isSome && (dispatchDigest x.claimEvents).isSome &&
    1 ≤ x.recovery.attemptNumber

/-- The proof columns of the ownership row. -/
def terminationEvidence (p : OwnershipRow) (status : TerminationStatus) : TerminationEvidence where
  terminationStatus := status
  processId := p.rootProcessId.getD 0
  processGroupId := p.processGroupId
  processStartToken := p.rootProcessStartToken
  sessionId := (p.sessionId.bind natOfDigits).map Int.ofNat
  identityAttestation := p.identityAttestation

/-- `status='CONFIRMED_TERMINATED'` with the proof, and no lease. -/
def RecoveryRow.confirmed (s : RecoveryRow) (proof : ExecutionProof) (now : Instant) :
    RecoveryRow :=
  { s with
    status := .confirmedTerminated
    lastOutcome := some (.envelope proof)
    lastError := none
    owner := none
    leaseToken := none
    leaseExpiresAt := none
    nextRetryAt := none
    updatedAt := now }

/-- The attempt a settlement appends. -/
def settlementAttempt (attemptId workerIdentity workerGeneration : String) (attemptNumber : Nat)
    (status : TerminationStatus) (reason : String) (correlationId : String) (now : Instant)
    (health : HealthReference) : RecoveryAttempt where
  attemptId := attemptId
  workerIdentity := workerIdentity
  workerGeneration := workerGeneration
  attemptNumber := attemptNumber
  status := .confirmedTerminated
  cancellationStatus := some status.value
  reasonCode := reason
  correlationId := correlationId
  requestedAt := now
  startedAt := some now
  completedAt := some now
  nextRetryAt := none
  errorCode := none
  escalationLevel := 0
  healthReference := health

/-- The proof of `settle_recovery_execution`. -/
def recoveryProof (c : SettleRecoveryArgs) (now : Instant) (a : Authority) (x : Rows) :
    ExecutionProof where
  executionId := c.executionId
  organizationId := c.organizationId
  requestId := a.run.requestId
  decisionId := a.run.approvedDecisionId
  terminalState := c.terminalState
  dispatchState := .failed
  ownershipState := .terminal
  containerType := x.ownership.containerType
  launchCommitState := x.ownership.launchCommitState
  workerIdentity := a.decision.workerIdentity
  workerGeneration := a.run.workerGeneration
  correlationId := a.run.correlationId
  claimIdentityDigest := decisionDigest x.claimEvents
  dispatchIdentityDigest := dispatchDigest x.claimEvents
  reasonCode := some c.reasonCode
  observedAt := now
  recoveryStatus := .confirmedTerminated
  recoveryAttemptNumber := x.recovery.attemptNumber
  recoveryAttemptId := some (c.leaseToken ++ "-settled")
  detail := .terminationConfirmed (terminationEvidence x.ownership c.terminationStatus)

/-- What `settle_recovery_execution` raises before it reads. -/
def SettleRecoveryArgs.check (c : SettleRecoveryArgs) : Except DbError Unit := do
  ensure (decide (c.terminalState = .failed) &&
      isValidExecutionTerminalOutcome c.terminalState (some c.reasonCode))
    (.valueError "recovery settlement requires the reviewed failed/uncertain outcome")
  ensure c.terminationStatus.isProcess
    (.valueError "recovery settlement requires a confirmed process termination status")

theorem settleRecovery_check {c : SettleRecoveryArgs} (h : c.check = .ok ()) :
    c.terminalState = .failed ∧
      isValidExecutionTerminalOutcome c.terminalState (some c.reasonCode) = true := by
  simp only [SettleRecoveryArgs.check, Checked.bind_ok, Checked.exists_unit, Checked.ensure_ok,
    Bool.and_eq_true, decide_eq_true_eq] at h
  exact h.1

/-- The rows as a recovery settlement leaves them. -/
def Rows.recoverySettled (x : Rows) (c : SettleRecoveryArgs) (proof : ExecutionProof)
    (now : Instant) : Rows :=
  { x with
    ownership := { x.ownership with
      ownershipState := .terminal
      noProcessProof := some (.envelope proof)
      terminalizedAt := some now
      updatedAt := now }
    dispatch := x.dispatch.settled .failed now (some c.reasonCode)
    run := x.run.settled c.terminalState (some c.reasonCode) now
    decision := x.decision.unclaimed
    recovery := x.recovery.confirmed proof now }

/-- The attempt a recovery settlement appends. -/
def SettleRecoveryArgs.attempt (c : SettleRecoveryArgs) (now : Instant) (a : Authority)
    (x : Rows) : RecoveryAttempt :=
  settlementAttempt (c.leaseToken ++ "-settled") c.owner c.workerGeneration
    x.recovery.attemptNumber c.terminationStatus c.reasonCode.text a.run.correlationId now
    .recoveryProof

/-- `settle_recovery_execution`. -/
def settleRecoveryExecution (c : SettleRecoveryArgs) (jobEmpty : Bool) (now : Instant)
    (a : Authority) (x : Rows) : Except DbError (Bool × Rows) := do
  c.check
  if !recoverySettleable c jobEmpty now a x then .ok (false, x)
  else do
    let proof := recoveryProof c now a x
    ensure proof.fits (.valueError "execution proof exceeds the bounded storage limit")
    ensure (!x.dispatch.state.isTerminal && !x.run.state.isTerminal)
      (.runtimeError "recovery settlement lost its transaction fence")
    let y ← (x.recoverySettled c proof now).appendAttempt (c.attempt now a x)
    .ok (true, y)

theorem settleRecoveryExecution_ok {c : SettleRecoveryArgs} {jobEmpty : Bool} {now : Instant}
    {a : Authority} {x y : Rows} {r : Bool}
    (h : settleRecoveryExecution c jobEmpty now a x = .ok (r, y)) :
    (r = false ∧ y = x) ∨
      (c.check = .ok () ∧ recoverySettleable c jobEmpty now a x = true ∧
        x.dispatch.state.isTerminal = false ∧ x.run.state.isTerminal = false ∧ r = true ∧
        y = { x.recoverySettled c (recoveryProof c now a x) now with
          attempts := c.attempt now a x :: x.attempts }) := by
  unfold settleRecoveryExecution at h
  simp only [Checked.bind_ok, Checked.exists_unit] at h
  obtain ⟨hc, h⟩ := h
  split at h
  · cases h
    exact Or.inl ⟨rfl, rfl⟩
  · rename_i hs
    simp only [Checked.bind_ok, Checked.exists_unit, Checked.ensure_ok, Bool.and_eq_true,
      Bool.not_eq_true', Except.ok.injEq, Prod.mk.injEq] at h
    obtain ⟨-, ⟨hd, hr⟩, z, hz, hok, rfl⟩ := h
    exact Or.inr ⟨hc, by simpa using hs, hd, hr, hok.symm, appendAttempt_ok hz⟩

/-! ### The confirmed termination -/

/-- The arguments of `settle_execution_after_confirmed_termination`, with the attempt id it
draws. -/
structure SettleConfirmedArgs where
  executionId : String
  organizationId : String
  terminalState : RunState
  reasonCode : ReasonCode
  terminationStatus : TerminationStatus
  identity : IdentityArgs
  workerGeneration : Option String
  workerIdentity : Option String
  identityAttestation : Option Attestation
  actor : String
  attemptId : String
deriving DecidableEq, Repr

/-- The string arguments that have to be given. -/
def SettleConfirmedArgs.complete (c : SettleConfirmedArgs) : Bool :=
  !isBlank c.executionId && !isBlank c.organizationId && !c.reasonCode.isBlank &&
    c.workerGeneration.any (!isBlank ·) && c.workerIdentity.any (!isBlank ·) && !isBlank c.actor

/-- The identity arguments fit the status. -/
def SettleConfirmedArgs.identityFits (c : SettleConfirmedArgs) : Bool :=
  if c.terminationStatus.isProcess then c.identity.wellFormed
  else c.identity.processId.isNone && c.identity.processGroupId.isNone &&
    c.identity.processStartToken.isNone && c.identity.sessionId.isNone &&
    c.identityAttestation.isNone

/-- The worker and correlation binding of the call. -/
def settlementBinding (c : SettleConfirmedArgs) (a : Authority) (x : Rows) : Bool :=
  correlationBound a && x.run.workerIdentity = some a.decision.workerIdentity &&
    c.workerIdentity = x.run.workerIdentity && !isBlank a.run.workerGeneration &&
    c.workerGeneration = some a.run.workerGeneration &&
    x.ownership.workerGeneration.all (· = a.run.workerGeneration)

/-- The attestation checks for the statuses with a process. -/
def settlementAttested (c : SettleConfirmedArgs) (jobEmpty : Bool) (now : Instant)
    (a : Authority) (x : Rows) : Bool :=
  x.ownership.identityAttestation.isSome &&
    c.identityAttestation.all (some · = x.ownership.identityAttestation) &&
    if x.ownership.containerType = .windowsJob then
      windowsOwnershipValid x.ownership a a.decision.workerIdentity
          (x.ownership.ownershipState = .terminal) now &&
        (x.ownership.ownershipState = .terminal || jobEmpty)
    else
      (x.ownership.rootProcessStartToken.bind posixStartToken).any (bootIdShape ·.1) &&
        posixOwnershipValid x.ownership a.run.workerGeneration

/-- The states a settlement with a process starts from. -/
def processSettleable (c : SettleConfirmedArgs) (x : Rows) : Bool :=
  x.ownership.ownershipState = .externalProcessGoverned && x.ownership.hasIdentity c.identity &&
    (x.run.processId.isNone || x.run.processId = c.identity.processId) &&
    (x.run.processGroupId.isNone || x.run.processGroupId = c.identity.processGroupId) &&
    (x.dispatch.state = .claimed || x.dispatch.state = .blocked) && !x.run.state.isTerminal

/-- `current_ownership in {UNKNOWN, NO_EXTERNAL_PROCESS}`. -/
def noProcessOwnership : OwnershipState → Bool
  | .unknown | .noExternalProcess => true
  | _ => false

/-- A run that never left `REQUESTED`, or that revocation cancelled there. -/
def preDispatchSettleable (c : SettleConfirmedArgs) (x : Rows) : Bool :=
  noProcessOwnership x.ownership.ownershipState &&
    ((x.run.state = .requested && x.dispatch.state = .pending &&
        ((c.terminalState = .cancelled && c.reasonCode = .executionCancelledBeforeDispatch) ||
          (c.terminalState = .executionBlocked &&
            c.reasonCode = .executionAuthorityRevokedOrExpired))) ||
      (x.run.state = .cancelled && x.run.reasonCode = some .executionCancelledBeforeDispatch &&
        x.dispatch.state = .blocked && c.reasonCode = .executionCancelledBeforeDispatch &&
        c.terminalState = .cancelled))

/-- A run that started without a process; an `UNKNOWN` row only from the launching worker. -/
def noProcessSettleable (c : SettleConfirmedArgs) (x : Rows) : Bool :=
  noProcessOwnership x.ownership.ownershipState && x.run.state = .starting &&
    (x.dispatch.state = .claimed || x.dispatch.state = .blocked) &&
    ((c.terminalState = .cancelled &&
        c.reasonCode = .executionCancelledBeforeProcessCreation) ||
      (c.terminalState = .executionBlocked &&
        c.reasonCode = .executionAuthorityRevokedOrExpired) ||
      (c.terminalState = .timedOut && c.reasonCode = .executionAuthorityExpired)) &&
    (x.ownership.ownershipState ≠ .unknown ||
      (c.actor = "process-supervisor" && x.dispatch.state = .claimed &&
        c.terminalState = .cancelled))

/-- `authority_invalid`. -/
def authorityInvalid (revokedTokens : List String) (now : Instant) (a : Authority) (x : Rows) :
    Bool :=
  x.request.state ≠ .authorized || a.decision.approvalState ≠ .approved ||
    x.decision.revokedAt.isSome || x.request.expiresAt ≤ now || x.decision.expiresAt ≤ now ||
    a.decision.sessionJti.isEmpty || a.sessionRevoked revokedTokens

/-- The identity columns of a row without a process. -/
def withoutIdentity (p : OwnershipRow) : Bool :=
  p.containerIdentity.isNone && p.rootProcessId.isNone && p.rootProcessStartToken.isNone &&
    p.processGroupId.isNone && p.sessionId.isNone && p.identityAttestation.isNone

/-- The claim digests the status needs. -/
def settlementDigests (c : SettleConfirmedArgs) (x : Rows) : Bool :=
  let d := decisionDigest x.claimEvents
  let i := dispatchDigest x.claimEvents
  match c.terminationStatus with
  | .killed | .alreadyExited => d.isSome && i.isSome
  | .noExternalProcess => d.isNone = i.isNone
  | .preDispatch => d.isNone && i.isNone

/-- Every test a first settlement passes before it writes. -/
def confirmedSettleable (c : SettleConfirmedArgs) (revokedTokens : List String)
    (jobEmpty : Bool) (now : Instant) (a : Authority) (x : Rows) : Bool :=
  (if c.terminationStatus.isProcess then
      settlementAttested c jobEmpty now a x && processSettleable c x &&
        !isBlank a.decision.workerIdentity
    else
      (if c.terminationStatus = .preDispatch then preDispatchSettleable c x
        else noProcessSettleable c x) &&
        !isBlank a.decision.workerIdentity && withoutIdentity x.ownership) &&
    (x.recovery.status = .requested || x.recovery.status = .deferred) &&
    authorityInvalid revokedTokens now a x &&
    (x.dispatch.state = .pending || x.dispatch.state = .claimed ||
      (x.dispatch.state = .blocked && safeDispatchState c.terminalState = .blocked)) &&
    settlementDigests c x

/-- The proof of `settle_execution_after_confirmed_termination`. -/
def terminationProof (c : SettleConfirmedArgs) (now : Instant) (a : Authority) (x : Rows) :
    ExecutionProof where
  executionId := c.executionId
  organizationId := c.organizationId
  requestId := a.run.requestId
  decisionId := a.run.approvedDecisionId
  terminalState := c.terminalState
  dispatchState := safeDispatchState c.terminalState
  ownershipState := .terminal
  containerType := if c.terminationStatus.isProcess then x.ownership.containerType else .none
  launchCommitState :=
    if c.terminationStatus.isProcess then x.ownership.launchCommitState else .notAttempted
  workerIdentity := a.decision.workerIdentity
  workerGeneration := a.run.workerGeneration
  correlationId := a.run.correlationId
  claimIdentityDigest := decisionDigest x.claimEvents
  dispatchIdentityDigest := dispatchDigest x.claimEvents
  reasonCode := some c.reasonCode
  observedAt := now
  recoveryStatus := .confirmedTerminated
  recoveryAttemptNumber := x.recovery.attemptNumber + 1
  recoveryAttemptId := some c.attemptId
  detail :=
    if c.terminationStatus.isProcess then
      .terminationConfirmed (terminationEvidence x.ownership c.terminationStatus)
    else .noExternalProcess c.reasonCode

/-- The newest `CONFIRMED_TERMINATED` attempt; settlement appends at most one. -/
def confirmedAttempt (x : Rows) : Option RecoveryAttempt :=
  x.attempts.find? (·.status = .confirmedTerminated)

/-- The replay of a settlement that is stored. -/
def settlementReplays (c : SettleConfirmedArgs) (a : Authority) (x : Rows) : Bool :=
  match x.ownership.noProcessProof, confirmedAttempt x, x.ownership.terminalizedAt with
  | some (.envelope p), some t, some terminalizedAt =>
      x.run.state = c.terminalState && x.run.reasonCode = some c.reasonCode &&
        x.dispatch.state = safeDispatchState c.terminalState &&
        x.recovery.status = .confirmedTerminated && x.recovery.lastError.isNone &&
        x.recovery.owner.isNone && x.recovery.leaseToken.isNone &&
        x.recovery.leaseExpiresAt.isNone && x.recovery.nextRetryAt.isNone &&
        x.recovery.lastOutcome = x.ownership.noProcessProof && 1 ≤ x.recovery.attemptNumber &&
        !isBlank t.attemptId && !isBlank t.workerIdentity &&
        t.startedAt.any (t.requestedAt ≤ ·) &&
        t.completedAt.any (fun d => t.startedAt.any (· ≤ d)) &&
        some t.workerIdentity = x.run.workerIdentity &&
        x.recovery.workerGeneration = some t.workerGeneration &&
        x.recovery.workerGeneration = some a.run.workerGeneration &&
        t.attemptNumber = x.recovery.attemptNumber &&
        t.cancellationStatus = some c.terminationStatus.value &&
        t.reasonCode = c.reasonCode.text && t.correlationId = a.run.correlationId &&
        t.errorCode.isNone && t.nextRetryAt.isNone &&
        x.recovery.escalationLevel = t.escalationLevel &&
        p.executionId = c.executionId && p.organizationId = c.organizationId &&
        p.requestId = a.run.requestId && p.decisionId = a.run.approvedDecisionId &&
        p.terminalState = c.terminalState &&
        p.dispatchState = safeDispatchState c.terminalState &&
        p.ownershipState = .terminal && p.recoveryStatus = .confirmedTerminated &&
        some p.workerIdentity = x.run.workerIdentity &&
        p.workerGeneration = a.run.workerGeneration &&
        p.correlationId = a.run.correlationId &&
        p.claimIdentityDigest = decisionDigest x.claimEvents &&
        p.dispatchIdentityDigest = dispatchDigest x.claimEvents &&
        p.reasonCode = some c.reasonCode && p.recoveryAttemptNumber = x.recovery.attemptNumber &&
        p.recoveryAttemptId = some t.attemptId && p.observedAt = terminalizedAt &&
        match p.detail with
        | .terminationConfirmed e =>
            c.terminationStatus.isProcess && x.ownership.launchCommitState = .committed &&
              (x.ownership.containerType = .posixSession ||
                x.ownership.containerType = .windowsJob) &&
              (decisionDigest x.claimEvents).isSome && (dispatchDigest x.claimEvents).isSome &&
              x.ownership.rootProcessId.isSome &&
              e = terminationEvidence x.ownership c.terminationStatus
        | .noExternalProcess code =>
            !c.terminationStatus.isProcess && x.ownership.containerType = .none &&
              x.ownership.launchCommitState = .notAttempted && code = c.reasonCode &&
              withoutIdentity x.ownership &&
              (decisionDigest x.claimEvents).isNone = (dispatchDigest x.claimEvents).isNone
  | _, _, _ => false

/-- The rows as a first settlement leaves them. -/
def Rows.settledAfterTermination (x : Rows) (c : SettleConfirmedArgs) (proof : ExecutionProof)
    (now : Instant) : Rows :=
  { x with
    ownership := { x.ownership with
      ownershipState := .terminal
      noProcessProof := some (.envelope proof)
      lastVerifiedAt :=
        if c.terminationStatus.isProcess then x.ownership.lastVerifiedAt else some now
      terminalizedAt := some now
      updatedAt := now }
    dispatch :=
      if x.dispatch.state.isTerminal then x.dispatch
      else x.dispatch.settled (safeDispatchState c.terminalState) now (some c.reasonCode)
    run :=
      if x.run.state.isTerminal then x.run
      else x.run.settled c.terminalState (some c.reasonCode) now
    decision := x.decision.unclaimed
    recovery :=
      { x.recovery.confirmed proof now with
        workerGeneration := some proof.workerGeneration
        attemptNumber := x.recovery.attemptNumber + 1 } }

/-- What `settle_execution_after_confirmed_termination` raises before it reads. -/
def SettleConfirmedArgs.check (c : SettleConfirmedArgs) : Except DbError Unit :=
  if !c.complete then .ok ()
  else ensure (isSafeState c.terminalState &&
      isValidExecutionTerminalOutcome c.terminalState (some c.reasonCode))
    (.valueError "confirmed-termination settlement requires a reviewed safe terminal outcome")

theorem settleConfirmed_check {c : SettleConfirmedArgs} (h : c.check = .ok ())
    (hc : c.complete = true) :
    isSafeState c.terminalState = true ∧
      isValidExecutionTerminalOutcome c.terminalState (some c.reasonCode) = true := by
  simp only [SettleConfirmedArgs.check, hc, Bool.not_true, Bool.false_eq_true, if_false,
    Checked.ensure_ok, Bool.and_eq_true] at h
  exact h

/-- The attempt a settlement after a confirmed termination appends. -/
def SettleConfirmedArgs.attempt (c : SettleConfirmedArgs) (now : Instant) (a : Authority)
    (x : Rows) : RecoveryAttempt :=
  settlementAttempt c.attemptId a.decision.workerIdentity a.run.workerGeneration
    (x.recovery.attemptNumber + 1) c.terminationStatus c.reasonCode.text a.run.correlationId now
    .terminationProof

/-- `settle_execution_after_confirmed_termination`. -/
def settleExecutionAfterConfirmedTermination (c : SettleConfirmedArgs)
    (revokedTokens : List String) (jobEmpty : Bool) (now : Instant) (a : Authority)
    (x : Rows) : Except DbError (Bool × Rows) := do
  c.check
  if !(c.complete && c.identityFits && settlementBinding c a x) then .ok (false, x)
  else if x.ownership.ownershipState = .terminal then
    .ok ((!c.terminationStatus.isProcess || settlementAttested c jobEmpty now a x) &&
      settlementReplays c a x, x)
  else if !confirmedSettleable c revokedTokens jobEmpty now a x then .ok (false, x)
  else do
    let proof := terminationProof c now a x
    ensure proof.fits (.valueError "execution proof exceeds the bounded storage limit")
    let y ← (x.settledAfterTermination c proof now).appendAttempt (c.attempt now a x)
    .ok (true, y)

/-- A stored settlement is one of a run that has ended so. -/
theorem settlementReplays_run {c : SettleConfirmedArgs} {a : Authority} {x : Rows}
    (h : settlementReplays c a x = true) :
    x.run.state = c.terminalState ∧ x.run.reasonCode = some c.reasonCode := by
  unfold settlementReplays at h
  split at h
  · simp only [Bool.and_eq_true, decide_eq_true_eq] at h
    tauto
  · cases h

theorem settleExecutionAfterConfirmedTermination_ok {c : SettleConfirmedArgs}
    {revokedTokens : List String} {jobEmpty : Bool} {now : Instant} {a : Authority}
    {x y : Rows} {r : Bool}
    (h : settleExecutionAfterConfirmedTermination c revokedTokens jobEmpty now a x
      = .ok (r, y)) :
    (y = x ∧ (r = true → x.ownership.ownershipState = .terminal ∧
        x.run.state.isTerminal = true ∧ x.run.state = c.terminalState ∧
        x.run.reasonCode = some c.reasonCode)) ∨
      (c.check = .ok () ∧ c.complete = true ∧ settlementBinding c a x = true ∧
        x.ownership.ownershipState ≠ .terminal ∧
        confirmedSettleable c revokedTokens jobEmpty now a x = true ∧ r = true ∧
        y = { x.settledAfterTermination c (terminationProof c now a x) now with
          attempts := c.attempt now a x :: x.attempts }) := by
  unfold settleExecutionAfterConfirmedTermination at h
  simp only [Checked.bind_ok, Checked.exists_unit] at h
  obtain ⟨hc, h⟩ := h
  split at h
  · cases h
    exact Or.inl ⟨rfl, nofun⟩
  rename_i hg
  simp only [Bool.not_eq_true', Bool.not_eq_false, Bool.and_eq_true] at hg
  split at h
  · rename_i ht
    obtain rfl : x = y := congrArg Prod.snd (Except.ok.inj h)
    refine Or.inl ⟨rfl, fun hr => ?_⟩
    have replayed := (congrArg Prod.fst (Except.ok.inj h)).trans hr
    obtain ⟨state, reason⟩ := settlementReplays_run (Bool.and_eq_true_iff.mp replayed).2
    refine ⟨ht, ?_, state, reason⟩
    rw [state]
    exact isTerminal_of_valid (settleConfirmed_check hc hg.1.1).2
  rename_i ht
  split at h
  · cases h
    exact Or.inl ⟨rfl, nofun⟩
  · rename_i hs
    simp only [Checked.bind_ok, Checked.exists_unit, Except.ok.injEq, Prod.mk.injEq] at h
    obtain ⟨-, z, hz, hok, rfl⟩ := h
    exact Or.inr ⟨hc, hg.1.1, hg.2, ht, by simpa using hs, hok.symm, appendAttempt_ok hz⟩

end CyberAssess
