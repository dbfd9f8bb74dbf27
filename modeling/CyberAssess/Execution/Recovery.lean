import CyberAssess.Execution.Ownership

/-!
# Execution — recovery leases and observations

The calls of `core/db.py` over `execution_recovery_state` and `execution_recovery_attempts`.

* `claimRecovery`, `renewRecovery`, `completeRecovery`: the lease of an uncertain or blocked
  process.
* `recordUnconfirmedGovernedRecovery`, `recordUnavailableGovernedRecovery`: an attempt that ends
  without a confirmed termination, or without a process identity.

Every attempt is appended under its own id; a second row under one id is refused.
-/

namespace CyberAssess

open Checked (ensure)
open Python (isBlank nonBlankUpTo natOfDigits)

/-- `INSERT INTO execution_recovery_attempts`. -/
def Rows.appendAttempt (x : Rows) (t : RecoveryAttempt) : Except DbError Rows :=
  if x.attempts.any (·.attemptId = t.attemptId) then
    .error (.integrityError "execution_recovery_attempts.attempt_id")
  else .ok { x with attempts := t :: x.attempts }

theorem appendAttempt_ok {x y : Rows} {t : RecoveryAttempt} (h : x.appendAttempt t = .ok y) :
    y = { x with attempts := t :: x.attempts } := by
  unfold Rows.appendAttempt at h
  split at h <;> cases h
  rfl

theorem appendAttempt_fresh {x y : Rows} {t : RecoveryAttempt} (h : x.appendAttempt t = .ok y) :
    x.attempts.any (·.attemptId = t.attemptId) = false := by
  unfold Rows.appendAttempt at h
  split at h
  · cases h
  · rename_i hn
    exact Bool.eq_false_of_not_eq_true hn

/-! ### The lease -/

/-- The arguments of `claim_recovery`, with the token it draws. -/
structure ClaimRecoveryArgs where
  executionId : String
  organizationId : String
  owner : String
  workerGeneration : String
  leaseSeconds : Nat
  token : String
deriving DecidableEq, Repr

/-- `ownership_state IN ('LAUNCH_UNCERTAIN', 'RECOVERY_BLOCKED')`. -/
def needsRecovery : OwnershipState → Bool
  | .launchUncertain | .recoveryBlocked => true
  | _ => false

/-- The binding `claim_recovery` reads. -/
def recoveryBinding (a : Authority) (x : Rows) : Bool :=
  needsRecovery x.ownership.ownershipState && !x.run.state.isTerminal &&
    x.dispatch.state = .claimed && workerBound a x && !isBlank a.run.workerGeneration &&
    x.ownership.workerGeneration = some a.run.workerGeneration && correlationBound a

/-- The lease, retry and status tests of `claim_recovery`. -/
def recoveryClaimable (now : Instant) (s : RecoveryRow) : Bool :=
  s.leaseExpiresAt.all (· ≤ now) && s.nextRetryAt.all (· ≤ now) &&
    s.status ≠ .confirmedTerminated && s.status ≠ .exhausted

/-- What `claim_recovery` returns. -/
structure RecoveryLease where
  executionId : String
  organizationId : String
  owner : String
  workerGeneration : String
  leaseToken : String
  leaseExpiresAt : Instant
  attemptNumber : Nat
  correlationId : String
deriving DecidableEq, Repr

/-- The recovery row under a new lease. -/
def RecoveryRow.claimed (s : RecoveryRow) (c : ClaimRecoveryArgs) (now : Instant) :
    RecoveryRow :=
  { s with
    status := .inProgress
    owner := some c.owner
    leaseToken := some c.token
    leaseExpiresAt := some (now + seconds c.leaseSeconds)
    workerGeneration := some c.workerGeneration
    attemptNumber := s.attemptNumber + 1
    updatedAt := now }

/-- `claim_recovery`. -/
def claimRecovery (c : ClaimRecoveryArgs) (now : Instant) (a : Authority) (x : Rows) :
    Except DbError (Option RecoveryLease × Rows) :=
  if !(nonBlankUpTo 256 c.executionId && nonBlankUpTo 256 c.organizationId &&
      nonBlankUpTo 256 c.owner && nonBlankUpTo 256 c.workerGeneration &&
      0 < c.leaseSeconds) then .ok (none, x)
  else if !(recoveryBinding a x && recoveryClaimable now x.recovery) then .ok (none, x)
  else do
    let expiry := now + seconds c.leaseSeconds
    let attemptNumber := x.recovery.attemptNumber + 1
    let y ← { x with recovery := x.recovery.claimed c now }.appendAttempt
      { attemptId := c.token
        workerIdentity := c.owner
        workerGeneration := c.workerGeneration
        attemptNumber := attemptNumber
        status := .inProgress
        cancellationStatus := none
        reasonCode := "RECOVERY_CLAIMED"
        correlationId := a.run.correlationId
        requestedAt := now
        startedAt := some now
        completedAt := none
        nextRetryAt := none
        errorCode := none
        escalationLevel := 0
        healthReference := .recoveryClaim }
    .ok (some ⟨c.executionId, c.organizationId, c.owner, c.workerGeneration, c.token, expiry,
      attemptNumber, a.run.correlationId⟩, y)

/-- What a granted recovery claim has passed. -/
structure RecoveryClaim (c : ClaimRecoveryArgs) (now : Instant) (a : Authority) (x : Rows) :
    Prop where
  lasting : 0 < c.leaseSeconds
  bound : recoveryBinding a x = true
  claimable : recoveryClaimable now x.recovery = true
  fresh : x.attempts.any (·.attemptId = c.token) = false

theorem claimRecovery_ok {c : ClaimRecoveryArgs} {now : Instant} {a : Authority} {x y : Rows}
    {r : Option RecoveryLease} (h : claimRecovery c now a x = .ok (r, y)) :
    (r = none ∧ y = x) ∨
      (RecoveryClaim c now a x ∧
        r = some ⟨c.executionId, c.organizationId, c.owner, c.workerGeneration, c.token,
          now + seconds c.leaseSeconds, x.recovery.attemptNumber + 1, a.run.correlationId⟩ ∧
        ∃ t, t.attemptId = c.token ∧
          y = { x with recovery := x.recovery.claimed c now, attempts := t :: x.attempts }) := by
  unfold claimRecovery at h
  split at h
  · cases h
    exact Or.inl ⟨rfl, rfl⟩
  rename_i hg
  split at h
  · cases h
    exact Or.inl ⟨rfl, rfl⟩
  rename_i hb
  simp only [Bool.not_eq_true', Bool.not_eq_false, Bool.and_eq_true, decide_eq_true_eq] at hg hb
  simp only [Checked.bind_ok, Except.ok.injEq, Prod.mk.injEq] at h
  obtain ⟨z, hz, rfl, rfl⟩ := h
  exact Or.inr ⟨⟨hg.2, hb.1, hb.2, appendAttempt_fresh hz⟩, rfl, _, rfl, appendAttempt_ok hz⟩

/-- `owner = ? AND lease_token = ? AND worker_generation = ? AND status = 'IN_PROGRESS' AND
lease_expires_at > ?`. -/
def RecoveryRow.leasedBy (s : RecoveryRow) (owner leaseToken workerGeneration : String)
    (now : Instant) : Bool :=
  s.owner = some owner && s.leaseToken = some leaseToken &&
    s.workerGeneration = some workerGeneration && s.status = .inProgress &&
    leaseHeld now s.leaseExpiresAt

/-- The rows the recovery lease is about, as the updates of a lease join them. -/
def recoveryLeaseRows (a : Authority) (x : Rows) : Bool :=
  needsRecovery x.ownership.ownershipState &&
    x.ownership.workerGeneration = some a.run.workerGeneration &&
    a.ownershipCorrelationId = a.run.correlationId && !x.run.state.isTerminal &&
    x.run.workerIdentity = some a.decision.workerIdentity && x.dispatch.state = .claimed

/-- The arguments of `renew_recovery`. -/
structure RenewRecoveryArgs where
  executionId : String
  organizationId : String
  owner : String
  leaseToken : String
  workerGeneration : String
  leaseSeconds : Nat
deriving DecidableEq, Repr

/-- `renew_recovery`. -/
def renewRecovery (c : RenewRecoveryArgs) (now : Instant) (a : Authority) (x : Rows) :
    Except DbError (Bool × Rows) :=
  if nonBlankUpTo 512 c.executionId && nonBlankUpTo 512 c.organizationId &&
      nonBlankUpTo 512 c.owner && nonBlankUpTo 512 c.leaseToken &&
      nonBlankUpTo 512 c.workerGeneration && 0 < c.leaseSeconds &&
      x.recovery.leasedBy c.owner c.leaseToken c.workerGeneration now &&
      recoveryLeaseRows a x then
    .ok (true, { x with recovery := { x.recovery with
      leaseExpiresAt := some (now + seconds c.leaseSeconds)
      updatedAt := now } })
  else .ok (false, x)

theorem renewRecovery_ok {c : RenewRecoveryArgs} {now : Instant} {a : Authority} {x y : Rows}
    {r : Bool} (h : renewRecovery c now a x = .ok (r, y)) :
    (r = false ∧ y = x) ∨
      (x.recovery.leasedBy c.owner c.leaseToken c.workerGeneration now = true ∧ r = true ∧
        y = { x with recovery := { x.recovery with
          leaseExpiresAt := some (now + seconds c.leaseSeconds)
          updatedAt := now } }) := by
  unfold renewRecovery at h
  split at h <;> cases h
  · rename_i hs
    simp only [Bool.and_eq_true] at hs
    exact Or.inr ⟨hs.1.2, rfl, rfl⟩
  · exact Or.inl ⟨rfl, rfl⟩

/-- The arguments of `complete_recovery`. -/
structure CompleteRecoveryArgs where
  executionId : String
  organizationId : String
  owner : String
  leaseToken : String
  workerGeneration : String
  status : RecoveryStatus
  outcome : String
  error : Option String
  nextRetryAt : Option Instant
deriving DecidableEq, Repr

/-- `{"DEFERRED", "FAILED", "ESCALATED", "EXHAUSTED"}`. -/
def isCompletionStatus : RecoveryStatus → Bool
  | .deferred | .failed | .escalated | .exhausted => true
  | _ => false

/-- The ownership `complete_recovery` leaves: an uncertain launch becomes blocked, unless the
recovery failed. -/
def OwnershipRow.afterCompletion (p : OwnershipRow) (status : RecoveryStatus) (now : Instant) :
    OwnershipRow :=
  if status ≠ .failed ∧ p.ownershipState = .launchUncertain then
    { p with ownershipState := .recoveryBlocked, updatedAt := now }
  else p

/-- The arguments are bounded and the status is a completion. -/
def CompleteRecoveryArgs.complete (c : CompleteRecoveryArgs) : Bool :=
  isCompletionStatus c.status && nonBlankUpTo 512 c.executionId &&
    nonBlankUpTo 512 c.organizationId && nonBlankUpTo 512 c.owner &&
    nonBlankUpTo 512 c.leaseToken && nonBlankUpTo 512 c.workerGeneration &&
    nonBlankUpTo 512 c.outcome && c.error.all (·.length ≤ 512)

/-- What `complete_recovery` raises before it reads. -/
def CompleteRecoveryArgs.check (c : CompleteRecoveryArgs) : Except DbError Unit :=
  if !c.complete then .ok ()
  else do
    ensure (!(c.status = .deferred && c.nextRetryAt.isNone))
      (.valueError "deferred recovery requires a retry time")
    ensure (!(c.status ≠ .deferred && c.nextRetryAt.isSome))
      (.valueError "only deferred recovery may carry a retry time")

/-- The recovery row without its lease. -/
def RecoveryRow.completed (s : RecoveryRow) (c : CompleteRecoveryArgs) (now : Instant) :
    RecoveryRow :=
  { s with
    status := c.status
    lastOutcome := some (.text c.outcome)
    lastError := c.error
    owner := none
    leaseToken := none
    leaseExpiresAt := none
    nextRetryAt := c.nextRetryAt
    updatedAt := now }

/-- `complete_recovery`. -/
def completeRecovery (c : CompleteRecoveryArgs) (now : Instant) (a : Authority) (x : Rows) :
    Except DbError (Bool × Rows) := do
  c.check
  if !(c.complete && x.recovery.leasedBy c.owner c.leaseToken c.workerGeneration now &&
      recoveryLeaseRows a x) then .ok (false, x)
  else do
    let completed : Rows :=
      { x with
        recovery := x.recovery.completed c now
        ownership := x.ownership.afterCompletion c.status now }
    let y ← completed.appendAttempt
      { attemptId := c.leaseToken ++ "-completed"
        workerIdentity := c.owner
        workerGeneration := c.workerGeneration
        attemptNumber := x.recovery.attemptNumber
        status := c.status
        cancellationStatus := some c.outcome
        reasonCode := "RECOVERY_COMPLETED"
        correlationId := a.run.correlationId
        requestedAt := now
        startedAt := none
        completedAt := some now
        nextRetryAt := none
        errorCode := c.error
        escalationLevel := x.recovery.escalationLevel
        healthReference := .recoveryCompletion }
    .ok (true, y)

theorem completeRecovery_ok {c : CompleteRecoveryArgs} {now : Instant} {a : Authority}
    {x y : Rows} {r : Bool} (h : completeRecovery c now a x = .ok (r, y)) :
    (r = false ∧ y = x) ∨
      (c.complete = true ∧
        x.recovery.leasedBy c.owner c.leaseToken c.workerGeneration now = true ∧ r = true ∧
        ∃ t, y = { x with
          recovery := x.recovery.completed c now
          ownership := x.ownership.afterCompletion c.status now
          attempts := t :: x.attempts }) := by
  unfold completeRecovery at h
  simp only [Checked.bind_ok, Checked.exists_unit] at h
  obtain ⟨-, h⟩ := h
  split at h
  · cases h
    exact Or.inl ⟨rfl, rfl⟩
  · rename_i hg
    simp only [Bool.not_eq_true', Bool.not_eq_false, Bool.and_eq_true] at hg
    simp only [Checked.bind_ok, Except.ok.injEq, Prod.mk.injEq] at h
    obtain ⟨z, hz, hok, rfl⟩ := h
    exact Or.inr ⟨hg.1.1, hg.1.2, hok.symm, _, appendAttempt_ok hz⟩

/-! ### Observations without a lease -/

/-- What the two recorders share: the observer, the outcome and the retry. -/
structure RecoveryObservation where
  executionId : String
  organizationId : String
  recoveryWorkerIdentity : String
  recoveryWorkerGeneration : String
  outcome : String
  error : String
  nextRetryAt : Option Instant
  exhausted : Bool
deriving DecidableEq, Repr

def RecoveryObservation.wellFormed (o : RecoveryObservation) : Bool :=
  nonBlankUpTo 512 o.executionId && nonBlankUpTo 512 o.organizationId &&
    nonBlankUpTo 512 o.recoveryWorkerIdentity && nonBlankUpTo 512 o.recoveryWorkerGeneration &&
    nonBlankUpTo 512 o.outcome && nonBlankUpTo 512 o.error

def RecoveryObservation.status (o : RecoveryObservation) : RecoveryStatus :=
  if o.exhausted then .exhausted else .deferred

/-- The recovery row has no lease and is not closed. -/
def RecoveryRow.open (s : RecoveryRow) : Bool :=
  s.status ≠ .inProgress && s.status ≠ .confirmedTerminated && s.status ≠ .exhausted &&
    s.owner.isNone && s.leaseToken.isNone

/-- The observation is the one already stored. -/
def RecoveryRow.holds (s : RecoveryRow) (o : RecoveryObservation) : Bool :=
  s.status = o.status && s.lastOutcome = some (.text o.outcome) && s.lastError = some o.error &&
    s.nextRetryAt = o.nextRetryAt

/-- The recovery row after an observation. -/
def RecoveryRow.observed (s : RecoveryRow) (o : RecoveryObservation) (now : Instant) :
    RecoveryRow :=
  { s with
    status := o.status
    workerGeneration := some o.recoveryWorkerGeneration
    attemptNumber := s.attemptNumber + 1
    lastOutcome := some (.text o.outcome)
    lastError := some o.error
    nextRetryAt := o.nextRetryAt
    owner := none
    leaseToken := none
    leaseExpiresAt := none
    updatedAt := now }

/-- What both recorders write: the projection and one attempt. -/
def Rows.observe (x : Rows) (o : RecoveryObservation) (a : Authority) (now : Instant)
    (attemptIdPrefix cancellationStatus reasonCode : String) (health : HealthReference) :
    Bool × Rows :=
  let attemptNumber := x.recovery.attemptNumber + 1
  let attemptId := attemptIdPrefix ++ o.executionId ++ "-" ++ toString attemptNumber
  match x.attempts.find? (·.attemptId = attemptId) with
  | some t =>
      (t.status = o.status && t.errorCode = some o.error && t.nextRetryAt = o.nextRetryAt, x)
  | none =>
      (true, { x with
        recovery := x.recovery.observed o now
        attempts :=
          { attemptId := attemptId
            workerIdentity := o.recoveryWorkerIdentity
            workerGeneration := o.recoveryWorkerGeneration
            attemptNumber := attemptNumber
            status := o.status
            cancellationStatus := some cancellationStatus
            reasonCode := reasonCode
            correlationId := a.run.correlationId
            requestedAt := now
            startedAt := some now
            completedAt := some now
            nextRetryAt := o.nextRetryAt
            errorCode := some o.error
            escalationLevel := 0
            healthReference := health } :: x.attempts })

/-- An observation is one the attempts hold already, or is written. -/
theorem observe_ok {x y : Rows} {o : RecoveryObservation} {a : Authority} {now : Instant}
    {attemptIdPrefix cancellationStatus reasonCode : String} {health : HealthReference} {r : Bool}
    (h : x.observe o a now attemptIdPrefix cancellationStatus reasonCode health = (r, y)) :
    y = x ∨ r = true ∧
      ∃ t, y = { x with recovery := x.recovery.observed o now, attempts := t :: x.attempts } := by
  unfold Rows.observe at h
  simp only at h
  split at h <;> cases h
  · exact Or.inl rfl
  · exact Or.inr ⟨rfl, _, rfl⟩

/-- A process identity as the supervisor and the callers pass it. -/
structure IdentityArgs where
  processId : Option Int
  processGroupId : Option String
  processStartToken : Option String
  sessionId : Option Int
deriving DecidableEq, Repr

/-- `windows:[1-9][0-9]*`. -/
def isWindowsStartToken (t : String) : Bool :=
  match t.toList.splitAt 8 with
  | (p, c :: cs) =>
      p = "windows:".toList && '1' ≤ c && c ≤ '9' && cs.all Char.isDigit
  | _ => false

/-- The shape of a process identity, POSIX or Windows. -/
def IdentityArgs.wellFormed (i : IdentityArgs) : Bool :=
  i.processId.any (1 < ·) &&
    match i.processStartToken with
    | none => false
    | some t =>
        if isWindowsStartToken t then i.processGroupId.isNone && i.sessionId.isNone
        else (i.processGroupId.bind natOfDigits).any (1 < ·) && i.sessionId.any (0 ≤ ·) &&
          (posixStartToken t).any fun p => bootIdShape p.1 && 0 < p.2

/-- The identity is the persisted one. -/
def OwnershipRow.hasIdentity (p : OwnershipRow) (i : IdentityArgs) : Bool :=
  p.rootProcessId = i.processId && p.processGroupId = i.processGroupId &&
    p.rootProcessStartToken = i.processStartToken && p.sessionId = i.sessionId.map toString

/-- The arguments of `record_unconfirmed_governed_recovery`. -/
structure UnconfirmedRecoveryArgs where
  observation : RecoveryObservation
  identity : IdentityArgs
  terminationStatus : String
deriving DecidableEq, Repr

/-- The row tests of `record_unconfirmed_governed_recovery`. -/
def unconfirmedRecordable (c : UnconfirmedRecoveryArgs) (now : Instant) (a : Authority)
    (x : Rows) : Bool :=
  x.ownership.ownershipState = .externalProcessGoverned &&
    x.ownership.launchCommitState = .committed && !x.run.state.isTerminal && x.recovery.open &&
    workerBound a x && !isBlank a.run.workerGeneration &&
    x.ownership.workerGeneration = some a.run.workerGeneration && correlationBound a &&
    (x.ownership.containerType = .posixSession || x.ownership.containerType = .windowsJob) &&
    x.ownership.hasIdentity c.identity &&
    x.ownership.identityAttestation.any (fun t => !isBlank t.text) &&
    (x.ownership.containerType ≠ .windowsJob ||
      windowsOwnershipValid x.ownership a a.decision.workerIdentity true now)

/-- The arguments are bounded and the identity has its shape. -/
def UnconfirmedRecoveryArgs.complete (c : UnconfirmedRecoveryArgs) : Bool :=
  c.observation.wellFormed && nonBlankUpTo 512 c.terminationStatus && c.identity.wellFormed

/-- What `record_unconfirmed_governed_recovery` raises before it reads. -/
def UnconfirmedRecoveryArgs.check (c : UnconfirmedRecoveryArgs) : Except DbError Unit :=
  if !c.complete then .ok ()
  else do
    ensure (!(c.observation.exhausted && c.observation.nextRetryAt.isSome))
      (.valueError "exhausted recovery cannot carry a retry time")
    ensure (c.observation.exhausted || c.observation.nextRetryAt.isSome)
      (.valueError "unconfirmed recovery requires a retry time")

/-- `record_unconfirmed_governed_recovery`. -/
def recordUnconfirmedGovernedRecovery (c : UnconfirmedRecoveryArgs) (now : Instant)
    (a : Authority) (x : Rows) : Except DbError (Bool × Rows) := do
  c.check
  if !(c.complete && unconfirmedRecordable c now a x) then .ok (false, x)
  else if x.recovery.holds c.observation then .ok (true, x)
  else .ok (x.observe c.observation a now "recovery-observation-" c.terminationStatus
    "EXECUTION_RECOVERY_UNCONFIRMED" .recoveryObservation)

theorem recordUnconfirmedGovernedRecovery_ok {c : UnconfirmedRecoveryArgs} {now : Instant}
    {a : Authority} {x y : Rows} {r : Bool}
    (h : recordUnconfirmedGovernedRecovery c now a x = .ok (r, y)) :
    (r = false ∧ y = x) ∨
      (x.recovery.open = true ∧
        (y = x ∨ r = true ∧ ∃ t, y = { x with
          recovery := x.recovery.observed c.observation now
          attempts := t :: x.attempts })) := by
  unfold recordUnconfirmedGovernedRecovery at h
  simp only [Checked.bind_ok, Checked.exists_unit] at h
  obtain ⟨-, h⟩ := h
  split at h
  · cases h
    exact Or.inl ⟨rfl, rfl⟩
  rename_i hg
  have ho : x.recovery.open = true := by
    simp only [unconfirmedRecordable, Bool.not_eq_true', Bool.not_eq_false, Bool.and_eq_true] at hg
    exact hg.2.1.1.1.1.1.1.1.1.2
  split at h
  · cases h
    exact Or.inr ⟨ho, Or.inl rfl⟩
  · rw [Except.ok.injEq] at h
    exact Or.inr ⟨ho, observe_ok h⟩

/-- The arguments of `record_unavailable_governed_recovery`. -/
structure UnavailableRecoveryArgs where
  observation : RecoveryObservation
  workerIdentity : Option String
  workerGeneration : Option String
deriving DecidableEq, Repr

/-- An `UNKNOWN` row no launch has written to. -/
def unknownUnboundShape (p : OwnershipRow) : Bool :=
  p.ownershipState = .unknown &&
    (p.launchCommitState = .notAttempted || p.launchCommitState = .uncertain) &&
    p.containerType = .none && p.workerGeneration.isNone && p.containerIdentity.isNone &&
    p.rootProcessId.isNone && p.rootProcessStartToken.isNone && p.processGroupId.isNone &&
    p.sessionId.isNone && p.identityAttestation.isNone && p.noProcessProof.isNone

/-- The row tests of `record_unavailable_governed_recovery`. -/
def unavailableRecordable (c : UnavailableRecoveryArgs) (a : Authority) (x : Rows) : Bool :=
  ((x.ownership.ownershipState = .externalProcessGoverned &&
      x.ownership.launchCommitState = .committed) ||
    (x.ownership.ownershipState = .unknown &&
      (x.ownership.launchCommitState = .notAttempted ||
        x.ownership.launchCommitState = .uncertain))) &&
    !x.run.state.isTerminal && x.recovery.open && workerBound a x &&
    !isBlank a.run.workerGeneration &&
    (x.ownership.workerGeneration = some a.run.workerGeneration ||
      unknownUnboundShape x.ownership) &&
    c.workerIdentity.all (some · = x.run.workerIdentity) &&
    c.workerGeneration.all (· = a.run.workerGeneration) && correlationBound a

/-- The arguments are bounded. -/
def UnavailableRecoveryArgs.complete (c : UnavailableRecoveryArgs) : Bool :=
  c.observation.wellFormed && c.workerIdentity.all (nonBlankUpTo 512) &&
    c.workerGeneration.all (nonBlankUpTo 512)

/-- What `record_unavailable_governed_recovery` raises before it reads. -/
def UnavailableRecoveryArgs.check (c : UnavailableRecoveryArgs) : Except DbError Unit :=
  if !c.complete then .ok ()
  else do
    ensure (!(c.observation.exhausted && c.observation.nextRetryAt.isSome))
      (.valueError "exhausted recovery cannot carry a retry time")
    ensure (c.observation.exhausted || c.observation.nextRetryAt.isSome)
      (.valueError "identity-unavailable recovery requires a retry time")

/-- `record_unavailable_governed_recovery`. -/
def recordUnavailableGovernedRecovery (c : UnavailableRecoveryArgs) (now : Instant)
    (a : Authority) (x : Rows) : Except DbError (Bool × Rows) := do
  c.check
  if !(c.complete && unavailableRecordable c a x) then .ok (false, x)
  else if x.recovery.holds c.observation then .ok (true, x)
  else .ok (x.observe c.observation a now "recovery-identity-unavailable-"
    "IDENTITY_UNAVAILABLE" "EXECUTION_RECOVERY_IDENTITY_UNAVAILABLE"
    .recoveryIdentityUnavailable)

theorem recordUnavailableGovernedRecovery_ok {c : UnavailableRecoveryArgs} {now : Instant}
    {a : Authority} {x y : Rows} {r : Bool}
    (h : recordUnavailableGovernedRecovery c now a x = .ok (r, y)) :
    (r = false ∧ y = x) ∨
      (x.recovery.open = true ∧
        (y = x ∨ r = true ∧ ∃ t, y = { x with
          recovery := x.recovery.observed c.observation now
          attempts := t :: x.attempts })) := by
  unfold recordUnavailableGovernedRecovery at h
  simp only [Checked.bind_ok, Checked.exists_unit] at h
  obtain ⟨-, h⟩ := h
  split at h
  · cases h
    exact Or.inl ⟨rfl, rfl⟩
  rename_i hg
  have ho : x.recovery.open = true := by
    simp only [unavailableRecordable, Bool.not_eq_true', Bool.not_eq_false, Bool.and_eq_true] at hg
    exact hg.2.1.1.1.1.1.1.2
  split at h
  · cases h
    exact Or.inr ⟨ho, Or.inl rfl⟩
  · rw [Except.ok.injEq] at h
    exact Or.inr ⟨ho, observe_ok h⟩

end CyberAssess
