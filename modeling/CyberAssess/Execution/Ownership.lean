import CyberAssess.Support.Text
import CyberAssess.Execution.Authority

/-!
# Execution — process ownership and recovery leases

The calls of `core/db.py` that write `execution_process_ownership` and
`execution_recovery_state` without settling the run.

* `transitionProcessOwnership` initialises or moves the ownership row under its fence.
* `transitionCommittedProcessToRecoveryBlocked` is the safety downgrade of a governed process.
* `claimRecovery`, `renewRecovery`, `completeRecovery`: the recovery lease.
* `recordUnconfirmedGovernedRecovery`, `recordUnavailableGovernedRecovery`: the retryable
  observations of the reaper.

None of them writes the request, the decision, the run or the dispatch (`SameAuthority`).
-/

namespace CyberAssess

open Checked (ensure)
open Python (isBlank strip nonBlankUpTo isDigits natOfDigits splitThree)

/-- The request, decision, run and dispatch rows are as they were. -/
structure SameAuthority (x y : Rows) : Prop where
  request : y.request = x.request
  decision : y.decision = x.decision
  run : y.run = x.run
  dispatch : y.dispatch = x.dispatch

theorem SameAuthority.refl (x : Rows) : SameAuthority x x := ⟨rfl, rfl, rfl, rfl⟩

/-- The run's worker is the decision's, and named. -/
def workerBound (a : Authority) (x : Rows) : Bool :=
  x.run.workerIdentity = some a.decision.workerIdentity && !isBlank a.decision.workerIdentity

/-- The ownership row and the run carry one correlation. -/
def correlationBound (a : Authority) : Bool :=
  a.ownershipCorrelationId = a.run.correlationId && !isBlank a.run.correlationId

/-! ### The ownership row -/

/-- `ExecutionProcessOwnershipRecord`. -/
structure OwnershipRecord where
  ownershipState : OwnershipState
  containerType : ContainerType
  containerIdentity : Option String
  rootProcessId : Option Int
  rootProcessStartToken : Option String
  processGroupId : Option String
  sessionId : Option String
  workerGeneration : Option String
  launchCommitState : LaunchCommitState
  noProcessProof : Option ProofText
  identityAttestation : Option Attestation
  correlationId : String
  launchedAt : Option Instant
  lastVerifiedAt : Option Instant
  terminalizedAt : Option Instant
  updatedAt : Instant
deriving DecidableEq, Repr

/-- `not value` of an optional proof text. -/
def proofMissing : Option ProofText → Bool
  | none => true
  | some (.text t) => t.isEmpty
  | some (.envelope _) => false

/-- `not value` of an optional attestation text. -/
def attestationMissing (a : Option Attestation) : Bool := a.all (·.text.isEmpty)

/-- `validate_identity_dimension`, the model validator of the record. -/
def OwnershipRecord.valid (r : OwnershipRecord) : Bool :=
  match r.ownershipState with
  | .noExternalProcess =>
      r.containerType = .none && r.rootProcessId.isNone && !proofMissing r.noProcessProof
  | .externalProcessGoverned =>
      r.containerType ≠ .none && r.rootProcessId.isSome && !attestationMissing r.identityAttestation
  | _ => true

/-- The arguments of `transition_process_ownership`. -/
structure TransitionOwnershipArgs where
  executionId : String
  organizationId : String
  record : OwnershipRecord
  expectedState : OwnershipState
  workerIdentity : Option String
deriving DecidableEq, Repr

/-- A persisted value is empty or the one supplied. -/
def keeps {α : Type} [DecidableEq α] (persisted supplied : Option α) : Bool :=
  persisted.isNone || persisted = supplied

/-- `not immutable_mismatches`: an `UNKNOWN` row has to be empty, any other keeps its identity. -/
def ownershipCompatible (r : OwnershipRecord) (p : OwnershipRow) : Bool :=
  match p.ownershipState with
  | .unknown =>
      p.containerType = .none && p.launchCommitState = .notAttempted && p.rootProcessId.isNone &&
        p.rootProcessStartToken.isNone && p.processGroupId.isNone && p.sessionId.isNone &&
        p.containerIdentity.isNone && p.workerGeneration.isNone &&
        p.identityAttestation.isNone && p.noProcessProof.isNone
  | _ =>
      keeps p.rootProcessId r.rootProcessId &&
        keeps p.rootProcessStartToken r.rootProcessStartToken &&
        keeps p.processGroupId r.processGroupId && keeps p.sessionId r.sessionId &&
        p.containerType = r.containerType && keeps p.containerIdentity r.containerIdentity &&
        keeps p.workerGeneration r.workerGeneration &&
        keeps p.identityAttestation r.identityAttestation &&
        (p.launchCommitState ≠ .committed || r.launchCommitState = .committed)

/-- The replay of a terminal row. -/
def ownershipReplays (r : OwnershipRecord) (a : Authority) (p : OwnershipRow) : Bool :=
  r.ownershipState = .terminal && p.containerType = r.containerType &&
    p.containerIdentity = r.containerIdentity && p.rootProcessId = r.rootProcessId &&
    p.rootProcessStartToken = r.rootProcessStartToken && p.processGroupId = r.processGroupId &&
    p.sessionId = r.sessionId && p.workerGeneration = r.workerGeneration &&
    p.launchCommitState = r.launchCommitState && p.noProcessProof = r.noProcessProof &&
    p.identityAttestation = r.identityAttestation &&
    a.ownershipCorrelationId = r.correlationId && p.lastVerifiedAt = r.lastVerifiedAt &&
    p.terminalizedAt = r.terminalizedAt

/-- The dispatch states under which a row that is not `UNKNOWN` may move. -/
def ownershipDispatchAllowed (expected : OwnershipState) (d : DispatchState) : Bool :=
  match d with
  | .claimed | .completed => true
  | .failed | .blocked => expected = .terminal
  | .pending => false

/-- The worker fence of `transition_process_ownership`. -/
def ownershipFence (c : TransitionOwnershipArgs) (a : Authority) (x : Rows) : Bool :=
  workerBound a x && c.workerIdentity.any (fun w => strip w = a.decision.workerIdentity) &&
    !isBlank a.run.workerGeneration && c.record.workerGeneration = some a.run.workerGeneration

/-- The authority a row that is not `UNKNOWN` still needs. -/
def ownershipAuthorized (c : TransitionOwnershipArgs) (a : Authority) (x : Rows) : Bool :=
  c.expectedState = .unknown ||
    (x.request.state = .authorized && a.decision.approvalState = .approved &&
      x.decision.revokedAt.isNone && ownershipDispatchAllowed c.expectedState x.dispatch.state)

/-- The ownership row as the record has it; the `UPDATE` does not name `launched_at`. -/
def OwnershipRow.recorded (p : OwnershipRow) (r : OwnershipRecord) : OwnershipRow :=
  { p with
    ownershipState := r.ownershipState
    containerType := r.containerType
    containerIdentity := r.containerIdentity
    rootProcessId := r.rootProcessId
    rootProcessStartToken := r.rootProcessStartToken
    processGroupId := r.processGroupId
    sessionId := r.sessionId
    workerGeneration := r.workerGeneration
    launchCommitState := r.launchCommitState
    noProcessProof := r.noProcessProof
    identityAttestation := r.identityAttestation
    lastVerifiedAt := r.lastVerifiedAt
    terminalizedAt := r.terminalizedAt
    updatedAt := r.updatedAt }

/-- What `transition_process_ownership` raises before it reads. -/
def TransitionOwnershipArgs.check (c : TransitionOwnershipArgs) : Except DbError Unit := do
  ensure c.record.valid (.valueError "process ownership record is invalid")
  ensure (decide (c.record.ownershipState ≠ .unknown))
    (.valueError "UNKNOWN process ownership is migration-only")
  ensure (isValidProcessOwnershipTransition c.expectedState c.record.ownershipState)
    (.valueError "illegal process ownership transition")

/-- `transition_process_ownership`. -/
def transitionProcessOwnership (c : TransitionOwnershipArgs) (a : Authority) (x : Rows) :
    Except DbError (Bool × Rows) := do
  c.check
  if !(c.workerIdentity.any (nonBlankUpTo 256) &&
      c.record.workerGeneration.any (nonBlankUpTo 256) &&
      !isBlank c.record.correlationId) then .ok (false, x)
  else if !(ownershipFence c a x && ownershipAuthorized c a x &&
      !isBlank a.ownershipCorrelationId && ownershipCompatible c.record x.ownership) then
    .ok (false, x)
  else if x.ownership.ownershipState = .terminal then
    .ok (ownershipReplays c.record a x.ownership, x)
  else if x.ownership.ownershipState = c.expectedState &&
      a.ownershipCorrelationId = c.record.correlationId then
    .ok (true, { x with ownership := x.ownership.recorded c.record })
  else .ok (false, x)

/-- What a written transition has passed. -/
structure OwnershipMove (c : TransitionOwnershipArgs) (a : Authority) (x : Rows) : Prop where
  checked : c.check = .ok ()
  fenced : ownershipFence c a x = true
  authorized : ownershipAuthorized c a x = true
  compatible : ownershipCompatible c.record x.ownership = true
  unended : x.ownership.ownershipState ≠ .terminal
  expected : x.ownership.ownershipState = c.expectedState
  correlated : a.ownershipCorrelationId = c.record.correlationId

/-- A transition answers, replays a terminal row, or writes its record. -/
theorem transitionProcessOwnership_ok {c : TransitionOwnershipArgs} {a : Authority}
    {x y : Rows} {r : Bool} (h : transitionProcessOwnership c a x = .ok (r, y)) :
    (r = false ∧ y = x) ∨
      (x.ownership.ownershipState = .terminal ∧ r = ownershipReplays c.record a x.ownership ∧
        y = x) ∨
      (OwnershipMove c a x ∧ r = true ∧
        y = { x with ownership := x.ownership.recorded c.record }) := by
  unfold transitionProcessOwnership at h
  simp only [Checked.bind_ok, Checked.exists_unit] at h
  obtain ⟨hc, h⟩ := h
  split at h
  · cases h
    exact Or.inl ⟨rfl, rfl⟩
  split at h
  · cases h
    exact Or.inl ⟨rfl, rfl⟩
  rename_i hg
  simp only [Bool.not_eq_true', Bool.not_eq_false, Bool.and_eq_true] at hg
  obtain ⟨⟨⟨fenced, authorized⟩, -⟩, compatible⟩ := hg
  split at h
  · rename_i ht
    cases h
    exact Or.inr (Or.inl ⟨ht, rfl, rfl⟩)
  rename_i ht
  split at h <;> cases h
  · rename_i hs
    simp only [Bool.and_eq_true, decide_eq_true_eq] at hs
    exact Or.inr (Or.inr ⟨⟨hc, fenced, authorized, compatible, ht, hs.1, hs.2⟩, rfl, rfl⟩)
  · exact Or.inl ⟨rfl, rfl⟩

/-! ### Identity checks shared by the readers -/

/-- `posix:<boot id>:<ticks>` with positive ticks. -/
def posixStartToken (t : String) : Option (String × Nat) :=
  match splitThree t with
  | some (p, boot, ticks) =>
      if p = "posix" then (natOfDigits ticks).map fun n => (boot, n) else none
  | none => none

/-- `[0-9a-fA-F-]{8,128}`. -/
def bootIdShape (s : String) : Bool :=
  8 ≤ s.length && s.length ≤ 128 && s.toList.all fun c =>
    c.isDigit || ('a' ≤ c && c ≤ 'f') || ('A' ≤ c && c ≤ 'F') || c = '-'

/-- `posix-session:<session>:group:<group>`. -/
def posixContainerIdentity (session group : String) : String :=
  "posix-session:" ++ session ++ ":group:" ++ group

/-- One member of the snapshot belongs to the session and boot of the root. -/
def memberBound (boot : String) (session : Nat) (m : ProcessMember) : Bool :=
  1 < m.pid && 1 < m.processGroupId && m.sessionId = session &&
    (posixStartToken m.startToken).any fun p => p.1 = boot && 0 < p.2

/-- The member snapshot is bounded, without repeats, and holds the root process. -/
def memberSnapshotBound (p : OwnershipRow) (att : PosixAttestation) (boot : String)
    (group session : Nat) : Bool :=
  !att.memberSnapshot.isEmpty && att.memberSnapshot.length ≤ 512 &&
    (att.memberSnapshot.map (·.pid)).Nodup && att.memberSnapshot.all (memberBound boot session) &&
    att.memberSnapshot.any fun m =>
      p.rootProcessId = some (m.pid : Int) && m.processGroupId = group &&
        p.rootProcessStartToken = some m.startToken

/-- The attestation is the one of the row's own columns. -/
def posixAttestationBound (p : OwnershipRow) (att : PosixAttestation) (workerGeneration : String)
    (boot : String) (ticks group session : Nat) : Bool :=
  att.verified && att.workerGeneration = workerGeneration && att.bootId = boot &&
    att.rootStartTicks = ticks && att.sessionId = session && att.processGroupId = group &&
    p.containerIdentity = some (posixContainerIdentity (p.sessionId.getD "")
      (p.processGroupId.getD ""))

/-- `validate_windows_ownership`; with `historical` the expiry is not read. -/
def windowsOwnershipValid (p : OwnershipRow) (a : Authority) (workerIdentity : String)
    (historical : Bool) (now : Instant) : Bool :=
  match p.identityAttestation with
  | some ⟨_, .windows w⟩ =>
      p.containerType = .windowsJob && p.processGroupId.isNone && p.sessionId.isNone &&
        w.verified && p.containerIdentity = some w.jobIdentity &&
        w.executionId = a.run.executionId && w.organizationId = a.run.organizationId &&
        p.rootProcessId = some w.rootProcessId &&
        p.rootProcessStartToken = some w.rootProcessStartToken &&
        p.workerGeneration = some w.workerGeneration && w.workerIdentity = workerIdentity &&
        w.capturedAt ≤ now && (historical || now < w.expiresAt)
  | _ => false

/-- The identity checks of a POSIX row that every reader of it makes. -/
def posixOwnershipValid (p : OwnershipRow) (workerGeneration : String) : Bool :=
  p.containerType = .posixSession &&
    match p.identityAttestation, p.rootProcessStartToken, p.processGroupId.bind natOfDigits,
        p.sessionId.bind natOfDigits with
    | some ⟨_, .posix att⟩, some token, some group, some session =>
        match posixStartToken token with
        | some (boot, ticks) =>
            1 < group && posixAttestationBound p att workerGeneration boot ticks group session &&
              memberSnapshotBound p att boot group session
        | none => false
    | _, _, _, _ => false

/-! ### The safety downgrade -/

/-- The arguments of `transition_committed_process_to_recovery_blocked`. -/
structure BlockCommittedArgs where
  executionId : String
  organizationId : String
  workerIdentity : String
  workerGeneration : String
deriving DecidableEq, Repr

/-- The row tests of `transition_committed_process_to_recovery_blocked`. -/
def committedProcessBlockable (c : BlockCommittedArgs) (now : Instant) (a : Authority)
    (x : Rows) : Bool :=
  x.ownership.ownershipState = .externalProcessGoverned &&
    x.ownership.launchCommitState = .committed && !x.run.state.isTerminal &&
    (x.request.state = .authorized || x.request.state = .revoked) &&
    a.decision.approvalState = .approved && x.recovery.status ≠ .confirmedTerminated &&
    x.run.workerIdentity = some c.workerIdentity && a.decision.workerIdentity = c.workerIdentity &&
    a.run.workerGeneration = c.workerGeneration &&
    x.ownership.workerGeneration = some c.workerGeneration && correlationBound a &&
    (if x.ownership.containerType = .windowsJob then
      windowsOwnershipValid x.ownership a c.workerIdentity true now
    else x.ownership.rootProcessId.any (1 < ·) &&
      posixOwnershipValid x.ownership c.workerGeneration)

/-- `transition_committed_process_to_recovery_blocked`. -/
def transitionCommittedProcessToRecoveryBlocked (c : BlockCommittedArgs) (now : Instant)
    (a : Authority) (x : Rows) : Except DbError (Bool × Rows) :=
  if nonBlankUpTo 256 c.executionId && nonBlankUpTo 256 c.organizationId &&
      nonBlankUpTo 256 c.workerIdentity && nonBlankUpTo 256 c.workerGeneration &&
      committedProcessBlockable c now a x then
    .ok (true, { x with ownership := { x.ownership with
      ownershipState := .recoveryBlocked
      updatedAt := now } })
  else .ok (false, x)

theorem transitionCommittedProcessToRecoveryBlocked_ok {c : BlockCommittedArgs}
    {now : Instant} {a : Authority} {x y : Rows} {r : Bool}
    (h : transitionCommittedProcessToRecoveryBlocked c now a x = .ok (r, y)) :
    (r = false ∧ y = x) ∨
      (committedProcessBlockable c now a x = true ∧ r = true ∧
        y = { x with ownership := { x.ownership with
          ownershipState := .recoveryBlocked
          updatedAt := now } }) := by
  unfold transitionCommittedProcessToRecoveryBlocked at h
  split at h <;> cases h
  · rename_i hs
    simp only [Bool.and_eq_true] at hs
    exact Or.inr ⟨hs.2, rfl, rfl⟩
  · exact Or.inl ⟨rfl, rfl⟩

end CyberAssess
