import CyberAssess.Service.TerminalReplay
import CyberAssess.Guarantees.OwnershipMachine
import CyberAssess.Guarantees.ScanLifecycle

/-!
# Guarantees — a settled child is replayed

* `replays_iff`: the reader accepts a child that is its own evidence exactly when the checks of
  the run, the recovery and the proof hold of its rows.
-/

namespace CyberAssess

open Checked (ensure refuse ensureEach)
open Python

/-! ### The reader on its own child -/

/-- The binding, with the rows `y` for its child. -/
def ScanLaunchBinding.after (b : ScanLaunchBinding) (y : Rows) : ScanLaunchBinding :=
  { b with child := ⟨b.child.fixed, y⟩ }

/-- The states and columns of the binding that no settlement writes. -/
structure ScanLaunchBinding.Joined (b : ScanLaunchBinding) : Prop where
  parent : replayParentState b.parent.data.state = true
  request : replayRequestState b.child.data.request.state = true
  approved : b.child.fixed.decision.approvalState = .approved
  named : isBlank b.executionId = false ∧ isBlank b.organizationId = false
  columns : assertReplayBinding b = .ok ()

/-- The recovery row says no more than that nothing was recovered, or that one attempt was. -/
def recoveryExplained (a : Authority) (x : Rows) : Prop :=
  x.recovery.workerGeneration = some a.run.workerGeneration ∧ x.recovery.quiet = true ∧
    ((x.recovery.status = .requested ∧ x.recovery.attemptNumber = 0 ∧ confirmedAttempt x = none ∧
        x.recovery.lastOutcome = none ∧ x.recovery.escalationLevel = 0) ∨
      (x.recovery.status = .confirmedTerminated ∧ 1 ≤ x.recovery.attemptNumber ∧
        x.recovery.lastOutcome.isSome = true ∧
        ∃ t, confirmedAttempt x = some t ∧ confirmedAttemptBound a x t = true))

/-- The run, the dispatch and the ownership row, beside the proof. -/
structure RunExplained (a : Authority) (x : Rows) : Prop where
  outcome : isValidExecutionTerminalOutcome x.run.state x.run.reasonCode = true
  dispatch : x.dispatch.state = expectedTerminalDispatch x.run.state
  unleased : x.dispatch.claimedBy = none ∧ x.dispatch.claimToken = none ∧
    x.dispatch.leaseExpiresAt = none
  generation : x.ownership.workerGeneration = some a.run.workerGeneration
  correlated : correlationBound a = true

/-- The proof repeats the rows. -/
structure ProofExplained (a : Authority) (x : Rows) (p : ExecutionProof)
    (ownershipState : OwnershipState) : Prop where
  executionId : p.executionId = a.run.executionId
  organizationId : p.organizationId = a.run.organizationId
  requestId : p.requestId = a.run.requestId
  decisionId : p.decisionId = a.run.approvedDecisionId
  terminalState : p.terminalState = x.run.state
  dispatchState : p.dispatchState = expectedTerminalDispatch x.run.state
  ownershipState : p.ownershipState = ownershipState
  containerType : p.containerType = x.ownership.containerType
  launchCommitState : p.launchCommitState = x.ownership.launchCommitState
  workerIdentity : some p.workerIdentity = x.run.workerIdentity
  workerGeneration : p.workerGeneration = a.run.workerGeneration
  correlationId : p.correlationId = a.run.correlationId
  claimIdentityDigest : p.claimIdentityDigest = decisionDigest x.claimEvents
  dispatchIdentityDigest : p.dispatchIdentityDigest = dispatchDigest x.claimEvents
  reasonCode : p.reasonCode = x.run.reasonCode
  recoveryStatus : p.recoveryStatus = x.recovery.status
  recoveryAttemptNumber : p.recoveryAttemptNumber = x.recovery.attemptNumber
  recoveryAttemptId : p.recoveryAttemptId = replayAttemptId x

/-- The stored outcome of a recovery is the proof, under one of the statuses. -/
def outcomeExplained (x : Rows) (statuses : List String) : Prop :=
  x.recovery.status = .confirmedTerminated →
    x.recovery.lastOutcome = x.ownership.noProcessProof ∧
      ∃ s ∈ statuses, attemptCancellation x = some s

/-- The rows of a child that ended without a process. -/
structure NoProcessExplained (a : Authority) (x : Rows) (p : ExecutionProof) : Prop where
  identity : withoutIdentity x.ownership = true
  process : x.run.processId = none ∧ x.run.processGroupId = none
  reason : ∃ r, p.reasonCode = some r ∧ r.isRegistered = true ∧ p.detail = .noExternalProcess r
  claimed : (decisionDigest x.claimEvents).isSome = true ∨
    (x.run.state = .cancelled ∧ p.reasonCode = some .executionCancelledBeforeDispatch)
  repeated : ProofExplained a x p x.ownership.ownershipState
  observed : x.ownership.lastVerifiedAt = some p.observedAt
  outcome : outcomeExplained x ["NO_EXTERNAL_PROCESS", "PRE_DISPATCH", "CONFIRMED"]

/-- The identity columns a reader of a process asks for. -/
structure ProcessRecorded (x : Rows) : Prop where
  container : x.ownership.containerType = .posixSession ∨ x.ownership.containerType = .windowsJob
  committed : x.ownership.launchCommitState = .committed
  columns : given x.ownership.containerIdentity = true ∧
    given x.ownership.rootProcessStartToken = true ∧
    given (x.ownership.identityAttestation.map (·.text)) = true ∧
    x.ownership.lastVerifiedAt.isSome = true
  session : x.ownership.containerType = .posixSession →
    given x.ownership.processGroupId = true ∧ given x.ownership.sessionId = true
  root : x.ownership.rootProcessId.any (1 < ·) = true
  run : x.run.processId = x.ownership.rootProcessId ∧
    x.run.processGroupId = x.ownership.processGroupId

/-- The session a POSIX row names is the attested one. -/
def posixExplained (p : OwnershipRow) : Prop :=
  ∃ boot ticks group session text att,
    p.rootProcessStartToken.bind posixStartToken = some (boot, ticks) ∧
      p.processGroupId.bind natOfDigits = some group ∧
      p.sessionId.bind natOfDigits = some session ∧
      (bootIdShape boot = true ∧ 0 < ticks ∧ 1 < group) ∧
      p.identityAttestation = some ⟨text, .posix att⟩ ∧
      posixAttestationBound p att (p.workerGeneration.getD "") boot ticks group session = true

/-- The attestation of the row, whichever container it has. -/
def identityExplained (a : Authority) (x : Rows) (now : Instant) : Prop :=
  if x.ownership.containerType = .windowsJob then
    windowsOwnershipValid x.ownership a (x.run.workerIdentity.getD "") true now = true
  else posixExplained x.ownership

/-- The rows of a child that ended with a process. -/
structure ProcessExplained (a : Authority) (x : Rows) (p : ExecutionProof) (now : Instant) :
    Prop where
  ended : x.ownership.ownershipState = .terminal
  recorded : ProcessRecorded x
  claimed : (decisionDigest x.claimEvents).isSome = true
  identity : identityExplained a x now
  evidence : ∃ status, status.isProcess = true ∧
    p.detail = .terminationConfirmed (terminationEvidence x.ownership status) ∧
    outcomeExplained x [status.value]
  repeated : ProofExplained a x p .terminal
  observed : x.ownership.terminalizedAt = some p.observedAt

variable {b : ScanLaunchBinding} {now : Instant} {db : Db}

/-- The run and the request of a joined binding name each other. -/
theorem ScanLaunchBinding.Joined.pairs (h : b.Joined) :
    b.child.fixed.run.requestId = b.child.fixed.request.id ∧
      b.child.fixed.run.organizationId = b.organizationId ∧
      b.child.fixed.run.approvedDecisionId = b.child.fixed.decision.id ∧
      b.child.data.run.workerIdentity = some b.child.fixed.decision.workerIdentity := by
  have columns := h.columns
  simp only [assertReplayBinding, bindingPairs, Checked.bind_ok, Checked.exists_unit,
    Checked.ensureEach_ok, Checked.refuse_ok, List.forall_mem_cons, decide_eq_true_eq] at columns
  obtain ⟨-, -, ⟨request, organization, decision, worker, -⟩, -⟩ := columns
  exact ⟨request, organization, decision, worker⟩

/-- The states hold of a joined binding whose run has ended with its dispatch. -/
theorem states_iff (ht : b.child.data.run.state.isTerminal = true)
    (hd : b.child.data.dispatch.state = expectedTerminalDispatch b.child.data.run.state) :
    assertReplayStates b = .ok () ∧ assertReplayBinding b = .ok () ↔ b.Joined := by
  simp only [assertReplayStates, Checked.bind_ok, Checked.exists_unit, Checked.ensure_ok, ht, hd,
    Bool.and_eq_true, Bool.not_eq_true', decide_eq_true_eq, true_and]
  constructor
  · rintro ⟨⟨named, parent, request, approved⟩, columns⟩
    exact ⟨parent, request, approved, named, columns⟩
  · rintro ⟨parent, request, approved, named, columns⟩
    exact ⟨⟨named, parent, request, approved⟩, columns⟩

/-- The run checks of a joined binding. -/
theorem run_iff (h : b.Joined)
    (hd : b.child.data.dispatch.state = expectedTerminalDispatch b.child.data.run.state) :
    assertReplayRun b b.child = .ok () ↔ RunExplained b.child.fixed b.child.data := by
  obtain ⟨request, -, decision, -⟩ := h.pairs
  simp only [assertReplayRun, Checked.bind_ok, Checked.exists_unit, Checked.ensure_ok,
    Checked.ensureEach_ok, List.forall_mem_cons, List.not_mem_nil, false_imp_iff, implies_true,
    decide_eq_true_eq, Bool.and_eq_true, Option.isNone_iff_eq_none, request, decision, hd,
    true_and, and_true, Bool.not_eq_true']
  constructor
  · rintro ⟨outcome, ⟨⟨by', token⟩, lease⟩, ⟨generation, correlation⟩, named⟩
    refine ⟨outcome, hd, ⟨by', token, lease⟩, generation, ?_⟩
    simp only [correlationBound, Bool.and_eq_true, decide_eq_true_eq, Bool.not_eq_true']
    exact ⟨correlation, correlation ▸ named⟩
  · rintro ⟨outcome, -, ⟨by', token, lease⟩, generation, correlated⟩
    simp only [correlationBound, Bool.and_eq_true, decide_eq_true_eq, Bool.not_eq_true']
      at correlated
    exact ⟨outcome, ⟨⟨by', token⟩, lease⟩, ⟨generation, correlated.1⟩,
      correlated.1 ▸ correlated.2⟩

/-- The attempt checks are those a proof was written under. -/
theorem attempt_iff {t : RecoveryAttempt} (hc : correlationBound b.child.fixed = true)
    (ho : b.child.data.recovery.lastOutcome.isSome = true) :
    assertReplayAttempt b b.child t = .ok () ↔
      confirmedAttemptBound b.child.fixed b.child.data t = true := by
  simp only [correlationBound, Bool.and_eq_true, decide_eq_true_eq, Bool.not_eq_true'] at hc
  simp only [assertReplayAttempt, confirmedAttemptBound, RecoveryAttempt.named, Checked.bind_ok,
    Checked.exists_unit, Checked.ensure_ok, Checked.ensureEach_ok, List.forall_mem_cons,
    List.not_mem_nil, false_imp_iff, implies_true, decide_eq_true_eq, Bool.and_eq_true,
    Bool.not_eq_true', and_true, ho]
  constructor
  · rintro ⟨attempt, ⟨worker, generation, number, correlation⟩,
      ⟨⟨⟨⟨⟨identity, status⟩, blank⟩, reason⟩, error⟩, retry⟩, escalation, -, -, ordered⟩
    exact ⟨⟨⟨⟨⟨⟨⟨⟨⟨⟨⟨⟨⟨attempt, identity⟩, blank⟩, correlation ▸ hc.2⟩, ordered⟩, worker⟩,
      generation⟩, number⟩, correlation⟩, reason.symm⟩, status⟩, error⟩, retry⟩, escalation⟩
  · rintro ⟨⟨⟨⟨⟨⟨⟨⟨⟨⟨⟨⟨⟨attempt, identity⟩, blank⟩, -⟩, ordered⟩, worker⟩, generation⟩, number⟩,
      correlation⟩, reason⟩, status⟩, error⟩, retry⟩, escalation⟩
    obtain ⟨started, completed⟩ : t.startedAt.isSome = true ∧ t.completedAt.isSome = true := by
      unfold RecoveryAttempt.ordered at ordered
      cases hs : t.startedAt with
      | none => simp [hs] at ordered
      | some s =>
          cases hd : t.completedAt with
          | none => simp [hs, hd] at ordered
          | some d => exact ⟨rfl, rfl⟩
    exact ⟨attempt, ⟨worker, generation, number, correlation⟩,
      ⟨⟨⟨⟨⟨identity, status⟩, blank⟩, reason.symm⟩, error⟩, retry⟩, escalation, started, completed,
      ordered⟩

/-- The recovery checks. -/
theorem recovery_iff (hc : correlationBound b.child.fixed = true) :
    assertReplayRecovery b b.child = .ok () ↔
      recoveryExplained b.child.fixed b.child.data := by
  simp only [assertReplayRecovery, recoveryExplained, RecoveryRow.quiet, Checked.bind_ok,
    Checked.exists_unit, Checked.ensure_ok, Bool.and_eq_true, Bool.or_eq_true, decide_eq_true_eq]
  by_cases hr : b.child.data.recovery.status = .requested
  · simp only [hr, if_true, Checked.ensure_ok, Bool.and_eq_true, decide_eq_true_eq,
      Option.isNone_iff_eq_none]
    constructor
    · rintro ⟨generation, -, error, lease, ⟨⟨number, attempt⟩, outcome⟩, escalation⟩
      exact ⟨generation, ⟨⟨⟨⟨error, lease.1.1.1⟩, lease.1.1.2⟩, lease.1.2⟩, lease.2⟩,
        Or.inl ⟨trivial, number, attempt, outcome, escalation⟩⟩
    · rintro ⟨generation, quiet, ⟨-, number, attempt, outcome, escalation⟩ | ⟨h, -⟩⟩
      · exact ⟨generation, Or.inl trivial, quiet.1.1.1.1,
          ⟨⟨⟨quiet.1.1.1.2, quiet.1.1.2⟩, quiet.1.2⟩, quiet.2⟩,
          ⟨⟨number, attempt⟩, outcome⟩, escalation⟩
      · cases h
  · simp only [hr, if_false, false_or, false_and]
    constructor
    · rintro ⟨generation, status, error, lease, attempt⟩
      refine ⟨generation, ⟨⟨⟨⟨error, lease.1.1.1⟩, lease.1.1.2⟩, lease.1.2⟩, lease.2⟩, status, ?_⟩
      cases ht : confirmedAttempt b.child.data with
      | none => simp [ht] at attempt
      | some t =>
          simp only [ht, Checked.bind_ok, Checked.exists_unit, Checked.ensure_ok,
            decide_eq_true_eq] at attempt
          have outcome : b.child.data.recovery.lastOutcome.isSome = true := by
            have asserted := attempt.2
            simp only [assertReplayAttempt, Checked.bind_ok, Checked.exists_unit,
              Checked.ensure_ok, Bool.and_eq_true] at asserted
            exact asserted.2.2.1.1.1.2
          exact ⟨attempt.1, outcome, t, rfl, (attempt_iff hc outcome).mp attempt.2⟩
    · rintro ⟨generation, quiet, status, number, outcome, t, ht, bound⟩
      refine ⟨generation, status, quiet.1.1.1.1,
        ⟨⟨⟨quiet.1.1.1.2, quiet.1.1.2⟩, quiet.1.2⟩, quiet.2⟩, ?_⟩
      simp only [ht, Checked.bind_ok, Checked.exists_unit, Checked.ensure_ok, decide_eq_true_eq]
      exact ⟨number, (attempt_iff hc outcome).mpr bound⟩

/-- The fields of a proof that repeat the evidence. -/
theorem proofFields_iff {p : ExecutionProof} {s : OwnershipState} (h : b.Joined) :
    (∀ f ∈ proofFields b b.child p s, f.2 = true) ↔
      ProofExplained b.child.fixed b.child.data p s := by
  obtain ⟨request, organization, decision, -⟩ := h.pairs
  simp only [proofFields, List.forall_mem_cons, List.not_mem_nil, false_imp_iff, implies_true,
    decide_eq_true_eq, and_true, ← request, ← organization, ← decision]
  constructor
  · rintro ⟨h₁, h₂, h₃, h₄, h₅, h₆, h₇, h₈, h₉, h₁₀, h₁₁, h₁₂, h₁₃, h₁₄, h₁₅, h₁₆, h₁₇, h₁₈⟩
    exact ⟨h₁, h₂, h₃, h₄, h₅, h₆, h₇, h₈, h₉, h₁₀, h₁₁, h₁₂, h₁₃, h₁₄, h₁₅, h₁₆, h₁₇, h₁₈⟩
  · rintro ⟨h₁, h₂, h₃, h₄, h₅, h₆, h₇, h₈, h₉, h₁₀, h₁₁, h₁₂, h₁₃, h₁₄, h₁₅, h₁₆, h₁₇, h₁₈⟩
    exact ⟨h₁, h₂, h₃, h₄, h₅, h₆, h₇, h₈, h₉, h₁₀, h₁₁, h₁₂, h₁₃, h₁₄, h₁₅, h₁₆, h₁₇, h₁₈⟩

/-- The check of the stored outcome. -/
theorem outcome_iff {x : Rows} {statuses : List String} {message : String} :
    assertReplayOutcome x statuses message = .ok () ↔ outcomeExplained x statuses := by
  unfold assertReplayOutcome outcomeExplained
  by_cases h : x.recovery.status = .confirmedTerminated
  · simp only [h, if_true, Checked.bind_ok, Checked.exists_unit, Checked.ensure_ok,
      decide_eq_true_eq, forall_const, Option.any_eq_true]
    constructor
    · rintro ⟨same, s, hs, hm⟩
      exact ⟨same, s, hm, hs⟩
    · rintro ⟨same, s, hm, hs⟩
      exact ⟨same, s, hs, hm⟩
  · simp [h]

/-- The checks of a child that ended without a process. -/
theorem noProcess_iff {p : ExecutionProof} (h : b.Joined)
    (hs : noProcessShape b.child.data.ownership = true)
    (hp : b.child.data.ownership.noProcessProof = some (.envelope p)) :
    assertNoProcessReplay b b.child = .ok () ↔
      NoProcessExplained b.child.fixed b.child.data p := by
  have state : (if b.child.data.ownership.ownershipState = .noExternalProcess then
      OwnershipState.noExternalProcess else .terminal) = b.child.data.ownership.ownershipState := by
    simp only [noProcessShape, Bool.and_eq_true, Bool.or_eq_true, decide_eq_true_eq] at hs
    rcases hs.1.1 with h | h <;> simp [h]
  cases hd : p.detail with
  | terminationConfirmed t =>
      constructor
      · intro ok
        simp [assertNoProcessReplay, hp, hd, Checked.bind_ok] at ok
      · rintro ⟨-, -, ⟨r, -, -, other⟩, -⟩
        rw [hd] at other
        cases other
  | noExternalProcess code =>
      simp only [assertNoProcessReplay, hp, hd, Checked.bind_ok, Checked.exists_unit,
        Checked.ensure_ok, Checked.ensureEach_ok, outcome_iff, state, proofFields_iff h,
        Bool.and_eq_true, Bool.or_eq_true, decide_eq_true_eq, Option.isNone_iff_eq_none,
        Option.any_eq_true]
      constructor
      · rintro ⟨identity, process, ⟨r, hr, registered⟩, claimed, same, repeated, observed, outcome⟩
        rw [hr] at same
        cases same
        exact ⟨identity, process, ⟨code, hr, registered, hd⟩,
          claimed.imp_right fun c => ⟨c.1.1, c.2⟩, repeated, observed, outcome⟩
      · rintro ⟨identity, process, ⟨r, hr, registered, hr'⟩, claimed, repeated, observed, outcome⟩
        rw [hd] at hr'
        cases hr'
        refine ⟨identity, process, ⟨code, hr, registered⟩, claimed.imp_right fun c => ?_, hr.symm,
          repeated, observed, outcome⟩
        exact ⟨⟨c.1, by rw [c.1]; rfl⟩, c.2⟩

/-- A Windows row has no POSIX columns. -/
theorem windows_columns {p : OwnershipRow} {a : Authority} {workerIdentity : String}
    {historical : Bool} (h : windowsOwnershipValid p a workerIdentity historical now = true) :
    p.containerType = .windowsJob ∧ p.processGroupId = none ∧ p.sessionId = none := by
  unfold windowsOwnershipValid at h
  split at h
  · simp only [Bool.and_eq_true, decide_eq_true_eq, Option.isNone_iff_eq_none] at h
    obtain ⟨⟨⟨⟨⟨⟨⟨⟨⟨⟨⟨⟨container, group⟩, session⟩, -⟩, -⟩, -⟩, -⟩, -⟩, -⟩, -⟩, -⟩, -⟩, -⟩ := h
    exact ⟨container, group, session⟩
  · cases h

/-- The POSIX checks. -/
theorem posix_iff {x : Rows} : assertPosixReplay x = .ok () ↔
    posixExplained x.ownership ∧ x.run.processId = x.ownership.rootProcessId ∧
      x.run.processGroupId = x.ownership.processGroupId := by
  unfold assertPosixReplay posixExplained
  cases ht : x.ownership.rootProcessStartToken.bind posixStartToken with
  | none => simp [ht]
  | some t =>
    cases hg : x.ownership.processGroupId.bind natOfDigits with
    | none => simp [hg, ht]
    | some group =>
      cases hs : x.ownership.sessionId.bind natOfDigits with
      | none => simp [hs, hg, ht]
      | some session =>
        simp only [ht, hg, hs, Checked.bind_ok, Checked.exists_unit, Checked.ensure_ok, Bool.and_eq_true,
          decide_eq_true_eq]
        constructor
        · rintro ⟨⟨⟨boot, ticks⟩, grouped⟩, -, run, attested⟩
          split at attested
          · rename_i text att he
            exact ⟨⟨t.1, t.2, group, session, text, att, rfl, rfl, rfl, ⟨boot, ticks, grouped⟩, he,
              Checked.ensure_ok.mp attested⟩, run⟩
          · cases attested
        · rintro ⟨⟨boot, ticks, group', session', text, att, ht', hg', hs', shape, he, bound⟩, run⟩
          cases ht'
          cases hg'
          cases hs'
          have container := bound
          simp only [posixAttestationBound, Bool.and_eq_true, decide_eq_true_eq] at container
          refine ⟨⟨⟨shape.1, shape.2.1⟩, shape.2.2⟩, container.2, run, ?_⟩
          rw [he]
          exact Checked.ensure_ok.mpr bound

/-- A check that follows both branches follows the choice. -/
theorem ite_bind_ok {q : Prop} [Decidable q] {u v w : Except String Unit} :
    (if q then u >>= fun _ => w else v >>= fun _ => w) = .ok () ↔
      (if q then u else v) = .ok () ∧ w = .ok () := by
  by_cases h : q <;> simp only [h, if_true, if_false, Checked.bind_ok, Checked.exists_unit]

/-- The identity checks of a row with a process. -/
theorem identity_iff :
    (if b.child.data.ownership.containerType = .windowsJob then assertWindowsReplay b now b.child
      else assertPosixReplay b.child.data) = .ok () ↔
      identityExplained b.child.fixed b.child.data now ∧
        b.child.data.run.processId = b.child.data.ownership.rootProcessId ∧
        b.child.data.run.processGroupId = b.child.data.ownership.processGroupId := by
  unfold identityExplained
  by_cases hw : b.child.data.ownership.containerType = .windowsJob
  · simp only [hw, if_true, assertWindowsReplay, Checked.bind_ok, Checked.exists_unit,
      Checked.ensure_ok, Bool.and_eq_true, decide_eq_true_eq, Option.isNone_iff_eq_none]
    refine and_congr_right fun valid => ?_
    rw [(windows_columns valid).2.1]
  · simp only [hw, if_false]
    exact posix_iff

/-- The termination evidence of a row has the shape the reader asks for. -/
theorem shape_ok {status : TerminationStatus} (hs : status.isProcess = true)
    (hi : identityExplained b.child.fixed b.child.data now)
    (hr : b.child.data.ownership.rootProcessId.any (1 < ·) = true) :
    assertTerminationShape (decide (b.child.data.ownership.containerType = .windowsJob))
      (terminationEvidence b.child.data.ownership status) = .ok () := by
  obtain ⟨root, hroot, rooted⟩ := (Option.any_eq_true ..).mp hr
  unfold identityExplained at hi
  by_cases hw : b.child.data.ownership.containerType = .windowsJob
  · rw [if_pos hw] at hi
    obtain ⟨-, group, session⟩ := windows_columns hi
    simp [assertTerminationShape, terminationEvidence, hw, hs, hroot, rooted, group, session,
      Checked.bind_ok]
  · rw [if_neg hw] at hi
    obtain ⟨boot, ticks, group, session, text, att, ht, hg, hse, ⟨shape, -, grouped⟩, -⟩ := hi
    simp [assertTerminationShape, terminationEvidence, hw, hs, hroot, rooted, ht, hg, hse, shape,
      grouped, Checked.bind_ok]

/-- The fields of a termination proof are those of the row. -/
theorem terminationFields_iff {t : TerminationEvidence}
    (hi : identityExplained b.child.fixed b.child.data now)
    (hr : b.child.data.ownership.rootProcessId.any (1 < ·) = true) :
    (∀ f ∈ terminationFields b.child.data.ownership t, f.2 = true) ↔
      t = terminationEvidence b.child.data.ownership t.terminationStatus := by
  obtain ⟨root, hroot, -⟩ := (Option.any_eq_true ..).mp hr
  have session : (if b.child.data.ownership.containerType = .windowsJob then none
      else (b.child.data.ownership.sessionId.bind natOfDigits).map Int.ofNat) =
        (b.child.data.ownership.sessionId.bind natOfDigits).map Int.ofNat := by
    by_cases hw : b.child.data.ownership.containerType = .windowsJob
    · unfold identityExplained at hi
      rw [if_pos hw] at hi
      rw [(windows_columns hi).2.2, if_pos hw]
      rfl
    · rw [if_neg hw]
  simp only [terminationFields, List.forall_mem_cons, List.not_mem_nil, false_imp_iff,
    implies_true, decide_eq_true_eq, and_true, hroot, session, Option.some.injEq]
  rw [TerminationEvidence.mk.injEq]
  simp only [terminationEvidence, hroot, Option.getD_some, true_and]

/-- The checks of the termination proof. -/
theorem termination_iff {p : ExecutionProof} (h : b.Joined)
    (hv : isValidExecutionTerminalOutcome b.child.data.run.state b.child.data.run.reasonCode = true)
    (hp : b.child.data.ownership.noProcessProof = some (.envelope p))
    (hi : identityExplained b.child.fixed b.child.data now)
    (hr : b.child.data.ownership.rootProcessId.any (1 < ·) = true) :
    assertTerminationProof b b.child = .ok () ↔
      (∃ status, status.isProcess = true ∧
        p.detail = .terminationConfirmed (terminationEvidence b.child.data.ownership status) ∧
        outcomeExplained b.child.data [status.value]) ∧
      ProofExplained b.child.fixed b.child.data p .terminal ∧
      b.child.data.ownership.terminalizedAt = some p.observedAt := by
  cases hd : p.detail with
  | noExternalProcess code => simp [assertTerminationProof, hp, hd]
  | terminationConfirmed t =>
      simp only [assertTerminationProof, hp, hd, Checked.bind_ok, Checked.exists_unit,
        Checked.ensure_ok, Checked.ensureEach_ok, List.forall_mem_append, outcome_iff,
        proofFields_iff h, terminationFields_iff hi hr, decide_eq_true_eq,
        ProofDetail.terminationConfirmed.injEq]
      constructor
      · rintro ⟨-, shape, ⟨repeated, fields⟩, outcome, observed⟩
        have process : t.terminationStatus.isProcess = true := by
          simp only [assertTerminationShape, Checked.bind_ok, Checked.exists_unit,
            Checked.ensure_ok] at shape
          exact shape.1
        exact ⟨⟨_, process, fields, outcome⟩, repeated, observed⟩
      · rintro ⟨⟨status, process, rfl, outcome⟩, repeated, observed⟩
        exact ⟨repeated.reasonCode ▸ hv, shape_ok process hi hr, ⟨repeated, rfl⟩, outcome, observed⟩

/-- The checks of a child that ended with a process. -/
theorem process_iff {p : ExecutionProof} (h : b.Joined)
    (hv : isValidExecutionTerminalOutcome b.child.data.run.state b.child.data.run.reasonCode = true)
    (hp : b.child.data.ownership.noProcessProof = some (.envelope p)) :
    assertProcessReplay b now b.child = .ok () ↔
      ProcessExplained b.child.fixed b.child.data p now := by
  simp only [assertProcessReplay, processIdentityFields, Checked.bind_ok, Checked.exists_unit,
    Checked.ensure_ok, Checked.ensureEach_ok, List.forall_mem_cons, List.not_mem_nil,
    false_imp_iff, implies_true, and_true, Bool.and_eq_true, Bool.or_eq_true, decide_eq_true_eq]
  rw [ite_bind_ok, identity_iff]
  constructor
  · rintro ⟨⟨⟨ended, container⟩, committed⟩, claimed,
      ⟨identity, token, text, verified, -, group, session⟩, root, ⟨attested, run⟩, proof⟩
    obtain ⟨evidence, repeated, observed⟩ := (termination_iff h hv hp attested root).mp proof
    have posix : b.child.data.ownership.containerType = .posixSession →
        given b.child.data.ownership.processGroupId = true ∧
          given b.child.data.ownership.sessionId = true := by
      intro hc
      rw [hc] at group session
      exact ⟨group.resolve_left (by rintro ⟨⟩), session.resolve_left (by rintro ⟨⟩)⟩
    exact ⟨ended, ⟨container, committed, ⟨identity, token, text, verified⟩, posix, root, run⟩,
      claimed, attested, evidence, repeated, observed⟩
  · rintro ⟨ended, ⟨container, committed, ⟨identity, token, text, verified⟩, posix, root, run⟩,
      claimed, attested, evidence, repeated, observed⟩
    refine ⟨⟨⟨ended, container⟩, committed⟩, claimed,
      ⟨identity, token, text, verified, by rw [observed]; rfl, ?_, ?_⟩, root, ⟨attested, run⟩,
      (termination_iff h hv hp attested root).mpr ⟨evidence, repeated, observed⟩⟩
    · exact container.symm.imp_right fun hc => (posix hc).1
    · exact container.symm.imp_right fun hc => (posix hc).2

/-! ### The reader -/

/-- What the reader asks of the rows of a child, given that the binding is joined. -/
structure Explained (a : Authority) (x : Rows) (p : ExecutionProof) (now : Instant) : Prop where
  run : RunExplained a x
  recovery : recoveryExplained a x
  digests : (decisionDigest x.claimEvents).isNone = (dispatchDigest x.claimEvents).isNone
  proof : if noProcessShape x.ownership then NoProcessExplained a x p
    else ProcessExplained a x p now

/-- **What the reader accepts.**  Of a child that is its own evidence and has a decodable proof,
the joined columns and the rows it explains. -/
theorem replays_iff {p : ExecutionProof}
    (he : db.executionRun b.executionId b.organizationId = some b.child)
    (ht : b.child.data.run.state.isTerminal = true)
    (hd : b.child.data.dispatch.state = expectedTerminalDispatch b.child.data.run.state)
    (hp : b.child.data.ownership.noProcessProof = some (.envelope p)) :
    validateTerminalReplayProof b now db = .ok () ↔
      b.Joined ∧ Explained b.child.fixed b.child.data p now := by
  simp only [validateTerminalReplayProof, he, hp, Checked.bind_ok, Checked.exists_unit,
    Checked.ensure_ok, decide_eq_true_eq, true_and]
  rw [← and_assoc, states_iff ht hd]
  refine and_congr_right fun joined => ?_
  rw [run_iff joined hd]
  constructor
  · rintro ⟨run, recovery, digests, proof⟩
    refine ⟨run, (recovery_iff run.correlated).mp recovery, digests, ?_⟩
    by_cases hs : noProcessShape b.child.data.ownership = true
    · rw [if_pos hs] at proof ⊢
      exact (noProcess_iff joined hs hp).mp proof
    · rw [if_neg hs] at proof ⊢
      exact (process_iff joined run.outcome hp).mp proof
  · rintro ⟨run, recovery, digests, proof⟩
    refine ⟨run, (recovery_iff run.correlated).mpr recovery, digests, ?_⟩
    by_cases hs : noProcessShape b.child.data.ownership = true
    · rw [if_pos hs] at proof ⊢
      exact (noProcess_iff joined hs hp).mpr proof
    · rw [if_neg hs] at proof ⊢
      exact (process_iff joined run.outcome hp).mpr proof

/-- **The reader** on an ended child with a stored proof. -/
theorem replays_explained {p : ExecutionProof}
    (he : db.executionRun b.executionId b.organizationId = some b.child)
    (ht : b.child.data.run.state.isTerminal = true)
    (hp : b.child.data.ownership.noProcessProof = some (.envelope p)) :
    validateTerminalReplayProof b now db = .ok () ↔
      b.Joined ∧ Explained b.child.fixed b.child.data p now := by
  by_cases hd : b.child.data.dispatch.state = expectedTerminalDispatch b.child.data.run.state
  · exact replays_iff he ht hd hp
  · refine iff_of_false ?_ (fun h => hd h.2.run.dispatch)
    intro accepted
    simp only [validateTerminalReplayProof, assertReplayStates, Checked.bind_ok,
      Checked.exists_unit, Checked.ensure_ok, decide_eq_true_eq] at accepted
    exact hd accepted.1.2.2.2.1

end CyberAssess
