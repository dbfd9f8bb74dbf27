import CyberAssess.Guarantees.TerminalReplay
import CyberAssess.Guarantees.RunMachine

/-!
# Guarantees — every settlement against the replay

* `ProcessReplayable`: the columns a process has to have before it is settled.
* `recovery_explained`, `confirmed_explained`, `worker_explained`, `noProcess_explained`: for each
  writer, the rows it leaves are explained exactly when the rows it found meet a condition.
-/

namespace CyberAssess

open Python

variable {revokedTokens : List String} {now later : Instant} {a : Authority} {x : Rows}
  {jobEmpty : Bool}

/-! ### A process -/

/-- The columns of a process, and its run's, before it is settled. -/
structure ProcessReplayable (a : Authority) (x : Rows) : Prop where
  generation : x.ownership.workerGeneration = some a.run.workerGeneration
  recorded : ProcessRecorded x
  posix : x.ownership.containerType = .posixSession → posixExplained x.ownership

/-- An attestation that was current once is one of the past later. -/
theorem windows_later {p : OwnershipRow} {w : String} {historical : Bool}
    (h : windowsOwnershipValid p a w historical now = true) (hl : now ≤ later) :
    windowsOwnershipValid p a w true later = true := by
  unfold windowsOwnershipValid at h ⊢
  split at h
  · simp only [Bool.and_eq_true, decide_eq_true_eq, Bool.true_or, and_true] at h ⊢
    exact ⟨h.1.1, le_trans h.1.2 hl⟩
  · cases h

/-- The identity of a recorded process is explained later. -/
theorem ProcessReplayable.identity {w : String} {historical : Bool}
    (h : ProcessReplayable a x) (worker : x.run.workerIdentity = some w)
    (hw : x.ownership.containerType = .windowsJob →
      windowsOwnershipValid x.ownership a w historical now = true)
    (hl : now ≤ later) : identityExplained a x later := by
  unfold identityExplained
  by_cases hc : x.ownership.containerType = .windowsJob
  · rw [if_pos hc, worker]
    exact windows_later (hw hc) hl
  · rw [if_neg hc]
    exact h.posix (h.recorded.container.resolve_right hc)

/-- Of the run the identity takes the worker alone. -/
theorem identityExplained_worker {y : Rows} (h : y.run.workerIdentity = x.run.workerIdentity) :
    identityExplained a y now ↔ identityExplained a { y with run := x.run } now := by
  unfold identityExplained
  rw [h]

/-- An explained process was recorded. -/
theorem ProcessReplayable.ofExplained (hg : x.ownership.workerGeneration = some a.run.workerGeneration)
    (hr : ProcessRecorded x) (hi : identityExplained a x later) : ProcessReplayable a x := by
  refine ⟨hg, hr, fun hc => ?_⟩
  unfold identityExplained at hi
  rw [if_neg (by rw [hc]; nofun)] at hi
  exact hi

/-! ### The recovered process -/

/-- What a recovery settlement has to find. -/
structure SettleRecoveryArgs.Replayable (c : SettleRecoveryArgs) (a : Authority) (x : Rows) :
    Prop where
  owner : x.run.workerIdentity = some c.owner
  generation : c.workerGeneration = a.run.workerGeneration
  level : x.recovery.escalationLevel = 0
  process : ProcessReplayable a x

/-- A reason of a valid outcome is registered, and so not blank. -/
theorem registered_of_valid {s : RunState} {r : ReasonCode}
    (h : isValidExecutionTerminalOutcome s (some r) = true) :
    r.isRegistered = true ∧ isBlank r.text = false := by
  cases r with
  | other t => cases s <;> simp [isValidExecutionTerminalOutcome, executionTerminalReasonCodes] at h
  | _ => exact ⟨rfl, by decide⟩

/-- A row with a container is not the row of no process. -/
theorem noProcessShape_container {p : OwnershipRow} (h : p.containerType ≠ .none) :
    noProcessShape p = false := by
  simp [noProcessShape, h]

/-- The rows of a container are explained by its process. -/
theorem Explained.process {p : ExecutionProof} (h : Explained a x p now)
    (hc : x.ownership.containerType ≠ .none) : ProcessExplained a x p now := by
  have proof := h.proof
  rwa [noProcessShape_container hc, if_neg Bool.false_ne_true] at proof

/-- So are rows whose proof is of a termination. -/
theorem Explained.processOf {p : ExecutionProof} {t : TerminationEvidence}
    (h : Explained a x p now) (hd : p.detail = .terminationConfirmed t) :
    ProcessExplained a x p now := by
  have proof := h.proof
  by_cases hs : noProcessShape x.ownership = true
  · rw [if_pos hs] at proof
    obtain ⟨r, -, -, other⟩ := proof.reason
    rw [hd] at other
    cases other
  · rwa [if_neg hs] at proof

/-- A process explains the rows of its container. -/
theorem Explained.ofProcess {p : ExecutionProof} (hr : RunExplained a x)
    (hv : recoveryExplained a x)
    (hd : (decisionDigest x.claimEvents).isNone = (dispatchDigest x.claimEvents).isNone)
    (hc : x.ownership.containerType ≠ .none) (hp : ProcessExplained a x p now) :
    Explained a x p now := by
  refine ⟨hr, hv, hd, ?_⟩
  rwa [noProcessShape_container hc, if_neg Bool.false_ne_true]

/-- So does the absence of one. -/
theorem Explained.ofNoProcess {p : ExecutionProof} (hr : RunExplained a x)
    (hv : recoveryExplained a x)
    (hd : (decisionDigest x.claimEvents).isNone = (dispatchDigest x.claimEvents).isNone)
    (hs : noProcessShape x.ownership = true) (hp : NoProcessExplained a x p) :
    Explained a x p now := by
  refine ⟨hr, hv, hd, ?_⟩
  rwa [if_pos hs]

/-- The status of no process is one the reader takes. -/
theorem noProcess_confirmed {s : TerminationStatus} (h : s.isProcess = false) :
    s.value ∈ ["NO_EXTERNAL_PROCESS", "PRE_DISPATCH", "CONFIRMED"] := by
  cases s with
  | killed | alreadyExited => cases h
  | preDispatch | noExternalProcess => decide

/-- What a confirmed attempt repeats of the rows. -/
structure AttemptBound (a : Authority) (x : Rows) (t : RecoveryAttempt) : Prop where
  named : isBlank t.attemptId = false ∧ isBlank t.workerIdentity = false ∧
    isBlank t.reasonCode = false ∧ isBlank t.correlationId = false
  ordered : ∃ s d, t.startedAt = some s ∧ t.completedAt = some d ∧ t.requestedAt ≤ s ∧ s ≤ d
  worker : some t.workerIdentity = x.run.workerIdentity
  generation : t.workerGeneration = a.run.workerGeneration
  number : t.attemptNumber = x.recovery.attemptNumber
  correlation : t.correlationId = a.run.correlationId
  reason : some t.reasonCode = x.run.reasonCode.map (·.text)
  status : ∃ s, t.cancellationStatus = some s ∧ s ∈ confirmedCancellationStatuses
  error : t.errorCode = none
  retry : t.nextRetryAt = none
  level : t.escalationLevel = x.recovery.escalationLevel

theorem attemptBound_iff {t : RecoveryAttempt} :
    confirmedAttemptBound a x t = true ↔ AttemptBound a x t := by
  simp only [confirmedAttemptBound, RecoveryAttempt.named, RecoveryAttempt.ordered,
    Bool.and_eq_true, decide_eq_true_eq, Bool.not_eq_true', Option.any_eq_true,
    Option.isNone_iff_eq_none]
  constructor
  · rintro ⟨⟨⟨⟨⟨⟨⟨⟨⟨⟨⟨⟨⟨n₁, n₂⟩, n₃⟩, n₄⟩, s, hs, hr, d, hd, hc⟩, worker⟩, generation⟩, number⟩,
      correlation⟩, reason⟩, status⟩, error⟩, retry⟩, level⟩
    exact ⟨⟨n₁, n₂, n₃, n₄⟩, ⟨s, d, hs, hd, hr, hc⟩, worker, generation, number, correlation, reason,
      status, error, retry, level⟩
  · rintro ⟨⟨n₁, n₂, n₃, n₄⟩, ⟨s, d, hs, hd, hr, hc⟩, worker, generation, number, correlation,
      reason, status, error, retry, level⟩
    exact ⟨⟨⟨⟨⟨⟨⟨⟨⟨⟨⟨⟨⟨n₁, n₂⟩, n₃⟩, n₄⟩, s, hs, hr, d, hd, hc⟩, worker⟩, generation⟩, number⟩,
      correlation⟩, reason⟩, status⟩, error⟩, retry⟩, level⟩

/-- The status of a process is one of a confirmed cancellation. -/
theorem process_confirmed {s : TerminationStatus} : s.value ∈ confirmedCancellationStatuses := by
  cases s <;> decide

/-- The container of a row that a recovery settles. -/
theorem recoverySettleable_container {c : SettleRecoveryArgs}
    (h : recoverySettleable c jobEmpty now a x = true) :
    (x.ownership.containerType = .windowsJob →
      windowsOwnershipValid x.ownership a a.decision.workerIdentity false now = true) ∧
      x.ownership.containerType ≠ .none := by
  simp only [recoverySettleable, Bool.and_eq_true] at h
  have identity := h.1.1.1.2
  by_cases hw : x.ownership.containerType = .windowsJob
  · rw [if_pos hw, Bool.and_eq_true] at identity
    exact ⟨fun _ => identity.1, by rw [hw]; rintro ⟨⟩⟩
  · rw [if_neg hw] at identity
    simp only [recoveryPosixIdentity, Bool.and_eq_true, decide_eq_true_eq] at identity
    exact ⟨fun h => absurd h hw, by rw [identity.1]; rintro ⟨⟩⟩

/-- **The recovered process.** -/
theorem recovery_explained {c : SettleRecoveryArgs} (hc : c.check = .ok ())
    (h : recoverySettleable c jobEmpty now a x = true) (hl : now ≤ later)
    (he : c.executionId = a.run.executionId) (ho : c.organizationId = a.run.organizationId) :
    Explained a { x.recoverySettled c (recoveryProof c now a x) now with
        attempts := c.attempt now a x :: x.attempts } (recoveryProof c now a x) later ↔
      c.Replayable a x := by
  obtain ⟨hfailed, valid⟩ := settleRecovery_check hc
  obtain ⟨windows, container⟩ := recoverySettleable_container h
  have process : c.terminationStatus.isProcess = true := by
    simp only [SettleRecoveryArgs.check, Checked.bind_ok, Checked.exists_unit,
      Checked.ensure_ok] at hc
    exact hc.2
  simp only [recoverySettleable, RecoveryRow.leasedBy, workerBound, Bool.and_eq_true,
    decide_eq_true_eq, Bool.not_eq_true'] at h
  obtain ⟨⟨⟨⟨⟨⟨⟨⟨⟨leased, -⟩, worker, named⟩, correlated⟩, -⟩, bound⟩, -⟩, digest⟩, digest'⟩,
    attempt⟩ := h
  have generation : x.recovery.workerGeneration = some c.workerGeneration := leased.1.1.2
  constructor
  · intro explained
    have proof := explained.process container
    obtain ⟨-, ⟨recorded, -, ⟨requested, -⟩ | ⟨-, -, -, t, ht, attempted⟩⟩, -, -⟩ := explained
    · cases requested
    cases ht
    have attempted := attemptBound_iff.mp attempted
    exact ⟨attempted.worker.symm, attempted.generation, attempted.level.symm,
      .ofExplained bound ⟨proof.recorded.container, proof.recorded.committed,
        proof.recorded.columns, proof.recorded.session, proof.recorded.root, proof.recorded.run⟩
        proof.identity⟩
  · rintro ⟨owner, same, level, replayable⟩
    have registered := registered_of_valid valid
    have corr := correlated
    simp only [correlationBound, Bool.and_eq_true, decide_eq_true_eq, Bool.not_eq_true'] at corr
    have identified : isBlank c.owner = false := by
      rw [worker, Option.some.injEq] at owner
      exact owner ▸ named
    have attempted : AttemptBound a { x.recoverySettled c (recoveryProof c now a x) now with
        attempts := c.attempt now a x :: x.attempts } (c.attempt now a x) :=
      ⟨⟨isBlank_append_right (by decide), identified, registered.2, corr.2⟩,
        ⟨now, now, rfl, rfl, le_rfl, le_rfl⟩, owner.symm, same, rfl, rfl, rfl,
        ⟨_, rfl, process_confirmed⟩, rfl, rfl, level.symm⟩
    have dispatched : DispatchState.failed = expectedTerminalDispatch c.terminalState := by
      rw [hfailed]
      rfl
    have paired : (decisionDigest x.claimEvents).isNone = (dispatchDigest x.claimEvents).isNone := by
      rw [Option.isNone_eq_false_iff.mpr digest, Option.isNone_eq_false_iff.mpr digest']
    have recorded := replayable.recorded
    exact .ofProcess ⟨valid, dispatched, ⟨rfl, rfl, rfl⟩, bound, correlated⟩
      ⟨generation.trans (congrArg some same), rfl,
        Or.inr ⟨rfl, attempt, rfl, _, rfl, attemptBound_iff.mpr attempted⟩⟩ paired container
      ⟨rfl, ⟨recorded.container, recorded.committed, recorded.columns, recorded.session,
          recorded.root, recorded.run⟩, digest, replayable.identity worker windows hl,
        ⟨_, process, rfl, fun _ => ⟨rfl, _, List.mem_singleton_self _, rfl⟩⟩,
        ⟨he, ho, rfl, rfl, rfl, dispatched, rfl, rfl, rfl, worker.symm, rfl, rfl, rfl, rfl, rfl,
          rfl, rfl, rfl⟩, rfl⟩

/-! ### The confirmed termination -/

/-- The dispatch carries no lease. -/
def DispatchRow.unleased (i : DispatchRow) : Prop :=
  i.claimedBy = none ∧ i.claimToken = none ∧ i.leaseExpiresAt = none

/-- The row names no container and its launch was not attempted. -/
structure NoProcessReplayable (x : Rows) : Prop where
  container : x.ownership.containerType = .none
  launch : x.ownership.launchCommitState = .notAttempted
  process : x.run.processId = none ∧ x.run.processGroupId = none

/-- What a settlement after a confirmed termination has to find. -/
structure SettleConfirmedArgs.Replayable (c : SettleConfirmedArgs) (a : Authority) (x : Rows) :
    Prop where
  attempt : isBlank c.attemptId = false
  level : x.recovery.escalationLevel = 0
  unleased : x.dispatch.state.isTerminal = true → x.dispatch.unleased
  generation : x.ownership.workerGeneration = some a.run.workerGeneration
  process : c.terminationStatus.isProcess = true → ProcessReplayable a x
  noProcess : c.terminationStatus.isProcess = false → NoProcessReplayable x ∧
    ((decisionDigest x.claimEvents).isSome = true ∨
      (c.terminalState = .cancelled ∧ c.reasonCode = .executionCancelledBeforeDispatch))

theorem expected_safe {s : RunState} (h : isSafeState s = true) :
    safeDispatchState s = expectedTerminalDispatch s := by
  cases s <;> first | rfl | cases h

/-- A run that has ended before its settlement was cancelled before its dispatch. -/
theorem confirmedSettleable_run {c : SettleConfirmedArgs}
    (h : confirmedSettleable c revokedTokens jobEmpty now a x = true)
    (ht : x.run.state.isTerminal = true) :
    x.run.state = c.terminalState ∧ x.run.reasonCode = some c.reasonCode := by
  simp only [confirmedSettleable, Bool.and_eq_true] at h
  have settleable := h.1.1.1.1
  split at settleable
  · simp [processSettleable, ht] at settleable
  split at settleable
  · simp only [preDispatchSettleable, Bool.and_eq_true, Bool.or_eq_true, decide_eq_true_eq]
      at settleable
    rcases settleable.1.1.2 with ⟨⟨hr, -⟩, -⟩ | ⟨⟨⟨⟨hr, hc⟩, -⟩, hc'⟩, hs⟩
    · rw [hr] at ht
      cases ht
    · exact ⟨hr.trans hs.symm, hc.trans (congrArg some hc'.symm)⟩
  · simp only [noProcessSettleable, Bool.and_eq_true, decide_eq_true_eq] at settleable
    rw [settleable.1.1.1.1.1.2] at ht
    cases ht

/-- The run after the settlement. -/
theorem settledAfterTermination_run {c : SettleConfirmedArgs} (p : ExecutionProof)
    (h : confirmedSettleable c revokedTokens jobEmpty now a x = true) :
    (x.settledAfterTermination c p now).run.state = c.terminalState ∧
      (x.settledAfterTermination c p now).run.reasonCode = some c.reasonCode ∧
      (x.settledAfterTermination c p now).run.workerIdentity = x.run.workerIdentity ∧
      (x.settledAfterTermination c p now).run.processId = x.run.processId ∧
      (x.settledAfterTermination c p now).run.processGroupId = x.run.processGroupId := by
  simp only [Rows.settledAfterTermination]
  by_cases ht : x.run.state.isTerminal = true
  · obtain ⟨state, reason⟩ := confirmedSettleable_run h ht
    rw [if_pos ht]
    exact ⟨state, reason, rfl, rfl, rfl⟩
  · rw [if_neg ht]
    exact ⟨rfl, rfl, rfl, rfl, rfl⟩

/-- The dispatch after the settlement. -/
theorem settledAfterTermination_dispatch {c : SettleConfirmedArgs} (p : ExecutionProof)
    (h : confirmedSettleable c revokedTokens jobEmpty now a x = true) :
    (x.settledAfterTermination c p now).dispatch.state = safeDispatchState c.terminalState ∧
      ((x.settledAfterTermination c p now).dispatch.unleased ↔
        (x.dispatch.state.isTerminal = true → x.dispatch.unleased)) := by
  simp only [confirmedSettleable, Bool.and_eq_true, Bool.or_eq_true, decide_eq_true_eq] at h
  have dispatch := h.1.2
  simp only [Rows.settledAfterTermination]
  by_cases ht : x.dispatch.state.isTerminal = true
  · rw [if_pos ht]
    rcases dispatch with (hd | hd) | hd
    · rw [hd] at ht
      cases ht
    · rw [hd] at ht
      cases ht
    · exact ⟨hd.1.trans hd.2.symm, fun u _ => u, fun u => u ht⟩
  · rw [if_neg ht]
    exact ⟨rfl, fun _ h => absurd h ht, fun _ => ⟨rfl, rfl, rfl⟩⟩

/-- What a settlement with a process has read. -/
theorem confirmedSettleable_process {c : SettleConfirmedArgs}
    (h : confirmedSettleable c revokedTokens jobEmpty now a x = true)
    (hp : c.terminationStatus.isProcess = true) :
    (x.ownership.containerType = .windowsJob → windowsOwnershipValid x.ownership a
        a.decision.workerIdentity (decide (x.ownership.ownershipState = .terminal)) now = true) ∧
      x.ownership.containerType ≠ .none ∧ (decisionDigest x.claimEvents).isSome = true ∧
      (dispatchDigest x.claimEvents).isSome = true := by
  simp only [confirmedSettleable, hp, if_true, settlementAttested, Bool.and_eq_true] at h
  obtain ⟨⟨⟨⟨⟨⟨⟨-, identity⟩, -⟩, -⟩, -⟩, -⟩, -⟩, digests⟩ := h
  have claimed : (decisionDigest x.claimEvents).isSome = true ∧
      (dispatchDigest x.claimEvents).isSome = true := by
    unfold settlementDigests at digests
    cases hs : c.terminationStatus with
    | killed | alreadyExited => simpa [hs] using digests
    | preDispatch | noExternalProcess =>
        rw [hs] at hp
        cases hp
  by_cases hw : x.ownership.containerType = .windowsJob
  · rw [if_pos hw, Bool.and_eq_true] at identity
    exact ⟨fun _ => identity.1, by rw [hw]; rintro ⟨⟩, claimed⟩
  · rw [if_neg hw] at identity
    simp only [posixOwnershipValid, Bool.and_eq_true, decide_eq_true_eq] at identity
    exact ⟨fun h => absurd h hw, by rw [identity.2.1]; rintro ⟨⟩, claimed⟩

/-- What a settlement without a process has read. -/
theorem confirmedSettleable_noProcess {c : SettleConfirmedArgs}
    (h : confirmedSettleable c revokedTokens jobEmpty now a x = true)
    (hp : c.terminationStatus.isProcess = false) :
    withoutIdentity x.ownership = true ∧
      (decisionDigest x.claimEvents).isNone = (dispatchDigest x.claimEvents).isNone := by
  simp only [confirmedSettleable, hp, Bool.false_eq_true, if_false, Bool.and_eq_true] at h
  obtain ⟨⟨⟨⟨⟨-, without⟩, -⟩, -⟩, -⟩, digests⟩ := h
  refine ⟨without, ?_⟩
  unfold settlementDigests at digests
  cases hs : c.terminationStatus with
  | killed | alreadyExited =>
      rw [hs] at hp
      cases hp
  | noExternalProcess => simpa [hs] using digests
  | preDispatch =>
      simp only [hs, Bool.and_eq_true] at digests
      rw [digests.1, digests.2]

/-- What a row without identity columns explains is that there was no process. -/
theorem Explained.noProcess {p : ExecutionProof} (h : Explained a x p now)
    (hw : withoutIdentity x.ownership = true) :
    noProcessShape x.ownership = true ∧ NoProcessExplained a x p := by
  have proof := h.proof
  by_cases hs : noProcessShape x.ownership = true
  · rw [if_pos hs] at proof
    exact ⟨hs, proof⟩
  · rw [if_neg hs] at proof
    have identity := proof.recorded.columns.1
    simp only [withoutIdentity, Bool.and_eq_true, Option.isNone_iff_eq_none] at hw
    rw [hw.1.1.1.1.1] at identity
    cases identity

/-- The attempt of a settlement is bound to the rows it leaves where their escalation is none. -/
theorem settledAfterTermination_attempt {c : SettleConfirmedArgs}
    (h : confirmedSettleable c revokedTokens jobEmpty now a x = true)
    (hb : settlementBinding c a x = true)
    (hv : isValidExecutionTerminalOutcome c.terminalState (some c.reasonCode) = true)
    (hn : isBlank a.decision.workerIdentity = false) :
    confirmedAttemptBound a { x.settledAfterTermination c (terminationProof c now a x) now with
        attempts := c.attempt now a x :: x.attempts } (c.attempt now a x) = true ↔
      isBlank c.attemptId = false ∧ x.recovery.escalationLevel = 0 := by
  obtain ⟨-, reason, worker, -, -⟩ :=
    settledAfterTermination_run (terminationProof c now a x) h
  simp only [settlementBinding, correlationBound, Bool.and_eq_true, decide_eq_true_eq,
    Bool.not_eq_true'] at hb
  obtain ⟨⟨⟨⟨⟨⟨-, named⟩, run⟩, -⟩, -⟩, -⟩, -⟩ := hb
  rw [attemptBound_iff]
  constructor
  · intro bound
    exact ⟨bound.named.1, bound.level.symm⟩
  · rintro ⟨attempt, level⟩
    exact ⟨⟨attempt, hn, (registered_of_valid hv).2, named⟩,
      ⟨now, now, rfl, rfl, le_rfl, le_rfl⟩, run.symm.trans worker.symm, rfl, rfl, rfl,
      (congrArg (Option.map ReasonCode.text) reason).symm, ⟨_, rfl, process_confirmed⟩, rfl, rfl,
      level.symm⟩

/-- The approved worker of a settled execution is named. -/
theorem confirmedSettleable_named {c : SettleConfirmedArgs}
    (h : confirmedSettleable c revokedTokens jobEmpty now a x = true) :
    isBlank a.decision.workerIdentity = false := by
  simp only [confirmedSettleable, Bool.and_eq_true] at h
  have settleable := h.1.1.1.1
  split at settleable
  · simp only [Bool.and_eq_true, Bool.not_eq_true'] at settleable
    exact settleable.2
  · simp only [Bool.and_eq_true, Bool.not_eq_true'] at settleable
    exact settleable.1.2

section Confirmed

variable {c : SettleConfirmedArgs}
  (h : confirmedSettleable c revokedTokens jobEmpty now a x = true)
  (hb : settlementBinding c a x = true)

include h hb

/-- The run, dispatch and ownership row it leaves. -/
theorem confirmed_run (safe : isSafeState c.terminalState = true)
    (valid : isValidExecutionTerminalOutcome c.terminalState (some c.reasonCode) = true) :
    RunExplained a { x.settledAfterTermination c (terminationProof c now a x) now with
        attempts := c.attempt now a x :: x.attempts } ↔
      (x.dispatch.state.isTerminal = true → x.dispatch.unleased) ∧
        x.ownership.workerGeneration = some a.run.workerGeneration := by
  obtain ⟨state, reason, -⟩ := settledAfterTermination_run (terminationProof c now a x) h
  obtain ⟨dispatch, unleased⟩ := settledAfterTermination_dispatch (terminationProof c now a x) h
  simp only [settlementBinding, Bool.and_eq_true] at hb
  constructor
  · intro run
    exact ⟨unleased.mp run.unleased, run.generation⟩
  · rintro ⟨lease, generation⟩
    refine ⟨?_, ?_, unleased.mpr lease, generation, hb.1.1.1.1.1⟩
    · exact (congr (congrArg _ state) reason).trans valid
    · exact dispatch.trans ((expected_safe safe).trans (congrArg _ state.symm))

/-- The recovery it leaves. -/
theorem confirmed_recovery
    (valid : isValidExecutionTerminalOutcome c.terminalState (some c.reasonCode) = true) :
    recoveryExplained a { x.settledAfterTermination c (terminationProof c now a x) now with
        attempts := c.attempt now a x :: x.attempts } ↔
      isBlank c.attemptId = false ∧ x.recovery.escalationLevel = 0 := by
  rw [← settledAfterTermination_attempt h hb valid (confirmedSettleable_named h)]
  constructor
  · rintro ⟨-, -, ⟨requested, -⟩ | ⟨-, -, -, t, ht, bound⟩⟩
    · cases requested
    · cases ht
      exact bound
  · intro bound
    exact ⟨rfl, rfl, Or.inr ⟨rfl, Nat.succ_pos _, rfl, _, rfl, bound⟩⟩

/-- The proof repeats the rows it leaves, under the container the row has. -/
theorem confirmed_repeated (safe : isSafeState c.terminalState = true)
    (he : c.executionId = a.run.executionId) (ho : c.organizationId = a.run.organizationId)
    (container : (terminationProof c now a x).containerType = x.ownership.containerType)
    (launch : (terminationProof c now a x).launchCommitState = x.ownership.launchCommitState) :
    ProofExplained a { x.settledAfterTermination c (terminationProof c now a x) now with
        attempts := c.attempt now a x :: x.attempts } (terminationProof c now a x) .terminal := by
  obtain ⟨state, reason, worker, -⟩ :=
    settledAfterTermination_run (terminationProof c now a x) h
  simp only [settlementBinding, Bool.and_eq_true, decide_eq_true_eq] at hb
  have run := hb.1.1.1.1.2
  exact ⟨he, ho, rfl, rfl, state.symm, (expected_safe safe).trans (congrArg _ state.symm), rfl,
    container, launch, run.symm.trans worker.symm, rfl, rfl, rfl, rfl, reason.symm, rfl, rfl, rfl⟩

/-- **The confirmed termination.** -/
theorem confirmed_explained (safe : isSafeState c.terminalState = true)
    (valid : isValidExecutionTerminalOutcome c.terminalState (some c.reasonCode) = true)
    (hl : now ≤ later) (he : c.executionId = a.run.executionId)
    (ho : c.organizationId = a.run.organizationId) :
    Explained a { x.settledAfterTermination c (terminationProof c now a x) now with
        attempts := c.attempt now a x :: x.attempts } (terminationProof c now a x) later ↔
      c.Replayable a x := by
  obtain ⟨state, -, worker, pid, group⟩ :=
    settledAfterTermination_run (terminationProof c now a x) h
  have run : x.run.workerIdentity = some a.decision.workerIdentity := by
    simp only [settlementBinding, Bool.and_eq_true, decide_eq_true_eq] at hb
    exact hb.1.1.1.1.2
  cases hp : c.terminationStatus.isProcess with
  | true =>
      obtain ⟨windows, container, claimed, claimed'⟩ := confirmedSettleable_process h hp
      have verifiedAt : (x.settledAfterTermination c (terminationProof c now a x)
          now).ownership.lastVerifiedAt = x.ownership.lastVerifiedAt := by
        simp only [Rows.settledAfterTermination, hp, if_true]
      constructor
      · intro explained
        have process := explained.process container
        obtain ⟨unleased, generation⟩ := (confirmed_run h hb safe valid).mp explained.run
        obtain ⟨attempt, level⟩ := (confirmed_recovery h hb valid).mp explained.recovery
        have recorded := process.recorded
        refine ⟨attempt, level, unleased, generation, fun _ => ?_, fun h => by simp [hp] at h⟩
        have columns := recorded.columns
        have verified : x.ownership.lastVerifiedAt.isSome = true := verifiedAt ▸ columns.2.2.2
        have identity : identityExplained a x later :=
          (identityExplained_worker worker).mp process.identity
        exact .ofExplained generation ⟨recorded.container, recorded.committed,
          ⟨columns.1, columns.2.1, columns.2.2.1, verified⟩, recorded.session, recorded.root,
          pid.symm.trans recorded.run.1, group.symm.trans recorded.run.2⟩ identity
      · rintro ⟨attempt, level, unleased, generation, replayable, -⟩
        have process := replayable hp
        have recorded := process.recorded
        have columns := recorded.columns
        have proved : (terminationProof c now a x).containerType = x.ownership.containerType ∧
            (terminationProof c now a x).launchCommitState = x.ownership.launchCommitState ∧
            (terminationProof c now a x).detail =
              .terminationConfirmed (terminationEvidence x.ownership c.terminationStatus) := by
          simp only [terminationProof, hp, if_true, and_self]
        have paired : (decisionDigest x.claimEvents).isNone
            = (dispatchDigest x.claimEvents).isNone := by
          rw [Option.isNone_eq_false_iff.mpr claimed, Option.isNone_eq_false_iff.mpr claimed']
        exact .ofProcess ((confirmed_run h hb safe valid).mpr ⟨unleased, generation⟩)
          ((confirmed_recovery h hb valid).mpr ⟨attempt, level⟩) paired container
          ⟨rfl, ⟨recorded.container, recorded.committed,
            ⟨columns.1, columns.2.1, columns.2.2.1, verifiedAt.symm ▸ columns.2.2.2⟩,
            recorded.session, recorded.root, pid.trans recorded.run.1,
            group.trans recorded.run.2⟩, claimed,
            (identityExplained_worker worker).mpr (process.identity run windows hl),
          ⟨_, hp, proved.2.2, fun _ => ⟨rfl, _, List.mem_singleton_self _, rfl⟩⟩,
          confirmed_repeated h hb safe he ho proved.1 proved.2.1, rfl⟩
  | false =>
      obtain ⟨without, paired⟩ := confirmedSettleable_noProcess h hp
      have proved : (terminationProof c now a x).containerType = .none ∧
          (terminationProof c now a x).launchCommitState = .notAttempted ∧
          (terminationProof c now a x).detail = .noExternalProcess c.reasonCode := by
        simp only [terminationProof, hp, Bool.false_eq_true, if_false, and_self]
      have verifiedAt : (x.settledAfterTermination c (terminationProof c now a x)
          now).ownership.lastVerifiedAt = some now := by
        simp only [Rows.settledAfterTermination, hp, Bool.false_eq_true, if_false]
      constructor
      · intro explained
        obtain ⟨shape, noProcess⟩ := explained.noProcess without
        obtain ⟨unleased, generation⟩ := (confirmed_run h hb safe valid).mp explained.run
        obtain ⟨attempt, level⟩ := (confirmed_recovery h hb valid).mp explained.recovery
        simp only [noProcessShape, Bool.and_eq_true, decide_eq_true_eq] at shape
        refine ⟨attempt, level, unleased, generation, fun h => by simp [hp] at h, fun _ =>
          ⟨⟨shape.1.2, shape.2, pid.symm.trans noProcess.process.1,
            group.symm.trans noProcess.process.2⟩, ?_⟩⟩
        exact noProcess.claimed.imp_right fun u => ⟨state.symm.trans u.1, Option.some.inj u.2⟩
      · rintro ⟨attempt, level, unleased, generation, -, replayable⟩
        obtain ⟨⟨container, launch, process⟩, claimed⟩ := replayable hp
        have shape : noProcessShape (x.settledAfterTermination c (terminationProof c now a x)
            now).ownership = true := by
          simp [noProcessShape, Rows.settledAfterTermination, container, launch]
        exact .ofNoProcess ((confirmed_run h hb safe valid).mpr ⟨unleased, generation⟩)
          ((confirmed_recovery h hb valid).mpr ⟨attempt, level⟩) paired shape
          ⟨without, ⟨pid.trans process.1, group.trans process.2⟩,
            ⟨c.reasonCode, rfl, (registered_of_valid valid).1, proved.2.2⟩,
            claimed.imp_right fun u => ⟨state.trans u.1, congrArg some u.2⟩,
            confirmed_repeated h hb safe he ho (proved.1.trans container.symm)
              (proved.2.1.trans launch.symm),
            verifiedAt, fun _ => ⟨rfl, _, noProcess_confirmed hp, rfl⟩⟩

end Confirmed

/-! ### A closed recovery row -/

/-- A confirmed recovery goes with an ended run and an ended ownership row. -/
def Rows.RecoveryClosed (x : Rows) : Prop :=
  x.recovery.status = .confirmedTerminated →
    x.ownership.ownershipState = .terminal ∧ x.run.state.isTerminal = true

section Steps

variable {g : Gateway} {db : Db} {y : Rows} {c : ExecutionCall} {r : Response}

/-- A run that has ended stays ended. -/
theorem Effect.run_ended (h : Effect revokedTokens now a x c r y)
    (hx : x.run.state.isTerminal = true) : y.run.state.isTerminal = true := by
  rw [(h.outcome_kept hx).1]
  exact hx

/-- A call on ownership or recovery confirms no recovery. -/
theorem BesideEffect.unconfirmed (h : BesideEffect now a x c r y)
    (hx : x.recovery.status ≠ .confirmedTerminated) :
    y.recovery.status ≠ .confirmedTerminated := by
  cases h with
  | refused | ownershipReplayed | ownershipMoved | processBlocked | recoveryRenewed
  | observationKept => exact hx
  | recoveryClaimed => nofun
  | @recoveryCompleted k t hc =>
      intro hs
      simp only [CompleteRecoveryArgs.complete, Bool.and_eq_true] at hc
      have status := hc.1.1.1.1.1.1.1
      rw [show k.status = .confirmedTerminated from hs] at status
      cases status
  | @observed k o t =>
      intro hs
      have status : o.status = .confirmedTerminated := hs
      unfold RecoveryObservation.status at status
      split at status <;> cases status

/-- One call keeps a closed recovery with what it goes with. -/
theorem Effect.recoveryClosed (h : Effect revokedTokens now a x c r y) (hx : x.RecoveryClosed) :
    y.RecoveryClosed := by
  intro hy
  by_cases hs : x.recovery.status = .confirmedTerminated
  · obtain ⟨ended, run⟩ := hx hs
    exact ⟨by rw [h.ownership_step.follows.final ended]; exact ended, h.run_ended run⟩
  · cases h with
    | beside _ _ hb => exact absurd hy (hb.unconfirmed hs)
    | recoverySettled t hc => exact ⟨rfl, isTerminal_of_valid (settleRecovery_check hc).2⟩
    | @terminationSettled k jobEmpty t hc hg hb ho h =>
        obtain ⟨state, -⟩ := settledAfterTermination_run (terminationProof k now a x) h
        exact ⟨rfl, (congrArg RunState.isTerminal state).trans
          (isTerminal_of_valid (settleConfirmed_check hc hg).2)⟩
    | decisionRevoked | requestRevoked =>
        unfold Rows.cancelBeforeDispatch at hy
        split at hy <;> exact absurd hy hs
    | _ => exact absurd hy hs

/-- In every reachable database a confirmed recovery is closed. -/
theorem recoveryClosed_of_reachable (h : db.Reachable g) :
    ∀ e ∈ db.executions, e.data.RecoveryClosed := by
  refine reachable_executions (I := fun e => e.data.RecoveryClosed) (g := g)
    (C := fun _ _ => True) ?_ ?_ (h.mono fun _ _ _ hs => ⟨trivial, hs⟩)
  · intro d ev e y _ he hs
    cases hs with
    | untouched | sessionRevoked => exact he
    | called _ _ _ h => exact h.recoveryClosed he
    | @parentMoved c p _ _ _ _ => cases ht : c.targetState <;> exact he
  · intro d ev e he
    obtain ⟨-, t, w, r, now, hd⟩ := he.fresh
    rw [Rows.RecoveryClosed, hd]
    nofun

end Steps

/-! ### The launching worker -/

/-- What `_durable_execution_evidence` compares. -/
structure WorkerEvidence (k : ExecutionCapability) (a : Authority) (x : Rows) : Prop where
  worker : x.run.workerIdentity = some k.workerIdentity
  generation : a.run.workerGeneration = k.workerGeneration
  decision : a.run.approvedDecisionId = k.decisionId

/-- What a worker's proof has to find of the recovery row and the claim events. -/
structure WorkerReplayable (k : ExecutionCapability) (a : Authority) (x : Rows) : Prop where
  generation : x.recovery.workerGeneration = some a.run.workerGeneration
  digests : ∃ d, claimDigests k = some d ∧ decisionDigest x.claimEvents = some d.1 ∧
    dispatchDigest x.claimEvents = some d.2

/-- The recovery row of an execution that is not closed, where a proof is written. -/
structure Unrecovered (x : Rows) (r : ProofRecovery) : Prop where
  fields : r = ⟨.requested, 0, none⟩
  quiet : x.recovery.quiet = true
  status : x.recovery.status = .requested
  number : x.recovery.attemptNumber = 0
  attempt : confirmedAttempt x = none
  outcome : x.recovery.lastOutcome = none
  level : x.recovery.escalationLevel = 0

theorem unrecovered_of_fields {r : ProofRecovery} (h : proofRecoveryFields a x = some r)
    (hs : x.recovery.status ≠ .confirmedTerminated) : Unrecovered x r := by
  unfold proofRecoveryFields at h
  split at h
  · cases h
  rename_i quiet
  split at h
  · rename_i status attempt
    split at h
    · rename_i row
      simp only [Bool.and_eq_true, decide_eq_true_eq, Option.isNone_iff_eq_none] at row
      cases h
      exact ⟨rfl, by simpa using quiet, status, row.1.1, attempt, row.1.2, row.2⟩
    · cases h
  · rename_i status _
    exact absurd status hs
  · cases h

/-- Such a row is explained under its generation. -/
theorem Unrecovered.explained_iff {y : Rows} {r : ProofRecovery} (h : Unrecovered x r)
    (hr : y.recovery = x.recovery) (ha : y.attempts = x.attempts) :
    recoveryExplained a y ↔ x.recovery.workerGeneration = some a.run.workerGeneration := by
  unfold recoveryExplained confirmedAttempt
  rw [hr, ha]
  constructor
  · exact fun e => e.1
  · intro generation
    exact ⟨generation, h.quiet, Or.inl ⟨h.status, h.number, h.attempt, h.outcome, h.level⟩⟩

/-- What the rows beside ownership say of the outcome a proof was written for. -/
structure Ends (y : Rows) (terminalState : RunState) (reasonCode : Option ReasonCode) : Prop where
  state : y.run.state = terminalState
  reason : y.run.reasonCode = reasonCode
  valid : isValidExecutionTerminalOutcome terminalState reasonCode = true
  dispatch : y.dispatch.state = expectedTerminalDispatch terminalState
  unleased : y.dispatch.unleased

/-- The rows a worker's proof does not write. -/
structure Beside (x y : Rows) : Prop where
  recovery : y.recovery = x.recovery
  attempts : y.attempts = x.attempts
  claims : y.claimEvents = x.claimEvents
  worker : y.run.workerIdentity = x.run.workerIdentity

/-- **A run without a process**, beside the outcome the run itself has. -/
theorem noProcess_worker {k : ExecutionCapability} {executionId : String} {y : Rows}
    {terminalState : RunState} {reason : ReasonCode} {d : ClaimDigest × ClaimDigest}
    {r : ProofRecovery} (hk : WorkerEvidence k a x) (hr : Unrecovered x r)
    (hc : correlationBound a = true) (hreg : reason.isRegistered = true)
    (hd : claimDigests k = some d) (hb : Beside x y)
    (hy : y.ownership = x.ownership.recorded (noProcessRecord k a.run.correlationId
      (noProcessProof k executionId a terminalState reason now d r) now))
    (he : executionId = a.run.executionId) (ho : k.organizationId = a.run.organizationId) :
    Explained a y (noProcessProof k executionId a terminalState reason now d r) later ↔
      WorkerReplayable k a x ∧ (y.run.processId = none ∧ y.run.processGroupId = none) ∧
        Ends y terminalState (some reason) := by
  have columns : withoutIdentity y.ownership = true ∧ noProcessShape y.ownership = true := by
    rw [hy]
    exact ⟨rfl, rfl⟩
  have generation : y.ownership.workerGeneration = some a.run.workerGeneration := by
    rw [hy, hk.generation]
    rfl
  constructor
  · intro explained
    obtain ⟨-, noProcess⟩ := explained.noProcess columns.1
    have repeated := noProcess.repeated
    have state : terminalState = y.run.state := repeated.terminalState
    have reason' : some reason = y.run.reasonCode := repeated.reasonCode
    have first : some d.1 = decisionDigest y.claimEvents := repeated.claimIdentityDigest
    have second : some d.2 = dispatchDigest y.claimEvents := repeated.dispatchIdentityDigest
    rw [hb.claims] at first second
    have run := explained.run
    refine ⟨⟨(hr.explained_iff hb.recovery hb.attempts).mp explained.recovery,
      d, hd, first.symm, second.symm⟩, noProcess.process, state.symm, reason'.symm, ?_, ?_,
      run.unleased⟩
    · rw [state, reason']
      exact run.outcome
    · rw [state]
      exact run.dispatch
  · rintro ⟨⟨recovery, d', hd', first, second⟩, process, ⟨state, reason', valid, dispatch, lease⟩⟩
    rw [hd] at hd'
    cases hd'
    rw [← hb.claims] at first second
    have paired : (decisionDigest y.claimEvents).isNone = (dispatchDigest y.claimEvents).isNone := by
      rw [first, second]
      rfl
    have status : y.recovery.status = .requested := by rw [hb.recovery, hr.status]
    have unattempted : replayAttemptId y = none := by rw [replayAttemptId, if_pos status]
    have number : y.recovery.attemptNumber = 0 := by rw [hb.recovery, hr.number]
    obtain rfl := hr.fields
    refine .ofNoProcess ⟨by rw [state, reason']; exact valid, by rw [state]; exact dispatch, lease,
        generation, hc⟩ ((hr.explained_iff hb.recovery hb.attempts).mpr recovery) paired columns.2
      ⟨columns.1, process, ⟨reason, rfl, hreg, rfl⟩, Or.inl (by rw [first]; rfl), ?_, ?_, ?_⟩
    · refine ⟨he, ho, rfl, hk.decision.symm, state.symm,
        congrArg expectedTerminalDispatch state.symm, ?_, ?_, ?_,
        (hb.worker.trans hk.worker).symm, hk.generation.symm, rfl, first.symm, second.symm,
        reason'.symm, status.symm, number.symm, unattempted.symm⟩ <;> rw [hy] <;> rfl
    · rw [hy]
      rfl
    · intro confirmed
      rw [status] at confirmed
      cases confirmed

/-- **A run with a process**, beside the outcome the run itself has. -/
theorem process_worker {k : ExecutionCapability} {executionId : String} {y : Rows}
    {c : TerminalArgs} {status : TerminationStatus} {d : ClaimDigest × ClaimDigest}
    {r : ProofRecovery} {historical : Bool} (hk : WorkerEvidence k a x) (hr : Unrecovered x r)
    (hc : correlationBound a = true) (hs : status.isProcess = true)
    (hd : claimDigests k = some d) (hb : Beside x y)
    (hw : x.ownership.containerType = .windowsJob →
      windowsOwnershipValid x.ownership a k.workerIdentity historical now = true)
    (hl : now ≤ later) {stamp updated : Instant}
    (hy : y.ownership = { x.ownership with
      ownershipState := .terminal
      noProcessProof := some (.envelope (terminalProof k executionId a x c status stamp d r))
      terminalizedAt := some stamp
      updatedAt := updated })
    (hp : y.run.processId = x.run.processId ∧ y.run.processGroupId = x.run.processGroupId)
    (he : executionId = a.run.executionId) (ho : k.organizationId = a.run.organizationId) :
    Explained a y (terminalProof k executionId a x c status stamp d r) later ↔
      WorkerReplayable k a x ∧ ProcessReplayable a x ∧ Ends y c.terminalState c.reasonCode := by
  have recovered : recoveryExplained a y ↔
      x.recovery.workerGeneration = some a.run.workerGeneration :=
    hr.explained_iff hb.recovery hb.attempts
  obtain ⟨request, decision, run, dispatch, ownership, recovery, attempts, claims⟩ := y
  obtain ⟨rfl, rfl, rfl, worker⟩ := hb
  obtain rfl : ownership = _ := hy
  constructor
  · intro explained
    have process := explained.processOf rfl
    have recorded := process.recorded
    have repeated := process.repeated
    have state : c.terminalState = run.state := repeated.terminalState
    have reason : c.reasonCode = run.reasonCode := repeated.reasonCode
    have ended := explained.run
    have identity : identityExplained a x later :=
      (identityExplained_worker worker).mp process.identity
    refine ⟨⟨recovered.mp explained.recovery, d, hd,
        repeated.claimIdentityDigest.symm, repeated.dispatchIdentityDigest.symm⟩,
      .ofExplained ended.generation ⟨recorded.container, recorded.committed, recorded.columns,
        recorded.session, recorded.root, hp.1.symm.trans recorded.run.1,
        hp.2.symm.trans recorded.run.2⟩ identity, state.symm, reason.symm, ?_, ?_, ended.unleased⟩
    · rw [state, reason]
      exact ended.outcome
    · rw [state]
      exact ended.dispatch
  · rintro ⟨⟨recovery, d', hd', first, second⟩, process,
      ⟨state, reason, valid, dispatched, lease⟩⟩
    rw [hd] at hd'
    cases hd'
    have recorded := process.recorded
    have container : x.ownership.containerType ≠ .none := by
      rcases recorded.container with h | h <;> rw [h] <;> nofun
    have paired : (decisionDigest x.claimEvents).isNone = (dispatchDigest x.claimEvents).isNone := by
      rw [first, second]
      rfl
    obtain rfl := hr.fields
    have unattempted : replayAttemptId x = none := by rw [replayAttemptId, if_pos hr.status]
    refine .ofProcess ⟨?_, ?_, lease, process.generation, hc⟩ (recovered.mpr recovery) paired
      container ⟨rfl, ⟨recorded.container, recorded.committed, recorded.columns,
        recorded.session, recorded.root, hp.1.trans recorded.run.1,
        hp.2.trans recorded.run.2⟩, ?_, ?_, ⟨status, hs, rfl, ?_⟩, ?_, rfl⟩
    · rw [state, reason]
      exact valid
    · rw [state]
      exact dispatched
    · change (decisionDigest x.claimEvents).isSome = true
      rw [first]
      rfl
    · exact (identityExplained_worker worker).mpr (process.identity hk.worker hw hl)
    · intro confirmed
      exact absurd (hr.status.symm.trans confirmed) nofun
    · exact ⟨he, ho, rfl, hk.decision.symm, state.symm,
        congrArg expectedTerminalDispatch state.symm, rfl, rfl, rfl,
        (worker.trans hk.worker).symm, hk.generation.symm, rfl, first.symm, second.symm,
        reason.symm, hr.status.symm, hr.number.symm, unattempted.symm⟩

end CyberAssess
