import CyberAssess.Database.ApprovalSessions
import CyberAssess.Database.Run

/-!
# Guarantees — a request is approved at most once

Any number of callers of `approve_execution_request` on one request, their statements interleaved.

* `ApprovalTables.Empty` and `ApprovalTables.Granted`: nothing was inserted, or one row of each kind
  for one approval.
* `ApprovalInvariant`: which of the two holds, what a transaction in progress has written, and what a
  replay has read; `step_approvalInvariant` is the step, over the statements.
* `ApprovalHistory`: the approval the tables hold is one that was returned.
* `approval_at_most_once`: in every run one approval is returned at most, a replay answers with its
  identities, no other answer changes the inserted rows, and the run copies the request.
-/

namespace CyberAssess

open Transition

variable {q : RequestColumns} {expiresAt : Instant} {W : Type}

/-! ### What the tables hold -/

/-- No approval has inserted anything. -/
structure ApprovalTables.Empty (t : ApprovalTables) : Prop where
  approvedDecisionId : t.approvedDecisionId = none
  decisions : t.decisions = []
  runs : t.runs = []
  dispatchIntents : t.dispatchIntents = []
  ownership : t.ownership = []
  recovery : t.recovery = []

variable (q) in
/-- One approval has inserted one row of each kind. -/
structure ApprovalTables.Granted (v : Approval) (t : ApprovalTables) : Prop where
  approvedDecisionId : t.approvedDecisionId = some v.decisionId
  decisions : t.decisions.map (·.1) = [(approvedAuthority q v).decision]
  runs : t.runs.map (·.1) = [(approvedAuthority q v).run]
  dispatchIntents : t.dispatchIntents.map (·.1) = [v.executionId]
  ownership : t.ownership.map (·.1) = [v.executionId]
  recovery : t.recovery.map (·.1) = [v.executionId]

variable (q) in
/-- The tables as they are committed. -/
structure ApprovalTables.Sound (t : ApprovalTables) : Prop where
  either : t.Empty ∨ ∃ v, t.Granted q v
  requested : t.state = .requested → t.Empty
  authorized : t.state = .authorized → ∃ v, t.Granted q v

/-- All inserts on empty tables are one approval. -/
theorem granted_insertAll {t : ApprovalTables} (empty : t.Empty) (v : Approval) :
    (insertAll q expiresAt v (t.authorized v) approvalStatements).Granted q v where
  approvedDecisionId := rfl
  decisions := by
    change (_ :: t.decisions.map (·.1)) = _
    rw [empty.decisions]
    rfl
  runs := by
    change (_ :: t.runs.map (·.1)) = _
    rw [empty.runs]
    rfl
  dispatchIntents := by
    change (_ :: t.dispatchIntents.map (·.1)) = _
    rw [empty.dispatchIntents]
    rfl
  ownership := by
    change (_ :: t.ownership.map (·.1)) = _
    rw [empty.ownership]
    rfl
  recovery := by
    change (_ :: t.recovery.map (·.1)) = _
    rw [empty.recovery]
    rfl

/-- The run of an approval is found. -/
theorem ApprovalTables.Granted.runOf {v : Approval} {t : ApprovalTables} (h : t.Granted q v)
    {executionId : String} (found : t.runOf q = some executionId) : executionId = v.executionId := by
  obtain ⟨r, hr, rfl⟩ := Option.map_eq_some_iff.mp found
  have column : r.1 ∈ t.runs.map (·.1) := List.mem_map_of_mem (List.mem_of_find?_eq_some hr)
  rw [h.runs, List.mem_singleton] at column
  rw [column]
  rfl

/-- Two approvals the tables hold have the same identities. -/
theorem ApprovalTables.Granted.same {v w : Approval} {t : ApprovalTables} (hv : t.Granted q v)
    (hw : t.Granted q w) : v.decisionId = w.decisionId ∧ v.executionId = w.executionId :=
  ⟨Option.some.inj (hv.approvedDecisionId.symm.trans hw.approvedDecisionId),
    List.head_eq_of_cons_eq (hv.recovery.symm.trans hw.recovery)⟩

section Updates

variable {t : ApprovalTables} (u : RowUpdate) (state : RequestState)

/-- Other calls insert nothing. -/
theorem ApprovalTables.Empty.updated (h : t.Empty) : (t.updated u state).Empty where
  approvedDecisionId := h.approvedDecisionId
  decisions := by rw [ApprovalTables.updated, h.decisions]; rfl
  runs := by rw [ApprovalTables.updated, h.runs]; rfl
  dispatchIntents := by rw [ApprovalTables.updated, h.dispatchIntents]; rfl
  ownership := by rw [ApprovalTables.updated, h.ownership]; rfl
  recovery := by rw [ApprovalTables.updated, h.recovery]; rfl

theorem ApprovalTables.granted_updated {v : Approval} :
    (t.updated u state).Granted q v ↔ t.Granted q v := by
  constructor
  · intro h
    obtain ⟨decision, decisions, runs, dispatchIntents, ownership, recovery⟩ := h
    simp only [ApprovalTables.updated, List.map_map]
      at decision decisions runs dispatchIntents ownership recovery
    exact ⟨decision, decisions, runs, dispatchIntents, ownership, recovery⟩
  · intro h
    obtain ⟨decision, decisions, runs, dispatchIntents, ownership, recovery⟩ := h
    refine ⟨decision, ?_, ?_, ?_, ?_, ?_⟩ <;>
      simp only [ApprovalTables.updated, List.map_map] <;> assumption

end Updates

/-- Tables that hold an approval are not empty. -/
theorem ApprovalTables.Empty.not_granted {v : Approval} {t : ApprovalTables} (h : t.Empty) :
    ¬ t.Granted q v := by
  intro granted
  have missing := granted.approvedDecisionId
  rw [h.approvedDecisionId] at missing
  cases missing

/-- Other calls keep what is committed sound: they revoke a request, and none makes it pending again
or approves it. -/
theorem ApprovalTables.Sound.updated {t : ApprovalTables} (h : t.Sound q) (u : RowUpdate)
    {state : RequestState} (moved : state = t.state ∨ state = .revoked) :
    (t.updated u state).Sound q where
  either := by
    rcases h.either with empty | ⟨v, granted⟩
    · exact Or.inl (empty.updated u state)
    · exact Or.inr ⟨v, (ApprovalTables.granted_updated u state).mpr granted⟩
  requested := by
    intro (pending : state = .requested)
    rcases moved with same | revoked
    · exact (h.requested (same.symm.trans pending)).updated u state
    · cases revoked.symm.trans pending
  authorized := by
    intro (approved : state = .authorized)
    rcases moved with same | revoked
    · obtain ⟨v, granted⟩ := h.authorized (same.symm.trans approved)
      exact ⟨v, (ApprovalTables.granted_updated u state).mpr granted⟩
    · cases revoked.symm.trans approved

/-- There is one row of each kind, or none. -/
theorem ApprovalTables.Sound.lengths {t : ApprovalTables} (h : t.Sound q) :
    t.decisions.length ≤ 1 ∧ t.runs.length ≤ 1 ∧ t.dispatchIntents.length ≤ 1 ∧
      t.ownership.length ≤ 1 ∧ t.recovery.length ≤ 1 := by
  rcases h.either with empty | ⟨v, granted⟩
  · simp [empty.decisions, empty.runs, empty.dispatchIntents, empty.ownership, empty.recovery]
  · have decisions := congrArg List.length granted.decisions
    have runs := congrArg List.length granted.runs
    have dispatchIntents := congrArg List.length granted.dispatchIntents
    have ownership := congrArg List.length granted.ownership
    have recovery := congrArg List.length granted.recovery
    rw [List.length_map] at decisions runs dispatchIntents ownership recovery
    exact ⟨decisions.le, runs.le, dispatchIntents.le, ownership.le, recovery.le⟩

/-- The run has the columns of the request. -/
theorem ApprovalTables.Sound.copies {t : ApprovalTables} (h : t.Sound q) :
    ∀ run ∈ t.runs,
      run.1.operationOptionsJson = q.operation.operationOptionsJson ∧
      run.1.resourceBudgetJson = q.operation.resourceBudgetJson ∧
      run.1.accountImpactBudgetJson = q.operation.accountImpactBudgetJson ∧
      run.1.credentialScopeJson = q.operation.credentialScopeJson ∧
      run.1.operationPolicyRevision = q.operation.operationPolicyRevision := by
  intro run hr
  rcases h.either with empty | ⟨v, granted⟩
  · rw [empty.runs] at hr
    cases hr
  · have column : run.1 ∈ t.runs.map (·.1) := List.mem_map_of_mem hr
    rw [granted.runs, List.mem_singleton] at column
    rw [column]
    exact ⟨rfl, rfl, rfl, rfl, rfl⟩

/-! ### The invariant -/

variable (q expiresAt) in
/-- Where a caller is fits what is committed: one that writes has the row of a pending request and has
written what its own transaction holds, one that replays has read an approval. -/
def ApprovalPhase.Fits (t : ApprovalTables) (holder : Option W) (w : W) : ApprovalPhase → Prop
  | .writing v todo own => holder = some w ∧ t.state = .requested ∧
      ∃ done, done ++ todo = approvalStatements ∧ own = insertAll q expiresAt v (t.authorized v) done
  | .replaying _ decisionId => ∃ v, t.Granted q v ∧ decisionId = some v.decisionId
  | _ => True

variable (q expiresAt) in
/-- What holds between any two statements. -/
structure ApprovalInvariant (s : ApprovalSystem W) : Prop where
  sound : s.committed.Sound q
  fits : ∀ w, (s.phase w).Fits q expiresAt s.committed s.holder w

theorem approvalInvariant_initial :
    ApprovalInvariant q expiresAt (ApprovalSystem.initial : ApprovalSystem W) where
  sound :=
    { either := Or.inl ⟨rfl, rfl, rfl, rfl, rfl, rfl⟩
      requested := fun _ => ⟨rfl, rfl, rfl, rfl, rfl, rfl⟩
      authorized := nofun }
  fits := fun _ => trivial

/-- What a caller reads tells it to replay an approval, or to go on with a pending request. -/
theorem ApproveRequestArgs.select_ok {c : ApproveRequestArgs} {now : Instant} {t : ApprovalTables}
    {p : ApprovalPhase} (h : c.select q expiresAt now t = .ok p) :
    (t.state = .authorized ∧ p = .replaying c t.approvedDecisionId) ∨
      (t.state = .requested ∧ p = .checkingAsset c now) := by
  unfold ApproveRequestArgs.select at h
  split_ifs at h with _ _ approved _ pending _
  · exact Or.inl ⟨approved, (Except.ok.inj h).symm⟩
  · exact Or.inr ⟨not_not.mp pending, (Except.ok.inj h).symm⟩

/-- An answer after the first read has no identities. -/
theorem ApproveRequestArgs.select_error {c : ApproveRequestArgs} {now : Instant} {t : ApprovalTables}
    {answer : RequestApproval} (h : c.select q expiresAt now t = .error answer) :
    answer.status ≠ .authorized ∧ answer.status ≠ .replay := by
  unfold ApproveRequestArgs.select at h
  split_ifs at h <;> cases h <;> exact ⟨nofun, nofun⟩

/-- The transaction that commits has the five rows and the request. -/
theorem ApprovalInvariant.commits {s : ApprovalSystem W} (h : ApprovalInvariant q expiresAt s) {w : W}
    {v : Approval} {own : ApprovalTables} (at' : s.phase w = .writing v [] own) :
    s.committed.state = .requested ∧ own.state = .authorized ∧ own.Granted q v := by
  have fits := h.fits w
  rw [at'] at fits
  obtain ⟨-, pending, done, complete, rfl⟩ := fits
  rw [List.append_nil] at complete
  subst complete
  exact ⟨pending, rfl, granted_insertAll (h.sound.requested pending) v⟩

/-- The caller that has the row is the only one that writes. -/
theorem ApprovalInvariant.writer {s : ApprovalSystem W} (h : ApprovalInvariant q expiresAt s) {w : W}
    {v : Approval} {todo : List ApprovalStatement} {own : ApprovalTables}
    (at' : s.phase w = .writing v todo own) : s.holder = some w := by
  have fits := h.fits w
  rw [at'] at fits
  exact fits.1

/-- A caller that does not write fits whoever has the row, and one that replays needs an approval. -/
theorem ApprovalPhase.Fits.mono {p : ApprovalPhase} {t t' : ApprovalTables} {holder holder' : Option W}
    {w : W} (h : p.Fits q expiresAt t holder w) (waits : holder ≠ some w)
    (kept : ∀ v, t.Granted q v → t'.Granted q v) : p.Fits q expiresAt t' holder' w := by
  cases p with
  | writing v todo own => exact absurd h.1 waits
  | replaying c decisionId =>
      obtain ⟨v, granted, rfl⟩ := h
      exact ⟨v, kept v granted, rfl⟩
  | _ => trivial

variable [DecidableEq W]

/-- A caller goes on to where it fits. -/
theorem ApprovalInvariant.goes {s : ApprovalSystem W} (h : ApprovalInvariant q expiresAt s) (w : W)
    {p : ApprovalPhase} (fits : p.Fits q expiresAt s.committed s.holder w) :
    ApprovalInvariant q expiresAt (s.goes w p) where
  sound := h.sound
  fits := by
    intro w'
    by_cases same : w' = w
    · subst same
      simpa only [ApprovalSystem.goes, Function.update_self] using fits
    · simpa only [ApprovalSystem.goes, Function.update_of_ne same] using h.fits w'

/-- What other callers are left with, when the transaction of one of them ends. -/
theorem approvalInvariant_ends {s : ApprovalSystem W} {w : W} {t : ApprovalTables}
    {holder : Option W} (sound : t.Sound q)
    (others : ∀ w', w' ≠ w → (s.phase w').Fits q expiresAt t holder w') :
    ApprovalInvariant q expiresAt { s.goes w .idle with committed := t, holder := holder } where
  sound := sound
  fits := by
    intro w'
    by_cases same : w' = w
    · subst same
      simp only [ApprovalSystem.goes, Function.update_self]
      trivial
    · simpa only [ApprovalSystem.goes, Function.update_of_ne same] using others w' same

/-- One statement of one caller, or a call of another kind, keeps the invariant. -/
theorem step_approvalInvariant {s t : ApprovalSystem W} {e : ApprovalEvent W}
    (h : ApprovalInvariant q expiresAt s) (step : ApprovalStep q expiresAt s e t) :
    ApprovalInvariant q expiresAt t := by
  cases step with
  | uncorrelated => exact h
  | call | selectReturns | replay | asset | assetDenied | approver | approverDenied | updateLost =>
      exact h.goes _ trivial
  | @select w c p now at' read =>
      refine h.goes w ?_
      rcases ApproveRequestArgs.select_ok read with ⟨approved, rfl⟩ | ⟨-, rfl⟩
      · obtain ⟨v, granted⟩ := h.sound.authorized approved
        exact ⟨v, granted, granted.approvedDecisionId⟩
      · trivial
  | @update w c now at' free state =>
      refine ⟨h.sound, fun w' => ?_⟩
      by_cases same : w' = w
      · subst same
        simp only [ApprovalSystem.goes, Function.update_self]
        exact ⟨rfl, state, [], rfl, rfl⟩
      · simp only [ApprovalSystem.goes, Function.update_of_ne same]
        exact (h.fits w').mono (by rw [free]; nofun) fun v granted => granted
  | @insert w v statement todo own at' =>
      refine h.goes w ?_
      have fits := h.fits w
      rw [at'] at fits
      obtain ⟨holds, pending, done, complete, rfl⟩ := fits
      refine ⟨holds, pending, done ++ [statement], ?_, ?_⟩
      · rw [List.append_assoc]
        exact complete
      · rw [insertAll, insertAll, List.foldl_append]
        rfl
  | @commit w v own at' =>
      obtain ⟨pending, approved, granted⟩ := h.commits at'
      refine approvalInvariant_ends ?_ fun w' other => ?_
      · refine ⟨Or.inr ⟨v, granted⟩, fun again => ?_, fun _ => ⟨v, granted⟩⟩
        cases approved.symm.trans again
      · refine (h.fits w').mono ?_ fun v' granted' => absurd granted' ?_
        · rw [h.writer at']
          exact fun same => other (Option.some.inj same).symm
        · exact (h.sound.requested pending).not_granted
  | raises w =>
      refine approvalInvariant_ends h.sound fun w' other => ?_
      by_cases own : s.holder = some w
      · refine (h.fits w').mono ?_ fun v granted => granted
        rw [own]
        exact fun same => other (Option.some.inj same).symm
      · rw [if_neg own]
        exact h.fits w'
  | elsewhere u state free moved =>
      refine ⟨h.sound.updated u moved, fun w => ?_⟩
      exact (h.fits w).mono (by rw [free]; nofun) fun v granted =>
        (ApprovalTables.granted_updated u state).mpr granted

/-! ### What is returned -/

/-- The event is an approval that was committed. -/
def ApprovalEvent.authorizes : ApprovalEvent W → Bool
  | .returns _ answer => answer.status = .authorized
  | _ => false

/-- What a step does to the tables: a statement that is not a commit leaves them, another call inserts
nothing, and a commit finds them empty. -/
theorem approvalStep_cases {s t : ApprovalSystem W} {e : ApprovalEvent W}
    (h : ApprovalInvariant q expiresAt s) (step : ApprovalStep q expiresAt s e t) :
    (e.authorizes = false ∧ e ≠ .elsewhere ∧ t.committed = s.committed) ∨
      (e = .elsewhere ∧ ∃ u state, t.committed = s.committed.updated u state) ∨
      ∃ w v, e = .returns w ⟨.authorized, some v.decisionId, some v.executionId⟩ ∧
        s.committed.Empty ∧ t.committed.Granted q v := by
  cases step with
  | elsewhere u state => exact Or.inr (Or.inl ⟨rfl, u, state, rfl⟩)
  | @commit w v own at' =>
      obtain ⟨pending, -, granted⟩ := h.commits at'
      exact Or.inr (Or.inr ⟨w, v, rfl, h.sound.requested pending, granted⟩)
  | @selectReturns w c answer now at' read =>
      refine Or.inl ⟨?_, nofun, rfl⟩
      exact decide_eq_false (ApproveRequestArgs.select_error read).1
  | _ => exact Or.inl ⟨rfl, nofun, rfl⟩

variable (q expiresAt) in
/-- What the answers so far have to do with the tables. -/
structure ApprovalHistory (es : List (ApprovalEvent W)) (s : ApprovalSystem W) : Prop where
  invariant : ApprovalInvariant q expiresAt s
  none : s.committed.Empty → es.countP ApprovalEvent.authorizes = 0
  once : es.countP ApprovalEvent.authorizes ≤ 1
  returned : ∀ v, s.committed.Granted q v →
    ∃ w, .returns w ⟨.authorized, some v.decisionId, some v.executionId⟩ ∈ es

omit [DecidableEq W] in
theorem approvalHistory_initial :
    ApprovalHistory q expiresAt [] (ApprovalSystem.initial : ApprovalSystem W) where
  invariant := approvalInvariant_initial
  none := fun _ => rfl
  once := Nat.zero_le 1
  returned := fun _ granted => nomatch granted.approvedDecisionId

omit [DecidableEq W] in
/-- A step that is no approval leaves the history as it is, if the tables hold what they held. -/
theorem ApprovalHistory.more {es : List (ApprovalEvent W)} {s t : ApprovalSystem W}
    {e : ApprovalEvent W} (h : ApprovalHistory q expiresAt es s)
    (invariant : ApprovalInvariant q expiresAt t) (other : e.authorizes = false)
    (empty : t.committed.Empty → s.committed.Empty)
    (granted : ∀ v, t.committed.Granted q v → s.committed.Granted q v) :
    ApprovalHistory q expiresAt (es ++ [e]) t := by
  have count : (es ++ [e]).countP ApprovalEvent.authorizes = es.countP ApprovalEvent.authorizes := by
    rw [List.countP_append, List.countP_singleton, other]
    rfl
  refine ⟨invariant, fun h' => count.trans (h.none (empty h')), count.trans_le h.once, fun v h' => ?_⟩
  obtain ⟨w, answer⟩ := h.returned v (granted v h')
  exact ⟨w, List.mem_append_left _ answer⟩

theorem step_approvalHistory {es : List (ApprovalEvent W)} {s t : ApprovalSystem W}
    {e : ApprovalEvent W} (h : ApprovalHistory q expiresAt es s)
    (step : ApprovalStep q expiresAt s e t) : ApprovalHistory q expiresAt (es ++ [e]) t := by
  have after := step_approvalInvariant h.invariant step
  rcases approvalStep_cases h.invariant step with
    ⟨other, -, same⟩ | ⟨rfl, u, state, moved⟩ | ⟨w, v, rfl, empty, granted⟩
  · exact h.more after other (fun empty => same ▸ empty) fun v granted => same ▸ granted
  · refine h.more after rfl (fun empty => ?_) fun v granted => ?_
    · rcases h.invariant.sound.either with before | ⟨v, granted⟩
      · exact before
      · rw [moved] at empty
        exact absurd ((ApprovalTables.granted_updated u state).mpr granted) empty.not_granted
    · rw [moved] at granted
      exact (ApprovalTables.granted_updated u state).mp granted
  · have count := h.none empty
    refine ⟨after, fun empty' => absurd granted empty'.not_granted, ?_, fun v' granted' => ?_⟩
    · rw [List.countP_append, count, Nat.zero_add]
      exact List.countP_le_length
    · obtain ⟨decision, execution⟩ := granted'.same granted
      rw [decision, execution]
      exact ⟨w, List.mem_append_right _ (List.mem_singleton_self _)⟩

/-- A run from no call at all. -/
theorem approvalHistory_run {es : List (ApprovalEvent W)} {t : ApprovalSystem W}
    (r : Run (ApprovalStep q expiresAt) ApprovalSystem.initial es t) :
    ApprovalHistory q expiresAt es t :=
  r.history (fun _ _ _ _ h step => step_approvalHistory h step) approvalHistory_initial

/-- A replay answers with the approval the tables hold. -/
theorem replay_granted {s t : ApprovalSystem W} {w : W} {decisionId executionId : Option String}
    (h : ApprovalInvariant q expiresAt s)
    (step : ApprovalStep q expiresAt s (.returns w ⟨.replay, decisionId, executionId⟩) t) :
    ∃ v, s.committed.Granted q v ∧ decisionId = some v.decisionId ∧
      executionId = some v.executionId := by
  generalize answers : ApprovalEvent.returns w ⟨.replay, decisionId, executionId⟩ = e at step
  cases step with
  | @selectReturns w' c answer now at' read =>
      cases answers
      exact absurd rfl (ApproveRequestArgs.select_error read).2
  | @replay w' c decision execution at' found =>
      cases answers
      have fits := h.fits w
      rw [at'] at fits
      obtain ⟨v, granted, rfl⟩ := fits
      exact ⟨v, granted, rfl, congrArg some (granted.runOf found)⟩
  | _ => cases answers

namespace Sample

/-- One caller approves the request, and another calls. -/
def approvedOnce : List (ApprovalEvent Bool) :=
  .replicate 10 (.proceeds false) ++
    [.returns false ⟨.authorized, some "dec-a", some "run-a"⟩, .proceeds true, .proceeds true]

/-- The other is told of the approval. -/
theorem approvedTwice : ∃ t, Run (ApprovalStep request.columns (seconds 300))
    ApprovalSystem.initial
    (approvedOnce ++ [.returns true ⟨.replay, some "dec-a", some "run-a"⟩]) t := by
  apply Exists.intro
  apply Run.more (.call approval rfl rfl)
  apply Run.more (.select (seconds 1) rfl rfl)
  apply Run.more (.asset directory rfl rfl)
  apply Run.more (.approver directory rfl rfl)
  apply Run.more (.update rfl rfl rfl)
  iterate 5 apply Run.more (.insert rfl)
  apply Run.more (.commit (v := approval.approval "corr-a" (seconds 1)) rfl)
  apply Run.more (.call approval rfl rfl)
  apply Run.more (.select (seconds 2) rfl rfl)
  apply Run.more (.replay rfl rfl)
  exact .refl _

end Sample

/-- Whoever asks, with whatever keys, and however the statements interleave: one row of each kind is
inserted for the request at most and one approval is returned, a replay answers with its identities,
no other answer changes the tables, and the run copies the request. -/
theorem approval_at_most_once {es : List (ApprovalEvent W)} {t : ApprovalSystem W}
    (r : Run (ApprovalStep q expiresAt) ApprovalSystem.initial es t) :
    (t.committed.decisions.length ≤ 1 ∧ t.committed.runs.length ≤ 1 ∧
      t.committed.dispatchIntents.length ≤ 1 ∧ t.committed.ownership.length ≤ 1 ∧
      t.committed.recovery.length ≤ 1) ∧
    es.countP ApprovalEvent.authorizes ≤ 1 ∧
    (∀ pre post w decisionId executionId,
      es = pre ++ .returns w ⟨.replay, decisionId, executionId⟩ :: post →
      ∃ w', .returns w' ⟨.authorized, decisionId, executionId⟩ ∈ pre) ∧
    (∀ e t', ApprovalStep q expiresAt t e t' → e.authorizes = false → e ≠ .elsewhere →
      t'.committed = t.committed) ∧
    ∀ run ∈ t.committed.runs,
      run.1.operationOptionsJson = q.operation.operationOptionsJson ∧
      run.1.resourceBudgetJson = q.operation.resourceBudgetJson ∧
      run.1.accountImpactBudgetJson = q.operation.accountImpactBudgetJson ∧
      run.1.credentialScopeJson = q.operation.credentialScopeJson ∧
      run.1.operationPolicyRevision = q.operation.operationPolicyRevision := by
  have history := approvalHistory_run r
  have sound := history.invariant.sound
  refine ⟨sound.lengths, history.once, ?_, ?_, sound.copies⟩
  · rintro pre post w decisionId executionId rfl
    obtain ⟨s, s', before, replay, -⟩ := r.fired
    have earlier := approvalHistory_run before
    obtain ⟨v, granted, rfl, rfl⟩ := replay_granted earlier.invariant replay
    exact earlier.returned v granted
  · intro e t' step other here
    rcases approvalStep_cases history.invariant step with
      ⟨-, -, same⟩ | ⟨rfl, -⟩ | ⟨w, v, rfl, -⟩
    · exact same
    · exact absurd rfl here
    · cases other

theorem approval_at_most_once_twice :
    ∃ t, Run (ApprovalStep Sample.request.columns (seconds 300)) ApprovalSystem.initial
        (Sample.approvedOnce ++ [.returns true ⟨.replay, some "dec-a", some "run-a"⟩]) t ∧
      t.committed.runs.length ≤ 1 ∧
      ∃ w, .returns w ⟨.authorized, some "dec-a", some "run-a"⟩ ∈ Sample.approvedOnce := by
  obtain ⟨t, r⟩ := Sample.approvedTwice
  have ⟨lengths, _, replays, _⟩ := approval_at_most_once r
  exact ⟨t, r, lengths.2.1, replays Sample.approvedOnce [] true _ _ rfl⟩

end CyberAssess
