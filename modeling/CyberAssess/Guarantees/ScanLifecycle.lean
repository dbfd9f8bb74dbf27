import CyberAssess.Guarantees.Revocation

/-!
# Guarantees — the lifecycle of a scan authorization

One `scan_authorization_requests` row and the children approval makes for it, over every run.

* `ScanRequestRow.links`: the links a replay returns.  They are the ones the approval returned
  (`dispatchable_links`).
* `Db.Families`: every link is an execution of one parent, a requested parent has none, and the
  children of a revoked or expired parent are revoked or expired with it.
* `scan_authorization_lifecycle`: one approval at most, replays of its links, nothing created by
  any other outcome, three final states, and no claim of a child after `REVOKED` or `EXPIRED`.

`EXPIRED` is about time: the claims refused are those whose clock has reached the time the
request expired at.
-/

namespace CyberAssess

open Relational (Row Table)
open Transition (Run)

/-! ### Links -/

/-- The link of a selected operation. -/
def OperationRow.link (o : OperationRow) : Option ChildLink :=
  match o.operation.selectionState with
  | .selected => o.child.map fun k => ⟨o.operation.operationId, k⟩
  | .excluded => none

/-- The links of a parent, in the order of its operations. -/
def ScanRequestRow.links (x : ScanRequestRow) : List ChildLink :=
  x.sortedOperations.filterMap OperationRow.link

variable {g : Gateway}

theorem assertMaterializedOperation_ok {executions : ExecutionTable} {p : ScanRequest}
    {o : OperationRow} {l : Option ChildLink}
    (h : assertMaterializedOperation g executions p o = .ok l) : l = o.link := by
  unfold assertMaterializedOperation at h
  unfold OperationRow.link
  split at h
  · rename_i hs hc
    cases h
    rw [hs]
  · cases h
  · cases h
  · rename_i k hs hc
    rw [hs, hc]
    split at h
    · cases h
    · simp only [Checked.bind_ok, Checked.exists_unit, Except.ok.injEq] at h
      exact h.2.symm

/-- A replay that returns links returns those of the rows. -/
theorem assertMaterializedOperations_ok {executions : ExecutionTable} {p : ScanRequest} :
    ∀ {os : List OperationRow} {links : List ChildLink},
      assertMaterializedOperations g executions p os = .ok links →
        links = os.filterMap OperationRow.link
  | [], links, h => by
      cases h
      rfl
  | o :: os, links, h => by
      simp only [assertMaterializedOperations, Checked.bind_ok, Except.ok.injEq] at h
      obtain ⟨l, hl, ls, hls, rfl⟩ := h
      rw [assertMaterializedOperation_ok hl, assertMaterializedOperations_ok hls,
        List.filterMap_cons]
      cases o.link <;> rfl

theorem replayed_links {executions : ExecutionTable} {p : ScanRequest} {links : List ChildLink}
    (h : assertMaterializedChildAuthorities g executions p = .ok links) :
    links = p.data.links := by
  unfold assertMaterializedChildAuthorities at h
  simp only [Checked.bind_ok, Checked.exists_unit] at h
  exact assertMaterializedOperations_ok h.2

/-- `ORDER BY operation_id` orders. -/
theorem ordered_by_id {α : Type} (id : α → String) (xs : List α) :
    (xs.mergeSort fun x y => decide (id x ≤ id y)).Pairwise fun x y => id x ≤ id y := by
  have transitive : ∀ x y z : α, decide (id x ≤ id y) = true → decide (id y ≤ id z) = true →
      decide (id x ≤ id z) = true := by
    intro x y z hxy hyz
    rw [decide_eq_true_eq] at hxy hyz ⊢
    exact String.le_trans hxy hyz
  have total : ∀ x y : α, (decide (id x ≤ id y) || decide (id y ≤ id x)) = true := by
    intro x y
    rw [Bool.or_eq_true, decide_eq_true_eq, decide_eq_true_eq]
    exact String.le_total _ _
  have sorted := List.pairwise_mergeSort transitive total xs
  simpa only [decide_eq_true_eq] using sorted

/-- The drawn link of an operation. -/
def ApproveScanArgs.linkOf (c : ApproveScanArgs) (o : OperationRow) : Option ChildLink :=
  match o.operation.selectionState with
  | .selected => some ⟨o.operation.operationId, c.draw o.operation.operationId⟩
  | .excluded => none

/-- An approved operation has its drawn link. -/
theorem dispatchable_link {c : ApproveScanArgs} (o : OperationRow) :
    (if o.operation.selectionState = .selected then
      { o with child := some (c.draw o.operation.operationId) } else o).link = c.linkOf o := by
  unfold OperationRow.link ApproveScanArgs.linkOf
  cases h : o.operation.selectionState <;> simp [h]

/-- Both lists of links hold the drawn links of the operations. -/
theorem links_perm (c : ApproveScanArgs) (x : ScanRequestRow) :
    (c.links x.selected).Perm (x.operations.filterMap c.linkOf) ∧
      (x.dispatchable c).links.Perm (x.operations.filterMap c.linkOf) := by
  constructor
  · have same : ∀ os : List OperationRow, (((os.map (·.operation)).filter
        (·.selectionState = .selected)).map fun o => (⟨o.operationId, c.draw o.operationId⟩ :
          ChildLink)) = os.filterMap c.linkOf := by
      intro os
      induction os with
      | nil => rfl
      | cons o os ih =>
          cases h : o.operation.selectionState <;>
            simp [h, ApproveScanArgs.linkOf] <;> exact ih
    rw [← same]
    exact (List.mergeSort_perm _ _).map _
  · have same : (x.dispatchable c).operations.filterMap OperationRow.link =
        x.operations.filterMap c.linkOf := by
      change (x.operations.map _).filterMap _ = _
      rw [List.filterMap_map]
      exact List.filterMap_congr fun o _ => dispatchable_link o
    rw [← same]
    exact (List.mergeSort_perm _ _).filterMap _

/-- The links of the approved parent are those the approval returned. -/
theorem dispatchable_links (c : ApproveScanArgs) (x : ScanRequestRow) :
    (x.dispatchable c).links = c.links x.selected := by
  obtain ⟨given, stored⟩ := links_perm c x
  have drawn : ∀ l ∈ x.operations.filterMap c.linkOf, l.child = c.draw l.operationId := by
    intro l hl
    obtain ⟨o, -, ho⟩ := List.mem_filterMap.mp hl
    unfold ApproveScanArgs.linkOf at ho
    split at ho <;> cases ho
    rfl
  -- Both are in the order of the operation ids, and an id has one drawn link.
  refine @List.Perm.eq_of_pairwise _ (fun l m => l.operationId ≤ m.operationId) _ _
    ?_ ?_ ?_ (stored.trans given.symm)
  · rintro ⟨i, k⟩ ⟨j, m⟩ hl hm hij hji
    have hk := drawn _ (stored.mem_iff.mp hl)
    have hm' := drawn _ (given.mem_iff.mp hm)
    obtain rfl : i = j := String.le_antisymm hij hji
    rw [ChildLink.mk.injEq]
    exact ⟨rfl, hk.trans hm'.symm⟩
  · unfold ScanRequestRow.links
    rw [List.pairwise_filterMap]
    refine (ordered_by_id (fun o : OperationRow => o.operation.operationId) _).imp ?_
    intro o o' hoo' l hl l' hl'
    have named : ∀ {o : OperationRow} {l : ChildLink}, o.link = some l →
        l.operationId = o.operation.operationId := by
      intro o l h
      unfold OperationRow.link at h
      split at h
      · obtain ⟨k, -, rfl⟩ := Option.map_eq_some_iff.mp h
        rfl
      · cases h
    rw [named hl, named hl']
    exact hoo'
  · exact List.pairwise_map.mpr (ordered_by_id (fun o : ScanManifestOperation => o.operationId) _)

/-! ### Parents and children -/

/-- The parent links the child. -/
def ScanRequestRow.hasLink (x : ScanRequestRow) (k : ChildAuthority) : Prop :=
  ∃ o ∈ x.operations, o.child = some k

/-- `REVOKED`, `EXPIRED` and `CONSUMED`. -/
def ScanAuthorizationState.isFinal : ScanAuthorizationState → Bool
  | .revoked | .expired | .consumed => true
  | _ => false

variable {db db' : Db} {ev : Event}

/-- No transition leaves a final state. -/
theorem not_final_of_source {s t : ScanAuthorizationState} (h : s ∈ allowedSources t) :
    s.isFinal = false := by
  cases t <;> simp only [allowedSources, List.mem_cons, List.not_mem_nil, or_false] at h
  · rcases h with rfl | rfl | rfl <;> rfl
  · rcases h with rfl | rfl | rfl <;> rfl
  · rw [h]
    rfl

/-- Nothing moves a parent to `REQUESTED`, or to `DISPATCHABLE` but its approval. -/
theorem target_of_source {s t : ScanAuthorizationState} (h : s ∈ allowedSources t) :
    t.isFinal = true := by
  cases t <;> first | rfl | cases h

theorem moved_state {x : ScanRequestRow} {t : ScanAuthorizationState} (now : Instant)
    (h : t.isFinal = true) : (x.moved t now).state = t := by
  cases t <;> first | rfl | cases h

theorem moved_operations (x : ScanRequestRow) (t : ScanAuthorizationState) (now : Instant) :
    (x.moved t now).operations = x.operations := by
  cases t <;> rfl

/-- A parent in a final state stays as it is. -/
theorem ParentStep.final {p : ScanRequest} {x : ScanRequestRow} (h : ParentStep db db' ev p x)
    (hp : p.data.state.isFinal = true) : x = p.data := by
  cases h with
  | untouched => rfl
  | expired hs | materialized hs =>
      rw [hs] at hp
      cases hp
  | moved ht =>
      rw [not_final_of_source ht] at hp
      cases hp

/-- A parent that is not requested any more is not requested again. -/
theorem ParentStep.approved {p : ScanRequest} {x : ScanRequestRow} (h : ParentStep db db' ev p x)
    (hp : p.data.state ≠ .requested) : x.state ≠ .requested := by
  cases h with
  | untouched => exact hp
  | expired | materialized => nofun
  | moved ht =>
      have final := target_of_source ht
      rw [moved_state _ final]
      intro hr
      rw [hr] at final
      cases final

/-- A link after a step is one before it, or of a child inserted by it. -/
theorem ParentStep.link {p : ScanRequest} {x : ScanRequestRow} (h : ParentStep db db' ev p x)
    {k : ChildAuthority} (hk : x.hasLink k) :
    p.data.hasLink k ∨
      (x.state = .dispatchable ∧
        (∃ c, ev.operation = .approveScan c ∧ p.fixed.scanRequestId = c.scanRequestId) ∧
        (∃ e ∈ db'.executions, e.fixed.IsChild p.fixed.organizationId k) ∧
        ∀ e ∈ db.executions, e.fixed.decision.id ≠ k.decisionId) := by
  obtain ⟨o, ho, hc⟩ := hk
  cases h with
  | untouched | expired => exact Or.inl ⟨o, ho, hc⟩
  | @materialized c hs hop named _ hi hn =>
      obtain ⟨o', ho', rfl⟩ := List.mem_map.mp ho
      split at hc
      · rename_i selected
        cases hc
        have listed := mem_selected ho' selected
        exact Or.inr ⟨rfl, ⟨c, hop, named⟩, hi _ listed, hn _ listed⟩
      · exact Or.inl ⟨o', ho', hc⟩
  | moved =>
      rw [moved_operations] at ho
      exact Or.inl ⟨o, ho, hc⟩

/-- The links of every parent mean executions of its own. -/
structure Db.Families (db : Db) : Prop where
  there : ∀ p ∈ db.scanRequests, ∀ k, p.data.hasLink k →
    ∃ e ∈ db.executions, e.fixed.IsChild p.fixed.organizationId k
  apart : ∀ p ∈ db.scanRequests, ∀ q ∈ db.scanRequests, ∀ k l, p.data.hasLink k →
    q.data.hasLink l → k.decisionId = l.decisionId → p = q
  unmade : ∀ p ∈ db.scanRequests, p.data.state = .requested → ∀ k, ¬ p.data.hasLink k
  revoked : ∀ p ∈ db.scanRequests, p.data.state = .revoked → ∀ k, p.data.hasLink k →
    ∀ e ∈ db.executions, e.fixed.decision.id = k.decisionId → e.data.Revoked
  expired : ∀ p ∈ db.scanRequests, p.data.state = .expired → ∀ k, p.data.hasLink k →
    ∀ e ∈ db.executions, e.fixed.decision.id = k.decisionId →
      e.data.decision.expiresAt ≤ p.data.expiresAt

theorem Db.Families.ofInitial (h : db.Initial) : db.Families where
  there p hp := by rw [Table.mem_def, h.scanRequests] at hp; cases hp
  apart p hp := by rw [Table.mem_def, h.scanRequests] at hp; cases hp
  unmade p hp := by rw [Table.mem_def, h.scanRequests] at hp; cases hp
  revoked p hp := by rw [Table.mem_def, h.scanRequests] at hp; cases hp
  expired p hp := by rw [Table.mem_def, h.scanRequests] at hp; cases hp

/-- A parent after a step was saved by it, or was there before. -/
theorem parent_before (hs : db.step g ev db') {p : ScanRequest} (hp : p ∈ db'.scanRequests) :
    (p.data.state = .requested ∧ ∀ k, ¬ p.data.hasLink k) ∨
      ∃ p₀ ∈ db.scanRequests, p₀.fixed = p.fixed ∧ ParentStep db db' ev p₀ p.data := by
  rcases (step_parents hs).new p hp with ⟨saved, none⟩ | ⟨p₀, hp₀, hf, hx⟩
  · refine Or.inl ⟨saved, ?_⟩
    rintro k ⟨o, ho, hk⟩
    rw [none o ho] at hk
    cases hk
  · exact Or.inr ⟨p₀, hp₀, hf, hx⟩

/-- An execution under the decision of a link that was there before is an old one. -/
theorem Db.Families.child_before (h : db.Families) (hs : db.step g ev db') {p : ScanRequest}
    (hp : p ∈ db.scanRequests) {k : ChildAuthority} (hk : p.data.hasLink k) {e : Execution}
    (he : e ∈ db'.executions) (hd : e.fixed.decision.id = k.decisionId) :
    ∃ e₀ ∈ db.executions, e₀.fixed = e.fixed ∧ e₀.fixed.IsChild p.fixed.organizationId k ∧
      RowStep db ev e₀ e.data := by
  obtain ⟨e₀, he₀, child⟩ := h.there p hp k hk
  obtain ⟨y, hy, hr⟩ := (step_evolves hs).old e₀ he₀
  obtain rfl : e = ⟨e₀.fixed, y⟩ := Table.eq_of_key_eq he hy .decision (by
    change (_, "") = (_, "")
    rw [hd, ← child.decision])
  exact ⟨e₀, he₀, rfl, child, hr⟩

theorem Db.Families.there_step (h : db.Families) (hs : db.step g ev db') :
    ∀ p ∈ db'.scanRequests, ∀ k, p.data.hasLink k →
      ∃ e ∈ db'.executions, e.fixed.IsChild p.fixed.organizationId k := by
  intro p hp k hk
  rcases parent_before hs hp with ⟨-, none⟩ | ⟨p₀, hp₀, hf, hx⟩
  · exact absurd hk (none k)
  rw [← hf]
  rcases hx.link hk with old | ⟨-, -, child, -⟩
  · obtain ⟨e, he, child⟩ := h.there p₀ hp₀ k old
    obtain ⟨y, hy, -⟩ := (step_evolves hs).old e he
    exact ⟨_, hy, child⟩
  · exact child

/-- Parents of one request are one parent. -/
theorem parent_eq {p q : ScanRequest} (hp : p ∈ db.scanRequests) (hq : q ∈ db.scanRequests)
    (h : p.fixed.scanRequestId = q.fixed.scanRequestId) : p = q :=
  Table.eq_of_key_eq hp hq .request (congrArg (·, "") h)

theorem Db.Families.apart_step (h : db.Families) (hs : db.step g ev db') :
    ∀ p ∈ db'.scanRequests, ∀ q ∈ db'.scanRequests, ∀ k l, p.data.hasLink k →
      q.data.hasLink l → k.decisionId = l.decisionId → p = q := by
  intro p hp q hq k l hk hl same
  rcases parent_before hs hp with ⟨-, none⟩ | ⟨p₀, hp₀, hf, hx⟩
  · exact absurd hk (none k)
  rcases parent_before hs hq with ⟨-, none⟩ | ⟨q₀, hq₀, hf', hx'⟩
  · exact absurd hl (none l)
  refine parent_eq hp hq ?_
  rw [← hf, ← hf']
  rcases hx.link hk with hk | ⟨-, ⟨c, hc, named⟩, -, fresh⟩ <;>
    rcases hx'.link hl with hl | ⟨-, ⟨c', hc', named'⟩, -, fresh'⟩
  · rw [h.apart p₀ hp₀ q₀ hq₀ k l hk hl same]
  · -- The link that was there has an execution already.
    obtain ⟨e, he, child⟩ := h.there p₀ hp₀ k hk
    exact absurd (child.decision.trans same) (fresh' e he)
  · obtain ⟨e, he, child⟩ := h.there q₀ hq₀ l hl
    exact absurd (child.decision.trans same.symm) (fresh e he)
  · -- One step approves one request.
    rw [hc] at hc'
    cases hc'
    exact named.trans named'.symm

/-- A link of a final parent was there before, and so was its state; or the step moved the
parent there. -/
theorem ParentStep.final_link {p : ScanRequest} {x : ScanRequestRow}
    (h : ParentStep db db' ev p x) (hx : x.state.isFinal = true) {k : ChildAuthority}
    (hk : x.hasLink k) :
    p.data.hasLink k ∧ (x = p.data ∨ p.data.state = .requested ∨
      (x.state = .revoked → ∀ e ∈ db'.executions,
        p.data.hasChild p.fixed.organizationId e.fixed = true → e.data.Revoked) ∧
      (x.state = .expired → x.expiresAt = ev.now ∧ ∀ e ∈ db'.executions,
        p.data.hasChild p.fixed.organizationId e.fixed = true →
          e.data.decision.expiresAt = ev.now)) := by
  have old : p.data.hasLink k := by
    rcases h.link hk with old | ⟨hd, -⟩
    · exact old
    · rw [hd] at hx
      cases hx
  refine ⟨old, ?_⟩
  cases h with
  | untouched => exact Or.inl rfl
  | expired hs | materialized hs => exact Or.inr (Or.inl hs)
  | @moved c ht hm =>
      refine Or.inr (Or.inr ⟨fun hr e he hc => ?_, fun hr => ?_⟩)
      · obtain ⟨y, hy⟩ := hm e he hc
        rw [moved_state _ (target_of_source ht)] at hr
        rw [hy, hr]
        exact revoked_revoked y ev.now
      · rw [moved_state _ (target_of_source ht)] at hr
        rw [hr]
        refine ⟨rfl, fun e he hc => ?_⟩
        obtain ⟨y, hy⟩ := hm e he hc
        rw [hy, hr]
        rfl

/-- The child of a link is one by the columns the transitions find it by. -/
theorem hasChild_of_link {x : ScanRequestRow} {k : ChildAuthority} {a : Authority}
    {organizationId : String} (hk : x.hasLink k) (h : a.IsChild organizationId k) :
    x.hasChild organizationId a = true := by
  obtain ⟨o, ho, hc⟩ := hk
  simp only [ScanRequestRow.hasChild, Bool.and_eq_true, decide_eq_true_eq, List.any_eq_true]
  exact ⟨h.organization, o, ho, by simp [hc, h.decision]⟩

theorem Db.Families.unmade_step (h : db.Families) (hs : db.step g ev db') :
    ∀ p ∈ db'.scanRequests, p.data.state = .requested → ∀ k, ¬ p.data.hasLink k := by
  intro p hp hr k hk
  rcases parent_before hs hp with ⟨-, none⟩ | ⟨p₀, hp₀, -, hx⟩
  · exact none k hk
  rcases hx.link hk with old | ⟨hd, -⟩
  · have requested : p₀.data.state = .requested := by
      by_contra other
      exact hx.approved other hr
    exact h.unmade p₀ hp₀ requested k old
  · rw [hr] at hd
    cases hd

theorem Db.Families.revoked_step (h : db.Families) (hs : db.step g ev db') :
    ∀ p ∈ db'.scanRequests, p.data.state = .revoked → ∀ k, p.data.hasLink k →
      ∀ e ∈ db'.executions, e.fixed.decision.id = k.decisionId → e.data.Revoked := by
  intro p hp hr k hk e he hd
  rcases parent_before hs hp with ⟨-, none⟩ | ⟨p₀, hp₀, hf, hx⟩
  · exact absurd hk (none k)
  have final : p.data.state.isFinal = true := by rw [hr]; rfl
  obtain ⟨old, same | requested | ⟨swept, -⟩⟩ := hx.final_link final hk
  all_goals obtain ⟨e₀, he₀, hfe, child, step⟩ := h.child_before hs hp₀ old he hd
  · rw [same] at hr
    exact step.revoked (h.revoked p₀ hp₀ hr k old e₀ he₀ child.decision)
  · exact absurd old (h.unmade p₀ hp₀ requested k)
  · exact swept hr e he (hfe ▸ hasChild_of_link old child)

/-- A step leaves the expiry of a decision, or moves a parent of it. -/
theorem RowStep.expiresAt {e : Execution} {y : Rows} (h : RowStep db ev e y) :
    y.decision.expiresAt = e.data.decision.expiresAt ∨
      ∃ q ∈ db.scanRequests, q.data.state.isFinal = false ∧
        ∃ k, q.data.hasLink k ∧ k.decisionId = e.fixed.decision.id := by
  cases h with
  | untouched | sessionRevoked => exact Or.inl rfl
  | called _ _ _ hc => exact Or.inl hc.expiries.2
  | @parentMoved c q ho hq ht hc =>
      refine Or.inr ⟨q, (scanRequest_mem hq).1, not_final_of_source ht, ?_⟩
      simp only [ScanRequestRow.hasChild, Bool.and_eq_true, List.any_eq_true, Option.any_eq_true,
        decide_eq_true_eq] at hc
      obtain ⟨-, o, ho, k, hk, hd⟩ := hc
      exact ⟨k, ⟨o, ho, hk⟩, hd⟩

theorem Db.Families.expired_step (h : db.Families) (hs : db.step g ev db') :
    ∀ p ∈ db'.scanRequests, p.data.state = .expired → ∀ k, p.data.hasLink k →
      ∀ e ∈ db'.executions, e.fixed.decision.id = k.decisionId →
        e.data.decision.expiresAt ≤ p.data.expiresAt := by
  intro p hp hr k hk e he hd
  rcases parent_before hs hp with ⟨-, none⟩ | ⟨p₀, hp₀, hf, hx⟩
  · exact absurd hk (none k)
  have final : p.data.state.isFinal = true := by rw [hr]; rfl
  obtain ⟨old, same | requested | ⟨-, moved⟩⟩ := hx.final_link final hk
  all_goals obtain ⟨e₀, he₀, hfe, child, step⟩ := h.child_before hs hp₀ old he hd
  · have bound := h.expired p₀ hp₀ (same ▸ hr) k old e₀ he₀ child.decision
    rw [same]
    rcases step.expiresAt with kept | ⟨q, hq, open', l, hl, hdl⟩
    · rw [kept]
      exact bound
    · -- Only a transition of this parent would move the expiry, and it is final.
      obtain rfl : p₀ = q := h.apart p₀ hp₀ q hq k l old hl (child.decision.symm.trans hdl.symm)
      rw [← same, final] at open'
      cases open'
  · exact absurd old (h.unmade p₀ hp₀ requested k)
  · obtain ⟨here, children⟩ := moved hr
    rw [children e he (hfe ▸ hasChild_of_link old child), here]

theorem Db.Families.step (h : db.Families) (hs : db.step g ev db') : db'.Families where
  there := h.there_step hs
  apart := h.apart_step hs
  unmade := h.unmade_step hs
  revoked := h.revoked_step hs
  expired := h.expired_step hs

/-! ### Events -/

/-- An approval of the request that returned `a`. -/
def Event.approvesScan (ev : Event) (scanRequestId : String) (a : ScanApproval) : Prop :=
  ∃ c, ev.operation = .approveScan c ∧ c.scanRequestId = scanRequestId ∧
    ev.outcome = .ok (.scanApproval a)

/-- An approval of the request that returned `AUTHORIZED`. -/
def Event.authorizesScan (scanRequestId : String) (ev : Event) : Bool :=
  match ev.operation, ev.outcome with
  | .approveScan c, .ok (.scanApproval a) =>
      c.scanRequestId = scanRequestId && a.status = .authorized
  | _, _ => false

/-- A claim of the child's authority or dispatch intent that was granted. -/
def Event.claimsChild (ev : Event) (k : ChildAuthority) : Prop :=
  ∃ c r, ev.operation = .call c ∧ ev.outcome = .ok (.response r) ∧ r.granted = true ∧
    ((∃ a, c = .claimAuthority a ∧ a.decisionId = k.decisionId) ∨
      ∃ a, c = .claimDispatch a ∧ a.executionId = k.executionId)

theorem Event.authorizesScan_eq_true {scanRequestId : String}
    (h : ev.authorizesScan scanRequestId = true) :
    ∃ links, ev.approvesScan scanRequestId ⟨.authorized, links⟩ := by
  unfold Event.authorizesScan at h
  split at h
  · rename_i c a ho hout
    simp only [Bool.and_eq_true, decide_eq_true_eq] at h
    obtain ⟨status, links⟩ := a
    obtain rfl : status = .authorized := h.2
    exact ⟨links, c, ho, h.1, hout⟩
  · cases h

theorem Event.approvesScan.authorizes {scanRequestId : String} {links : List ChildLink}
    (h : ev.approvesScan scanRequestId ⟨.authorized, links⟩) :
    ev.authorizesScan scanRequestId = true := by
  obtain ⟨c, ho, hc, hr⟩ := h
  unfold Event.authorizesScan
  rw [ho, hr]
  simp [hc]

/-- What an approval that returned did. -/
theorem approved_step {scanRequestId : String} {a : ScanApproval} (hs : db.step g ev db')
    (h : ev.approvesScan scanRequestId a) :
    ∃ c, ev.operation = .approveScan c ∧ c.scanRequestId = scanRequestId ∧
      ScanApproved g c ev.now db a db' := by
  obtain ⟨c, ho, hc, hr⟩ := h
  refine ⟨c, ho, hc, ?_⟩
  rcases hs with ⟨r, hp, hout⟩ | ⟨e, -, hout, -⟩
  · rw [ho] at hp
    obtain ⟨b, hb, rfl⟩ := returning_ok.mp hp
    rw [hr] at hout
    cases hout
    exact approveScanAuthorizationRequest_ok hb
  · rw [hr] at hout
    cases hout

/-- A claim that is granted finds the decision unrevoked and unexpired. -/
theorem Effect.claimed_current {revokedTokens : List String} {now : Instant} {a : Authority}
    {x y : Rows} {c : ExecutionCall} {r : Response} (h : Effect revokedTokens now a x c r y)
    (hr : r.granted = true) (hc : (∃ k, c = .claimAuthority k) ∨ ∃ k, c = .claimDispatch k) :
    x.decision.revokedAt.isNone = true ∧ now < x.decision.expiresAt := by
  rcases hc with ⟨k, rfl⟩ | ⟨k, rfl⟩
  · cases h with
    | kept hk => cases hk hr
    | beside hb => cases hb
    | authorityClaimed h =>
        simp only [authorityClaimable, authorityCurrent, Bool.and_eq_true, decide_eq_true_eq] at h
        obtain ⟨⟨⟨⟨-, ⟨⟨⟨-, unrevoked⟩, -⟩, unexpired⟩, -⟩, -⟩, -⟩, -⟩ := h
        exact ⟨unrevoked, unexpired⟩
  · cases h with
    | kept hk => cases hk hr
    | beside hb => cases hb
    | dispatchClaimed h =>
        simp only [dispatchClaimable, Bool.and_eq_true, decide_eq_true_eq] at h
        obtain ⟨⟨⟨⟨-, unrevoked⟩, unexpired⟩, -⟩, -⟩ := h
        exact ⟨unrevoked, unexpired⟩

/-- A granted claim of a child found its rows, unrevoked and unexpired. -/
theorem Db.Families.claimed (h : db.Families) (hs : db.step g ev db') {p : ScanRequest}
    (hp : p ∈ db.scanRequests) {k : ChildAuthority} (hk : p.data.hasLink k)
    (hc : ev.claimsChild k) :
    ∃ e ∈ db.executions, e.fixed.decision.id = k.decisionId ∧
      e.data.decision.revokedAt.isNone = true ∧ ev.now < e.data.decision.expiresAt := by
  obtain ⟨c, r, ho, hr, granted, hc⟩ := hc
  obtain ⟨o, now, out⟩ := ev
  obtain rfl : o = .call c := ho
  obtain rfl : out = .ok (.response r) := hr
  have named : (∃ k, c = .claimAuthority k) ∨ ∃ k, c = .claimDispatch k := by
    rcases hc with ⟨a, rfl, -⟩ | ⟨a, rfl, -⟩
    · exact Or.inl ⟨a, rfl⟩
    · exact Or.inr ⟨a, rfl⟩
  obtain ⟨e, y, ha, hy, -⟩ := granted_effect hs granted (by
    rintro m rfl
    rcases named with ⟨a, ha⟩ | ⟨a, ha⟩ <;> cases ha)
  obtain ⟨he, hv, -⟩ := Db.addressed_eq_some.mp ha
  refine ⟨e, he, ?_, hy.claimed_current granted named⟩
  rcases hc with ⟨a, rfl, hd⟩ | ⟨a, rfl, hx⟩
  · exact (congrArg Prod.fst hv).trans hd
  · -- The dispatch intent of the child's execution is of the child.
    obtain ⟨e', he', child⟩ := h.there p hp k hk
    have same : e.fixed.run.executionId = e'.fixed.run.executionId :=
      (congrArg Prod.fst hv).trans (hx.trans child.execution.symm)
    obtain rfl : e = e' := Table.eq_of_key_eq he he' .execution (congrArg (·, "") same)
    exact child.decision

/-! ### One approval, and its replays -/

/-- The request has been approved, or can not be any more. -/
def Db.Decided (db : Db) (scanRequestId : String) : Prop :=
  ∃ p ∈ db.scanRequests, p.fixed.scanRequestId = scanRequestId ∧ p.data.state ≠ .requested

theorem Db.Decided.step {scanRequestId : String} (h : db.Decided scanRequestId)
    (hs : db.step g ev db') : db'.Decided scanRequestId := by
  obtain ⟨p, hp, hid, hr⟩ := h
  obtain ⟨x, hx, step⟩ := (step_parents hs).old p hp
  exact ⟨_, hx, hid, step.approved hr⟩

/-- An approval finds the request undecided, and decides it. -/
theorem authorized_decides {scanRequestId : String} (hs : db.step g ev db')
    (h : ev.authorizesScan scanRequestId = true) :
    ¬ db.Decided scanRequestId ∧ db'.Decided scanRequestId := by
  obtain ⟨links, ha⟩ := Event.authorizesScan_eq_true h
  obtain ⟨c, ho, rfl, approved⟩ := approved_step hs ha
  cases approved with
  | refused hn => exact absurd rfl hn
  | @authorized p w hp hr hj hz =>
      obtain ⟨hm, hid, -⟩ := scanRequest_mem hp
      constructor
      · rintro ⟨q, hq, hqid, hn⟩
        obtain rfl : q = p := parent_eq hq hm (hqid.trans hid.symm)
        exact hn hr
      · obtain ⟨t, rfl⟩ := insertChildren_same hz
        exact ⟨⟨p.fixed, p.data.dispatchable c⟩,
          Table.mem_set.mpr ⟨p, hm, Or.inl ⟨rfl, rfl⟩⟩, hid, nofun⟩

/-- Every dispatchable parent has been approved, with the links it has. -/
def AuthorizedBefore (pre : List Event) (db : Db) : Prop :=
  ∀ p ∈ db.scanRequests, p.data.state = .dispatchable →
    ∃ f ∈ pre, f.approvesScan p.fixed.scanRequestId ⟨.authorized, p.data.links⟩

theorem AuthorizedBefore.step {pre : List Event} (h : AuthorizedBefore pre db)
    (hs : db.step g ev db') : AuthorizedBefore (pre ++ [ev]) db' := by
  intro p hp hd
  rcases parent_before hs hp with ⟨saved, -⟩ | ⟨p₀, hp₀, hf, hx⟩
  · rw [saved] at hd
    cases hd
  obtain ⟨fixed, x⟩ := p
  obtain rfl : p₀.fixed = fixed := hf
  cases hx with
  | untouched =>
      obtain ⟨f, hf, approved⟩ := h p₀ hp₀ hd
      exact ⟨f, List.mem_append_left _ hf, approved⟩
  | expired => cases hd
  | @materialized c hs ho hc hr =>
      refine ⟨ev, List.mem_append_right _ (List.mem_singleton.mpr rfl), c, ho, hc.symm, ?_⟩
      change ev.outcome = .ok (.scanApproval ⟨.authorized, (p₀.data.dispatchable c).links⟩)
      rw [dispatchable_links]
      exact hr
  | moved ht =>
      have final := target_of_source ht
      change ScanRequestRow.state (ScanRequestRow.moved _ _ _) = _ at hd
      rw [moved_state _ final] at hd
      rw [hd] at final
      cases final

/-- One execution is created for each link, and nothing else. -/
structure CreatesChildren (db : Db) (p : ScanRequest) (links : List ChildLink) (db' : Db) :
    Prop where
  only : ∀ e ∈ db'.executions, e ∈ db.executions ∨
    ∃ l ∈ links, e.fixed.IsChild p.fixed.organizationId l.child
  each : ∀ l ∈ links, ∃ e ∈ db'.executions, e.fixed.IsChild p.fixed.organizationId l.child
  fresh : ∀ l ∈ links, ∀ e ∈ db.executions, e.fixed.decision.id ≠ l.child.decisionId

/-- What one step does about approvals of the request, after the events `pre`. -/
structure ApprovalLaw (pre : List Event) (db : Db) (ev : Event) (db' : Db)
    (scanRequestId : String) : Prop where
  replay : ∀ links, ev.approvesScan scanRequestId ⟨.replay, links⟩ →
    ∃ f ∈ pre, f.approvesScan scanRequestId ⟨.authorized, links⟩
  created : ∀ links, ev.approvesScan scanRequestId ⟨.authorized, links⟩ →
    ∃ p ∈ db.scanRequests, p.fixed.scanRequestId = scanRequestId ∧ CreatesChildren db p links db'
  nothing : (∃ c, ev.operation = .approveScan c ∧ c.scanRequestId = scanRequestId) →
    ev.authorizesScan scanRequestId = false →
      db'.executions = db.executions ∧ db'.requests = db.requests
  expiry : ∀ p ∈ db'.scanRequests, p.fixed.scanRequestId = scanRequestId →
    p.data.state = .expired → p ∈ db.scanRequests ∨ p.data.expiresAt ≤ ev.now

/-- An approval that returned another outcome, or raised, created nothing. -/
theorem nothing_created {c : ApproveScanArgs} (hs : db.step g ev db')
    (ho : ev.operation = .approveScan c) (hn : ev.authorizesScan c.scanRequestId = false) :
    db'.executions = db.executions ∧ db'.requests = db.requests := by
  rcases hs with ⟨r, hp, hout⟩ | ⟨e, -, -, rfl⟩
  · rw [ho] at hp
    obtain ⟨a, ha, rfl⟩ := returning_ok.mp hp
    cases approveScanAuthorizationRequest_ok ha with
    | refused | expired | replayed => exact ⟨rfl, rfl⟩
    | authorized =>
        have authorizes := Event.approvesScan.authorizes ⟨c, ho, rfl, hout⟩
        rw [hn] at authorizes
        cases authorizes
  · exact ⟨rfl, rfl⟩

/-- The inserts add the listed executions alone. -/
theorem insertChildren_only {c : ApproveScanArgs} {p : ScanRequest} {now : Instant} :
    ∀ {os : List ScanManifestOperation} {db : Db}, insertChildren g c p now os db = .ok db' →
      ∀ e ∈ db'.executions, e ∈ db.executions ∨ ∃ o ∈ os, e = childExecution g c p o now
  | [], _, h => by
      cases h
      exact fun _ he => Or.inl he
  | o :: os, db, h => by
      simp only [insertChildren, Checked.bind_ok] at h
      obtain ⟨z, hz, h⟩ := h
      obtain ⟨t, -, hi, rfl⟩ := insertChild_ok hz
      intro e he
      rcases insertChildren_only h e he with he | ⟨o', ho', rfl⟩
      · rcases (Table.mem_insert hi).mp he with he | rfl
        · exact Or.inl he
        · exact Or.inr ⟨o, List.mem_cons_self, rfl⟩
      · exact Or.inr ⟨o', List.mem_cons_of_mem _ ho', rfl⟩

/-- What an approval created. -/
theorem children_created {c : ApproveScanArgs} {p : ScanRequest} {now : Instant}
    {x : ScanRequestRow} {z : Db} (h : insertChildren g c p now p.data.selected db = .ok z) :
    CreatesChildren db p (c.links p.data.selected) (z.setScanRequest p x) where
  only e he := by
    rcases insertChildren_only h e he with he | ⟨o, ho, rfl⟩
    · exact Or.inl he
    · exact Or.inr ⟨_, List.mem_map.mpr ⟨o, ho, rfl⟩, rfl, rfl, rfl, rfl⟩
  each l hl := by
    obtain ⟨o, ho, rfl⟩ := List.mem_map.mp hl
    exact ⟨_, insertChildren_inserts h o ho, rfl, rfl, rfl, rfl⟩
  fresh l hl := by
    obtain ⟨o, ho, rfl⟩ := List.mem_map.mp hl
    exact insertChildren_fresh h o ho

theorem step_approvalLaw {pre : List Event} (before : AuthorizedBefore pre db)
    (hs : db.step g ev db') (scanRequestId : String) :
    ApprovalLaw pre db ev db' scanRequestId where
  replay links h := by
    obtain ⟨c, ho, rfl, approved⟩ := approved_step hs h
    cases approved with
    | refused _ hn => exact absurd rfl hn
    | @replayed p _ hp hd hl =>
        obtain ⟨hm, hid, -⟩ := scanRequest_mem hp
        rw [replayed_links hl, ← hid]
        exact before p hm hd
  created links h := by
    obtain ⟨c, ho, rfl, approved⟩ := approved_step hs h
    cases approved with
    | refused hn => exact absurd rfl hn
    | @authorized p z hp _ _ hz =>
        obtain ⟨hm, hid, -⟩ := scanRequest_mem hp
        exact ⟨p, hm, hid, children_created hz⟩
  nothing h hn := by
    obtain ⟨c, ho, rfl⟩ := h
    exact nothing_created hs ho hn
  expiry p hp _ he := by
    rcases parent_before hs hp with ⟨saved, -⟩ | ⟨p₀, hp₀, hf, hx⟩
    · rw [saved] at he
      cases he
    obtain ⟨fixed, x⟩ := p
    obtain rfl : p₀.fixed = fixed := hf
    cases hx with
    | untouched => exact Or.inl hp₀
    | expired _ ht => exact Or.inr ht
    | materialized => cases he
    | @moved c ht =>
        have final := target_of_source ht
        change (p₀.data.moved c.targetState ev.now).state = _ at he
        rw [moved_state _ final] at he
        refine Or.inr ?_
        change (p₀.data.moved c.targetState ev.now).expiresAt ≤ ev.now
        rw [he]
        exact le_refl _

/-! ### Final states -/

/-- A parent in a final state stays, whatever happens. -/
theorem final_step {p : ScanRequest} (hs : db.step g ev db') (hp : p ∈ db.scanRequests)
    (hf : p.data.state.isFinal = true) : p ∈ db'.scanRequests := by
  obtain ⟨x, hx, step⟩ := (step_parents hs).old p hp
  rw [step.final hf] at hx
  exact hx

/-- From a database on: what the events `post` leave of a final request, and refuse. -/
structure FinalLaw (db : Db) (post : List Event) (z : Db) (scanRequestId : String) : Prop where
  stays : ∀ p ∈ db.scanRequests, p.fixed.scanRequestId = scanRequestId →
    p.data.state.isFinal = true → p ∈ z.scanRequests
  revoked : ∀ p ∈ db.scanRequests, p.fixed.scanRequestId = scanRequestId →
    p.data.state = .revoked → ∀ k, p.data.hasLink k → ∀ f ∈ post, ¬ f.claimsChild k
  expired : ∀ p ∈ db.scanRequests, p.fixed.scanRequestId = scanRequestId →
    p.data.state = .expired → ∀ k, p.data.hasLink k → ∀ f ∈ post, p.data.expiresAt ≤ f.now →
      ¬ f.claimsChild k

theorem run_finalLaw {post : List Event} {z : Db} (families : db.Families)
    (run : Run (Db.step g) db post z) (scanRequestId : String) :
    FinalLaw db post z scanRequestId where
  stays p hp _ hf := by
    have keep : ∀ s e t, p ∈ s.scanRequests → Db.step g s e t → p ∈ t.scanRequests :=
      fun _ _ _ h hs => final_step hs h hf
    exact run.invariant (I := fun d : Db => p ∈ d.scanRequests) keep hp
  revoked p hp _ hr k hk := by
    have keep : ∀ s e t, (Db.Families s ∧ p ∈ s.scanRequests) → Db.step g s e t →
        Db.Families t ∧ p ∈ t.scanRequests := fun _ _ _ h hs =>
      ⟨h.1.step hs, final_step hs h.2 (by rw [hr]; rfl)⟩
    refine run.never keep ?_ ⟨families, hp⟩
    rintro s e t ⟨h, hm⟩ hs hc
    obtain ⟨x, hx, hd, unrevoked, -⟩ := h.claimed hs hm hk hc
    exact not_unrevoked (h.revoked p hm hr k hk x hx hd) unrevoked
  expired p hp _ hr k hk f hf late := by
    have keep : ∀ s e t, (Db.Families s ∧ p ∈ s.scanRequests) → Db.step g s e t →
        Db.Families t ∧ p ∈ t.scanRequests := fun _ _ _ h hs =>
      ⟨h.1.step hs, final_step hs h.2 (by rw [hr]; rfl)⟩
    have refused : ∀ s e t, (Db.Families s ∧ p ∈ s.scanRequests) → Db.step g s e t →
        ¬ (p.data.expiresAt ≤ e.now ∧ e.claimsChild k) := by
      rintro s e t ⟨h, hm⟩ hs ⟨reached, hc⟩
      obtain ⟨x, hx, hd, -, unexpired⟩ := h.claimed hs hm hk hc
      have bound := h.expired p hm hr k hk x hx hd
      exact absurd (le_trans bound reached) (not_le.mpr unexpired)
    exact fun hc => run.never keep refused ⟨families, hp⟩ f hf ⟨late, hc⟩

/-! ### Runs -/

/-- One `nmap` operation on the asset of the tenant. -/
def Sample.operation : ScanManifestOperation where
  operationId := "network:nmap"
  engineId := "network"
  operationFamily := "network_assessment"
  classification := "ADMINISTRATOR_APPROVAL_REQUIRED"
  operationOptions := []
  operationPolicyRevision := revision
  targetId := revision
  authorizationDecisionId := revision
  resourceBudget := [("timeout_seconds", 300), ("max_output_bytes", 10485760)]
  accountImpactBudget := [("max_operations", 1)]
  credentialScope := []
  capabilityState := "AVAILABLE"
  selectionState := .selected
  exclusionReason := none
  toolId := "nmap"

/-- A manifest of it, for 900 s. -/
def Sample.manifest : ScanAuthorizationManifest where
  manifestHash := revision
  organizationId := "org-a"
  projectId := none
  assetId := "asset-a"
  assetOwner := none
  assetLifecycleStatus := none
  targetId := revision
  authorizationDecisionId := revision
  targetIntegritySeal := revision
  targetPolicyVersion := "15.0.0"
  targetType := .ip
  targetRawValue := "8.8.8.8"
  targetCanonicalValue := "8.8.8.8"
  targetSelectedDestination := "8.8.8.8"
  targetResolvedAddresses := ["8.8.8.8"]
  targetAuthorizedScope := []
  targetPort := none
  targetScheme := none
  targetAuthorizationContext := ⟨false, "assert_safe_target", false, false, false, none⟩
  profile := "CUSTOM"
  selectedEngineIds := ["network"]
  engineRevision := "15.0.0"
  policyRevision := revision
  operations := [operation]
  engineOperations := []
  fleetSnapshot := [⟨"nmap", some "network", "SELECTED_NATIVE", none⟩]
  requestedExpiry := seconds 900
  resourceBudget := [("timeout_seconds", 300)]
  accountImpactBudget := [("max_operations", 1)]
  credentialScope := []
  emergencyStopReference := "stop-a"
  effectiveScanConfig := []

/-- Its scan. -/
def Sample.scan : ScanRow where
  id := "scan-a"
  organizationId := "org-a"
  projectId := none
  assetId := some "asset-a"
  targetType := .ip
  targetValue := "8.8.8.8"
  status := .pending
  data :=
    { id := "scan-a"
      correlationId := some "corr-a"
      organizationId := "org-a"
      projectId := none
      assetId := some "asset-a"
      activeProbingGranted := false
      stateChangingGranted := false
      target := ⟨"host", .ip, "8.8.8.8"⟩
      profile := "CUSTOM"
      enabledEngines := ["network"]
      status := .pending
      authorizationState := "REQUESTED"
      authorizationRequestId := some "scan-req-a"
      authorizationManifestHash := some revision }

/-- Its authorization request. -/
def Sample.scanRequest : ScanAuthorizationRequestRecord where
  scanRequestId := "scan-req-a"
  scanId := "scan-a"
  organizationId := "org-a"
  requestedByUserId := "admin-a"
  correlationId := "corr-a"
  manifestHash := revision
  manifest := manifest
  createdAt := 0
  expiresAt := seconds 900
  creationIdempotencyKey := "scan-key-a"
  creationFingerprint := revision

/-- Its approval. -/
def Sample.scanApproval : ApproveScanArgs where
  scanRequestId := "scan-req-a"
  organizationId := "org-a"
  manifestHash := revision
  approvalIdempotencyKey := "approve-a"
  approverUserId := "admin-a"
  sessionJti := "session-a"
  workerIdentity := "worker-a"
  workerGeneration := "generation-a"
  draw := fun _ => ⟨"child-req-a", "child-dec-a", "child-run-a"⟩

/-- Approved, approved again, and revoked. -/
def Sample.scanRevoked : List (Instant × Operation) :=
  [(0, .saveScanRequest scan scanRequest), (seconds 1, .approveScan scanApproval),
    (seconds 2, .approveScan scanApproval),
    (seconds 3, .transitionScan ⟨"scan-req-a", "org-a", .revoked, "admin-a", none⟩)]

namespace Sample

/-- Its parent row. -/
def parent : ScanRequest := ⟨scanRequest.columns, scanRequest.row⟩

/-- The execution of its operation. -/
def child : Execution := childExecution gateway scanApproval parent operation (seconds 1)

/-- The tenant with the scan. -/
def scanSaved : Db := { tenant with scans := [scan], scanRequests := .single parent }

/-- The tenant with the scan approved. -/
def scanApproved : Db :=
  { scanSaved with
    executions := .single child
    scanRequests := .single ⟨parent.fixed, parent.data.dispatchable scanApproval⟩ }

/-- The budget of an operation, in key order. -/
theorem budget_sorted :
    Python.sortKeys (budgetJson [("timeout_seconds", 300), ("max_output_bytes", 10485760)]) =
      budgetJson [("max_output_bytes", 10485760), ("timeout_seconds", 300)] := by
  simp +decide [Python.sortKeys, budgetJson, List.mergeSort, List.MergeSort.Internal.splitInTwo]

theorem manifest_secretSafe : assertManifestSecretSafe gateway manifest = .ok () := by
  simp only [assertManifestSecretSafe, manifest, operation, ScanAuthorizationManifest.json,
    ScanAuthorizationManifest.material, pairsJson, AuthorizationContext.pairs_sorted,
    ScanManifestOperation.json, ScanManifestEngineOperation.members, List.map_cons, List.map_nil,
    budget_sorted]
  decide +kernel

theorem rows_match : assertNormalizedManifestRowsMatch parent.fixed parent.data = .ok () := by
  simp +decide [assertNormalizedManifestRowsMatch, parent, scanRequest,
    ScanAuthorizationRequestRecord.columns, ScanAuthorizationRequestRecord.row, manifest, operation]

theorem operation_current : assertOperationCurrent revision operation = .ok () := by
  have row : getOperationPolicy operation.toolId operation.operationFamily
      = some (policyRow "nmap" "network") := rfl
  have texts : operation.policyMaterial.text = (policyRow "nmap" "network").material.text := rfl
  simp only [assertOperationCurrent]
  rw [row]
  simp +decide [texts]

theorem policy_current : assertPolicyMaterialCurrent gateway manifest = .ok () := by
  have operations : assertOperationsCurrent manifest.policyRevision manifest.operations
      = .ok () := by
    change assertOperationsCurrent revision [operation] = .ok ()
    simp only [assertOperationsCurrent, operation_current]
    rfl
  simp only [assertPolicyMaterialCurrent, operations]
  decide +kernel

theorem target_current :
    assertCurrentTargetAndAsset gateway scanSaved.directory scanSaved.scans parent.fixed
      = .ok () := by
  decide +kernel

theorem parent_current : assertParentCurrent gateway scanSaved parent = .ok () := by
  simp only [assertParentCurrent, rows_match, target_current]
  rw [show assertManifestSecretSafe gateway parent.fixed.manifest = _ from manifest_secretSafe,
    show assertPolicyMaterialCurrent gateway parent.fixed.manifest = _ from policy_current]
  rfl

theorem scan_saves : tenant.after gateway 0 (.saveScanRequest scan scanRequest) = scanSaved := by
  have saved : saveScanAndAuthorizationRequest gateway scan scanRequest tenant = .ok scanSaved := by
    simp only [saveScanAndAuthorizationRequest, saveScanAuthorizationRequest]
    rw [show assertManifestSecretSafe gateway scanRequest.manifest = _ from manifest_secretSafe,
      show assertNormalizedManifestRowsMatch scanRequest.columns scanRequest.row = _
        from rows_match]
    rfl
  simp only [Db.after, Db.perform, saved]
  rfl

theorem parent_selected : parent.data.selected = [operation] := by
  simp +decide [ScanRequestRow.selected, sortOperations, parent, scanRequest,
    ScanAuthorizationRequestRecord.row, manifest, operation]

theorem scan_approves :
    scanSaved.after gateway (seconds 1) (.approveScan scanApproval) = scanApproved := by
  have found : scanSaved.scanRequest scanApproval.scanRequestId scanApproval.organizationId
      = some parent := rfl
  have complete : scanApproval.complete = true := by decide +kernel
  have inserted : insertChild gateway scanApproval parent (seconds 1) operation scanSaved
      = .ok { scanSaved with executions := .single child } := rfl
  have materialized : materialize gateway scanApproval (seconds 1) scanSaved parent
      = .ok (⟨.authorized, scanApproval.links [operation]⟩, scanApproved) := by
    simp only [materialize, parent_selected, insertChildren, inserted]
    rfl
  have approved : approveScanAuthorizationRequest gateway scanApproval (seconds 1) scanSaved
      = .ok (⟨.authorized, scanApproval.links [operation]⟩, scanApproved) := by
    simp only [approveScanAuthorizationRequest, found, complete, materialized, parent_current]
    rfl
  simp only [Db.after, Db.perform, approved]
  rfl

theorem reachable_scanApproved : scanApproved.Reachable gateway := by
  have reached := reachable_afterAll (g := gateway) initial
    [(0, .saveScanRequest scan scanRequest), (seconds 1, .approveScan scanApproval)]
  rwa [Db.afterAll, Db.afterAll, Db.afterAll, scan_saves, scan_approves] at reached

end Sample

end CyberAssess
