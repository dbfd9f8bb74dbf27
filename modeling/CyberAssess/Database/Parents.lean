import CyberAssess.Database.Run

/-!
# Database — what a step does to the requests

The other tables of a step: the parent requests with the links to their children, the requests
without a decision, and the revoked sessions.

* `step_parents`: a parent is saved, expired, given its children, or moved with them.
* `Db.Linked`: the children a parent links exist, so a link never means an execution that is
  inserted later.
* `Db.Separate`: a request is pending or has an execution, not both.
-/

namespace CyberAssess

open Relational (Row Table)
open Relational.Table (evolves_refl evolves_update evolves_set evolves_insert)

variable {g : Gateway} {db db' : Db} {ev : Event}

/-! ### The parents -/

/-- The rows of the child `k` of a parent of the organization. -/
structure Authority.IsChild (a : Authority) (organizationId : String) (k : ChildAuthority) :
    Prop where
  request : a.request.id = k.requestId
  decision : a.decision.id = k.decisionId
  execution : a.run.executionId = k.executionId
  organization : a.decision.organizationId = organizationId

/-- The ways a step changes a parent. -/
inductive ParentStep (db db' : Db) (ev : Event) (p : ScanRequest) : ScanRequestRow → Prop where
  | untouched : ParentStep db db' ev p p.data
  | expired (hs : p.data.state = .requested) (ht : p.data.expiresAt ≤ ev.now) :
      ParentStep db db' ev p { p.data with state := .expired }
  | materialized {c : ApproveScanArgs} (hs : p.data.state = .requested)
      (ho : ev.operation = .approveScan c) (hc : p.fixed.scanRequestId = c.scanRequestId)
      (hr : ev.outcome = .ok (.scanApproval ⟨.authorized, c.links p.data.selected⟩))
      (hi : ∀ o ∈ p.data.selected, ∃ e ∈ db'.executions,
        e.fixed.IsChild p.fixed.organizationId (c.draw o.operationId))
      (hn : ∀ o ∈ p.data.selected, ∀ e ∈ db.executions,
        e.fixed.decision.id ≠ (c.draw o.operationId).decisionId) :
      ParentStep db db' ev p (p.data.dispatchable c)
  | moved {c : TransitionScanArgs} (ht : p.data.state ∈ allowedSources c.targetState)
      (hm : ∀ e ∈ db'.executions, p.data.hasChild p.fixed.organizationId e.fixed = true →
        ∃ x : Rows, e.data = x.parentMoved c.targetState ev.now) :
      ParentStep db db' ev p (p.data.moved c.targetState ev.now)

/-- A parent as it is saved. -/
def ParentSaved (p : ScanRequest) : Prop :=
  p.data.state = .requested ∧ ∀ o ∈ p.data.operations, o.child = none

/-- One parent is rewritten. -/
theorem evolves_setScanRequest {p : ScanRequest} {x : ScanRequestRow}
    (hp : p ∈ db.scanRequests) (h : ParentStep db db' ev p x) :
    db.scanRequests.Evolves (ParentStep db db' ev) ParentSaved (db.setScanRequest p x).scanRequests :=
  evolves_set hp h fun _ _ _ => .untouched

/-- What a step does to the parents. -/
theorem step_parents (h : db.step g ev db') :
    db.scanRequests.Evolves (ParentStep db db' ev) ParentSaved db'.scanRequests := by
  have stay : db.scanRequests.Evolves (ParentStep db db' ev) ParentSaved db.scanRequests :=
    evolves_refl fun _ _ => .untouched
  cases step_change h with
  | beside _ _ hp => exact hp ▸ stay
  | called | pendingRevoked | requestCreated | tokenRevoked => exact stay
  | requestApproved _ _ _ _ hz =>
      rw [(approve_some hz).2.1]
      exact stay
  | parentSaved hi =>
      refine evolves_insert hi (fun _ _ => .untouched) ⟨rfl, ?_⟩
      intro o ho
      obtain ⟨m, -, rfl⟩ := List.mem_map.mp ho
      rfl
  | parentExpired hp hs ht => exact evolves_setScanRequest hp (.expired hs ht)
  | @parentMaterialized c p z ho hp hs hj hz hf hr =>
      have children := insertChildren_inserts hz
      have fresh := insertChildren_fresh hz
      obtain ⟨t, rfl⟩ := insertChildren_same hz
      have named := (scanRequest_mem hf).2.1
      refine evolves_set hp (.materialized hs ho named hr ?_ fresh) fun _ _ _ => .untouched
      exact fun o ho => ⟨_, children o ho, rfl, rfl, rfl, rfl⟩
  | @parentMoved c p ho hp ht =>
      obtain ⟨hl, hg⟩ := Option.filter_eq_some_iff.mp hp
      have organization : p.fixed.organizationId = c.organizationId := of_decide_eq_true hg
      refine evolves_setScanRequest (Relational.Table.lookup_eq_some.mp hl).1 (.moved ht ?_)
      intro e he hc
      obtain ⟨r, -, rfl⟩ := Relational.Table.mem_update.mp he
      rw [organization] at hc
      by_cases hr : p.data.hasChild c.organizationId r.fixed = true
      · exact ⟨r.data, by simp [hr]⟩
      · simp [hr] at hc

/-- The children a parent links are there. -/
def Db.Linked (db : Db) : Prop :=
  ∀ p ∈ db.scanRequests, ∀ o ∈ p.data.operations, ∀ k, o.child = some k →
    ∃ e ∈ db.executions, e.fixed.decision.id = k.decisionId

/-- A selected operation is in the list its children are made from. -/
theorem mem_selected {x : ScanRequestRow} {o : OperationRow} (ho : o ∈ x.operations)
    (hs : o.operation.selectionState = .selected) : o.operation ∈ x.selected := by
  refine List.mem_mergeSort.mpr (List.mem_filter.mpr ⟨List.mem_map.mpr ⟨o, ho, rfl⟩, ?_⟩)
  simp [hs]

/-- Decisions are never deleted. -/
theorem decision_persists (h : db.step g ev db') {d : String}
    (he : ∃ e ∈ db.executions, e.fixed.decision.id = d) :
    ∃ e ∈ db'.executions, e.fixed.decision.id = d := by
  obtain ⟨e, he, hd⟩ := he
  obtain ⟨y, hy, -⟩ := (step_evolves h).old e he
  exact ⟨_, hy, hd⟩

theorem ParentStep.operations {p : ScanRequest} {x : ScanRequestRow} (h : ParentStep db db' ev p x)
    {o : OperationRow} {k : ChildAuthority} (ho : o ∈ x.operations) (hk : o.child = some k) :
    (∃ o' ∈ p.data.operations, o'.child = some k) ∨
      ∃ e ∈ db'.executions, e.fixed.decision.id = k.decisionId := by
  cases h with
  | untouched | expired => exact Or.inl ⟨o, ho, hk⟩
  | @materialized c hs _ _ _ hi =>
      obtain ⟨o', ho', rfl⟩ := List.mem_map.mp ho
      split at hk
      · rename_i selected
        -- The new link is the drawn identity of an inserted child.
        obtain ⟨e, he, hd⟩ := hi _ (mem_selected ho' selected)
        cases hk
        exact Or.inr ⟨e, he, hd.decision⟩
      · exact Or.inl ⟨o', ho', hk⟩
  | @moved c =>
      refine Or.inl ⟨o, ?_, hk⟩
      cases hc : c.targetState <;> rw [hc] at ho <;> exact ho

theorem Db.Linked.step (h : db.Linked) (hs : db.step g ev db') : db'.Linked := by
  intro p hp o ho k hk
  rcases (step_parents hs).new p hp with ⟨-, saved⟩ | ⟨p', hp', -, hx⟩
  · rw [saved o ho] at hk
    cases hk
  · rcases hx.operations ho hk with ⟨o', ho', hk'⟩ | linked
    · exact decision_persists hs (h p' hp' o' ho' k hk')
    · exact linked

/-- A child of a parent is an execution the parent already had. -/
theorem Db.Linked.child_old (h : db.Linked) (hs : db.step g ev db') {p : ScanRequest}
    (hp : p ∈ db.scanRequests) {e' : Execution} (he' : e' ∈ db'.executions)
    {organizationId : String} (hc : p.data.hasChild organizationId e'.fixed = true) :
    ∃ e ∈ db.executions, e.fixed = e'.fixed ∧ RowStep db ev e e'.data := by
  simp only [ScanRequestRow.hasChild, Bool.and_eq_true, List.any_eq_true, Option.any_eq_true,
    decide_eq_true_eq] at hc
  obtain ⟨-, o, ho, k, hk, hd⟩ := hc
  obtain ⟨e, he, hd'⟩ := h p hp o ho k hk
  obtain ⟨y, hy, hr⟩ := (step_evolves hs).old e he
  obtain rfl : e' = ⟨e.fixed, y⟩ := Relational.Table.eq_of_key_eq he' hy .decision (by
    change (_, "") = (_, "")
    rw [← hd, ← hd'])
  exact ⟨e, he, rfl, hr⟩

/-! ### The pending requests -/

/-- No request id is both pending and approved. -/
def Db.Separate (db : Db) : Prop :=
  ∀ q ∈ db.requests, ∀ e ∈ db.executions, e.fixed.request.id ≠ q.fixed.id

/-- The request ids of the executions, where a statement only rewrites rows. -/
theorem request_of_update {t : ExecutionTable} {p : Execution → Bool} {f : Execution → Rows}
    {e : Execution} (he : e ∈ t.update p f) : ∃ r ∈ t, r.fixed = e.fixed := by
  obtain ⟨r, hr, rfl⟩ := Relational.Table.mem_update.mp he
  refine ⟨r, hr, ?_⟩
  split <;> rfl

theorem Db.Separate.step (h : db.Separate) (hs : db.step g ev db') : db'.Separate := by
  cases step_change hs with
  | beside he hq => rw [Db.Separate, he, hq]; exact h
  | called | tokenRevoked | parentMoved =>
      intro q hq e he
      obtain ⟨r, hr, hf⟩ := request_of_update he
      rw [← hf]
      exact h q hq r hr
  | pendingRevoked =>
      intro q hq e he
      obtain ⟨r, hr, hf⟩ := Relational.Table.mem_set.mp hq
      have same : r.fixed = q.fixed := by rcases hf with ⟨-, rfl⟩ | ⟨-, rfl⟩ <;> rfl
      rw [← same]
      exact h r hr e he
  | requestCreated hf hi =>
      intro q hq e he
      rcases (Relational.Table.mem_insert hi).mp hq with hq | rfl
      · exact h q hq e he
      · simp only [Db.requestFree, Bool.and_eq_true, Option.isNone_iff_eq_none] at hf
        intro same
        have unused := Relational.Table.lookup_eq_none.mp hf.1.1.2 e he
        exact unused (congrArg (·, "") same)
  | @requestApproved c p v z ho hj hq ha hz =>
      obtain ⟨-, -, erased, hi⟩ := approve_some hz
      intro q hq' e he
      rw [erased] at hq'
      obtain ⟨hq', other⟩ := Relational.Table.mem_erase.mp hq'
      rcases (Relational.Table.mem_insert hi).mp he with he | rfl
      · exact h q hq' e he
      · exact fun same => other (congrArg (·, "") same.symm)
  | parentSaved | parentExpired => exact h
  | parentMaterialized ho hp hst hj hz =>
      have inserted := insertChildren_ok hz
      obtain ⟨t, rfl⟩ := insertChildren_same hz
      intro q hq e he
      rcases inserted.new e he with ⟨o, -, unused⟩ | ⟨r, hr, hf, -⟩
      · intro same
        exact Relational.Table.lookup_eq_none.mp unused q hq (congrArg (·, "") same.symm)
      · rw [← hf]
        exact h q hq r hr

/-- A pending request that is revoked stays so, and is never approved. -/
theorem pending_revoked_stays (hs : db.step g ev db') {q : PendingRequest} (hq : q ∈ db.requests)
    (hr : q.data.state = .revoked) :
    ∃ q' ∈ db'.requests, q'.fixed = q.fixed ∧ q'.data.state = .revoked := by
  cases step_change hs with
  | beside _ h => exact ⟨q, h ▸ hq, rfl, hr⟩
  | called | parentSaved | parentExpired | parentMoved | tokenRevoked => exact ⟨q, hq, rfl, hr⟩
  | @pendingRevoked p hp =>
      by_cases same : RequestKey.value .request q.fixed = (p.fixed.id, "")
      · exact ⟨_, Relational.Table.mem_set.mpr ⟨q, hq, Or.inl ⟨same, rfl⟩⟩, rfl, rfl⟩
      · exact ⟨q, Relational.Table.mem_set.mpr ⟨q, hq, Or.inr ⟨same, rfl⟩⟩, rfl, hr⟩
  | requestCreated hf hi => exact ⟨q, (Relational.Table.mem_insert hi).mpr (Or.inl hq), rfl, hr⟩
  | @requestApproved c p v z ho hj hp ha hz =>
      obtain ⟨-, -, erased, -⟩ := approve_some hz
      rw [erased]
      refine ⟨q, Relational.Table.mem_erase.mpr ⟨hq, fun same => ?_⟩, rfl, hr⟩
      -- The approved request was in `REQUESTED`.
      obtain rfl : q = p := Relational.Table.eq_of_key_eq hq
        (Relational.Table.lookup_eq_some.mp (Option.filter_eq_some_iff.mp hp).1).1 .request same
      simp [pendingApprovable, hr] at ha
  | parentMaterialized ho hp hst hj hz =>
      obtain ⟨t, rfl⟩ := insertChildren_same hz
      exact ⟨q, hq, rfl, hr⟩

/-! ### The revoked sessions -/

/-- A session is only ever added, with its decisions revoked. -/
theorem step_tokens (h : db.step g ev db') :
    db'.revokedTokens = db.revokedTokens ∨
      ∃ jti, ev.operation = .revokeToken jti ∧ db' = revokeToken jti ev.now db := by
  cases step_change h with
  | beside _ _ _ ht => exact Or.inl ht
  | called | pendingRevoked | requestCreated | parentSaved | parentExpired | parentMoved =>
      exact Or.inl rfl
  | requestApproved _ _ _ _ hz => exact Or.inl (approve_some hz).1
  | parentMaterialized _ _ _ _ hz =>
      obtain ⟨t, rfl⟩ := insertChildren_same hz
      exact Or.inl rfl
  | tokenRevoked ho => exact Or.inr ⟨_, ho, rfl⟩

end CyberAssess
