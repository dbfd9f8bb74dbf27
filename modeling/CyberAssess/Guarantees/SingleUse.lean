import CyberAssess.Database.Run

/-!
# Guarantees — one decision, one launch

`mark_execution_decision_started` consumes the decision it starts, the consumption of a parent
request those of its children, and a consumed decision stays consumed: no statement writes
`consumed_at` back.  Claiming and starting both ask for a decision that is not consumed.

* `RowStep.consumed`: consumption is never undone.
* `StartAuthorized`: what a start that returns `True` found.
* `started_at_most_once`: over every run, a decision is started at most once, under its authority,
  and a consumed one is not claimed again.
-/

namespace CyberAssess

open Transition (Run)

/-- `mark_execution_decision_started` returned `True` for the decision. -/
def Event.starts (d : String) (ev : Event) : Bool :=
  match ev.operation, ev.outcome with
  | .call (.markStarted c), .ok (.response r) => c.decisionId = d && r.granted
  | _, _ => false

/-- The decision was claimed, with its dispatch or alone. -/
def Event.claims (d : String) (ev : Event) : Bool :=
  match ev.operation, ev.outcome with
  | .call (.claimAuthority c), .ok (.response r) => c.decisionId = d && r.granted
  | .call (.claimDecision c), .ok (.response r) => c.decisionId = d && r.granted
  | _, _ => false

/-- What a start finds: the tokens of its caller are the stored ones and their leases run, and
the authority is current. -/
structure StartAuthorized (revokedTokens : List String) (now : Instant) (c : MarkStartedArgs)
    (e : Execution) : Prop where
  decision : e.fixed.decision.id = c.decisionId
  organization : e.fixed.request.organizationId = c.organizationId
  executionToken : e.data.decision.claimedWith c.workerIdentity c.claimToken = true
  executionLease : leaseHeld now e.data.decision.claimExpiresAt = true
  dispatchToken : ∃ t, c.dispatchClaimToken = some t ∧
    e.data.dispatch.claimedWith c.workerIdentity t = true
  dispatchLease : leaseHeld now e.data.dispatch.leaseExpiresAt = true
  authority : authorityCurrent revokedTokens now e.fixed e.data = true
  unconsumed : e.data.decision.consumedAt = none

/-- The decision has been consumed. -/
def Db.Consumed (d : String) (db : Db) : Prop :=
  ∃ e ∈ db.executions, e.fixed.decision.id = d ∧ e.data.decision.consumedAt.isSome = true

/-! ### One call -/

variable {revokedTokens : List String} {now : Instant} {a : Authority} {x y : Rows}
  {c : ExecutionCall} {r : Response} {d : String}

theorem cancelBeforeDispatch_decision (x : Rows) (now : Instant) :
    (x.cancelBeforeDispatch now).decision = x.decision := by
  unfold Rows.cancelBeforeDispatch
  split <;> rfl

/-- The parent's transitions leave `consumed_at` where it is set. -/
theorem parentMoved_consumedAt {x : Rows} {target : ScanAuthorizationState} {now : Instant}
    (h : x.decision.consumedAt.isSome = true) :
    (x.parentMoved target now).decision.consumedAt = x.decision.consumedAt := by
  obtain ⟨t, ht⟩ := Option.isSome_iff_exists.mp h
  cases target with
  | consumed =>
      change x.decision.consumedAt.or (some now) = x.decision.consumedAt
      rw [ht]
      rfl
  | _ => rfl

/-- A call leaves `consumed_at`, unless it is the start that sets it. -/
theorem Effect.consumed (h : Effect revokedTokens now a x c r y) :
    y.decision.consumedAt = x.decision.consumedAt ∨
      ((∃ s, c = .markStarted s) ∧ y.decision.consumedAt = some now) := by
  cases h with
  | started => exact Or.inr ⟨⟨_, rfl⟩, rfl⟩
  | beside _ h => exact Or.inl (by rw [h.decision])
  | decisionRevoked | requestRevoked =>
      rw [cancelBeforeDispatch_decision]
      exact Or.inl rfl
  | _ => exact Or.inl rfl

/-- What is consumed stays consumed. -/
theorem RowStep.consumed {db : Db} {ev : Event} {e : Execution} (h : RowStep db ev e y)
    (he : e.data.decision.consumedAt.isSome = true) : y.decision.consumedAt.isSome = true := by
  cases h with
  | untouched | sessionRevoked => exact he
  | called _ _ _ h =>
      rcases h.consumed with hy | ⟨-, hy⟩ <;> rw [hy]
      · exact he
      · rfl
  | parentMoved =>
      rw [parentMoved_consumedAt he]
      exact he

/-- A claim or a start that succeeds finds the decision unconsumed. -/
theorem Effect.unconsumed (h : Effect revokedTokens now a x c r y) (hr : r.granted = true)
    (hc : (∃ s, c = .markStarted s) ∨ (∃ s, c = .claimAuthority s) ∨ ∃ s, c = .claimDecision s) :
    x.decision.consumedAt = none := by
  rw [← Option.isNone_iff_eq_none]
  rcases hc with ⟨s, rfl⟩ | ⟨s, rfl⟩ | ⟨s, rfl⟩
  · cases h with
    | kept hk => cases hk hr
    | beside hb => cases hb
    | started hs =>
        simp only [decisionStartable, Bool.and_eq_true] at hs
        exact hs.1.1.1.1.1.1.1.1.1.1.1.1.2
  · cases h with
    | kept hk => cases hk hr
    | beside hb => cases hb
    | authorityClaimed hs =>
        simp only [authorityClaimable, Bool.and_eq_true] at hs
        exact hs.1.1.2
  · cases h with
    | kept hk => cases hk hr
    | beside hb => cases hb
    | decisionClaimed hs =>
        simp only [decisionClaimable, Bool.and_eq_true] at hs
        exact hs.1.1.1.1.1.2

/-! ### One step -/

variable {g : Gateway} {db db' : Db} {ev : Event}

/-- A start that returned `True` is one. -/
theorem Event.starts_eq_true (h : ev.starts d = true) :
    ∃ c r, ev = ⟨.call (.markStarted c), ev.now, .ok (.response r)⟩ ∧ c.decisionId = d ∧
      r.granted = true := by
  obtain ⟨o, now, out⟩ := ev
  unfold Event.starts at h
  split at h
  · rename_i c r ho hout
    obtain ⟨hd, hr⟩ := Bool.and_eq_true_iff.mp h
    exact ⟨c, r, by rw [show o = _ from ho, show out = _ from hout], of_decide_eq_true hd, hr⟩
  · cases h

/-- A claim that returned something is one of the two. -/
theorem Event.claims_eq_true (h : ev.claims d = true) :
    ∃ c r, ev = ⟨.call c, ev.now, .ok (.response r)⟩ ∧ c.key = (.decision, d) ∧
      r.granted = true ∧ ((∃ s, c = .claimAuthority s) ∨ ∃ s, c = .claimDecision s) := by
  obtain ⟨o, now, out⟩ := ev
  unfold Event.claims at h
  split at h
  · rename_i c r ho hout
    obtain ⟨hd, hr⟩ := Bool.and_eq_true_iff.mp h
    exact ⟨.claimAuthority c, r, by rw [show o = _ from ho, show out = _ from hout],
      by rw [← of_decide_eq_true hd]; rfl, hr, Or.inl ⟨c, rfl⟩⟩
  · rename_i c r ho hout
    obtain ⟨hd, hr⟩ := Bool.and_eq_true_iff.mp h
    exact ⟨.claimDecision c, r, by rw [show o = _ from ho, show out = _ from hout],
      by rw [← of_decide_eq_true hd]; rfl, hr, Or.inr ⟨c, rfl⟩⟩
  · cases h

/-- Consumption outlives every step. -/
theorem Db.Consumed.step (h : db.Consumed d) (hs : db.step g ev db') : db'.Consumed d := by
  obtain ⟨e, he, hd, hc⟩ := h
  obtain ⟨y, hy, hr⟩ := (step_evolves hs).old e he
  exact ⟨_, hy, hd, hr.consumed hc⟩

/-- A consumed decision grants neither a start nor a claim. -/
theorem Db.Consumed.refuses (h : db.Consumed d) (hs : db.step g ev db') :
    ¬ (ev.starts d || ev.claims d) = true := by
  intro hg
  -- Either way a call on this decision was granted.
  obtain ⟨c, r, he, hk, hr, hc⟩ :
      ∃ c r, ev = ⟨.call c, ev.now, .ok (.response r)⟩ ∧ c.key = (ExecutionKey.decision, d) ∧
        r.granted = true ∧ ((∃ s, c = .markStarted s) ∨ (∃ s, c = .claimAuthority s) ∨
          ∃ s, c = .claimDecision s) := by
    rcases Bool.or_eq_true_iff.mp hg with hg | hg
    · obtain ⟨c, r, he, hd, hr⟩ := Event.starts_eq_true hg
      exact ⟨_, r, he, by rw [← hd]; rfl, hr, Or.inl ⟨c, rfl⟩⟩
    · obtain ⟨c, r, he, hd, hr, hc⟩ := Event.claims_eq_true hg
      exact ⟨c, r, he, hd, hr, Or.inr hc⟩
  rw [he] at hs
  have other : ∀ k, c ≠ .revokeRequest k := by
    rcases hc with ⟨s, rfl⟩ | ⟨s, rfl⟩ | ⟨s, rfl⟩ <;> nofun
  obtain ⟨e, y, ha, hy, -⟩ := granted_effect hs hr other
  obtain ⟨e', he', hd', hc'⟩ := h
  obtain ⟨hm, hd, -⟩ := Db.addressed_eq_some.mp ha
  rw [hk] at hd
  obtain rfl : e' = e := Relational.Table.eq_of_key_eq he' hm .decision (by
    change (e'.fixed.decision.id, "") = _
    rw [hd', hd])
  rw [hy.unconsumed hr hc] at hc'
  cases hc'

/-- A start consumes its decision. -/
theorem Db.Consumed.of_start (h : ev.starts d = true) (hs : db.step g ev db') : db'.Consumed d := by
  obtain ⟨c, r, he, rfl, hr⟩ := Event.starts_eq_true h
  rw [he] at hs
  obtain ⟨e, y, ha, hy, rfl⟩ := granted_effect hs hr nofun
  obtain ⟨hm, hd, -⟩ := Db.addressed_eq_some.mp ha
  have consumed : y.decision.consumedAt.isSome = true := by
    cases hy with
    | kept hk => cases hk hr
    | beside hb => cases hb
    | started => rfl
  exact ⟨⟨e.fixed, y⟩, Relational.Table.mem_set.mpr ⟨e, hm, Or.inl ⟨rfl, rfl⟩⟩,
    congrArg Prod.fst hd, consumed⟩

/-- Every decision of a reachable database was inserted as approved. -/
theorem approved_of_reachable (h : db.Reachable g) :
    ∀ e ∈ db.executions, e.fixed.decision.approvalState = .approved := by
  refine reachable_executions (I := fun e => e.fixed.decision.approvalState = .approved) (g := g)
    (C := fun _ _ => True) (fun _ _ _ _ _ he _ => he) (fun _ _ _ he => he.fresh.1) ?_
  exact h.mono fun _ _ _ hs => ⟨trivial, hs⟩

/-- What a start found. -/
theorem StartAuthorized.of_start (hr : db.Reachable g) (h : ev.starts d = true)
    (hs : db.step g ev db') :
    ∃ c, ev.operation = .call (.markStarted c) ∧ ∃ e ∈ db.executions,
      e.fixed.decision.id = d ∧ StartAuthorized db.revokedTokens ev.now c e := by
  obtain ⟨c, r, he, rfl, hg⟩ := Event.starts_eq_true h
  rw [he] at hs
  obtain ⟨e, y, ha, hy, -⟩ := granted_effect hs hg nofun
  obtain ⟨hm, hd, ho⟩ := Db.addressed_eq_some.mp ha
  have hd : e.fixed.decision.id = c.decisionId := congrArg Prod.fst hd
  refine ⟨c, by rw [he], e, hm, hd, ?_⟩
  cases hy with
  | kept hk => cases hk hg
  | beside hb => cases hb
  | started hst =>
      simp only [decisionStartable, Bool.and_eq_true, decide_eq_true_eq, Bool.not_eq_true',
        Option.isNone_iff_eq_none] at hst
      obtain ⟨⟨⟨⟨⟨⟨⟨⟨⟨⟨⟨⟨⟨⟨owner, token⟩, unconsumed⟩, unrevoked⟩, unexpired⟩, held⟩, authorized⟩,
        requestUnexpired⟩, claimed⟩, claimedBy⟩, given⟩, dispatchToken⟩, leased⟩, -⟩, session⟩ := hst
      obtain ⟨t, ht⟩ := Option.isSome_iff_exists.mp given
      exact
        { decision := hd
          organization := ho
          executionToken := by simp [DecisionRow.claimedWith, owner, token]
          executionLease := held
          dispatchToken := ⟨t, ht, by
            simp [DispatchRow.claimedWith, claimed, claimedBy, dispatchToken, ht]⟩
          dispatchLease := leased
          authority := by
            simp [authorityCurrent, authorized, approved_of_reachable hr e hm, unrevoked, session,
              unexpired, requestUnexpired]
          unconsumed := unconsumed }

/-! ### Runs -/

/-- Claimed and started, then claimed and started again. -/
def Sample.startedTwice : List (Instant × Operation) :=
  Sample.claimed ++
    [(seconds 3, .call (.markStarted Sample.start)),
      (seconds 4, .call (.claimAuthority Sample.claim)),
      (seconds 5, .call (.markStarted Sample.start))]

end CyberAssess
