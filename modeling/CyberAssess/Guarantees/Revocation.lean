import CyberAssess.Database.Parents

/-!
# Guarantees — revocation is final

A revocation is stored in four places (a session, a decision, a request, a parent request), and
every one of them reaches `revoked_at` of the decisions it covers.

* `Db.Swept`: the four places agree with the decisions.  The only step that breaks this is an
  `approve_execution_request` under a session that is already revoked (`approvedUnderLiveSession`).
* `Effect.revoked_refuses`, `Effect.revoked_run`: on a revoked decision nothing is claimed, renewed
  or started, and the run does not move forward.
* `revocation_final`: what is revoked stays revoked, and what it covers stays where it is.
* `approved_after_revocation_claims`: the step that is excluded, and what it lets through.
-/

namespace CyberAssess

open Relational (Row Table)
open Transition (Run)

/-- The decision is revoked. -/
def Rows.Revoked (x : Rows) : Prop := x.decision.revokedAt.isSome = true

/-- The calls by which a worker takes, keeps or starts an execution. -/
def ExecutionCall.advances : ExecutionCall → Bool
  | .claimAuthority _ | .claimDecision _ | .claimDispatch _ | .renewLease _ | .markStarted _ => true
  | _ => false

/-- `STARTING`, `RUNNING`, `SUCCEEDED` and `PARTIAL_RESULTS_WITH_WARNING`. -/
def RunState.isForward : RunState → Bool
  | .starting | .running | .succeeded | .partialResultsWithWarning => true
  | _ => false

/-- An approval that passes its tests is not under a revoked session. -/
def approvedUnderLiveSession (db : Db) (now : Instant) : Operation → Bool
  | .approveRequest c =>
      (db.pendingRequest c.requestId c.organizationId).all
          (fun q => !pendingApprovable c now db.directory q) ||
        c.sessionJti ∉ db.revokedTokens
  | _ => true

/-! ### One call -/

variable {revokedTokens : List String} {now : Instant} {a : Authority} {x y : Rows}
  {c : ExecutionCall} {r : Response}

theorem cancelBeforeDispatch_request (x : Rows) (now : Instant) :
    (x.cancelBeforeDispatch now).request = x.request ∧
      (x.cancelBeforeDispatch now).decision = x.decision := by
  unfold Rows.cancelBeforeDispatch
  split <;> exact ⟨rfl, rfl⟩

/-- Taking, keeping and starting are no replays, and no calls on ownership and recovery. -/
theorem advances_excludes (h : c.advances = true) : c.replays = false ∧ c.isBeside = false := by
  cases c <;> first | exact ⟨rfl, rfl⟩ | cases h

/-- A safe state is not forward. -/
theorem not_forward_of_safe {s : RunState} (h : isSafeState s = true) : s.isForward = false := by
  cases s <;> first | rfl | cases h

/-- A revocation leaves `revoked_at` set. -/
theorem revoked_revoked (x : Rows) (now : Instant) : (x.revoked now).Revoked := by
  change (x.decision.revokedAt.or (some now)).isSome = true
  cases x.decision.revokedAt <;> rfl

/-- `REVOKED` is the state a request ends in. -/
theorem revoked_request {x : Rows} (now : Instant) (h : x.request.state = .revoked) :
    (x.revoked now).request.state = .revoked := by
  change x.request.revoked.state = .revoked
  rw [RequestRow.revoked, if_neg (by rw [h]; nofun)]
  exact h

/-- A call keeps the two revocation columns, or it revokes the decision. -/
theorem Effect.revocation (h : Effect revokedTokens now a x c r y) :
    (y.decision.revokedAt = x.decision.revokedAt ∧ y.request.state = x.request.state) ∨
      (y.Revoked ∧ (x.request.state = .revoked → y.request.state = .revoked)) := by
  cases h with
  | beside _ h => exact Or.inl ⟨by rw [h.decision], by rw [h.request]⟩
  | decisionRevoked =>
      obtain ⟨hq, hd⟩ := cancelBeforeDispatch_request (x.revoked now) now
      rw [Rows.Revoked, hq, hd]
      exact Or.inr ⟨revoked_revoked x now, revoked_request now⟩
  | requestRevoked =>
      obtain ⟨hq, hd⟩ := cancelBeforeDispatch_request (x.requestRevoked now) now
      rw [Rows.Revoked, hq, hd]
      exact Or.inr ⟨revoked_revoked x now, fun _ => rfl⟩
  | _ => exact Or.inl ⟨rfl, rfl⟩

/-- Cancelling before dispatch keeps the run's state or cancels it. -/
theorem cancelBeforeDispatch_state (x : Rows) (now : Instant) :
    (x.cancelBeforeDispatch now).run.state = x.run.state ∨
      (x.cancelBeforeDispatch now).run.state = .cancelled := by
  unfold Rows.cancelBeforeDispatch
  split
  · by_cases h : x.run.state = .requested
    · exact Or.inr (by simp [h, RunRow.settled])
    · exact Or.inl (by simp [h])
  · exact Or.inl rfl

/-- A revoked decision fails the test that it is not. -/
theorem not_unrevoked (hx : x.Revoked) : ¬ x.decision.revokedAt.isNone = true := by
  rw [Option.isNone_iff_eq_none, ← ne_eq, Option.ne_none_iff_isSome]
  exact hx

/-- A current authority is not revoked. -/
theorem not_current (hx : x.Revoked) : ¬ authorityCurrent revokedTokens now a x = true := by
  intro h
  simp only [authorityCurrent, Bool.and_eq_true] at h
  exact not_unrevoked hx h.1.1.1.2

/-- On a revoked decision nothing is taken, kept or started. -/
theorem Effect.revoked_refuses (h : Effect revokedTokens now a x c r y) (hx : x.Revoked)
    (hc : c.advances = true) : r.granted = false := by
  cases h with
  | kept hk =>
      rw [(advances_excludes hc).1] at hk
      exact Bool.eq_false_iff.mpr fun hr => nomatch hk hr
  | beside hb =>
      rw [(advances_excludes hc).2] at hb
      cases hb
  | decisionClaimed h =>
      simp only [decisionClaimable, Bool.and_eq_true] at h
      exact absurd h.1.1.1.1.1.1.2 (not_unrevoked hx)
  | authorityClaimed h =>
      simp only [authorityClaimable, Bool.and_eq_true] at h
      exact absurd h.1.1.1.2 (not_current hx)
  | started h =>
      simp only [decisionStartable, Bool.and_eq_true] at h
      exact absurd h.1.1.1.1.1.1.1.1.1.1.1.2 (not_unrevoked hx)
  | dispatchClaimed h =>
      simp only [dispatchClaimable, Bool.and_eq_true] at h
      exact absurd h.1.1.1.2 (not_unrevoked hx)
  | leaseRenewed h =>
      simp only [leaseRenewable, Bool.and_eq_true] at h
      exact absurd h.1.2 (not_current hx)
  | _ => cases hc

/-- The run of a revoked decision does not move forward. -/
theorem Effect.revoked_run (h : Effect revokedTokens now a x c r y) (hx : x.Revoked) :
    y.run.state = x.run.state ∨ y.run.state.isForward = false := by
  cases h with
  | kept | decisionClaimed | authorityReleased | decisionReleased | dispatchClaimed
  | leaseRenewed => exact Or.inl rfl
  | beside _ h => exact Or.inl (by rw [h.run])
  | authorityClaimed h =>
      simp only [authorityClaimable, Bool.and_eq_true] at h
      exact absurd h.1.1.1.2 (not_current hx)
  | started h =>
      simp only [decisionStartable, Bool.and_eq_true] at h
      exact absurd h.1.1.1.1.1.1.1.1.1.1.1.2 (not_unrevoked hx)
  | finished _ h =>
      simp only [finishAllowed, Bool.and_eq_true] at h
      exact absurd h.1.1.2 (not_current hx)
  | dispatchSettled _ h =>
      simp only [dispatchSettleable, Bool.and_eq_true] at h
      exact absurd h.1.2 (not_current hx)
  | runSettled _ _ h | runMoved _ _ h => exact absurd h (not_current hx)
  | cancellationAcknowledged => exact Or.inr rfl
  | startAborted hk => exact Or.inr (not_forward_of_safe (abortStart_check hk).1)
  | reaped hk => exact Or.inr (not_forward_of_safe (reap_check hk).1)
  | decisionRevoked =>
      rcases cancelBeforeDispatch_state (x.revoked now) now with hy | hy <;> rw [hy]
      · exact Or.inl rfl
      · exact Or.inr rfl
  | requestRevoked =>
      rcases cancelBeforeDispatch_state (x.requestRevoked now) now with hy | hy <;> rw [hy]
      · exact Or.inl rfl
      · exact Or.inr rfl
  | recoverySettled t hk =>
      refine Or.inr ?_
      change RunState.isForward (RunRow.settled x.run _ _ now).state = false
      rw [RunRow.settled, (settleRecovery_check hk).1]
      rfl
  | terminationSettled t hk hg =>
      have safe := not_forward_of_safe (settleConfirmed_check hk hg).1
      cases hr : x.run.state.isTerminal with
      | true => exact Or.inl (by simp [Rows.settledAfterTermination, hr])
      | false => exact Or.inr (by simpa [Rows.settledAfterTermination, hr, RunRow.settled] using safe)

/-! ### One step -/

variable {g : Gateway} {db db' : Db} {ev : Event} {e : Execution}

/-- A revoked decision stays revoked. -/
theorem RowStep.revoked (h : RowStep db ev e y) (he : e.data.Revoked) : y.Revoked := by
  cases h with
  | untouched => exact he
  | called _ _ _ h =>
      rcases h.revocation with ⟨hd, -⟩ | ⟨hy, -⟩
      · rw [Rows.Revoked, hd]
        exact he
      · exact hy
  | sessionRevoked => exact revoked_revoked _ _
  | @parentMoved c =>
      cases hc : c.targetState with
      | revoked => exact revoked_revoked _ _
      | _ => exact he

/-- A revoked request stays revoked, and its decision with it. -/
theorem RowStep.request_revoked (h : RowStep db ev e y) :
    (e.data.request.state = .revoked → y.request.state = .revoked) ∧
      ((e.data.request.state = .revoked → e.data.Revoked) →
        y.request.state = .revoked → y.Revoked) := by
  have swept (t : Instant) : (e.data.revoked t).request.state = .revoked →
      (e.data.revoked t).Revoked := fun _ => revoked_revoked _ _
  cases h with
  | untouched => exact ⟨id, id⟩
  | called _ _ _ h =>
      rcases h.revocation with ⟨hd, hq⟩ | ⟨hy, hq⟩
      · unfold Rows.Revoked
        rw [hq, hd]
        exact ⟨id, id⟩
      · exact ⟨hq, fun _ _ => hy⟩
  | sessionRevoked => exact ⟨revoked_request _, fun _ => swept _⟩
  | @parentMoved c =>
      cases hc : c.targetState with
      | revoked => exact ⟨revoked_request _, fun _ => swept _⟩
      | _ => exact ⟨id, id⟩

/-- A step does not move the run of a revoked decision forward. -/
theorem RowStep.revoked_run (h : RowStep db ev e y) (he : e.data.Revoked) :
    y.run.state = e.data.run.state ∨ y.run.state.isForward = false := by
  cases h with
  | untouched | sessionRevoked => exact Or.inl rfl
  | called _ _ _ h => exact h.revoked_run he
  | @parentMoved c => cases hc : c.targetState <;> exact Or.inl rfl

/-! ### The four places -/

/-- Every revocation has reached the decisions it covers. -/
structure Db.Swept (db : Db) : Prop where
  session : ∀ e ∈ db.executions, e.fixed.decision.sessionJti ∈ db.revokedTokens → e.data.Revoked
  request : ∀ e ∈ db.executions, e.data.request.state = .revoked → e.data.Revoked
  parent : ∀ p ∈ db.scanRequests, p.data.state = .revoked → ∀ e ∈ db.executions,
    p.data.hasChild p.fixed.organizationId e.fixed = true → e.data.Revoked
  linked : db.Linked
  separate : db.Separate

/-- A database without requests. -/
theorem Db.Swept.ofInitial (h : db.Initial) : db.Swept where
  session e he := by rw [Table.mem_def, h.executions] at he; cases he
  request e he := by rw [Table.mem_def, h.executions] at he; cases he
  parent p hp := by rw [Table.mem_def, h.scanRequests] at hp; cases hp
  linked p hp := by rw [Table.mem_def, h.scanRequests] at hp; cases hp
  separate q hq := by rw [Table.mem_def, h.requests] at hq; cases hq

/-- An execution is inserted under a session that is not revoked. -/
theorem inserted_session (hok : approvedUnderLiveSession db ev.now ev.operation = true)
    (h : Inserted g db ev e) : e.fixed.decision.sessionJti ∉ db.revokedTokens := by
  cases h with
  | @request c q v ho hj hq ha =>
      change v.sessionJti ∉ db.revokedTokens
      rw [hj]
      simpa [ho, approvedUnderLiveSession, hq, ha] using hok
  | scan _ hj => exact hj

theorem Db.Swept.session_step (h : db.Swept) (hs : db.step g ev db')
    (hok : approvedUnderLiveSession db ev.now ev.operation = true) :
    ∀ e ∈ db'.executions, e.fixed.decision.sessionJti ∈ db'.revokedTokens → e.data.Revoked := by
  intro e he hj
  rcases step_tokens hs with ht | ⟨jti, -, rfl⟩
  · rw [ht] at hj
    rcases (step_evolves hs).new e he with hn | ⟨e₀, he₀, hf, hr⟩
    · exact absurd hj (inserted_session hok hn)
    · exact hr.revoked (h.session e₀ he₀ (hf ▸ hj))
  · obtain ⟨e₀, he₀, rfl⟩ := Table.mem_update.mp he
    by_cases hi : e₀.fixed.sessionIs jti = true
    · rw [if_pos hi]
      exact revoked_revoked _ _
    · rw [if_neg hi] at hj ⊢
      -- The session is another one, and was revoked before.
      have other : e₀.fixed.decision.sessionJti ≠ jti := fun same => hi (decide_eq_true same)
      exact h.session e₀ he₀ ((List.mem_cons.mp hj).resolve_left other)

theorem Db.Swept.request_step (h : db.Swept) (hs : db.step g ev db') :
    ∀ e ∈ db'.executions, e.data.request.state = .revoked → e.data.Revoked := by
  intro e he hq
  rcases (step_evolves hs).new e he with hn | ⟨e₀, he₀, -, hr⟩
  · obtain ⟨-, t, w, u, now, hd⟩ := hn.fresh
    rw [hd] at hq
    cases hq
  · exact hr.request_revoked.2 (h.request e₀ he₀) hq

/-- A parent that is revoked after a step was so before it, or its children were revoked with
it. -/
theorem ParentStep.revoked {p : ScanRequest} {z : ScanRequestRow} (h : ParentStep db db' ev p z)
    (hz : z.state = .revoked) :
    z = p.data ∨ (z.operations = p.data.operations ∧ ∀ e ∈ db'.executions,
      p.data.hasChild p.fixed.organizationId e.fixed = true → e.data.Revoked) := by
  cases h with
  | untouched => exact Or.inl rfl
  | expired | materialized => cases hz
  | @moved c ht hm =>
      cases hc : c.targetState with
      | revoked =>
          refine Or.inr ⟨rfl, fun e he hch => ?_⟩
          obtain ⟨x, hx⟩ := hm e he hch
          rw [hx, hc]
          exact revoked_revoked x ev.now
      | requested | approved | dispatchable => rw [hc] at ht; cases ht
      | expired | consumed => rw [hc] at hz; cases hz

theorem Db.Swept.parent_step (h : db.Swept) (hs : db.step g ev db') :
    ∀ p ∈ db'.scanRequests, p.data.state = .revoked → ∀ e ∈ db'.executions,
      p.data.hasChild p.fixed.organizationId e.fixed = true → e.data.Revoked := by
  intro p hp hr e he hc
  rcases (step_parents hs).new p hp with ⟨saved, -⟩ | ⟨p₀, hp₀, hf, hx⟩
  · rw [saved] at hr
    cases hr
  rw [← hf] at hc
  rcases hx.revoked hr with same | ⟨same, swept⟩
  · rw [same] at hr hc
    obtain ⟨e₀, he₀, hfe, hstep⟩ := h.linked.child_old hs hp₀ he hc
    exact hstep.revoked (h.parent p₀ hp₀ hr e₀ he₀ (hfe ▸ hc))
  · refine swept e he ?_
    rw [ScanRequestRow.hasChild, ← same]
    exact hc

theorem Db.Swept.step (h : db.Swept) (hs : db.step g ev db')
    (hok : approvedUnderLiveSession db ev.now ev.operation = true) : db'.Swept where
  session := h.session_step hs hok
  request := h.request_step hs
  parent := h.parent_step hs
  linked := h.linked.step hs
  separate := h.separate.step hs

/-! ### What is revoked -/

/-- What an administrator revokes. -/
inductive Revocable where
  | session (jti : String)
  | decision (id : String)
  | request (id : String)
  | scanRequest (id : String)

/-- The operation revoked it, and said so. -/
def Event.revokes (ev : Event) : Revocable → Prop
  | .session jti => ev.operation = .revokeToken jti ∧ ev.outcome = .ok .done
  | .decision d => ∃ c, ev.operation = .call (.revokeDecision c) ∧ c.decisionId = d ∧
      ev.outcome = .ok (.response (.done true))
  | .request q => ∃ c, ev.operation = .call (.revokeRequest c) ∧ c.requestId = q ∧
      ev.outcome = .ok (.response (.done true))
  | .scanRequest p => ∃ c, ev.operation = .transitionScan c ∧ c.scanRequestId = p ∧
      c.targetState = .revoked ∧ ev.outcome = .ok (.moved true)

/-- The revocation is stored. -/
def Revocable.stored (db : Db) : Revocable → Prop
  | .session jti => jti ∈ db.revokedTokens
  | .decision d => ∃ e ∈ db.executions, e.fixed.decision.id = d ∧ e.data.Revoked
  | .request q => (∃ e ∈ db.executions, e.fixed.request.id = q ∧ e.data.request.state = .revoked) ∨
      ∃ r ∈ db.requests, r.fixed.id = q ∧ r.data.state = .revoked
  | .scanRequest p => ∃ x ∈ db.scanRequests, x.fixed.scanRequestId = p ∧ x.data.state = .revoked

/-- The executions a revocation is about. -/
def Revocable.covers (db : Db) (e : Execution) : Revocable → Prop
  | .session jti => e.fixed.decision.sessionJti = jti
  | .decision d => e.fixed.decision.id = d
  | .request q => e.fixed.request.id = q
  | .scanRequest p => ∃ x ∈ db.scanRequests, x.fixed.scanRequestId = p ∧
      x.data.hasChild x.fixed.organizationId e.fixed = true

/-- A stored revocation has revoked the decisions of what it covers. -/
theorem Db.Swept.covered (h : db.Swept) {v : Revocable} (hv : v.stored db)
    (he : e ∈ db.executions) (hc : v.covers db e) : e.data.Revoked := by
  cases v with
  | session jti =>
      obtain rfl : e.fixed.decision.sessionJti = jti := hc
      exact h.session e he hv
  | decision d =>
      obtain ⟨e', he', hd, hr⟩ := hv
      obtain rfl : e = e' := Table.eq_of_key_eq he he' .decision (congrArg (·, "") (hc.trans hd.symm))
      exact hr
  | request q =>
      rcases hv with ⟨e', he', hq, hr⟩ | ⟨r, hr, hq, -⟩
      · obtain rfl : e = e' := Table.eq_of_key_eq he he' .request
          (congrArg (·, "") (hc.trans hq.symm))
        exact h.request e he hr
      · exact absurd (hc.trans hq.symm) (h.separate r hr e he)
  | scanRequest p =>
      obtain ⟨x, hx, hp, hr⟩ := hv
      obtain ⟨x', hx', hp', hch⟩ := hc
      obtain rfl : x = x' := Table.eq_of_key_eq hx hx' .request (congrArg (·, "") (hp.trans hp'.symm))
      exact h.parent x hx hr e he hch

/-- A stored revocation stays stored. -/
theorem Revocable.stored_step {v : Revocable} (hv : v.stored db) (hs : db.step g ev db') :
    v.stored db' := by
  cases v with
  | session jti =>
      change jti ∈ db'.revokedTokens
      rcases step_tokens hs with ht | ⟨j, -, rfl⟩
      · rw [ht]
        exact hv
      · exact List.mem_cons_of_mem j hv
  | decision d =>
      obtain ⟨e, he, hd, hr⟩ := hv
      obtain ⟨y, hy, hstep⟩ := (step_evolves hs).old e he
      exact ⟨_, hy, hd, hstep.revoked hr⟩
  | request q =>
      rcases hv with ⟨e, he, hq, hr⟩ | ⟨r, hr, rfl, hst⟩
      · obtain ⟨y, hy, hstep⟩ := (step_evolves hs).old e he
        exact Or.inl ⟨_, hy, hq, hstep.request_revoked.1 hr⟩
      · obtain ⟨r', hr', hf, hst'⟩ := pending_revoked_stays hs hr hst
        exact Or.inr ⟨r', hr', by rw [hf], hst'⟩
  | scanRequest p =>
      obtain ⟨x, hx, hp, hr⟩ := hv
      obtain ⟨z, hz, hstep⟩ := (step_parents hs).old x hx
      refine ⟨_, hz, hp, ?_⟩
      cases hstep with
      | untouched => exact hr
      | expired hq | materialized hq => rw [hr] at hq; cases hq
      | @moved c ht =>
          -- No transition leaves `REVOKED`.
          rw [hr] at ht
          cases hc : c.targetState <;> rw [hc] at ht <;> exact absurd ht (by decide)

/-- What returned did so from its operation. -/
theorem step_returned {r : Returned} (hs : db.step g ev db') (hr : ev.outcome = .ok r) :
    db.perform g ev.now ev.operation = .ok (r, db') := by
  rcases hs with ⟨r', h, hr'⟩ | ⟨e, -, he, -⟩
  · rw [hr] at hr'
    cases hr'
    exact h
  · rw [hr] at he
    cases he

/-- An operation that revokes has stored it. -/
theorem Revocable.stored_of_revokes {v : Revocable} (hs : db.step g ev db') (hv : ev.revokes v) :
    v.stored db' := by
  cases v with
  | session jti =>
      obtain ⟨ho, hr⟩ := hv
      have performed := step_returned hs hr
      rw [ho] at performed
      cases performed
      exact List.mem_cons_self
  | decision d =>
      obtain ⟨c, ho, rfl, hr⟩ := hv
      have performed := step_returned hs hr
      rw [ho] at performed
      obtain ⟨r, executed, returned⟩ := returning_ok.mp performed
      cases returned
      rcases execute_ok executed with ⟨e, y, ha, hy, rfl⟩ | ⟨-, ⟨hn, -⟩ | ⟨k, q, hk, -⟩⟩
      · obtain ⟨hm, hd, -⟩ := Db.addressed_eq_some.mp ha
        have revoked : y.Revoked := by
          cases hy with
          | kept hk => cases hk rfl
          | beside hb => cases hb
          | decisionRevoked =>
              unfold Rows.Revoked
              rw [(cancelBeforeDispatch_request (e.data.revoked ev.now) ev.now).2]
              exact revoked_revoked _ _
        exact ⟨⟨e.fixed, y⟩, Table.mem_set.mpr ⟨e, hm, Or.inl ⟨rfl, rfl⟩⟩, congrArg Prod.fst hd,
          revoked⟩
      · cases hn
      · cases hk
  | request q =>
      obtain ⟨c, ho, rfl, hr⟩ := hv
      have performed := step_returned hs hr
      rw [ho] at performed
      obtain ⟨r, executed, returned⟩ := returning_ok.mp performed
      cases returned
      rcases execute_ok executed with ⟨e, y, ha, hy, rfl⟩ | ⟨-, ⟨hn, -⟩ | ⟨k, q, hk, hq, rfl⟩⟩
      · obtain ⟨hm, hd, -⟩ := Db.addressed_eq_some.mp ha
        have revoked : y.request.state = .revoked := by
          cases hy with
          | kept hk => cases hk rfl
          | beside hb => cases hb
          | requestRevoked =>
              rw [(cancelBeforeDispatch_request (e.data.requestRevoked ev.now) ev.now).1]
              rfl
        exact Or.inl ⟨⟨e.fixed, y⟩, Table.mem_set.mpr ⟨e, hm, Or.inl ⟨rfl, rfl⟩⟩,
          congrArg Prod.fst hd, revoked⟩
      · cases hn
      · cases hk
        obtain ⟨hm, hid⟩ := Table.lookup_eq_some.mp (Option.filter_eq_some_iff.mp hq).1
        exact Or.inr ⟨⟨q.fixed, _⟩, Table.mem_set.mpr ⟨q, hm, Or.inl ⟨rfl, rfl⟩⟩,
          congrArg Prod.fst hid, rfl⟩
  | scanRequest p =>
      obtain ⟨c, ho, rfl, ht, hr⟩ := hv
      have performed := step_returned hs hr
      rw [ho] at performed
      simp only [Db.perform, Except.ok.injEq, Prod.mk.injEq] at performed
      obtain ⟨returned, rfl⟩ := performed
      rcases transitionScanAuthorizationRequest_ok c ev.now db with
        ⟨b, hb, same⟩ | ⟨x, hx, -, hb⟩ <;> rw [hb] at returned ⊢
      · -- It was revoked before.
        obtain ⟨x, hx, hst⟩ := same (by cases returned; rfl)
        obtain ⟨hm, hid⟩ := Table.lookup_eq_some.mp (Option.filter_eq_some_iff.mp hx).1
        exact ⟨x, hm, congrArg Prod.fst hid, hst.trans ht⟩
      · obtain ⟨hm, hid⟩ := Table.lookup_eq_some.mp (Option.filter_eq_some_iff.mp hx).1
        exact ⟨⟨x.fixed, _⟩, Table.mem_set.mpr ⟨x, hm, Or.inl ⟨rfl, rfl⟩⟩,
          congrArg Prod.fst hid, by rw [ht]; rfl⟩

/-! ### Runs -/

/-- Of the executions the revocation covers, none is taken, kept or started by the next step, and
no run moves forward. -/
def Revocable.Final (g : Gateway) (db : Db) (v : Revocable) : Prop :=
  ∀ e ∈ db.executions, v.covers db e → ∀ ev db', db.step g ev db' →
    (∀ c r, ev.operation = .call c → c.advances = true → db.addressed c = some e →
      ev.outcome = .ok (.response r) → r.granted = false) ∧
    ∀ e' ∈ db'.executions, e'.fixed = e.fixed →
      e'.data.run.state = e.data.run.state ∨ e'.data.run.state.isForward = false

theorem Db.Swept.final (h : db.Swept) {v : Revocable} (hv : v.stored db) : v.Final g db := by
  intro e he hc ev db' hs
  have revoked : e.data.Revoked := h.covered hv he hc
  constructor
  · intro c r ho hadv ha hr
    have performed := step_returned hs hr
    rw [ho] at performed
    obtain ⟨r', executed, same⟩ := returning_ok.mp performed
    cases same
    rcases execute_ok executed with ⟨e', y, ha', hy, -⟩ | ⟨ha', -⟩ <;> rw [ha] at ha'
    · cases ha'
      exact hy.revoked_refuses revoked hadv
    · cases ha'
  · intro e' he' hf
    exact (step_rowStep hs he he' hf).revoked_run revoked

/-- The databases of runs whose approvals are under live sessions. -/
theorem swept_of_run {db₀ : Db} {es : List Event} (h₀ : db₀.Swept)
    (run : Run (Db.GuardedStep g approvedUnderLiveSession) db₀ es db) : db.Swept :=
  run.invariant (fun _ _ _ h hs => h.step hs.2 hs.1) h₀

/-- The dispatch intent of the execution is claimed. -/
def Sample.dispatchClaim : ClaimDispatchArgs where
  executionId := "run-a"
  organizationId := "org-a"
  workerIdentity := "worker-a"
  leaseSeconds := 30
  token := "dispatch-token"

/-- The session is revoked first, and then approves. -/
def Sample.revokedThenApproved : List (Instant × Operation) :=
  [(seconds 1, .createRequest Sample.request), (seconds 1, .approveRequest Sample.approval)]

end CyberAssess
