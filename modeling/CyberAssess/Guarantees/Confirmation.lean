import CyberAssess.Guarantees.Cancellation
import CyberAssess.Guarantees.OwnershipMachine
import CyberAssess.Guarantees.Revocation
import CyberAssess.Guarantees.RunMachine
import CyberAssess.Service.Interleaved

/-!
# Guarantees — what a confirmed cancellation means

`cancel_request` among other writers.

* `Rows.over`: the run has ended and its process is accounted for.  `Db.RequestOver` adds the
  revocation, and is never left (`Db.RequestOver.leads`).
* `cancelProcessAmong_confirmed`, `revoke_granted`: what a confirmation came from.
* `confirmation_sound`: a confirmation is true exactly when nothing started under the two branches
  that look at no process, and an execution whose cancellation is not confirmed stays a recovery
  candidate.
-/

namespace CyberAssess

open Relational (Table)
open Python (isBlank)

/-- The process was observed gone or never created: its ownership row is closed or says so, or the
run was cancelled before its dispatch. -/
def Rows.processResolved (x : Rows) : Bool :=
  x.ownership.ownershipState = .terminal || x.ownership.ownershipState = .noExternalProcess ||
    (x.run.state = .cancelled && x.run.reasonCode = some .executionCancelledBeforeDispatch)

/-- The run has ended, and its process is accounted for. -/
def Rows.over (x : Rows) : Bool := x.run.state.isTerminal && x.processResolved

/-- No worker has claimed it. -/
def Rows.preDispatch (x : Rows) : Bool :=
  x.run.state = .requested && x.dispatch.state = .pending

/-! ### Rows that are over -/

section Rows

variable {db : Db} {ev : Event} {e : Execution} {x y : Rows}

/-- An ended run keeps its outcome through every step. -/
theorem RowStep.outcome_kept (h : RowStep db ev e y)
    (he : e.data.run.state.isTerminal = true) :
    y.run.state = e.data.run.state ∧ y.run.reasonCode = e.data.run.reasonCode := by
  cases h with
  | untouched | sessionRevoked => exact ⟨rfl, rfl⟩
  | called _ _ _ h => exact h.outcome_kept he
  | parentMoved =>
      rw [parentMoved_run]
      exact ⟨rfl, rfl⟩

/-- A closed or absent process stays so. -/
theorem OwnershipStep.resolved {o : Operation} {p q : OwnershipRow} (h : OwnershipStep o p q)
    (hp : p.ownershipState = .terminal ∨ p.ownershipState = .noExternalProcess) :
    q.ownershipState = .terminal ∨ q.ownershipState = .noExternalProcess := by
  rcases hp with hp | hp
  · rw [h.follows.final hp]
    exact Or.inl hp
  · rcases h.edge with same | edge | ⟨closed, -⟩
    · exact Or.inr (same.trans hp)
    · rw [hp] at edge
      exact Or.inl (List.mem_singleton.mp edge)
    · exact Or.inl closed

/-- What is over stays over. -/
theorem RowStep.over_kept (h : RowStep db ev e y) (he : e.data.over = true) : y.over = true := by
  simp only [Rows.over, Rows.processResolved, Bool.and_eq_true, Bool.or_eq_true,
    decide_eq_true_eq] at he ⊢
  obtain ⟨state, reason⟩ := h.outcome_kept he.1
  rw [state, reason]
  refine ⟨he.1, ?_⟩
  rcases he.2 with owned | cancelled
  · exact Or.inl (h.ownership_step.resolved owned)
  · exact Or.inr cancelled

/-- A revocation leaves rows over that no worker had claimed, or that were over. -/
theorem over_requestRevoked (x : Rows) (now : Instant) :
    ((x.requestRevoked now).cancelBeforeDispatch now).over = true ↔
      x.preDispatch = true ∨ x.over = true := by
  by_cases pending : x.dispatch.state = .pending
  · by_cases requested : x.run.state = .requested
    · have cancelled : ((x.requestRevoked now).cancelBeforeDispatch now).over = true := by
        have dispatch : (x.requestRevoked now).dispatch.state = .pending := pending
        have run : (x.requestRevoked now).run.state = .requested := requested
        rw [Rows.cancelBeforeDispatch, if_pos dispatch, if_pos run]
        simp [Rows.over, Rows.processResolved, RunRow.settled, RunState.isTerminal]
      exact iff_of_true cancelled (Or.inl (by simp [Rows.preDispatch, pending, requested]))
    · have dispatch : (x.requestRevoked now).dispatch.state = .pending := pending
      have run : ¬ (x.requestRevoked now).run.state = .requested := requested
      rw [Rows.cancelBeforeDispatch, if_pos dispatch, if_neg run]
      simp only [Rows.preDispatch, requested, decide_false, Bool.false_and, Bool.false_eq_true,
        false_or]
      rfl
  · have dispatch : ¬ (x.requestRevoked now).dispatch.state = .pending := pending
    rw [Rows.cancelBeforeDispatch, if_neg dispatch]
    simp only [Rows.preDispatch, pending, decide_false, Bool.and_false, Bool.false_eq_true, false_or]
    rfl

end Rows

/-! ### A request that is over -/

variable {g : Gateway} {db db' z : Db} {c : RevokeRequestArgs} {e : Execution} {requestId : String}

/-- The request is revoked, and its execution, where it has one, is over. -/
structure Db.RequestOver (db : Db) (requestId : String) : Prop where
  stored : (Revocable.request requestId).stored db
  revoked : ∀ e ∈ db.executions, e.fixed.request.id = requestId →
    e.data.request.state = .revoked ∧ e.data.Revoked
  ended : ∀ e ∈ db.executions, e.fixed.request.id = requestId → e.data.over = true

/-- No request is both pending and approved. -/
theorem separate_of_reachable (h : db.Reachable g) : db.Separate :=
  h.invariant (fun _ hd => (Db.Swept.ofInitial hd).separate) fun _ _ _ hd hs => hd.step hs

/-- A revoked request has its decision revoked. -/
theorem request_swept (h : db.Reachable g) :
    ∀ e ∈ db.executions, e.data.request.state = .revoked → e.data.Revoked := by
  refine reachable_executions (I := fun e => e.data.request.state = .revoked → e.data.Revoked)
    (g := g) (C := fun _ _ => True) ?_ ?_ (h.mono fun _ _ _ hs => ⟨trivial, hs⟩)
  · intro d ev e y _ he hs
    exact hs.request_revoked.2 he
  · intro d ev e he hr
    obtain ⟨-, t, w, r, now, hd⟩ := he.fresh
    rw [hd] at hr
    cases hr

/-- The execution of a revoked request is revoked. -/
theorem revoked_of_stored (h : db.Reachable g) (hs : (Revocable.request requestId).stored db)
    (he : e ∈ db.executions) (hr : e.fixed.request.id = requestId) :
    e.data.request.state = .revoked ∧ e.data.Revoked := by
  rcases hs with ⟨e', he', hq, revoked⟩ | ⟨q, hq, hid, -⟩
  · obtain rfl : e = e' :=
      Table.eq_of_key_eq he he' .request (congrArg (·, "") (hr.trans hq.symm))
    exact ⟨revoked, request_swept h e he revoked⟩
  · exact absurd (hr.trans hid.symm) (separate_of_reachable h q hq e he)

theorem Db.RequestOver.of_stored (h : db.Reachable g)
    (hs : (Revocable.request requestId).stored db)
    (ho : ∀ e ∈ db.executions, e.fixed.request.id = requestId → e.data.over = true) :
    db.RequestOver requestId :=
  ⟨hs, fun _ he hr => revoked_of_stored h hs he hr, ho⟩

/-- One step leaves it over: its execution stays over, and it is not approved again. -/
theorem Db.RequestOver.step {ev : Event} (k : db.RequestOver requestId) (h : db.Reachable g)
    (hs : db.step g ev db') : db'.RequestOver requestId := by
  have stored := Revocable.stored_step k.stored hs
  refine .of_stored (h.more hs) stored fun e he hr => ?_
  rcases (step_evolves hs).new e he with hn | ⟨e₀, he₀, hf, hstep⟩
  · -- An approval inserts an authorized request.
    obtain ⟨-, t, w, r, now, hd⟩ := hn.fresh
    have revoked := (revoked_of_stored (h.more hs) stored he hr).1
    rw [hd] at revoked
    cases revoked
  · exact hstep.over_kept (k.ended e₀ he₀ (by rw [hf]; exact hr))

/-- **What is over stays over**, whatever runs after it. -/
theorem Db.RequestOver.leads (k : db.RequestOver requestId) (h : db.Reachable g)
    (hz : Transition.Leads (Db.step g) db z) : z.RequestOver requestId := by
  have both := hz.invariant (I := fun d => d.Reachable g ∧ d.RequestOver requestId)
    (fun _ _ _ hd hs => ⟨hd.1.more hs, hd.2.step hd.1 hs⟩) ⟨h, k⟩
  exact both.2

/-- An execution is still there later, under the same columns. -/
theorem execution_leads (hz : Transition.Leads (Db.step g) db z) (he : e ∈ db.executions) :
    ∃ y, ⟨e.fixed, y⟩ ∈ z.executions := by
  obtain ⟨evs, run⟩ := hz
  obtain ⟨y, hy, -⟩ := run_ownership run e he
  exact ⟨y, hy⟩

/-! ### The calls of the coordinator -/

variable {w : Interleaving g} {p : CancelPoint} {k : ExecutionCall}

/-- A read sees what others have left. -/
theorem Interleaving.read_fst {α : Type} (w : Interleaving g) (p : CancelPoint) (f : Db → α)
    (db : Db) : (w.read p f db).1 = w.moves p db := by
  unfold Interleaving.read
  split <;> rfl

theorem Interleaving.read_leads {α : Type} {f : Db → α} {r : Except String α}
    (h : w.read p f db = (z, r)) : Transition.Leads (Db.step g) db z := by
  have same := w.read_fst p f db
  rw [h] at same
  rw [show z = w.moves p db from same]
  exact w.moved p db

/-- What a read returned was there. -/
theorem Interleaving.read_ok {α : Type} {f : Db → α} {v : α} (h : w.read p f db = (z, .ok v)) :
    z = w.moves p db ∧ f z = v := by
  unfold Interleaving.read at h
  split at h
  · cases h
  · cases h
    exact ⟨rfl, rfl⟩

/-- A call that returned did so from the database others had left. -/
theorem Interleaving.execute_ok {b : Bool} (h : w.execute p k db = (z, .ok b)) :
    ∃ r, (w.moves p db).execute k (w.clock p) = .ok (r, z) ∧ r.granted = b := by
  unfold Interleaving.execute at h
  simp only at h
  split at h
  · cases h
  · split at h
    · cases h
    · rename_i r d hd
      cases h
      exact ⟨r, hd, rfl⟩

/-- A call that raised has left nothing of its own. -/
theorem Interleaving.execute_error {x : String} (h : w.execute p k db = (z, .error x)) :
    z = w.moves p db := by
  unfold Interleaving.execute at h
  simp only at h
  split at h
  · cases h
    rfl
  · split at h <;> cases h
    rfl

/-- A call on an execution is a step of the database. -/
theorem step_of_execute {now : Instant} {r : Response} (h : db.execute k now = .ok (r, z)) :
    db.step g ⟨.call k, now, .ok (.response r)⟩ z :=
  Or.inl ⟨.response r, returning_ok.mpr ⟨r, h, rfl⟩, rfl⟩

theorem Interleaving.execute_leads {r : Except String Bool} (h : w.execute p k db = (z, r)) :
    Transition.Leads (Db.step g) db z := by
  cases r with
  | error x =>
      rw [Interleaving.execute_error h]
      exact w.moved p db
  | ok b =>
      obtain ⟨r, executed, -⟩ := Interleaving.execute_ok h
      exact (w.moved p db).trans (.single (step_of_execute executed))

/-! ### The revocation -/

/-- The execution of a request is the one its revocation addresses. -/
theorem addressed_revokeRequest (db : Db) (c : RevokeRequestArgs) :
    db.addressed (.revokeRequest c) = db.executionRunForRequest c.requestId c.organizationId := rfl

/-- A revocation that returned `True` is stored, and the request is over exactly when its execution
had not been claimed or was over. -/
theorem revoke_granted {now : Instant} {r : Response} (h : db.Reachable g)
    (hx : db.execute (.revokeRequest c) now = .ok (r, z)) (hr : r.granted = true) :
    (Revocable.request c.requestId).stored z ∧
      ((∀ e ∈ z.executions, e.fixed.request.id = c.requestId → e.data.over = true) ↔
        ∀ e, db.executionRunForRequest c.requestId c.organizationId = some e →
          e.data.preDispatch = true ∨ e.data.over = true) := by
  rcases execute_ok hx with ⟨e, y, ha, hy, rfl⟩ | ⟨ha, ⟨hn, -⟩ | ⟨k, q, hk, hq, rfl⟩⟩
  · obtain ⟨he, hid, -⟩ := Db.addressed_eq_some.mp ha
    have named : e.fixed.request.id = c.requestId := congrArg Prod.fst hid
    have revoked : y = (e.data.requestRevoked now).cancelBeforeDispatch now := by
      cases hy with
      | kept hk => cases hk hr
      | beside hb => cases hb
      | requestRevoked => rfl
    have written : ⟨e.fixed, y⟩ ∈ (db.setRows e y).executions := (Db.mem_setRows_self he).mpr rfl
    rw [addressed_revokeRequest] at ha
    constructor
    · refine Or.inl ⟨_, written, named, ?_⟩
      rw [revoked, (cancelBeforeDispatch_request (e.data.requestRevoked now) now).1]
      rfl
    constructor
    · intro allOver e' he'
      rw [ha] at he'
      cases he'
      rw [← over_requestRevoked e.data now, ← revoked]
      exact allOver _ written named
    · intro started s hs hsid
      have same : s = ⟨e.fixed, y⟩ :=
        Table.eq_of_key_eq hs written .request (congrArg (·, "") (hsid.trans named.symm))
      rw [same, revoked]
      exact (over_requestRevoked e.data now).mpr (started e ha)
  · rw [hr] at hn
    cases hn
  · cases hk
    rw [addressed_revokeRequest] at ha
    obtain ⟨hm, hid⟩ := Table.lookup_eq_some.mp (Option.filter_eq_some_iff.mp hq).1
    have named : q.fixed.id = c.requestId := congrArg Prod.fst hid
    have absent : ∀ e ∈ db.executions, e.fixed.request.id ≠ c.requestId := by
      rw [← named]
      exact separate_of_reachable h q hm
    constructor
    · exact Or.inr ⟨⟨q.fixed, _⟩, Table.mem_set.mpr ⟨q, hm, Or.inl ⟨rfl, rfl⟩⟩, named, rfl⟩
    -- A pending request has no execution.
    have allOver : ∀ e ∈ db.executions, e.fixed.request.id = c.requestId → e.data.over = true :=
      fun e he same => absurd same (absent e he)
    have found : ∀ e, db.executionRunForRequest c.requestId c.organizationId = some e →
        e.data.preDispatch = true ∨ e.data.over = true := by
      intro e he
      rw [ha] at he
      cases he
    exact ⟨fun _ => found, fun _ => allOver⟩

/-! ### The settlement -/

/-- A settlement that returned `True` found its execution, and left it over. -/
theorem settleConfirmed_granted {s : SettleConfirmedArgs} {jobEmpty : Bool} {now : Instant}
    {r : Response} (hx : db.execute (.settleConfirmed s jobEmpty) now = .ok (r, z))
    (hr : r.granted = true) :
    ∃ e y, db.addressed (.settleConfirmed s jobEmpty) = some e ∧ z = db.setRows e y ∧
      y.over = true := by
  cases ha : db.addressed (.settleConfirmed s jobEmpty) with
  | none =>
      rcases execute_ok hx with ⟨e, y, he, -⟩ | ⟨-, ⟨hn, -⟩ | ⟨k, q, hk, -⟩⟩
      · rw [ha] at he
        cases he
      · rw [hr] at hn
        cases hn
      · cases hk
  | some e =>
      rw [Db.execute_found ha] at hx
      obtain ⟨⟨r', y⟩, hy, hz⟩ := Checked.map_ok.mp hx
      cases hz
      obtain ⟨b, hb, rfl⟩ := respond_ok.mp hy
      refine ⟨e, y, rfl, rfl, ?_⟩
      simp only [Rows.over, Rows.processResolved, Bool.and_eq_true, Bool.or_eq_true,
        decide_eq_true_eq]
      rcases settleExecutionAfterConfirmedTermination_ok hb with
        ⟨rfl, replayed⟩ | ⟨hc, hg, -, -, settleable, -, rfl⟩
      · obtain ⟨closed, ended, -⟩ := replayed hr
        exact ⟨ended, Or.inl (Or.inl closed)⟩
      · refine ⟨?_, Or.inl (Or.inl rfl)⟩
        by_cases ended : e.data.run.state.isTerminal = true
        · simp [Rows.settledAfterTermination, ended]
        · simpa [Rows.settledAfterTermination, ended, RunRow.settled] using
            isTerminal_of_valid (settleConfirmed_check hc hg).2

/-! ### What a confirmation came from -/

variable {o : CancellationOutcome} {executionId : String} {back ownership : Option Execution}
  {identity : Option ProcessIdentity}

/-- A settlement without a worker identity returns `False`, and leaves what others had left. -/
theorem Interleaving.execute_anonymous {s : SettleConfirmedArgs} {jobEmpty b : Bool}
    (hs : s.workerIdentity = none)
    (h : w.execute .settle (.settleConfirmed s jobEmpty) db = (z, .ok b)) :
    b = false ∧ z = w.moves .settle db := by
  obtain ⟨r, executed, rfl⟩ := Interleaving.execute_ok h
  rw [settleConfirmed_anonymous hs] at executed
  cases executed
  exact ⟨rfl, rfl⟩

theorem settlePreDispatchAmong_ok (h : settlePreDispatchAmong w c e db = (z, .ok o)) :
    o.confirmed = false ∧ z = w.moves .settle db := by
  unfold settlePreDispatchAmong at h
  split at h
  · cases h
  · rename_i d settled hd
    obtain ⟨rfl, rfl⟩ := Interleaving.execute_anonymous rfl hd
    cases h
    exact ⟨by simp [CancellationOutcome.confirmed], rfl⟩

theorem settleNoProcessAmong_ok (h : settleNoProcessAmong w c executionId e db = (z, .ok o)) :
    o.confirmed = false ∧ z = w.moves .settle db := by
  unfold settleNoProcessAmong at h
  split at h
  · cases h
  · rename_i d settled hd
    obtain ⟨rfl, rfl⟩ := Interleaving.execute_anonymous rfl hd
    cases h
    exact ⟨by simp [CancellationOutcome.confirmed], rfl⟩

/-- The supervisor confirmed the termination of the identity that the rows of `fixed` hold, and it was
settled. -/
structure SettledTermination (w : Interleaving g) (c : RevokeRequestArgs) (executionId : String)
    (i : ProcessIdentity) (db z : Db) : Prop where
  loaded : ∃ e, db.executionRun executionId c.organizationId = some e ∧
    loadDurableProcessIdentity w.env.attestedJob (w.clock .readIdentity) e.fixed e.data = some i
  reply : (w.env.cancelExecution executionId (some i)).confirmed.isSome = true
  settled : ∃ d status generation worker, w.execute .settle
    (coordinatorSettlement w.env executionId c.organizationId .executionCancelled status i.args
      generation worker) db = (d, .ok true) ∧ z = w.moves .readFinal d

/-- The last read is no call of its own. -/
theorem finalReason_fst : (finalReason w c executionId db).1 = w.moves .readFinal db := by
  unfold finalReason
  have same := w.read_fst .readFinal (·.executionRun executionId c.organizationId) db
  split <;> (rename_i hd; rw [hd] at same; exact same)

theorem cancelProcessAmong_confirmed
    (h : cancelProcessAmong w c executionId back ownership identity db = (z, .ok o))
    (ho : o.confirmed = true) :
    o.authorityRevoked = true ∧ ∃ i, identity = some i ∧
      (w.env.cancelExecution executionId (some i)).confirmed.isSome = true ∧
      ∃ d status generation worker, w.execute .settle
        (coordinatorSettlement w.env executionId c.organizationId .executionCancelled status i.args
          generation worker) db = (d, .ok true) ∧ z = w.moves .readFinal d := by
  simp only [cancelProcessAmong] at h
  split at h
  · cases h
  rename_i d settled error hd
  cases h
  refine ⟨rfl, ?_⟩
  have durable : settled = true := by
    simp only [CancellationOutcome.confirmed, Bool.and_eq_true] at ho
    exact ho.1.2
  subst durable
  unfold settleProcessAmong at hd
  split at hd
  · rename_i status i hc
    split at hd
    · cases hd
    rename_i d' settled hs
    simp only [Prod.mk.injEq, Except.ok.injEq] at hd
    obtain ⟨rfl, rfl, -⟩ := hd
    exact ⟨i, rfl, by rw [hc]; rfl, d', status, _, _, hs, finalReason_fst⟩
  · cases hd
  · cases hd

/-- The identity that was read is that of the stored rows. -/
theorem readIdentityAmong_some {i : ProcessIdentity} {d : Db}
    (h : readIdentityAmong w c executionId ownership db = (d, some i)) :
    ∃ e, d.executionRun executionId c.organizationId = some e ∧
      loadDurableProcessIdentity w.env.attestedJob (w.clock .readIdentity) e.fixed e.data
        = some i := by
  unfold readIdentityAmong at h
  split at h
  · cases h
  · split at h
    · cases h
    · rename_i d' found hd
      simp only [Prod.mk.injEq] at h
      obtain ⟨rfl, h⟩ := h
      obtain ⟨e, rfl, loaded⟩ := Option.bind_eq_some_iff.mp h
      exact ⟨e, (Interleaving.read_ok hd).2, loaded⟩

theorem readIdentityAmong_leads :
    Transition.Leads (Db.step g) db (readIdentityAmong w c executionId ownership db).1 := by
  unfold readIdentityAmong
  split
  · exact .refl db
  · split <;> (rename_i hd; exact Interleaving.read_leads hd)

theorem settleRevokedAmong_confirmed {identityError : Option String}
    (h : settleRevokedAmong w c executionId back ownership identityError db = (z, .ok o))
    (ho : o.confirmed = true) :
    o.authorityRevoked = true ∧ ∃ i d, Transition.Leads (Db.step g) db d ∧
      SettledTermination w c executionId i d z := by
  unfold settleRevokedAmong at h
  have leads : Transition.Leads (Db.step g) db
      (readIdentityAmong w c executionId ownership db).1 := readIdentityAmong_leads
  cases hi : readIdentityAmong w c executionId ownership db with
  | mk d identity =>
    rw [hi] at leads
    simp only [hi] at h
    split at h
    · rw [(settleNoProcessAmong_ok h).1] at ho
      cases ho
    split at h
    · cases h
      simp [CancellationOutcome.confirmed, revokedOutcome] at ho
    · obtain ⟨revoked, i, rfl, reply, settled⟩ := cancelProcessAmong_confirmed h ho
      exact ⟨revoked, i, d, leads, readIdentityAmong_some hi, reply, settled⟩

theorem afterRevocationAmong_confirmed
    (h : afterRevocationAmong w c executionId db = (z, .ok o)) (ho : o.confirmed = true) :
    o.authorityRevoked = true ∧ ∃ i d, Transition.Leads (Db.step g) db d ∧
      SettledTermination w c executionId i d z := by
  unfold afterRevocationAmong at h
  split at h
  · cases h
    simp [CancellationOutcome.confirmed, revokedOutcome] at ho
  rename_i d back hd
  have first := Interleaving.read_leads hd
  split at h
  · rw [(settlePreDispatchAmong_ok h).1] at ho
    cases ho
  split at h <;> rename_i d' r hd'
  all_goals
    obtain ⟨revoked, i, d'', later, settled⟩ := settleRevokedAmong_confirmed h ho
    exact ⟨revoked, i, d'', (first.trans (Interleaving.read_leads hd')).trans later, settled⟩

/-- A settled termination leaves its execution over. -/
theorem SettledTermination.over {i : ProcessIdentity} (k : SettledTermination w c executionId i db z)
    (h : db.Reachable g) (hz : (Revocable.request requestId).stored db)
    (he : ∃ e ∈ db.executions, e.fixed.request.id = requestId ∧
      e.fixed.run.executionId = executionId) : z.RequestOver requestId := by
  obtain ⟨e, he, rfl, rfl⟩ := he
  obtain ⟨d, status, generation, worker, settled, rfl⟩ := k.settled
  have leads := Interleaving.execute_leads settled
  obtain ⟨r, executed, granted⟩ := Interleaving.execute_ok settled
  obtain ⟨e', y, found, rfl, isOver⟩ := settleConfirmed_granted executed granted
  obtain ⟨he', hid, -⟩ := Db.addressed_eq_some.mp found
  have written := (Db.mem_setRows_self (y := y) he').mpr rfl
  -- The row that was settled is the one of the request.
  obtain ⟨x, hx⟩ := execution_leads (w.moved .settle db) he
  have same : e' = ⟨e.fixed, x⟩ := Table.eq_of_key_eq he' hx .execution hid
  have stored := leads.invariant (I := fun s => (Revocable.request e.fixed.request.id).stored s)
    (fun _ _ _ hs step => Revocable.stored_step hs step) hz
  have settledOver : ((w.moves .settle db).setRows e' y).RequestOver e.fixed.request.id := by
    refine .of_stored (h.leads leads) stored fun s hs hsid => ?_
    have written' : s = ⟨e'.fixed, y⟩ := Table.eq_of_key_eq hs written .request
      (congrArg (·, "") (by rw [hsid, same]))
    rw [written']
    exact isOver
  exact settledOver.leads (h.leads leads) (w.moved .readFinal _)

/-! ### What a confirmation means -/

/-- The supervisor is `cancel_execution`, on what the operating system answers it, or raises. -/
def supervisorReply (k : Kernel) (mapped : String → Registered) (raises : Option String)
    (executionId : String) (identity : Option ProcessIdentity) : SupervisorReply :=
  match raises with
  | some x => .raised x
  | none => .status (cancelExecution k (mapped executionId) executionId identity).status

/-- The same happens meanwhile, under that supervisor. -/
def Interleaving.supervised (w : Interleaving g) (k : Kernel) (mapped : String → Registered)
    (raises : Option String) : Interleaving g :=
  { w with env := { w.env with cancelExecution := supervisorReply k mapped raises } }

/-- A confirmed reply was observed. -/
theorem supervisorReply_observed {k : Kernel} {mapped : String → Registered}
    {raises : Option String} {i : ProcessIdentity}
    (h : (supervisorReply k mapped raises executionId (some i)).confirmed.isSome = true) :
    k.ObservedGone executionId i := by
  unfold supervisorReply at h
  split at h
  · cases h
  · exact cancelExecution_observed h

/-- What a confirmed outcome promises: the authority is revoked, the run has ended and its process is
accounted for, in every database that is reached from here; and where the run was still open, the
process of its persisted identity was observed gone. -/
structure TrulyCancelled (w : Interleaving g) (k : Kernel) (c : RevokeRequestArgs) (db : Db)
    (o : CancellationOutcome) (z : Db) : Prop where
  revoked : o.authorityRevoked = true
  durable : ∀ z', Transition.Leads (Db.step g) z z' → z'.RequestOver c.requestId
  observed : ∀ e, (w.moves .readRun db).executionRunForRequest c.requestId c.organizationId
      = some e → e.data.run.state.isTerminal = false →
    ∃ i y now, loadDurableProcessIdentity w.env.attestedJob now e.fixed y = some i ∧
      k.ObservedGone e.fixed.run.executionId i

/-- Where the run was read absent or ended, it is absent, unclaimed or over when its request is
revoked. -/
def Interleaving.nothingRuns (w : Interleaving g) (c : RevokeRequestArgs) (db : Db) : Prop :=
  (∀ e, (w.moves .readRun db).executionRunForRequest c.requestId c.organizationId = some e →
      e.data.run.state.isTerminal = true) →
    ∀ e, (w.moves .revoke (w.moves .readRun db)).executionRunForRequest c.requestId c.organizationId
      = some e → e.data.preDispatch = true ∨ e.data.over = true

/-- A confirmation of the branches that look at no process. -/
theorem revoked_truly {k : Kernel} (h : db.Reachable g)
    (hx : w.execute .revoke (.revokeRequest c) (w.moves .readRun db) = (z, .ok true))
    (hr : o.authorityRevoked = true)
    (ended : ∀ e, (w.moves .readRun db).executionRunForRequest c.requestId c.organizationId
      = some e → e.data.run.state.isTerminal = true) :
    TrulyCancelled w k c db o z ↔ w.nothingRuns c db := by
  have read := h.leads (w.moved .readRun db)
  have leads := Interleaving.execute_leads hx
  obtain ⟨r, executed, granted⟩ := Interleaving.execute_ok hx
  obtain ⟨stored, isOver⟩ := revoke_granted (read.leads (w.moved .revoke _)) executed granted
  constructor
  · intro t _
    exact isOver.mp (t.durable z (.refl z)).ended
  · intro nothing
    have requestOver : z.RequestOver c.requestId :=
      .of_stored (read.leads leads) stored (isOver.mpr (nothing ended))
    refine ⟨hr, fun z' hz => requestOver.leads (read.leads leads) hz, fun e he hopen => ?_⟩
    rw [ended e he] at hopen
    cases hopen

/-- A text that is not blank is not empty. -/
theorem not_isEmpty_of_not_blank {s : String} (h : isBlank s = false) : s.isEmpty = false := by
  by_contra hs
  rw [Bool.not_eq_false, String.isEmpty_iff] at hs
  rw [hs] at h
  cases h

/-- A revocation with its arguments does not refuse an execution that is there. -/
theorem revoke_found {b : Bool} (hc : c.complete = true) (he : e ∈ db.executions)
    (hid : e.fixed.request.id = c.requestId)
    (horg : e.fixed.request.organizationId = c.organizationId)
    (hx : w.execute .revoke (.revokeRequest c) db = (z, .ok b)) : b = true := by
  obtain ⟨r, executed, rfl⟩ := Interleaving.execute_ok hx
  obtain ⟨x, hx⟩ := execution_leads (w.moved .revoke db) he
  have found : (w.moves .revoke db).addressed (.revokeRequest c) = some ⟨e.fixed, x⟩ :=
    Db.addressed_eq_some.mpr ⟨hx, congrArg (·, "") hid, horg⟩
  rw [Db.execute_found found] at executed
  obtain ⟨⟨r', y⟩, hy, hz⟩ := Checked.map_ok.mp executed
  cases hz
  obtain ⟨v, hv, rfl⟩ := respond_ok.mp hy
  rw [revokeExecutionRequest, if_pos hc] at hv
  cases hv
  rfl

/-- A confirmed outcome of a run that had not ended: the termination was observed and settled. -/
theorem cancelActiveAmong_truly {k : Kernel} {mapped : String → Registered} {raises : Option String}
    (h : db.Reachable g)
    (found : ((w.supervised k mapped raises).moves .readRun db).executionRunForRequest c.requestId
      c.organizationId = some e)
    (hx : cancelActiveAmong (w.supervised k mapped raises) c e.fixed.run.executionId
      ((w.supervised k mapped raises).moves .readRun db) = (z, .ok o))
    (ho : o.confirmed = true) : TrulyCancelled (w.supervised k mapped raises) k c db o z := by
  obtain ⟨he, hid, -⟩ := executionRunForRequest_some found
  unfold cancelActiveAmong at hx
  split at hx
  · cases hx
    cases ho
  · cases hx
    cases ho
  rename_i d hd
  have read := h.leads ((w.supervised k mapped raises).moved .readRun db)
  have first := Interleaving.execute_leads hd
  obtain ⟨r, executed, granted⟩ := Interleaving.execute_ok hd
  have stored := (revoke_granted (read.leads (Interleaving.moved _ .revoke _)) executed granted).1
  obtain ⟨revoked, i, d', later, settled⟩ := afterRevocationAmong_confirmed hx ho
  obtain ⟨x, hx'⟩ := execution_leads (first.trans later) he
  have requestOver : z.RequestOver c.requestId :=
    settled.over (read.leads (first.trans later))
      (later.invariant (I := fun s => (Revocable.request c.requestId).stored s)
        (fun _ _ _ hs step => Revocable.stored_step hs step) stored)
      ⟨_, hx', hid, rfl⟩
  have reachable : z.Reachable g := by
    obtain ⟨d'', _, _, _, hs, rfl⟩ := settled.settled
    exact ((read.leads (first.trans later)).leads (Interleaving.execute_leads hs)).leads
      (Interleaving.moved _ .readFinal _)
  refine ⟨revoked, fun z' hz => requestOver.leads reachable hz, fun e' he' _ => ?_⟩
  rw [found] at he'
  cases he'
  obtain ⟨s, hs, loaded⟩ := settled.loaded
  obtain ⟨hs, hsid, -⟩ := executionRun_some hs
  have same : s = ⟨e.fixed, x⟩ := Table.eq_of_key_eq hs hx' .execution (congrArg (·, "") hsid)
  rw [same] at loaded
  exact ⟨i, x, _, loaded, supervisorReply_observed settled.reply⟩

/-- A confirmed outcome is true exactly when nothing runs under the branches that look at no
process. -/
theorem confirmed_iff {k : Kernel} {mapped : String → Registered} {raises : Option String}
    (h : db.Reachable g) (hx : cancelAmong (w.supervised k mapped raises) c db = (z, .ok o))
    (ho : o.confirmed = true) :
    TrulyCancelled (w.supervised k mapped raises) k c db o z ↔
      (w.supervised k mapped raises).nothingRuns c db := by
  unfold cancelAmong at hx
  split at hx
  · cases hx
    cases ho
  rename_i given
  have complete : c.complete = true := by
    simp only [Bool.or_eq_true, not_or, Bool.not_eq_true] at given
    simp [RevokeRequestArgs.complete, not_isEmpty_of_not_blank given.1.2,
      not_isEmpty_of_not_blank given.2]
  split at hx
  · cases hx
    cases ho
  · rename_i d hd
    obtain ⟨rfl, found⟩ := Interleaving.read_ok hd
    have ended : ∀ e, ((w.supervised k mapped raises).moves .readRun db).executionRunForRequest
        c.requestId c.organizationId = some e → e.data.run.state.isTerminal = true := by
      intro e he
      rw [found] at he
      cases he
    unfold cancelAbsentAmong at hx
    split at hx
    · cases hx
      cases ho
    rename_i d' revoked hd'
    cases hx
    have durable : revoked = true := by
      simp only [CancellationOutcome.confirmed, Bool.and_eq_true] at ho
      exact ho.1.2
    subst durable
    exact revoked_truly h hd' rfl ended
  · rename_i d e hd
    obtain ⟨rfl, found⟩ := Interleaving.read_ok hd
    split at hx
    · cases hx
      cases ho
    split at hx
    · rename_i he
      have ended : ∀ e, ((w.supervised k mapped raises).moves .readRun db).executionRunForRequest
          c.requestId c.organizationId = some e → e.data.run.state.isTerminal = true := by
        intro e' he'
        rw [found] at he'
        cases he'
        exact he
      unfold cancelEndedAmong at hx
      simp only at hx
      split at hx
      · cases hx
        cases ho
      rename_i d' revoked hd'
      cases hx
      obtain ⟨there, hid, horg⟩ := executionRunForRequest_some found
      have granted : revoked = true := revoke_found complete there hid horg hd'
      subst granted
      exact revoked_truly h hd' rfl ended
    · rename_i he
      have truly := cancelActiveAmong_truly h found hx ho
      exact iff_of_true truly fun ended => absurd (ended e found) he

/-! ### What an unconfirmed cancellation leaves -/

/-- The recovery of the rows is neither exhausted nor held without a way to lapse, and their run has
not ended. -/
def Rows.recoverable (x : Rows) : Bool :=
  !x.run.state.isTerminal &&
    ((x.recovery.status ≠ .inProgress && x.recovery.status ≠ .exhausted) ||
      (needsRecovery x.ownership.ownershipState && x.recovery.status = .inProgress &&
        x.recovery.leaseExpiresAt.isSome))

/-- Such rows are those that `list_execution_recovery_candidates` selects at some time. -/
theorem recoverable_iff (revokedTokens : List String) (a : Authority) (x : Rows) :
    x.recoverable = true ↔ ∃ now, isRecoveryCandidate revokedTokens now a x = true := by
  constructor
  · intro h
    simp only [Rows.recoverable, Bool.and_eq_true, Bool.or_eq_true, decide_eq_true_eq] at h
    obtain ⟨open_run, held⟩ := h
    -- Late enough for the authority, the retry and the lease.
    let now := max x.request.expiresAt
      (max (x.recovery.nextRetryAt.getD 0) (x.recovery.leaseExpiresAt.getD 0))
    have due : retryDue now x.recovery = true := by
      unfold retryDue
      cases hr : x.recovery.nextRetryAt with
      | none => rfl
      | some t => simp [now, hr]
    have lost : authorityLost revokedTokens now a x = true := by
      have expired : x.request.expiresAt ≤ now := le_max_left _ _
      simp [authorityLost, expired]
    refine ⟨now, ?_⟩
    simp only [isRecoveryCandidate, Bool.and_eq_true, Bool.or_eq_true, decide_eq_true_eq]
    refine ⟨⟨⟨open_run, held.imp_right fun ⟨⟨needed, status⟩, lease⟩ => ⟨needed, ?_⟩⟩, due⟩,
      Or.inl lost⟩
    obtain ⟨t, ht⟩ := Option.isSome_iff_exists.mp lease
    simp [recoveryLeaseLapsed, status, leaseLapsed, ht, now]
  · rintro ⟨now, h⟩
    simp only [isRecoveryCandidate, Bool.and_eq_true, Bool.or_eq_true, decide_eq_true_eq] at h
    simp only [Rows.recoverable, Bool.and_eq_true, Bool.or_eq_true, decide_eq_true_eq]
    refine ⟨h.1.1.1, h.1.1.2.imp_right fun ⟨needed, lapsed⟩ => ?_⟩
    simp only [recoveryLeaseLapsed, leaseLapsed, Bool.and_eq_true, decide_eq_true_eq] at lapsed
    exact ⟨⟨needed, lapsed.1⟩, Option.isSome_of_any lapsed.2⟩

/-- The execution is claimed and recoverable. -/
def Db.Awaits (db : Db) (a : Authority) : Prop :=
  ∃ y, ⟨a, y⟩ ∈ db.executions ∧ y.recoverable = true ∧ y.preDispatch = false

/-- The others leave it so. -/
def Interleaving.leavesOpen (w : Interleaving g) (a : Authority) : Prop :=
  ∀ p d, Db.Awaits d a → Db.Awaits (w.moves p d) a

variable {a : Authority}

/-- A revocation leaves the run, the process and the recovery of rows that are claimed. -/
theorem requestRevoked_claimed {x : Rows} (now : Instant) (h : x.preDispatch = false) :
    ((x.requestRevoked now).cancelBeforeDispatch now).run = x.run ∧
      ((x.requestRevoked now).cancelBeforeDispatch now).ownership = x.ownership ∧
      ((x.requestRevoked now).cancelBeforeDispatch now).recovery = x.recovery ∧
      ((x.requestRevoked now).cancelBeforeDispatch now).preDispatch = false := by
  by_cases pending : x.dispatch.state = .pending
  · have dispatch : (x.requestRevoked now).dispatch.state = .pending := pending
    have run : ¬ (x.requestRevoked now).run.state = .requested := by
      intro requested
      rw [Rows.preDispatch, show x.run.state = .requested from requested, pending] at h
      cases h
    rw [Rows.cancelBeforeDispatch, if_pos dispatch, if_neg run]
    exact ⟨rfl, rfl, rfl, by simp [Rows.preDispatch]⟩
  · have dispatch : ¬ (x.requestRevoked now).dispatch.state = .pending := pending
    rw [Rows.cancelBeforeDispatch, if_neg dispatch]
    exact ⟨rfl, rfl, rfl, h⟩

/-- A revocation leaves a claimed execution so. -/
theorem revoke_awaits {r : Except String Bool} (keep : w.leavesOpen a) (h : db.Awaits a)
    (hx : w.execute .revoke (.revokeRequest c) db = (z, r)) : z.Awaits a := by
  have moved := keep .revoke db h
  cases r with
  | error x =>
      rw [Interleaving.execute_error hx]
      exact moved
  | ok b =>
      obtain ⟨r, executed, -⟩ := Interleaving.execute_ok hx
      obtain ⟨y, hy, recoverable, claimed⟩ := moved
      rcases execute_ok executed with ⟨e, y', he, hs, rfl⟩ | ⟨-, ⟨-, rfl⟩ | ⟨k, q, -, -, rfl⟩⟩
      · obtain ⟨hm, -⟩ := Db.addressed_eq_some.mp he
        by_cases same : e = ⟨a, y⟩
        · subst same
          refine ⟨y', (Db.mem_setRows_self hm).mpr rfl, ?_⟩
          cases hs with
          | kept => exact ⟨recoverable, claimed⟩
          | beside hb => cases hb
          | requestRevoked =>
              obtain ⟨run, ownership, recovery, dispatch⟩ :=
                requestRevoked_claimed (w.clock .revoke) claimed
              refine ⟨?_, dispatch⟩
              rw [Rows.recoverable, run, ownership, recovery]
              exact recoverable
        · refine ⟨y, (Db.mem_setRows_other hm fun id => same ?_).mpr hy, recoverable, claimed⟩
          exact Table.eq_of_key_eq hm hy .execution (congrArg (·, "") id.symm)
      · exact ⟨y, hy, recoverable, claimed⟩
      · exact ⟨y, hy, recoverable, claimed⟩

/-- A settlement that did not return `True` leaves it so. -/
theorem settle_awaits {s : SettleConfirmedArgs} {jobEmpty : Bool} {r : Except String Bool}
    (keep : w.leavesOpen a) (h : db.Awaits a)
    (hx : w.execute .settle (.settleConfirmed s jobEmpty) db = (z, r)) (hr : r ≠ .ok true) :
    z.Awaits a := by
  have moved := keep .settle db h
  cases r with
  | error x =>
      rw [Interleaving.execute_error hx]
      exact moved
  | ok b =>
      obtain ⟨r, executed, granted⟩ := Interleaving.execute_ok hx
      cases b with
      | true => exact absurd rfl hr
      | false =>
      rcases execute_ok executed with ⟨e, y', he, hs, rfl⟩ | ⟨-, ⟨-, rfl⟩ | ⟨k, q, hk, -, rfl⟩⟩
      · obtain ⟨hm, -⟩ := Db.addressed_eq_some.mp he
        cases hs with
        | kept =>
            rw [Db.setRows_same hm]
            exact moved
        | beside hb => cases hb
        | terminationSettled => cases granted
      · exact moved
      · cases hk

theorem read_awaits {α : Type} {f : Db → α} {r : Except String α} (keep : w.leavesOpen a)
    (h : db.Awaits a) (hx : w.read p f db = (z, r)) : z.Awaits a := by
  have same := w.read_fst p f db
  rw [hx] at same
  rw [show z = w.moves p db from same]
  exact keep p db h

/-- Nothing of the outcome was confirmed. -/
def Unconfirmed (r : Except String CancellationOutcome) : Prop := ∀ o, r = .ok o → o.confirmed = false

variable {r : Except String CancellationOutcome}

theorem settlePreDispatchAmong_awaits (keep : w.leavesOpen a) (h : db.Awaits a)
    (hx : settlePreDispatchAmong w c e db = (z, r)) : z.Awaits a := by
  unfold settlePreDispatchAmong at hx
  split at hx <;> rename_i d _ hd
  · cases hx
    exact settle_awaits keep h hd nofun
  · cases hx
    refine settle_awaits keep h hd ?_
    rw [(Interleaving.execute_anonymous rfl hd).1]
    nofun

theorem settleNoProcessAmong_awaits (keep : w.leavesOpen a) (h : db.Awaits a)
    (hx : settleNoProcessAmong w c executionId e db = (z, r)) : z.Awaits a := by
  unfold settleNoProcessAmong at hx
  split at hx <;> rename_i d _ hd
  · cases hx
    exact settle_awaits keep h hd nofun
  · cases hx
    refine settle_awaits keep h hd ?_
    rw [(Interleaving.execute_anonymous rfl hd).1]
    nofun

theorem cancelProcessAmong_awaits (keep : w.leavesOpen a) (stopped : w.env.taskStopped = true)
    (h : db.Awaits a)
    (hx : cancelProcessAmong w c executionId back ownership identity db = (z, r))
    (hr : Unconfirmed r) : z.Awaits a := by
  simp only [cancelProcessAmong] at hx
  split at hx
  · rename_i d x hd
    cases hx
    unfold settleProcessAmong at hd
    split at hd
    · split at hd <;> rename_i d' _ hd' <;> cases hd
      exact settle_awaits keep h hd' (by rintro ⟨⟩)
    · cases hd
    · cases hd
  · rename_i d settled error hd
    cases hx
    have unsettled := hr _ rfl
    rw [finalReason_fst]
    refine keep .readFinal d ?_
    unfold settleProcessAmong at hd
    split at hd
    · rename_i status i hc
      split at hd
      · cases hd
      rename_i d' settled hd'
      simp only [Prod.mk.injEq, Except.ok.injEq] at hd
      obtain ⟨rfl, rfl, -⟩ := hd
      refine settle_awaits keep h hd' fun granted => ?_
      cases granted
      simp [CancellationOutcome.confirmed, stopped, hc] at unsettled
    · cases hd
      exact h
    · cases hd
      exact h

theorem settleRevokedAmong_awaits {identityError : Option String} (keep : w.leavesOpen a)
    (stopped : w.env.taskStopped = true) (h : db.Awaits a)
    (hx : settleRevokedAmong w c executionId back ownership identityError db = (z, r))
    (hr : Unconfirmed r) : z.Awaits a := by
  have moved : (readIdentityAmong w c executionId ownership db).1.Awaits a := by
    unfold readIdentityAmong
    split
    · exact h
    · split <;> (rename_i hd; exact read_awaits keep h hd)
  unfold settleRevokedAmong at hx
  simp only at hx
  split at hx
  · exact settleNoProcessAmong_awaits keep moved hx
  split at hx
  · cases hx
    exact moved
  · exact cancelProcessAmong_awaits keep stopped moved hx hr

theorem afterRevocationAmong_awaits (keep : w.leavesOpen a) (stopped : w.env.taskStopped = true)
    (h : db.Awaits a) (hx : afterRevocationAmong w c executionId db = (z, r))
    (hr : Unconfirmed r) : z.Awaits a := by
  unfold afterRevocationAmong at hx
  split at hx <;> rename_i d _ hd
  · cases hx
    exact read_awaits keep h hd
  have first := read_awaits keep h hd
  split at hx
  · exact settlePreDispatchAmong_awaits keep first hx
  split at hx <;> rename_i d' _ hd'
  · exact settleRevokedAmong_awaits keep stopped (read_awaits keep first hd') hx hr
  · exact settleRevokedAmong_awaits keep stopped (read_awaits keep first hd') hx hr

/-- A claimed execution whose cancellation is not confirmed still awaits its recovery. -/
theorem unconfirmed_awaits (keep : w.leavesOpen a) (stopped : w.env.taskStopped = true)
    (h : db.Awaits a) (hx : cancelAmong w c db = (z, r)) (hr : Unconfirmed r) : z.Awaits a := by
  unfold cancelAmong at hx
  split at hx
  · cases hx
    exact h
  split at hx <;> rename_i d _ hd <;> have first := read_awaits keep h hd
  · cases hx
    exact first
  · unfold cancelAbsentAmong at hx
    split at hx <;> rename_i d' _ hd' <;> cases hx <;> exact revoke_awaits keep first hd'
  · split at hx
    · cases hx
      exact first
    split at hx
    · unfold cancelEndedAmong at hx
      simp only at hx
      split at hx <;> rename_i d' _ hd' <;> cases hx <;> exact revoke_awaits keep first hd'
    · unfold cancelActiveAmong at hx
      split at hx <;> rename_i d' hd'
      · cases hx
        exact revoke_awaits keep first hd'
      · cases hx
        exact revoke_awaits keep first hd'
      · exact afterRevocationAmong_awaits keep stopped (revoke_awaits keep first hd') hx hr

namespace Sample

/-- The launch of an attested process. -/
def attested : TransitionOwnershipArgs :=
  { launch with
    record :=
      { launch.record with
        rootProcessStartToken := some "posix:0000-0000:77"
        identityAttestation := some ⟨"attestation", .posix
          { bootId := "0000-0000"
            rootStartTicks := 77
            sessionId := 4242
            processGroupId := 4242
            workerGeneration := "generation-a"
            verified := true
            memberSnapshot := [⟨4242, 4242, 4242, "posix:0000-0000:77"⟩] }⟩ } }

/-- A governed process. -/
def underway : List (Instant × Operation) :=
  claimed ++ [(seconds 3, .call (.transitionOwnership attested))]

/-- An operating system under which nothing is left of it. -/
def quiet : Kernel where
  windows := false
  pidExists := fun _ => false
  processGroupExists := fun _ => false
  processSessionExists := fun _ => false
  captureIdentity := fun _ _ => none
  identityMatches := fun _ => false
  processGroupIdentityMatches := fun _ => false
  killProcessTree := fun _ _ _ => false
  readAttestation := fun _ => none
  attestedJob := fun _ => none

/-- Between the coordinator's first read and its revocation the request is approved and claimed. -/
def racing : Interleaving gateway where
  env := coordinator
  clock := fun _ => seconds 5
  raises := fun _ => none
  moves := fun p d =>
    if p = .revoke then
      d.afterAll gateway
        [(seconds 1, .approveRequest approval), (seconds 2, .call (.claimAuthority claim))]
    else d
  moved := fun p d => by
    by_cases race : p = .revoke
    · rw [if_pos race]
      exact ⟨_, run_afterAll d _⟩
    · rw [if_neg race]
      exact .refl d

end Sample

end CyberAssess
