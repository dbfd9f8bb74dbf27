import CyberAssess.Service.Coordinator
import CyberAssess.Service.ReaperPass

/-!
# Guarantees — cancellation without a process

Neither the coordinator nor the reaper closes an execution that has no process: both settle it
without a worker identity, and `settle_execution_after_confirmed_termination` then returns `False`
before it reads a row.

* `Rows.Closed` is what a cancellation should leave, `Rows.withoutProcess` where it starts.
* `cancelRequest_unconfirmed`: the coordinator reports a required recovery, and the ownership row
  stays.
* `reapExecutionAuthorityOnce_run`: a pass leaves the run.
* `cancellation_never_completes`: the two, for every such execution.
-/

namespace CyberAssess

/-- The run, its dispatch and its process ownership have ended. -/
structure Rows.Closed (x : Rows) : Prop where
  run : x.run.state.isTerminal = true
  dispatch : x.dispatch.state.isTerminal = true
  ownership : x.ownership.ownershipState = .terminal

/-- Not dispatched yet, or started without a process. -/
def Rows.withoutProcess (x : Rows) : Bool :=
  (x.run.state = .requested && x.dispatch.state = .pending) ||
    (x.ownership.ownershipState = .noExternalProcess && x.run.state = .starting)

/-- `cancel_request` confirms the cancellation, and the execution is closed. -/
def CancelCompletes (env : CancellationEnv) (c : RevokeRequestArgs) (db : Db) (e : Execution) :
    Prop :=
  ∃ o z y, cancelRequest env c db = .ok (o, z) ∧ o.confirmed = true ∧
    ⟨e.fixed, y⟩ ∈ z.executions ∧ y.Closed

/-- A pass of the reaper leaves the execution closed. -/
def ReaperCompletes (env : ReaperEnv) (db : Db) (e : Execution) : Prop :=
  ∃ y, ⟨e.fixed, y⟩ ∈ (reapExecutionAuthorityOnce env db).db.executions ∧ y.Closed

/-- The run of an execution without a process has not ended. -/
theorem open_of_withoutProcess {x : Rows} (h : x.withoutProcess = true) :
    x.run.state.isTerminal = false := by
  simp only [Rows.withoutProcess, Bool.or_eq_true, Bool.and_eq_true, decide_eq_true_eq] at h
  rcases h with ⟨hs, -⟩ | ⟨-, hs⟩ <;> rw [hs] <;> rfl

variable {db z : Db} {e : Execution} {o : CancellationOutcome} {c : RevokeRequestArgs}

/-! ### The coordinator -/

/-- What is not settled is not confirmed. -/
theorem unconfirmed_of_unsettled (h : o.durableTerminal = false) : o.confirmed = false := by
  rw [CancellationOutcome.confirmed, h, Bool.and_false, Bool.false_and]

theorem settlePreDispatch_unconfirmed {env : CancellationEnv} {requestId organizationId : String}
    (h : settlePreDispatch env requestId organizationId e db = .ok (o, z)) :
    o.confirmed = false ∧ z = db := by
  rw [settlePreDispatch, coordinatorSettlement, settleConfirmed_anonymous rfl] at h
  cases h
  exact ⟨unconfirmed_of_unsettled rfl, rfl⟩

theorem settleNoProcess_unconfirmed {env : CancellationEnv} {requestId organizationId : String}
    (h : settleNoProcess env requestId organizationId e db = .ok (o, z)) :
    o.confirmed = false ∧ z = db := by
  rw [settleNoProcess, coordinatorSettlement, settleConfirmed_anonymous rfl] at h
  cases h
  exact ⟨unconfirmed_of_unsettled rfl, rfl⟩

/-- What the revocation leaves of an execution without a process: cancelled before dispatch, or
started as before; the ownership row stays. -/
theorem revoked_withoutProcess {x : Rows} (now : Instant) (h : x.withoutProcess = true) :
    let y := (x.requestRevoked now).cancelBeforeDispatch now
    y.ownership = x.ownership ∧
      ((y.run.state = .cancelled ∧ y.run.reasonCode = some .executionCancelledBeforeDispatch) ∨
        (y.ownership.ownershipState = .noExternalProcess ∧ y.run.state = .starting)) := by
  simp only [Rows.withoutProcess, Bool.or_eq_true, Bool.and_eq_true, decide_eq_true_eq] at h
  intro y
  have dispatch : (x.requestRevoked now).dispatch.state = x.dispatch.state := rfl
  have run : (x.requestRevoked now).run = x.run := rfl
  rcases h with ⟨hr, hd⟩ | ⟨ho, hr⟩
  · have cancelled : y = (x.requestRevoked now).cancelBeforeDispatch now := rfl
    rw [Rows.cancelBeforeDispatch, if_pos (dispatch.trans hd), run, if_pos hr] at cancelled
    rw [cancelled]
    exact ⟨rfl, Or.inl ⟨rfl, rfl⟩⟩
  · have kept : y.ownership = x.ownership ∧ y.run = x.run := by
      change ((x.requestRevoked now).cancelBeforeDispatch now).ownership = _ ∧
        ((x.requestRevoked now).cancelBeforeDispatch now).run = _
      rw [Rows.cancelBeforeDispatch]
      split
      · rw [run, if_neg (by rw [hr]; nofun)]
        exact ⟨rfl, rfl⟩
      · exact ⟨rfl, rfl⟩
    refine ⟨kept.1, Or.inr ⟨?_, ?_⟩⟩
    · rw [kept.1, ho]
    · rw [kept.2, hr]

/-- The revocation of an execution's request, through the database. -/
theorem execute_revokeRequest {now : Instant} {r : Response} (he : e ∈ db.executions)
    (hr : c.requestId = e.fixed.request.id)
    (ho : c.organizationId = e.fixed.request.organizationId)
    (h : db.execute (.revokeRequest c) now = .ok (r, z)) :
    (r.granted = false ∧ z = db) ∨ (r.granted = true ∧
      z = db.setRows e ((e.data.requestRevoked now).cancelBeforeDispatch now)) := by
  have found : db.addressed (.revokeRequest c) = some e :=
    Db.addressed_eq_some.mpr ⟨he, by rw [ExecutionCall.key, hr]; rfl, ho.symm⟩
  rw [Db.execute_found found] at h
  obtain ⟨⟨s, y⟩, hy, hz⟩ := Checked.map_ok.mp h
  cases hz
  obtain ⟨⟨b, y'⟩, hb, hs⟩ := Checked.map_ok.mp hy
  cases hs
  rcases revokeExecutionRequest_ok hb with ⟨rfl, rfl⟩ | ⟨-, rfl, rfl⟩
  · exact Or.inl ⟨rfl, Db.setRows_same he⟩
  · exact Or.inr ⟨rfl, rfl⟩

/-- **The coordinator never confirms a cancellation without a process.** -/
theorem cancelRequest_unconfirmed {env : CancellationEnv} (he : e ∈ db.executions)
    (hx : e.data.withoutProcess = true) (hr : c.requestId = e.fixed.request.id)
    (ho : c.organizationId = e.fixed.request.organizationId)
    (h : cancelRequest env c db = .ok (o, z)) :
    o.confirmed = false ∧ ∀ y, ⟨e.fixed, y⟩ ∈ z.executions → y.ownership = e.data.ownership := by
  have unchanged : ∀ y : Rows, ⟨e.fixed, y⟩ ∈ db.executions → y.ownership = e.data.ownership := by
    intro y hy
    have := Relational.Table.eq_of_key_eq hy he .request rfl
    exact congrArg (·.data.ownership) this
  have open_run := open_of_withoutProcess hx
  unfold cancelRequest at h
  split at h
  · cases h
    exact ⟨rfl, unchanged⟩
  rw [hr, ho, Db.executionRunForRequest_self he] at h
  simp only [open_run, Bool.false_eq_true, if_false] at h
  split at h
  · cases h
    exact ⟨rfl, unchanged⟩
  unfold cancelActive at h
  simp only at h
  split at h
  · cases h
    exact ⟨rfl, unchanged⟩
  rename_i r d hd
  rcases execute_revokeRequest he hr ho hd with ⟨hg, rfl⟩ | ⟨hg, rfl⟩
  · rw [hg] at h
    cases h
    exact ⟨rfl, unchanged⟩
  · obtain ⟨kept, left⟩ := revoked_withoutProcess env.now hx
    have found := Db.executionRun_self
      ((Db.mem_setRows_self (y := (e.data.requestRevoked env.now).cancelBeforeDispatch env.now)
        he).mpr rfl)
    have written : ∀ y : Rows, ⟨e.fixed, y⟩ ∈
        (db.setRows e ((e.data.requestRevoked env.now).cancelBeforeDispatch env.now)).executions →
          y.ownership = e.data.ownership := by
      intro y hy
      rw [(Db.mem_setRows_self he).mp hy, kept]
    simp only [hg, Bool.not_true, Bool.false_eq_true, if_false, ho, found] at h
    unfold afterRevocation at h
    -- The revocation cancelled the run before dispatch, or left a run that started.
    split at h
    · obtain ⟨hc, rfl⟩ := settlePreDispatch_unconfirmed h
      exact ⟨hc, written⟩
    rename_i hn
    rcases left with left | left
    · exact absurd left hn
    rw [if_pos left] at h
    obtain ⟨hc, rfl⟩ := settleNoProcess_unconfirmed h
    exact ⟨hc, written⟩

/-! ### The reaper -/

/-- A write on ownership and recovery leaves the run. -/
theorem write_beside_run {env : ReaperEnv} {p : Pass} {k : ExecutionCall} {y : Rows}
    (he : e ∈ p.db.executions) (hk : k.key = (.execution, e.fixed.run.executionId))
    (ho : k.organizationId = e.fixed.request.organizationId) (hb : k.isBeside = true)
    (h : ⟨e.fixed, y⟩ ∈ (p.write env k).2.db.executions) : y.run = e.data.run := by
  rw [Pass.write_found he hk ho] at h
  split at h
  · rename_i r x hx
    rw [(Db.mem_setRows_self he).mp h]
    cases apply_effect hx with
    | kept => rfl
    | beside _ hs => exact hs.run
    | _ => cases hb
  · exact congrArg (·.data.run) (Relational.Table.eq_of_key_eq h he .request rfl)

variable {env : ReaperEnv} {p : Pass} {k : Candidate} {y : Rows}

/-- The run of a pass that has not touched the execution. -/
theorem run_of_mem (he : e ∈ p.db.executions) (h : ⟨e.fixed, y⟩ ∈ p.db.executions) :
    y.run = e.data.run :=
  congrArg (·.data.run) (Relational.Table.eq_of_key_eq h he .request rfl)

/-- An execution that is not claimed has no recovery lease. -/
theorem claimRecovery_pending {now : Instant} {r : ClaimRecoveryArgs} {a : Authority} {x : Rows}
    (h : x.dispatch.state = .pending) : CyberAssess.claimRecovery r now a x = .ok (none, x) := by
  have unbound : recoveryBinding a x = false := by
    rw [recoveryBinding, h]
    simp
  unfold CyberAssess.claimRecovery
  split
  · rfl
  · rw [unbound]
    rfl

theorem reapUncertain_run (he : e ∈ p.db.executions) (hd : e.data.dispatch.state = .pending)
    (h : ⟨e.fixed, y⟩ ∈
      (reapUncertain env (candidateOf p.db.revokedTokens e) p).db.executions) :
    y.run = e.data.run := by
  unfold reapUncertain at h
  split at h
  · exact run_of_mem he h
  rw [Pass.write_found he rfl rfl] at h
  simp only [ExecutionCall.apply, claimRecovery_pending hd] at h
  change ⟨e.fixed, y⟩ ∈ (p.db.setRows e e.data).executions at h
  rw [Db.setRows_same he] at h
  exact run_of_mem he h

/-- A confirmed termination closes only a claimed or blocked dispatch. -/
theorem settle_pending_run {i : IdentityArgs} {g w : Option String} {o : RunState × ReasonCode}
    {status : TerminationStatus} (hs : status.isProcess = true) (he : e ∈ p.db.executions)
    (hk : k.executionId = e.fixed.run.executionId)
    (ho : k.organizationId = e.fixed.request.organizationId)
    (hd : e.data.dispatch.state = .pending)
    (h : ⟨e.fixed, y⟩ ∈ (p.close env (reaperSettlement env k o status i g w)).db.executions) :
    y.run = e.data.run := by
  have key : (reaperSettlement env k o status i g w).key
      = (.execution, e.fixed.run.executionId) := by rw [← hk]; rfl
  have tenant : (reaperSettlement env k o status i g w).organizationId
      = e.fixed.request.organizationId := ho
  rw [(Pass.close_eq env _ p).1, Pass.write_found he key tenant] at h
  split at h
  · rename_i r x hx
    rw [(Db.mem_setRows_self he).mp h]
    cases apply_effect hx with
    | kept => rfl
    | beside hb => cases hb
    | terminationSettled t hc hg hb hn hsettle =>
        simp only [confirmedSettleable, hs, if_true, processSettleable, hd, Bool.and_eq_true,
          Bool.or_eq_true, decide_eq_true_eq, reduceCtorEq, or_self, and_false, false_and] at hsettle
  · exact run_of_mem he h

/-- A reply that confirms is about a process. -/
theorem confirmed_isProcess {s : CancellationStatus} {status : TerminationStatus}
    (h : s.confirmed = some status) : status.isProcess = true := by
  cases s <;> cases h <;> rfl

theorem recordUnconfirmed_run {i : Option ProcessIdentity} {status outcome error : String}
    (he : e ∈ p.db.executions) (hk : k.executionId = e.fixed.run.executionId)
    (ho : k.organizationId = e.fixed.request.organizationId)
    (h : ⟨e.fixed, y⟩ ∈ (recordUnconfirmed env k i status outcome error p).db.executions) :
    y.run = e.data.run := by
  cases i with
  | none => exact run_of_mem he h
  | some i =>
      refine write_beside_run he ?_ ?_ rfl h
      · rw [← hk]
        rfl
      · exact ho

/-- The supervisor's branch leaves the run of an execution that is not claimed, or has no
identity. -/
theorem reapProcess_run {i : Option ProcessIdentity} {g : Option String}
    (he : e ∈ p.db.executions) (hk : k.executionId = e.fixed.run.executionId)
    (ho : k.organizationId = e.fixed.request.organizationId)
    (hd : e.data.dispatch.state = .pending ∨ i = none)
    (h : ⟨e.fixed, y⟩ ∈ (reapProcess env k i g p).db.executions) : y.run = e.data.run := by
  unfold reapProcess at h
  split at h
  · exact run_of_mem he h
  have same : (p.cancel env k.executionId i).2.db = p.db := rfl
  split at h
  all_goals
    rename_i q hq
    rw [hq] at same
    have heq : e ∈ q.db.executions := by rw [same]; exact he
  · exact recordUnconfirmed_run heq hk ho h
  · exact run_of_mem heq h
  · split at h
    · exact recordUnconfirmed_run heq hk ho h
    · exact run_of_mem heq h
    · rename_i status i hs
      rcases hd with hd | hd
      · exact settle_pending_run (confirmed_isProcess hs) heq hk ho hd h
      · cases hd

/-- The turn of an execution without a process leaves its run. -/
theorem reapCandidate_run (he : e ∈ p.db.executions) (hx : e.data.withoutProcess = true)
    (h : ⟨e.fixed, y⟩ ∈
      (reapCandidate env (candidateOf p.db.revokedTokens e) p).db.executions) :
    y.run = e.data.run := by
  simp only [Rows.withoutProcess, Bool.or_eq_true, Bool.and_eq_true, decide_eq_true_eq] at hx
  have pending_or : e.data.dispatch.state = .pending ∨
      loadDurableProcessIdentity env.attestedJob env.now e.fixed e.data = none := by
    rcases hx with ⟨-, hd⟩ | ⟨ho, -⟩
    · exact Or.inl hd
    · exact Or.inr (loadDurableProcessIdentity_none (by rw [ho]; rfl))
  unfold reapCandidate at h
  split at h
  · rename_i hn
    rcases hx with ⟨-, hd⟩ | ⟨ho, -⟩
    · exact reapUncertain_run he hd h
    · change needsRecovery e.data.ownership.ownershipState = true at hn
      rw [ho] at hn
      cases hn
  have found : p.db.executionRun (candidateOf p.db.revokedTokens e).executionId
      (candidateOf p.db.revokedTokens e).organizationId = some e := Db.executionRun_self he
  simp only [found, Option.bind_some] at h
  split at h
  · rw [reapPreDispatch_eq] at h
    exact run_of_mem he h
  split at h
  · rw [reapNoProcess_eq] at h
    exact run_of_mem he h
  split at h
  · exact write_beside_run he rfl rfl rfl h
  · exact reapProcess_run he rfl rfl pending_or h

/-- **A pass leaves the run of an execution without a process.** -/
theorem reapExecutionAuthorityOnce_run (he : e ∈ db.executions)
    (hx : e.data.withoutProcess = true)
    (h : ⟨e.fixed, y⟩ ∈ (reapExecutionAuthorityOnce env db).db.executions) :
    y.run = e.data.run := by
  by_cases hb : e ∈ recoveryBatch env.batchSize env.now db
  · obtain ⟨p, hp, ht, -, hr, -⟩ := reapExecutionAuthorityOnce_selected hb
    rw [← ht] at hr
    exact reapCandidate_run hp hx ((hr y).mp h)
  · exact run_of_mem (p := reapExecutionAuthorityOnce env db)
      (reapExecutionAuthorityOnce_unselected he hb).1 h

/-! ### The two together -/

/-- **Cancellation without a process never completes**: the coordinator does not confirm it, and no
pass of the reaper closes it. -/
theorem cancellation_never_completes {db : Db} {e : Execution} (he : e ∈ db.executions)
    (hx : e.data.withoutProcess = true) :
    (∀ (env : CancellationEnv) (c : RevokeRequestArgs), c.requestId = e.fixed.request.id →
      c.organizationId = e.fixed.request.organizationId → ¬ CancelCompletes env c db e) ∧
    ∀ env : ReaperEnv, ¬ ReaperCompletes env db e := by
  constructor
  · rintro env c hr ho ⟨o, z, y, hz, hc, -, -⟩
    rw [(cancelRequest_unconfirmed he hx hr ho hz).1] at hc
    cases hc
  · rintro env ⟨y, hy, hclosed⟩
    have ended := hclosed.run
    rw [reapExecutionAuthorityOnce_run he hx hy, open_of_withoutProcess hx] at ended
    cases ended

/-- A coordinator whose tasks stop at once. -/
def Sample.coordinator : CancellationEnv where
  now := seconds 5
  taskStopped := true
  attestedJob := fun _ => false
  jobEmpty := false
  cancelExecution := fun _ _ => .status .notFound
  attemptId := "attempt-a"

/-- The administrator cancels the request. -/
def Sample.withdrawal : RevokeRequestArgs := ⟨"req-a", "org-a", "admin-a"⟩

/-- An execution that is approved and not dispatched. -/
theorem cancellation_never_completes_approved :
    ∃ e ∈ (Sample.tenant.afterAll Sample.gateway Sample.approved).executions,
      e.data.run.state = .requested ∧ e.data.dispatch.state = .pending ∧
      ¬ CancelCompletes Sample.coordinator Sample.withdrawal
        (Sample.tenant.afterAll Sample.gateway Sample.approved) e := by
  obtain ⟨e, he, hr, hd, hx, hq, ho⟩ :
      ∃ e ∈ (Sample.tenant.afterAll Sample.gateway Sample.approved).executions.rows,
        e.data.run.state = .requested ∧ e.data.dispatch.state = .pending ∧
        e.data.withoutProcess = true ∧ "req-a" = e.fixed.request.id ∧
        "org-a" = e.fixed.request.organizationId := by
    decide +kernel
  exact ⟨e, he, hr, hd, (cancellation_never_completes he hx).1 _ _ hq ho⟩

/-- Its cancellation revokes it and cancels the run, and is not confirmed: the ownership row stays
`UNKNOWN`. -/
theorem approved_cancellation_unconfirmed :
    ¬ ∀ (g : Gateway) (db : Db), db.Reachable g → ∀ e ∈ db.executions,
      e.data.withoutProcess = true → ∀ (env : CancellationEnv) (c : RevokeRequestArgs),
        c.requestId = e.fixed.request.id → c.organizationId = e.fixed.request.organizationId →
          CancelCompletes env c db e := by
  intro h
  obtain ⟨e, he, hx, hq, ho⟩ :
      ∃ e ∈ (Sample.tenant.afterAll Sample.gateway Sample.approved).executions.rows,
        e.data.withoutProcess = true ∧ "req-a" = e.fixed.request.id ∧
        "org-a" = e.fixed.request.organizationId := by
    decide +kernel
  obtain ⟨o, z, -, hz, hc, -⟩ := h _ _ (reachable_afterAll Sample.initial Sample.approved) e he hx
    Sample.coordinator Sample.withdrawal hq ho
  have unconfirmed : (cancelRequest Sample.coordinator Sample.withdrawal
      (Sample.tenant.afterAll Sample.gateway Sample.approved)).toOption.map (·.1.confirmed)
        = some false := by
    decide +kernel
  rw [hz] at unconfirmed
  change some o.confirmed = some false at unconfirmed
  rw [hc] at unconfirmed
  cases unconfirmed

end CyberAssess
