import CyberAssess.Service.ReaperPass

/-!
# Guarantees — the reaper and live authority

A pass should leave an execution alone whose authority is live.  The selection's last alternative
takes it in all the same: an `UNKNOWN` or governed row is selected whenever its recovery is due.

* `authorityLive` is the state, `ReaperActs` what a pass must not do in it.
* `selected_of_live`: for such an execution the `WHERE` is `recoveryDue` alone.
* `reaperReaches`: what the turn of a selected execution does to it.
* `reaper_spares_live`: a pass leaves it alone exactly where it is not in the batch, or its turn
  does nothing.
* `starting_execution_reaped`: a worker that is between its claim and its launch gets an attempt.
-/

namespace CyberAssess

open Checked (ensure)

/-- The authority of an execution is live: approved, neither revoked nor expired, dispatched under
a lease or not yet, and its process governed or not yet launched. -/
def authorityLive (revokedTokens : List String) (now : Instant) (a : Authority) (x : Rows) : Bool :=
  x.request.state = .authorized && a.decision.approvalState = .approved &&
    x.decision.revokedAt.isNone && now < x.decision.expiresAt &&
    !a.sessionRevoked revokedTokens &&
    (x.dispatch.state = .pending ||
      (x.dispatch.state = .claimed && leaseHeld now x.dispatch.leaseExpiresAt)) &&
    !x.run.state.isTerminal &&
    (x.ownership.ownershipState = .unknown || x.ownership.ownershipState = .externalProcessGoverned)

/-- A pass writes the rows of the execution, or calls the supervisor on it. -/
def ReaperActs (env : ReaperEnv) (db : Db) (e : Execution) : Prop :=
  e ∉ (reapExecutionAuthorityOnce env db).db.executions ∨
    ∃ s ∈ (reapExecutionAuthorityOnce env db).cancellations,
      s.executionId = e.fixed.run.executionId

/-! ### The selection -/

/-- The recovery row has no lease and is not exhausted, and its retry is due. -/
def recoveryDue (now : Instant) (s : RecoveryRow) : Bool :=
  s.status ≠ .inProgress && s.status ≠ .exhausted && retryDue now s

variable {revokedTokens : List String} {now : Instant} {a : Authority} {x : Rows}

/-- Live authority is not lost. -/
theorem not_lost_of_live (h : authorityLive revokedTokens now a x = true)
    (hx : x.request.expiresAt = x.decision.expiresAt) :
    authorityLost revokedTokens now a x = false := by
  simp only [authorityLive, Bool.and_eq_true, Bool.or_eq_true, decide_eq_true_eq,
    Bool.not_eq_true'] at h
  obtain ⟨⟨⟨⟨⟨⟨⟨hq, ha⟩, hv⟩, hd⟩, hs⟩, hdis⟩, -⟩, -⟩ := h
  have lease : (x.dispatch.state = .claimed && x.dispatch.leaseExpiresAt.all (· ≤ now))
      = false := by
    rcases hdis with hp | ⟨hc, hl⟩
    · rw [hp]
      rfl
    · cases hx : x.dispatch.leaseExpiresAt with
      | none => rw [hx] at hl; cases hl
      | some t =>
          rw [hx] at hl
          have held : now < t := by simpa [leaseHeld] using hl
          simp only [Option.all_some, hc, decide_true, Bool.true_and, decide_eq_false_iff_not]
          exact not_le.mpr held
  have revoked : x.decision.revokedAt.isSome = false := by
    cases hx : x.decision.revokedAt with
    | none => rfl
    | some t => rw [hx] at hv; cases hv
  simp only [authorityLost, lease, revoked, hs, hq, ha, hx, Bool.or_false, Bool.or_self,
    ne_eq, not_true_eq_false, decide_false, Bool.false_or, decide_eq_false_iff_not]
  exact not_le.mpr hd

/-- **The `WHERE` of live authority.**  Nothing is left of it but the recovery row. -/
theorem selected_of_live (h : authorityLive revokedTokens now a x = true)
    (hx : x.request.expiresAt = x.decision.expiresAt) :
    isRecoveryCandidate revokedTokens now a x = recoveryDue now x.recovery := by
  have lost := not_lost_of_live h hx
  simp only [authorityLive, Bool.and_eq_true, Bool.or_eq_true, decide_eq_true_eq,
    Bool.not_eq_true'] at h
  obtain ⟨⟨-, hr⟩, ho⟩ := h
  have fenced : needsRecovery x.ownership.ownershipState = false := by
    rcases ho with ho | ho <;> rw [ho] <;> rfl
  have unsettled : ownershipUnsettled x.ownership.ownershipState = true := by
    rcases ho with ho | ho <;> rw [ho] <;> rfl
  simp only [isRecoveryCandidate, recoveryDue, hr, lost, fenced, unsettled, Bool.not_false,
    Bool.false_and, Bool.or_false, Bool.false_or, Bool.true_and]
  cases h₁ : decide (x.recovery.status ≠ .inProgress) <;>
    cases h₂ : decide (x.recovery.status ≠ .exhausted) <;>
      cases h₃ : retryDue now x.recovery <;> rfl

/-! ### Expiries -/

/-- A reachable request expires with its decision. -/
theorem expiries_agree {g : Gateway} {db : Db} (h : db.Reachable g) :
    ∀ e ∈ db.executions, e.data.request.expiresAt = e.data.decision.expiresAt := by
  refine reachable_executions (I := fun e => e.data.request.expiresAt = e.data.decision.expiresAt)
    (g := g) (C := fun _ _ => True) ?_ ?_ (h.mono fun _ _ _ hs => ⟨trivial, hs⟩)
  · intro d ev e y _ he hs
    cases hs with
    | untouched => exact he
    | called _ _ _ hc =>
        obtain ⟨hq, hd⟩ := hc.expiries
        exact hq.trans (he.trans hd.symm)
    | sessionRevoked => exact (revoked_expiries ..).trans he
    | parentMoved =>
        unfold Rows.parentMoved
        split
        · exact (revoked_expiries ..).trans he
        · rfl
        · exact he
        · exact he
  · intro d ev e he
    obtain ⟨-, t, w, r, now, hd⟩ := he.fresh
    rw [hd]
    rfl

/-! ### The recorder -/

variable {env : ReaperEnv} {db : Db} {e : Execution} {p : Pass}

/-- The id `record_unavailable_governed_recovery` gives the next attempt. -/
def unavailableAttemptId (e : Execution) : String :=
  "recovery-identity-unavailable-" ++ e.fixed.run.executionId ++ "-" ++
    toString (e.data.recovery.attemptNumber + 1)

/-- What the reaper records for an execution without an identity. -/
def unavailableOf (env : ReaperEnv) (e : Execution) : UnavailableRecoveryArgs :=
  identityUnavailable env (candidateOf [] e)

/-- The recorder takes it: its arguments are bounded, the rows are bound, and the attempt's id is
not taken. -/
def recorderAccepts (env : ReaperEnv) (e : Execution) : Bool :=
  (unavailableOf env e).complete && unavailableRecordable (unavailableOf env e) e.fixed e.data &&
    e.data.attempts.all (·.attemptId ≠ unavailableAttemptId e)

/-- The retry of an observation fits its status. -/
theorem identityUnavailable_check (env : ReaperEnv) (k : Candidate) :
    (identityUnavailable env k).check = .ok () := by
  unfold UnavailableRecoveryArgs.check
  split
  · rfl
  · simp only [identityUnavailable, reaperObservation, retryAt]
    split <;> rfl

/-- A retry is given up, or lies ahead. -/
theorem retryAt_cases (n : Nat) (now : Instant) :
    retryAt n now = (.exhausted, none) ∨ ∃ t, now < t ∧ retryAt n now = (.deferred, some t) := by
  unfold retryAt
  split
  · exact Or.inl rfl
  · refine Or.inr ⟨_, ?_, rfl⟩
    have positive : 0 < 5 * 2 ^ min (n - 1) 6 := Nat.mul_pos (by decide) (Nat.two_pow_pos _)
    have ahead : 0 < seconds (min 300 (5 * 2 ^ min (n - 1) 6)) :=
      Nat.mul_pos (lt_min (by decide) positive) (by decide)
    exact Nat.lt_add_of_pos_right ahead

/-- An observation that is due again is not the one stored. -/
theorem not_holds_of_due {s : RecoveryRow} (h : recoveryDue env.now s = true) (k : Candidate)
    (outcome error : String) : s.holds (reaperObservation env k outcome error) = false := by
  simp only [recoveryDue, Bool.and_eq_true, decide_eq_true_eq] at h
  obtain ⟨⟨-, hx⟩, hd⟩ := h
  rw [Bool.eq_false_iff]
  intro hh
  rcases retryAt_cases (k.attemptNumber + 1) env.now with hr | ⟨t, ht, hr⟩
  · simp only [RecoveryRow.holds, reaperObservation, RecoveryObservation.status, hr,
      decide_true, if_true, Bool.and_eq_true, decide_eq_true_eq] at hh
    exact hx hh.1.1.1
  · simp only [RecoveryRow.holds, reaperObservation, hr, Bool.and_eq_true,
      decide_eq_true_eq] at hh
    rw [retryDue, hh.2, Option.all_some, decide_eq_true_eq] at hd
    exact absurd ht (not_lt.mpr hd)

/-- An observation changes the rows exactly where its attempt is new. -/
theorem observe_changes (x : Rows) (o : RecoveryObservation) (a : Authority) (now : Instant)
    (attemptIdPrefix cancellationStatus reasonCode : String) (health : HealthReference) :
    (x.observe o a now attemptIdPrefix cancellationStatus reasonCode health).2 ≠ x ↔
      x.attempts.all (·.attemptId ≠ attemptIdPrefix ++ o.executionId ++ "-" ++
        toString (x.recovery.attemptNumber + 1)) = true := by
  unfold Rows.observe
  simp only
  split
  · rename_i t ht
    constructor
    · intro hn
      exact absurd rfl hn
    · intro hall
      have named := List.find?_some ht
      have unnamed := List.all_eq_true.mp hall t (List.mem_of_find?_eq_some ht)
      simp only [decide_eq_true_eq, ne_eq] at named unnamed
      exact absurd named unnamed
  · rename_i hn
    constructor
    · intro _
      rw [List.all_eq_true]
      intro t ht
      simpa using List.find?_eq_none.mp hn t ht
    · intro _ hy
      have := congrArg (·.attempts.length) hy
      simp at this

/-- The recorder changes the rows exactly where it accepts. -/
theorem recordUnavailable_changes (h : recoveryDue env.now e.data.recovery = true) :
    ∃ r y, recordUnavailableGovernedRecovery (unavailableOf env e) env.now e.fixed e.data
      = .ok (r, y) ∧ (y ≠ e.data ↔ recorderAccepts env e = true) := by
  have checked : (unavailableOf env e).check = .ok () := identityUnavailable_check ..
  have fresh : e.data.recovery.holds (unavailableOf env e).observation = false :=
    not_holds_of_due h ..
  unfold recordUnavailableGovernedRecovery
  rw [checked, fresh]
  cases hb : ((unavailableOf env e).complete &&
      unavailableRecordable (unavailableOf env e) e.fixed e.data) with
  | true =>
      refine ⟨_, _, rfl, ?_⟩
      rw [recorderAccepts, hb, Bool.true_and]
      exact observe_changes ..
  | false =>
      refine ⟨false, e.data, rfl, ?_⟩
      rw [recorderAccepts, hb, Bool.false_and]
      simp

/-! ### The turn of a live execution -/

/-- The turn of a selected execution reaches it: its process is cancelled, or an attempt is
recorded for a process without an identity.  A run that is not dispatched is left alone. -/
def reaperReaches (env : ReaperEnv) (e : Execution) : Bool :=
  match loadDurableProcessIdentity env.attestedJob env.now e.fixed e.data with
  | some _ => !env.cancellationPending e.fixed.run.executionId
  | none =>
      !(e.data.ownership.ownershipState = .unknown && e.data.run.state = .requested &&
        e.data.dispatch.state = .pending) && recorderAccepts env e

variable {k : Candidate}

theorem recordUnconfirmed_cancellations {i : Option ProcessIdentity}
    {status outcome error : String} :
    (recordUnconfirmed env k i status outcome error p).cancellations = p.cancellations := by
  cases i with
  | none => rfl
  | some i => exact Pass.write_cancellations

/-- A cancellation that is not pending is called. -/
theorem reapProcess_cancels {i : Option ProcessIdentity} {g : Option String}
    (h : env.cancellationPending k.executionId = false) :
    ⟨k.executionId, i⟩ ∈ (reapProcess env k i g p).cancellations := by
  have called : (⟨k.executionId, i⟩ : SupervisorCancellation) ∈
      (p.cancel env k.executionId i).2.cancellations :=
    List.mem_append_right _ (List.mem_singleton_self _)
  unfold reapProcess
  rw [h]
  simp only [Bool.false_eq_true, if_false]
  split
  all_goals
    rename_i q hq
    rw [hq] at called
  · rw [recordUnconfirmed_cancellations]
    exact called
  · exact called
  · split
    · rw [recordUnconfirmed_cancellations]
      exact called
    · exact called
    · rw [(Pass.close_eq env _ q).2, Pass.write_cancellations]
      exact called

/-- A write keeps the execution exactly where it keeps its rows. -/
theorem mem_setRows_same {y : Rows} (he : e ∈ db.executions) :
    e ∈ (db.setRows e y).executions ↔ e.data = y := Db.mem_setRows_self he

/-- The turn of an execution whose recovery is due. -/
theorem reapCandidate_acts (he : e ∈ p.db.executions)
    (hn : ∀ s ∈ p.cancellations, s.executionId ≠ e.fixed.run.executionId)
    (ho : e.data.ownership.ownershipState = .unknown ∨
      e.data.ownership.ownershipState = .externalProcessGoverned)
    (hd : recoveryDue env.now e.data.recovery = true) :
    (e ∉ (reapCandidate env (candidateOf p.db.revokedTokens e) p).db.executions ∨
      ∃ s ∈ (reapCandidate env (candidateOf p.db.revokedTokens e) p).cancellations,
        s.executionId = e.fixed.run.executionId) ↔ reaperReaches env e = true := by
  have untouched : ¬ (e ∉ p.db.executions ∨ ∃ s ∈ p.cancellations,
      s.executionId = e.fixed.run.executionId) := by
    rintro (h | ⟨s, hs, h⟩)
    · exact h he
    · exact hn s hs h
  have state : (candidateOf p.db.revokedTokens e).ownershipState
      = e.data.ownership.ownershipState := rfl
  have fenced : needsRecovery (candidateOf p.db.revokedTokens e).ownershipState = false := by
    rw [state]
    rcases ho with ho | ho <;> rw [ho] <;> rfl
  have external : (candidateOf p.db.revokedTokens e).ownershipState ≠ .noExternalProcess := by
    rw [state]
    rcases ho with ho | ho <;> rw [ho] <;> nofun
  have found : p.db.executionRun (candidateOf p.db.revokedTokens e).executionId
      (candidateOf p.db.revokedTokens e).organizationId = some e := Db.executionRun_self he
  unfold reapCandidate
  simp only [fenced, Bool.false_eq_true, if_false, found, Option.bind_some, external, false_and]
  unfold reaperReaches
  cases hi : loadDurableProcessIdentity env.attestedJob env.now e.fixed e.data with
  | none =>
      split
      · -- Not dispatched: the settlement without a worker identity settles nothing.
        rename_i hp
        obtain ⟨hnp, hr, hdis⟩ := hp
        have unknown : e.data.ownership.ownershipState = .unknown := by
          rcases ho with ho | ho
          · exact ho
          · rw [state, ho] at hnp
            cases hnp
        have hr : e.data.run.state = .requested := hr
        have hdis : e.data.dispatch.state = .pending := hdis
        rw [reapPreDispatch_eq]
        simp only [untouched, unknown, hr, hdis, decide_true, Bool.and_self, Bool.not_true,
          Bool.false_and, Bool.false_eq_true]
      · rename_i hp
        have dispatched : (e.data.ownership.ownershipState = .unknown &&
            e.data.run.state = .requested && e.data.dispatch.state = .pending) = false := by
          rw [Bool.eq_false_iff]
          intro h
          simp only [Bool.and_eq_true, decide_eq_true_eq] at h
          refine hp ⟨?_, h.1.2, h.2⟩
          rw [state, h.1.1]
          rfl
        rw [dispatched, if_pos ⟨rfl, by rw [state]; exact ho⟩]
        obtain ⟨r, y, hw, hy⟩ := recordUnavailable_changes hd
        have written : recordIdentityUnavailable env (candidateOf p.db.revokedTokens e) p
            = { p with db := p.db.setRows e y } := by
          have call : ExecutionCall.apply p.db.revokedTokens env.now e.fixed e.data
              (.recordUnavailable (identityUnavailable env (candidateOf p.db.revokedTokens e)))
                = .ok (.done r, y) := by
            have same : identityUnavailable env (candidateOf p.db.revokedTokens e)
                = unavailableOf env e := rfl
            simp only [ExecutionCall.apply, same, hw]
            rfl
          rw [recordIdentityUnavailable, Pass.write_found he rfl rfl, call]
        rw [written, Bool.not_false, Bool.true_and, ← hy]
        constructor
        · rintro (h | ⟨s, hs, h⟩)
          · intro hye
            exact h ((mem_setRows_same he).mpr hye.symm)
          · exact absurd h (hn s hs)
        · intro h
          exact Or.inl fun hm => h ((mem_setRows_same he).mp hm).symm
  | some i =>
      have governed : e.data.ownership.ownershipState = .externalProcessGoverned := by
        rcases ho with ho | ho
        · rw [loadDurableProcessIdentity_none (by rw [ho]; rfl)] at hi
          cases hi
        · exact ho
      have running : ¬ (noProcessOwnership (candidateOf p.db.revokedTokens e).ownershipState = true
          ∧ (candidateOf p.db.revokedTokens e).runState = .requested ∧
            (candidateOf p.db.revokedTokens e).dispatchState = .pending) := by
        rintro ⟨h, -⟩
        rw [state, governed] at h
        cases h
      rw [if_neg running]
      simp only [reduceCtorEq, false_and, if_false]
      cases hc : env.cancellationPending e.fixed.run.executionId with
      | true =>
          have kept : reapProcess env (candidateOf p.db.revokedTokens e) (some i)
              e.data.ownership.workerGeneration p = p := by
            have pending : env.cancellationPending
                (candidateOf p.db.revokedTokens e).executionId = true := hc
            rw [reapProcess, pending]
            rfl
          rw [kept]
          simp only [untouched, Bool.not_true, Bool.false_eq_true]
      | false =>
          refine ⟨fun _ => rfl, fun _ => Or.inr ⟨_, reapProcess_cancels hc, rfl⟩⟩

/-- **The reaper and live authority.**  A pass leaves a live execution alone exactly where its
recovery is not due, the batch does not hold it, or its turn reaches nothing. -/
theorem reaper_spares_live {g : Gateway} (env : ReaperEnv) (h : db.Reachable g) (he : e ∈ db.executions)
    (hl : authorityLive db.revokedTokens env.now e.fixed e.data = true) :
    ¬ ReaperActs env db e ↔
      recoveryDue env.now e.data.recovery = false ∨
        e ∉ recoveryBatch env.batchSize env.now db ∨ reaperReaches env e = false := by
  have governed : e.data.ownership.ownershipState = .unknown ∨
      e.data.ownership.ownershipState = .externalProcessGoverned := by
    simp only [authorityLive, Bool.and_eq_true, Bool.or_eq_true, decide_eq_true_eq] at hl
    exact hl.2
  by_cases hb : e ∈ recoveryBatch env.batchSize env.now db
  · have due : recoveryDue env.now e.data.recovery = true := by
      rw [← selected_of_live hl (expiries_agree h e he)]
      exact (mem_recoveryBatch hb).2
    obtain ⟨p, hp, ht, hn, hr, hc⟩ := reapExecutionAuthorityOnce_selected hb
    have turn := reapCandidate_acts hp hn governed due
    rw [ht] at turn
    have acts : ReaperActs env db e ↔ reaperReaches env e = true := by
      rw [← turn, ReaperActs, hr e.data]
      refine or_congr Iff.rfl ?_
      constructor
      · rintro ⟨s, hs, heq⟩
        exact ⟨s, (hc s heq).mp hs, heq⟩
      · rintro ⟨s, hs, heq⟩
        exact ⟨s, (hc s heq).mpr hs, heq⟩
    rw [acts, due, Bool.not_eq_true]
    simp [hb]
  · obtain ⟨kept, uncalled⟩ := reapExecutionAuthorityOnce_unselected he hb
    refine iff_of_true ?_ (Or.inr (Or.inl hb))
    rintro (hm | ⟨s, hs, heq⟩)
    · exact hm kept
    · exact uncalled s hs heq

/-! ### Between the claim and the launch -/

/-- A reaper one second after the claim. -/
def Sample.reaper : ReaperEnv where
  now := seconds 3
  workerGeneration := "generation-a"
  batchSize := 10
  attestedJob := fun _ => false
  jobEmpty := fun _ => false
  cancellationPending := fun _ => false
  cancelExecution := fun _ _ => .status .notFound
  token := fun _ => "recovery-token"

/-- An execution that is approved and not dispatched is left alone: its turn reaches nothing. -/
theorem reaper_spares_live_approved :
    ∃ e ∈ (Sample.tenant.afterAll Sample.gateway Sample.approved).executions,
      reaperReaches Sample.reaper e = false ∧
        ¬ ReaperActs Sample.reaper (Sample.tenant.afterAll Sample.gateway Sample.approved) e := by
  obtain ⟨e, he, hl, hr⟩ :
      ∃ e ∈ (Sample.tenant.afterAll Sample.gateway Sample.approved).executions.rows,
        authorityLive (Sample.tenant.afterAll Sample.gateway Sample.approved).revokedTokens
            (seconds 3) e.fixed e.data = true ∧
          reaperReaches Sample.reaper e = false := by
    decide +kernel
  have reached := reachable_afterAll (g := Sample.gateway) Sample.initial Sample.approved
  exact ⟨e, he, hr, (reaper_spares_live Sample.reaper reached he hl).mpr (Or.inr (Or.inr hr))⟩

/-- A worker that holds its lease and has not launched yet gets a recovery attempt. -/
theorem starting_execution_reaped :
    ¬ ∀ (g : Gateway) (db : Db), db.Reachable g → ∀ (env : ReaperEnv), ∀ e ∈ db.executions,
      authorityLive db.revokedTokens env.now e.fixed e.data = true → ¬ ReaperActs env db e := by
  intro h
  obtain ⟨e, he, hl, ha⟩ :
      ∃ e ∈ (Sample.tenant.afterAll Sample.gateway Sample.claimed).executions.rows,
        authorityLive (Sample.tenant.afterAll Sample.gateway Sample.claimed).revokedTokens
            (seconds 3) e.fixed e.data = true ∧
          e ∉ (reapExecutionAuthorityOnce Sample.reaper
            (Sample.tenant.afterAll Sample.gateway Sample.claimed)).db.executions.rows := by
    decide +kernel
  exact h _ _ (reachable_afterAll Sample.initial Sample.claimed) Sample.reaper e he hl (Or.inl ha)

end CyberAssess
