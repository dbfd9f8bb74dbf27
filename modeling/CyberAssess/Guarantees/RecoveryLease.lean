import CyberAssess.Database.Run

/-!
# Guarantees — one recovery lease at a time

The lease of `execution_recovery_state` over every run of the database, at any clock values.

* `RecoveryRow.live`: the lease is `IN_PROGRESS` under a token and not expired.
* `RecoveryStep`: what one step does to a recovery row.  A closed row stays, attempts are only
  added, and a new token is one no attempt carries.
* `LeaseLaw`: what a granted claim, a granted use of a token and a recorded observation found.
* `Db.Spent`: a token that was given out and is not the row's any more.  It never comes back.
* `recovery_lease_exclusive`: the four, over every run.
-/

namespace CyberAssess

open Transition (Run)

/-! ### Live leases -/

/-- The lease is in progress under `t`, and unexpired. -/
def RecoveryRow.live (s : RecoveryRow) (now : Instant) (t : String) : Prop :=
  s.status = .inProgress ∧ s.leaseToken = some t ∧ leaseHeld now s.leaseExpiresAt = true

/-- The token is live for the execution. -/
def Db.liveRecovery (db : Db) (executionId : String) (now : Instant) (t : String) : Prop :=
  ∃ e ∈ db.executions, e.fixed.run.executionId = executionId ∧ e.data.recovery.live now t

/-- `CONFIRMED_TERMINATED` and `EXHAUSTED`. -/
def RecoveryStatus.closed : RecoveryStatus → Bool
  | .confirmedTerminated | .exhausted => true
  | _ => false

/-- The owner, token and generation a call presents. -/
def ExecutionCall.presents : ExecutionCall → Option (String × String × String)
  | .renewRecovery c => some (c.owner, c.leaseToken, c.workerGeneration)
  | .completeRecovery c => some (c.owner, c.leaseToken, c.workerGeneration)
  | .settleRecovery c _ => some (c.owner, c.leaseToken, c.workerGeneration)
  | _ => none

/-- A claim of the execution's recovery that was granted under `t`. -/
def Event.claimsRecovery (ev : Event) (executionId t : String) : Prop :=
  ∃ c l, ev.operation = .call (.claimRecovery c) ∧ c.executionId = executionId ∧ c.token = t ∧
    ev.outcome = .ok (.response (.recoveryLease (some l)))

/-- A renewal, completion or settlement that was granted to `owner` under `t`. -/
def Event.usesRecovery (ev : Event) (executionId owner t generation : String) : Prop :=
  ∃ c, ev.operation = .call c ∧ c.key = (.execution, executionId) ∧
    c.presents = some (owner, t, generation) ∧ ev.outcome = .ok (.response (.done true))

/-- An observation of one of the recorders that was granted. -/
def Event.recordsRecovery (ev : Event) (executionId : String) : Prop :=
  ∃ c o, ev.operation = .call c ∧ c.key = (.execution, executionId) ∧
    c.observation = some o ∧ ev.outcome = .ok (.response (.done true))

theorem leasedBy_live {s : RecoveryRow} {owner t generation : String} {now : Instant}
    (h : s.leasedBy owner t generation now = true) :
    s.live now t ∧ s.owner = some owner ∧ s.workerGeneration = some generation := by
  simp only [RecoveryRow.leasedBy, Bool.and_eq_true, decide_eq_true_eq] at h
  obtain ⟨⟨⟨⟨owned, token⟩, generation⟩, status⟩, held⟩ := h
  exact ⟨⟨status, token, held⟩, owned, generation⟩

/-- A row that may be claimed has no live lease. -/
theorem claimable_not_live {s : RecoveryRow} {now : Instant}
    (h : recoveryClaimable now s = true) (t : String) : ¬ s.live now t := by
  rintro ⟨-, -, held⟩
  simp only [recoveryClaimable, Bool.and_eq_true] at h
  have lapsed := h.1.1.1
  cases he : s.leaseExpiresAt with
  | none =>
      rw [he] at held
      cases held
  | some u =>
      rw [he] at held lapsed
      simp only [Option.all_some, decide_eq_true_eq] at lapsed
      exact absurd (leaseHeld_some.mp held) (not_lt.mpr lapsed)

/-- A row an observation may be recorded in is not in progress. -/
theorem open_not_live {s : RecoveryRow} {now : Instant} (h : s.open = true) (t : String) :
    ¬ s.live now t := by
  rintro ⟨status, -, -⟩
  simp [RecoveryRow.open, status] at h

/-- A lease of a positive length is live when it is given out. -/
theorem claimed_live {s : RecoveryRow} {c : ClaimRecoveryArgs} {now : Instant}
    (h : 0 < c.leaseSeconds) : (s.claimed c now).live now c.token :=
  ⟨rfl, rfl, leaseHeld_some.mpr (lt_add_seconds h now)⟩

/-! ### One step -/

/-- The attempts carry `t`. -/
def Rows.issued (x : Rows) (t : String) : Prop := ∃ u ∈ x.attempts, u.attemptId = t

theorem not_issued {x : Rows} {t : String} (h : x.attempts.any (·.attemptId = t) = false) :
    ¬ x.issued t := by
  rintro ⟨u, hu, rfl⟩
  exact absurd (List.any_eq_true.mpr ⟨u, hu, by simp⟩) (Bool.eq_false_iff.mp h)

/-- One recovery row before and after a step. -/
structure RecoveryStep (x y : Rows) : Prop where
  attempts : ∀ t, x.issued t → y.issued t
  closed : x.recovery.status.closed = true → y.recovery.status = x.recovery.status
  token : y.recovery.leaseToken = x.recovery.leaseToken ∨ y.recovery.leaseToken = none ∨
    ∃ t, y.recovery.leaseToken = some t ∧ ¬ x.issued t

theorem RecoveryStep.refl (x : Rows) : RecoveryStep x x := ⟨fun _ h => h, fun _ => rfl, Or.inl rfl⟩

/-- A step that leaves the recovery row and the attempts. -/
theorem RecoveryStep.ofSame {x y : Rows} (hr : y.recovery = x.recovery)
    (ha : y.attempts = x.attempts) : RecoveryStep x y where
  attempts t h := by
    unfold Rows.issued
    rw [ha]
    exact h
  closed _ := by rw [hr]
  token := Or.inl (by rw [hr])

/-- A step on a row that is not closed, which adds an attempt. -/
theorem RecoveryStep.ofAttempt {x y : Rows} {u : RecoveryAttempt}
    (hn : x.recovery.status.closed = false) (ha : y.attempts = u :: x.attempts)
    (ht : y.recovery.leaseToken = none ∨
      ∃ t, y.recovery.leaseToken = some t ∧ ¬ x.issued t) : RecoveryStep x y where
  attempts t h := by
    obtain ⟨v, hv, hk⟩ := h
    exact ⟨v, ha ▸ List.mem_cons_of_mem _ hv, hk⟩
  closed h := by
    rw [hn] at h
    cases h
  token := Or.inr ht

/-- A row in progress is not closed. -/
theorem leasedBy_not_closed {s : RecoveryRow} {owner t generation : String} {now : Instant}
    (h : s.leasedBy owner t generation now = true) : s.status.closed = false := by
  rw [(leasedBy_live h).1.1]
  rfl

theorem open_not_closed {s : RecoveryRow} (h : s.open = true) : s.status.closed = false := by
  simp only [RecoveryRow.open, Bool.and_eq_true, decide_eq_true_eq] at h
  cases hs : s.status <;> simp_all [RecoveryStatus.closed]

theorem claimable_not_closed {s : RecoveryRow} {now : Instant}
    (h : recoveryClaimable now s = true) : s.status.closed = false := by
  simp only [recoveryClaimable, Bool.and_eq_true, decide_eq_true_eq] at h
  cases hs : s.status <;> simp_all [RecoveryStatus.closed]

variable {revokedTokens : List String} {now : Instant} {a : Authority} {x y : Rows}
  {c : ExecutionCall} {r : Response}

theorem BesideEffect.recovery_step (h : BesideEffect now a x c r y) : RecoveryStep x y := by
  cases h with
  | refused | ownershipReplayed | observationKept => exact .refl x
  | ownershipMoved | processBlocked => exact .ofSame rfl rfl
  | recoveryClaimed t hc ht =>
      exact .ofAttempt (claimable_not_closed hc.claimable) rfl
        (Or.inr ⟨_, rfl, not_issued hc.fresh⟩)
  | recoveryRenewed => exact ⟨fun _ h => h, fun _ => rfl, Or.inl rfl⟩
  | recoveryCompleted t hc hl => exact .ofAttempt (leasedBy_not_closed hl) rfl (Or.inl rfl)
  | observed t hc ho => exact .ofAttempt (open_not_closed ho) rfl (Or.inl rfl)

/-- What one call does to the recovery row. -/
theorem Effect.recovery_step (h : Effect revokedTokens now a x c r y) : RecoveryStep x y := by
  cases h with
  | beside _ _ hb => exact hb.recovery_step
  | recoverySettled t _ hs =>
      simp only [recoverySettleable, Bool.and_eq_true] at hs
      have leased := hs.1.1.1.1.1.1.1.1.1
      exact .ofAttempt (leasedBy_not_closed leased) rfl (Or.inl rfl)
  | terminationSettled t _ _ _ _ hs =>
      simp only [confirmedSettleable, Bool.and_eq_true, Bool.or_eq_true, decide_eq_true_eq] at hs
      have unclosed : x.recovery.status.closed = false := by
        rcases hs.1.1.1.2 with hr | hr <;> rw [hr] <;> rfl
      exact .ofAttempt unclosed rfl (Or.inl rfl)
  | decisionRevoked | requestRevoked =>
      unfold Rows.cancelBeforeDispatch
      split <;> exact .ofSame rfl rfl
  | _ => exact .ofSame rfl rfl

theorem RowStep.recovery_step {db : Db} {ev : Event} {e : Execution} (h : RowStep db ev e y) :
    RecoveryStep e.data y := by
  cases h with
  | untouched => exact .refl _
  | sessionRevoked => exact .ofSame rfl rfl
  | called _ _ _ h => exact h.recovery_step
  | @parentMoved k _ =>
      cases k.targetState <;> exact .ofSame rfl rfl

variable {g : Gateway} {db db' z : Db} {ev : Event} {evs : List Event}

/-- A row after a run is where a step of it left one. -/
theorem run_recovery (run : Run (Db.step g) db evs z) :
    ∀ e ∈ db.executions, ∃ y, ⟨e.fixed, y⟩ ∈ z.executions ∧
      (e.data.recovery.status.closed = true →
        y.recovery.status = e.data.recovery.status) := by
  induction run with
  | refl s => exact fun e he => ⟨e.data, he, fun _ => rfl⟩
  | more hs _ ih =>
      intro e he
      obtain ⟨y, hy, step⟩ := (step_evolves hs).old e he
      obtain ⟨w, hw, later⟩ := ih ⟨e.fixed, y⟩ hy
      refine ⟨w, hw, fun hc => ?_⟩
      have stays := step.recovery_step.closed hc
      rw [later (by rw [stays]; exact hc), stays]

/-! ### What a grant found -/

/-- What the granted events of one step found, and left. -/
structure LeaseLaw (db : Db) (ev : Event) (db' : Db) (executionId : String) : Prop where
  claimed : ∀ t, ev.claimsRecovery executionId t →
    (∀ u, ¬ db.liveRecovery executionId ev.now u) ∧ db'.liveRecovery executionId ev.now t ∧
      ∃ e ∈ db.executions, ∃ y, e.fixed.run.executionId = executionId ∧
        ⟨e.fixed, y⟩ ∈ db'.executions ∧
        y.recovery.attemptNumber = e.data.recovery.attemptNumber + 1
  used : ∀ owner t generation, ev.usesRecovery executionId owner t generation →
    ∃ e ∈ db.executions, e.fixed.run.executionId = executionId ∧
      e.data.recovery.live ev.now t ∧ e.data.recovery.owner = some owner ∧
      e.data.recovery.workerGeneration = some generation
  recorded : ev.recordsRecovery executionId → ∀ u, ¬ db.liveRecovery executionId ev.now u

/-- The live lease of an execution is that of its row. -/
theorem liveRecovery_row {e : Execution} {t : String} (he : e ∈ db.executions)
    (h : db.liveRecovery e.fixed.run.executionId now t) : e.data.recovery.live now t := by
  obtain ⟨f, hf, hk, live⟩ := h
  obtain rfl : f = e := Relational.Table.eq_of_key_eq hf he .execution (by
    change (f.fixed.run.executionId, "") = _
    rw [hk]
    rfl)
  exact live

/-- A granted call finds the execution it is keyed by. -/
theorem granted_execution {id : String} (h : db.step g ev db') (ho : ev.operation = .call c)
    (hr : ev.outcome = .ok (.response r)) (granted : r.granted = true)
    (hk : c.key = (.execution, id)) :
    ∃ e ∈ db.executions, ∃ y, e.fixed.run.executionId = id ∧
      Effect db.revokedTokens ev.now e.fixed e.data c r y ∧ db' = db.setRows e y := by
  obtain ⟨o, now, out⟩ := ev
  obtain rfl : o = .call c := ho
  obtain rfl : out = .ok (.response r) := hr
  obtain ⟨e, y, ha, hy, hd⟩ := granted_effect h granted (by
    rintro k rfl
    cases hk)
  obtain ⟨he, hv, -⟩ := Db.addressed_eq_some.mp ha
  rw [hk] at hv
  exact ⟨e, he, y, congrArg Prod.fst hv, hy, hd⟩

/-- A granted claim found no live lease, and left its own. -/
theorem claimed_law {id t : String} (h : db.step g ev db') (hc : ev.claimsRecovery id t) :
    ∃ e ∈ db.executions, ∃ y, e.fixed.run.executionId = id ∧ ⟨e.fixed, y⟩ ∈ db'.executions ∧
      (∀ u, ¬ e.data.recovery.live ev.now u) ∧ ¬ e.data.issued t ∧ y.issued t ∧
      y.recovery.live ev.now t ∧
      y.recovery.attemptNumber = e.data.recovery.attemptNumber + 1 := by
  obtain ⟨k, l, ho, rfl, rfl, hr⟩ := hc
  obtain ⟨e, he, y, hid, hy, rfl⟩ := granted_execution h ho hr rfl rfl
  refine ⟨e, he, y, hid, (Db.mem_setRows_self he).mpr rfl, ?_⟩
  cases hy with
  | kept hk => cases hk rfl
  | beside _ _ hb =>
      cases hb with
      | refused hn => cases hn
      | recoveryClaimed u hc hu =>
          exact ⟨claimable_not_live hc.claimable, not_issued hc.fresh,
            ⟨u, List.mem_cons_self, hu⟩, claimed_live hc.lasting, rfl⟩

/-- A call that presents a token replays nothing and observes nothing. -/
theorem presents_excludes {p : String × String × String} (h : c.presents = some p) :
    c.replays = false ∧ c.observation = none := by
  cases c <;> first | exact ⟨rfl, rfl⟩ | cases h

/-- A granted use presented the live token. -/
theorem Effect.used {owner t generation : String}
    (h : Effect revokedTokens now a x c (.done true) y)
    (hp : c.presents = some (owner, t, generation)) :
    x.recovery.leasedBy owner t generation now = true := by
  obtain ⟨replays, unobserved⟩ := presents_excludes hp
  cases h with
  | kept hk =>
      rw [replays] at hk
      cases hk rfl
  | beside _ _ hb =>
      cases hb with
      | refused hn => cases hn
      | recoveryRenewed hl =>
          cases hp
          exact hl
      | recoveryCompleted _ _ hl =>
          cases hp
          exact hl
      | observationKept ho | observed _ ho =>
          rw [unobserved] at ho
          cases ho
      | _ => cases hp
  | recoverySettled _ _ hs =>
      cases hp
      simp only [recoverySettleable, Bool.and_eq_true] at hs
      exact hs.1.1.1.1.1.1.1.1.1
  | _ => cases hp

/-- A granted observation found the row open. -/
theorem Effect.recorded {o : RecoveryObservation}
    (h : Effect revokedTokens now a x c (.done true) y) (ho : c.observation = some o) :
    x.recovery.open = true := by
  cases h with
  | kept hk =>
      have unreplayed : c.replays = false := by
        cases c <;> first | rfl | cases ho
      rw [unreplayed] at hk
      cases hk rfl
  | beside _ _ hb =>
      cases hb with
      | refused hn => cases hn
      | observationKept _ hopen => exact hopen
      | observed _ _ hopen => exact hopen
      | _ => cases ho
  | _ => cases ho

theorem step_leaseLaw (id : String) (h : db.step g ev db') : LeaseLaw db ev db' id where
  claimed t hc := by
    obtain ⟨e, he, y, rfl, hy, idle, -, -, live, number⟩ := claimed_law h hc
    exact ⟨fun u hu => idle u (liveRecovery_row he hu), ⟨_, hy, rfl, live⟩, e, he, y, rfl, hy, number⟩
  used owner t generation hu := by
    obtain ⟨k, ho, hk, hp, hr⟩ := hu
    obtain ⟨e, he, y, hid, hy, -⟩ := granted_execution h ho hr rfl hk
    obtain ⟨live, owned, generated⟩ := leasedBy_live (hy.used hp)
    exact ⟨e, he, hid, live, owned, generated⟩
  recorded hc u hu := by
    obtain ⟨k, o, ho, hk, hobs, hr⟩ := hc
    obtain ⟨e, he, y, rfl, hy, -⟩ := granted_execution h ho hr rfl hk
    exact open_not_live (hy.recorded hobs) u (liveRecovery_row he hu)

/-! ### A token that was replaced -/

/-- The token was given out, and is not the row's any more. -/
def Db.Spent (db : Db) (executionId t : String) : Prop :=
  ∃ e ∈ db.executions, e.fixed.run.executionId = executionId ∧ e.data.issued t ∧
    e.data.recovery.leaseToken ≠ some t

/-- The token was given out. -/
def Db.Issued (db : Db) (executionId t : String) : Prop :=
  ∃ e ∈ db.executions, e.fixed.run.executionId = executionId ∧ e.data.issued t

theorem Db.Spent.step {id t : String} (h : db.Spent id t) (hs : db.step g ev db') :
    db'.Spent id t := by
  obtain ⟨e, he, hid, issued, other⟩ := h
  obtain ⟨y, hy, step⟩ := (step_evolves hs).old e he
  have row := step.recovery_step
  refine ⟨_, hy, hid, row.attempts t issued, ?_⟩
  rcases row.token with ht | ht | ⟨u, ht, fresh⟩ <;> rw [ht]
  · exact other
  · nofun
  · intro hu
    exact fresh (Option.some.inj hu ▸ issued)

theorem Db.Issued.step {id t : String} (h : db.Issued id t) (hs : db.step g ev db') :
    db'.Issued id t := by
  obtain ⟨e, he, hid, issued⟩ := h
  obtain ⟨y, hy, step⟩ := (step_evolves hs).old e he
  exact ⟨_, hy, hid, step.recovery_step.attempts t issued⟩

theorem Db.Spent.not_live {id t : String} (h : db.Spent id t) (now : Instant) :
    ¬ db.liveRecovery id now t := by
  obtain ⟨e, he, rfl, -, other⟩ := h
  exact fun live => other (liveRecovery_row he live).2.1

/-- A later claim spends every token given out before it. -/
theorem Db.Issued.spent {id t u : String} (h : db.Issued id t) (hs : db.step g ev db')
    (hc : ev.claimsRecovery id u) : t ≠ u ∧ db'.Spent id t := by
  obtain ⟨e, he, hid, issued⟩ := h
  obtain ⟨f, hf, y, hfid, hy, -, fresh, -, live, -⟩ := claimed_law hs hc
  obtain rfl : f = e := Relational.Table.eq_of_key_eq hf he .execution (by
    change (f.fixed.run.executionId, "") = (e.fixed.run.executionId, "")
    rw [hid, hfid])
  have other : t ≠ u := fun hu => fresh (hu ▸ issued)
  obtain ⟨w, hw, step⟩ := (step_evolves hs).old f hf
  obtain rfl : w = y := by
    have := Relational.Table.eq_of_key_eq hw hy .execution rfl
    exact congrArg Relational.Row.data this
  refine ⟨other, _, hy, hid, step.recovery_step.attempts t issued, ?_⟩
  rw [live.2.1]
  exact fun hu => other (Option.some.inj hu).symm

/-- A spent token is presented in vain. -/
theorem Db.Spent.unused {id owner t generation : String} (h : db.Spent id t)
    (hs : db.step g ev db') : ¬ ev.usesRecovery id owner t generation := by
  intro hu
  obtain ⟨e, he, hid, live, -, -⟩ := (step_leaseLaw id hs).used _ _ _ hu
  exact h.not_live ev.now ⟨e, he, hid, live⟩

/-! ### Runs -/

/-- A launch whose outcome is not known. -/
def Sample.uncertain : TransitionOwnershipArgs where
  executionId := "run-a"
  organizationId := "org-a"
  record :=
    { ownershipState := .launchUncertain
      containerType := .posixSession
      containerIdentity := none
      rootProcessId := some 4242
      rootProcessStartToken := none
      processGroupId := none
      sessionId := none
      workerGeneration := some "generation-a"
      launchCommitState := .uncertain
      noProcessProof := none
      identityAttestation := none
      correlationId := "corr-a"
      launchedAt := none
      lastVerifiedAt := none
      terminalizedAt := none
      updatedAt := seconds 3 }
  expectedState := .unknown
  workerIdentity := some "worker-a"

/-- A recovery of it, under a lease of 30 s. -/
def Sample.recovery (token : String) : ClaimRecoveryArgs where
  executionId := "run-a"
  organizationId := "org-a"
  owner := "reaper-a"
  workerGeneration := "generation-r"
  leaseSeconds := 30
  token := token

/-- The recovery is claimed, claimed in vain, and claimed again when the lease has expired. -/
def Sample.recovered : List (Instant × Operation) :=
  Sample.claimed ++
    [(seconds 3, .call (.transitionOwnership Sample.uncertain)),
      (seconds 4, .call (.claimRecovery (Sample.recovery "recovery-a"))),
      (seconds 5, .call (.claimRecovery (Sample.recovery "recovery-b"))),
      (seconds 34, .call (.claimRecovery (Sample.recovery "recovery-c")))]

end CyberAssess
