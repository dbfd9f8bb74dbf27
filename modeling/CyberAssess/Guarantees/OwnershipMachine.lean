import CyberAssess.Database.Run

/-!
# Guarantees — the state machine of a process-ownership row

`PROCESS_OWNERSHIP_TRANSITIONS` over every run of the database.

* `OwnershipRow.Follows`: what holds between a row and any later one.  A terminal row stays as it
  is, an initialised row is never `UNKNOWN` again, and an identity column keeps its value.
* `Effect.ownership_step`: one call moves a row along an edge, or closes it (`closes`).
* `OwnershipRow.Carries`: the row holds what a transition supplied.
* `ownership_machine_obeyed`: all three, over every step and every run.
* `unknown_ownership_closes`: a settlement without a process takes a row from `UNKNOWN` to
  `TERMINAL`, which is no edge.
-/

namespace CyberAssess

/-! ### The identity of a process -/

/-- The identity columns of an ownership row. -/
structure OwnershipIdentity where
  rootProcessId : Option Int
  rootProcessStartToken : Option String
  processGroupId : Option String
  sessionId : Option String
  containerIdentity : Option String
  workerGeneration : Option String
  identityAttestation : Option Attestation
deriving DecidableEq, Repr

def OwnershipRow.identity (p : OwnershipRow) : OwnershipIdentity where
  rootProcessId := p.rootProcessId
  rootProcessStartToken := p.rootProcessStartToken
  processGroupId := p.processGroupId
  sessionId := p.sessionId
  containerIdentity := p.containerIdentity
  workerGeneration := p.workerGeneration
  identityAttestation := p.identityAttestation

/-- A value that is set stays. -/
def Stays {α : Type} (u v : Option α) : Prop := ∀ w, u = some w → v = some w

theorem Stays.refl {α : Type} (u : Option α) : Stays u u := fun _ h => h

theorem Stays.trans {α : Type} {u v w : Option α} (h : Stays u v) (k : Stays v w) : Stays u w :=
  fun x hx => k x (h x hx)

theorem Stays.of_keeps {α : Type} [DecidableEq α] {u v : Option α} (h : keeps u v = true) :
    Stays u v := by
  intro w hw
  subst hw
  simpa [keeps, eq_comm] using h

theorem Stays.of_isNone {α : Type} {u v : Option α} (h : u.isNone = true) : Stays u v := by
  intro w hw
  rw [hw] at h
  cases h

/-- Every identity column that is set stays. -/
structure OwnershipIdentity.Stays (i j : OwnershipIdentity) : Prop where
  rootProcessId : CyberAssess.Stays i.rootProcessId j.rootProcessId
  rootProcessStartToken : CyberAssess.Stays i.rootProcessStartToken j.rootProcessStartToken
  processGroupId : CyberAssess.Stays i.processGroupId j.processGroupId
  sessionId : CyberAssess.Stays i.sessionId j.sessionId
  containerIdentity : CyberAssess.Stays i.containerIdentity j.containerIdentity
  workerGeneration : CyberAssess.Stays i.workerGeneration j.workerGeneration
  identityAttestation : CyberAssess.Stays i.identityAttestation j.identityAttestation

theorem OwnershipIdentity.Stays.refl (i : OwnershipIdentity) : i.Stays i :=
  ⟨.refl _, .refl _, .refl _, .refl _, .refl _, .refl _, .refl _⟩

theorem OwnershipIdentity.Stays.trans {i j k : OwnershipIdentity} (h : i.Stays j) (h' : j.Stays k) :
    i.Stays k where
  rootProcessId := h.rootProcessId.trans h'.rootProcessId
  rootProcessStartToken := h.rootProcessStartToken.trans h'.rootProcessStartToken
  processGroupId := h.processGroupId.trans h'.processGroupId
  sessionId := h.sessionId.trans h'.sessionId
  containerIdentity := h.containerIdentity.trans h'.containerIdentity
  workerGeneration := h.workerGeneration.trans h'.workerGeneration
  identityAttestation := h.identityAttestation.trans h'.identityAttestation

/-- A compatible record has every identity value the row has. -/
theorem recorded_identity {p : OwnershipRow} {r : OwnershipRecord}
    (h : ownershipCompatible r p = true) : p.identity.Stays (p.recorded r).identity := by
  unfold ownershipCompatible at h
  split at h <;> simp only [Bool.and_eq_true] at h
  · -- An `UNKNOWN` row has none.
    obtain ⟨⟨⟨⟨⟨⟨⟨⟨-, hp⟩, ht⟩, hg⟩, hs⟩, hc⟩, hw⟩, ha⟩, -⟩ := h
    exact ⟨.of_isNone hp, .of_isNone ht, .of_isNone hg, .of_isNone hs, .of_isNone hc,
      .of_isNone hw, .of_isNone ha⟩
  · obtain ⟨⟨⟨⟨⟨⟨⟨⟨hp, ht⟩, hg⟩, hs⟩, -⟩, hc⟩, hw⟩, ha⟩, -⟩ := h
    exact ⟨.of_keeps hp, .of_keeps ht, .of_keeps hg, .of_keeps hs, .of_keeps hc, .of_keeps hw,
      .of_keeps ha⟩

/-! ### A row and a later one -/

/-- What holds between a row and any later one. -/
structure OwnershipRow.Follows (p q : OwnershipRow) : Prop where
  final : p.ownershipState = .terminal → q = p
  initialised : p.ownershipState ≠ .unknown → q.ownershipState ≠ .unknown
  identity : p.identity.Stays q.identity

theorem OwnershipRow.Follows.refl (p : OwnershipRow) : p.Follows p :=
  ⟨fun _ => rfl, id, .refl _⟩

theorem OwnershipRow.Follows.trans {p q s : OwnershipRow} (h : p.Follows q) (k : q.Follows s) :
    p.Follows s where
  final hp := by
    have hq := h.final hp
    rw [k.final (by rw [hq, hp]), hq]
  initialised hp := k.initialised (h.initialised hp)
  identity := h.identity.trans k.identity

/-- A row that has not ended, whose identity stays, and that is not `UNKNOWN` after. -/
theorem OwnershipRow.Follows.ofMove {p q : OwnershipRow} (hp : p.ownershipState ≠ .terminal)
    (hq : q.ownershipState ≠ .unknown) (hi : p.identity.Stays q.identity) : p.Follows q :=
  ⟨fun h => absurd h hp, fun _ => hq, hi⟩

/-- The two moves to `TERMINAL` that are no edges: a settlement without a process closes a row
nothing was recorded in, and a recovered launch is closed under its lease. -/
def Operation.closes (o : Operation) (s : OwnershipState) : Prop :=
  (s = .unknown ∧ ∃ c j, o = .call (.settleConfirmed c j) ∧ c.terminationStatus.isProcess = false) ∨
    (s = .launchUncertain ∧ ∃ c j, o = .call (.settleRecovery c j))

/-- One row before and after an operation. -/
structure OwnershipStep (o : Operation) (p q : OwnershipRow) : Prop where
  edge : q.ownershipState = p.ownershipState ∨
    q.ownershipState ∈ processOwnershipTransitions p.ownershipState ∨
    (q.ownershipState = .terminal ∧ o.closes p.ownershipState)
  follows : p.Follows q

theorem OwnershipStep.refl (o : Operation) (p : OwnershipRow) : OwnershipStep o p p :=
  ⟨Or.inl rfl, .refl p⟩

variable {revokedTokens : List String} {now : Instant} {a : Authority} {x y : Rows}
  {c : ExecutionCall} {r : Response} {o : Operation}

/-- A written transition. -/
theorem OwnershipMove.step {k : TransitionOwnershipArgs} (h : OwnershipMove k a x) :
    OwnershipStep o x.ownership (x.ownership.recorded k.record) := by
  have hc := h.checked
  simp only [TransitionOwnershipArgs.check, Checked.bind_ok, Checked.exists_unit,
    Checked.ensure_ok, decide_eq_true_eq] at hc
  obtain ⟨-, known, legal⟩ := hc
  refine ⟨?_, .ofMove h.unended known (recorded_identity h.compatible)⟩
  rw [isValidProcessOwnershipTransition, ← h.expected, Bool.or_eq_true, decide_eq_true_eq,
    decide_eq_true_eq] at legal
  rcases legal with hs | hs
  · exact Or.inl hs
  · exact Or.inr (Or.inl hs)

/-- The call on ownership or recovery. -/
theorem BesideEffect.ownership_step (h : BesideEffect now a x c r y) :
    OwnershipStep o x.ownership y.ownership := by
  cases h with
  | refused | ownershipReplayed | recoveryClaimed | recoveryRenewed | observationKept | observed =>
      exact .refl _ _
  | ownershipMoved hm => exact hm.step
  | processBlocked hb =>
      simp only [committedProcessBlockable, Bool.and_eq_true, decide_eq_true_eq] at hb
      have governed : x.ownership.ownershipState = .externalProcessGoverned := by tauto
      refine ⟨Or.inr (Or.inl ?_), .ofMove (by rw [governed]; nofun) nofun (.refl _)⟩
      rw [governed]
      exact List.mem_cons_self
  | recoveryCompleted t hc =>
      simp only [OwnershipRow.afterCompletion]
      split
      · rename_i hs
        refine ⟨Or.inr (Or.inl ?_), .ofMove (by rw [hs.2]; nofun) nofun (.refl _)⟩
        rw [hs.2]
        exact List.mem_cons_of_mem _ (List.mem_cons_of_mem _ List.mem_cons_self)
      · exact .refl _ _

/-- A settlement under a recovery lease closes the row. -/
theorem recoverySettled_step {k : SettleRecoveryArgs} {jobEmpty : Bool}
    (h : recoverySettleable k jobEmpty now a x = true) :
    OwnershipStep (.call (.settleRecovery k jobEmpty)) x.ownership
      (x.recoverySettled k (recoveryProof k now a x) now).ownership := by
  have needed : needsRecovery x.ownership.ownershipState = true := by
    simp only [recoverySettleable, Bool.and_eq_true] at h
    tauto
  cases hs : x.ownership.ownershipState with
  | launchUncertain =>
      exact ⟨Or.inr (Or.inr ⟨rfl, Or.inr ⟨hs, k, jobEmpty, rfl⟩⟩),
        .ofMove (by rw [hs]; nofun) nofun (.refl _)⟩
  | recoveryBlocked =>
      refine ⟨Or.inr (Or.inl ?_), .ofMove (by rw [hs]; nofun) nofun (.refl _)⟩
      rw [hs]
      exact List.mem_singleton.mpr rfl
  | unknown | noExternalProcess | externalProcessGoverned | terminal =>
      rw [hs] at needed
      cases needed

/-- The states a confirmed termination closes. -/
theorem confirmedSettleable_state {k : SettleConfirmedArgs} {jobEmpty : Bool}
    (h : confirmedSettleable k revokedTokens jobEmpty now a x = true) :
    (k.terminationStatus.isProcess = true ∧
        x.ownership.ownershipState = .externalProcessGoverned) ∨
      (k.terminationStatus.isProcess = false ∧
        noProcessOwnership x.ownership.ownershipState = true) := by
  simp only [confirmedSettleable, Bool.and_eq_true] at h
  have shape := h.1.1.1.1
  by_cases hp : k.terminationStatus.isProcess = true
  · simp only [hp, if_true, Bool.and_eq_true, processSettleable, decide_eq_true_eq] at shape
    exact Or.inl ⟨hp, by tauto⟩
  · refine Or.inr ⟨Bool.eq_false_of_not_eq_true hp, ?_⟩
    simp only [hp, Bool.false_eq_true, if_false, Bool.and_eq_true] at shape
    have settleable := shape.1.1
    split at settleable
    · simp only [preDispatchSettleable, Bool.and_eq_true] at settleable
      exact settleable.1
    · simp only [noProcessSettleable, Bool.and_eq_true] at settleable
      tauto

/-- A settlement after a confirmed termination closes the row. -/
theorem terminationSettled_step {k : SettleConfirmedArgs} {jobEmpty : Bool}
    (h : confirmedSettleable k revokedTokens jobEmpty now a x = true) :
    OwnershipStep (.call (.settleConfirmed k jobEmpty)) x.ownership
      (x.settledAfterTermination k (terminationProof k now a x) now).ownership := by
  rcases confirmedSettleable_state h with ⟨-, hs⟩ | ⟨hp, hs⟩
  · refine ⟨Or.inr (Or.inl ?_), .ofMove (by rw [hs]; nofun) nofun (.refl _)⟩
    rw [hs]
    exact List.mem_cons_of_mem _ (List.mem_singleton.mpr rfl)
  · cases ho : x.ownership.ownershipState with
    | unknown =>
        exact ⟨Or.inr (Or.inr ⟨rfl, Or.inl ⟨ho, k, jobEmpty, rfl, hp⟩⟩),
          .ofMove (by rw [ho]; nofun) nofun (.refl _)⟩
    | noExternalProcess =>
        refine ⟨Or.inr (Or.inl ?_), .ofMove (by rw [ho]; nofun) nofun (.refl _)⟩
        rw [ho]
        exact List.mem_singleton.mpr rfl
    | launchUncertain | recoveryBlocked | externalProcessGoverned | terminal =>
        rw [ho] at hs
        cases hs

/-- What one call does to the ownership row. -/
theorem Effect.ownership_step (h : Effect revokedTokens now a x c r y) :
    OwnershipStep (.call c) x.ownership y.ownership := by
  cases h with
  | beside _ _ hb => exact hb.ownership_step
  | recoverySettled t _ hs => exact recoverySettled_step hs
  | terminationSettled t _ _ _ _ hs => exact terminationSettled_step hs
  | decisionRevoked | requestRevoked =>
      unfold Rows.cancelBeforeDispatch
      split <;> exact .refl _ _
  | _ => exact .refl _ _

/-! ### Steps and runs -/

/-- The parent's transitions leave ownership. -/
theorem parentMoved_ownership (x : Rows) (target : ScanAuthorizationState) (now : Instant) :
    (x.parentMoved target now).ownership = x.ownership := by
  cases target <;> rfl

theorem RowStep.ownership_step {db : Db} {ev : Event} {e : Execution} (h : RowStep db ev e y) :
    OwnershipStep ev.operation e.data.ownership y.ownership := by
  cases h with
  | untouched | sessionRevoked => exact .refl _ _
  | called ho hr he h =>
      rw [ho]
      exact h.ownership_step
  | parentMoved =>
      rw [parentMoved_ownership]
      exact .refl _ _

/-- A row after a run follows the row before it. -/
theorem run_ownership {g : Gateway} {db z : Db} {evs : List Event}
    (run : Transition.Run (Db.step g) db evs z) :
    ∀ e ∈ db.executions, ∃ y, ⟨e.fixed, y⟩ ∈ z.executions ∧
      e.data.ownership.Follows y.ownership := by
  induction run with
  | refl s => exact fun e he => ⟨e.data, he, .refl _⟩
  | more hs _ ih =>
      intro e he
      obtain ⟨y, hy, step⟩ := (step_evolves hs).old e he
      obtain ⟨w, hw, later⟩ := ih ⟨e.fixed, y⟩ hy
      exact ⟨w, hw, step.ownership_step.follows.trans later⟩

/-! ### What a transition supplied -/

/-- The row and its correlation hold what the record supplies. -/
structure OwnershipRow.Carries (p : OwnershipRow) (a : Authority) (r : OwnershipRecord) :
    Prop where
  ownershipState : p.ownershipState = r.ownershipState
  containerType : p.containerType = r.containerType
  containerIdentity : p.containerIdentity = r.containerIdentity
  rootProcessId : p.rootProcessId = r.rootProcessId
  rootProcessStartToken : p.rootProcessStartToken = r.rootProcessStartToken
  processGroupId : p.processGroupId = r.processGroupId
  sessionId : p.sessionId = r.sessionId
  workerGeneration : p.workerGeneration = r.workerGeneration
  launchCommitState : p.launchCommitState = r.launchCommitState
  noProcessProof : p.noProcessProof = r.noProcessProof
  identityAttestation : p.identityAttestation = r.identityAttestation
  correlationId : a.ownershipCorrelationId = r.correlationId
  lastVerifiedAt : p.lastVerifiedAt = r.lastVerifiedAt
  terminalizedAt : p.terminalizedAt = r.terminalizedAt

/-- A replayed record is the one stored. -/
theorem carries_of_replays {k : OwnershipRecord} {p : OwnershipRow}
    (ht : p.ownershipState = .terminal) (h : ownershipReplays k a p = true) : p.Carries a k := by
  simp only [ownershipReplays, Bool.and_eq_true, decide_eq_true_eq] at h
  obtain ⟨⟨⟨⟨⟨⟨⟨⟨⟨⟨⟨⟨⟨hs, h₁⟩, h₂⟩, h₃⟩, h₄⟩, h₅⟩, h₆⟩, h₇⟩, h₈⟩, h₉⟩, h₁₀⟩, h₁₁⟩, h₁₂⟩, h₁₃⟩ := h
  exact ⟨by rw [ht, hs], h₁, h₂, h₃, h₄, h₅, h₆, h₇, h₈, h₉, h₁₀, h₁₁, h₁₂, h₁₃⟩

/-- After a transition that returns `True` the row holds what it supplied. -/
theorem BesideEffect.carries {k : TransitionOwnershipArgs}
    (h : BesideEffect now a x (.transitionOwnership k) (.done true) y) :
    y.ownership.Carries a k.record := by
  cases h with
  | refused h => cases h
  | ownershipReplayed ht h => exact carries_of_replays ht h.symm
  | ownershipMoved hm =>
      exact ⟨rfl, rfl, rfl, rfl, rfl, rfl, rfl, rfl, rfl, rfl, rfl, hm.correlated, rfl, rfl⟩
  | observationKept hc => cases hc
  | observed _ hc => cases hc

/-- **The ownership state machine, over every step and every run.**  A row moves along an edge or
is closed by a settlement; a terminal row and a set identity stay; and after a transition that
returns `True` the row holds what was supplied. -/
theorem ownership_machine_obeyed (g : Gateway) (db : Db) :
    (∀ ev db', db.step g ev db' → ∀ e ∈ db.executions, ∃ y, ⟨e.fixed, y⟩ ∈ db'.executions ∧
        OwnershipStep ev.operation e.data.ownership y.ownership) ∧
      (∀ evs z, Transition.Run (Db.step g) db evs z → ∀ e ∈ db.executions,
        ∃ y, ⟨e.fixed, y⟩ ∈ z.executions ∧ e.data.ownership.Follows y.ownership) ∧
      ∀ k now db', db.step g ⟨.call (.transitionOwnership k), now, .ok (.response (.done true))⟩
          db' →
        ∃ e ∈ db.executions, ∃ y, e.fixed.run.executionId = k.executionId ∧
          ⟨e.fixed, y⟩ ∈ db'.executions ∧ y.ownership.Carries e.fixed k.record := by
  refine ⟨?_, fun evs z run => run_ownership run, ?_⟩
  · intro ev db' hs e he
    obtain ⟨y, hy, step⟩ := (step_evolves hs).old e he
    exact ⟨y, hy, step.ownership_step⟩
  · intro k now db' hs
    obtain ⟨e, y, ha, hy, rfl⟩ := granted_effect hs rfl nofun
    obtain ⟨he, hk, -⟩ := Db.addressed_eq_some.mp ha
    refine ⟨e, he, y, congrArg Prod.fst hk, (Db.mem_setRows_self he).mpr rfl, ?_⟩
    cases hy with
    | kept hr => cases hr rfl
    | beside _ _ hb => exact hb.carries

/-- The launch of a governed process. -/
def Sample.launch : TransitionOwnershipArgs where
  executionId := "run-a"
  organizationId := "org-a"
  record :=
    { ownershipState := .externalProcessGoverned
      containerType := .posixSession
      containerIdentity := some (posixContainerIdentity "4242" "4242")
      rootProcessId := some 4242
      rootProcessStartToken := some "posix:0f0f0f0f:77"
      processGroupId := some "4242"
      sessionId := some "4242"
      workerGeneration := some "generation-a"
      launchCommitState := .committed
      noProcessProof := none
      identityAttestation := some ⟨"attested", .invalid⟩
      correlationId := "corr-a"
      launchedAt := none
      lastVerifiedAt := some (seconds 3)
      terminalizedAt := none
      updatedAt := seconds 3 }
  expectedState := .unknown
  workerIdentity := some "worker-a"

/-- It is recorded as supplied. -/
theorem ownership_machine_obeyed_launch :
    ∃ e ∈ (Sample.tenant.afterAll Sample.gateway Sample.claimed).executions, ∃ y,
      e.fixed.run.executionId = "run-a" ∧
        ⟨e.fixed, y⟩ ∈ ((Sample.tenant.afterAll Sample.gateway Sample.claimed).after Sample.gateway
          (seconds 3) (.call (.transitionOwnership Sample.launch))).executions ∧
        y.ownership.Carries e.fixed Sample.launch.record := by
  have step := step_after (g := Sample.gateway)
    (Sample.tenant.afterAll Sample.gateway Sample.claimed) (seconds 3)
    (.call (.transitionOwnership Sample.launch))
  have granted : (Sample.tenant.afterAll Sample.gateway Sample.claimed).outcome Sample.gateway
      (seconds 3) (.call (.transitionOwnership Sample.launch)) = .ok (.response (.done true)) := by
    decide +kernel
  rw [granted] at step
  exact (ownership_machine_obeyed Sample.gateway _).2.2 _ _ _ step

/-- A request revoked before dispatch, and its settlement. -/
def Sample.withdrawn : List (Instant × Operation) :=
  Sample.approved ++ [(seconds 2, .call (.revokeRequest ⟨"req-a", "org-a", "admin-a"⟩))]

def Sample.closing : SettleConfirmedArgs where
  executionId := "run-a"
  organizationId := "org-a"
  terminalState := .cancelled
  reasonCode := .executionCancelledBeforeDispatch
  terminationStatus := .preDispatch
  identity := ⟨none, none, none, none⟩
  workerGeneration := some "generation-a"
  workerIdentity := some "worker-a"
  identityAttestation := none
  actor := "execution-reaper"
  attemptId := "attempt-a"

/-- A settlement without a process takes the row from `UNKNOWN` to `TERMINAL`, which is no
edge. -/
theorem unknown_ownership_closes :
    ¬ ∀ (g : Gateway) (db db' : Db) (ev : Event), db.Reachable g → db.step g ev db' →
      ∀ e ∈ db.executions, ∀ e' ∈ db'.executions, e'.fixed = e.fixed →
        e'.data.ownership.ownershipState = e.data.ownership.ownershipState ∨
          e'.data.ownership.ownershipState ∈
            processOwnershipTransitions e.data.ownership.ownershipState := by
  intro h
  have step := h Sample.gateway _ _ _ (reachable_afterAll Sample.initial Sample.withdrawn)
    (step_after _ (seconds 3) (.call (.settleConfirmed Sample.closing false)))
  obtain ⟨e, he, e', he', hf, hs⟩ :
      ∃ e ∈ (Sample.tenant.afterAll Sample.gateway Sample.withdrawn).executions.rows,
        ∃ e' ∈ ((Sample.tenant.afterAll Sample.gateway Sample.withdrawn).after Sample.gateway
          (seconds 3) (.call (.settleConfirmed Sample.closing false))).executions.rows,
          e'.fixed = e.fixed ∧
          ¬ (e'.data.ownership.ownershipState = e.data.ownership.ownershipState ∨
            e'.data.ownership.ownershipState ∈
              processOwnershipTransitions e.data.ownership.ownershipState) := by
    decide +kernel
  exact hs (step e he e' he' hf)

end CyberAssess
