import CyberAssess.Guarantees.ExitOutcome
import CyberAssess.Guarantees.ProofStorage

/-!
# Guarantees — a settlement after a confirmed termination, twice

`settle_execution_after_confirmed_termination` tests a first settlement and a repeated one with
separate code.

* `settlementReplays_confirmedBy`: of the rows a first settlement leaves, the replay tests three
  things that the settlement has not tested, `Repeatable`.
* `settleConfirmed_cases`: a call refuses, repeats, or is the first.
* `SettleConfirmedArgs.Closed`: what is stored after `True`, with a proof whose text decodes.
* `settlement_repeats`: a refused call leaves the database; a granted one closes the execution, and
  the same call answers `True` again exactly where the rows are repeatable, and changes nothing.
-/

namespace CyberAssess

open Python

variable {revokedTokens : List String} {now later : Instant} {a : Authority} {x : Rows}
  {jobEmpty : Bool} {c : SettleConfirmedArgs}

/-- What the replay tests of the rows that the first settlement does not. -/
structure SettleConfirmedArgs.Repeatable (c : SettleConfirmedArgs) (x : Rows) : Prop where
  level : x.recovery.escalationLevel = 0
  committed : c.terminationStatus.isProcess = true → x.ownership.launchCommitState = .committed
  unlaunched : c.terminationStatus.isProcess = false →
    x.ownership.containerType = .none ∧ x.ownership.launchCommitState = .notAttempted

/-- The rows a first settlement leaves. -/
def Rows.confirmedBy (x : Rows) (c : SettleConfirmedArgs) (now : Instant) (a : Authority) : Rows :=
  { x.settledAfterTermination c (terminationProof c now a x) now with
    attempts := c.attempt now a x :: x.attempts }

/-- The process that is settled is the one in the row. -/
theorem confirmedSettleable_root
    (h : confirmedSettleable c revokedTokens jobEmpty now a x = true) (hf : c.identityFits = true)
    (hp : c.terminationStatus.isProcess = true) : x.ownership.rootProcessId.isSome = true := by
  simp only [confirmedSettleable, hp, if_true, processSettleable, OwnershipRow.hasIdentity,
    Bool.and_eq_true, decide_eq_true_eq] at h
  obtain ⟨⟨⟨⟨⟨⟨-, ⟨⟨⟨⟨⟨-, ⟨⟨root, -⟩, -⟩, -⟩, -⟩, -⟩, -⟩, -⟩⟩, -⟩, -⟩, -⟩, -⟩, -⟩ := h
  simp only [SettleConfirmedArgs.identityFits, hp, if_true, IdentityArgs.wellFormed, Bool.and_eq_true] at hf
  rw [root]
  exact Option.isSome_of_any hf.1

/-- The process that is settled is in a POSIX session or a Windows job. -/
theorem confirmedSettleable_container
    (h : confirmedSettleable c revokedTokens jobEmpty now a x = true)
    (hp : c.terminationStatus.isProcess = true) :
    x.ownership.containerType = .posixSession ∨ x.ownership.containerType = .windowsJob := by
  simp only [confirmedSettleable, hp, if_true, settlementAttested, Bool.and_eq_true] at h
  obtain ⟨⟨⟨⟨⟨⟨⟨-, identity⟩, -⟩, -⟩, -⟩, -⟩, -⟩, -⟩ := h
  by_cases hw : x.ownership.containerType = .windowsJob
  · exact Or.inr hw
  · rw [if_neg hw] at identity
    simp only [posixOwnershipValid, Bool.and_eq_true, decide_eq_true_eq] at identity
    exact Or.inl identity.2.1

theorem settlementReplays_confirmedBy
    (h : confirmedSettleable c revokedTokens jobEmpty now a x = true)
    (hb : settlementBinding c a x = true) (hf : c.identityFits = true)
    (drawn : isBlank c.attemptId = false) :
    settlementReplays c a (x.confirmedBy c now a) = true ↔ c.Repeatable x := by
  obtain ⟨state, reason, worker, -, -⟩ :=
    settledAfterTermination_run (terminationProof c now a x) h
  obtain ⟨dispatch, -⟩ := settledAfterTermination_dispatch (terminationProof c now a x) h
  have named := confirmedSettleable_named h
  have run : x.run.workerIdentity = some a.decision.workerIdentity := by
    simp only [settlementBinding, Bool.and_eq_true, decide_eq_true_eq] at hb
    exact hb.1.1.1.1.2
  have attempt : confirmedAttempt (x.confirmedBy c now a) = some (c.attempt now a x) := rfl
  have proof : (x.confirmedBy c now a).ownership.noProcessProof =
      some (.envelope (terminationProof c now a x)) := rfl
  have closed : (x.confirmedBy c now a).ownership.terminalizedAt = some now := rfl
  have identity : withoutIdentity (x.confirmedBy c now a).ownership = withoutIdentity x.ownership := rfl
  cases hp : c.terminationStatus.isProcess with
  | true =>
      have detail : (terminationProof c now a x).detail =
          .terminationConfirmed (terminationEvidence x.ownership c.terminationStatus) := by
        simp only [terminationProof, hp, if_true]
      obtain ⟨-, -, claimed, claimed'⟩ := confirmedSettleable_process h hp
      have container := confirmedSettleable_container h hp
      have root := confirmedSettleable_root h hf hp
      have tested : settlementReplays c a (x.confirmedBy c now a) = true ↔
          x.recovery.escalationLevel = 0 ∧ x.ownership.launchCommitState = .committed := by
        unfold settlementReplays
        simp only [attempt, proof, closed, detail, Bool.and_eq_true, decide_eq_true_eq]
        simp only [Rows.confirmedBy, state, reason, dispatch, worker, run]
        simp [Rows.settledAfterTermination, RecoveryRow.confirmed, SettleConfirmedArgs.attempt,
          settlementAttempt, terminationProof, terminationEvidence, drawn, named, hp, container,
          claimed, claimed', root]
      rw [tested]
      constructor
      · rintro ⟨level, committed⟩
        exact ⟨level, fun _ => committed, fun without => (by cases without.symm.trans hp)⟩
      · rintro ⟨level, committed, -⟩
        exact ⟨level, committed hp⟩
  | false =>
      have detail : (terminationProof c now a x).detail = .noExternalProcess c.reasonCode := by
        simp only [terminationProof, hp, Bool.false_eq_true, if_false]
      obtain ⟨without, paired⟩ := confirmedSettleable_noProcess h hp
      have tested : settlementReplays c a (x.confirmedBy c now a) = true ↔
          x.recovery.escalationLevel = 0 ∧ x.ownership.containerType = .none ∧
            x.ownership.launchCommitState = .notAttempted := by
        unfold settlementReplays
        simp only [attempt, proof, closed, detail, identity, without, Bool.and_eq_true,
          decide_eq_true_eq]
        simp only [Rows.confirmedBy, state, reason, dispatch, worker, run]
        simp [Rows.settledAfterTermination, RecoveryRow.confirmed, SettleConfirmedArgs.attempt,
          settlementAttempt, terminationProof, drawn, named, hp, paired]
      rw [tested]
      constructor
      · rintro ⟨level, unlaunched⟩
        exact ⟨level, fun process => (by cases process.symm.trans hp), fun _ => unlaunched⟩
      · rintro ⟨level, -, unlaunched⟩
        exact ⟨level, unlaunched hp⟩

/-! ### What one call does -/

/-- The call is complete, well formed and bound to the rows. -/
structure SettleConfirmedArgs.Heard (c : SettleConfirmedArgs) (a : Authority) (x : Rows) : Prop where
  checked : c.check = .ok ()
  complete : c.complete = true
  fits : c.identityFits = true
  bound : settlementBinding c a x = true

/-- A call refuses, repeats a stored settlement or is the first. -/
theorem settleConfirmed_cases {y : Rows} {r : Bool}
    (h : settleExecutionAfterConfirmedTermination c revokedTokens jobEmpty now a x = .ok (r, y)) :
    (r = false ∧ y = x) ∨
      (r = true ∧ y = x ∧ c.Heard a x ∧ x.ownership.ownershipState = .terminal ∧
        (c.terminationStatus.isProcess = true → settlementAttested c jobEmpty now a x = true) ∧
        settlementReplays c a x = true) ∨
      (r = true ∧ y = x.confirmedBy c now a ∧ c.Heard a x ∧
        x.ownership.ownershipState ≠ .terminal ∧
        confirmedSettleable c revokedTokens jobEmpty now a x = true ∧
        (terminationProof c now a x).fits = true) := by
  unfold settleExecutionAfterConfirmedTermination at h
  simp only [Checked.bind_ok, Checked.exists_unit] at h
  obtain ⟨checked, h⟩ := h
  split at h
  · cases h
    exact Or.inl ⟨rfl, rfl⟩
  rename_i gate
  simp only [Bool.not_eq_true', Bool.not_eq_false, Bool.and_eq_true] at gate
  have heard : c.Heard a x := ⟨checked, gate.1.1, gate.1.2, gate.2⟩
  split at h
  · rename_i terminal
    cases hr : r with
    | false =>
        cases h
        exact Or.inl ⟨rfl, rfl⟩
    | true =>
        subst hr
        simp only [Except.ok.injEq, Prod.mk.injEq, Bool.and_eq_true, Bool.or_eq_true,
          Bool.not_eq_true'] at h
        obtain ⟨⟨attested, replayed⟩, rfl⟩ := h
        refine Or.inr (Or.inl ⟨rfl, rfl, heard, terminal, fun hp => ?_, replayed⟩)
        exact attested.resolve_left fun without => by cases without.symm.trans hp
  rename_i unended
  split at h
  · cases h
    exact Or.inl ⟨rfl, rfl⟩
  rename_i settleable
  simp only [Checked.bind_ok, Checked.exists_unit, Checked.ensure_ok, Except.ok.injEq,
    Prod.mk.injEq] at h
  obtain ⟨fits, z, appended, rfl, rfl⟩ := h
  exact Or.inr (Or.inr ⟨rfl, appendAttempt_ok appended, heard, unended, by simpa using settleable, fits⟩)

/-- A call on a row that is `TERMINAL` writes nothing. -/
theorem settleConfirmed_terminal (heard : c.Heard a x)
    (terminal : x.ownership.ownershipState = .terminal) :
    settleExecutionAfterConfirmedTermination c revokedTokens jobEmpty now a x =
      .ok ((!c.terminationStatus.isProcess || settlementAttested c jobEmpty now a x) &&
        settlementReplays c a x, x) := by
  unfold settleExecutionAfterConfirmedTermination
  rw [heard.checked, heard.complete, heard.fits, heard.bound]
  change (if _ then _ else _) = _
  rw [if_pos terminal]

/-- What was attested is still, of a row that has ended with the identity it had. -/
theorem settlementAttested_again {y : Rows} {jobEmpty' : Bool}
    (h : settlementAttested c jobEmpty now a x = true) (hl : now ≤ later)
    (terminal : y.ownership.ownershipState = .terminal)
    (attestation : y.ownership.identityAttestation = x.ownership.identityAttestation)
    (container : y.ownership.containerType = x.ownership.containerType)
    (token : y.ownership.rootProcessStartToken = x.ownership.rootProcessStartToken)
    (windows : ∀ w b t, windowsOwnershipValid y.ownership a w b t = windowsOwnershipValid x.ownership a w b t)
    (posix : ∀ g, posixOwnershipValid y.ownership g = posixOwnershipValid x.ownership g) :
    settlementAttested c jobEmpty' later a y = true := by
  unfold settlementAttested at h ⊢
  rw [attestation, container, token, posix, windows, terminal]
  simp only [Bool.and_eq_true] at h ⊢
  refine ⟨h.1, ?_⟩
  have identity := h.2
  by_cases hw : x.ownership.containerType = .windowsJob
  · rw [if_pos hw, Bool.and_eq_true] at identity
    rw [if_pos hw, Bool.and_eq_true]
    exact ⟨windows_later identity.1 hl, rfl⟩
  · rw [if_neg hw] at identity ⊢
    exact identity

/-! ### What a granted call leaves -/

/-- `proof_type`. -/
def SettleConfirmedArgs.proofType (c : SettleConfirmedArgs) : String :=
  if c.terminationStatus.isProcess then "TERMINATION_CONFIRMED" else "NO_EXTERNAL_PROCESS"

/-- The stored proof is of the settlement's type, and the text written of it is accepted. -/
def SettleConfirmedArgs.Proved (c : SettleConfirmedArgs) (p : ExecutionProof) : Prop :=
  p.terminalState = c.terminalState ∧ p.reasonCode = some c.reasonCode ∧
    p.detail.proofType = c.proofType ∧
    ∀ (sha : HexSha256) (text : String),
      encodeExecutionProof sha c.proofType (p.payload sha) = .ok text →
        decodeExecutionProof sha text (some c.proofType) =
          .ok (sortMembers (canonicalMembers (p.payload sha)))

/-- The execution is closed as the call asked. -/
structure SettleConfirmedArgs.Closed (c : SettleConfirmedArgs) (y : Rows) : Prop where
  state : y.run.state = c.terminalState
  ended : c.terminalState.isTerminal = true
  reason : y.run.reasonCode = some c.reasonCode
  dispatch : y.dispatch.state = safeDispatchState c.terminalState
  ownership : y.ownership.ownershipState = .terminal
  proof : ∃ p, y.ownership.noProcessProof = some (.envelope p) ∧ c.Proved p

theorem SettleConfirmedArgs.Proved.of {p : ExecutionProof} (state : p.terminalState = c.terminalState)
    (reason : p.reasonCode = some c.reasonCode) (type : p.detail.proofType = c.proofType) :
    c.Proved p := by
  refine ⟨state, reason, type, fun sha text written => ?_⟩
  rw [← type] at written ⊢
  exact decode_stored sha written

/-- A stored settlement is closed. -/
theorem closed_of_replays (heard : c.Heard a x) (terminal : x.ownership.ownershipState = .terminal)
    (h : settlementReplays c a x = true) : c.Closed x := by
  obtain ⟨-, valid⟩ := settleConfirmed_check heard.checked heard.complete
  obtain ⟨state, reason⟩ := settlementReplays_run h
  unfold settlementReplays at h
  split at h
  · rename_i p t stamp stored _ _
    simp only [Bool.and_eq_true, decide_eq_true_eq] at h
    have type : p.detail.proofType = c.proofType := by
      have detail := h.2
      unfold SettleConfirmedArgs.proofType
      cases hd : p.detail with
      | noExternalProcess code =>
          simp only [hd, Bool.and_eq_true, Bool.not_eq_true'] at detail
          rw [if_neg (by rw [detail.1.1.1.1.1]; nofun)]
          rfl
      | terminationConfirmed e =>
          simp only [hd, Bool.and_eq_true] at detail
          rw [if_pos detail.1.1.1.1.1.1]
          rfl
    refine ⟨state, isTerminal_of_valid valid, reason, ?_, terminal, p, stored, .of ?_ ?_ type⟩ <;> tauto
  · cases h

/-- So is a first one. -/
theorem closed_confirmedBy (heard : c.Heard a x)
    (h : confirmedSettleable c revokedTokens jobEmpty now a x = true) :
    c.Closed (x.confirmedBy c now a) := by
  obtain ⟨-, valid⟩ := settleConfirmed_check heard.checked heard.complete
  obtain ⟨state, reason, -⟩ := settledAfterTermination_run (terminationProof c now a x) h
  obtain ⟨dispatch, -⟩ := settledAfterTermination_dispatch (terminationProof c now a x) h
  refine ⟨state, isTerminal_of_valid valid, reason, dispatch, rfl, _, rfl, .of rfl rfl ?_⟩
  unfold terminationProof SettleConfirmedArgs.proofType
  cases c.terminationStatus.isProcess <;> rfl

/-! ### The same call again -/

/-- The replay does not read the drawn id. -/
theorem settlementReplays_attemptId (attemptId : String) :
    settlementReplays { c with attemptId := attemptId } a x = settlementReplays c a x := rfl

/-- The same call, at another time, with another drawn id. -/
theorem again_confirmedBy (jobEmpty' : Bool) (attemptId : String) (heard : c.Heard a x)
    (h : confirmedSettleable c revokedTokens jobEmpty now a x = true)
    (drawn : isBlank c.attemptId = false) (hl : now ≤ later) (tokens : List String) :
    ∃ again, settleExecutionAfterConfirmedTermination { c with attemptId := attemptId } tokens
        jobEmpty' later a (x.confirmedBy c now a) = .ok (again, x.confirmedBy c now a) ∧
      (again = true ↔ c.Repeatable x) := by
  have heard' : SettleConfirmedArgs.Heard { c with attemptId := attemptId } a (x.confirmedBy c now a) := by
    refine ⟨heard.checked, heard.complete, heard.fits, ?_⟩
    obtain ⟨-, -, worker, -⟩ := settledAfterTermination_run (terminationProof c now a x) h
    have bound := heard.bound
    unfold settlementBinding at bound ⊢
    rw [show (x.confirmedBy c now a).run.workerIdentity = x.run.workerIdentity from worker]
    exact bound
  refine ⟨_, settleConfirmed_terminal heard' rfl, ?_⟩
  have replayed := settlementReplays_confirmedBy h heard.bound heard.fits drawn
  have attested : (!c.terminationStatus.isProcess ||
      settlementAttested { c with attemptId := attemptId } jobEmpty' later a (x.confirmedBy c now a)) =
        true := by
    cases hp : c.terminationStatus.isProcess with
    | false => rfl
    | true =>
        simp only [confirmedSettleable, hp, if_true, Bool.and_eq_true] at h
        have first := h.1.1.1.1.1.1
        exact settlementAttested_again (y := x.confirmedBy c now a) first hl rfl rfl rfl rfl
          (fun _ _ _ => rfl) fun _ => rfl
  rw [settlementReplays_attemptId]
  change ((!c.terminationStatus.isProcess || _) && _) = true ↔ _
  rw [attested, Bool.true_and]
  exact replayed

theorem again_replayed {jobEmpty' : Bool} (attemptId : String) (heard : c.Heard a x)
    (terminal : x.ownership.ownershipState = .terminal)
    (attested : c.terminationStatus.isProcess = true → settlementAttested c jobEmpty now a x = true)
    (replayed : settlementReplays c a x = true) (hl : now ≤ later) (tokens : List String) :
    settleExecutionAfterConfirmedTermination { c with attemptId := attemptId } tokens jobEmpty' later a x
      = .ok (true, x) := by
  have heard' : SettleConfirmedArgs.Heard { c with attemptId := attemptId } a x :=
    ⟨heard.checked, heard.complete, heard.fits, heard.bound⟩
  rw [settleConfirmed_terminal heard' terminal, settlementReplays_attemptId, replayed, Bool.and_true]
  change Except.ok (!c.terminationStatus.isProcess || _, x) = _
  cases hp : c.terminationStatus.isProcess with
  | false => rfl
  | true =>
      have still : settlementAttested { c with attemptId := attemptId } jobEmpty' later a x = true :=
        settlementAttested_again (attested hp) hl terminal rfl rfl rfl (fun _ _ _ => rfl) fun _ => rfl
      rw [still]
      rfl

/-! ### On the database -/

/-- The settlement, as its caller sees it. -/
abbrev Db.settlesConfirmed (db : Db) (c : SettleConfirmedArgs) (jobEmpty : Bool) (now : Instant) :
    Except DbError (Bool × Db) :=
  db.answers (.settleConfirmed c jobEmpty) now

/-- The answer on rows that are there. -/
theorem settlesConfirmed_found {db : Db} {e : Execution}
    (found : db.addressed (.settleConfirmed c jobEmpty) = some e) :
    db.settlesConfirmed c jobEmpty now =
      (settleExecutionAfterConfirmedTermination c db.revokedTokens jobEmpty now e.fixed e.data).map
        fun r => (r.1, db.setRows e r.2) := by
  rw [Db.settlesConfirmed, Db.answers, Db.execute_found found]
  change Except.map _ (Except.map _ (Except.map _ _)) = _
  cases settleExecutionAfterConfirmedTermination c db.revokedTokens jobEmpty now e.fixed e.data <;> rfl

/-- A refused settlement writes nothing. -/
theorem settlesConfirmed_refused {db db' : Db}
    (h : db.settlesConfirmed c jobEmpty now = .ok (false, db')) : db' = db := by
  cases found : db.addressed (.settleConfirmed c jobEmpty) with
  | none =>
      rw [Db.settlesConfirmed, Db.answers, Checked.map_ok] at h
      obtain ⟨⟨r, z⟩, h, same⟩ := h
      unfold Db.execute at h
      rw [found] at h
      obtain ⟨r', -, he⟩ := Checked.map_ok.mp h
      exact (congrArg Prod.snd same).symm.trans (congrArg Prod.snd he).symm
  | some e =>
      rw [settlesConfirmed_found found, Checked.map_ok] at h
      obtain ⟨⟨r, y⟩, h, same⟩ := h
      obtain rfl : r = false := congrArg Prod.fst same
      obtain rfl : db.setRows e y = db' := congrArg Prod.snd same
      have kept := Db.setRows_same (Db.addressed_eq_some.mp found).1
      rcases settleConfirmed_cases h with ⟨-, rfl⟩ | ⟨hr, -⟩ | ⟨hr, -⟩
      · exact kept
      · cases hr
      · cases hr

/-- A granted settlement found its rows. -/
theorem settlesConfirmed_granted {db db' : Db}
    (h : db.settlesConfirmed c jobEmpty now = .ok (true, db')) :
    ∃ e y, db.addressed (.settleConfirmed c jobEmpty) = some e ∧ db' = db.setRows e y ∧
      settleExecutionAfterConfirmedTermination c db.revokedTokens jobEmpty now e.fixed e.data =
        .ok (true, y) := by
  cases found : db.addressed (.settleConfirmed c jobEmpty) with
  | none =>
      rw [Db.settlesConfirmed, Db.answers, Checked.map_ok] at h
      obtain ⟨⟨r, z⟩, h, same⟩ := h
      unfold Db.execute at h
      rw [found] at h
      obtain ⟨r', missing, he⟩ := Checked.map_ok.mp h
      obtain ⟨-, -, rfl⟩ := Checked.map_ok.mp missing
      obtain rfl : Response.done false = r := congrArg Prod.fst he
      cases congrArg Prod.fst same
  | some e =>
      rw [settlesConfirmed_found found, Checked.map_ok] at h
      obtain ⟨⟨r, y⟩, h, same⟩ := h
      obtain rfl : r = true := congrArg Prod.fst same
      exact ⟨e, y, rfl, (congrArg Prod.snd same).symm, h⟩

/-- **A settlement is all or nothing, and its repetition.** -/
theorem settlement_repeats (c : SettleConfirmedArgs) (jobEmpty : Bool) (now : Instant) (db : Db)
    (drawn : isBlank c.attemptId = false) :
    (∀ db', db.settlesConfirmed c jobEmpty now = .ok (false, db') → db' = db) ∧
      ∀ db', db.settlesConfirmed c jobEmpty now = .ok (true, db') →
        ∃ e y, db.addressed (.settleConfirmed c jobEmpty) = some e ∧ db' = db.setRows e y ∧
          c.Closed y ∧
          ∀ (later : Instant) (jobEmpty' : Bool) (attemptId : String), now ≤ later →
            ∃ again,
              db'.settlesConfirmed { c with attemptId := attemptId } jobEmpty' later =
                .ok (again, db') ∧
              (again = true ↔
                e.data.ownership.ownershipState = .terminal ∨ c.Repeatable e.data) := by
  refine ⟨fun db' h => settlesConfirmed_refused h, fun db' h => ?_⟩
  obtain ⟨e, y, found, rfl, settled⟩ := settlesConfirmed_granted h
  obtain ⟨he, hk, horg⟩ := Db.addressed_eq_some.mp found
  have foundAgain (attemptId : String) (jobEmpty' : Bool) :
      (db.setRows e y).addressed (.settleConfirmed { c with attemptId := attemptId } jobEmpty') =
        some ⟨e.fixed, y⟩ :=
    Db.addressed_eq_some.mpr ⟨(Db.mem_setRows_self he).mpr rfl, hk, horg⟩
  refine ⟨e, y, found, rfl, ?_⟩
  rcases settleConfirmed_cases settled with
    ⟨refused, -⟩ | ⟨-, rfl, heard, terminal, attested, replayed⟩ |
      ⟨-, rfl, heard, unended, settleable, -⟩
  · cases refused
  · refine ⟨closed_of_replays heard terminal replayed, fun later jobEmpty' attemptId hl =>
      ⟨true, ?_, by simp [terminal]⟩⟩
    rw [settlesConfirmed_found (foundAgain attemptId jobEmpty'),
      again_replayed attemptId heard terminal attested replayed hl]
    change Except.ok (true, (db.setRows e e.data).setRows ⟨e.fixed, e.data⟩ e.data) = _
    rw [Db.setRows_setRows]
  · refine ⟨closed_confirmedBy heard settleable, fun later jobEmpty' attemptId hl => ?_⟩
    obtain ⟨again, answer, repeats⟩ := again_confirmedBy jobEmpty' attemptId heard
      settleable drawn hl (db.setRows e (e.data.confirmedBy c now e.fixed)).revokedTokens
    refine ⟨again, ?_, repeats.trans ⟨Or.inr, fun h => h.resolve_left unended⟩⟩
    rw [settlesConfirmed_found (foundAgain attemptId jobEmpty'), answer]
    change Except.ok (again, Db.setRows _ ⟨e.fixed, _⟩ _) = _
    rw [Db.setRows_setRows]

/-! ### A process whose launch was never committed -/

namespace Sample

/-- A governed process under an uncertain launch, revoked while it runs. -/
def undecided : List (Instant × Operation) :=
  claimed ++
    [(seconds 3, .call (.transitionOwnership
        { governed with record := { governed.record with launchCommitState := .uncertain } })),
      (seconds 4, .call (.revokeRequest ⟨"req-a", "org-a", "admin-a"⟩))]

/-- The same under a committed launch. -/
def decided : List (Instant × Operation) :=
  claimed ++
    [(seconds 3, .call (.transitionOwnership governed)),
      (seconds 4, .call (.revokeRequest ⟨"req-a", "org-a", "admin-a"⟩))]

/-- The settlement of the killed process. -/
def killing : SettleConfirmedArgs where
  executionId := "run-a"
  organizationId := "org-a"
  terminalState := .cancelled
  reasonCode := .executionCancelled
  terminationStatus := .killed
  identity := ⟨some 4242, some "4242", some "posix:0000-0000:77", some 4242⟩
  workerGeneration := some "generation-a"
  workerIdentity := some "worker-a"
  identityAttestation := none
  actor := "process-supervisor"
  attemptId := "termination-a"

/-- The answers to the settlement and to the same settlement a second later. -/
def killedTwice (db : Db) : Option (Bool × Bool) := do
  let first ← (db.settlesConfirmed killing false (seconds 5)).toOption
  let second ← (first.2.settlesConfirmed { killing with attemptId := "termination-b" } true
    (seconds 6)).toOption
  return (first.1, second.1)

theorem killedTwice_eq_some {db : Db} {r : Bool × Bool} (h : killedTwice db = some r) :
    ∃ db' db'', db.settlesConfirmed killing false (seconds 5) = .ok (r.1, db') ∧
      db'.settlesConfirmed { killing with attemptId := "termination-b" } true (seconds 6) =
        .ok (r.2, db'') := by
  simp only [killedTwice, Option.bind_eq_bind, Option.bind_eq_some_iff, Option.pure_def,
    Option.some.injEq, Checked.toOption_eq_some] at h
  obtain ⟨first, answered, second, again, rfl⟩ := h
  exact ⟨first.2, second.2, answered, again⟩

/-- Under a committed launch the settlement is repeated. -/
theorem decided_repeated :
    ∃ db', (tenant.afterAll gateway decided).settlesConfirmed killing false (seconds 5) =
        .ok (true, db') ∧
      db'.settlesConfirmed { killing with attemptId := "termination-b" } true (seconds 6) =
        .ok (true, db') := by
  obtain ⟨db', db'', first, second⟩ := killedTwice_eq_some
    (show killedTwice (tenant.afterAll gateway decided) = some (true, true) by decide +kernel)
  obtain ⟨e, y, -, rfl, -, repeats⟩ := (settlement_repeats killing false (seconds 5)
    (tenant.afterAll gateway decided) (by decide)).2 db' first
  obtain ⟨again, answer, -⟩ := repeats (seconds 6) true "termination-b" (by decide)
  obtain rfl : true = again := congrArg Prod.fst (Except.ok.inj (second.symm.trans answer))
  exact ⟨_, first, answer⟩

/-- **Under an uncertain one it is not**, though every call that led there was the code's own. -/
theorem undecided_not_repeated :
    ¬ ∀ (g : Gateway) (db db' : Db) (c : SettleConfirmedArgs) (jobEmpty jobEmpty' : Bool)
      (now later : Instant) (attemptId : String), db.Reachable g → isBlank c.attemptId = false →
      now ≤ later → db.settlesConfirmed c jobEmpty now = .ok (true, db') →
      ∃ db'', db'.settlesConfirmed { c with attemptId := attemptId } jobEmpty' later =
        .ok (true, db'') := by
  intro repeated
  obtain ⟨db', db'', first, second⟩ := killedTwice_eq_some
    (show killedTwice (tenant.afterAll gateway undecided) = some (true, false) by decide +kernel)
  obtain ⟨z, again⟩ := repeated gateway _ db' killing false true (seconds 5) (seconds 6)
    "termination-b" (reachable_afterAll initial undecided) (by decide) (by decide) first
  cases congrArg Prod.fst (Except.ok.inj (second.symm.trans again))

end Sample

end CyberAssess
