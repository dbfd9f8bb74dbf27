import CyberAssess.Guarantees.MigrationBlock

/-!
# Guarantees — a start that nothing disturbs completes the schema

From every database that no interrupted attempt blocks, a process whose statements all succeed applies
what is missing and is ready.

* `planMigrations_settled`: a settled database passes the checks of the coordinator.
* `Moves` is what one process does with nothing that fails; `run_of_moves` makes it a run of the system.
* `Fresh` identities do not collide; `migrate` applies the next migration, `migrateAll` what is left.
* `startup_completes`: the run, from any reachable system with a free lock; where all migrations had
  been applied it writes nothing.
-/

namespace CyberAssess.Migration

open Python
open Checked (each bind_ok exists_unit ensure_ok refuse_ok each_ok)
open Transition (Run Reachable)

variable {backend : Backend}

/-! ### Planning -/

section Planning

variable {db : Database} {history : List (Completed backend)}

theorem completedVersions_recorded (history : List (Completed backend)) :
    completedVersions (recorded history) = versionsOf history := by
  induction history with
  | nil => rfl
  | cons c history ih =>
      rw [show c :: history = [c] ++ history from rfl, recorded_append, recorded_singleton,
        completedVersions, List.filter_append, List.map_append, versionsOf_append, ← ih]
      rfl

/-- The `SUCCEEDED` events of a history carry the identities of the registry. -/
theorem successIdentity_recorded {spec : MigrationSpec} (known : spec ∈ migrationRegistry) :
    successIdentity (recorded history) spec = true := by
  rw [successIdentity, Option.all_eq_true_iff_get]
  intro found
  have last := List.mem_of_getLast? (Option.some_get found).symm
  rw [List.mem_filter] at last
  generalize (Option.get _ found) = row at last ⊢
  obtain ⟨member, type⟩ := last
  simp only [Bool.and_eq_true, decide_eq_true_eq] at type
  obtain ⟨c, -, hrow⟩ := mem_recorded.mp member
  have identity : row.migrationVersion = c.spec.version ∧ row.migrationId = c.spec.migrationId ∧
      row.registryRevision = c.spec.registryRevision ∧
      row.migrationChecksum = digestText c.spec.checksum := by
    simp only [Completed.rows, List.mem_cons, List.not_mem_nil, or_false] at hrow
    rcases hrow with rfl | rfl
    · exact ⟨rfl, rfl, rfl, rfl⟩
    · exact ⟨rfl, rfl, rfl, rfl⟩
  -- a version stands for one specification of the registry
  have same : c.spec = spec := by
    have one := specOf_version c.known
    rw [← identity.1, type.2, specOf_version known] at one
    exact (Option.some.inj one).symm
  simp [identity, same]

theorem contiguous_range {n : Nat} (h : n ≤ 13) : contiguous (List.range' 1 n) = true := by
  have all : ∀ m ≤ 13, contiguous (List.range' 1 m) = true := by decide
  exact all n h

/-- A settled database passes the checks of the coordinator. -/
theorem planMigrations_settled (h : Settled db history) (allowUnresolved : Bool)
    (schemaDigest : String) : planMigrations allowUnresolved schemaDigest db = .ok () := by
  have types := types_of_sound (.settled h)
  have unmarked (row : EventRow) (hr : row ∈ db.rows) :
      row.eventType ≠ .reconciliationRequired ∧ row.eventType ≠ .reconciliationResolved := by
    rcases types row hr with type | type <;> simp [type]
  have resolved : db.rows.filter (fun row => row.eventType = .reconciliationResolved) = [] :=
    List.filter_eq_nil_iff.mpr fun row hr => by simpa using (unmarked row hr).2
  have none : unresolved db.rows = false := by
    rw [unresolved, List.any_eq_false]
    intro row hr
    simp [(unmarked row hr).1]
  have versions := h.applied.trans h.toOrdered.versions
  have bound := h.toOrdered.length_le
  simp only [planMigrations, bind_ok, exists_unit, ensure_ok, refuse_ok, resolved, none, each_ok]
  refine ⟨by simp, by simp, ?_, ?_, ?_, ?_⟩
  · rw [versions, registry_versions, List.all_eq_true]
    intro v hv
    rw [List.mem_range'_1] at hv
    simp only [decide_eq_true_eq, List.mem_range'_1]
    omega
  · rw [versions]
    exact contiguous_range bound
  · rw [h.rows, completedVersions_recorded, h.applied, List.all_eq_true]
    intro v hv
    simpa using hv
  · rw [h.rows, List.all_eq_true]
    exact fun spec known => successIdentity_recorded known

end Planning

/-! ### One process at a time -/

section Moves

variable {ι : Type} [DecidableEq ι]

/-- The system with a process and a database in place of what they are. -/
def System.with (s : System ι) (i : ι) (c : Manager × Database) : System ι :=
  { s.put i c.1 with db := c.2 }

/-- Nothing fails in the action. -/
def Action.smooth : Action → Bool
  | .ensure _ _ fault | .guard fault | .plan _ fault | .begin _ _ _ _ fault | .succeed _ _ fault
  | .handle _ _ _ _ _ fault | .resolve _ fault => fault = .none
  | .apply _ raises | .verify raises | .verifySchema raises => !raises
  | .construct _ | .acquire | .skip | .release => true
  | .crash => false

/-- What a process does away from the lock, with nothing that fails. -/
def Moves (backend : Backend) (schemaName : String) (c : Manager × Database) (a : Action)
    (d : Manager × Database) : Prop :=
  a.smooth = true ∧ c.1.act backend schemaName c.2 c.1.stage a = some d

theorem with_with (s : System ι) (i : ι) (c d : Manager × Database) :
    (s.with i c).with i d = s.with i d := by
  simp [System.with, System.put]

theorem with_manager (s : System ι) (i : ι) (c : Manager × Database) :
    (s.with i c).manager i = c.1 := by
  simp [System.with]

/-- A move is a step of the system. -/
theorem step_of_moves {schemaName : String} {s : System ι} {i : ι} {a : Action}
    {c d : Manager × Database} (h : Moves backend schemaName c a d) :
    System.Step backend schemaName (s.with i c) (i, a) (s.with i d) := by
  have acts : ((s.with i c).manager i).act backend schemaName (s.with i c).db
      ((s.with i c).manager i).stage a = some d := by
    rw [with_manager]
    exact h.2
  have next : ((s.with i c).act backend schemaName i a) = some ((s.with i c).with i d) := by
    cases a with
    | construct | acquire | release | crash =>
        rw [with_manager] at acts
        cases stage : c.1.stage <;> simp [stage, Manager.act] at acts
    | _ =>
        simp only [System.act, acts, Option.map_some]
        rfl
  rw [System.Step, next, with_with]

/-- A run of moves is a run of the system, all of one process. -/
theorem run_of_moves {schemaName : String} {s : System ι} {i : ι} {as : List Action}
    {c d : Manager × Database} (h : Run (Moves backend schemaName) c as d) :
    Run (System.Step backend schemaName) (s.with i c) (as.map fun a => (i, a)) (s.with i d) := by
  induction h with
  | refl c => exact .refl _
  | more first _ ih => exact .more (step_of_moves first) ih

/-- Nothing fails in a run of moves. -/
theorem smooth_of_moves {schemaName : String} {as : List Action} {c d : Manager × Database}
    (h : Run (Moves backend schemaName) c as d) : ∀ a ∈ as, a.smooth = true := by
  induction h with
  | refl c => simp
  | more first _ ih => exact List.forall_mem_cons.mpr ⟨first.1, ih⟩

end Moves

/-! ### One migration -/

/-- The identities below 52, four for each migration, differ. -/
def Distinct (ids : Nat → UuidHex) : Prop :=
  ∀ k < 52, ∀ l < 52, (ids k).text = (ids l).text → k = l

/-- None of the identities from `n` on is in the rows. -/
def Fresh (ids : Nat → UuidHex) (n : Nat) (rows : List EventRow) : Prop :=
  ∀ k, n ≤ k → k < 52 → ∀ row ∈ rows,
    row.eventId ≠ "event-" ++ (ids k).text ∧ row.attemptId ≠ "mig-" ++ (ids k).text

theorem insertEvent_free {rows : List EventRow} {row : EventRow} (h : collides rows row = false) :
    insertEvent rows row = .ok (rows ++ [row]) := by
  rw [insertEvent, h]
  rfl

section Migrate

variable (schemaName : String) {m : Manager} {db : Database} {history : List (Completed backend)}
  {spec : MigrationSpec} {rest : List MigrationSpec} {applied completed : List Nat}
  {ids : Nat → UuidHex}

/-- What the loop stands at: a settled database, identities that are still free, and the migrations that
are left. -/
structure Ready (backend : Backend) (ids : Nat → UuidHex) (completed : List Nat)
    (c : Manager × Database) (history : List (Completed backend)) : Prop where
  settled : Settled c.2 history
  fresh : Fresh ids (4 * history.length) c.2.rows
  stage : c.1.stage =
    .looping (versionsOf history) completed (migrationRegistry.drop history.length)

/-- The next migration is applied. -/
theorem migrate (distinct : Distinct ids) (now : Timestamp) {c : Manager × Database}
    (h : Ready backend ids completed c history) (more : history.length < 13) :
    ∃ as d last, Run (Moves backend schemaName) c as d ∧
      Ready backend ids completed d (history ++ [last]) := by
  obtain ⟨m, db⟩ := c
  obtain ⟨settled, fresh, stage⟩ := h
  set n := history.length with hn
  have size : n < migrationRegistry.length := more
  obtain ⟨spec, next⟩ : ∃ spec, migrationRegistry[n]? = some spec :=
    ⟨_, List.getElem?_eq_getElem size⟩
  have left : migrationRegistry.drop n = spec :: migrationRegistry.drop (n + 1) := by
    obtain ⟨_, value⟩ := List.getElem?_eq_some_iff.mp next
    rw [← value, List.cons_getElem_drop_succ]
  obtain ⟨-, version⟩ := version_at next
  have known : spec ∈ migrationRegistry := List.mem_of_getElem? next
  obtain ⟨identity, named⟩ := forwardIdentity_ok known backend
  let a : Attempt backend := ⟨spec, known, identity, named, ids (4 * n), ids (4 * n + 1), schemaName,
    ids (4 * n + 2), now⟩
  have missing : spec.version ∉ versionsOf history := by
    rw [settled.toOrdered.versions, List.mem_range'_1, version]
    omega
  -- neither row collides
  have startFree : collides db.rows a.startRow = false := by
    rw [collides, List.any_eq_false]
    intro row hr
    have event := (fresh (4 * n + 2) (by omega) (by omega) row hr).1
    have attempt := (fresh (4 * n) (by omega) (by omega) row hr).2
    have first : row.eventId ≠ a.startRow.eventId := event
    have second : row.attemptId ≠ a.startRow.attemptId := attempt
    simp [first, second]
  have begun := settled.begin (a := a) next (insertEvent_free startFree)
  have effect := begun.applyVersion spec.version
  rw [show decide (0 < spec.version) = true by rw [version]; rfl] at effect
  have endFree : collides (applyVersion spec.version spec.version
      (db.withRows (db.rows ++ [a.startRow]))).rows (a.endRow (ids (4 * n + 3)) now) = false := by
    rw [effect.rows, ← settled.rows, collides, List.any_eq_false]
    intro row hr
    rcases List.mem_append.mp hr with hr | hr
    · have event := (fresh (4 * n + 3) (by omega) (by omega) row hr).1
      have attempt := (fresh (4 * n) (by omega) (by omega) row hr).2
      have first : row.eventId ≠ (a.endRow (ids (4 * n + 3)) now).eventId := event
      have second : row.attemptId ≠ (a.endRow (ids (4 * n + 3)) now).attemptId := attempt
      simp [first, second]
    · obtain rfl := List.mem_singleton.mp hr
      have other : (ids (4 * n + 2)).text ≠ (ids (4 * n + 3)).text := fun same => by
        have := distinct _ (by omega) _ (by omega) same
        omega
      simp [Attempt.startRow, Attempt.endRow, eventRow, a, other]
  -- the four actions, one after the other
  set started : Manager × Database := ({ m with
      attempt := some (a.kept, spec)
      startedDurable := true
      stage := .started (versionsOf history) completed spec (migrationRegistry.drop (n + 1)) },
    db.withRows (db.rows ++ [a.startRow])) with hstarted
  have one : Moves backend schemaName (m, db)
      (.begin (ids (4 * n)) (ids (4 * n + 1)) (ids (4 * n + 2)) now .none) started := by
    have kept : newAttempt spec backend schemaName (ids (4 * n)) (ids (4 * n + 1)) = .ok a.kept :=
      a.newAttempt_eq
    have row : recordMigrationEvent backend spec a.kept (ids (4 * n + 2)) now .started 1 .pending
        db.rows = .ok (db.rows ++ [a.startRow]) :=
      (a.recordStart db.rows).trans (insertEvent_free startFree)
    refine ⟨rfl, ?_⟩
    rw [stage, left]
    simp only [Manager.act, if_neg missing, Manager.beginAttempt, kept, row, Manager.commit]
    rfl
  set applied : Database := applyVersion spec.version spec.version started.2 with happlied
  have two : Moves backend schemaName started (.apply 0 false)
      (started.1.goTo (.effected (versionsOf history) completed spec
        (migrationRegistry.drop (n + 1))), applied) := ⟨rfl, rfl⟩
  have three : Moves backend schemaName
      (started.1.goTo (.effected (versionsOf history) completed spec
        (migrationRegistry.drop (n + 1))), applied) (.verify false)
      (started.1.goTo (.verified (versionsOf history) completed spec
        (migrationRegistry.drop (n + 1))), applied) := ⟨rfl, rfl⟩
  have four : Moves backend schemaName
      (started.1.goTo (.verified (versionsOf history) completed spec
        (migrationRegistry.drop (n + 1))), applied) (.succeed (ids (4 * n + 3)) now .none)
      ({ started.1 with
        startedDurable := false
        stage := .looping (versionsOf history ++ [spec.version]) completed
          (migrationRegistry.drop (n + 1)) },
        applied.withRows (applied.rows ++ [a.endRow (ids (4 * n + 3)) now])) := by
    have row : recordMigrationEvent backend spec a.kept (ids (4 * n + 3)) now .succeeded 2
        .notApplicable applied.rows = .ok (applied.rows ++ [a.endRow (ids (4 * n + 3)) now]) :=
      (a.recordEnd _ now applied.rows).trans (insertEvent_free endFree)
    refine ⟨rfl, ?_⟩
    simp only [Manager.act, Manager.goTo, Manager.succeedAttempt, hstarted, row, Manager.commit]
  have done := effect.succeed (insertEvent_free endFree)
  refine ⟨_, _, ⟨a, ids (4 * n + 3), now⟩,
    .more one (.more two (.more three (.more four (.refl _)))), done, ?_, ?_⟩
  · -- the two rows use the four identities of this migration
    intro k low high row hr
    rw [List.length_append, List.length_singleton, ← hn] at low
    have differ (l : Nat) (hl : l < 4 * n + 4) : (ids l).text ≠ (ids k).text := fun same => by
      have := distinct l (by omega) k high same
      omega
    rw [done.rows, recorded_append, recorded_singleton, ← settled.rows] at hr
    rcases List.mem_append.mp hr with hr | hr
    · exact fresh k (by omega) high row hr
    · simp only [Completed.rows, List.mem_cons, List.not_mem_nil, or_false] at hr
      rcases hr with rfl | rfl
      · simp [Attempt.startRow, eventRow, Attempt.kept, a, differ (4 * n) (by omega),
          differ (4 * n + 2) (by omega)]
      · simp [Attempt.endRow, eventRow, Attempt.kept, a, differ (4 * n) (by omega),
          differ (4 * n + 3) (by omega)]
  · simp only [versionsOf_append, List.length_append, List.length_singleton, ← hn]
    rfl

/-- What is left is applied. -/
theorem migrateAll (distinct : Distinct ids) (now : Timestamp) :
    ∀ (left : Nat) {c : Manager × Database} {history : List (Completed backend)},
      Ready backend ids completed c history → history.length + left = 13 →
      ∃ as d, ∃ final : List (Completed backend), Run (Moves backend schemaName) c as d ∧
        Ready backend ids completed d final ∧ final.length = 13 ∧ (left = 0 → d = c)
  | 0, c, history, h, size => ⟨[], c, history, .refl c, h, size, fun _ => rfl⟩
  | left + 1, c, history, h, size => by
      obtain ⟨as, d, last, first, next⟩ := migrate schemaName distinct now h
        (by omega)
      obtain ⟨more, e, final, rest, ready, all, -⟩ := migrateAll distinct now left next (by
        rw [List.length_append, List.length_singleton]
        omega)
      exact ⟨as ++ more, e, final, first.append rest, ready, all, by simp⟩

end Migrate

/-! ### From the lock to the loop -/

section Startup

variable (schemaName : String) {m : Manager} {db : Database} {history : List (Completed backend)}

/-- Migrations that have been applied are skipped. -/
theorem skip (h : Settled db history) :
    ∀ (left k : Nat), k + left = history.length →
      Run (Moves backend schemaName)
        (m.goTo (.looping (versionsOf history) (versionsOf history) (migrationRegistry.drop k)), db)
        (List.replicate left .skip)
        (m.goTo (.looping (versionsOf history) (versionsOf history)
          (migrationRegistry.drop history.length)), db)
  | 0, k, size => by
      obtain rfl : k = history.length := by omega
      exact .refl _
  | left + 1, k, size => by
      have bound := h.toOrdered.length_le
      have size' : k < migrationRegistry.length := by
        have all : migrationRegistry.length = 13 := rfl
        omega
      obtain ⟨spec, next⟩ : ∃ spec, migrationRegistry[k]? = some spec :=
        ⟨_, List.getElem?_eq_getElem size'⟩
      have split : migrationRegistry.drop k = spec :: migrationRegistry.drop (k + 1) := by
        obtain ⟨_, value⟩ := List.getElem?_eq_some_iff.mp next
        rw [← value, List.cons_getElem_drop_succ]
      have member : spec.version ∈ versionsOf history := by
        rw [h.toOrdered.versions, List.mem_range'_1, (version_at next).2]
        omega
      refine .more ⟨rfl, ?_⟩ (skip h left (k + 1) (by omega))
      rw [split]
      simp [Manager.goTo, Manager.act, member]

/-- From the ledger to the loop: the coordinator plans, and skips what has been applied. -/
theorem toLoop (h : Settled db history) (schemaDigest : String) (stage : m.stage = .planning) :
    Run (Moves backend schemaName) (m, db)
      (.plan schemaDigest .none :: List.replicate history.length .skip)
      (m.goTo (.looping (versionsOf history) (versionsOf history)
        (migrationRegistry.drop history.length)), db) := by
  refine .more ⟨rfl, ?_⟩ (skip schemaName h history.length 0 (by omega))
  have plan := planMigrations_settled h m.allowUnresolved schemaDigest
  rw [stage]
  simp only [Manager.act, Manager.planned, plan, Manager.commit, h.applied, h.rows,
    completedVersions_recorded, List.drop_zero]

/-- The ledger is ensured: a settled one is left as it is. -/
theorem ensure_settled (h : Settled db history) (fresh : String → UuidHex) (now : Timestamp)
    (stage : m.stage = .locked) (normal : m.allowUnresolved = false) :
    Moves backend schemaName (m, db) (.ensure fresh now .none) (m.goTo .planning, db) := by
  refine ⟨rfl, ?_⟩
  have ledger := ensureMigrationLedger_settled h.toOrdered fresh now
  rw [stage]
  simp only [Manager.act, Manager.ensureLedger, h.ledger, ledger, Manager.commit, Manager.ensured,
    normal]
  rw [← h.ledger]
  rfl

/-- A new ledger is created with all its triggers. -/
theorem ensure_untouched (backend : Backend) (fresh : String → UuidHex) (now : Timestamp) (stage : m.stage = .locked)
    (normal : m.allowUnresolved = false) :
    ∃ as, Run (Moves backend schemaName) (m, ⟨none, none⟩) as
      (m.goTo .planning, ⟨some ⟨[], appendOnly backend⟩, none⟩) := by
  cases backend with
  | postgresql =>
      refine ⟨[.ensure fresh now .none], .single ⟨rfl, ?_⟩⟩
      rw [stage]
      simp [Manager.act, Manager.ensureLedger, Manager.commit, Manager.ensured, normal]
  | sqlite =>
      -- two triggers, and the verification of the whole
      refine ⟨[.ensure fresh now .none, .guard .none, .guard .none, .guard .none],
        .more (t := (m.goTo (.guarding [.noUpdate, .noDelete]), ⟨some ⟨[], []⟩, none⟩)) ⟨rfl, ?_⟩
        (.more (t := (m.goTo (.guarding [.noDelete]), ⟨some ⟨[], [.noUpdate]⟩, none⟩)) ⟨rfl, rfl⟩
          (.more (t := (m.goTo (.guarding []), ⟨some ⟨[], [.noUpdate, .noDelete]⟩, none⟩)) ⟨rfl, rfl⟩
            (.single ⟨rfl, ?_⟩)))⟩
      · rw [stage]
        rfl
      · have verified : verifyMigrationLedger .sqlite ⟨[], [.noUpdate, .noDelete]⟩ = .ok () :=
          verifyMigrationLedger_recorded (ordered_nil : Ordered ([] : List (Completed .sqlite)))
        simp [Manager.act, Manager.goTo, Manager.guardLedger, verified, Manager.commit,
          Manager.ensured, normal, appendOnly]

/-- An empty ledger is settled. -/
theorem settled_empty : Settled (⟨some ⟨[], appendOnly backend⟩, none⟩ : Database)
    ([] : List (Completed backend)) :=
  ⟨ordered_nil, rfl, rfl⟩

/-- A database that no interrupted attempt blocks is untouched or settled. -/
theorem settled_of_sound (sound : Sound backend db) (finished : ¬ Unfinished db)
    (whole : ¬ HalfCreated backend db) :
    db = ⟨none, none⟩ ∨ ∃ history : List (Completed backend), Settled db history := by
  cases sound with
  | untouched h => exact .inl h
  | bare h incomplete =>
      obtain ⟨installed, ledger, parts⟩ := h.ledger
      refine absurd ⟨_, ledger, ?_⟩ whole
      intro same
      rw [← parts, List.self_eq_append_right] at same
      exact incomplete same
  | settled h => exact .inr ⟨_, h⟩
  | interrupted h =>
      rename_i history a effect
      refine absurd ⟨a.startRow, ?_, rfl, ?_⟩ finished
      · rw [h.rows]
        simp
      · intro r hr same
        rw [h.rows] at hr
        rcases List.mem_append.mp hr with hr | hr
        · obtain ⟨c, hc, hrow⟩ := mem_recorded.mp hr
          rw [attemptId_of_mem_rows hrow] at same
          exact absurd (List.mem_map.mpr ⟨c, hc, same⟩) h.new
        · obtain rfl := List.mem_singleton.mp hr
          rintro ⟨⟩

/-- From the lock until all is applied. -/
theorem startLocked {ids : Nat → UuidHex} (distinct : Distinct ids) (fresh : Fresh ids 0 db.rows)
    (now : Timestamp) (schemaDigest : String) (stage : m.stage = .locked)
    (normal : m.allowUnresolved = false)
    (h : db = ⟨none, none⟩ ∨ ∃ history : List (Completed backend), Settled db history) :
    ∃ as d, ∃ final : List (Completed backend), Run (Moves backend schemaName) (m, db) as d ∧
      Settled d.2 final ∧ final.length = 13 ∧ d.1.stage = .leaving ∧
      (db.applied = registered → d.2 = db) := by
  -- the ledger is there, and holds what it held
  obtain ⟨as, db', history, first, settled, same⟩ : ∃ as db', ∃ history : List (Completed backend),
      Run (Moves backend schemaName) (m, db) as (m.goTo .planning, db') ∧ Settled db' history ∧
        (db' = db ∨ db = ⟨none, none⟩ ∧ db'.rows = []) := by
    rcases h with rfl | ⟨history, settled⟩
    · obtain ⟨as, run⟩ := ensure_untouched schemaName backend (fun _ => ids 0) now stage normal
      exact ⟨as, _, [], run, settled_empty, .inr ⟨rfl, rfl⟩⟩
    · exact ⟨_, db, history, .single (ensure_settled schemaName settled (fun _ => ids 0) now stage normal),
        settled, .inl rfl⟩
  have fresh' : Fresh ids (4 * history.length) db'.rows := by
    intro k _ high row hr
    rcases same with rfl | ⟨-, empty⟩
    · exact fresh k (Nat.zero_le k) high row hr
    · rw [empty] at hr
      cases hr
  have loop := toLoop schemaName settled schemaDigest
    (show (m.goTo .planning).stage = .planning from rfl)
  have bound := settled.toOrdered.length_le
  have start : Ready backend ids (versionsOf history)
      ((m.goTo .planning).goTo (.looping (versionsOf history) (versionsOf history)
        (migrationRegistry.drop history.length)), db') history := ⟨settled, fresh', rfl⟩
  obtain ⟨more, d, final, rest, ready, all, still⟩ := migrateAll schemaName distinct now (13 - history.length) start (by omega)
  -- with nothing left the schema is verified
  have last : Moves backend schemaName d (.verifySchema false)
      ({ d.1 with attempt := none, stage := .leaving }, d.2) := by
    refine ⟨rfl, ?_⟩
    rw [ready.stage, all]
    rfl
  refine ⟨_, _, final, first.append (loop.append (rest.append (.single last))), ready.settled, all,
    rfl, ?_⟩
  intro applied
  rcases same with rfl | ⟨rfl, -⟩
  · have lengths := congrArg List.length (settled.applied.symm.trans applied)
    rw [versionsOf, List.length_map, registered, registry_versions, List.length_range'] at lengths
    rw [still (by omega)]
  · exact absurd applied (by decide)

end Startup

/-! ### The whole start -/

section System

variable {ι : Type} [DecidableEq ι] {s : System ι}

end System

/-- The identities of numbers differ. -/
theorem distinct_ofNat : Distinct UuidHex.ofNat := by
  intro k hk l hl same
  have digits : hexText 32 k = hexText 32 l := String.ofList_inj.mp same
  exact hexText_inj (by omega) (by omega) digits

end CyberAssess.Migration
