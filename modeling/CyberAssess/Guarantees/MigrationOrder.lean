import CyberAssess.Migration.Shapes

/-!
# Guarantees — migrations in order

Any number of processes construct a manager at one database, in any interleaving; statements fail and
processes die at any point.

* `Fits` is what the holder of the migration lock knows of the database, `Consistent` the invariant of
  the system.
* `Consistent.step`: every step keeps it, and is a step of the journal of `Support/TaskJournal`.
* `migrations_in_order`: the ledger is the journal of the migrations in their order, up to some point;
  the applied versions are the first ones, and no attempt has an outcome but success.
-/

namespace CyberAssess.Migration

open Python
open Checked (bind_ok require_ok)
open TaskJournal (Mark Progress script)
open Transition (Reachable)

variable {backend : Backend}

/-! ### The journal of a database -/

/-- What a row says of its migration. -/
def EventRow.mark (row : EventRow) : Option (Mark Nat) :=
  match row.eventType with
  | .started => some (.started row.migrationVersion)
  | .succeeded => some (.done row.migrationVersion)
  | _ => none

/-- The journal of the ledger, and the versions that have been applied. -/
def Database.progress (db : Database) : Progress Nat := ⟨db.rows.filterMap (·.mark), db.applied⟩

/-- The versions of the registry. -/
def registered : List Nat := migrationRegistry.map (·.version)

theorem filterMap_mark_recorded (history : List (Completed backend)) :
    (recorded history).filterMap (·.mark) = script (versionsOf history) := by
  induction history with
  | nil => rfl
  | cons c history ih =>
      rw [show c :: history = [c] ++ history from rfl, recorded_append, recorded_singleton,
        List.filterMap_append, ih, versionsOf_append, TaskJournal.script_append]
      rfl

section Progress

variable {db : Database} {history : List (Completed backend)} {a : Attempt backend} {effect : Bool}

theorem Settled.progress (h : Settled db history) :
    db.progress = ⟨script (versionsOf history), versionsOf history⟩ := by
  rw [Database.progress, h.rows, filterMap_mark_recorded, h.applied]

theorem Interrupted.progress (h : Interrupted db history a effect) :
    db.progress = ⟨script (versionsOf history) ++ [.started a.spec.version],
      versionsOf history ++ if effect then [a.spec.version] else []⟩ := by
  rw [Database.progress, h.rows, List.filterMap_append, filterMap_mark_recorded, h.applied]
  rfl

end Progress

/-! ### The holder of the lock -/

/-- The process holds the migration lock. -/
def Stage.locks : Stage → Bool
  | .locked | .guarding _ | .planning | .looping .. | .started .. | .effected .. | .verified ..
  | .leaving | .unwinding => true
  | .down | .waiting | .handling | .ready | .failed => false

/-- The process is within the `try` of an attempt, past its `STARTED` event. -/
def Stage.attempting : Stage → Bool
  | .started .. | .effected .. | .verified .. => true
  | _ => false

/-- The attempt of the manager is the open one. -/
def OpenAttempt (backend : Backend) (m : Manager) (db : Database) (applied : List Nat)
    (spec : MigrationSpec) (rest : List MigrationSpec) (effect : Bool) : Prop :=
  ∃ (history : List (Completed backend)) (a : Attempt backend), Interrupted db history a effect ∧
    a.spec = spec ∧ m.attempt = some (a.kept, spec) ∧ applied = versionsOf history ∧
    rest = migrationRegistry.drop (history.length + 1)

/-- What a process at a place knows of the database. -/
def Fits (backend : Backend) (m : Manager) (db : Database) : Prop :=
  match m.stage with
  | .guarding missing => Bare backend db missing
  | .planning | .leaving => ∃ history : List (Completed backend), Settled db history
  | .looping applied _ rest =>
      ∃ history : List (Completed backend), Settled db history ∧ applied = versionsOf history ∧
        ∃ k ≤ history.length, rest = migrationRegistry.drop k
  | .started applied _ spec rest => OpenAttempt backend m db applied spec rest false
  | .effected applied _ spec rest => OpenAttempt backend m db applied spec rest true
  | .verified applied _ spec rest => OpenAttempt backend m db applied spec rest true
  | _ => True

/-- A process and the database after one of its actions, as the invariant wants them. -/
structure Kept (backend : Backend) (db : Database) (r : Manager × Database) : Prop where
  sound : Sound backend r.2
  fits : Fits backend r.1 r.2
  durable : r.1.stage.attempting = false → r.1.startedDurable = false
  locks : r.1.stage.locks = true
  journal : TaskJournal.Step registered db.progress r.2.progress

section Actions

variable {db db' : Database} {m next raised : Manager} {fault : Fault}
  {history : List (Completed backend)}

/-- A process that unwinds knows nothing. -/
theorem kept_unwinding (stage : raised.stage = .unwinding) (quiet : raised.startedDurable = false)
    (sound : Sound backend db') (journal : TaskJournal.Step registered db.progress db'.progress) :
    Kept backend db (raised, db') where
  sound := sound
  fits := by simp [Fits, stage]
  durable _ := quiet
  locks := by rw [stage]; rfl
  journal := journal

/-- Whatever becomes of a transaction, if its success keeps the invariant. -/
theorem kept_commit (stage : raised.stage = .unwinding) (quiet : raised.startedDurable = false)
    (sound : Sound backend db) (after : Kept backend db (next, db')) :
    Kept backend db (Manager.commit fault db db' next raised) := by
  cases fault with
  | none => exact after
  | lost => exact kept_unwinding stage quiet sound (.idle _)
  | unacknowledged => exact kept_unwinding stage quiet after.sound after.journal

/-- An empty ledger with all its triggers is settled. -/
theorem settled_of_bare (h : Bare backend db []) :
    Settled db ([] : List (Completed backend)) where
  toOrdered := ordered_nil
  ledger := by
    obtain ⟨installed, ledger, parts⟩ := h.ledger
    rw [List.append_nil] at parts
    rw [ledger, parts]
    rfl
  applied := by
    rw [Database.applied, h.versions]
    rfl

theorem sound_of_bare {missing : List Trigger} (h : Bare backend db missing) : Sound backend db := by
  cases missing with
  | nil => exact .settled (settled_of_bare h)
  | cons t missing => exact .bare h (List.cons_ne_nil _ _)

theorem Bare.progress {missing : List Trigger} (h : Bare backend db missing) :
    db.progress = Progress.blank := by
  obtain ⟨installed, ledger, -⟩ := h.ledger
  simp [Database.progress, Database.rows, Database.applied, ledger, h.versions, Progress.blank]

/-- Once the ledger is ensured on a settled database, the constructor goes on or returns. -/
theorem kept_ensured (quiet : m.startedDurable = false) (h : Settled db history) :
    Kept backend db (m.ensured, db) where
  sound := .settled h
  fits := by
    unfold Manager.ensured
    split
    · exact ⟨history, h⟩
    · exact ⟨history, h⟩
  durable _ := quiet
  locks := by
    unfold Manager.ensured
    split <;> rfl
  journal := .idle _

theorem kept_ensureLedger (quiet : m.startedDurable = false) (sound : Sound backend db)
    (fresh : String → UuidHex) (now : Timestamp) :
    Kept backend db (m.ensureLedger backend fresh now fault db) := by
  cases sound with
  | untouched h =>
      subst h
      have blank : (⟨none, none⟩ : Database).progress = Progress.blank := rfl
      cases backend with
      | sqlite =>
          have bare : Bare .sqlite ⟨some ⟨[], []⟩, none⟩ (appendOnly .sqlite) :=
            ⟨rfl, [], rfl, rfl⟩
          refine kept_commit rfl quiet (.untouched rfl)
            ⟨sound_of_bare bare, bare, fun _ => quiet, rfl, ?_⟩
          rw [blank, bare.progress]
          exact .idle _
      | postgresql =>
          have bare : Bare .postgresql ⟨some ⟨[], appendOnly .postgresql⟩, none⟩ [] :=
            ⟨rfl, _, rfl, List.append_nil _⟩
          have settled := kept_ensured quiet (settled_of_bare bare)
          refine kept_commit rfl quiet (.untouched rfl)
            ⟨settled.sound, settled.fits, fun _ => quiet, settled.locks, ?_⟩
          rw [blank, bare.progress]
          exact .idle _
  | bare h incomplete =>
      obtain ⟨installed, ledger, parts⟩ := h.ledger
      simp only [Manager.ensureLedger, ledger, ensureMigrationLedger_bare parts incomplete]
      exact kept_unwinding rfl quiet (.bare h incomplete) (.idle _)
  | settled h =>
      rename_i history
      have same : ({ db with ledger := some ⟨recorded history, appendOnly backend⟩ } : Database) =
          db := by
        rw [← h.ledger]
      simp only [Manager.ensureLedger, h.ledger, ensureMigrationLedger_settled h.toOrdered, same]
      exact kept_commit rfl quiet (.settled h) (kept_ensured quiet h)
  | interrupted h =>
      obtain ⟨e, failed⟩ := ensureMigrationLedger_interrupted h fresh now
      simp only [Manager.ensureLedger, h.ledger, failed]
      exact kept_unwinding rfl quiet (.interrupted h) (.idle _)

theorem kept_guardLedger (quiet : m.startedDurable = false) {missing : List Trigger}
    (h : Bare backend db missing) : Kept backend db (m.guardLedger backend fault db missing) := by
  cases missing with
  | nil =>
      have settled := settled_of_bare h
      have verified := verifyMigrationLedger_recorded settled.toOrdered
      simp only [Manager.guardLedger, settled.ledger, Option.map_some, verified]
      exact kept_commit rfl quiet (.settled settled) (kept_ensured quiet settled)
  | cons t missing =>
      obtain ⟨installed, ledger, parts⟩ := h.ledger
      have bare : Bare backend
          { db with ledger := db.ledger.map fun l => { l with triggers := l.triggers ++ [t] } }
          missing := by
        refine ⟨h.versions, installed ++ [t], ?_, by simpa using parts⟩
        rw [ledger]
        rfl
      refine kept_commit rfl quiet (sound_of_bare h) ⟨sound_of_bare bare, bare, fun _ => quiet, rfl, ?_⟩
      rw [h.progress, bare.progress]
      exact .idle _

theorem kept_planned (quiet : m.startedDurable = false) (h : Settled db history)
    (schemaDigest : String) : Kept backend db (m.planned schemaDigest fault db) := by
  unfold Manager.planned
  split
  · exact kept_unwinding rfl quiet (.settled h) (.idle _)
  · refine kept_commit rfl quiet (.settled h) ⟨.settled h, ?_, fun _ => quiet, rfl, .idle _⟩
    exact ⟨history, h, h.applied, 0, Nat.zero_le _, rfl⟩

/-- The migration at the head of the loop that is not applied is the next one. -/
theorem next_of_head (h : Settled db history) {k : Nat} (bound : k ≤ history.length)
    {spec : MigrationSpec} {rest : List MigrationSpec}
    (head : spec :: rest = migrationRegistry.drop k) (missing : spec.version ∉ versionsOf history) :
    migrationRegistry[history.length]? = some spec ∧
      rest = migrationRegistry.drop (history.length + 1) := by
  have here : migrationRegistry[k]? = some spec := by
    rw [← List.head?_drop, ← head]
    rfl
  have tail : rest = migrationRegistry.drop (k + 1) := by
    rw [← List.tail_drop, ← head]
    rfl
  obtain ⟨-, version⟩ := version_at here
  have same : k = history.length := by
    by_contra other
    apply missing
    rw [h.toOrdered.versions, List.mem_range'_1, version]
    omega
  exact ⟨same ▸ here, same ▸ tail⟩

theorem kept_beginAttempt (h : Settled db history) {schemaName : String}
    {attempt transaction event : UuidHex} {now : Timestamp}
    {applied completed : List Nat} (same : applied = versionsOf history) {spec : MigrationSpec}
    {rest : List MigrationSpec} (next : migrationRegistry[history.length]? = some spec)
    (tail : rest = migrationRegistry.drop (history.length + 1)) :
    Kept backend db (m.beginAttempt backend schemaName attempt transaction event now fault db applied
      completed spec rest) := by
  have known : spec ∈ migrationRegistry := List.mem_of_getElem? next
  obtain ⟨identity, named⟩ := forwardIdentity_ok known backend
  let a : Attempt backend :=
    ⟨spec, known, identity, named, attempt, transaction, schemaName, event, now⟩
  unfold Manager.beginAttempt
  rw [show newAttempt spec backend schemaName attempt transaction = .ok a.kept from a.newAttempt_eq]
  simp only [show ∀ rows, recordMigrationEvent backend spec a.kept event now .started 1 .pending rows =
    insertEvent rows a.startRow from a.recordStart]
  cases inserted : insertEvent db.rows a.startRow with
  | error e => exact kept_unwinding rfl rfl (.settled h) (.idle _)
  | ok rows =>
      have begun := h.begin (a := a) next inserted
      refine kept_commit rfl rfl (.settled h) ⟨.interrupted begun, ?_, ?_, rfl, ?_⟩
      · exact ⟨history, a, begun, rfl, rfl, same, tail⟩
      · rintro ⟨⟩
      · rw [h.progress, begun.progress, if_neg Bool.false_ne_true, List.append_nil]
        exact .start (h.toOrdered.tasks next)

/-- What `apply` does, cut off or not. -/
theorem journal_applyVersion {a : Attempt backend} (h : Interrupted db history a false)
    (durable : Nat) :
    TaskJournal.Step registered db.progress (applyVersion a.spec.version durable db).progress := by
  rw [h.progress, (h.applyVersion durable).progress, if_neg Bool.false_ne_true, List.append_nil]
  cases durable with
  | zero =>
      simp only [lt_self_iff_false, decide_false, Bool.false_eq_true, if_false, List.append_nil]
      exact .idle _
  | succ k =>
      simp only [Nat.succ_pos, decide_true, if_true]
      exact .effect (h.toOrdered.tasks h.next)

theorem kept_succeedAttempt {applied completed : List Nat} {spec : MigrationSpec}
    {rest : List MigrationSpec} (h : OpenAttempt backend m db applied spec rest true)
    (event : UuidHex) (now : Timestamp) :
    Kept backend db (m.succeedAttempt backend event now fault db applied completed spec rest) := by
  obtain ⟨history, a, inter, rfl, kept, rfl, rfl⟩ := h
  unfold Manager.succeedAttempt
  simp only [kept, a.recordEnd]
  cases inserted : insertEvent db.rows (a.endRow event now) with
  | error e => exact kept_unwinding rfl rfl (.interrupted inter) (.idle _)
  | ok rows =>
      have settled := inter.succeed inserted
      have version : versionsOf [(⟨a, event, now⟩ : Completed backend)] = [a.spec.version] := rfl
      refine kept_commit rfl rfl (.interrupted inter) ⟨.settled settled, ?_, fun _ => rfl, rfl, ?_⟩
      · refine ⟨_, settled, ?_, history.length + 1, ?_, rfl⟩
        · rw [versionsOf_append, version]
        · simp
      · rw [inter.progress, settled.progress, if_pos rfl, versionsOf_append, version]
        exact .finish (inter.toOrdered.tasks inter.next)

/-- No attempt has an outcome but success. -/
theorem types_of_sound (sound : Sound backend db) :
    ∀ row ∈ db.rows, row.eventType = .started ∨ row.eventType = .succeeded := by
  have completed (history : List (Completed backend)) :
      ∀ row ∈ recorded history, row.eventType = .started ∨ row.eventType = .succeeded := by
    intro row hr
    obtain ⟨c, -, hrow⟩ := mem_recorded.mp hr
    simp only [Completed.rows, List.mem_cons, List.not_mem_nil, or_false] at hrow
    exact hrow.imp (by rintro rfl; rfl) (by rintro rfl; rfl)
  intro row hr
  cases sound with
  | untouched h =>
      subst h
      cases hr
  | bare h =>
      obtain ⟨installed, ledger, -⟩ := h.ledger
      simp [Database.rows, ledger] at hr
  | settled h =>
      rw [h.rows] at hr
      exact completed _ row hr
  | interrupted h =>
      rw [h.rows] at hr
      rcases List.mem_append.mp hr with hr | hr
      · exact completed _ row hr
      · obtain rfl := List.mem_singleton.mp hr
        exact Or.inl rfl

/-- There is nothing to resolve. -/
theorem resolve_refused (sound : Sound backend db) (allowUnresolved : Bool) (r : Resolution) :
    ∃ e, resolveMigrationReconciliation backend allowUnresolved r db = .error e := by
  cases resolved : resolveMigrationReconciliation backend allowUnresolved r db with
  | error e => exact ⟨e, rfl⟩
  | ok db' =>
      simp only [resolveMigrationReconciliation, bind_ok, require_ok] at resolved
      obtain ⟨-, -, required, found, -⟩ := resolved
      have type := List.find?_some found
      simp only [Bool.and_eq_true, decide_eq_true_eq] at type
      rcases types_of_sound sound required (List.mem_of_find?_eq_some found) with h | h
      · rw [h] at type
        exact absurd type.1.2 (by decide)
      · rw [h] at type
        exact absurd type.1.2 (by decide)

/-- The loop: a migration that is applied is skipped, the next one is begun, and at the end the schema
is verified. -/
theorem kept_looping {schemaName : String} {action : Action} {r : Manager × Database}
    (quiet : m.startedDurable = false) (h : Settled db history) {applied completed : List Nat}
    {rest : List MigrationSpec} (same : applied = versionsOf history) {k : Nat}
    (bound : k ≤ history.length) (tail : rest = migrationRegistry.drop k)
    (acted : m.act backend schemaName db (.looping applied completed rest) action = some r) :
    Kept backend db r := by
  cases rest with
  | nil =>
      cases action with
      | verifySchema raises =>
          obtain rfl := Option.some.inj acted
          cases raises with
          | true => exact kept_unwinding rfl quiet (.settled h) (.idle _)
          | false => exact ⟨.settled h, ⟨history, h⟩, fun _ => quiet, rfl, .idle _⟩
      | _ => simp [Manager.act] at acted
  | cons spec rest =>
      cases action with
      | skip =>
          simp only [Manager.act] at acted
          split at acted
          · rename_i known
            obtain rfl := Option.some.inj acted
            split
            · have next : migrationRegistry[k]? = some spec := by
                rw [← List.head?_drop, ← tail]
                rfl
              obtain ⟨-, version⟩ := version_at next
              rw [same, h.toOrdered.versions, List.mem_range'_1, version] at known
              refine ⟨.settled h, ⟨history, h, same, k + 1, by omega, ?_⟩, fun _ => quiet, rfl,
                .idle _⟩
              rw [← List.tail_drop, ← tail]
              rfl
            · exact kept_unwinding rfl quiet (.settled h) (.idle _)
          · cases acted
      | begin attempt transaction event now fault =>
          simp only [Manager.act] at acted
          split at acted
          · cases acted
          · rename_i missing
            obtain rfl := Option.some.inj acted
            rw [same] at missing
            obtain ⟨next, rest⟩ := next_of_head h bound tail missing
            exact kept_beginAttempt h same next rest
      | _ => simp [Manager.act] at acted

/-- A migration is applied, or cut off. -/
theorem kept_apply {schemaName : String} {applied completed : List Nat} {spec : MigrationSpec}
    {rest : List MigrationSpec} (h : OpenAttempt backend m db applied spec rest false)
    {durable : Nat} {raises : Bool} {r : Manager × Database}
    (acted : m.act backend schemaName db (.started applied completed spec rest)
      (.apply durable raises) = some r) : Kept backend db r := by
  obtain ⟨history, a, inter, rfl, kept, same, tail⟩ := h
  obtain ⟨-, version⟩ := version_at inter.next
  simp only [Manager.act] at acted
  split at acted
  · obtain rfl := Option.some.inj acted
    exact kept_unwinding rfl rfl (.interrupted (inter.applyVersion durable))
      (journal_applyVersion inter durable)
  · obtain rfl := Option.some.inj acted
    have effect := inter.applyVersion a.spec.version
    rw [show decide (0 < a.spec.version) = true by rw [version]; rfl] at effect
    exact ⟨.interrupted effect, ⟨history, a, effect, rfl, kept, same, tail⟩, by rintro ⟨⟩, rfl,
      journal_applyVersion inter a.spec.version⟩

/-- What the holder of the lock does keeps the invariant. -/
theorem kept_act {schemaName : String} {action : Action} {r : Manager × Database}
    (sound : Sound backend db) (fits : Fits backend m db) (locks : m.stage.locks = true)
    (durable : m.stage.attempting = false → m.startedDurable = false)
    (h : m.act backend schemaName db m.stage action = some r) : Kept backend db r := by
  cases stage : m.stage with
  | down | waiting | handling | ready | failed => simp [stage, Stage.locks] at locks
  | leaving | unwinding => simp [stage, Manager.act] at h
  | locked =>
      have quiet := durable (by rw [stage]; rfl)
      rw [stage] at h
      cases action with
      | ensure fresh now fault =>
          obtain rfl := Option.some.inj h
          exact kept_ensureLedger quiet sound fresh now
      | _ => simp [Manager.act] at h
  | guarding missing =>
      have quiet := durable (by rw [stage]; rfl)
      simp only [Fits, stage] at fits
      rw [stage] at h
      cases action with
      | guard fault =>
          obtain rfl := Option.some.inj h
          exact kept_guardLedger quiet fits
      | _ => simp [Manager.act] at h
  | planning =>
      have quiet := durable (by rw [stage]; rfl)
      simp only [Fits, stage] at fits
      obtain ⟨history, settled⟩ := fits
      rw [stage] at h
      cases action with
      | plan schemaDigest fault =>
          obtain rfl := Option.some.inj h
          exact kept_planned quiet settled schemaDigest
      | _ => simp [Manager.act] at h
  | looping applied completed rest =>
      have quiet := durable (by rw [stage]; rfl)
      simp only [Fits, stage] at fits
      obtain ⟨history, settled, same, k, bound, tail⟩ := fits
      rw [stage] at h
      exact kept_looping quiet settled same bound tail h
  | started applied completed spec rest =>
      simp only [Fits, stage] at fits
      rw [stage] at h
      cases action with
      | apply durable raises => exact kept_apply fits h
      | _ => simp [Manager.act] at h
  | effected applied completed spec rest =>
      simp only [Fits, stage] at fits
      rw [stage] at h
      cases action with
      | verify raises =>
          obtain rfl := Option.some.inj h
          cases raises with
          | true => exact kept_unwinding rfl rfl sound (.idle _)
          | false => exact ⟨sound, fits, by rintro ⟨⟩, rfl, .idle _⟩
      | _ => simp [Manager.act] at h
  | verified applied completed spec rest =>
      simp only [Fits, stage] at fits
      rw [stage] at h
      cases action with
      | succeed event now fault =>
          obtain rfl := Option.some.inj h
          exact kept_succeedAttempt fits event now
      | _ => simp [Manager.act] at h

/-- Away from the lock nothing is written, and the lock is not taken. -/
theorem idle_act {schemaName : String} {action : Action} {r : Manager × Database}
    (sound : Sound backend db) (free : m.stage.locks = false) (quiet : m.startedDurable = false)
    (h : m.act backend schemaName db m.stage action = some r) :
    r.2 = db ∧ r.1.stage.locks = false ∧ r.1.startedDurable = false := by
  cases stage : m.stage with
  | down | waiting | failed => simp [stage, Manager.act] at h
  | handling =>
      rw [stage] at h
      cases action with
      | handle failed rolledBack now errorClass errorMessage fault =>
          obtain rfl := Option.some.inj h
          cases attempt : m.attempt with
          | none => simp [Manager.handleFailure, attempt, Manager.goTo, Stage.locks, quiet]
          | some p => simp [Manager.handleFailure, attempt, Manager.goTo, Stage.locks, quiet]
      | _ => simp [Manager.act] at h
  | ready =>
      rw [stage] at h
      cases action with
      | resolve q fault =>
          obtain ⟨e, refused⟩ := resolve_refused sound m.allowUnresolved q
          simp only [Manager.act, refused, Option.some.injEq] at h
          subst h
          exact ⟨rfl, free, quiet⟩
      | _ => simp [Manager.act] at h
  | locked | guarding | planning | looping | started | effected | verified | leaving | unwinding =>
      simp [stage, Stage.locks] at free

end Actions

/-! ### The system -/

section System

variable {ι : Type} [DecidableEq ι] {s t : System ι}

/-- The invariant of the system. -/
structure Consistent (backend : Backend) (s : System ι) : Prop where
  sound : Sound backend s.db
  holder : ∀ i, s.lock = some i ↔ (s.manager i).stage.locks = true
  fits : ∀ i, (s.manager i).stage.locks = true → Fits backend (s.manager i) s.db
  durable : ∀ i, (s.manager i).stage.attempting = false → (s.manager i).startedDurable = false

@[simp] theorem put_manager_self (i : ι) (m : Manager) : (s.put i m).manager i = m := by
  simp [System.put]

@[simp] theorem put_lock (i : ι) (m : Manager) : (s.put i m).lock = s.lock := rfl

theorem put_manager_of_ne {i j : ι} (m : Manager) (h : j ≠ i) :
    (s.put i m).manager j = s.manager j := by
  simp [System.put, h]

omit [DecidableEq ι] in
theorem consistent_blank : Consistent backend (System.blank : System ι) where
  sound := .untouched rfl
  holder i := by simp [System.blank, Manager.absent, Stage.locks]
  fits i locks := by simp [System.blank, Manager.absent, Stage.locks] at locks
  durable _ _ := rfl

/-- A process moves to another place and the lock with it; the database stays. -/
theorem Consistent.move (h : Consistent backend s) {i : ι} {m : Manager} {lock : Option ι}
    (own : lock = some i ↔ m.stage.locks = true)
    (others : ∀ j, j ≠ i → (lock = some j ↔ s.lock = some j))
    (fits : m.stage.locks = true → Fits backend m s.db) (quiet : m.startedDurable = false) :
    Consistent backend { s.put i m with lock := lock } where
  sound := h.sound
  holder j := by
    by_cases same : j = i
    · subst same
      simpa using own
    · simp only [put_manager_of_ne m same]
      exact (others j same).trans (h.holder j)
  fits j locks := by
    by_cases same : j = i
    · subst same
      simp only [put_manager_self] at locks ⊢
      exact fits locks
    · simp only [put_manager_of_ne m same] at locks ⊢
      exact h.fits j locks
  durable j attempting := by
    by_cases same : j = i
    · subst same
      simpa using quiet
    · simp only [put_manager_of_ne m same] at attempting ⊢
      exact h.durable j attempting

/-- The holder of the lock acts; the others do not see the database. -/
theorem Consistent.hold (h : Consistent backend s) {i : ι} {r : Manager × Database}
    (locks : (s.manager i).stage.locks = true) (kept : Kept backend s.db r) :
    Consistent backend { s.put i r.1 with db := r.2 } where
  sound := kept.sound
  holder j := by
    have holder := (h.holder i).mpr locks
    by_cases same : j = i
    · subst same
      simpa [kept.locks] using holder
    · simp only [put_manager_of_ne r.1 same]
      exact h.holder j
  fits j hj := by
    by_cases same : j = i
    · subst same
      simp only [put_manager_self]
      exact kept.fits
    · simp only [put_manager_of_ne r.1 same] at hj
      have one := ((h.holder j).mpr hj).symm.trans ((h.holder i).mpr locks)
      exact absurd (Option.some.inj one) same
  durable j attempting := by
    by_cases same : j = i
    · subst same
      simp only [put_manager_self] at attempting ⊢
      exact kept.durable attempting
    · simp only [put_manager_of_ne r.1 same] at attempting ⊢
      exact h.durable j attempting

/-- A process without the lock goes where it does not hold it. -/
theorem Consistent.roam (h : Consistent backend s) {i : ι} {m : Manager}
    (free : (s.manager i).stage.locks = false) (still : m.stage.locks = false)
    (quiet : m.startedDurable = false) : Consistent backend (s.put i m) := by
  have own : s.lock = some i ↔ m.stage.locks = true := by
    rw [still, h.holder i, free]
  refine h.move own (fun _ _ => Iff.rfl) ?_ quiet
  intro locks
  rw [still] at locks
  cases locks

omit [DecidableEq ι] in
theorem quiet_of_stage (h : Consistent backend s) {i : ι} (free : (s.manager i).stage.locks = false) :
    (s.manager i).startedDurable = false := by
  refine h.durable i ?_
  cases stage : (s.manager i).stage <;> simp_all [Stage.locks, Stage.attempting]

/-- Every step keeps the invariant, and is a step of the journal. -/
theorem Consistent.step {schemaName : String} {e : ι × Action} (h : Consistent backend s)
    (step : System.Step backend schemaName s e t) :
    Consistent backend t ∧ TaskJournal.Step registered s.db.progress t.db.progress := by
  obtain ⟨i, action⟩ := e
  have away (a : Action) (acted : ((s.manager i).act backend schemaName s.db (s.manager i).stage a).map
      (fun r => { s.put i r.1 with db := r.2 }) = some t) :
      Consistent backend t ∧ TaskJournal.Step registered s.db.progress t.db.progress := by
    obtain ⟨r, hr, rfl⟩ := Option.map_eq_some_iff.mp acted
    cases locked : (s.manager i).stage.locks with
    | true =>
        have kept := kept_act h.sound (h.fits i locked) locked (h.durable i) hr
        exact ⟨h.hold locked kept, kept.journal⟩
    | false =>
        obtain ⟨same, stays, quiet⟩ := idle_act h.sound locked (quiet_of_stage h locked) hr
        rw [same]
        exact ⟨h.roam locked stays quiet, .idle _⟩
  cases action with
  | construct allowUnresolved =>
      have enters (free : (s.manager i).stage.locks = false)
          (next : some (s.put i ⟨allowUnresolved, none, false, .waiting⟩) = some t) :
          Consistent backend t ∧ TaskJournal.Step registered s.db.progress t.db.progress := by
        obtain rfl := Option.some.inj next
        exact ⟨h.roam free rfl rfl, .idle _⟩
      simp only [System.Step, System.act] at step
      split at step
      · exact enters (by simp [*, Stage.locks]) step
      · exact enters (by simp [*, Stage.locks]) step
      · exact enters (by simp [*, Stage.locks]) step
      · cases step
  | acquire =>
      simp only [System.Step, System.act] at step
      split at step
      · rename_i stage lock
        obtain rfl := Option.some.inj step
        have quiet := quiet_of_stage h (i := i) (by rw [stage]; rfl)
        refine ⟨h.move (by simp [Manager.goTo, Stage.locks]) ?_ (fun _ => trivial) quiet, .idle _⟩
        intro j other
        simp [lock, other.symm]
      · cases step
  | release =>
      have released (m : Manager) (locked : (s.manager i).stage.locks = true)
          (gone : m.stage.locks = false) (quiet : m.startedDurable = false) :
          Consistent backend { s.put i m with lock := none } := by
        refine h.move (by simp [gone]) ?_ (fun locks => by rw [gone] at locks; cases locks) quiet
        intro j other
        simp [(h.holder i).mpr locked, other.symm]
      simp only [System.Step, System.act] at step
      split at step
      · rename_i stage
        obtain rfl := Option.some.inj step
        have quiet := h.durable i (by rw [stage]; rfl)
        exact ⟨released _ (by rw [stage]; rfl) rfl quiet, .idle _⟩
      · rename_i stage
        obtain rfl := Option.some.inj step
        have quiet := h.durable i (by rw [stage]; rfl)
        exact ⟨released _ (by rw [stage]; rfl) rfl quiet, .idle _⟩
      · cases step
  | crash =>
      obtain rfl := Option.some.inj step
      refine ⟨h.move ?_ ?_ (fun locks => by cases locks) rfl, .idle _⟩
      · by_cases held : s.lock = some i <;> simp [held, Manager.absent, Stage.locks]
      · intro j other
        by_cases held : s.lock = some i <;> simp [held, other.symm]
  | _ => exact away _ step

/-- A database that startups have left: the journal of the migrations, in order. -/
def InOrder (db : Database) : Prop := TaskJournal.InOrder registered db.progress

/-- However many processes start, interleave, fail and die: every reachable database is consistent. -/
theorem consistent_of_reachable {schemaName : String}
    (h : Reachable System.Start (System.Step (ι := ι) backend schemaName) s) :
    Consistent backend s :=
  h.invariant (fun _ start => by rw [start]; exact consistent_blank)
    fun _ _ _ inv step => (inv.step step).1

theorem inOrder_of_reachable {schemaName : String}
    (h : Reachable System.Start (System.Step (ι := ι) backend schemaName) s) : InOrder s.db := by
  refine TaskJournal.inOrder_of_simulation (I := Consistent backend) (fun s => s.db.progress) ?_
    (fun _ _ _ inv step => inv.step step) h
  intro s start
  obtain rfl : s = System.blank := start
  exact ⟨consistent_blank, rfl⟩

/-- The events of the migrations in order. -/
def migrationEvents : List (Nat × EventType) :=
  (List.range' 1 13).flatMap fun version => [(version, .started), (version, .succeeded)]

/-- A mark as the version and the type of its row. -/
def eventOf : Mark Nat → Nat × EventType
  | .started version => (version, .started)
  | .done version => (version, .succeeded)

theorem map_eventOf_script (versions : List Nat) :
    (script versions).map eventOf =
      versions.flatMap fun version => [(version, .started), (version, .succeeded)] := by
  induction versions with
  | nil => rfl
  | cons v versions ih =>
      rw [TaskJournal.script_cons, List.map_cons, List.map_cons, ih]
      rfl

/-- Rows without another outcome are known from their marks. -/
theorem events_of_marks : ∀ {rows : List EventRow},
    (∀ row ∈ rows, row.eventType = .started ∨ row.eventType = .succeeded) →
    rows.map (fun row => (row.migrationVersion, row.eventType)) =
      (rows.filterMap (·.mark)).map eventOf
  | [], _ => rfl
  | row :: rows, types => by
      have rest := events_of_marks fun r hr => types r (List.mem_cons_of_mem _ hr)
      rcases types row List.mem_cons_self with type | type
      · simp [EventRow.mark, type, eventOf, rest]
      · simp [EventRow.mark, type, eventOf, rest]

theorem count_recorded (history : List (Completed backend)) :
    (recorded history).countP (·.eventType = .started) = history.length ∧
      (recorded history).countP (·.eventType = .succeeded) = history.length := by
  induction history with
  | nil => exact ⟨rfl, rfl⟩
  | cons c history ih =>
      have own : c.rows.countP (·.eventType = .started) = 1 ∧
          c.rows.countP (·.eventType = .succeeded) = 1 := ⟨rfl, rfl⟩
      rw [show c :: history = [c] ++ history from rfl, recorded_append, recorded_singleton,
        List.countP_append, List.countP_append, ih.1, ih.2, own.1, own.2, List.length_append,
        List.length_singleton]
      exact ⟨rfl, rfl⟩

/-- The applied versions, between those that have succeeded and those that were started. -/
theorem applied_of_sound {db : Database} (sound : Sound backend db) :
    ∃ k, db.applied = List.range' 1 k ∧ db.rows.countP (·.eventType = .succeeded) ≤ k ∧
      k ≤ db.rows.countP (·.eventType = .started) := by
  cases sound with
  | untouched h =>
      subst h
      exact ⟨0, rfl, le_refl _, Nat.zero_le _⟩
  | bare h =>
      obtain ⟨installed, ledger, -⟩ := h.ledger
      exact ⟨0, by rw [Database.applied, h.versions]; rfl, by simp [Database.rows, ledger], by simp⟩
  | settled h =>
      rename_i history
      have counts := count_recorded history
      refine ⟨history.length, h.applied.trans h.toOrdered.versions, ?_, ?_⟩
      · rw [h.rows, counts.2]
      · rw [h.rows, counts.1]
  | interrupted h =>
      rename_i history a effect
      have counts := count_recorded history
      obtain ⟨-, version⟩ := version_at h.next
      have started : [a.startRow].countP (·.eventType = .started) = 1 := rfl
      have succeeded : [a.startRow].countP (·.eventType = .succeeded) = 0 := rfl
      have applied := h.applied
      rw [h.toOrdered.versions, version] at applied
      rw [h.rows, List.countP_append, List.countP_append, counts.1, counts.2, started, succeeded]
      cases effect with
      | false => exact ⟨history.length, by simpa using applied, le_refl _, Nat.le_succ _⟩
      | true =>
          refine ⟨history.length + 1, ?_, Nat.le_succ _, le_refl _⟩
          rw [applied, List.range'_concat, if_pos rfl, Nat.one_mul, Nat.add_comm 1]

/-- The rows of a database that startups leave pass the checks of the next one. -/
theorem rows_verified {db : Database} (sound : Sound backend db) :
    verifyMigrationLedgerRows backend db.rows = .ok () := by
  have none : verifyMigrationLedgerRows backend [] = .ok () := by
    have empty : (attemptIds ([] : List (Completed backend))).Nodup := List.nodup_nil
    simpa [recorded] using verifyMigrationLedgerRows_recorded empty Option.none (by simp)
  cases sound with
  | untouched h => rw [h]; exact none
  | bare h =>
      obtain ⟨installed, ledger, -⟩ := h.ledger
      rw [Database.rows, ledger]
      exact none
  | settled h =>
      rw [h.rows]
      simpa using verifyMigrationLedgerRows_recorded h.distinct Option.none (by simp)
  | interrupted h =>
      rename_i a effect
      rw [h.rows]
      simpa using verifyMigrationLedgerRows_recorded h.distinct (some a) (by simpa using h.new)

/-- Every process that constructs a manager, in any interleaving and whatever fails or dies: the ledger
records the migrations in their order, each started at most once and only after the one before it has
succeeded, with no outcome but success; the applied versions are the first ones, at least those that
have succeeded and at most those that were started; and the rows pass their own checks. -/
theorem migrations_in_order {schemaName : String}
    (h : Reachable System.Start (System.Step (ι := ι) backend schemaName) s) :
    s.db.rows.map (fun row => (row.migrationVersion, row.eventType)) <+: migrationEvents ∧
      (∃ k, s.db.applied = List.range' 1 k ∧
        s.db.rows.countP (·.eventType = .succeeded) ≤ k ∧
        k ≤ s.db.rows.countP (·.eventType = .started)) ∧
      verifyMigrationLedgerRows backend s.db.rows = .ok () := by
  have consistent := consistent_of_reachable h
  refine ⟨?_, ?_, ?_⟩
  · have journal := (inOrder_of_reachable h).journal_isPrefix.map eventOf
    rw [map_eventOf_script, registered, registry_versions] at journal
    rw [events_of_marks (types_of_sound consistent.sound)]
    exact journal
  · exact applied_of_sound consistent.sound
  · exact rows_verified consistent.sound

end System

/-! ### A first migration that dies -/

/-- The clock of the examples. -/
def newYear : Timestamp := ⟨"2026-01-01T00:00:00+00:00", by decide⟩

/-- A process that opens a new database and dies once it has recorded its first attempt. -/
def firstCrash : List (Unit × Action) :=
  [((), .construct false), ((), .acquire), ((), .ensure (fun _ => .ofNat 0) newYear .none),
    ((), .plan "" .none), ((), .begin (.ofNat 1) (.ofNat 2) (.ofNat 3) newYear .none), ((), .crash)]

/-- What it leaves. -/
def crashedSystem : System Unit :=
  (System.blank.follow .postgresql "public" firstCrash).getD System.blank

theorem crashed_reachable :
    Reachable System.Start (System.Step .postgresql "public") crashedSystem := by
  have runs : (System.blank.follow .postgresql "public" firstCrash).isSome = true := by
    decide +kernel
  obtain ⟨t, ht⟩ := Option.isSome_iff_exists.mp runs
  refine ⟨System.blank, firstCrash, rfl, System.run_of_follow ?_⟩
  rw [crashedSystem, ht]
  rfl

theorem migrations_in_order_crashed :
    crashedSystem.db.rows.map (fun row => (row.migrationVersion, row.eventType)) <+:
        migrationEvents ∧
      (∃ k, crashedSystem.db.applied = List.range' 1 k ∧
        crashedSystem.db.rows.countP (·.eventType = .succeeded) ≤ k ∧
        k ≤ crashedSystem.db.rows.countP (·.eventType = .started)) ∧
      verifyMigrationLedgerRows .postgresql crashedSystem.db.rows = .ok () :=
  migrations_in_order crashed_reachable

end CyberAssess.Migration
