import CyberAssess.Guarantees.MigrationOrder

/-!
# Guarantees — an interrupted migration is never resolved

A migration that raises or whose process dies leaves an attempt without an outcome: the handler of the
constructor records no failure, because the `finally` of the attempt has already cleared the flag it
asks for. The next startup marks the attempt, but the context of the mark does not pass the check of
the attempt's transaction, and the startup is rolled back.

* `Refused`: every startup is refused at the ledger.
* `Refused.forever`: past that point nothing is ever written, and no process becomes ready.
* `interrupted_migration_blocks`: an attempt without an outcome, or a ledger whose creation was cut
  off, that no process is working on, is refused forever; maintenance mode included.
-/

namespace CyberAssess.Migration

open Python
open Transition (Reachable Leads)

variable {backend : Backend}

/-- Every startup finds a ledger and refuses it. -/
def Refused (backend : Backend) (db : Database) : Prop :=
  ∃ ledger, db.ledger = some ledger ∧
    ∀ fresh now, ∃ e, ensureMigrationLedger backend fresh now ledger = .error e

theorem Interrupted.refused {db : Database} {history : List (Completed backend)}
    {a : Attempt backend} {effect : Bool} (h : Interrupted db history a effect) :
    Refused backend db :=
  ⟨_, h.ledger, fun fresh now => ensureMigrationLedger_interrupted h fresh now⟩

theorem Bare.refused {db : Database} {missing : List Trigger} (h : Bare backend db missing)
    (incomplete : missing ≠ []) : Refused backend db := by
  obtain ⟨installed, ledger, parts⟩ := h.ledger
  exact ⟨_, ledger, fun fresh now => ⟨_, ensureMigrationLedger_bare parts incomplete fresh now⟩⟩

/-- The process is creating the ledger, or carrying out an attempt. -/
def Stage.working : Stage → Bool
  | .guarding _ | .started .. | .effected .. | .verified .. => true
  | _ => false

/-- The process has passed the ledger, or is creating it. -/
def Stage.past : Stage → Bool
  | .guarding _ | .planning | .looping .. | .started .. | .effected .. | .verified .. | .leaving => true
  | _ => false

section System

variable {ι : Type} [DecidableEq ι] {s t : System ι}

/-- No process is past the ledger, and every startup is refused there. -/
structure Halted (backend : Backend) (s : System ι) : Prop extends Consistent backend s where
  refused : Refused backend s.db
  unpassed : ∀ i, (s.manager i).stage.past = false

/-- What a step of a halted system does: it writes nothing, and whoever is ready was so before. -/
structure Stays (s t : System ι) : Prop where
  db : t.db = s.db
  ready : ∀ i, (t.manager i).stage = .ready → (s.manager i).stage = .ready

omit [DecidableEq ι] in
theorem Stays.refl (s : System ι) : Stays s s := ⟨rfl, fun _ h => h⟩

omit [DecidableEq ι] in
theorem Stays.trans {u : System ι} (h : Stays s t) (k : Stays t u) : Stays s u :=
  ⟨k.db.trans h.db, fun i hi => h.ready i (k.ready i hi)⟩

/-- A process of a halted system moves, and is neither past the ledger nor newly ready. -/
theorem stays_put {i : ι} {m : Manager} (lock : Option ι) (h : ∀ i, (s.manager i).stage.past = false)
    (away : m.stage.past = false) (ready : m.stage = .ready → (s.manager i).stage = .ready) :
    (∀ j, (({ s.put i m with lock := lock } : System ι).manager j).stage.past = false) ∧
      Stays s { s.put i m with lock := lock } := by
  refine ⟨fun j => ?_, rfl, fun j hj => ?_⟩
  · by_cases same : j = i
    · subst same
      simpa using away
    · simpa [put_manager_of_ne m same] using h j
  · by_cases same : j = i
    · subst same
      exact ready (by simpa using hj)
    · simpa [put_manager_of_ne m same] using hj

/-- What a process of a halted system does away from its lock. -/
theorem act_halted {schemaName : String} {db : Database} {m : Manager} {action : Action}
    {r : Manager × Database} (sound : Sound backend db) (refused : Refused backend db)
    (away : m.stage.past = false)
    (quiet : m.stage.attempting = false → m.startedDurable = false)
    (h : m.act backend schemaName db m.stage action = some r) :
    r.2 = db ∧ r.1.stage.past = false ∧ (r.1.stage = .ready → m.stage = .ready) := by
  have still : m.startedDurable = false := by
    apply quiet
    cases stage : m.stage <;> simp_all [Stage.past, Stage.attempting]
  cases stage : m.stage with
  | down | waiting | failed | unwinding => simp [stage, Manager.act] at h
  | guarding | planning | looping | started | effected | verified | leaving =>
      simp [stage, Stage.past] at away
  | locked =>
      rw [stage] at h
      cases action with
      | ensure fresh now fault =>
          obtain rfl := Option.some.inj h
          obtain ⟨ledger, found, refuses⟩ := refused
          obtain ⟨e, failed⟩ := refuses fresh now
          simp only [Manager.ensureLedger, found, failed]
          exact ⟨trivial, rfl, by rintro ⟨⟩⟩
      | _ => simp [Manager.act] at h
  | handling =>
      rw [stage] at h
      cases action with
      | handle failed rolledBack now errorClass errorMessage fault =>
          obtain rfl := Option.some.inj h
          cases attempt : m.attempt with
          | none => simp [Manager.handleFailure, attempt, Manager.goTo, Stage.past]
          | some p => simp [Manager.handleFailure, attempt, Manager.goTo, Stage.past, still]
      | _ => simp [Manager.act] at h
  | ready =>
      rw [stage] at h
      cases action with
      | resolve q fault =>
          obtain ⟨e, nothing⟩ := resolve_refused sound m.allowUnresolved q
          simp only [Manager.act, nothing, Option.some.injEq] at h
          subst h
          exact ⟨rfl, away, fun _ => rfl⟩
      | _ => simp [Manager.act] at h

theorem Halted.step {schemaName : String} {e : ι × Action} (h : Halted backend s)
    (step : System.Step backend schemaName s e t) : Halted backend t ∧ Stays s t := by
  have consistent := (h.toConsistent.step step).1
  suffices (∀ i, (t.manager i).stage.past = false) ∧ Stays s t from
    ⟨⟨consistent, this.2.db ▸ h.refused, this.1⟩, this.2⟩
  obtain ⟨i, action⟩ := e
  have away (a : Action) (acted : ((s.manager i).act backend schemaName s.db (s.manager i).stage a).map
      (fun r => { s.put i r.1 with db := r.2 }) = some t) :
      (∀ j, (t.manager j).stage.past = false) ∧ Stays s t := by
    obtain ⟨r, hr, rfl⟩ := Option.map_eq_some_iff.mp acted
    obtain ⟨same, stays, ready⟩ := act_halted h.sound h.refused (h.unpassed i) (h.durable i) hr
    rw [same]
    exact stays_put s.lock h.unpassed stays ready
  cases action with
  | construct allowUnresolved =>
      simp only [System.Step, System.act] at step
      split at step
      · rw [← Option.some.inj step]
        exact stays_put s.lock h.unpassed rfl (by rintro ⟨⟩)
      · rw [← Option.some.inj step]
        exact stays_put s.lock h.unpassed rfl (by rintro ⟨⟩)
      · rw [← Option.some.inj step]
        exact stays_put s.lock h.unpassed rfl (by rintro ⟨⟩)
      · cases step
  | acquire =>
      simp only [System.Step, System.act] at step
      split at step
      · rw [← Option.some.inj step]
        exact stays_put _ h.unpassed rfl (by rintro ⟨⟩)
      · cases step
  | release =>
      simp only [System.Step, System.act] at step
      split at step
      · rename_i stage
        have past := h.unpassed i
        simp [stage, Stage.past] at past
      · rw [← Option.some.inj step]
        exact stays_put _ h.unpassed rfl (by rintro ⟨⟩)
      · cases step
  | crash =>
      rw [← Option.some.inj step]
      exact stays_put _ h.unpassed rfl (by rintro ⟨⟩)
  | _ => exact away _ step

/-- A halted system stays as it is. -/
theorem Halted.forever {schemaName : String} (h : Halted backend s)
    (k : Leads (System.Step backend schemaName) s t) : Stays s t := by
  refine (k.invariant (I := fun u => Halted backend u ∧ Stays s u) ?_ ⟨h, .refl s⟩).2
  rintro u e v ⟨halted, stays⟩ step
  obtain ⟨next, more⟩ := halted.step step
  exact ⟨next, stays.trans more⟩

/-- An attempt of the ledger has started and has no `SUCCEEDED` event. -/
def Unfinished (db : Database) : Prop :=
  ∃ row ∈ db.rows, row.eventType = .started ∧
    ∀ r ∈ db.rows, r.attemptId = row.attemptId → r.eventType ≠ .succeeded

/-- The ledger exists without all its triggers. -/
def HalfCreated (backend : Backend) (db : Database) : Prop :=
  ∃ ledger, db.ledger = some ledger ∧ ledger.triggers ≠ appendOnly backend

/-- The attempts of a history have succeeded. -/
theorem finished_of_recorded {history : List (Completed backend)} {row : EventRow}
    (h : row ∈ recorded history) :
    ∃ r ∈ recorded history, r.attemptId = row.attemptId ∧ r.eventType = .succeeded := by
  obtain ⟨c, hc, hrow⟩ := mem_recorded.mp h
  refine ⟨c.toAttempt.endRow c.endEvent c.endedAt, mem_recorded.mpr ⟨c, hc, ?_⟩, ?_, rfl⟩
  · simp [Completed.rows]
  · rw [attemptId_of_mem_rows hrow]
    rfl

omit [DecidableEq ι] in
/-- With an unfinished attempt no process is past the ledger, unless it is at the attempt. -/
theorem halted_of_unfinished (h : Consistent backend s) (unfinished : Unfinished s.db)
    (idle : ∀ i, (s.manager i).stage.working = false) : Halted backend s := by
  obtain ⟨row, hr, started, alone⟩ := unfinished
  have open' : ∃ (history : List (Completed backend)) (a : Attempt backend) (effect : Bool),
      Interrupted s.db history a effect := by
    cases h.sound with
    | untouched h =>
        rw [h] at hr
        cases hr
    | bare h =>
        obtain ⟨installed, ledger, -⟩ := h.ledger
        simp [Database.rows, ledger] at hr
    | settled h =>
        rw [h.rows] at hr alone
        obtain ⟨r, mem, same, succeeded⟩ := finished_of_recorded hr
        exact absurd succeeded (alone r mem same)
    | interrupted h => exact ⟨_, _, _, h⟩
  obtain ⟨history, a, effect, inter⟩ := open'
  have unsettled {other : List (Completed backend)} (settled : Settled s.db other) : False := by
    have rows := inter.rows.symm.trans settled.rows
    have lengths := congrArg (fun l => l.countP (·.eventType = .started)) rows
    have more := congrArg (fun l => l.countP (·.eventType = .succeeded)) rows
    have one : [a.startRow].countP (·.eventType = .started) = 1 := rfl
    have zero : [a.startRow].countP (·.eventType = .succeeded) = 0 := rfl
    simp only [List.countP_append, (count_recorded _).1, (count_recorded _).2, one, zero] at lengths more
    omega
  refine ⟨h, inter.refused, fun i => ?_⟩
  have fits := h.fits i
  cases stage : (s.manager i).stage with
  | down | waiting | locked | unwinding | handling | ready | failed => rfl
  | planning | leaving =>
      rw [Fits, stage] at fits
      obtain ⟨other, settled⟩ := fits rfl
      exact (unsettled settled).elim
  | looping =>
      rw [Fits, stage] at fits
      obtain ⟨other, settled, -⟩ := fits rfl
      exact (unsettled settled).elim
  | guarding | started | effected | verified =>
      have working := idle i
      simp [stage, Stage.working] at working

omit [DecidableEq ι] in
/-- With a ledger half created no process is past it, unless it is creating it. -/
theorem halted_of_halfCreated (h : Consistent backend s) (half : HalfCreated backend s.db)
    (idle : ∀ i, (s.manager i).stage.working = false) : Halted backend s := by
  obtain ⟨found, hf, incomplete⟩ := half
  have unsettled {history : List (Completed backend)} (settled : Settled s.db history) : False := by
    rw [settled.ledger] at hf
    exact incomplete (by rw [← Option.some.inj hf])
  have refused : Refused backend s.db := by
    cases h.sound with
    | untouched h =>
        rw [h] at hf
        cases hf
    | bare h more => exact h.refused more
    | settled h => exact (unsettled h).elim
    | interrupted h =>
        rw [h.ledger] at hf
        exact absurd (by rw [← Option.some.inj hf]) incomplete
  refine ⟨h, refused, fun i => ?_⟩
  have fits := h.fits i
  cases stage : (s.manager i).stage with
  | down | waiting | locked | unwinding | handling | ready | failed => rfl
  | planning | leaving =>
      rw [Fits, stage] at fits
      obtain ⟨history, settled⟩ := fits rfl
      exact (unsettled settled).elim
  | looping =>
      rw [Fits, stage] at fits
      obtain ⟨history, settled, -⟩ := fits rfl
      exact (unsettled settled).elim
  | guarding | started | effected | verified =>
      have working := idle i
      simp [stage, Stage.working] at working

/-- Once an attempt has no outcome, or the ledger not all its triggers, and the process that was at it
has raised or died: nothing is ever written again, and no process becomes ready any more, in normal
or in maintenance mode. -/
theorem interrupted_migration_blocks {schemaName : String}
    (h : Reachable System.Start (System.Step backend schemaName) s)
    (stuck : Unfinished s.db ∨ HalfCreated backend s.db)
    (idle : ∀ i, (s.manager i).stage.working = false)
    (later : Leads (System.Step backend schemaName) s t) :
    t.db = s.db ∧ ∀ i, (t.manager i).stage = .ready → (s.manager i).stage = .ready := by
  have consistent := consistent_of_reachable h
  have halted : Halted backend s := by
    rcases stuck with unfinished | half
    · exact halted_of_unfinished consistent unfinished idle
    · exact halted_of_halfCreated consistent half idle
  have stays := halted.forever later
  exact ⟨stays.db, stays.ready⟩

end System

/-- A start in maintenance mode, up to the ledger. -/
def maintenanceStart : List (Unit × Action) :=
  [((), .construct true), ((), .acquire), ((), .ensure (fun _ => .ofNat 4) newYear .none)]

/-- The system after it. -/
def restartedSystem : System Unit :=
  (crashedSystem.follow .postgresql "public" maintenanceStart).getD crashedSystem

theorem interrupted_migration_blocks_crashed :
    restartedSystem.db = crashedSystem.db ∧ ∀ i, (restartedSystem.manager i).stage = .ready →
      (crashedSystem.manager i).stage = .ready := by
  have runs : (crashedSystem.follow .postgresql "public" maintenanceStart).isSome = true := by
    decide +kernel
  obtain ⟨t, ht⟩ := Option.isSome_iff_exists.mp runs
  refine interrupted_migration_blocks crashed_reachable (Or.inl ?_) ?_
    ⟨maintenanceStart, System.run_of_follow ?_⟩
  · unfold Unfinished
    decide +kernel
  · decide +kernel
  · rw [restartedSystem, ht]
    rfl

end CyberAssess.Migration
