import CyberAssess.Migration.Attempts
import CyberAssess.Migration.Coordinator
import CyberAssess.Support.TaskJournal

/-!
# Migration — the databases startups leave

What the ledger and the versions look like between two transactions, and what the startup checks say
of each.

* `Settled`: a history of attempts that have succeeded, of the first migrations in order.
* `Interrupted`: one attempt more has started; its migration may have been applied.
* `Bare`: a ledger whose triggers are not all there yet.
* `ensureMigrationLedger_settled` passes; `ensureMigrationLedger_interrupted` and `_bare` do not.
* `Settled.begin`, `Interrupted.applyVersion`, `Interrupted.succeed`: what an attempt makes of them.
-/

namespace CyberAssess.Migration

open Python
open Checked (ensure refuse bind_ok exists_unit ensure_ok refuse_ok)
open TaskJournal (Mark Progress script)

variable {backend : Backend}

/-! ### Histories -/

/-- The migration at an index is the one of the version after it. -/
theorem version_at {n : Nat} {spec : MigrationSpec} (next : migrationRegistry[n]? = some spec) :
    n < 13 ∧ spec.version = n + 1 := by
  have version : (migrationRegistry.map (·.version))[n]? = some spec.version := by
    rw [List.getElem?_map, next]
    rfl
  rw [registry_versions] at version
  obtain ⟨bound, value⟩ := List.getElem?_eq_some_iff.mp version
  rw [List.getElem_range'] at value
  rw [List.length_range'] at bound
  omega

/-- The versions of a history. -/
def versionsOf (history : List (Completed backend)) : List Nat := history.map (·.spec.version)

@[simp] theorem versionsOf_append (history more : List (Completed backend)) :
    versionsOf (history ++ more) = versionsOf history ++ versionsOf more := by
  simp [versionsOf]

/-- A history of the first migrations, in order and with attempts of their own. -/
structure Ordered (history : List (Completed backend)) : Prop where
  order : history.map (·.spec) = migrationRegistry.take history.length
  distinct : (attemptIds history).Nodup

namespace Ordered

variable {history : List (Completed backend)} (h : Ordered history)

include h

theorem length_le : history.length ≤ 13 := by
  have lengths := congrArg List.length h.order
  rw [List.length_map, List.length_take] at lengths
  have size : migrationRegistry.length = 13 := rfl
  omega

/-- Its versions count up from one. -/
theorem versions : versionsOf history = List.range' 1 history.length := by
  have map : versionsOf history = (history.map (·.spec)).map (·.version) := by
    rw [versionsOf, List.map_map]
    rfl
  rw [map, h.order, List.map_take, registry_versions,
    List.take_range'_of_length_ge h.length_le]

/-- The tasks of the journal, up to the next and beyond it. -/
theorem tasks {spec : MigrationSpec} (next : migrationRegistry[history.length]? = some spec) :
    migrationRegistry.map (·.version) =
      versionsOf history ++
        spec.version :: (migrationRegistry.drop (history.length + 1)).map (·.version) := by
  obtain ⟨bound, value⟩ := List.getElem?_eq_some_iff.mp next
  have split : migrationRegistry = migrationRegistry.take history.length ++
      spec :: migrationRegistry.drop (history.length + 1) := by
    rw [← value, List.cons_getElem_drop_succ, List.take_append_drop]
  conv_lhs => rw [split, List.map_append, List.map_cons, ← h.order]
  simp [versionsOf]

/-- A history goes on with an attempt of the next migration. -/
theorem extend {c : Completed backend} (next : migrationRegistry[history.length]? = some c.spec)
    (new : c.kept.attemptId ∉ attemptIds history) : Ordered (history ++ [c]) where
  order := by
    rw [List.map_append, h.order, List.length_append, List.length_singleton, List.take_add_one,
      next]
    rfl
  distinct := by
    rw [attemptIds, List.map_append, List.map_singleton]
    exact List.Nodup.append h.distinct (List.nodup_singleton _)
      (List.disjoint_singleton.mpr new)

end Ordered

theorem ordered_nil : Ordered ([] : List (Completed backend)) :=
  ⟨rfl, List.nodup_nil⟩

/-! ### Shapes -/

/-- Every attempt has succeeded. -/
structure Settled (db : Database) (history : List (Completed backend)) : Prop
    extends Ordered history where
  ledger : db.ledger = some ⟨recorded history, appendOnly backend⟩
  applied : db.applied = versionsOf history

/-- One attempt more has started; whether it was applied is `effect`. -/
structure Interrupted (db : Database) (history : List (Completed backend)) (a : Attempt backend)
    (effect : Bool) : Prop extends Ordered history where
  next : migrationRegistry[history.length]? = some a.spec
  new : a.kept.attemptId ∉ attemptIds history
  ledger : db.ledger = some ⟨recorded history ++ [a.startRow], appendOnly backend⟩
  applied : db.applied = versionsOf history ++ if effect then [a.spec.version] else []

/-- A ledger that is being created. -/
structure Bare (backend : Backend) (db : Database) (missing : List Trigger) : Prop where
  versions : db.versions = none
  ledger : ∃ installed, db.ledger = some ⟨[], installed⟩ ∧ installed ++ missing = appendOnly backend

/-- The databases startups leave. -/
inductive Sound (backend : Backend) (db : Database) : Prop where
  | untouched (h : db = ⟨none, none⟩)
  | bare {missing : List Trigger} (h : Bare backend db missing) (incomplete : missing ≠ [])
  | settled {history : List (Completed backend)} (h : Settled db history)
  | interrupted {history : List (Completed backend)} {a : Attempt backend} {effect : Bool}
      (h : Interrupted db history a effect)

/-! ### The startup checks -/

section Checks

variable {db : Database} {history : List (Completed backend)} {a : Attempt backend} {effect : Bool}

theorem Settled.rows (h : Settled db history) : db.rows = recorded history := by
  rw [Database.rows, h.ledger]
  rfl

theorem Interrupted.rows (h : Interrupted db history a effect) :
    db.rows = recorded history ++ [a.startRow] := by
  rw [Database.rows, h.ledger]
  rfl

theorem verifyMigrationLedger_recorded (h : Ordered history) :
    verifyMigrationLedger backend ⟨recorded history, appendOnly backend⟩ = .ok () := by
  have rows := verifyMigrationLedgerRows_recorded h.distinct none (by simp)
  simp only [Option.map_none, Option.toList_none, List.append_nil] at rows
  simp [verifyMigrationLedger, rows, bind_ok]

/-- A settled ledger passes, and is left as it is. -/
theorem ensureMigrationLedger_settled (h : Ordered history) (fresh : String → UuidHex)
    (now : Timestamp) :
    ensureMigrationLedger backend fresh now ⟨recorded history, appendOnly backend⟩ =
      .ok ⟨recorded history, appendOnly backend⟩ := by
  have verified := verifyMigrationLedger_recorded h
  simp [ensureMigrationLedger, verified, reconcileOrphanedAttempts_recorded h.distinct, bind_ok]

/-- A ledger with an open attempt is refused: the mark of the attempt does not pass. -/
theorem ensureMigrationLedger_interrupted (h : Interrupted db history a effect)
    (fresh : String → UuidHex) (now : Timestamp) :
    ∃ e, ensureMigrationLedger backend fresh now
      ⟨recorded history ++ [a.startRow], appendOnly backend⟩ = .error e := by
  have rows := verifyMigrationLedgerRows_recorded h.distinct (some a) (by simpa using h.new)
  simp only [Option.map_some, Option.toList_some] at rows
  have verified : verifyMigrationLedger backend
      ⟨recorded history ++ [a.startRow], appendOnly backend⟩ = .ok () := by
    simp [verifyMigrationLedger, rows, bind_ok]
  rw [ensureMigrationLedger, verified]
  simp only [bind, Except.bind, reconcileOrphanedAttempts_interrupted h.distinct a h.new, insertEvent]
  split
  · rename_i e failed
    exact ⟨e, rfl⟩
  · rename_i rows' inserted
    obtain rfl : _ = rows' := by
      split at inserted
      · cases inserted
      · exact Except.ok.inj inserted
    refine ⟨if a.spec.version = 13 then
        .runtime "migration ledger row forward-apply provenance drifted"
      else .compatibility "migration event contains partial paired provenance", ?_⟩
    have refused := verifyMigrationLedgerRows_reconciliation history a
      (fresh a.kept.attemptId) now
    simp only [verifyMigrationLedger, ensure, decide_true, if_true, bind, Except.bind, refused]

/-- A ledger without all its triggers is refused. -/
theorem ensureMigrationLedger_bare {installed missing : List Trigger} {rows : List EventRow}
    (parts : installed ++ missing = appendOnly backend) (incomplete : missing ≠ [])
    (fresh : String → UuidHex) (now : Timestamp) :
    ensureMigrationLedger backend fresh now ⟨rows, installed⟩ =
      .error (.runtime "migration ledger append-only protection is absent") := by
  have other : installed ≠ appendOnly backend := by
    intro same
    rw [← same, List.append_right_eq_self] at parts
    exact incomplete parts
  simp [ensureMigrationLedger, verifyMigrationLedger, other, ensure, bind, Except.bind]

end Checks

/-! ### What an attempt makes of them -/

section Steps

variable {db : Database} {history : List (Completed backend)} {a : Attempt backend} {effect : Bool}

theorem insertEvent_ok {rows rows' : List EventRow} {row : EventRow}
    (h : insertEvent rows row = .ok rows') : collides rows row = false ∧ rows' = rows ++ [row] := by
  unfold insertEvent at h
  split at h
  · cases h
  · rename_i free
    exact ⟨by simpa using free, (Except.ok.inj h).symm⟩

/-- A start that is inserted is of an attempt of its own. -/
theorem new_of_insert (h : collides (recorded history) a.startRow = false) :
    a.kept.attemptId ∉ attemptIds history := by
  intro member
  obtain ⟨c, hc, same⟩ := List.mem_map.mp member
  rw [collides, List.any_eq_false] at h
  refine h c.startRow (mem_recorded.mpr ⟨c, hc, by simp [Completed.rows]⟩) ?_
  have attempt : c.startRow.attemptId = a.startRow.attemptId := same
  have type : c.startRow.eventType = a.startRow.eventType := rfl
  simp [attempt, type]

/-- The next migration is begun on a settled database. -/
theorem Settled.begin (h : Settled db history)
    (next : migrationRegistry[history.length]? = some a.spec) {rows : List EventRow}
    (inserted : insertEvent db.rows a.startRow = .ok rows) :
    Interrupted (db.withRows rows) history a false where
  toOrdered := h.toOrdered
  next := next
  new := by
    rw [h.rows] at inserted
    exact new_of_insert (insertEvent_ok inserted).1
  ledger := by
    rw [h.rows] at inserted
    rw [(insertEvent_ok inserted).2, Database.withRows, h.ledger]
    rfl
  applied := by
    rw [if_neg Bool.false_ne_true, List.append_nil]
    exact h.applied

/-- The next version is all that is missing. -/
theorem insertedVersions_next {n : Nat} (h : n < 13) :
    insertedVersions (n + 1) (List.range' 1 n) = [n + 1] := by
  have all : ∀ m < 13, insertedVersions (m + 1) (List.range' 1 m) = [m + 1] := by decide
  exact all n h

/-- A migration that is applied inserts its own version or, cut off, none. -/
theorem Interrupted.applyVersion (h : Interrupted db history a false) (durable : Nat) :
    Interrupted (applyVersion a.spec.version durable db) history a (decide (0 < durable)) where
  toOrdered := h.toOrdered
  next := h.next
  new := h.new
  ledger := h.ledger
  applied := by
    obtain ⟨bound, version⟩ := version_at h.next
    have before : db.applied = List.range' 1 history.length := by
      rw [h.applied, h.toOrdered.versions, if_neg Bool.false_ne_true, List.append_nil]
    have inserted : insertedVersions a.spec.version db.applied = [a.spec.version] := by
      rw [before, version]
      exact insertedVersions_next bound
    rw [CyberAssess.Migration.applyVersion, inserted, before, h.toOrdered.versions]
    cases durable with
    | zero => rfl
    | succ k => simp [Database.applied]

/-- The attempt that has been applied succeeds. -/
theorem Interrupted.succeed (h : Interrupted db history a true) {event : UuidHex} {now : Timestamp}
    {rows : List EventRow} (inserted : insertEvent db.rows (a.endRow event now) = .ok rows) :
    Settled (db.withRows rows) (history ++ [⟨a, event, now⟩]) where
  toOrdered := h.toOrdered.extend h.next h.new
  ledger := by
    rw [h.rows] at inserted
    rw [(insertEvent_ok inserted).2, Database.withRows, h.ledger]
    simp [Completed.rows]
  applied := by
    have same := h.applied
    rw [if_pos rfl] at same
    rw [versionsOf_append]
    exact same

end Steps

end CyberAssess.Migration
