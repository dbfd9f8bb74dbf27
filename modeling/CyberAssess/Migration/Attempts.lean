import CyberAssess.Migration.Ledger

/-!
# Migration — attempts as they are recorded

What one attempt leaves in the ledger, and what the startup checks say of it.

* `Attempt` is an attempt with the row it starts with, `Completed` one with the row of its success.
* `Attempt.provenance`: the context of a recorded row passes the check of its transaction.
* `Attempt.reconciliation_refused`: the row that would mark the attempt as orphaned does not.
* `verifyAttempt_started`, `verifyAttempt_completed`: both shapes of an attempt pass.
-/

namespace CyberAssess.Migration

open Python
open Checked (ensure refuse bind_ok exists_unit ensure_ok refuse_ok)

/-! ### Identities -/

theorem mem_registry_version {spec : MigrationSpec} (h : spec ∈ migrationRegistry) :
    1 ≤ spec.version ∧ spec.version ≤ 13 := by
  have known : spec.version ∈ migrationRegistry.map (·.version) := List.mem_map_of_mem h
  rw [registry_versions, List.mem_range'_1] at known
  omega

/-- Every migration has an identity to be recorded with. -/
theorem forwardIdentity_ok {spec : MigrationSpec} (h : spec ∈ migrationRegistry) (backend : Backend) :
    ∃ identity, forwardIdentity spec backend = .ok identity := by
  by_cases last : spec.version = 13
  · exact ⟨_, by rw [forwardIdentity, if_pos last]⟩
  · obtain ⟨artifact, -, found⟩ := forwardApplyIdentity_ok h last backend
    exact ⟨_, by rw [forwardIdentity, if_neg last, found true]; rfl⟩

/-- A transaction names its artifact. -/
theorem transactionArtifact_named (u : UuidHex) (d : Digest) :
    transactionArtifact ("txp-" ++ u.text ++ "-" ++ d.hex) = some d.hex := by
  have text : ("txp-" ++ u.text ++ "-" ++ d.hex).toList =
      't' :: 'x' :: 'p' :: '-' :: (u.text.toList ++ '-' :: hexText 64 d.toNat) := by
    simp [Digest.toList_hex]
  have length := u.length_text
  rw [transactionArtifact, text]
  simp only
  rw [List.drop_append_of_le_length (by omega), List.drop_of_length_le (by omega),
    List.take_append_of_le_length (by omega), List.take_of_length_le (by omega)]
  simp [length, u.hex, Digest.hex]

/-- A transaction of the coordinator is read as one. -/
theorem isPrefixOf_named (u : UuidHex) (d : Digest) :
    "txp-".toList.isPrefixOf ("txp-" ++ u.text ++ "-" ++ d.hex).toList = true := by
  simp

/-- The current map of artifacts is read back from the text of its keys. -/
theorem currentArtifacts_match :
    artifactMapsMatch
      (some (.artifactMap (textKeys currentForwardApplySourceSha256)))
      currentForwardApplySourceSha256 = true := by
  decide +kernel

/-! ### Contexts -/

theorem compatibilityArtifactClaim_early {spec : MigrationSpec}
    (early : 1 ≤ spec.version ∧ spec.version ≤ 12) (backend : Backend) :
    compatibilityArtifactClaim spec backend =
      [("compatibility_artifact_revision", .text currentCompatibilityReconciliationArtifactRevision),
       ("compatibility_artifact",
          .text (digestText (currentCompatibilityReconciliationSourceSha256.get backend))),
       ("compatibility_manifest", .manifest compatibilityReconciliationManifest)] := by
  rw [compatibilityArtifactClaim, if_pos early]

/-- The recorded context of a migration before the last is the pair of the current epoch alone. -/
theorem paired_recorded {spec : MigrationSpec} (early : 1 ≤ spec.version ∧ spec.version ≤ 12)
    {backend : Backend} {artifact : Bool → Digest} (apart : artifact false ≠ artifact true)
    (found : ∀ current, forwardApplyIdentity spec backend current =
      .ok (forwardRevision current, artifact current, forwardArtifacts current)) :
    validatePairedMigrationProvenance spec backend (artifact true).hex
      (contextOf spec backend (forwardRevision true, artifact true,
        .artifactMap (textKeys (forwardArtifacts true)))) = .ok () := by
  have other : (artifact false).hex ≠ (artifact true).hex := fun same => apart (Digest.hex_inj same)
  have legacy (c : Context) : epochMatches spec backend (artifact true).hex c false = .ok false := by
    simp [epochMatches, found, other, bind, Except.bind]
  have current : epochMatches spec backend (artifact true).hex
      (contextOf spec backend (forwardRevision true, artifact true,
        .artifactMap (textKeys (forwardArtifacts true)))) true = .ok true := by
    simp [epochMatches, found, bind, Except.bind, contextOf, compatibilityArtifactClaim_early early,
      Context.states, Context.get?, List.lookup, compatibilityIdentity, forwardArtifacts,
      currentArtifacts_match]
  rw [validatePairedMigrationProvenance, legacy, current]
  simp [contextOf, compatibilityArtifactClaim_early early, Context.present, forwardKeys,
    compatibilityKeys, bind, Except.bind, refuse, ensure]

/-- The context a row is recorded with passes the check of a transaction that names its artifact. -/
theorem provenance_recorded {spec : MigrationSpec} (h : spec ∈ migrationRegistry) {backend : Backend}
    {identity : String × Digest × Datum} (hi : forwardIdentity spec backend = .ok identity)
    (u : UuidHex) :
    validateMigrationEventProvenance backend spec ("txp-" ++ u.text ++ "-" ++ identity.2.1.hex)
      (contextOf spec backend identity) = .ok () := by
  rw [validateMigrationEventProvenance, if_pos (isPrefixOf_named _ _), transactionArtifact_named]
  by_cases last : spec.version = 13
  · rw [forwardIdentity, if_pos last, Except.ok.injEq] at hi
    subst hi
    simp [last, ensure_ok, lastProvenance, contextOf, Context.states, Context.get?, List.lookup]
  · obtain ⟨artifact, apart, found⟩ := forwardApplyIdentity_ok h last backend
    rw [forwardIdentity, if_neg last, found true] at hi
    obtain rfl := Except.ok.inj hi
    have early : 1 ≤ spec.version ∧ spec.version ≤ 12 := by
      have := mem_registry_version h
      omega
    simp only [if_neg last]
    exact paired_recorded early apart found

/-- The context of the row that marks an orphaned attempt fails the check of the transaction. -/
theorem provenance_reconciliation (spec : MigrationSpec) (backend : Backend) (u : UuidHex)
    (d : Digest) :
    validateMigrationEventProvenance backend spec ("txp-" ++ u.text ++ "-" ++ d.hex)
        [("action", .text "operator_reconciliation_required")] =
      .error (if spec.version = 13 then
          .runtime "migration ledger row forward-apply provenance drifted"
        else .compatibility "migration event contains partial paired provenance") := by
  rw [validateMigrationEventProvenance, if_pos (isPrefixOf_named _ _), transactionArtifact_named]
  by_cases last : spec.version = 13
  · simp [last, lastProvenance, Context.states, Context.get?, List.lookup, ensure]
  · simp [last, validatePairedMigrationProvenance, Context.present, forwardKeys, refuse, bind,
      Except.bind]

/-! ### Attempts -/

/-- An attempt the coordinator has recorded the start of. -/
structure Attempt (backend : Backend) where
  spec : MigrationSpec
  known : spec ∈ migrationRegistry
  identity : String × Digest × Datum
  named : forwardIdentity spec backend = .ok identity
  attempt : UuidHex
  transaction : UuidHex
  schemaName : String
  event : UuidHex
  startedAt : Timestamp

namespace Attempt

variable {backend : Backend} (a : Attempt backend)

/-- What the manager keeps of it. -/
def kept : AttemptIdentity :=
  ⟨"mig-" ++ a.attempt.text, "txp-" ++ a.transaction.text ++ "-" ++ a.identity.2.1.hex, a.schemaName⟩

/-- The row of its start. -/
def startRow : EventRow :=
  eventRow backend a.spec a.kept (contextOf a.spec backend a.identity) a.event a.startedAt .started 1
    .pending

/-- The row of its success. -/
def endRow (event : UuidHex) (now : Timestamp) : EventRow :=
  eventRow backend a.spec a.kept (contextOf a.spec backend a.identity) event now .succeeded 2
    .notApplicable

theorem newAttempt_eq :
    newAttempt a.spec backend a.schemaName a.attempt a.transaction = .ok a.kept := by
  rw [newAttempt, a.named]
  rfl

theorem recordStart (rows : List EventRow) :
    recordMigrationEvent backend a.spec a.kept a.event a.startedAt .started 1 .pending rows =
      insertEvent rows a.startRow := by
  rw [recordMigrationEvent, a.named]
  rfl

theorem recordEnd (event : UuidHex) (now : Timestamp) (rows : List EventRow) :
    recordMigrationEvent backend a.spec a.kept event now .succeeded 2 .notApplicable rows =
      insertEvent rows (a.endRow event now) := by
  rw [recordMigrationEvent, a.named]
  rfl

end Attempt

/-- An attempt with the row of its success. -/
structure Completed (backend : Backend) extends Attempt backend where
  endEvent : UuidHex
  endedAt : Timestamp

/-- Its two rows. -/
def Completed.rows {backend : Backend} (c : Completed backend) : List EventRow :=
  [c.startRow, c.toAttempt.endRow c.endEvent c.endedAt]

theorem specOf_version {spec : MigrationSpec} (h : spec ∈ migrationRegistry) :
    specOf spec.version = some spec := by
  have found : ∀ s ∈ migrationRegistry, specOf s.version = some s := by decide +kernel
  exact found spec h

section Rows

variable {backend : Backend} (a : Attempt backend) (event : UuidHex) (now : Timestamp)

/-- A recorded row passes. -/
theorem verifyRow_recorded (eventType : EventType) {sequence : Nat} (positive : 1 ≤ sequence)
    (rollback : RollbackStatus) :
    verifyRow backend (eventRow backend a.spec a.kept (contextOf a.spec backend a.identity) event now
      eventType sequence rollback) = .ok () := by
  have provenance := provenance_recorded a.known a.named a.transaction
  simp only [verifyRow, eventRow, specOf_version a.known, bind_ok, exists_unit, ensure_ok]
  refine ⟨?_, provenance⟩
  simp [rowIdentity, positive, now.nonempty, Attempt.kept]

/-- The row that marks an orphaned attempt is refused. -/
theorem verifyRow_reconciliation (sequence : Nat) (positive : 1 ≤ sequence) :
    verifyRow backend (reconciliationRow backend a.startRow sequence event now) =
      .error (if a.spec.version = 13 then
          .runtime "migration ledger row forward-apply provenance drifted"
        else .compatibility "migration event contains partial paired provenance") := by
  have refused := provenance_reconciliation a.spec backend a.transaction a.identity.2.1
  have identity : rowIdentity backend a.spec
      (reconciliationRow backend a.startRow sequence event now) = true := by
    simp [rowIdentity, reconciliationRow, Attempt.startRow, eventRow, positive, now.nonempty,
      Attempt.kept]
  have version : (reconciliationRow backend a.startRow sequence event now).migrationVersion =
      a.spec.version := rfl
  rw [verifyRow, version, specOf_version a.known]
  simp only [identity, ensure, if_true, bind, Except.bind]
  exact refused

/-- An attempt with its start alone passes. -/
theorem verifyAttempt_started : verifyAttempt [a.startRow] = .ok () := by
  have sorted : sortedBy (·.eventSequence) [a.startRow] = [a.startRow] :=
    sortedBy_eq (List.Perm.refl _) (by simp)
  simp only [verifyAttempt, sorted]
  simp [Attempt.startRow, eventRow, sameAttempt, bind_ok]

/-- An attempt that has succeeded passes, in whatever order its rows are read. -/
theorem verifyAttempt_completed {c : Completed backend} {rows : List EventRow}
    (perm : rows.Perm c.rows) : verifyAttempt rows = .ok () := by
  have sorted : sortedBy (·.eventSequence) rows = c.rows := by
    refine sortedBy_eq perm ?_
    simp [Completed.rows, Attempt.startRow, Attempt.endRow, eventRow]
  simp [verifyAttempt, sorted, Completed.rows, Attempt.startRow, Attempt.endRow, eventRow,
    sameAttempt, bind_ok, terminalSequences, expectedRollback, List.range']

end Rows

/-! ### The ledger of a history -/

section History

variable {backend : Backend} {history : List (Completed backend)}

/-- The rows of attempts that have succeeded one after the other. -/
def recorded (history : List (Completed backend)) : List EventRow := history.flatMap Completed.rows

/-- The attempts by their identities. -/
def attemptIds (history : List (Completed backend)) : List String :=
  history.map (·.kept.attemptId)

@[simp] theorem recorded_append (history more : List (Completed backend)) :
    recorded (history ++ more) = recorded history ++ recorded more := by
  simp [recorded]

@[simp] theorem recorded_singleton (c : Completed backend) : recorded [c] = c.rows := by
  simp [recorded]

theorem mem_recorded {row : EventRow} : row ∈ recorded history ↔ ∃ c ∈ history, row ∈ c.rows := by
  simp [recorded]

theorem attemptId_of_mem_rows {c : Completed backend} {row : EventRow} (h : row ∈ c.rows) :
    row.attemptId = c.kept.attemptId := by
  simp only [Completed.rows, List.mem_cons, List.not_mem_nil, or_false] at h
  rcases h with rfl | rfl <;> rfl

/-- No row is of an attempt that is not in the history. -/
theorem filter_recorded_of_notMem {id : String} (h : id ∉ attemptIds history) :
    (recorded history).filter (·.attemptId = id) = [] := by
  rw [List.filter_eq_nil_iff]
  intro row hr
  obtain ⟨c, hc, hrow⟩ := mem_recorded.mp hr
  rw [attemptId_of_mem_rows hrow, decide_eq_true_eq]
  rintro rfl
  exact h (List.mem_map_of_mem hc)

/-- The rows of an attempt of the history are its two. -/
theorem filter_recorded_of_mem (distinct : (attemptIds history).Nodup) {c : Completed backend}
    (h : c ∈ history) : (recorded history).filter (·.attemptId = c.kept.attemptId) = c.rows := by
  obtain ⟨before, after, rfl⟩ := List.append_of_mem h
  have own : c.rows.filter (·.attemptId = c.kept.attemptId) = c.rows :=
    List.filter_eq_self.mpr fun row hr => by simpa using attemptId_of_mem_rows hr
  simp only [attemptIds, List.map_append, List.map_cons, List.nodup_middle] at distinct
  obtain ⟨fresh, -⟩ := List.nodup_cons.mp distinct
  rw [List.mem_append, not_or] at fresh
  rw [show before ++ c :: after = before ++ ([c] ++ after) from rfl, recorded_append, recorded_append,
    recorded_singleton, List.filter_append, List.filter_append, own,
    filter_recorded_of_notMem fresh.1, filter_recorded_of_notMem fresh.2]
  simp

/-- The rows the startup checks pass: those of the history, and the start of at most one attempt more. -/
theorem verifyMigrationLedgerRows_recorded (distinct : (attemptIds history).Nodup)
    (last : Option (Attempt backend)) (fresh : ∀ a ∈ last, a.kept.attemptId ∉ attemptIds history) :
    verifyMigrationLedgerRows backend (recorded history ++ (last.map (·.startRow)).toList) =
      .ok () := by
  have perm : (byTime (recorded history ++ (last.map (·.startRow)).toList)).Perm
      (recorded history ++ (last.map (·.startRow)).toList) := sortedBy_perm _ _
  simp only [verifyMigrationLedgerRows, bind_ok, exists_unit]
  constructor
  · rw [Checked.each_perm perm, Checked.each_ok]
    intro row hr
    rcases List.mem_append.mp hr with hr | hr
    · obtain ⟨c, -, hrow⟩ := mem_recorded.mp hr
      simp only [Completed.rows, List.mem_cons, List.not_mem_nil, or_false] at hrow
      rcases hrow with rfl | rfl
      · exact verifyRow_recorded c.toAttempt c.event c.startedAt .started (le_refl 1) .pending
      · exact verifyRow_recorded c.toAttempt c.endEvent c.endedAt .succeeded (by decide) _
    · cases last with
      | none => simp at hr
      | some a =>
          obtain rfl : row = a.startRow := by simpa using hr
          exact verifyRow_recorded a a.event a.startedAt .started (le_refl 1) .pending
  · rw [Checked.each_ok]
    intro p hp
    simp only [attemptsOf, List.mem_map, mem_fromKeys] at hp
    obtain ⟨id, ⟨row, hr, rfl⟩, rfl⟩ := hp
    have rows := perm.filter (·.attemptId = row.attemptId)
    rw [List.filter_append] at rows
    rw [perm.mem_iff, List.mem_append] at hr
    rcases hr with hr | hr
    · obtain ⟨c, hc, hrow⟩ := mem_recorded.mp hr
      rw [attemptId_of_mem_rows hrow] at rows ⊢
      rw [filter_recorded_of_mem distinct hc] at rows
      refine verifyAttempt_completed (c := c) ?_
      cases last with
      | none => simpa using rows
      | some a =>
          have other : a.startRow.attemptId ≠ c.kept.attemptId := by
            intro same
            apply fresh a rfl
            rw [show a.kept.attemptId = c.kept.attemptId from same]
            exact List.mem_map_of_mem hc
          simpa [other] using rows
    · cases last with
      | none => simp at hr
      | some a =>
          obtain rfl : row = a.startRow := by simpa using hr
          rw [show a.startRow.attemptId = a.kept.attemptId from rfl] at rows ⊢
          rw [filter_recorded_of_notMem (fresh a rfl)] at rows
          have alone : (byTime (recorded history ++ [a.startRow])).filter
              (·.attemptId = a.kept.attemptId) = [a.startRow] := by
            have same : a.startRow.attemptId = a.kept.attemptId := rfl
            exact List.perm_singleton.mp (by simpa [same] using rows)
          simpa [alone] using verifyAttempt_started a

/-! ### Orphans -/

theorem reconcileAttempt_settled {fresh : String → UuidHex} {now : Timestamp} {table : List EventRow}
    {p : String × List EventRow} (settled : orphaned p.2 = false) :
    reconcileAttempt backend fresh now table p = .ok table := by
  unfold reconcileAttempt
  split
  · rw [settled]
    rfl
  · rfl

theorem foldlM_settled {fresh : String → UuidHex} {now : Timestamp} {table : List EventRow}
    {groups : List (String × List EventRow)} (settled : ∀ p ∈ groups, orphaned p.2 = false) :
    groups.foldlM (reconcileAttempt backend fresh now) table = .ok table := by
  induction groups with
  | nil => rfl
  | cons p groups ih =>
      rw [List.foldlM_cons, reconcileAttempt_settled (settled p List.mem_cons_self)]
      exact ih fun q hq => settled q (List.mem_cons_of_mem _ hq)

/-- An attempt that has succeeded has an outcome. -/
theorem orphaned_completed {c : Completed backend} {rows : List EventRow} (perm : rows.Perm c.rows) :
    orphaned rows = false := by
  have outcome : c.toAttempt.endRow c.endEvent c.endedAt ∈ rows :=
    perm.mem_iff.mpr (by simp [Completed.rows])
  simp only [orphaned, Bool.and_eq_false_iff, Bool.not_eq_false', List.any_eq_true]
  exact Or.inr ⟨_, outcome, by simp [Attempt.endRow, eventRow]⟩

/-- The attempts of a history have outcomes, in whatever order the rows are read. -/
theorem orphaned_of_mem (distinct : (attemptIds history).Nodup) {rows : List EventRow}
    {extra : List EventRow} (perm : rows.Perm (recorded history ++ extra)) {c : Completed backend}
    (hc : c ∈ history) (other : ∀ row ∈ extra, row.attemptId ≠ c.kept.attemptId) :
    orphaned (rows.filter (·.attemptId = c.kept.attemptId)) = false := by
  refine orphaned_completed (c := c) ?_
  have own := perm.filter (·.attemptId = c.kept.attemptId)
  have none : extra.filter (·.attemptId = c.kept.attemptId) = [] :=
    List.filter_eq_nil_iff.mpr fun row hr => by simpa using other row hr
  rwa [List.filter_append, filter_recorded_of_mem distinct hc, none, List.append_nil] at own

/-- A history without an open attempt is left as it is. -/
theorem reconcileOrphanedAttempts_recorded (distinct : (attemptIds history).Nodup)
    (fresh : String → UuidHex) (now : Timestamp) :
    reconcileOrphanedAttempts backend fresh now (recorded history) = .ok (recorded history) := by
  refine foldlM_settled fun p hp => ?_
  have perm := sortedBy_perm (fun row : EventRow => toLex (row.attemptId, row.eventSequence))
    (recorded history)
  simp only [attemptsOf, List.mem_map, mem_fromKeys] at hp
  obtain ⟨id, ⟨row, hr, rfl⟩, rfl⟩ := hp
  obtain ⟨c, hc, hrow⟩ := mem_recorded.mp (perm.mem_iff.mp hr)
  rw [attemptId_of_mem_rows hrow]
  have whole : (sortedBy (fun row : EventRow => toLex (row.attemptId, row.eventSequence))
      (recorded history)).Perm (recorded history ++ []) := by
    simpa using perm
  exact orphaned_of_mem distinct whole hc (by simp)

/-- An attempt that was started and has no outcome is to be marked. -/
theorem reconcileOrphanedAttempts_interrupted (distinct : (attemptIds history).Nodup)
    (a : Attempt backend) (new : a.kept.attemptId ∉ attemptIds history) (fresh : String → UuidHex)
    (now : Timestamp) :
    reconcileOrphanedAttempts backend fresh now (recorded history ++ [a.startRow]) =
      insertEvent (recorded history ++ [a.startRow])
        (reconciliationRow backend a.startRow 2 (fresh a.kept.attemptId) now) := by
  set rows := sortedBy (fun row : EventRow => toLex (row.attemptId, row.eventSequence))
    (recorded history ++ [a.startRow]) with hrows
  have perm : rows.Perm (recorded history ++ [a.startRow]) := sortedBy_perm _ _
  have own : rows.filter (·.attemptId = a.kept.attemptId) = [a.startRow] := by
    have all := perm.filter (·.attemptId = a.kept.attemptId)
    have same : a.startRow.attemptId = a.kept.attemptId := rfl
    rw [List.filter_append, filter_recorded_of_notMem new] at all
    exact List.perm_singleton.mp (by simpa [same] using all)
  have member : a.kept.attemptId ∈ fromKeys (rows.map (·.attemptId)) := by
    rw [mem_fromKeys, List.mem_map]
    exact ⟨a.startRow, perm.mem_iff.mpr (by simp), rfl⟩
  -- the groups before and after the one of the attempt have outcomes
  obtain ⟨before, after, split⟩ := List.append_of_mem member
  have once := nodup_fromKeys (rows.map (·.attemptId))
  rw [split, List.nodup_middle, List.nodup_cons, List.mem_append, not_or] at once
  have settled : ∀ id ∈ before ++ after,
      orphaned (rows.filter (·.attemptId = id)) = false := by
    intro id hid
    have other : id ≠ a.kept.attemptId := by
      rintro rfl
      rcases List.mem_append.mp hid with h | h
      · exact once.1.1 h
      · exact once.1.2 h
    have known : id ∈ rows.map (·.attemptId) := by
      rw [← mem_fromKeys, split]
      rcases List.mem_append.mp hid with h | h <;> simp [h]
    obtain ⟨row, hr, rfl⟩ := List.mem_map.mp known
    rcases List.mem_append.mp (perm.mem_iff.mp hr) with hr | hr
    · obtain ⟨c, hc, hrow⟩ := mem_recorded.mp hr
      rw [attemptId_of_mem_rows hrow] at other ⊢
      refine orphaned_of_mem distinct perm hc fun r hr => ?_
      obtain rfl : r = a.startRow := by simpa using hr
      exact fun same => other same.symm
    · obtain rfl : row = a.startRow := by simpa using hr
      exact absurd rfl other
  have settledGroups (ids : List String) (sub : ids ⊆ before ++ after) :
      ∀ p ∈ ids.map fun id => (id, rows.filter fun row => row.attemptId = id),
        orphaned p.2 = false := by
    intro p hp
    obtain ⟨id, hid, rfl⟩ := List.mem_map.mp hp
    exact settled id (sub hid)
  have step (table : List EventRow) : reconcileAttempt backend fresh now table
      (a.kept.attemptId, [a.startRow]) =
        insertEvent table (reconciliationRow backend a.startRow 2 (fresh a.kept.attemptId) now) := by
    simp [reconcileAttempt, orphaned, Attempt.startRow, eventRow]
  rw [reconcileOrphanedAttempts, ← hrows, attemptsOf, split, List.map_append, List.map_cons, own,
    List.foldlM_append, foldlM_settled (settledGroups before (by simp))]
  simp only [bind, Except.bind, List.foldlM_cons, step]
  cases inserted : insertEvent (recorded history ++ [a.startRow])
      (reconciliationRow backend a.startRow 2 (fresh a.kept.attemptId) now) with
  | error e => rfl
  | ok table => exact foldlM_settled (settledGroups after (by simp))

/-- A ledger with the mark of an orphaned attempt is refused, for the context of the mark. -/
theorem verifyMigrationLedgerRows_reconciliation (history : List (Completed backend))
    (a : Attempt backend) (event : UuidHex) (now : Timestamp) :
    verifyMigrationLedgerRows backend
        (recorded history ++ [a.startRow] ++ [reconciliationRow backend a.startRow 2 event now]) =
      .error (if a.spec.version = 13 then
          .runtime "migration ledger row forward-apply provenance drifted"
        else .compatibility "migration event contains partial paired provenance") := by
  set mark := reconciliationRow backend a.startRow 2 event now with hmark
  have perm : (byTime (recorded history ++ [a.startRow] ++ [mark])).Perm
      (recorded history ++ [a.startRow] ++ [mark]) := sortedBy_perm _ _
  have refused := verifyRow_reconciliation a event now 2 (by decide)
  obtain ⟨before, after, split, first⟩ :=
    List.eq_append_cons_of_mem (perm.mem_iff.mpr (show mark ∈ _ by simp))
  have failed : Checked.each (verifyRow backend) (byTime (recorded history ++ [a.startRow] ++ [mark])) =
      .error (if a.spec.version = 13 then
          .runtime "migration ledger row forward-apply provenance drifted"
        else .compatibility "migration event contains partial paired provenance") := by
    refine Checked.each_error.mpr ⟨before, mark, after, split, fun row hr => ?_, refused⟩
    have member : row ∈ recorded history ++ [a.startRow] ++ [mark] :=
      perm.mem_iff.mp (by rw [split]; simp [hr])
    rcases List.mem_append.mp member with member | member
    · rcases List.mem_append.mp member with member | member
      · obtain ⟨c, -, hrow⟩ := mem_recorded.mp member
        simp only [Completed.rows, List.mem_cons, List.not_mem_nil, or_false] at hrow
        rcases hrow with rfl | rfl
        · exact verifyRow_recorded c.toAttempt c.event c.startedAt .started (le_refl 1) .pending
        · exact verifyRow_recorded c.toAttempt c.endEvent c.endedAt .succeeded (by decide) _
      · obtain rfl : row = a.startRow := by simpa using member
        exact verifyRow_recorded a a.event a.startedAt .started (le_refl 1) .pending
    · obtain rfl : row = mark := by simpa using member
      exact absurd hr first
  rw [verifyMigrationLedgerRows, failed]
  rfl

end History

end CyberAssess.Migration
