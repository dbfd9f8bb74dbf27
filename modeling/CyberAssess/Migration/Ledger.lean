import CyberAssess.Migration.Registry
import CyberAssess.Support.Each

/-!
# Migration — the event ledger

`schema_migration_events`, the append-only table in which every migration attempt is recorded: the
rows, the checks every startup makes of them, and what the code adds to them.

* `EventRow` is a row, `insertEvent` an `INSERT` under the constraints of the table.
* `contextOf` is the context a row is recorded with, `recordMigrationEvent` records one.
* `validateMigrationEventProvenance` checks the context of a row against its transaction,
  `verifyMigrationLedgerRows` all rows and the shape of every attempt.
* `reconcileOrphanedAttempts` marks the attempts left without an outcome.

`[about ours]`: `context_json` is kept as the object it is the text of; the keys of a map of versions
are text, as `json.dumps` writes them. The columns and constraints of the physical table are the ones
the code creates.
-/

namespace CyberAssess.Migration

open Python
open Checked (ensure refuse each)

/-! ### Rows -/

/-- The event types the table admits. -/
inductive EventType where
  | started
  | succeeded
  | failed
  | rolledBack
  | rollbackFailed
  | reconciliationRequired
  | reconciliationResolved
  deriving DecidableEq

/-- The rollback states the table admits. -/
inductive RollbackStatus where
  | notApplicable
  | pending
  | confirmed
  | failed
  | unknown
  deriving DecidableEq

/-- A value in a context. -/
inductive Datum where
  | text (s : String)
  | number (n : Nat)
  | numbers (ns : List Nat)
  | texts (a : PerBackend String)
  | artifacts (a : PerBackend Digest)
  | artifactMap (m : List (String × PerBackend Digest))
  | manifest (entries : List CompatibilityEntry)
  deriving DecidableEq

/-- `context_json`, read. -/
abbrev Context := List (String × Datum)

/-- `context.get(key)`. -/
def Context.get? (c : Context) (key : String) : Option Datum := c.lookup key

/-- `context.get(key) == text`. -/
def Context.states (c : Context) (key text : String) : Bool := c.get? key = some (.text text)

/-- `keys & set(context)`, in the order of `keys`. -/
def Context.present (c : Context) (keys : List String) : List String :=
  keys.filter fun k => c.any fun p => p.1 = k

/-- A row of `schema_migration_events`. -/
structure EventRow where
  eventId : String
  attemptId : String
  migrationVersion : Nat
  migrationId : String
  migrationName : String
  registryRevision : String
  eventSequence : Nat
  eventType : EventType
  eventAt : String
  backend : Backend
  schemaName : String
  previousSchemaVersion : Option Nat
  targetSchemaVersion : Nat
  migrationChecksum : String
  runnerIdentity : String
  transactionContextId : String
  errorCode : Option String
  errorClass : Option String
  errorMessage : Option String
  context : Context
  rollbackStatus : RollbackStatus
  deriving DecidableEq

/-- The primary key and the two unique constraints of the table refuse the row. -/
def collides (rows : List EventRow) (row : EventRow) : Bool :=
  rows.any fun r => r.eventId = row.eventId ||
    (r.attemptId = row.attemptId &&
      (r.eventType = row.eventType || r.eventSequence = row.eventSequence))

/-- `INSERT INTO schema_migration_events`. -/
def insertEvent (rows : List EventRow) (row : EventRow) : Except MigrationError (List EventRow) :=
  if collides rows row then .error (.integrity "UNIQUE constraint failed: schema_migration_events")
  else .ok (rows ++ [row])

/-! ### What is recorded -/

/-- `uuid.uuid4().hex`. -/
structure UuidHex where
  text : String
  length_text : text.toList.length = 32
  hex : text.toList.all isHex = true

/-- The identity with the digits of a number. -/
def UuidHex.ofNat (n : Nat) : UuidHex := ⟨String.ofList (hexText 32 n), by simp, by simp⟩

/-- `utc_now().isoformat()`. -/
structure Timestamp where
  text : String
  nonempty : text ≠ ""

/-- A map of versions as `json.dumps` writes it: its keys are text. -/
def textKeys (m : List (Nat × PerBackend Digest)) : List (String × PerBackend Digest) :=
  m.map fun p => (toString p.1, p.2)

/-- The identity an attempt is recorded with: revision, selected artifact and all artifacts. -/
def forwardIdentity (spec : MigrationSpec) (backend : Backend) :
    Except MigrationError (String × Digest × Datum) :=
  if spec.version = 13 then
    .ok (forwardApplyArtifactRevision, spec.applyArtifact.get backend, .artifacts spec.applyArtifact)
  else do
    let (revision, artifact, artifactMap) ← forwardApplyIdentity spec backend true
    .ok (revision, artifact, .artifactMap (textKeys artifactMap))

/-- `_compatibility_artifact_claim`. -/
def compatibilityArtifactClaim (spec : MigrationSpec) (backend : Backend) : Context :=
  if 1 ≤ spec.version ∧ spec.version ≤ 12 then
    [("compatibility_artifact_revision", .text currentCompatibilityReconciliationArtifactRevision),
     ("compatibility_artifact",
        .text (digestText (currentCompatibilityReconciliationSourceSha256.get backend))),
     ("compatibility_manifest", .manifest compatibilityReconciliationManifest)]
  else []

/-- The context of a row of an attempt, under the identity it is recorded with. -/
def contextOf (spec : MigrationSpec) (backend : Backend) (identity : String × Digest × Datum) :
    Context :=
  [("coordinator", .text "registry"),
    ("provenance_format", .text "registry-coordinator-v2"),
    ("migration_version", .number spec.version),
    ("apply_artifact_revision", .text identity.1),
    ("apply_artifact", .text (digestText identity.2.1)),
    ("apply_artifacts", identity.2.2),
    ("apply_manifest", .texts spec.applyManifest),
    ("backend_policy", .text spec.backendPolicy)] ++ compatibilityArtifactClaim spec backend

/-- What the manager keeps of the attempt in progress. -/
structure AttemptIdentity where
  attemptId : String
  transactionId : String
  schemaName : String
  deriving DecidableEq

/-- The identity of a new attempt. The transaction names the artifact it applies. -/
def newAttempt (spec : MigrationSpec) (backend : Backend) (schemaName : String)
    (attempt transaction : UuidHex) : Except MigrationError AttemptIdentity := do
  let identity ← forwardIdentity spec backend
  .ok ⟨"mig-" ++ attempt.text, "txp-" ++ transaction.text ++ "-" ++ identity.2.1.hex, schemaName⟩

/-- The row `_record_migration_event` inserts. -/
def eventRow (backend : Backend) (spec : MigrationSpec) (a : AttemptIdentity) (context : Context)
    (event : UuidHex) (now : Timestamp) (eventType : EventType) (sequence : Nat)
    (rollback : RollbackStatus) : EventRow where
  eventId := "event-" ++ event.text
  attemptId := a.attemptId
  migrationVersion := spec.version
  migrationId := spec.migrationId
  migrationName := spec.name
  registryRevision := spec.registryRevision
  eventSequence := sequence
  eventType := eventType
  eventAt := now.text
  backend := backend
  schemaName := a.schemaName
  previousSchemaVersion := spec.previousVersion
  targetSchemaVersion := spec.targetVersion
  migrationChecksum := digestText spec.checksum
  runnerIdentity := "database-startup"
  transactionContextId := a.transactionId
  errorCode := none
  errorClass := none
  errorMessage := none
  context := context
  rollbackStatus := rollback

/-- `_record_migration_event`. -/
def recordMigrationEvent (backend : Backend) (spec : MigrationSpec) (a : AttemptIdentity)
    (event : UuidHex) (now : Timestamp) (eventType : EventType) (sequence : Nat)
    (rollback : RollbackStatus) (rows : List EventRow) : Except MigrationError (List EventRow) := do
  let identity ← forwardIdentity spec backend
  insertEvent rows (eventRow backend spec a (contextOf spec backend identity) event now eventType
    sequence rollback)

/-! ### Provenance -/

/-- `re.fullmatch(r"txp-([0-9a-f]{32})-([0-9a-f]{64})", …)`: its second group. -/
def transactionArtifact (s : String) : Option String :=
  match s.toList with
  | 't' :: 'x' :: 'p' :: '-' :: rest =>
      match rest.drop 32 with
      | '-' :: digits =>
          if (rest.take 32).length = 32 && (rest.take 32).all isHex &&
              (digits.length = 64 && digits.all isHex) then some (String.ofList digits) else none
      | _ => none
  | _ => none

/-- `re.fullmatch(r"tx-[0-9a-f]{32}", …)`. -/
def isLegacyTransaction (s : String) : Bool :=
  match s.toList with
  | 't' :: 'x' :: '-' :: digits => digits.length = 32 && digits.all isHex
  | _ => false

/-- `int(key)` of a key of decimal digits. -/
def versionKey (key : String) : Option Nat :=
  if key.toList ≠ [] ∧ key.toList.all Char.isDigit = true then
    some (key.toList.foldl (fun n c => 10 * n + (c.toNat - 48)) 0)
  else none

/-- `_artifact_maps_match`: the keys as versions, none twice, and the same map. -/
def artifactMapsMatch (candidate : Option Datum) (expected : List (Nat × PerBackend Digest)) : Bool :=
  match candidate with
  | some (.artifactMap m) =>
      match m.mapM fun p => (versionKey p.1).map fun k => (k, p.2) with
      | none => false
      | some normalized =>
          decide (normalized.map (·.1)).Nodup && decide (normalized.length = expected.length) &&
            expected.all fun p => normalized.lookup p.1 = some p.2
  | _ => false

/-- The keys of a claim of forward application. -/
def forwardKeys : List String :=
  ["coordinator", "provenance_format", "apply_artifact_revision", "apply_artifact",
    "apply_artifacts", "apply_manifest", "backend_policy"]

/-- The keys of a claim of compatibility. -/
def compatibilityKeys : List String :=
  ["compatibility_artifact_revision", "compatibility_artifact", "compatibility_manifest"]

/-- The context is the complete pair of one epoch, of the artifact the transaction names. -/
def epochMatches (spec : MigrationSpec) (backend : Backend) (artifact : String) (context : Context)
    (current : Bool) : Except MigrationError Bool := do
  let (forwardRevision, forwardArtifact, forwardMap) ← forwardApplyIdentity spec backend current
  let (compatibilityRevision, compatibilityArtifact) := compatibilityIdentity backend current
  .ok (forwardArtifact.hex = artifact &&
    context.states "coordinator" "registry" &&
    context.states "provenance_format" "registry-coordinator-v2" &&
    context.states "apply_artifact_revision" forwardRevision &&
    context.states "apply_artifact" (digestText forwardArtifact) &&
    artifactMapsMatch (context.get? "apply_artifacts") forwardMap &&
    context.get? "apply_manifest" = some (.texts spec.applyManifest) &&
    context.states "backend_policy" spec.backendPolicy &&
    context.states "compatibility_artifact_revision" compatibilityRevision &&
    context.states "compatibility_artifact" (digestText compatibilityArtifact) &&
    context.get? "compatibility_manifest" = some (.manifest compatibilityReconciliationManifest))

/-- `_validate_paired_migration_provenance`. -/
def validatePairedMigrationProvenance (spec : MigrationSpec) (backend : Backend) (artifact : String)
    (context : Context) : Except MigrationError Unit := do
  refuse (context.present forwardKeys ≠ forwardKeys ||
      context.present compatibilityKeys ≠ compatibilityKeys)
    (.compatibility "migration event contains partial paired provenance")
  let legacy ← epochMatches spec backend artifact context false
  let current ← epochMatches spec backend artifact context true
  ensure (legacy != current)
    (.compatibility "migration event forward/compatibility provenance pair is invalid")

/-- The context of a row of the last migration. -/
def lastProvenance (spec : MigrationSpec) (backend : Backend) (artifact : String)
    (context : Context) : Bool :=
  (spec.applyArtifact.get backend).hex = artifact &&
    context.states "coordinator" "registry" &&
    context.states "provenance_format" "registry-coordinator-v2" &&
    context.states "apply_artifact_revision" forwardApplyArtifactRevision &&
    context.states "apply_artifact" (digestText (spec.applyArtifact.get backend)) &&
    context.get? "apply_artifacts" = some (.artifacts spec.applyArtifact) &&
    context.get? "apply_manifest" = some (.texts spec.applyManifest) &&
    context.states "backend_policy" spec.backendPolicy

/-- `_validate_migration_event_provenance`. -/
def validateMigrationEventProvenance (backend : Backend) (spec : MigrationSpec)
    (transactionContextId : String) (context : Context) : Except MigrationError Unit :=
  if "txp-".toList.isPrefixOf transactionContextId.toList then
    match transactionArtifact transactionContextId with
    | none => .error (.runtime "migration ledger transaction provenance identity is invalid")
    | some artifact =>
        if spec.version = 13 then
          ensure (lastProvenance spec backend artifact context)
            (.runtime "migration ledger row forward-apply provenance drifted")
        else validatePairedMigrationProvenance spec backend artifact context
  else do
    ensure (isLegacyTransaction transactionContextId)
      (.runtime "migration ledger transaction context format is invalid")
    ensure (context.present ((forwardKeys.drop 1) ++ compatibilityKeys) = [])
      (.runtime "legacy migration event contains partial forward-apply provenance")

/-! ### Verifying the rows -/

/-- The migration of a version. -/
def specOf (version : Nat) : Option MigrationSpec :=
  migrationRegistry.find? fun spec => spec.version = version

/-- The row carries the identity of its migration and no empty field. -/
def rowIdentity (backend : Backend) (spec : MigrationSpec) (row : EventRow) : Bool :=
  row.migrationId = spec.migrationId && row.registryRevision = spec.registryRevision &&
    row.migrationName = spec.name && row.migrationChecksum = digestText spec.checksum &&
    row.previousSchemaVersion = spec.previousVersion &&
    row.targetSchemaVersion = spec.targetVersion && row.backend = backend &&
    1 ≤ row.eventSequence && row.attemptId ≠ "" && row.eventAt ≠ "" &&
    row.runnerIdentity ≠ "" && row.transactionContextId ≠ ""

/-- The check of one row. -/
def verifyRow (backend : Backend) (row : EventRow) : Except MigrationError Unit :=
  match specOf row.migrationVersion with
  | none => .error (.runtime "migration ledger contains an unknown migration version")
  | some spec => do
      ensure (rowIdentity backend spec row)
        (.runtime "migration ledger row identity or provenance drifted")
      validateMigrationEventProvenance backend spec row.transactionContextId row.context

/-- Two rows of an attempt are of one migration and one transaction. -/
def sameAttempt (first row : EventRow) : Bool :=
  row.migrationVersion = first.migrationVersion && row.migrationId = first.migrationId &&
    row.registryRevision = first.registryRevision && row.migrationName = first.migrationName &&
    row.migrationChecksum = first.migrationChecksum &&
    row.previousSchemaVersion = first.previousSchemaVersion &&
    row.targetSchemaVersion = first.targetSchemaVersion && row.backend = first.backend &&
    row.schemaName = first.schemaName && row.transactionContextId = first.transactionContextId

/-- The outcomes an attempt may have. -/
def terminalSequences : List (List EventType) :=
  [[.succeeded], [.failed], [.failed, .rolledBack], [.failed, .rollbackFailed],
    [.reconciliationRequired], [.reconciliationRequired, .reconciliationResolved]]

/-- The rollback state of the last event of an attempt. -/
def expectedRollback : EventType → RollbackStatus
  | .succeeded | .reconciliationResolved => .notApplicable
  | .reconciliationRequired => .unknown
  | .rollbackFailed => .failed
  | _ => .confirmed

/-- The check of one attempt. -/
def verifyAttempt (attemptRows : List EventRow) : Except MigrationError Unit := do
  let ordered := sortedBy (·.eventSequence) attemptRows
  ensure (ordered.map (·.eventSequence) = List.range' 1 ordered.length)
    (.runtime "migration attempt has a non-contiguous event sequence")
  ensure (ordered.all fun row => ordered.head?.all fun first => sameAttempt first row)
    (.runtime "migration attempt mixes migration identity or transaction context")
  ensure (ordered.countP (fun row => row.eventType = .started) = 1)
    (.runtime "migration attempt has an invalid STARTED event count")
  let terminal := ordered.filter fun row => row.eventType ≠ .started
  match terminal.getLast? with
  | none => .ok ()
  | some last => do
      ensure (terminal.map (·.eventType) ∈ terminalSequences)
        (.runtime "migration attempt has an invalid terminal event sequence")
      ensure ((ordered.find? fun row => row.eventType = .started).all
          fun row => row.rollbackStatus = .pending)
        (.runtime "migration attempt has an invalid STARTED rollback state")
      ensure (last.rollbackStatus = expectedRollback last.eventType)
        (.runtime "migration attempt has an invalid terminal rollback state")

/-- The rows by attempt, in the order the attempts first occur. -/
def attemptsOf (rows : List EventRow) : List (String × List EventRow) :=
  (fromKeys (rows.map (·.attemptId))).map fun a => (a, rows.filter fun row => row.attemptId = a)

/-- `ORDER BY event_at, event_id`. -/
def byTime (rows : List EventRow) : List EventRow :=
  sortedBy (fun row => toLex (row.eventAt, row.eventId)) rows

/-- `_verify_migration_ledger_rows`. -/
def verifyMigrationLedgerRows (backend : Backend) (rows : List EventRow) :
    Except MigrationError Unit := do
  each (verifyRow backend) (byTime rows)
  each (fun p => verifyAttempt p.2) (attemptsOf (byTime rows))

/-! ### Attempts without an outcome -/

/-- The attempt has started, and has no outcome. -/
def orphaned (attemptRows : List EventRow) : Bool :=
  attemptRows.any (·.eventType = .started) &&
    !attemptRows.any fun row =>
      row.eventType ∈ [.succeeded, .failed, .rolledBack, .rollbackFailed, .reconciliationRequired]

/-- The row that marks an attempt left without an outcome. -/
def reconciliationRow (backend : Backend) (started : EventRow) (sequence : Nat) (event : UuidHex)
    (now : Timestamp) : EventRow :=
  { started with
    eventId := "event-" ++ event.text
    eventSequence := sequence
    eventType := .reconciliationRequired
    eventAt := now.text
    backend := backend
    runnerIdentity := "database-startup"
    errorCode := some "MIGRATION_ATTEMPT_ORPHANED"
    errorClass := some "MigrationReconciliationRequired"
    errorMessage := some "migration attempt was left without a terminal outcome"
    context := [("action", .text "operator_reconciliation_required")]
    rollbackStatus := .unknown }

/-- The loop of `_reconcile_orphaned_attempts`; `fresh` draws the identities of the new rows. -/
def reconcileAttempt (backend : Backend) (fresh : String → UuidHex) (now : Timestamp)
    (table : List EventRow) (p : String × List EventRow) :
    Except MigrationError (List EventRow) :=
  match p.2.find? (·.eventType = .started) with
  | some started =>
      if orphaned p.2 then
        insertEvent table (reconciliationRow backend started
          ((p.2.map (·.eventSequence)).foldl max 0 + 1) (fresh p.1) now)
      else .ok table
  | none => .ok table

/-- `_reconcile_orphaned_attempts`. -/
def reconcileOrphanedAttempts (backend : Backend) (fresh : String → UuidHex) (now : Timestamp)
    (rows : List EventRow) : Except MigrationError (List EventRow) :=
  (attemptsOf (sortedBy (fun row => toLex (row.attemptId, row.eventSequence)) rows)).foldlM
    (reconcileAttempt backend fresh now) rows

end CyberAssess.Migration
