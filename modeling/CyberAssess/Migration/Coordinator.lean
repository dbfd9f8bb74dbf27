import CyberAssess.Migration.Ledger
import CyberAssess.Support.Transition

/-!
# Migration — the coordinator

The constructor of the database manager: it takes the migration lock, brings up the ledger, plans, and
applies what is missing one migration at a time. Any number of processes may start, at one database.

* `Manager` is one process with its place in the constructor, `Manager.act` what it does next.
* `Action` is what the environment decides: identities that are drawn, which statement fails and
  whether what it wrote is durable, how far a migration got.
* `System` is the database with the lock and all processes; `System.act` takes one action of one of
  them, a crash among them.

`[about ours]`: a transaction is one action, except that SQLite commits every statement that creates
the ledger at once. The verifiers of the schema and the artifact checks are the environment's; the
versions of `schema_migrations` are all that is kept of the schema.
-/

namespace CyberAssess.Migration

open Python
open Checked (ensure refuse each)

/-! ### The database -/

/-- A trigger that keeps the ledger append-only. -/
inductive Trigger where
  | noUpdate
  | noDelete
  | noUpdateDelete
  deriving DecidableEq

/-- The triggers a ledger has. -/
def appendOnly : Backend → List Trigger
  | .sqlite => [.noUpdate, .noDelete]
  | .postgresql => [.noUpdateDelete]

/-- The table `schema_migration_events`. -/
structure Ledger where
  rows : List EventRow
  triggers : List Trigger

/-- The ledger, and the versions of `schema_migrations`; a table that does not exist is absent. -/
structure Database where
  ledger : Option Ledger
  versions : Option (List Nat)

/-- The rows of the ledger. -/
def Database.rows (db : Database) : List EventRow := (db.ledger.map (·.rows)).getD []

/-- The applied versions. -/
def Database.applied (db : Database) : List Nat := db.versions.getD []

/-- The database with other rows. -/
def Database.withRows (db : Database) (rows : List EventRow) : Database :=
  { db with ledger := db.ledger.map fun l => { l with rows := rows } }

/-- `_verify_migration_ledger`. -/
def verifyMigrationLedger (backend : Backend) (ledger : Ledger) : Except MigrationError Unit := do
  ensure (ledger.triggers = appendOnly backend)
    (.runtime "migration ledger append-only protection is absent")
  verifyMigrationLedgerRows backend ledger.rows

/-- `_ensure_migration_ledger`, of a ledger that exists. -/
def ensureMigrationLedger (backend : Backend) (fresh : String → UuidHex) (now : Timestamp)
    (ledger : Ledger) : Except MigrationError Ledger := do
  verifyMigrationLedger backend ledger
  let rows ← reconcileOrphanedAttempts backend fresh now ledger.rows
  verifyMigrationLedger backend { ledger with rows := rows }
  .ok { ledger with rows := rows }

/-! ### Planning -/

/-- The check of one row of `_verify_resolved_reconciliation_artifacts`. -/
def verifyResolved (schemaDigest : String) (applied : List Nat) (row : EventRow) :
    Except MigrationError Unit := do
  ensure (row.context.states "verifier_revision" migrationPostconditionRevision &&
      match row.context.get? "schema_digest" with
      | some (.text _) => true
      | _ => false)
    (.runtime "migration reconciliation artifact is missing verifier identity")
  ensure (row.context.states "attempt_id" row.attemptId &&
      row.context.get? "migration_version" = some (.number row.migrationVersion) &&
      row.context.states "migration_id" row.migrationId &&
      row.context.states "registry_revision" row.registryRevision)
    (.runtime "migration reconciliation artifact identity does not match its ledger attempt")
  ensure (row.context.get? "schema_version_vector" = some (.numbers (sorted applied)))
    (.runtime "migration reconciliation artifact schema version vector no longer matches")
  ensure (row.context.states "schema_digest" schemaDigest)
    (.runtime "migration reconciliation schema digest no longer matches live schema")

/-- Some attempt is marked and not resolved. -/
def unresolved (rows : List EventRow) : Bool :=
  rows.any fun required => required.eventType = .reconciliationRequired &&
    required.rollbackStatus = .unknown &&
    !rows.any fun resolved => resolved.attemptId = required.attemptId &&
      resolved.eventType = .reconciliationResolved

/-- The versions with a `SUCCEEDED` event. -/
def completedVersions (rows : List EventRow) : List Nat :=
  (rows.filter fun row => row.eventType = .succeeded).map (·.migrationVersion)

/-- The last `SUCCEEDED` event of the migration carries its identity. -/
def successIdentity (rows : List EventRow) (spec : MigrationSpec) : Bool :=
  ((rows.filter fun row => row.eventType = .succeeded &&
      row.migrationVersion = spec.version).getLast?).all fun row =>
    row.migrationId = spec.migrationId && row.registryRevision = spec.registryRevision &&
      row.migrationChecksum = digestText spec.checksum

/-- `applied == set(range(1, max(applied) + 1))`. -/
def contiguous (applied : List Nat) : Bool :=
  applied.all (1 ≤ ·) &&
    (List.range' 1 (applied.foldl max 0)).all (· ∈ applied)

/-- The checks of the coordinator before it applies anything; `schemaDigest` is the live schema's. -/
def planMigrations (allowUnresolved : Bool) (schemaDigest : String) (db : Database) :
    Except MigrationError Unit := do
  each (verifyResolved schemaDigest db.applied)
    (db.rows.filter fun row => row.eventType = .reconciliationResolved)
  refuse (unresolved db.rows && !allowUnresolved)
    (.runtime
      "migration reconciliation required: unresolved migration attempt is blocking startup")
  ensure (db.applied.all fun v => v ∈ migrationRegistry.map (·.version))
    (.runtime "schema migration versions are not registered; operator reconciliation required")
  ensure (contiguous db.applied)
    (.runtime "schema migration versions are not contiguous; operator reconciliation required")
  ensure (db.applied.all fun v => v ∈ completedVersions db.rows)
    (.runtime
      "legacy aggregate migration history requires explicit operator reconciliation before startup")
  ensure (migrationRegistry.all (successIdentity db.rows))
    (.runtime "migration success identity does not match the registry")

/-! ### Applying -/

/-- The versions a call of `apply` inserts, in order: `_init_db` up to the version, or the last alone. -/
def insertedVersions (version : Nat) (applied : List Nat) : List Nat :=
  (if version = 13 then [13] else List.range' 1 version).filter fun v => v ∉ applied

/-- `spec.apply`, cut off after `durable` of its insertions. -/
def applyVersion (version durable : Nat) (db : Database) : Database :=
  { db with versions := some (db.applied ++ (insertedVersions version db.applied).take durable) }

/-! ### One process -/

/-- Where a process is in the constructor. -/
inductive Stage where
  | down
  | waiting
  | locked
  | guarding (missing : List Trigger)
  | planning
  | looping (applied completed : List Nat) (rest : List MigrationSpec)
  | started (applied completed : List Nat) (spec : MigrationSpec) (rest : List MigrationSpec)
  | effected (applied completed : List Nat) (spec : MigrationSpec) (rest : List MigrationSpec)
  | verified (applied completed : List Nat) (spec : MigrationSpec) (rest : List MigrationSpec)
  | leaving
  | unwinding
  | handling
  | ready
  | failed

/-- A process that constructs a manager: `_allow_unresolved_reconciliation`, the attempt it keeps, and
`_migration_started_durable`. -/
structure Manager where
  allowUnresolved : Bool
  attempt : Option (AttemptIdentity × MigrationSpec)
  startedDurable : Bool
  stage : Stage

/-- A process that does not run. -/
def Manager.absent : Manager := ⟨false, none, false, .down⟩

/-- What becomes of the transaction of an action. -/
inductive Fault where
  | none
  | lost
  | unacknowledged
  deriving DecidableEq

/-- What `resolve_migration_reconciliation` is called with: the attempt, whether session, evidence and
operator are accepted, whether the schema verifies, and the context it records. -/
structure Resolution where
  attemptId : String
  admitted : Bool
  schemaVerified : Bool
  operator : String
  context : Context
  event : UuidHex
  now : Timestamp

/-- What a process does next, as far as the environment decides it. -/
inductive Action where
  | construct (allowUnresolved : Bool)
  | acquire
  | ensure (fresh : String → UuidHex) (now : Timestamp) (fault : Fault)
  | guard (fault : Fault)
  | plan (schemaDigest : String) (fault : Fault)
  | skip
  | begin (attempt transaction event : UuidHex) (now : Timestamp) (fault : Fault)
  | apply (durable : Nat) (raises : Bool)
  | verify (raises : Bool)
  | succeed (event : UuidHex) (now : Timestamp) (fault : Fault)
  | verifySchema (raises : Bool)
  | release
  | handle (failed rolledBack : UuidHex) (now : Timestamp) (errorClass errorMessage : String)
      (fault : Fault)
  | resolve (r : Resolution) (fault : Fault)
  | crash

namespace Manager

/-- The process at another place. -/
def goTo (m : Manager) (stage : Stage) : Manager := { m with stage := stage }

/-- An exception leaves the `try` of an attempt: its `finally` runs. -/
def raised (m : Manager) : Manager := { m with startedDurable := false, stage := .unwinding }

/-- A process and the database after a transaction that would lead to `next`. -/
def commit (fault : Fault) (db db' : Database) (next raised : Manager) : Manager × Database :=
  match fault with
  | .none => (next, db')
  | .lost => (raised, db)
  | .unacknowledged => (raised, db')

/-- Where the constructor goes on once the ledger is ensured: maintenance mode returns. -/
def ensured (m : Manager) : Manager := m.goTo (if m.allowUnresolved then .leaving else .planning)

/-- `_ensure_migration_ledger`. A ledger that does not exist is created: at once, or in SQLite
statement by statement. -/
def ensureLedger (backend : Backend) (fresh : String → UuidHex) (now : Timestamp) (fault : Fault)
    (m : Manager) (db : Database) : Manager × Database :=
  match db.ledger with
  | none =>
      match backend with
      | .sqlite => commit fault db { db with ledger := some ⟨[], []⟩ }
          (m.goTo (.guarding (appendOnly .sqlite))) (m.goTo .unwinding)
      | .postgresql => commit fault db { db with ledger := some ⟨[], appendOnly .postgresql⟩ }
          m.ensured (m.goTo .unwinding)
  | some ledger =>
      match ensureMigrationLedger backend fresh now ledger with
      | .error _ => (m.goTo .unwinding, db)
      | .ok ledger' => commit fault db { db with ledger := some ledger' } m.ensured (m.goTo .unwinding)

/-- The next trigger of a new ledger; with all of them it is verified. -/
def guardLedger (backend : Backend) (fault : Fault) (m : Manager) (db : Database) :
    List Trigger → Manager × Database
  | [] =>
      match db.ledger.map (verifyMigrationLedger backend) with
      | some (.ok ()) => commit fault db db m.ensured (m.goTo .unwinding)
      | _ => (m.goTo .unwinding, db)
  | t :: missing =>
      commit fault db
        { db with ledger := db.ledger.map fun l => { l with triggers := l.triggers ++ [t] } }
        (m.goTo (.guarding missing)) (m.goTo .unwinding)

/-- The read transaction of the coordinator. -/
def planned (schemaDigest : String) (fault : Fault) (m : Manager) (db : Database) :
    Manager × Database :=
  match planMigrations m.allowUnresolved schemaDigest db with
  | .error _ => (m.goTo .unwinding, db)
  | .ok () => commit fault db db
      (m.goTo (.looping db.applied (completedVersions db.rows) migrationRegistry)) (m.goTo .unwinding)

/-- A new attempt, up to its `STARTED` event. -/
def beginAttempt (backend : Backend) (schemaName : String) (attempt transaction event : UuidHex)
    (now : Timestamp) (fault : Fault) (m : Manager) (db : Database) (applied completed : List Nat)
    (spec : MigrationSpec) (rest : List MigrationSpec) : Manager × Database :=
  match newAttempt spec backend schemaName attempt transaction with
  | .error _ => (m.goTo .unwinding, db)
  | .ok identity =>
      let m := { m with attempt := some (identity, spec), startedDurable := false }
      match recordMigrationEvent backend spec identity event now .started 1 .pending db.rows with
      | .error _ => (m.raised, db)
      | .ok rows => commit fault db (db.withRows rows)
          { m with startedDurable := true, stage := .started applied completed spec rest } m.raised

/-- The `SUCCEEDED` event of the attempt. -/
def succeedAttempt (backend : Backend) (event : UuidHex) (now : Timestamp) (fault : Fault)
    (m : Manager) (db : Database) (applied completed : List Nat) (spec : MigrationSpec)
    (rest : List MigrationSpec) : Manager × Database :=
  match m.attempt with
  | none => (m.raised, db)
  | some (identity, _) =>
      match recordMigrationEvent backend spec identity event now .succeeded 2 .notApplicable
          db.rows with
      | .error _ => (m.raised, db)
      | .ok rows => commit fault db (db.withRows rows)
          { m with
            startedDurable := false
            stage := .looping (applied ++ [spec.version]) completed rest } m.raised

/-- The two rows `_record_migration_failure` inserts. -/
def failureRows (backend : Backend) (spec : MigrationSpec) (identity : AttemptIdentity)
    (failed rolledBack : UuidHex) (now : Timestamp) (errorClass errorMessage : String)
    (rows : List EventRow) : Except MigrationError (List EventRow) := do
  let forward ← forwardIdentity spec backend
  let context := contextOf spec backend forward ++
    [("rollback", .text "not independently confirmed")]
  let row (event : UuidHex) (eventType : EventType) (sequence : Nat) : EventRow :=
    { eventRow backend spec identity context event now eventType sequence .failed with
      errorClass := some errorClass
      errorMessage := some (String.ofList (errorMessage.toList.take 500)) }
  let rows ← insertEvent rows (row failed .failed 2)
  insertEvent rows (row rolledBack .rollbackFailed 3)

/-- The handler of the constructor, with `_record_migration_failure`. -/
def handleFailure (backend : Backend) (failed rolledBack : UuidHex) (now : Timestamp)
    (errorClass errorMessage : String) (fault : Fault) (m : Manager) (db : Database) :
    Manager × Database :=
  match m.attempt with
  | none => (m.goTo .failed, db)
  | some (identity, spec) =>
      if m.startedDurable then
        match failureRows backend spec identity failed rolledBack now errorClass errorMessage
            db.rows with
        | .error _ => (m.goTo .failed, db)
        | .ok rows => commit fault db (db.withRows rows) (m.goTo .failed) (m.goTo .failed)
      else (m.goTo .failed, db)

end Manager

/-- The `RECONCILIATION_RESOLVED` event of a marked attempt. -/
def recordResolution (r : Resolution) (rows : List EventRow) (required : EventRow) :
    Except MigrationError (List EventRow) := do
  refuse (rows.any fun row => row.attemptId = r.attemptId &&
      row.eventType = .reconciliationResolved)
    (.value "migration attempt has already been resolved")
  insertEvent rows { required with
    eventId := "event-" ++ r.event.text
    eventSequence := ((rows.filter fun row => row.attemptId = r.attemptId).map
      (·.eventSequence)).foldl max 0 + 1
    eventType := .reconciliationResolved
    eventAt := r.now.text
    runnerIdentity := r.operator
    errorCode := some "MIGRATION_RECONCILIATION_VERIFIED"
    errorClass := some "MigrationReconciliationResolved"
    errorMessage := some "operator reconciliation recorded"
    context := r.context
    rollbackStatus := .notApplicable }

/-- The gates of `resolve_migration_reconciliation`. -/
def admitResolution (backend : Backend) (allowUnresolved : Bool) (r : Resolution) (db : Database) :
    Except MigrationError Unit := do
  ensure allowUnresolved
    (.permission "migration reconciliation requires explicit maintenance mode")
  ensure r.admitted
    (.permission "migration reconciliation requires an authenticated administrator session")
  ensure (r.schemaVerified && db.ledger.isSome)
    (.runtime "migration reconciliation requires independently verified application schema structures")
  each (verifyMigrationLedger backend) db.ledger.toList
  ensure (sorted db.applied = List.range' 1 migrationRegistry.length)
    (.runtime "migration reconciliation requires independently verified contiguous schema versions")

/-- `resolve_migration_reconciliation`. -/
def resolveMigrationReconciliation (backend : Backend) (allowUnresolved : Bool) (r : Resolution)
    (db : Database) : Except MigrationError Database := do
  admitResolution backend allowUnresolved r db
  let required ← Checked.require
    (db.rows.find? fun row => row.attemptId = r.attemptId &&
      row.eventType = .reconciliationRequired && row.rollbackStatus = .unknown)
    (.value "unresolved migration attempt was not found")
  let rows ← recordResolution r db.rows required
  .ok (db.withRows rows)

/-- What a process does away from the lock. -/
def Manager.act (backend : Backend) (schemaName : String) (m : Manager) (db : Database) :
    Stage → Action → Option (Manager × Database)
  | .locked, .ensure fresh now fault => some (m.ensureLedger backend fresh now fault db)
  | .guarding missing, .guard fault => some (m.guardLedger backend fault db missing)
  | .planning, .plan schemaDigest fault => some (m.planned schemaDigest fault db)
  | .looping applied completed (spec :: rest), .skip =>
      if spec.version ∈ applied then
        some (m.goTo (if spec.version ∈ completed then .looping applied completed rest
          else .unwinding), db)
      else none
  | .looping applied completed (spec :: rest), .begin attempt transaction event now fault =>
      if spec.version ∈ applied then none
      else some (m.beginAttempt backend schemaName attempt transaction event now fault db applied
        completed spec rest)
  | .looping _ _ [], .verifySchema raises =>
      some (if raises then (m.goTo .unwinding, db)
        else ({ m with attempt := none, stage := .leaving }, db))
  | .started applied completed spec rest, .apply durable raises =>
      if raises then some (m.raised, applyVersion spec.version durable db)
      else some (m.goTo (.effected applied completed spec rest),
        applyVersion spec.version spec.version db)
  | .effected applied completed spec rest, .verify raises =>
      some (if raises then (m.raised, db) else (m.goTo (.verified applied completed spec rest), db))
  | .verified applied completed spec rest, .succeed event now fault =>
      some (m.succeedAttempt backend event now fault db applied completed spec rest)
  | .handling, .handle failed rolledBack now errorClass errorMessage fault =>
      some (m.handleFailure backend failed rolledBack now errorClass errorMessage fault db)
  | .ready, .resolve r fault =>
      some (match resolveMigrationReconciliation backend m.allowUnresolved r db with
        | .error _ => (m, db)
        | .ok db' => Manager.commit fault db db' m m)
  | _, _ => none

/-! ### All processes -/

/-- The database, who holds the migration lock, and every process. -/
structure System (ι : Type) where
  db : Database
  lock : Option ι
  manager : ι → Manager

namespace System

variable {ι : Type} [DecidableEq ι]

/-- The system with another process at `i`. -/
def put (s : System ι) (i : ι) (m : Manager) : System ι :=
  { s with manager := Function.update s.manager i m }

/-- One action of one process. The lock is free again when its holder dies. -/
def act (backend : Backend) (schemaName : String) (s : System ι) (i : ι) : Action → Option (System ι)
  | .construct allowUnresolved =>
      match (s.manager i).stage with
      | .down | .ready | .failed => some (s.put i ⟨allowUnresolved, none, false, .waiting⟩)
      | _ => none
  | .acquire =>
      match (s.manager i).stage, s.lock with
      | .waiting, none => some { s.put i ((s.manager i).goTo .locked) with lock := some i }
      | _, _ => none
  | .release =>
      match (s.manager i).stage with
      | .leaving => some { s.put i ((s.manager i).goTo .ready) with lock := none }
      | .unwinding => some { s.put i ((s.manager i).goTo .handling) with lock := none }
      | _ => none
  | .crash =>
      some { s.put i Manager.absent with lock := if s.lock = some i then none else s.lock }
  | a =>
      ((s.manager i).act backend schemaName s.db (s.manager i).stage a).map fun r =>
        { s.put i r.1 with db := r.2 }

/-- A step, labelled with the process and its action. -/
def Step (backend : Backend) (schemaName : String) (s : System ι) (e : ι × Action) (t : System ι) :
    Prop :=
  s.act backend schemaName e.1 e.2 = some t

/-- The system after actions, if each can be taken. -/
def follow (backend : Backend) (schemaName : String) (s : System ι) :
    List (ι × Action) → Option (System ι)
  | [] => some s
  | e :: es => (s.act backend schemaName e.1 e.2).bind fun t => t.follow backend schemaName es

/-- A new database that no process has opened. -/
def blank : System ι := ⟨⟨none, none⟩, none, fun _ => Manager.absent⟩

/-- Where all begins. -/
def Start (s : System ι) : Prop := s = blank

theorem run_of_follow {backend : Backend} {schemaName : String} {es : List (ι × Action)} :
    ∀ {s t : System ι}, s.follow backend schemaName es = some t →
      Transition.Run (Step backend schemaName) s es t := by
  induction es with
  | nil =>
      intro s t h
      obtain rfl := Option.some.inj h
      exact .refl s
  | cons e es ih =>
      intro s t h
      obtain ⟨u, first, rest⟩ := Option.bind_eq_some_iff.mp h
      exact .more first (ih rest)

end System

end CyberAssess.Migration
