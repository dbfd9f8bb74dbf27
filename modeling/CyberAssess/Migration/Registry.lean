import CyberAssess.Support.HexDigest

/-!
# Migration — the registry

The schema migrations of the platform in the order they are applied, with the identities their
records carry.

* `MigrationSpec` is one migration, `migrationRegistry` all of them.
* `forwardApplyIdentity` and `compatibilityIdentity` select the identity of an epoch: `current`, or
  the one rows were first published with.
* `registry_versions`: the versions count up from one.
* `forwardApplyIdentity_ok`: every migration but the last has an identity in both epochs, and the two
  differ.

`[about ours]`: `apply`, `verify` and `reconcile` are the environment's; a digest is kept as its bits;
checksums are the published ones, which the module compares with the computed ones when it is loaded.
-/

namespace CyberAssess.Migration

open Python (Digest)

/-- `sqlite` and `postgresql`. -/
inductive Backend where
  | sqlite
  | postgresql
  deriving DecidableEq

/-- A value for each backend. -/
structure PerBackend (α : Type) where
  sqlite : α
  postgresql : α
  deriving DecidableEq

/-- `mapping.get(backend)`. -/
def PerBackend.get {α : Type} (p : PerBackend α) : Backend → α
  | .sqlite => p.sqlite
  | .postgresql => p.postgresql

/-- `MigrationSpec`. -/
structure MigrationSpec where
  version : Nat
  migrationId : String
  name : String
  previousVersion : Option Nat
  targetVersion : Nat
  registryRevision : String
  checksum : Digest
  applyArtifact : PerBackend Digest
  applyManifest : PerBackend String
  backendPolicy : String
  deriving DecidableEq

/-- One column of the compatibility manifest. -/
structure CompatibilityEntry where
  family : String
  table : String
  column : String
  definition : String
  type : String
  nullable : Bool
  default : Option String
  savepoint : String
  deriving DecidableEq

/-! ### The published identities -/

/-- `REGISTRY_REVISION`. -/
def registryRevision : String := "migration-registry-v1"

/-- `FORWARD_APPLY_ARTIFACT_REVISION`. -/
def forwardApplyArtifactRevision : String := "execution-migration-apply-v1"

/-- `CURRENT_FORWARD_APPLY_ARTIFACT_REVISION`. -/
def currentForwardApplyArtifactRevision : String := "execution-migration-apply-v2"

/-- `COMPATIBILITY_RECONCILIATION_ARTIFACT_REVISION`. -/
def compatibilityReconciliationArtifactRevision : String :=
  "execution-compatibility-reconciliation-v1"

/-- `CURRENT_COMPATIBILITY_RECONCILIATION_ARTIFACT_REVISION`. -/
def currentCompatibilityReconciliationArtifactRevision : String :=
  "execution-compatibility-reconciliation-v2"

/-- `MIGRATION_POSTCONDITION_REVISION`. -/
def migrationPostconditionRevision : String := "execution-postconditions-v2"

/-- `FORWARD_APPLY_MANIFESTS`. -/
def forwardApplyManifests : List (Nat × PerBackend String) :=
  [(1, ⟨"execution_runs tenant composite request binding",
      "execution_runs tenant composite request binding"⟩),
   (2, ⟨"execution_runs legacy binding remediation",
      "execution_runs legacy binding remediation"⟩),
   (3, ⟨"execution_runs immutable snapshot columns",
      "execution_runs immutable snapshot columns"⟩),
   (4, ⟨"execution_runs decision composite binding",
      "execution_runs decision composite binding"⟩),
   (5, ⟨"migration-owned duplicate parent cleanup",
      "migration-owned duplicate parent cleanup"⟩),
   (6, ⟨"decision/request compatibility columns",
      "decision/request compatibility columns"⟩),
   (7, ⟨"durable execution dispatch intent table",
      "durable execution dispatch intent table"⟩),
   (8, ⟨"tenant-bound dispatch lease columns and foreign keys",
      "tenant-bound dispatch lease columns and foreign keys"⟩),
   (9, ⟨"remove only the proven migration-owned duplicate parent index",
      "remove only the proven migration-owned duplicate parent index"⟩),
   (10, ⟨"tenant-bound process ownership and immutable recovery evidence",
      "tenant-bound process ownership and immutable recovery evidence"⟩),
   (11, ⟨"tenant-bound scan authorization parent, operations, and fleet snapshot",
      "tenant-bound scan authorization parent, operations, and fleet snapshot"⟩),
   (12, ⟨"parent approval, child execution links, and worker generation",
      "parent approval, child execution links, and worker generation"⟩),
   (13, ⟨"parent-scoped scan operation identity and canonical request material",
      "parent-scoped scan operation identity and canonical request material"⟩)]

/-- `FORWARD_APPLY_SOURCE_SHA256`, the identities of the first epoch. -/
def forwardApplySourceSha256 : List (Nat × PerBackend Digest) :=
  [(1, ⟨0x8a0778721d6be2da6acb4c0c3324bff2fd93d81be008e5855d0ef7eae047b8e0#256,
      0xcad1976d162f7b2feb70c8c3621afd36f96841bca0280b13e9e891af33de1cef#256⟩),
   (2, ⟨0x5140808ebabe415c2b8eed51cf6a96153aa0f9c39dd23086424f4f364bc13ff4#256,
      0x692475db28925fb483da0e49a2024ffaa4978dcbea5c6f31b33f56ab1b416166#256⟩),
   (3, ⟨0x32d694cc7c3007223e837fe6709f6bf7a6890c81b7fafccda7c23e918378d8df#256,
      0x90b6427dfd7099c68efdb2e7c870c5be81152923869367028601962ce728d87b#256⟩),
   (4, ⟨0x62516993eb967c06d07778a14abeb5935f1da3e78cf5753b2b51247495642231#256,
      0x796f69cdc62b1d9257f4339ea085167ec8cad3eff9c7b4dc3c140e92b93496b8#256⟩),
   (5, ⟨0x31d6bd391cdf79374c65117b40d8a3eaf23925f91e353bff5b3b4f6da9176c68#256,
      0x2f4ff41705201a7b70abc6c65b7d74695bb090a22159f696b70162cc2eb59f7d#256⟩),
   (6, ⟨0x756480f8c46c3dc540a49a7e4d1fb72ad4e7aba7048a8077c246e2d7b5d18ec3#256,
      0x784cf5483370f2e690b78ddbf46a8165a65d8eb5f60a28c619eafeb5e15aae56#256⟩),
   (7, ⟨0x4e653211c3bb615f8455a04aca91fc992a104f890226a3a3f10473765a00e179#256,
      0x49414cf849a465ebab6de20e90efb7f2b75f1f65eb0e46b86c91345bf9a1034e#256⟩),
   (8, ⟨0xcc97230c6f967c521e29ff91d51976e4a3185f17dee7e3d86b27bf71ebbacb0e#256,
      0xb061ff07680d1c2efe73badf179aa6ec6f54253548f4f116a6219cc4f3076844#256⟩),
   (9, ⟨0xacd7a834e2e33fe0d8c67ae9df0e7afbfc73a2d0e771beec295d2532667f0fb0#256,
      0xff183bc0ff4fbd0f1c8eeaa29e6e0602e3b91ed51779e72dcb1c5b89e20dbaee#256⟩),
   (10, ⟨0xaed28dda074a4d02db12982896288fd5743cc06010b38be4671663e20f3acbc8#256,
      0xa01bb87d6de0ce935f771f39966328296e562d1cd6169cf4e7f0fe02f151e6ea#256⟩),
   (11, ⟨0xf98b27aa80d9829db869f024f1dc0a4ece591993c5b464f91fb786a791dd68ea#256,
      0xfc097d6b87ba2bcb3af09a0c118916dca23b6d4916ead9f5976b39fe94b9da8e#256⟩),
   (12, ⟨0x066ae684b0dc8450f195f35265b580f3a2f1f9ad7b595461f1dabcb45cb33913#256,
      0x6485aa439c8a7cf17d5673a075295ff85208957ec1a94ec47b10b442489e476b#256⟩),
   (13, ⟨0x820f109dbe3e626363e475a16a0caa3fac638fa4e7b15139976d328a303e4334#256,
      0xf86fbbb9e9ca9fb84f7a5f102251b26ef7b6df28a0336f011ed64b257cb8ca90#256⟩)]

/-- `CURRENT_FORWARD_APPLY_SOURCE_SHA256`, the identities of the current epoch. -/
def currentForwardApplySourceSha256 : List (Nat × PerBackend Digest) :=
  [(1, ⟨0x8cc5abd31423b5df66f01a5f89d4fc3cedbf23fdd13cc3d50afceca53c774448#256,
      0x2105c4dbc17aa81ed5bb6abfc0d670016dc65f29e9e7cc5a2fabb52b96fd3cf3#256⟩),
   (2, ⟨0x69d40eced1e1b0920f40f7b32b900065f1788f2690e63b334490e9e51197fced#256,
      0xa9378cdc74c200af8d3f1b0907ddb5c4e1f254a428c952c6b74dd60f47feedfc#256⟩),
   (3, ⟨0x58e20b1c3e0a39d3eb31012d6520d076779c4a9236eba67c80723a1f0fd6d0d1#256,
      0xc399ead033f5e44d5a16494a3e9cce77e2e1e7a3da68b7550240b48bf7873062#256⟩),
   (4, ⟨0x2b6795ec71691e89d8a9d274d97aaf62dac6221cebea4fc45a8d5a6e2366b0b7#256,
      0xd88ac043519b36fe7981254a7ec5b7aa5b5e89ce5dccef19333e2a00e18fbc89#256⟩),
   (5, ⟨0xfca85a53b7ca4e9ca54c0fe0648d93abe580a217a6f6508a024c1057c728d7a8#256,
      0x7ba538266ad96f23fd06941257001e08a664716b1aaf96e1c88cb385d7834664#256⟩),
   (6, ⟨0xa77e4144223a319fad6a95aa62bd650d56daddab82a3aa89bfacb536a2db5654#256,
      0x741784a5fc3f1ab06044d1e36fc186460216c7404901d951768d169cf8dc2962#256⟩),
   (7, ⟨0x5877dbd427baa8e10577587ff824a4fc039eef83aff789cc547dc0d4e750bcaf#256,
      0xb7514580711743291cc7bc59b14554713fd515aca6fef2f73857f633635c9fac#256⟩),
   (8, ⟨0xa2487e0b51e5c7d426da1a23415ea7fd1e81bc631903e105db0f072dc3bcf0c5#256,
      0x872da90fec993ce4a4dacb84e0d1d59ea2b483ef0a77f0b641b26abbf0743270#256⟩),
   (9, ⟨0x2c64ed3286484588427c460a7515e0a3e640e5938a0983f23f951d1861064f71#256,
      0x478f65fab2682ac669fb3f47a8aa3791629e2c90991837d265a0f1db187063c5#256⟩),
   (10, ⟨0x43e2931af48a81fd53d099396750370e20eab1764070feb1a45bd1d85dcbc905#256,
      0x1ad76380ec28fa55baf0aee41c9b5461298f69f2ba7d6dc81bec3cc5c46b7c0e#256⟩),
   (11, ⟨0xa2dbd65238d3ac4e66f13b5ec5af67140df3c57d356d321e8e127e667793179c#256,
      0xef539657fc1200191e3fd7c961a8d2b8f16fe00d971f77e3a310391556501c41#256⟩),
   (12, ⟨0x5a85ef6a0cce767db0bebd9497e7446c948d1352e7ccfc0b383bf5414582556d#256,
      0xf336a2216fc18bf456224dc34416bbbc917c571d95df1643398b4e52a55bbb16#256⟩)]

/-- `COMPATIBILITY_RECONCILIATION_SOURCE_SHA256`. -/
def compatibilityReconciliationSourceSha256 : PerBackend Digest :=
  ⟨0x0ede92db2cbdf4ad7e59176e7c910bcc399a80510b389ce140c50b0e8679cb77#256,
    0xb10d4bffdb6c0d2293c306322cff1fdae8ff3f959e182a67c3114a564fa59280#256⟩

/-- `CURRENT_COMPATIBILITY_RECONCILIATION_SOURCE_SHA256`. -/
def currentCompatibilityReconciliationSourceSha256 : PerBackend Digest :=
  ⟨0xb6ccd4cf087c0a205d95868906c607db8c3a36727657980dcd10b65b195e42cb#256,
    0xbc4e4c04ef95c29c1591add6bbf0db258d93b40a975d482ae8f38e6a6bac2700#256⟩

/-- `COMPATIBILITY_RECONCILIATION_MANIFEST`. -/
def compatibilityReconciliationManifest : List CompatibilityEntry :=
  [⟨"generic", "api_keys", "status", "TEXT NOT NULL DEFAULT 'ACTIVE'",
    "TEXT", false, some "ACTIVE", "schema_migration_2"⟩,
   ⟨"generic", "users", "principal_type", "TEXT NOT NULL DEFAULT 'TENANT_PRINCIPAL'",
    "TEXT", false, some "TENANT_PRINCIPAL", "schema_migration_3"⟩,
   ⟨"generic", "finding_occurrences", "organization_id", "TEXT NOT NULL DEFAULT 'org-default'",
    "TEXT", false, some "org-default", "schema_migration_4"⟩,
   ⟨"generic", "audit_events", "sequence_number", "INTEGER",
    "INTEGER", true, none, "schema_migration_5"⟩,
   ⟨"generic", "audit_events", "previous_event_hash", "TEXT",
    "TEXT", true, none, "schema_migration_0"⟩,
   ⟨"generic", "audit_events", "event_hash", "TEXT",
    "TEXT", true, none, "schema_migration_1"⟩,
   ⟨"generic", "assets", "active_probing_granted", "INTEGER NOT NULL DEFAULT 0",
    "INTEGER", false, some "0", "schema_migration_6"⟩,
   ⟨"generic", "assets", "live_secret_verification_granted", "INTEGER NOT NULL DEFAULT 0",
    "INTEGER", false, some "0", "schema_migration_7"⟩,
   ⟨"snapshot", "execution_runs", "approved_decision_id", "TEXT",
    "TEXT", true, none, "execution_snapshot_approved_decision_id"⟩,
   ⟨"snapshot", "execution_runs", "target_policy_version", "TEXT",
    "TEXT", true, none, "execution_snapshot_target_policy_version"⟩,
   ⟨"snapshot", "execution_runs", "operation_policy_revision", "TEXT",
    "TEXT", true, none, "execution_snapshot_operation_policy_revision"⟩,
   ⟨"snapshot", "execution_runs", "request_fingerprint", "TEXT",
    "TEXT", true, none, "execution_snapshot_request_fingerprint"⟩,
   ⟨"snapshot", "execution_runs", "operation_options_json", "TEXT NOT NULL DEFAULT '\x7b\x7d'",
    "TEXT", false, some "\x7b\x7d", "execution_snapshot_operation_options_json"⟩,
   ⟨"snapshot", "execution_runs", "resource_budget_json", "TEXT NOT NULL DEFAULT '\x7b\x7d'",
    "TEXT", false, some "\x7b\x7d", "execution_snapshot_resource_budget_json"⟩,
   ⟨"snapshot", "execution_runs", "account_impact_budget_json",
    "TEXT NOT NULL DEFAULT '\x7b\x7d'", "TEXT", false, some "\x7b\x7d",
    "execution_snapshot_account_impact_budget_json"⟩,
   ⟨"snapshot", "execution_runs", "credential_scope_json", "TEXT NOT NULL DEFAULT '\x7b\x7d'",
    "TEXT", false, some "\x7b\x7d", "execution_snapshot_credential_scope_json"⟩,
   ⟨"snapshot", "execution_runs", "snapshot_completeness",
    "TEXT NOT NULL DEFAULT 'LEGACY_SNAPSHOT_UNAVAILABLE'", "TEXT", false,
    some "LEGACY_SNAPSHOT_UNAVAILABLE", "execution_snapshot_snapshot_completeness"⟩]

/-- `_DESCRIPTORS`: version, identity, name and previous version; the manifest texts only enter the
checksum. -/
def descriptors : List (Nat × String × String × Option Nat) :=
  [(1, "execution-runs-tenant-binding", "Execution runs tenant binding", none),
   (2, "execution-runs-tenant-binding-remediation", "Execution runs tenant binding remediation",
    some 1),
   (3, "execution-runs-snapshot-metadata", "Execution runs snapshot metadata", some 2),
   (4, "execution-authority-tenant-binding", "Execution authority tenant binding", some 3),
   (5, "execution-authority-parent-key-cleanup", "Execution authority parent-key cleanup", some 4),
   (6, "execution-compatibility-columns", "Execution compatibility columns", some 5),
   (7, "execution-dispatch-intents", "Execution dispatch intents", some 6),
   (8, "execution-dispatch-tenant-binding", "Execution dispatch tenant binding", some 7),
   (9, "execution-parent-index-repair", "Execution parent index repair", some 8),
   (10, "execution-process-ownership-and-recovery", "Execution process ownership and recovery",
    some 9),
   (11, "scan-authorization-manifest", "Normalized scan authorization manifest", some 10),
   (12, "scan-authorization-bindings", "Scan authorization approval bindings", some 11),
   (13, "scan-authorization-parent-scoped-operations",
    "Parent-scoped scan authorization operations", some 12)]

/-- `_EXPECTED_CHECKSUMS`, which `validate_registry` has compared with the computed ones. -/
def expectedChecksums : List (Nat × Digest) :=
  [(1, 0xd67b1f1dd9149120504c946f5d514b155f0b685ff0983b058c97a169bc0ceb1c#256),
   (2, 0xcb581847722adabb6b9fbdfa38f962790e0842dfa10eb0d1cd8c89f58c5eac64#256),
   (3, 0xcd6e1b03a386049a28e2a9c1d8b33db6ec4f302d0d27e9a438629a63160e14e2#256),
   (4, 0x245a6167393211c34f6963b3f2b1d78098fb5b5c7a47750ef446801e35e5d97a#256),
   (5, 0xbdc72fda90958fd58509c0e4afdcfc2079c82689db98abe49aeb0e41d0f8f869#256),
   (6, 0x85cb5bbf7ffe327bd97633dc72e107f31470be4ef28f50527adad3f481a53f18#256),
   (7, 0xfb0be1cafc6be8f45ff0e9237e5b375ea29fa657d2fa9768204fd2174695609f#256),
   (8, 0x34b28b5ea61df1d3fab89d000b871040858deb9cc5b923c0d8e32f776428ee6f#256),
   (9, 0xf6967da3ce7cf80ddd1531f0922c7bf3398cccb0d89a0b61909427bbafe42765#256),
   (10, 0x183a54fa2111427dd3f4671ab27cb1037d2628df9eef90e19900807f99d1c17a#256),
   (11, 0x496fcf71e1cef64e16dd45c924b618b089bd593ca16911d433ec36144347b9c0#256),
   (12, 0x6f6fc71110864fe3547c8343775190298b432ed02b03a818bcaf57b5ae02e783#256),
   (13, 0x7b73b874eec59e17e4a32db21dc81701b5663fbfd933fac3eaed398eed95efdc#256)]

/-- `_make_spec`. -/
def makeSpec (d : Nat × String × String × Option Nat) : MigrationSpec where
  version := d.1
  migrationId := d.2.1
  name := d.2.2.1
  previousVersion := d.2.2.2
  targetVersion := d.1
  registryRevision := registryRevision
  checksum := (expectedChecksums.lookup d.1).getD 0
  applyArtifact := (forwardApplySourceSha256.lookup d.1).getD ⟨0, 0⟩
  applyManifest := (forwardApplyManifests.lookup d.1).getD ⟨"", ""⟩
  backendPolicy := "SQLITE_AND_POSTGRESQL"

/-- `MIGRATION_REGISTRY`. -/
def migrationRegistry : List MigrationSpec := descriptors.map makeSpec

theorem registry_versions : migrationRegistry.map (·.version) = List.range' 1 13 := by
  decide +kernel

/-! ### Selecting an identity -/

/-- What the migration code raises. -/
inductive MigrationError where
  | runtime (message : String)
  | compatibility (message : String)
  | value (message : String)
  | permission (message : String)
  | integrity (message : String)
  | outside
  deriving DecidableEq

/-- A digest as it is stored: `sha256:` and its digits. -/
def digestText (d : Digest) : String := "sha256:" ++ d.hex

/-- The revision of an epoch: the current one, or the one rows were first published with. -/
def forwardRevision : Bool → String
  | true => currentForwardApplyArtifactRevision
  | false => forwardApplyArtifactRevision

/-- The artifacts of an epoch. -/
def forwardArtifacts : Bool → List (Nat × PerBackend Digest)
  | true => currentForwardApplySourceSha256
  | false => forwardApplySourceSha256

/-- `_forward_apply_identity`. -/
def forwardApplyIdentity (spec : MigrationSpec) (backend : Backend) (current : Bool) :
    Except MigrationError (String × Digest × List (Nat × PerBackend Digest)) :=
  if spec.version ∈ List.range' 1 12 then
    match (forwardArtifacts current).lookup spec.version with
    | none => .error (.compatibility "migration forward artifact identity is incomplete")
    | some selected => .ok (forwardRevision current, selected.get backend, forwardArtifacts current)
  else .error (.compatibility "migration forward artifact identity is unsupported")

/-- `_compatibility_identity`. -/
def compatibilityIdentity (backend : Backend) : Bool → String × Digest
  | true => (currentCompatibilityReconciliationArtifactRevision,
      currentCompatibilityReconciliationSourceSha256.get backend)
  | false => (compatibilityReconciliationArtifactRevision,
      compatibilityReconciliationSourceSha256.get backend)

/-- Every migration but the last has an identity in both epochs, and the two differ. -/
theorem forwardApplyIdentity_ok {spec : MigrationSpec} (h : spec ∈ migrationRegistry)
    (early : spec.version ≠ 13) (backend : Backend) :
    ∃ artifact : Bool → Digest, artifact false ≠ artifact true ∧ ∀ current,
      forwardApplyIdentity spec backend current =
        .ok (forwardRevision current, artifact current, forwardArtifacts current) := by
  have known : ∀ s ∈ migrationRegistry, s.version ≠ 13 → s.version ∈ List.range' 1 12 ∧
      (forwardApplySourceSha256.lookup s.version).any (fun l =>
        (currentForwardApplySourceSha256.lookup s.version).any fun c =>
          l.sqlite ≠ c.sqlite ∧ l.postgresql ≠ c.postgresql) = true := by decide +kernel
  obtain ⟨supported, differ⟩ := known spec h early
  cases hl : forwardApplySourceSha256.lookup spec.version with
  | none => simp [hl] at differ
  | some legacy =>
      cases hc : currentForwardApplySourceSha256.lookup spec.version with
      | none => simp [hl, hc] at differ
      | some current =>
          simp only [hl, hc, Option.any_some, decide_eq_true_eq] at differ
          refine ⟨fun c => (if c then current else legacy).get backend, ?_, ?_⟩
          · cases backend
            · exact differ.1
            · exact differ.2
          · intro c
            cases c
            · simp only [forwardApplyIdentity, if_pos supported, forwardArtifacts, hl]
              rfl
            · simp only [forwardApplyIdentity, if_pos supported, forwardArtifacts, hc]
              rfl

end CyberAssess.Migration
