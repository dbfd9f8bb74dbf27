import CyberAssess.Support.Table
import CyberAssess.Execution.States
import CyberAssess.Scan.Manifest

/-!
# Scan — the parent requests and what approval checks

The rows of `scan_authorization_requests` with their operations and fleet entries, the tenant
directory, and the checks `approve_scan_authorization_request` makes before it trusts them.

* `OperationRow` links an operation to its child authority, all three identities or none.
* `assertParentManifestBinding`, `assertNormalizedManifestRowsMatch`: rows against manifest.
* `assertPolicyMaterialCurrent`, `assertCurrentTargetAndAsset`: manifest against the present.

`[about ours]`: a stored JSON text is kept as what it decodes to, and compared by its canonical
text; the manifest column is the manifest.
-/

namespace CyberAssess

open Python
open Checked (ensure refuse)

/-! ### The directory -/

/-- `organizations`. -/
structure Organization where
  id : String
  isActive : Bool
deriving DecidableEq, Repr

/-- `UserRole`. -/
inductive UserRole where
  | admin | securityAnalyst | developer | viewer
deriving DecidableEq, Repr

/-- `users`. -/
structure User where
  id : String
  organizationId : String
  role : UserRole
  isActive : Bool
deriving DecidableEq, Repr

/-- `projects`. -/
structure Project where
  id : String
  organizationId : String
deriving DecidableEq, Repr

/-- `AssetType`. -/
inductive AssetType where
  | webApplication | apiEndpoint | domain | ipAddress | gitRepository | containerImage
  | kubernetesCluster | cloudAccount | iacTemplate
deriving DecidableEq, Repr

/-- The target type an asset is assessed as. -/
def AssetType.targetType : AssetType → Option TargetType
  | .webApplication | .apiEndpoint => some .url
  | .domain => some .domain
  | .ipAddress => some .ip
  | .iacTemplate => some .iacManifest
  | .cloudAccount => some .cloudAccount
  | .kubernetesCluster => some .kubernetesCluster
  | .gitRepository | .containerImage => none

/-- `AssetLifecycleStatus`. -/
inductive AssetLifecycleStatus where
  | discovered | monitored | decommissioned | archived
deriving DecidableEq, Repr

/-- The stored text of a lifecycle status. -/
def AssetLifecycleStatus.text : AssetLifecycleStatus → String
  | .discovered => "DISCOVERED"
  | .monitored => "MONITORED"
  | .decommissioned => "DECOMMISSIONED"
  | .archived => "ARCHIVED"

/-- A status an assessment may still start under. -/
def AssetLifecycleStatus.eligible : AssetLifecycleStatus → Bool
  | .discovered | .monitored => true
  | .decommissioned | .archived => false

/-- `assets`. -/
structure Asset where
  id : String
  organizationId : String
  projectId : Option String
  type : AssetType
  targetValue : String
  activeProbingGranted : Bool
  owner : Option String
  lifecycleStatus : AssetLifecycleStatus
deriving DecidableEq, Repr

/-- The tables the authority checks read and do not write. -/
structure Directory where
  organizations : List Organization
  users : List User
  projects : List Project
  assets : List Asset
deriving DecidableEq, Repr

/-- `organizations WHERE id=? AND is_active=1`. -/
def Directory.organizationActive (d : Directory) (organizationId : String) : Bool :=
  d.organizations.any fun o => o.id = organizationId && o.isActive

/-- `projects WHERE id=? AND organization_id=?`. -/
def Directory.hasProject (d : Directory) (projectId organizationId : String) : Bool :=
  d.projects.any fun p => p.id = projectId && p.organizationId = organizationId

/-- `users WHERE id=? AND organization_id=? AND is_active=1`. -/
def Directory.userActive (d : Directory) (userId organizationId : String) : Bool :=
  d.users.any fun u => u.id = userId && u.organizationId = organizationId && u.isActive

/-- `users WHERE id=? AND organization_id=? AND role='ADMIN' AND is_active=1`. -/
def Directory.administrator (d : Directory) (userId organizationId : String) : Bool :=
  d.users.any fun u =>
    u.id = userId && u.organizationId = organizationId && u.role = .admin && u.isActive

/-- `assets WHERE id=? AND organization_id=? AND project_id IS NOT DISTINCT FROM ?`. -/
def Directory.asset (d : Directory) (assetId organizationId : String)
    (projectId : Option String) : Option Asset :=
  d.assets.find? fun a =>
    a.id = assetId && a.organizationId = organizationId && a.projectId = projectId

/-- The foreign key of a project column, which `NULL` satisfies. -/
def Directory.projectReferenced (d : Directory) (projectId : Option String)
    (organizationId : String) : Bool :=
  projectId.all (d.hasProject · organizationId)

/-! ### Scans -/

/-- `ScanStatus`. -/
inductive ScanStatus where
  | pending | running | completed | failed | cancelled
deriving DecidableEq, Repr

/-- `ScanJob`, the fields that are read. -/
structure ScanJob where
  id : String
  correlationId : Option String
  organizationId : String
  projectId : Option String
  assetId : Option String
  activeProbingGranted : Bool
  stateChangingGranted : Bool
  target : Target
  profile : String
  enabledEngines : List String
  status : ScanStatus
  authorizationState : String
  authorizationRequestId : Option String
  authorizationManifestHash : Option String
deriving DecidableEq, Repr

/-- `scans`: the columns, and the job of `data_json`. -/
structure ScanRow where
  id : String
  organizationId : String
  projectId : Option String
  assetId : Option String
  targetType : TargetType
  targetValue : String
  status : ScanStatus
  data : ScanJob
deriving DecidableEq, Repr

/-! ### Parent requests -/

/-- The identities of a child authority. -/
structure ChildAuthority where
  requestId : String
  decisionId : String
  executionId : String
deriving DecidableEq, Repr

/-- `scan_authorization_operations`. -/
structure OperationRow where
  operation : ScanManifestOperation
  child : Option ChildAuthority

/-- The columns of `scan_authorization_requests` that stay as inserted. -/
structure ScanRequestColumns where
  scanRequestId : String
  scanId : String
  organizationId : String
  requestedByUserId : String
  projectId : Option String
  assetId : String
  correlationId : String
  manifestHash : String
  targetId : String
  targetIntegritySeal : String
  targetPolicyVersion : String
  profile : String
  selectedEngineIds : List String
  policyRevision : String
  createdAt : Instant
  manifest : ScanAuthorizationManifest
  creationIdempotencyKey : String
  creationFingerprint : String
  fleet : List ScanFleetSnapshotEntry

/-- The columns that are updated, and the operations. -/
structure ScanRequestRow where
  state : ScanAuthorizationState
  expiresAt : Instant
  approverUserId : Option String
  approvalSessionJti : Option String
  approvalIdempotencyKey : Option String
  revokedAt : Option Instant
  consumedAt : Option Instant
  operations : List OperationRow

/-- The unique keys of the table. -/
inductive ScanRequestKey where
  | request | scan | idempotency
deriving DecidableEq, Repr

instance : Fintype ScanRequestKey :=
  ⟨{.request, .scan, .idempotency}, by intro k; cases k <;> simp⟩

/-- The columns of a key, the first one alone where it is the identity. -/
def ScanRequestKey.value : ScanRequestKey → ScanRequestColumns → String × String
  | .request, p => (p.scanRequestId, "")
  | .scan, p => (p.scanId, p.organizationId)
  | .idempotency, p => (p.organizationId, p.creationIdempotencyKey)

abbrev ScanRequestTable :=
  Relational.Table ScanRequestKey (String × String) ScanRequestColumns ScanRequestRow
    ScanRequestKey.value

/-! ### Rows against the manifest -/

/-- `validate_idempotency_key`. -/
def isIdempotencyKey (key : String) : Bool :=
  match key.toList with
  | [] => false
  | c :: cs =>
      c.isAlphanum && key.length ≤ 128 &&
        cs.all fun d => d.isAlphanum || d = '.' || d = '_' || d = ':' || d = '-'

/-- `_assert_parent_manifest_binding`. -/
def assertParentManifestBinding (p : ScanRequestColumns) : Except String Unit := do
  let m := p.manifest
  ensure (p.organizationId = m.organizationId && p.projectId = m.projectId &&
      p.assetId = m.assetId && p.manifestHash = m.manifestHash && p.targetId = m.targetId &&
      p.targetIntegritySeal = m.targetIntegritySeal &&
      p.targetPolicyVersion = m.targetPolicyVersion && p.profile = m.profile &&
      p.policyRevision = m.policyRevision)
    "scan authorization parent binding does not match the immutable manifest"
  ensure (p.selectedEngineIds = m.selectedEngineIds)
    "scan authorization selected-engine material does not match the immutable manifest"

/-- `_manifest_operation_material` and `_normalized_operation_material`. -/
def operationMaterial (scanRequestId organizationId : String) (o : ScanManifestOperation) : Json :=
  .obj
    [("operation_id", .str o.operationId), ("scan_request_id", .str scanRequestId),
      ("organization_id", .str organizationId), ("tool_id", .str o.toolId),
      ("engine_id", .str o.engineId), ("operation_family", .str o.operationFamily),
      ("classification", .str o.classification), ("operation_options", .obj o.operationOptions),
      ("operation_policy_revision", .str o.operationPolicyRevision),
      ("target_id", .str o.targetId),
      ("authorization_decision_id", .str o.authorizationDecisionId),
      ("resource_budget", .obj (budgetJson o.resourceBudget)),
      ("account_impact_budget", .obj (budgetJson o.accountImpactBudget)),
      ("credential_scope", .obj (scopeJson o.credentialScope)),
      ("capability_state", .str o.capabilityState),
      ("selection_state", .str o.selectionState.text),
      ("exclusion_reason", Json.optStr o.exclusionReason)]

/-- `_manifest_fleet_material` and `_normalized_fleet_material`. -/
def fleetMaterial (scanRequestId organizationId : String) (e : ScanFleetSnapshotEntry) : Json :=
  .obj
    [("scan_request_id", .str scanRequestId), ("organization_id", .str organizationId),
      ("tool_id", .str e.toolId), ("owner_engine_id", Json.optStr e.ownerEngineId),
      ("status", .str e.status), ("reason", Json.optStr e.reason)]

/-- Operations in the order of their identities. -/
def sortOperations (os : List ScanManifestOperation) : List ScanManifestOperation :=
  os.mergeSort fun o o' => decide (o.operationId ≤ o'.operationId)

/-- Fleet entries in the order of their tools. -/
def sortFleet (es : List ScanFleetSnapshotEntry) : List ScanFleetSnapshotEntry :=
  es.mergeSort fun e e' => decide (e.toolId ≤ e'.toolId)

/-- `_assert_normalized_manifest_rows_match`. -/
def assertNormalizedManifestRowsMatch (p : ScanRequestColumns) (x : ScanRequestRow) :
    Except String Unit := do
  let material := operationMaterial p.scanRequestId p.organizationId
  let rows := sortOperations (x.operations.map (·.operation))
  ensure ((Json.arr (rows.map material)).text =
      (Json.arr ((sortOperations p.manifest.operations).map material)).text)
    "scan authorization normalized operation rows do not match the immutable manifest"
  let fleet := fleetMaterial p.scanRequestId p.organizationId
  ensure ((Json.arr ((sortFleet p.fleet).map fleet)).text =
      (Json.arr ((sortFleet p.manifest.fleetSnapshot).map fleet)).text)
    "scan authorization normalized fleet rows do not match the immutable manifest"
  ensure (p.manifest.engineOperations.all (·.selectionState = .excluded))
    "scan authorization engine operation is not explicitly excluded"
  refuse (p.manifest.engineOperations.any fun o => o.operationId ∈ rows.map (·.operationId))
    "scan authorization engine operation was incorrectly normalized as a fleet operation"

/-! ### The manifest against the present -/

/-- The material of an operation that its policy row decides. -/
def policyMaterial (options : List (String × Json)) (resourceBudget : List (String × Int))
    (accountImpactBudget : List (String × Int)) (credentialScope : List (String × String))
    (capabilityState classification operationFamily : String) : Json :=
  .obj
    [("operation_options", .obj options), ("resource_budget", .obj (budgetJson resourceBudget)),
      ("account_impact_budget", .obj (budgetJson accountImpactBudget)),
      ("credential_scope", .obj (scopeJson credentialScope)),
      ("capability_state", .str capabilityState), ("classification", .str classification),
      ("operation_family", .str operationFamily)]

/-- The material an operation has. -/
def ScanManifestOperation.policyMaterial (o : ScanManifestOperation) : Json :=
  CyberAssess.policyMaterial o.operationOptions o.resourceBudget o.accountImpactBudget
    o.credentialScope o.capabilityState o.classification o.operationFamily

/-- The material its policy row gives it. -/
def OperationPolicy.material (row : OperationPolicy) : Json :=
  policyMaterial row.requiredOptions row.resourceBudget row.accountImpactBudget
    row.credentialScope row.capabilityState row.approvalLevel row.operationFamily

/-- One operation of `_assert_policy_material_current`. -/
def assertOperationCurrent (policyRevision : String) (o : ScanManifestOperation) :
    Except String Unit := do
  ensure (o.operationPolicyRevision = policyRevision)
    "scan authorization operation policy revision is inconsistent"
  ensure (o.operationId = o.engineId ++ ":" ++ o.toolId)
    "scan authorization operation identity is not canonical"
  let policy := getOperationPolicy o.toolId o.operationFamily
  if o.operationFamily = "UNREPRESENTED_POLICY" then
    ensure (policy.isNone && o.selectionState = .excluded)
      "scan authorization policy-gap operation is inconsistent"
  else
    match policy with
    | none => .error "scan authorization operation policy is no longer registered"
    | some row => do
        ensure (o.policyMaterial.text = row.material.text)
          "scan authorization operation no longer matches current policy"
        refuse (o.selectionState = .selected && o.exclusionReason.isSome)
          "selected scan authorization operation has an exclusion reason"

/-- Every operation, in order. -/
def assertOperationsCurrent (policyRevision : String) :
    List ScanManifestOperation → Except String Unit
  | [] => .ok ()
  | o :: os => do
      assertOperationCurrent policyRevision o
      assertOperationsCurrent policyRevision os

/-- `_DURABLE_SECRET_KEY_PATTERN.search` of the keys of a mapping. -/
def hasSecretKey (keys : List String) : Bool := keys.any isSensitiveHeaderName

/-- `_assert_policy_material_current`. -/
def assertPolicyMaterialCurrent (g : Gateway) (m : ScanAuthorizationManifest) :
    Except String Unit := do
  ensure (m.policyRevision = operationPolicyRevision g)
    "scan authorization policy revision is stale or untrusted"
  assertOperationsCurrent m.policyRevision m.operations
  refuse (hasSecretKey (m.resourceBudget.map (·.1)))
    "scan authorization resource budget contains secret material"
  refuse (hasSecretKey (m.accountImpactBudget.map (·.1)))
    "scan authorization account-impact budget contains secret material"
  refuse (hasSecretKey (m.credentialScope.map (·.1)))
    "scan authorization credential scope contains secret material"
  ensure (m.resourceBudget.all (0 < ·.2)) "scan authorization resource budget is invalid"
  ensure (m.accountImpactBudget.all (0 ≤ ·.2))
    "scan authorization account-impact budget is invalid"

/-- The target the manifest seals. -/
def ScanAuthorizationManifest.target (m : ScanAuthorizationManifest) : ValidatedTarget where
  targetId := m.targetId
  authorizationDecisionId := m.authorizationDecisionId
  integritySeal := m.targetIntegritySeal
  organizationId := m.organizationId
  projectId := m.projectId
  assetId := some m.assetId
  workspaceId := none
  targetType := m.targetType
  rawValue := m.targetRawValue
  canonicalValue := m.targetCanonicalValue
  authorizedScope := m.targetAuthorizedScope
  resolvedAddresses := m.targetResolvedAddresses
  selectedDestination := m.targetSelectedDestination
  port := m.targetPort
  scheme := m.targetScheme
  authorizationContext := m.targetAuthorizationContext
  policyVersion := m.targetPolicyVersion

/-- The asset tests of `_assert_current_target_and_asset`. -/
def assertAssetCurrent (m : ScanAuthorizationManifest) (asset : Asset) : Except String Unit := do
  ensure (asset.projectId = m.projectId &&
      strip asset.targetValue = strip m.targetRawValue)
    "scan authorization asset target binding changed after request creation"
  ensure (m.assetOwner.all fun o => asset.owner = some o)
    "scan authorization asset owner binding changed after request creation"
  ensure (m.assetLifecycleStatus.all (asset.lifecycleStatus.text = ·))
    "scan authorization asset lifecycle binding changed after request creation"
  ensure asset.lifecycleStatus.eligible
    "scan authorization asset is no longer eligible for assessment"
  ensure (asset.type.targetType = some m.targetType)
    "scan authorization asset type is inconsistent with the sealed target"

/-- `_assert_current_target_and_asset`. -/
def assertCurrentTargetAndAsset (g : Gateway) (d : Directory) (scans : List ScanRow)
    (p : ScanRequestColumns) : Except String Unit := do
  let m := p.manifest
  ensure (p.organizationId = m.organizationId && p.projectId = m.projectId &&
      p.assetId = m.assetId && p.targetId = m.targetId &&
      p.targetIntegritySeal = m.targetIntegritySeal &&
      p.targetPolicyVersion = m.targetPolicyVersion)
    "scan authorization parent binding changed after request creation"
  ensure (d.organizationActive m.organizationId)
    "scan authorization organization is inactive or no longer exists"
  ensure (unset m.projectId || d.hasProject (orEmpty m.projectId) m.organizationId)
    "scan authorization project ownership or delegation is no longer valid"
  match d.asset m.assetId m.organizationId m.projectId with
  | none => .error "scan authorization asset ownership or delegation is no longer valid"
  | some asset => do
      assertAssetCurrent m asset
      ensure (scans.any fun s => s.id = p.scanId && s.organizationId = m.organizationId &&
          s.projectId = m.projectId && s.assetId = some m.assetId &&
          s.targetType = m.targetType && strip s.targetValue = strip m.targetRawValue)
        "scan authorization scan record is inconsistent with the sealed target"
      ensure (d.userActive p.requestedByUserId m.organizationId)
        "scan authorization requester is no longer tenant-bound"
      ensure (validateValidatedTarget g m.target).toBool
        "scan authorization target seal or policy validation failed"

end CyberAssess
