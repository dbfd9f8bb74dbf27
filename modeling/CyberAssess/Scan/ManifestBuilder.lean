import Mathlib.Data.List.Lex
import Mathlib.Data.String.Basic
import CyberAssess.Scan.Manifest
import CyberAssess.Support.Collections

/-!
# Scan — building the manifest

`build_scan_manifest` of `core/scan_manifest.py`, from the declarations of the registered engines.

* `engineSnapshot` is the canonical form of the declarations, `ownershipOf` the engines of each tool.
* `fleetStep` is one round of the loop over the fleet, for a tool that is disabled, fleet-only,
  unresolved, or open to the engines that are selected.
* `buildScanManifest` checks, loops, and hashes what it has built.

`[about ours]`: an engine is its name and its tool declaration; an absent configuration or budget is
an empty one.  The name in an error is written between single quotes, as `repr` writes most names.
-/

namespace CyberAssess

open Python
open Checked (ensure refuse require)

/-- `NATIVE_TOOLS`. -/
def nativeTools : List String := ["gtfobins"]

/-- `FLEET_ONLY_TOOLS`. -/
def fleetOnlyTools : List String := ["hydra"]

/-! ### The engines -/

/-- A registered engine: `name` and `allowed_tool_ids`. -/
structure RegisteredEngine where
  name : String
  allowedToolIds : Option (List String)
deriving DecidableEq, Repr

/-- An engine of the snapshot and its tools. -/
abbrev EngineRow := String × List String

/-- One round of `_engine_snapshot`. -/
def engineRow (e : RegisteredEngine) : Except String EngineRow := do
  let name := strip e.name
  refuse name.isEmpty "registered engine identity cannot be blank"
  let declared ← require e.allowedToolIds
    ("engine '" ++ name ++ "' has no canonical tool declaration")
  let tools := sorted declared
  refuse (!decide tools.Nodup || tools.any (· ∉ supportedToolIds))
    ("engine '" ++ name ++ "' declares invalid or duplicate tool identity")
  .ok (name, tools)

/-- `_engine_snapshot`. -/
def engineSnapshot (engines : List RegisteredEngine) : Except String (List EngineRow) := do
  let rows ← engines.mapM engineRow
  ensure (decide (rows.map (·.1)).Nodup) "registered engine identities are not unique"
  .ok (sortedBy toLex rows)

/-- The selection, stripped and in order. -/
def selectedEngines (snapshot : List EngineRow) (raw : List String) : Except String (List String) := do
  refuse raw.isEmpty "at least one registered engine must be selected"
  refuse (raw.any isBlank) "selected engine identities must be non-blank strings"
  let normalized := raw.map strip
  ensure (decide normalized.Nodup) "selected engine identities must be unique"
  let selected := sorted normalized
  refuse (selected.any (· ∉ snapshot.map (·.1)))
    "selected engine set is not a registered canonical engine set"
  .ok selected

/-- `ownership`: under each tool the engines that declare it. -/
def ownershipOf (snapshot : List EngineRow) : List (String × List String) :=
  snapshot.foldl (fun ownership row =>
    row.2.foldl (fun ownership tool => addTo tool row.1 ownership) ownership) []

/-! ### The operations of one tool -/

/-- `policy_family`. -/
def policyFamily (engineId toolId : String) : String :=
  if toolId = "prowler" then "cloud_audit" else assessmentFamily engineId

/-- `operation_id` of a tool operation. -/
def toolOperationId (engineId toolId : String) : String := engineId ++ ":" ++ toolId

section Operations

variable (g : Gateway) (target : ValidatedTarget) (engineId toolId : String)

/-- The operation of a tool without a policy row. -/
def policyGapOperation (reason : String) : ScanManifestOperation where
  operationId := toolOperationId engineId toolId
  toolId := toolId
  engineId := engineId
  operationFamily := "UNREPRESENTED_POLICY"
  classification := "UNAUTHORIZED_UNTIL_POLICY_DEFINED"
  operationOptions := []
  operationPolicyRevision := operationPolicyRevision g
  targetId := target.targetId
  authorizationDecisionId := target.authorizationDecisionId
  resourceBudget := []
  accountImpactBudget := []
  credentialScope := []
  capabilityState := "POLICY_GAP"
  selectionState := .excluded
  exclusionReason := some reason

/-- The operation of a policy row. -/
def policyOperation (policy : OperationPolicy) (state : SelectionState) (reason : Option String) :
    ScanManifestOperation where
  operationId := toolOperationId engineId toolId
  toolId := toolId
  engineId := engineId
  operationFamily := policy.operationFamily
  classification := policy.approvalLevel
  operationOptions := sortKeys policy.requiredOptions
  operationPolicyRevision := operationPolicyRevision g
  targetId := target.targetId
  authorizationDecisionId := target.authorizationDecisionId
  resourceBudget := sortKeys policy.resourceBudget
  accountImpactBudget := sortKeys policy.accountImpactBudget
  credentialScope := sortKeys policy.credentialScope
  capabilityState := policy.capabilityState
  selectionState := state
  exclusionReason := reason

/-- The operation of a tool that the configuration disables. -/
def disabledOperation : ScanManifestOperation :=
  match getOperationPolicy toolId (policyFamily engineId toolId) with
  | none => policyGapOperation g target engineId toolId "disabled_by_scan_configuration"
  | some policy =>
      policyOperation g target engineId toolId policy .excluded
        (some "disabled_by_scan_configuration")

/-- The operation of a tool that it enables. -/
def enabledOperation : ScanManifestOperation :=
  match getOperationPolicy toolId (policyFamily engineId toolId) with
  | none => policyGapOperation g target engineId toolId "canonical_operation_policy_missing"
  | some policy => policyOperation g target engineId toolId policy .selected none

end Operations

/-! ### The fleet -/

/-- The lists the loop appends to. -/
structure ManifestLists where
  operations : List ScanManifestOperation
  fleet : List ScanFleetSnapshotEntry

/-- `selected_owners[0] if len(selected_owners) == 1 else None`. -/
def soleOwner : List String → Option String
  | [owner] => some owner
  | _ => none

/-- `fleet_status` and `fleet_reason`. -/
def fleetStatus (toolId : String) (selectedOwners : List String) : String × Option String :=
  if 1 < selectedOwners.length then ("SELECTED_MULTI_ENGINE", some "selected_engine_operations")
  else if selectedOwners.isEmpty then ("NOT_SELECTED", some "owning_engine_not_selected")
  else if toolId ∈ nativeTools then ("SELECTED_NATIVE", none)
  else ("SELECTED", none)

section Loop

variable (g : Gateway) (target : ValidatedTarget) (config : ScanConfig)
  (ownership : List (String × List String)) (selected : List String)

/-- `selected_owners`. -/
def selectedOwners (toolId : String) : List String :=
  (groupOf toolId ownership).filter (· ∈ selected)

/-- One round of the loop over the fleet. -/
def fleetStep (lists : ManifestLists) (toolId : String) : Except String ManifestLists := do
  let owners := selectedOwners ownership selected toolId
  let enabled ← toolEnabled config toolId
  if !enabled then
    .ok
      { fleet := lists.fleet ++
          [⟨toolId, soleOwner owners, "DISABLED", some "disabled_by_scan_configuration"⟩]
        operations := lists.operations ++
          owners.map fun engineId => disabledOperation g target engineId toolId }
  else if toolId ∈ fleetOnlyTools then
    let state := (getUnresolvedToolState toolId).getD
      ("DEFERRED", "fleet_only_tool_without_registered_engine")
    .ok { lists with fleet := lists.fleet ++ [⟨toolId, none, state.1, some state.2⟩] }
  else
    match owners.isEmpty, getUnresolvedToolState toolId with
    | true, some state =>
        .ok { lists with fleet := lists.fleet ++ [⟨toolId, none, state.1, some state.2⟩] }
    | _, _ =>
        let status := fleetStatus toolId owners
        .ok
          { fleet := lists.fleet ++ [⟨toolId, soleOwner owners, status.1, status.2⟩]
            operations := lists.operations ++
              owners.map fun engineId => enabledOperation g target engineId toolId }

/-- The loop over `sorted(SUPPORTED_TOOL_IDS)`. -/
def fleetLoop : Except String ManifestLists :=
  supportedToolIds.foldlM (fleetStep g target config ownership selected) ⟨[], []⟩

end Loop

/-! ### The manifest -/

/-- The arguments of `build_scan_manifest`. -/
structure BuildScanManifestArgs where
  organizationId : String
  projectId : Option String
  assetId : String
  assetOwner : Option String
  assetLifecycleStatus : Option String
  validatedTarget : ValidatedTarget
  profile : String
  selectedEngineIds : List String
  engines : List RegisteredEngine
  requestedExpiry : Nat
  scanConfig : ScanConfig
  resourceBudget : List (String × Int)
  accountImpactBudget : List (String × Int)
  credentialScope : List (String × String)
  emergencyStopReference : String

/-- The native assessment of a CI/CD engine. -/
def nativeAssessment (g : Gateway) (target : ValidatedTarget) : ScanManifestEngineOperation where
  operationId := "engine:cicd_audit:native-assessment"
  engineId := "cicd_audit"
  operationFamily := "ci_cd_repository_assessment"
  classification := "ADMINISTRATOR_APPROVAL_REQUIRED"
  operationOptions := [("provider_mode", .str "provider-aware")]
  operationPolicyRevision := operationPolicyRevision g
  targetId := target.targetId
  authorizationDecisionId := target.authorizationDecisionId
  resourceBudget := [("timeout_seconds", 300)]
  accountImpactBudget := []
  credentialScope := []
  capabilityState := "DEFERRED_UNVERIFIED"
  selectionState := .excluded
  exclusionReason := some "native_engine_policy_and_provider_evidence_not_defined"

/-- `engine_operations`. -/
def engineOperations (g : Gateway) (target : ValidatedTarget) (selected : List String) :
    List ScanManifestEngineOperation :=
  if "cicd_audit" ∈ selected then [nativeAssessment g target] else []

/-- `engine_revision`. -/
def engineRevision (g : Gateway) (snapshot : List EngineRow) : String :=
  g.sha256 (Json.arr (snapshot.map fun row =>
    .arr [.str row.1, .arr (row.2.map .str)])).text

/-- `build_scan_manifest`. -/
def buildScanManifest (g : Gateway) (c : BuildScanManifestArgs) :
    Except String ScanAuthorizationManifest := do
  let target := c.validatedTarget
  refuse (target.organizationId ≠ c.organizationId || target.assetId ≠ some c.assetId)
    "validated target is outside the requested tenant/asset binding"
  let snapshot ← engineSnapshot c.engines
  let selected ← selectedEngines snapshot c.selectedEngineIds
  let effectiveConfig ← validateDurableScanConfig c.scanConfig
  let lists ← fleetLoop g target c.scanConfig (ownershipOf snapshot) selected
  let values : ScanAuthorizationManifest :=
    { manifestHash := String.ofList (List.replicate 64 '0')
      organizationId := c.organizationId
      projectId := c.projectId
      assetId := c.assetId
      assetOwner := c.assetOwner
      assetLifecycleStatus := c.assetLifecycleStatus
      targetId := target.targetId
      authorizationDecisionId := target.authorizationDecisionId
      targetIntegritySeal := target.integritySeal
      targetPolicyVersion := target.policyVersion
      targetType := target.targetType
      targetRawValue := target.rawValue
      targetCanonicalValue := target.canonicalValue
      targetSelectedDestination := target.selectedDestination
      targetResolvedAddresses := target.resolvedAddresses
      targetAuthorizedScope := target.authorizedScope
      targetPort := target.port
      targetScheme := target.scheme
      targetAuthorizationContext := target.authorizationContext
      profile := c.profile
      selectedEngineIds := selected
      engineRevision := engineRevision g snapshot
      policyRevision := operationPolicyRevision g
      operations := lists.operations
      engineOperations := engineOperations g target selected
      fleetSnapshot := lists.fleet
      requestedExpiry := c.requestedExpiry
      resourceBudget := sortKeys c.resourceBudget
      accountImpactBudget := sortKeys c.accountImpactBudget
      credentialScope := sortKeys c.credentialScope
      emergencyStopReference := c.emergencyStopReference
      effectiveScanConfig := sortKeys effectiveConfig }
  .ok { values with manifestHash := values.digest g }

end CyberAssess
