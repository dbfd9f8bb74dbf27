import CyberAssess.Scan.Policy

/-!
# Scan — the authorization manifest

The manifest models of `core/models.py`, with what `core/scan_manifest.py` and `core/db.py` refuse
to keep in one.

* `ScanAuthorizationManifest` with `material`, the JSON its hash is of.
* `validateDurableScanConfig` admits no credential-bearing configuration.
* `assertManifestSecretSafe` looks for secret-named values in the whole manifest.

`[about ours]`: a scan configuration is its `model_dump(mode="json")`.  A stamp inside hashed
material is written as its number.  The alternatives of a name pattern that contain another
alternative are left out.
-/

namespace CyberAssess

open Python
open Checked (ensure refuse)

/-! ### Names -/

/-- A character as `re.IGNORECASE` compares it with a small ASCII letter. -/
def foldCase (c : Char) : Char :=
  if 'A' ≤ c && c ≤ 'Z' then Char.ofNat (c.toNat + 32)
  else match c.toNat with
    | 0x130 | 0x131 => 'i'
    | 0x17F => 's'
    | 0x212A => 'k'
    | _ => c

/-- `re.search` of a literal, ignoring case. -/
def containsWord (word name : String) : Bool :=
  (cutText word.toList (name.toList.map foldCase)).2.isSome

/-- `_SENSITIVE_HEADER_NAME`. -/
def sensitiveHeaderWords : List String :=
  ["authorization", "cookie", "password", "passwd", "pwd", "token", "secret", "apikey", "api-key",
    "api_key", "credential"]

/-- `_SENSITIVE_HEADER_NAME.search(name)`. -/
def isSensitiveHeaderName (name : String) : Bool := sensitiveHeaderWords.any (containsWord · name)

/-- `_MANIFEST_SECRET_KEY_PATTERN.search(key)`. -/
def isManifestSecretKey (key : String) : Bool :=
  (sensitiveHeaderWords ++ ["privatekey", "private-key", "private_key"]).any (containsWord · key)

/-! ### The scan configuration -/

/-- `ScanConfig`, dumped. -/
abbrev ScanConfig := List (String × Json)

/-- `value or {}` of a member that has to be a mapping. -/
def mappingOf (value : Option Json) : Option (List (String × Json)) :=
  match value with
  | none | some .null => some []
  | some (.obj members) => some members
  | some v => if v.hasMaterial then none else some []

/-- `mapping.get(key)` in a condition. -/
def memberTruth (key : String) (members : List (String × Json)) : Bool :=
  (Json.get? key members).any Json.truth

/-- `dict(mapping)` with one member set. -/
def setMember (key : String) (value : Json) (members : List (String × Json)) :
    List (String × Json) :=
  if members.any (·.1 = key) then members.map fun m => if m.1 = key then (key, value) else m
  else members ++ [(key, value)]

/-- `str(auth.get("auth_type") or "NONE").upper()`, for the texts that are told apart. -/
def webAuthenticationAbsent (auth : List (String × Json)) : Bool :=
  match Json.get? "auth_type" auth with
  | some (.str s) =>
      let upper := s.toList.map Char.toUpper
      s.isEmpty || upper = "NONE".toList || upper = "NO_AUTH".toList
  | some v => !v.truth
  | none => true

/-- `validate_durable_scan_config`. -/
def validateDurableScanConfig (raw : ScanConfig) : Except String ScanConfig := do
  match mappingOf (Json.get? "custom_headers" raw), mappingOf (Json.get? "auth" raw) with
  | none, _ => .error "custom_headers must be a mapping"
  | some headers, auth? => do
      refuse (headers.any (isSensitiveHeaderName ·.1))
        ("durable scan authorization does not accept inline credential-bearing headers; " ++
          "an approved tenant-scoped credential reference is required")
      match auth? with
      | none => .error "auth configuration must be a mapping"
      | some auth => do
          refuse (["headers", "cookies", "password"].any (memberTruth · auth))
            ("durable scan authorization does not accept inline authentication material; " ++
              "an approved tenant-scoped credential reference is required")
          ensure (webAuthenticationAbsent auth)
            ("durable web authentication is unavailable without a tenant-scoped credential " ++
              "resolver")
          let snapshot := setMember "password" .null
            (setMember "cookies" (.obj []) (setMember "headers" (.obj []) auth))
          .ok (setMember "auth" (.obj snapshot) raw)

/-- `_TOOL_ENABLE_FIELDS`. -/
def toolEnableFields : List (String × String) :=
  [("amass", "enable_amass"), ("bandit", "enable_bandit"), ("checkov", "enable_checkov"),
    ("dockle", "enable_dockle"), ("ffuf", "enable_ffuf"), ("gitleaks", "enable_gitleaks"),
    ("grype", "enable_grype"), ("gtfobins", "enable_gtfobins"), ("httpx", "enable_httpx"),
    ("hydra", "enable_hydra"), ("katana", "enable_katana"), ("kube-bench", "enable_kube_bench"),
    ("metasploit", "enable_metasploit"), ("nmap", "enable_nmap"), ("nuclei", "enable_nuclei"),
    ("osv-scanner", "enable_osv_scanner"), ("prowler", "enable_prowler"),
    ("retire", "enable_retirejs"), ("schemathesis", "enable_schemathesis"),
    ("semgrep", "enable_semgrep"), ("sqlmap", "enable_sqlmap"), ("sslyze", "enable_sslyze"),
    ("subfinder", "enable_subfinder"), ("syft", "enable_syft"), ("trivy", "enable_trivy"),
    ("trufflehog", "enable_trufflehog")]

/-- `_tool_enabled`: an absent flag enables. -/
def toolEnabled (config : ScanConfig) (toolId : String) : Except String Bool :=
  match toolEnableFields.find? (·.1 = toolId) with
  | none => .error ("tool '" ++ toolId ++ "' has no canonical enable flag")
  | some (_, field) =>
      match Json.get? "adapters" config with
      | some (.obj adapters) => .ok ((Json.get? field adapters).all Json.truth)
      | _ => .ok true

/-! ### The manifest -/

/-- `ScanFleetSnapshotEntry`. -/
structure ScanFleetSnapshotEntry where
  toolId : String
  ownerEngineId : Option String
  status : String
  reason : Option String
deriving DecidableEq, Repr

/-- `selection_state`. -/
inductive SelectionState where
  | selected | excluded
deriving DecidableEq, Repr

/-- The stored text of a selection state. -/
def SelectionState.text : SelectionState → String
  | .selected => "SELECTED"
  | .excluded => "EXCLUDED"

/-- `ScanManifestEngineOperation`, and what a tool operation shares with it. -/
structure ScanManifestEngineOperation where
  operationId : String
  engineId : String
  operationFamily : String
  classification : String
  operationOptions : List (String × Json)
  operationPolicyRevision : String
  targetId : String
  authorizationDecisionId : String
  resourceBudget : List (String × Int)
  accountImpactBudget : List (String × Int)
  credentialScope : List (String × String)
  capabilityState : String
  selectionState : SelectionState
  exclusionReason : Option String

/-- `ScanManifestOperation`; its child identities are never set in a manifest. -/
structure ScanManifestOperation extends ScanManifestEngineOperation where
  toolId : String

/-- `ScanAuthorizationManifest`. -/
structure ScanAuthorizationManifest where
  manifestHash : String
  organizationId : String
  projectId : Option String
  assetId : String
  assetOwner : Option String
  assetLifecycleStatus : Option String
  targetId : String
  authorizationDecisionId : String
  targetIntegritySeal : String
  targetPolicyVersion : String
  targetType : TargetType
  targetRawValue : String
  targetCanonicalValue : String
  targetSelectedDestination : String
  targetResolvedAddresses : List String
  targetAuthorizedScope : List String
  targetPort : Option Int
  targetScheme : Option String
  targetAuthorizationContext : AuthorizationContext
  profile : String
  selectedEngineIds : List String
  engineRevision : String
  policyRevision : String
  operations : List ScanManifestOperation
  engineOperations : List ScanManifestEngineOperation
  fleetSnapshot : List ScanFleetSnapshotEntry
  requestedExpiry : Nat
  resourceBudget : List (String × Int)
  accountImpactBudget : List (String × Int)
  credentialScope : List (String × String)
  emergencyStopReference : String
  effectiveScanConfig : List (String × Json)

/-- Pairs in JSON: lists of two, in key order. -/
def pairsJson (pairs : List (String × Json)) : Json :=
  .arr ((sortKeys pairs).map fun p => .arr [.str p.1, p.2])

/-- One engine operation, dumped. -/
def ScanManifestEngineOperation.members (o : ScanManifestEngineOperation) :
    List (String × Json) :=
  [("operation_id", .str o.operationId), ("engine_id", .str o.engineId),
    ("operation_family", .str o.operationFamily), ("classification", .str o.classification),
    ("operation_options", pairsJson o.operationOptions),
    ("operation_policy_revision", .str o.operationPolicyRevision),
    ("target_id", .str o.targetId),
    ("authorization_decision_id", .str o.authorizationDecisionId),
    ("resource_budget", pairsJson (budgetJson o.resourceBudget)),
    ("account_impact_budget", pairsJson (budgetJson o.accountImpactBudget)),
    ("credential_scope", pairsJson (scopeJson o.credentialScope)),
    ("capability_state", .str o.capabilityState),
    ("selection_state", .str o.selectionState.text),
    ("exclusion_reason", Json.optStr o.exclusionReason)]

/-- One tool operation, dumped. -/
def ScanManifestOperation.json (o : ScanManifestOperation) : Json :=
  .obj (o.members ++ [("tool_id", .str o.toolId), ("child_request_id", .null),
    ("child_decision_id", .null), ("child_execution_id", .null)])

/-- One fleet entry, dumped. -/
def ScanFleetSnapshotEntry.json (e : ScanFleetSnapshotEntry) : Json :=
  .obj [("tool_id", .str e.toolId), ("owner_engine_id", Json.optStr e.ownerEngineId),
    ("status", .str e.status), ("reason", Json.optStr e.reason)]

/-- `target_authorization_context`, as pairs. -/
def AuthorizationContext.pairs (c : AuthorizationContext) : List (String × Json) :=
  [("active_probing_granted", .bool c.activeProbingGranted),
    ("allow_internal", .bool c.allowInternal), ("cloud_provider", Json.optStr c.cloudProvider),
    ("dns_zone_authorized", .bool c.dnsZoneAuthorized),
    ("state_changing_granted", .bool c.stateChangingGranted),
    ("validated_by", .str c.validatedBy)]

/-- They are in key order. -/
theorem AuthorizationContext.pairs_sorted (c : AuthorizationContext) :
    sortKeys c.pairs = c.pairs := by
  have ordered : (c.pairs.map (·.1)).Pairwise (fun s t => decide (s ≤ t) = true) := by
    change ["active_probing_granted", "allow_internal", "cloud_provider", "dns_zone_authorized",
      "state_changing_granted", "validated_by"].Pairwise _
    decide +kernel
  exact List.mergeSort_of_pairwise (List.pairwise_map.mp ordered)

/-- The dump of the manifest without its hash. -/
def ScanAuthorizationManifest.material (m : ScanAuthorizationManifest) : List (String × Json) :=
  [("schema_version", .str "scan-manifest-v2"), ("organization_id", .str m.organizationId),
    ("project_id", Json.optStr m.projectId), ("asset_id", .str m.assetId),
    ("asset_owner", Json.optStr m.assetOwner),
    ("asset_lifecycle_status", Json.optStr m.assetLifecycleStatus),
    ("target_id", .str m.targetId),
    ("authorization_decision_id", .str m.authorizationDecisionId),
    ("target_integrity_seal", .str m.targetIntegritySeal),
    ("target_policy_version", .str m.targetPolicyVersion),
    ("target_type", .str m.targetType.text), ("target_raw_value", .str m.targetRawValue),
    ("target_canonical_value", .str m.targetCanonicalValue),
    ("target_selected_destination", .str m.targetSelectedDestination),
    ("target_resolved_addresses", .arr (m.targetResolvedAddresses.map .str)),
    ("target_authorized_scope", .arr (m.targetAuthorizedScope.map .str)),
    ("target_port", m.targetPort.elim .null Json.int),
    ("target_scheme", Json.optStr m.targetScheme),
    ("target_authorization_context", pairsJson m.targetAuthorizationContext.pairs),
    ("profile", .str m.profile), ("selected_engine_ids", .arr (m.selectedEngineIds.map .str)),
    ("engine_revision", .str m.engineRevision), ("policy_revision", .str m.policyRevision),
    ("operations", .arr (m.operations.map (·.json))),
    ("engine_operations", .arr (m.engineOperations.map (.obj ·.members))),
    ("fleet_snapshot", .arr (m.fleetSnapshot.map (·.json))),
    ("requested_expiry", .str (toString m.requestedExpiry)),
    ("resource_budget", pairsJson (budgetJson m.resourceBudget)),
    ("account_impact_budget", pairsJson (budgetJson m.accountImpactBudget)),
    ("credential_scope", pairsJson (scopeJson m.credentialScope)),
    ("emergency_stop_reference", .str m.emergencyStopReference),
    ("effective_scan_config", pairsJson m.effectiveScanConfig)]

/-- `model_dump(mode="json")`. -/
def ScanAuthorizationManifest.json (m : ScanAuthorizationManifest) : Json :=
  .obj (m.material ++ [("manifest_hash", .str m.manifestHash)])

/-- The hash `validate_manifest_hash` expects. -/
def ScanAuthorizationManifest.digest (g : Gateway) (m : ScanAuthorizationManifest) : String :=
  g.sha256 (Json.obj m.material).text

/-! ### Secret material -/

/-- `_MANIFEST_REFERENCE_KEYS | _MANIFEST_NON_SECRET_METADATA_KEYS`. -/
def manifestPlainKeys : List String :=
  ["credential_scope", "credential_envelope_ref", "credential_reference",
    "authorization_decision_id", "target_authorization_context", "username_field",
    "password_field", "csrf_token_field", "logged_in_indicator", "logout_url_patterns"]

/-- A member that stores material under a secret name. -/
def isSecretMember (g : Gateway) (key : String) (value : Json) : Bool :=
  g.lower key ∉ manifestPlainKeys && isManifestSecretKey key && value.hasMaterial

mutual

/-- `walk` of `_assert_manifest_secret_safe`, below `path`. -/
def walkSecretSafe (g : Gateway) (path : String) : Json → Except String Unit
  | .obj members => walkMembers g path members
  | .arr items => walkItems g path 0 items
  | _ => .ok ()

/-- The members of an object, in their order. -/
def walkMembers (g : Gateway) (path : String) : List (String × Json) → Except String Unit
  | [] => .ok ()
  | (key, value) :: members =>
      if isSecretMember g key value then
        .error ("scan authorization manifest contains secret material at " ++ path ++ "." ++ key)
      else
        match walkSecretSafe g (path ++ "." ++ key) value with
        | .error e => .error e
        | .ok _ => walkMembers g path members

/-- The items of a list, under their indices. -/
def walkItems (g : Gateway) (path : String) (index : Nat) : List Json → Except String Unit
  | [] => .ok ()
  | item :: items =>
      match walkSecretSafe g (path ++ "[" ++ toString index ++ "]") item with
      | .error e => .error e
      | .ok _ => walkItems g path (index + 1) items

end

/-- `_assert_manifest_secret_safe`. -/
def assertManifestSecretSafe (g : Gateway) (m : ScanAuthorizationManifest) :
    Except String Unit := do
  ensure (validateDurableScanConfig m.effectiveScanConfig).toBool
    "scan authorization manifest contains unsupported inline credential material"
  walkSecretSafe g "manifest" m.json

end CyberAssess
