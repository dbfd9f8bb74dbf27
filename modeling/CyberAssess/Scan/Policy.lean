import CyberAssess.Scan.Gateway

/-!
# Scan — the operation policy and the tool fleet

`core/tool_operation_policy.py` and `core/tool_fleet.py`: the rows an operation is authorized
under, their revision, and the tools there are.

* `getOperationPolicy` finds the row of a tool and an operation family.
* `operationPolicyRevision` is the digest of the whole document.
* `supportedToolIds` is the fleet, in order.
-/

namespace CyberAssess

open Python

/-- `SUPPORTED_TOOL_IDS`, sorted. -/
def supportedToolIds : List String :=
  ["amass", "bandit", "checkov", "dockle", "ffuf", "gitleaks", "grype", "gtfobins", "httpx",
    "hydra", "katana", "kube-bench", "metasploit", "nmap", "nuclei", "osv-scanner", "prowler",
    "retire", "schemathesis", "semgrep", "sqlmap", "sslyze", "subfinder", "syft", "trivy",
    "trufflehog"]

/-- `_ENGINE_TOOL_IDS`. -/
def engineToolIds : List (String × List String) :=
  [("network", ["amass", "httpx", "metasploit", "nmap", "sslyze", "subfinder"]),
    ("web_dast", ["ffuf", "katana", "nuclei", "schemathesis", "sqlmap"]),
    ("code_sast", ["bandit", "gitleaks", "grype", "osv-scanner", "retire", "semgrep", "syft",
      "trivy", "trufflehog"]),
    ("infra_iac", ["checkov", "dockle", "gtfobins", "kube-bench", "prowler", "trivy"]),
    ("manual", ["hydra"])]

/-- One operation policy row. -/
structure OperationPolicy where
  toolId : String
  engineId : String
  operationFamily : String
  requiredOptions : List (String × Json)
  capabilityState : String
  approvalLevel : String
  resourceBudget : List (String × Int)
  accountImpactBudget : List (String × Int)
  credentialScope : List (String × String)
  credentialRequirements : String

/-- The engine's own family, as the manifest and the policy name it. -/
def assessmentFamily (engineId : String) : String := engineId ++ "_assessment"

/-- `_policy_row`. -/
def policyRow (toolId engineId : String) : OperationPolicy where
  toolId := toolId
  engineId := engineId
  operationFamily :=
    if toolId = "prowler" then "cloud_audit"
    else if toolId = "hydra" then "manual_authentication"
    else assessmentFamily engineId
  requiredOptions :=
    if toolId = "prowler" then
      [("provider", .str "aws"), ("output_format", .str "json-asff"), ("quiet", .bool true)]
    else []
  capabilityState :=
    if toolId = "gtfobins" then "NATIVE"
    else if toolId = "hydra" then "DEFERRED"
    else "AVAILABLE"
  approvalLevel := "ADMINISTRATOR_APPROVAL_REQUIRED"
  resourceBudget := [("timeout_seconds", 300), ("max_output_bytes", 10485760)]
  accountImpactBudget := [("max_operations", 1)]
  credentialScope := if toolId = "prowler" then [("provider", "aws")] else []
  credentialRequirements :=
    if toolId = "prowler" then "typed tenant-scoped credential envelope"
    else "no credential material"

/-- `_POLICY_RECORDS`. -/
def policyRecords : List OperationPolicy :=
  engineToolIds.flatMap fun e => e.2.map fun tool => policyRow tool e.1

/-- `get_operation_policy`. -/
def getOperationPolicy (toolId operationFamily : String) : Option OperationPolicy :=
  policyRecords.find? fun row => row.toolId = toolId && row.operationFamily = operationFamily

/-- A row is found under its own names. -/
theorem getOperationPolicy_names {toolId family : String} {row : OperationPolicy}
    (h : getOperationPolicy toolId family = some row) :
    row.toolId = toolId ∧ row.operationFamily = family := by
  have := List.find?_some h
  simpa using this

/-- A row's family is a name of its own, or its engine's. -/
theorem policyRow_family (toolId engineId : String) :
    (policyRow toolId engineId).operationFamily = "cloud_audit" ∨
      (policyRow toolId engineId).operationFamily = "manual_authentication" ∨
      (policyRow toolId engineId).operationFamily = assessmentFamily engineId := by
  unfold policyRow
  split
  · exact .inl rfl
  · split
    · exact .inr (.inl rfl)
    · exact .inr (.inr rfl)

/-- No row stands for a missing policy. -/
theorem getOperationPolicy_unrepresented (toolId : String) :
    getOperationPolicy toolId "UNREPRESENTED_POLICY" = none := by
  have engines : ∀ e ∈ engineToolIds, assessmentFamily e.1 ≠ "UNREPRESENTED_POLICY" := by decide
  refine List.find?_eq_none.mpr fun row hr => ?_
  obtain ⟨e, he, hr⟩ := List.mem_flatMap.mp hr
  obtain ⟨tool, -, rfl⟩ := List.mem_map.mp hr
  have family : (policyRow tool e.1).operationFamily ≠ "UNREPRESENTED_POLICY" := by
    rcases policyRow_family tool e.1 with h | h | h <;> rw [h]
    · decide
    · decide
    · exact engines e he
  simp [family]

/-- A budget, as a JSON object. -/
def budgetJson (budget : List (String × Int)) : List (String × Json) :=
  budget.map fun p => (p.1, Json.int p.2)

/-- A scope, as a JSON object. -/
def scopeJson (scope : List (String × String)) : List (String × Json) :=
  scope.map fun p => (p.1, Json.str p.2)

/-- A policy row of the document. -/
def OperationPolicy.json (row : OperationPolicy) : Json :=
  .obj
    [("tool_id", .str row.toolId), ("engine_id", .str row.engineId),
      ("operation_family", .str row.operationFamily),
      ("option_or_module_class", .str "canonical_tool_operation"),
      ("required_options", .obj row.requiredOptions),
      ("capability_state", .str row.capabilityState),
      ("default_profile_behavior", .str "EXPLICIT_ADMINISTRATOR_APPROVAL_REQUIRED"),
      ("approval_level", .str row.approvalLevel), ("worker_class", .str "isolated-tool-worker"),
      ("target_rules", .str "gateway-issued target bound to tenant, project, and inventory asset"),
      ("credential_requirements", .str row.credentialRequirements),
      ("resource_budget", .obj (budgetJson row.resourceBudget)),
      ("account_impact_budget", .obj (budgetJson row.accountImpactBudget)),
      ("credential_scope", .obj (scopeJson row.credentialScope)),
      ("stop_conditions",
        .str "authorization revocation, expiry, cancellation, timeout, output limit"),
      ("evidence_requirements", .str "bounded tool output and normalized findings"),
      ("audit_requirements", .str ("tenant, asset, authorization decision, request, policy " ++
        "revision, and worker identity"))]

/-- `OPERATION_POLICY_REVISION`. -/
def operationPolicyRevision (g : Gateway) : String :=
  g.sha256 (Json.obj
    [("schema_version", Json.int 2), ("records", .arr (policyRecords.map (·.json)))]).text

/-- `get_unresolved_tool_state`: the capability state and the reason. -/
def getUnresolvedToolState (toolId : String) : Option (String × String) :=
  if toolId = "hydra" then some ("DEFERRED", "full_capability_automation_deferred") else none

end CyberAssess
