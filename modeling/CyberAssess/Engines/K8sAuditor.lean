import CyberAssess.Findings.Correlator
import CyberAssess.Support.Checked

/-!
# Engines — the Kubernetes manifest auditor

`engines/infra_iac/k8s_manifest_auditor.py`.

* `Yaml` is a document as `yaml.safe_load_all` returns it; `Yaml.get`, `Yaml.item`, `Yaml.holds` and
  `Yaml.elements` are `value.get(key, default)`, `value[key]`, `key in value` and
  `for element in value`, with what they raise.
* `extractContainers`, `auditDocument` and `auditK8sYaml` follow the source.
* `auditManifest` is a file of `audit_k8s_manifests`, under its `except Exception: continue`.

`[about ours]`: of a finding the check, its place and what was observed are kept.
-/

namespace CyberAssess

/-- A value of a YAML document. -/
inductive Yaml where
  | null
  | bool (b : Bool)
  | int (n : Int)
  | float (zero : Bool)
  | date
  | bytes (values : List Nat)
  | str (s : String)
  | list (elements : List Yaml)
  | set (elements : List Yaml)
  | map (entries : List (Yaml × Yaml))

/-- What an operation on a value raises. -/
inductive YamlError where
  | attributeError
  | keyError
  | typeError
deriving DecidableEq, Repr

namespace Yaml

/-- The text the value is, when it is a text. -/
def isStr (s : String) : Yaml → Bool
  | .str t => t = s
  | _ => false

/-- `entries[key]`, when it is there. -/
def lookup (key : String) : List (Yaml × Yaml) → Option Yaml
  | [] => none
  | (k, v) :: entries => if k.isStr key then some v else lookup key entries

/-- The value at a key of a mapping. -/
def at? (key : String) : Yaml → Option Yaml
  | .map entries => lookup key entries
  | _ => none

/-- `isinstance(value, dict)`. -/
def isMap : Yaml → Bool
  | .map _ => true
  | _ => false

/-- `bool(value)`. -/
def truthy : Yaml → Bool
  | .null => false
  | .bool b => b
  | .int n => n ≠ 0
  | .float zero => !zero
  | .date => true
  | .bytes values => !values.isEmpty
  | .str s => s ≠ ""
  | .list elements | .set elements => !elements.isEmpty
  | .map entries => !entries.isEmpty

/-- `value is True`. -/
def isTrue : Yaml → Bool
  | .bool b => b
  | _ => false

/-- `value.get(key, default)`. -/
def get (y : Yaml) (key : String) (default : Yaml) : Except YamlError Yaml :=
  match y with
  | .map entries => .ok ((lookup key entries).getD default)
  | _ => .error .attributeError

/-- `value[key]`. -/
def item (key : String) : Yaml → Except YamlError Yaml
  | .map entries => Checked.require (lookup key entries) .keyError
  | _ => .error .typeError

/-- `key in value`. -/
def holds (key : String) : Yaml → Except YamlError Bool
  | .map entries => .ok (lookup key entries).isSome
  | .list elements | .set elements => .ok (elements.any (isStr key))
  | .str s => .ok (hasText key s)
  | _ => .error .typeError

/-- `for element in value`. -/
def elements : Yaml → Except YamlError (List Yaml)
  | .list elements | .set elements => .ok elements
  | .map entries => .ok (entries.map Prod.fst)
  | .str s => .ok (s.toList.map fun c => .str (String.singleton c))
  | .bytes values => .ok (values.map fun n => .int n)
  | _ => .error .typeError

end Yaml

/-- `str` of a value, and `list(yaml.safe_load_all(content))`: `none` where it raises. -/
structure K8sHost where
  render : Yaml → String
  safeLoadAll : String → Option (List Yaml)

/-- What a finding says of the manifest. -/
structure K8sFinding where
  checkId : String
  location : String
  observedValue : String
deriving DecidableEq, Repr

namespace K8sAuditor

/-- The kinds that are audited. -/
def workloadKinds : List String :=
  ["Pod", "Deployment", "StatefulSet", "DaemonSet", "Job", "CronJob"]

/-- `kind`, when it is one of a workload. -/
def workloadKind : Yaml → Option String
  | .str kind => if kind ∈ workloadKinds then some kind else none
  | _ => none

/-- `pod_spec`, in `extract_containers`. -/
def containersPodSpec (spec : Yaml) : Except YamlError Yaml := do
  if (← spec.holds "template") then
    let template ← spec.item "template"
    if template.isMap then template.get "spec" (.map []) else pure spec
  else pure spec

/-- `extract_containers`: the name and the specification of each container. -/
def extractContainers (doc : Yaml) : Except YamlError (List (Yaml × Yaml)) := do
  let podSpec ← containersPodSpec (← doc.get "spec" (.map []))
  let containers ← (← podSpec.get "containers" (.list [])).elements
  (containers.filter Yaml.isMap).mapM fun c => do
    let name ← c.get "name" (.str "container")
    pure (name, c)

/-- `pod_spec`, in `audit_k8s_yaml`. -/
def auditedPodSpec (spec : Yaml) : Except YamlError Yaml := do
  if (← spec.holds "template") then (← spec.get "template" (.map [])).get "spec" spec else pure spec

/-- `host_ns_flags`. -/
def hostNsFlags (podSpec : Yaml) : Except YamlError (List String) := do
  let pid ← podSpec.get "hostPID" .null
  let network ← podSpec.get "hostNetwork" .null
  let ipc ← podSpec.get "hostIPC" .null
  pure ((if pid.isTrue then ["hostPID: true"] else []) ++
    (if network.isTrue then ["hostNetwork: true"] else []) ++
    (if ipc.isTrue then ["hostIPC: true"] else []))

variable (h : K8sHost)

/-- The findings of one container. -/
def auditContainer (locPod : String) (name spec : Yaml) : Except YamlError (List K8sFinding) := do
  let locC := locPod ++ " [container: " ++ h.render name ++ "]"
  let secCtx ← spec.get "securityContext" (.map [])
  let privileged ← secCtx.get "privileged" .null
  let escalation ← secCtx.get "allowPrivilegeEscalation" .null
  let readOnly ← secCtx.get "readOnlyRootFilesystem" .null
  let shown ← secCtx.get "readOnlyRootFilesystem" (.str "unset")
  let resources ← spec.get "resources" (.map [])
  let limits ← resources.get "limits" (.map [])
  let cpu ← limits.get "cpu" .null
  let memory ← limits.get "memory" .null
  pure ((if privileged.isTrue || escalation.isTrue then
      [{ checkId := "IAC-K8S-001"
         location := locC
         observedValue :=
           if privileged.isTrue then "privileged: true" else "allowPrivilegeEscalation: true" }]
    else []) ++
    (if !readOnly.isTrue then
      [{ checkId := "IAC-K8S-003"
         location := locC
         observedValue := "readOnlyRootFilesystem is " ++ h.render shown }]
    else []) ++
    (if !cpu.truthy || !memory.truthy then
      [{ checkId := "IAC-K8S-004"
         location := locC
         observedValue := "resources.limits is missing or incomplete" }]
    else []))

/-- `loc_pod`. -/
def locPod (filePath kind : String) (metaName : Yaml) : String :=
  filePath ++ " [" ++ kind ++ ": " ++ h.render metaName ++ "]"

/-- The findings of a document of a workload. -/
def auditWorkload (filePath kind : String) (docIdx : Nat) (doc : Yaml) :
    Except YamlError (List K8sFinding) := do
  let metaName ← (← doc.get "metadata" (.map [])).get "name" (.str ("item-" ++ toString docIdx))
  let flags ← hostNsFlags (← auditedPodSpec (← doc.get "spec" (.map [])))
  let containers ← extractContainers doc
  let found ← containers.mapM fun c => auditContainer h (locPod h filePath kind metaName) c.1 c.2
  pure ((if flags.isEmpty then [] else
    [{ checkId := "IAC-K8S-002"
       location := locPod h filePath kind metaName
       observedValue := String.intercalate ", " flags }]) ++ found.flatten)

/-- The findings of one document. -/
def auditDocument (filePath : String) (docIdx : Nat) (doc : Yaml) : Except YamlError (List K8sFinding) :=
  if doc.isMap then do
    match workloadKind (← doc.get "kind" (.str "")) with
    | none => pure []
    | some kind => auditWorkload h filePath kind docIdx doc
  else pure []

/-- `audit_k8s_yaml`. -/
def auditK8sYaml (content filePath : String) : Except YamlError (List K8sFinding) :=
  match h.safeLoadAll content with
  | none => pure []
  | some docs => do
      let found ← docs.zipIdx.mapM fun entry => auditDocument h filePath entry.2 entry.1
      pure found.flatten

/-- A file is read as a manifest. -/
def isManifest (content : String) : Bool := hasText "apiVersion:" content && hasText "kind:" content

/-- What `audit_k8s_manifests` finds in one file. -/
def auditManifest (content filePath : String) : List K8sFinding :=
  if isManifest content then
    match auditK8sYaml h content filePath with
    | .ok found => found
    | .error _ => []
  else []

/-- `audit_k8s_manifests`, of the paths and the texts of the files; `none` where a file cannot be
read. -/
def auditK8sManifests (files : List (String × Option String)) : List K8sFinding :=
  files.flatMap fun file =>
    match file.2 with
    | none => []
    | some content => auditManifest h content file.1

end K8sAuditor

end CyberAssess
