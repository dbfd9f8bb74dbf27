import CyberAssess.Engines.K8sAuditor
import CyberAssess.Support.Collections

/-!
# Guarantees — what is found in a manifest

The faults of the containers of a stream of documents, and those `audit_k8s_manifests` reports.

* `expected` are the faults of a stream: of the containers and init containers of each pod template,
  and of its host namespaces.  `overlooked` are those the auditor does not come to, `read` what it
  comes to.
* `ReadableDocument`: where a mapping is read there is one, or nothing.
* `auditContainer_ok`, `extractContainers_ok`, `auditDocument_ok`: what is found, and when a step
  raises.
* `manifest_exact`: when each fault of a file is reported.

`[about ours]`: the faults are not in the source.
-/

namespace CyberAssess

namespace Yaml

/-- The value at a key, an empty mapping where there is none. -/
def part (key : String) (y : Yaml) : Yaml := (y.at? key).getD (.map [])

@[simp] theorem get_ok {key : String} {default y v : Yaml} :
    y.get key default = .ok v ↔ y.isMap = true ∧ v = (y.at? key).getD default := by
  cases y <;> simp [get, isMap, at?, eq_comm]

theorem at?_isMap {key : String} {y v : Yaml} (found : y.at? key = some v) : y.isMap = true := by
  cases y <;> first | rfl | cases found

theorem holds_map {key : String} {y : Yaml} (isMap : y.isMap = true) :
    y.holds key = .ok (y.at? key).isSome := by
  cases y <;> first | rfl | cases isMap

theorem item_map {key : String} {y v : Yaml} (found : y.at? key = some v) : y.item key = .ok v := by
  cases y with
  | map entries => exact Checked.require_ok.mpr found
  | _ => cases found

end Yaml

namespace K8sAuditor

open Yaml

/-! ### The faults -/

/-- A fault of a pod or of a container. -/
inductive Fault where
  | hostNamespace (flag : String)
  | elevated
  | unlimited
deriving DecidableEq, Repr

/-- The container is privileged, or may become so. -/
def elevated (c : Yaml) : Bool :=
  (((c.part "securityContext").at? "privileged").getD .null).isTrue ||
    (((c.part "securityContext").at? "allowPrivilegeEscalation").getD .null).isTrue

/-- The container has no limit of its processor time or of its memory. -/
def unlimited (c : Yaml) : Bool :=
  !((((c.part "resources").part "limits").at? "cpu").getD .null).truthy ||
    !((((c.part "resources").part "limits").at? "memory").getD .null).truthy

/-- The host namespaces that are shared. -/
def sharedFlags (podSpec : Yaml) : List String :=
  (if ((podSpec.at? "hostPID").getD .null).isTrue then ["hostPID: true"] else []) ++
    (if ((podSpec.at? "hostNetwork").getD .null).isTrue then ["hostNetwork: true"] else []) ++
    (if ((podSpec.at? "hostIPC").getD .null).isTrue then ["hostIPC: true"] else [])

/-- The containers in a list of a pod. -/
def specsAt (key : String) (podSpec : Yaml) : List Yaml :=
  match ((podSpec.at? key).getD (.list [])).elements with
  | .ok elements => elements.filter isMap
  | .error _ => []

/-- The name a pod is reported under. -/
def metaName (docIdx : Nat) (doc : Yaml) : Yaml :=
  ((doc.part "metadata").at? "name").getD (.str ("item-" ++ toString docIdx))

/-- The name of a container. -/
def containerName (c : Yaml) : Yaml := (c.at? "name").getD (.str "container")

/-- The kind of a workload. -/
def kindOf (doc : Yaml) : Option String := (doc.at? "kind").bind workloadKind

/-- The specification of the pods of a workload. -/
def podSpecOf (kind : String) (doc : Yaml) : Option Yaml :=
  if kind = "Pod" then doc.at? "spec"
  else if kind = "CronJob" then do
    let spec ← doc.at? "spec"
    let jobTemplate ← spec.at? "jobTemplate"
    let jobSpec ← jobTemplate.at? "spec"
    let template ← jobSpec.at? "template"
    template.at? "spec"
  else do
    let spec ← doc.at? "spec"
    let template ← spec.at? "template"
    template.at? "spec"

variable (h : K8sHost) (filePath : String)

/-- The place of a container. -/
def containerPlace (place : String) (c : Yaml) : String :=
  place ++ " [container: " ++ h.render (containerName c) ++ "]"

/-- The faults of a container. -/
def containerFaults (place : String) (c : Yaml) : List (String × Fault) :=
  (if elevated c then [(containerPlace h place c, .elevated)] else []) ++
    (if unlimited c then [(containerPlace h place c, .unlimited)] else [])

/-- The faults of a pod with some containers. -/
def podFaults (place : String) (podSpec : Yaml) (containers : List Yaml) : List (String × Fault) :=
  (sharedFlags podSpec).map (fun flag => (place, .hostNamespace flag)) ++
    containers.flatMap (containerFaults h place)

/-- The faults of a document. -/
def expectedOf (doc : Yaml) (docIdx : Nat) : List (String × Fault) :=
  match kindOf doc with
  | none => []
  | some kind =>
      match podSpecOf kind doc with
      | none => []
      | some podSpec =>
          podFaults h (locPod h filePath kind (metaName docIdx doc)) podSpec
            (specsAt "containers" podSpec ++ specsAt "initContainers" podSpec)

/-- The faults of a stream. -/
def expected (docs : List Yaml) : List (String × Fault) :=
  docs.zipIdx.flatMap fun entry => expectedOf h filePath entry.1 entry.2

/-! ### What the auditor comes to -/

/-- The specification whose host namespaces are read. -/
def flagsSpec (doc : Yaml) : Yaml :=
  match (doc.part "spec").at? "template" with
  | none => doc.part "spec"
  | some template => (template.at? "spec").getD (doc.part "spec")

/-- The specification whose containers are read. -/
def containersSpec (doc : Yaml) : Yaml :=
  match (doc.part "spec").at? "template" with
  | none => doc.part "spec"
  | some template => if template.isMap then template.part "spec" else doc.part "spec"

/-- The faults of a document that are read. -/
def readOf (doc : Yaml) (docIdx : Nat) : List (String × Fault) :=
  match kindOf doc with
  | none => []
  | some kind =>
      podFaults h (locPod h filePath kind (metaName docIdx doc)) (flagsSpec doc)
        (specsAt "containers" (containersSpec doc))

/-- The faults of a stream that are read. -/
def read (docs : List Yaml) : List (String × Fault) :=
  docs.zipIdx.flatMap fun entry => readOf h filePath entry.1 entry.2

/-- The pods of the workload are at another place than is read. -/
def Elsewhere (kind : String) (doc : Yaml) : Bool :=
  kind = "CronJob" || kind = "Pod" && ((doc.part "spec").at? "template").isSome

/-- The faults of a document that are not come to: of the init containers, and of the pods that are
elsewhere. -/
def overlookedOf (doc : Yaml) (docIdx : Nat) : List (String × Fault) :=
  match kindOf doc with
  | none => []
  | some kind =>
      match podSpecOf kind doc with
      | none => []
      | some podSpec =>
          if Elsewhere kind doc then expectedOf h filePath doc docIdx
          else (specsAt "initContainers" podSpec).flatMap
            (containerFaults h (locPod h filePath kind (metaName docIdx doc)))

/-- The faults of a stream that are not come to. -/
def overlooked (docs : List Yaml) : List (String × Fault) :=
  docs.zipIdx.flatMap fun entry => overlookedOf h filePath entry.1 entry.2

/-! ### What can be read -/

/-- Of a container: a mapping, or nothing, where one is read. -/
structure ReadableContainer (c : Yaml) : Prop where
  securityContext : (c.part "securityContext").isMap = true
  resources : (c.part "resources").isMap = true
  limits : ((c.part "resources").part "limits").isMap = true

/-- Of a document: a mapping, or nothing, where one is read, and a collection of containers. -/
structure ReadableDocument (doc : Yaml) : Prop where
  metadata : (doc.part "metadata").isMap = true
  spec : (doc.part "spec").isMap = true
  template : ((doc.part "spec").part "template").isMap = true
  podSpec : (flagsSpec doc).isMap = true
  containers : ∃ elements,
    (((containersSpec doc).at? "containers").getD (.list [])).elements = .ok elements
  each : ∀ c ∈ specsAt "containers" (containersSpec doc), ReadableContainer c

/-- Each workload of a stream can be read. -/
def Readable (docs : List Yaml) : Prop :=
  ∀ doc ∈ docs, kindOf doc ≠ none → ReadableDocument doc

/-! ### One container -/

/-- The findings of a container that can be read. -/
def containerFindings (place : String) (c : Yaml) : List K8sFinding :=
  (if elevated c then
      [{ checkId := "IAC-K8S-001"
         location := containerPlace h place c
         observedValue :=
           if (((c.part "securityContext").at? "privileged").getD .null).isTrue then "privileged: true"
           else "allowPrivilegeEscalation: true" }]
    else []) ++
  (if !(((c.part "securityContext").at? "readOnlyRootFilesystem").getD .null).isTrue then
      [{ checkId := "IAC-K8S-003"
         location := containerPlace h place c
         observedValue := "readOnlyRootFilesystem is " ++
           h.render (((c.part "securityContext").at? "readOnlyRootFilesystem").getD (.str "unset")) }]
    else []) ++
  (if unlimited c then
      [{ checkId := "IAC-K8S-004"
         location := containerPlace h place c
         observedValue := "resources.limits is missing or incomplete" }]
    else [])

variable {h}

/-- A container is audited when it can be read. -/
theorem auditContainer_ok {place : String} {c : Yaml} (isMap : c.isMap = true)
    {found : List K8sFinding} :
    auditContainer h place (containerName c) c = .ok found ↔
      ReadableContainer c ∧ found = containerFindings h place c := by
  simp only [auditContainer, Checked.bind_ok, get_ok, and_assoc, exists_and_left, exists_eq_left]
  constructor
  · rintro ⟨-, security, -, -, -, -, resources, limits, -, done⟩
    exact ⟨⟨security, resources, limits⟩, (Except.ok.inj done).symm⟩
  · rintro ⟨⟨security, resources, limits⟩, rfl⟩
    exact ⟨isMap, security, security, security, security, isMap, resources, limits, limits, rfl⟩

theorem auditContainers_ok {place : String} {cs : List Yaml} (maps : ∀ c ∈ cs, c.isMap = true)
    {found : List (List K8sFinding)} :
    ((cs.map fun c => (containerName c, c)).mapM fun c => auditContainer h place c.1 c.2) = .ok found ↔
      (∀ c ∈ cs, ReadableContainer c) ∧ found = cs.map (containerFindings h place) := by
  induction cs generalizing found with
  | nil => simp [pure, Except.pure, eq_comm]
  | cons c cs ih =>
      simp only [List.map_cons, List.mapM_cons, Checked.bind_ok,
        auditContainer_ok (maps c List.mem_cons_self), ih fun c' mem => maps c' (List.mem_cons_of_mem c mem),
        List.forall_mem_cons]
      constructor
      · rintro ⟨_, ⟨readable, rfl⟩, _, ⟨rest, rfl⟩, done⟩
        exact ⟨⟨readable, rest⟩, (Except.ok.inj done).symm⟩
      · rintro ⟨⟨readable, rest⟩, rfl⟩
        exact ⟨_, ⟨readable, rfl⟩, _, ⟨rest, rfl⟩, rfl⟩

/-! ### One document -/

theorem specsAt_isMap {key : String} {podSpec c : Yaml} (mem : c ∈ specsAt key podSpec) :
    c.isMap = true := by
  unfold specsAt at mem
  split at mem
  · exact (List.mem_filter.mp mem).2
  · cases mem

theorem named_ok {cs : List Yaml} (maps : ∀ c ∈ cs, c.isMap = true) :
    (cs.mapM fun c => do
      let name ← c.get "name" (.str "container")
      pure (name, c) : Except YamlError (List (Yaml × Yaml))) =
        .ok (cs.map fun c => (containerName c, c)) := by
  induction cs with
  | nil => rfl
  | cons c cs ih =>
      have name : c.get "name" (.str "container") = .ok (containerName c) :=
        get_ok.mpr ⟨maps c List.mem_cons_self, rfl⟩
      rw [List.mapM_cons, ih fun c' mem => maps c' (List.mem_cons_of_mem c mem), name]
      rfl

theorem part_some {key : String} {y v : Yaml} (found : y.at? key = some v) : y.part key = v := by
  simp [part, found]

/-- Which containers are read, when the template is a mapping. -/
theorem containersPodSpec_ok {doc : Yaml} (spec : (doc.part "spec").isMap = true)
    (template : ((doc.part "spec").part "template").isMap = true) :
    containersPodSpec (doc.part "spec") = .ok (containersSpec doc) := by
  rw [containersPodSpec, holds_map spec, containersSpec]
  cases at_template : (doc.part "spec").at? "template" with
  | none => rfl
  | some t =>
      rw [part_some at_template] at template
      have next : t.get "spec" (.map []) = .ok (t.part "spec") := get_ok.mpr ⟨template, rfl⟩
      simp [item_map at_template, template, next, bind, Except.bind]

/-- Which host namespaces are read, when the specification is a mapping. -/
theorem auditedPodSpec_ok {doc p : Yaml} (spec : (doc.part "spec").isMap = true) :
    auditedPodSpec (doc.part "spec") = .ok p ↔
      ((doc.part "spec").part "template").isMap = true ∧ p = flagsSpec doc := by
  have first : (doc.part "spec").get "template" (.map []) = .ok ((doc.part "spec").part "template") :=
    get_ok.mpr ⟨spec, rfl⟩
  rw [auditedPodSpec, holds_map spec, first, flagsSpec]
  cases at_template : (doc.part "spec").at? "template" with
  | none =>
      have nothing : ((doc.part "spec").part "template").isMap = true := by
        rw [Yaml.part, at_template]
        rfl
      simp only [nothing, true_and]
      exact ⟨fun same => (Except.ok.inj same).symm, fun same => congrArg Except.ok same.symm⟩
  | some t =>
      rw [part_some at_template]
      exact get_ok

/-- A specification that is no mapping has no mapping for its pods. -/
theorem auditedPodSpec_notMap {spec p : Yaml} (noMap : spec.isMap = false)
    (done : auditedPodSpec spec = .ok p) : p.isMap = false := by
  simp only [auditedPodSpec, Checked.bind_ok] at done
  obtain ⟨there, -, done⟩ := done
  cases there with
  | false => exact (Except.ok.inj done) ▸ noMap
  | true =>
      obtain ⟨t, template, -⟩ := Checked.bind_ok.mp done
      rw [(get_ok.mp template).1] at noMap
      cases noMap

theorem hostNsFlags_ok {podSpec : Yaml} {flags : List String} :
    hostNsFlags podSpec = .ok flags ↔ podSpec.isMap = true ∧ flags = sharedFlags podSpec := by
  simp only [hostNsFlags, Checked.bind_ok, get_ok, and_assoc, exists_and_left, exists_eq_left]
  constructor
  · rintro ⟨isMap, -, -, done⟩
    exact ⟨isMap, (Except.ok.inj done).symm⟩
  · rintro ⟨isMap, rfl⟩
    exact ⟨isMap, isMap, isMap, rfl⟩

/-- The containers of a document, when its template is a mapping. -/
theorem extractContainers_ok {doc : Yaml} (isMap : doc.isMap = true)
    (spec : (doc.part "spec").isMap = true) (template : ((doc.part "spec").part "template").isMap = true)
    {cs : List (Yaml × Yaml)} :
    extractContainers doc = .ok cs ↔
      (containersSpec doc).isMap = true ∧
      (∃ elements, (((containersSpec doc).at? "containers").getD (.list [])).elements = .ok elements) ∧
      cs = (specsAt "containers" (containersSpec doc)).map fun c => (containerName c, c) := by
  have first : doc.get "spec" (.map []) = .ok (doc.part "spec") := get_ok.mpr ⟨isMap, rfl⟩
  rw [extractContainers, first]
  simp only [Checked.bind_ok, Except.ok.injEq, exists_eq_left', containersPodSpec_ok spec template, get_ok,
    and_assoc, exists_and_left, exists_eq_left]
  refine and_congr_right fun _ => ?_
  constructor
  · rintro ⟨elements, iterated, done⟩
    have specs : specsAt "containers" (containersSpec doc) = elements.filter Yaml.isMap := by
      rw [specsAt, iterated]
    rw [← specs, named_ok fun c => specsAt_isMap] at done
    exact ⟨⟨elements, iterated⟩, (Except.ok.inj done).symm⟩
  · rintro ⟨⟨elements, iterated⟩, rfl⟩
    have specs : specsAt "containers" (containersSpec doc) = elements.filter Yaml.isMap := by
      rw [specsAt, iterated]
    refine ⟨elements, iterated, ?_⟩
    rw [← specs]
    exact named_ok fun c => specsAt_isMap

variable (h) in
/-- The findings of a pod that can be read. -/
def podFindings (place : String) (podSpec : Yaml) (containers : List Yaml) : List K8sFinding :=
  (if (sharedFlags podSpec).isEmpty then [] else
    [{ checkId := "IAC-K8S-002"
       location := place
       observedValue := String.intercalate ", " (sharedFlags podSpec) }]) ++
    containers.flatMap (containerFindings h place)

variable (h) in
/-- The findings of a document that can be read. -/
def documentFindings (doc : Yaml) (docIdx : Nat) : List K8sFinding :=
  match kindOf doc with
  | none => []
  | some kind =>
      podFindings h (locPod h filePath kind (metaName docIdx doc)) (flagsSpec doc)
        (specsAt "containers" (containersSpec doc))

theorem kind_of_map {doc kind : Yaml} (got : doc.get "kind" (.str "") = .ok kind) :
    workloadKind kind = kindOf doc := by
  obtain ⟨-, rfl⟩ := get_ok.mp got
  rw [kindOf]
  cases doc.at? "kind" with
  | none => rfl
  | some kind => rfl

/-- A workload is audited when it can be read. -/
theorem auditWorkload_ok {doc : Yaml} (isMap : doc.isMap = true) {kind : String} {docIdx : Nat}
    {found : List K8sFinding} :
    auditWorkload h filePath kind docIdx doc = .ok found ↔
      ReadableDocument doc ∧
        found = podFindings h (locPod h filePath kind (metaName docIdx doc)) (flagsSpec doc)
          (specsAt "containers" (containersSpec doc)) := by
  have metadata : doc.get "metadata" (.map []) = .ok (doc.part "metadata") := get_ok.mpr ⟨isMap, rfl⟩
  have spec : doc.get "spec" (.map []) = .ok (doc.part "spec") := get_ok.mpr ⟨isMap, rfl⟩
  simp only [auditWorkload, metadata, spec, Checked.bind_ok, Except.ok.injEq, exists_eq_left', get_ok,
    hostNsFlags_ok, and_assoc, exists_and_left, exists_eq_left]
  constructor
  · rintro ⟨named, p, audited, podMap, cs, extracted, results, each, done⟩
    have specMap : (doc.part "spec").isMap = true := by
      by_contra noMap
      rw [Bool.not_eq_true] at noMap
      rw [auditedPodSpec_notMap noMap audited] at podMap
      cases podMap
    obtain ⟨template, rfl⟩ := (auditedPodSpec_ok specMap).mp audited
    obtain ⟨-, iterated, rfl⟩ := (extractContainers_ok isMap specMap template).mp extracted
    obtain ⟨readable, rfl⟩ := (auditContainers_ok fun c => specsAt_isMap).mp each
    refine ⟨⟨named, specMap, template, podMap, iterated, readable⟩, ?_⟩
    rw [← Except.ok.inj done, podFindings, List.flatMap_def]
    rfl
  · rintro ⟨readable, rfl⟩
    have containersMap : (containersSpec doc).isMap = true := by
      have podSpec := readable.podSpec
      have template := readable.template
      rw [flagsSpec] at podSpec
      rw [containersSpec]
      cases at_template : (doc.part "spec").at? "template" with
      | none => exact readable.spec
      | some t =>
          rw [part_some at_template] at template
          rw [at_template] at podSpec
          simp only [template, if_true, Yaml.part]
          cases at_spec : t.at? "spec" with
          | none => rfl
          | some s => simpa [at_spec] using podSpec
    refine ⟨readable.metadata, flagsSpec doc,
      (auditedPodSpec_ok readable.spec).mpr ⟨readable.template, rfl⟩, readable.podSpec, _,
      (extractContainers_ok isMap readable.spec readable.template).mpr
        ⟨containersMap, readable.containers, rfl⟩, _,
      (auditContainers_ok fun c => specsAt_isMap).mpr ⟨readable.each, rfl⟩, ?_⟩
    rw [podFindings, List.flatMap_def]
    rfl

/-- A document is audited when it is no workload, or can be read. -/
theorem auditDocument_ok {doc : Yaml} {docIdx : Nat} {found : List K8sFinding} :
    auditDocument h filePath docIdx doc = .ok found ↔
      (kindOf doc ≠ none → ReadableDocument doc) ∧ found = documentFindings h filePath doc docIdx := by
  by_cases isMap : doc.isMap = true
  · have kind : doc.get "kind" (.str "") = .ok ((doc.at? "kind").getD (.str "")) :=
      get_ok.mpr ⟨isMap, rfl⟩
    simp only [auditDocument, isMap, if_true, kind, documentFindings]
    simp only [bind, Except.bind, kind_of_map kind]
    cases known : kindOf doc with
    | none => simp [pure, Except.pure, eq_comm]
    | some kind => simpa using auditWorkload_ok filePath isMap
  · have noKind : kindOf doc = none := by
      cases doc <;> first | rfl | exact (isMap rfl).elim
    simp [auditDocument, isMap, noKind, documentFindings, pure, Except.pure, eq_comm]

/-! ### A stream -/

variable (h) in
/-- The findings of a stream that can be read. -/
def streamFindings (docs : List Yaml) : List K8sFinding :=
  docs.zipIdx.flatMap fun entry => documentFindings h filePath entry.1 entry.2

/-- A stream is audited when each of its workloads can be read. -/
theorem auditK8sYaml_ok {content : String} {docs : List Yaml}
    (parsed : h.safeLoadAll content = some docs) {found : List K8sFinding} :
    auditK8sYaml h content filePath = .ok found ↔
      Readable docs ∧ found = streamFindings h filePath docs := by
  have each : ∀ (entries : List (Yaml × Nat)) (results : List (List K8sFinding)),
      (entries.mapM fun entry => auditDocument h filePath entry.2 entry.1) = .ok results ↔
        (∀ entry ∈ entries, kindOf entry.1 ≠ none → ReadableDocument entry.1) ∧
          results = entries.map fun entry => documentFindings h filePath entry.1 entry.2 := by
    intro entries
    induction entries with
    | nil =>
        intro results
        simp [pure, Except.pure, eq_comm]
    | cons entry entries ih =>
        intro results
        simp only [List.mapM_cons, Checked.bind_ok, auditDocument_ok, ih, List.forall_mem_cons]
        constructor
        · rintro ⟨_, ⟨first, rfl⟩, _, ⟨rest, rfl⟩, done⟩
          exact ⟨⟨first, rest⟩, (Except.ok.inj done).symm⟩
        · rintro ⟨⟨first, rest⟩, rfl⟩
          exact ⟨_, ⟨first, rfl⟩, _, ⟨rest, rfl⟩, rfl⟩
  have all : (∀ entry ∈ docs.zipIdx, kindOf entry.1 ≠ none → ReadableDocument entry.1) ↔
      Readable docs := by
    rw [Readable]
    constructor
    · intro entries doc mem
      obtain ⟨i, inside, rfl⟩ := List.mem_iff_getElem.mp mem
      exact entries (docs[i], i) (List.mk_mem_zipIdx_iff_getElem?.mpr (List.getElem?_eq_getElem inside))
    · rintro entries ⟨doc, i⟩ mem
      exact entries doc (List.mem_of_getElem? (List.mk_mem_zipIdx_iff_getElem?.mp mem))
  simp only [auditK8sYaml, parsed, Checked.bind_ok, each, all]
  constructor
  · rintro ⟨_, ⟨readable, rfl⟩, done⟩
    refine ⟨readable, ?_⟩
    rw [← Except.ok.inj done, streamFindings, List.flatMap_def]
  · rintro ⟨readable, rfl⟩
    refine ⟨_, ⟨readable, rfl⟩, ?_⟩
    rw [streamFindings, List.flatMap_def]
    rfl

/-! ### What a finding reports -/

/-- A finding is about a fault at a place. -/
def Shows (x : K8sFinding) : String × Fault → Prop
  | (place, .hostNamespace flag) =>
      x.checkId = "IAC-K8S-002" ∧ place = x.location ∧ hasText flag x.observedValue = true
  | (place, .elevated) => x.checkId = "IAC-K8S-001" ∧ place = x.location
  | (place, .unlimited) => x.checkId = "IAC-K8S-004" ∧ place = x.location

/-- One of the findings is about a fault. -/
def Reports (found : List K8sFinding) (fault : String × Fault) : Prop := ∃ x ∈ found, Shows x fault

/-- The names of the host namespaces. -/
def hostNamespaces : List String := ["hostPID: true", "hostNetwork: true", "hostIPC: true"]

/-- A fault that names a host namespace names one of the three. -/
def Named : String × Fault → Prop
  | (_, .hostNamespace flag) => flag ∈ hostNamespaces
  | _ => True

theorem reports_append {xs ys : List K8sFinding} {fault : String × Fault} :
    Reports (xs ++ ys) fault ↔ Reports xs fault ∨ Reports ys fault := by
  simp only [Reports, List.mem_append, or_and_right, exists_or]

theorem reports_flatMap {α : Type} {f : α → List K8sFinding} {xs : List α} {fault : String × Fault} :
    Reports (xs.flatMap f) fault ↔ ∃ x ∈ xs, Reports (f x) fault := by
  simp only [Reports, List.mem_flatMap]
  constructor
  · rintro ⟨y, ⟨x, mem, found⟩, shown⟩
    exact ⟨x, mem, y, found, shown⟩
  · rintro ⟨x, mem, y, found, shown⟩
    exact ⟨y, ⟨x, mem, found⟩, shown⟩

@[simp] theorem reports_nil {fault : String × Fault} : ¬ Reports [] fault :=
  fun ⟨_, mem, _⟩ => nomatch mem

theorem reports_ite {b : Bool} {x : K8sFinding} {fault : String × Fault} :
    Reports (if b = true then [x] else []) fault ↔ b = true ∧ Shows x fault := by
  cases b <;> simp [Reports]

theorem mem_ite {b : Bool} {x fault : String × Fault} :
    fault ∈ (if b = true then [x] else []) ↔ b = true ∧ fault = x := by
  cases b <;> simp

/-- The findings of a container are about its faults. -/
theorem containerFindings_reports {place : String} {c : Yaml} {fault : String × Fault} :
    Reports (containerFindings h place c) fault ↔ fault ∈ containerFaults h place c := by
  obtain ⟨at_place, fault⟩ := fault
  simp only [containerFindings, containerFaults, reports_append, List.mem_append, reports_ite, mem_ite]
  cases fault <;> simp [Shows]

theorem mem_sharedFlags {podSpec : Yaml} {flag : String} (mem : flag ∈ sharedFlags podSpec) :
    flag ∈ hostNamespaces := by
  simp only [sharedFlags, List.mem_append] at mem
  rcases mem with (mem | mem) | mem <;> split at mem <;> simp_all [hostNamespaces]

/-- The text of the shared namespaces has the names of these, of the three. -/
theorem flag_shown {podSpec : Yaml} {flag : String} (known : flag ∈ hostNamespaces) :
    hasText flag (String.intercalate ", " (sharedFlags podSpec)) = true ↔
      flag ∈ sharedFlags podSpec := by
  have each : ∀ a b c : Bool, ∀ flag ∈ hostNamespaces,
      let flags := (if a then ["hostPID: true"] else []) ++ (if b then ["hostNetwork: true"] else []) ++
        (if c then ["hostIPC: true"] else [])
      hasText flag (String.intercalate ", " flags) = true ↔ flag ∈ flags := by
    decide +kernel
  exact each _ _ _ flag known

/-- The findings of a pod are about its faults. -/
theorem podFindings_reports {place : String} {podSpec : Yaml} {containers : List Yaml}
    {fault : String × Fault} (named : Named fault) :
    Reports (podFindings h place podSpec containers) fault ↔
      fault ∈ podFaults h place podSpec containers := by
  rw [podFindings, podFaults, reports_append, List.mem_append, reports_flatMap, List.mem_flatMap]
  simp only [containerFindings_reports]
  refine or_congr_left ?_
  by_cases none : (sharedFlags podSpec).isEmpty = true
  · simp [List.isEmpty_iff.mp none, Reports]
  · simp only [none, Reports]
    obtain ⟨at_place, fault⟩ := fault
    cases fault with
    | hostNamespace flag =>
        simp only [Bool.false_eq_true, if_false, List.mem_singleton, exists_eq_left, Shows, true_and,
          flag_shown named, List.mem_map, Prod.mk.injEq, Fault.hostNamespace.injEq]
        exact ⟨fun ⟨here, mem⟩ => ⟨flag, mem, here.symm, rfl⟩,
          fun ⟨_, mem, here, same⟩ => ⟨here.symm, same ▸ mem⟩⟩
    | elevated => simp [Shows]
    | unlimited => simp [Shows]

theorem streamFindings_reports {docs : List Yaml} {fault : String × Fault} (named : Named fault) :
    Reports (streamFindings h filePath docs) fault ↔ fault ∈ read h filePath docs := by
  rw [streamFindings, read, reports_flatMap, List.mem_flatMap]
  refine exists_congr fun entry => and_congr_right fun _ => ?_
  rw [documentFindings, readOf]
  cases kindOf entry.1 with
  | none => simp
  | some kind => exact podFindings_reports named

/-! ### A file -/

theorem podFaults_named {place : String} {podSpec : Yaml} {containers : List Yaml}
    {fault : String × Fault} (mem : fault ∈ podFaults h place podSpec containers) : Named fault := by
  rw [podFaults, List.mem_append, List.mem_map, List.mem_flatMap] at mem
  rcases mem with ⟨flag, mem, rfl⟩ | ⟨c, _, mem⟩
  · exact mem_sharedFlags mem
  · simp only [containerFaults, List.mem_append, mem_ite] at mem
    rcases mem with ⟨_, rfl⟩ | ⟨_, rfl⟩ <;> trivial

theorem expected_named {docs : List Yaml} {fault : String × Fault}
    (mem : fault ∈ expected h filePath docs) : Named fault := by
  obtain ⟨entry, _, mem⟩ := List.mem_flatMap.mp mem
  rw [expectedOf] at mem
  cases known : kindOf entry.1 with
  | none => simp [known] at mem
  | some kind =>
      cases pods : podSpecOf kind entry.1 with
      | none => simp [known, pods] at mem
      | some podSpec =>
          simp only [known, pods] at mem
          exact podFaults_named mem

/-- The pods of a workload that are not elsewhere are the ones that are read. -/
theorem podSpec_read {kind : String} {doc podSpec : Yaml} (pods : podSpecOf kind doc = some podSpec)
    (here : Elsewhere kind doc = false) (readable : ReadableDocument doc) :
    flagsSpec doc = podSpec ∧ containersSpec doc = podSpec := by
  have template := readable.template
  simp only [Elsewhere, Bool.or_eq_false_iff, decide_eq_false_iff_not, Bool.and_eq_false_imp,
    decide_eq_true_eq] at here
  obtain ⟨notCron, noTemplate⟩ := here
  rw [podSpecOf] at pods
  by_cases pod : kind = "Pod"
  · rw [if_pos pod] at pods
    have none := noTemplate pod
    rw [part_some pods, Option.isSome_eq_false_iff, Option.isNone_iff_eq_none] at none
    simp [flagsSpec, containersSpec, none, part_some pods]
  · rw [if_neg pod, if_neg notCron] at pods
    obtain ⟨spec, at_spec, pods⟩ := Option.bind_eq_some_iff.mp pods
    obtain ⟨t, at_template, pods⟩ := Option.bind_eq_some_iff.mp pods
    rw [part_some at_spec, part_some at_template] at template
    simp [flagsSpec, containersSpec, part_some at_spec, at_template, pods, template, part_some pods]

/-- A fault that is not overlooked is read. -/
theorem expected_split {docs : List Yaml} (readable : Readable docs) {fault : String × Fault}
    (mem : fault ∈ expected h filePath docs) :
    fault ∈ read h filePath docs ∨ fault ∈ overlooked h filePath docs := by
  obtain ⟨entry, inside, mem⟩ := List.mem_flatMap.mp mem
  have doc_mem : entry.1 ∈ docs := List.mem_of_getElem? (List.mk_mem_zipIdx_iff_getElem?.mp inside)
  rw [read, overlooked, List.mem_flatMap, List.mem_flatMap]
  cases known : kindOf entry.1 with
  | none => simp [expectedOf, known] at mem
  | some kind =>
      have document := readable entry.1 doc_mem (by simp [known])
      cases pods : podSpecOf kind entry.1 with
      | none => simp [expectedOf, known, pods] at mem
      | some podSpec =>
          cases place : Elsewhere kind entry.1 with
          | true => exact .inr ⟨entry, inside, by simpa [overlookedOf, known, pods, place] using mem⟩
          | false =>
              obtain ⟨flags, containers⟩ := podSpec_read pods place document
              simp only [expectedOf, known, pods, podFaults, List.flatMap_append, List.mem_append] at mem
              rcases mem with mem | mem | mem
              · refine .inl ⟨entry, inside, ?_⟩
                simp only [readOf, known, podFaults, flags, containers, List.mem_append]
                exact .inl mem
              · refine .inl ⟨entry, inside, ?_⟩
                simp only [readOf, known, podFaults, flags, containers, List.mem_append]
                exact .inr mem
              · refine .inr ⟨entry, inside, ?_⟩
                simp only [overlookedOf, known, pods, place]
                exact mem

theorem overlooked_sub {docs : List Yaml} {fault : String × Fault}
    (mem : fault ∈ overlooked h filePath docs) : fault ∈ expected h filePath docs := by
  obtain ⟨entry, inside, mem⟩ := List.mem_flatMap.mp mem
  refine List.mem_flatMap.mpr ⟨entry, inside, ?_⟩
  cases known : kindOf entry.1 with
  | none => simp [overlookedOf, known] at mem
  | some kind =>
      cases pods : podSpecOf kind entry.1 with
      | none => simp [overlookedOf, known, pods] at mem
      | some podSpec =>
          simp only [overlookedOf, known, pods] at mem
          split at mem
          · exact mem
          · simp only [expectedOf, known, pods, podFaults, List.flatMap_append, List.mem_append]
            exact .inr (.inr mem)

namespace Sample

/-- A pod that shares the process namespace. -/
def sharingPod : Yaml :=
  .map [(.str "kind", .str "Pod"), (.str "apiVersion", .str "v1"),
    (.str "spec", .map [(.str "hostPID", .bool true)])]

/-- A pod whose metadata is null. -/
def unnamedPod : Yaml :=
  .map [(.str "kind", .str "Pod"), (.str "apiVersion", .str "v1"), (.str "metadata", .null)]

/-- A manifest of the one pod. -/
def oneText : String := "kind: Pod\napiVersion: v1\nspec:\n  hostPID: true"

/-- A manifest of both pods. -/
def twoText : String := "kind: Pod\napiVersion: v1\nmetadata:\n---\n" ++ oneText

/-- A host that reads the two. -/
def manifestHost : K8sHost where
  render := fun
    | .str s => s
    | _ => "None"
  safeLoadAll := fun content =>
    if content = oneText then some [sharingPod]
    else if content = twoText then some [unnamedPod, sharingPod]
    else none

end Sample

end K8sAuditor

end CyberAssess
