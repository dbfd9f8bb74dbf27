import CyberAssess.Support.Text
import CyberAssess.Support.JsonReader

/-!
# Findings — correlation into canonical findings

`core/correlator.py`: the findings of a scan are put together into clusters, and each cluster becomes
one canonical finding with an occurrence for every finding in it.

* `pairUp` pairs findings of dynamic tests with findings of static analysis; `groupByKey` groups what
  is left.
* `build` makes the canonical finding of a cluster with its occurrences, and starts its SLA clock.
* `correlateFindings` does so for every cluster, in order.

`[about ours]`: the scores are floating point and are left out; nothing modelled reads them. Moments are
counted in microseconds. Each reading of the clock and each identifier is drawn from `Draws`.
-/

namespace CyberAssess

open Python

/-! ### Findings -/

/-- `Severity`. -/
inductive Severity where
  | critical
  | high
  | medium
  | low
  | info
deriving DecidableEq

/-- `Evidence`. -/
structure Evidence where
  location : String
  observedValue : String
  expectedValue : String
  rawResponseSnippet : Option String := none
  requestDetails : Option Value := none
  responseDetails : Option Value := none
  lineNumber : Option Int := none
  columnNumber : Option Int := none

/-- `Finding`. -/
structure Finding where
  id : String
  scanId : String
  organizationId : String := "org-default"
  engine : String
  sourceTool : String := "native"
  checkId : String
  category : String
  title : String
  severity : Severity
  cweId : Option String := none
  owaspCategory : Option String := none
  nistControl : Option String := none
  description : String
  impact : String
  remediation : String
  evidence : Evidence
  reproductionCurl : Option String := none
  taintTrace : Option (List String) := none

/-- `SLAInfo`. -/
structure SlaInfo where
  severity : Severity
  slaDays : Nat
  slaStartedAt : Int
  slaDueAt : Int
  dueDate : Option Int
  slaBreachedAt : Option Int
  isBreached : Bool

/-- `CorrelationType`, of those the correlator gives. -/
inductive CorrelationType where
  | sastDastVerified
  | multiToolConfirmed

/-- `FindingLifecycleStatus`. -/
inductive LifecycleStatus where
  | open
  | acknowledged
  | inProgress
  | fixed
  | verified
  | falsePositive
  | riskAccepted
  | reopened
deriving DecidableEq

/-- `CanonicalFinding`. -/
structure CanonicalFinding where
  id : String
  organizationId : String
  projectId : Option String
  assetId : Option String
  title : String
  category : String
  severity : Severity
  cweId : Option String
  owaspCategory : Option String
  nistControl : Option String
  status : LifecycleStatus
  firstSeen : Int
  lastSeen : Int
  timesObserved : Nat
  sla : Option SlaInfo
  assignedTo : Option String
  contributingTools : List String
  correlationType : Option CorrelationType
  description : String
  impact : String
  remediation : String
  evidenceHash : String

/-- `FindingOccurrence`. -/
structure FindingOccurrence where
  id : String
  organizationId : String
  canonicalFindingId : String
  scanId : String
  assetId : Option String
  sourceTool : String
  checkId : String
  rawEvidence : Evidence
  reproductionCurl : Option String
  taintTrace : Option (List String)
  detectedAt : Int

/-! ### What is taken from outside -/

/-- `str.lower()`, SHA-256 in hexadecimal, and the order of `list(set(…))`. -/
structure CorrelatorHost where
  lower : String → String
  sha256 : String → String
  listOfSet : List String → List String
  sha256_nonempty : ∀ text, sha256 text ≠ ""

/-- The readings of the clock and the identifiers, in the order in which they are drawn: no identifier
is drawn twice. -/
structure Draws where
  clock : Nat → Int
  uuid : Nat → String
  uuid_inj : ∀ m n, uuid m = uuid n → m = n

/-- Draws with a clock: the identifiers are numbers. -/
def Draws.numbered (clock : Nat → Int) : Draws where
  clock := clock
  uuid := toString
  uuid_inj := by
    intro m n same
    rw [← digitsToNat_toString m, ← digitsToNat_toString n]
    exact congrArg digitsToNat same

/-- A computation that draws. -/
abbrev Drawing := StateM Nat

/-- `utc_now()`. -/
def utcNow (d : Draws) : Drawing Int := modifyGet fun n => (d.clock n, n + 1)

/-- `uuid.uuid4().hex[:12]`. -/
def newUuid (d : Draws) : Drawing String := modifyGet fun n => (d.uuid n, n + 1)

/-! ### Texts -/

/-- `needle in text`, on characters. -/
def hasChars (needle : List Char) : List Char → Bool
  | [] => needle.isEmpty
  | c :: cs => needle.isPrefixOf (c :: cs) || hasChars needle cs

/-- `needle in text`. -/
def hasText (needle text : String) : Bool := hasChars needle.toList text.toList

/-- `x or y`, of texts. -/
def orText (x y : Option String) : Option String := if x.any (· ≠ "") then x else y

/-- `calculate_evidence_hash`. -/
def calculateEvidenceHash (h : CorrelatorHost) (location observedValue : String) : String :=
  h.sha256 (strip location ++ ":" ++ strip observedValue)

/-- The evidence hash of a finding. -/
def Finding.evidenceHash (h : CorrelatorHost) (f : Finding) : String :=
  calculateEvidenceHash h f.evidence.location f.evidence.observedValue

/-! ### The SLA -/

/-- `sla_map`. -/
def slaDays : Severity → Nat
  | .critical => 7
  | .high => 14
  | .medium => 30
  | .low => 90
  | .info => 180

/-- `compute_sla_info`. -/
def computeSlaInfo (d : Draws) (severity : Severity) (startedAt : Option Int) : Drawing SlaInfo := do
  let start ← match startedAt with
    | some start => pure start
    | none => utcNow d
  let due := start + slaDays severity * 86400000000
  let now ← utcNow d
  return {
    severity := severity
    slaDays := slaDays severity
    slaStartedAt := start
    slaDueAt := due
    dueDate := some due
    slaBreachedAt := if due < now then some due else none
    isBreached := due < now }

/-! ### Pairs and groups -/

section
variable (h : CorrelatorHost)

/-- `sast_findings`. -/
def isSast (f : Finding) : Bool := f.engine = "code_sast" || hasText "sast" (h.lower f.checkId)

/-- `dast_findings`. -/
def isDast (f : Finding) : Bool :=
  f.engine = "web_dast" || hasText "dast" (h.lower f.checkId) || hasText "nuclei" f.sourceTool

/-- The two have a weakness or a category in common. -/
def sameFlaw (sf df : Finding) : Bool :=
  (match sf.cweId, df.cweId with
    | some s, some d => s ≠ "" && d ≠ "" && s = d
    | _, _ => false) ||
  (sf.category ≠ "" && df.category ≠ "" && h.lower sf.category = h.lower df.category)

/-- The loop over the findings of dynamic tests, with the identifiers it has visited: each is paired
with the first of `sast` that has not been visited. -/
def pairUp (sast : List Finding) : List Finding → List String → List (Finding × Finding)
  | [], _ => []
  | df :: rest, visited =>
      match sast.find? fun sf => !visited.contains sf.id && sameFlaw h sf df with
      | some sf => (df, sf) :: pairUp sast rest (sf.id :: df.id :: visited)
      | none => pairUp sast rest visited

/-- The pairs. -/
def pairs (findings : List Finding) : List (Finding × Finding) :=
  pairUp h (findings.filter (isSast h)) (findings.filter (isDast h)) []

/-- The two findings of each pair. -/
def paired (ps : List (Finding × Finding)) : List Finding := ps.flatMap fun p => [p.1, p.2]

/-- `key`. -/
def groupKey (f : Finding) : String :=
  f.category ++ "|" ++ (orText f.cweId (some f.checkId)).getD "" ++ "|" ++
    h.lower (strip f.evidence.location)

/-- `grouped_by_key.setdefault(key, []).append(f)`. -/
def addToGroup (key : String) (f : Finding) :
    List (String × Finding × List Finding) → List (String × Finding × List Finding)
  | [] => [(key, f, [])]
  | (k, primary, others) :: groups =>
      if k = key then (k, primary, others ++ [f]) :: groups
      else (k, primary, others) :: addToGroup key f groups

/-- `grouped_by_key`: under each key the first finding and the others. -/
def groupByKey (findings : List Finding) : List (String × Finding × List Finding) :=
  findings.foldl (fun groups f => addToGroup (groupKey h f) f groups) []

/-- A pair of a dynamic and a static finding, or a group. -/
inductive Cluster where
  | verified (df sf : Finding)
  | grouped (primary : Finding) (others : List Finding)

/-- The findings of a cluster. -/
def Cluster.members : Cluster → List Finding
  | .verified df sf => [df, sf]
  | .grouped primary others => primary :: others

/-- The finding a cluster takes its evidence hash from. -/
def Cluster.primary : Cluster → Finding
  | .verified df _ => df
  | .grouped primary _ => primary

/-- The findings that are in no pair. -/
def remaining (findings : List Finding) : List Finding :=
  findings.filter fun f => !((paired (pairs h findings)).map (·.id)).contains f.id

/-- The clusters, in the order in which they are found. -/
def clusters (findings : List Finding) : List Cluster :=
  (pairs h findings).map (fun p => .verified p.1 p.2) ++
    (groupByKey h (remaining h findings)).map fun g => .grouped g.2.1 g.2.2

end

/-! ### Canonical findings -/

/-- The arguments of `correlate_findings` beside the findings. -/
structure CorrelationContext where
  assetId : Option String := none
  organizationId : Option String := none
  projectId : Option String := none
  existing : List CanonicalFinding := []

/-- `organization_id or "org-default"`. -/
def CorrelationContext.tenant (c : CorrelationContext) : String :=
  (orText c.organizationId (some "org-default")).getD "org-default"

/-- `existing_by_fp[ev_hash]`: of those with the hash, the last. -/
def CorrelationContext.existingByHash (c : CorrelationContext) (hash : String) :
    Option CanonicalFinding :=
  (c.existing.filter fun e => e.evidenceHash ≠ "" && e.evidenceHash = hash).getLast?

section
variable (h : CorrelatorHost) (d : Draws) (c : CorrelationContext)

/-- `orig_start`: the start of the existing SLA, or now. -/
def originalStart (hash : String) : Drawing Int :=
  match (c.existingByHash hash).bind (·.sla) with
  | some sla => pure sla.slaStartedAt
  | none => utcNow d

/-- `list(dict.fromkeys(…))`. -/
def distinctTools (fs : List Finding) : List String :=
  fs.foldl (fun tools f => if tools.contains f.sourceTool then tools else tools ++ [f.sourceTool]) []

/-- The occurrence of a finding. -/
def occurrenceOf (canonicalId : String) (f : Finding) (reproductionCurl : Option String)
    (taintTrace : Option (List String)) : Drawing FindingOccurrence := do
  let id ← newUuid d
  let now ← utcNow d
  return {
    id := "occ-" ++ id
    organizationId := c.tenant
    canonicalFindingId := canonicalId
    scanId := f.scanId
    assetId := c.assetId
    sourceTool := f.sourceTool
    checkId := f.checkId
    rawEvidence := f.evidence
    reproductionCurl := reproductionCurl
    taintTrace := taintTrace
    detectedAt := now }

/-- What the canonical finding of a pair says. -/
def verifiedFinding (df sf : Finding) (id : String) (start lastSeen : Int) (sla : SlaInfo) :
    CanonicalFinding where
  id := id
  organizationId := c.tenant
  projectId := c.projectId
  assetId := c.assetId
  title := "[DAST + SAST Verified] " ++ df.title
  category := df.category
  severity := df.severity
  cweId := orText df.cweId sf.cweId
  owaspCategory := orText df.owaspCategory sf.owaspCategory
  nistControl := orText df.nistControl sf.nistControl
  status := .open
  firstSeen := start
  lastSeen := lastSeen
  timesObserved := 2
  sla := some sla
  assignedTo := none
  contributingTools := h.listOfSet [df.sourceTool, sf.sourceTool]
  correlationType := some .sastDastVerified
  description := "DAST live probe and SAST static analysis both detected this vulnerability.\n\nDAST: " ++
    df.description ++ "\nSAST: " ++ sf.description
  impact := if df.impact ≠ "" then df.impact else sf.impact
  remediation := "Source flaw detected in code (" ++ sf.checkId ++ ") and live endpoint verified (" ++
    df.checkId ++ "). " ++ df.remediation
  evidenceHash := df.evidenceHash h

/-- What the canonical finding of a group says. -/
def groupedFinding (primary : Finding) (others : List Finding) (id : String)
    (start lastSeen : Int) (sla : SlaInfo) : CanonicalFinding :=
  let tools := distinctTools (primary :: others)
  { id := id
    organizationId := c.tenant
    projectId := c.projectId
    assetId := c.assetId
    title := (if 1 < tools.length then "[" ++ toString tools.length ++ " Tools Confirmed] " else "") ++
      primary.title
    category := primary.category
    severity := primary.severity
    cweId := primary.cweId
    owaspCategory := primary.owaspCategory
    nistControl := primary.nistControl
    status := .open
    firstSeen := start
    lastSeen := lastSeen
    timesObserved := (primary :: others).length
    sla := some sla
    assignedTo := none
    contributingTools := tools
    correlationType := if 1 < tools.length then some .multiToolConfirmed else none
    description := primary.description
    impact := primary.impact
    remediation := primary.remediation
    evidenceHash := primary.evidenceHash h }

/-- What the canonical finding of a cluster says. -/
def Cluster.finding : Cluster → String → Int → Int → SlaInfo → CanonicalFinding
  | .verified df sf => verifiedFinding h c df sf
  | .grouped primary others => groupedFinding h c primary others

/-- The occurrences of a cluster: of a pair each side has what its kind of test knows. -/
def Cluster.occurrences (canonicalId : String) : Cluster → Drawing (List FindingOccurrence)
  | .verified df sf => do
      let dynamic ← occurrenceOf d c canonicalId df df.reproductionCurl none
      let static ← occurrenceOf d c canonicalId sf none sf.taintTrace
      return [dynamic, static]
  | .grouped primary others =>
      (primary :: others).mapM fun f => occurrenceOf d c canonicalId f f.reproductionCurl f.taintTrace

/-- The canonical finding of a cluster, and its occurrences. -/
def build (cluster : Cluster) : Drawing (CanonicalFinding × List FindingOccurrence) := do
  let start ← originalStart d c (cluster.primary.evidenceHash h)
  let lastSeen ← utcNow d
  let sla ← computeSlaInfo d cluster.primary.severity (some start)
  let id ← newUuid d
  let canonical := cluster.finding h c ("cfind-" ++ id) start lastSeen sla
  let occurrences ← cluster.occurrences d c canonical.id
  return (canonical, occurrences)

/-- `correlate_findings`. -/
def correlateFindings (findings : List Finding) :
    Drawing (List CanonicalFinding × List FindingOccurrence) := do
  let built ← (clusters h findings).mapM (build h d c)
  return (built.map (·.1), built.flatMap (·.2))

end

/-! ### What is built -/

/-- What correlation keeps of a finding. -/
def Finding.source (f : Finding) : String × String × String × Evidence :=
  (f.scanId, f.sourceTool, f.checkId, f.evidence)

/-- The same of an occurrence. -/
def FindingOccurrence.source (o : FindingOccurrence) : String × String × String × Evidence :=
  (o.scanId, o.sourceTool, o.checkId, o.rawEvidence)

/-- Computations in a row: each starts where the one before has stopped drawing. -/
inductive Drawn {α β : Type} (P : α → Nat → β → Nat → Prop) :
    List α → Nat → List β → Nat → Prop where
  | nil (n : Nat) : Drawn P [] n [] n
  | cons {a : α} {as : List α} {b : β} {bs : List β} {l m n : Nat} (first : P a l b m)
      (rest : Drawn P as m bs n) : Drawn P (a :: as) l (b :: bs) n

theorem drawn_mapM {α β : Type} {P : α → Nat → β → Nat → Prop} {f : α → Drawing β}
    (each : ∀ a n, P a n ((f a).run n).1 ((f a).run n).2) (as : List α) (n : Nat) :
    Drawn P as n ((as.mapM f).run n).1 ((as.mapM f).run n).2 := by
  induction as generalizing n with
  | nil => exact .nil n
  | cons a as ih =>
      rw [List.mapM_cons]
      exact .cons (each a n) (ih _)

section
variable {h : CorrelatorHost} {d : Draws} {c : CorrelationContext} {cluster : Cluster}

/-- The occurrences of a finding, drawn from `n` up to `m`. -/
structure OccurrenceBuilt (canonicalId : String) (f : Finding) (n : Nat) (o : FindingOccurrence)
    (m : Nat) : Prop where
  draws : n ≤ m
  source : o.source = f.source
  refers : o.canonicalFindingId = canonicalId

theorem occurrenceOf_built (canonicalId : String) (f : Finding) (reproductionCurl : Option String)
    (taintTrace : Option (List String)) (n : Nat) :
    OccurrenceBuilt canonicalId f n
      ((occurrenceOf d c canonicalId f reproductionCurl taintTrace).run n).1
      ((occurrenceOf d c canonicalId f reproductionCurl taintTrace).run n).2 :=
  ⟨Nat.le_add_right n 2, rfl, rfl⟩

/-- What the occurrences of some findings are together. -/
theorem Drawn.occurrences {canonicalId : String} {fs : List Finding} {os : List FindingOccurrence}
    {m n : Nat} (drawn : Drawn (OccurrenceBuilt canonicalId) fs m os n) :
    m ≤ n ∧ os.map (·.source) = fs.map (·.source) ∧ ∀ o ∈ os, o.canonicalFindingId = canonicalId := by
  induction drawn with
  | nil n => exact ⟨Nat.le_refl n, rfl, by simp⟩
  | cons first rest ih =>
      obtain ⟨draws, sources, refer⟩ := ih
      refine ⟨Nat.le_trans first.draws draws, ?_, List.forall_mem_cons.mpr ⟨first.refers, refer⟩⟩
      rw [List.map_cons, List.map_cons, first.source, sources]

theorem Cluster.occurrences_drawn (cluster : Cluster) (canonicalId : String) (n : Nat) :
    Drawn (OccurrenceBuilt canonicalId) cluster.members n
      ((cluster.occurrences d c canonicalId).run n).1
      ((cluster.occurrences d c canonicalId).run n).2 := by
  cases cluster with
  | verified df sf =>
      exact .cons (occurrenceOf_built canonicalId df df.reproductionCurl none n)
        (.cons (occurrenceOf_built canonicalId sf none sf.taintTrace _) (.nil _))
  | grouped primary others =>
      exact drawn_mapM (fun f => occurrenceOf_built canonicalId f f.reproductionCurl f.taintTrace) _ n

/-- What is built of a cluster, drawn from `n` up to `m`. -/
structure Built (h : CorrelatorHost) (d : Draws) (c : CorrelationContext) (cluster : Cluster) (n : Nat)
    (built : CanonicalFinding × List FindingOccurrence) (m : Nat) : Prop where
  draws : n ≤ m
  id : ∃ k, n ≤ k ∧ k < m ∧ built.1.id = "cfind-" ++ d.uuid k
  times : built.1.timesObserved = cluster.members.length
  sources : built.2.map (·.source) = cluster.members.map (·.source)
  refers : ∀ o ∈ built.2, o.canonicalFindingId = built.1.id
  hash : built.1.evidenceHash = cluster.primary.evidenceHash h
  clock : built.1.sla.map (·.slaStartedAt) = some built.1.firstSeen
  start : match (c.existingByHash built.1.evidenceHash).bind (·.sla) with
    | some sla => built.1.firstSeen = sla.slaStartedAt
    | none => ∃ k, n ≤ k ∧ k < m ∧ built.1.firstSeen = d.clock k

/-- The start of the clock costs at most one draw. -/
theorem originalStart_run (hash : String) (n : Nat) :
    ∃ start m, (originalStart d c hash).run n = (start, m) ∧ n ≤ m ∧
      match (c.existingByHash hash).bind (·.sla) with
      | some sla => start = sla.slaStartedAt
      | none => start = d.clock n ∧ m = n + 1 := by
  rw [originalStart]
  cases (c.existingByHash hash).bind (·.sla) with
  | some sla => exact ⟨sla.slaStartedAt, n, rfl, Nat.le_refl n, rfl⟩
  | none => exact ⟨d.clock n, n + 1, rfl, Nat.le_succ n, rfl, rfl⟩

@[simp] theorem Cluster.finding_id (cluster : Cluster) (id : String) (start lastSeen : Int)
    (sla : SlaInfo) : (cluster.finding h c id start lastSeen sla).id = id := by
  cases cluster <;> rfl

@[simp] theorem Cluster.finding_sla (cluster : Cluster) (id : String) (start lastSeen : Int)
    (sla : SlaInfo) : (cluster.finding h c id start lastSeen sla).sla = some sla := by
  cases cluster <;> rfl

@[simp] theorem Cluster.finding_firstSeen (cluster : Cluster) (id : String) (start lastSeen : Int)
    (sla : SlaInfo) : (cluster.finding h c id start lastSeen sla).firstSeen = start := by
  cases cluster <;> rfl

@[simp] theorem Cluster.finding_evidenceHash (cluster : Cluster) (id : String) (start lastSeen : Int)
    (sla : SlaInfo) :
    (cluster.finding h c id start lastSeen sla).evidenceHash = cluster.primary.evidenceHash h := by
  cases cluster <;> rfl

@[simp] theorem Cluster.finding_timesObserved (cluster : Cluster) (id : String)
    (start lastSeen : Int) (sla : SlaInfo) :
    (cluster.finding h c id start lastSeen sla).timesObserved = cluster.members.length := by
  cases cluster <;> rfl

theorem build_built (cluster : Cluster) (n : Nat) :
    Built h d c cluster n ((build h d c cluster).run n).1 ((build h d c cluster).run n).2 := by
  obtain ⟨start, m, started, draws, original⟩ :=
    originalStart_run (d := d) (c := c) (cluster.primary.evidenceHash h) n
  obtain ⟨sla, began, run⟩ : ∃ sla : SlaInfo, sla.slaStartedAt = start ∧
      (build h d c cluster).run n =
        ((cluster.finding h c ("cfind-" ++ d.uuid (m + 2)) start (d.clock m) sla,
          ((cluster.occurrences d c ("cfind-" ++ d.uuid (m + 2))).run (m + 3)).1),
          ((cluster.occurrences d c ("cfind-" ++ d.uuid (m + 2))).run (m + 3)).2) := by
    refine ⟨(((computeSlaInfo d cluster.primary.severity (some start)).run (m + 1)).1), rfl, ?_⟩
    rw [build, StateT.run_bind, started]
    cases cluster <;> rfl
  obtain ⟨more, sources, refer⟩ :=
    (cluster.occurrences_drawn (d := d) (c := c) ("cfind-" ++ d.uuid (m + 2)) (m + 3)).occurrences
  rw [run]
  have order : n ≤ m + 2 ∧ m + 2 <
      ((cluster.occurrences d c ("cfind-" ++ d.uuid (m + 2))).run (m + 3)).2 := by omega
  refine ⟨by omega, ⟨m + 2, order.1, order.2, by simp⟩, by simp, sources, by simpa using refer,
    by simp, by simp [began], ?_⟩
  rw [Cluster.finding_evidenceHash, Cluster.finding_firstSeen]
  cases existing : (c.existingByHash (cluster.primary.evidenceHash h)).bind (·.sla) with
  | some sla =>
      rw [existing] at original
      exact original
  | none =>
      rw [existing] at original
      exact ⟨n, Nat.le_refl n, by omega, original.1⟩

end

end CyberAssess
