import CyberAssess.Findings.Correlator
import CyberAssess.Queue.Failure
import CyberAssess.Support.Collections
import CyberAssess.Support.IpAddress

/-!
# Adapters — Subfinder

`SubfinderAdapter.run` of `adapters/subfinder_adapter.py`, from the target on: the checks of the
binary, its version and the profile have passed.

* `normalizeDomain` and `classifyScope` read a host; `readRecord` reads a line of the output.
* `Discovery.record` is the body of the loop over the lines, `Discovery.records` the loop.
* `SubfinderAdapter.run` runs the tool and reports what it found.

`[about ours]`: the log messages are left out, and so is the command line.  An exception `run` does
not catch is `.error`.
-/

namespace CyberAssess

open Python

/-- What is used of the standard library and of the models: `str.lower`, the codec `idna`,
`urlparse(…).hostname`, the order of `list(set(…))`, `json.dumps(…, indent=2)` and `uuid4`. -/
structure SubfinderHost where
  lower : Points → Points
  idna : Points → Option (List Char)
  hostname : String → Option String
  listOfSet : List String → List String
  dumps : List String → String
  newId : String

namespace SubfinderAdapter

/-- `MAX_DOMAINS`. -/
def maxDomains : Nat := 10000

/-- `value.strip().rstrip(".")`. -/
def trimmed (value : Points) : Points :=
  let stripped := ((value.dropWhile isSpacePoint).reverse.dropWhile isSpacePoint).reverse
  (stripped.reverse.dropWhile (· = point '.')).reverse

/-- `[a-z0-9]`. -/
def isLabelEdge (c : Char) : Bool := c.isDigit || ('a' ≤ c && c ≤ 'z')

/-- `re.fullmatch(r"[a-z0-9](?:[a-z0-9-]*[a-z0-9])?", label)`. -/
def isLabel (label : List Char) : Bool :=
  label.head?.any isLabelEdge && label.getLast?.any isLabelEdge &&
    label.all fun c => isLabelEdge c || c = '-'

/-- `normalize_domain`, of a `str`. -/
def normalizeText (h : SubfinderHost) (value : Points) : Option String := do
  let value := h.lower (trimmed value)
  guard !((points "*.").isPrefixOf value || value.tails.any (points "://").isPrefixOf ||
    value.contains (point '/'))
  guard ((textOf value).bind ipAddress).isNone
  let value ← h.idna value
  guard (value.length ≤ 253 && !value.isEmpty &&
    (value.splitOn '.').all fun label => label.length ≤ 63 && isLabel label)
  return String.ofList value

/-- `normalize_domain`. -/
def normalizeDomain (h : SubfinderHost) : Value → Option String
  | .str value => normalizeText h value
  | _ => none

/-- What `classify_scope` answers. -/
inductive DomainScope where
  | invalid
  | inScope
  | outOfScope
deriving DecidableEq, Repr

/-- `classify_scope`. -/
def classifyScope (h : SubfinderHost) (domain authorizedRoot : String) : DomainScope :=
  match normalizeText h (points authorizedRoot), normalizeText h (points domain) with
  | some root, some candidate =>
      if candidate = root || ('.' :: root.toList).isSuffixOf candidate.toList then .inScope
      else .outOfScope
  | _, _ => .invalid

/-- What is in scope is the root or below it. -/
theorem classifyScope_inScope {h : SubfinderHost} {domain authorizedRoot : String}
    (inScope : classifyScope h domain authorizedRoot = .inScope) :
    ∃ root candidate, normalizeText h (points authorizedRoot) = some root ∧
      normalizeText h (points domain) = some candidate ∧
        (candidate = root ∨ ('.' :: root.toList) <:+ candidate.toList) := by
  rw [classifyScope] at inScope
  split at inScope
  · rename_i root candidate hroot hcandidate
    split at inScope
    · rename_i below
      rw [Bool.or_eq_true, decide_eq_true_eq, List.isSuffixOf_iff_suffix] at below
      exact ⟨root, candidate, hroot, hcandidate, below⟩
    · cases inScope
  · cases inScope

/-! ### The records -/

/-- What a line of the output is. -/
inductive Record where
  | malformed
  | found (host : String) (sources : List Points)

/-- `sources`, where it is a list of texts. -/
def textsOf : Value → Option (List Points)
  | .arr items => items.mapM fun
      | .str s => some s
      | _ => none
  | _ => none

/-- The record of a line. -/
def readRecord (h : SubfinderHost) (line : List Char) : Record :=
  match loads line with
  | some (.obj members) =>
      match (members.lookup (points "host")).bind (normalizeDomain h) with
      | some host =>
          .found host (((members.lookup (points "sources")).bind textsOf).getD [points "unknown"])
      | none => .malformed
  | _ => .malformed

/-- The records of an output: blank lines are none. -/
def recordsOf (h : SubfinderHost) (stdout : String) : List Record :=
  (((splitLines stdout.toList).map stripChars).filter fun line => !line.isEmpty).map (readRecord h)

/-- `DiscoveredSubdomain`, of what the adapter sets. -/
structure DiscoveredSubdomain where
  domain : String
  serviceFingerprint : Points
  discoveredVia : String := "Subfinder"
  dnsStatus : String := "UNRESOLVED"
  organizationId : Option String
  assessmentId : Option String
  authorizedRoot : String
  sources : List Points

/-- `RejectedDiscovery`, without the time. -/
structure RejectedDiscovery where
  domain : String
  reason : String
  source : String := "Subfinder"
  sources : List Points
  authorizedRoot : String
  assessmentId : String
  organizationId : String

/-- The keyword arguments: which callbacks are given, and the identifiers. -/
structure Kwargs where
  emitSubdomain : Bool
  emitRejected : Bool
  emitState : Bool
  scanId : Option String
  organizationId : Option String

/-- The variables of the loop, and the calls of the callbacks so far. -/
structure Discovery where
  discoveredHosts : List String := []
  sourceMap : List (String × List Points) := []
  parserWarnings : Nat := 0
  outOfScope : Nat := 0
  limitReached : Bool := false
  subdomains : List DiscoveredSubdomain := []
  rejected : List RejectedDiscovery := []

variable (h : SubfinderHost) (k : Kwargs) (apexDomain : String)

/-- The subdomain that is emitted. -/
def subdomainOf (host : String) (sources : List Points) : DiscoveredSubdomain where
  domain := host
  serviceFingerprint := points "Sources: " ++
    (points ", ").intercalate (sorted (fromKeys sources))
  organizationId := k.organizationId
  assessmentId := k.scanId
  authorizedRoot := apexDomain
  sources := sorted (fromKeys sources)

/-- The discovery that is rejected: without an organization it is not one. -/
def rejectedOf (host : String) (sources : List Points) : Except String RejectedDiscovery :=
  match k.organizationId with
  | some organizationId => .ok
      { domain := host
        reason := "OUT_OF_SCOPE"
        sources := sorted sources
        authorizedRoot := apexDomain
        assessmentId := k.scanId.getD "local-scan"
        organizationId := organizationId }
  | none => .error "ValidationError"

/-- `source_map[host].update(sources)`. -/
def updateSources (host : String) (sources : List Points) :
    List (String × List Points) → List (String × List Points) :=
  List.map fun entry => if entry.1 = host then (entry.1, fromKeys (entry.2 ++ sources)) else entry

/-- The body of the loop. -/
def Discovery.record (s : Discovery) : Record → Except String Discovery
  | .malformed => .ok { s with parserWarnings := s.parserWarnings + 1 }
  | .found host sources =>
      if classifyScope h host apexDomain ≠ .inScope then do
        let s := { s with outOfScope := s.outOfScope + 1 }
        if k.emitRejected then
          let rejection ← rejectedOf k apexDomain host sources
          return { s with rejected := s.rejected ++ [rejection] }
        else return s
      else if host ∈ s.discoveredHosts then
        .ok { s with sourceMap := updateSources host sources s.sourceMap }
      else if maxDomains ≤ s.discoveredHosts.length then .ok { s with limitReached := true }
      else .ok
        { s with
          discoveredHosts := s.discoveredHosts ++ [host]
          sourceMap := s.sourceMap ++ [(host, fromKeys sources)]
          subdomains :=
            if k.emitSubdomain then s.subdomains ++ [subdomainOf k apexDomain host sources]
            else s.subdomains }

/-- The loop. -/
def Discovery.records (s : Discovery) (rs : List Record) : Except String Discovery :=
  rs.foldlM (Discovery.record h k apexDomain) s

/-! ### The run -/

/-- `NormalizedExecutionState`, of those the adapter publishes from here on. -/
inductive ExecutionState where
  | executionBlocked
  | executionTimedOut
  | completedWithFindings
  | completedNoFindings
  | partialResultsWithWarning
  | toolExecutionFailed
deriving DecidableEq, Repr

/-- `state_map`. -/
def ExecutionState.published : ExecutionState → String
  | .executionBlocked => "BLOCKED"
  | .executionTimedOut => "TIMED_OUT"
  | .completedWithFindings => "COMPLETED_WITH_FINDINGS"
  | .completedNoFindings => "COMPLETED_NO_FINDINGS"
  | .partialResultsWithWarning => "PARTIAL_RESULTS_WITH_WARNING"
  | .toolExecutionFailed => "TOOL_EXECUTION_FAILED"

/-- What the process leaves behind. -/
structure ToolExit where
  code : Int
  stdout : String
  stderr : String

/-- What a run returns and the calls of its callbacks. -/
structure SubfinderResult where
  findings : List Finding
  subdomains : List DiscoveredSubdomain
  rejected : List RejectedDiscovery
  lastExecutionState : ExecutionState
  states : List String

/-- `publish_state()`. -/
def publishState (state : ExecutionState) : List String :=
  if k.emitState then [state.published] else []

/-- `domain`, as it is taken from the target. -/
def domainOf (value : String) : String :=
  let value := if hasText "://" value then (orText (h.hostname value) (some value)).getD value else value
  let value := String.ofList (value.toList.takeWhile (· ≠ ':'))
  let value := String.ofList (value.toList.takeWhile (· ≠ '/'))
  if "www.".toList.isPrefixOf value.toList then String.ofList (value.toList.drop 4) else value

/-- `"timed out" in stderr.lower()`. -/
def timedOut (stderr : String) : Bool :=
  (h.lower (points stderr)).tails.any (points "timed out").isPrefixOf

/-- The finding of the hosts that were discovered. -/
def findingOf (domain : String) (hosts : List String) : Finding where
  id := h.newId
  scanId := k.scanId.getD "local-scan"
  engine := "network"
  sourceTool := "subfinder"
  checkId := "EASM-SUB-001"
  category := "Attack Surface Recon"
  title := "Discovered " ++ toString hosts.length ++ " Subdomains on Perimeter"
  severity := .info
  cweId := some "CWE-200"
  description := "Subfinder discovered " ++ toString hosts.length ++
    " subdomains in the external attack surface: " ++ ", ".intercalate ((h.listOfSet hosts).take 10) ++
    if 10 < hosts.length then " ...and " ++ toString (hosts.length - 10) ++ " more." else ""
  impact := "Unmonitored external subdomains can expose staging environments, forgotten APIs, " ++
    "or vulnerable third-party services."
  remediation := "Regularly audit DNS zones, decommission obsolete subdomains, and place " ++
    "perimeter assets behind Web Application Firewalls."
  evidence :=
    { location := domain
      observedValue := toString hosts.length ++ " passive subdomains enumerated"
      expectedValue := "Subdomain attack surface cataloged and monitored"
      rawResponseSnippet := some (h.dumps ((h.listOfSet hosts).take 20)) }

/-- `last_execution_state`, after the loop. -/
def stateAfter (exit : ToolExit) (s : Discovery) : ExecutionState :=
  if exit.code ≠ 0 then
    if timedOut h exit.stderr then .executionTimedOut else .partialResultsWithWarning
  else if s.parserWarnings ≠ 0 || s.limitReached then .partialResultsWithWarning
  else .completedNoFindings

/-- What is reported after the loop. -/
def report (domain : String) (exit : ToolExit) (s : Discovery) : SubfinderResult where
  findings := if s.discoveredHosts.isEmpty then [] else [findingOf h k domain s.discoveredHosts]
  subdomains := s.subdomains
  rejected := s.rejected
  lastExecutionState := stateAfter h exit s
  states := publishState k (stateAfter h exit s)

/-- A run that discovers nothing. -/
def stopped (state : ExecutionState) : SubfinderResult where
  findings := []
  subdomains := []
  rejected := []
  lastExecutionState := state
  states := publishState k state

/-- The apex domain of a target, where it is valid. -/
def apexOf (target : String) : Option String :=
  (normalizeText h (points (domainOf h target))).filter fun apex => hasText "." apex

/-- `run`; `execute` is the process on an apex domain. -/
def run (target : String) (execute : String → ToolExit) : Except String SubfinderResult :=
  match apexOf h target with
  | none => .ok (stopped k .executionBlocked)
  | some apex =>
      let exit := execute apex
      if exit.code ≠ 0 && exit.stdout.isEmpty then
        .ok (stopped k (if timedOut h exit.stderr then .executionTimedOut else .toolExecutionFailed))
      else do
        let s ← Discovery.records h k apex {} (recordsOf h exit.stdout)
        return report h k (domainOf h target) exit s

end SubfinderAdapter

end CyberAssess
