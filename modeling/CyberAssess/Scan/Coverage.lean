import CyberAssess.Support.Transition

/-!
# Scan — assessment coverage

`AssessmentCoverage` of `core/models.py`, and what `ScanOrchestrator._execute_scan` of
`core/orchestrator.py` does to it until a scan is saved as completed.

* `AssessmentCoverage.enforceCoverageState` is the validator, run whenever a coverage is read.
* `emitToolExecutionState` is what a tool callback changes.
* `CoverageStep`: one update.  Tool callbacks and findings come between any two others.
* `StoredCoverage`: the coverages a scan may be executed with.

`[about ours]`: of a job, only what its coverage is computed from.  `_recalculate_summary` makes a new
summary around a copy of the coverage, so a finding changes nothing here.
-/

namespace CyberAssess

/-- `coverage_status`. -/
inductive CoverageStatus where
  | complete | degraded
deriving DecidableEq, Repr

/-- `AssessmentCoverage`. -/
structure AssessmentCoverage where
  enginesRequested : List String := []
  enginesExecuted : List String := []
  enginesFailed : List String := []
  enginesSkipped : List String := []
  toolsUnavailable : List String := []
  targetsInaccessible : List String := []
  coverageLimitations : List String := []
  coverageStatus : CoverageStatus := .degraded
  isFullyAssessed : Bool := false
deriving DecidableEq, Repr

namespace AssessmentCoverage

variable (c : AssessmentCoverage)

/-- `set(engines_executed) == set(engines_requested)`. -/
def executedAsRequested : Bool :=
  c.enginesExecuted.all c.enginesRequested.contains && c.enginesRequested.all c.enginesExecuted.contains

/-- `has_gaps`. -/
def hasGaps : Bool :=
  !c.isFullyAssessed || c.enginesExecuted.isEmpty ||
    (!c.enginesRequested.isEmpty && !c.executedAsRequested) || !c.enginesFailed.isEmpty ||
    !c.enginesSkipped.isEmpty || !c.toolsUnavailable.isEmpty || !c.targetsInaccessible.isEmpty ||
    !c.coverageLimitations.isEmpty

/-- `enforce_coverage_state`. -/
def enforceCoverageState : AssessmentCoverage :=
  if c.hasGaps then { c with coverageStatus := .degraded, isFullyAssessed := false }
  else if c.coverageStatus = .degraded then { c with isFullyAssessed := false }
  else c

/-- `if x not in xs: xs.append(x)`. -/
def appendOnce (x : String) (xs : List String) : List String := if xs.contains x then xs else xs ++ [x]

/-- Degraded, for a reason. -/
def degradedBy (limitation : String) : AssessmentCoverage :=
  { c with
    coverageStatus := .degraded
    isFullyAssessed := false
    coverageLimitations := appendOnce limitation c.coverageLimitations }

end AssessmentCoverage

/-! ### Tool states -/

/-- The states telemetry knows. -/
inductive ToolState where
  | completedWithFindings | completedNoFindings | partialResultsWithWarning | toolExecutionFailed
  | blocked | timedOut | cancelled | invalidVersion
deriving DecidableEq, Repr

/-- Their names. -/
def ToolState.name : ToolState → String
  | .completedWithFindings => "COMPLETED_WITH_FINDINGS"
  | .completedNoFindings => "COMPLETED_NO_FINDINGS"
  | .partialResultsWithWarning => "PARTIAL_RESULTS_WITH_WARNING"
  | .toolExecutionFailed => "TOOL_EXECUTION_FAILED"
  | .blocked => "BLOCKED"
  | .timedOut => "TIMED_OUT"
  | .cancelled => "CANCELLED"
  | .invalidVersion => "INVALID_VERSION"

/-- `state_map`. -/
def stateMap : List (String × ToolState) :=
  [("EXECUTION_BLOCKED", .blocked),
    ("EXECUTION_TIMED_OUT", .timedOut),
    ("EXECUTION_CANCELLED", .cancelled),
    ("COMPLETED_WITH_FINDINGS", .completedWithFindings),
    ("COMPLETED_NO_FINDINGS", .completedNoFindings),
    ("PARTIAL_RESULTS_WITH_WARNING", .partialResultsWithWarning),
    ("TOOL_EXECUTION_FAILED", .toolExecutionFailed),
    ("INVALID_VERSION", .invalidVersion),
    ("FAILED_NON_ZERO_EXIT", .toolExecutionFailed),
    ("FAILED_TIMEOUT", .timedOut),
    ("FAILED_OUTPUT_LIMIT", .toolExecutionFailed),
    ("NOT_EXECUTED_PREREQUISITE_MISSING", .toolExecutionFailed),
    ("NOT_EXECUTED_UNSUPPORTED_TARGET", .blocked)]

/-- `_normalize_tool_state`. -/
def normalizeToolState (state : String) : Option ToolState := stateMap.lookup state

/-- `degraded_states`. -/
def ToolState.degrades : ToolState → Bool
  | .completedWithFindings | .completedNoFindings => false
  | _ => true

/-- `_TOOL_ID_ALIASES`. -/
def toolIdAliases : List (String × String) :=
  [("retirejs", "retire"), ("osv_scanner", "osv-scanner"), ("kube_bench", "kube-bench")]

/-- `_TOOL_EXECUTION_SCOPE_IDS`. -/
def toolExecutionScopeIds : List (String × List String) :=
  [("code_sast", ["gitleaks", "trufflehog", "bandit", "semgrep", "retire", "syft", "grype",
      "osv-scanner", "trivy"]),
    ("infra_iac", ["checkov", "trivy", "dockle", "kube-bench", "prowler", "gtfobins"]),
    ("network", ["sslyze", "nmap", "metasploit", "subfinder", "amass", "httpx"]),
    ("web_dast", ["ffuf", "nuclei", "katana", "schemathesis", "sqlmap"]),
    ("manual", ["hydra"])]

/-- `_CANONICAL_TOOL_IDS`. -/
def canonicalToolIds : List String := toolExecutionScopeIds.flatMap (·.2)

/-- The tools an engine may report; none where any may be reported. -/
def allowedTools (registered : String → Option (List String)) : Option String → Option (List String)
  | some engine =>
      if engine.isEmpty then none
      else (toolExecutionScopeIds.lookup engine).or (registered engine)
  | none => none

/-- The checks of a tool's identity: its canonical name, where it may be reported. -/
def canonicalTool (registered : String → Option (List String)) (toolName : String)
    (engine : Option String) : Option String :=
  let canonical := (toolIdAliases.lookup toolName).getD toolName
  if !canonicalToolIds.contains canonical then none
  else if engine.any fun e =>
      (toolExecutionScopeIds.lookup e).isNone && (registered e).isNone then none
  else if (allowedTools registered engine).any (!·.contains canonical) then none
  else some canonical

/-- What the state of a tool does to the coverage. -/
def AssessmentCoverage.toolState (c : AssessmentCoverage) (tool state : String) : AssessmentCoverage :=
  match normalizeToolState state with
  | some s => if s.degrades then c.degradedBy (tool ++ ": " ++ s.name) else c
  | none =>
      { c with
        isFullyAssessed := false
        coverageLimitations :=
          AssessmentCoverage.appendOnce (tool ++ ": INVALID_STATE") c.coverageLimitations }.degradedBy
        (tool ++ ": " ++ ToolState.toolExecutionFailed.name)

/-- `emit_tool_execution_state`: a tool that is not known is refused, and changes nothing. -/
def emitToolExecutionState (registered : String → Option (List String)) (c : AssessmentCoverage)
    (toolName state : String) (engine : Option String) : AssessmentCoverage :=
  match canonicalTool registered toolName engine with
  | some tool => c.toolState tool state
  | none => c

/-! ### The execution of a scan -/

/-- What a scan is executed with: its engines, which of them are registered and apply to its target,
and the tools engines have registered. -/
structure CoverageJob where
  enabledEngines : List String
  applicable : String → Bool
  registered : String → Option (List String)

/-- `applicable_engines`, by name. -/
def CoverageJob.engines (job : CoverageJob) : List String := job.enabledEngines.filter job.applicable

/-- `engines_skipped`. -/
def CoverageJob.skipped (job : CoverageJob) : List String :=
  job.enabledEngines.filter fun name => !job.engines.contains name

/-- `tools_unavailable`, of the tools found and whether their adapter is active. -/
def unavailableTools (tools : List (String × Bool)) : List String :=
  (tools.filter fun tool => !tool.2).map (·.1)

/-- The coverage after the capabilities were discovered, or discovery raised before it had any. -/
def AssessmentCoverage.discovered (c : AssessmentCoverage) :
    Option (List (String × Bool)) → AssessmentCoverage
  | some tools => { c with toolsUnavailable := unavailableTools tools }
  | none => c

/-- The coverage of a new summary, where no engine applies. -/
def CoverageJob.noneApplicable (job : CoverageJob) : AssessmentCoverage :=
  let c : AssessmentCoverage :=
    { enginesRequested := job.enabledEngines
      enginesSkipped := job.enabledEngines
      isFullyAssessed := job.enabledEngines.isEmpty }
  if job.enabledEngines.isEmpty then c
  else { c with
    coverageStatus := .degraded
    coverageLimitations := ["No enabled engines were applicable to the target."] }

/-- The coverage once the engines are selected. -/
def AssessmentCoverage.selected (job : CoverageJob) (c : AssessmentCoverage) : AssessmentCoverage :=
  let c := { c with enginesRequested := job.enabledEngines, enginesSkipped := job.skipped }
  job.skipped.foldl (fun c name => c.degradedBy (name ++ ": SKIPPED")) c

/-- An engine has returned. -/
def AssessmentCoverage.executed (c : AssessmentCoverage) (name : String) : AssessmentCoverage :=
  { c with enginesExecuted := appendOnce name c.enginesExecuted }

/-- An engine has raised. -/
def AssessmentCoverage.failed (c : AssessmentCoverage) (name : String) : AssessmentCoverage :=
  { c with enginesFailed := appendOnce name c.enginesFailed }.degradedBy
    (name ++ ": ENGINE_EXECUTION_FAILED")

/-- How far the execution is; a completed one has saved a coverage. -/
inductive CoveragePhase where
  | started
  | discovered
  | running (todo : List String)
  | completed (persisted : AssessmentCoverage)

/-- An execution. -/
structure CoverageRun where
  coverage : AssessmentCoverage
  phase : CoveragePhase

/-- The updates. -/
inductive CoverageEvent where
  | discovery (tools : Option (List (String × Bool)))
  | noneApplicable
  | selected
  | returned (engine : String)
  | raised (engine : String)
  | toolState (toolName state : String) (engine : Option String)
  | finding
  | finished

/-- The execution is not over. -/
def CoveragePhase.active : CoveragePhase → Bool
  | .completed _ => false
  | _ => true

/-- One update of the coverage. -/
inductive CoverageStep (job : CoverageJob) : CoverageRun → CoverageEvent → CoverageRun → Prop where
  | discovery {c : AssessmentCoverage} (tools : Option (List (String × Bool))) :
      CoverageStep job ⟨c, .started⟩ (.discovery tools) ⟨c.discovered tools, .discovered⟩
  | noneApplicable {c : AssessmentCoverage} (none : job.engines = []) :
      CoverageStep job ⟨c, .discovered⟩ .noneApplicable
        ⟨job.noneApplicable, .completed job.noneApplicable⟩
  | selected {c : AssessmentCoverage} (some : job.engines ≠ []) :
      CoverageStep job ⟨c, .discovered⟩ .selected ⟨c.selected job, .running job.engines⟩
  | returned {c : AssessmentCoverage} {engine : String} {todo : List String} :
      CoverageStep job ⟨c, .running (engine :: todo)⟩ (.returned engine)
        ⟨c.executed engine, .running todo⟩
  | raised {c : AssessmentCoverage} {engine : String} {todo : List String} :
      CoverageStep job ⟨c, .running (engine :: todo)⟩ (.raised engine) ⟨c.failed engine, .running todo⟩
  | toolState {c : AssessmentCoverage} {phase : CoveragePhase} (toolName state : String)
      (engine : Option String) (active : phase.active = true) :
      CoverageStep job ⟨c, phase⟩ (.toolState toolName state engine)
        ⟨emitToolExecutionState job.registered c toolName state engine, phase⟩
  | finding {c : AssessmentCoverage} {phase : CoveragePhase} (active : phase.active = true) :
      CoverageStep job ⟨c, phase⟩ .finding ⟨c, phase⟩
  | finished {c : AssessmentCoverage} :
      CoverageStep job ⟨c, .running []⟩ .finished ⟨c, .completed c⟩

/-- The coverages a scan may have when its execution starts: the one of a new job, any that an earlier
execution left, and any of these as it is read back. -/
inductive StoredCoverage (job : CoverageJob) : AssessmentCoverage → Prop where
  | created : StoredCoverage job {}
  | saved {c : AssessmentCoverage} {es : List CoverageEvent} {t : CoverageRun}
      (h : StoredCoverage job c) (r : Transition.Run (CoverageStep job) ⟨c, .started⟩ es t) :
      StoredCoverage job t.coverage
  | read {c : AssessmentCoverage} (h : StoredCoverage job c) :
      StoredCoverage job c.enforceCoverageState

end CyberAssess
