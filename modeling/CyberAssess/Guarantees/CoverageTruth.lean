import CyberAssess.Scan.Coverage

/-!
# Guarantees — what the coverage of a completed scan says

* `AssessmentCoverage.Unblemished` is what a complete coverage should mean, `CoverageTruth` that it
  does and that reading the coverage changes nothing.
* `coverageStep_degraded`: no update makes a coverage complete.
* `CoverageRecord`: which events the lists of a coverage have kept; `step_coverageRecord` is the step.
* `coverage_truth`: a completed scan tells the truth exactly where it requested an engine and left
  something out.
-/

namespace CyberAssess

open Transition AssessmentCoverage

variable {job : CoverageJob}

/-! ### What a coverage should say -/

/-- An engine was requested, every one was executed, and nothing is recorded against it. -/
structure AssessmentCoverage.Unblemished (c : AssessmentCoverage) : Prop where
  requested : c.enginesRequested ≠ []
  executed : ∀ name ∈ c.enginesRequested, name ∈ c.enginesExecuted
  failed : c.enginesFailed = []
  skipped : c.enginesSkipped = []
  unavailable : c.toolsUnavailable = []
  limitations : c.coverageLimitations = []

/-- A coverage is complete where it should be, and is read back as it is. -/
structure CoverageTruth (c : AssessmentCoverage) : Prop where
  complete : (c.isFullyAssessed = true ∧ c.coverageStatus = .complete) ↔ c.Unblemished
  fixed : c.enforceCoverageState = c

/-! ### Nothing makes a coverage complete -/

variable (job) in
/-- Degraded, and fully assessed only where nothing was requested. -/
def AssessmentCoverage.Withheld (c : AssessmentCoverage) : Prop :=
  c.coverageStatus = .degraded ∧ (c.isFullyAssessed = true → job.enabledEngines = [])

theorem withheld_degradedBy (c : AssessmentCoverage) (limitation : String) :
    (c.degradedBy limitation).Withheld job := ⟨rfl, nofun⟩

theorem withheld_foldl {c : AssessmentCoverage} (h : c.Withheld job) (names : List String) :
    (names.foldl (fun c name => c.degradedBy (name ++ ": SKIPPED")) c).Withheld job := by
  induction names generalizing c with
  | nil => exact h
  | cons name names ih => exact ih (withheld_degradedBy c _)

theorem withheld_noneApplicable : job.noneApplicable.Withheld job := by
  unfold CoverageJob.noneApplicable
  cases empty : job.enabledEngines with
  | nil => exact ⟨rfl, fun _ => empty⟩
  | cons name names => exact ⟨rfl, nofun⟩

variable (job) in
/-- The events that leave a limitation: an engine that raises, and a tool that is known and did not
complete. -/
def CoverageEvent.limits : CoverageEvent → Bool
  | .raised _ => true
  | .toolState toolName state engine =>
      (canonicalTool job.registered toolName engine).isSome &&
        !(normalizeToolState state).any fun s => !s.degrades
  | _ => false

theorem appendOnce_ne_nil (x : String) (xs : List String) : appendOnce x xs ≠ [] := by
  unfold appendOnce
  split
  · rintro rfl
    simp_all
  · simp

theorem mem_appendOnce {x y : String} {xs : List String} :
    y ∈ appendOnce x xs ↔ y ∈ xs ∨ y = x := by
  unfold appendOnce
  split
  · rename_i member
    refine ⟨Or.inl, fun h => h.elim id ?_⟩
    rintro rfl
    exact List.contains_iff_mem.mp member
  · simp

/-- A degraded coverage has a limitation. -/
theorem degradedBy_eq (c : AssessmentCoverage) (limitation : String) :
    ∃ limitations, limitations ≠ [] ∧ c.degradedBy limitation =
      { c with
        coverageStatus := .degraded
        isFullyAssessed := false
        coverageLimitations := limitations } :=
  ⟨_, appendOnce_ne_nil _ _, rfl⟩

variable (job) in
/-- A tool callback changes nothing, or leaves a limitation and nothing else. -/
theorem emitToolExecutionState_cases (c : AssessmentCoverage) (toolName state : String)
    (engine : Option String) :
    ((CoverageEvent.toolState toolName state engine).limits job = false ∧
      emitToolExecutionState job.registered c toolName state engine = c) ∨
    ((CoverageEvent.toolState toolName state engine).limits job = true ∧
      ∃ limitations, limitations ≠ [] ∧ emitToolExecutionState job.registered c toolName state engine =
        { c with
          coverageStatus := .degraded
          isFullyAssessed := false
          coverageLimitations := limitations }) := by
  have limits : (CoverageEvent.toolState toolName state engine).limits job =
    ((canonicalTool job.registered toolName engine).isSome &&
      !(normalizeToolState state).any fun s => !s.degrades) := rfl
  rw [limits, emitToolExecutionState]
  cases canonicalTool job.registered toolName engine with
  | none => exact Or.inl ⟨rfl, rfl⟩
  | some tool =>
      simp only [AssessmentCoverage.toolState]
      cases normalizeToolState state with
      | none => exact Or.inr ⟨rfl, degradedBy_eq _ _⟩
      | some s =>
          cases degrades : s.degrades with
          | false => exact Or.inl ⟨by simp [degrades], by simp [degrades]⟩
          | true => exact Or.inr ⟨by simp [degrades], by simpa [degrades] using degradedBy_eq c _⟩

/-- No update makes a coverage complete, or fully assessed where an engine was requested; nor is one
saved that is. -/
theorem step_withheld {s t : CoverageRun} {e : CoverageEvent} (h : s.coverage.Withheld job)
    (step : CoverageStep job s e t) : t.coverage.Withheld job := by
  cases step with
  | discovery tools => cases tools <;> exact h
  | noneApplicable => exact withheld_noneApplicable
  | @selected c some =>
      have requested : { c with
          enginesRequested := job.enabledEngines
          enginesSkipped := job.skipped }.Withheld job := h
      exact withheld_foldl requested job.skipped
  | returned => exact h
  | raised => exact withheld_degradedBy _ _
  | @toolState c phase toolName state engine active =>
      rcases emitToolExecutionState_cases job c toolName state engine with
        ⟨-, same⟩ | ⟨-, limitations, -, degraded⟩
      · rw [same]
        exact h
      · rw [degraded]
        exact ⟨rfl, nofun⟩
  | finding => exact h
  | finished => exact h

/-- Reading a degraded coverage degrades nothing. -/
theorem withheld_enforceCoverageState {c : AssessmentCoverage} (h : c.Withheld job) :
    c.enforceCoverageState.Withheld job := by
  unfold enforceCoverageState
  split
  · exact ⟨rfl, nofun⟩
  · rw [if_pos h.1]
    exact ⟨h.1, nofun⟩

theorem StoredCoverage.withheld {c : AssessmentCoverage} (h : StoredCoverage job c) :
    c.Withheld job := by
  induction h with
  | created => exact ⟨rfl, nofun⟩
  | saved _ r ih =>
      exact r.invariant (I := fun s => s.coverage.Withheld job)
        (fun _ _ _ h step => step_withheld h step) ih
  | read _ ih => exact withheld_enforceCoverageState ih

/-- A coverage that is not fully assessed and degraded is read back as it is. -/
theorem enforceCoverageState_of_degraded {c : AssessmentCoverage} (status : c.coverageStatus = .degraded)
    (partly : c.isFullyAssessed = false) : c.enforceCoverageState = c := by
  have gaps : c.hasGaps = true := by
    unfold hasGaps
    rw [partly]
    rfl
  rw [enforceCoverageState, if_pos gaps, ← status, ← partly]

/-! ### What is recorded -/

/-- Skipping engines changes the status and the limitations. -/
theorem foldl_skipped (names : List String) (c : AssessmentCoverage) :
    ∃ status assessed limitations, (limitations = [] ↔ names = [] ∧ c.coverageLimitations = []) ∧
      names.foldl (fun c name => c.degradedBy (name ++ ": SKIPPED")) c =
        { c with
          coverageStatus := status
          isFullyAssessed := assessed
          coverageLimitations := limitations } := by
  induction names generalizing c with
  | nil => exact ⟨c.coverageStatus, c.isFullyAssessed, c.coverageLimitations, by simp, rfl⟩
  | cons name names ih =>
      obtain ⟨status, assessed, limitations, empty, rest⟩ := ih (c.degradedBy (name ++ ": SKIPPED"))
      refine ⟨status, assessed, limitations, ?_, rest⟩
      have some := appendOnce_ne_nil (name ++ ": SKIPPED") c.coverageLimitations
      rw [empty]
      exact ⟨fun h => absurd h.2 some, fun h => nomatch h.1⟩

variable (job) in
/-- Which events the lists of a coverage have kept; `skips` is what selection added. -/
structure CoverageRecord (c₀ : AssessmentCoverage) (es : List CoverageEvent) (skips : Prop)
    (c : AssessmentCoverage) : Prop where
  failed : c.enginesFailed = [] ↔ c₀.enginesFailed = [] ∧ ∀ name, .raised name ∉ es
  limitations : c.coverageLimitations = [] ↔
    c₀.coverageLimitations = [] ∧ (∀ e ∈ es, e.limits job = false) ∧ skips

/-- The tools of a coverage are those discovery found. -/
def DiscoveredTools (c₀ : AssessmentCoverage) (es : List CoverageEvent) (c : AssessmentCoverage) :
    Prop :=
  ∃ tools, (∀ tools', .discovery tools' ∈ es ↔ tools' = tools) ∧
    c.toolsUnavailable = (c₀.discovered tools).toolsUnavailable

variable (job) in
/-- What is recorded once the engines are selected; `rest` are those still to be run. -/
structure EngineRecord (c₀ : AssessmentCoverage) (es : List CoverageEvent) (rest : List String)
    (c : AssessmentCoverage) : Prop where
  record : CoverageRecord job c₀ es (job.skipped = []) c
  tools : DiscoveredTools c₀ es c
  requested : c.enginesRequested = job.enabledEngines
  skipped : c.enginesSkipped = job.skipped
  engines : ∀ name ∈ job.engines, name ∈ rest ∨ name ∈ c.enginesExecuted ∨ .raised name ∈ es

variable (job) in
/-- What a coverage has recorded, at each phase of an execution. -/
def CoverageHistory (c₀ : AssessmentCoverage) (es : List CoverageEvent) (s : CoverageRun) : Prop :=
  match s.phase with
  | .started =>
      CoverageRecord job c₀ es True s.coverage ∧ s.coverage.toolsUnavailable = c₀.toolsUnavailable ∧
        ∀ tools, .discovery tools ∉ es
  | .discovered => CoverageRecord job c₀ es True s.coverage ∧ DiscoveredTools c₀ es s.coverage
  | .running todo => job.engines ≠ [] ∧ EngineRecord job c₀ es todo s.coverage
  | .completed c =>
      c = job.noneApplicable ∧ job.engines = [] ∨ job.engines ≠ [] ∧ EngineRecord job c₀ es [] c

section Step

variable {c₀ c : AssessmentCoverage} {es : List CoverageEvent} {skips : Prop} {e : CoverageEvent}

/-- An event that leaves no limitation, and what else it changes. -/
theorem CoverageRecord.quiet (h : CoverageRecord job c₀ es skips c) {c' : AssessmentCoverage}
    (quiet : e.limits job = false) (failed : c'.enginesFailed = c.enginesFailed)
    (limitations : c'.coverageLimitations = c.coverageLimitations) :
    CoverageRecord job c₀ (es ++ [e]) skips c' where
  failed := by
    rw [failed, h.failed]
    refine and_congr_right fun _ => forall_congr' fun name => not_congr ?_
    rw [List.mem_append, List.mem_singleton]
    refine ⟨Or.inl, fun member => member.elim id ?_⟩
    rintro rfl
    cases quiet
  limitations := by
    rw [limitations, h.limitations]
    refine and_congr_right fun _ => and_congr_left fun _ => ?_
    rw [List.forall_mem_append, List.forall_mem_singleton]
    exact ⟨fun before => ⟨before, quiet⟩, And.left⟩

/-- An event that leaves a limitation. -/
theorem CoverageRecord.limited (h : CoverageRecord job c₀ es skips c) {c' : AssessmentCoverage}
    (limits : e.limits job = true) (some : c'.coverageLimitations ≠ [])
    (failed : c'.enginesFailed = [] ↔ c.enginesFailed = [] ∧ ∀ name, e ≠ .raised name) :
    CoverageRecord job c₀ (es ++ [e]) skips c' where
  failed := by
    rw [failed, h.failed, and_assoc]
    refine and_congr_right fun _ => ?_
    rw [← forall_and]
    refine forall_congr' fun name => ?_
    rw [List.mem_append, List.mem_singleton, not_or, eq_comm]
  limitations := by
    refine ⟨fun none => absurd none some, fun ⟨_, all, _⟩ => ?_⟩
    have := all e (List.mem_append_right _ (List.mem_singleton_self e))
    rw [limits] at this
    cases this

/-- Another event does not discover tools again. -/
theorem DiscoveredTools.more (h : DiscoveredTools c₀ es c) {c' : AssessmentCoverage}
    (other : ∀ tools, e ≠ .discovery tools) (same : c'.toolsUnavailable = c.toolsUnavailable) :
    DiscoveredTools c₀ (es ++ [e]) c' := by
  obtain ⟨tools, only, unavailable⟩ := h
  refine ⟨tools, fun tools' => ?_, same.trans unavailable⟩
  rw [List.mem_append, List.mem_singleton, ← only tools']
  exact ⟨fun member => member.elim id fun last => absurd last.symm (other tools'), Or.inl⟩

/-- What an event adds to the record of the engines. -/
theorem EngineRecord.more {rest rest' : List String} (h : EngineRecord job c₀ es rest c)
    {c' : AssessmentCoverage} (record : CoverageRecord job c₀ (es ++ [e]) (job.skipped = []) c')
    (other : ∀ tools, e ≠ .discovery tools) (tools : c'.toolsUnavailable = c.toolsUnavailable)
    (requested : c'.enginesRequested = c.enginesRequested)
    (skipped : c'.enginesSkipped = c.enginesSkipped)
    (executed : ∀ name ∈ c.enginesExecuted, name ∈ c'.enginesExecuted)
    (run : ∀ name ∈ rest, name ∈ rest' ∨ name ∈ c'.enginesExecuted ∨ e = .raised name) :
    EngineRecord job c₀ (es ++ [e]) rest' c' where
  record := record
  tools := h.tools.more other tools
  requested := requested.trans h.requested
  skipped := skipped.trans h.skipped
  engines := by
    intro name member
    rcases h.engines name member with todo | done | raised
    · rcases run name todo with later | now | now
      · exact Or.inl later
      · exact Or.inr (Or.inl now)
      · exact Or.inr (Or.inr (List.mem_append_right _ (List.mem_singleton.mpr now.symm)))
    · exact Or.inr (Or.inl (executed name done))
    · exact Or.inr (Or.inr (List.mem_append_left _ raised))

/-- An event that may come at any phase: it may leave a limitation, and nothing else. -/
theorem CoverageHistory.callback {phase : CoveragePhase} (active : phase.active = true)
    (h : CoverageHistory job c₀ es ⟨c, phase⟩) {status : CoverageStatus} {assessed : Bool}
    {limitations : List String} (other : ∀ tools, e ≠ .discovery tools)
    (record : ∀ skips, CoverageRecord job c₀ es skips c → CoverageRecord job c₀ (es ++ [e]) skips
      { c with
        coverageStatus := status
        isFullyAssessed := assessed
        coverageLimitations := limitations }) :
    CoverageHistory job c₀ (es ++ [e])
      ⟨{ c with
          coverageStatus := status
          isFullyAssessed := assessed
          coverageLimitations := limitations }, phase⟩ := by
  cases phase with
  | started =>
      obtain ⟨before, unavailable, none⟩ := h
      refine ⟨record True before, unavailable, fun tools member => ?_⟩
      rcases List.mem_append.mp member with early | last
      · exact none tools early
      · exact other tools (List.mem_singleton.mp last).symm
  | discovered => exact ⟨record True h.1, h.2.more other rfl⟩
  | running todo =>
      obtain ⟨some, engines⟩ := h
      exact ⟨some, engines.more (record _ engines.record) other rfl rfl rfl (fun _ => id)
        fun _ => Or.inl⟩
  | completed => cases active

/-- One update records what it is. -/
theorem step_coverageHistory {s t : CoverageRun} (h : CoverageHistory job c₀ es s)
    (step : CoverageStep job s e t) : CoverageHistory job c₀ (es ++ [e]) t := by
  cases step with
  | @discovery c tools =>
      obtain ⟨before, unavailable, none⟩ := h
      refine ⟨before.quiet rfl ?_ ?_, tools, fun tools' => ?_, ?_⟩
      · cases tools <;> rfl
      · cases tools <;> rfl
      · rw [List.mem_append, List.mem_singleton, or_iff_right (none tools'),
          CoverageEvent.discovery.injEq]
      · cases tools with
        | none => exact unavailable
        | some tools => rfl
  | noneApplicable none => exact Or.inl ⟨rfl, none⟩
  | @selected c some =>
      obtain ⟨before, tools⟩ := h
      have record : CoverageRecord job c₀ (es ++ [.selected]) True c := before.quiet rfl rfl rfl
      obtain ⟨status, assessed, limitations, empty, selected⟩ := foldl_skipped job.skipped
        { c with enginesRequested := job.enabledEngines, enginesSkipped := job.skipped }
      refine ⟨some, ?_⟩
      simp only [AssessmentCoverage.selected, selected]
      refine ⟨⟨record.failed, ?_⟩, tools.more nofun rfl, rfl, rfl, fun name => Or.inl⟩
      rw [empty, record.limitations, and_true, and_comm, and_assoc]
  | @returned c engine todo =>
      obtain ⟨some, engines⟩ := h
      refine ⟨some, engines.more (engines.record.quiet rfl rfl rfl) nofun rfl rfl rfl
        (fun name done => mem_appendOnce.mpr (Or.inl done)) fun name todo => ?_⟩
      rcases List.mem_cons.mp todo with rfl | later
      · exact Or.inr (Or.inl (mem_appendOnce.mpr (Or.inr rfl)))
      · exact Or.inl later
  | @raised c engine todo =>
      obtain ⟨some, engines⟩ := h
      refine ⟨some, engines.more (engines.record.limited rfl (appendOnce_ne_nil _ _) ?_) nofun rfl rfl
        rfl (fun _ => id) fun name todo => ?_⟩
      · refine ⟨fun none => absurd none (appendOnce_ne_nil _ _), fun h => ?_⟩
        exact absurd rfl (h.2 engine)
      · rcases List.mem_cons.mp todo with rfl | later
        · exact Or.inr (Or.inr rfl)
        · exact Or.inl later
  | @toolState c phase toolName state engine active =>
      rcases emitToolExecutionState_cases job c toolName state engine with
        ⟨quiet, same⟩ | ⟨limits, limitations, some, degraded⟩
      · rw [same]
        exact h.callback active nofun fun skips record => record.quiet quiet rfl rfl
      · rw [degraded]
        refine h.callback active nofun fun skips record => record.limited limits some ?_
        exact ⟨fun none => ⟨none, nofun⟩, And.left⟩
  | finding active => exact h.callback active nofun fun skips record => record.quiet rfl rfl rfl
  | finished =>
      obtain ⟨some, engines⟩ := h
      exact Or.inr ⟨some, engines.more (engines.record.quiet rfl rfl rfl) nofun rfl rfl rfl
        (fun _ => id) fun _ => Or.inl⟩

end Step

/-! ### A completed scan -/

section Completed

variable {c₀ c : AssessmentCoverage} {es : List CoverageEvent} {t : CoverageRun}

/-- What an execution has recorded when it ends. -/
theorem coverageHistory_run (r : Run (CoverageStep job) ⟨c₀, .started⟩ es t) :
    CoverageHistory job c₀ es t := by
  have start : CoverageHistory job c₀ [] ⟨c₀, .started⟩ :=
    ⟨⟨by simp, by simp⟩, rfl, fun _ => List.not_mem_nil⟩
  exact r.history (fun _ _ _ _ h step => step_coverageHistory h step) start

/-- The coverage that is saved is that of the execution. -/
theorem completed_coverage (r : Run (CoverageStep job) ⟨c₀, .started⟩ es t)
    (done : t.phase = .completed c) : t.coverage = c := by
  have saved : ∀ c, t.phase = .completed c → t.coverage = c := by
    refine r.invariant (I := fun s => ∀ c, s.phase = .completed c → s.coverage = c) ?_ nofun
    intro s e u _ step c done
    cases step with
    | noneApplicable => cases done; rfl
    | finished => cases done; rfl
    | toolState => cases done; contradiction
    | finding => cases done; contradiction
    | _ => cases done
  exact saved c done

variable (job c₀ es) in
/-- An execution that leaves nothing out: engines are requested and all apply, none raises, the tools
that are known complete, all adapters are active, and nothing was recorded before. -/
structure CleanRun : Prop where
  requested : job.enabledEngines ≠ []
  applicable : ∀ name ∈ job.enabledEngines, job.applicable name = true
  failed : c₀.enginesFailed = []
  limitations : c₀.coverageLimitations = []
  events : ∀ e ∈ es, e.limits job = false
  tools : ∀ tools, .discovery tools ∈ es → (c₀.discovered tools).toolsUnavailable = []

theorem noneApplicable_requested : job.noneApplicable.enginesRequested = job.enabledEngines := by
  unfold CoverageJob.noneApplicable
  cases job.enabledEngines <;> rfl

theorem noneApplicable_skipped : job.noneApplicable.enginesSkipped = job.enabledEngines := by
  unfold CoverageJob.noneApplicable
  cases job.enabledEngines <;> rfl

theorem skipped_eq_nil : job.skipped = [] ↔ ∀ name ∈ job.enabledEngines, job.applicable name = true := by
  rw [CoverageJob.skipped, List.filter_eq_nil_iff]
  refine forall₂_congr fun name member => ?_
  simp [CoverageJob.engines, member]

theorem EngineRecord.unblemished (h : EngineRecord job c₀ es [] c) :
    c.Unblemished ↔ CleanRun job c₀ es := by
  obtain ⟨tools, only, unavailable⟩ := h.tools
  constructor
  · intro fine
    obtain ⟨before, events, skips⟩ := h.record.limitations.mp fine.limitations
    refine ⟨h.requested ▸ fine.requested, skipped_eq_nil.mp skips, (h.record.failed.mp fine.failed).1,
      before, events, fun tools' member => ?_⟩
    rw [(only tools').mp member, ← unavailable]
    exact fine.unavailable
  · intro clean
    have quiet : ∀ name, .raised name ∉ es := by
      intro name member
      cases clean.events _ member
    refine ⟨h.requested.symm ▸ clean.requested, fun name requested => ?_, ?_, ?_, ?_, ?_⟩
    · rw [h.requested] at requested
      have engine : name ∈ job.engines :=
        List.mem_filter.mpr ⟨requested, clean.applicable name requested⟩
      rcases h.engines name engine with todo | done | raised
      · cases todo
      · exact done
      · exact absurd raised (quiet name)
    · exact h.record.failed.mpr ⟨clean.failed, quiet⟩
    · exact h.skipped.trans (skipped_eq_nil.mpr clean.applicable)
    · exact unavailable.trans (clean.tools tools ((only tools).mpr rfl))
    · exact h.record.limitations.mpr
        ⟨clean.limitations, clean.events, skipped_eq_nil.mpr clean.applicable⟩

/-- What a completed scan has saved is unblemished if its execution left nothing out. -/
theorem unblemished_iff (r : Run (CoverageStep job) ⟨c₀, .started⟩ es t)
    (done : t.phase = .completed c) : c.Unblemished ↔ CleanRun job c₀ es := by
  have history := coverageHistory_run r
  rw [CoverageHistory, done] at history
  rcases history with ⟨rfl, none⟩ | ⟨-, engines⟩
  · refine ⟨fun fine => absurd ?_ fine.requested, fun clean => absurd ?_ clean.requested⟩
    · rw [noneApplicable_requested, ← noneApplicable_skipped]
      exact fine.skipped
    · refine List.eq_nil_iff_forall_not_mem.mpr fun name member => ?_
      have engine : name ∈ job.engines := List.mem_filter.mpr ⟨member, clean.applicable name member⟩
      rw [none] at engine
      cases engine
  · exact engines.unblemished

/-- Whatever a scan was executed with and however its updates came: what it has saved when it completes
tells the truth if and only if it requested an engine and its execution left something out. -/
theorem coverage_truth (stored : StoredCoverage job c₀)
    (r : Run (CoverageStep job) ⟨c₀, .started⟩ es t) (done : t.phase = .completed c) :
    CoverageTruth c ↔ job.enabledEngines ≠ [] ∧ ¬ CleanRun job c₀ es := by
  have withheld : c.Withheld job := completed_coverage r done ▸ (StoredCoverage.saved stored r).withheld
  have never : ¬ (c.isFullyAssessed = true ∧ c.coverageStatus = .complete) := by
    rintro ⟨-, complete⟩
    cases withheld.1.symm.trans complete
  rw [← unblemished_iff r done]
  constructor
  · intro truth
    refine ⟨fun none => ?_, fun fine => never (truth.complete.mpr fine)⟩
    have history := coverageHistory_run r
    rw [CoverageHistory, done] at history
    have engines : job.engines = [] := by rw [CoverageJob.engines, none, List.filter_nil]
    rcases history with ⟨rfl, -⟩ | ⟨some, -⟩
    · have assessed := congrArg isFullyAssessed truth.fixed
      simp [CoverageJob.noneApplicable, none, enforceCoverageState, hasGaps] at assessed
    · exact some engines
  · rintro ⟨some, blemished⟩
    refine ⟨iff_of_false never blemished, enforceCoverageState_of_degraded withheld.1 ?_⟩
    exact Bool.eq_false_iff.mpr fun assessed => some (withheld.2 assessed)

end Completed

namespace Sample

/-- One engine, which applies. -/
def networkJob : CoverageJob := ⟨["network"], fun _ => true, fun _ => none⟩

/-- Its execution, up to what becomes of the engine. -/
theorem networkRun {e : CoverageEvent} {c : AssessmentCoverage}
    (step : CoverageStep networkJob
      ⟨{ enginesRequested := ["network"] }, .running ["network"]⟩ e ⟨c, .running []⟩) :
    Run (CoverageStep networkJob) ⟨{}, .started⟩ [.discovery (some [("nmap", true)]), .selected, e, .finished]
      ⟨c, .completed c⟩ :=
  .more (.discovery _) (.more (.selected (by decide)) (.more step (.more .finished (.refl _))))

end Sample

/-- The engine raises: the coverage says so. -/
theorem coverage_truth_raised :
    CoverageTruth (({ enginesRequested := ["network"] } : AssessmentCoverage).failed "network") := by
  refine (coverage_truth .created (Sample.networkRun .raised) rfl).mpr ⟨by decide, fun clean => ?_⟩
  cases clean.events (.raised "network") (by simp)

/-- The engine returns and nothing was left out: the coverage is degraded all the same. -/
theorem coverage_untruth :
    ¬ ∀ (job : CoverageJob) (c₀ c : AssessmentCoverage) (es : List CoverageEvent) (t : CoverageRun),
      StoredCoverage job c₀ → Run (CoverageStep job) ⟨c₀, .started⟩ es t → t.phase = .completed c →
      CoverageTruth c := by
  intro h
  have truth := h Sample.networkJob _ _ _ _ .created (Sample.networkRun .returned) rfl
  have fine : (({ enginesRequested := ["network"] } : AssessmentCoverage).executed "network").Unblemished :=
    ⟨by decide, by decide, rfl, rfl, rfl, rfl⟩
  cases (truth.complete.mpr fine).2

end CyberAssess
