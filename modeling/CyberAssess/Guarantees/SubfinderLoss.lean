import CyberAssess.Adapters.Subfinder

/-!
# Guarantees — what becomes of the hosts a tool reports

The records of an output, and what a run makes of them.

* `scopedHosts` and `sourcesFor` say what the records report, whatever their order.
* `Faithful` is what is promised of a run: each host once, with the sources of all its records.
* `After` is what holds after some records; `After.step` that one more record keeps it.
* `subfinder_faithful`: the runs that keep the promise.
-/

namespace CyberAssess.SubfinderAdapter

open Python

/-! ### What the records report -/

section Reports

variable (h : SubfinderHost) (apex : String)

/-- The host of a record in scope. -/
def Record.admitted : Record → Option String
  | .malformed => none
  | .found host _ => if classifyScope h host apex = .inScope then some host else none

/-- The host and the sources of a record out of scope. -/
def Record.rejection : Record → Option (String × List Points)
  | .malformed => none
  | .found host sources =>
      if classifyScope h host apex = .inScope then none else some (host, sorted sources)

/-- The hosts in scope, each once, where it is first reported. -/
def scopedHosts (rs : List Record) : List String := fromKeys (rs.filterMap (Record.admitted h apex))

/-- The sources of a record of `host`. -/
def Record.sourcesFor (host : String) : Record → Option (List Points)
  | .malformed => none
  | .found host' sources => if host' = host then some sources else none

/-- The sources of the records of `host`, record by record. -/
def sourcesFor (rs : List Record) (host : String) : List (List Points) :=
  rs.filterMap (Record.sourcesFor host)

/-- The state a run is to be published with. -/
def expectedState (rs : List Record) (findings : List Finding) : ExecutionState :=
  if rs.any (· matches .malformed) || maxDomains < (scopedHosts h apex rs).length then
    .partialResultsWithWarning
  else if findings.isEmpty then .completedNoFindings
  else .completedWithFindings

/-- What is promised of a run: each host in scope up to the limit is emitted once and no other host,
with the sources of all its records; the records out of scope are rejected; and the state is right. -/
structure Faithful (rs : List Record) (result : SubfinderResult) : Prop where
  once : (result.subdomains.map (·.domain)).Nodup
  hosts : ∀ host, host ∈ result.subdomains.map (·.domain) ↔
    host ∈ (scopedHosts h apex rs).take maxDomains
  sources : ∀ e ∈ result.subdomains, ∀ source,
    source ∈ e.sources ↔ ∃ sources ∈ sourcesFor rs e.domain, source ∈ sources
  rejected : result.rejected.map (fun r => (r.domain, r.sources)) =
    rs.filterMap (Record.rejection h apex)
  state : result.states = [(expectedState h apex rs result.findings).published]

/-- The records a run is faithful to: there is an organization to reject in, no later record of a host
has a source its first has not, and where there is a host, something is left out. -/
structure Reportable (k : Kwargs) (rs : List Record) : Prop where
  organization : k.organizationId = none → rs.filterMap (Record.rejection h apex) = []
  first : ∀ host ∈ (scopedHosts h apex rs).take maxDomains, ∀ sources ∈ sourcesFor rs host,
    sources ⊆ (sourcesFor rs host).headD []
  partialResults : scopedHosts h apex rs ≠ [] →
    rs.any (· matches .malformed) = true ∨ maxDomains < (scopedHosts h apex rs).length

end Reports

section

variable {h : SubfinderHost} {k : Kwargs} {apex : String} {rs : List Record} {r : Record}
variable {host : String} {sources : List Points}

theorem mem_scopedHosts : host ∈ scopedHosts h apex rs ↔
    classifyScope h host apex = .inScope ∧ sourcesFor rs host ≠ [] := by
  rw [scopedHosts, mem_fromKeys, List.mem_filterMap, sourcesFor, ne_eq, List.filterMap_eq_nil_iff]
  constructor
  · rintro ⟨r, mem, within⟩
    cases r with
    | malformed => cases within
    | found host' sources =>
        rw [Record.admitted] at within
        split at within
        · rename_i inScope
          cases within
          exact ⟨inScope, fun none_ => by simpa [Record.sourcesFor] using none_ _ mem⟩
        · cases within
  · rintro ⟨inScope, some_⟩
    push Not at some_
    obtain ⟨r, mem, own⟩ := some_
    refine ⟨r, mem, ?_⟩
    cases r with
    | malformed => exact absurd rfl own
    | found host' sources =>
        rw [Record.sourcesFor, ne_eq, ite_eq_right_iff, Classical.not_imp] at own
        rw [← own.1] at inScope ⊢
        rw [Record.admitted, if_pos inScope]

theorem scopedHosts_snoc_none (none_ : r.admitted h apex = none) :
    scopedHosts h apex (rs ++ [r]) = scopedHosts h apex rs := by
  rw [scopedHosts, List.filterMap_append, List.filterMap_cons_none none_, List.filterMap_nil,
    List.append_nil, scopedHosts]

theorem scopedHosts_snoc_some (some_ : r.admitted h apex = some host) :
    scopedHosts h apex (rs ++ [r]) =
      if host ∈ scopedHosts h apex rs then scopedHosts h apex rs
      else scopedHosts h apex rs ++ [host] := by
  rw [scopedHosts, List.filterMap_append, List.filterMap_cons_some some_, List.filterMap_nil,
    fromKeys_snoc]
  rfl

/-- The first record of a host stays the first. -/
theorem headD_sourcesFor_snoc (some_ : sourcesFor rs host ≠ []) :
    (sourcesFor (rs ++ [r]) host).headD [] = (sourcesFor rs host).headD [] := by
  rw [sourcesFor, List.filterMap_append]
  obtain ⟨first, rest, split⟩ := List.exists_cons_of_ne_nil some_
  rw [sourcesFor] at split
  rw [sourcesFor, split]
  rfl

/-! ### After some records -/

/-- What holds after the records `rs`. -/
structure After (h : SubfinderHost) (k : Kwargs) (apex : String) (rs : List Record) (s : Discovery) :
    Prop where
  hosts : s.discoveredHosts = (scopedHosts h apex rs).take maxDomains
  warnings : s.parserWarnings ≠ 0 ↔ rs.any (· matches .malformed) = true
  limit : s.limitReached = true ↔ maxDomains < (scopedHosts h apex rs).length
  subdomains : s.subdomains =
    s.discoveredHosts.map fun host => subdomainOf k apex host ((sourcesFor rs host).headD [])
  rejected : s.rejected.map (fun r => (r.domain, r.sources)) = rs.filterMap (Record.rejection h apex)

variable {s t : Discovery}

theorem After.mem_hosts (after : After h k apex rs s) (mem : host ∈ s.discoveredHosts) :
    host ∈ scopedHosts h apex rs := by
  rw [after.hosts] at mem
  exact List.mem_of_mem_take mem

/-- One more record leaves what was emitted as the first records of the hosts say. -/
theorem After.subdomains_snoc (after : After h k apex rs s) (r : Record) :
    s.subdomains = s.discoveredHosts.map fun host =>
      subdomainOf k apex host ((sourcesFor (rs ++ [r]) host).headD []) := by
  rw [after.subdomains]
  refine List.map_congr_left fun host mem => ?_
  rw [headD_sourcesFor_snoc (mem_scopedHosts.mp (after.mem_hosts mem)).2]

/-- A malformed record. -/
theorem After.malformed (after : After h k apex rs s) :
    After h k apex (rs ++ [.malformed]) { s with parserWarnings := s.parserWarnings + 1 } where
  hosts := by
    rw [scopedHosts_snoc_none rfl]
    exact after.hosts
  warnings := by simp
  limit := by
    rw [scopedHosts_snoc_none rfl]
    exact after.limit
  subdomains := after.subdomains_snoc .malformed
  rejected := by
    rw [List.filterMap_append]
    exact after.rejected.trans (List.append_nil _).symm

/-- A record out of scope, with what is rejected of it. -/
theorem After.outside (after : After h k apex rs s) (out : classifyScope h host apex ≠ .inScope)
    {rejection : RejectedDiscovery} (rejected : rejectedOf k apex host sources = .ok rejection) :
    After h k apex (rs ++ [.found host sources])
      { s with outOfScope := s.outOfScope + 1, rejected := s.rejected ++ [rejection] } := by
  have outside : (Record.found host sources).admitted h apex = none := if_neg out
  refine ⟨?_, ?_, ?_, after.subdomains_snoc _, ?_⟩
  · rw [scopedHosts_snoc_none outside]
    exact after.hosts
  · simpa using after.warnings
  · rw [scopedHosts_snoc_none outside]
    exact after.limit
  · rw [List.map_append, List.filterMap_append, after.rejected]
    rw [rejectedOf] at rejected
    split at rejected
    · cases rejected
      simp [Record.rejection, out]
    · cases rejected

/-- A record in scope. -/
theorem After.within (after : After h k apex rs s) (given : k.emitSubdomain = true)
    (inScope : classifyScope h host apex = .inScope)
    (step : Discovery.record h k apex s (.found host sources) = .ok t) :
    After h k apex (rs ++ [.found host sources]) t := by
  have within : (Record.found host sources).admitted h apex = some host := if_pos inScope
  have outside : (Record.found host sources).rejection h apex = none := if_pos inScope
  have rejected : s.rejected.map (fun r => (r.domain, r.sources)) =
      (rs ++ [Record.found host sources]).filterMap (Record.rejection h apex) := by
    rw [List.filterMap_append, List.filterMap_cons_none outside, List.filterMap_nil,
      List.append_nil, after.rejected]
  have warnings : s.parserWarnings ≠ 0 ↔
      (rs ++ [Record.found host sources]).any (· matches .malformed) = true := by
    simpa using after.warnings
  have length := congrArg List.length after.hosts
  rw [List.length_take] at length
  rw [Discovery.record, if_neg (not_not.mpr inScope)] at step
  by_cases old : host ∈ s.discoveredHosts
  · -- A later record of a host that was emitted.
    rw [if_pos old] at step
    cases step
    have same : scopedHosts h apex (rs ++ [.found host sources]) = scopedHosts h apex rs := by
      rw [scopedHosts_snoc_some within, if_pos (after.mem_hosts old)]
    exact ⟨same ▸ after.hosts, warnings, same ▸ after.limit, after.subdomains_snoc _, rejected⟩
  rw [if_neg old] at step
  by_cases full : maxDomains ≤ s.discoveredHosts.length
  · -- The limit drops the host.
    rw [if_pos full] at step
    cases step
    have more : maxDomains < (scopedHosts h apex (rs ++ [.found host sources])).length := by
      rw [scopedHosts_snoc_some within]
      split
      · rename_i known
        rw [← List.take_append_drop maxDomains (scopedHosts h apex rs), ← after.hosts,
          List.mem_append] at known
        have dropped := List.length_pos_of_mem (known.resolve_left old)
        rw [List.length_drop] at dropped
        omega
      · rw [List.length_append, List.length_singleton]
        omega
    refine ⟨?_, warnings, iff_of_true rfl more, after.subdomains_snoc _, rejected⟩
    rw [scopedHosts_snoc_some within]
    split
    · exact after.hosts
    · rw [List.take_append_of_le_length (by omega)]
      exact after.hosts
  · -- The host is new.
    rw [if_neg full, if_pos given] at step
    cases step
    have all : s.discoveredHosts = scopedHosts h apex rs := by
      rw [after.hosts]
      exact List.take_of_length_le (by omega)
    have new : host ∉ scopedHosts h apex rs := all ▸ old
    have first : sourcesFor rs host = [] := by
      by_contra some_
      exact new (mem_scopedHosts.mpr ⟨inScope, some_⟩)
    have grown : scopedHosts h apex (rs ++ [.found host sources]) = scopedHosts h apex rs ++ [host] := by
      rw [scopedHosts_snoc_some within, if_neg new]
    refine ⟨?_, warnings, ?_, ?_, rejected⟩
    · rw [grown, all, List.take_of_length_le]
      rw [List.length_append, List.length_singleton, ← all]
      omega
    · rw [grown, List.length_append, List.length_singleton, ← all, after.limit, ← all]
      refine iff_of_false (by omega) (by omega)
    · rw [List.map_append, ← after.subdomains_snoc, List.map_singleton, sourcesFor,
        List.filterMap_append, ← sourcesFor, first]
      simp [Record.sourcesFor]

/-- What one more record keeps. -/
theorem After.step (after : After h k apex rs s) (subdomain : k.emitSubdomain = true)
    (rejected : k.emitRejected = true) (step : Discovery.record h k apex s r = .ok t) :
    After h k apex (rs ++ [r]) t := by
  cases r with
  | malformed =>
      cases step
      exact after.malformed
  | found host sources =>
      by_cases inScope : classifyScope h host apex = .inScope
      · exact after.within subdomain inScope step
      · rw [Discovery.record, if_pos inScope, if_pos rejected, Checked.bind_ok] at step
        obtain ⟨rejection, there, same⟩ := step
        cases same
        exact after.outside inScope there

variable (h apex s r) in
/-- A record is refused where it is out of scope and there is no organization. -/
theorem record_ok_iff (rejected : k.emitRejected = true) :
    (∃ t, Discovery.record h k apex s r = .ok t) ↔
      (k.organizationId = none → r.rejection h apex = none) := by
  cases r with
  | malformed => exact iff_of_true ⟨_, rfl⟩ fun _ => rfl
  | found host sources =>
      by_cases inScope : classifyScope h host apex = .inScope
      · refine iff_of_true ?_ fun _ => if_pos inScope
        rw [Discovery.record, if_neg (not_not.mpr inScope)]
        split
        · exact ⟨_, rfl⟩
        · split <;> exact ⟨_, rfl⟩
      · rw [Discovery.record, if_pos inScope, if_pos rejected, Record.rejection, if_neg inScope,
          rejectedOf]
        cases k.organizationId with
        | none => exact iff_of_false (by rintro ⟨t, ⟨⟩⟩) fun all => absurd (all rfl) (by rintro ⟨⟩)
        | some organizationId => exact iff_of_true ⟨_, rfl⟩ (by rintro ⟨⟩)

/-- What holds after all records. -/
theorem after_records (subdomain : k.emitSubdomain = true) (rejected : k.emitRejected = true)
    (rs : List Record) : ∀ {s : Discovery}, Discovery.records h k apex {} rs = .ok s →
      After h k apex rs s := by
  induction rs using List.reverseRecOn with
  | nil =>
      intro s run
      cases run
      exact ⟨rfl, by simp, by simp [scopedHosts], rfl, rfl⟩
  | append_singleton rs r ih =>
      intro s run
      rw [Discovery.records, List.foldlM_append, Checked.bind_ok] at run
      obtain ⟨s₁, run, last⟩ := run
      rw [List.foldlM_cons, Checked.bind_ok] at last
      obtain ⟨s₂, step, same⟩ := last
      cases same
      exact (ih run).step subdomain rejected step

variable (h apex) in
/-- The loop comes to its end where it has nothing to reject or an organization to reject it in. -/
theorem records_ok_iff (rejected : k.emitRejected = true) (rs : List Record) : ∀ s : Discovery,
    (∃ t, Discovery.records h k apex s rs = .ok t) ↔
      (k.organizationId = none → rs.filterMap (Record.rejection h apex) = []) := by
  induction rs with
  | nil => exact fun s => iff_of_true ⟨s, rfl⟩ fun _ => rfl
  | cons r rs ih =>
      intro s
      have own := record_ok_iff h apex r s rejected
      rw [Discovery.records, List.foldlM_cons]
      simp only [Checked.bind_ok]
      constructor
      · rintro ⟨t, s₁, step, run⟩ missing
        rw [List.filterMap_cons_none (own.mp ⟨s₁, step⟩ missing)]
        exact (ih s₁).mp ⟨t, run⟩ missing
      · intro nothing
        have head : k.organizationId = none → r.rejection h apex = none := by
          intro missing
          cases found : r.rejection h apex with
          | none => rfl
          | some rejection =>
              have none_ := nothing missing
              rw [List.filterMap_cons_some found] at none_
              cases none_
        obtain ⟨s₁, step⟩ := own.mpr head
        obtain ⟨t, run⟩ := (ih s₁).mpr fun missing => by
          have none_ := nothing missing
          rwa [List.filterMap_cons_none (head missing)] at none_
        exact ⟨t, s₁, step, run⟩

/-! ### The report -/

theorem published_inj {a b : ExecutionState} (same : a.published = b.published) : a = b := by
  cases a <;> cases b <;> first | rfl | exact absurd same (by decide)

/-- The state is right where nothing is found or something is left out. -/
theorem After.state_iff (after : After h k apex rs s) {exit : ToolExit} (code : exit.code = 0)
    (domain : String) :
    stateAfter h exit s = expectedState h apex rs (report h k domain exit s).findings ↔
      (scopedHosts h apex rs ≠ [] →
        rs.any (· matches .malformed) = true ∨ maxDomains < (scopedHosts h apex rs).length) := by
  have partialResults : (s.parserWarnings ≠ 0 || s.limitReached) = true ↔
      (rs.any (· matches .malformed) || maxDomains < (scopedHosts h apex rs).length) = true := by
    rw [Bool.or_eq_true, Bool.or_eq_true, decide_eq_true_eq, decide_eq_true_eq, after.warnings,
      after.limit]
  have empty : (report h k domain exit s).findings.isEmpty = true ↔ scopedHosts h apex rs = [] := by
    rw [report]
    have none_ : s.discoveredHosts.isEmpty = true ↔ scopedHosts h apex rs = [] := by
      rw [List.isEmpty_iff, after.hosts, List.take_eq_nil_iff]
      exact or_iff_right (by decide)
    rw [← none_]
    cases s.discoveredHosts.isEmpty <;> simp
  rw [stateAfter, if_neg (not_not.mpr code), expectedState]
  by_cases some_ : (rs.any (· matches .malformed) ||
      maxDomains < (scopedHosts h apex rs).length) = true
  · rw [if_pos (partialResults.mpr some_), if_pos some_]
    rw [Bool.or_eq_true, decide_eq_true_eq] at some_
    exact iff_of_true rfl fun _ => some_
  · rw [if_neg (partialResults.not.mpr some_), if_neg some_]
    rw [Bool.or_eq_true, decide_eq_true_eq] at some_
    by_cases nothing : scopedHosts h apex rs = []
    · rw [if_pos (empty.mpr nothing)]
      exact iff_of_true rfl fun found => absurd nothing found
    · rw [if_neg (empty.not.mpr nothing)]
      exact iff_of_false nofun fun all => some_ (all nothing)

/-- The sources are those of all records where the first has them all. -/
theorem After.sources_iff (after : After h k apex rs s) :
    (∀ e ∈ s.subdomains, ∀ source,
        source ∈ e.sources ↔ ∃ sources ∈ sourcesFor rs e.domain, source ∈ sources) ↔
      ∀ host ∈ (scopedHosts h apex rs).take maxDomains, ∀ sources ∈ sourcesFor rs host,
        sources ⊆ (sourcesFor rs host).headD [] := by
  rw [after.subdomains, List.forall_mem_map, ← after.hosts]
  refine forall₂_congr fun host mem => ?_
  have reported : ∀ source, source ∈ (subdomainOf k apex host ((sourcesFor rs host).headD [])).sources ↔
      source ∈ (sourcesFor rs host).headD [] := by
    intro source
    rw [subdomainOf, (sorted_perm _).mem_iff, mem_fromKeys]
  obtain ⟨first, rest, split⟩ := List.exists_cons_of_ne_nil
    (mem_scopedHosts.mp (after.mem_hosts mem)).2
  constructor
  · intro all sources there source own
    exact (reported source).mp ((all source).mpr ⟨sources, there, own⟩)
  · intro all source
    rw [reported]
    constructor
    · intro own
      refine ⟨(sourcesFor rs host).headD [], ?_, own⟩
      change (sourcesFor rs host).headD [] ∈ sourcesFor rs host
      rw [split]
      exact List.mem_cons_self
    · rintro ⟨sources, there, own⟩
      exact all sources there own

/-- What is reported of the records. -/
theorem After.faithful_iff (after : After h k apex rs s) {exit : ToolExit} (code : exit.code = 0)
    (state : k.emitState = true) (domain : String) :
    Faithful h apex rs (report h k domain exit s) ↔
      (∀ host ∈ (scopedHosts h apex rs).take maxDomains, ∀ sources ∈ sourcesFor rs host,
          sources ⊆ (sourcesFor rs host).headD []) ∧
        (scopedHosts h apex rs ≠ [] →
          rs.any (· matches .malformed) = true ∨ maxDomains < (scopedHosts h apex rs).length) := by
  have domains : s.subdomains.map (·.domain) = (scopedHosts h apex rs).take maxDomains := by
    rw [after.subdomains, List.map_map, after.hosts]
    exact List.map_id _
  have published : (report h k domain exit s).states =
      [(expectedState h apex rs (report h k domain exit s).findings).published] ↔
        stateAfter h exit s = expectedState h apex rs (report h k domain exit s).findings := by
    have own : (report h k domain exit s).states = [(stateAfter h exit s).published] := if_pos state
    rw [own]
    constructor
    · intro same
      exact published_inj (List.singleton_inj.mp same)
    · intro same
      rw [same]
  rw [← after.sources_iff, ← after.state_iff (k := k) code domain, ← published]
  constructor
  · intro faithful
    exact ⟨faithful.sources, faithful.state⟩
  · rintro ⟨sources, state⟩
    refine ⟨?_, ?_, sources, after.rejected, state⟩
    · rw [show (report h k domain exit s).subdomains = s.subdomains from rfl, domains]
      exact (nodup_fromKeys _).sublist (List.take_sublist _ _)
    · intro host
      rw [show (report h k domain exit s).subdomains = s.subdomains from rfl, domains]

end

/-- **Nothing is lost or invented** of the records of a process that exits with 0 exactly where the
records are reportable. -/
theorem subfinder_faithful (h : SubfinderHost) (k : Kwargs) (target apex : String)
    (execute : String → ToolExit) (valid : apexOf h target = some apex)
    (given : k.emitSubdomain = true ∧ k.emitRejected = true ∧ k.emitState = true)
    (code : (execute apex).code = 0) :
    (∃ result, run h k target execute = .ok result ∧
        Faithful h apex (recordsOf h (execute apex).stdout) result) ↔
      Reportable h apex k (recordsOf h (execute apex).stdout) := by
  obtain ⟨subdomain, rejected, state⟩ := given
  have started : run h k target execute =
      (Discovery.records h k apex {} (recordsOf h (execute apex).stdout)).map
        (report h k (domainOf h target) (execute apex)) := by
    rw [run, valid]
    simp only [code, ne_eq, not_true_eq_false, decide_false, Bool.false_and, Bool.false_eq_true,
      if_false]
    rfl
  generalize recordsOf h (execute apex).stdout = rs at started ⊢
  have finished := records_ok_iff h apex rejected rs {}
  rw [started]
  constructor
  · rintro ⟨result, ran, faithful⟩
    cases looped : Discovery.records h k apex {} rs with
    | error e =>
        rw [looped] at ran
        cases ran
    | ok s =>
        rw [looped] at ran
        cases ran
        have after := after_records subdomain rejected rs looped
        obtain ⟨first, partialResults⟩ := (after.faithful_iff code state _).mp faithful
        exact ⟨finished.mp ⟨s, looped⟩, first, partialResults⟩
  · intro reportable
    obtain ⟨s, looped⟩ := finished.mpr reportable.organization
    have after := after_records subdomain rejected rs looped
    refine ⟨report h k (domainOf h target) (execute apex) s, ?_, ?_⟩
    · rw [looped]
      rfl
    · exact (after.faithful_iff code state _).mpr ⟨reportable.first, reportable.partialResults⟩

namespace Sample

/-- Hosts in ASCII. -/
def host : SubfinderHost where
  lower := fun value => value.map fun p => point (Char.ofNat p.val).toLower
  idna := fun value => some (value.map fun p => Char.ofNat p.val)
  hostname := fun _ => none
  listOfSet := id
  dumps := fun _ => "[]"
  newId := "find-1"

/-- All callbacks are given. -/
def kwargs : Kwargs where
  emitSubdomain := true
  emitRejected := true
  emitState := true
  scanId := some "scan-1"
  organizationId := some "org-a"

/-- The process writes `stdout` and exits with 0. -/
def writes (stdout : String) (_ : String) : ToolExit := ⟨0, stdout, ""⟩

/-- One host is found. -/
def oneHost : String := "\x7b\"host\":\"a.b.io\"\x7d"

theorem apex_valid : apexOf host "b.io" = some "b.io" := by decide +kernel

end Sample

/-- One host is found, or a line cannot be read. -/
theorem subfinder_faithful_oneHost :
    (∃ result, run Sample.host Sample.kwargs "b.io" (Sample.writes Sample.oneHost) = .ok result ∧
        Faithful Sample.host "b.io" (recordsOf Sample.host Sample.oneHost) result) ↔
      Reportable Sample.host "b.io" Sample.kwargs (recordsOf Sample.host Sample.oneHost) :=
  subfinder_faithful Sample.host Sample.kwargs "b.io" "b.io" (Sample.writes Sample.oneHost)
    Sample.apex_valid ⟨rfl, rfl, rfl⟩ rfl

/-- One host is found and reported, and the run is published as one without findings. -/
theorem oneHost_unpublished :
    ¬ ∀ (h : SubfinderHost) (k : Kwargs) (target apex : String) (execute : String → ToolExit),
      apexOf h target = some apex →
      k.emitSubdomain = true ∧ k.emitRejected = true ∧ k.emitState = true →
      (execute apex).code = 0 →
        ∃ result, run h k target execute = .ok result ∧
          Faithful h apex (recordsOf h (execute apex).stdout) result := by
  intro claim
  obtain ⟨result, ran, faithful⟩ := claim Sample.host Sample.kwargs "b.io" "b.io"
    (Sample.writes Sample.oneHost) Sample.apex_valid ⟨rfl, rfl, rfl⟩ rfl
  have reported : (run Sample.host Sample.kwargs "b.io" (Sample.writes Sample.oneHost)).toOption.map
      (fun r => (r.states, r.findings.isEmpty)) = some (["COMPLETED_NO_FINDINGS"], false) := by
    decide +kernel
  have whole : ((recordsOf Sample.host Sample.oneHost).any (· matches .malformed) ||
      maxDomains < (scopedHosts Sample.host "b.io" (recordsOf Sample.host Sample.oneHost)).length)
        = false := by
    decide +kernel
  rw [ran] at reported
  simp only [Except.toOption, Option.map_some, Option.some.injEq, Prod.mk.injEq] at reported
  have state := faithful.state
  rw [reported.1, List.singleton_inj] at state
  have expected : expectedState Sample.host "b.io" (recordsOf Sample.host Sample.oneHost)
      result.findings = .completedWithFindings := by
    rw [expectedState, whole, reported.2]
    rfl
  rw [show (Sample.writes Sample.oneHost "b.io").stdout = Sample.oneHost from rfl, expected] at state
  exact absurd state (by decide)

end CyberAssess.SubfinderAdapter
