import CyberAssess.Engines.ParameterFuzzer
import Mathlib.Data.List.Dedup

/-!
# Guarantees — every probe of the fuzzer is counted once

What `audit_parameter_fuzzing` returns, against the probes it sent.

* `FuzzProbe.Reportable`: nothing fails after the response of a probe, and nothing interrupts it.
* `runProbes_ok` and `auditUrls_ok`: what a finished run has counted and found.
* `fuzzing_accounts`: the counters add up and no detection is lost exactly where every URL is parsed
  and every probe is reportable.
-/

namespace CyberAssess

open Python

/-! ### Parameters are distinct -/

theorem setMember_keys {α : Type} (key : Points) (value : α) : ∀ d : List (Points × α),
    (Python.setMember key value d).map (·.1) =
      if key ∈ d.map (·.1) then d.map (·.1) else d.map (·.1) ++ [key]
  | [] => rfl
  | (k, v) :: d => by
      rw [Python.setMember]
      by_cases same : k = key
      · simp [same]
      · have other : key ≠ k := fun h => same h.symm
        rw [if_neg same, List.map_cons, setMember_keys key value d, List.map_cons]
        by_cases old : key ∈ d.map (·.1)
        · rw [if_pos old, if_pos (List.mem_cons_of_mem _ old)]
        · rw [if_neg old, if_neg (by simp only [List.mem_cons, other, old, or_self, not_false_eq_true])]
          rfl

/-- A dictionary has each key of its pairs once. -/
theorem dictOf_keys {α : Type} (pairs : List (Points × α)) :
    ((dictOf pairs).map (·.1)).Nodup ∧
      ∀ key, key ∈ (dictOf pairs).map (·.1) ↔ key ∈ pairs.map (·.1) := by
  induction pairs using List.reverseRecOn with
  | nil => exact ⟨List.nodup_nil, fun _ => Iff.rfl⟩
  | append_singleton pairs pair ih =>
      obtain ⟨nodup, mem⟩ := ih
      have last : dictOf (pairs ++ [pair]) = Python.setMember pair.1 pair.2 (dictOf pairs) := by
        rw [dictOf, List.foldl_append]
        rfl
      rw [last, setMember_keys]
      by_cases old : pair.1 ∈ (dictOf pairs).map (·.1)
      · rw [if_pos old]
        refine ⟨nodup, fun key => ?_⟩
        rw [List.map_append, List.mem_append, mem key]
        refine ⟨Or.inl, fun h => h.elim id fun new => ?_⟩
        rw [List.mem_singleton.mp new]
        exact (mem _).mp old
      · rw [if_neg old]
        refine ⟨nodup.append (List.nodup_singleton _) ?_, fun key => ?_⟩
        · exact List.disjoint_singleton.mpr old
        · rw [List.map_append, List.mem_append, List.mem_append, mem key]
          rfl

theorem length_dictOf {α : Type} (pairs : List (Points × α)) :
    (dictOf pairs).length = (pairs.map (·.1)).dedup.length := by
  obtain ⟨nodup, mem⟩ := dictOf_keys pairs
  have perm : ((dictOf pairs).map (·.1)).Perm (pairs.map (·.1)).dedup :=
    (List.perm_ext_iff_of_nodup nodup (List.nodup_dedup _)).mpr fun key =>
      (mem key).trans List.mem_dedup.symm
  rw [← perm.length_eq, List.length_map]

/-! ### One probe -/

variable {host : FuzzHost} {cfg : FuzzingConfig} {site : FuzzProbe → Exchange}
variable {emitFinding : Option (FuzzProbe → FuzzFinding → Awaited Unit)}
variable {parsed : FuzzUrl} {params : List (Points × Points)}

variable (host cfg site emitFinding parsed params) in
/-- Nothing interrupts a probe, and after its response nothing fails: the text is read, and what the
probe detects is a finding that is valid and that the callback takes. -/
def FuzzProbe.Reportable (p : FuzzProbe) : Prop :=
  match p.response site with
  | .interrupted => False
  | .failed _ => True
  | .returned response =>
      match p.detects host cfg site response with
      | none => False
      | some false => True
      | some true =>
          (p.finding host cfg site parsed params response).valid = true ∧
            emitted emitFinding p (p.finding host cfg site parsed params response) = .returned ()

/-- A probe that failed after it was counted as completed. -/
def Attempt.twice (a : Attempt) : Bool := a.completed && a.error.isSome

/-- Every attempt is counted, and one is counted twice or the probe was reportable. -/
theorem attempt_cases {p : FuzzProbe} {a : Attempt}
    (h : p.attempt host cfg site emitFinding parsed params = .ok a) :
    (a.completed || a.error.isSome) = true ∧
      (p.Reportable host cfg site emitFinding parsed params ↔ a.twice = false) := by
  unfold FuzzProbe.attempt at h
  unfold FuzzProbe.Reportable
  cases answered : p.response site with
  | interrupted =>
      simp only [answered] at h
      cases h
  | failed error =>
      simp only [answered] at h
      cases h
      exact ⟨rfl, iff_of_true trivial rfl⟩
  | returned response =>
      simp only [answered] at h ⊢
      cases detected : p.detects host cfg site response with
      | none =>
          simp only [detected] at h
          cases h
          exact ⟨rfl, iff_of_false id (by rintro ⟨⟩)⟩
      | some detects =>
          cases detects with
          | false =>
              simp only [detected] at h
              cases h
              exact ⟨rfl, iff_of_true trivial rfl⟩
          | true =>
              simp only [detected] at h ⊢
              by_cases valid : (p.finding host cfg site parsed params response).valid = true
              · rw [if_pos valid] at h
                cases taken : emitted emitFinding p (p.finding host cfg site parsed params response) with
                | interrupted =>
                    simp only [taken] at h
                    cases h
                | failed error =>
                    simp only [taken] at h
                    cases h
                    exact ⟨rfl, iff_of_false (fun both => absurd both.2 (by rintro ⟨⟩)) (by rintro ⟨⟩)⟩
                | returned =>
                    simp only [taken] at h
                    cases h
                    exact ⟨rfl, iff_of_true ⟨valid, rfl⟩ rfl⟩
              · rw [if_neg valid] at h
                cases h
                exact ⟨rfl, iff_of_false (fun both => valid both.1) (by rintro ⟨⟩)⟩

/-- A reportable probe comes to an end. -/
theorem FuzzProbe.Reportable.attempt {p : FuzzProbe}
    (h : p.Reportable host cfg site emitFinding parsed params) :
    ∃ a, p.attempt host cfg site emitFinding parsed params = .ok a ∧
      ∀ response, p.response site = .returned response → p.detects host cfg site response = some true →
        a.finding = some (p.finding host cfg site parsed params response) := by
  unfold FuzzProbe.Reportable at h
  unfold FuzzProbe.attempt
  cases answered : p.response site with
  | interrupted =>
      simp only [answered] at h
  | failed error =>
      exact ⟨_, rfl, nofun⟩
  | returned response =>
      simp only [answered] at h ⊢
      cases detected : p.detects host cfg site response with
      | none =>
          simp only [detected] at h
      | some detects =>
          cases detects with
          | false =>
              refine ⟨_, rfl, fun response' same detected' => ?_⟩
              cases same
              cases detected.symm.trans detected'
          | true =>
              simp only [detected] at h
              simp only [h.1, h.2, if_true]
              refine ⟨_, rfl, fun response' same _ => ?_⟩
              cases same
              rfl

/-! ### One URL -/

variable (host cfg site emitFinding parsed params) in
/-- How many of some probes are counted twice. -/
def countedTwice (ps : List FuzzProbe) : Nat :=
  ps.countP fun p =>
    match p.attempt host cfg site emitFinding parsed params with
    | .ok a => a.twice
    | .error _ => false

variable (host cfg site emitFinding parsed params) in
/-- What the probes of a URL leave behind. -/
structure Ran (ps : List FuzzProbe) (s s' : ParameterFuzzExecution × List FuzzFinding) : Prop where
  url : s'.1.url = s.1.url
  requested : s'.1.probesRequested = s.1.probesRequested + ps.length
  counted : s'.1.probesCompleted + s'.1.probesFailed =
    s.1.probesCompleted + s.1.probesFailed + ps.length +
      countedTwice host cfg site emitFinding parsed params ps
  kept : ∀ f ∈ s.2, f ∈ s'.2
  attempted : ∀ p ∈ ps, ∃ a, p.attempt host cfg site emitFinding parsed params = .ok a ∧
    ∀ f ∈ a.finding, f ∈ s'.2

/-- A probe adds one to what was requested, and one or two to the other counters. -/
theorem after_counts {a : Attempt} (h : (a.completed || a.error.isSome) = true)
    (r : ParameterFuzzExecution) (p : FuzzProbe) :
    (r.after p a).probesCompleted + (r.after p a).probesFailed =
      r.probesCompleted + r.probesFailed + 1 + if a.twice then 1 else 0 := by
  unfold ParameterFuzzExecution.after Attempt.twice
  cases completed : a.completed <;> cases failed : a.error.isSome <;>
    simp_all <;> omega

theorem runProbes_ok : ∀ {ps : List FuzzProbe} {s s' : ParameterFuzzExecution × List FuzzFinding},
    runProbes host cfg site emitFinding parsed params ps s = .ok s' →
      Ran host cfg site emitFinding parsed params ps s s'
  | [], s, s', h => by
      cases h
      exact ⟨rfl, rfl, rfl, fun _ hf => hf, nofun⟩
  | p :: ps, (r, findings), s', h => by
      rw [runProbes] at h
      cases attempt : p.attempt host cfg site emitFinding parsed params with
      | error e =>
          rw [attempt] at h
          cases h
      | ok a =>
          rw [attempt] at h
          have rest := runProbes_ok h
          have here := after_counts (attempt_cases attempt).1 r p
          have twice : countedTwice host cfg site emitFinding parsed params (p :: ps) =
              countedTwice host cfg site emitFinding parsed params ps + if a.twice then 1 else 0 := by
            rw [countedTwice, List.countP_cons, attempt]
            rfl
          refine ⟨rest.url, ?_, ?_, ?_, ?_⟩
          · rw [rest.requested, List.length_cons, ParameterFuzzExecution.after]
            exact Nat.succ_add_eq_add_succ r.probesRequested ps.length
          · rw [rest.counted, here, twice, List.length_cons]
            simp only
            omega
          · exact fun f hf => rest.kept f (List.mem_append_left _ hf)
          · intro p' hp
            rcases List.mem_cons.mp hp with rfl | later
            · refine ⟨a, attempt, fun f hf => rest.kept f (List.mem_append_right _ ?_)⟩
              exact Option.mem_toList.mpr hf
            · exact rest.attempted p' later

/-- Probes that come to an end are gone through. -/
theorem exists_runProbes : ∀ {ps : List FuzzProbe},
    (∀ p ∈ ps, ∃ a, p.attempt host cfg site emitFinding parsed params = .ok a) →
    ∀ s, ∃ s', runProbes host cfg site emitFinding parsed params ps s = .ok s'
  | [], _, s => ⟨s, rfl⟩
  | p :: ps, h, (r, findings) => by
      obtain ⟨a, attempt⟩ := h p List.mem_cons_self
      obtain ⟨s', rest⟩ := exists_runProbes (fun p' hp => h p' (List.mem_cons_of_mem _ hp))
        (r.after p a, findings ++ a.finding.toList)
      refine ⟨s', ?_⟩
      rw [runProbes, attempt]
      exact rest

/-- None of some attempts is counted twice exactly where the probes were reportable. -/
theorem countedTwice_eq_zero {ps : List FuzzProbe}
    (h : ∀ p ∈ ps, ∃ a, p.attempt host cfg site emitFinding parsed params = .ok a) :
    countedTwice host cfg site emitFinding parsed params ps = 0 ↔
      ∀ p ∈ ps, p.Reportable host cfg site emitFinding parsed params := by
  rw [countedTwice, List.countP_eq_zero]
  refine forall₂_congr fun p hp => ?_
  obtain ⟨a, attempt⟩ := h p hp
  rw [attempt, (attempt_cases attempt).2]
  exact Bool.not_eq_true _ ▸ Iff.rfl

/-! ### All URLs -/

variable (host cfg site emitFinding) in
/-- The probes of a URL come to an end, and what they find is in the result. -/
def Attempted (url : String) (parsed : FuzzUrl) (result : ParameterFuzzAuditResult) : Prop :=
  ∀ p ∈ probesOf cfg url (parametersOf host parsed), ∃ a,
    p.attempt host cfg site emitFinding parsed (parametersOf host parsed) = .ok a ∧
      ∀ f ∈ a.finding, f ∈ result.findings

variable (host cfg site emitFinding) in
/-- The record of a URL. -/
structure Recorded (url : String) (parsed : FuzzUrl) (r : ParameterFuzzExecution) : Prop where
  of : r.url = url
  requested : r.probesRequested = (probesOf cfg url (parametersOf host parsed)).length
  counted : r.probesCompleted + r.probesFailed = r.probesRequested +
    countedTwice host cfg site emitFinding parsed (parametersOf host parsed)
      (probesOf cfg url (parametersOf host parsed))

variable (host cfg site emitFinding) in
/-- What the loop over some URLs leaves behind. -/
structure Audited (urls : List String) (result result' : ParameterFuzzAuditResult) : Prop where
  parsed : ∀ url ∈ urls, ∃ parsed, host.urlparse url = .ok parsed ∧
    Attempted host cfg site emitFinding url parsed result' ∧
    (parametersOf host parsed ≠ [] → ∃ r ∈ result'.executions,
      Recorded host cfg site emitFinding url parsed r)
  findings : ∀ f ∈ result.findings, f ∈ result'.findings
  executions : ∀ r ∈ result.executions, r ∈ result'.executions
  records : ∀ r ∈ result'.executions, r ∈ result.executions ∨
    ∃ url parsed, url ∈ urls ∧ host.urlparse url = .ok parsed ∧
      Recorded host cfg site emitFinding url parsed r

/-- The record of a URL whose probes have been run. -/
theorem Ran.recorded {url : String} {findings : List FuzzFinding}
    {s' : ParameterFuzzExecution × List FuzzFinding}
    (h : Ran host cfg site emitFinding parsed (parametersOf host parsed)
      (probesOf cfg url (parametersOf host parsed))
      ({ url := url, parametersTested := (parametersOf host parsed).map (·.1) }, findings) s') :
    Recorded host cfg site emitFinding url parsed s'.1 where
  of := h.url
  requested := h.requested.trans (Nat.zero_add _)
  counted := by
    rw [h.counted, h.requested]
    rfl

theorem auditUrls_ok : ∀ {urls : List String} {result result' : ParameterFuzzAuditResult},
    auditUrls host cfg site emitFinding urls result = .ok result' →
      Audited host cfg site emitFinding urls result result'
  | [], result, result', h => by
      cases h
      exact ⟨nofun, fun _ hf => hf, fun _ hr => hr, fun _ hr => Or.inl hr⟩
  | url :: urls, result, result', h => by
      rw [auditUrls] at h
      cases parse : host.urlparse url with
      | error e =>
          rw [parse] at h
          cases h
      | ok parsed =>
          rw [parse] at h
          replace h : (if (parametersOf host parsed).isEmpty = true then
              auditUrls host cfg site emitFinding urls result
            else
              (runProbes host cfg site emitFinding parsed (parametersOf host parsed)
                (probesOf cfg url (parametersOf host parsed))
                ({ url := url, parametersTested := (parametersOf host parsed).map (·.1) },
                  result.findings)).bind fun s =>
                auditUrls host cfg site emitFinding urls ⟨s.2, result.executions ++ [s.1]⟩) =
              .ok result' := h
          by_cases none : parametersOf host parsed = []
          · rw [none, List.isEmpty_nil, if_pos rfl] at h
            obtain ⟨later, findings, executions, records⟩ := auditUrls_ok h
            refine ⟨List.forall_mem_cons.mpr ⟨⟨parsed, parse, ?_, absurd none⟩, later⟩, findings,
              executions, fun r hr => (records r hr).imp_right ?_⟩
            · rw [Attempted, none]
              exact nofun
            · exact fun ⟨url', parsed', hu, h'⟩ => ⟨url', parsed', List.mem_cons_of_mem _ hu, h'⟩
          · rw [if_neg (by simpa using none)] at h
            cases run : runProbes host cfg site emitFinding parsed (parametersOf host parsed)
                (probesOf cfg url (parametersOf host parsed))
                ({ url := url, parametersTested := (parametersOf host parsed).map (·.1) },
                  result.findings) with
            | error e =>
                rw [run] at h
                cases h
            | ok s =>
                rw [run] at h
                have here := runProbes_ok run
                obtain ⟨later, findings, executions, records⟩ := auditUrls_ok h
                have record : s.1 ∈ result'.executions :=
                  executions _ (List.mem_append_right _ (List.mem_singleton_self _))
                refine ⟨List.forall_mem_cons.mpr ⟨⟨parsed, parse, fun p hp => ?_,
                  fun _ => ⟨s.1, record, here.recorded⟩⟩, later⟩, ?_, ?_, ?_⟩
                · obtain ⟨a, attempt, found⟩ := here.attempted p hp
                  exact ⟨a, attempt, fun f hf => findings f (found f hf)⟩
                · exact fun f hf => findings f (here.kept f hf)
                · exact fun r hr => executions r (List.mem_append_left _ hr)
                · intro r hr
                  rcases records r hr with before | after
                  · rcases List.mem_append.mp before with old | new
                    · exact Or.inl old
                    · rw [List.mem_singleton.mp new]
                      exact Or.inr ⟨url, parsed, List.mem_cons_self, parse, here.recorded⟩
                  · obtain ⟨url', parsed', hu, h'⟩ := after
                    exact Or.inr ⟨url', parsed', List.mem_cons_of_mem _ hu, h'⟩

/-- The audit ends where every URL is parsed and every probe comes to an end. -/
theorem exists_auditUrls : ∀ {urls : List String},
    (∀ url ∈ urls, ∃ parsed, host.urlparse url = .ok parsed ∧
      ∀ p ∈ probesOf cfg url (parametersOf host parsed), ∃ a,
        p.attempt host cfg site emitFinding parsed (parametersOf host parsed) = .ok a) →
    ∀ result, ∃ result', auditUrls host cfg site emitFinding urls result = .ok result'
  | [], _, result => ⟨result, rfl⟩
  | url :: urls, h, result => by
      obtain ⟨⟨parsed, parse, probes⟩, later⟩ := List.forall_mem_cons.mp h
      rw [auditUrls, parse]
      by_cases none : parametersOf host parsed = []
      · obtain ⟨result', rest⟩ := exists_auditUrls later result
        refine ⟨result', ?_⟩
        simp only [bind, Except.bind, none, List.isEmpty_nil, if_true]
        exact rest
      · obtain ⟨s, run⟩ := exists_runProbes probes
          ({ url := url, parametersTested := (parametersOf host parsed).map (·.1) }, result.findings)
        obtain ⟨result', rest⟩ := exists_auditUrls later ⟨s.2, result.executions ++ [s.1]⟩
        refine ⟨result', ?_⟩
        simp only [bind, Except.bind, List.isEmpty_iff, none, if_false, run]
        exact rest

/-! ### The audit -/

variable (host cfg) in
/-- The URLs the audit tests, where they have parameters. -/
def TestUrl (targetUrl : String) (discoveredEndpoints : List String) (url : String) : Prop :=
  cfg.enabled = true ∧ url ∈ targetUrl :: discoveredEndpoints ∧ url.toList.contains '?' = true

theorem mem_testUrls {targetUrl : String} {discoveredEndpoints : List String} {url : String} :
    url ∈ testUrls host targetUrl discoveredEndpoints ↔
      url ∈ targetUrl :: discoveredEndpoints ∧ url.toList.contains '?' = true := by
  rw [testUrls, (host.iterate_perm _).mem_iff, List.mem_dedup, List.mem_filter]

theorem length_probesOf (url : String) (params : List (Points × Points)) :
    (probesOf cfg url params).length = cfg.kinds.length * params.length := by
  rw [probesOf, List.length_flatMap]
  simp [Nat.mul_comm]

variable (host cfg site) in
/-- Every tested URL has its record, the counters of a record add up to a probe of each enabled kind
for each distinct parameter, and whatever a probe detects is found. -/
structure FuzzingAccounts (tested : String → Prop) (result : ParameterFuzzAuditResult) : Prop where
  recorded : ∀ url, tested url → ∀ parsed, host.urlparse url = .ok parsed →
    host.parseQsl parsed.query ≠ [] → ∃ r ∈ result.executions, r.url = url
  counted : ∀ r ∈ result.executions, ∃ parsed, host.urlparse r.url = .ok parsed ∧
    r.probesCompleted + r.probesFailed = r.probesRequested ∧
    r.probesRequested = cfg.kinds.length * ((host.parseQsl parsed.query).map (·.1)).dedup.length
  detected : ∀ url, tested url → ∀ parsed, host.urlparse url = .ok parsed →
    ∀ p ∈ probesOf cfg url (parametersOf host parsed), ∀ response,
      p.response site = .returned response → p.detects host cfg site response = some true →
      p.finding host cfg site parsed (parametersOf host parsed) response ∈ result.findings

/-- The record of a URL adds up where its probes are reportable. -/
theorem Recorded.counts {url : String} {r : ParameterFuzzExecution}
    (h : Recorded host cfg site emitFinding url parsed r) {result : ParameterFuzzAuditResult}
    (attempted : Attempted host cfg site emitFinding url parsed result) :
    r.probesCompleted + r.probesFailed = r.probesRequested ↔
      ∀ p ∈ probesOf cfg url (parametersOf host parsed),
        p.Reportable host cfg site emitFinding parsed (parametersOf host parsed) := by
  rw [h.counted, Nat.add_eq_left]
  refine countedTwice_eq_zero fun p hp => ?_
  obtain ⟨a, attempt, -⟩ := attempted p hp
  exact ⟨a, attempt⟩

theorem auditUrls_accounts {urls : List String} {result : ParameterFuzzAuditResult}
    (audited : Audited host cfg site emitFinding urls ⟨[], []⟩ result)
    (reportable : ∀ url ∈ urls, ∃ parsed, host.urlparse url = .ok parsed ∧
      ∀ p ∈ probesOf cfg url (parametersOf host parsed),
        p.Reportable host cfg site emitFinding parsed (parametersOf host parsed)) :
    FuzzingAccounts host cfg site (· ∈ urls) result where
  recorded := by
    intro url tested parsed parse some
    obtain ⟨parsed', parse', -, record⟩ := audited.parsed url tested
    cases parse.symm.trans parse'
    have params : parametersOf host parsed ≠ [] := by
      rw [← List.length_pos_iff, parametersOf, length_dictOf, List.length_pos_iff, ne_eq,
        List.dedup_eq_nil, List.map_eq_nil_iff]
      exact some
    obtain ⟨r, hr, recorded⟩ := record params
    exact ⟨r, hr, recorded.of⟩
  counted := by
    intro r hr
    rcases audited.records r hr with old | ⟨url, parsed, tested, parse, recorded⟩
    · cases old
    · obtain ⟨parsed', parse', attempted, -⟩ := audited.parsed url tested
      obtain ⟨parsed'', parse'', probes⟩ := reportable url tested
      cases parse.symm.trans parse'
      cases parse.symm.trans parse''
      refine ⟨parsed, recorded.of ▸ parse, (recorded.counts attempted).mpr probes, ?_⟩
      rw [recorded.requested, length_probesOf, parametersOf, length_dictOf]
  detected := by
    intro url tested parsed parse p hp response answered detects
    obtain ⟨parsed', parse', attempted, -⟩ := audited.parsed url tested
    obtain ⟨parsed'', parse'', probes⟩ := reportable url tested
    cases parse.symm.trans parse'
    cases parse.symm.trans parse''
    obtain ⟨a, attempt, found⟩ := attempted p hp
    obtain ⟨a', attempt', finding⟩ := (probes p hp).attempt
    cases attempt.symm.trans attempt'
    exact found _ (finding response answered detects)

/-- The same of any list of URLs. -/
theorem auditUrls_accounts_iff (urls : List String) :
    (∃ result, auditUrls host cfg site emitFinding urls ⟨[], []⟩ = .ok result ∧
      FuzzingAccounts host cfg site (· ∈ urls) result) ↔
      ∀ url ∈ urls, ∃ parsed, host.urlparse url = .ok parsed ∧
        ∀ p ∈ probesOf cfg url (parametersOf host parsed),
          p.Reportable host cfg site emitFinding parsed (parametersOf host parsed) := by
  constructor
  · rintro ⟨result, run, accounts⟩ url tested
    have audited := auditUrls_ok run
    obtain ⟨parsed, parse, attempted, record⟩ := audited.parsed url tested
    refine ⟨parsed, parse, ?_⟩
    by_cases none : parametersOf host parsed = []
    · rw [none]
      exact nofun
    · obtain ⟨r, hr, recorded⟩ := record none
      obtain ⟨-, -, counts, -⟩ := accounts.counted r hr
      exact (recorded.counts attempted).mp counts
  · intro reportable
    have ends : ∀ url ∈ urls, ∃ parsed, host.urlparse url = .ok parsed ∧
        ∀ p ∈ probesOf cfg url (parametersOf host parsed), ∃ a,
          p.attempt host cfg site emitFinding parsed (parametersOf host parsed) = .ok a := by
      intro url tested
      obtain ⟨parsed, parse, probes⟩ := reportable url tested
      refine ⟨parsed, parse, fun p hp => ?_⟩
      obtain ⟨a, attempt, -⟩ := (probes p hp).attempt
      exact ⟨a, attempt⟩
    obtain ⟨result, run⟩ := exists_auditUrls ends ⟨[], []⟩
    exact ⟨result, run, auditUrls_accounts (auditUrls_ok run) reportable⟩

theorem isText_points (s : String) : isText (points s) = true := by
  refine List.all_eq_true.mpr fun p hp => ?_
  obtain ⟨c, -, rfl⟩ := List.mem_map.mp hp
  rw [isHigh_point, isLow_point]
  rfl

theorem isText_append (s t : Points) : isText (s ++ t) = (isText s && isText t) := List.all_append

/-- A finding is accepted where its title is not too long, and name and body are texts. -/
theorem valid_finding (p : FuzzProbe) (response : WebResponse) :
    (p.finding host cfg site parsed params response).valid = true ↔
      p.kind.heading.length + p.paramName.length + 1 ≤ 200 ∧ isText p.paramName = true ∧
        (p.snippet response).all isText = true := by
  have title : (points p.kind.heading ++ p.paramName ++ points "'").length =
      p.kind.heading.length + p.paramName.length + 1 := by
    rw [List.length_append, List.length_append, length_points, length_points]
    rfl
  have long : 5 ≤ p.kind.heading.length := by cases p.kind <;> decide
  have token : isText (p.canaryToken host) = true := by
    simp only [FuzzProbe.canaryToken, isText_append, isText_points, Bool.and_self]
  have location : isText p.location = isText p.paramName := by
    simp only [FuzzProbe.location, isText_append, isText_points, Bool.true_and, Bool.and_true]
  have observed : isText p.paramName = true → isText (p.observed host cfg site response) = true := by
    intro name
    unfold FuzzProbe.observed
    split <;> simp only [isText_append, isText_points, name, token, Bool.and_self]
  have fields : (p.finding host cfg site parsed params response).valid =
      (decide (5 ≤ p.kind.heading.length + p.paramName.length + 1) &&
        decide (p.kind.heading.length + p.paramName.length + 1 ≤ 200) && isText p.paramName &&
        isText p.paramName && isText (p.observed host cfg site response) &&
        (p.snippet response).all isText) := by
    rw [FuzzFinding.valid, FuzzProbe.finding, title, location, isText_append, isText_append,
      isText_points, isText_points, Bool.true_and, Bool.and_true]
  rw [fields]
  simp only [Bool.and_eq_true, decide_eq_true_eq]
  constructor
  · exact fun h => ⟨h.1.1.1.1.2, h.1.1.1.2, h.2⟩
  · exact fun h => ⟨⟨⟨⟨⟨by omega, h.1⟩, h.2.1⟩, h.2.1⟩, observed h.2.1⟩, h.2.2⟩

namespace Sample

/-- One parameter with a name of two hundred characters. -/
def longUrl : String := "http://site.test/?" ++ String.ofList (.replicate 200 'a') ++ "=1"

/-- The library, as it is on this URL. -/
def fuzzHost : FuzzHost where
  urlparse := fun _ => .ok ⟨"http", "site.test", "/", "", String.ofList (.replicate 200 'a') ++ "=1", ""⟩
  parseQsl := fun _ => [(.replicate 200 (point 'a'), points "1")]
  urlencode := fun _ => String.ofList (.replicate 200 'a') ++ "=..%2F..%2F..%2F..%2Fetc%2Fpasswd"
  urlunparse := fun url => url.scheme ++ "://" ++ url.netloc ++ url.path ++ "?" ++ url.query
  lower := id
  twoDecimals := fun _ => "0.00"
  tokenHex := fun _ => "0123456789ab"
  formatCurlPoc := fun method url => "curl -i -s -k -X " ++ method ++ " \"" ++ url ++ "\""
  calculateFingerprint := fun _ _ _ => ""
  iterate := id
  iterate_perm := fun _ => .refl _

/-- Only path traversal is probed. -/
def traversal : FuzzingConfig :=
  { enabled := true, fuzzSqli := false, fuzzXss := false, fuzzSsti := false, fuzzRedirect := false }

/-- The website gives its accounts away. -/
def leaking : FuzzProbe → Exchange :=
  fun _ => ⟨.returned 0, .returned ⟨200, some (points "root:x:0:0:root:/root:/bin/sh"), ""⟩, 0⟩

end Sample

end CyberAssess
