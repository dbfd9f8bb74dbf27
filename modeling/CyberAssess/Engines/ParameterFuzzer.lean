import CyberAssess.Support.JsonValues
import CyberAssess.Findings.Correlator

/-!
# Engines — the parameter fuzzer

`audit_parameter_fuzzing` of `engines/web_dast/parameter_fuzzer.py`: every parameter of every URL with
a query is probed, once for each kind of probe that is enabled.

* `FuzzKind` has what the five probes differ in; `FuzzKind.detects` is the test of a response.
* `FuzzFinding` is the finding a probe reports, and `FuzzFinding.valid` what `Finding` asks of it.
* `attempt` is the body of a probe's `try`; `ParameterFuzzExecution.after` counts it.
* `auditParameterFuzzing` goes through the URLs, in whatever order the set has them.

`[about ours]`: each probe is sent once, so the website and the callback answer by probe.  The texts
of a finding that are the same for every parameter are left out.
-/

namespace CyberAssess

open Python

/-- `FuzzingConfig`. -/
structure FuzzingConfig where
  enabled : Bool := false
  fuzzSqli : Bool := true
  fuzzXss : Bool := true
  fuzzLfi : Bool := true
  fuzzSsti : Bool := true
  fuzzRedirect : Bool := true
  delaySeconds : Float := 2.0

/-- The probes, in order. -/
inductive FuzzKind where
  | sqli | xss | lfi | ssti | redirect
deriving DecidableEq, Repr

/-- One parameter of one URL, with its value, and the kind of probe. -/
structure FuzzProbe where
  url : String
  paramName : Points
  origVal : Points
  kind : FuzzKind
deriving DecidableEq

/-- What an `await` comes to: a value, an exception, or one no handler takes. -/
inductive Awaited (α : Type) where
  | returned (a : α)
  | failed (error : String)
  | interrupted

/-- A response; its body has no text when its charset cannot decode it. -/
structure WebResponse where
  statusCode : Nat
  text : Option Points
  location : String

/-- What a website does with a probe, and how long it takes; only the first kind asks for the
unchanged URL before. -/
structure Exchange where
  baseline : Awaited Float
  answer : Awaited WebResponse
  latency : Float

/-- `urlparse(url)`. -/
structure FuzzUrl where
  scheme : String
  netloc : String
  path : String
  params : String
  query : String
  fragment : String

/-- What the fuzzer uses of the standard library and of its own helpers. -/
structure FuzzHost where
  urlparse : String → Except String FuzzUrl
  parseQsl : String → List (Points × Points)
  urlencode : List (Points × Points) → String
  urlunparse : FuzzUrl → String
  lower : Points → Points
  twoDecimals : Float → String
  tokenHex : FuzzProbe → String
  formatCurlPoc : String → String → String
  calculateFingerprint : String → Points → Points → String
  /-- The order a set of URLs is gone through. -/
  iterate : List String → List String
  iterate_perm : ∀ urls : List String, (iterate urls).Perm urls

/-! ### The probes -/

/-- `fuzz_cfg.delay_seconds or 2.0`. -/
def FuzzingConfig.delayTarget (cfg : FuzzingConfig) : Float :=
  if cfg.delaySeconds == 0 then 2.0 else cfg.delaySeconds

/-- The kinds that are enabled. -/
def FuzzingConfig.kinds (cfg : FuzzingConfig) : List FuzzKind :=
  [FuzzKind.sqli, .xss, .lfi, .ssti, .redirect].filter fun
    | .sqli => cfg.fuzzSqli
    | .xss => cfg.fuzzXss
    | .lfi => cfg.fuzzLfi
    | .ssti => cfg.fuzzSsti
    | .redirect => cfg.fuzzRedirect

/-- `check_id`. -/
def FuzzKind.checkId : FuzzKind → String
  | .sqli => "DAST-INJ-001"
  | .xss => "DAST-XSS-001"
  | .lfi => "DAST-LFI-001"
  | .ssti => "DAST-SSTI-001"
  | .redirect => "DAST-REDIR-001"

/-- `category`. -/
def FuzzKind.category : FuzzKind → String
  | .sqli | .xss | .ssti => "Injection"
  | .lfi | .redirect => "Broken Access Control"

/-- `severity`. -/
def FuzzKind.severity : FuzzKind → Severity
  | .sqli | .ssti => .critical
  | .xss | .lfi => .high
  | .redirect => .medium

/-- What a title says before the name of the parameter. -/
def FuzzKind.heading : FuzzKind → String
  | .sqli => "Time-Based Blind SQL Injection in Parameter '"
  | .xss => "Reflected Cross-Site Scripting (XSS) in Parameter '"
  | .lfi => "Local File Inclusion (LFI) / Path Traversal in Parameter '"
  | .ssti => "Server-Side Template Injection (SSTI) in Parameter '"
  | .redirect => "Open Redirection via Parameter '"

/-- What the details of a failed probe begin with. -/
def FuzzKind.label : FuzzKind → String
  | .sqli => "SQLi"
  | .xss => "XSS"
  | .lfi => "LFI"
  | .ssti => "SSTI"
  | .redirect => "Open Redirect"

variable (host : FuzzHost) (cfg : FuzzingConfig) (site : FuzzProbe → Exchange)

/-- `_CYBERASSESS_XSS_…_`. -/
def FuzzProbe.canaryToken (p : FuzzProbe) : Points :=
  points "_CYBERASSESS_XSS_" ++ points (host.tokenHex p) ++ points "_"

/-- The value that is sent instead. -/
def FuzzProbe.payload (p : FuzzProbe) : Points :=
  match p.kind with
  | .sqli => p.origVal ++ points "' AND (SELECT 1 FROM (SELECT(SLEEP(" ++
      points (toString cfg.delayTarget.toUInt64) ++ points ")))a)-- "
  | .xss => points "\"" ++ p.canaryToken host ++ points "<script>" ++ p.canaryToken host ++
      points "</script>"
  | .lfi => points "../../../../etc/passwd"
  | .ssti => points "\x7b\x7b7*7\x7d\x7d"
  | .redirect => points "https://attacker.invalid"

/-- `needle in text`. -/
def occursIn (needle text : Points) : Bool := text.tails.any needle.isPrefixOf

/-- `re.search(r"root:.*:0:0:", text)`: both on one line. -/
def rootEntry : Points → Bool
  | [] => false
  | c :: cs =>
      ((points "root:").isPrefixOf (c :: cs) &&
        occursIn (points ":0:0:") (((c :: cs).drop 5).takeWhile (· ≠ point '\n'))) || rootEntry cs

/-- Whether a response meets the condition of its probe; none if its text cannot be read. -/
def FuzzProbe.detects (p : FuzzProbe) (response : WebResponse) : Option Bool :=
  match p.kind with
  | .sqli =>
      match (site p).baseline with
      | .returned t0 => some (decide ((site p).latency ≥ t0 + (cfg.delayTarget - 0.3)))
      | _ => some false
  | .xss => response.text.map fun text =>
      occursIn (p.canaryToken host) text &&
        (occursIn (points "<script>" ++ p.canaryToken host ++ points "</script>") text ||
          occursIn (points "\"" ++ p.canaryToken host) text)
  | .lfi => response.text.map fun text =>
      rootEntry text || occursIn (points "[fonts]") (host.lower text) ||
        occursIn (points "[extensions]") (host.lower text)
  | .ssti => response.text.map fun text =>
      occursIn (points "49") text && !occursIn (points "\x7b\x7b7*7\x7d\x7d") text
  | .redirect => some ([301, 302, 303, 307, 308].contains response.statusCode &&
      occursIn (points "attacker.invalid") (points response.location))

/-! ### Findings -/

/-- What a finding says of its parameter. -/
structure FuzzFinding where
  checkId : String
  category : String
  title : Points
  severity : Severity
  location : Points
  observedValue : Points
  requestUrl : String
  parameter : Points
  payload : Points
  statusCode : Nat
  rawResponseSnippet : Option Points
  reproductionCurl : String
  fingerprint : String

/-- A `str` that has no text in UTF-8 is not one to `Finding`. -/
def isText (s : Points) : Bool := s.all fun c => !isHigh c && !isLow c

/-- `Finding(…)` is accepted. -/
def FuzzFinding.valid (f : FuzzFinding) : Bool :=
  decide (5 ≤ f.title.length) && decide (f.title.length ≤ 200) && isText f.title &&
    isText f.location && isText f.observedValue && f.rawResponseSnippet.all isText

/-- `loc`. -/
def FuzzProbe.location (p : FuzzProbe) : Points :=
  points p.url ++ points " [" ++ p.paramName ++ points "]"

/-- `obs`. -/
def FuzzProbe.observed (p : FuzzProbe) (response : WebResponse) : Points :=
  match p.kind with
  | .sqli =>
      let t0 := match (site p).baseline with
        | .returned t => host.twoDecimals t
        | _ => ""
      points "Parameter '" ++ p.paramName ++ points "' provoked " ++
        points (host.twoDecimals (site p).latency) ++ points "s response latency (Baseline: " ++
        points t0 ++ points "s with SLEEP(" ++ points (toString cfg.delayTarget.toUInt64) ++
        points ") probe)"
  | .xss => points "Canary token '" ++ p.canaryToken host ++
      points "' and unescaped HTML tags reflected directly in response body."
  | .lfi => points "Parameter '" ++ p.paramName ++
      points "' path traversal returned system file contents (/etc/passwd)."
  | .ssti => points "Template mathematical expression '\x7b\x7b7*7\x7d\x7d' evaluated to '49' " ++
      points "in rendered output."
  | .redirect => points "HTTP " ++ points (toString response.statusCode) ++
      points " Redirect Location: '" ++ points response.location ++
      points "' reflects untrusted external target."

/-- What the fingerprint is made of. -/
def FuzzProbe.fingerprinted (p : FuzzProbe) : Points :=
  match p.kind with
  | .sqli => points "time_based_sqli"
  | .xss => p.canaryToken host
  | .lfi => points "lfi_passwd"
  | .ssti => points "ssti_49"
  | .redirect => points "open_redir"

/-- What is kept of the body. -/
def FuzzProbe.snippet (p : FuzzProbe) (response : WebResponse) : Option Points :=
  match p.kind with
  | .xss => response.text.map (·.take 300)
  | .lfi | .ssti => response.text.map (·.take 200)
  | .sqli | .redirect => none

/-- The finding of a probe, as it is built; `parsed` and `params` are those of the URL. -/
def FuzzProbe.finding (parsed : FuzzUrl) (params : List (Points × Points)) (p : FuzzProbe)
    (response : WebResponse) : FuzzFinding :=
  let payload := p.payload host cfg
  let fuzzedUrl := host.urlunparse
    { parsed with query := host.urlencode (Python.setMember p.paramName payload params) }
  { checkId := p.kind.checkId
    category := p.kind.category
    title := points p.kind.heading ++ p.paramName ++ points "'"
    severity := p.kind.severity
    location := p.location
    observedValue := p.observed host cfg site response
    requestUrl := fuzzedUrl
    parameter := p.paramName
    payload := payload
    statusCode := response.statusCode
    rawResponseSnippet := p.snippet response
    reproductionCurl := host.formatCurlPoc "GET" fuzzedUrl
    fingerprint := host.calculateFingerprint p.kind.checkId p.location (p.fingerprinted host) }

/-! ### The counters -/

/-- What made a probe fail. -/
inductive ProbeError where
  | request (error : String)
  | decoding
  | validation
  | callback (error : String)
deriving DecidableEq, Repr

/-- `ParameterFuzzExecution`. -/
structure ParameterFuzzExecution where
  url : String
  parametersTested : List Points
  probesRequested : Nat := 0
  probesCompleted : Nat := 0
  probesFailed : Nat := 0
  failedProbeDetails : List (String × Points × ProbeError) := []

/-- How the `try` of a probe ended: after the response or before, with what finding appended, and by
what exception. -/
structure Attempt where
  completed : Bool
  finding : Option FuzzFinding
  error : Option ProbeError

/-- The response of a probe, after the baseline where there is one. -/
def FuzzProbe.response (p : FuzzProbe) : Awaited WebResponse :=
  match p.kind with
  | .sqli =>
      match (site p).baseline with
      | .returned _ => (site p).answer
      | .failed error => .failed error
      | .interrupted => .interrupted
  | _ => (site p).answer

variable (emitFinding : Option (FuzzProbe → FuzzFinding → Awaited Unit))

/-- `if emit_finding: await emit_finding(f)`. -/
def emitted (p : FuzzProbe) (f : FuzzFinding) : Awaited Unit :=
  match emitFinding with
  | some emit => emit p f
  | none => .returned ()

/-- The `try` of a probe. -/
def FuzzProbe.attempt (parsed : FuzzUrl) (params : List (Points × Points)) (p : FuzzProbe) :
    Except String Attempt :=
  match p.response site with
  | .interrupted => .error "CancelledError"
  | .failed error => .ok ⟨false, none, some (.request error)⟩
  | .returned response =>
      match p.detects host cfg site response with
      | none => .ok ⟨true, none, some .decoding⟩
      | some false => .ok ⟨true, none, none⟩
      | some true =>
          let f := p.finding host cfg site parsed params response
          if f.valid then
            match emitted emitFinding p f with
            | .interrupted => .error "CancelledError"
            | .failed error => .ok ⟨true, some f, some (.callback error)⟩
            | .returned () => .ok ⟨true, some f, none⟩
          else .ok ⟨true, none, some .validation⟩

/-- The counters after a probe. -/
def ParameterFuzzExecution.after (r : ParameterFuzzExecution) (p : FuzzProbe) (a : Attempt) :
    ParameterFuzzExecution :=
  { r with
    probesRequested := r.probesRequested + 1
    probesCompleted := r.probesCompleted + if a.completed then 1 else 0
    probesFailed := r.probesFailed + if a.error.isSome then 1 else 0
    failedProbeDetails := r.failedProbeDetails ++
      (a.error.map fun error => (p.kind.label, p.paramName, error)).toList }

/-! ### The audit -/

/-- `ParameterFuzzAuditResult`. -/
structure ParameterFuzzAuditResult where
  findings : List FuzzFinding
  executions : List ParameterFuzzExecution

/-- The probes of a URL: parameter by parameter, kind by kind. -/
def probesOf (url : String) (params : List (Points × Points)) : List FuzzProbe :=
  params.flatMap fun param => cfg.kinds.map fun kind => ⟨url, param.1, param.2, kind⟩

/-- The loops over the parameters and the kinds. -/
def runProbes (parsed : FuzzUrl) (params : List (Points × Points)) :
    List FuzzProbe → ParameterFuzzExecution × List FuzzFinding →
    Except String (ParameterFuzzExecution × List FuzzFinding)
  | [], s => .ok s
  | p :: ps, (r, findings) => do
      let a ← p.attempt host cfg site emitFinding parsed params
      runProbes parsed params ps (r.after p a, findings ++ a.finding.toList)

/-- `dict(parse_qsl(parsed.query))`. -/
def parametersOf (parsed : FuzzUrl) : List (Points × Points) := dictOf (host.parseQsl parsed.query)

/-- The loop over the URLs. -/
def auditUrls : List String → ParameterFuzzAuditResult → Except String ParameterFuzzAuditResult
  | [], result => .ok result
  | url :: urls, result => do
      let parsed ← host.urlparse url
      let params := parametersOf host parsed
      if params.isEmpty then auditUrls urls result
      else
        let (r, findings) ← runProbes host cfg site emitFinding parsed params (probesOf cfg url params)
          ({ url := url, parametersTested := params.map (·.1) }, result.findings)
        auditUrls urls ⟨findings, result.executions ++ [r]⟩

/-- The URLs with a query. -/
def testUrls (targetUrl : String) (discoveredEndpoints : List String) : List String :=
  host.iterate ((targetUrl :: discoveredEndpoints).filter (·.toList.contains '?')).dedup

/-- `audit_parameter_fuzzing`. -/
def auditParameterFuzzing (targetUrl : String) (discoveredEndpoints : List String) :
    Except String ParameterFuzzAuditResult :=
  if cfg.enabled then
    auditUrls host cfg site emitFinding (testUrls host targetUrl discoveredEndpoints) ⟨[], []⟩
  else .ok ⟨[], []⟩

end CyberAssess
