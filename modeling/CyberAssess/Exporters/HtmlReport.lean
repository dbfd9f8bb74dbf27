import CyberAssess.Findings.Correlator
import CyberAssess.Findings.Redaction
import CyberAssess.Support.Markup

/-!
# Exporters — the HTML report

`export_scan_to_html` of `exporters/html_exporter.py`.

* `ReportJob` is what the report reads of a `ScanJob`.
* `safeHtml` is `_safe_html`; `cardPieces` is `card_html`, `reportPieces` the template.
* `exportScanToHtml` is the document.

`[about ours]`: of a text of the job a piece records what was left of it before it was escaped.  The
blanks between tags are left out.  The style sheet and the script, which nothing is inserted into, are
given, as are the formats of floats and dates.
-/

namespace CyberAssess

open Markup

namespace HtmlReport

/-! ### The job -/

/-- What the report reads of a finding. -/
structure ReportFinding (F : Type) where
  severity : Severity
  checkId : List Char
  category : List Char
  title : List Char
  engine : List Char
  description : List Char
  impact : List Char
  remediation : List Char
  remediationCodeSnippet : Option (List Char)
  cweId : Option (List Char)
  owaspCategory : Option (List Char)
  nistControl : Option (List Char)
  cvssScore : F
  location : List Char
  observedValue : List Char
  expectedValue : List Char

/-- `ScanJobSummary`. -/
structure ReportSummary (F : Type) where
  criticalCount : Nat
  highCount : Nat
  mediumCount : Nat
  lowCount : Nat
  infoCount : Nat
  weightedScore : F
  overallSecurityGrade : List Char
  durationSeconds : F

/-- What the report reads of a `ScanJob`. -/
structure ReportJob (F D : Type) where
  id : List Char
  targetName : List Char
  targetValue : List Char
  summary : Option (ReportSummary F)
  startedAt : Option D
  findings : List (ReportFinding F)

/-- `str.lower`, the formats `.nf` and `%Y-%m-%d %H:%M:%S UTC`, and the fixed texts of the template. -/
structure ReportHost (F D : Type) where
  tables : CharTables
  lower : List Char → List Char
  fixedPoint : Nat → F → List Char
  strftime : D → List Char
  styleSheet : List Char
  script : List Char
  fixedPoint_plain : ∀ digits x, (fixedPoint digits x).all (· ≠ '<') = true
  strftime_plain : ∀ d, (strftime d).all (· ≠ '<') = true
  styleSheet_plain : styleSheet.all (· ≠ '<') = true
  script_plain : script.all (· ≠ '<') = true

/-! ### Pieces -/

/-- A piece of the template, or a text of the job: what is left of it, and what is written. -/
inductive ReportPiece where
  | fixed (p : Piece)
  | inserted (kept shown : List Char)

/-- The piece of the document. -/
def ReportPiece.piece : ReportPiece → Piece
  | .fixed p => p
  | .inserted _ shown => .text shown

/-- `<name attr="value" ...>`. -/
def el (name : String) (attrs : List (String × String)) : ReportPiece :=
  .fixed (.tag name.toList (attrs.map fun a => (a.1.toList, a.2.toList)))

/-- `</name>`. -/
def endOf (name : String) : ReportPiece := .fixed (.close name.toList)

/-- A text of the template. -/
def say (text : String) : ReportPiece := .fixed (.text text.toList)

/-- A number or a date. -/
def shows (text : List Char) : ReportPiece := .fixed (.text text)

/-- A number. -/
def number (n : Nat) : ReportPiece := say (toString n)

/-- `<name class="...">text</name>`. -/
def labelled (name cls text : String) : List ReportPiece := [el name [("class", cls)], say text, endOf name]

variable {F D : Type} (h : ReportHost F D)

/-- `_safe_html`. -/
def safeHtml (value : List Char) : ReportPiece :=
  .inserted (sanitizeSensitiveText h.tables value) (escape (sanitizeSensitiveText h.tables value))

/-! ### Findings -/

/-- `severity.value`. -/
def severityValue : Severity → String
  | .critical => "CRITICAL"
  | .high => "HIGH"
  | .medium => "MEDIUM"
  | .low => "LOW"
  | .info => "INFO"

/-- `severity.value.lower()`. -/
def severityClass : Severity → String
  | .critical => "critical"
  | .high => "high"
  | .medium => "medium"
  | .low => "low"
  | .info => "info"

/-- `sev_colors`. -/
def sevColors : Severity → String × String
  | .critical => ("#ef4444", "#450a0a")
  | .high => ("#f97316", "#431407")
  | .medium => ("#eab308", "#422006")
  | .low => ("#3b82f6", "#172554")
  | .info => ("#06b6d4", "#083344")

/-- The category or the check marks a secret. -/
def marksSecret (f : ReportFinding F) : Bool :=
  hasChars ['s', 'e', 'c', 'r', 'e', 't'] (h.lower f.category) ||
    hasChars ['s', 'e', 'c', 'r', 'e', 't'] (h.lower f.checkId) ||
    hasChars ['k', 'e', 'y'] (h.lower f.category)

/-- `raw_obs`. -/
def rawObs (f : ReportFinding F) : List Char :=
  if marksSecret h f then maskSecret f.observedValue else sanitizeSensitiveText h.tables f.observedValue

/-- A text that is shown when it is there, and not empty. -/
def optional (value : Option (List Char)) (pieces : List Char → List ReportPiece) : List ReportPiece :=
  match value with
  | none => []
  | some text => if text = [] then [] else pieces text

/-- `cwe_html`, `owasp_html` and `nist_html`. -/
def metaTag (value : Option (List Char)) : List ReportPiece :=
  optional value fun text => [el "span" [("class", "meta-tag")], safeHtml h text, endOf "span"]

/-- `code_snippet_html`. -/
def codeSnippetHtml (idx : Nat) (f : ReportFinding F) : List ReportPiece :=
  optional f.remediationCodeSnippet fun snippet =>
    [el "div" [("class", "code-block-container")], el "div" [("class", "code-header")],
      el "span" [], say "Remediation Fix", endOf "span",
      el "button" [("class", "btn-copy"), ("onclick", "copySnippet('snippet-" ++ toString idx ++ "')")],
      say "Copy", endOf "button", endOf "div",
      el "pre" [("id", "snippet-" ++ toString idx)], el "code" [], safeHtml h snippet, endOf "code",
      endOf "pre", endOf "div"]

/-- A row of the evidence. -/
def evidenceRow (label : String) (attrs : List (String × String)) (value : List Char) :
    List ReportPiece :=
  [el "div" [("class", "evidence-row")]] ++ labelled "span" "ev-label" label ++
    [el "code" attrs, safeHtml h value, endOf "code", endOf "div"]

/-- The head of a card. -/
def cardHeader (idx : Nat) (f : ReportFinding F) : List ReportPiece :=
  [el "div" [("class", "finding-card severity-" ++ severityClass f.severity),
      ("id", "finding-" ++ toString idx)],
    el "div" [("class", "finding-header"), ("onclick", "toggleCard('" ++ toString idx ++ "')")],
    el "div" [("class", "finding-title-group")],
    el "span" [("class", "severity-badge"),
      ("style", "color: " ++ (sevColors f.severity).1 ++ "; background-color: " ++
        (sevColors f.severity).2 ++ ";")],
    say (severityValue f.severity), endOf "span",
    el "span" [("class", "check-id")], safeHtml h f.checkId, endOf "span",
    el "h3" [("class", "finding-title")], safeHtml h f.title, endOf "h3", endOf "div",
    el "div" [("class", "finding-header-meta")],
    el "span" [("class", "cvss-badge")], say "CVSS ", shows (h.fixedPoint 1 f.cvssScore), endOf "span",
    el "span" [("class", "chevron"), ("id", "chevron-" ++ toString idx)], say "▼", endOf "span",
    endOf "div", endOf "div"]

/-- The body of a card. -/
def cardBody (idx : Nat) (f : ReportFinding F) : List ReportPiece :=
  [el "div" [("class", "finding-body"), ("id", "body-" ++ toString idx)],
    el "div" [("class", "tags-row")]] ++
  metaTag h f.cweId ++ metaTag h f.owaspCategory ++ metaTag h f.nistControl ++
  [el "span" [("class", "meta-tag engine-tag")], safeHtml h f.engine, endOf "span", endOf "div",
    el "p" [("class", "finding-desc")], el "strong" [], say "Description:", endOf "strong", say " ",
    safeHtml h f.description, endOf "p",
    el "p" [("class", "finding-impact")], el "strong" [], say "Impact:", endOf "strong", say " ",
    safeHtml h f.impact, endOf "p",
    el "div" [("class", "evidence-box")], el "h4" [], say "Evidence & Location", endOf "h4"] ++
  evidenceRow h "Location:" [] f.location ++
  evidenceRow h "Observed:" [("class", "obs-code")] (rawObs h f) ++
  evidenceRow h "Expected:" [("class", "exp-code")]
    (if f.expectedValue = [] then "Secure default".toList else f.expectedValue) ++
  [endOf "div", el "div" [("class", "remediation-box")], el "h4" [], say "Remediation Guidance",
    endOf "h4", el "p" [], safeHtml h f.remediation, endOf "p"] ++
  codeSnippetHtml h idx f ++ [endOf "div", endOf "div", endOf "div"]

/-- `card_html`. -/
def cardPieces (idx : Nat) (f : ReportFinding F) : List ReportPiece := cardHeader h idx f ++ cardBody h idx f

/-- What stands for no findings. -/
def noFindings : List ReportPiece :=
  [el "div" [("class", "no-findings")]] ++ labelled "div" "checkmark" "✓" ++
    [el "h3" [], say "Zero Vulnerabilities Detected", endOf "h3", el "p" [],
      say "Target passed all automated security checks without any findings.", endOf "p", endOf "div"]

/-- `findings_content`. -/
def findingsContent (findings : List (ReportFinding F)) : List ReportPiece :=
  if findings.isEmpty then noFindings
  else (findings.zipIdx 1).flatMap fun entry => cardPieces h entry.2 entry.1

/-! ### The document -/

/-- `grade`. -/
def grade (job : ReportJob F D) : List Char :=
  match job.summary with
  | none => ['N', '/', 'A']
  | some summary => summary.overallSecurityGrade

/-- `grade_colors.get(grade, "#64748b")`. -/
def badgeBg (grade : List Char) : String :=
  if grade = ['A', '+'] || grade = ['A'] then "#10b981"
  else if grade = ['B'] then "#3b82f6"
  else if grade = ['C'] then "#eab308"
  else if grade = ['D'] then "#f97316"
  else if grade = ['F'] then "#ef4444"
  else "#64748b"

/-- A count of the summary. -/
def count (of : ReportSummary F → Nat) (job : ReportJob F D) : Nat := (job.summary.map of).getD 0

/-- A tile of the statistics. -/
def statPill (color label : String) (n : Nat) : List ReportPiece :=
  [el "div" [("class", "stat-pill")],
    el "span" [("class", "stat-count"), ("style", "color: var(--accent-" ++ color ++ ");")], number n,
    endOf "span"] ++ labelled "span" "stat-label" label ++ [endOf "div"]

/-- A button of the filter. -/
def filterButton (cls severity label : String) (n : Nat) : List ReportPiece :=
  [el "button" [("class", cls), ("onclick", "filterSeverity('" ++ severity ++ "')")],
    say (label ++ " ("), number n, say ")", endOf "button"]

/-- The head of the document. -/
def documentHead (job : ReportJob F D) : List ReportPiece :=
  [el "!DOCTYPE html" [], el "html" [("lang", "en")], el "head" [], el "meta" [("charset", "UTF-8")],
    el "meta" [("name", "viewport"), ("content", "width=device-width, initial-scale=1.0")],
    el "title" [], say "Security Assessment Report - ", safeHtml h job.targetName, endOf "title",
    el "style" [], shows h.styleSheet, endOf "style", endOf "head"]

/-- The panels over the findings. -/
def headerPanel (job : ReportJob F D) : List ReportPiece :=
  [el "body" [], el "div" [("class", "container")], el "!-- Header Panel --" [],
    el "div" [("class", "header-panel")], el "div" [("class", "header-title")],
    el "h1" [], safeHtml h job.targetName, endOf "h1",
    el "div" [("class", "target-val")], safeHtml h job.targetValue, endOf "div", endOf "div",
    el "div" [("class", "header-meta")],
    el "div" [], el "strong" [], say "Scan ID:", endOf "strong", say " ", el "code" [],
    .inserted (job.id.take 8) (escape (job.id.take 8)), endOf "code", endOf "div",
    el "div" [], el "strong" [], say "Timestamp:", endOf "strong", say " ",
    shows ((job.startedAt.map h.strftime).getD ['N', '/', 'A']), endOf "div",
    el "div" [], el "strong" [], say "Duration:", endOf "strong", say " ",
    shows ((job.summary.map fun s => h.fixedPoint 2 s.durationSeconds ++ ['s']).getD ['N', '/', 'A']),
    endOf "div", endOf "div", endOf "div"]

/-- The score and the counts. -/
def scorecardPanel (job : ReportJob F D) : List ReportPiece :=
  [el "!-- Scorecard & Statistics --" [], el "div" [("class", "scorecard-panel")],
    el "div" [("class", "grade-card")],
    el "div" [("class", "grade-badge"), ("style", "color: " ++ badgeBg (grade job) ++ ";")],
    .inserted (grade job) (grade job), endOf "div",
    el "div" [("class", "score-text")], say "Security Score: ", el "strong" [],
    shows ((job.summary.map fun s => h.fixedPoint 1 s.weightedScore).getD ['0', '.', '0']),
    endOf "strong", say " / 100", endOf "div", endOf "div",
    el "div" [("class", "stats-card")], el "div" [("class", "stats-grid")]] ++
  statPill "red" "Critical" (count ReportSummary.criticalCount job) ++
  statPill "orange" "High" (count ReportSummary.highCount job) ++
  statPill "yellow" "Medium" (count ReportSummary.mediumCount job) ++
  statPill "blue" "Low" (count ReportSummary.lowCount job) ++
  statPill "cyan" "Info" (count ReportSummary.infoCount job) ++
  [endOf "div", endOf "div", endOf "div"]

/-- The filter. -/
def filterBar (job : ReportJob F D) : List ReportPiece :=
  [el "!-- Severity Filter Bar --" [], el "div" [("class", "filter-bar")]] ++
  filterButton "filter-btn active" "all" "All Findings" job.findings.length ++
  filterButton "filter-btn" "critical" "Critical" (count ReportSummary.criticalCount job) ++
  filterButton "filter-btn" "high" "High" (count ReportSummary.highCount job) ++
  filterButton "filter-btn" "medium" "Medium" (count ReportSummary.mediumCount job) ++
  filterButton "filter-btn" "low" "Low" (count ReportSummary.lowCount job) ++ [endOf "div"]

/-- The pieces of the document. -/
def reportPieces (job : ReportJob F D) : List ReportPiece :=
  documentHead h job ++ headerPanel h job ++ scorecardPanel h job ++ filterBar job ++
  [el "!-- Findings Cards --" [], el "div" [("id", "findings-container")]] ++
  findingsContent h job.findings ++
  [endOf "div", endOf "div", el "script" [], shows h.script, endOf "script", endOf "body", endOf "html"]

/-- `export_scan_to_html`. -/
def exportScanToHtml (job : ReportJob F D) : List Char :=
  render ((reportPieces h job).map ReportPiece.piece)

end HtmlReport

end CyberAssess
