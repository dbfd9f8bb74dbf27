import CyberAssess.Support.FloatText
import CyberAssess.Findings.Correlator

/-!
# Findings — scores and letter grades

`core/grading.py` and `core/risk_engine.py`: what is deducted for the findings of a scan, and the letter
that goes with what is left.

* `SeverityCounts` counts the findings of each severity.
* `calculateScanGrade` grades a scan, `calculateContextualPostureGrade` an asset; each has its own
  cascade of letters.

`[about ours]`: scores are rational numbers, rounded as floats are. The counts of checks and the
duration are not negative, as the summary requires.
-/

namespace CyberAssess

open Python

/-- `round(q, digits)` of a number that is not negative. -/
def roundTo (digits : ℕ) (q : ℚ) : ℚ := roundEven (q * 10 ^ digits) / 10 ^ digits

/-- `SecurityGrade`. -/
inductive SecurityGrade where
  | aPlus
  | a
  | b
  | c
  | d
  | f
deriving DecidableEq, Repr

/-- How many findings there are of each severity that counts. -/
structure SeverityCounts where
  critical : ℕ
  high : ℕ
  medium : ℕ
  low : ℕ
deriving DecidableEq

/-- `sum(1 for f in findings if f.severity == severity)`. -/
def countOf (severity : Severity) (findings : List Finding) : ℕ :=
  findings.countP fun f => f.severity = severity

/-- The four counts of both functions. -/
def severityCounts (findings : List Finding) : SeverityCounts where
  critical := countOf .critical findings
  high := countOf .high findings
  medium := countOf .medium findings
  low := countOf .low findings

/-! ### The grade of a scan -/

/-- `PENALTY_WEIGHTS`. -/
def penaltyWeight : Severity → ℚ
  | .critical => 35
  | .high => 15
  | .medium => 5
  | .low => 1
  | .info => 0

/-- `total_deductions`. -/
def totalDeductions (n : SeverityCounts) : ℚ :=
  n.critical * penaltyWeight .critical + n.high * penaltyWeight .high +
    n.medium * penaltyWeight .medium + n.low * penaltyWeight .low

/-- `weighted_score`. -/
def weightedScore (n : SeverityCounts) : ℚ := roundTo 1 (max 0 (min 100 (100 - totalDeductions n)))

/-- `overall_security_grade`. -/
def overallSecurityGrade (n : SeverityCounts) (weightedScore : ℚ) : SecurityGrade :=
  if 0 < n.critical then .f
  else if 1 ≤ n.high then
    if weightedScore < 50 then .f else .d
  else if 96 ≤ weightedScore ∧ n.critical = 0 ∧ n.high = 0 ∧ n.medium = 0 ∧ n.low = 0 then .aPlus
  else if 90 ≤ weightedScore ∧ n.critical = 0 ∧ n.high = 0 ∧ n.medium = 0 ∧ n.low ≤ 2 then .a
  else if 80 ≤ weightedScore ∧ n.critical = 0 ∧ n.high = 0 ∧ n.medium ≤ 2 then .b
  else if 65 ≤ weightedScore ∧ n.critical = 0 ∧ n.high = 0 then .c
  else if 50 ≤ weightedScore ∧ n.critical = 0 then .d
  else .f

/-- `engine_breakdown[engine] = engine_breakdown.get(engine, 0) + 1`. -/
def countEngine (engine : String) : List (String × ℕ) → List (String × ℕ)
  | [] => [(engine, 1)]
  | (key, n) :: rest => if key = engine then (key, n + 1) :: rest else (key, n) :: countEngine engine rest

/-- `engine_breakdown`. -/
def engineBreakdown (findings : List Finding) : List (String × ℕ) :=
  findings.foldl (fun counts f => countEngine f.engine counts) []

/-- `ScanJobSummary`, of which the grading sets these. -/
structure ScanJobSummary where
  criticalCount : ℕ
  highCount : ℕ
  mediumCount : ℕ
  lowCount : ℕ
  infoCount : ℕ
  totalFindings : ℕ
  passedChecks : ℕ
  totalChecksEvaluated : ℕ
  weightedScore : ℚ
  overallSecurityGrade : SecurityGrade
  durationSeconds : ℚ
  engineBreakdown : List (String × ℕ)

/-- `calculate_scan_grade`. -/
def calculateScanGrade (findings : List Finding) (totalChecksEvaluated passedChecks : ℕ)
    (durationSeconds : ℚ) : ScanJobSummary :=
  let n := severityCounts findings
  { criticalCount := n.critical
    highCount := n.high
    mediumCount := n.medium
    lowCount := n.low
    infoCount := countOf .info findings
    totalFindings := findings.length
    passedChecks := passedChecks
    totalChecksEvaluated :=
      if totalChecksEvaluated = 0 then max findings.length (passedChecks + findings.length)
      else totalChecksEvaluated
    weightedScore := weightedScore n
    overallSecurityGrade := overallSecurityGrade n (weightedScore n)
    durationSeconds := roundTo 2 durationSeconds
    engineBreakdown := engineBreakdown findings }

/-! ### The grade of an asset -/

/-- `AssetCriticality`. -/
inductive AssetCriticality where
  | critical
  | high
  | medium
  | low
deriving DecidableEq, Repr

/-- `get_criticality_factor`. -/
def getCriticalityFactor : AssetCriticality → ℚ
  | .critical => 3 / 2
  | .high => 6 / 5
  | .medium => 1
  | .low => 7 / 10

/-- `scope_multiplier`. -/
def scopeMultiplier (criticality : AssetCriticality) (internetExposed : Bool) : ℚ :=
  getCriticalityFactor criticality * if internetExposed then 1 else 7 / 10

/-- `deduction`. -/
def contextualDeduction (n : SeverityCounts) (multiplier : ℚ) : ℚ :=
  n.critical * 35 * multiplier + n.high * 15 * multiplier + n.medium * 5 * multiplier +
    n.low * 1 * multiplier

/-- `final_score`. -/
def finalScore (n : SeverityCounts) (multiplier : ℚ) : ℚ :=
  roundTo 1 (max 0 (min 100 (100 - contextualDeduction n multiplier)))

/-- The letter of `calculate_contextual_posture_grade`. -/
def postureGrade (n : SeverityCounts) (finalScore : ℚ) : SecurityGrade :=
  if 0 < n.critical then .f
  else if 0 < n.high ∨ finalScore < 65 then
    if finalScore < 50 then .f
    else if finalScore < 65 ∨ 0 < n.high then .d
    else .c
  else if 2 < n.medium ∨ finalScore < 80 then .c
  else if 0 < n.medium ∨ finalScore < 90 then .b
  else if 0 < n.low ∨ finalScore < 96 then .a
  else .aPlus

/-- `calculate_contextual_posture_grade`. -/
def calculateContextualPostureGrade (findings : List Finding) (criticality : AssetCriticality)
    (internetExposed : Bool) : ℚ × SecurityGrade :=
  let n := severityCounts findings
  let score := finalScore n (scopeMultiplier criticality internetExposed)
  (score, postureGrade n score)

end CyberAssess
