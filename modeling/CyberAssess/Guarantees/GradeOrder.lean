import Mathlib.Tactic.Linarith
import CyberAssess.Findings.Grading

/-!
# Guarantees — more findings never grade better

* `Bar` is what a letter asks of the counts and the score; `Bar.Met.worse`: it is met with fewer findings
  and a higher score.
* `overallSecurityGrade_bar`, `postureGrade_bar`: a cascade gives the best letter of which the bar is met.
* `roundEven_mono`: rounding keeps the order of scores.
* `lookup_engineBreakdown`: the breakdown counts the findings of each engine, in whatever order.
* `grading_monotone` puts them together.
-/

namespace CyberAssess

open Python

/-! ### The order of letters -/

/-- The place of a letter, from the worst. -/
def SecurityGrade.rank : SecurityGrade → ℕ
  | .f => 0
  | .d => 1
  | .c => 2
  | .b => 3
  | .a => 4
  | .aPlus => 5

instance : LE SecurityGrade := ⟨fun g h => g.rank ≤ h.rank⟩

instance (g h : SecurityGrade) : Decidable (g ≤ h) := inferInstanceAs (Decidable (g.rank ≤ h.rank))

/-- The place of a criticality, from the lowest. -/
def AssetCriticality.rank : AssetCriticality → ℕ
  | .low => 0
  | .medium => 1
  | .high => 2
  | .critical => 3

instance : LE AssetCriticality := ⟨fun g h => g.rank ≤ h.rank⟩

instance (g h : AssetCriticality) : Decidable (g ≤ h) := inferInstanceAs (Decidable (g.rank ≤ h.rank))

/-! ### Bars -/

/-- The most findings of a severity that a letter allows, where it has a most, and the least score. -/
structure Bar where
  high : Option ℕ
  medium : Option ℕ
  low : Option ℕ
  score : ℚ

/-- The counts and the score meet it; no letter but the worst allows a critical finding. -/
structure Bar.Met (bar : Bar) (n : SeverityCounts) (score : ℚ) : Prop where
  critical : n.critical = 0
  high : ∀ most ∈ bar.high, n.high ≤ most
  medium : ∀ most ∈ bar.medium, n.medium ≤ most
  low : ∀ most ∈ bar.low, n.low ≤ most
  score : bar.score ≤ score

/-- There are no fewer findings of any severity. -/
structure SeverityCounts.Within (m n : SeverityCounts) : Prop where
  critical : m.critical ≤ n.critical
  high : m.high ≤ n.high
  medium : m.medium ≤ n.medium
  low : m.low ≤ n.low

/-- What is met is met with fewer findings and a higher score. -/
theorem Bar.Met.worse {bar : Bar} {m n : SeverityCounts} {score better : ℚ} (met : bar.Met n score)
    (fewer : m.Within n) (higher : score ≤ better) : bar.Met m better where
  critical := Nat.le_zero.mp (fewer.critical.trans met.critical.le)
  high most some := fewer.high.trans (met.high most some)
  medium most some := fewer.medium.trans (met.medium most some)
  low most some := fewer.low.trans (met.low most some)
  score := met.score.trans higher

/-- The bars of `calculate_scan_grade`. -/
def scanBar : SecurityGrade → Option Bar
  | .aPlus => some ⟨some 0, some 0, some 0, 96⟩
  | .a => some ⟨some 0, some 0, some 2, 90⟩
  | .b => some ⟨some 0, some 2, none, 80⟩
  | .c => some ⟨some 0, none, none, 65⟩
  | .d => some ⟨none, none, none, 50⟩
  | .f => none

/-- The bars of `calculate_contextual_posture_grade`. -/
def postureBar : SecurityGrade → Option Bar
  | .aPlus => some ⟨some 0, some 0, some 0, 96⟩
  | .a => some ⟨some 0, some 0, none, 90⟩
  | .b => some ⟨some 0, some 2, none, 80⟩
  | .c => some ⟨some 0, none, none, 65⟩
  | .d => some ⟨none, none, none, 50⟩
  | .f => none

/-- A cascade gives the best letter of which the bar is met. -/
def Graded (bar : SecurityGrade → Option Bar) (n : SeverityCounts) (score : ℚ) (g : SecurityGrade) :
    Prop :=
  ∀ h : SecurityGrade, h ≤ g ↔ ∀ b ∈ bar h, b.Met n score

/-- With more findings and a lower score no letter is better. -/
theorem Graded.mono {bar : SecurityGrade → Option Bar} {m n : SeverityCounts} {score better : ℚ}
    {g h : SecurityGrade} (before : Graded bar m better g) (after : Graded bar n score h)
    (fewer : m.Within n) (higher : score ≤ better) : h ≤ g := by
  refine (before h).mpr fun b hb => ?_
  exact ((after h).mp (Nat.le_refl _) b hb).worse fewer higher

theorem bar_met_iff {high medium low : Option ℕ} {least score : ℚ} {n : SeverityCounts} :
    (Bar.mk high medium low least).Met n score ↔
      n.critical = 0 ∧ (∀ most ∈ high, n.high ≤ most) ∧ (∀ most ∈ medium, n.medium ≤ most) ∧
        (∀ most ∈ low, n.low ≤ most) ∧ least ≤ score :=
  ⟨fun h => ⟨h.1, h.2, h.3, h.4, h.5⟩, fun h => ⟨h.1, h.2.1, h.2.2.1, h.2.2.2.1, h.2.2.2.2⟩⟩

theorem le_iff_rank {g h : SecurityGrade} : g ≤ h ↔ g.rank ≤ h.rank := Iff.rfl

/-- The cascade of a scan. -/
theorem overallSecurityGrade_bar (n : SeverityCounts) (score : ℚ) :
    Graded scanBar n score (overallSecurityGrade n score) := by
  intro h
  rw [overallSecurityGrade]
  -- A case for each letter and each branch of the cascade: the bar against the tests before the branch.
  cases h <;>
    simp only [scanBar, Option.mem_def, Option.some.injEq, forall_eq', bar_met_iff, le_iff_rank] <;>
    split_ifs <;> simp only [SecurityGrade.rank] <;> grind

/-- The cascade of an asset. -/
theorem postureGrade_bar (n : SeverityCounts) (score : ℚ) :
    Graded postureBar n score (postureGrade n score) := by
  intro h
  rw [postureGrade]
  cases h <;>
    simp only [postureBar, Option.mem_def, Option.some.injEq, forall_eq', bar_met_iff, le_iff_rank] <;>
    split_ifs <;> simp only [SecurityGrade.rank] <;> grind

/-! ### Scores -/

/-- Rounding keeps the order. -/
theorem roundEven_mono {p q : ℚ} (h : p ≤ q) : roundEven p ≤ roundEven q := by
  have floors : ⌊p⌋.toNat ≤ ⌊q⌋.toNat := Int.toNat_le_toNat (Int.floor_le_floor h)
  simp only [roundEven]
  rcases floors.lt_or_eq with less | same
  · have up : ⌊p⌋.toNat + 1 ≤ ⌊q⌋.toNat := less
    split_ifs <;> omega
  · rw [same]
    split_ifs <;> first | omega | linarith

theorem roundTo_mono {digits : ℕ} {p q : ℚ} (h : p ≤ q) : roundTo digits p ≤ roundTo digits q := by
  have scale : (0 : ℚ) ≤ 10 ^ digits := by positivity
  have rounded : (roundEven (p * 10 ^ digits) : ℚ) ≤ roundEven (q * 10 ^ digits) :=
    Nat.cast_le.mpr (roundEven_mono (mul_le_mul_of_nonneg_right h scale))
  exact div_le_div_of_nonneg_right rounded scale

/-- More is deducted, less is left. -/
theorem score_anti {d d' : ℚ} (h : d ≤ d') :
    roundTo 1 (max 0 (min 100 (100 - d'))) ≤ roundTo 1 (max 0 (min 100 (100 - d))) :=
  roundTo_mono (max_le_max (le_refl 0) (min_le_min (le_refl 100) (sub_le_sub_left h 100)))

theorem contextualDeduction_mono {m n : SeverityCounts} {k l : ℚ} (fewer : m.Within n) (pos : 0 ≤ k)
    (more : k ≤ l) : contextualDeduction m k ≤ contextualDeduction n l := by
  have part {x y : ℕ} {w : ℚ} (weight : 0 ≤ w) (le : x ≤ y) : (x : ℚ) * w * k ≤ y * w * l := by
    have counts : (x : ℚ) * w ≤ y * w := mul_le_mul_of_nonneg_right (Nat.cast_le.mpr le) weight
    exact mul_le_mul counts more pos (mul_nonneg (Nat.cast_nonneg y) weight)
  exact add_le_add (add_le_add (add_le_add (part (by norm_num) fewer.critical)
    (part (by norm_num) fewer.high)) (part (by norm_num) fewer.medium)) (part (by norm_num) fewer.low)

theorem totalDeductions_eq (n : SeverityCounts) : totalDeductions n = contextualDeduction n 1 := by
  simp [totalDeductions, contextualDeduction, penaltyWeight]

theorem weightedScore_anti {m n : SeverityCounts} (fewer : m.Within n) :
    weightedScore n ≤ weightedScore m := by
  refine score_anti ?_
  rw [totalDeductions_eq, totalDeductions_eq]
  exact contextualDeduction_mono fewer zero_le_one (le_refl 1)

theorem scopeMultiplier_pos (criticality : AssetCriticality) (internetExposed : Bool) :
    0 ≤ scopeMultiplier criticality internetExposed := by
  cases criticality <;> cases internetExposed <;> norm_num [scopeMultiplier, getCriticalityFactor]

/-- The multiplier grows with the criticality and with the exposure. -/
theorem scopeMultiplier_mono {g h : AssetCriticality} {e e' : Bool} (critical : g ≤ h)
    (exposed : e ≤ e') : scopeMultiplier g e ≤ scopeMultiplier h e' := by
  have criticalities : g.rank ≤ h.rank := critical
  revert criticalities exposed
  cases g <;> cases h <;> cases e <;> cases e' <;>
    norm_num [scopeMultiplier, getCriticalityFactor, AssetCriticality.rank]

theorem finalScore_anti {m n : SeverityCounts} {k l : ℚ} (fewer : m.Within n) (pos : 0 ≤ k)
    (more : k ≤ l) : finalScore n l ≤ finalScore m k :=
  score_anti (contextualDeduction_mono fewer pos more)

/-! ### Counts -/

theorem SeverityCounts.Within.refl (n : SeverityCounts) : n.Within n :=
  ⟨Nat.le_refl _, Nat.le_refl _, Nat.le_refl _, Nat.le_refl _⟩

/-- A list counts no more than one it is a part of. -/
theorem severityCounts_within {findings more : List Finding} (part : findings.Sublist more) :
    (severityCounts findings).Within (severityCounts more) :=
  ⟨part.countP_le, part.countP_le, part.countP_le, part.countP_le⟩

theorem severityCounts_perm {findings others : List Finding} (perm : findings.Perm others) :
    severityCounts findings = severityCounts others := by
  simp only [severityCounts, countOf, perm.countP_eq]

theorem lookup_countEngine (engine key : String) (counts : List (String × ℕ)) :
    (countEngine engine counts).lookup key =
      if key = engine then some ((counts.lookup key).getD 0 + 1) else counts.lookup key := by
  induction counts with
  | nil =>
      by_cases same : key = engine
      · simp [countEngine, same]
      · have apart : (key == engine) = false := beq_eq_false_iff_ne.mpr same
        rw [countEngine, List.lookup_cons, apart, if_neg same]
  | cons m rest ih =>
      obtain ⟨name, n⟩ := m
      rw [countEngine]
      by_cases counted : name = engine
      · subst counted
        rw [if_pos rfl, List.lookup_cons, List.lookup_cons]
        by_cases same : key = name
        · simp [same]
        · have apart : (key == name) = false := beq_eq_false_iff_ne.mpr same
          rw [apart, if_neg same]
      · rw [if_neg counted, List.lookup_cons, List.lookup_cons, ih]
        by_cases same : key = name
        · subst same
          simp [counted]
        · have apart : (key == name) = false := beq_eq_false_iff_ne.mpr same
          rw [apart]

/-- The counts of further findings are added to those there are. -/
theorem lookup_counted (findings : List Finding) (key : String) : ∀ counts : List (String × ℕ),
    (findings.foldl (fun counts f => countEngine f.engine counts) counts).lookup key =
      if findings.countP (fun f => f.engine = key) = 0 then counts.lookup key
      else some ((counts.lookup key).getD 0 + findings.countP fun f => f.engine = key) := by
  induction findings with
  | nil => exact fun _ => rfl
  | cons f fs ih =>
      intro counts
      rw [List.foldl_cons, ih, lookup_countEngine]
      by_cases own : f.engine = key
      · rw [List.countP_cons_of_pos (by simp [own]), if_pos own.symm]
        by_cases none : fs.countP (fun f => f.engine = key) = 0
        · simp [none]
        · rw [if_neg none, if_neg (Nat.succ_ne_zero _), Option.getD_some, Nat.add_assoc,
            Nat.add_comm 1]
      · rw [List.countP_cons_of_neg (by simp [own]), if_neg (Ne.symm own)]

/-- The breakdown counts the findings of each engine, whatever their order. -/
theorem lookup_engineBreakdown (findings : List Finding) (key : String) :
    (engineBreakdown findings).lookup key =
      if findings.countP (fun f => f.engine = key) = 0 then none
      else some (findings.countP fun f => f.engine = key) := by
  rw [engineBreakdown, lookup_counted]
  simp

/-! ### Both functions -/

/-- Two summaries are the same, whatever the order of the breakdown. -/
def ScanJobSummary.Same (s t : ScanJobSummary) : Prop :=
  { s with engineBreakdown := [] } = { t with engineBreakdown := [] } ∧
    ∀ engine, s.engineBreakdown.lookup engine = t.engineBreakdown.lookup engine

theorem calculateScanGrade_perm {findings others : List Finding} (perm : findings.Perm others)
    (total passed : ℕ) (duration : ℚ) :
    (calculateScanGrade findings total passed duration).Same
      (calculateScanGrade others total passed duration) := by
  constructor
  · simp only [calculateScanGrade, severityCounts_perm perm, perm.length_eq, countOf, perm.countP_eq]
  · intro engine
    show (engineBreakdown findings).lookup engine = (engineBreakdown others).lookup engine
    rw [lookup_engineBreakdown, lookup_engineBreakdown, perm.countP_eq]

/-- With more findings a scan is graded no better. -/
theorem calculateScanGrade_anti {findings more : List Finding} (part : findings.Sublist more)
    (total passed : ℕ) (duration : ℚ) :
    (calculateScanGrade more total passed duration).weightedScore ≤
        (calculateScanGrade findings total passed duration).weightedScore ∧
      (calculateScanGrade more total passed duration).overallSecurityGrade ≤
        (calculateScanGrade findings total passed duration).overallSecurityGrade := by
  have fewer := severityCounts_within part
  have lower := weightedScore_anti fewer
  exact ⟨lower, (overallSecurityGrade_bar _ _).mono (overallSecurityGrade_bar _ _) fewer lower⟩

/-- With more findings, a higher criticality and more exposure an asset is graded no better. -/
theorem calculateContextualPostureGrade_anti {findings more : List Finding} {g h : AssetCriticality}
    {e e' : Bool} (part : findings.Sublist more) (critical : g ≤ h) (exposed : e ≤ e') :
    (calculateContextualPostureGrade more h e').1 ≤ (calculateContextualPostureGrade findings g e).1 ∧
      (calculateContextualPostureGrade more h e').2 ≤
        (calculateContextualPostureGrade findings g e).2 := by
  have fewer := severityCounts_within part
  have lower := finalScore_anti fewer (scopeMultiplier_pos g e) (scopeMultiplier_mono critical exposed)
  exact ⟨lower, (postureGrade_bar _ _).mono (postureGrade_bar _ _) fewer lower⟩

/-- **Grades.**  A further finding never raises the score or the letter of a scan or of an asset, neither
does a higher criticality nor more exposure, and the order of the findings does not matter. -/
theorem grading_monotone :
    (∀ (findings : List Finding) (f : Finding) (total passed : ℕ) (duration : ℚ),
      (calculateScanGrade (findings ++ [f]) total passed duration).weightedScore ≤
          (calculateScanGrade findings total passed duration).weightedScore ∧
        (calculateScanGrade (findings ++ [f]) total passed duration).overallSecurityGrade ≤
          (calculateScanGrade findings total passed duration).overallSecurityGrade) ∧
    (∀ (findings : List Finding) (f : Finding) (g : AssetCriticality) (e : Bool),
      (calculateContextualPostureGrade (findings ++ [f]) g e).1 ≤
          (calculateContextualPostureGrade findings g e).1 ∧
        (calculateContextualPostureGrade (findings ++ [f]) g e).2 ≤
          (calculateContextualPostureGrade findings g e).2) ∧
    (∀ (findings others : List Finding), findings.Perm others →
      (∀ (total passed : ℕ) (duration : ℚ), (calculateScanGrade findings total passed duration).Same
        (calculateScanGrade others total passed duration)) ∧
      ∀ (g : AssetCriticality) (e : Bool), calculateContextualPostureGrade findings g e =
        calculateContextualPostureGrade others g e) ∧
    ∀ (findings : List Finding) (g h : AssetCriticality) (e e' : Bool), g ≤ h → e ≤ e' →
      (calculateContextualPostureGrade findings h e').1 ≤
          (calculateContextualPostureGrade findings g e).1 ∧
        (calculateContextualPostureGrade findings h e').2 ≤
          (calculateContextualPostureGrade findings g e).2 := by
  refine ⟨?_, ?_, ?_, ?_⟩
  · intro findings f total passed duration
    exact calculateScanGrade_anti (List.sublist_append_left findings [f]) total passed duration
  · intro findings f g e
    exact calculateContextualPostureGrade_anti (List.sublist_append_left findings [f])
      (Nat.le_refl _) (le_refl e)
  · intro findings others perm
    refine ⟨calculateScanGrade_perm perm, fun g e => ?_⟩
    rw [calculateContextualPostureGrade, calculateContextualPostureGrade, severityCounts_perm perm]
  · intro findings g h e e' critical exposed
    exact calculateContextualPostureGrade_anti (List.Sublist.refl findings) critical exposed

namespace GradeSample

/-- A finding of a header scan. -/
def header : Finding where
  id := "find-1"
  scanId := "scan-1"
  engine := "web_dast"
  checkId := "csp-missing"
  category := "headers"
  title := "No content security policy"
  severity := .medium
  description := "The header is not sent."
  impact := "Scripts are not restricted."
  remediation := "Send the header."
  evidence := { location := "/", observedValue := "absent", expectedValue := "present" }

/-- A finding of a dependency scan. -/
def dependency : Finding := { header with id := "find-2", engine := "sca", severity := .high }

/-- Two findings in either order, and an asset that becomes critical and exposed. -/
theorem header_dependency :
    (calculateScanGrade [header, dependency] 0 3 1).Same (calculateScanGrade [dependency, header] 0 3 1) ∧
      (calculateContextualPostureGrade [header] .critical true).2 ≤
        (calculateContextualPostureGrade [header] .low false).2 :=
  ⟨(grading_monotone.2.2.1 _ _ (.swap dependency header [])).1 0 3 1,
    (grading_monotone.2.2.2 [header] .low .critical false true (by decide) (by decide)).2⟩

end GradeSample

end CyberAssess
