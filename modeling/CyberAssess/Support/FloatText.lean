import Mathlib.Data.Int.Log
import Mathlib.Data.Rat.Floor
import Mathlib.Tactic.Ring
import CyberAssess.Support.JsonReader

/-!
# Support — the text of a double

`float(text)` and `float.__repr__`: a decimal is read as the nearest double, and a double is written as
the shortest decimal that is read as it.

* `nearest` is the double of a number; `shortest` the decimal of a double; `floatLayout` its text.
* `reprFloat` is `repr(float(text))`.
* `decimalOf_layout`: the text of a decimal is read as the decimal.
* `isFloatText_reprFloat`: what is written is the text of a float, and `reprFloat_reprFloat`: it is
  written again as it is.

`[about ours]`: a double is the number it is, its sign apart. That seventeen digits are enough is not
used: a double they were not enough for would have no text.
-/

namespace Python

/-! ### Doubles -/

/-- The nearest whole number, the even one of two. -/
def roundEven (q : ℚ) : ℕ :=
  let n := ⌊q⌋.toNat
  if q - n < 1 / 2 then n
  else if 1 / 2 < q - n then n + 1
  else if n % 2 = 0 then n
  else n + 1

/-- The double nearest to a number that is not negative: 53 bits, the last of them not below
`2 ^ -1074`. None beyond the largest. -/
def nearest (q : ℚ) : Option ℚ :=
  if q = 0 then some 0
  else
    let e := max (Int.log 2 q - 52) (-1074)
    let x := roundEven (q / 2 ^ e) * (2 : ℚ) ^ e
    if x < 2 ^ 1024 then some x else none

/-- The two numbers of `n` digits next to `x`, the closer one first, each with its power of ten. -/
def candidates (x : ℚ) (n : ℕ) : List (ℕ × ℤ) :=
  let k := Int.log 10 x - (n - 1 : ℤ)
  let y := x / 10 ^ k
  let d := roundEven y
  [(d, k), (if (d : ℚ) ≤ y then d + 1 else d - 1, k)]

/-- The shortest decimal that is read as `x`: seventeen digits are always enough. -/
def shortest (x : ℚ) : Option (ℕ × ℤ) :=
  ((List.range 17).flatMap fun n => candidates x (n + 1)).find? fun c =>
    nearest (c.1 * 10 ^ c.2) = some x

/-- Without the zeros at the end. -/
def trimZeros : ℕ → ℕ × ℤ → ℕ × ℤ
  | 0, c => c
  | n + 1, c => if c.1 % 10 = 0 then trimZeros n (c.1 / 10, c.2 + 1) else c

/-- The last `w` digits. -/
def lastDigits : ℕ → ℕ → List Char
  | 0, _ => []
  | w + 1, n => lastDigits w (n / 10) ++ [(n % 10).digitChar]

/-- `e+16`: at least two digits. -/
def exponentText (e : ℤ) : List Char :=
  'e' :: (if e < 0 then '-' else '+') ::
    (if e.natAbs < 10 then lastDigits 2 e.natAbs else Nat.toDigits 10 e.natAbs)

/-- `float.__repr__` of `d * 10 ^ k`: with an exponent where the point is not within sixteen digits or
three zeros of the front. -/
def floatLayout (d : ℕ) (k : ℤ) : List Char :=
  let j := (Nat.toDigits 10 d).length - 1
  if (j : ℤ) + k < -4 || 16 ≤ (j : ℤ) + k then
    Nat.toDigits 10 (d / 10 ^ j) ++ (if j = 0 then [] else '.' :: lastDigits j d) ++ exponentText (j + k)
  else if 0 ≤ k then Nat.toDigits 10 (d * 10 ^ k.toNat) ++ ['.', '0']
  else Nat.toDigits 10 (d / 10 ^ (-k).toNat) ++ '.' :: lastDigits (-k).toNat d

/-- `repr` of a double that is not negative. -/
def reprDouble (x : ℚ) : Option (List Char) :=
  if x = 0 then some ['0', '.', '0']
  else (shortest x).map fun c => floatLayout (trimZeros 17 c).1 (trimZeros 17 c).2

/-- The number an exponent stands for. -/
def exponentOf : List Char → ℤ
  | _ :: '+' :: ds => Nat.ofDigitChars 10 ds 0
  | _ :: '-' :: ds => -(Nat.ofDigitChars 10 ds 0 : ℤ)
  | _ :: ds => Nat.ofDigitChars 10 ds 0
  | [] => 0

/-- The number a decimal without a sign stands for. -/
def decimalOf (cs : List Char) : Option ℚ := do
  let (whole, rest) ← scanWhole cs
  let (fraction, rest) := scanFraction rest
  let (exponent, rest) := scanExponent rest
  guard rest.isEmpty
  return Nat.ofDigitChars 10 (whole ++ fraction.drop 1) 0 *
    10 ^ (exponentOf exponent - (fraction.drop 1).length)

/-- `repr(float(text))` of a decimal without a sign, where it is finite. -/
def reprMagnitude (cs : List Char) : Option (List Char) :=
  (decimalOf cs).bind fun q => (nearest q).bind reprDouble

/-- `repr(float(text))`, where it is finite. -/
def reprFloat : List Char → Option (List Char)
  | '-' :: cs => (reprMagnitude cs).map ('-' :: ·)
  | cs => reprMagnitude cs

/-! ### Digits -/

theorem isDigit_digitChar {n : ℕ} (small : n < 10) : n.digitChar.isDigit = true :=
  (by decide : ∀ i : Fin 10, i.val.digitChar.isDigit = true) ⟨n, small⟩

theorem isDigit_lastDigits (w : ℕ) : ∀ n : ℕ, ∀ c ∈ lastDigits w n, c.isDigit = true := by
  induction w with
  | zero => simp [lastDigits]
  | succ w ih =>
      intro n c hc
      rcases List.mem_append.mp hc with front | last
      · exact ih (n / 10) c front
      · rw [List.mem_singleton.mp last]
        exact isDigit_digitChar (Nat.mod_lt n (by decide))

theorem length_lastDigits (w : ℕ) : ∀ n : ℕ, (lastDigits w n).length = w := by
  induction w with
  | zero => exact fun _ => rfl
  | succ w ih =>
      intro n
      rw [lastDigits, List.length_append, ih, List.length_singleton]

/-- The last digits go on with the number in front of them. -/
theorem ofDigitChars_lastDigits (cs : List Char) (w : ℕ) : ∀ n : ℕ,
    Nat.ofDigitChars 10 (cs ++ lastDigits w n) 0 = Nat.ofDigitChars 10 cs 0 * 10 ^ w + n % 10 ^ w := by
  induction w with
  | zero =>
      intro n
      simp [lastDigits, Nat.mod_one]
  | succ w ih =>
      intro n
      have digit : ((n % 10).digitChar.toNat - '0'.toNat) = n % 10 :=
        (by decide : ∀ i : Fin 10, i.val.digitChar.toNat - '0'.toNat = i.val)
          ⟨n % 10, Nat.mod_lt n (by decide)⟩
      have split : n % 10 ^ (w + 1) = n % 10 + 10 * (n / 10 % 10 ^ w) := by
        rw [pow_succ, Nat.mul_comm, Nat.mod_mul]
      have step := ih (n / 10)
      rw [lastDigits, ← List.append_assoc, Nat.ofDigitChars_append, step, split]
      simp only [Nat.ofDigitChars, List.foldl_cons, List.foldl_nil, digit]
      ring

/-! ### Reading a text -/

theorem decimalOf_parts {n : ℕ} {fraction exponent : List Char} (hf : IsFraction fraction)
    (he : IsExponent exponent) :
    decimalOf (Nat.toDigits 10 n ++ fraction ++ exponent) =
      some ((Nat.ofDigitChars 10 (Nat.toDigits 10 n ++ fraction.drop 1) 0 : ℚ) *
        10 ^ (exponentOf exponent - (fraction.drop 1).length)) := by
  have stop : Stops [] := by rintro c ⟨⟩
  obtain ⟨after, power⟩ := fraction_head hf he stop
  have whole := scanWhole_digits n after
  have frac := scanFraction_of hf power
  have expo := scanExponent_of he stop
  rw [List.append_nil] at whole frac expo
  simp only [decimalOf, List.append_assoc, whole, frac, expo, Option.bind_eq_bind, Option.bind_some,
    List.isEmpty_nil]
  rfl

theorem isExponent_exponentText (e : ℤ) : IsExponent (exponentText e) := by
  have digits : ∃ d ds, (if e.natAbs < 10 then lastDigits 2 e.natAbs else Nat.toDigits 10 e.natAbs) =
      d :: ds ∧ ∀ c ∈ d :: ds, c.isDigit = true := by
    by_cases small : e.natAbs < 10
    · rw [if_pos small]
      exact ⟨_, _, rfl, isDigit_lastDigits 2 e.natAbs⟩
    · rw [if_neg small]
      cases text : Nat.toDigits 10 e.natAbs with
      | nil => exact absurd text Nat.toDigits_ne_nil
      | cons d ds => exact ⟨d, ds, rfl, text ▸ isDigit_toDigits e.natAbs⟩
  obtain ⟨d, ds, text, all⟩ := digits
  refine Or.inr ⟨['e', if e < 0 then '-' else '+'], d, ds, ?_, all, ?_⟩
  · rw [exponentText, text]
    rfl
  · split <;> simp

theorem exponentOf_exponentText (e : ℤ) : exponentOf (exponentText e) = e := by
  have digits : Nat.ofDigitChars 10
      (if e.natAbs < 10 then lastDigits 2 e.natAbs else Nat.toDigits 10 e.natAbs) 0 = e.natAbs := by
    by_cases small : e.natAbs < 10
    · have read := ofDigitChars_lastDigits [] 2 e.natAbs
      rw [List.nil_append, Nat.ofDigitChars_nil] at read
      rw [if_pos small, read]
      omega
    · rw [if_neg small, Nat.ofDigitChars_ten_toDigits]
  by_cases negative : e < 0
  · rw [exponentText, if_pos negative, exponentOf, digits]
    omega
  · rw [exponentText, if_neg negative, exponentOf, digits]
    omega

theorem isFraction_point (d j : ℕ) : IsFraction (if j = 0 then [] else '.' :: lastDigits j d) := by
  by_cases none : j = 0
  · exact Or.inl (if_pos none)
  · rw [if_neg none]
    cases text : lastDigits j d with
    | nil =>
        have length := length_lastDigits j d
        rw [text] at length
        exact absurd length.symm none
    | cons c cs => exact Or.inr ⟨c, cs, rfl, text ▸ isDigit_lastDigits j d⟩

/-- A decimal with `j` digits after the point. -/
theorem decimalOf_point (d j : ℕ) {exponent : List Char} (he : IsExponent exponent) :
    decimalOf (Nat.toDigits 10 (d / 10 ^ j) ++ (if j = 0 then [] else '.' :: lastDigits j d) ++ exponent) =
      some ((d : ℚ) * 10 ^ (exponentOf exponent - j)) := by
  have dropped : (if j = 0 then [] else '.' :: lastDigits j d).drop 1 = lastDigits j d := by
    by_cases none : j = 0
    · rw [if_pos none, none]
      rfl
    · rw [if_neg none]
      rfl
  have whole : Nat.ofDigitChars 10 (Nat.toDigits 10 (d / 10 ^ j) ++ lastDigits j d) 0 = d := by
    rw [ofDigitChars_lastDigits, Nat.ofDigitChars_ten_toDigits, Nat.mul_comm, Nat.div_add_mod]
  rw [decimalOf_parts (isFraction_point d j) he, dropped, whole, length_lastDigits]

/-- The text of a decimal is read as the decimal. -/
theorem decimalOf_layout (d : ℕ) (k : ℤ) : decimalOf (floatLayout d k) = some ((d : ℚ) * 10 ^ k) := by
  simp only [floatLayout]
  split
  · rw [decimalOf_point _ _ (isExponent_exponentText _), exponentOf_exponentText]
    congr 3
    omega
  · split
    · rename_i whole
      have hf : IsFraction ['.', '0'] := Or.inr ⟨'0', [], rfl, List.forall_mem_singleton.mpr rfl⟩
      have read := decimalOf_parts (n := d * 10 ^ k.toNat) hf (Or.inl rfl)
      rw [List.append_nil] at read
      have zero : Nat.ofDigitChars 10 (Nat.toDigits 10 (d * 10 ^ k.toNat) ++ ['0']) 0 =
          d * 10 ^ k.toNat * 10 := by
        have last := ofDigitChars_lastDigits (Nat.toDigits 10 (d * 10 ^ k.toNat)) 1 0
        rw [Nat.ofDigitChars_ten_toDigits, Nat.zero_mod, Nat.add_zero, pow_one] at last
        exact last
      have power : (10 : ℚ) ^ k = 10 ^ k.toNat := by
        rw [← zpow_natCast, Int.toNat_of_nonneg whole]
      rw [read, List.drop_one, List.tail_cons, zero, power]
      simp [exponentOf]
    · rename_i fractional
      have full : (-k).toNat ≠ 0 := by omega
      have read := decimalOf_point d (-k).toNat (Or.inl rfl : IsExponent [])
      rw [if_neg full, List.append_nil] at read
      have power : exponentOf [] - ((-k).toNat : ℤ) = k := by
        rw [exponentOf]
        omega
      rw [read, power]

/-- It is the text of a float. -/
theorem isFloatText_layout (d : ℕ) (k : ℤ) : IsFloatText (floatLayout d k) := by
  simp only [floatLayout]
  split
  · exact ⟨false, _, _, _, rfl, isFraction_point d _, isExponent_exponentText _,
      Or.inr (List.cons_ne_nil _ _)⟩
  · split
    · exact ⟨false, _, ['.', '0'], [], (List.append_nil _).symm,
        Or.inr ⟨'0', [], rfl, List.forall_mem_singleton.mpr rfl⟩, Or.inl rfl,
        Or.inl (List.cons_ne_nil _ _)⟩
    · have full : (-k).toNat ≠ 0 := by omega
      have hf := isFraction_point d (-k).toNat
      rw [if_neg full] at hf
      exact ⟨false, _, _, [], (List.append_nil _).symm, hf, Or.inl rfl,
        Or.inl (List.cons_ne_nil _ _)⟩

/-! ### Written again -/

theorem value_trimZeros (n : ℕ) : ∀ c : ℕ × ℤ,
    ((trimZeros n c).1 : ℚ) * 10 ^ (trimZeros n c).2 = (c.1 : ℚ) * 10 ^ c.2 := by
  induction n with
  | zero => exact fun _ => rfl
  | succ n ih =>
      intro c
      rw [trimZeros]
      by_cases zero : c.1 % 10 = 0
      · have whole : (c.1 : ℚ) = (c.1 / 10 : ℕ) * 10 := by
          have exact : c.1 = c.1 / 10 * 10 := by omega
          exact_mod_cast exact
        rw [if_pos zero, ih, whole, zpow_add₀ (by norm_num), zpow_one]
        ring
      · rw [if_neg zero]

/-- The shortest decimal is read as the double. -/
theorem nearest_shortest {x : ℚ} {c : ℕ × ℤ} (h : shortest x = some c) :
    nearest ((c.1 : ℚ) * 10 ^ c.2) = some x := by
  have found := List.find?_some h
  exact of_decide_eq_true found

/-- The text of a double is one of a float, and is read as the double. -/
theorem reprDouble_spec {x : ℚ} {text : List Char} (h : reprDouble x = some text) :
    IsFloatText text ∧ (decimalOf text).bind nearest = some x := by
  rw [reprDouble] at h
  split at h
  · rename_i zero
    cases h
    subst zero
    refine ⟨⟨false, 0, ['.', '0'], [], by simp, Or.inr ⟨'0', [], rfl, List.forall_mem_singleton.mpr rfl⟩,
      Or.inl rfl, Or.inl (List.cons_ne_nil _ _)⟩, ?_⟩
    have read := decimalOf_layout 0 0
    have text : floatLayout 0 0 = ['0', '.', '0'] := by simp [floatLayout]
    rw [text] at read
    rw [read, Option.bind_some, Nat.cast_zero, zero_mul, nearest, if_pos rfl]
  · obtain ⟨c, found, rfl⟩ := Option.map_eq_some_iff.mp h
    refine ⟨isFloatText_layout _ _, ?_⟩
    rw [decimalOf_layout, Option.bind_some, value_trimZeros, nearest_shortest found]

theorem layout_front (d : ℕ) (k : ℤ) : ∃ n rest, floatLayout d k = Nat.toDigits 10 n ++ rest := by
  simp only [floatLayout]
  split
  · exact ⟨_, _, List.append_assoc _ _ _⟩
  · split
    · exact ⟨_, _, rfl⟩
    · exact ⟨_, _, rfl⟩

/-- The text of a double that is not negative has no sign. -/
theorem reprDouble_unsigned {x : ℚ} {text : List Char} (h : reprDouble x = some text)
    (cs : List Char) : text ≠ '-' :: cs := by
  rw [reprDouble] at h
  split at h
  · cases h
    exact fun same => absurd (List.cons.inj same).1 (by decide)
  · obtain ⟨c, -, rfl⟩ := Option.map_eq_some_iff.mp h
    obtain ⟨n, rest, front⟩ := layout_front (trimZeros 17 c).1 (trimZeros 17 c).2
    rw [front]
    intro same
    cases digits : Nat.toDigits 10 n with
    | nil => exact Nat.toDigits_ne_nil digits
    | cons d ds =>
        rw [digits, List.cons_append] at same
        have digit := isDigit_toDigits n d (digits ▸ List.mem_cons_self)
        rw [(List.cons.inj same).1] at digit
        exact absurd digit (by decide)

theorem reprFloat_unsigned {text : List Char} (h : ∀ cs, text ≠ '-' :: cs) :
    reprFloat text = reprMagnitude text := by
  rw [reprFloat]
  exact h

theorem reprMagnitude_eq_some {cs text : List Char} (h : reprMagnitude cs = some text) :
    ∃ x, reprDouble x = some text := by
  obtain ⟨q, -, h⟩ := Option.bind_eq_some_iff.mp h
  obtain ⟨x, -, h⟩ := Option.bind_eq_some_iff.mp h
  exact ⟨x, h⟩

/-- The text of a double is written again as it is. -/
theorem reprMagnitude_of_repr {x : ℚ} {text : List Char} (h : reprDouble x = some text) :
    reprMagnitude text = some text := by
  have read := (reprDouble_spec h).2
  rw [reprMagnitude, ← Option.bind_assoc, read, Option.bind_some, h]

theorem isFloatText_neg {cs : List Char} (h : IsFloatText cs) (unsigned : ∀ ds, cs ≠ '-' :: ds) :
    IsFloatText ('-' :: cs) := by
  obtain ⟨negative, n, fraction, exponent, rfl, hf, he, full⟩ := h
  cases negative with
  | true => exact absurd rfl (unsigned _)
  | false => exact ⟨true, n, fraction, exponent, rfl, hf, he, full⟩

/-- What is written is the text of a float. -/
theorem isFloatText_reprFloat {cs text : List Char} (h : reprFloat cs = some text) :
    IsFloatText text := by
  unfold reprFloat at h
  split at h
  · obtain ⟨own, written, rfl⟩ := Option.map_eq_some_iff.mp h
    obtain ⟨x, spelt⟩ := reprMagnitude_eq_some written
    exact isFloatText_neg (reprDouble_spec spelt).1 (reprDouble_unsigned spelt)
  · obtain ⟨x, spelt⟩ := reprMagnitude_eq_some h
    exact (reprDouble_spec spelt).1

/-- What is written is written again as it is. -/
theorem reprFloat_reprFloat {cs text : List Char} (h : reprFloat cs = some text) :
    reprFloat text = some text := by
  unfold reprFloat at h
  split at h
  · obtain ⟨own, written, rfl⟩ := Option.map_eq_some_iff.mp h
    obtain ⟨x, spelt⟩ := reprMagnitude_eq_some written
    rw [reprFloat, reprMagnitude_of_repr spelt, Option.map_some]
  · obtain ⟨x, spelt⟩ := reprMagnitude_eq_some h
    rw [reprFloat_unsigned (reprDouble_unsigned spelt), reprMagnitude_of_repr spelt]

end Python
