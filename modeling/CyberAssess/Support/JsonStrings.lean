import Mathlib.Data.List.Chain
import Mathlib.Data.List.Lex
import Mathlib.Order.Fin.Basic
import CyberAssess.Support.Text
import CyberAssess.Support.Json

/-!
# Support — JSON strings, code point by code point

A Python `str` is a sequence of code points, lone surrogates included; `json.dumps` with
`ensure_ascii=True` writes every one of them, and `json.loads` reads escapes back.

* `Points` is a `str`; `points` is a text as one.
* `writeString` is what `dumps` writes, `scanString` what `loads` reads after the opening quote.
* `scanString_write`: reading what was written joins each high surrogate with a low one after it,
  and changes nothing else. `Joined` texts come back as they were, and reading gives only those.
* `writeString_graphic`: what is written has a space, and is otherwise graphic ASCII, exactly where
  the text has one.
-/

namespace Python

/-- A code point of a `str`. -/
abbrev CodePoint := Fin 0x110000

/-- A `str`. -/
abbrev Points := List CodePoint

/-- The code point of a character. -/
def point (c : Char) : CodePoint :=
  ⟨c.val.toNat, by
    rcases c.valid with h | ⟨-, h⟩
    · exact Nat.lt_trans h (by decide)
    · exact h⟩

/-- A text as code points. -/
def points (s : String) : Points := s.toList.map point

theorem point_inj {c d : Char} (h : point c = point d) : c = d :=
  Char.ext (UInt32.toNat_inj.mp (Fin.mk.inj_iff.mp h))

theorem points_inj {s t : String} (h : points s = points t) : s = t :=
  String.toList_inj.mp (List.map_injective_iff.mpr (fun _ _ => point_inj) h)

@[simp] theorem length_points (s : String) : (points s).length = s.length := by
  rw [points, List.length_map, String.length_toList]

/-- `str.isspace` of a code point: a surrogate is none. -/
def isSpacePoint (p : CodePoint) : Bool := isSpace (Char.ofNat p.val)

/-- `not s.strip()`. -/
def isBlankPoints (ps : Points) : Bool := ps.all isSpacePoint

/-! ### Surrogates -/

/-- The first of a surrogate pair. -/
def isHigh (p : CodePoint) : Bool := 0xD800 ≤ p.val && p.val ≤ 0xDBFF

/-- The second of a surrogate pair. -/
def isLow (p : CodePoint) : Bool := 0xDC00 ≤ p.val && p.val ≤ 0xDFFF

/-- The code point a pair stands for. -/
def pairPoint (high low : CodePoint) : CodePoint :=
  Fin.ofNat 0x110000 (0x10000 + (high.val - 0xD800) * 0x400 + (low.val - 0xDC00))

/-- A code point in front: a high surrogate and a low one after it are one code point. -/
def consPoint (p : CodePoint) : Points → Points
  | [] => [p]
  | q :: qs => if isHigh p && isLow q then pairPoint p q :: qs else p :: q :: qs

/-- Every pair of surrogates made one code point. -/
def joinPairs : Points → Points
  | [] => []
  | p :: ps => consPoint p (joinPairs ps)

/-- No high surrogate has a low one after it. -/
def Joined (ps : Points) : Prop := ps.IsChain fun p q => ¬ (isHigh p = true ∧ isLow q = true)

theorem consPoint_of_not_high {p : CodePoint} (h : isHigh p = false) (ps : Points) :
    consPoint p ps = p :: ps := by
  cases ps <;> simp [consPoint, h]

theorem consPoint_of_joined {p : CodePoint} {ps : Points} (h : Joined (p :: ps)) :
    consPoint p ps = p :: ps := by
  cases ps with
  | nil => rfl
  | cons q qs =>
      have apart := (List.isChain_cons_cons.mp h).1
      simp only [consPoint]
      rw [if_neg (by simpa using apart)]

theorem consPoint_pair {p q : CodePoint} (hp : isHigh p = true) (hq : isLow q = true)
    (qs : Points) : consPoint p (q :: qs) = pairPoint p q :: qs := by
  simp [consPoint, hp, hq]

/-- A pair stands for a code point above the basic plane. -/
theorem pairPoint_val {high low : CodePoint} (hh : isHigh high = true) (hl : isLow low = true) :
    (pairPoint high low).val = 0x10000 + (high.val - 0xD800) * 0x400 + (low.val - 0xDC00) := by
  simp only [isHigh, isLow, Bool.and_eq_true, decide_eq_true_eq] at hh hl
  simp only [pairPoint, Fin.ofNat]
  omega

theorem isHigh_pairPoint {high low : CodePoint} (hh : isHigh high = true) (hl : isLow low = true) :
    isHigh (pairPoint high low) = false := by
  have := pairPoint_val hh hl
  simp only [isHigh, Bool.and_eq_false_iff, decide_eq_false_iff_not]
  omega

theorem isLow_pairPoint {high low : CodePoint} (hh : isHigh high = true) (hl : isLow low = true) :
    isLow (pairPoint high low) = false := by
  have := pairPoint_val hh hl
  simp only [isLow, Bool.and_eq_false_iff, decide_eq_false_iff_not]
  omega

theorem isHigh_of_isLow {p : CodePoint} (h : isLow p = true) : isHigh p = false := by
  simp only [isLow, isHigh, Bool.and_eq_true, decide_eq_true_eq, Bool.and_eq_false_iff,
    decide_eq_false_iff_not] at h ⊢
  omega

/-- A code point put in front of a joined text leaves it joined. -/
theorem joined_consPoint (p : CodePoint) {ps : Points} (h : Joined ps) :
    Joined (consPoint p ps) := by
  cases ps with
  | nil => exact List.isChain_singleton p
  | cons q qs =>
      simp only [consPoint]
      by_cases pair : (isHigh p && isLow q) = true
      · rw [if_pos pair]
        obtain ⟨hh, hl⟩ := Bool.and_eq_true_iff.mp pair
        cases qs with
        | nil => exact List.isChain_singleton _
        | cons r rs =>
            refine List.isChain_cons_cons.mpr ⟨?_, (List.isChain_cons_cons.mp h).2⟩
            simp [isHigh_pairPoint hh hl]
      · rw [if_neg pair]
        exact List.isChain_cons_cons.mpr ⟨by simpa using pair, h⟩

theorem joined_joinPairs (ps : Points) : Joined (joinPairs ps) := by
  induction ps with
  | nil => exact List.IsChain.nil
  | cons p ps ih => exact joined_consPoint p ih

/-- Joined texts have nothing to join. -/
theorem joinPairs_of_joined {ps : Points} (h : Joined ps) : joinPairs ps = ps := by
  induction ps with
  | nil => rfl
  | cons p ps ih => rw [joinPairs, ih (List.IsChain.tail h), consPoint_of_joined h]

/-- A character is no surrogate. -/
theorem isHigh_point (c : Char) : isHigh (point c) = false := by
  have scalar := c.valid
  simp only [UInt32.isValidChar, Nat.isValidChar] at scalar
  rw [isHigh, ← Bool.decide_and, decide_eq_false_iff_not]
  show ¬ (0xD800 ≤ c.val.toNat ∧ c.val.toNat ≤ 0xDBFF)
  omega

theorem isLow_point (c : Char) : isLow (point c) = false := by
  have code : (point c).val = c.val.toNat := rfl
  simp only [isLow, code, Bool.and_eq_false_iff, decide_eq_false_iff_not]
  rcases c.valid with below | ⟨above, -⟩
  · exact Or.inl (by omega)
  · exact Or.inr (by omega)

/-- A text has no surrogates to join. -/
theorem joined_points (s : String) : Joined (points s) := by
  rw [points]
  induction s.toList with
  | nil => exact List.IsChain.nil
  | cons c cs ih =>
      cases cs with
      | nil => exact List.isChain_singleton _
      | cons d ds => exact List.isChain_cons_cons.mpr ⟨by simp [isHigh_point], ih⟩

/-! ### Writing -/

/-- One code point as `ensure_ascii` writes it; above the basic plane as a surrogate pair. -/
def writePoint (p : CodePoint) : List Char :=
  let n := p.val
  if n = 34 then ['\\', '"']
  else if n = 92 then ['\\', '\\']
  else if n = 8 then ['\\', 'b']
  else if n = 9 then ['\\', 't']
  else if n = 10 then ['\\', 'n']
  else if n = 12 then ['\\', 'f']
  else if n = 13 then ['\\', 'r']
  else if 32 ≤ n ∧ n ≤ 126 then [Char.ofNat n]
  else if n ≤ 0xFFFF then unicodeEscape n
  else unicodeEscape (0xD800 + (n - 0x10000) / 1024) ++ unicodeEscape (0xDC00 + (n - 0x10000) % 1024)

/-- A JSON string, quotes included. -/
def writeString (ps : Points) : List Char := '"' :: ps.flatMap writePoint ++ ['"']

/-! ### Reading -/

/-- A hexadecimal digit of either case. -/
def jsonHexValue (c : Char) : Option Nat :=
  let n := c.val.toNat
  if 48 ≤ n ∧ n ≤ 57 then some (n - 48)
  else if 97 ≤ n ∧ n ≤ 102 then some (n - 87)
  else if 65 ≤ n ∧ n ≤ 70 then some (n - 55)
  else none

/-- `\uXXXX`, of its four digits. -/
def hexPoint (a b c d : Char) : Option CodePoint := do
  let a ← jsonHexValue a
  let b ← jsonHexValue b
  let c ← jsonHexValue c
  let d ← jsonHexValue d
  return Fin.ofNat 0x110000 (a * 4096 + b * 256 + c * 16 + d)

/-- The escapes of one character. -/
def simpleEscape (c : Char) : Option CodePoint :=
  if c = '"' then some 34
  else if c = '\\' then some 92
  else if c = '/' then some 47
  else if c = 'b' then some 8
  else if c = 'f' then some 12
  else if c = 'n' then some 10
  else if c = 'r' then some 13
  else if c = 't' then some 9
  else none

/-- The string up to its closing quote, and what follows it. Control characters are refused. -/
def scanString : List Char → Option (Points × List Char)
  | [] => none
  | '"' :: rest => some ([], rest)
  | '\\' :: 'u' :: a :: b :: c :: d :: rest => do
      let p ← hexPoint a b c d
      let (ps, rest) ← scanString rest
      return (consPoint p ps, rest)
  | '\\' :: e :: rest => do
      let p ← simpleEscape e
      let (ps, rest) ← scanString rest
      return (consPoint p ps, rest)
  | c :: rest =>
      if c.val.toNat < 32 then none
      else do
        let (ps, rest) ← scanString rest
        return (consPoint (point c) ps, rest)

/-- What was read, with a code point in front. -/
def inFront (p : CodePoint) (r : Points × List Char) : Points × List Char := (consPoint p r.1, r.2)

/-! ### Reading what was written -/

theorem jsonHexValue_hexDigit {n : Nat} (h : n < 16) : jsonHexValue (hexDigit n) = some n := by
  have all : ∀ i : Fin 16, jsonHexValue (hexDigit i.val) = some i.val := by decide
  exact all ⟨n, h⟩

theorem scanString_unicode (n : Nat) (h : n ≤ 0xFFFF) (rest : List Char) :
    scanString (unicodeEscape n ++ rest) =
      (scanString rest).map (inFront (Fin.ofNat 0x110000 n)) := by
  have whole : n / 4096 % 16 * 4096 + n / 256 % 16 * 256 + n / 16 % 16 * 16 + n % 16 = n := by
    omega
  have digits : hexPoint (hexDigit (n / 4096 % 16)) (hexDigit (n / 256 % 16))
      (hexDigit (n / 16 % 16)) (hexDigit (n % 16)) = some (Fin.ofNat 0x110000 n) := by
    have small (k : Nat) : k % 16 < 16 := Nat.mod_lt k (by decide)
    simp only [hexPoint, jsonHexValue_hexDigit (small _), Option.bind_eq_bind, Option.bind_some,
      Option.pure_def, whole]
  simp only [unicodeEscape, List.cons_append, List.nil_append, scanString, digits]
  cases scanString rest <;> rfl

theorem scanString_simple {e : Char} {p : CodePoint} (h : simpleEscape e = some p)
    (rest : List Char) :
    scanString ('\\' :: e :: rest) = (scanString rest).map (inFront p) := by
  have letter : e ≠ 'u' := by
    rintro rfl
    have refused : simpleEscape 'u' = none := by decide
    rw [refused] at h
    cases h
  rw [scanString]
  · simp only [h]
    cases scanString rest <;> rfl
  · exact fun _ _ _ _ _ same => absurd same letter

theorem scanString_plain {c : Char} (printable : 32 ≤ c.val.toNat) (quote : c ≠ '"')
    (slash : c ≠ '\\') (rest : List Char) :
    scanString (c :: rest) = (scanString rest).map (inFront (point c)) := by
  rw [scanString]
  · rw [if_neg (by omega)]
    cases scanString rest <;> rfl
  · exact quote
  · rintro a b d f tail rfl
    exact absurd rfl slash
  · rintro d tail rfl
    exact absurd rfl slash

/-- What a code point was written as is read back in front of what follows. -/
theorem scanString_writePoint (p : CodePoint) (rest : List Char) :
    scanString (writePoint p ++ rest) = (scanString rest).map (inFront p) := by
  obtain ⟨n, bound⟩ := p
  have simple {e : Char} (is : simpleEscape e = some ⟨n, bound⟩) :
      scanString (['\\', e] ++ rest) = (scanString rest).map (inFront ⟨n, bound⟩) :=
    scanString_simple is rest
  simp only [writePoint]
  split_ifs with h₁ h₂ h₃ h₄ h₅ h₆ h₇ plain basic
  · subst h₁
    exact simple rfl
  · subst h₂
    exact simple rfl
  · subst h₃
    exact simple rfl
  · subst h₄
    exact simple rfl
  · subst h₅
    exact simple rfl
  · subst h₆
    exact simple rfl
  · subst h₇
    exact simple rfl
  · have valid : n.isValidChar := Or.inl (by omega)
    have value : (Char.ofNat n).val.toNat = n := by
      rw [Char.ofNat, dif_pos valid]
      rfl
    have same : point (Char.ofNat n) = ⟨n, bound⟩ := Fin.ext value
    rw [← same]
    refine scanString_plain (by omega) ?_ ?_ rest
    · intro quote
      exact h₁ (by rw [← value, quote]; rfl)
    · intro slash
      exact h₂ (by rw [← value, slash]; rfl)
  · rw [scanString_unicode n basic]
    congr 2
    exact Fin.ext (Nat.mod_eq_of_lt bound)
  · -- the two halves are joined again
    have hi : 0xD800 + (n - 0x10000) / 1024 ≤ 0xFFFF := by omega
    have lo : 0xDC00 + (n - 0x10000) % 1024 ≤ 0xFFFF := by omega
    rw [List.append_assoc, scanString_unicode _ hi, scanString_unicode _ lo, Option.map_map]
    congr 1
    funext r
    have isLo : isLow (Fin.ofNat 0x110000 (0xDC00 + (n - 0x10000) % 1024)) = true := by
      simp only [isLow, Fin.ofNat, Bool.and_eq_true, decide_eq_true_eq]
      omega
    have isHi : isHigh (Fin.ofNat 0x110000 (0xD800 + (n - 0x10000) / 1024)) = true := by
      simp only [isHigh, Fin.ofNat, Bool.and_eq_true, decide_eq_true_eq]
      omega
    have above : isHigh ⟨n, bound⟩ = false := by
      simp only [isHigh, Bool.and_eq_false_iff, decide_eq_false_iff_not]
      omega
    have joined : pairPoint (Fin.ofNat 0x110000 (0xD800 + (n - 0x10000) / 1024))
        (Fin.ofNat 0x110000 (0xDC00 + (n - 0x10000) % 1024)) = ⟨n, bound⟩ := by
      refine Fin.ext ?_
      rw [pairPoint_val isHi isLo]
      simp only [Fin.ofNat]
      omega
    simp only [Function.comp, inFront]
    rw [consPoint_of_not_high above, consPoint_of_not_high (isHigh_of_isLow isLo),
      consPoint_pair isHi isLo, joined]

/-- What was written up to the closing quote is read back, its surrogate pairs joined. -/
theorem scanString_write (ps : Points) (rest : List Char) :
    scanString (ps.flatMap writePoint ++ '"' :: rest) = some (joinPairs ps, rest) := by
  induction ps with
  | nil => rfl
  | cons p ps ih =>
      rw [List.flatMap_cons, List.append_assoc, scanString_writePoint, ih]
      rfl

/-- Reading gives joined texts. -/
theorem joined_scanString (cs : List Char) :
    ∀ r, scanString cs = some r → Joined r.1 := by
  have front {p : CodePoint} {x : Option (Points × List Char)} {r : Points × List Char}
      (ih : ∀ r, x = some r → Joined r.1)
      (h : (x.bind fun y => some (consPoint p y.1, y.2)) = some r) : Joined r.1 := by
    obtain ⟨y, hy, hr⟩ := Option.bind_eq_some_iff.mp h
    cases hr
    exact joined_consPoint p (ih y hy)
  fun_induction scanString cs with
  | case1 => rintro r ⟨⟩
  | case2 rest =>
      rintro r ⟨⟩
      exact List.IsChain.nil
  | case3 a b c d rest ih =>
      intro r h
      obtain ⟨p, -, h⟩ := Option.bind_eq_some_iff.mp h
      exact front ih h
  | case4 e rest _ ih =>
      intro r h
      obtain ⟨p, -, h⟩ := Option.bind_eq_some_iff.mp h
      exact front ih h
  | case5 c rest _ _ _ low =>
      rintro r ⟨⟩
  | case6 c rest _ _ _ low ih =>
      intro r h
      exact front ih h

/-! ### What is written -/

theorem hexDigit_graphic {n : Nat} (h : n < 16) :
    0x21 ≤ (hexDigit n).val.toNat ∧ (hexDigit n).val.toNat ≤ 0x7E := by
  have all : ∀ i : Fin 16, 0x21 ≤ (hexDigit i.val).val.toNat ∧ (hexDigit i.val).val.toNat ≤ 0x7E := by
    decide
  exact all ⟨n, h⟩

theorem unicodeEscape_graphic (n : Nat) :
    ∀ c ∈ unicodeEscape n, 0x21 ≤ c.val.toNat ∧ c.val.toNat ≤ 0x7E := by
  intro c hc
  have small (k : Nat) : k % 16 < 16 := Nat.mod_lt k (by decide)
  simp only [unicodeEscape, List.mem_cons, List.not_mem_nil, or_false] at hc
  rcases hc with rfl | rfl | rfl | rfl | rfl | rfl
  · decide
  · decide
  · exact hexDigit_graphic (small _)
  · exact hexDigit_graphic (small _)
  · exact hexDigit_graphic (small _)
  · exact hexDigit_graphic (small _)

/-- The characters a code point is written with are graphic; only a space is written as one. -/
theorem writePoint_graphic {p : CodePoint} (h : p ≠ 32) :
    ∀ c ∈ writePoint p, 0x21 ≤ c.val.toNat ∧ c.val.toNat ≤ 0x7E := by
  have pair {a b : Char} (ha : 0x21 ≤ a.val.toNat ∧ a.val.toNat ≤ 0x7E)
      (hb : 0x21 ≤ b.val.toNat ∧ b.val.toNat ≤ 0x7E) :
      ∀ c ∈ [a, b], 0x21 ≤ c.val.toNat ∧ c.val.toNat ≤ 0x7E := by
    intro c hc
    simp only [List.mem_cons, List.not_mem_nil, or_false] at hc
    rcases hc with rfl | rfl
    · exact ha
    · exact hb
  obtain ⟨n, bound⟩ := p
  have apart : n ≠ 32 := fun same => h (Fin.ext same)
  simp only [writePoint]
  split_ifs with h₁ h₂ h₃ h₄ h₅ h₆ h₇ plain basic
  · exact pair (by decide) (by decide)
  · exact pair (by decide) (by decide)
  · exact pair (by decide) (by decide)
  · exact pair (by decide) (by decide)
  · exact pair (by decide) (by decide)
  · exact pair (by decide) (by decide)
  · exact pair (by decide) (by decide)
  · intro c hc
    have valid : n.isValidChar := Or.inl (by omega)
    have value : (Char.ofNat n).val.toNat = n := by
      rw [Char.ofNat, dif_pos valid]
      rfl
    rw [List.mem_singleton.mp hc, value]
    omega
  · exact unicodeEscape_graphic n
  · intro c hc
    rcases List.mem_append.mp hc with hc | hc
    · exact unicodeEscape_graphic _ c hc
    · exact unicodeEscape_graphic _ c hc

/-- A string is written in graphic characters exactly where it has no space. -/
theorem writeString_graphic (ps : Points) :
    (∀ c ∈ writeString ps, 0x21 ≤ c.val.toNat ∧ c.val.toNat ≤ 0x7E) ↔ (32 : CodePoint) ∉ ps := by
  constructor
  · intro all space
    have written : ' ' ∈ writeString ps :=
      List.mem_cons_of_mem _ (List.mem_append_left _
        (List.mem_flatMap.mpr ⟨32, space, by decide⟩))
    exact absurd (all _ written).1 (by decide)
  · intro none c hc
    simp only [writeString, List.cons_append, List.mem_cons, List.mem_append, List.mem_flatMap,
      List.not_mem_nil, or_false] at hc
    rcases hc with rfl | ⟨p, hp, hc⟩ | rfl
    · decide
    · exact writePoint_graphic (fun same => none (same ▸ hp)) c hc
    · decide

end Python
