import Mathlib

/-!
# Support — Python text

The string tests the source writes: `str.strip`, `str.split`, `str.splitlines`, truth of a stripped
string, length bounds, `str.isdigit` on ASCII digits and `str.split(":", 2)`.

`[about ours]`: `strip` removes the code points of `str.isspace`.
-/

namespace Python

/-- `str.isspace` of one character. -/
def isSpace (c : Char) : Bool :=
  let n := c.val.toNat
  (9 ≤ n && n ≤ 13) || (28 ≤ n && n ≤ 32) || n == 0x85 || n == 0xA0 || n == 0x1680 ||
    (0x2000 ≤ n && n ≤ 0x200A) || n == 0x2028 || n == 0x2029 || n == 0x202F || n == 0x205F ||
    n == 0x3000

/-- A letter or a digit is no space. -/
theorem isSpace_alphanumeric {c : Char} (letter : c.isAlphanum = true) : isSpace c = false := by
  by_contra space
  have : 'Z'.val.toNat = 90 := rfl
  have : 'z'.val.toNat = 122 := rfl
  have : '9'.val.toNat = 57 := rfl
  have : 'A'.val.toNat = 65 := rfl
  have : 'a'.val.toNat = 97 := rfl
  have : '0'.val.toNat = 48 := rfl
  simp only [isSpace, Bool.not_eq_false, Bool.or_eq_true, Bool.and_eq_true, decide_eq_true_eq,
    beq_iff_eq] at space
  simp only [Char.isAlphanum, Char.isAlpha, Char.isUpper, Char.isLower, Char.isDigit, Bool.or_eq_true,
    Bool.and_eq_true, decide_eq_true_eq, ge_iff_le, UInt32.le_iff_toNat_le] at letter
  omega

/-- `s.strip()`, on characters. -/
def stripChars (cs : List Char) : List Char :=
  ((cs.dropWhile isSpace).reverse.dropWhile isSpace).reverse

/-- `s.strip()`. -/
def strip (s : String) : String := String.ofList (stripChars s.toList)

/-- What is trimmed at both ends. -/
theorem trim_parts (p : Char → Bool) (cs : List Char) :
    ∃ l r, cs = l ++ ((cs.dropWhile p).reverse.dropWhile p).reverse ++ r ∧
      (∀ c ∈ l, p c = true) ∧ ∀ c ∈ r, p c = true := by
  refine ⟨cs.takeWhile p, ((cs.dropWhile p).reverse.takeWhile p).reverse, ?_,
    List.all_eq_true.mp List.all_takeWhile,
    fun c hc => List.all_eq_true.mp List.all_takeWhile c (List.mem_reverse.mp hc)⟩
  have back : ((cs.dropWhile p).reverse.takeWhile p ++ (cs.dropWhile p).reverse.dropWhile p).reverse =
      (cs.dropWhile p).reverse.reverse := by
    rw [List.takeWhile_append_dropWhile]
  rw [List.reverse_append, List.reverse_reverse] at back
  rw [List.append_assoc, back, List.takeWhile_append_dropWhile]

/-- What `str.splitlines` ends a line at. -/
def isLineBreak (c : Char) : Bool :=
  let n := c.val.toNat
  (10 ≤ n && n ≤ 13) || (28 ≤ n && n ≤ 30) || n == 0x85 || n == 0x2028 || n == 0x2029

/-- The lines of what follows, after the characters `line` of the first, last first. -/
def linesAfter (line : List Char) : List Char → List (List Char)
  | [] => if line.isEmpty then [] else [line.reverse]
  | '\r' :: '\n' :: cs => line.reverse :: linesAfter [] cs
  | c :: cs => if isLineBreak c then line.reverse :: linesAfter [] cs else linesAfter (c :: line) cs

/-- `s.splitlines()`, on characters. -/
def splitLines (cs : List Char) : List (List Char) := linesAfter [] cs

/-- The words of what follows, after the characters `word` of the first, last first. -/
def wordsAfter (word : List Char) : List Char → List (List Char)
  | [] => if word.isEmpty then [] else [word.reverse]
  | c :: cs =>
      if isSpace c then
        if word.isEmpty then wordsAfter [] cs else word.reverse :: wordsAfter [] cs
      else wordsAfter (c :: word) cs

/-- `s.split()`, on characters. -/
def words (cs : List Char) : List (List Char) := wordsAfter [] cs

/-- A word ends at a space. -/
theorem words_append_space {word : List Char} (letters : ∀ c ∈ word, isSpace c = false)
    (some : word ≠ []) {c : Char} (space : isSpace c = true) (cs : List Char) :
    words (word ++ c :: cs) = word :: words cs := by
  have after : ∀ seen word : List Char, (∀ c ∈ word, isSpace c = false) → word ≠ [] ∨ seen ≠ [] →
      wordsAfter seen (word ++ c :: cs) = (seen.reverse ++ word) :: wordsAfter [] cs := by
    intro seen word letters some
    induction word generalizing seen with
    | nil =>
        have nonempty : seen.isEmpty = false := by simpa using some
        simp [wordsAfter, space, nonempty]
    | cons d word ih =>
        have letter := letters d List.mem_cons_self
        rw [List.cons_append, wordsAfter, if_neg (by simp [letter]),
          ih (d :: seen) (fun e mem => letters e (List.mem_cons_of_mem d mem)) (.inr nofun)]
        simp
  exact after [] word letters (.inl some)

/-- The first word starts with what was read of it. -/
theorem wordsAfter_head {seen : List Char} (some : seen ≠ []) (cs : List Char) :
    ∃ word rest, wordsAfter seen cs = (seen.reverse ++ word) :: rest := by
  have nonempty : seen.isEmpty = false := by simpa using some
  induction cs generalizing seen with
  | nil => exact ⟨[], [], by simp [wordsAfter, nonempty]⟩
  | cons c cs ih =>
      rw [wordsAfter]
      split
      · exact ⟨[], wordsAfter [] cs, by simp [nonempty]⟩
      · obtain ⟨word, rest, first⟩ := @ih (c :: seen) nofun rfl
        exact ⟨c :: word, rest, by simp [first]⟩

theorem wordsAfter_append_spaces {spaces : List Char} (all : ∀ c ∈ spaces, isSpace c = true) :
    ∀ word cs : List Char, wordsAfter word (cs ++ spaces) = wordsAfter word cs
  | word, [] => by
      rw [List.nil_append]
      induction spaces generalizing word with
      | nil => rfl
      | cons c spaces ih =>
          have rest := ih fun d mem => all d (List.mem_cons_of_mem c mem)
          simp [wordsAfter, all c List.mem_cons_self, rest]
  | word, c :: cs => by
      simp only [List.cons_append, wordsAfter, wordsAfter_append_spaces all]

theorem words_spaces_append {spaces : List Char} (all : ∀ c ∈ spaces, isSpace c = true)
    (cs : List Char) : words (spaces ++ cs) = words cs := by
  induction spaces with
  | nil => rfl
  | cons c spaces ih =>
      have rest := ih fun d mem => all d (List.mem_cons_of_mem c mem)
      rw [words] at rest ⊢
      rw [List.cons_append, wordsAfter, if_pos (all c List.mem_cons_self)]
      exact rest

/-- Stripping leaves the words. -/
theorem words_stripChars (cs : List Char) : words (stripChars cs) = words cs := by
  obtain ⟨l, r, whole, left, right⟩ := trim_parts isSpace cs
  conv_rhs => rw [whole, List.append_assoc, words_spaces_append left]
  exact (wordsAfter_append_spaces right [] _).symm

/-- `not s.strip()`. -/
def isBlank (s : String) : Bool := s.toList.all isSpace

theorem isBlank_append (s t : String) : isBlank (s ++ t) = (isBlank s && isBlank t) := by
  simp only [isBlank, String.toList_append, List.all_append]

theorem isBlank_append_left {s t : String} (h : isBlank s = false) : isBlank (s ++ t) = false := by
  rw [isBlank_append, h, Bool.false_and]

theorem isBlank_append_right {s t : String} (h : isBlank t = false) : isBlank (s ++ t) = false := by
  rw [isBlank_append, h, Bool.and_false]

/-- A text that starts with no space keeps its start. -/
theorem dropWhile_isSpace {cs : List Char} (h : ∀ c ∈ cs.head?, isSpace c = false) :
    cs.dropWhile isSpace = cs := by
  cases cs with
  | nil => rfl
  | cons c cs => exact List.dropWhile_cons_of_neg (by simp [h c rfl])

/-- A text that starts and ends with no space is stripped. -/
theorem stripChars_eq {cs : List Char} (first : ∀ c ∈ cs.head?, isSpace c = false)
    (last : ∀ c ∈ cs.getLast?, isSpace c = false) : stripChars cs = cs := by
  rw [stripChars, dropWhile_isSpace first, dropWhile_isSpace (by simpa using last),
    List.reverse_reverse]

/-- A stripped text is stripped. -/
theorem stripChars_stripChars (cs : List Char) : stripChars (stripChars cs) = stripChars cs := by
  have front (xs : List Char) : ∀ c ∈ (xs.dropWhile isSpace).head?, isSpace c = false := by
    intro c hc
    have := List.head?_dropWhile_not isSpace xs
    rw [Option.mem_def.mp hc] at this
    simpa using this
  refine stripChars_eq ?_ (by simpa [stripChars] using front (cs.dropWhile isSpace).reverse)
  obtain ⟨gone, whole⟩ := List.dropWhile_suffix isSpace
    (l := (cs.dropWhile isSpace).reverse)
  intro c hc
  have last : c ∈ ((cs.dropWhile isSpace).reverse.dropWhile isSpace).getLast? := by
    simpa [stripChars] using hc
  have : c ∈ (cs.dropWhile isSpace).reverse.getLast? := by
    rw [← whole, List.getLast?_append]
    simp [Option.mem_def.mp last]
  exact front cs c (by simpa using this)

/-- Dropping spaces in front leaves what is no space. -/
theorem all_dropWhile_isSpace (cs : List Char) :
    (cs.dropWhile isSpace).all isSpace = cs.all isSpace := by
  induction cs with
  | nil => rfl
  | cons c cs ih =>
      by_cases h : isSpace c = true
      · rw [List.dropWhile_cons_of_pos h, ih, List.all_cons, h, Bool.true_and]
      · rw [List.dropWhile_cons_of_neg h]

/-- Stripping leaves nothing exactly of a blank text. -/
theorem isBlank_strip (s : String) : isBlank (strip s) = isBlank s := by
  simp only [isBlank, strip, stripChars, String.toList_ofList, List.all_reverse,
    all_dropWhile_isSpace]

/-- `s.strip() and len(s) <= n`. -/
def nonBlankUpTo (n : Nat) (s : String) : Bool := !isBlank s && s.length ≤ n

/-- `s.isdigit()`, on ASCII. -/
def isDigits (s : String) : Bool := !s.isEmpty && s.toList.all Char.isDigit

/-- The decimal number an `isdigit` string reads as. -/
def digitsToNat (s : String) : Nat :=
  s.toList.foldl (fun n c => 10 * n + (c.toNat - '0'.toNat)) 0

/-- A number is written in digits. -/
theorem isDigits_toString (n : Nat) : isDigits (toString n) = true := by
  have text : (toString n).toList = Nat.toDigits 10 n := Nat.toList_repr
  rw [isDigits, text, Bool.and_eq_true, Bool.not_eq_true', ← Bool.not_eq_true,
    String.isEmpty_iff]
  refine ⟨?_, List.all_eq_true.mpr fun c hc =>
    Nat.isDigit_of_mem_toDigits (by decide) (by decide) hc⟩
  intro empty
  rw [empty] at text
  exact Nat.toDigits_ne_nil text.symm

/-- A number reads as what was written. -/
theorem digitsToNat_toString (n : Nat) : digitsToNat (toString n) = n := by
  have text : (toString n).toList = Nat.toDigits 10 n := Nat.toList_repr
  rw [digitsToNat, text]
  exact Nat.ofDigitChars_ten_toDigits

/-- `int(s)` for a digit string. -/
def natOfDigits (s : String) : Option Nat := if isDigits s then some (digitsToNat s) else none

/-- Digits with single underscores between them; `afterDigit` tells what came before. -/
def isIntBody (afterDigit : Bool) : List Char → Bool
  | [] => afterDigit
  | c :: cs =>
      if c.isDigit then isIntBody true cs else c = '_' && afterDigit && isIntBody false cs

/-- The number the digits read as. -/
def intBody (cs : List Char) : Option Nat :=
  if isIntBody false cs then some (digitsToNat (String.ofList (cs.filter Char.isDigit))) else none

/-- `int(s)`, on ASCII digits. -/
def intOfText (s : String) : Option Int :=
  match stripChars s.toList with
  | '-' :: cs => (intBody cs).map fun n => -(n : Int)
  | '+' :: cs => (intBody cs).map Int.ofNat
  | cs => (intBody cs).map Int.ofNat

/-- Digits are the body of a number. -/
theorem isIntBody_of_digits {cs : List Char} (h : cs.all Char.isDigit = true) {b : Bool}
    (nonempty : b = true ∨ cs ≠ []) : isIntBody b cs = true := by
  induction cs generalizing b with
  | nil => exact nonempty.resolve_right fun apart => apart rfl
  | cons c cs ih =>
      rw [List.all_cons, Bool.and_eq_true] at h
      rw [isIntBody, if_pos h.1]
      exact ih h.2 (Or.inl rfl)

/-- A digit is no space and no sign. -/
theorem isDigit_apart {c : Char} (h : c.isDigit = true) : isSpace c = false ∧ c ≠ '-' ∧ c ≠ '+' := by
  simp only [Char.isDigit, Bool.and_eq_true, decide_eq_true_eq] at h
  obtain ⟨low, high⟩ := h
  have low : 48 ≤ c.val.toNat := low
  have high : c.val.toNat ≤ 57 := high
  refine ⟨?_, ?_, ?_⟩
  · simp only [isSpace, Bool.or_eq_false_iff, Bool.and_eq_false_iff, decide_eq_false_iff_not,
      beq_eq_false_iff_ne]
    omega
  · rintro rfl
    exact absurd low (by decide)
  · rintro rfl
    exact absurd low (by decide)

/-- `int(s)` of a digit string is the number it reads as. -/
theorem intOfText_of_digits {s : String} (h : isDigits s = true) :
    intOfText s = some (digitsToNat s : Int) := by
  simp only [isDigits, Bool.and_eq_true, Bool.not_eq_true'] at h
  obtain ⟨nonempty, digits⟩ := h
  have each : ∀ c ∈ s.toList, c.isDigit = true := List.all_eq_true.mp digits
  have stripped : stripChars s.toList = s.toList :=
    stripChars_eq (fun c hc => (isDigit_apart (each c (List.mem_of_mem_head? hc))).1)
      fun c hc => (isDigit_apart (each c (List.mem_of_mem_getLast? hc))).1
  have there : s.toList ≠ [] := by
    intro empty
    rw [String.toList_eq_nil_iff] at empty
    rw [empty] at nonempty
    cases nonempty
  have body : intBody s.toList = some (digitsToNat s) := by
    rw [intBody, if_pos (isIntBody_of_digits digits (Or.inr there)), List.filter_eq_self.mpr each,
      String.ofList_toList]
  rw [intOfText, stripped]
  split
  · rename_i cs text
    exact absurd rfl (isDigit_apart (each '-' (by rw [text]; exact List.mem_cons_self))).2.1
  · rename_i cs text
    exact absurd rfl (isDigit_apart (each '+' (by rw [text]; exact List.mem_cons_self))).2.2
  · rw [body]
    rfl

/-- So of a written number. -/
theorem intOfText_toString {n : Int} (h : 0 ≤ n) : intOfText (toString n) = some n := by
  obtain ⟨m, rfl⟩ := Int.eq_ofNat_of_zero_le h
  have text : toString (m : Int) = toString m := rfl
  rw [text, intOfText_of_digits (isDigits_toString m), digitsToNat_toString]

theorem natOfDigits_toString {n : Int} (h : 0 ≤ n) : natOfDigits (toString n) = some n.toNat := by
  obtain ⟨m, rfl⟩ := Int.eq_ofNat_of_zero_le h
  have text : toString (m : Int) = toString m := rfl
  rw [text, natOfDigits, if_pos (isDigits_toString m), digitsToNat_toString]
  rfl

/-- The characters up to the first colon, and those after it. -/
def cutColon : List Char → Option (List Char × List Char)
  | [] => none
  | c :: cs => if c = ':' then some ([], cs) else (cutColon cs).map fun p => (c :: p.1, p.2)

/-- `s.split(":", 2)`, where it has three parts. -/
def splitThree (s : String) : Option (String × String × String) :=
  match cutColon s.toList with
  | none => none
  | some (a, rest) =>
      match cutColon rest with
      | none => none
      | some (b, c) => some (String.ofList a, String.ofList b, String.ofList c)

/-- The last separator cuts a text in one way. -/
theorem cut_unique {α : Type} {a b x y : List α} {c : α} (h : a ++ c :: x = b ++ c :: y)
    (hx : c ∉ x) (hy : c ∉ y) : a = b ∧ x = y := by
  rcases List.append_eq_append_iff.mp h with ⟨z, hb, hz⟩ | ⟨z, ha, hz⟩
  · cases z with
    | nil =>
        rw [List.append_nil] at hb
        exact ⟨hb.symm, (List.cons.inj hz).2⟩
    | cons d z =>
        obtain ⟨-, hz⟩ := List.cons.inj hz
        exact absurd (by rw [hz]; simp) hx
  · cases z with
    | nil =>
        rw [List.append_nil] at ha
        exact ⟨ha, (List.cons.inj hz).2.symm⟩
    | cons d z =>
        obtain ⟨-, hz⟩ := List.cons.inj hz
        exact absurd (by rw [hz]; simp) hy

end Python
