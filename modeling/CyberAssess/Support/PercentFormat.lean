import Mathlib.Tactic.Common

/-!
# Support — query texts with percent placeholders

The texts a database driver takes with its parameters: `%s`, `%b` and `%t` stand for a parameter,
`%%` for a percent sign, and every other percent sign is an error.

* `read` is what the driver makes of a text.
* `write` is the text of some pieces; `read_eq_some`: it is the only one that reads as them.
-/

namespace PercentFormat

/-- How a parameter is sent. -/
inductive Kind where
  | auto | binary | text
deriving DecidableEq, Repr

/-- The letter after the percent sign. -/
def Kind.letter : Kind → Char
  | .auto => 's'
  | .binary => 'b'
  | .text => 't'

/-- A character of the query, or the place of a parameter. -/
inductive Piece where
  | literal (c : Char)
  | placeholder (k : Kind)
deriving DecidableEq, Repr

/-- What a percent sign and the character after it stand for. -/
def escaped (c : Char) : Option Piece :=
  if c = '%' then some (.literal '%')
  else if c = 's' then some (.placeholder .auto)
  else if c = 'b' then some (.placeholder .binary)
  else if c = 't' then some (.placeholder .text)
  else none

/-- The pieces of a text, unless a percent sign is left over. -/
def read : List Char → Option (List Piece)
  | [] => some []
  | [c] => if c = '%' then none else some [.literal c]
  | c :: d :: cs =>
      if c = '%' then (escaped d).bind fun p => (read cs).map (p :: ·)
      else (read (d :: cs)).map (.literal c :: ·)

/-- One piece in the text. -/
def Piece.text : Piece → List Char
  | .literal c => if c = '%' then ['%', '%'] else [c]
  | .placeholder k => ['%', k.letter]

/-- The text of some pieces. -/
def write (ps : List Piece) : List Char := ps.flatMap Piece.text

@[simp] theorem write_nil : write [] = [] := rfl

@[simp] theorem write_cons (p : Piece) (ps : List Piece) : write (p :: ps) = p.text ++ write ps :=
  rfl

theorem Piece.text_percent : (Piece.literal '%').text = ['%', '%'] := rfl

theorem Piece.text_literal {c : Char} (h : c ≠ '%') : (Piece.literal c).text = [c] := if_neg h

/-- An escape is the text of what it stands for. -/
theorem escaped_eq_some {c : Char} {p : Piece} (h : escaped c = some p) : p.text = ['%', c] := by
  unfold escaped at h
  split_ifs at h with h₁ h₂ h₃ h₄ <;> cases h
  · rw [h₁, Piece.text_percent]
  · rw [h₂]; rfl
  · rw [h₃]; rfl
  · rw [h₄]; rfl

theorem read_percent (d : Char) (cs : List Char) :
    read ('%' :: d :: cs) = (escaped d).bind fun p => (read cs).map (p :: ·) := by
  rw [read, if_pos rfl]

theorem read_literal {c : Char} (h : c ≠ '%') (cs : List Char) :
    read (c :: cs) = (read cs).map (.literal c :: ·) := by
  cases cs with
  | nil => simp [read, h]
  | cons d cs => rw [read, if_neg h]

/-- The text of a piece is read as the piece. -/
theorem read_text (p : Piece) (cs : List Char) : read (p.text ++ cs) = (read cs).map (p :: ·) := by
  cases p with
  | literal c =>
      by_cases h : c = '%'
      · subst h
        exact read_percent '%' cs
      · rw [Piece.text_literal h]
        exact read_literal h cs
  | placeholder k => cases k <;> exact read_percent _ cs

theorem read_write (ps : List Piece) : read (write ps) = some ps := by
  induction ps with
  | nil => rfl
  | cons p ps ih => rw [write_cons, read_text, ih]; rfl

/-- A text that is read is the text of its pieces. -/
theorem write_of_read {cs : List Char} : ∀ {ps : List Piece}, read cs = some ps → write ps = cs := by
  induction cs using read.induct with
  | case1 =>
      intro ps h
      cases h
      rfl
  | case2 => intro ps h; simp [read] at h
  | case3 c other =>
      intro ps h
      rw [read, if_neg other] at h
      cases h
      rw [write_cons, Piece.text_literal other]
      rfl
  | case4 d cs ih =>
      intro ps h
      rw [read_percent] at h
      obtain ⟨p, hp, h⟩ := Option.bind_eq_some_iff.mp h
      obtain ⟨qs, hq, rfl⟩ := Option.map_eq_some_iff.mp h
      rw [write_cons, escaped_eq_some hp, ih hq]
      rfl
  | case5 c d cs other ih =>
      intro ps h
      rw [read_literal other] at h
      obtain ⟨qs, hq, rfl⟩ := Option.map_eq_some_iff.mp h
      rw [write_cons, Piece.text_literal other, ih hq]
      rfl

/-- A text is read as some pieces exactly when it is their text. -/
theorem read_eq_some {cs : List Char} {ps : List Piece} : read cs = some ps ↔ write ps = cs :=
  ⟨write_of_read, fun h => h ▸ read_write ps⟩

end PercentFormat
