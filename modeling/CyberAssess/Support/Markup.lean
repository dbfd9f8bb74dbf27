import Mathlib.Tactic.Common

/-!
# Support — markup

Documents of tags and texts, and the tags a reader finds in them.

* `Piece` is a tag with its attributes, the end of one, or a text between tags; `render` writes
  pieces down.
* `tags` reads the tags of a text, without what is in quotes.
* `escape` is `html.escape`.
* `tags_render`: the tags that are read are those that were written, when each piece is well formed.
* `escape_eq`: an escaped text is the text itself when it has no special character.

`[about ours]`: a reader that knows no comments and no raw texts.
-/

namespace Markup

/-- A piece of a document. -/
inductive Piece where
  | tag (name : List Char) (attrs : List (List Char × List Char))
  | close (name : List Char)
  | text (content : List Char)
deriving DecidableEq, Repr

namespace Piece

/-- `name="value"`. -/
def writeAttr (a : List Char × List Char) : List Char := ' ' :: a.1 ++ ['=', '"'] ++ a.2 ++ ['"']

/-- What is written. -/
def render : Piece → List Char
  | .tag name attrs => '<' :: name ++ attrs.flatMap writeAttr ++ ['>']
  | .close name => ['<', '/'] ++ name ++ ['>']
  | .text content => content

/-- The tag, without the values of its attributes. -/
def mark : Piece → Option (List Char)
  | .tag name attrs => some (name ++ attrs.flatMap fun a => ' ' :: a.1 ++ ['='])
  | .close name => some ('/' :: name)
  | .text _ => none

/-- No character of a name ends the tag or starts a value. -/
def isName (name : List Char) : Bool := name.all fun c => c ≠ '>' && c ≠ '"'

/-- The names are names, no value ends before its quote, and no text starts a tag. -/
def wellFormed : Piece → Bool
  | .tag name attrs => isName name && attrs.all fun a => isName a.1 && a.2.all (· ≠ '"')
  | .close name => isName name
  | .text content => content.all (· ≠ '<')

end Piece

/-- The document. -/
def render (pieces : List Piece) : List Char := pieces.flatMap Piece.render

/-- Where a reader is, with what it has read of a tag, last first. -/
inductive Place where
  | text
  | tag (seen : List Char)
  | quoted (seen : List Char)

/-- The tags that are read from a place on. -/
def tagsFrom : Place → List Char → List (List Char)
  | _, [] => []
  | .text, c :: cs => if c = '<' then tagsFrom (.tag []) cs else tagsFrom .text cs
  | .tag seen, c :: cs =>
      if c = '>' then seen.reverse :: tagsFrom .text cs
      else if c = '"' then tagsFrom (.quoted seen) cs
      else tagsFrom (.tag (c :: seen)) cs
  | .quoted seen, c :: cs =>
      if c = '"' then tagsFrom (.tag seen) cs else tagsFrom (.quoted seen) cs

example (p : Place) : tagsFrom p [] = [] := by rw [tagsFrom]

/-- The tags of a document. -/
def tags (document : List Char) : List (List Char) := tagsFrom .text document

section Reading

open Piece

variable {cs : List Char}

theorem tagsFrom_text {content : List Char} (plain : content.all (· ≠ '<') = true) :
    tagsFrom .text (content ++ cs) = tagsFrom .text cs := by
  induction content with
  | nil => rfl
  | cons c content ih =>
      rw [List.all_cons, Bool.and_eq_true, decide_eq_true_eq] at plain
      rw [List.cons_append, tagsFrom, if_neg plain.1]
      exact ih plain.2

theorem tagsFrom_name {name seen : List Char} (clean : isName name = true) :
    tagsFrom (.tag seen) (name ++ cs) = tagsFrom (.tag (name.reverse ++ seen)) cs := by
  induction name generalizing seen with
  | nil => rfl
  | cons c name ih =>
      simp only [isName, List.all_cons, Bool.and_eq_true, decide_eq_true_eq] at clean
      rw [List.cons_append, tagsFrom, if_neg clean.1.1, if_neg clean.1.2, ih clean.2]
      simp

theorem tagsFrom_value {value seen : List Char} (clean : value.all (· ≠ '"') = true) :
    tagsFrom (.quoted seen) (value ++ '"' :: cs) = tagsFrom (.tag seen) cs := by
  induction value with
  | nil => rfl
  | cons c value ih =>
      rw [List.all_cons, Bool.and_eq_true, decide_eq_true_eq] at clean
      rw [List.cons_append, tagsFrom, if_neg clean.1]
      exact ih clean.2

theorem tagsFrom_attribute {a : List Char × List Char} {seen : List Char} (name : isName a.1 = true)
    (value : a.2.all (· ≠ '"') = true) :
    tagsFrom (.tag seen) (writeAttr a ++ cs) =
      tagsFrom (.tag ((' ' :: a.1 ++ ['=']).reverse ++ seen)) cs := by
  have whole : writeAttr a ++ cs = (' ' :: a.1 ++ ['=']) ++ '"' :: (a.2 ++ '"' :: cs) := by
    simp [writeAttr]
  have clean : isName (' ' :: a.1 ++ ['=']) = true := by simpa [isName] using name
  rw [whole, tagsFrom_name clean, tagsFrom, if_neg (by decide), if_pos rfl, tagsFrom_value value]

theorem tagsFrom_attributes {attrs : List (List Char × List Char)} {seen : List Char}
    (clean : (attrs.all fun a => isName a.1 && a.2.all (· ≠ '"')) = true) :
    tagsFrom (.tag seen) (attrs.flatMap writeAttr ++ '>' :: cs) =
      (seen.reverse ++ attrs.flatMap fun a => ' ' :: a.1 ++ ['=']) :: tagsFrom .text cs := by
  induction attrs generalizing seen with
  | nil => simp [tagsFrom]
  | cons a attrs ih =>
      rw [List.all_cons, Bool.and_eq_true, Bool.and_eq_true] at clean
      rw [List.flatMap_cons, List.append_assoc, tagsFrom_attribute clean.1.1 clean.1.2, ih clean.2]
      simp

/-- A reader passes a piece with its tag. -/
theorem tagsFrom_piece {p : Piece} (clean : p.wellFormed = true) :
    tagsFrom .text (p.render ++ cs) = p.mark.toList ++ tagsFrom .text cs := by
  cases p with
  | tag name attrs =>
      rw [wellFormed, Bool.and_eq_true] at clean
      have whole : (Piece.tag name attrs).render ++ cs =
          '<' :: (name ++ (attrs.flatMap writeAttr ++ '>' :: cs)) := by
        simp [Piece.render]
      rw [whole, tagsFrom, if_pos rfl, tagsFrom_name clean.1, tagsFrom_attributes clean.2]
      simp [mark]
  | close name =>
      have whole : (Piece.close name).render ++ cs = '<' :: (('/' :: name) ++ '>' :: cs) := by
        simp [Piece.render]
      have slash : isName ('/' :: name) = true := by simpa [wellFormed, isName] using clean
      rw [whole, tagsFrom, if_pos rfl, tagsFrom_name slash, tagsFrom, if_pos rfl]
      simp [mark]
  | text content => exact tagsFrom_text clean

/-- The tags that are read are those that were written. -/
theorem tags_render {pieces : List Piece} (clean : ∀ p ∈ pieces, p.wellFormed = true) :
    tags (render pieces) = pieces.filterMap mark := by
  rw [tags]
  induction pieces with
  | nil => rfl
  | cons p pieces ih =>
      have rest := ih fun q mem => clean q (List.mem_cons_of_mem p mem)
      rw [render, List.flatMap_cons, tagsFrom_piece (clean p List.mem_cons_self)]
      rw [render] at rest
      rw [rest]
      cases at_mark : p.mark <;> simp [at_mark]

end Reading

/-! ### Escapes -/

/-- What `html.escape` writes for a character. -/
def escapeChar (c : Char) : List Char :=
  if c = '&' then ['&', 'a', 'm', 'p', ';']
  else if c = '<' then ['&', 'l', 't', ';']
  else if c = '>' then ['&', 'g', 't', ';']
  else if c = '"' then ['&', 'q', 'u', 'o', 't', ';']
  else if c = '\'' then ['&', '#', 'x', '2', '7', ';']
  else [c]

/-- `html.escape`. -/
def escape (cs : List Char) : List Char := cs.flatMap escapeChar

/-- What `html.escape` changes. -/
def isSpecial (c : Char) : Bool := c = '&' || c = '<' || c = '>' || c = '"' || c = '\''

theorem escapeChar_plain {c : Char} (plain : isSpecial c = false) : escapeChar c = [c] := by
  simp only [isSpecial, Bool.or_eq_false_iff, decide_eq_false_iff_not] at plain
  obtain ⟨⟨⟨⟨amp, lt⟩, gt⟩, quote⟩, apostrophe⟩ := plain
  rw [escapeChar, if_neg amp, if_neg lt, if_neg gt, if_neg quote, if_neg apostrophe]

theorem escapeChar_special {c : Char} (special : isSpecial c = true) : 1 < (escapeChar c).length := by
  simp only [isSpecial, Bool.or_eq_true, decide_eq_true_eq] at special
  rcases special with (((rfl | rfl) | rfl) | rfl) | rfl <;> decide

theorem length_escape_le (cs : List Char) : cs.length ≤ (escape cs).length := by
  induction cs with
  | nil => exact Nat.le_refl 0
  | cons c cs ih =>
      have one : 1 ≤ (escapeChar c).length := by
        by_cases special : isSpecial c = true
        · exact Nat.le_of_lt (escapeChar_special special)
        · rw [escapeChar_plain (by simpa using special)]
          exact Nat.le_refl 1
      simp only [escape, List.flatMap_cons, List.length_append, List.length_cons] at ih ⊢
      omega

/-- A text is its own escape when it has no special character. -/
theorem escape_eq {cs : List Char} : cs = escape cs ↔ cs.all (!isSpecial ·) = true := by
  induction cs with
  | nil => simp [escape]
  | cons c cs ih =>
      by_cases special : isSpecial c = true
      · have longer : (c :: cs).length < (escape (c :: cs)).length := by
          have rest := length_escape_le cs
          have first := escapeChar_special special
          simp only [escape, List.flatMap_cons, List.length_append, List.length_cons] at rest ⊢
          omega
        simp only [List.all_cons, special, Bool.not_true, Bool.false_and, Bool.false_eq_true, iff_false]
        intro same
        rw [← same] at longer
        exact Nat.lt_irrefl _ longer
      · rw [Bool.not_eq_true] at special
        have step : escape (c :: cs) = c :: escape cs := by
          rw [escape, List.flatMap_cons, escapeChar_plain special]
          rfl
        simp only [step, List.cons.injEq, true_and, ih, List.all_cons, special, Bool.not_false, Bool.true_and]

/-- An escaped text has none of the characters of tags and values. -/
theorem escape_all (cs : List Char) :
    (escape cs).all (fun c => c ≠ '<' && c ≠ '>' && c ≠ '"' && c ≠ '\'') = true := by
  induction cs with
  | nil => rfl
  | cons c cs ih =>
      rw [escape, List.flatMap_cons, List.all_append, Bool.and_eq_true]
      refine ⟨?_, ih⟩
      by_cases special : isSpecial c = true
      · simp only [isSpecial, Bool.or_eq_true, decide_eq_true_eq] at special
        rcases special with (((rfl | rfl) | rfl) | rfl) | rfl <;> decide
      · rw [Bool.not_eq_true] at special
        rw [escapeChar_plain special]
        simp only [isSpecial, Bool.or_eq_false_iff, decide_eq_false_iff_not] at special
        simp [special]

end Markup
