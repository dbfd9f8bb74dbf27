import CyberAssess.Support.PercentFormat
import CyberAssess.Database.Dialect

/-!
# Guarantees — the translated statement

What `_qmark_to_postgres` writes, read by the driver, against what the statement says.

* `sqlPieces` is what a statement says: outside quotes a `?` is a placeholder, and every other
  character is itself.
* `qmarkChars_le`: the translation writes no more than the text of these pieces.
* `qmarkChars_iff`: it writes that text exactly when no percent sign outside quotes is directly
  before one of `%`, `s`, `b` and `t`.
* `qmark_translation`: so the driver reads the pieces of the statement exactly then.
-/

namespace CyberAssess

open PercentFormat

/-- What a statement says.  A doubled quote closes a region and opens it again. -/
def sqlPieces : Option Quote → List Char → List Piece
  | _, [] => []
  | some q, c :: cs => .literal c :: sqlPieces (if c = q.char then none else some q) cs
  | none, c :: cs =>
      (if c = '?' then .placeholder .auto else .literal c) :: sqlPieces (Quote.ofChar c) cs

/-- A percent sign outside quotes is directly before one of `letters`. -/
def percentBefore (letters : List Char) : Option Quote → List Char → Bool
  | _, [] => false
  | some q, c :: cs => percentBefore letters (if c = q.char then none else some q) cs
  | none, c :: cs =>
      (c = '%' && cs.head?.any letters.contains) || percentBefore letters (Quote.ofChar c) cs

example (st : Option Quote) : qmarkChars st [] = [] := by rw [qmarkChars]

example (st : Option Quote) : sqlPieces st [] = [] := by rw [sqlPieces]

theorem Quote.ofChar_char (q : Quote) : Quote.ofChar q.char = some q := by cases q <;> rfl

theorem Quote.char_of_ofChar {c : Char} {q : Quote} (h : Quote.ofChar c = some q) : c = q.char := by
  unfold Quote.ofChar at h
  split_ifs at h with h₁ h₂ <;> cases h
  · exact h₁
  · exact h₂

theorem Quote.char_ne_percent (q : Quote) : q.char ≠ '%' := by cases q <;> decide

theorem Quote.char_ne_question (q : Quote) : q.char ≠ '?' := by cases q <;> decide

/-! ### The pieces of one character -/

theorem sqlPieces_inside (q : Quote) (c : Char) (cs : List Char) :
    sqlPieces (some q) (c :: cs) =
      .literal c :: sqlPieces (if c = q.char then none else some q) cs := rfl

/-- A quote outside quotes opens a region. -/
theorem sqlPieces_open {c : Char} {q : Quote} (h : Quote.ofChar c = some q) (cs : List Char) :
    sqlPieces none (c :: cs) = .literal c :: sqlPieces (some q) cs := by
  have other : c ≠ '?' := Quote.char_of_ofChar h ▸ q.char_ne_question
  rw [sqlPieces, if_neg other, h]

theorem sqlPieces_question (cs : List Char) :
    sqlPieces none ('?' :: cs) = .placeholder .auto :: sqlPieces none cs := rfl

theorem sqlPieces_plain {c : Char} (h : Quote.ofChar c = none) (other : c ≠ '?') (cs : List Char) :
    sqlPieces none (c :: cs) = .literal c :: sqlPieces none cs := by
  rw [sqlPieces, if_neg other, h]

/-! ### What the translation writes for one character -/

/-- In a quoted region the look-ahead changes nothing: what is closed is opened again. -/
theorem qmarkChars_inside (q : Quote) (c : Char) (cs : List Char) :
    qmarkChars (some q) (c :: cs) =
      (Piece.literal c).text ++ qmarkChars (if c = q.char then none else some q) cs := by
  cases cs with
  | nil => simp [qmarkChars, Piece.text]
  | cons d cs =>
      rw [qmarkChars]
      refine congrArg ((Piece.literal c).text ++ ·) ?_
      by_cases closing : c = q.char
      · rw [if_pos closing, if_pos closing]
        by_cases doubled : d = q.char
        · rw [if_pos doubled, doubled, qmarkChars, Quote.ofChar_char]
        · rw [if_neg doubled]
      · rw [if_neg closing, if_neg closing]

theorem qmarkChars_open {c : Char} {q : Quote} (h : Quote.ofChar c = some q) (cs : List Char) :
    qmarkChars none (c :: cs) = (Piece.literal c).text ++ qmarkChars (some q) cs := by
  have other : c ≠ '%' := Quote.char_of_ofChar h ▸ q.char_ne_percent
  rw [qmarkChars, h, Piece.text_literal other]
  rfl

theorem qmarkChars_question (cs : List Char) :
    qmarkChars none ('?' :: cs) = (Piece.placeholder .auto).text ++ qmarkChars none cs := by
  rw [qmarkChars]
  rfl

/-- A percent sign is doubled, unless it looks like a format. -/
theorem qmarkChars_percent (cs : List Char) : qmarkChars none ('%' :: cs) =
    (if formatAhead cs then ['%'] else ['%', '%']) ++ qmarkChars none cs := by
  rw [qmarkChars]
  rfl

theorem qmarkChars_plain {c : Char} (h : Quote.ofChar c = none) (question : c ≠ '?')
    (percent : c ≠ '%') (cs : List Char) :
    qmarkChars none (c :: cs) = (Piece.literal c).text ++ qmarkChars none cs := by
  rw [qmarkChars, h, Piece.text_literal percent]
  simp only [if_neg question, if_neg percent]
  rfl

/-! ### What the translation omits -/

/-- The translation writes no more than the text of the pieces. -/
theorem qmarkChars_le (cs : List Char) : ∀ st : Option Quote,
    (qmarkChars st cs).length ≤ (write (sqlPieces st cs)).length := by
  induction cs with
  | nil => intro st; simp [qmarkChars]
  | cons c cs ih =>
      intro st
      cases st with
      | some q =>
          rw [qmarkChars_inside, sqlPieces_inside, write_cons, List.length_append,
            List.length_append]
          exact Nat.add_le_add_left (ih _) _
      | none =>
          cases h : Quote.ofChar c with
          | some q =>
              rw [qmarkChars_open h, sqlPieces_open h, write_cons, List.length_append,
                List.length_append]
              exact Nat.add_le_add_left (ih _) _
          | none =>
              by_cases question : c = '?'
              · subst question
                rw [qmarkChars_question, sqlPieces_question, write_cons, List.length_append,
                  List.length_append]
                exact Nat.add_le_add_left (ih _) _
              · rw [sqlPieces_plain h question, write_cons, List.length_append]
                by_cases percent : c = '%'
                · subst percent
                  rw [qmarkChars_percent, List.length_append, Piece.text_percent]
                  refine Nat.add_le_add ?_ (ih _)
                  split <;> simp
                · rw [qmarkChars_plain h question percent, List.length_append]
                  exact Nat.add_le_add_left (ih _) _

/-- The letters `_qmark_to_postgres` looks for. -/
def formatLetters : List Char := ['%', 's', 'b', 't']

theorem formatAhead_eq (cs : List Char) : formatAhead cs = cs.head?.any formatLetters.contains := by
  cases cs <;> rfl

theorem percentBefore_inside (letters : List Char) (q : Quote) (c : Char) (cs : List Char) :
    percentBefore letters (some q) (c :: cs) =
      percentBefore letters (if c = q.char then none else some q) cs := rfl

theorem percentBefore_other (letters : List Char) {c : Char} (other : c ≠ '%') (cs : List Char) :
    percentBefore letters none (c :: cs) = percentBefore letters (Quote.ofChar c) cs := by
  simp [percentBefore, other]

theorem percentBefore_percent (letters cs : List Char) : percentBefore letters none ('%' :: cs) =
    (cs.head?.any letters.contains || percentBefore letters none cs) := rfl

/-- The translation writes the text of the pieces exactly when no percent sign looks like a format. -/
theorem qmarkChars_iff (cs : List Char) : ∀ st : Option Quote,
    write (sqlPieces st cs) = qmarkChars st cs ↔ percentBefore formatLetters st cs = false := by
  induction cs with
  | nil => intro st; simp [qmarkChars, sqlPieces, percentBefore]
  | cons c cs ih =>
      intro st
      cases st with
      | some q =>
          rw [qmarkChars_inside, sqlPieces_inside, write_cons, List.append_cancel_left_eq,
            percentBefore_inside]
          exact ih _
      | none =>
          by_cases percent : c = '%'
          · subst percent
            rw [qmarkChars_percent, sqlPieces_plain rfl (by decide), write_cons, Piece.text_percent,
              percentBefore_percent, formatAhead_eq]
            by_cases ahead : cs.head?.any formatLetters.contains = true
            · -- one sign is missing, and what follows does not make up for it
              rw [ahead, Bool.true_or, if_pos rfl]
              refine iff_of_false (fun same => ?_) (by simp)
              have fewer := qmarkChars_le cs none
              have lengths := congrArg List.length same
              simp only [List.length_append, List.length_cons, List.length_nil] at lengths
              omega
            · rw [Bool.not_eq_true] at ahead
              rw [ahead, Bool.false_or, if_neg (by simp), List.append_cancel_left_eq]
              exact ih none
          · rw [percentBefore_other _ percent]
            cases h : Quote.ofChar c with
            | some q =>
                rw [qmarkChars_open h, sqlPieces_open h, write_cons, List.append_cancel_left_eq]
                exact ih _
            | none =>
                by_cases question : c = '?'
                · subst question
                  rw [qmarkChars_question, sqlPieces_question, write_cons,
                    List.append_cancel_left_eq]
                  exact ih none
                · rw [qmarkChars_plain h question percent, sqlPieces_plain h question, write_cons,
                    List.append_cancel_left_eq]
                  exact ih none

/-- The driver reads what a statement says exactly when no percent sign outside quotes is directly
before one of `%`, `s`, `b` and `t`. -/
theorem qmark_translation (sql : String) :
    read (qmarkToPostgres sql).toList = some (sqlPieces none sql.toList) ↔
      percentBefore ['%', 's', 'b', 't'] none sql.toList = false := by
  rw [read_eq_some, qmarkToPostgres, String.toList_ofList]
  exact qmarkChars_iff sql.toList none

/-- A doubled percent sign outside quotes comes out tripled, and the placeholder after it is lost. -/
theorem qmark_doubled_percent :
    percentBefore ['s', 'b', 't'] none "SELECT a %%? b".toList = false ∧
      qmarkToPostgres "SELECT a %%? b" = "SELECT a %%%%s b" ∧
      read (qmarkToPostgres "SELECT a %%? b").toList ≠
        some (sqlPieces none "SELECT a %%? b".toList) ∧
      read (qmarkToPostgres "SELECT 7 %% ?").toList = none := by
  decide

end CyberAssess
