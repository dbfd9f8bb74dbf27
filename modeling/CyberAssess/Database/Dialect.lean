import Mathlib.Tactic.Common

/-!
# Database — the two SQL dialects

`core/db.py`: the data layer writes its statements with `?` placeholders, and `_qmark_to_postgres`
turns each into the text the PostgreSQL driver takes.

`[about ours]`: the loop over `index` is a recursion over the characters that are left.
-/

namespace CyberAssess

/-- `quote`, the quote a region was opened with. -/
inductive Quote where
  | single | double
deriving DecidableEq, Repr

def Quote.char : Quote → Char
  | .single => '\''
  | .double => '"'

/-- `char in ("'", '"')`. -/
def Quote.ofChar (c : Char) : Option Quote :=
  if c = '\'' then some .single else if c = '"' then some .double else none

/-- `next_char in ("%", "s", "b", "t")`. -/
def formatAhead : List Char → Bool
  | [] => false
  | c :: _ => ['%', 's', 'b', 't'].contains c

/-- The loop of `_qmark_to_postgres`, in a quoted region or outside. -/
def qmarkChars : Option Quote → List Char → List Char
  | _, [] => []
  | some _, [c] => if c = '%' then ['%', '%'] else [c]
  | some q, c :: d :: cs =>
      (if c = '%' then ['%', '%'] else [c]) ++
        if c = q.char then
          -- a doubled quote is a quote of the text
          if d = q.char then d :: qmarkChars (some q) cs else qmarkChars none (d :: cs)
        else qmarkChars (some q) (d :: cs)
  | none, c :: cs =>
      match Quote.ofChar c with
      | some q => c :: qmarkChars (some q) cs
      | none =>
          if c = '?' then '%' :: 's' :: qmarkChars none cs
          else if c = '%' then
            -- one sign is written, and the second sign of `%%` is read again
            (if formatAhead cs then ['%'] else ['%', '%']) ++ qmarkChars none cs
          else c :: qmarkChars none cs

/-- `_qmark_to_postgres`. -/
def qmarkToPostgres (sql : String) : String := String.ofList (qmarkChars none sql.toList)

end CyberAssess
