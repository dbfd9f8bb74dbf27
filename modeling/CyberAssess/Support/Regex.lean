import Mathlib.Logic.Function.Basic
import Mathlib.Tactic.Common

/-!
# Support — regular expressions

A backtracking matcher: the ways an expression goes on from a place of a text, in the order in which
they are tried.

* `Regex.run` is the list of these ways, `search` the first way at the first place that has one,
  `finditer` the matches that do not overlap and `sub` the text with each replaced.
* `run_moves` and `run_lit`: a way consumes a part of the text.  `run_keeps` and `run_captures`: the
  groups.
* `mem_finditer`: where a match comes from; `finditer_head?`: the first is the one `search` finds.

`[about ours]`: repetition is of one character of a class, and ends after a match of no text.
-/

/-- A regular expression. -/
inductive Regex where
  | eps
  | one (p : Char → Bool)
  | rep (p : Char → Bool) (least : Nat) (most : Option Nat) (greedy : Bool)
  | seq (r s : Regex)
  | alt (r s : Regex)
  | group (n : Nat) (r : Regex)
  | backref (n : Nat)
  | boundary (isWord : Char → Bool)
  | start

namespace Regex

/-- A place in a text: what is before it, last first, what follows, and the groups so far. -/
structure Cursor where
  before : List Char
  rest : List Char
  groups : Nat → Option (List Char) := fun _ => none

namespace Cursor

/-- The place `k` characters on. -/
def forward (m : Cursor) (k : Nat) : Cursor :=
  { m with before := (m.rest.take k).reverse ++ m.before, rest := m.rest.drop k }

/-- The text between two places. -/
def consumed (m m' : Cursor) : List Char := (m'.before.take (m'.before.length - m.before.length)).reverse

/-- The second place is a text after the first. -/
def Moves (m m' : Cursor) (t : List Char) : Prop :=
  m'.before = t.reverse ++ m.before ∧ m.rest = t ++ m'.rest

theorem Moves.refl (m : Cursor) : m.Moves m [] := ⟨rfl, rfl⟩

theorem Moves.trans {m m' m'' : Cursor} {t t' : List Char} (first : m.Moves m' t)
    (second : m'.Moves m'' t') : m.Moves m'' (t ++ t') := by
  refine ⟨?_, ?_⟩
  · rw [second.1, first.1, List.reverse_append, List.append_assoc]
  · rw [first.2, second.2, List.append_assoc]

theorem Moves.consumed {m m' : Cursor} {t : List Char} (moves : m.Moves m' t) :
    m.consumed m' = t := by
  simp [Cursor.consumed, moves.1]

theorem forward_moves (m : Cursor) (k : Nat) : m.Moves (m.forward k) (m.rest.take k) :=
  ⟨rfl, (List.take_append_drop k m.rest).symm⟩

end Cursor

/-- The lengths a repetition tries. -/
def counts (p : Char → Bool) (least : Nat) (most : Option Nat) (greedy : Bool) (rest : List Char) :
    List Nat :=
  let longest := most.elim (rest.takeWhile p).length (min (rest.takeWhile p).length)
  let lengths := (List.range (longest + 1)).filter (least ≤ ·)
  if greedy then lengths.reverse else lengths

/-- The ways the expression goes on, in the order in which they are tried. -/
def run : Regex → Cursor → List Cursor
  | .eps, m => [m]
  | .one p, m => if m.rest.head?.any p then [m.forward 1] else []
  | .rep p least most greedy, m => (counts p least most greedy m.rest).map m.forward
  | .seq r s, m => (run r m).flatMap (run s)
  | .alt r s, m => run r m ++ run s m
  | .group n r, m =>
      (run r m).map fun m' => { m' with groups := Function.update m'.groups n (some (m.consumed m')) }
  | .backref n, m =>
      match m.groups n with
      | none => []
      | some t => if t.isPrefixOf m.rest then [m.forward t.length] else []
  | .boundary isWord, m => if m.before.head?.any isWord = m.rest.head?.any isWord then [] else [m]
  | .start, m => if m.before.isEmpty then [m] else []

example (m : Cursor) : run .eps m = [m] := by rw [run]

/-- A text, letter by letter. -/
def lit (text : List Char) : Regex := text.foldr (fun c r => .seq (.one (· = c)) r) .eps

/-- One after the other. -/
def seqs (rs : List Regex) : Regex := rs.foldr .seq .eps

/-- One or nothing. -/
def opt (r : Regex) : Regex := .alt r .eps

/-! ### Matches -/

/-- A match, with the text since the one before it. -/
structure Found where
  skipped : List Char
  text : List Char
  groups : Nat → Option (List Char)

/-- `match.group(n)`. -/
def Found.group (f : Found) (n : Nat) : Option (List Char) := if n = 0 then some f.text else f.groups n

/-- The first match after `before`, and where it ends. -/
def searchAfter (r : Regex) (before : List Char) : List Char → Option (Found × Cursor)
  | [] =>
      (r.run { before := before, rest := [] }).head?.map fun m =>
        ({ skipped := [], text := [], groups := m.groups }, m)
  | c :: cs =>
      match (r.run { before := before, rest := c :: cs }).head? with
      | some m =>
          some ({ skipped := []
                  text := Cursor.consumed { before := before, rest := c :: cs } m
                  groups := m.groups }, m)
      | none =>
          (searchAfter r (c :: before) cs).map fun found =>
            ({ found.1 with skipped := c :: found.1.skipped }, found.2)

/-- The matches after `before` that do not overlap, and the text after the last. -/
def scan (r : Regex) : Nat → List Char → List Char → List Found × List Char
  | 0, _, rest => ([], rest)
  | fuel + 1, before, rest =>
      match r.searchAfter before rest with
      | none => ([], rest)
      | some (found, m) =>
          if m.rest.length < rest.length then
            let further := scan r fuel m.before m.rest
            (found :: further.1, further.2)
          else ([found], m.rest)

/-- `r.search(text)`. -/
def search (r : Regex) (text : List Char) : Option Found := (r.searchAfter [] text).map Prod.fst

/-- `r.finditer(text)`. -/
def finditer (r : Regex) (text : List Char) : List Found := (r.scan (text.length + 1) [] text).1

/-- `r.sub(replacement, text)`. -/
def sub (r : Regex) (replacement : Found → List Char) (text : List Char) : List Char :=
  let scanned := r.scan (text.length + 1) [] text
  scanned.1.flatMap (fun found => found.skipped ++ replacement found) ++ scanned.2

/-! ### A way -/

section Ways

variable {r s : Regex} {m m' : Cursor} {p : Char → Bool}

theorem mem_counts {least : Nat} {most : Option Nat} {greedy : Bool} {rest : List Char} {k : Nat}
    (mem : k ∈ counts p least most greedy rest) :
    least ≤ k ∧ k ≤ (rest.takeWhile p).length ∧ ∀ n ∈ most, k ≤ n := by
  have inside : least ≤ k ∧ k ≤ most.elim (rest.takeWhile p).length (min (rest.takeWhile p).length) := by
    cases greedy <;> simp [counts] at mem <;> omega
  refine ⟨inside.1, ?_, ?_⟩
  · cases most with
    | none => exact inside.2
    | some n => exact Nat.le_trans inside.2 (Nat.min_le_left _ _)
  · intro n bound
    cases bound
    exact Nat.le_trans inside.2 (Nat.min_le_right _ _)

theorem mem_run_one : m' ∈ run (.one p) m ↔ m.rest.head?.any p = true ∧ m' = m.forward 1 := by
  rw [run]
  split <;> simp_all

theorem mem_run_seq : m' ∈ run (.seq r s) m ↔ ∃ m₁ ∈ run r m, m' ∈ run s m₁ := by
  rw [run, List.mem_flatMap]

theorem mem_run_alt : m' ∈ run (.alt r s) m ↔ m' ∈ run r m ∨ m' ∈ run s m := by
  rw [run, List.mem_append]

theorem mem_run_group {n : Nat} : m' ∈ run (.group n r) m ↔
    ∃ m₁ ∈ run r m,
      { m₁ with groups := Function.update m₁.groups n (some (m.consumed m₁)) } = m' := by
  rw [run, List.mem_map]

/-- What a repetition consumes. -/
theorem mem_run_rep {least : Nat} {most : Option Nat} {greedy : Bool}
    (mem : m' ∈ run (.rep p least most greedy) m) :
    ∃ t : List Char, m.Moves m' t ∧ m'.groups = m.groups ∧ least ≤ t.length ∧
      (∀ n ∈ most, t.length ≤ n) ∧ ∀ c ∈ t, p c = true := by
  obtain ⟨k, counted, rfl⟩ := List.mem_map.mp mem
  obtain ⟨low, inside, high⟩ := mem_counts counted
  have short : (m.rest.take k).length = k :=
    List.length_take_of_le (Nat.le_trans inside (List.takeWhile_prefix p).length_le)
  refine ⟨m.rest.take k, m.forward_moves k, rfl, short.symm ▸ low, short.symm ▸ high, ?_⟩
  intro c there
  have front : m.rest.take k <+: m.rest.takeWhile p :=
    List.prefix_of_prefix_length_le (List.take_prefix k m.rest) (List.takeWhile_prefix p)
      (short.symm ▸ inside)
  exact List.all_eq_true.mp List.all_takeWhile c (front.subset there)

/-- A way consumes a part of the text. -/
theorem run_moves (mem : m' ∈ run r m) : ∃ t, m.Moves m' t := by
  induction r generalizing m m' with
  | eps =>
      cases List.mem_singleton.mp mem
      exact ⟨[], .refl m⟩
  | one p => exact ⟨_, (mem_run_one.mp mem).2 ▸ m.forward_moves 1⟩
  | rep p least most greedy =>
      obtain ⟨t, moves, -⟩ := mem_run_rep mem
      exact ⟨t, moves⟩
  | seq r s first second =>
      obtain ⟨m₁, mem, mem'⟩ := mem_run_seq.mp mem
      obtain ⟨t, moves⟩ := first mem
      obtain ⟨t', moves'⟩ := second mem'
      exact ⟨t ++ t', moves.trans moves'⟩
  | alt r s left right => exact (mem_run_alt.mp mem).elim left right
  | group n r ih =>
      obtain ⟨m₁, way, rfl⟩ := mem_run_group.mp mem
      obtain ⟨t, moves⟩ := ih way
      exact ⟨t, moves⟩
  | backref n =>
      rw [run] at mem
      split at mem
      · cases mem
      · split at mem
        · cases List.mem_singleton.mp mem
          exact ⟨_, m.forward_moves _⟩
        · cases mem
  | boundary isWord =>
      rw [run] at mem
      split at mem
      · cases mem
      · cases List.mem_singleton.mp mem
        exact ⟨[], .refl m⟩
  | start =>
      rw [run] at mem
      split at mem
      · cases List.mem_singleton.mp mem
        exact ⟨[], .refl m⟩
      · cases mem

/-- A text is matched by itself. -/
theorem run_lit {text : List Char} (mem : m' ∈ run (lit text) m) : m.Moves m' text := by
  induction text generalizing m with
  | nil =>
      cases List.mem_singleton.mp mem
      exact .refl _
  | cons c text ih =>
      obtain ⟨m₁, first, rest⟩ := mem_run_seq.mp mem
      obtain ⟨head, rfl⟩ := mem_run_one.mp first
      obtain ⟨d, at_head, same⟩ := (Option.any_eq_true _ _).mp head
      obtain ⟨cs, whole⟩ := List.head?_eq_some_iff.mp at_head
      have one : m.Moves (m.forward 1) [c] := by
        have moves := m.forward_moves 1
        rw [whole] at moves
        simpa [of_decide_eq_true same] using moves
      exact one.trans (ih rest)

/-- A group that is set stays set. -/
theorem run_keeps {n : Nat} (mem : m' ∈ run r m) (set : (m.groups n).isSome = true) :
    (m'.groups n).isSome = true := by
  induction r generalizing m m' with
  | eps => exact List.mem_singleton.mp mem ▸ set
  | one p => exact (mem_run_one.mp mem).2 ▸ set
  | rep p least most greedy =>
      obtain ⟨_, _, same, -⟩ := mem_run_rep mem
      exact same ▸ set
  | seq r s first second =>
      obtain ⟨m₁, mem, mem'⟩ := mem_run_seq.mp mem
      exact second mem' (first mem set)
  | alt r s left right => exact (mem_run_alt.mp mem).elim (left · set) (right · set)
  | group k r ih =>
      obtain ⟨m₁, way, rfl⟩ := mem_run_group.mp mem
      by_cases same : n = k
      · subst same
        simp
      · simpa [Function.update_of_ne same] using ih way set
  | backref k =>
      rw [run] at mem
      split at mem
      · cases mem
      · split at mem
        · exact List.mem_singleton.mp mem ▸ set
        · cases mem
  | boundary isWord =>
      rw [run] at mem
      split at mem
      · cases mem
      · exact List.mem_singleton.mp mem ▸ set
  | start =>
      rw [run] at mem
      split at mem
      · exact List.mem_singleton.mp mem ▸ set
      · cases mem

/-- Every way through the expression sets the group. -/
def Captures (n : Nat) : Regex → Prop
  | .group k r => k = n ∨ Captures n r
  | .seq r s => Captures n r ∨ Captures n s
  | .alt r s => Captures n r ∧ Captures n s
  | _ => False

theorem run_captures {n : Nat} (sets : Captures n r) (mem : m' ∈ run r m) :
    (m'.groups n).isSome = true := by
  induction r generalizing m m' with
  | seq r s first second =>
      obtain ⟨m₁, mem, mem'⟩ := mem_run_seq.mp mem
      rcases sets with sets | sets
      · exact run_keeps mem' (first sets mem)
      · exact second sets mem'
  | alt r s left right => exact (mem_run_alt.mp mem).elim (left sets.1) (right sets.2)
  | group k r ih =>
      obtain ⟨m₁, way, rfl⟩ := mem_run_group.mp mem
      by_cases same : n = k
      · subst same
        simp
      · have inner := ih (sets.resolve_left fun e => same e.symm) way
        simpa [Function.update_of_ne same] using inner
  | _ => exact sets.elim

end Ways

/-! ### The matches of a text -/

section Matches

variable {r : Regex} {found : Found} {text : List Char}

/-- A match is a way from some place. -/
def Arises (r : Regex) (found : Found) : Prop :=
  ∃ m m' : Cursor, m.groups = (fun _ => none) ∧ m' ∈ run r m ∧ found.groups = m'.groups ∧
    found.text = m.consumed m'

theorem searchAfter_arises {before rest : List Char} {last : Cursor}
    (first : r.searchAfter before rest = some (found, last)) : Arises r found := by
  induction rest generalizing before found last with
  | nil =>
      obtain ⟨m', head, same⟩ := Option.map_eq_some_iff.mp first
      cases same
      have way := List.mem_of_head? head
      refine ⟨_, last, rfl, way, rfl, ?_⟩
      obtain ⟨t, moves⟩ := run_moves way
      rw [moves.consumed]
      exact (List.append_eq_nil_iff.mp moves.2.symm).1.symm
  | cons c cs ih =>
      rw [searchAfter] at first
      split at first
      next m' head =>
        cases first
        exact ⟨_, _, rfl, List.mem_of_head? head, rfl, rfl⟩
      next =>
        obtain ⟨⟨later, end'⟩, further, same⟩ := Option.map_eq_some_iff.mp first
        obtain ⟨m, m', none, way, groups, consumed⟩ := ih further
        cases same
        exact ⟨m, m', none, way, groups, consumed⟩

theorem scan_arises {fuel : Nat} {before rest : List Char}
    (mem : found ∈ (r.scan fuel before rest).1) : Arises r found := by
  induction fuel generalizing before rest with
  | zero => cases mem
  | succ fuel ih =>
      rw [scan] at mem
      split at mem
      · cases mem
      next first m searched =>
        split at mem
        · rcases List.mem_cons.mp mem with rfl | mem
          · exact searchAfter_arises searched
          · exact ih mem
        · rw [List.mem_singleton.mp mem]
          exact searchAfter_arises searched

theorem mem_finditer (mem : found ∈ r.finditer text) : Arises r found := scan_arises mem

/-- The first match is the one that is searched for. -/
theorem finditer_head? : (r.finditer text).head? = r.search text := by
  rw [finditer, scan, search]
  cases r.searchAfter [] text with
  | none => rfl
  | some first =>
      simp only [Option.map_some]
      split <;> rfl

end Matches

end Regex
