import CyberAssess.Support.JsonStrings

/-!
# Support — JSON values, written and read

`json.dumps(…, sort_keys=True, separators=(",", ":"), ensure_ascii=True)` and `json.loads` on
values whose strings are Python's.

* `Value.write` writes a value, its members in the order of their keys; `loads` reads a text.
* `scanAtom_writeInt`: an integer is read back from what was written, whatever follows.
* `joined_of_loads` says that the strings read from a list are joined, and `writeTexts_graphic` in
  which characters a list is written.

`[about ours]`: a float is kept as its text, and the nesting limit of the interpreter is not
modelled.
-/

namespace Python

/-- What `json.loads` returns. -/
inductive Value where
  | null
  | bool (b : Bool)
  | int (n : Int)
  | float (text : List Char)
  | str (s : Points)
  | arr (items : List Value)
  | obj (members : List (Points × Value))

/-! ### Writing -/

/-- Texts with commas between them. -/
def commas : List (List Char) → List Char
  | [] => []
  | [t] => t
  | t :: ts => t ++ ',' :: commas ts

/-- An integer. -/
def writeInt : Int → List Char
  | .ofNat n => Nat.toDigits 10 n
  | .negSucc n => '-' :: Nat.toDigits 10 (n + 1)

/-- Members in the order of their keys. -/
def sortMembers {α : Type} (members : List (Points × α)) : List (Points × α) :=
  members.mergeSort fun p q => decide (p.1 ≤ q.1)

/-- One member. -/
def writeMember (m : Points × List Char) : List Char := writeString m.1 ++ ':' :: m.2

mutual

/-- The canonical text. -/
def Value.write : Value → List Char
  | .null => ['n', 'u', 'l', 'l']
  | .bool b => if b then ['t', 'r', 'u', 'e'] else ['f', 'a', 'l', 's', 'e']
  | .int n => writeInt n
  | .float t => t
  | .str s => writeString s
  | .arr items => '[' :: commas (writeItems items) ++ [']']
  | .obj members =>
      '\x7b' :: commas ((sortMembers (writeMembers members)).map writeMember) ++ ['\x7d']

/-- The texts of the items. -/
def writeItems : List Value → List (List Char)
  | [] => []
  | v :: vs => v.write :: writeItems vs

/-- The texts of the members, under their keys. -/
def writeMembers : List (Points × Value) → List (Points × List Char)
  | [] => []
  | (k, v) :: ms => (k, v.write) :: writeMembers ms

end

/-- `json.dumps` of a list of strings. -/
def writeTexts (texts : List Points) : List Char := (Value.arr (texts.map .str)).write

/-! ### Reading -/

/-- White space between tokens. -/
def isJsonSpace (c : Char) : Bool := c = ' ' || c = '\t' || c = '\n' || c = '\r'

/-- What follows white space. -/
def skipSpace (cs : List Char) : List Char := cs.dropWhile isJsonSpace

/-- The digits in front, and what follows. -/
def spanDigits (cs : List Char) : List Char × List Char :=
  (cs.takeWhile Char.isDigit, cs.dropWhile Char.isDigit)

/-- `0`, or digits that do not start with it. -/
def scanWhole : List Char → Option (List Char × List Char)
  | '0' :: rest => some (['0'], rest)
  | c :: rest =>
      if c.isDigit then some (c :: (spanDigits rest).1, (spanDigits rest).2) else none
  | [] => none

/-- `\.[0-9]+`, if it is there. -/
def scanFraction : List Char → List Char × List Char
  | '.' :: d :: rest =>
      if d.isDigit then ('.' :: d :: (spanDigits rest).1, (spanDigits rest).2)
      else ([], '.' :: d :: rest)
  | cs => ([], cs)

/-- `[0-9]+` after `[eE][-+]?`, or nothing of it. -/
def scanPower (mark whole : List Char) : List Char → List Char × List Char
  | d :: rest =>
      if d.isDigit then (mark ++ d :: (spanDigits rest).1, (spanDigits rest).2) else ([], whole)
  | [] => ([], whole)

/-- `[eE][-+]?[0-9]+`, if it is there. -/
def scanExponent (cs : List Char) : List Char × List Char :=
  match cs with
  | e :: s :: rest =>
      if e = 'e' || e = 'E' then
        if s = '+' || s = '-' then scanPower [e, s] cs rest else scanPower [e] cs (s :: rest)
      else ([], cs)
  | _ => ([], cs)

/-- The number these texts are: an integer of more than 4300 digits is refused. -/
def numberOf (negative : Bool) (whole fraction exponent : List Char) : Option Value :=
  if fraction.isEmpty && exponent.isEmpty then
    if 4300 < whole.length then none
    else
      let n : Int := Nat.ofDigitChars 10 whole 0
      some (.int (if negative then -n else n))
  else some (.float ((if negative then ['-'] else []) ++ whole ++ fraction ++ exponent))

/-- A number after its sign. -/
def scanUnsigned (negative : Bool) (cs : List Char) : Option (Value × List Char) := do
  let (whole, rest) ← scanWhole cs
  let (fraction, rest) := scanFraction rest
  let (exponent, rest) := scanExponent rest
  let v ← numberOf negative whole fraction exponent
  return (v, rest)

/-- A number, or one of the names. -/
def scanAtom : List Char → Option (Value × List Char)
  | 'n' :: 'u' :: 'l' :: 'l' :: rest => some (.null, rest)
  | 't' :: 'r' :: 'u' :: 'e' :: rest => some (.bool true, rest)
  | 'f' :: 'a' :: 'l' :: 's' :: 'e' :: rest => some (.bool false, rest)
  | 'N' :: 'a' :: 'N' :: rest => some (.float ['N', 'a', 'N'], rest)
  | 'I' :: 'n' :: 'f' :: 'i' :: 'n' :: 'i' :: 't' :: 'y' :: rest =>
      some (.float ['I', 'n', 'f', 'i', 'n', 'i', 't', 'y'], rest)
  | '-' :: 'I' :: 'n' :: 'f' :: 'i' :: 'n' :: 'i' :: 't' :: 'y' :: rest =>
      some (.float ['-', 'I', 'n', 'f', 'i', 'n', 'i', 't', 'y'], rest)
  | '-' :: rest => scanUnsigned true rest
  | cs => scanUnsigned false cs

/-- `d[key] = value`. -/
def setMember {α : Type} (key : Points) (value : α) : List (Points × α) → List (Points × α)
  | [] => [(key, value)]
  | (k, v) :: ms => if k = key then (k, value) :: ms else (k, v) :: setMember key value ms

/-- `dict(pairs)`: the last value of a key, where the key first stood. -/
def dictOf {α : Type} (members : List (Points × α)) : List (Points × α) :=
  members.foldl (fun d m => setMember m.1 m.2 d) []

mutual

/-- One value, and what follows it. -/
def scanValue : Nat → List Char → Option (Value × List Char)
  | 0, _ => none
  | _ + 1, [] => none
  | fuel + 1, c :: cs =>
      if c = '"' then (scanString cs).map fun r => (.str r.1, r.2)
      else if c = '[' then
        match skipSpace cs with
        | ']' :: rest => some (.arr [], rest)
        | rest => (scanItems fuel rest).map fun r => (.arr r.1, r.2)
      else if c = '\x7b' then
        match skipSpace cs with
        | '\x7d' :: rest => some (.obj [], rest)
        | rest => (scanMembers fuel rest).map fun r => (.obj (dictOf r.1), r.2)
      else scanAtom (c :: cs)

/-- The items up to the closing bracket. -/
def scanItems : Nat → List Char → Option (List Value × List Char)
  | 0, _ => none
  | fuel + 1, cs =>
      (scanValue fuel cs).bind fun v =>
        match skipSpace v.2 with
        | ']' :: rest => some ([v.1], rest)
        | ',' :: rest => (scanItems fuel (skipSpace rest)).map fun r => (v.1 :: r.1, r.2)
        | _ => none

/-- The members up to the closing brace. -/
def scanMembers : Nat → List Char → Option (List (Points × Value) × List Char)
  | fuel + 1, '"' :: cs =>
      (scanString cs).bind fun k =>
        match skipSpace k.2 with
        | ':' :: rest =>
            (scanValue fuel (skipSpace rest)).bind fun v =>
              match skipSpace v.2 with
              | '\x7d' :: rest => some ([(k.1, v.1)], rest)
              | ',' :: rest =>
                  (scanMembers fuel (skipSpace rest)).map fun r => ((k.1, v.1) :: r.1, r.2)
              | _ => none
        | _ => none
  | _, _ => none

end

/-- `json.loads`. -/
def loads (cs : List Char) : Option Value :=
  match scanValue (2 * cs.length) (skipSpace cs) with
  | some (v, rest) => if (skipSpace rest).isEmpty then some v else none
  | none => none

/-! ### Numbers and members -/

/-- No number goes on with what follows. -/
def Stops (rest : List Char) : Prop :=
  ∀ c ∈ rest.head?, c.isDigit = false ∧ c ≠ '.' ∧ c ≠ 'e' ∧ c ≠ 'E'

theorem stops_cons {c : Char} (h : c.isDigit = false ∧ c ≠ '.' ∧ c ≠ 'e' ∧ c ≠ 'E')
    (rest : List Char) : Stops (c :: rest) := by
  intro d hd
  cases hd
  exact h

/-- Digits of a number do not start with a zero. -/
theorem toDigits_ne_zero_cons (n : Nat) (pos : 0 < n) (cs : List Char) :
    Nat.toDigits 10 n ≠ '0' :: cs := by
  induction n using Nat.strongRecOn generalizing cs with
  | _ n ih =>
      by_cases small : n < 10
      · rw [Nat.toDigits_of_lt_base small]
        intro h
        have head : n.digitChar = '0' := (List.cons.inj h).1
        have all : ∀ i : Fin 10, i.val.digitChar = '0' → i.val = 0 := by decide
        have none : n = 0 := all ⟨n, small⟩ head
        omega
      · rw [Nat.toDigits_of_base_le (by decide) (by omega)]
        intro h
        cases front : Nat.toDigits 10 (n / 10) with
        | nil => exact Nat.toDigits_ne_nil front
        | cons c ds =>
            rw [front, List.cons_append] at h
            have head : c = '0' := (List.cons.inj h).1
            exact ih (n / 10) (by omega) (by omega) ds (head ▸ front)

theorem spanDigits_append {ds rest : List Char} (digits : ∀ c ∈ ds, c.isDigit = true)
    (stop : ∀ c ∈ rest.head?, c.isDigit = false) : spanDigits (ds ++ rest) = (ds, rest) := by
  rw [spanDigits, List.takeWhile_append_of_pos digits, List.dropWhile_append_of_pos digits]
  cases rest with
  | nil => simp
  | cons c rest => simp [stop c rfl]

theorem isDigit_toDigits (n : Nat) : ∀ c ∈ Nat.toDigits 10 n, c.isDigit = true :=
  fun _ hc => Nat.isDigit_of_mem_toDigits (by decide) (by decide) hc

theorem scanWhole_digits (n : Nat) {rest : List Char}
    (stop : ∀ c ∈ rest.head?, c.isDigit = false) :
    scanWhole (Nat.toDigits 10 n ++ rest) = some (Nat.toDigits 10 n, rest) := by
  by_cases zero : n = 0
  · subst zero
    simp [scanWhole]
  · cases text : Nat.toDigits 10 n with
    | nil => exact absurd text Nat.toDigits_ne_nil
    | cons c ds =>
        have front : c ≠ '0' := by
          rintro rfl
          exact toDigits_ne_zero_cons n (by omega) ds text
        have digits := isDigit_toDigits n
        rw [text] at digits
        have rest_digits : ∀ d ∈ ds, d.isDigit = true :=
          fun d hd => digits d (List.mem_cons_of_mem _ hd)
        rw [List.cons_append, scanWhole]
        · rw [if_pos (digits c List.mem_cons_self), spanDigits_append rest_digits stop]
        · exact fun same => absurd same front

theorem scanFraction_none {rest : List Char} (h : ∀ c ∈ rest.head?, c ≠ '.') :
    scanFraction rest = ([], rest) := by
  cases rest with
  | nil => rfl
  | cons c rest =>
      rw [scanFraction]
      rintro d tail same
      exact absurd (List.cons.inj same).1 (h c rfl)

theorem scanExponent_none {rest : List Char} (h : ∀ c ∈ rest.head?, c ≠ 'e' ∧ c ≠ 'E') :
    scanExponent rest = ([], rest) := by
  match rest, h with
  | [], _ => rfl
  | [c], _ => rfl
  | c :: d :: rest, h =>
      obtain ⟨h₁, h₂⟩ := h c rfl
      simp [scanExponent, h₁, h₂]

/-- A number without a sign is read back. -/
theorem scanUnsigned_digits (negative : Bool) {n : Nat} {rest : List Char} (stop : Stops rest)
    (short : (Nat.toDigits 10 n).length ≤ 4300) :
    scanUnsigned negative (Nat.toDigits 10 n ++ rest) =
      some (.int (if negative then -(n : Int) else n), rest) := by
  have whole := scanWhole_digits n fun c hc => (stop c hc).1
  have fraction := scanFraction_none fun c hc => (stop c hc).2.1
  have exponent := scanExponent_none fun c hc => (stop c hc).2.2
  have long : ¬ 4300 < (Nat.toDigits 10 n).length := by omega
  simp only [scanUnsigned, whole, fraction, exponent, numberOf, Option.bind_eq_bind,
    Option.bind_some, List.isEmpty_nil, Bool.and_self, if_true, if_neg long, Option.pure_def,
    Nat.ofDigitChars_ten_toDigits]

/-- A digit starts a number. -/
theorem scanAtom_digit {c : Char} (digit : c.isDigit = true) (cs : List Char) :
    scanAtom (c :: cs) = scanUnsigned false (c :: cs) := by
  have no {d : Char} {xs ys : List Char} (other : d.isDigit = false) : c :: xs ≠ d :: ys := by
    intro same
    rw [(List.cons.inj same).1, other] at digit
    cases digit
  unfold scanAtom
  split
  case h_8 => rfl
  all_goals
    rename_i same
    exact absurd same (no (by decide))

/-- A sign and a digit start a number. -/
theorem scanAtom_minus {c : Char} (digit : c.isDigit = true) (cs : List Char) :
    scanAtom ('-' :: c :: cs) = scanUnsigned true (c :: cs) := by
  rw [scanAtom]
  rintro rest same
  rw [(List.cons.inj same).1] at digit
  exact absurd digit (by decide)

theorem scanAtom_writeInt {n : Int} {rest : List Char} (stop : Stops rest)
    (short : (Nat.toDigits 10 n.natAbs).length ≤ 4300) :
    scanAtom (writeInt n ++ rest) = some (.int n, rest) := by
  have first (m : Nat) : ∃ c cs, Nat.toDigits 10 m = c :: cs ∧ c.isDigit = true := by
    cases text : Nat.toDigits 10 m with
    | nil => exact absurd text Nat.toDigits_ne_nil
    | cons c cs => exact ⟨c, cs, rfl, isDigit_toDigits m c (text ▸ List.mem_cons_self)⟩
  cases n with
  | ofNat m =>
      have short : (Nat.toDigits 10 m).length ≤ 4300 := short
      obtain ⟨c, cs, text, digit⟩ := first m
      have number := scanUnsigned_digits false stop short
      rw [text, List.cons_append] at number
      rw [writeInt, text, List.cons_append, scanAtom_digit digit, number]
      rfl
  | negSucc m =>
      have short : (Nat.toDigits 10 (m + 1)).length ≤ 4300 := short
      obtain ⟨c, cs, text, digit⟩ := first (m + 1)
      have number := scanUnsigned_digits true stop short
      rw [text, List.cons_append] at number
      rw [writeInt, text, List.cons_append, List.cons_append, scanAtom_minus digit, number]
      rfl

/-- A number starts with a digit or a sign. -/
theorem writeInt_head (n : Int) : ∀ c ∈ (writeInt n).head?, c.isDigit = true ∨ c = '-' := by
  cases n with
  | ofNat m =>
      intro c hc
      exact Or.inl (isDigit_toDigits m c (List.mem_of_mem_head? hc))
  | negSucc m =>
      rintro c ⟨⟩
      exact Or.inr rfl

theorem skipSpace_cons {c : Char} (h : isJsonSpace c = false) (cs : List Char) :
    skipSpace (c :: cs) = c :: cs :=
  List.dropWhile_cons_of_neg (by simp [h])

theorem writeMember_append (k : Points) (t rest : List Char) :
    writeMember (k, t) ++ rest = '"' :: (k.flatMap writePoint ++ '"' :: ':' :: (t ++ rest)) := by
  simp [writeMember, writeString]

/-- The one member, and what follows. -/
theorem writeMembers_single (k : Points) (v : Value) (rest : List Char) :
    commas ((writeMembers [(k, v)]).map writeMember) ++ rest =
      '"' :: (k.flatMap writePoint ++ '"' :: ':' :: (v.write ++ rest)) :=
  writeMember_append k v.write rest

/-- The first member, and what follows. -/
theorem writeMembers_more (k l : Points) (v w : Value) (ms : List (Points × Value))
    (rest : List Char) :
    commas ((writeMembers ((k, v) :: (l, w) :: ms)).map writeMember) ++ rest =
      '"' :: (k.flatMap writePoint ++ '"' :: ':' ::
        (v.write ++ ',' :: (commas ((writeMembers ((l, w) :: ms)).map writeMember) ++ rest))) := by
  rw [← writeMember_append]
  simp [writeMembers, commas]

/-- Members start with a quote. -/
theorem writeMembers_front (k : Points) (v : Value) (ms : List (Points × Value))
    (rest : List Char) :
    ∃ cs, commas ((writeMembers ((k, v) :: ms)).map writeMember) ++ rest = '"' :: cs := by
  cases ms with
  | nil => exact ⟨_, writeMembers_single k v rest⟩
  | cons m ms => exact ⟨_, writeMembers_more k m.1 v m.2 ms rest⟩

theorem map_fst_writeMembers (members : List (Points × Value)) :
    (writeMembers members).map (·.1) = members.map (·.1) := by
  induction members with
  | nil => rfl
  | cons m ms ih => simp [writeMembers, ih]

/-- Members in the order of their keys are written in it. -/
theorem sortMembers_writeMembers {members : List (Points × Value)}
    (sorted : members.Pairwise fun p q => p.1 < q.1) :
    sortMembers (writeMembers members) = writeMembers members := by
  have keys : (members.map (·.1)).Pairwise (· < ·) := List.pairwise_map.mpr sorted
  rw [← map_fst_writeMembers] at keys
  refine List.mergeSort_of_pairwise ((List.pairwise_map.mp keys).imp ?_)
  intro p q less
  exact decide_eq_true less.le

/-- Where no two members share a key, their order does not matter. -/
theorem lookup_perm {κ α : Type} [BEq κ] [LawfulBEq κ] {xs ys : List (κ × α)} (perm : xs.Perm ys)
    (distinct : (xs.map (·.1)).Nodup) (name : κ) : xs.lookup name = ys.lookup name := by
  induction perm with
  | nil => rfl
  | cons x _ ih =>
      obtain ⟨key, value⟩ := x
      rw [List.lookup_cons, List.lookup_cons, ih (List.nodup_cons.mp distinct).2]
  | swap x y zs =>
      obtain ⟨k, v⟩ := x
      obtain ⟨l, u⟩ := y
      have apart : l ≠ k := by
        rintro rfl
        simp at distinct
      simp only [List.lookup_cons]
      by_cases first : name = k
      · subst first
        simp [beq_eq_false_iff_ne.mpr apart.symm]
      · simp [beq_eq_false_iff_ne.mpr first]
  | trans first _ ih₁ ih₂ =>
      exact (ih₁ distinct).trans (ih₂ ((first.map (·.1)).nodup_iff.mp distinct))

/-- A member is found under its name, whatever is made of the values and whichever way names are told
apart. -/
theorem lookup_map {κ κ' α β : Type} [BEq κ] [LawfulBEq κ] [BEq κ'] [LawfulBEq κ'] {g : κ → κ'}
    (inj : ∀ a b, g a = g b → a = b) (f : α → β) (ms : List (κ × α)) (name : κ) :
    (ms.map fun m => (g m.1, f m.2)).lookup (g name) = (ms.lookup name).map f := by
  induction ms with
  | nil => rfl
  | cons m ms ih =>
      obtain ⟨key, value⟩ := m
      by_cases same : name = key
      · subst same
        rw [List.map_cons, List.lookup_cons_self, List.lookup_cons_self, Option.map_some]
      · have apart : (name == key) = false := beq_eq_false_iff_ne.mpr same
        have coded : (g name == g key) = false := beq_eq_false_iff_ne.mpr fun h => same (inj _ _ h)
        rw [List.map_cons, List.lookup_cons, List.lookup_cons, apart, coded, ih]

/-! ### Lists of strings -/

/-- Neither a string nor an array nor an object. -/
def Value.isAtom : Value → Bool
  | .null | .bool _ | .int _ | .float _ => true
  | .str _ | .arr _ | .obj _ => false

theorem isAtom_of_scanUnsigned {negative : Bool} {cs : List Char} {r : Value × List Char}
    (h : scanUnsigned negative cs = some r) : r.1.isAtom = true := by
  simp only [scanUnsigned, Option.bind_eq_bind, Option.bind_eq_some_iff, Option.pure_def,
    Option.some.injEq] at h
  obtain ⟨_, _, v, hv, rfl⟩ := h
  simp only [numberOf] at hv
  split_ifs at hv <;> (cases hv; rfl)

theorem isAtom_of_scanAtom {cs : List Char} {r : Value × List Char} (h : scanAtom cs = some r) :
    r.1.isAtom = true := by
  unfold scanAtom at h
  split at h
  case h_7 => exact isAtom_of_scanUnsigned h
  case h_8 => exact isAtom_of_scanUnsigned h
  all_goals
    cases h
    rfl

/-- What a value that was read is: a string after its quote, items up to their bracket, an object
or an atom. -/
theorem scanValue_cases {fuel : Nat} {cs : List Char} {v : Value} {rest : List Char}
    (h : scanValue fuel cs = some (v, rest)) :
    (∃ s ds, v = .str s ∧ scanString ds = some (s, rest)) ∨
      (∃ vs, v = .arr vs ∧ (vs = [] ∨ ∃ n ds, scanItems n ds = some (vs, rest))) ∨
      (∃ ms, v = .obj ms) ∨ v.isAtom = true := by
  match fuel, cs with
  | 0, _ => simp [scanValue] at h
  | _ + 1, [] => simp [scanValue] at h
  | fuel + 1, c :: cs =>
      rw [scanValue] at h
      split_ifs at h
      · obtain ⟨r, read, same⟩ := Option.map_eq_some_iff.mp h
        cases same
        exact Or.inl ⟨r.1, cs, rfl, read⟩
      · split at h
        · cases h
          exact Or.inr (Or.inl ⟨[], rfl, Or.inl rfl⟩)
        · obtain ⟨r, read, same⟩ := Option.map_eq_some_iff.mp h
          cases same
          exact Or.inr (Or.inl ⟨r.1, rfl, Or.inr ⟨fuel, _, read⟩⟩)
      · split at h
        · cases h
          exact Or.inr (Or.inr (Or.inl ⟨[], rfl⟩))
        · obtain ⟨r, -, same⟩ := Option.map_eq_some_iff.mp h
          cases same
          exact Or.inr (Or.inr (Or.inl ⟨dictOf r.1, rfl⟩))
      · exact Or.inr (Or.inr (Or.inr (isAtom_of_scanAtom h)))

/-- A string that was read is joined. -/
theorem joined_of_scanValue {fuel : Nat} {cs : List Char} {s : Points} {rest : List Char}
    (h : scanValue fuel cs = some (.str s, rest)) : Joined s := by
  rcases scanValue_cases h with ⟨t, ds, same, read⟩ | ⟨vs, same, -⟩ | ⟨ms, same⟩ | atom
  · cases same
    exact joined_scanString ds _ read
  · cases same
  · cases same
  · cases atom

/-- The strings among items that were read are joined. -/
theorem joined_of_scanItems {fuel : Nat} : ∀ {cs : List Char} {vs : List Value} {rest : List Char},
    scanItems fuel cs = some (vs, rest) → ∀ s, Value.str s ∈ vs → Joined s := by
  induction fuel with
  | zero =>
      intro cs vs rest h
      simp [scanItems] at h
  | succ fuel ih =>
      intro cs vs rest h s hs
      rw [scanItems] at h
      obtain ⟨⟨v, after⟩, first, h⟩ := Option.bind_eq_some_iff.mp h
      have head (same : Value.str s = v) : Joined s := by
        rw [← same] at first
        exact joined_of_scanValue first
      dsimp only at h
      split at h
      · cases h
        exact head (List.mem_singleton.mp hs)
      · obtain ⟨r, others, same⟩ := Option.map_eq_some_iff.mp h
        cases same
        rcases List.mem_cons.mp hs with hs | hs
        · exact head hs
        · exact ih others s hs
      · cases h

/-- The strings of a list that was read are joined. -/
theorem joined_of_loads {cs : List Char} {vs : List Value} (h : loads cs = some (.arr vs)) :
    ∀ s, Value.str s ∈ vs → Joined s := by
  rw [loads] at h
  split at h
  · rename_i v rest read
    split_ifs at h
    cases h
    rcases scanValue_cases read with ⟨t, ds, same, -⟩ | ⟨us, same, items⟩ | ⟨ms, same⟩ | atom
    · cases same
    · cases same
      rcases items with rfl | ⟨n, ds, items⟩
      · intro s hs
        cases hs
      · exact joined_of_scanItems items
    · cases same
    · cases atom
  · cases h

/-- A list is written in graphic characters exactly where no string has a space. -/
theorem writeTexts_graphic (texts : List Points) :
    (∀ c ∈ writeTexts texts, 0x21 ≤ c.val.toNat ∧ c.val.toNat ≤ 0x7E) ↔
      ∀ t ∈ texts, (32 : CodePoint) ∉ t := by
  have between (ts : List Points) :
      (∀ c ∈ commas (writeItems (ts.map .str)), 0x21 ≤ c.val.toNat ∧ c.val.toNat ≤ 0x7E) ↔
        ∀ t ∈ ts, (32 : CodePoint) ∉ t := by
    induction ts with
    | nil => simp [writeItems, commas]
    | cons t ts ih =>
        cases ts with
        | nil => simpa [writeItems, commas, Value.write] using writeString_graphic t
        | cons u us =>
            have comma : 0x21 ≤ (',' : Char).val.toNat ∧ (',' : Char).val.toNat ≤ 0x7E := by decide
            have text : commas (writeItems ((t :: u :: us).map .str)) =
                writeString t ++ ',' :: commas (writeItems ((u :: us).map .str)) := rfl
            rw [text, List.forall_mem_append, List.forall_mem_cons, ih, writeString_graphic,
              List.forall_mem_cons (l := u :: us)]
            exact and_congr_right fun _ => and_iff_right comma
  have open_ : 0x21 ≤ ('[' : Char).val.toNat ∧ ('[' : Char).val.toNat ≤ 0x7E := by decide
  have close : 0x21 ≤ (']' : Char).val.toNat ∧ (']' : Char).val.toNat ≤ 0x7E := by decide
  rw [writeTexts, Value.write, List.cons_append, List.forall_mem_cons, List.forall_mem_append,
    List.forall_mem_singleton, between]
  exact ⟨fun h => h.2.1, fun h => ⟨open_, h, close⟩⟩

end Python
