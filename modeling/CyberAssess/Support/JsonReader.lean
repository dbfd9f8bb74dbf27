import CyberAssess.Support.JsonValues

/-!
# Support — reading JSON, with hooks

`json.loads` with `parse_float` and `object_pairs_hook`: what a `Reader` makes of a number and of the
pairs of an object.

* `readValue` reads a value with them; `readValue_plain`: without hooks it is `scanValue`.
* `IsFloatText` is what a float is written as; `scanAtom_float`: it is read as it is.
* `readValue_write`: a value that `Reads` is read back from what was written, whatever follows.
  `loadsWith_write` is the round trip of a whole text.
* `loads_write` is the round trip of a `Plain` value, `loads_writeTexts` of a list of strings.
-/

namespace Python

/-! ### Reading with hooks -/

/-- What `json.loads` makes of a number and of the pairs of an object. -/
structure Reader where
  number : Value → Value
  object : List (Points × Value) → Option Value

mutual

/-- One value, and what follows it. -/
def readValue (h : Reader) : Nat → List Char → Option (Value × List Char)
  | 0, _ => none
  | _ + 1, [] => none
  | fuel + 1, c :: cs =>
      if c = '"' then (scanString cs).map fun r => (.str r.1, r.2)
      else if c = '[' then
        match skipSpace cs with
        | ']' :: rest => some (.arr [], rest)
        | rest => (readItems h fuel rest).map fun r => (.arr r.1, r.2)
      else if c = '\x7b' then
        match skipSpace cs with
        | '\x7d' :: rest => (h.object []).map fun v => (v, rest)
        | rest => (readMembers h fuel rest).bind fun r => (h.object r.1).map fun v => (v, r.2)
      else (scanAtom (c :: cs)).map fun r => (h.number r.1, r.2)

/-- The items up to the closing bracket. -/
def readItems (h : Reader) : Nat → List Char → Option (List Value × List Char)
  | 0, _ => none
  | fuel + 1, cs =>
      (readValue h fuel cs).bind fun v =>
        match skipSpace v.2 with
        | ']' :: rest => some ([v.1], rest)
        | ',' :: rest => (readItems h fuel (skipSpace rest)).map fun r => (v.1 :: r.1, r.2)
        | _ => none

/-- The members up to the closing brace. -/
def readMembers (h : Reader) : Nat → List Char → Option (List (Points × Value) × List Char)
  | fuel + 1, '"' :: cs =>
      (scanString cs).bind fun k =>
        match skipSpace k.2 with
        | ':' :: rest =>
            (readValue h fuel (skipSpace rest)).bind fun v =>
              match skipSpace v.2 with
              | '\x7d' :: rest => some ([(k.1, v.1)], rest)
              | ',' :: rest =>
                  (readMembers h fuel (skipSpace rest)).map fun r => ((k.1, v.1) :: r.1, r.2)
              | _ => none
        | _ => none
  | _, _ => none

end

/-- `json.loads` with hooks. -/
def loadsWith (h : Reader) (cs : List Char) : Option Value :=
  match readValue h (2 * cs.length) (skipSpace cs) with
  | some (v, rest) => if (skipSpace rest).isEmpty then some v else none
  | none => none

/-- `json.loads` without: a float keeps its text, and of two values under one key the last stays. -/
def Reader.plain : Reader where
  number := id
  object members := some (.obj (dictOf members))

mutual

theorem readValue_plain : ∀ (fuel : Nat) (cs : List Char), readValue .plain fuel cs = scanValue fuel cs
  | 0, _ => rfl
  | _ + 1, [] => rfl
  | fuel + 1, c :: cs => by
      have atom : ((scanAtom (c :: cs)).map fun r => (Reader.plain.number r.1, r.2)) =
          scanAtom (c :: cs) := Option.map_id'
      have object (rest : List Char) :
          ((scanMembers fuel rest).bind fun r => (Reader.plain.object r.1).map fun v => (v, r.2)) =
            (scanMembers fuel rest).map fun r => (.obj (dictOf r.1), r.2) := by
        cases scanMembers fuel rest <;> rfl
      rw [readValue, atom]
      simp only [readItems_plain fuel, readMembers_plain fuel, object]
      rfl

theorem readItems_plain : ∀ (fuel : Nat) (cs : List Char), readItems .plain fuel cs = scanItems fuel cs
  | 0, _ => rfl
  | fuel + 1, cs => by
      rw [readItems]
      simp only [readValue_plain fuel, readItems_plain fuel]
      rfl

theorem readMembers_plain : ∀ (fuel : Nat) (cs : List Char),
    readMembers .plain fuel cs = scanMembers fuel cs
  | 0, _ => rfl
  | fuel + 1, [] => rfl
  | fuel + 1, c :: cs => by
      by_cases quote : c = '"'
      · subst quote
        rw [readMembers]
        simp only [readValue_plain fuel, readMembers_plain fuel]
        rfl
      · have read : readMembers .plain (fuel + 1) (c :: cs) = none := by
          rw [readMembers]
          intro _ _ _ same
          exact absurd (List.cons.inj same).1 quote
        have scan : scanMembers (fuel + 1) (c :: cs) = none := by
          rw [scanMembers]
          intro _ _ _ same
          exact absurd (List.cons.inj same).1 quote
        rw [read, scan]

end

theorem loadsWith_plain (cs : List Char) : loadsWith .plain cs = loads cs := by
  rw [loadsWith, readValue_plain]
  rfl

/-! ### The text of a float -/

/-- `\.[0-9]+`, or nothing. -/
def IsFraction (cs : List Char) : Prop :=
  cs = [] ∨ ∃ d ds, cs = '.' :: d :: ds ∧ ∀ c ∈ d :: ds, c.isDigit = true

/-- `[eE][-+]?[0-9]+`, or nothing. -/
def IsExponent (cs : List Char) : Prop :=
  cs = [] ∨ ∃ mark d ds, cs = mark ++ d :: ds ∧ (∀ c ∈ d :: ds, c.isDigit = true) ∧
    mark ∈ [['e'], ['E'], ['e', '+'], ['e', '-'], ['E', '+'], ['E', '-']]

/-- What a float is written as: a number with a fraction or an exponent. -/
def IsFloatText (cs : List Char) : Prop :=
  ∃ (negative : Bool) (n : Nat) (fraction exponent : List Char),
    cs = (if negative then ['-'] else []) ++ Nat.toDigits 10 n ++ fraction ++ exponent ∧
      IsFraction fraction ∧ IsExponent exponent ∧ (fraction ≠ [] ∨ exponent ≠ [])

theorem scanFraction_of {fraction rest : List Char} (h : IsFraction fraction)
    (stop : ∀ c ∈ rest.head?, c.isDigit = false ∧ c ≠ '.') :
    scanFraction (fraction ++ rest) = (fraction, rest) := by
  rcases h with rfl | ⟨d, ds, rfl, digits⟩
  · exact scanFraction_none fun c hc => (stop c hc).2
  · have span := spanDigits_append (fun c hc => digits c (List.mem_cons_of_mem d hc))
      fun c hc => (stop c hc).1
    rw [List.cons_append, List.cons_append, scanFraction, if_pos (digits d List.mem_cons_self), span]

theorem scanExponent_of {exponent rest : List Char} (h : IsExponent exponent) (stop : Stops rest) :
    scanExponent (exponent ++ rest) = (exponent, rest) := by
  rcases h with rfl | ⟨mark, d, ds, rfl, digits, marked⟩
  · exact scanExponent_none fun c hc => (stop c hc).2.2
  · have span := spanDigits_append (fun c hc => digits c (List.mem_cons_of_mem d hc))
      fun c hc => (stop c hc).1
    have power (front whole : List Char) :
        scanPower front whole (d :: (ds ++ rest)) = (front ++ d :: ds, rest) := by
      rw [scanPower, if_pos (digits d List.mem_cons_self), span]
    have sign : d ≠ '+' ∧ d ≠ '-' := by
      constructor <;> (rintro rfl; exact absurd (digits _ List.mem_cons_self) (by decide))
    simp only [List.mem_cons, List.not_mem_nil, or_false] at marked
    rcases marked with rfl | rfl | rfl | rfl | rfl | rfl <;>
      simp [scanExponent, sign, power]

/-- What follows the digits of a float goes on with no digit. -/
theorem fraction_head {fraction exponent rest : List Char} (hf : IsFraction fraction)
    (he : IsExponent exponent) (stop : Stops rest) :
    (∀ c ∈ (fraction ++ (exponent ++ rest)).head?, c.isDigit = false) ∧
      ∀ c ∈ (exponent ++ rest).head?, c.isDigit = false ∧ c ≠ '.' := by
  have power : ∀ c ∈ (exponent ++ rest).head?, c.isDigit = false ∧ c ≠ '.' := by
    rcases he with rfl | ⟨mark, d, ds, rfl, -, marked⟩
    · exact fun c hc => ⟨(stop c hc).1, (stop c hc).2.1⟩
    · simp only [List.mem_cons, List.not_mem_nil, or_false] at marked
      rcases marked with rfl | rfl | rfl | rfl | rfl | rfl <;>
        (rintro c ⟨⟩; exact ⟨by decide, by decide⟩)
  refine ⟨?_, power⟩
  rcases hf with rfl | ⟨d, ds, rfl, -⟩
  · exact fun c hc => (power c hc).1
  · rintro c ⟨⟩
    decide

/-- The text of a float is read as it is. -/
theorem scanAtom_float {t rest : List Char} (h : IsFloatText t) (stop : Stops rest) :
    scanAtom (t ++ rest) = some (.float t, rest) := by
  obtain ⟨negative, n, fraction, exponent, rfl, hf, he, full⟩ := h
  obtain ⟨after, power⟩ := fraction_head hf he stop
  have whole := scanWhole_digits n after
  have parts : (fraction.isEmpty && exponent.isEmpty) = false := by
    rw [Bool.and_eq_false_iff, List.isEmpty_eq_false_iff, List.isEmpty_eq_false_iff]
    exact full
  have number (negative : Bool) :
      scanUnsigned negative (Nat.toDigits 10 n ++ (fraction ++ (exponent ++ rest))) =
        some (.float ((if negative then ['-'] else []) ++ Nat.toDigits 10 n ++ fraction ++ exponent),
          rest) := by
    simp only [scanUnsigned, whole, scanFraction_of hf power, scanExponent_of he stop, numberOf, parts,
      Option.bind_eq_bind, Option.bind_some, Bool.false_eq_true, if_false, Option.pure_def]
  obtain ⟨c, cs, text, digit⟩ : ∃ c cs, Nat.toDigits 10 n = c :: cs ∧ c.isDigit = true := by
    cases text : Nat.toDigits 10 n with
    | nil => exact absurd text Nat.toDigits_ne_nil
    | cons c cs => exact ⟨c, cs, rfl, isDigit_toDigits n c (text ▸ List.mem_cons_self)⟩
  have signed := number negative
  rw [text] at signed ⊢
  cases negative with
  | false =>
      simp only [Bool.false_eq_true, if_false, List.nil_append, List.append_assoc,
        List.cons_append] at signed ⊢
      rw [scanAtom_digit digit, signed]
  | true =>
      simp only [if_true, List.cons_append, List.nil_append, List.append_assoc] at signed ⊢
      rw [scanAtom_minus digit, signed]

theorem floatText_head {t : List Char} (h : IsFloatText t) :
    ∃ c cs, t = c :: cs ∧ (c.isDigit = true ∨ c = '-') := by
  obtain ⟨negative, n, fraction, exponent, rfl, -, -, -⟩ := h
  cases negative with
  | true => exact ⟨_, _, rfl, Or.inr rfl⟩
  | false =>
      cases text : Nat.toDigits 10 n with
      | nil => exact absurd text Nat.toDigits_ne_nil
      | cons c cs => exact ⟨c, _, rfl, Or.inl (isDigit_toDigits n c (text ▸ List.mem_cons_self))⟩

/-! ### Reading what was written -/

mutual

/-- What a reader reads back as it was: joined strings, numbers within the limit that it leaves as they
are, members in the order of their keys that it accepts. -/
def Value.Reads (h : Reader) : Value → Prop
  | .null => h.number .null = .null
  | .bool b => h.number (.bool b) = .bool b
  | .int n => (Nat.toDigits 10 n.natAbs).length ≤ 4300 ∧ h.number (.int n) = .int n
  | .float t => IsFloatText t ∧ h.number (.float t) = .float t
  | .str s => Joined s
  | .arr items => ReadsItems h items
  | .obj members => ReadsMembers h members ∧ (members.Pairwise fun p q => p.1 < q.1) ∧
      h.object members = some (.obj members)

/-- Every item reads. -/
def ReadsItems (h : Reader) : List Value → Prop
  | [] => True
  | v :: vs => v.Reads h ∧ ReadsItems h vs

/-- Every member reads, its key too. -/
def ReadsMembers (h : Reader) : List (Points × Value) → Prop
  | [] => True
  | (k, v) :: ms => Joined k ∧ v.Reads h ∧ ReadsMembers h ms

end

/-- Nothing written starts with white space or a closing bracket. -/
theorem write_head {h : Reader} {v : Value} (reads : v.Reads h) :
    ∃ c cs, v.write = c :: cs ∧ isJsonSpace c = false ∧ c ≠ ']' := by
  cases v with
  | null => exact ⟨_, _, rfl, by decide, by decide⟩
  | bool b => cases b <;> exact ⟨_, _, rfl, by decide, by decide⟩
  | int n =>
      cases text : writeInt n with
      | nil =>
          cases n with
          | ofNat m => exact absurd text Nat.toDigits_ne_nil
          | negSucc m => cases text
      | cons c cs =>
          have first := writeInt_head n c (by rw [text]; rfl)
          refine ⟨c, cs, text, ?_, ?_⟩
          · simp only [isJsonSpace, Bool.or_eq_false_iff, decide_eq_false_iff_not]
            refine ⟨⟨⟨?_, ?_⟩, ?_⟩, ?_⟩ <;> (rintro rfl; exact absurd first (by decide))
          · rintro rfl
            exact absurd first (by decide)
  | float t =>
      obtain ⟨c, cs, text, first⟩ := floatText_head reads.1
      refine ⟨c, cs, text, ?_, ?_⟩
      · simp only [isJsonSpace, Bool.or_eq_false_iff, decide_eq_false_iff_not]
        refine ⟨⟨⟨?_, ?_⟩, ?_⟩, ?_⟩ <;> (rintro rfl; exact absurd first (by decide))
      · rintro rfl
        exact absurd first (by decide)
  | str s => exact ⟨_, _, rfl, by decide, by decide⟩
  | arr items => exact ⟨_, _, rfl, by decide, by decide⟩
  | obj members => exact ⟨_, _, rfl, by decide, by decide⟩

theorem skipSpace_write {h : Reader} {v : Value} (reads : v.Reads h) (rest : List Char) :
    skipSpace (v.write ++ rest) = v.write ++ rest := by
  obtain ⟨c, cs, text, head, -⟩ := write_head reads
  rw [text, List.cons_append, skipSpace_cons head]

theorem skipSpace_commas {h : Reader} {v : Value} (reads : v.Reads h) (vs : List Value) (rest : List Char) :
    skipSpace (commas (writeItems (v :: vs)) ++ rest) = commas (writeItems (v :: vs)) ++ rest := by
  cases vs with
  | nil => exact skipSpace_write reads rest
  | cons w ws =>
      simp only [writeItems, commas, List.append_assoc, List.cons_append]
      exact skipSpace_write reads _

mutual

/-- A value that reads is read back from its text, whatever follows that no number goes on with. -/
theorem readValue_write (h : Reader) : ∀ (v : Value), v.Reads h → ∀ (fuel : Nat) (rest : List Char), Stops rest →
    2 * v.write.length ≤ fuel → readValue h fuel (v.write ++ rest) = some (v, rest)
  | .null, reads, fuel + 1, rest, _, _ => congrArg (fun v => some (v, rest)) reads
  | .bool true, reads, fuel + 1, rest, _, _ => congrArg (fun v => some (v, rest)) reads
  | .bool false, reads, fuel + 1, rest, _, _ => congrArg (fun v => some (v, rest)) reads
  | .int n, reads, fuel + 1, rest, stop, _ => by
      obtain ⟨c, cs, text, -, -⟩ := write_head (v := .int n) reads
      have text : writeInt n = c :: cs := text
      have atom := scanAtom_writeInt stop reads.1
      rw [text] at atom
      have apart : c ≠ '"' ∧ c ≠ '[' ∧ c ≠ '\x7b' := by
        have first := writeInt_head n
        rw [text] at first
        refine ⟨?_, ?_, ?_⟩ <;> (rintro rfl; exact absurd (first _ rfl) (by decide))
      rw [Value.write, text, List.cons_append, readValue, if_neg apart.1, if_neg apart.2.1,
        if_neg apart.2.2, ← List.cons_append, atom, Option.map_some, reads.2]
  | .float t, reads, fuel + 1, rest, stop, _ => by
      obtain ⟨c, cs, text, first⟩ := floatText_head reads.1
      have atom := scanAtom_float reads.1 stop
      rw [text, List.cons_append] at atom
      have apart : c ≠ '"' ∧ c ≠ '[' ∧ c ≠ '\x7b' := by
        refine ⟨?_, ?_, ?_⟩ <;> (rintro rfl; exact absurd first (by decide))
      rw [Value.write, text, List.cons_append, readValue, if_neg apart.1, if_neg apart.2.1,
        if_neg apart.2.2, atom, Option.map_some, ← text, reads.2]
  | .str s, reads, fuel + 1, rest, _, _ => by
      have read := scanString_write s rest
      rw [joinPairs_of_joined reads] at read
      simp only [Value.write, writeString, List.cons_append, List.append_assoc, List.nil_append,
        readValue, if_true, read]
      rfl
  | .arr [], _, fuel + 1, rest, _, _ => rfl
  | .arr (v :: vs), reads, fuel + 1, rest, _, enough => by
      have read := readItems_write h v vs reads fuel rest (by
        simp only [Value.write, List.length_append, List.length_cons] at enough
        omega)
      obtain ⟨c, cs, text, head, open_⟩ := write_head reads.1
      have front : ∃ ds, commas (writeItems (v :: vs)) ++ ']' :: rest = c :: ds := by
        cases vs with
        | nil => exact ⟨cs ++ ']' :: rest, by simp [writeItems, commas, text]⟩
        | cons w ws =>
            exact ⟨cs ++ ',' :: (commas (writeItems (w :: ws)) ++ ']' :: rest), by
              simp [writeItems, commas, text]⟩
      obtain ⟨ds, front⟩ := front
      simp only [Value.write, List.cons_append, List.append_assoc, List.nil_append]
      rw [readValue, if_neg (by decide), if_pos rfl, skipSpace_commas reads.1, front]
      rw [front] at read
      split
      · rename_i same
        exact absurd (List.cons.inj same).1 open_
      · rw [read]
        rfl
  | .obj [], reads, fuel + 1, rest, _, _ => by
      have empty : (Value.obj []).write = ['\x7b', '\x7d'] := by
        simp [Value.write, writeMembers, sortMembers, commas]
      rw [empty]
      exact congrArg (fun o => o.map fun v => (v, rest)) reads.2.2
  | .obj ((k, v) :: ms), reads, fuel + 1, rest, _, enough => by
      rw [Value.write, sortMembers_writeMembers reads.2.1] at enough ⊢
      have read := readMembers_write h k v ms reads.1 fuel rest (by
        simp only [List.length_append, List.length_cons] at enough
        omega)
      obtain ⟨ds, front⟩ := writeMembers_front k v ms ('\x7d' :: rest)
      simp only [List.cons_append, List.append_assoc, List.nil_append]
      rw [readValue, if_neg (by decide), if_neg (by decide), if_pos rfl, front,
        skipSpace_cons (by decide)]
      rw [front] at read
      split
      · rename_i same
        exact absurd (List.cons.inj same).1 (by decide)
      · rw [read, Option.bind_some, reads.2.2, Option.map_some]
  | v, reads, 0, rest, _, enough => by
      obtain ⟨c, cs, text, -, -⟩ := write_head reads
      rw [text, List.length_cons] at enough
      omega

/-- Items that read are read back up to the closing bracket. -/
theorem readItems_write (h : Reader) : ∀ (v : Value) (vs : List Value), ReadsItems h (v :: vs) →
    ∀ (fuel : Nat) (rest : List Char), 2 * (commas (writeItems (v :: vs))).length + 1 ≤ fuel →
      readItems h fuel (commas (writeItems (v :: vs)) ++ ']' :: rest) = some (v :: vs, rest)
  | v, [], reads, fuel + 1, rest, enough => by
      have read := readValue_write h v reads.1 fuel (']' :: rest) (stops_cons (by decide) rest) (by
        simp only [writeItems, commas] at enough
        omega)
      simp only [writeItems, commas]
      rw [readItems, read, Option.bind_some, skipSpace_cons (by decide)]
      rfl
  | v, w :: ws, reads, fuel + 1, rest, enough => by
      have sizes : (commas (writeItems (v :: w :: ws))).length =
          v.write.length + 1 + (commas (writeItems (w :: ws))).length := by
        simp only [writeItems, commas, List.length_append, List.length_cons]
        omega
      have first := readValue_write h v reads.1 fuel
        (',' :: (commas (writeItems (w :: ws)) ++ ']' :: rest)) (stops_cons (by decide) _) (by omega)
      have others := readItems_write h w ws reads.2 fuel rest (by omega)
      have text : commas (writeItems (v :: w :: ws)) ++ ']' :: rest =
          v.write ++ ',' :: (commas (writeItems (w :: ws)) ++ ']' :: rest) := by
        simp [writeItems, commas]
      rw [text, readItems, first, Option.bind_some, skipSpace_cons (by decide)]
      simp only [skipSpace_commas reads.2.1, others, Option.map_some]

/-- Members that read are read back up to the closing brace. -/
theorem readMembers_write (h : Reader) : ∀ (k : Points) (v : Value) (ms : List (Points × Value)),
    ReadsMembers h ((k, v) :: ms) → ∀ (fuel : Nat) (rest : List Char),
      2 * (commas ((writeMembers ((k, v) :: ms)).map writeMember)).length + 1 ≤ fuel →
        readMembers h fuel (commas ((writeMembers ((k, v) :: ms)).map writeMember) ++ '\x7d' :: rest) =
          some ((k, v) :: ms, rest)
  | k, v, [], reads, fuel + 1, rest, enough => by
      have size := congrArg List.length (writeMembers_single k v [])
      simp only [List.append_nil, List.length_cons, List.length_append] at size
      have key := scanString_write k (':' :: (v.write ++ '\x7d' :: rest))
      rw [joinPairs_of_joined reads.1] at key
      have value := readValue_write h v reads.2.1 fuel ('\x7d' :: rest)
        (stops_cons (by decide) rest) (by omega)
      rw [writeMembers_single, readMembers, key, Option.bind_some, skipSpace_cons (by decide)]
      simp only [skipSpace_write reads.2.1, value, Option.bind_some]
      rw [skipSpace_cons (by decide)]
      rfl
  | k, v, (l, w) :: ms, reads, fuel + 1, rest, enough => by
      have size := congrArg List.length (writeMembers_more k l v w ms [])
      simp only [List.append_nil, List.length_cons, List.length_append] at size
      have key := scanString_write k (':' :: (v.write ++ ',' ::
        (commas ((writeMembers ((l, w) :: ms)).map writeMember) ++ '\x7d' :: rest)))
      rw [joinPairs_of_joined reads.1] at key
      have value := readValue_write h v reads.2.1 fuel
        (',' :: (commas ((writeMembers ((l, w) :: ms)).map writeMember) ++ '\x7d' :: rest))
        (stops_cons (by decide) _) (by omega)
      have others := readMembers_write h l w ms reads.2.2 fuel rest (by omega)
      obtain ⟨cs, front⟩ := writeMembers_front l w ms ('\x7d' :: rest)
      rw [writeMembers_more, readMembers, key, Option.bind_some, skipSpace_cons (by decide)]
      simp only [skipSpace_write reads.2.1, value, Option.bind_some]
      rw [skipSpace_cons (by decide)]
      simp only [front, skipSpace_cons (c := '"') (by decide)]
      rw [← front, others]
      rfl

end

/-- The text of a value that reads is read back. -/
theorem loadsWith_write {h : Reader} {v : Value} (reads : v.Reads h) : loadsWith h v.write = some v := by
  have read := readValue_write h v reads (2 * v.write.length) [] (by rintro c ⟨⟩) (Nat.le_refl _)
  have front := skipSpace_write reads []
  rw [List.append_nil] at read front
  rw [loadsWith, front, read]
  rfl

/-! ### Without hooks -/

mutual

/-- What is read back as it was: joined strings, integers within the limit, members in the order of
their keys, and no float. -/
def Value.Plain : Value → Prop
  | .null | .bool _ => True
  | .int n => (Nat.toDigits 10 n.natAbs).length ≤ 4300
  | .float _ => False
  | .str s => Joined s
  | .arr items => PlainItems items
  | .obj members => PlainMembers members ∧ members.Pairwise fun p q => p.1 < q.1

/-- Every item is plain. -/
def PlainItems : List Value → Prop
  | [] => True
  | v :: vs => v.Plain ∧ PlainItems vs

/-- Every member is plain, its key too. -/
def PlainMembers : List (Points × Value) → Prop
  | [] => True
  | (k, v) :: ms => Joined k ∧ v.Plain ∧ PlainMembers ms

end

/-- Keys in order are distinct, so the members make the dictionary they are. -/
theorem dictOf_of_sorted {members : List (Points × Value)}
    (sorted : members.Pairwise fun p q => p.1 < q.1) : dictOf members = members := by
  have append {d : List (Points × Value)} {k : Points} {v : Value} (new : ∀ m ∈ d, m.1 ≠ k) :
      setMember k v d = d ++ [(k, v)] := by
    induction d with
    | nil => rfl
    | cons m ms ih =>
        rw [setMember, if_neg (new m List.mem_cons_self),
          ih fun m hm => new m (List.mem_cons_of_mem _ hm)]
        rfl
  have fold (ms d : List (Points × Value)) (whole : (d ++ ms).Pairwise fun p q => p.1 < q.1) :
      ms.foldl (fun d m => setMember m.1 m.2 d) d = d ++ ms := by
    induction ms generalizing d with
    | nil => simp
    | cons m ms ih =>
        have before : ∀ x ∈ d, x.1 ≠ m.1 := by
          intro x hx same
          have less := (List.pairwise_append.mp whole).2.2 x hx m List.mem_cons_self
          rw [same] at less
          exact lt_irrefl _ less
        rw [List.foldl_cons, append before, ih (d ++ [m]) (by simpa using whole),
          List.append_assoc]
        rfl
  simpa [dictOf] using fold members [] (by simpa using sorted)

mutual

/-- A plain value reads without hooks. -/
theorem Value.Plain.reads : ∀ {v : Value}, v.Plain → v.Reads .plain
  | .null, _ | .bool _, _ => rfl
  | .int _, plain => ⟨plain, rfl⟩
  | .float _, plain => plain.elim
  | .str _, plain => plain
  | .arr _, plain => PlainItems.reads plain
  | .obj _, plain =>
      ⟨PlainMembers.reads plain.1, plain.2,
        congrArg (fun ms => some (Value.obj ms)) (dictOf_of_sorted plain.2)⟩

theorem PlainItems.reads : ∀ {vs : List Value}, PlainItems vs → ReadsItems .plain vs
  | [], _ => trivial
  | _ :: _, ⟨first, rest⟩ => ⟨first.reads, PlainItems.reads rest⟩

theorem PlainMembers.reads : ∀ {ms : List (Points × Value)}, PlainMembers ms → ReadsMembers .plain ms
  | [], _ => trivial
  | (_, _) :: _, ⟨key, first, rest⟩ => ⟨key, first.reads, PlainMembers.reads rest⟩

end

/-- The text of a plain value is read back, whatever space is in front of it. -/
theorem loads_write_after {v : Value} (plain : v.Plain) (before : List Char)
    (spaces : ∀ c ∈ before, isJsonSpace c = true) : loads (before ++ v.write) = some v := by
  have fuel : 2 * v.write.length ≤ 2 * (before ++ v.write).length := by
    rw [List.length_append]
    omega
  have read := readValue_write .plain v plain.reads (2 * (before ++ v.write).length) []
    (by rintro c ⟨⟩) fuel
  have front := skipSpace_write plain.reads []
  rw [List.append_nil, readValue_plain] at read
  rw [List.append_nil] at front
  have dropped : skipSpace (before ++ v.write) = v.write := by
    rw [skipSpace, List.dropWhile_append_of_pos spaces]
    exact front
  rw [loads, dropped, read]
  rfl

/-- The text of a plain value is read back. -/
theorem loads_write {v : Value} (plain : v.Plain) : loads v.write = some v :=
  loads_write_after plain [] (by simp)

theorem plainItems_of_joined {texts : List Points} (joined : ∀ t ∈ texts, Joined t) :
    PlainItems (texts.map .str) := by
  induction texts with
  | nil => trivial
  | cons t ts ih =>
      exact ⟨joined t List.mem_cons_self, ih fun u hu => joined u (List.mem_cons_of_mem _ hu)⟩

/-- The text of a list of joined strings is read back. -/
theorem loads_writeTexts {texts : List Points} (joined : ∀ t ∈ texts, Joined t) :
    loads (writeTexts texts) = some (.arr (texts.map .str)) :=
  loads_write (plainItems_of_joined joined)

end Python
