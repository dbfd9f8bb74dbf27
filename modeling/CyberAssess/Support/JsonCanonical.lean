import Mathlib.Data.List.Nodup
import Mathlib.Data.String.Basic
import CyberAssess.Support.Json
import CyberAssess.Support.JsonReader

/-!
# Support — canonical JSON values

A value is written in the order of its keys, whatever their order in it is.

* `Value.canonical` is a value with its members in order, at every depth; `write_canonical`: it is
  written as the value is.
* `Value.Readable` is a value whose text reads as its canonical form (`loads_write_canonical`).
* `Value.Whole` is one that a `dict` can hold without two surrogates that stand for one character.
* `Value.joined` has every surrogate pair made one code point; `loads_write_joined`: the text of any
  value reads as what it is then.
* `write_inj`: two readable values with one text have one canonical form.
* `text_toList`: the canonical text of a `Json` is that of a value.

`[about ours]`: a `dict` has no order, so a value and its canonical form stand for the same.
-/

namespace Python

/-! ### Sorting members -/

section
variable {α β : Type} {ms : List (Points × α)}

theorem sortMembers_perm (ms : List (Points × α)) : (sortMembers ms).Perm ms :=
  List.mergeSort_perm ms _

theorem sortMembers_map (f : α → β) (ms : List (Points × α)) :
    sortMembers (ms.map fun m => (m.1, f m.2)) = (sortMembers ms).map fun m => (m.1, f m.2) :=
  (List.map_mergeSort (f := fun m : Points × α => (m.1, f m.2)) fun _ _ _ _ => rfl).symm

theorem pairwise_sortMembers (ms : List (Points × α)) :
    (sortMembers ms).Pairwise fun p q => p.1 ≤ q.1 := by
  have transitive (p q r : Points × α) (h : decide (p.1 ≤ q.1) = true)
      (k : decide (q.1 ≤ r.1) = true) : decide (p.1 ≤ r.1) = true :=
    decide_eq_true (le_trans (of_decide_eq_true h) (of_decide_eq_true k))
  have total (p q : Points × α) : (decide (p.1 ≤ q.1) || decide (q.1 ≤ p.1)) = true := by
    rw [Bool.or_eq_true, decide_eq_true_eq, decide_eq_true_eq]
    exact le_total p.1 q.1
  exact (List.pairwise_mergeSort transitive total ms).imp fun h => of_decide_eq_true h

theorem sortMembers_of_pairwise (sorted : ms.Pairwise fun p q => p.1 ≤ q.1) : sortMembers ms = ms :=
  List.mergeSort_of_pairwise (sorted.imp fun h => decide_eq_true h)

theorem sortMembers_sortMembers (ms : List (Points × α)) :
    sortMembers (sortMembers ms) = sortMembers ms :=
  sortMembers_of_pairwise (pairwise_sortMembers ms)

/-- Members of which no two share a key are sorted one way. -/
theorem sortMembers_congr {ns : List (Points × α)} (perm : ms.Perm ns)
    (distinct : (ms.map (·.1)).Nodup) : sortMembers ms = sortMembers ns := by
  have same := (sortMembers_perm ms).trans (perm.trans (sortMembers_perm ns).symm)
  refine same.eq_of_pairwise ?_ (pairwise_sortMembers ms) (pairwise_sortMembers ns)
  intro p q hp hq le ge
  refine List.inj_on_of_nodup_map distinct ((sortMembers_perm ms).mem_iff.mp hp) ?_
    (le_antisymm le ge)
  exact perm.mem_iff.mpr ((sortMembers_perm ns).mem_iff.mp hq)

/-- Where no two members share a key, the keys go up. -/
theorem sortMembers_increasing (distinct : (ms.map (·.1)).Nodup) :
    (sortMembers ms).Pairwise fun p q => p.1 < q.1 := by
  have keys : ((sortMembers ms).map (·.1)).Nodup := ((sortMembers_perm ms).map _).nodup_iff.mpr distinct
  have apart : (sortMembers ms).Pairwise fun p q => p.1 ≠ q.1 := List.pairwise_map.mp keys
  refine ((pairwise_sortMembers ms).and apart).imp ?_
  rintro p q ⟨le, ne⟩
  by_contra less
  exact ne (le_antisymm le (not_lt.mp less))

end

/-! ### The canonical form -/

theorem writeItems_eq (vs : List Value) : writeItems vs = vs.map (·.write) := by
  induction vs with
  | nil => rfl
  | cons v vs ih => rw [writeItems, ih, List.map_cons]

theorem writeMembers_eq (ms : List (Points × Value)) :
    writeMembers ms = ms.map fun m => (m.1, m.2.write) := by
  induction ms with
  | nil => rfl
  | cons m ms ih => rw [writeMembers, ih, List.map_cons]

mutual

/-- The value with its members in the order of their keys. -/
def Value.canonical : Value → Value
  | .arr items => .arr (canonicalItems items)
  | .obj members => .obj (sortMembers (canonicalMembers members))
  | v => v

/-- Every item in canonical form. -/
def canonicalItems : List Value → List Value
  | [] => []
  | v :: vs => v.canonical :: canonicalItems vs

/-- Every member in canonical form. -/
def canonicalMembers : List (Points × Value) → List (Points × Value)
  | [] => []
  | (k, v) :: ms => (k, v.canonical) :: canonicalMembers ms

end

theorem canonicalMembers_eq (ms : List (Points × Value)) :
    canonicalMembers ms = ms.map fun m => (m.1, m.2.canonical) := by
  induction ms with
  | nil => rfl
  | cons m ms ih => rw [canonicalMembers, ih, List.map_cons]

theorem map_fst_canonicalMembers (ms : List (Points × Value)) :
    (canonicalMembers ms).map (·.1) = ms.map (·.1) := by
  rw [canonicalMembers_eq, List.map_map]
  rfl

mutual

/-- A value is written as its canonical form is. -/
theorem write_canonical : ∀ v : Value, v.canonical.write = v.write
  | .null | .bool _ | .int _ | .float _ | .str _ => rfl
  | .arr items => by
      rw [Value.canonical, Value.write, Value.write, writeItems_canonical items]
  | .obj members => by
      rw [Value.canonical, Value.write, Value.write, writeMembers_eq, ← sortMembers_map,
        sortMembers_sortMembers, ← writeMembers_eq, writeMembers_canonical members]

theorem writeItems_canonical : ∀ vs : List Value, writeItems (canonicalItems vs) = writeItems vs
  | [] => rfl
  | v :: vs => by
      rw [canonicalItems, writeItems, writeItems, write_canonical v, writeItems_canonical vs]

theorem writeMembers_canonical : ∀ ms : List (Points × Value),
    writeMembers (canonicalMembers ms) = writeMembers ms
  | [] => rfl
  | (k, v) :: ms => by
      rw [canonicalMembers, writeMembers, writeMembers, write_canonical v, writeMembers_canonical ms]

end

mutual

theorem canonical_canonical : ∀ v : Value, v.canonical.canonical = v.canonical
  | .null | .bool _ | .int _ | .float _ | .str _ => rfl
  | .arr items => by
      rw [Value.canonical, Value.canonical, canonicalItems_canonical items]
  | .obj members => by
      have each := canonicalMembers_canonical members
      rw [Value.canonical, Value.canonical, canonicalMembers_eq, ← sortMembers_map,
        sortMembers_sortMembers, ← canonicalMembers_eq, each]

theorem canonicalItems_canonical : ∀ vs : List Value,
    canonicalItems (canonicalItems vs) = canonicalItems vs
  | [] => rfl
  | v :: vs => by
      rw [canonicalItems, canonicalItems, canonical_canonical v, canonicalItems_canonical vs]

theorem canonicalMembers_canonical : ∀ ms : List (Points × Value),
    canonicalMembers (canonicalMembers ms) = canonicalMembers ms
  | [] => rfl
  | (k, v) :: ms => by
      rw [canonicalMembers, canonicalMembers, canonical_canonical v, canonicalMembers_canonical ms]

end

/-! ### Reading back -/

mutual

/-- What is read back in canonical form: joined strings, integers within the limit, members of which
no two share a key, and no float. -/
def Value.Readable : Value → Prop
  | .null | .bool _ => True
  | .int n => (Nat.toDigits 10 n.natAbs).length ≤ 4300
  | .float _ => False
  | .str s => Joined s
  | .arr items => ReadableItems items
  | .obj members => ReadableMembers members ∧ (members.map (·.1)).Nodup

/-- Every item is readable. -/
def ReadableItems : List Value → Prop
  | [] => True
  | v :: vs => v.Readable ∧ ReadableItems vs

/-- Every member is readable, its key too. -/
def ReadableMembers : List (Points × Value) → Prop
  | [] => True
  | (k, v) :: ms => Joined k ∧ v.Readable ∧ ReadableMembers ms

end

theorem readableItems_iff {vs : List Value} : ReadableItems vs ↔ ∀ v ∈ vs, v.Readable := by
  induction vs with
  | nil => simp [ReadableItems]
  | cons v vs ih => rw [ReadableItems, ih, List.forall_mem_cons]

theorem readableMembers_iff {ms : List (Points × Value)} :
    ReadableMembers ms ↔ ∀ m ∈ ms, Joined m.1 ∧ m.2.Readable := by
  induction ms with
  | nil => simp [ReadableMembers]
  | cons m ms ih => rw [ReadableMembers, ih, List.forall_mem_cons, and_assoc]

theorem plainMembers_iff {ms : List (Points × Value)} :
    PlainMembers ms ↔ ∀ m ∈ ms, Joined m.1 ∧ m.2.Plain := by
  induction ms with
  | nil => simp [PlainMembers]
  | cons m ms ih => rw [PlainMembers, ih, List.forall_mem_cons, and_assoc]

mutual

/-- The canonical form of a readable value is plain. -/
theorem plain_canonical : ∀ {v : Value}, v.Readable → v.canonical.Plain
  | .null, _ | .bool _, _ => trivial
  | .int _, h | .str _, h => h
  | .arr items, h => plainItems_canonical h
  | .obj members, ⟨h, distinct⟩ => by
      have plain : ∀ m ∈ canonicalMembers members, Joined m.1 ∧ m.2.Plain :=
        plainMembers_iff.mp (plainMembers_canonical h)
      rw [Value.canonical, Value.Plain, plainMembers_iff]
      constructor
      · intro m hm
        exact plain m ((sortMembers_perm _).mem_iff.mp hm)
      · refine sortMembers_increasing ?_
        rw [map_fst_canonicalMembers]
        exact distinct

theorem plainItems_canonical : ∀ {vs : List Value}, ReadableItems vs → PlainItems (canonicalItems vs)
  | [], _ => trivial
  | _ :: _, ⟨first, rest⟩ => ⟨plain_canonical first, plainItems_canonical rest⟩

theorem plainMembers_canonical : ∀ {ms : List (Points × Value)}, ReadableMembers ms →
    PlainMembers (canonicalMembers ms)
  | [], _ => trivial
  | (_, _) :: _, ⟨key, first, rest⟩ => ⟨key, plain_canonical first, plainMembers_canonical rest⟩

end

/-- The text of a readable value reads as its canonical form. -/
theorem loads_write_canonical {v : Value} (readable : v.Readable) :
    loads v.write = some v.canonical := by
  rw [← write_canonical]
  exact loads_write (plain_canonical readable)

/-! ### What is written at all -/

mutual

/-- No integer is beyond the digits that are converted. -/
def Value.isWritable : Value → Bool
  | .null | .bool _ | .float _ | .str _ => true
  | .int n => (Nat.toDigits 10 n.natAbs).length ≤ 4300
  | .arr items => writableItems items
  | .obj members => writableMembers members

/-- Every item is writable. -/
def writableItems : List Value → Bool
  | [] => true
  | v :: vs => v.isWritable && writableItems vs

/-- Every member is writable. -/
def writableMembers : List (Points × Value) → Bool
  | [] => true
  | (_, v) :: ms => v.isWritable && writableMembers ms

end

/-- `json.dumps(…)`, or that it raises. -/
def dumps (v : Value) : Option (List Char) := if v.isWritable then some v.write else none

theorem dumps_some {v : Value} {text : List Char} :
    dumps v = some text ↔ v.isWritable = true ∧ v.write = text := by
  rw [dumps, Option.ite_none_right_eq_some, Option.some.injEq]

theorem isWritable_arr {vs : List Value} :
    (Value.arr vs).isWritable = true ↔ ∀ v ∈ vs, v.isWritable = true := by
  rw [Value.isWritable]
  induction vs with
  | nil => simp [writableItems]
  | cons v vs ih => rw [writableItems, Bool.and_eq_true, ih, List.forall_mem_cons]

theorem isWritable_obj {ms : List (Points × Value)} :
    (Value.obj ms).isWritable = true ↔ ∀ m ∈ ms, m.2.isWritable = true := by
  rw [Value.isWritable]
  induction ms with
  | nil => simp [writableMembers]
  | cons m ms ih => rw [writableMembers, Bool.and_eq_true, ih, List.forall_mem_cons]

/-! ### Whole values -/

mutual

/-- Joined strings, and members of which no two share a key. -/
def Value.Whole : Value → Prop
  | .null | .bool _ | .int _ | .float _ => True
  | .str s => Joined s
  | .arr items => WholeItems items
  | .obj members => WholeMembers members ∧ (members.map (·.1)).Nodup

/-- Every item is whole. -/
def WholeItems : List Value → Prop
  | [] => True
  | v :: vs => v.Whole ∧ WholeItems vs

/-- Every member is whole, its key too. -/
def WholeMembers : List (Points × Value) → Prop
  | [] => True
  | (k, v) :: ms => Joined k ∧ v.Whole ∧ WholeMembers ms

end

theorem wholeMembers_iff {ms : List (Points × Value)} :
    WholeMembers ms ↔ ∀ m ∈ ms, Joined m.1 ∧ m.2.Whole := by
  induction ms with
  | nil => simp [WholeMembers]
  | cons m ms ih => rw [WholeMembers, ih, List.forall_mem_cons, and_assoc]

theorem readsMembers_iff {h : Reader} {ms : List (Points × Value)} :
    ReadsMembers h ms ↔ ∀ m ∈ ms, Joined m.1 ∧ m.2.Reads h := by
  induction ms with
  | nil => simp [ReadsMembers]
  | cons m ms ih => rw [ReadsMembers, ih, List.forall_mem_cons, and_assoc]

/-! ### Surrogate pairs -/

theorem writePoint_surrogate {p : CodePoint} (h : 0xD800 ≤ p.val) (h' : p.val ≤ 0xDFFF) :
    writePoint p = unicodeEscape p.val := by
  simp only [writePoint]
  rw [if_neg (by omega), if_neg (by omega), if_neg (by omega), if_neg (by omega), if_neg (by omega),
    if_neg (by omega), if_neg (by omega), if_neg (by omega), if_pos (by omega)]

/-- A surrogate pair is written as the code point it stands for. -/
theorem writePoint_pair {p q : CodePoint} (hp : isHigh p = true) (hq : isLow q = true) :
    writePoint (pairPoint p q) = writePoint p ++ writePoint q := by
  have pair := pairPoint_val hp hq
  simp only [isHigh, isLow, Bool.and_eq_true, decide_eq_true_eq] at hp hq
  have high : 0xD800 + ((pairPoint p q).val - 0x10000) / 1024 = p.val := by omega
  have low : 0xDC00 + ((pairPoint p q).val - 0x10000) % 1024 = q.val := by omega
  have first := writePoint_surrogate (p := p) (by omega) (by omega)
  have second := writePoint_surrogate (p := q) (by omega) (by omega)
  rw [first, second, ← high, ← low]
  simp only [writePoint]
  rw [if_neg (by omega), if_neg (by omega), if_neg (by omega), if_neg (by omega), if_neg (by omega),
    if_neg (by omega), if_neg (by omega), if_neg (by omega), if_neg (by omega)]

theorem flatMap_writePoint_consPoint (p : CodePoint) (ps : Points) :
    (consPoint p ps).flatMap writePoint = writePoint p ++ ps.flatMap writePoint := by
  cases ps with
  | nil => rfl
  | cons q qs =>
      rw [consPoint]
      by_cases pair : (isHigh p && isLow q) = true
      · obtain ⟨hp, hq⟩ := Bool.and_eq_true_iff.mp pair
        rw [if_pos pair, List.flatMap_cons, List.flatMap_cons, writePoint_pair hp hq, List.append_assoc]
      · rw [if_neg pair, List.flatMap_cons]

theorem writeString_joinPairs (ps : Points) : writeString (joinPairs ps) = writeString ps := by
  have points : (joinPairs ps).flatMap writePoint = ps.flatMap writePoint := by
    induction ps with
    | nil => rfl
    | cons p ps ih => rw [joinPairs, flatMap_writePoint_consPoint, ih, List.flatMap_cons]
  rw [writeString, writeString, points]

mutual

/-- The value with the surrogate pairs of its strings made one code point each; keys stay. -/
def Value.joined : Value → Value
  | .str s => .str (joinPairs s)
  | .arr items => .arr (joinedItems items)
  | .obj members => .obj (joinedMembers members)
  | v => v

/-- Every item joined. -/
def joinedItems : List Value → List Value
  | [] => []
  | v :: vs => v.joined :: joinedItems vs

/-- Every member joined. -/
def joinedMembers : List (Points × Value) → List (Points × Value)
  | [] => []
  | (k, v) :: ms => (k, v.joined) :: joinedMembers ms

end

mutual

/-- A value is written as it is joined. -/
theorem write_joined : ∀ v : Value, v.joined.write = v.write
  | .null | .bool _ | .int _ | .float _ => rfl
  | .str s => writeString_joinPairs s
  | .arr items => by rw [Value.joined, Value.write, Value.write, writeItems_joined items]
  | .obj members => by rw [Value.joined, Value.write, Value.write, writeMembers_joined members]

theorem writeItems_joined : ∀ vs : List Value, writeItems (joinedItems vs) = writeItems vs
  | [] => rfl
  | v :: vs => by rw [joinedItems, writeItems, writeItems, write_joined v, writeItems_joined vs]

theorem writeMembers_joined : ∀ ms : List (Points × Value),
    writeMembers (joinedMembers ms) = writeMembers ms
  | [] => rfl
  | (k, v) :: ms => by
      rw [joinedMembers, writeMembers, writeMembers, write_joined v, writeMembers_joined ms]

end

theorem joinedMembers_eq (ms : List (Points × Value)) :
    joinedMembers ms = ms.map fun m => (m.1, m.2.joined) := by
  induction ms with
  | nil => rfl
  | cons m ms ih => rw [joinedMembers, ih, List.map_cons]

theorem joinedItems_eq (vs : List Value) : joinedItems vs = vs.map (·.joined) := by
  induction vs with
  | nil => rfl
  | cons v vs ih => rw [joinedItems, ih, List.map_cons]

/-- The text of a value reads as what it is joined, in canonical form. -/
theorem loads_write_joined {v : Value} (readable : v.joined.Readable) :
    loads v.write = some v.joined.canonical := by
  rw [← write_joined]
  exact loads_write_canonical readable

/-- Readable values with one text have one canonical form. -/
theorem write_inj {v w : Value} (hv : v.Readable) (hw : w.Readable) (same : v.write = w.write) :
    v.canonical = w.canonical := by
  have read := loads_write_canonical hv
  rw [same, loads_write_canonical hw] at read
  exact (Option.some.inj read).symm

/-- Objects whose members are written alike are written alike, whatever the order of their members. -/
theorem write_obj_perm {ms ns : List (Points × Value)}
    (perm : (ms.map fun m => (m.1, m.2.write)).Perm (ns.map fun m => (m.1, m.2.write)))
    (distinct : (ms.map (·.1)).Nodup) : (Value.obj ms).write = (Value.obj ns).write := by
  have keys : ((ms.map fun m => (m.1, m.2.write)).map (·.1)).Nodup := by
    rw [List.map_map]
    exact distinct
  rw [Value.write, Value.write, writeMembers_eq, writeMembers_eq, sortMembers_congr perm keys]

/-- The members of objects with one canonical form are the same, each in canonical form. -/
theorem perm_of_canonical {ms ns : List (Points × Value)}
    (same : (Value.obj ms).canonical = (Value.obj ns).canonical) :
    (ms.map fun m => (m.1, m.2.canonical)).Perm (ns.map fun m => (m.1, m.2.canonical)) := by
  rw [Value.canonical, Value.canonical, Value.obj.injEq] at same
  rw [← canonicalMembers_eq, ← canonicalMembers_eq]
  exact (sortMembers_perm _).symm.trans (same ▸ sortMembers_perm _)

/-- Under one key, objects with one canonical form have one value, in canonical form. -/
theorem member_of_canonical {ms ns : List (Points × Value)} {key : Points} {v w : Value}
    (same : (Value.obj ms).canonical = (Value.obj ns).canonical) (distinct : (ns.map (·.1)).Nodup)
    (hv : (key, v) ∈ ms) (hw : (key, w) ∈ ns) : v.canonical = w.canonical := by
  have there := List.mem_map_of_mem (f := fun m => (m.1, Value.canonical m.2)) hv
  obtain ⟨n, hn, eq⟩ := List.mem_map.mp ((perm_of_canonical same).mem_iff.mp there)
  obtain ⟨keys, values⟩ := Prod.mk.inj eq
  rw [← values, List.inj_on_of_nodup_map distinct hn hw keys]

/-- The items of lists with one canonical form. -/
theorem canonicalItems_eq (vs : List Value) : canonicalItems vs = vs.map (·.canonical) := by
  induction vs with
  | nil => rfl
  | cons v vs ih => rw [canonicalItems, ih, List.map_cons]

/-! ### Values of trees -/

mutual

/-- The value a tree is; a number stays as it is written. -/
def Json.value : Json → Value
  | .null => .null
  | .bool b => .bool b
  | .num t => .float t.toList
  | .str s => .str (points s)
  | .arr items => .arr (valueItems items)
  | .obj members => .obj (valueMembers members)

/-- The values of the items. -/
def valueItems : List Json → List Value
  | [] => []
  | j :: js => j.value :: valueItems js

/-- The values of the members. -/
def valueMembers : List (String × Json) → List (Points × Value)
  | [] => []
  | (k, j) :: ms => (points k, j.value) :: valueMembers ms

end

theorem valueItems_eq (js : List Json) : valueItems js = js.map (·.value) := by
  induction js with
  | nil => rfl
  | cons j js ih => rw [valueItems, ih, List.map_cons]

theorem textItems_eq (js : List Json) : textItems js = js.map (·.text) := by
  induction js with
  | nil => rfl
  | cons j js ih => rw [textItems, ih, List.map_cons]

theorem valueMembers_eq (ms : List (String × Json)) :
    valueMembers ms = ms.map fun m => (points m.1, m.2.value) := by
  induction ms with
  | nil => rfl
  | cons m ms ih => rw [valueMembers, ih, List.map_cons]

/-- A character is written as its code point is. -/
theorem jsonChar_eq (c : Char) : jsonChar c = writePoint (point c) := by
  have quote : c = '"' ↔ c.val.toNat = 34 := by
    rw [← Char.val_inj, ← UInt32.toNat_inj]
    rfl
  have backslash : c = '\\' ↔ c.val.toNat = 92 := by
    rw [← Char.val_inj, ← UInt32.toNat_inj]
    rfl
  have self : Char.ofNat c.val.toNat = c := Char.ofNat_toNat c
  have code : (point c).val = c.val.toNat := rfl
  simp only [jsonChar, writePoint, code, quote, backslash, self, Bool.and_eq_true, decide_eq_true_eq]

theorem toList_jsonString (s : String) : (jsonString s).toList = writeString (points s) := by
  have chars : s.toList.flatMap jsonChar = (points s).flatMap writePoint := by
    rw [points, List.flatMap_map, funext jsonChar_eq]
  rw [jsonString, String.toList_ofList, writeString, chars]

theorem toList_intercalate (texts : List String) :
    (",".intercalate texts).toList = commas (texts.map (·.toList)) := by
  induction texts with
  | nil => simp [commas]
  | cons t ts ih =>
      cases ts with
      | nil => simp [commas]
      | cons u us =>
          rw [String.intercalate_cons_cons, String.toList_append, String.toList_append, ih]
          simp [commas]

theorem point_lt {c d : Char} : point c < point d ↔ c < d := by
  rw [Char.lt_def, UInt32.lt_iff_toNat_lt]
  rfl

theorem map_point_lt : ∀ {cs ds : List Char}, cs.map point < ds.map point ↔ cs < ds
  | _, [] => by simp
  | [], _ :: _ => by simp
  | c :: cs, d :: ds => by
      have same : point c = point d ↔ c = d := ⟨point_inj, congrArg point⟩
      rw [List.map_cons, List.map_cons, List.cons_lt_cons_iff, List.cons_lt_cons_iff, point_lt, same,
        map_point_lt]

/-- Texts are in the order of their code points. -/
theorem points_le {s t : String} : points s ≤ points t ↔ s ≤ t := by
  rw [String.le_iff_toList_le, ← not_lt, ← not_lt]
  exact not_congr map_point_lt

mutual

/-- The canonical text of a tree is the text of its value. -/
theorem text_toList : ∀ j : Json, j.text.toList = j.value.write
  | .null => rfl
  | .bool true | .bool false => rfl
  | .num t => rfl
  | .str s => toList_jsonString s
  | .arr items => by
      rw [Json.text, String.toList_append, String.toList_append, toList_intercalate,
        textItems_toList items]
      rfl
  | .obj members => by
      have sorted : (sortKeys (textMembers members)).map (fun m => (points m.1, m.2.toList)) =
          sortMembers (writeMembers (valueMembers members)) := by
        rw [← textMembers_toList members]
        exact List.map_mergeSort fun _ _ _ _ => decide_eq_decide.mpr points_le.symm
      have member (m : String × String) : (jsonString m.1 ++ ":" ++ m.2).toList =
          writeMember (points m.1, m.2.toList) := by
        rw [String.toList_append, String.toList_append, toList_jsonString, List.append_assoc]
        rfl
      rw [Json.text, String.toList_append, String.toList_append, toList_intercalate, List.map_map,
        Json.value, Value.write, ← sorted, List.map_map]
      simp only [Function.comp_def, member]
      rfl

theorem textItems_toList : ∀ js : List Json, (textItems js).map (·.toList) = writeItems (valueItems js)
  | [] => rfl
  | j :: js => by
      rw [textItems, valueItems, writeItems, List.map_cons, text_toList j, textItems_toList js]

theorem textMembers_toList : ∀ ms : List (String × Json),
    (textMembers ms).map (fun m => (points m.1, m.2.toList)) = writeMembers (valueMembers ms)
  | [] => rfl
  | (k, j) :: ms => by
      rw [textMembers, valueMembers, writeMembers, List.map_cons, text_toList j,
        textMembers_toList ms]

end

/-! ### Objects -/

/-- An object is readable where its members are and no two share a key. -/
theorem readable_obj {ms : List (String × Json)} (each : ∀ m ∈ ms, m.2.value.Readable)
    (distinct : (ms.map (·.1)).Nodup) : (Json.obj ms).value.Readable := by
  rw [Json.value, Value.Readable, valueMembers_eq, readableMembers_iff]
  constructor
  · intro m hm
    obtain ⟨n, hn, rfl⟩ := List.mem_map.mp hm
    exact ⟨joined_points n.1, each n hn⟩
  · rw [List.map_map]
    have keys := distinct.map fun s t => points_inj (s := s) (t := t)
    rwa [List.map_map] at keys

/-- Under one key, objects with one text have one value. -/
theorem value_of_text {ms ns : List (String × Json)} (hms : (Json.obj ms).value.Readable)
    (hns : (Json.obj ns).value.Readable) (same : (Json.obj ms).text = (Json.obj ns).text)
    (distinct : (ns.map (·.1)).Nodup) (key : String) (j j' : Json) (hj : (key, j) ∈ ms)
    (hj' : (key, j') ∈ ns) : j.value.canonical = j'.value.canonical := by
  have write := congrArg String.toList same
  rw [text_toList, text_toList] at write
  have keys : ((valueMembers ns).map (·.1)).Nodup := by
    have mapped := distinct.map fun s t => points_inj (s := s) (t := t)
    rw [valueMembers_eq, List.map_map]
    rwa [List.map_map] at mapped
  have member : ∀ {ms : List (String × Json)} {j : Json}, (key, j) ∈ ms →
      (points key, j.value) ∈ valueMembers ms := by
    intro ms j h
    rw [valueMembers_eq]
    exact List.mem_map_of_mem (f := fun m : String × Json => (points m.1, m.2.value)) h
  exact member_of_canonical (write_inj hms hns write) keys (member hj) (member hj')

/-- A list of strings is in canonical form. -/
theorem canonical_strings (texts : List String) :
    (Json.arr (texts.map .str)).value.canonical = .arr (texts.map fun s => .str (points s)) := by
  rw [Json.value, Value.canonical, valueItems_eq]
  congr 1
  induction texts with
  | nil => rfl
  | cons t ts ih => rw [List.map_cons, List.map_cons, canonicalItems, ih]; rfl

end Python
