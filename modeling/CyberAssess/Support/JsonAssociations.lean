import CyberAssess.Support.Json

/-!
# Support — names and values in a JSON value

A name is associated with a value as a member of an object or as a list of the two, at any depth.

* `Json.Associates` is the association, in one `Form` or the other.
* `Json.Free f P`: every association of the form satisfies `P`; `free_obj_member` and its siblings say
  what that is for an object and for a list.
-/

namespace Python

/-- How a name and a value are written together. -/
inductive Form where
  | member | pair
deriving DecidableEq, Repr

/-- The value associates the name with a value, at some depth. -/
inductive Json.Associates : Form → Json → String → Json → Prop where
  | member {members : List (String × Json)} {name : String} {value : Json}
      (here : (name, value) ∈ members) : Associates .member (.obj members) name value
  | pair (name : String) (value : Json) : Associates .pair (.arr [.str name, value]) name value
  | inMember {f : Form} {members : List (String × Json)} {key name : String} {inner value : Json}
      (there : (key, inner) ∈ members) (a : Associates f inner name value) :
      Associates f (.obj members) name value
  | inItem {f : Form} {items : List Json} {name : String} {inner value : Json}
      (there : inner ∈ items) (a : Associates f inner name value) :
      Associates f (.arr items) name value

/-- Every association of a form satisfies `P`. -/
def Json.Free (f : Form) (P : String → Json → Prop) (j : Json) : Prop :=
  ∀ name value, j.Associates f name value → P name value

variable {f : Form} {P : String → Json → Prop} {members : List (String × Json)} {items : List Json}

theorem free_obj_member : (Json.obj members).Free .member P ↔
    ∀ m ∈ members, P m.1 m.2 ∧ m.2.Free .member P := by
  constructor
  · exact fun h m hm => ⟨h _ _ (.member hm), fun _ _ a => h _ _ (.inMember hm a)⟩
  · intro h name value a
    cases a with
    | member here => exact (h _ here).1
    | inMember there a => exact (h _ there).2 _ _ a

theorem free_obj_pair : (Json.obj members).Free .pair P ↔ ∀ m ∈ members, m.2.Free .pair P := by
  constructor
  · exact fun h m hm _ _ a => h _ _ (.inMember hm a)
  · intro h name value a
    cases a with
    | inMember there a => exact h _ there _ _ a

theorem free_arr_member : (Json.arr items).Free .member P ↔ ∀ j ∈ items, j.Free .member P := by
  constructor
  · exact fun h j hj _ _ a => h _ _ (.inItem hj a)
  · intro h name value a
    cases a with
    | inItem there a => exact h _ there _ _ a

theorem free_arr_pair : (Json.arr items).Free .pair P ↔
    (∀ name value, items = [.str name, value] → P name value) ∧ ∀ j ∈ items, j.Free .pair P := by
  constructor
  · intro h
    refine ⟨?_, fun j hj _ _ a => h _ _ (.inItem hj a)⟩
    rintro name value rfl
    exact h _ _ (.pair name value)
  · rintro ⟨whole, each⟩ name value a
    cases a with
    | pair => exact whole _ _ rfl
    | inItem there a => exact each _ there _ _ a

theorem free_null : Json.null.Free f P := nofun

theorem free_bool (b : Bool) : (Json.bool b).Free f P := nofun

theorem free_num (text : String) : (Json.num text).Free f P := nofun

theorem free_str (s : String) : (Json.str s).Free f P := nofun

theorem free_optStr (s : Option String) : (Json.optStr s).Free f P := by
  cases s with
  | none => exact free_null
  | some s => exact free_str s

/-- A list of values none of which is a text has the pairs of its values. -/
theorem free_map {α : Type} {xs : List α} {j : α → Json} (apart : ∀ x name, j x ≠ .str name) :
    (Json.arr (xs.map j)).Free .pair P ↔ ∀ x ∈ xs, (j x).Free .pair P := by
  rw [free_arr_pair, List.forall_mem_map]
  refine and_iff_right fun name value same => ?_
  have first : Json.str name ∈ xs.map j := by
    rw [same]
    exact List.mem_cons_self
  obtain ⟨x, -, text⟩ := List.mem_map.mp first
  exact absurd text (apart x name)

/-- A list of texts has at most itself as a pair. -/
theorem free_texts {texts : List String} : (Json.arr (texts.map .str)).Free .pair P ↔
    ∀ name text, texts = [name, text] → P name (.str text) := by
  rw [free_arr_pair]
  constructor
  · rintro ⟨whole, -⟩ name text rfl
    exact whole _ _ rfl
  · intro h
    refine ⟨fun name value same => ?_, fun j hj => ?_⟩
    · match texts, same with
      | [_, text], rfl => exact h _ text rfl
    · obtain ⟨s, -, rfl⟩ := List.mem_map.mp hj
      exact free_str s

end Python
