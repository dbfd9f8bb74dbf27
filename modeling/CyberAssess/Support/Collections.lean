import Mathlib.Data.List.Forall2
import Mathlib.Data.List.Induction
import Mathlib.Data.List.Nodup
import Mathlib.Data.List.Perm.Basic
import Mathlib.Data.Prod.Lex
import Mathlib.Order.Defs.LinearOrder
import CyberAssess.Support.Checked

/-!
# Support — collections

`sorted` and a dictionary of lists, with what does not depend on the order they are filled in.

* `sortedBy key` sorts by a key; `sortedBy_congr`: under a key that tells elements apart, lists that
  are permutations of each other are sorted into the same list.
* `addTo` is `groups.setdefault(key, []).append(value)`, `groupOf` is `groups.get(key, ())`;
  `groupOf_foldl`: what a loop has appended under a key.
* `fromKeys` is `list(dict.fromkeys(values))`: each value once, where it first occurs.
* `mapM_ok`: a checked map returns one result for each element; `mapM_perm` permutes them.
-/

namespace Python

/-! ### Sorting -/

section Sorting

variable {α β : Type} [LinearOrder β]

/-- `sorted(values, key=key)`. -/
def sortedBy (key : α → β) (values : List α) : List α :=
  values.mergeSort fun a b => decide (key a ≤ key b)

/-- `sorted(values)`. -/
def sorted (values : List β) : List β := sortedBy id values

variable {key : α → β} {values values' : List α}

theorem sortedBy_perm (key : α → β) (values : List α) : (sortedBy key values).Perm values :=
  List.mergeSort_perm values _

@[simp] theorem mem_sortedBy {a : α} : a ∈ sortedBy key values ↔ a ∈ values :=
  (sortedBy_perm key values).mem_iff

theorem pairwise_sortedBy (key : α → β) (values : List α) :
    (sortedBy key values).Pairwise fun a b => key a ≤ key b := by
  have transitive (a b c : α) (h : decide (key a ≤ key b) = true)
      (k : decide (key b ≤ key c) = true) : decide (key a ≤ key c) = true :=
    decide_eq_true (le_trans (of_decide_eq_true h) (of_decide_eq_true k))
  have total (a b : α) : (decide (key a ≤ key b) || decide (key b ≤ key a)) = true := by
    rw [Bool.or_eq_true, decide_eq_true_eq, decide_eq_true_eq]
    exact le_total (key a) (key b)
  exact (List.pairwise_mergeSort transitive total values).imp fun h => of_decide_eq_true h

/-- Permutations of each other are sorted into one list. -/
theorem sortedBy_congr (distinct : Function.Injective key) (h : values.Perm values') :
    sortedBy key values = sortedBy key values' := by
  refine List.Perm.eq_of_pairwise (fun a b _ _ le ge => distinct (le_antisymm le ge))
    (pairwise_sortedBy key values) (pairwise_sortedBy key values') ?_
  exact (sortedBy_perm key values).trans (h.trans (sortedBy_perm key values').symm)

/-- A list in the strict order of its keys is what its permutations are sorted into. -/
theorem sortedBy_eq (perm : values.Perm values')
    (strict : values'.Pairwise fun a b => key a < key b) : sortedBy key values = values' := by
  have distinct : (values'.map key).Nodup := by
    rw [List.Nodup, List.pairwise_map]
    exact strict.imp ne_of_lt
  have same : (sortedBy key values).Perm values' := (sortedBy_perm key values).trans perm
  refine List.Perm.eq_of_pairwise (fun a b ha hb le ge => ?_) (pairwise_sortedBy key values)
    (strict.imp le_of_lt) same
  exact List.inj_on_of_nodup_map distinct (same.mem_iff.mp ha) hb (le_antisymm le ge)

/-- Lists with the same values, no two of which share a key, are sorted alike. -/
theorem sortedBy_congr_of_nodup (perm : values.Perm values') (distinct : (values.map key).Nodup) :
    sortedBy key values = sortedBy key values' := by
  have same : (sortedBy key values).Perm (sortedBy key values') :=
    (sortedBy_perm key values).trans (perm.trans (sortedBy_perm key values').symm)
  refine List.Perm.eq_of_pairwise (fun a b ha hb le ge => ?_) (pairwise_sortedBy key values)
    (pairwise_sortedBy key values') same
  have hb' : b ∈ values := mem_sortedBy.mp (same.mem_iff.mpr hb)
  exact List.inj_on_of_nodup_map distinct (mem_sortedBy.mp ha) hb' (le_antisymm le ge)

theorem sorted_perm (values : List β) : (sorted values).Perm values := sortedBy_perm id values

@[simp] theorem mem_sorted {b : β} {values : List β} : b ∈ sorted values ↔ b ∈ values := mem_sortedBy

theorem sorted_congr {values values' : List β} (h : values.Perm values') :
    sorted values = sorted values' :=
  sortedBy_congr Function.injective_id h

end Sorting

/-! ### A dictionary of lists -/

section Groups

variable {κ α : Type} [DecidableEq κ]

/-- `groups.setdefault(key, []).append(value)`. -/
def addTo (key : κ) (value : α) : List (κ × List α) → List (κ × List α)
  | [] => [(key, [value])]
  | (k, values) :: groups =>
      if k = key then (k, values ++ [value]) :: groups else (k, values) :: addTo key value groups

/-- `groups.get(key, ())`. -/
def groupOf (key : κ) : List (κ × List α) → List α
  | [] => []
  | (k, values) :: groups => if k = key then values else groupOf key groups

theorem groupOf_addTo (key k : κ) (value : α) : ∀ groups : List (κ × List α),
    groupOf key (addTo k value groups) =
      groupOf key groups ++ if k = key then [value] else []
  | [] => by
      rw [addTo, groupOf, groupOf]
      split_ifs <;> rfl
  | (k', values) :: groups => by
      rw [addTo, groupOf]
      by_cases here : k' = k
      · rw [if_pos here, groupOf, here]
        split_ifs
        · rfl
        · rw [List.append_nil]
      · rw [if_neg here, groupOf]
        by_cases found : k' = key
        · rw [if_pos found, if_pos found, if_neg fun same => here (found.trans same.symm),
            List.append_nil]
        · rw [if_neg found, if_neg found]
          exact groupOf_addTo key k value groups

/-- What a loop has appended under a key, in the order it was appended. -/
theorem groupOf_foldl (key : κ) (entries : List (κ × α)) : ∀ groups : List (κ × List α),
    groupOf key (entries.foldl (fun gs e => addTo e.1 e.2 gs) groups) =
      groupOf key groups ++ (entries.filter (·.1 = key)).map (·.2) := by
  induction entries with
  | nil => exact fun groups => (List.append_nil _).symm
  | cons e entries ih =>
      intro groups
      rw [List.foldl_cons, ih, groupOf_addTo, List.append_assoc, List.filter_cons]
      by_cases same : e.1 = key
      · rw [if_pos same, if_pos (decide_eq_true same), List.map_cons]
        rfl
      · rw [if_neg same, if_neg (by rw [decide_eq_false same]; nofun)]
        rfl

end Groups

/-! ### Each value once -/

section Keys

variable {α : Type} [DecidableEq α]

/-- `list(dict.fromkeys(values))`. -/
def fromKeys (values : List α) : List α :=
  values.foldl (fun keys value => if value ∈ keys then keys else keys ++ [value]) []

@[simp] theorem fromKeys_nil : fromKeys ([] : List α) = [] := rfl

theorem fromKeys_snoc (values : List α) (value : α) : fromKeys (values ++ [value]) =
    if value ∈ fromKeys values then fromKeys values else fromKeys values ++ [value] := by
  rw [fromKeys, List.foldl_append]
  rfl

@[simp] theorem mem_fromKeys {value : α} {values : List α} :
    value ∈ fromKeys values ↔ value ∈ values := by
  induction values using List.reverseRecOn with
  | nil => rfl
  | append_singleton values last ih =>
      rw [fromKeys_snoc, List.mem_append, List.mem_singleton, ← ih]
      split
      · rename_i old
        constructor
        · exact Or.inl
        · rintro (mem | rfl)
          · exact mem
          · exact old
      · rw [List.mem_append, List.mem_singleton]

theorem nodup_fromKeys (values : List α) : (fromKeys values).Nodup := by
  induction values using List.reverseRecOn with
  | nil => exact List.nodup_nil
  | append_singleton values last ih =>
      rw [fromKeys_snoc]
      split
      · exact ih
      · rename_i new
        refine List.nodup_append.mpr ⟨ih, List.nodup_singleton last, ?_⟩
        rintro value mem _ (_ | ⟨_, ⟨⟩⟩) rfl
        exact new mem

theorem fromKeys_prefix (values : List α) (value : α) :
    fromKeys values <+: fromKeys (values ++ [value]) := by
  rw [fromKeys_snoc]
  split
  · exact List.prefix_rfl
  · exact List.prefix_append _ _

end Keys

/-! ### A checked map -/

section Checked

variable {ε α β : Type} {f : α → Except ε β}

/-- A checked map returns where each of its elements does. -/
theorem mapM_ok : ∀ {xs : List α} {ys : List β},
    xs.mapM f = .ok ys ↔ List.Forall₂ (fun x y => f x = .ok y) xs ys
  | [], ys => by
      rw [List.mapM_nil, List.forall₂_nil_left_iff]
      exact ⟨fun h => (Except.ok.inj h).symm, fun h => by rw [h]; rfl⟩
  | x :: xs, ys => by
      rw [List.mapM_cons, List.forall₂_cons_left_iff]
      simp only [Checked.bind_ok]
      constructor
      · rintro ⟨y, head, zs, tail, h⟩
        exact ⟨y, zs, head, mapM_ok.mp tail, (Except.ok.inj h).symm⟩
      · rintro ⟨y, zs, head, tail, rfl⟩
        exact ⟨y, head, zs, mapM_ok.mpr tail, rfl⟩

/-- Each element has its result. -/
theorem mapM_left : ∀ {xs : List α} {ys : List β}, xs.mapM f = .ok ys →
    ∀ x ∈ xs, ∃ y ∈ ys, f x = .ok y
  | [], _, _ => nofun
  | x :: xs, ys, h => by
      obtain ⟨y, zs, head, tail, rfl⟩ := List.forall₂_cons_left_iff.mp (mapM_ok.mp h)
      rintro x' (_ | ⟨_, there⟩)
      · exact ⟨y, List.mem_cons_self, head⟩
      · obtain ⟨y', hy, found⟩ := mapM_left (mapM_ok.mpr tail) x' there
        exact ⟨y', List.mem_cons_of_mem y hy, found⟩

/-- Each result has its element. -/
theorem mapM_right : ∀ {xs : List α} {ys : List β}, xs.mapM f = .ok ys →
    ∀ y ∈ ys, ∃ x ∈ xs, f x = .ok y
  | [], ys, h => by
      obtain rfl := List.forall₂_nil_left_iff.mp (mapM_ok.mp h)
      nofun
  | x :: xs, ys, h => by
      obtain ⟨y, zs, head, tail, rfl⟩ := List.forall₂_cons_left_iff.mp (mapM_ok.mp h)
      rintro y' (_ | ⟨_, there⟩)
      · exact ⟨x, List.mem_cons_self, head⟩
      · obtain ⟨x', hx, found⟩ := mapM_right (mapM_ok.mpr tail) y' there
        exact ⟨x', List.mem_cons_of_mem x hx, found⟩

/-- Elements with the same results. -/
theorem mapM_congr {xs xs' : List α} (h : List.Forall₂ (fun x x' => f x' = f x) xs xs') :
    xs'.mapM f = xs.mapM f := by
  induction h with
  | nil => rfl
  | cons head _ tail => rw [List.mapM_cons, List.mapM_cons, head, tail]

/-- A permutation of the elements permutes the results. -/
theorem mapM_perm {xs xs' : List α} {ys : List β} (h : xs.mapM f = .ok ys) (perm : xs'.Perm xs) :
    ∃ ys', xs'.mapM f = .ok ys' ∧ ys'.Perm ys := by
  obtain ⟨ys', each, same⟩ := List.perm_comp_forall₂ perm (mapM_ok.mp h)
  exact ⟨ys', mapM_ok.mpr each, same⟩

end Checked

end Python
