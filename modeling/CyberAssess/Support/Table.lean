import Mathlib.Data.Fintype.Basic
import Mathlib.Data.List.Nodup
import Mathlib.Tactic.Common

/-!
# Support — a table under unique keys

A table of rows with a family of `UNIQUE` constraints.  A row is a part that no statement
writes (`fixed`, where the keys are read) and a part that updates write (`data`), so an update
keeps every constraint by construction.

* `Table.select` and `Table.lookup` read, `Table.update` is `UPDATE … SET … WHERE`,
  `Table.set` replaces the row under one key, `Table.insert` refuses a duplicate key.
* `mem_update`, `mem_set`, `mem_insert`: what each leaves in the table.
* `lookup_eq_some`: a key finds the one row that carries it.
* `Table.Evolves` relates a table to the next one: old rows changed as `R` allows, new rows as `N`
  allows.
-/

namespace Relational

/-- A row: the columns the keys are read from, and the columns updates write. -/
structure Row (φ σ : Type) where
  fixed : φ
  data : σ
deriving Repr, DecidableEq

/-- Rows under the `UNIQUE` constraints `key i`, one for each `i`. -/
structure Table (ι κ φ σ : Type) (key : ι → φ → κ) where
  rows : List (Row φ σ)
  unique : ∀ i, (rows.map fun r => key i r.fixed).Nodup

namespace Table

variable {ι κ φ σ : Type} {key : ι → φ → κ}

/-- The table with no rows. -/
def empty : Table ι κ φ σ key := ⟨[], fun _ => List.nodup_nil⟩

/-- The table of one row. -/
def single (r : Row φ σ) : Table ι κ φ σ key := ⟨[r], fun _ => List.nodup_singleton _⟩

instance : Membership (Row φ σ) (Table ι κ φ σ key) := ⟨fun t r => r ∈ t.rows⟩

theorem mem_def {t : Table ι κ φ σ key} {r : Row φ σ} : r ∈ t ↔ r ∈ t.rows := Iff.rfl

@[simp] theorem not_mem_empty (r : Row φ σ) : r ∉ (empty : Table ι κ φ σ key) := by
  simp [mem_def, empty]

@[ext] theorem ext {t u : Table ι κ φ σ key} (h : t.rows = u.rows) : t = u := by
  cases t; cases u; cases h; rfl

/-- Two rows of a table under one key are one row. -/
theorem eq_of_key_eq {t : Table ι κ φ σ key} {r s : Row φ σ} (hr : r ∈ t) (hs : s ∈ t)
    (i : ι) (h : key i r.fixed = key i s.fixed) : r = s :=
  List.inj_on_of_nodup_map (t.unique i) hr hs h

/-! ### Reading -/

/-- `SELECT * … WHERE p`, in table order. -/
def select (t : Table ι κ φ σ key) (p : Row φ σ → Bool) : List (Row φ σ) := t.rows.filter p

@[simp] theorem mem_select {t : Table ι κ φ σ key} {p : Row φ σ → Bool} {r : Row φ σ} :
    r ∈ t.select p ↔ r ∈ t ∧ p r = true := List.mem_filter

/-- The row whose key `i` is `k`. -/
def lookup [DecidableEq κ] (t : Table ι κ φ σ key) (i : ι) (k : κ) : Option (Row φ σ) :=
  t.rows.find? fun r => key i r.fixed = k

theorem lookup_eq_some [DecidableEq κ] {t : Table ι κ φ σ key} {i : ι} {k : κ} {r : Row φ σ} :
    t.lookup i k = some r ↔ r ∈ t ∧ key i r.fixed = k := by
  constructor
  · intro h
    exact ⟨List.mem_of_find?_eq_some h, by simpa using List.find?_some h⟩
  · rintro ⟨hr, hk⟩
    cases e : t.lookup i k with
    | none =>
        have := List.find?_eq_none.mp e r hr
        simp [hk] at this
    | some s =>
        have hs : s ∈ t := List.mem_of_find?_eq_some e
        have hsk : key i s.fixed = k := by simpa using List.find?_some e
        rw [eq_of_key_eq hs hr i (hsk.trans hk.symm)]

theorem lookup_eq_none [DecidableEq κ] {t : Table ι κ φ σ key} {i : ι} {k : κ} :
    t.lookup i k = none ↔ ∀ r ∈ t, key i r.fixed ≠ k := by
  simp [lookup, mem_def, List.find?_eq_none]

/-! ### Updating -/

/-- `UPDATE … SET data = f … WHERE p`. -/
def update (t : Table ι κ φ σ key) (p : Row φ σ → Bool) (f : Row φ σ → σ) :
    Table ι κ φ σ key where
  rows := t.rows.map fun r => if p r then ⟨r.fixed, f r⟩ else r
  unique i := by
    have h : (t.rows.map fun r => if p r then ⟨r.fixed, f r⟩ else r).map
        (fun r => key i r.fixed) = t.rows.map fun r => key i r.fixed := by
      rw [List.map_map]
      refine List.map_congr_left fun r _ => ?_
      by_cases e : p r <;> simp [e]
    rw [h]
    exact t.unique i

theorem mem_update {t : Table ι κ φ σ key} {p : Row φ σ → Bool} {f : Row φ σ → σ}
    {s : Row φ σ} :
    s ∈ t.update p f ↔ ∃ r ∈ t, s = if p r then ⟨r.fixed, f r⟩ else r := by
  constructor
  · intro h
    obtain ⟨r, hr, e⟩ := List.mem_map.mp h
    exact ⟨r, hr, e.symm⟩
  · rintro ⟨r, hr, e⟩
    exact List.mem_map.mpr ⟨r, hr, e.symm⟩

/-- `UPDATE … SET data = d … WHERE key i = k`. -/
def set [DecidableEq κ] (t : Table ι κ φ σ key) (i : ι) (k : κ) (d : σ) :
    Table ι κ φ σ key :=
  t.update (fun r => key i r.fixed = k) fun _ => d

theorem mem_set [DecidableEq κ] {t : Table ι κ φ σ key} {i : ι} {k : κ} {d : σ}
    {s : Row φ σ} :
    s ∈ t.set i k d ↔
      ∃ r ∈ t, (key i r.fixed = k ∧ s = ⟨r.fixed, d⟩) ∨ (key i r.fixed ≠ k ∧ s = r) := by
  unfold set
  rw [mem_update]
  refine exists_congr fun r => and_congr_right fun _ => ?_
  by_cases e : key i r.fixed = k <;> simp [e]

/-- The written row is the one found afterwards. -/
theorem lookup_set [DecidableEq κ] {t : Table ι κ φ σ key} {i : ι} {k : κ} {d : σ}
    {r : Row φ σ} (h : t.lookup i k = some r) :
    (t.set i k d).lookup i k = some ⟨r.fixed, d⟩ := by
  obtain ⟨hr, hk⟩ := lookup_eq_some.mp h
  exact lookup_eq_some.mpr ⟨mem_set.mpr ⟨r, hr, Or.inl ⟨hk, rfl⟩⟩, hk⟩

/-- Of two writes the second stays. -/
theorem set_set [DecidableEq κ] (t : Table ι κ φ σ key) (i : ι) (k : κ) (d d' : σ) :
    (t.set i k d).set i k d' = t.set i k d' := by
  ext : 1
  change (t.rows.map _).map _ = t.rows.map _
  rw [List.map_map]
  refine List.map_congr_left fun r _ => ?_
  by_cases e : key i r.fixed = k <;> simp [e]

/-- The other rows stay. -/
theorem mem_set_of_ne [DecidableEq κ] {t : Table ι κ φ σ key} {i : ι} {k : κ} {d : σ}
    {s : Row φ σ} (h : key i s.fixed ≠ k) : s ∈ t.set i k d ↔ s ∈ t := by
  rw [mem_set]
  constructor
  · rintro ⟨r, hr, ⟨hk, rfl⟩ | ⟨-, rfl⟩⟩
    · exact absurd hk h
    · exact hr
  · intro hs
    exact ⟨s, hs, Or.inr ⟨h, rfl⟩⟩

/-- Writing a row as it is changes nothing. -/
theorem set_same [DecidableEq κ] {t : Table ι κ φ σ key} {i : ι} {k : κ} {r : Row φ σ}
    (h : t.lookup i k = some r) : t.set i k r.data = t := by
  obtain ⟨hr, hk⟩ := lookup_eq_some.mp h
  have same : ∀ s ∈ t.rows,
      (if key i s.fixed = k then (⟨s.fixed, r.data⟩ : Row φ σ) else s) = s := by
    intro s hs
    by_cases e : key i s.fixed = k
    · rw [if_pos e, eq_of_key_eq hs hr i (e.trans hk.symm)]
    · rw [if_neg e]
  refine ext ?_
  simp only [set, update, decide_eq_true_eq]
  rw [List.map_congr_left same, List.map_id']

/-! ### Removing -/

/-- The table without the row whose key `i` is `k`. -/
def erase [DecidableEq κ] (t : Table ι κ φ σ key) (i : ι) (k : κ) : Table ι κ φ σ key where
  rows := t.rows.filter fun r => key i r.fixed ≠ k
  unique j := (t.unique j).sublist (List.filter_sublist.map _)

theorem mem_erase [DecidableEq κ] {t : Table ι κ φ σ key} {i : ι} {k : κ} {r : Row φ σ} :
    r ∈ t.erase i k ↔ r ∈ t ∧ key i r.fixed ≠ k := by
  simp [mem_def, erase]

/-! ### Inserting -/

/-- No row of `t` shares a key with `x`. -/
def Fresh (t : Table ι κ φ σ key) (x : φ) : Prop := ∀ i, ∀ r ∈ t, key i r.fixed ≠ key i x

instance [Fintype ι] [DecidableEq κ] (t : Table ι κ φ σ key) (x : φ) : Decidable (t.Fresh x) :=
  inferInstanceAs (Decidable (∀ i, ∀ r ∈ t.rows, key i r.fixed ≠ key i x))

/-- The table with one more row. -/
def push (t : Table ι κ φ σ key) (r : Row φ σ) (h : t.Fresh r.fixed) : Table ι κ φ σ key where
  rows := t.rows ++ [r]
  unique i := by
    rw [List.map_append]
    refine (t.unique i).append (by simp) ?_
    intro k hk hr
    obtain ⟨s, hs, rfl⟩ := List.mem_map.mp hk
    exact h i s hs (by simpa using hr)

/-- `INSERT`: `none` where a `UNIQUE` constraint refuses the row. -/
def insert [Fintype ι] [DecidableEq κ] (t : Table ι κ φ σ key) (r : Row φ σ) :
    Option (Table ι κ φ σ key) :=
  if h : t.Fresh r.fixed then some (t.push r h) else none

theorem mem_insert [Fintype ι] [DecidableEq κ] {t u : Table ι κ φ σ key} {r s : Row φ σ}
    (h : t.insert r = some u) : s ∈ u ↔ s ∈ t ∨ s = r := by
  unfold insert at h
  by_cases e : t.Fresh r.fixed
  · rw [dif_pos e] at h
    cases h
    simp [mem_def, push]
  · rw [dif_neg e] at h
    cases h

/-- The new row is the last. -/
theorem rows_insert [Fintype ι] [DecidableEq κ] {t u : Table ι κ φ σ key} {r : Row φ σ}
    (h : t.insert r = some u) : u.rows = t.rows ++ [r] := by
  unfold insert at h
  by_cases e : t.Fresh r.fixed
  · rw [dif_pos e] at h
    cases h
    rfl
  · rw [dif_neg e] at h
    cases h

theorem fresh_of_insert [Fintype ι] [DecidableEq κ] {t u : Table ι κ φ σ key} {r : Row φ σ}
    (h : t.insert r = some u) : t.Fresh r.fixed := by
  unfold insert at h
  by_cases e : t.Fresh r.fixed
  · exact e
  · rw [dif_neg e] at h
    cases h

/-! ### From one table to the next -/

/-- `u` has the rows of `t`, each changed as `R` allows, and rows that `N` allows to be new. -/
structure Evolves (R : Row φ σ → σ → Prop) (N : Row φ σ → Prop) (t u : Table ι κ φ σ key) :
    Prop where
  old : ∀ r ∈ t, ∃ d, ⟨r.fixed, d⟩ ∈ u ∧ R r d
  new : ∀ s ∈ u, N s ∨ ∃ r ∈ t, r.fixed = s.fixed ∧ R r s.data

variable {R : Row φ σ → σ → Prop} {N : Row φ σ → Prop} {t u : Table ι κ φ σ key}

/-- A table that stays. -/
theorem evolves_refl (h : ∀ r ∈ t, R r r.data) : Evolves R N t t where
  old r hr := ⟨r.data, hr, h r hr⟩
  new s hs := Or.inr ⟨s, hs, rfl, h s hs⟩

/-- An `UPDATE`. -/
theorem evolves_update {p : Row φ σ → Bool} {f : Row φ σ → σ}
    (hp : ∀ r ∈ t, p r = true → R r (f r)) (hn : ∀ r ∈ t, p r = false → R r r.data) :
    Evolves R N t (t.update p f) where
  old r hr := by
    by_cases e : p r = true
    · exact ⟨f r, mem_update.mpr ⟨r, hr, by simp [e]⟩, hp r hr e⟩
    · exact ⟨r.data, mem_update.mpr ⟨r, hr, by simp [e]⟩, hn r hr (Bool.eq_false_iff.mpr e)⟩
  new s hs := by
    obtain ⟨r, hr, rfl⟩ := mem_update.mp hs
    by_cases e : p r = true
    · exact Or.inr ⟨r, hr, by simp [e], by simpa [e] using hp r hr e⟩
    · exact Or.inr ⟨r, hr, by simp [e], by simpa [e] using hn r hr (Bool.eq_false_iff.mpr e)⟩

/-- An `UPDATE` of the row `r` of a key. -/
theorem evolves_set [DecidableEq κ] {i : ι} {r : Row φ σ} {d : σ} (hr : r ∈ t) (h : R r d)
    (hn : ∀ s ∈ t, s ≠ r → R s s.data) : Evolves R N t (t.set i (key i r.fixed) d) := by
  refine evolves_update (fun s hs e => ?_) fun s hs e => ?_
  · obtain rfl := eq_of_key_eq hs hr i (of_decide_eq_true e)
    exact h
  · refine hn s hs ?_
    rintro rfl
    simp at e

/-- An `INSERT`. -/
theorem evolves_insert [Fintype ι] [DecidableEq κ] {r : Row φ σ} (h : t.insert r = some u)
    (hn : ∀ s ∈ t, R s s.data) (hr : N r) : Evolves R N t u where
  old s hs := ⟨s.data, (mem_insert h).mpr (Or.inl hs), hn s hs⟩
  new s hs := by
    rcases (mem_insert h).mp hs with hs | rfl
    · exact Or.inr ⟨s, hs, rfl, hn s hs⟩
    · exact Or.inl hr

theorem Evolves.mono {R' : Row φ σ → σ → Prop} {N' : Row φ σ → Prop} (h : Evolves R N t u)
    (hR : ∀ r d, R r d → R' r d) (hN : ∀ s, N s → N' s) : Evolves R' N' t u where
  old r hr := by
    obtain ⟨d, hd, hr⟩ := h.old r hr
    exact ⟨d, hd, hR _ _ hr⟩
  new s hs := by
    rcases h.new s hs with hs | ⟨r, hr, e, hd⟩
    · exact Or.inl (hN s hs)
    · exact Or.inr ⟨r, hr, e, hR _ _ hd⟩

/-- Rows that stay, followed by any change. -/
theorem Evolves.after {v : Table ι κ φ σ key}
    (h₁ : Evolves (fun r d => d = r.data) N t u) (h₂ : Evolves R N u v)
    (hN : ∀ r d, N r → R r d → N ⟨r.fixed, d⟩) : Evolves R N t v where
  old r hr := by
    obtain ⟨d, hd, rfl⟩ := h₁.old r hr
    exact h₂.old _ hd
  new s hs := by
    rcases h₂.new s hs with hs | ⟨r, hr, e, hR⟩
    · exact Or.inl hs
    · rcases h₁.new r hr with hr | ⟨q, hq, e', hd⟩
      · have := hN r s.data hr hR
        rw [e] at this
        exact Or.inl this
      · have : q = r := by
          cases q; cases r; cases e'; cases hd; rfl
        subst this
        exact Or.inr ⟨q, hq, e, hR⟩

/-- What every change keeps and every new row has, the rows of the next table have. -/
theorem Evolves.keeps {I : Row φ σ → Prop} (h : Evolves R N t u)
    (step : ∀ r ∈ t, ∀ d, I r → R r d → I ⟨r.fixed, d⟩) (new : ∀ s, N s → I s)
    (ht : ∀ r ∈ t, I r) : ∀ s ∈ u, I s := by
  intro s hs
  rcases h.new s hs with hs | ⟨r, hr, e, hR⟩
  · exact new s hs
  · have := step r hr s.data (ht r hr) hR
    rw [e] at this
    exact this

end Table

end Relational
