import Mathlib.Data.List.Infix
import Mathlib.Data.List.Nodup

/-!
# Support — a chain of hashed records

A link holds a payload, the digest of the link before it, and a digest of the two.  A chain is intact
when every link points at the one before and carries its digest.

* `Intact`: the chain from a start, `Intact.append`: what a writer keeps.
* `CollisionFree`: the digests of two chains tell their inputs apart.
* `Intact.commit`: one digest commits to everything before it.
* `Intact.nodup`: no digest occurs twice.
* `Intact.isPrefix`: an intact chain that ends in a digest of another is the beginning of it.
-/

namespace HashChain

variable {α η : Type}

/-- A payload, the digest before it, and its own. -/
structure Link (α η : Type) where
  payload : α
  previous : η
  digest : η
deriving DecidableEq, Repr

/-- Every link points at the one before it, the first at `p`, and carries its digest. -/
def Intact (hash : α → η → η) : η → List (Link α η) → Prop
  | _, [] => True
  | p, l :: ls => l.previous = p ∧ l.digest = hash l.payload p ∧ Intact hash l.digest ls

/-- The digest a chain from `p` ends in. -/
def tip (p : η) : List (Link α η) → η
  | [] => p
  | l :: ls => tip l.digest ls

variable {hash : α → η → η} {p : η} {l m : Link α η} {ls ms : List (Link α η)}

@[simp] theorem tip_append : tip p (ls ++ [l]) = l.digest := by
  induction ls generalizing p with
  | nil => rfl
  | cons k ls ih => exact ih

/-- A chain is intact where both its parts are. -/
theorem intact_append : Intact hash p (ls ++ ms) ↔
    Intact hash p ls ∧ Intact hash (tip p ls) ms := by
  induction ls generalizing p with
  | nil => exact ⟨fun h => ⟨trivial, h⟩, fun h => h.2⟩
  | cons l ls ih =>
      constructor
      · rintro ⟨hp, hs, h⟩
        obtain ⟨h₁, h₂⟩ := ih.mp h
        exact ⟨⟨hp, hs, h₁⟩, h₂⟩
      · rintro ⟨⟨hp, hs, h₁⟩, h₂⟩
        exact ⟨hp, hs, ih.mpr ⟨h₁, h₂⟩⟩

/-- The next link keeps the chain intact. -/
theorem Intact.append (h : Intact hash p ls) (a : α) :
    Intact hash p (ls ++ [⟨a, tip p ls, hash a (tip p ls)⟩]) :=
  intact_append.mpr ⟨h, rfl, rfl, trivial⟩

/-- The beginning of an intact chain is intact. -/
theorem Intact.of_isPrefix (h : Intact hash p ls) (hm : ms <+: ls) : Intact hash p ms := by
  obtain ⟨ns, rfl⟩ := hm
  exact (intact_append.mp h).1

/-- What the last link of an intact chain points at, and carries. -/
theorem Intact.last (h : Intact hash p (ls ++ [l])) :
    Intact hash p ls ∧ l.previous = tip p ls ∧ l.digest = hash l.payload l.previous := by
  obtain ⟨hl, hp, hs, -⟩ := intact_append.mp h
  exact ⟨hl, hp, by rw [hp]; exact hs⟩

/-- The digests of two chains tell what they are of apart. -/
def CollisionFree (hash : α → η → η) (ls ms : List (Link α η)) : Prop :=
  ∀ l ∈ ls, ∀ m ∈ ms, hash l.payload l.previous = hash m.payload m.previous →
    l.payload = m.payload ∧ l.previous = m.previous

theorem CollisionFree.of_isPrefix {ls' ms' : List (Link α η)} (h : CollisionFree hash ls ms)
    (hl : ls' <+: ls) (hm : ms' <+: ms) : CollisionFree hash ls' ms' :=
  fun l hl' m hm' => h l (hl.subset hl') m (hm.subset hm')

/-- **A digest commits to the chain before it.**  Two intact chains from a start that is no digest,
ending in one digest, are one chain. -/
theorem Intact.commit (start : ∀ a q, hash a q ≠ p) (h : Intact hash p (ls ++ [l]))
    (h' : Intact hash p (ms ++ [m])) (free : CollisionFree hash (ls ++ [l]) (ms ++ [m]))
    (hs : l.digest = m.digest) : ls ++ [l] = ms ++ [m] := by
  -- By induction on the chain before `l`: equal digests point at equal digests.
  induction ls using List.reverseRecOn generalizing l m ms with
  | nil =>
      obtain ⟨-, hp, hl⟩ := h.last
      obtain ⟨hms, hq, hm⟩ := h'.last
      obtain ⟨ha, hpq⟩ := free l (by simp) m (by simp) (by rw [← hl, ← hm, hs])
      have first : tip p ms = p := by rw [← hq, ← hpq, hp]; rfl
      have empty : ms = [] := by
        rcases List.eq_nil_or_concat ms with e | ⟨ns, n, e⟩
        · exact e
        · rw [List.concat_eq_append] at e
          rw [e, tip_append] at first
          rw [e] at hms
          exact absurd (hms.last.2.2.symm.trans first) (start _ _)
      rw [empty]
      cases l
      cases m
      cases ha
      cases hpq
      cases hs
      rfl
  | append_singleton ns n ih =>
      obtain ⟨hns, hp, hl⟩ := h.last
      obtain ⟨hms, hq, hm⟩ := h'.last
      obtain ⟨ha, hpq⟩ := free l (by simp) m (by simp) (by rw [← hl, ← hm, hs])
      rw [tip_append] at hp
      rcases List.eq_nil_or_concat ms with e | ⟨os, o, e⟩
      · -- `m` would be the first link, and point at the start.
        rw [e] at hq
        have : n.digest = p := by rw [← hp, hpq, hq]; rfl
        exact absurd (hns.last.2.2.symm.trans this) (start _ _)
      · rw [List.concat_eq_append] at e
        subst e
        rw [tip_append] at hq
        have before : ns ++ [n] = os ++ [o] :=
          ih hns hms (free.of_isPrefix (List.prefix_append _ _) (List.prefix_append _ _))
            (by rw [← hp, hpq, hq])
        rw [before]
        cases l
        cases m
        cases ha
        cases hpq
        cases hs
        rfl

/-- **An intact chain that ends in a digest of another intact chain is the beginning of it.** -/
theorem Intact.isPrefix (start : ∀ a q, hash a q ≠ p) (h : Intact hash p ls)
    (h' : Intact hash p ms) (free : CollisionFree hash ms ls)
    (hs : ∀ m ∈ ms.getLast?, ∃ l ∈ ls, l.digest = m.digest) : ms <+: ls := by
  rcases List.eq_nil_or_concat ms with rfl | ⟨ns, n, e⟩
  · exact List.nil_prefix
  · rw [List.concat_eq_append] at e
    subst e
    obtain ⟨l, hl, heq⟩ := hs n (by simp)
    obtain ⟨as, bs, rfl⟩ := List.append_of_mem hl
    have upto : as ++ [l] <+: as ++ l :: bs := ⟨bs, by simp⟩
    have same : ns ++ [n] = as ++ [l] :=
      h'.commit start (h.of_isPrefix upto) (free.of_isPrefix (List.prefix_refl _) upto) heq.symm
    rw [same]
    exact upto

/-- The digests of an intact chain are apart. -/
theorem Intact.nodup (start : ∀ a q, hash a q ≠ p) (h : Intact hash p ls)
    (free : CollisionFree hash ls ls) : (ls.map (·.digest)).Nodup := by
  induction ls using List.reverseRecOn with
  | nil => exact List.nodup_nil
  | append_singleton ls l ih =>
      have before : ls <+: ls ++ [l] := List.prefix_append _ _
      rw [List.map_append, List.map_singleton]
      refine List.Nodup.append (ih h.last.1 (free.of_isPrefix before before))
        (List.nodup_singleton _) ?_
      intro d hd hl
      rw [List.mem_singleton] at hl
      obtain ⟨k, hk, rfl⟩ := List.mem_map.mp hd
      obtain ⟨as, bs, rfl⟩ := List.append_of_mem hk
      have upto : as ++ [k] <+: as ++ k :: bs ++ [l] := ⟨bs ++ [l], by simp⟩
      have same : as ++ [k] = as ++ k :: bs ++ [l] :=
        (h.of_isPrefix upto).commit start h (free.of_isPrefix upto (List.prefix_refl _)) hl
      have longer := congrArg List.length same
      simp only [List.length_append, List.length_cons, List.length_nil] at longer
      omega

end HashChain
