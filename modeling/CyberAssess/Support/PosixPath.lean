import Mathlib.Data.List.Infix

/-!
# Support — paths as they are spelled

A path is a flag and its components: empty components and `.` are dropped when a text is read, and
`..` is kept.

* `ofText` and `text` are the two directions, `parents` the paths above one.
* `mem_parents_or_eq`: a path or one above it is a path that contains it.

`[about ours]`: any number of leading slashes is one.
-/

/-- A path as it is spelled. -/
structure PosixPath where
  absolute : Bool
  parts : List String
deriving DecidableEq, Repr

namespace PosixPath

variable {p q : PosixPath}

/-- The path a text spells. -/
def ofText (text : String) : PosixPath where
  absolute := text.toList.head? = some '/'
  parts := ((text.toList.splitOn '/').filter fun part => part ≠ [] ∧ part ≠ ['.']).map String.ofList

/-- The text of a path. -/
def text (p : PosixPath) : String :=
  if p.absolute then "/" ++ "/".intercalate p.parts
  else if p.parts = [] then "." else "/".intercalate p.parts

/-- The paths above, the nearest first. -/
def parents (p : PosixPath) : List PosixPath :=
  (List.range p.parts.length).map fun index =>
    ⟨p.absolute, p.parts.take (p.parts.length - index - 1)⟩

/-- `q` is the path or lies below it. -/
def Contains (p q : PosixPath) : Prop := p.absolute = q.absolute ∧ p.parts <+: q.parts

/-- A path, or one above it, is a path that contains it. -/
theorem mem_parents_or_eq : q = p ∨ p ∈ q.parents ↔ p.Contains q := by
  rw [parents, List.mem_map]
  constructor
  · rintro (rfl | ⟨index, -, rfl⟩)
    · exact ⟨rfl, List.prefix_refl _⟩
    · exact ⟨rfl, List.take_prefix _ _⟩
  · rintro ⟨flag, above⟩
    have front := List.prefix_iff_eq_take.mp above
    rcases Nat.lt_or_ge p.parts.length q.parts.length with shorter | whole
    · right
      refine ⟨q.parts.length - p.parts.length - 1, List.mem_range.mpr (by omega), ?_⟩
      have length : q.parts.length - (q.parts.length - p.parts.length - 1) - 1 = p.parts.length := by
        omega
      rw [length, ← front, ← flag]
    · left
      rw [List.take_of_length_le whole] at front
      obtain ⟨_, _⟩ := p
      obtain ⟨_, _⟩ := q
      exact congr (congrArg mk flag.symm) front.symm

end PosixPath
