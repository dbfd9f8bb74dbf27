import CyberAssess.Support.Collections
import CyberAssess.Support.HexDigest

/-!
# Support — directory trees and what is hashed of them

What lies below a directory, listed in any order, and the stream that frames the files for one digest.

* `utf8` are the bytes of a text: `utf8_inj`, `nul_mem_utf8`.
* `RelPath` is a path below the directory and `asPosix` its text, from which it is known.
* `Tree` lists what is below the directory, each path once; `Plain` says that there is nothing but
  files and directories, `SameFiles` that two trees hold the same files.
* `sortedFiles` depends on nothing else (`sortedFiles_congr`).
* `framed` writes each file as its path, a zero, the digest of its content and a zero; `framed_inj` reads
  the files back, unless contents collide.
-/

namespace FileTree

open Python (Digest sortedBy sortedBy_perm)

/-! ### Texts as bytes -/

/-- `text.encode("utf-8")`. -/
def utf8 (text : String) : List UInt8 := text.toList.flatMap String.utf8EncodeChar

theorem utf8_inj {s t : String} (same : utf8 s = utf8 t) : s = t := by
  have arrays : s.toList.utf8Encode = t.toList.utf8Encode := congrArg List.toByteArray same
  rwa [String.utf8Encode_toList, String.utf8Encode_toList, String.toByteArray_inj] at arrays

/-- Only the character zero has the byte zero. -/
theorem nul_mem_utf8 {s : String} (h : 0 ∈ utf8 s) : '\x00' ∈ s.toList := by
  obtain ⟨c, member, zero⟩ := List.mem_flatMap.mp h
  suffices c = '\x00' from this ▸ member
  have small (n : Nat) (h : 0 = UInt8.ofNat n) : n % 256 = 0 := by
    rw [← UInt8.toNat_ofNat', ← h]
    rfl
  rw [String.utf8EncodeChar] at zero
  split at zero
  · have value := small _ (List.mem_singleton.mp zero)
    have code : c.val.toNat = 0 := by omega
    exact Char.ext (UInt32.toNat_inj.mp code)
  · -- every byte of a longer code has a high bit
    exfalso
    split at zero
    · simp only [List.mem_cons, List.not_mem_nil, or_false] at zero
      rcases zero with h | h
      · have := small _ h
        omega
      · have := small _ h
        omega
    · split at zero
      · simp only [List.mem_cons, List.not_mem_nil, or_false] at zero
        rcases zero with h | h | h
        · have := small _ h
          omega
        · have := small _ h
          omega
        · have := small _ h
          omega
      · simp only [List.mem_cons, List.not_mem_nil, or_false] at zero
        rcases zero with h | h | h | h
        · have := small _ h
          omega
        · have := small _ h
          omega
        · have := small _ h
          omega
        · have := small _ h
          omega

/-! ### Paths -/

/-- What a directory can call an entry. -/
def isName (name : String) : Bool :=
  name ≠ "" && name ≠ "." && name ≠ ".." && name.toList.all fun c => c ≠ '/' && c ≠ '\x00'

/-- A path below a directory. -/
structure RelPath where
  parts : List String
  nonempty : parts ≠ []
  names : ∀ name ∈ parts, isName name = true

/-- `"/".join(names)`, in characters. -/
def joined : List String → List Char
  | [] => []
  | [name] => name.toList
  | name :: names => name.toList ++ '/' :: joined names

/-- What comes before the first occurrence of a value, and what comes after it. -/
theorem append_cons_inj {α : Type*} {a : α} {xs ys us vs : List α} (hx : a ∉ xs) (hy : a ∉ ys)
    (same : xs ++ a :: us = ys ++ a :: vs) : xs = ys ∧ us = vs := by
  induction xs generalizing ys with
  | nil =>
      cases ys with
      | nil => exact ⟨rfl, (List.cons.inj same).2⟩
      | cons y ys => exact absurd ((List.cons.inj same).1 ▸ List.mem_cons_self) hy
  | cons x xs ih =>
      cases ys with
      | nil => exact absurd ((List.cons.inj same).1 ▸ List.mem_cons_self) hx
      | cons y ys =>
          obtain ⟨rfl, tails⟩ := List.cons.inj same
          obtain ⟨rfl, rest⟩ := ih (fun h => hx (List.mem_cons_of_mem x h))
            (fun h => hy (List.mem_cons_of_mem x h)) tails
          exact ⟨rfl, rest⟩

theorem notMem_of_isName {name : String} (h : isName name = true) :
    name.toList ≠ [] ∧ '/' ∉ name.toList ∧ '\x00' ∉ name.toList := by
  simp only [isName, Bool.and_eq_true, decide_eq_true_eq, List.all_eq_true] at h
  obtain ⟨⟨⟨nonempty, -⟩, -⟩, chars⟩ := h
  refine ⟨?_, fun slash => (chars _ slash).1 rfl, fun nul => (chars _ nul).2 rfl⟩
  intro empty
  exact nonempty (String.toList_inj.mp (by rw [empty]; rfl))

/-- Names without slashes are read back from what joins them. -/
theorem joined_inj : ∀ {names others : List String}, names ≠ [] → others ≠ [] →
    (∀ n ∈ names, isName n = true) → (∀ n ∈ others, isName n = true) →
    joined names = joined others → names = others
  | [n], [m], _, _, _, _, same => by rw [String.toList_inj.mp same]
  | [n], m :: k :: others, _, _, hn, _, same => by
      have slash : '/' ∈ n.toList := by
        have whole : n.toList = m.toList ++ '/' :: joined (k :: others) := same
        rw [whole]
        simp
      exact absurd slash (notMem_of_isName (hn n List.mem_cons_self)).2.1
  | n :: k :: names, [m], _, _, _, hm, same => by
      have slash : '/' ∈ m.toList := by
        have whole : n.toList ++ '/' :: joined (k :: names) = m.toList := same
        rw [← whole]
        simp
      exact absurd slash (notMem_of_isName (hm m List.mem_cons_self)).2.1
  | n :: k :: names, m :: l :: others, _, _, hn, hm, same => by
      have whole : n.toList ++ '/' :: joined (k :: names) = m.toList ++ '/' :: joined (l :: others) :=
        same
      obtain ⟨first, rest⟩ := append_cons_inj (notMem_of_isName (hn n List.mem_cons_self)).2.1
        (notMem_of_isName (hm m List.mem_cons_self)).2.1 whole
      rw [String.toList_inj.mp first, joined_inj (by simp) (by simp)
        (fun x hx => hn x (List.mem_cons_of_mem n hx))
        (fun x hx => hm x (List.mem_cons_of_mem m hx)) rest]

theorem nul_notMem_joined : ∀ {names : List String}, (∀ n ∈ names, isName n = true) →
    '\x00' ∉ joined names
  | [], _ => by simp [joined]
  | [n], h => (notMem_of_isName (h n List.mem_cons_self)).2.2
  | n :: k :: names, h => by
      have first := (notMem_of_isName (h n List.mem_cons_self)).2.2
      have rest := nul_notMem_joined fun x hx => h x (List.mem_cons_of_mem n hx)
      simp only [joined, List.mem_append, List.mem_cons, not_or]
      exact ⟨first, by decide, rest⟩

namespace RelPath

/-- `as_posix()`. -/
def asPosix (p : RelPath) : String := String.ofList (joined p.parts)

theorem ext_parts {p q : RelPath} (same : p.parts = q.parts) : p = q := by
  obtain ⟨_, _, _⟩ := p
  obtain ⟨_, _, _⟩ := q
  simpa using same

theorem asPosix_inj {p q : RelPath} (same : p.asPosix = q.asPosix) : p = q :=
  ext_parts (joined_inj p.nonempty q.nonempty p.names q.names (String.ofList_inj.mp same))

theorem nul_notMem_utf8 (p : RelPath) : 0 ∉ utf8 p.asPosix := by
  intro h
  have nul := nul_mem_utf8 h
  rw [asPosix, String.toList_ofList] at nul
  exact nul_notMem_joined p.names nul

end RelPath

/-! ### Trees -/

/-- What is at a path. -/
inductive Entry where
  | file (content : List UInt8)
  | unreadable
  | directory
  | link (toDirectory : Bool)
  | special
  deriving DecidableEq

/-- What is below a directory, in the order it is listed. -/
structure Tree where
  entries : List (RelPath × Entry)
  distinct : (entries.map (·.1)).Nodup

namespace Tree

/-- The files among entries. -/
def filesOf (entries : List (RelPath × Entry)) : List (RelPath × List UInt8) :=
  entries.filterMap fun
    | (p, .file content) => some (p, content)
    | _ => none

/-- There are files and directories alone. -/
def Plain (t : Tree) : Prop :=
  ∀ e ∈ t.entries, e.2 = .directory ∨ ∃ content, e.2 = .file content

/-- The same files with the same contents. -/
def SameFiles (t u : Tree) : Prop :=
  ∀ p content, (p, Entry.file content) ∈ t.entries ↔ (p, Entry.file content) ∈ u.entries

/-- The entries in the order of their paths. -/
def sortedEntries (t : Tree) : List (RelPath × Entry) := sortedBy (·.1.parts) t.entries

/-- The files in the order of their paths. -/
def sortedFiles (t : Tree) : List (RelPath × List UInt8) := filesOf t.sortedEntries

theorem mem_filesOf {entries : List (RelPath × Entry)} {p : RelPath} {content : List UInt8} :
    (p, content) ∈ filesOf entries ↔ (p, Entry.file content) ∈ entries := by
  rw [filesOf, List.mem_filterMap]
  constructor
  · rintro ⟨⟨q, e⟩, member, found⟩
    cases e with
    | file c =>
        obtain ⟨rfl, rfl⟩ := Prod.mk.inj (Option.some.inj found)
        exact member
    | unreadable | directory | link | special => cases found
  · exact fun member => ⟨_, member, rfl⟩

theorem mem_sortedFiles {t : Tree} {p : RelPath} {content : List UInt8} :
    (p, content) ∈ t.sortedFiles ↔ (p, Entry.file content) ∈ t.entries := by
  rw [sortedFiles, mem_filesOf, sortedEntries]
  exact (sortedBy_perm _ _).mem_iff

theorem map_filesOf_sublist (entries : List (RelPath × Entry)) :
    ((filesOf entries).map (·.1)).Sublist (entries.map (·.1)) := by
  induction entries with
  | nil => exact List.Sublist.refl _
  | cons e entries ih =>
      obtain ⟨p, e⟩ := e
      cases e with
      | file content => exact ih.cons_cons p
      | unreadable | directory | link | special => exact ih.cons p

/-- A path is that of one file. -/
theorem nodup_sortedFiles (t : Tree) : (t.sortedFiles.map (·.1)).Nodup := by
  have perm : (t.sortedEntries.map (·.1)).Perm (t.entries.map (·.1)) := (sortedBy_perm _ _).map _
  exact (perm.nodup_iff.mpr t.distinct).sublist (map_filesOf_sublist _)

theorem pairwise_sortedFiles (t : Tree) :
    t.sortedFiles.Pairwise fun f g => f.1.parts ≤ g.1.parts := by
  refine (Python.pairwise_sortedBy _ t.entries).filterMap _ ?_
  rintro ⟨p, e⟩ ⟨q, d⟩ le f hf g hg
  cases e with
  | file content =>
      cases d with
      | file other =>
          rw [← Option.some.inj hf, ← Option.some.inj hg]
          exact le
      | unreadable | directory | link | special => cases hg
  | unreadable | directory | link | special => cases hf

/-- Trees with the same files have them in the same order. -/
theorem sortedFiles_congr {t u : Tree} (same : SameFiles t u) : t.sortedFiles = u.sortedFiles := by
  have perm : t.sortedFiles.Perm u.sortedFiles := by
    refine (List.perm_ext_iff_of_nodup t.nodup_sortedFiles.of_map u.nodup_sortedFiles.of_map).mpr ?_
    rintro ⟨p, content⟩
    rw [mem_sortedFiles, mem_sortedFiles]
    exact same p content
  refine List.Perm.eq_of_pairwise (fun f g hf hg le ge => ?_) t.pairwise_sortedFiles
    u.pairwise_sortedFiles perm
  have path : f.1 = g.1 := RelPath.ext_parts (le_antisymm le ge)
  exact List.inj_on_of_nodup_map t.nodup_sortedFiles hf (perm.mem_iff.mpr hg) path

theorem sameFiles_of_sortedFiles {t u : Tree} (same : t.sortedFiles = u.sortedFiles) :
    SameFiles t u := by
  intro p content
  rw [← mem_sortedFiles, ← mem_sortedFiles, same]

end Tree

/-! ### The stream -/

section Framed

variable (sha256 : List UInt8 → Digest)

/-- Each file as its path, a zero, the digest of its content and a zero. -/
def framed : List (RelPath × List UInt8) → List UInt8
  | [] => []
  | (p, content) :: files =>
      utf8 p.asPosix ++ 0 :: ((sha256 content).bytes ++ 0 :: framed files)

/-- The files are read back from the stream, unless contents collide. -/
theorem framed_inj : ∀ {files others : List (RelPath × List UInt8)},
    (∀ f ∈ files, ∀ g ∈ others, sha256 f.2 = sha256 g.2 → f.2 = g.2) →
    framed sha256 files = framed sha256 others → files = others
  | [], [], _, _ => rfl
  | [], (q, d) :: others, _, same => by
      have lengths := congrArg List.length same
      simp [framed] at lengths
  | (p, c) :: files, [], _, same => by
      have lengths := congrArg List.length same
      simp [framed] at lengths
  | (p, c) :: files, (q, d) :: others, apart, same => by
      obtain ⟨path, rest⟩ := append_cons_inj p.nul_notMem_utf8 q.nul_notMem_utf8 same
      obtain ⟨digest, tail⟩ := List.append_inj rest (by simp)
      have content := apart _ List.mem_cons_self _ List.mem_cons_self (Digest.bytes_inj digest)
      have more := framed_inj
        (fun f hf g hg => apart f (List.mem_cons_of_mem _ hf) g (List.mem_cons_of_mem _ hg))
        (List.cons.inj tail).2
      rw [RelPath.asPosix_inj (utf8_inj path), more, show c = d from content]

end Framed

end FileTree
