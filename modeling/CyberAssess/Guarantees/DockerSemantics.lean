import CyberAssess.Engines.DockerfileAuditor

/-!
# Guarantees — the Dockerfile auditor and Docker

What a Dockerfile means, and what `audit_dockerfile_content` reports of it.

* `fromOf` and `userOf` are the instructions of a line; `finalUser` is the user of the last stage,
  `unpinned` an image of no fixed version.
* `UsersAgree` and `FromAgrees` are the files and the lines the auditor reads as Docker does.
* `mem_findings`: where a finding comes from.  `fromTarget_image`: the word that is looked at.
* `docker_exact`: when the reports are those of Docker's meaning.

`[about ours]`: the meaning is not in the source.  The lines are those of `str.splitlines`.
-/

namespace CyberAssess

namespace DockerfileAuditor

open Python

/-! ### Docker -/

/-- `FROM [--flag ...] image [AS alias]`. -/
structure FromInstruction where
  flags : List (List Char)
  image : Option (List Char)
  stageAlias : Option (List Char)

/-- A flag of an instruction. -/
def isFlag (word : List Char) : Bool := ['-', '-'].isPrefixOf word

/-- The instruction, when the line is a `FROM`. -/
def fromOf (line : List Char) : Option FromInstruction :=
  match words line with
  | [] => none
  | keyword :: args =>
      if keyword.map Char.toLower = ['f', 'r', 'o', 'm'] then
        some
          { flags := args.takeWhile isFlag
            image := (args.dropWhile isFlag).head?
            stageAlias :=
              match args.dropWhile isFlag with
              | _ :: as :: name :: _ => if as.map Char.toLower = ['a', 's'] then some name else none
              | _ => none }
      else none

/-- The argument, when the line is a `USER`. -/
def userOf (line : List Char) : Option (List Char) :=
  match words line with
  | [] => none
  | keyword :: _ =>
      if keyword.map Char.toLower = ['u', 's', 'e', 'r'] then some (stripChars (line.drop keyword.length))
      else none

/-- The user after a line: a stage starts without one. -/
def userAfter (user : Option (List Char)) (line : List Char × Nat) : Option (List Char) :=
  if (fromOf line.1).isSome then none else (userOf line.1).or user

/-- The last user of the last stage. -/
def finalUser (content : List Char) : Option (List Char) := (numberedLines content).foldl userAfter none

/-- The user is `root`, or the number 0, whatever the group. -/
def isRoot (user : List Char) : Bool :=
  let name := user.takeWhile (· ≠ ':')
  name = ['r', 'o', 'o', 't'] || name.all (· = '0')

/-- The last stage names no user, or root. -/
def runsAsRoot (content : List Char) : Bool := (finalUser content).all isRoot

/-- The names of the stages so far. -/
def stages (before : List (List Char × Nat)) : List (List Char) :=
  before.filterMap fun line =>
    ((fromOf line.1).bind FromInstruction.stageAlias).map fun name => name.map Char.toLower

/-- The tag of an image, after its registry and its path. -/
def tag (image : List Char) : Option (List Char) :=
  let last := image.reverse.takeWhile (· ≠ '/')
  if ':' ∈ last then some (last.takeWhile (· ≠ ':')).reverse else none

/-- The image is the empty one, or an earlier stage. -/
def isExempt (earlier : List (List Char)) (image : List Char) : Bool :=
  image = ['s', 'c', 'r', 'a', 't', 'c', 'h'] || earlier.contains (image.map Char.toLower)

/-- `latest`. -/
def latest : List Char := ['l', 'a', 't', 'e', 's', 't']

/-- The image has neither a digest nor a tag other than `latest`. -/
def unpinned (earlier : List (List Char)) (image : List Char) : Bool :=
  !isExempt earlier image && !image.contains '@' && (tag image).all (· = latest)

/-! ### Agreement -/

variable (t : CharTables) (filePath : String)

/-- `IAC-DOCKER-001` is reported. -/
def RootReported (content : List Char) : Prop :=
  ∃ f ∈ auditDockerfileContent t filePath content, f.checkId = "IAC-DOCKER-001"

/-- `IAC-DOCK-002` is reported of a line. -/
def UnpinnedReported (content : List Char) (lineNum : Nat) : Prop :=
  ∃ f ∈ auditDockerfileContent t filePath content,
    f.checkId = "IAC-DOCK-002" ∧ f.lineNumber = some lineNum

/-- The reports are those of Docker's meaning. -/
def AgreesWithDocker (content : List Char) : Prop :=
  (RootReported t filePath content ↔ runsAsRoot content = true) ∧
    ∀ before line after from_ image, numberedLines content = before ++ line :: after →
      fromOf line.1 = some from_ → from_.image = some image →
      (UnpinnedReported t filePath content line.2 ↔ unpinned (stages before) image = true)

/-- The users are read as Docker does: with a user other than root at the end some line names one
that is taken for one, and with root at the end none does. -/
def UsersAgree (content : List Char) : Prop :=
  if runsAsRoot content then
    ∀ line ∈ numberedLines content, isLooked line.1 = true → namesNonRoot line.1 = false
  else ∃ line ∈ numberedLines content, isLooked line.1 = true ∧ namesNonRoot line.1 = true

/-- The image of a line is read as Docker does. -/
structure FromAgrees (earlier : List (List Char)) (line : List Char) (flags : List (List Char))
    (image : List Char) : Prop where
  /-- `FROM` is followed by a blank, or the image is pinned. -/
  blank : startsUpper fromStart line = false → unpinned earlier image = false
  /-- A flag looks as the image is. -/
  flagged : startsUpper fromStart line = true → flags ≠ [] →
    looksUnpinned (fromTarget line) = unpinned earlier image
  /-- Neither `scratch` nor a stage, without a colon. -/
  exempt : startsUpper fromStart line = true → flags = [] → isExempt earlier image = true →
    looksUnpinned image = false
  /-- A digest has a colon. -/
  digest : startsUpper fromStart line = true → flags = [] → '@' ∈ image → looksUnpinned image = false
  /-- A colon is one of a tag, not of a registry alone. -/
  tagged : startsUpper fromStart line = true → flags = [] → isExempt earlier image = false →
    '@' ∉ image → ':' ∈ image → (tag image).isSome = true

/-! ### The findings -/

variable {t filePath}

/-- A finding of a line has the number of the line, and is not about the user. -/
theorem mem_lineFindings {n : Nat} {line : List Char} {f : DockerFinding}
    (mem : f ∈ lineFindings t filePath n line) :
    f.lineNumber = some n ∧ f.checkId ≠ "IAC-DOCKER-001" ∧
      (f.checkId = "IAC-DOCK-002" → startsUpper fromStart line = true ∧
        looksUnpinned (fromTarget line) = true) := by
  simp only [lineFindings] at mem
  split at mem
  · cases mem
  · simp only [List.mem_append] at mem
    rcases mem with ((mem | mem) | mem) | mem <;> split at mem <;>
      first | cases mem; done | cases List.mem_singleton.mp mem; simp_all [onLine]

theorem rootReported_iff {content : List Char} :
    RootReported t filePath content ↔ hasNonRootUser content = false := by
  simp only [RootReported, auditDockerfileContent, List.mem_append, List.mem_flatMap]
  constructor
  · rintro ⟨f, (⟨line, -, mem⟩ | mem) | mem, named⟩
    · exact absurd named (mem_lineFindings mem).2.1
    · split at mem
      · cases mem
      · simpa using ‹¬ hasNonRootUser content = true›
    · split at mem
      · cases mem
      · rw [List.mem_singleton.mp mem] at named
        simp at named
  · intro noUser
    refine ⟨{ checkId := "IAC-DOCKER-001"
              location := filePath
              observedValue := "No non-root USER instruction found".toList
              lineNumber := none }, .inl (.inr ?_), rfl⟩
    rw [if_neg (by simp [noUser])]
    exact List.mem_singleton.mpr rfl

theorem unpinnedReported_iff {content line : List Char} {n : Nat}
    (mem : (line, n) ∈ numberedLines content) (looked : isLooked line = true) :
    UnpinnedReported t filePath content n ↔
      startsUpper fromStart line = true ∧ looksUnpinned (fromTarget line) = true := by
  simp only [UnpinnedReported, auditDockerfileContent, List.mem_append, List.mem_flatMap]
  constructor
  · rintro ⟨f, (⟨⟨line', n'⟩, mem', there⟩ | there) | there, named, number⟩
    · obtain ⟨at_line, -, found⟩ := mem_lineFindings there
      have same : n' = n := Option.some.inj (at_line.symm.trans number)
      subst same
      have first := (List.mk_mem_zipIdx_iff_le_and_getElem?_sub.mp mem).2
      have second := (List.mk_mem_zipIdx_iff_le_and_getElem?_sub.mp mem').2
      rw [Option.some.inj (first.symm.trans second)]
      exact found named
    · split at there
      · cases there
      · rw [List.mem_singleton.mp there] at named
        simp at named
    · split at there
      · cases there
      · rw [List.mem_singleton.mp there] at named
        simp at named
  · rintro ⟨taken, looks⟩
    refine ⟨onLine filePath "IAC-DOCK-002" n line, .inl (.inl ⟨(line, n), mem, ?_⟩), rfl, rfl⟩
    rw [lineFindings, looked]
    refine List.mem_append_left _ (List.mem_append_left _ (List.mem_append_left _ ?_))
    rw [taken, looks]
    exact List.mem_singleton.mpr rfl

/-! ### The word that is looked at -/

theorem isSpace_of_toUpper {c : Char} (letter : isSpace c.toUpper = false) : isSpace c = false := by
  rw [Char.toUpper] at letter
  split at letter
  next lower =>
    apply isSpace_alphanumeric
    have isLower : c.isLower = true := by
      simp only [Char.isLower, ge_iff_le, decide_eq_true_eq, Bool.and_eq_true]
      exact lower
    simp [Char.isAlphanum, Char.isAlpha, isLower]
  next => exact letter

theorem blank_of_toUpper {c : Char} (blank : c.toUpper = ' ') : c = ' ' := by
  rw [Char.toUpper] at blank
  split at blank
  next lower =>
    have value : (c.val + ('A'.val - 'a'.val)).toNat = 32 := congrArg (fun d => d.val.toNat) blank
    have shift : ('A'.val - 'a'.val).toNat = 4294967264 := rfl
    have first : 97 ≤ c.val.toNat := lower.1
    have last : c.val.toNat ≤ 122 := lower.2
    rw [UInt32.toNat_add, shift] at value
    omega
  next => exact blank

/-- No character outside ASCII gives two letters of `FROM `. -/
theorem upperTable_pairs :
    ∀ entry ∈ upperTable, entry.2 ≠ [] ∧ ∀ pair ∈ [('F', 'R'), ('R', 'O'), ('O', 'M'), ('M', ' ')],
      entry.2.head? ≠ some pair.1 ∨ entry.2[1]?.any (· ≠ pair.2) = true := by
  decide +kernel

/-- A letter of the keyword is one of the line, in either case. -/
theorem letter_of_upper {x y : Char} {xs line : List Char}
    (plain : (x, y) ∈ [('F', 'R'), ('R', 'O'), ('O', 'M'), ('M', ' ')])
    (start : startsUpper (x :: y :: xs) line = true) :
    ∃ c cs, line = c :: cs ∧ c.toUpper = x ∧ startsUpper (y :: xs) cs = true := by
  cases line with
  | nil => cases start
  | cons c cs =>
      rw [startsUpper, List.flatMap_cons, List.isPrefixOf_iff_prefix, upperChar] at start
      refine ⟨c, cs, rfl, ?_⟩
      cases found : upperTable.lookup c with
      | none =>
          rw [found] at start
          obtain ⟨same, rest⟩ := List.cons_prefix_cons.mp start
          exact ⟨same.symm, List.isPrefixOf_iff_prefix.mpr rest⟩
      | some up =>
          rw [found] at start
          obtain ⟨l, r, table, -⟩ := List.lookup_eq_some_iff.mp found
          have known : (c, up) ∈ upperTable := table ▸ List.mem_append_right l List.mem_cons_self
          obtain ⟨some, other⟩ := upperTable_pairs _ known
          have other := other _ plain
          cases up with
          | nil => exact (some rfl).elim
          | cons a up =>
              obtain ⟨first, rest⟩ := List.cons_prefix_cons.mp start
              cases up with
              | nil => simp [first] at other
              | cons b up =>
                  obtain ⟨second, -⟩ := List.cons_prefix_cons.mp rest
                  simp [first, second] at other

theorem blank_of_upper {line : List Char} (start : startsUpper [' '] line = true) :
    ∃ cs, line = ' ' :: cs := by
  cases line with
  | nil => cases start
  | cons c cs =>
      rw [startsUpper, List.flatMap_cons, List.isPrefixOf_iff_prefix, upperChar] at start
      cases found : upperTable.lookup c with
      | none =>
          rw [found] at start
          obtain ⟨same, -⟩ := List.cons_prefix_cons.mp start
          exact ⟨cs, by rw [blank_of_toUpper same.symm]⟩
      | some up =>
          rw [found] at start
          obtain ⟨l, r, table, -⟩ := List.lookup_eq_some_iff.mp found
          have known : (c, up) ∈ upperTable := table ▸ List.mem_append_right l List.mem_cons_self
          have letters : ∀ entry ∈ upperTable, entry.2 ≠ [] ∧ entry.2.head? ≠ some ' ' := by
            decide +kernel
          obtain ⟨some, other⟩ := letters _ known
          cases up with
          | nil => exact (some rfl).elim
          | cons a up => exact (other (congrArg Option.some (List.cons_prefix_cons.mp start).1.symm)).elim

/-- After `FROM ` the words are the arguments. -/
theorem words_from {line : List Char} (start : startsUpper fromStart line = true) :
    ∃ keyword, words line = keyword :: words (line.drop 5) := by
  obtain ⟨f, cs, rfl, upF, start⟩ := letter_of_upper (by simp) start
  obtain ⟨r, cs, rfl, upR, start⟩ := letter_of_upper (by simp) start
  obtain ⟨o, cs, rfl, upO, start⟩ := letter_of_upper (by simp) start
  obtain ⟨m, cs, rfl, upM, start⟩ := letter_of_upper (by simp) start
  obtain ⟨cs, rfl⟩ := blank_of_upper start
  have letters : ∀ c ∈ [f, r, o, m], isSpace c = false := by
    intro c mem
    apply isSpace_of_toUpper
    simp only [List.mem_cons, List.not_mem_nil, or_false] at mem
    rcases mem with rfl | rfl | rfl | rfl
    · rw [upF]; decide
    · rw [upR]; decide
    · rw [upO]; decide
    · rw [upM]; decide
  exact ⟨[f, r, o, m], words_append_space letters nofun (by decide) cs⟩

/-- Without a flag the word that is looked at is the image. -/
theorem fromTarget_image {line image : List Char} {from_ : FromInstruction}
    (start : startsUpper fromStart line = true) (is_from : fromOf line = some from_)
    (noFlag : from_.flags = []) (at_image : from_.image = some image) : fromTarget line = image := by
  obtain ⟨keyword, split⟩ := words_from start
  rw [fromOf, split] at is_from
  split at is_from
  next => cases is_from
  next keyword' args same =>
    cases same
    split at is_from
    next =>
      cases is_from
      have whole := List.takeWhile_append_dropWhile (p := isFlag) (l := words (line.drop 5))
      simp only at noFlag at_image
      rw [noFlag, List.nil_append] at whole
      rw [whole] at at_image
      rw [fromTarget, words_stripChars, List.headD_eq_head?_getD, at_image]
      rfl
    next => cases is_from

/-! ### Images -/

theorem looksUnpinned_iff {image : List Char} :
    looksUnpinned image = true ↔ ':' ∉ image ∨ ':' :: latest <:+ image := by
  rw [looksUnpinned, Bool.or_eq_true, Bool.not_eq_true', List.isSuffixOf_iff_suffix]
  simp [latest]

theorem tag_none {image : List Char} (plain : ':' ∉ image) : tag image = none := by
  refine if_neg fun mem => plain ?_
  exact List.mem_reverse.mp ((List.takeWhile_prefix _).subset mem)

/-- A tag ends the image. -/
theorem tag_suffix {image name : List Char} (tagged : tag image = some name) :
    ':' :: name <:+ image := by
  rw [tag] at tagged
  split at tagged
  next mem =>
    have whole := List.takeWhile_append_dropWhile (p := (· ≠ ':')) (l := image.reverse.takeWhile (· ≠ '/'))
    cases rest : (image.reverse.takeWhile (· ≠ '/')).dropWhile (· ≠ ':') with
    | nil =>
        rw [rest, List.append_nil] at whole
        rw [← whole] at mem
        have other := List.all_eq_true.mp List.all_takeWhile ':' mem
        simp at other
    | cons c cs =>
        have colon : c = ':' := by
          have stop := List.head?_dropWhile_not (· ≠ ':') (image.reverse.takeWhile (· ≠ '/'))
          rw [rest] at stop
          simpa using stop
        subst colon
        have front : (image.reverse.takeWhile (· ≠ '/')).takeWhile (· ≠ ':') ++ [':'] <+: image.reverse := by
          refine List.IsPrefix.trans ?_ (List.takeWhile_prefix (· ≠ '/'))
          exact ⟨cs, by rw [List.append_assoc, List.singleton_append, ← rest, whole]⟩
        rw [← Option.some.inj tagged]
        rw [← List.reverse_prefix]
        simpa using front
  next => cases tagged

/-- An image that ends in `:latest` has that tag. -/
theorem tag_latest {image : List Char} (ends : ':' :: latest <:+ image) : tag image = some latest := by
  obtain ⟨front, rfl⟩ := ends
  simp [tag, latest, List.takeWhile]

/-- An image with a colon, and no digest, looks as it is when it has a tag. -/
theorem looks_tag {earlier : List (List Char)} {image : List Char} (own : isExempt earlier image = false)
    (noDigest : '@' ∉ image) :
    (looksUnpinned image = true ↔ unpinned earlier image = true) ↔
      (':' ∈ image → (tag image).isSome = true) := by
  have unpinned_tag : unpinned earlier image = true ↔ ∀ name ∈ tag image, name = latest := by
    cases at_tag : tag image <;> simp [unpinned, own, noDigest, at_tag]
  rw [unpinned_tag, looksUnpinned_iff]
  by_cases colon : ':' ∈ image
  · cases tagged : tag image with
    | none =>
        have other : ¬ ':' :: latest <:+ image := fun ends => by
          rw [tag_latest ends] at tagged
          cases tagged
        simp [colon, other]
    | some name =>
        have same : ':' :: latest <:+ image ↔ name = latest := by
          constructor
          · intro ends
            rw [tag_latest ends] at tagged
            exact (Option.some.inj tagged).symm
          · rintro rfl
            exact tag_suffix tagged
        simp [colon, same]
  · simp [colon, tag_none colon]

/-! ### Files -/

theorem fromAgrees_iff {earlier : List (List Char)} {line image : List Char} {from_ : FromInstruction}
    (is_from : fromOf line = some from_) (at_image : from_.image = some image) :
    ((startsUpper fromStart line = true ∧ looksUnpinned (fromTarget line) = true) ↔
        unpinned earlier image = true) ↔
      FromAgrees earlier line from_.flags image := by
  by_cases start : startsUpper fromStart line = true
  · simp only [start, true_and]
    by_cases noFlag : from_.flags = []
    · rw [fromTarget_image start is_from noFlag at_image]
      by_cases own : isExempt earlier image = true
      · have pinned : unpinned earlier image = false := by simp [unpinned, own]
        simp only [pinned, Bool.false_eq_true, iff_false, Bool.not_eq_true]
        exact ⟨fun looks => ⟨by simp [start], fun _ some => (some noFlag).elim, fun _ _ _ => looks,
          fun _ _ _ => looks, by simp [own]⟩, fun agrees => agrees.exempt start noFlag own⟩
      · rw [Bool.not_eq_true] at own
        by_cases digest : '@' ∈ image
        · have pinned : unpinned earlier image = false := by simp [unpinned, digest]
          simp only [pinned, Bool.false_eq_true, iff_false, Bool.not_eq_true]
          exact ⟨fun looks => ⟨by simp [start], fun _ some => (some noFlag).elim, fun _ _ _ => looks,
            fun _ _ _ => looks, fun _ _ _ none => (none digest).elim⟩,
            fun agrees => agrees.digest start noFlag digest⟩
        · rw [looks_tag own digest]
          exact ⟨fun tagged => ⟨by simp [start], fun _ some => (some noFlag).elim, by simp [own],
            fun _ _ some => (digest some).elim, fun _ _ _ _ => tagged⟩,
            fun agrees => agrees.tagged start noFlag own digest⟩
    · rw [← Bool.eq_iff_iff]
      exact ⟨fun same => ⟨by simp [start], fun _ _ => same, fun _ none => (noFlag none).elim,
        fun _ none => (noFlag none).elim, fun _ none => (noFlag none).elim⟩,
        fun agrees => agrees.flagged start noFlag⟩
  · rw [Bool.not_eq_true] at start
    simp only [start, Bool.false_eq_true, false_and, false_iff, Bool.not_eq_true]
    exact ⟨fun pinned => ⟨fun _ => pinned, by simp [start], by simp [start], by simp [start],
      by simp [start]⟩, fun agrees => agrees.blank start⟩

theorem from_looked {line : List Char} {from_ : FromInstruction} (is_from : fromOf line = some from_) :
    isLooked line = true := by
  cases line with
  | nil => cases is_from
  | cons c cs =>
      by_cases comment : c = '#'
      · subst comment
        obtain ⟨word, rest, first⟩ := @wordsAfter_head ['#'] nofun cs
        have split : words ('#' :: cs) = ('#' :: word) :: rest := first
        simp [fromOf, split] at is_from
      · simp [isLooked, comment]

theorem usersAgree_iff {content : List Char} :
    (RootReported t filePath content ↔ runsAsRoot content = true) ↔ UsersAgree content := by
  rw [rootReported_iff, UsersAgree, hasNonRootUser]
  by_cases root : runsAsRoot content = true
  · simp [root]
  · simp [root]

/-- A file that ends as root, with the group named. -/
def rootGroup : List Char := "FROM alpine:3.18\nUSER root:root".toList

end DockerfileAuditor

end CyberAssess
