import CyberAssess.Guarantees.PayloadContainment
import CyberAssess.Installers.Archive

/-!
# Guarantees — an archive is extracted as it was packed

Every archive of members comes to what its members come to, in order.

* `readEntry_newc`: an entry that was written is read, wherever it stands.
* `cleanName_member`, `placeEntry_member`: the name of a member passes, and it goes where it belongs.
* `rounds_archive`: the loop takes one member after the other.
* `extract_archive` puts them together, for members of different names.
-/

namespace CyberAssess.Payload

open FileTree (RelPath joined joined_inj isName notMem_of_isName)

/-! ### Positions -/

theorem aligned_eq (pos : Nat) : aligned pos = pos + (4 - pos % 4) % 4 := by
  rw [aligned]
  split <;> omega

theorem length_padded (bs : Bytes) : (padded bs).length = aligned bs.length := by
  rw [padded, List.length_append, List.length_replicate, aligned_eq]

theorem aligned_add {pos : Nat} (h : pos % 4 = 0) (k : Nat) :
    aligned (pos + k) = pos + aligned k := by
  rw [aligned_eq, aligned_eq]
  omega

theorem aligned_mod (k : Nat) : aligned k % 4 = 0 := by
  rw [aligned_eq]
  omega

theorem slice_append (before after : Bytes) (i n : Nat) :
    slice (before ++ after) (before.length + i) n = slice after i n := by
  rw [slice, slice, List.drop_length_add_append]

/-- What stands at a position. -/
theorem slice_middle (before middle after : Bytes) :
    slice (before ++ (middle ++ after)) before.length middle.length = middle := by
  have front := slice_append before (middle ++ after) 0 middle.length
  rw [Nat.add_zero] at front
  rw [front, slice, List.drop_zero, List.take_left' rfl]

/-- A field of a header. -/
theorem slice_field {fields : List Nat} {i n : Nat} (rest : Bytes) (h : fields[i]? = some n) :
    slice (fields.flatMap (hexField 8) ++ rest) (8 * i) 8 = hexField 8 n := by
  induction fields generalizing i with
  | nil => cases h
  | cons f fields ih =>
      rw [List.flatMap_cons, List.append_assoc]
      cases i with
      | zero =>
          obtain rfl := Option.some.inj h
          have first := slice_middle [] (hexField 8 f) (fields.flatMap (hexField 8) ++ rest)
          rwa [length_hexField] at first
      | succ i =>
          have next := slice_append (hexField 8 f) (fields.flatMap (hexField 8) ++ rest) (8 * i) 8
          rw [length_hexField] at next
          rw [show 8 * (i + 1) = 8 + 8 * i from by omega, next]
          exact ih h

theorem length_newcHeader (mode filesize namesize : Nat) :
    (newcHeader mode filesize namesize).length = 110 := by
  simp [newcHeader]

theorem length_newcFront (mode : Nat) (name : List Char) (content : Bytes) :
    (newcFront mode name content).length = 110 + ((nameBytes name).length + 1) := by
  rw [newcFront, List.length_append, length_newcHeader, List.length_append, List.length_singleton]

/-! ### Reading -/

section Decoded

variable {decode : Bytes → List Char} {t : Targets}

/-- The fields of a header that was written. -/
theorem headerFields_newc (before rest : Bytes) {mode filesize namesize : Nat} (hm : mode < 16 ^ 8)
    (hf : filesize < 16 ^ 8) (hn : namesize < 16 ^ 8) :
    headerFields (before ++ (newcHeader mode filesize namesize ++ rest)) before.length =
      some (↑mode, 0, ↑filesize, ↑namesize) := by
  have field {i n : Nat} (h : ([0, mode, 0, 0, 1, 0, filesize, 0, 0, 0, 0, namesize, 0] :
      List Nat)[i]? = some n) (small : n < 16 ^ 8) :
      intHex (slice (before ++ (newcHeader mode filesize namesize ++ rest))
        (before.length + (6 + 8 * i)) 8) = some (n : Int) := by
    rw [slice_append, newcHeader, List.append_assoc]
    have magic := slice_append [48, 55, 48, 55, 48, 49]
      (([0, mode, 0, 0, 1, 0, filesize, 0, 0, 0, 0, namesize, 0] : List Nat).flatMap (hexField 8) ++
        rest) (8 * i) 8
    rw [show 6 + 8 * i = ([48, 55, 48, 55, 48, 49] : Bytes).length + 8 * i from rfl, magic,
      slice_field rest h, intHex_hexField small]
  have modes := field (i := 1) rfl hm
  have owner := field (i := 2) rfl (by decide : 0 < 16 ^ 8)
  have sizes := field (i := 6) rfl hf
  have lengths := field (i := 11) rfl hn
  rw [headerFields]
  simp only [Nat.reduceMul, Nat.reduceAdd] at modes owner sizes lengths
  rw [modes, owner, sizes, lengths]
  rfl

/-- An entry that was written is read. -/
theorem readEntry_newc {before : Bytes} (rest : Bytes) {mode : Nat} {name : List Char}
    {content : Bytes} (even : before.length % 4 = 0) (hm : mode < 16 ^ 8) (named : decode (nameBytes name) = name)
    (short : (nameBytes name).length + 1 ≤ cpioMaxNamesize)
    (small : content.length ≤ cpioMaxFilesize) :
    readEntry decode (before ++ (newcEntry mode name content ++ rest)) before.length =
      if isTrailer name then .ok none
      else .ok (some
        ⟨mode, 0, name, content, (before ++ newcEntry mode name content).length⟩) := by
  have front : newcEntry mode name content ++ rest =
      newcHeader mode content.length ((nameBytes name).length + 1) ++ (nameBytes name ++
        ([0] ++ (List.replicate ((4 - (newcFront mode name content).length % 4) % 4) 0 ++
          (padded content ++ rest)))) := by
    simp only [newcEntry, padded, newcFront, List.append_assoc]
  have width := length_newcFront mode name content
  have fields := headerFields_newc before (nameBytes name ++
    ([0] ++ (List.replicate ((4 - (newcFront mode name content).length % 4) % 4) 0 ++
      (padded content ++ rest)))) hm (small.trans_lt (by decide)) (short.trans_lt (by decide))
  rw [← front] at fields
  have start : aligned (before.length + 110 + ((nameBytes name).length + 1)) =
      (before ++ padded (newcFront mode name content)).length := by
    rw [Nat.add_assoc, aligned_add even, List.length_append, length_padded, width]
  have total : (before ++ (newcEntry mode name content ++ rest)).length =
      (before ++ padded (newcFront mode name content)).length + (padded content).length +
        rest.length := by
    simp only [newcEntry, List.length_append]
    omega
  have fits : before.length + 110 + ((nameBytes name).length + 1) ≤
      (before ++ (newcEntry mode name content ++ rest)).length := by
    have le := le_aligned (before.length + 110 + ((nameBytes name).length + 1))
    omega
  have size : (before ++ padded (newcFront mode name content)).length + content.length ≤
      (before ++ (newcEntry mode name content ++ rest)).length := by
    have le := le_aligned content.length
    rw [total, length_padded content]
    omega
  have text : slice (before ++ (newcEntry mode name content ++ rest)) (before.length + 110)
      (nameBytes name).length = nameBytes name := by
    rw [slice_append, front]
    have middle := slice_middle (newcHeader mode content.length ((nameBytes name).length + 1))
      (nameBytes name) ([0] ++ (List.replicate
        ((4 - (newcFront mode name content).length % 4) % 4) 0 ++ (padded content ++ rest)))
    rwa [length_newcHeader] at middle
  have body : slice (before ++ (newcEntry mode name content ++ rest))
      (before ++ padded (newcFront mode name content)).length content.length = content := by
    have cut : before ++ (newcEntry mode name content ++ rest) =
        before ++ padded (newcFront mode name content) ++
          (content ++ (List.replicate ((4 - content.length % 4) % 4) 0 ++ rest)) := by
      simp only [newcEntry, padded, List.append_assoc]
    rw [cut]
    exact slice_middle _ _ _
  have ends : aligned ((before ++ padded (newcFront mode name content)).length + content.length) =
      (before ++ newcEntry mode name content).length := by
    have even' : (before ++ padded (newcFront mode name content)).length % 4 = 0 := by
      rw [← start]
      exact aligned_mod _
    have whole : (before ++ newcEntry mode name content).length =
        (before ++ padded (newcFront mode name content)).length + (padded content).length := by
      rw [newcEntry, ← List.append_assoc]
      exact List.length_append
    rw [aligned_add even', whole, length_padded content]
  have lengths : (1 : Int) ≤ ((nameBytes name).length + 1 : Nat) ∧
      (((nameBytes name).length + 1 : Nat) : Int) ≤ cpioMaxNamesize := by
    constructor <;> omega
  have sizes : (0 : Int) ≤ (content.length : Nat) ∧
      ((content.length : Nat) : Int) ≤ cpioMaxFilesize := by
    constructor <;> omega
  rw [readEntry, fields]
  simp only [Checked.require, Option.elim_some, Checked.ensure, decide_eq_true lengths, bind,
    Except.bind, decide_eq_true sizes, Int.toNat_natCast, if_true, decide_eq_true fits,
    Nat.add_sub_cancel, text, named, start, decide_eq_true size, body, ends]
  rfl

/-! ### Names -/

theorem joined_cons_cons (n k : String) (names : List String) :
    joined (n :: k :: names) = n.toList ++ '/' :: joined (k :: names) := rfl

/-- Names are the components of what joins them. -/
theorem splitOn_joined : ∀ {names : List String}, names ≠ [] →
    (∀ n ∈ names, isName n = true) → (joined names).splitOn '/' = names.map String.toList
  | [n], _, h => List.splitOn_eq_singleton (notMem_of_isName (h n List.mem_cons_self)).2.1
  | n :: k :: names, _, h => by
      have rest : (joined (k :: names)).splitOn '/' = (k :: names).map String.toList :=
        splitOn_joined (by simp) fun x hx => h x (List.mem_cons_of_mem n hx)
      rw [joined_cons_cons, List.splitOn_append_cons_self, rest,
        List.splitOn_eq_singleton (notMem_of_isName (h n List.mem_cons_self)).2.1]
      rfl

theorem ne_of_isName {name : String} (h : isName name = true) :
    name.toList ≠ [] ∧ name.toList ≠ ['.'] ∧ name.toList ≠ ['.', '.'] := by
  simp only [isName, Bool.and_eq_true, decide_eq_true_eq] at h
  obtain ⟨⟨⟨nonempty, dot⟩, dots⟩, -⟩ := h
  refine ⟨fun same => nonempty ?_, fun same => dot ?_, fun same => dots ?_⟩ <;>
    exact String.toList_inj.mp (same.trans rfl)

theorem head_joined {names : List String} (h : ∀ n ∈ names, isName n = true) :
    (joined names).head? ≠ some '/' := by
  intro slash
  cases names with
  | nil => cases slash
  | cons n names =>
      obtain ⟨nonempty, clean, -⟩ := notMem_of_isName (h n List.mem_cons_self)
      obtain ⟨c, cs, first⟩ := List.exists_cons_of_ne_nil nonempty
      have head : (joined (n :: names)).head? = some c := by
        cases names with
        | nil => rw [joined, first]; rfl
        | cons k names => rw [joined_cons_cons, first]; rfl
      rw [head] at slash
      rw [first] at clean
      exact clean (Option.some.inj slash ▸ List.mem_cons_self)

theorem components_joined {names : List String} (given : names ≠ [])
    (h : ∀ n ∈ names, isName n = true) : components (joined names) = names.map String.toList := by
  rw [components, splitOn_joined given h, List.filter_eq_self]
  intro part member
  obtain ⟨n, known, rfl⟩ := List.mem_map.mp member
  obtain ⟨nonempty, dot, -⟩ := ne_of_isName (h n known)
  exact decide_eq_true ⟨nonempty, dot⟩

theorem dots_joined {names : List String} (given : names ≠ [])
    (h : ∀ n ∈ names, isName n = true) : ['.', '.'] ∉ (joined names).splitOn '/' := by
  rw [splitOn_joined given h]
  intro member
  obtain ⟨n, known, same⟩ := List.mem_map.mp member
  exact (ne_of_isName (h n known)).2.2 same

theorem Member.names_given (m : Member) : m.names ≠ [] ∧ ∀ n ∈ m.names, isName n = true := by
  cases m with
  | binary content =>
      have known : ∀ n ∈ ["usr", "bin", "nmap"], isName n = true := by decide
      exact ⟨by simp [names], known⟩
  | resource path content executable | directory path =>
      refine ⟨by simp [names], fun n member => ?_⟩
      simp only [names, List.mem_cons] at member
      rcases member with rfl | rfl | rfl | member
      · decide
      · decide
      · decide
      · exact path.names n member

/-- The name of a member passes, as its names between slashes. -/
theorem cleanName_member {m : Member} (plain : '\\' ∉ m.name) :
    cleanName m.name = .ok (joined m.names) := by
  obtain ⟨given, names⟩ := m.names_given
  have norm : (m.name.map fun c => if c = '\\' then '/' else c) = m.name := by
    refine (List.map_congr_left fun c member => ?_).trans (List.map_id _)
    have other : c ≠ '\\' := by
      rintro rfl
      exact plain member
    rw [if_neg other]
    rfl
  have split : m.name.splitOn '/' = [['.']] ++ (joined m.names).splitOn '/' :=
    List.splitOn_append_cons_self ['.'] (joined m.names)
  have dots : hasDots m.name = false := by
    rw [hasDots_eq_false, split, List.mem_append, not_or]
    exact ⟨by decide, dots_joined given names⟩
  have rest_dots : hasDots (joined m.names) = false := hasDots_eq_false.mpr (dots_joined given names)
  have front : ['.', '/'] <+: m.name := ⟨joined m.names, rfl⟩
  have rest : m.name.drop 2 = joined m.names := rfl
  rw [cleanName, norm]
  simp only [Checked.refuse, bind, Except.bind, dots, decide_false, front, if_true, rest,
    head_joined names, rest_dots, Bool.or_self]
  rfl

/-! ### Placing -/

/-- Where a path of the resources goes. -/
def Targets.place (t : Targets) (path : RelPath) : AbsPath :=
  ⟨t.res.doubled, t.res.parts ++ path.parts.map String.toList⟩

/-- What a member comes to; of a file without content nothing. -/
def Member.effects (t : Targets) : Member → List Effect
  | binary content => [.write t.bin content, .chmod t.bin 0o755]
  | resource path content executable =>
      if content = [] then []
      else [.makedirs (t.place path).dirname, .write (t.place path) content] ++
        if executable then [.chmod (t.place path) 0o755] else []
  | directory path => [.makedirs (t.place path)]

/-- Four parts between slashes, of which three come before the last slash. -/
theorem append_slashes (a b c rest : List Char) :
    a ++ '/' :: (b ++ '/' :: (c ++ '/' :: rest)) = a ++ '/' :: (b ++ '/' :: c) ++ ['/'] ++ rest := by
  simp

theorem joined_resource (path : RelPath) :
    joined ("usr" :: "share" :: "nmap" :: path.parts) = resourcePrefix ++ joined path.parts := by
  obtain ⟨parts, given, -⟩ := path
  have text : "usr/share/nmap".toList =
      "usr".toList ++ '/' :: ("share".toList ++ '/' :: "nmap".toList) := by simp
  cases parts with
  | nil => exact absurd rfl given
  | cons p ps =>
      calc joined ("usr" :: "share" :: "nmap" :: p :: ps)
          = "usr".toList ++ '/' ::
              ("share".toList ++ '/' :: ("nmap".toList ++ '/' :: joined (p :: ps))) := rfl
        _ = "usr".toList ++ '/' :: ("share".toList ++ '/' :: "nmap".toList) ++ ['/'] ++
              joined (p :: ps) :=
            append_slashes _ _ _ _
        _ = resourcePrefix ++ joined (p :: ps) :=
            congrArg (fun front => front ++ ['/'] ++ joined (p :: ps)) text.symm

theorem destination_joined (t : Targets) (path : RelPath) :
    destination t.res (joined path.parts) = t.place path := by
  rw [destination, if_neg (head_joined path.names), components_joined path.nonempty path.names]
  rfl

theorem joined_ne_nil (path : RelPath) : joined path.parts ≠ [] := by
  intro empty
  have split := splitOn_joined path.nonempty path.names
  rw [empty, List.splitOn_nil] at split
  have dot : ([] : List Char) ∈ path.parts.map String.toList := split ▸ List.mem_cons_self
  obtain ⟨n, known, same⟩ := List.mem_map.mp dot
  exact (ne_of_isName (path.names n known)).1 same

/-- The name of a resource is not that of the executable. -/
theorem joined_ne_binary (path : RelPath) :
    joined ("usr" :: "share" :: "nmap" :: path.parts) ≠ "usr/bin/nmap".toList := by
  intro same
  have text : "usr/bin/nmap".toList = joined ["usr", "bin", "nmap"] := by decide
  have names : ∀ n ∈ ["usr", "bin", "nmap"], isName n = true := by decide
  have parts : "usr" :: "share" :: "nmap" :: path.parts = ["usr", "bin", "nmap"] :=
    joined_inj (by simp) (by simp) (Member.directory path).names_given.2 names (same.trans text)
  exact path.nonempty (List.cons.inj (List.cons.inj (List.cons.inj parts).2).2).2

/-- The type of a member. -/
def Member.fileType : Member → Nat
  | binary _ | resource _ _ _ => isReg
  | directory _ => isDir

theorem masked_mode (m : Member) : masked m.mode 0o170000 = m.fileType := by
  have executable : masked ((0o100755 : Nat) : Int) 0o170000 = isReg := by decide
  have plain : masked ((0o100644 : Nat) : Int) 0o170000 = isReg := by decide
  have directory : masked ((0o040755 : Nat) : Int) 0o170000 = isDir := by decide
  cases m with
  | binary content => exact executable
  | resource path content x =>
      cases x with
      | true => exact executable
      | false => exact plain
  | directory path => exact directory

/-- Whether one of the permissions to execute is given. -/
theorem masked_executable (path : RelPath) (content : Bytes) (x : Bool) :
    (masked (Member.resource path content x).mode 0o111 ≠ 0) ↔ x = true := by
  have given : masked ((0o100755 : Nat) : Int) 0o111 ≠ 0 := by decide
  have withheld : masked ((0o100644 : Nat) : Int) 0o111 = 0 := by decide
  cases x with
  | true => exact ⟨fun _ => rfl, fun _ => given⟩
  | false =>
      refine ⟨fun h => absurd withheld h, fun h => ?_⟩
      cases h

/-- What is placed of an entry whose name passes. -/
theorem placeEntry_clean {e : RawEntry} {written : List AbsPath} {clean : List Char} {type : Nat}
    (bits : masked e.mode 0o170000 = type) (known : type = isDir ∨ type = isReg)
    (owner : e.nlink = 0) (named : cleanName e.name = .ok clean) :
    placeEntry t written e =
      if clean = "usr/bin/nmap".toList ∧ type = isReg then do
        Checked.refuse (t.bin ∈ written) "CPIO duplicate entry for nmap binary — rejected"
        .ok [.write t.bin e.content, .chmod t.bin 0o755]
      else if resourcePrefix <+: clean then
        placeResource t written e (clean.drop resourcePrefix.length)
      else .ok [] := by
  have regular : ¬ type = isSymlink := by
    rcases known with rfl | rfl <;> decide
  have links : ¬ (type = isReg ∧ 1 < e.nlink ∧ e.content ≠ []) := by
    rintro ⟨-, more, -⟩
    omega
  have kept : ¬ (type ≠ isDir ∧ type ≠ isReg) := by tauto
  rw [placeEntry]
  simp only [bits, regular, links, kept, decide_false, Checked.refuse, named, bind, Except.bind,
    if_false]
  rfl

/-- What is placed of a resource. -/
theorem placeResource_joined {e : RawEntry} {written : List AbsPath} (path : RelPath) :
    placeResource t written e (joined path.parts) =
      if masked e.mode 0o170000 = isDir then .ok [.makedirs (t.place path)]
      else if e.content = [] then .ok []
      else (do
        Checked.refuse (t.place path ∈ written)
          ("CPIO duplicate path rejected: " ++ String.ofList (joined path.parts))
        .ok ([.makedirs (t.place path).dirname, .write (t.place path) e.content] ++
          if masked e.mode 0o111 ≠ 0 then [.chmod (t.place path) 0o755] else [])) := by
  have above : t.res.parts <+: (t.place path).parts := ⟨_, rfl⟩
  rw [placeResource, if_neg (joined_ne_nil path), destination_joined]
  simp only [above, decide_true, Checked.ensure, if_true, bind, Except.bind]
  rfl

/-- A member is placed where it belongs, if its file has not been written. -/
theorem placeEntry_member {m : Member} {written : List AbsPath} (next : Nat) (plain : '\\' ∉ m.name)
    (fresh : ∀ p ∈ (m.effects t).filterMap Effect.written, p ∉ written) :
    placeEntry t written ⟨m.mode, 0, m.name, m.content, next⟩ = .ok (m.effects t) := by
  have bits := masked_mode m
  have known : m.fileType = isDir ∨ m.fileType = isReg := by
    cases m with
    | binary | resource => exact .inr rfl
    | directory => exact .inl rfl
  rw [placeEntry_clean bits known rfl (cleanName_member plain)]
  cases m with
  | binary content =>
      have new : t.bin ∉ written := fresh t.bin (by simp [Member.effects, Effect.written])
      have text : joined (Member.binary content).names = "usr/bin/nmap".toList := by
        rw [Member.names]
        decide
      rw [if_pos ⟨text, rfl⟩, Checked.refuse, decide_eq_false new]
      rfl
  | resource path content x =>
      have under : resourcePrefix <+: joined (Member.resource path content x).names :=
        ⟨joined path.parts, (joined_resource path).symm⟩
      have rest : (joined (Member.resource path content x).names).drop resourcePrefix.length =
          joined path.parts := by
        rw [Member.names, joined_resource, List.drop_left]
      rw [if_neg fun both => joined_ne_binary path both.1, if_pos under, rest, placeResource_joined,
        bits, Member.fileType, if_neg (by decide)]
      by_cases empty : content = []
      · rw [Member.content, if_pos empty, Member.effects, if_pos empty]
      · have effects : (Member.resource path content x).effects t =
            [.makedirs (t.place path).dirname, .write (t.place path) content] ++
              if masked (Member.resource path content x).mode 0o111 ≠ 0 then
                [.chmod (t.place path) 0o755] else [] := by
          rw [Member.effects, if_neg empty]
          refine congrArg _ (if_congr ?_ rfl rfl)
          exact (masked_executable path content x).symm
        have new : t.place path ∉ written := by
          refine fresh _ ?_
          rw [effects]
          simp [Effect.written]
        rw [effects, Member.content, if_neg empty, Checked.refuse, decide_eq_false new]
        rfl
  | directory path =>
      have under : resourcePrefix <+: joined (Member.directory path).names :=
        ⟨joined path.parts, (joined_resource path).symm⟩
      have rest : (joined (Member.directory path).names).drop resourcePrefix.length =
          joined path.parts := by
        rw [Member.names, joined_resource, List.drop_left]
      rw [if_neg fun both => joined_ne_binary path both.1, if_pos under, rest, placeResource_joined,
        bits, Member.fileType, if_pos rfl, Member.effects]

/-! ### The archive -/

/-- A member whose name is decoded and passes, and that is not too large. -/
structure Member.Packed (decode : Bytes → List Char) (m : Member) : Prop where
  named : decode (nameBytes m.name) = m.name
  plain : '\\' ∉ m.name
  other : isTrailer m.name = false
  short : (nameBytes m.name).length + 1 ≤ cpioMaxNamesize
  small : m.content.length ≤ cpioMaxFilesize

theorem Member.mode_lt (m : Member) : m.mode < 16 ^ 8 := by
  cases m with
  | binary content => exact (by decide : 0o100755 < 16 ^ 8)
  | resource path content x =>
      cases x with
      | true => exact (by decide : 0o100755 < 16 ^ 8)
      | false => exact (by decide : 0o100644 < 16 ^ 8)
  | directory path => exact (by decide : 0o040755 < 16 ^ 8)

theorem length_newcEntry (mode : Nat) (name : List Char) (content : Bytes) :
    110 < (newcEntry mode name content).length ∧ (newcEntry mode name content).length % 4 = 0 := by
  have width := length_newcFront mode name content
  have le := le_aligned (newcFront mode name content).length
  have front := aligned_mod (newcFront mode name content).length
  have back := aligned_mod content.length
  rw [newcEntry, List.length_append, length_padded, length_padded]
  constructor <;> omega

/-- An entry that was written is not taken for the end: what is read of it decides. -/
theorem round_newc {before rest : Bytes} {mode : Nat} {name : List Char} {content : Bytes}
    {x : Extraction} (position : x.pos = before.length) :
    (readEntry decode (before ++ (newcEntry mode name content ++ rest)) before.length = .ok none →
        x.round decode t (before ++ (newcEntry mode name content ++ rest)) = .ends) ∧
      ∀ e y, readEntry decode (before ++ (newcEntry mode name content ++ rest)) before.length =
        .ok (some e) → x.take t e = .ok y →
        x.round decode t (before ++ (newcEntry mode name content ++ rest)) = .goes y := by
  -- neither the length of what is left nor the magic ends the loop
  have long : ¬ (before ++ (newcEntry mode name content ++ rest)).length ≤ x.pos + 110 := by
    have width := (length_newcEntry mode name content).1
    rw [List.length_append, List.length_append]
    omega
  have magic : slice (before ++ (newcEntry mode name content ++ rest)) before.length 6 ∈ magics := by
    have first : newcEntry mode name content ++ rest = [48, 55, 48, 55, 48, 49] ++
        (newcEntry mode name content ++ rest).drop 6 := by
      simp [newcEntry, padded, newcFront, newcHeader]
    have middle := slice_middle before [48, 55, 48, 55, 48, 49]
      ((newcEntry mode name content ++ rest).drop 6)
    rw [← first] at middle
    exact List.mem_cons.mpr (.inl middle)
  constructor
  · intro read
    rw [Extraction.round, if_neg long, position, if_neg (not_not_intro magic), read]
  · intro e y read taken
    rw [Extraction.round, if_neg long, position, if_neg (not_not_intro magic), read]
    dsimp only
    rw [taken]

theorem archive_cons (m : Member) (ms : List Member) :
    archive (m :: ms) = m.entry ++ archive ms := by
  rw [archive, archive, List.flatMap_cons, List.append_assoc]

/-- A member is taken. -/
theorem round_member {before : Bytes} (rest : Bytes) {m : Member} {x : Extraction}
    (position : x.pos = before.length) (even : before.length % 4 = 0) (packed : m.Packed decode)
    (few : x.entryCount + 1 ≤ cpioMaxEntries)
    (fresh : ∀ p ∈ (m.effects t).filterMap Effect.written, p ∉ x.writtenPaths) :
    x.round decode t (before ++ (m.entry ++ rest)) =
      .goes ⟨(before ++ m.entry).length, x.entryCount + 1, x.effects ++ m.effects t⟩ := by
  have read := readEntry_newc rest even m.mode_lt packed.named packed.short packed.small
  rw [packed.other] at read
  have placed := placeEntry_member (before ++ m.entry).length packed.plain fresh
  have taken : x.take t ⟨m.mode, 0, m.name, m.content, (before ++ m.entry).length⟩ =
      .ok ⟨(before ++ m.entry).length, x.entryCount + 1, x.effects ++ m.effects t⟩ := by
    rw [Extraction.take, Checked.ensure, decide_eq_true few, placed]
    rfl
  exact (round_newc position).2 _ _ read taken

/-- The trailer ends the loop. -/
theorem round_trailer {before : Bytes} {x : Extraction} (position : x.pos = before.length)
    (even : before.length % 4 = 0) (trailer : decode (nameBytes trailerName) = trailerName) :
    x.round decode t (before ++ (newcEntry 0 trailerName [] ++ [])) = .ends := by
  have short : (nameBytes trailerName).length + 1 ≤ cpioMaxNamesize := by decide
  have known : isTrailer trailerName = true := by decide
  have read : readEntry decode (before ++ (newcEntry 0 trailerName [] ++ [])) before.length = _ :=
    readEntry_newc [] even (by decide) trailer short (Nat.zero_le _)
  rw [known] at read
  exact (round_newc position).1 read

/-- The members are taken one after the other. -/
theorem rounds_archive (trailer : decode (nameBytes trailerName) = trailerName) {ms : List Member}
    (before : Bytes) {x : Extraction} {n : Nat} (position : x.pos = before.length)
    (even : before.length % 4 = 0) (packed : ∀ m ∈ ms, m.Packed decode)
    (few : x.entryCount + ms.length ≤ cpioMaxEntries)
    (once : (x.writtenPaths ++ (ms.flatMap (Member.effects t)).filterMap Effect.written).Nodup)
    (enough : ms.length ≤ n) :
    x.rounds decode t (before ++ archive ms) n = (none, ⟨(before ++ ms.flatMap Member.entry).length,
      x.entryCount + ms.length, x.effects ++ ms.flatMap (Member.effects t)⟩) := by
  -- on the members: each round leaves a shorter archive behind a longer prefix
  induction ms generalizing before x n with
  | nil =>
      have state : (⟨(before ++ ([] : List Member).flatMap Member.entry).length,
          x.entryCount + ([] : List Member).length,
          x.effects ++ ([] : List Member).flatMap (Member.effects t)⟩ : Extraction) = x := by
        obtain ⟨pos, entryCount, effects⟩ := x
        simp only [List.flatMap_nil, List.append_nil, List.length_nil, Nat.add_zero, ← position]
      have ends := round_trailer (t := t) position even trailer
      rw [List.append_nil] at ends
      rw [state]
      cases n with
      | zero => rfl
      | succ n => rw [Extraction.rounds, archive, List.flatMap_nil, List.nil_append, ends]
  | cons m ms ih =>
      rw [List.flatMap_cons, List.filterMap_append, ← List.append_assoc] at once
      have fresh : ∀ p ∈ (m.effects t).filterMap Effect.written, p ∉ x.writtenPaths := by
        intro p new old
        have apart := (List.nodup_append.mp (List.nodup_append.mp once).1).2.2
        exact apart p old p new rfl
      rw [List.length_cons] at few enough
      obtain ⟨packed, others⟩ := List.forall_mem_cons.mp packed
      have goes := round_member (t := t) (archive ms) position even packed (by omega) fresh
      cases n with
      | zero => omega
      | succ n =>
          rw [Extraction.rounds, archive_cons, goes]
          dsimp only
          -- the padding of the entry keeps the next header aligned
          have even' : (before ++ m.entry).length % 4 = 0 := by
            have width := (length_newcEntry m.mode m.name m.content).2
            rw [List.length_append, Member.entry]
            omega
          have paths : (⟨(before ++ m.entry).length, x.entryCount + 1, x.effects ++ m.effects t⟩ :
              Extraction).writtenPaths = x.writtenPaths ++ (m.effects t).filterMap Effect.written := by
            rw [Extraction.writtenPaths, Extraction.writtenPaths, List.filterMap_append]
          have rest := ih (before ++ m.entry) (n := n)
            (x := ⟨(before ++ m.entry).length, x.entryCount + 1, x.effects ++ m.effects t⟩)
            rfl even' others (by simp only; omega) (by rwa [paths]) (by omega)
          rw [← List.append_assoc, rest]
          simp only [List.flatMap_cons, List.append_assoc, List.length_cons]
          congr 2
          omega

/-- The path of a member. -/
def Member.target (t : Targets) : Member → AbsPath
  | binary _ => t.bin
  | resource path _ _ | directory path => t.place path

theorem written_sublist (m : Member) :
    ((m.effects t).filterMap Effect.written).Sublist [m.target t] := by
  cases m with
  | binary content => exact List.Sublist.refl _
  | resource path content x =>
      rw [Member.effects]
      split
      · exact List.nil_sublist _
      · cases x <;> exact List.Sublist.refl _
  | directory path => exact List.nil_sublist _

theorem place_ne_bin (t : Targets) (path : RelPath) : t.place path ≠ t.bin :=
  fun same => t.apart ⟨_, congrArg AbsPath.parts same⟩

theorem place_inj {path other : RelPath} (same : t.place path = t.place other) : path = other := by
  have parts := List.append_cancel_left (congrArg AbsPath.parts same)
  exact RelPath.ext_parts (List.map_injective_iff.mpr (fun a b h => String.toList_inj.mp h) parts)

/-- The path of a member is that of its names. -/
theorem names_of_target {m m' : Member} (same : m.target t = m'.target t) : m.names = m'.names := by
  cases m with
  | binary content =>
      cases m' with
      | binary content' => rfl
      | resource path' _ _ | directory path' => exact absurd same.symm (place_ne_bin t path')
  | resource path _ _ | directory path =>
      cases m' with
      | binary content' => exact absurd same (place_ne_bin t path)
      | resource path' _ _ | directory path' =>
          obtain rfl := place_inj same
          rfl

/-- Members with different names are written to different paths. -/
theorem nodup_written {ms : List Member} (distinct : (ms.map Member.names).Nodup) :
    ((ms.flatMap (Member.effects t)).filterMap Effect.written).Nodup := by
  -- empty resources and directories are not written: the paths are some of the targets
  have targets : (ms.map (Member.target t)).Nodup := by
    rw [List.Nodup, List.pairwise_map] at distinct ⊢
    exact distinct.imp fun other same => other (names_of_target same)
  have below : ((ms.flatMap (Member.effects t)).filterMap Effect.written).Sublist
      (ms.map (Member.target t)) := by
    induction ms with
    | nil => exact List.Sublist.refl _
    | cons m ms ih =>
        rw [List.flatMap_cons, List.filterMap_append, List.map_cons]
        exact (written_sublist m).append
          (ih (List.nodup_cons.mp distinct).2 (List.nodup_cons.mp targets).2)
  exact targets.sublist below

theorem length_le_archive (ms : List Member) : ms.length ≤ (archive ms).length := by
  induction ms with
  | nil => exact Nat.zero_le _
  | cons m ms ih =>
      have width := (length_newcEntry m.mode m.name m.content).1
      rw [archive_cons, List.length_append, List.length_cons, Member.entry]
      omega

end Decoded

/-! ### A small package -/

/-- How names in ASCII are decoded. -/
def asciiDecode (bs : Bytes) : List Char := bs.map fun b => Char.ofNat b.toNat

/-- Two staged targets. -/
def stagedTargets : Targets where
  bin := ⟨false, [['b', 'i', 'n'], ['n', 'm', 'a', 'p']]⟩
  res := ⟨false, [['b', 'i', 'n'], ['r', 'e', 's']]⟩
  apart := by decide

/-- `scripts`. -/
def scriptsPath : RelPath := ⟨["scripts"], by simp, by decide⟩

/-- `scripts/a.nse`. -/
def scriptPath : RelPath := ⟨["scripts", "a.nse"], by simp, by decide⟩

/-- An executable, a directory, and a script in it. -/
def smallPackage : List Member :=
  [.binary [127, 69, 76, 70], .directory scriptsPath, .resource scriptPath [45, 45, 10] false]

end CyberAssess.Payload
