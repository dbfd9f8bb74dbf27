import CyberAssess.Installers.Payload

/-!
# Guarantees — what an archive can write

Whatever the bytes of a release package are, its extraction stays within the two targets.

* `Placed` is what is done for one entry, `placeEntry_ok` says it of every entry that is accepted.
* `Contained` is the invariant of the loop: `Contained.take` for one entry, `Contained.rounds` for all.
* `rounds_left`: the loop is left before the payload ends.
* `payload_contained` puts them together.
-/

namespace CyberAssess.Payload

open Checked (ensure_ok refuse_ok bind_ok exists_unit)

/-! ### One entry -/

section Decoded

variable {decode : Bytes → List Char} {t : Targets} {data : Bytes} {written : List AbsPath}
  {e : RawEntry} {x y : Extraction}

/-- The directory or below it. -/
def Below (res p : AbsPath) : Prop := ∃ below, p.parts = res.parts ++ below ∧ ['.', '.'] ∉ below

/-- What is done for one entry, where the paths in `written` have been written to. -/
structure Placed (t : Targets) (written : List AbsPath) (e : RawEntry) (effects : List Effect) :
    Prop where
  writes : ∀ p content, .write p content ∈ effects →
    content = e.content ∧ (p = t.bin ∨ Below t.res p)
  directories : ∀ p, .makedirs p ∈ effects → Below t.res p ∨ p.parts = t.res.parts.dropLast
  modes : ∀ p mode, .chmod p mode ∈ effects →
    mode = 0o755 ∧ p ∈ effects.filterMap Effect.written
  once : (effects.filterMap Effect.written).Nodup
  fresh : ∀ p ∈ effects.filterMap Effect.written, p ∉ written

theorem Placed.nil : Placed t written e [] := by
  constructor <;> simp

/-- One file, with or without another mode. -/
theorem Placed.file {p : AbsPath} (before : List Effect) {after : List Effect} (fresh : p ∉ written)
    (inside : p = t.bin ∨ Below t.res p)
    (directories : ∀ effect ∈ before, ∃ d, effect = .makedirs d ∧
      (Below t.res d ∨ d.parts = t.res.parts.dropLast))
    (modes : ∀ effect ∈ after, effect = .chmod p 0o755) :
    Placed t written e (before ++ .write p e.content :: after) := by
  have none_before : before.filterMap Effect.written = [] := by
    rw [List.filterMap_eq_nil_iff]
    intro effect member
    obtain ⟨d, rfl, -⟩ := directories effect member
    rfl
  have none_after : after.filterMap Effect.written = [] := by
    rw [List.filterMap_eq_nil_iff]
    intro effect member
    rw [modes effect member]
    rfl
  have paths : (before ++ .write p e.content :: after).filterMap Effect.written = [p] := by
    rw [List.filterMap_append, List.filterMap_cons, none_before, none_after]
    rfl
  refine ⟨?_, ?_, ?_, ?_, ?_⟩
  · intro q content member
    rcases List.mem_append.mp member with member | member
    · obtain ⟨d, same, -⟩ := directories _ member
      cases same
    · rcases List.mem_cons.mp member with same | member
      · cases same
        exact ⟨rfl, inside⟩
      · cases modes _ member
  · intro q member
    rcases List.mem_append.mp member with member | member
    · obtain ⟨d, same, place⟩ := directories _ member
      cases same
      exact place
    · rcases List.mem_cons.mp member with same | member
      · cases same
      · cases modes _ member
  · intro q mode member
    rw [paths]
    rcases List.mem_append.mp member with member | member
    · obtain ⟨d, same, -⟩ := directories _ member
      cases same
    · rcases List.mem_cons.mp member with same | member
      · cases same
      · cases modes _ member
        exact ⟨rfl, List.mem_singleton.mpr rfl⟩
  · rw [paths]
    exact List.nodup_singleton p
  · rw [paths]
    intro q member
    rwa [List.mem_singleton.mp member]

/-- A text whose components are not `..` has none among those that are kept. -/
theorem notMem_components {text : List Char} (h : ['.', '.'] ∉ text.splitOn '/') :
    ['.', '.'] ∉ components text :=
  fun member => h (List.mem_of_mem_filter member)

/-- A destination that has the directory above it is below it. -/
theorem below_destination {relPath : List Char} (dots : ['.', '.'] ∉ relPath.splitOn '/')
    (above : t.res.parts <+: (destination t.res relPath).parts) :
    Below t.res (destination t.res relPath) := by
  obtain ⟨below, parts⟩ := above
  refine ⟨below, parts.symm, ?_⟩
  have clean := notMem_components dots
  rw [destination] at parts
  split at parts
  · -- an absolute text: the directory and what is below it are its own components
    intro member
    have whole : t.res.parts ++ below = components relPath := parts
    rw [← whole] at clean
    exact clean (List.mem_append_right _ member)
  · rwa [List.append_cancel_left parts]

theorem below_dirname {p : AbsPath} (h : Below t.res p) :
    Below t.res p.dirname ∨ p.dirname.parts = t.res.parts.dropLast := by
  obtain ⟨below, parts, clean⟩ := h
  rw [AbsPath.dirname, parts]
  rcases List.eq_nil_or_concat below with rfl | ⟨front, last, rfl⟩
  · exact .inr (by rw [List.append_nil])
  · refine .inl ⟨front, ?_, fun member => clean (by simp [member])⟩
    rw [List.concat_eq_append, ← List.append_assoc, List.dropLast_concat]

theorem placeResource_ok {relPath : List Char} {effects : List Effect}
    (dots : ['.', '.'] ∉ relPath.splitOn '/')
    (h : placeResource t written e relPath = .ok effects) : Placed t written e effects := by
  rw [placeResource] at h
  split at h
  · -- a name that ends after the resource prefix
    obtain rfl := Except.ok.inj h
    exact .nil
  · -- the common path has been compared with the directory
    rw [bind_ok, exists_unit, ensure_ok, decide_eq_true_iff] at h
    obtain ⟨above, h⟩ := h
    have below := below_destination dots above
    split at h
    · obtain rfl := Except.ok.inj h
      constructor
      · simp
      · intro p member
        cases List.mem_singleton.mp member
        exact .inl below
      · simp
      · exact List.nodup_nil
      · intro p member
        cases member
    · split at h
      · obtain rfl := Except.ok.inj h
        exact .nil
      · rw [bind_ok, exists_unit, refuse_ok, decide_eq_false_iff_not] at h
        obtain ⟨fresh, h⟩ := h
        obtain rfl := Except.ok.inj h
        refine Placed.file [.makedirs _] fresh (.inr below) ?_ ?_
        · intro effect member
          rw [List.mem_singleton.mp member]
          exact ⟨_, rfl, below_dirname below⟩
        · intro effect member
          split at member
          · exact List.mem_singleton.mp member
          · cases member

theorem hasDots_eq_false {text : List Char} :
    hasDots text = false ↔ ['.', '.'] ∉ text.splitOn '/' := by
  rw [hasDots, List.any_eq_false]
  constructor
  · exact fun none member => none _ member (beq_self_eq_true _)
  · exact fun absent part member same => absent (beq_iff_eq.mp same ▸ member)

/-- A name that passes has no component `..`. -/
theorem cleanName_ok {raw clean : List Char} (h : cleanName raw = .ok clean) :
    ['.', '.'] ∉ clean.splitOn '/' := by
  rw [cleanName, bind_ok, exists_unit] at h
  obtain ⟨-, h⟩ := h
  rw [bind_ok, exists_unit] at h
  obtain ⟨-, h⟩ := h
  rw [bind_ok, exists_unit, refuse_ok, Bool.or_eq_false_iff] at h
  obtain ⟨⟨-, dots⟩, h⟩ := h
  obtain rfl := Except.ok.inj h
  exact hasDots_eq_false.mp dots

/-- The components of what follows a slash are components of the text. -/
theorem dots_of_append {front rest : List Char}
    (dots : ['.', '.'] ∉ (front ++ ['/'] ++ rest).splitOn '/') :
    ['.', '.'] ∉ rest.splitOn '/' := by
  rw [List.append_assoc, List.singleton_append, List.splitOn_append_cons_self] at dots
  exact fun member => dots (List.mem_append_right _ member)

theorem placeEntry_ok {effects : List Effect} (h : placeEntry t written e = .ok effects) :
    Placed t written e effects := by
  rw [placeEntry, bind_ok, exists_unit] at h
  obtain ⟨-, h⟩ := h
  rw [bind_ok, exists_unit] at h
  obtain ⟨-, h⟩ := h
  split at h
  · obtain rfl := Except.ok.inj h
    exact .nil
  · obtain ⟨clean, named, h⟩ := bind_ok.mp h
    have dots := cleanName_ok named
    split at h
    · rw [bind_ok, exists_unit, refuse_ok, decide_eq_false_iff_not] at h
      obtain ⟨fresh, h⟩ := h
      obtain rfl := Except.ok.inj h
      refine Placed.file [] fresh (.inl rfl) (by simp) ?_
      exact fun effect member => List.mem_singleton.mp member
    · split at h
      · rename_i under
        obtain ⟨rest, rfl⟩ := under
        rw [List.drop_left] at h
        exact placeResource_ok (dots_of_append dots) h
      · obtain rfl := Except.ok.inj h
        exact .nil

/-! ### The loop -/

/-- What has been done stays within the targets. -/
structure Contained (t : Targets) (data : Bytes) (x : Extraction) : Prop where
  writes : ∀ p content, .write p content ∈ x.effects →
    (p = t.bin ∨ Below t.res p) ∧ content.length ≤ cpioMaxFilesize ∧ content <:+: data
  directories : ∀ p, .makedirs p ∈ x.effects →
    p = t.bin.dirname ∨ Below t.res p ∨ p.parts = t.res.parts.dropLast
  modes : ∀ p mode, .chmod p mode ∈ x.effects → mode = 0o755 ∧ p ∈ x.writtenPaths
  once : x.writtenPaths.Nodup
  few : x.entryCount ≤ cpioMaxEntries

theorem contained_start : Contained t data (Extraction.start t) := by
  constructor
  · simp [Extraction.start]
  · intro p member
    simp only [Extraction.start, List.mem_cons, Effect.makedirs.injEq, List.not_mem_nil,
      or_false] at member
    rcases member with rfl | rfl
    · exact .inl rfl
    · exact .inr (.inl ⟨[], by simp, by simp⟩)
  · simp [Extraction.start]
  · exact List.nodup_nil
  · exact Nat.zero_le _

theorem slice_infix (start length : Nat) : slice data start length <:+: data := by
  have front : (data.drop start).take length <+: data.drop start := List.take_prefix _ _
  exact front.isInfix.trans (data.drop_suffix start).isInfix

theorem le_aligned (pos : Nat) : pos ≤ aligned pos := by
  rw [aligned]
  split <;> omega

/-- What is read of an entry is bounded, and the next one is further on. -/
theorem readEntry_ok {pos : Nat} (h : readEntry decode data pos = .ok (some e)) :
    e.content.length ≤ cpioMaxFilesize ∧ e.content <:+: data ∧ pos < e.next := by
  rw [readEntry] at h
  obtain ⟨⟨mode, nlink, filesize, namesize⟩, -, h⟩ := bind_ok.mp h
  obtain ⟨-, -, h⟩ := bind_ok.mp h
  rw [bind_ok, exists_unit] at h
  obtain ⟨size, h⟩ := h
  obtain ⟨-, -, h⟩ := bind_ok.mp h
  rw [ensure_ok, decide_eq_true_iff] at size
  dsimp only at h
  split at h
  · cases h
  · obtain ⟨-, -, h⟩ := bind_ok.mp h
    obtain rfl := Option.some.inj (Except.ok.inj h)
    refine ⟨?_, slice_infix _ _, ?_⟩
    · -- the field is below the limit, the bytes may end before the field says
      have cut : (slice data (aligned (pos + 110 + namesize.toNat)) filesize.toNat).length ≤
          filesize.toNat := by
        rw [slice, List.length_take]
        exact Nat.min_le_left _ _
      have bound : filesize.toNat ≤ cpioMaxFilesize := Int.toNat_le.mpr size.2
      exact cut.trans bound
    · have first := le_aligned (pos + 110 + namesize.toNat)
      have second := le_aligned (aligned (pos + 110 + namesize.toNat) + filesize.toNat)
      show pos < aligned _
      omega

/-- One more entry. -/
theorem Contained.take (inv : Contained t data x) (size : e.content.length ≤ cpioMaxFilesize)
    (part : e.content <:+: data) (h : x.take t e = .ok y) : Contained t data y := by
  rw [Extraction.take, bind_ok, exists_unit, ensure_ok, decide_eq_true_iff] at h
  obtain ⟨few, h⟩ := h
  obtain ⟨effects, placing, h⟩ := bind_ok.mp h
  obtain rfl := Except.ok.inj h
  have placed := placeEntry_ok placing
  refine ⟨?_, ?_, ?_, ?_, few⟩
  · intro p content member
    rcases List.mem_append.mp member with member | member
    · exact inv.writes p content member
    · obtain ⟨rfl, inside⟩ := placed.writes p content member
      exact ⟨inside, size, part⟩
  · intro p member
    rcases List.mem_append.mp member with member | member
    · exact inv.directories p member
    · exact .inr (placed.directories p member)
  · intro p mode member
    rw [Extraction.writtenPaths, List.filterMap_append, List.mem_append]
    rcases List.mem_append.mp member with member | member
    · obtain ⟨same, known⟩ := inv.modes p mode member
      exact ⟨same, .inl known⟩
    · obtain ⟨same, known⟩ := placed.modes p mode member
      exact ⟨same, .inr known⟩
  · rw [Extraction.writtenPaths, List.filterMap_append, List.nodup_append]
    refine ⟨inv.once, placed.once, ?_⟩
    intro p before q after same
    exact placed.fresh q after (same ▸ before)

theorem round_goes (h : x.round decode t data = .goes y) :
    ∃ e, readEntry decode data x.pos = .ok (some e) ∧ x.take t e = .ok y := by
  rw [Extraction.round] at h
  split at h
  · cases h
  · split at h
    · cases h
    · split at h
      · cases h
      · cases h
      · rename_i e read
        split at h
        · cases h
        · rename_i z taken
          cases h
          exact ⟨e, read, taken⟩

/-- What one round keeps, the loop keeps. -/
theorem Contained.rounds (inv : Contained t data x) (n : Nat) :
    Contained t data (x.rounds decode t data n).2 := by
  induction n generalizing x with
  | zero => exact inv
  | succ n ih =>
      rw [Extraction.rounds]
      cases result : x.round decode t data with
      | ends => exact inv
      | raises error => exact inv
      | goes y =>
          obtain ⟨e, read, taken⟩ := round_goes result
          obtain ⟨size, part, -⟩ := readEntry_ok read
          exact ih (inv.take size part taken)

/-- A round that goes on is further in the payload. -/
theorem pos_lt_of_goes (h : x.round decode t data = .goes y) : x.pos < y.pos := by
  obtain ⟨e, read, taken⟩ := round_goes h
  obtain ⟨-, -, further⟩ := readEntry_ok read
  rw [Extraction.take, bind_ok, exists_unit] at taken
  obtain ⟨-, h⟩ := taken
  obtain ⟨effects, -, h⟩ := bind_ok.mp h
  obtain rfl := Except.ok.inj h
  exact further

/-- As many rounds as bytes are left are enough. -/
theorem rounds_left {n : Nat} (enough : data.length ≤ x.pos + n) :
    ∀ y, (x.rounds decode t data n).2.round decode t data ≠ .goes y := by
  induction n generalizing x with
  | zero =>
      -- no header fits in what is left, so a round would end
      intro y goes
      have done : data.length ≤ x.pos + 110 := by omega
      rw [Extraction.rounds, Extraction.round, if_pos done] at goes
      cases goes
  | succ n ih =>
      rw [Extraction.rounds]
      cases result : x.round decode t data with
      | ends =>
          intro y goes
          rw [result] at goes
          cases goes
      | raises error =>
          intro y goes
          rw [result] at goes
          cases goes
      | goes z =>
          have further := pos_lt_of_goes result
          exact ih (by omega)

theorem extractPayload_state : (extractPayload decode t data).2 =
    ((Extraction.start t).rounds decode t data data.length).2 := by
  rw [extractPayload]
  rcases (Extraction.start t).rounds decode t data data.length with ⟨error | error, x⟩
  · dsimp only
    split <;> rfl
  · rfl

/-- Whatever the payload: the loop is left; every file written is the executable or lies in the
directory of the resources, is written once, is a part of the payload and no longer than allowed; modes
are changed of these files alone; and where nothing is raised the executable has been written. -/
theorem payload_contained (decode : Bytes → List Char) (t : Targets) (data : Bytes) :
    Contained t data (extractPayload decode t data).2 ∧
      (∀ y, (extractPayload decode t data).2.round decode t data ≠ .goes y) ∧
      ((extractPayload decode t data).1 = none →
        t.bin ∈ (extractPayload decode t data).2.writtenPaths) := by
  refine ⟨?_, ?_, ?_⟩
  · rw [extractPayload_state]
    exact contained_start.rounds data.length
  · rw [extractPayload_state]
    exact rounds_left (by simp)
  · rw [extractPayload]
    rcases (Extraction.start t).rounds decode t data data.length with ⟨error | error, x⟩
    · dsimp only
      split
      · exact fun _ => by assumption
      · intro h
        cases h
    · intro h
      cases h

end Decoded

end CyberAssess.Payload
