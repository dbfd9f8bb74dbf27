import CyberAssess.Execution.ProofCodec
import CyberAssess.Support.JsonCanonical

/-!
# Guarantees — a proof has one spelling

A stored proof is read back as it was written, and no text but the written one is read.

* `reads_canonical`: the canonical form of a whole value is what the reader leaves as it is.
* `matchExecutionProof_eq_some`: the grammar takes a text apart in one way.
* `encodeExecutionProof_ok`, `decodeExecutionProof_ok`: what is written, and what is accepted.
* `decode_encode`: a whole payload is read back; `encode_decode`: an accepted text is the written one.
* `execution_proof_canonical`: the two together, and what one altered character needs.

`[about ours]`: a `dict` has no order, so a payload read back is the payload in canonical form.
-/

namespace CyberAssess

open Python
open Checked (ensure refuse require bind_ok exists_unit ensure_ok require_ok)

/-! ### Values that are read back -/

theorem dumpableMembers_iff {ms : List (Points × Value)} :
    dumpableMembers ms = true ↔ ∀ m ∈ ms, dumpable m.2 = true := by
  induction ms with
  | nil => simp [dumpableMembers]
  | cons m ms ih => rw [dumpableMembers, Bool.and_eq_true, ih, List.forall_mem_cons]

theorem rejectDuplicateJsonPairs_nodup {ms : List (Points × Value)} (distinct : (ms.map (·.1)).Nodup) :
    rejectDuplicateJsonPairs ms = some (.obj ms) := if_pos distinct

mutual

/-- The canonical form of a whole value that is written is what the reader leaves as it is. -/
theorem reads_canonical : ∀ {v : Value}, v.Whole → dumpable v = true →
    v.canonical.Reads executionProofReader
  | .null, _, _ | .bool _, _, _ => rfl
  | .int _, _, small => ⟨of_decide_eq_true small, rfl⟩
  | .float t, _, finite => by
      have same : reprFloat t = some t := of_decide_eq_true finite
      refine ⟨isFloatText_reprFloat same, ?_⟩
      show Value.float ((reprFloat t).getD t) = .float t
      rw [same, Option.getD_some]
  | .str _, whole, _ => whole
  | .arr _, whole, written => readsItems_canonical whole written
  | .obj members, ⟨whole, distinct⟩, written => by
      have each := readsMembers_iff.mp (readsMembers_canonical whole written)
      have keys : ((sortMembers (canonicalMembers members)).map (·.1)).Nodup := by
        refine ((sortMembers_perm _).map _).nodup_iff.mpr ?_
        rw [map_fst_canonicalMembers]
        exact distinct
      rw [Value.canonical, Value.Reads, readsMembers_iff]
      refine ⟨?_, sortMembers_increasing ?_, rejectDuplicateJsonPairs_nodup keys⟩
      · intro m hm
        exact each m ((sortMembers_perm _).mem_iff.mp hm)
      · rw [map_fst_canonicalMembers]
        exact distinct

theorem readsItems_canonical : ∀ {vs : List Value}, WholeItems vs → dumpableItems vs = true →
    ReadsItems executionProofReader (canonicalItems vs)
  | [], _, _ => trivial
  | _ :: _, ⟨first, rest⟩, written => by
      obtain ⟨one, others⟩ := Bool.and_eq_true_iff.mp written
      exact ⟨reads_canonical first one, readsItems_canonical rest others⟩

theorem readsMembers_canonical : ∀ {ms : List (Points × Value)}, WholeMembers ms →
    dumpableMembers ms = true → ReadsMembers executionProofReader (canonicalMembers ms)
  | [], _, _ => trivial
  | (_, _) :: _, ⟨key, first, rest⟩, written => by
      obtain ⟨one, others⟩ := Bool.and_eq_true_iff.mp written
      exact ⟨key, reads_canonical first one, readsMembers_canonical rest others⟩

end

mutual

/-- A value is written where its canonical form is. -/
theorem dumpable_canonical : ∀ v : Value, dumpable v.canonical = dumpable v
  | .null | .bool _ | .int _ | .float _ | .str _ => rfl
  | .arr items => dumpableItems_canonical items
  | .obj members => by
      have same := dumpableMembers_canonical members
      rw [Bool.eq_iff_iff, dumpableMembers_iff] at same
      rw [Value.canonical, dumpable, dumpable, Bool.eq_iff_iff, dumpableMembers_iff, ← same]
      exact ⟨fun h m hm => h m ((sortMembers_perm _).mem_iff.mpr hm),
        fun h m hm => h m ((sortMembers_perm _).mem_iff.mp hm)⟩

theorem dumpableItems_canonical : ∀ vs : List Value,
    dumpableItems (canonicalItems vs) = dumpableItems vs
  | [] => rfl
  | v :: vs => by
      rw [canonicalItems, dumpableItems, dumpableItems, dumpable_canonical v, dumpableItems_canonical vs]

theorem dumpableMembers_canonical : ∀ ms : List (Points × Value),
    dumpableMembers (canonicalMembers ms) = dumpableMembers ms
  | [] => rfl
  | (k, v) :: ms => by
      rw [canonicalMembers, dumpableMembers, dumpableMembers, dumpable_canonical v,
        dumpableMembers_canonical ms]

end

/-! ### The payload's bytes -/

theorem canonicalExecutionProofBytes_ok {payload : List (Points × Value)} {canonical : ByteArray} :
    canonicalExecutionProofBytes payload = .ok canonical ↔
      dumpableMembers payload = true ∧ (String.ofList (Value.obj payload).write).toUTF8 = canonical := by
  rw [canonicalExecutionProofBytes, bind_ok, exists_unit, ensure_ok]
  exact and_congr_right fun _ => ⟨Except.ok.inj, congrArg Except.ok⟩

theorem fromUTF8_toUTF8 (s : String) : String.fromUTF8? s.toUTF8 = some s := by
  exact dif_pos s.isValidUTF8

/-- What is read of the encoded payload: the bytes it is the encoding of, and what they say. -/
theorem readExecutionProof_eq_some {encoded : List Char} {canonical : ByteArray} {payload : Value} :
    readExecutionProof encoded = some (canonical, payload) ↔
      ∃ bytes text, Base64.decode encoded = some bytes ∧ Base64.encode bytes = encoded ∧
        canonical = ⟨bytes.toArray⟩ ∧ String.fromUTF8? canonical = some text ∧
        loadsWith executionProofReader text.toList = some payload := by
  rw [readExecutionProof]
  constructor
  · intro read
    obtain ⟨bytes, decoded, read⟩ := Option.bind_eq_some_iff.mp read
    obtain ⟨_, canonically, read⟩ := Option.bind_eq_some_iff.mp read
    obtain ⟨text, utf8, read⟩ := Option.bind_eq_some_iff.mp read
    obtain ⟨value, loaded, read⟩ := Option.bind_eq_some_iff.mp read
    obtain ⟨rfl, rfl⟩ := Prod.mk.inj (Option.some.inj read)
    exact ⟨bytes, text, decoded, (Option.guard_eq_some' _).mp canonically, rfl, utf8, loaded⟩
  · rintro ⟨bytes, text, decoded, canonically, rfl, utf8, loaded⟩
    simp [decoded, canonically, utf8, loaded, guard]

/-- The encoded payload is the encoding of its bytes. -/
theorem encoded_eq {encoded : List Char} {canonical : ByteArray} {payload : Value}
    (read : readExecutionProof encoded = some (canonical, payload)) :
    encoded = Base64.encode canonical.data.toList := by
  obtain ⟨contents, -, -, rfl, rfl, -, -⟩ := readExecutionProof_eq_some.mp read
  rfl

/-- Bytes that hold a whole payload are read as it, in canonical form. -/
theorem readExecutionProof_encode {payload : List (Points × Value)} {canonical : ByteArray}
    (whole : (Value.obj payload).Whole) (bytes : canonicalExecutionProofBytes payload = .ok canonical) :
    readExecutionProof (Base64.encode canonical.data.toList) =
      some (canonical, .obj (sortMembers (canonicalMembers payload))) := by
  obtain ⟨written, rfl⟩ := canonicalExecutionProofBytes_ok.mp bytes
  have read := loadsWith_write (reads_canonical whole written)
  rw [write_canonical] at read
  refine readExecutionProof_eq_some.mpr ⟨_, _, Base64.decode_encode _, rfl, ?_, fromUTF8_toUTF8 _, ?_⟩
  · rw [Array.toArray_toList]
  · rw [String.toList_ofList, read, Value.canonical]

/-! ### The envelope -/

theorem executionProofText_eq (proofType digest : String) (encoded : List Char) :
    executionProofText proofType digest encoded =
      [':'].intercalate [proofType.toList, ['v', '2'], digest.toList, encoded] := by
  simp [executionProofText, List.intercalate]

theorem not_colon_digest {digest : String} (hex : isHexDigest digest = true) : ':' ∉ digest.toList := by
  intro colon
  simp only [isHexDigest, Bool.and_eq_true, List.all_eq_true] at hex
  exact absurd (hex.2 _ colon) (by decide)

theorem length_of_isHexDigest {digest : String} (hex : isHexDigest digest = true) :
    digest.toList.length = 64 := by
  simp only [isHexDigest, Bool.and_eq_true, decide_eq_true_eq] at hex
  rw [String.length_toList, hex.1]

theorem not_colon_type {proofType : String} (known : executionProofTypes.contains proofType = true) :
    ':' ∉ proofType.toList := by
  have each : ∀ t ∈ executionProofTypes, ':' ∉ t.toList := by decide
  exact each proofType (List.contains_iff_mem.mp known)

theorem not_colon_encoded {encoded : List Char}
    (alphabet : ∀ c ∈ encoded, (Base64.charSextet c).isSome = true) : ':' ∉ encoded := fun colon =>
  absurd (alphabet _ colon) (by decide)

/-- The parts of a text in the grammar. -/
structure ProofParts (proofType digest : String) (encoded : List Char) : Prop where
  known : executionProofTypes.contains proofType = true
  hex : isHexDigest digest = true
  full : encoded ≠ []
  alphabet : ∀ c ∈ encoded, (Base64.charSextet c).isSome = true

/-- The grammar takes a text apart in one way. -/
theorem matchExecutionProof_eq_some {text : List Char} {proofType digest : String}
    {encoded : List Char} :
    matchExecutionProof text = some (proofType, digest, encoded) ↔
      text = executionProofText proofType digest encoded ∧ ProofParts proofType digest encoded := by
  constructor
  · intro matched
    rw [matchExecutionProof] at matched
    split at matched
    · rename_i kind version hash payload parts
      split at matched
      · rename_i grammar
        obtain ⟨rfl, rfl, rfl⟩ := Prod.mk.inj (Option.some.inj matched) |>.imp id Prod.mk.inj
        simp only [Bool.and_eq_true, decide_eq_true_eq, Bool.not_eq_true', List.isEmpty_eq_false_iff,
          List.all_eq_true] at grammar
        obtain ⟨⟨⟨⟨known, rfl⟩, hex⟩, full⟩, alphabet⟩ := grammar
        refine ⟨?_, known, hex, full, alphabet⟩
        have whole : [':'].intercalate (text.splitOn ':') = text := List.intercalate_splitOn ':'
        rw [parts] at whole
        rw [executionProofText_eq, String.toList_ofList, String.toList_ofList, whole]
      · cases matched
    · cases matched
  · rintro ⟨rfl, parts⟩
    have apart : ∀ l ∈ [proofType.toList, ['v', '2'], digest.toList, encoded], ':' ∉ l := by
      simp only [List.forall_mem_cons, List.not_mem_nil, false_implies, implies_true, and_true]
      exact ⟨not_colon_type parts.known, by decide, not_colon_digest parts.hex,
        not_colon_encoded parts.alphabet⟩
    have split := List.splitOn_intercalate ':' apart (by simp)
    have empty : encoded.isEmpty = false := List.isEmpty_eq_false_iff.mpr parts.full
    rw [matchExecutionProof, executionProofText_eq, split]
    simp [List.contains_iff_mem.mp parts.known, parts.hex, empty,
      List.all_eq_true.mpr parts.alphabet]

/-! ### What is written, and what is accepted -/

section
variable {sha : HexSha256} {payload : List (Points × Value)}

/-- A payload that states its version and its type. -/
def States (payload : List (Points × Value)) (proofType : String) : Prop :=
  memberIsText payload "schema_version" executionProofSchemaVersion = true ∧
    memberIsText payload "proof_type" proofType = true

/-- What is written of a payload that is. -/
theorem encodeExecutionProof_ok {proofType s : String} :
    encodeExecutionProof sha proofType payload = .ok s ↔
      executionProofTypes.contains proofType = true ∧ States payload proofType ∧
        ∃ canonical, canonicalExecutionProofBytes payload = .ok canonical ∧
          s = String.ofList (executionProofText proofType (sha.digest canonical)
            (Base64.encode canonical.data.toList)) ∧ s.length ≤ executionProofMaxLength := by
  simp only [encodeExecutionProof, bind_ok, exists_unit, ensure_ok, decide_eq_true_eq, States]
  constructor
  · rintro ⟨known, version, same, canonical, bytes, fits, ⟨⟩⟩
    exact ⟨known, ⟨version, same⟩, canonical, bytes, rfl, by rwa [String.length_ofList]⟩
  · rintro ⟨known, ⟨version, same⟩, canonical, bytes, rfl, fits⟩
    rw [String.length_ofList] at fits
    exact ⟨known, version, same, canonical, bytes, fits, rfl⟩

/-- What is accepted is written so. -/
theorem decodeExecutionProof_ok {expected : Option String} {s : String} :
    decodeExecutionProof sha s expected = .ok payload ↔
      s.length ≤ executionProofMaxLength ∧ ∃ proofType digest encoded canonical,
        matchExecutionProof s.toList = some (proofType, digest, encoded) ∧
        (∀ e ∈ expected, e = proofType) ∧
        readExecutionProof encoded = some (canonical, .obj payload) ∧
        canonicalExecutionProofBytes payload = .ok canonical ∧ digest = sha.digest canonical ∧
        States payload proofType := by
  simp only [decodeExecutionProof, bind_ok, exists_unit, ensure_ok, require_ok, decide_eq_true_eq,
    States]
  constructor
  · rintro ⟨fits, ⟨proofType, digest, encoded⟩, matched, wanted, ⟨canonical, value⟩, read, members, object,
      again, bytes, rfl, same, version, kind, ⟨⟩⟩
    obtain rfl : value = .obj payload := by
      cases value <;> simp_all
    refine ⟨fits, proofType, digest, encoded, again, matched, ?_, read, bytes, same, version, kind⟩
    intro e he
    rw [Option.mem_def.mp he] at wanted
    exact (of_decide_eq_true wanted).symm
  · rintro ⟨fits, proofType, digest, encoded, canonical, matched, wanted, read, bytes, same, version, kind⟩
    refine ⟨fits, _, matched, ?_, _, read, _, rfl, _, bytes, rfl, same, version, kind, rfl⟩
    cases expected with
    | none => rfl
    | some e => exact decide_eq_true (wanted e rfl).symm

/-! ### One spelling -/

/-- Payloads with one canonical form have one text. -/
theorem canonicalExecutionProofBytes_congr {other : List (Points × Value)}
    (same : (Value.obj payload).canonical = (Value.obj other).canonical) :
    canonicalExecutionProofBytes payload = canonicalExecutionProofBytes other := by
  have text := congrArg Value.write same
  have written := congrArg dumpable same
  rw [write_canonical, write_canonical] at text
  rw [dumpable_canonical, dumpable_canonical, dumpable, dumpable] at written
  rw [canonicalExecutionProofBytes, canonicalExecutionProofBytes, text, written]

theorem memberIsText_canonical (distinct : (payload.map (·.1)).Nodup) (name text : String) :
    memberIsText (sortMembers (canonicalMembers payload)) name text = memberIsText payload name text := by
  have keys : ((sortMembers (canonicalMembers payload)).map (·.1)).Nodup := by
    refine ((sortMembers_perm _).map _).nodup_iff.mpr ?_
    rw [map_fst_canonicalMembers]
    exact distinct
  have member : (sortMembers (canonicalMembers payload)).lookup (points name) =
      (payload.lookup (points name)).map (·.canonical) := by
    rw [lookup_perm (sortMembers_perm _) keys, canonicalMembers_eq]
    exact lookup_map (g := id) (fun _ _ same => same) _ payload (points name)
  rw [memberIsText, memberIsText, member]
  cases payload.lookup (points name) with
  | none => rfl
  | some v => cases v <;> rfl

theorem memberIsText_inj {name text text' : String} (h : memberIsText payload name text = true)
    (h' : memberIsText payload name text' = true) : text = text' := by
  rw [memberIsText] at h h'
  split at h
  · rename_i found
    rw [found] at h'
    exact points_inj ((of_decide_eq_true h).symm.trans (of_decide_eq_true h'))
  · cases h

theorem not_empty {canonical : ByteArray} (bytes : canonicalExecutionProofBytes payload = .ok canonical) :
    canonical.data.toList ≠ [] := by
  obtain ⟨-, rfl⟩ := canonicalExecutionProofBytes_ok.mp bytes
  intro empty
  have none : (String.ofList (Value.obj payload).write).toByteArray = "".toByteArray :=
    ByteArray.ext (Array.toList_eq_nil_iff.mp empty)
  have nothing := congrArg String.toList (String.toByteArray_inj.mp none)
  rw [String.toList_ofList] at nothing
  cases nothing

/-- A whole payload that is written is read back. -/
theorem decode_encode {proofType s : String} {expected : Option String}
    (whole : (Value.obj payload).Whole) (written : encodeExecutionProof sha proofType payload = .ok s)
    (wanted : ∀ e ∈ expected, e = proofType) :
    decodeExecutionProof sha s expected = .ok (sortMembers (canonicalMembers payload)) := by
  obtain ⟨known, ⟨version, kind⟩, canonical, bytes, rfl, fits⟩ := encodeExecutionProof_ok.mp written
  have again : canonicalExecutionProofBytes (sortMembers (canonicalMembers payload)) = .ok canonical :=
    (canonicalExecutionProofBytes_congr (canonical_canonical (.obj payload))).trans bytes
  refine decodeExecutionProof_ok.mpr ⟨fits, proofType, sha.digest canonical,
    Base64.encode canonical.data.toList, canonical, ?_, wanted, readExecutionProof_encode whole bytes,
    again, rfl, ?_, ?_⟩
  · rw [String.toList_ofList, matchExecutionProof_eq_some]
    exact ⟨rfl, known, sha.hex canonical, Base64.encode_ne_nil (not_empty bytes),
      Base64.encode_alphabet _⟩
  · rw [memberIsText_canonical whole.2, version]
  · rw [memberIsText_canonical whole.2, kind]

/-- An accepted text is what is written of its payload. -/
theorem encode_decode {s : String} {expected : Option String}
    (read : decodeExecutionProof sha s expected = .ok payload) :
    ∃ proofType, (∀ e ∈ expected, e = proofType) ∧ States payload proofType ∧
      encodeExecutionProof sha proofType payload = .ok s := by
  obtain ⟨fits, proofType, digest, encoded, canonical, matched, wanted, read, bytes, rfl, states⟩ :=
    decodeExecutionProof_ok.mp read
  obtain ⟨text, parts⟩ := matchExecutionProof_eq_some.mp matched
  refine ⟨proofType, wanted, states, encodeExecutionProof_ok.mpr
    ⟨parts.known, states, canonical, bytes, ?_, fits⟩⟩
  rw [← encoded_eq read, ← text, String.ofList_toList]

/-- Accepted texts whose payloads are the same are the same. -/
theorem decode_injective {s s' : String} {expected expected' : Option String}
    {other : List (Points × Value)} (read : decodeExecutionProof sha s expected = .ok payload)
    (read' : decodeExecutionProof sha s' expected' = .ok other)
    (same : (Value.obj payload).canonical = (Value.obj other).canonical) : s = s' := by
  obtain ⟨-, proofType, digest, encoded, canonical, matched, -, back, bytes, rfl, states⟩ :=
    decodeExecutionProof_ok.mp read
  obtain ⟨-, proofType', digest', encoded', canonical', matched', -, back', bytes', rfl, states'⟩ :=
    decodeExecutionProof_ok.mp read'
  obtain ⟨text, -⟩ := matchExecutionProof_eq_some.mp matched
  obtain ⟨text', -⟩ := matchExecutionProof_eq_some.mp matched'
  obtain rfl : canonical = canonical' := by
    rw [canonicalExecutionProofBytes_congr same, bytes'] at bytes
    exact (Except.ok.inj bytes).symm
  obtain ⟨contents, words, -, rfl, held, utf8, loaded⟩ := readExecutionProof_eq_some.mp back
  obtain ⟨contents', words', -, rfl, held', utf8', loaded'⟩ := readExecutionProof_eq_some.mp back'
  obtain rfl : contents = contents' := by
    rw [held] at held'
    exact List.toArray_inj (ByteArray.mk.inj held')
  obtain rfl : words = words' := Option.some.inj (utf8.symm.trans utf8')
  obtain rfl : payload = other := Value.obj.inj (Option.some.inj (loaded.symm.trans loaded'))
  obtain rfl : proofType = proofType' := memberIsText_inj states.2 states'.2
  rw [← String.toList_inj, text, text']

/-- Lists that differ in one place, each after a part of one length: the parts are the same, or what
follows them is. -/
theorem same_front {α : Type} {a b : α} {back e g : List α} : ∀ {x x' front : List α},
    x.length = x'.length → x ++ e = front ++ a :: back → x' ++ g = front ++ b :: back →
      x = x' ∨ e = g
  | [], [], _, _, _, _ => .inl rfl
  | c :: y, c' :: y', [], size, eq, eq' => by
      obtain ⟨-, eq⟩ := List.cons.inj eq
      obtain ⟨-, eq'⟩ := List.cons.inj eq'
      exact .inr (List.append_inj (eq.trans eq'.symm) (Nat.succ.inj size)).2
  | c :: y, c' :: y', f :: front, size, eq, eq' => by
      obtain ⟨head, tail⟩ := List.cons.inj eq
      obtain ⟨head', tail'⟩ := List.cons.inj eq'
      rw [head, head']
      exact (same_front (Nat.succ.inj size) tail tail').imp (congrArg (List.cons f)) id

/-- Lists with other first and second elements differ in more than one place. -/
theorem not_one_place {α : Type} {a b c c' d d' : α} {rest rest' front back : List α} (first : c ≠ c')
    (second : d ≠ d') (eq : c :: d :: rest = front ++ a :: back)
    (eq' : c' :: d' :: rest' = front ++ b :: back) : False := by
  cases front with
  | nil =>
      obtain ⟨-, rfl⟩ := List.cons.inj eq
      exact second (List.cons.inj (List.cons.inj eq').2).1.symm
  | cons f front => exact first ((List.cons.inj eq).1.trans (List.cons.inj eq').1.symm)

/-- The types are one, or differ in more than one place. -/
theorem same_type {proofType proofType' : String} {a b : Char} {rest rest' front back : List Char}
    (known : executionProofTypes.contains proofType = true)
    (known' : executionProofTypes.contains proofType' = true)
    (text : proofType.toList ++ rest = front ++ a :: back)
    (text' : proofType'.toList ++ rest' = front ++ b :: back) : proofType = proofType' := by
  simp only [executionProofTypes, List.contains_iff_mem, List.mem_cons, List.not_mem_nil, or_false]
    at known known'
  rcases known with rfl | rfl <;> rcases known' with rfl | rfl
  · rfl
  · exact (not_one_place (by decide) (by decide) text text').elim
  · exact (not_one_place (by decide) (by decide) text text').elim
  · rfl

/-- Texts that differ in one character are both accepted only where two payloads have one digest. -/
theorem altered {s s' : String} {expected expected' : Option String} {other : List (Points × Value)}
    {a b : Char} {front back : List Char} (apart : a ≠ b) (text : s.toList = front ++ a :: back)
    (text' : s'.toList = front ++ b :: back)
    (read : decodeExecutionProof sha s expected = .ok payload)
    (read' : decodeExecutionProof sha s' expected' = .ok other) :
    ∃ canonical canonical', canonicalExecutionProofBytes payload = .ok canonical ∧
      canonicalExecutionProofBytes other = .ok canonical' ∧ canonical ≠ canonical' ∧
      sha.digest canonical = sha.digest canonical' := by
  obtain ⟨-, proofType, digest, encoded, canonical, matched, -, back, bytes, rfl, states⟩ :=
    decodeExecutionProof_ok.mp read
  obtain ⟨-, proofType', digest', encoded', canonical', matched', -, back', bytes', rfl, states'⟩ :=
    decodeExecutionProof_ok.mp read'
  obtain ⟨whole, parts⟩ := matchExecutionProof_eq_some.mp matched
  obtain ⟨whole', parts'⟩ := matchExecutionProof_eq_some.mp matched'
  rw [text, executionProofText] at whole
  rw [text', executionProofText] at whole'
  obtain rfl := same_type parts.known parts'.known whole.symm whole'.symm
  have size : (proofType.toList ++ ':' :: 'v' :: '2' :: ':' ::
      ((sha.digest canonical).toList ++ [':'])).length =
        (proofType.toList ++ ':' :: 'v' :: '2' :: ':' ::
          ((sha.digest canonical').toList ++ [':'])).length := by
    simp [length_of_isHexDigest (sha.hex canonical), length_of_isHexDigest (sha.hex canonical')]
  have cut := same_front (e := encoded) (g := encoded') size (by simpa using whole.symm)
    (by simpa using whole'.symm)
  rw [encoded_eq back, encoded_eq back'] at cut
  refine ⟨canonical, canonical', bytes, bytes', ?_, ?_⟩
  · rintro rfl
    rw [encoded_eq back] at whole
    rw [encoded_eq back', ← whole] at whole'
    exact apart (List.cons.inj (List.append_cancel_left whole')).1.symm
  · rcases cut with same | same
    · exact String.toList_inj.mp (by simpa using same)
    · have contents := congrArg Base64.decode same
      rw [Base64.decode_encode, Base64.decode_encode] at contents
      rw [ByteArray.ext (Array.toList_inj.mp (Option.some.inj contents))]

end

/-- A proof has one spelling: what is written of a whole payload is read back, in the order of its keys;
an accepted text is what is written of what it says, so that it is told apart from every other; and one
altered character is accepted only with another payload of the same digest. -/
theorem execution_proof_canonical (sha : HexSha256) :
    (∀ (proofType : String) (payload : List (Points × Value)) (canonical : ByteArray),
      executionProofTypes.contains proofType = true → States payload proofType →
      (Value.obj payload).Whole → canonicalExecutionProofBytes payload = .ok canonical →
      (executionProofText proofType (sha.digest canonical)
        (Base64.encode canonical.data.toList)).length ≤ executionProofMaxLength →
      ∃ s back, encodeExecutionProof sha proofType payload = .ok s ∧
        (Value.obj payload).canonical = .obj back ∧
        ∀ expected : Option String, (∀ e ∈ expected, e = proofType) →
          decodeExecutionProof sha s expected = .ok back) ∧
    (∀ (s : String) (expected : Option String) (payload : List (Points × Value)),
      decodeExecutionProof sha s expected = .ok payload →
      ∃ proofType, (∀ e ∈ expected, e = proofType) ∧ States payload proofType ∧
        encodeExecutionProof sha proofType payload = .ok s) ∧
    (∀ (s s' : String) (expected expected' : Option String) (payload payload' : List (Points × Value)),
      decodeExecutionProof sha s expected = .ok payload →
      decodeExecutionProof sha s' expected' = .ok payload' →
      (Value.obj payload).canonical = (Value.obj payload').canonical → s = s') ∧
    ∀ (s s' : String) (expected expected' : Option String) (payload payload' : List (Points × Value))
      (front back : List Char) (a b : Char), a ≠ b → s.toList = front ++ a :: back →
      s'.toList = front ++ b :: back → decodeExecutionProof sha s expected = .ok payload →
      decodeExecutionProof sha s' expected' = .ok payload' →
      ∃ canonical canonical', canonicalExecutionProofBytes payload = .ok canonical ∧
        canonicalExecutionProofBytes payload' = .ok canonical' ∧ canonical ≠ canonical' ∧
        sha.digest canonical = sha.digest canonical' := by
  refine ⟨?_, ?_, ?_, ?_⟩
  · intro proofType payload canonical known states whole bytes fits
    have encoded := encodeExecutionProof_ok.mpr
      ⟨known, states, canonical, bytes, rfl, String.length_ofList.trans_le fits⟩
    exact ⟨_, _, encoded, rfl, fun expected wanted => decode_encode whole encoded wanted⟩
  · exact fun s expected payload read => encode_decode read
  · exact fun s s' expected expected' payload payload' read read' same =>
      decode_injective read read' same
  · exact fun s s' expected expected' payload payload' front back a b apart text text' read read' =>
      altered apart text text' read read'

namespace ProofSample

/-- A payload with a note. -/
def payload (note : Points) : List (Points × Value) :=
  [(points "note", .str note), (points "proof_type", .str (points "TERMINATION_CONFIRMED")),
    (points "schema_version", .str (points executionProofSchemaVersion))]

/-- The digest of the payload at hand. -/
def hashed (digest : String) (hex : isHexDigest digest = true) : HexSha256 where
  digest _ := digest
  hex _ := hex

theorem states_payload (note : Points) : States (payload note) "TERMINATION_CONFIRMED" := ⟨rfl, rfl⟩

/-- The bytes of a payload, put together from the text of its note. -/
def noteBytes (note : Points) : ByteArray :=
  (String.ofList ('\x7b' :: commas ((writeMembers (payload note)).map writeMember) ++ ['\x7d'])).toUTF8

theorem bytes_payload (note : Points) :
    canonicalExecutionProofBytes (payload note) = .ok (noteBytes note) := by
  have keys : ((payload note).map (·.1)).Pairwise (· < ·) :=
    show [points "note", points "proof_type", points "schema_version"].Pairwise (· < ·) by decide
  refine canonicalExecutionProofBytes_ok.mpr ⟨rfl, ?_⟩
  rw [Value.write, sortMembers_writeMembers (List.pairwise_map.mp keys), noteBytes]

theorem written_payload (sha : HexSha256) {note : Points} {bytes : ByteArray}
    (same : noteBytes note = bytes)
    (fits : (executionProofText "TERMINATION_CONFIRMED" (sha.digest bytes)
      (Base64.encode bytes.data.toList)).length ≤ executionProofMaxLength) :
    encodeExecutionProof sha "TERMINATION_CONFIRMED" (payload note) =
      .ok (String.ofList (executionProofText "TERMINATION_CONFIRMED" (sha.digest bytes)
        (Base64.encode bytes.data.toList))) := by
  subst same
  exact encodeExecutionProof_ok.mpr ⟨by decide, states_payload note, _, bytes_payload note, rfl,
    String.length_ofList.trans_le fits⟩

theorem distinct_payload (note : Points) : ((payload note).map (·.1)).Nodup :=
  show [points "note", points "proof_type", points "schema_version"].Nodup by decide

theorem whole_payload {note : Points} (joined : Joined note) : (Value.obj (payload note)).Whole :=
  ⟨⟨joined_points _, joined, joined_points _, joined_points _, joined_points _, joined_points _,
    trivial⟩, distinct_payload note⟩

/-- A proof of a lost worker's termination. -/
def lost : HexSha256 :=
  hashed "e379de27bf61884cb58f3793fa0e3d2abd1b64a1242ecc5b58ce07522ea31e03" (by decide)

theorem lost_fits : (executionProofText "TERMINATION_CONFIRMED"
    "e379de27bf61884cb58f3793fa0e3d2abd1b64a1242ecc5b58ce07522ea31e03"
    (Base64.encode (noteBytes (points "lost worker é")).data.toList)).length ≤
      executionProofMaxLength := by
  decide +kernel

/-- It is read back, and written again as it was. -/
theorem lost_canonical :
    ∃ (s : String) (back : List (Points × Value)),
      encodeExecutionProof lost "TERMINATION_CONFIRMED" (payload (points "lost worker é")) = .ok s ∧
      (Value.obj (payload (points "lost worker é"))).canonical = .obj back ∧
      decodeExecutionProof lost s none = .ok back ∧
      ∃ proofType, encodeExecutionProof lost proofType back = .ok s := by
  obtain ⟨s, back, encoded, same, read⟩ := (execution_proof_canonical lost).1 "TERMINATION_CONFIRMED"
    (payload (points "lost worker é")) (noteBytes (points "lost worker é")) (by decide)
    (states_payload _) (whole_payload (joined_points _)) (bytes_payload _) lost_fits
  have read := read none (by simp)
  obtain ⟨proofType, -, -, again⟩ := (execution_proof_canonical lost).2.1 s none back read
  exact ⟨s, back, encoded, same, read, proofType, again⟩

/-- A proof whose note is two surrogates that stand for one character. -/
def paired : HexSha256 :=
  hashed "c69ce644fb57b27a0a59503798c72a8498ad0d7a152856335ab778daa86c36ae" (by decide)

theorem paired_fits : (executionProofText "TERMINATION_CONFIRMED"
    "c69ce644fb57b27a0a59503798c72a8498ad0d7a152856335ab778daa86c36ae"
    (Base64.encode (noteBytes [0xD83D, 0xDE00]).data.toList)).length ≤ executionProofMaxLength := by
  decide +kernel

/-- It is not read back: the note read is the character. -/
theorem paired_joined :
    ∃ (s : String) (back : List (Points × Value)),
      encodeExecutionProof paired "TERMINATION_CONFIRMED" (payload [0xD83D, 0xDE00]) = .ok s ∧
      decodeExecutionProof paired s none = .ok back ∧
      (Value.obj (payload [0xD83D, 0xDE00])).canonical ≠ (Value.obj back).canonical := by
  have text : writeMembers (payload [0xD83D, 0xDE00]) = writeMembers (payload [0x1F600]) := rfl
  have same : noteBytes [0x1F600] = noteBytes [0xD83D, 0xDE00] := by rw [noteBytes, noteBytes, text]
  have first := written_payload paired rfl paired_fits
  have second := written_payload paired same paired_fits
  refine ⟨_, _, first, decode_encode (whole_payload (.singleton _)) second (by simp), ?_⟩
  intro equal
  have lists : sortMembers (canonicalMembers (payload [0xD83D, 0xDE00])) =
      sortMembers (canonicalMembers (payload [0x1F600])) :=
    Value.obj.inj (equal.trans (canonical_canonical (.obj (payload [0x1F600]))))
  have read := memberIsText_canonical (distinct_payload [0xD83D, 0xDE00]) "note" "😀"
  rw [lists, memberIsText_canonical (distinct_payload [0x1F600])] at read
  exact absurd read (by decide)

end ProofSample

end CyberAssess
