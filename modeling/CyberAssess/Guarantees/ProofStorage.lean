import CyberAssess.Execution.ProofPayload
import CyberAssess.Guarantees.ProofCanonical

/-!
# Guarantees — the storage bound against the codec

`ExecutionProof.fits` is computed from the proof, `encode_execution_proof` measures the text it wrote.

* `length_write_obj`: the text of an object is as long as its members, their colons and commas.
* `length_encode`: three bytes are four characters.
* `encodes_iff`: a proof is written exactly where it fits and its integers can be written.
* `decode_stored`: what was written of a proof is accepted.
-/

namespace CyberAssess

open Python
open Checked (ensure refuse require bind_ok exists_unit ensure_ok require_ok)

/-! ### Strings and integers -/

theorem length_writePoint (c : Char) : (writePoint (point c)).length = jsonCharLength c := by
  have quote : c = '"' ↔ c.val.toNat = 34 :=
    ⟨fun h => by rw [h]; rfl, fun h => point_inj (d := '"') (Fin.ext h)⟩
  have backslash : c = '\\' ↔ c.val.toNat = 92 :=
    ⟨fun h => by rw [h]; rfl, fun h => point_inj (d := '\\') (Fin.ext h)⟩
  have value : (point c).val = c.val.toNat := rfl
  simp only [writePoint, jsonCharLength, value, Bool.or_eq_true, decide_eq_true_eq, quote, backslash]
  split_ifs <;> first | rfl | omega

theorem length_writeString (s : String) :
    (writeString (points s)).length = jsonStringLength s := by
  have each : ((fun p => (writePoint p).length) ∘ point) = jsonCharLength :=
    funext length_writePoint
  rw [writeString, points, jsonStringLength, List.cons_append, List.length_cons, List.length_append,
    List.length_flatMap, List.map_map, each, List.length_singleton]
  omega

theorem length_writeInt (n : Int) : (writeInt n).length = jsonIntLength n := by
  cases n with
  | ofNat m =>
      have text : (toString (Int.ofNat m)).toList = Nat.toDigits 10 m := Nat.toList_repr
      rw [writeInt, jsonIntLength, ← String.length_toList, text]
  | negSucc m =>
      have text : (toString (Int.negSucc m)).toList = '-' :: Nat.toDigits 10 (m + 1) := by
        change ("-" ++ (m + 1).repr).toList = _
        rw [String.toList_append, Nat.toList_repr]
        rfl
      rw [writeInt, jsonIntLength, ← String.length_toList, text]

/-! ### Objects -/

theorem length_commas : ∀ ts : List (List Char),
    (commas ts).length = (ts.map List.length).sum + (ts.length - 1)
  | [] => rfl
  | [t] => by simp [commas]
  | t :: u :: ts => by
      have rest := length_commas (u :: ts)
      rw [commas, List.length_append, List.length_cons, rest]
      · simp only [List.map_cons, List.sum_cons, List.length_cons]
        omega
      · nofun

/-- Every member takes its key, a colon, its value and, but for one, a comma. -/
theorem length_write_obj (ms : List (Points × Value)) :
    (Value.obj ms).write.length =
      2 + (ms.map fun m => (writeString m.1).length + 1 + m.2.write.length).sum +
        (ms.length - 1) := by
  have sorted : ((sortMembers (writeMembers ms)).map fun m => (writeMember m).length).sum =
      (ms.map fun m => (writeString m.1).length + 1 + m.2.write.length).sum := by
    rw [((sortMembers_perm _).map _).sum_eq, writeMembers_eq, List.map_map]
    refine congrArg List.sum (List.map_congr_left fun m _ => ?_)
    simp only [Function.comp_apply, writeMember, List.length_append, List.length_cons]
    omega
  have count : (sortMembers (writeMembers ms)).length = ms.length := by
    rw [(sortMembers_perm _).length_eq, writeMembers_eq, List.length_map]
  rw [Value.write, List.cons_append, List.length_cons, List.length_append, length_commas,
    List.map_map, List.length_map, count, List.length_singleton]
  change (List.map (fun m => (writeMember m).length) _).sum + _ + 1 + 1 = _
  rw [sorted]
  omega

/-! ### Scalars -/

/-- `None`, an integer or a text: what the payload of a proof holds. -/
inductive Scalar : Value → Prop
  | null : Scalar .null
  | int (n : Int) : Scalar (.int n)
  | text (s : String) : Scalar (.str (points s))

theorem scalar_textOrNull : ∀ s : Option String, Scalar (textOrNull s)
  | none => .null
  | some s => .text s

theorem Scalar.whole {v : Value} (h : Scalar v) : v.Whole := by
  cases h with
  | null => trivial
  | int n => trivial
  | text s => exact joined_points s

theorem writePoint_ascii {p : CodePoint} : ∀ c ∈ writePoint p, c.val ≤ 127 := by
  intro c hc
  have small : c.val.toNat ≤ 126 := by
    by_cases space : p = 32
    · rw [space] at hc
      rw [List.mem_singleton.mp hc]
      decide
    · exact (writePoint_graphic space c hc).2
  exact UInt32.le_iff_toNat_le.mpr (Nat.le_succ_of_le small)

theorem toDigits_ascii (n : Nat) : ∀ c ∈ Nat.toDigits 10 n, c.val ≤ 127 := by
  intro c hc
  have digit := Nat.isDigit_of_mem_toDigits (by decide) (by decide) hc
  simp only [Char.isDigit, Bool.and_eq_true, decide_eq_true_eq] at digit
  exact UInt32.le_trans digit.2 (by decide)

theorem Scalar.ascii {v : Value} (h : Scalar v) : ∀ c ∈ v.write, c.val ≤ 127 := by
  cases h with
  | null => exact List.forall_mem_cons.mpr ⟨by decide, List.forall_mem_cons.mpr ⟨by decide, by simp⟩⟩
  | int n =>
      cases n with
      | ofNat n => exact toDigits_ascii n
      | negSucc n => exact List.forall_mem_cons.mpr ⟨by decide, toDigits_ascii (n + 1)⟩
  | text s =>
      intro c hc
      rw [Value.write, writeString, List.cons_append, List.mem_cons, List.mem_append, List.mem_flatMap,
        List.mem_singleton] at hc
      rcases hc with rfl | ⟨p, -, hc⟩ | rfl
      · decide
      · exact writePoint_ascii c hc
      · decide

theorem commas_ascii : ∀ {ts : List (List Char)}, (∀ t ∈ ts, ∀ c ∈ t, c.val ≤ 127) →
    ∀ c ∈ commas ts, c.val ≤ 127
  | [], _, c, hc => absurd hc (by simp [commas])
  | [t], h, c, hc => h t (List.mem_singleton_self t) c (by rwa [commas] at hc)
  | t :: u :: ts, h, c, hc => by
      rw [List.forall_mem_cons] at h
      rw [commas, List.mem_append, List.mem_cons] at hc
      · rcases hc with hc | rfl | hc
        · exact h.1 c hc
        · decide
        · exact commas_ascii h.2 c hc
      · nofun

/-- An object of scalars is written in ASCII. -/
theorem write_obj_ascii {ms : List (Points × Value)} (h : ∀ m ∈ ms, Scalar m.2) :
    ∀ c ∈ (Value.obj ms).write, c.val ≤ 127 := by
  have members : ∀ t ∈ (sortMembers (writeMembers ms)).map writeMember, ∀ c ∈ t, c.val ≤ 127 := by
    intro t ht c hc
    obtain ⟨written, hw, rfl⟩ := List.mem_map.mp ht
    rw [(sortMembers_perm _).mem_iff, writeMembers_eq] at hw
    obtain ⟨m, hm, rfl⟩ := List.mem_map.mp hw
    rw [writeMember, List.mem_append, List.mem_cons] at hc
    rcases hc with hc | rfl | hc
    · rw [writeString, List.cons_append, List.mem_cons, List.mem_append, List.mem_flatMap,
        List.mem_singleton] at hc
      rcases hc with rfl | ⟨p, -, hc⟩ | rfl
      · decide
      · exact writePoint_ascii c hc
      · decide
    · decide
    · exact (h m hm).ascii c hc
  intro c hc
  rw [Value.write, List.cons_append, List.mem_cons, List.mem_append, List.mem_singleton] at hc
  rcases hc with rfl | hc | rfl
  · decide
  · exact commas_ascii members c hc
  · decide

/-! ### Bytes -/

theorem length_utf8 : ∀ {cs : List Char}, (∀ c ∈ cs, c.val ≤ 127) → cs.utf8Encode.size = cs.length
  | [], _ => rfl
  | c :: cs, h => by
      rw [List.forall_mem_cons] at h
      have single : [c].utf8Encode.size = 1 := by
        rw [List.utf8Encode_singleton, List.size_toByteArray, String.length_utf8EncodeChar]
        exact Char.utf8Size_eq_one_iff.mpr h.1
      rw [List.utf8Encode_cons, ByteArray.size_append, single, length_utf8 h.2, List.length_cons]
      omega

/-- Three bytes are four characters; one that is left is two, two are three. -/
theorem length_encode : ∀ bs : List UInt8,
    (Base64.encode bs).length = (4 * bs.length + 2) / 3
  | [] => rfl
  | [a] => by simp [Base64.encode, Base64.sextets]
  | [a, b] => by simp [Base64.encode, Base64.sextets]
  | a :: b :: c :: rest => by
      have others := length_encode rest
      rw [Base64.encode, List.length_map] at others ⊢
      simp only [Base64.sextets, List.length_cons, others]
      omega

/-! ### The payload -/

section
variable (sha : HexSha256)

theorem detail_keys (d : ProofDetail) : (d.members sha).map (·.1) = d.keys := by
  cases d <;> rfl

theorem payload_keys (p : ExecutionProof) :
    (p.payload sha).map (·.1) = (executionProofCommonKeys ++ p.detail.keys).map points := by
  have common : (p.commonMembers sha).map (·.1) = executionProofCommonKeys := rfl
  rw [← detail_keys sha, ← common, ← List.map_append, List.map_map, ExecutionProof.payload,
    List.map_map]
  rfl

theorem payload_distinct (p : ExecutionProof) : ((p.payload sha).map (·.1)).Nodup := by
  rw [payload_keys]
  refine List.Nodup.map (fun _ _ => points_inj) ?_
  cases p.detail <;> simp only [ProofDetail.keys] <;> decide

theorem payload_scalar (p : ExecutionProof) : ∀ m ∈ p.payload sha, Scalar m.2 := by
  have members : ∀ m ∈ p.commonMembers sha ++ p.detail.members sha, Scalar m.2 := by
    rw [List.forall_mem_append]
    constructor
    · simp [ExecutionProof.commonMembers, Scalar.text, Scalar.int, scalar_textOrNull]
    · cases h : p.detail with
      | noExternalProcess code => simp [ProofDetail.members, Scalar.text]
      | terminationConfirmed e =>
          cases hs : e.sessionId <;>
            simp [ProofDetail.members, hs, Scalar.text, Scalar.int, Scalar.null, scalar_textOrNull]
  intro m hm
  obtain ⟨n, hn, rfl⟩ := List.mem_map.mp hm
  exact members n hn

theorem payload_values (p : ExecutionProof) :
    ((p.payload sha).map (·.2)) =
      (p.commonMembers sha).map (·.2) ++ (p.detail.members sha).map (·.2) := by
  rw [ExecutionProof.payload, List.map_map, ← List.map_append]
  rfl

theorem payload_whole (p : ExecutionProof) : (Value.obj (p.payload sha)).Whole := by
  refine ⟨wholeMembers_iff.mpr fun m hm => ⟨?_, (payload_scalar sha p m hm).whole⟩, payload_distinct sha p⟩
  obtain ⟨n, -, rfl⟩ := List.mem_map.mp hm
  exact joined_points n.1

/-- **A stored proof decodes**: the text that was written of it is accepted. -/
theorem decode_stored {p : ExecutionProof} {s : String}
    (written : encodeExecutionProof sha p.detail.proofType (p.payload sha) = .ok s) :
    decodeExecutionProof sha s (some p.detail.proofType) =
      .ok (sortMembers (canonicalMembers (p.payload sha))) :=
  decode_encode (payload_whole sha p) written fun _ he => (Option.mem_some.mp he).symm

/-! ### Its length -/

theorem jsonStringLength_plain {s : String} (plain : ∀ c ∈ s.toList, jsonCharLength c = 1) :
    jsonStringLength s = 2 + s.length := by
  rw [jsonStringLength, List.map_congr_left plain, List.map_const', List.sum_replicate_nat, mul_one,
    String.length_toList]

theorem length_textOrNull (s : Option String) :
    (textOrNull s).write.length = jsonOptionLength jsonStringLength s := by
  cases s with
  | none => rfl
  | some s => exact length_writeString s

theorem jsonOptionLength_map {α β : Type} (f : β → Nat) (g : α → β) (o : Option α) :
    jsonOptionLength f (o.map g) = jsonOptionLength (fun a => f (g a)) o := by
  cases o <;> rfl

theorem length_digest (bytes : ByteArray) :
    jsonStringLength (sha.digest bytes) = jsonDigestLength := by
  have hex := sha.hex bytes
  have all : "0123456789abcdef".toList.all (fun c => jsonCharLength c = 1) = true := by decide
  have digits : ∀ c ∈ "0123456789abcdef".toList, jsonCharLength c = 1 := fun c hc =>
    of_decide_eq_true (List.all_eq_true.mp all c hc)
  have length := length_of_isHexDigest hex
  rw [String.length_toList] at length
  simp only [isHexDigest, Bool.and_eq_true, List.all_eq_true] at hex
  rw [jsonStringLength_plain fun c hc => digits c (List.contains_iff_mem.mp (hex.2 c hc)), length]
  rfl

theorem length_claimDigest (d : Option ClaimDigest) :
    jsonOptionLength jsonStringLength (d.map (·.text sha)) =
      jsonOptionLength (fun _ => jsonDigestLength) d := by
  rw [jsonOptionLength_map]
  exact congrArg (jsonOptionLength · d) (funext fun d => length_digest sha d.token.toUTF8)

theorem padded_plain : ∀ width n : Nat, ∀ c ∈ padded width n, jsonCharLength c = 1
  | 0, _, c, hc => absurd hc List.not_mem_nil
  | width + 1, n, c, hc => by
      rw [padded, List.mem_append, List.mem_singleton] at hc
      rcases hc with hc | rfl
      · exact padded_plain width (n / 10) c hc
      · exact (by decide : ∀ i : Fin 10, jsonCharLength (Nat.digitChar i.val) = 1)
          ⟨n % 10, Nat.mod_lt n (by decide)⟩

theorem isoformat_plain (t : Instant) : ∀ c ∈ (isoformat t).toList, jsonCharLength c = 1 := by
  have micros : ∀ c ∈ microseconds (t % 1000000), jsonCharLength c = 1 := by
    unfold microseconds
    split
    · exact fun _ hc => absurd hc List.not_mem_nil
    · exact List.forall_mem_cons.mpr ⟨by decide, padded_plain 6 _⟩
  rw [isoformat, String.toList_ofList, isoChars]
  simp only [List.forall_mem_append, List.forall_mem_cons]
  refine ⟨⟨⟨⟨⟨⟨⟨padded_plain 4 _, by decide, padded_plain 2 _⟩, by decide, padded_plain 2 _⟩, by decide,
    padded_plain 2 _⟩, by decide, padded_plain 2 _⟩, by decide, padded_plain 2 _⟩, micros⟩,
    by decide, by decide, by decide, by decide, by decide, by decide, List.forall_mem_nil _⟩

theorem length_instant (t : Instant) : jsonStringLength (isoformat t) = jsonInstantLength t := by
  rw [jsonStringLength_plain (isoformat_plain t), length_isoformat, jsonInstantLength]
  split <;> rfl

theorem length_common (p : ExecutionProof) :
    (((p.commonMembers sha).map (·.2)).map (·.write.length)).sum = p.commonLength := by
  simp only [ExecutionProof.commonMembers, List.map_cons, List.map_nil, List.sum_cons, List.sum_nil,
    Value.write, length_writeString, length_textOrNull, length_writeInt, length_claimDigest,
    jsonOptionLength_map jsonStringLength ReasonCode.text, length_instant, ExecutionProof.commonLength, executionProofSchemaVersion]
  omega

theorem length_detail (d : ProofDetail) :
    (((d.members sha).map (·.2)).map (·.write.length)).sum = d.valuesLength := by
  cases d with
  | noExternalProcess code =>
      simp only [ProofDetail.members, List.map_cons, List.map_nil, List.sum_cons, List.sum_nil,
        Value.write, length_writeString, ProofDetail.valuesLength]
      rfl
  | terminationConfirmed e =>
      have session : ((e.sessionId.map Value.int).getD .null).write.length =
          jsonOptionLength jsonIntLength e.sessionId := by
        cases e.sessionId with
        | none => rfl
        | some n => exact length_writeInt n
      simp only [ProofDetail.members, List.map_cons, List.map_nil, List.sum_cons, List.sum_nil,
        Value.write, length_writeString, length_textOrNull, length_writeInt, session,
        jsonOptionLength_map jsonStringLength Attestation.text,
        canonicalBindingDigest, length_digest, ProofDetail.valuesLength]
      omega

theorem length_payload (p : ExecutionProof) :
    (Value.obj (p.payload sha)).write.length = p.canonicalLength := by
  have keys : ((p.payload sha).map fun m => (writeString m.1).length + 1) =
      (executionProofCommonKeys ++ p.detail.keys).map fun k => jsonStringLength k + 1 := by
    have names := congrArg (List.map fun k => (writeString k).length + 1) (payload_keys sha p)
    rw [List.map_map, List.map_map] at names
    exact names.trans (List.map_congr_left fun k _ => congrArg (· + 1) (length_writeString k))
  have values : ((p.payload sha).map fun m => m.2.write.length).sum =
      p.commonLength + p.detail.valuesLength := by
    have each := congrArg (List.map (·.write.length)) (payload_values sha p)
    rw [List.map_map, List.map_append] at each
    rw [← length_common sha, ← length_detail sha, ← List.sum_append, ← each]
    rfl
  have count : (p.payload sha).length = (executionProofCommonKeys ++ p.detail.keys).length := by
    rw [← List.length_map points, ← payload_keys sha, List.length_map]
  rw [length_write_obj, List.sum_map_add, keys, values, count, ExecutionProof.canonicalLength]
  omega

/-- The text that is written is as long as the model computes. -/
theorem length_stored {p : ExecutionProof} {canonical : ByteArray}
    (bytes : canonicalExecutionProofBytes (p.payload sha) = .ok canonical) :
    (executionProofText p.detail.proofType (sha.digest canonical)
      (Base64.encode canonical.data.toList)).length = p.encodedLength := by
  obtain ⟨-, rfl⟩ := canonicalExecutionProofBytes_ok.mp bytes
  have size : (String.ofList (Value.obj (p.payload sha)).write).toUTF8.data.toList.length =
      p.canonicalLength := by
    rw [Array.length_toList, ← length_payload sha]
    change (String.ofList _).toByteArray.size = _
    rw [String.toByteArray_ofList, length_utf8 (write_obj_ascii (payload_scalar sha p))]
  rw [executionProofText, ExecutionProof.encodedLength]
  simp only [List.length_append, List.length_cons, String.length_toList, length_encode, size,
    length_of_isHexDigest (sha.hex _)]
  omega

/-! ### What is written -/

theorem states_payload (p : ExecutionProof) : States (p.payload sha) p.detail.proofType := by
  have version : (p.payload sha).lookup (points "schema_version") =
      some (.str (points executionProofSchemaVersion)) := rfl
  have apart : (points "proof_type" == points "schema_version") = false := by decide
  have kind : (p.payload sha).lookup (points "proof_type") =
      some (.str (points p.detail.proofType)) := by
    simp only [ExecutionProof.payload, ExecutionProof.commonMembers, List.cons_append, List.map_cons,
      List.lookup_cons, apart, beq_self_eq_true]
  constructor
  · rw [memberIsText, version]
    exact decide_eq_true rfl
  · rw [memberIsText, kind]
    exact decide_eq_true rfl

theorem dumpable_textOrNull (s : Option String) : dumpable (textOrNull s) = true := by
  cases s <;> rfl

theorem dumpable_payload (p : ExecutionProof) :
    dumpableMembers (p.payload sha) = true ↔ p.printable = true := by
  have common : (∀ m ∈ p.commonMembers sha, dumpable m.2 = true) ↔
      intPrintable p.recoveryAttemptNumber = true := by
    simp [ExecutionProof.commonMembers, dumpable, dumpable_textOrNull, intPrintable]
  have detail : (∀ m ∈ p.detail.members sha, dumpable m.2 = true) ↔ p.detail.printable = true := by
    cases p.detail with
    | noExternalProcess code => simp [ProofDetail.members, ProofDetail.printable, dumpable]
    | terminationConfirmed e =>
        cases hs : e.sessionId <;>
          simp [ProofDetail.members, ProofDetail.printable, dumpable, dumpable_textOrNull,
            intPrintable, hs]
  rw [dumpableMembers_iff, ExecutionProof.payload, List.forall_mem_map, List.forall_mem_append, common,
    detail, ExecutionProof.printable, Bool.and_eq_true]

/-- **The bound is the codec's**: a proof is written exactly where it fits and its integers can be. -/
theorem encodes_iff (p : ExecutionProof) :
    (∃ s, encodeExecutionProof sha p.detail.proofType (p.payload sha) = .ok s) ↔
      p.fits = true ∧ p.printable = true := by
  have known : executionProofTypes.contains p.detail.proofType = true := by
    cases p.detail <;> rfl
  rw [← dumpable_payload sha, ExecutionProof.fits, decide_eq_true_eq]
  constructor
  · rintro ⟨s, written⟩
    obtain ⟨-, -, canonical, bytes, rfl, fits⟩ := encodeExecutionProof_ok.mp written
    rw [String.length_ofList, length_stored sha bytes] at fits
    exact ⟨fits, (canonicalExecutionProofBytes_ok.mp bytes).1⟩
  · rintro ⟨fits, written⟩
    have bytes := canonicalExecutionProofBytes_ok.mpr ⟨written, rfl⟩
    refine ⟨_, encodeExecutionProof_ok.mpr ⟨known, states_payload sha p, _, bytes, rfl, ?_⟩⟩
    rw [String.length_ofList, length_stored sha bytes]
    exact fits

end

end CyberAssess
