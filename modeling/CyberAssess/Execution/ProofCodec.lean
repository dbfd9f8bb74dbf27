import CyberAssess.Queue.Binding
import CyberAssess.Support.Base64
import CyberAssess.Support.FloatText

/-!
# Execution — the codec of a proof

`core/execution_context.py`: a proof is stored as its type, the digest of its payload, and the payload's
canonical JSON in base64.

* `canonicalExecutionProofBytes` is the canonical JSON, where the payload has one.
* `encodeExecutionProof` writes a proof; `decodeExecutionProof` reads one and refuses every other
  spelling.

`[about ours]`: an exception is an `ExecutionContextMismatchError`, of which the message is kept. A float
among the values is its `repr`; one that is not finite keeps another text.
-/

namespace CyberAssess

open Python
open Checked (ensure refuse require)

/-- SHA-256 in hexadecimal. -/
structure HexSha256 where
  digest : ByteArray → String
  hex : ∀ bytes, isHexDigest (digest bytes) = true

/-- `_EXECUTION_PROOF_SCHEMA_VERSION`. -/
def executionProofSchemaVersion : String := "execution-proof-v2"

/-- `_EXECUTION_PROOF_TYPES`. -/
def executionProofTypes : List String := ["NO_EXTERNAL_PROCESS", "TERMINATION_CONFIRMED"]

/-- `_EXECUTION_PROOF_MAX_LENGTH`. -/
def executionProofMaxLength : Nat := 16384

/-! ### The payload -/

mutual

/-- `json.dumps(…, allow_nan=False)` writes the value: integers within the limit, finite floats. -/
def dumpable : Value → Bool
  | .null | .bool _ | .str _ => true
  | .int n => (Nat.toDigits 10 n.natAbs).length ≤ 4300
  | .float t => reprFloat t = some t
  | .arr items => dumpableItems items
  | .obj members => dumpableMembers members

/-- Every item is written. -/
def dumpableItems : List Value → Bool
  | [] => true
  | v :: vs => dumpable v && dumpableItems vs

/-- Every member is written. -/
def dumpableMembers : List (Points × Value) → Bool
  | [] => true
  | (_, v) :: ms => dumpable v && dumpableMembers ms

end

/-- `_canonical_execution_proof_bytes`. -/
def canonicalExecutionProofBytes (payload : List (Points × Value)) : Except String ByteArray := do
  ensure (dumpableMembers payload) "execution proof payload is not canonical JSON"
  return (String.ofList (Value.obj payload).write).toUTF8

/-- `payload.get(name) == text`. -/
def memberIsText (payload : List (Points × Value)) (name text : String) : Bool :=
  match payload.lookup (points name) with
  | some (.str s) => s = points text
  | _ => false

/-- A float is read as its `repr`, where it is finite. -/
def readFloat : Value → Value
  | .float t => .float ((reprFloat t).getD t)
  | v => v

/-- `_reject_duplicate_json_pairs`. -/
def rejectDuplicateJsonPairs (pairs : List (Points × Value)) : Option Value :=
  if (pairs.map (·.1)).Nodup then some (.obj pairs) else none

/-- How the payload is read. -/
def executionProofReader : Reader where
  number := readFloat
  object := rejectDuplicateJsonPairs

/-! ### The envelope -/

/-- `f"{proof_type}:v2:{digest}:{encoded_payload}"`. -/
def executionProofText (proofType digest : String) (encodedPayload : List Char) : List Char :=
  proofType.toList ++ ':' :: 'v' :: '2' :: ':' :: (digest.toList ++ ':' :: encodedPayload)

/-- The groups of `_EXECUTION_PROOF_RE`. -/
def matchExecutionProof (proof : List Char) : Option (String × String × List Char) :=
  match proof.splitOn ':' with
  | [proofType, version, digest, encodedPayload] =>
      if executionProofTypes.contains (String.ofList proofType) && version = ['v', '2'] &&
          isHexDigest (String.ofList digest) && !encodedPayload.isEmpty &&
          encodedPayload.all (fun c => (Base64.charSextet c).isSome) then
        some (String.ofList proofType, String.ofList digest, encodedPayload)
      else none
  | _ => none

variable (sha : HexSha256)

/-- `encode_execution_proof`. -/
def encodeExecutionProof (proofType : String) (payload : List (Points × Value)) :
    Except String String := do
  ensure (executionProofTypes.contains proofType) "execution proof type is unsupported"
  ensure (memberIsText payload "schema_version" executionProofSchemaVersion)
    "execution proof schema version is unsupported"
  ensure (memberIsText payload "proof_type" proofType)
    "execution proof type does not match its payload"
  let canonical ← canonicalExecutionProofBytes payload
  let proof := executionProofText proofType (sha.digest canonical)
    (Base64.encode canonical.data.toList)
  ensure (proof.length ≤ executionProofMaxLength) "execution proof exceeds the bounded storage limit"
  return String.ofList proof

/-- The payload's bytes, and the payload they hold. -/
def readExecutionProof (encodedPayload : List Char) : Option (ByteArray × Value) := do
  let bytes ← Base64.decode encodedPayload
  guard (Base64.encode bytes = encodedPayload)
  let canonical : ByteArray := ⟨bytes.toArray⟩
  let text ← String.fromUTF8? canonical
  let payload ← loadsWith executionProofReader text.toList
  return (canonical, payload)

/-- `decode_execution_proof`. -/
def decodeExecutionProof (proof : String) (expectedProofType : Option String) :
    Except String (List (Points × Value)) := do
  ensure (proof.length ≤ executionProofMaxLength) "execution proof is missing or oversized"
  let (proofType, suppliedDigest, encodedPayload) ← require (matchExecutionProof proof.toList)
    "execution proof grammar or version is invalid"
  ensure (expectedProofType.all (proofType = ·))
    "execution proof type is not the expected terminal proof"
  let (canonical, value) ← require (readExecutionProof encodedPayload)
    "execution proof payload encoding is invalid"
  let payload ← require (match value with | .obj members => some members | _ => none)
    "execution proof payload is not an object"
  let again ← canonicalExecutionProofBytes payload
  ensure (again = canonical) "execution proof payload is not canonically encoded"
  ensure (suppliedDigest = sha.digest canonical)
    "execution proof digest does not match its payload"
  ensure (memberIsText payload "schema_version" executionProofSchemaVersion)
    "execution proof payload version is unsupported"
  ensure (memberIsText payload "proof_type" proofType)
    "execution proof payload type is inconsistent"
  return payload

end CyberAssess
