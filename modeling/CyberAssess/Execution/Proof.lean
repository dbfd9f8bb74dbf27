import Mathlib
import CyberAssess.Execution.Rows

/-!
# Execution — the storage bound of a proof

`encode_execution_proof` refuses a proof longer than `_EXECUTION_PROOF_MAX_LENGTH`.  The envelope
is the proof type, the digest, and the URL-safe base64 of the payload's canonical JSON, so its
length is read off the payload.

* `ExecutionProof.encodedLength` is that length, `ExecutionProof.fits` the bound.
-/

namespace CyberAssess

/-- The characters one character takes in an ASCII-only JSON string. -/
def jsonCharLength (c : Char) : Nat :=
  let n := c.val.toNat
  if c = '"' || c = '\\' || n = 8 || n = 9 || n = 10 || n = 12 || n = 13 then 2
  else if n < 32 || 126 < n then (if 0xFFFF < n then 12 else 6)
  else 1

/-- A JSON string, quotes included. -/
def jsonStringLength (s : String) : Nat := 2 + (s.toList.map jsonCharLength).sum

/-- `null`, or the value. -/
def jsonOptionLength {α : Type} (f : α → Nat) : Option α → Nat
  | none => 4
  | some v => f v

/-- A JSON integer. -/
def jsonIntLength (n : Int) : Nat := (toString n).length

/-- `datetime.isoformat()` in UTC, quoted: microseconds are left out when they are zero. -/
def jsonInstantLength (t : Instant) : Nat := if t % 1000000 = 0 then 27 else 34

/-- A quoted SHA-256 in hexadecimal. -/
def jsonDigestLength : Nat := 66

/-- `EXECUTION_PROOF_COMMON_KEYS`. -/
def executionProofCommonKeys : List String :=
  ["schema_version", "proof_type", "execution_id", "organization_id", "request_id", "decision_id",
    "terminal_state", "dispatch_state", "ownership_state", "container_type",
    "launch_commit_state", "worker_identity", "worker_generation", "correlation_id",
    "claim_identity_digest", "dispatch_identity_digest", "reason_code", "observed_at",
    "recovery_status", "recovery_attempt_number", "recovery_attempt_id"]

/-- What the two proof types add. -/
def ProofDetail.keys : ProofDetail → List String
  | .noExternalProcess _ => ["proof_code"]
  | .terminationConfirmed _ =>
      ["termination_status", "process_id", "process_group_id", "process_start_token",
        "session_id", "identity_attestation", "identity_attestation_digest"]

/-- The proof type of the envelope. -/
def ProofDetail.proofType : ProofDetail → String
  | .noExternalProcess _ => "NO_EXTERNAL_PROCESS"
  | .terminationConfirmed _ => "TERMINATION_CONFIRMED"

/-- The value of the status. -/
def TerminationStatus.value : TerminationStatus → String
  | .killed => "KILLED"
  | .alreadyExited => "ALREADY_EXITED"
  | .preDispatch => "PRE_DISPATCH"
  | .noExternalProcess => "NO_EXTERNAL_PROCESS"

/-- The values of the keys the proof type adds. -/
def ProofDetail.valuesLength : ProofDetail → Nat
  | .noExternalProcess code => jsonStringLength code.text
  | .terminationConfirmed e =>
      jsonStringLength e.terminationStatus.value + jsonIntLength e.processId +
        jsonOptionLength jsonStringLength e.processGroupId +
        jsonOptionLength jsonStringLength e.processStartToken +
        jsonOptionLength jsonIntLength e.sessionId +
        jsonOptionLength (jsonStringLength ·.text) e.identityAttestation + jsonDigestLength

/-- The values of the common keys. -/
def ExecutionProof.commonLength (p : ExecutionProof) : Nat :=
  jsonStringLength "execution-proof-v2" + jsonStringLength p.detail.proofType +
    jsonStringLength p.executionId + jsonStringLength p.organizationId +
    jsonStringLength p.requestId + jsonStringLength p.decisionId +
    jsonStringLength p.terminalState.text + jsonStringLength p.dispatchState.text +
    jsonStringLength p.ownershipState.text + jsonStringLength p.containerType.text +
    jsonStringLength p.launchCommitState.text + jsonStringLength p.workerIdentity +
    jsonStringLength p.workerGeneration + jsonStringLength p.correlationId +
    jsonOptionLength (fun _ => jsonDigestLength) p.claimIdentityDigest +
    jsonOptionLength (fun _ => jsonDigestLength) p.dispatchIdentityDigest +
    jsonOptionLength (jsonStringLength ·.text) p.reasonCode + jsonInstantLength p.observedAt +
    jsonStringLength p.recoveryStatus.text + jsonIntLength p.recoveryAttemptNumber +
    jsonOptionLength jsonStringLength p.recoveryAttemptId

/-- The canonical JSON of the payload: braces, keys with their colons, values and commas. -/
def ExecutionProof.canonicalLength (p : ExecutionProof) : Nat :=
  let keys := executionProofCommonKeys ++ p.detail.keys
  2 + (keys.map fun k => jsonStringLength k + 1).sum + (keys.length - 1) + p.commonLength +
    p.detail.valuesLength

/-- `type:v2:digest:payload`, the payload in base64 without padding. -/
def ExecutionProof.encodedLength (p : ExecutionProof) : Nat :=
  p.detail.proofType.length + 4 + 64 + 1 + (4 * p.canonicalLength + 2) / 3

/-- `len(proof) <= _EXECUTION_PROOF_MAX_LENGTH`. -/
def ExecutionProof.fits (p : ExecutionProof) : Bool := p.encodedLength ≤ 16384

end CyberAssess
