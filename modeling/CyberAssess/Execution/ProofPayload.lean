import CyberAssess.Execution.Proof
import CyberAssess.Execution.ProofCodec
import CyberAssess.Support.IsoFormat

/-!
# Execution — the payload of a proof

The `dict` that `encode_execution_proof` is given, of an `ExecutionProof`.

* `canonicalBindingDigest` is `canonical_binding_digest` of an attestation text.
* `ExecutionProof.payload` has the common members of `common_proof`, and those its type adds.
* `ExecutionProof.printable`: its integers are within the interpreter's limit of digits.
-/

namespace CyberAssess

open Python

/-- `payload[name]` of a text, and of a text or `None`. -/
def textOrNull : Option String → Value
  | none => .null
  | some s => .str (points s)

/-- One character of a `json.dumps(…, ensure_ascii=False)`. -/
def dumpsChar (c : Char) : List Char :=
  let n := c.val.toNat
  if n < 32 ∨ n = 34 ∨ n = 92 then writePoint (point c) else [c]

variable (sha : HexSha256)

/-- `canonical_binding_digest(value)` of a text or `None`. -/
def canonicalBindingDigest (value : Option String) : String :=
  sha.digest (match value with
    | none => "null"
    | some s => String.ofList ('"' :: s.toList.flatMap dumpsChar ++ ['"'])).toUTF8

/-- `execution_claim_digest(token)`. -/
def ClaimDigest.text (d : ClaimDigest) : String := sha.digest d.token.toUTF8

/-- `common_proof`. -/
def ExecutionProof.commonMembers (p : ExecutionProof) : List (String × Value) :=
  [("schema_version", .str (points executionProofSchemaVersion)),
    ("proof_type", .str (points p.detail.proofType)),
    ("execution_id", .str (points p.executionId)),
    ("organization_id", .str (points p.organizationId)),
    ("request_id", .str (points p.requestId)),
    ("decision_id", .str (points p.decisionId)),
    ("terminal_state", .str (points p.terminalState.text)),
    ("dispatch_state", .str (points p.dispatchState.text)),
    ("ownership_state", .str (points p.ownershipState.text)),
    ("container_type", .str (points p.containerType.text)),
    ("launch_commit_state", .str (points p.launchCommitState.text)),
    ("worker_identity", .str (points p.workerIdentity)),
    ("worker_generation", .str (points p.workerGeneration)),
    ("correlation_id", .str (points p.correlationId)),
    ("claim_identity_digest", textOrNull (p.claimIdentityDigest.map (·.text sha))),
    ("dispatch_identity_digest", textOrNull (p.dispatchIdentityDigest.map (·.text sha))),
    ("reason_code", textOrNull (p.reasonCode.map (·.text))),
    ("observed_at", .str (points (isoformat p.observedAt))),
    ("recovery_status", .str (points p.recoveryStatus.text)),
    ("recovery_attempt_number", .int p.recoveryAttemptNumber),
    ("recovery_attempt_id", textOrNull p.recoveryAttemptId)]

/-- What the two proof types add. -/
def ProofDetail.members : ProofDetail → List (String × Value)
  | .noExternalProcess code => [("proof_code", .str (points code.text))]
  | .terminationConfirmed e =>
      [("termination_status", .str (points e.terminationStatus.value)),
        ("process_id", .int e.processId),
        ("process_group_id", textOrNull e.processGroupId),
        ("process_start_token", textOrNull e.processStartToken),
        ("session_id", (e.sessionId.map Value.int).getD .null),
        ("identity_attestation", textOrNull (e.identityAttestation.map (·.text))),
        ("identity_attestation_digest",
          .str (points (canonicalBindingDigest sha (e.identityAttestation.map (·.text)))))]

/-- The payload. -/
def ExecutionProof.payload (p : ExecutionProof) : List (Points × Value) :=
  (p.commonMembers sha ++ p.detail.members sha).map fun m => (points m.1, m.2)

/-- `int` writes at most 4300 digits. -/
def intPrintable (n : Int) : Bool := (Nat.toDigits 10 n.natAbs).length ≤ 4300

/-- The integers of the detail. -/
def ProofDetail.printable : ProofDetail → Bool
  | .noExternalProcess _ => true
  | .terminationConfirmed e => intPrintable e.processId && e.sessionId.all intPrintable

/-- Every integer of the proof can be written. -/
def ExecutionProof.printable (p : ExecutionProof) : Bool :=
  intPrintable p.recoveryAttemptNumber && p.detail.printable

end CyberAssess
