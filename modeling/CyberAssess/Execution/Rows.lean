import CyberAssess.Support.Table
import CyberAssess.Support.Checked
import CyberAssess.Execution.States

/-!
# Execution — the durable rows

One execution is six rows that approval inserts together and nothing deletes: the request, its
decision, its run, the dispatch intent, the process ownership and the recovery state, with the
recovery attempts and the claim events of the audit log appended to them.  Foreign keys and
`uq_execution_runs_request` make the joins of `core/db.py` over these tables one-to-one, so the
joined rows are one value here.

* `Authority` has the columns no statement updates, `Rows` those that statements update.
* `ExecutionTable` carries the unique keys of the tables, `RequestTable` those of the requests
  that have no decision yet.
* `DbError` is what a statement raises; the transaction is then rolled back.

`[about ours]`: `execution_runs` also has `create_execution_run`, which nothing calls and whose
insert `uq_execution_runs_request` refuses for a request approval has already given a run.
-/

namespace CyberAssess

/-! ### Columns written once -/

/-- The columns `execution_requests` copies to the decision and the run. -/
structure OperationSnapshot where
  targetId : String
  authorizationDecisionId : String
  targetPolicyVersion : String
  toolId : String
  operationFamily : String
  operationOptionsJson : String
  operationPolicyRevision : String
  resourceBudgetJson : String
  accountImpactBudgetJson : String
  credentialScopeJson : String
deriving DecidableEq, Repr

/-- The columns of `execution_requests` that stay as inserted. -/
structure RequestColumns where
  id : String
  idempotencyKey : String
  requestFingerprint : String
  organizationId : String
  projectId : Option String
  assetId : String
  operation : OperationSnapshot
  requestedByUserId : String
  createdAt : Instant
deriving DecidableEq, Repr

/-- The columns of `execution_decisions` that stay as inserted. -/
structure DecisionColumns where
  id : String
  organizationId : String
  projectId : Option String
  assetId : String
  operation : OperationSnapshot
  approvalState : ApprovalState
  approverUserId : String
  sessionJti : String
  workerIdentity : String
  createdAt : Instant
deriving DecidableEq, Repr

/-- The columns of `execution_runs` that stay as inserted. -/
structure RunColumns where
  executionId : String
  requestId : String
  organizationId : String
  approvedDecisionId : String
  requestFingerprint : String
  workerGeneration : String
  targetPolicyVersion : String
  operationPolicyRevision : String
  operationOptionsJson : String
  resourceBudgetJson : String
  accountImpactBudgetJson : String
  credentialScopeJson : String
  correlationId : String
  createdAt : Instant
deriving DecidableEq, Repr

/-- What approval wrote for one execution and nothing rewrites. -/
structure Authority where
  request : RequestColumns
  approvedDecisionId : String
  approvalIdempotencyKey : String
  decision : DecisionColumns
  run : RunColumns
  ownershipCorrelationId : String
deriving DecidableEq, Repr

/-! ### Process identity and proofs -/

/-- One member of `PosixProcessAttestation.member_snapshot`. -/
structure ProcessMember where
  pid : Nat
  processGroupId : Nat
  sessionId : Nat
  startToken : String
deriving DecidableEq, Repr

/-- The fields of `PosixProcessAttestation` that are read back. -/
structure PosixAttestation where
  bootId : String
  rootStartTicks : Nat
  sessionId : Nat
  processGroupId : Nat
  workerGeneration : String
  verified : Bool
  memberSnapshot : List ProcessMember
deriving DecidableEq, Repr

/-- The fields of `WindowsJobAttestation` that are read back. -/
structure WindowsAttestation where
  jobIdentity : String
  executionId : String
  organizationId : String
  workerIdentity : String
  rootProcessId : Int
  rootProcessStartToken : String
  workerGeneration : String
  verified : Bool
  capturedAt : Instant
  expiresAt : Instant
deriving DecidableEq, Repr

/-- What `model_validate_json` makes of an attestation text. -/
inductive AttestationReading where
  | posix (a : PosixAttestation)
  | windows (a : WindowsAttestation)
  | invalid
deriving DecidableEq, Repr

/-- An `identity_attestation` value: the text, and how it reads. -/
structure Attestation where
  text : String
  reading : AttestationReading
deriving DecidableEq, Repr

/-- `execution_claim_digest`: a digest is known by the token it is of. -/
structure ClaimDigest where
  token : String
deriving DecidableEq, Repr

/-- `termination_status`. -/
inductive TerminationStatus where
  | killed | alreadyExited | preDispatch | noExternalProcess
deriving DecidableEq, Repr

/-- What `EXECUTION_PROOF_TERMINATION_KEYS` add to the common keys. -/
structure TerminationEvidence where
  terminationStatus : TerminationStatus
  processId : Int
  processGroupId : Option String
  processStartToken : Option String
  sessionId : Option Int
  identityAttestation : Option Attestation
deriving DecidableEq, Repr

/-- What tells the two proof types apart. -/
inductive ProofDetail where
  | noExternalProcess (proofCode : ReasonCode)
  | terminationConfirmed (evidence : TerminationEvidence)
deriving DecidableEq, Repr

/-- The payload of `encode_execution_proof`; the schema version and the digests of what the
payload itself holds are left out. -/
structure ExecutionProof where
  executionId : String
  organizationId : String
  requestId : String
  decisionId : String
  terminalState : RunState
  dispatchState : DispatchState
  ownershipState : OwnershipState
  containerType : ContainerType
  launchCommitState : LaunchCommitState
  workerIdentity : String
  workerGeneration : String
  correlationId : String
  claimIdentityDigest : Option ClaimDigest
  dispatchIdentityDigest : Option ClaimDigest
  reasonCode : Option ReasonCode
  observedAt : Instant
  recoveryStatus : RecoveryStatus
  recoveryAttemptNumber : Nat
  recoveryAttemptId : Option String
  detail : ProofDetail
deriving DecidableEq, Repr

/-- A proof column: an envelope that decodes, or a text that does not. -/
inductive ProofText where
  | envelope (proof : ExecutionProof)
  | text (value : String)
deriving DecidableEq, Repr

/-! ### Columns that are updated -/

/-- `execution_requests`. -/
structure RequestRow where
  state : RequestState
  expiresAt : Instant
deriving DecidableEq, Repr

/-- `execution_decisions`. -/
structure DecisionRow where
  expiresAt : Instant
  revokedAt : Option Instant
  consumedAt : Option Instant
  claimOwner : Option String
  claimExpiresAt : Option Instant
  claimToken : Option String
  startedAt : Option Instant
deriving DecidableEq, Repr

/-- `execution_runs`. -/
structure RunRow where
  state : RunState
  workerIdentity : Option String
  processId : Option Int
  processGroupId : Option String
  reasonCode : Option ReasonCode
  startedAt : Option Instant
  finishedAt : Option Instant
deriving DecidableEq, Repr

/-- `execution_dispatch_intents`. -/
structure DispatchRow where
  state : DispatchState
  attemptCount : Nat
  claimedAt : Option Instant
  claimedBy : Option String
  claimToken : Option String
  leaseExpiresAt : Option Instant
  completedAt : Option Instant
  lastError : Option ReasonCode
deriving DecidableEq, Repr

/-- `execution_process_ownership`. -/
structure OwnershipRow where
  ownershipState : OwnershipState
  containerType : ContainerType
  containerIdentity : Option String
  rootProcessId : Option Int
  rootProcessStartToken : Option String
  processGroupId : Option String
  sessionId : Option String
  workerGeneration : Option String
  launchCommitState : LaunchCommitState
  noProcessProof : Option ProofText
  identityAttestation : Option Attestation
  launchedAt : Option Instant
  lastVerifiedAt : Option Instant
  terminalizedAt : Option Instant
  updatedAt : Instant
deriving DecidableEq, Repr

/-- `execution_recovery_state`. -/
structure RecoveryRow where
  status : RecoveryStatus
  owner : Option String
  leaseToken : Option String
  leaseExpiresAt : Option Instant
  workerGeneration : Option String
  attemptNumber : Nat
  lastOutcome : Option ProofText
  lastError : Option String
  nextRetryAt : Option Instant
  escalationLevel : Nat
  updatedAt : Instant
deriving DecidableEq, Repr

/-- `health_reference`: its kind; the digest is of fields the attempt itself has. -/
inductive HealthReference where
  | recoveryClaim | recoveryCompletion | recoveryObservation | recoveryIdentityUnavailable
  | recoveryProof | terminationProof
deriving DecidableEq, Repr

/-- `execution_recovery_attempts`. -/
structure RecoveryAttempt where
  attemptId : String
  workerIdentity : String
  workerGeneration : String
  attemptNumber : Nat
  status : RecoveryStatus
  cancellationStatus : Option String
  reasonCode : String
  correlationId : String
  requestedAt : Instant
  startedAt : Option Instant
  completedAt : Option Instant
  nextRetryAt : Option Instant
  errorCode : Option String
  escalationLevel : Nat
  healthReference : HealthReference
deriving DecidableEq, Repr

/-- The audit events `EXECUTION_DECISION_CLAIMED` and `EXECUTION_DISPATCH_CLAIMED` whose details
carry a digest; those without one are never read back. -/
inductive ClaimEvent where
  | decisionClaimed (claimIdentityDigest : ClaimDigest)
  | dispatchClaimed (dispatchIdentityDigest : ClaimDigest)
deriving DecidableEq, Repr

/-- The joined rows of one execution, the newest claim event and attempt first. -/
structure Rows where
  request : RequestRow
  decision : DecisionRow
  run : RunRow
  dispatch : DispatchRow
  ownership : OwnershipRow
  recovery : RecoveryRow
  attempts : List RecoveryAttempt
  claimEvents : List ClaimEvent
deriving DecidableEq, Repr

/-! ### The table -/

/-- The unique keys of `execution_requests` and of the rows approval adds. -/
inductive ExecutionKey where
  | decision | execution | request | idempotency
deriving DecidableEq, Repr

instance : Fintype ExecutionKey :=
  ⟨{.decision, .execution, .request, .idempotency}, by intro k; cases k <;> simp⟩

/-- The columns of a key, the first one alone where it is the identity. -/
def ExecutionKey.value : ExecutionKey → Authority → String × String
  | .decision, a => (a.decision.id, "")
  | .execution, a => (a.run.executionId, "")
  | .request, a => (a.request.id, "")
  | .idempotency, a => (a.request.organizationId, a.request.idempotencyKey)

abbrev ExecutionTable :=
  Relational.Table ExecutionKey (String × String) Authority Rows ExecutionKey.value

abbrev Execution := Relational.Row Authority Rows

/-- The unique keys of a request that has no decision. -/
inductive RequestKey where
  | request | idempotency
deriving DecidableEq, Repr

instance : Fintype RequestKey := ⟨{.request, .idempotency}, by intro k; cases k <;> simp⟩

/-- The columns of a key, the first one alone where it is the identity. -/
def RequestKey.value : RequestKey → RequestColumns → String × String
  | .request, q => (q.id, "")
  | .idempotency, q => (q.organizationId, q.idempotencyKey)

/-- `execution_requests WHERE approved_decision_id IS NULL`. -/
abbrev RequestTable :=
  Relational.Table RequestKey (String × String) RequestColumns RequestRow RequestKey.value

/-! ### Errors -/

/-- What a database call raises, with its text. -/
inductive DbError where
  | valueError (message : String)
  | runtimeError (message : String)
  | integrityError (message : String)
deriving DecidableEq, Repr

/-- `RuntimeError`, which a transaction raises about the rows it found. -/
def DbError.isRuntime : DbError → Bool
  | .runtimeError _ => true
  | _ => false

end CyberAssess
