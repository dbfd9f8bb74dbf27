import CyberAssess.Service.Settle

/-!
# Service — the replay of a finished child

`validate_terminal_replay_proof` of `core/scan_execution_authority.py`: what a redelivered dispatch
message has to find before a finished child counts as completed.

* `ScanLaunchBinding` is one operation of a scan, joined with the execution that is its child;
  `Db.scanAuthorizationLaunchBinding` reads it.
* `assertReplayBinding` compares the joined columns with each other.
* `assertReplayRun`, `assertReplayRecovery`: the evidence rows against the binding.
* `assertNoProcessReplay`, `assertProcessReplay`: the stored proof against the evidence.
* `validateTerminalReplayProof` is the whole reader.

`[about ours]`: the JSON columns are compared by their canonical texts.  The columns a join or a
`WHERE` makes equal are not compared again, and `snapshot_completeness`, which approval writes as
`COMPLETE`, is left out.  The three rows an operation names are those of one execution, which is
what approval links.
-/

namespace CyberAssess

open Checked (ensure refuse ensureEach)
open Python

/-- One operation with its parent and its child, as `get_scan_authorization_launch_binding` joins
them. -/
structure ScanLaunchBinding where
  parent : ScanRequest
  operation : OperationRow
  child : Execution

namespace ScanLaunchBinding

variable (b : ScanLaunchBinding)

/-- The child's execution. -/
def executionId : String := b.child.fixed.run.executionId

/-- The tenant. -/
def organizationId : String := b.parent.fixed.organizationId

end ScanLaunchBinding

/-- `get_scan_authorization_launch_binding`. -/
def Db.scanAuthorizationLaunchBinding (db : Db) (scanRequestId organizationId operationId : String) :
    Option ScanLaunchBinding := do
  guard (!isBlank scanRequestId && !isBlank organizationId && !isBlank operationId)
  let parent ← db.scanRequest scanRequestId organizationId
  let operation ← parent.data.operations.find? (·.operation.operationId = operationId)
  let c ← operation.child
  let child ← db.executions.lookup .execution (c.executionId, "")
  guard (child.fixed.request.id = c.requestId && child.fixed.decision.id = c.decisionId &&
    child.fixed.request.organizationId = organizationId &&
    child.fixed.decision.organizationId = organizationId &&
    child.fixed.run.organizationId = organizationId)
  some ⟨parent, operation, child⟩

/-- `_nonblank`, of an optional text. -/
def given (s : Option String) : Bool := s.any (!isBlank ·)

/-! ### The binding -/

/-- `TERMINAL_REPLAY_PARENT_STATES`. -/
def replayParentState : ScanAuthorizationState → Bool
  | .dispatchable | .consumed | .expired | .revoked => true
  | _ => false

/-- `_TERMINAL_REPLAY_REQUEST_STATES`. -/
def replayRequestState : RequestState → Bool
  | .authorized | .revoked => true
  | _ => false

/-- `required_binding_fields`, with whether each is given. -/
def requiredBindingFields (b : ScanLaunchBinding) : List (String × Bool) :=
  let p := b.parent.fixed
  let o := b.operation.operation
  let a := b.child.fixed
  [("scan_request_id", !isBlank p.scanRequestId), ("scan_id", !isBlank p.scanId),
    ("parent_manifest_hash", !isBlank p.manifestHash), ("parent_target_id", !isBlank p.targetId),
    ("parent_target_integrity_seal", !isBlank p.targetIntegritySeal),
    ("parent_target_policy_version", !isBlank p.targetPolicyVersion),
    ("operation_id", !isBlank o.operationId), ("operation_tool_id", !isBlank o.toolId),
    ("operation_engine_id", !isBlank o.engineId),
    ("operation_family", !isBlank o.operationFamily),
    ("child_request_id", !isBlank a.request.id), ("child_decision_id", !isBlank a.decision.id),
    ("child_request_fingerprint", !isBlank a.request.requestFingerprint),
    ("child_decision_session_jti", !isBlank a.decision.sessionJti),
    ("child_decision_worker_identity", !isBlank a.decision.workerIdentity),
    ("child_run_request_id", !isBlank a.run.requestId),
    ("child_run_organization_id", !isBlank a.run.organizationId),
    ("child_run_approved_decision_id", !isBlank a.run.approvedDecisionId),
    ("child_run_target_policy_version", !isBlank a.run.targetPolicyVersion),
    ("child_run_operation_policy_revision", !isBlank a.run.operationPolicyRevision),
    ("child_run_request_fingerprint", !isBlank a.run.requestFingerprint),
    ("child_run_worker_identity", given b.child.data.run.workerIdentity),
    ("child_run_worker_generation", !isBlank a.run.workerGeneration),
    ("child_run_correlation_id", !isBlank a.run.correlationId)]

/-- `binding_pairs`. -/
def bindingPairs (b : ScanLaunchBinding) : List (String × Bool) :=
  let a := b.child.fixed
  [("child_run_request_id", a.run.requestId = a.request.id),
    ("child_run_organization_id", a.run.organizationId = b.organizationId),
    ("child_run_approved_decision_id", a.run.approvedDecisionId = a.decision.id),
    ("child_run_worker_identity",
      b.child.data.run.workerIdentity = some a.decision.workerIdentity)]

/-- `binding_consistency_groups`, and the groups of JSON columns after them. -/
def bindingConsistencyGroups (b : ScanLaunchBinding) : List (String × Bool) :=
  let p := b.parent.fixed
  let o := b.operation.operation
  let s := operationSnapshot p o
  let q := b.child.fixed.request
  let d := b.child.fixed.decision
  let r := b.child.fixed.run
  [("project binding", q.projectId = p.projectId && d.projectId = p.projectId),
    ("asset binding", q.assetId = p.assetId && d.assetId = p.assetId),
    ("target binding", o.targetId = p.targetId && q.operation.targetId = p.targetId &&
      d.operation.targetId = p.targetId),
    ("target-policy binding", q.operation.targetPolicyVersion = p.targetPolicyVersion &&
      d.operation.targetPolicyVersion = p.targetPolicyVersion &&
      r.targetPolicyVersion = p.targetPolicyVersion),
    ("authorization-decision binding",
      q.operation.authorizationDecisionId = o.authorizationDecisionId &&
        d.operation.authorizationDecisionId = o.authorizationDecisionId),
    ("tool binding", q.operation.toolId = o.toolId && d.operation.toolId = o.toolId),
    ("operation-family binding", q.operation.operationFamily = o.operationFamily &&
      d.operation.operationFamily = o.operationFamily),
    ("operation-policy binding", q.operation.operationPolicyRevision = o.operationPolicyRevision &&
      d.operation.operationPolicyRevision = o.operationPolicyRevision &&
      r.operationPolicyRevision = o.operationPolicyRevision),
    ("operation-options binding", q.operation.operationOptionsJson = s.operationOptionsJson &&
      d.operation.operationOptionsJson = s.operationOptionsJson &&
      r.operationOptionsJson = s.operationOptionsJson),
    ("resource-budget binding", q.operation.resourceBudgetJson = s.resourceBudgetJson &&
      d.operation.resourceBudgetJson = s.resourceBudgetJson &&
      r.resourceBudgetJson = s.resourceBudgetJson),
    ("account-budget binding", q.operation.accountImpactBudgetJson = s.accountImpactBudgetJson &&
      d.operation.accountImpactBudgetJson = s.accountImpactBudgetJson &&
      r.accountImpactBudgetJson = s.accountImpactBudgetJson),
    ("credential-scope binding", q.operation.credentialScopeJson = s.credentialScopeJson &&
      d.operation.credentialScopeJson = s.credentialScopeJson &&
      r.credentialScopeJson = s.credentialScopeJson)]

/-- The states of the joined rows. -/
def assertReplayStates (b : ScanLaunchBinding) : Except String Unit := do
  let x := b.child.data
  ensure (!isBlank b.executionId && !isBlank b.organizationId)
    "terminal replay proof identity is incomplete"
  ensure (replayParentState b.parent.data.state) "terminal replay parent state is not eligible"
  ensure x.run.state.isTerminal "terminal replay proof run is not terminal"
  ensure (x.dispatch.state = expectedTerminalDispatch x.run.state)
    "terminal replay proof dispatch mapping is invalid"
  ensure (replayRequestState x.request.state) "terminal replay proof request state is invalid"
  ensure (b.child.fixed.decision.approvalState = .approved)
    "terminal replay proof decision is not approved"

/-- The columns of the joined rows, against each other. -/
def assertReplayBinding (b : ScanLaunchBinding) : Except String Unit := do
  let x := b.child.data
  ensureEach (fun name => "terminal replay proof binding field " ++ name ++ " is incomplete")
    (requiredBindingFields b)
  refuse (x.request.state = .revoked &&
      !(x.decision.revokedAt.isSome || x.decision.consumedAt.isSome))
    "terminal replay proof revoked request lacks durable terminal history"
  ensureEach (fun name => "terminal replay binding " ++ name ++ " is inconsistent")
    (bindingPairs b)
  ensureEach (fun label => "terminal replay " ++ label ++ " is inconsistent")
    (bindingConsistencyGroups b)

/-! ### The evidence -/

/-- The run, dispatch and ownership rows of the evidence. -/
def assertReplayRun (b : ScanLaunchBinding) (e : Execution) : Except String Unit := do
  let a := b.child.fixed
  let x := e.data
  ensureEach (fun name => "terminal replay run field " ++ name ++ " is inconsistent")
    [("request_id", e.fixed.run.requestId = a.request.id),
      ("state", x.run.state = b.child.data.run.state),
      ("worker_identity", x.run.workerIdentity = b.child.data.run.workerIdentity),
      ("approved_decision_id", e.fixed.run.approvedDecisionId = a.decision.id),
      ("target_policy_version", e.fixed.run.targetPolicyVersion = a.run.targetPolicyVersion),
      ("operation_policy_revision",
        e.fixed.run.operationPolicyRevision = a.run.operationPolicyRevision),
      ("request_fingerprint", e.fixed.run.requestFingerprint = a.run.requestFingerprint),
      ("worker_generation", e.fixed.run.workerGeneration = a.run.workerGeneration),
      ("correlation_id", e.fixed.run.correlationId = a.run.correlationId)]
  ensure (isValidExecutionTerminalOutcome b.child.data.run.state x.run.reasonCode)
    "terminal replay run outcome and reason are not a canonical pair"
  ensureEach (fun name => "terminal replay run snapshot " ++ name ++ " is inconsistent")
    [("operation_options", e.fixed.run.operationOptionsJson = a.run.operationOptionsJson),
      ("resource_budget", e.fixed.run.resourceBudgetJson = a.run.resourceBudgetJson),
      ("account_impact_budget",
        e.fixed.run.accountImpactBudgetJson = a.run.accountImpactBudgetJson),
      ("credential_scope", e.fixed.run.credentialScopeJson = a.run.credentialScopeJson)]
  ensure (x.dispatch.state = expectedTerminalDispatch b.child.data.run.state)
    "terminal replay dispatch field state is inconsistent"
  ensure (x.dispatch.attemptCount = b.child.data.dispatch.attemptCount)
    "terminal replay dispatch attempt evidence is inconsistent"
  ensure (x.dispatch.claimedBy.isNone && x.dispatch.claimToken.isNone &&
      x.dispatch.leaseExpiresAt.isNone)
    "terminal replay dispatch still carries a live lease"
  ensureEach (fun name => "terminal replay ownership field " ++ name ++ " is inconsistent")
    [("worker_generation", x.ownership.workerGeneration = some a.run.workerGeneration),
      ("correlation_id", e.fixed.ownershipCorrelationId = a.run.correlationId)]
  ensure (!isBlank e.fixed.ownershipCorrelationId)
    "terminal replay ownership correlation is missing"

/-- The confirmed attempt, against the recovery row and the binding. -/
def assertReplayAttempt (b : ScanLaunchBinding) (e : Execution) (t : RecoveryAttempt) :
    Except String Unit := do
  let a := b.child.fixed
  let x := e.data
  ensure (!isBlank t.attemptId) "terminal replay recovery attempt identity is missing"
  ensureEach (fun name => "terminal replay recovery attempt field " ++ name ++ " is inconsistent")
    [("worker_identity", some t.workerIdentity = b.child.data.run.workerIdentity),
      ("worker_generation", t.workerGeneration = a.run.workerGeneration),
      ("attempt_number", t.attemptNumber = x.recovery.attemptNumber),
      ("correlation_id", t.correlationId = a.run.correlationId)]
  ensure (!isBlank t.workerIdentity &&
      t.cancellationStatus.any (· ∈ confirmedCancellationStatuses) && !isBlank t.reasonCode &&
      x.run.reasonCode.map (·.text) = some t.reasonCode && x.recovery.lastOutcome.isSome &&
      t.errorCode.isNone && t.nextRetryAt.isNone)
    "terminal replay recovery attempt evidence is incomplete"
  ensure (t.escalationLevel = x.recovery.escalationLevel)
    "terminal replay recovery escalation evidence is inconsistent"
  ensure t.startedAt.isSome "terminal replay recovery timestamp started_at is missing"
  ensure t.completedAt.isSome "terminal replay recovery timestamp completed_at is missing"
  ensure t.ordered "terminal replay recovery attempt timestamps are out of order"

/-- The recovery row of the evidence. -/
def assertReplayRecovery (b : ScanLaunchBinding) (e : Execution) : Except String Unit := do
  let x := e.data
  ensure (x.recovery.workerGeneration = some b.child.fixed.run.workerGeneration)
    "terminal replay recovery field worker_generation is inconsistent"
  ensure (x.recovery.status = .requested || x.recovery.status = .confirmedTerminated)
    "terminal replay recovery state is not terminally explainable"
  ensure x.recovery.lastError.isNone "terminal replay recovery retains an unresolved error"
  ensure (x.recovery.owner.isNone && x.recovery.leaseToken.isNone &&
      x.recovery.leaseExpiresAt.isNone && x.recovery.nextRetryAt.isNone)
    "terminal replay recovery retains an active lease"
  if x.recovery.status = .requested then
    ensure (x.recovery.attemptNumber = 0 && (confirmedAttempt x).isNone &&
        x.recovery.lastOutcome.isNone && x.recovery.escalationLevel = 0)
      "terminal replay recovery evidence is contradictory"
  else
    match confirmedAttempt x with
    | none => .error "terminal replay recovery attempt is missing"
    | some t => do
        ensure (1 ≤ x.recovery.attemptNumber) "terminal replay recovery attempt is missing"
        assertReplayAttempt b e t

/-- `recovery_attempt_id`. -/
def replayAttemptId (x : Rows) : Option String :=
  if x.recovery.status = .requested then none else (confirmedAttempt x).map (·.attemptId)

/-! ### The proofs -/

/-- The fields both proofs repeat of the evidence. -/
def proofFields (b : ScanLaunchBinding) (e : Execution) (p : ExecutionProof)
    (ownershipState : OwnershipState) : List (String × Bool) :=
  let a := b.child.fixed
  let x := e.data
  let runState := b.child.data.run.state
  [("execution_id", p.executionId = b.executionId),
    ("organization_id", p.organizationId = b.organizationId),
    ("request_id", p.requestId = a.request.id), ("decision_id", p.decisionId = a.decision.id),
    ("terminal_state", p.terminalState = runState),
    ("dispatch_state", p.dispatchState = expectedTerminalDispatch runState),
    ("ownership_state", p.ownershipState = ownershipState),
    ("container_type", p.containerType = x.ownership.containerType),
    ("launch_commit_state", p.launchCommitState = x.ownership.launchCommitState),
    ("worker_identity", some p.workerIdentity = b.child.data.run.workerIdentity),
    ("worker_generation", p.workerGeneration = a.run.workerGeneration),
    ("correlation_id", p.correlationId = a.run.correlationId),
    ("claim_identity_digest", p.claimIdentityDigest = decisionDigest x.claimEvents),
    ("dispatch_identity_digest", p.dispatchIdentityDigest = dispatchDigest x.claimEvents),
    ("reason_code", p.reasonCode = x.run.reasonCode),
    ("recovery_status", p.recoveryStatus = x.recovery.status),
    ("recovery_attempt_number", p.recoveryAttemptNumber = x.recovery.attemptNumber),
    ("recovery_attempt_id", p.recoveryAttemptId = replayAttemptId x)]

/-- The cancellation status of the confirmed attempt. -/
def attemptCancellation (x : Rows) : Option String :=
  (confirmedAttempt x).bind (·.cancellationStatus)

/-- The stored outcome of a recovery is the proof. -/
def assertReplayOutcome (x : Rows) (statuses : List String) (message : String) :
    Except String Unit :=
  if x.recovery.status = .confirmedTerminated then do
    ensure (x.recovery.lastOutcome = x.ownership.noProcessProof)
      "terminal replay recovery outcome is not proof-bound"
    ensure ((attemptCancellation x).any (· ∈ statuses)) message
  else .ok ()

/-- `no_process_shape`. -/
def noProcessShape (p : OwnershipRow) : Bool :=
  (p.ownershipState = .noExternalProcess || p.ownershipState = .terminal) &&
    p.containerType = .none && p.launchCommitState = .notAttempted

/-- The replay of a child that ended without a process. -/
def assertNoProcessReplay (b : ScanLaunchBinding) (e : Execution) : Except String Unit := do
  let x := e.data
  let runState := b.child.data.run.state
  ensure (withoutIdentity x.ownership) "terminal replay no-process proof carries process identity"
  ensure (x.run.processId.isNone && x.run.processGroupId.isNone)
    "terminal replay no-process run carries process identity"
  match x.ownership.noProcessProof with
  | some (.envelope p) =>
      match p.detail with
      | .noExternalProcess code => do
          ensure (p.reasonCode.any ReasonCode.isRegistered)
            "terminal replay no-process reason is not canonical"
          ensure ((decisionDigest x.claimEvents).isSome ||
              (runState = .cancelled && expectedTerminalDispatch runState = .blocked &&
                p.reasonCode = some .executionCancelledBeforeDispatch))
            "terminal replay no-process proof has no durable claim evidence"
          ensure (some code = p.reasonCode) "terminal replay no-process reason proof is inconsistent"
          ensureEach
            (fun name => "terminal replay no-process proof field " ++ name ++ " is inconsistent")
            (proofFields b e p (if x.ownership.ownershipState = .noExternalProcess then
              .noExternalProcess else .terminal))
          ensure (x.ownership.lastVerifiedAt = some p.observedAt)
            "terminal replay proof observation time is not bound to durable evidence"
          assertReplayOutcome x ["NO_EXTERNAL_PROCESS", "PRE_DISPATCH", "CONFIRMED"]
            "terminal replay recovery cancellation status is invalid"
      | .terminationConfirmed _ => .error "terminal replay no-process proof is invalid"
  | _ => .error "terminal replay no-process proof is invalid"

/-- The process of a Windows row is the run's. -/
def assertWindowsReplay (b : ScanLaunchBinding) (now : Instant) (e : Execution) :
    Except String Unit := do
  let x := e.data
  ensure (windowsOwnershipValid x.ownership e.fixed (b.child.data.run.workerIdentity.getD "") true
      now)
    "terminal replay Windows job attestation is invalid"
  ensure (x.run.processId = x.ownership.rootProcessId && x.run.processGroupId.isNone)
    "terminal replay Windows root is not bound to run"

/-- The session of a POSIX row is the attested one, and its process the run's. -/
def assertPosixReplay (x : Rows) : Except String Unit :=
  let p := x.ownership
  match p.rootProcessStartToken.bind posixStartToken, p.processGroupId.bind natOfDigits,
      p.sessionId.bind natOfDigits with
  | some (boot, ticks), some group, some session => do
      ensure (bootIdShape boot && 0 < ticks && 1 < group)
        "terminal replay POSIX process proof is malformed"
      ensure (p.containerIdentity = some (posixContainerIdentity (p.sessionId.getD "")
          (p.processGroupId.getD "")))
        "terminal replay process container identity is inconsistent"
      ensure (x.run.processId = p.rootProcessId && x.run.processGroupId = p.processGroupId)
        "terminal replay process identity is not bound to the run"
      match p.identityAttestation with
      | some ⟨_, .posix att⟩ =>
          ensure (posixAttestationBound p att (p.workerGeneration.getD "") boot ticks group session)
            "terminal replay process attestation is inconsistent"
      | _ => .error "terminal replay process attestation is invalid"
  | _, _, _ => .error "terminal replay POSIX process proof is malformed"

/-- The identity columns of a row with a process. -/
def processIdentityFields (p : OwnershipRow) : List (String × Bool) :=
  let windows : Bool := p.containerType = .windowsJob
  [("container_identity", given p.containerIdentity),
    ("root_process_start_token", given p.rootProcessStartToken),
    ("identity_attestation", given (p.identityAttestation.map (·.text))),
    ("last_verified_at", p.lastVerifiedAt.isSome), ("terminalized_at", p.terminalizedAt.isSome),
    ("process_group_id", windows || given p.processGroupId),
    ("session_id", windows || given p.sessionId)]

/-- The shape of the process a termination proof names. -/
def assertTerminationShape (windows : Bool) (t : TerminationEvidence) : Except String Unit := do
  ensure t.terminationStatus.isProcess "terminal replay termination status is invalid"
  ensure (1 < t.processId) "terminal replay termination process identity is invalid"
  if windows then
    ensure (t.processGroupId.isNone && t.sessionId.isNone)
      "terminal replay Windows proof contains POSIX identity"
  else do
    ensure ((t.processGroupId.bind natOfDigits).any (1 < ·))
      "terminal replay termination process group is invalid"
    ensure (t.sessionId.any (0 ≤ ·)) "terminal replay termination session is invalid"
    ensure ((t.processStartToken.bind posixStartToken).any (bootIdShape ·.1))
      "terminal replay termination start token is invalid"

/-- The fields of a termination proof that repeat the ownership row. -/
def terminationFields (p : OwnershipRow) (t : TerminationEvidence) : List (String × Bool) :=
  [("process_id", some t.processId = p.rootProcessId),
    ("process_group_id", t.processGroupId = p.processGroupId),
    ("process_start_token", t.processStartToken = p.rootProcessStartToken),
    ("session_id", t.sessionId =
      if p.containerType = .windowsJob then none
      else (p.sessionId.bind natOfDigits).map Int.ofNat),
    ("identity_attestation", t.identityAttestation = p.identityAttestation)]

/-- The termination proof of a process, against the evidence. -/
def assertTerminationProof (b : ScanLaunchBinding) (e : Execution) : Except String Unit := do
  let x := e.data
  match x.ownership.noProcessProof with
  | some (.envelope p) =>
      match p.detail with
      | .terminationConfirmed t => do
          ensure (isValidExecutionTerminalOutcome b.child.data.run.state p.reasonCode)
            "terminal replay termination reason is not canonical"
          assertTerminationShape (x.ownership.containerType = .windowsJob) t
          ensureEach
            (fun name => "terminal replay process proof field " ++ name ++ " is inconsistent")
            (proofFields b e p .terminal ++ terminationFields x.ownership t)
          assertReplayOutcome x [t.terminationStatus.value]
            "terminal replay recovery cancellation status is inconsistent"
          ensure (x.ownership.terminalizedAt = some p.observedAt)
            "terminal replay proof terminalization time is not bound to durable evidence"
      | .noExternalProcess _ => .error "terminal replay termination proof is invalid"
  | _ => .error "terminal replay termination proof is invalid"

/-- The replay of a child that ended with a process. -/
def assertProcessReplay (b : ScanLaunchBinding) (now : Instant) (e : Execution) :
    Except String Unit := do
  let x := e.data
  let p := x.ownership
  ensure (p.ownershipState = .terminal &&
      (p.containerType = .posixSession || p.containerType = .windowsJob) &&
      p.launchCommitState = .committed)
    "terminal replay process ownership is not a supported terminal proof"
  ensure (decisionDigest x.claimEvents).isSome
    "terminal replay process proof has no durable claim evidence"
  ensureEach (fun name => "terminal replay process proof field " ++ name ++ " is missing")
    (processIdentityFields p)
  ensure (p.rootProcessId.any (1 < ·)) "terminal replay root process identity is invalid"
  if p.containerType = .windowsJob then assertWindowsReplay b now e else assertPosixReplay x
  assertTerminationProof b e

/-- `validate_terminal_replay_proof`. -/
def validateTerminalReplayProof (b : ScanLaunchBinding) (now : Instant) (db : Db) :
    Except String Unit := do
  assertReplayStates b
  assertReplayBinding b
  match db.executionRun b.executionId b.organizationId with
  | none => .error "terminal replay evidence is missing"
  | some e => do
      assertReplayRun b e
      assertReplayRecovery b e
      ensure ((decisionDigest e.data.claimEvents).isNone =
          (dispatchDigest e.data.claimEvents).isNone)
        "terminal replay claim evidence is incomplete"
      ensure (match e.data.ownership.noProcessProof with
          | some (.envelope _) => true
          | some (.text s) => !isBlank s
          | none => false)
        "terminal replay proof is missing"
      if noProcessShape e.data.ownership then assertNoProcessReplay b e
      else assertProcessReplay b now e

end CyberAssess
