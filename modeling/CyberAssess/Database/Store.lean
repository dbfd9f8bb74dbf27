import CyberAssess.Database.Effect
import CyberAssess.Scan.Requests

/-!
# Database — the tables together

`Db` is the part of the database the authority model is about, with the calls that create and
approve an execution request and those that revoke.

* `Db.execute` runs an `ExecutionCall` on the rows its `WHERE` finds.
* `createExecutionRequest`, `approveExecutionRequest`: a request is in `requests` until approval
  moves it to `executions`, with the rows approval adds.
* `revokeToken` revokes every decision of a session.

`[about ours]`: a call is one transaction, and transactions are serial.  Identities the source
draws with `uuid4` are arguments.
-/

namespace CyberAssess

open Python
open Checked (ensure refuse)

/-- The tables. -/
structure Db where
  directory : Directory
  scans : List ScanRow
  revokedTokens : List String
  requests : RequestTable
  executions : ExecutionTable
  scanRequests : ScanRequestTable

/-- A database before its first request. -/
structure Db.Initial (db : Db) : Prop where
  requests : db.requests.rows = []
  executions : db.executions.rows = []
  scanRequests : db.scanRequests.rows = []

/-! ### Calls on one execution -/

/-- The rows of a request without a decision. -/
abbrev PendingRequest := Relational.Row RequestColumns RequestRow

/-- `WHERE id = ? AND organization_id = ?`, of a request without a decision. -/
def Db.pendingRequest (db : Db) (requestId organizationId : String) : Option PendingRequest :=
  (db.requests.lookup .request (requestId, "")).filter
    fun q => q.fixed.organizationId = organizationId

/-- The rows a call's `WHERE` finds. -/
def Db.addressed (db : Db) (c : ExecutionCall) : Option Execution :=
  (db.executions.lookup c.key.1 (c.key.2, "")).filter
    fun e => e.fixed.request.organizationId = c.organizationId

theorem Db.addressed_eq_some {db : Db} {c : ExecutionCall} {e : Execution} :
    db.addressed c = some e ↔
      e ∈ db.executions ∧ c.key.1.value e.fixed = (c.key.2, "") ∧
        e.fixed.request.organizationId = c.organizationId := by
  unfold Db.addressed
  rw [Option.filter_eq_some_iff, Relational.Table.lookup_eq_some, decide_eq_true_eq, and_assoc]

/-- The execution `e` with the rows `y`. -/
def Db.setRows (db : Db) (e : Execution) (y : Rows) : Db :=
  { db with executions := db.executions.set .request (e.fixed.request.id, "") y }

/-- `revoke_execution_request`, of a request that was not approved. -/
def revokePendingRequest (c : RevokeRequestArgs) (db : Db) : Response × Db :=
  match db.pendingRequest c.requestId c.organizationId with
  | none => (.done false, db)
  | some q =>
      if c.complete then
        (.done true, { db with
          requests := db.requests.set .request (q.fixed.id, "") { q.data with state := .revoked } })
      else (.done false, db)

/-- A call: on the rows it finds, or what it does without them. -/
def Db.execute (c : ExecutionCall) (now : Instant) (db : Db) : Except DbError (Response × Db) :=
  match db.addressed c with
  | some e => (c.apply db.revokedTokens now e.fixed e.data).map fun p => (p.1, db.setRows e p.2)
  | none =>
      match c with
      | .revokeRequest c => .ok (revokePendingRequest c db)
      | c => c.missing.map fun r => (r, db)

/-- A call on rows that are there. -/
theorem Db.execute_found {db : Db} {c : ExecutionCall} {now : Instant} {e : Execution}
    (h : db.addressed c = some e) : db.execute c now =
      (c.apply db.revokedTokens now e.fixed e.data).map fun p => (p.1, db.setRows e p.2) := by
  unfold Db.execute
  rw [h]

/-- The rows of `e` are the written ones. -/
theorem Db.mem_setRows_self {db : Db} {e : Execution} {y z : Rows} (he : e ∈ db.executions) :
    ⟨e.fixed, z⟩ ∈ (db.setRows e y).executions ↔ z = y := by
  rw [Db.setRows, Relational.Table.mem_set]
  constructor
  · rintro ⟨r, -, ⟨-, h⟩ | ⟨hk, rfl⟩⟩
    · exact congrArg Relational.Row.data h
    · exact absurd rfl hk
  · rintro rfl
    exact ⟨e, he, Or.inl ⟨rfl, rfl⟩⟩

/-- Rows of another execution are those of another request. -/
theorem Db.mem_setRows_other {db : Db} {e s : Execution} {y : Rows} (he : e ∈ db.executions)
    (hs : s.fixed.run.executionId ≠ e.fixed.run.executionId) :
    s ∈ (db.setRows e y).executions ↔ s ∈ db.executions := by
  have apart : s ∈ db.executions →
      ExecutionKey.request.value s.fixed ≠ (e.fixed.request.id, "") := by
    intro hm hk
    have := Relational.Table.eq_of_key_eq hm he .request hk
    exact hs (by rw [this])
  rw [Db.setRows, Relational.Table.mem_set]
  constructor
  · rintro ⟨r, hr, ⟨hk, rfl⟩ | ⟨-, rfl⟩⟩
    · have := Relational.Table.eq_of_key_eq hr he .request hk
      exact absurd (by rw [this]) hs
    · exact hr
  · intro hm
    exact ⟨s, hm, Or.inr ⟨apart hm, rfl⟩⟩

/-- The rows as they were. -/
theorem Db.setRows_same {db : Db} {e : Execution} (he : e ∈ db.executions) : db.setRows e e.data = db := by
  have same := Relational.Table.set_same
    (Relational.Table.lookup_eq_some.mpr ⟨he, (rfl : ExecutionKey.request.value e.fixed = _)⟩)
  change { db with executions := _ } = db
  rw [show db.executions.set .request (e.fixed.request.id, "") e.data = db.executions from same]

/-- Rows that are written again. -/
theorem Db.setRows_setRows (db : Db) (e : Execution) (y z : Rows) :
    (db.setRows e y).setRows ⟨e.fixed, y⟩ z = db.setRows e z :=
  congrArg (fun t => { db with executions := t }) (Relational.Table.set_set db.executions _ _ y z)

/-- A settlement without a worker identity returns `False`, and writes nothing. -/
theorem settleConfirmed_anonymous {db : Db} {k : SettleConfirmedArgs} {jobEmpty : Bool}
    {now : Instant} (h : k.workerIdentity = none) :
    db.execute (.settleConfirmed k jobEmpty) now = .ok (.done false, db) := by
  have incomplete : k.complete = false := by
    rw [SettleConfirmedArgs.complete, h, Option.any_none, Bool.and_false, Bool.false_and]
  have unchecked : k.check = .ok () := by
    rw [SettleConfirmedArgs.check, incomplete]
    rfl
  cases ha : db.addressed (.settleConfirmed k jobEmpty) with
  | none =>
      unfold Db.execute
      rw [ha]
      simp only [ExecutionCall.missing, unchecked]
      rfl
  | some e =>
      have refused : settleExecutionAfterConfirmedTermination k db.revokedTokens jobEmpty now
          e.fixed e.data = .ok (false, e.data) := by
        rw [settleExecutionAfterConfirmedTermination, unchecked, incomplete]
        rfl
      rw [Db.execute_found ha]
      simp only [ExecutionCall.apply, refused]
      change Except.ok (Response.done false, db.setRows e e.data) = _
      rw [Db.setRows_same (Db.addressed_eq_some.mp ha).1]

/-! ### Creating a request -/

/-- `ExecutionRequestRecord`. -/
structure ExecutionRequestRecord where
  id : String
  idempotencyKey : String
  requestFingerprint : String
  organizationId : String
  projectId : Option String
  assetId : String
  targetId : String
  authorizationDecisionId : String
  targetPolicyVersion : String
  toolId : String
  operationFamily : String
  operationOptions : List (String × Json)
  operationPolicyRevision : String
  resourceBudget : List (String × Int)
  accountImpactBudget : List (String × Int)
  credentialScope : List (String × String)
  requestedByUserId : String
  state : RequestState
  createdAt : Instant
  expiresAt : Instant

/-- `given == required` for the strings and booleans a policy row requires; `True` equals `1`. -/
def optionAgrees (required : Json) (given : Option Json) : Bool :=
  match required, given with
  | .bool true, some (.num t) => t = "1" || t = "1.0"
  | .bool false, some (.num t) => t = "0" || t = "0.0" || t = "-0.0"
  | required, some value => value.text = required.text
  | _, none => false

/-- The columns of the record. -/
def ExecutionRequestRecord.columns (r : ExecutionRequestRecord) : RequestColumns where
  id := r.id
  idempotencyKey := r.idempotencyKey
  requestFingerprint := r.requestFingerprint
  organizationId := r.organizationId
  projectId := r.projectId
  assetId := r.assetId
  operation :=
    { targetId := r.targetId
      authorizationDecisionId := r.authorizationDecisionId
      targetPolicyVersion := r.targetPolicyVersion
      toolId := r.toolId
      operationFamily := r.operationFamily
      operationOptionsJson := (Json.obj r.operationOptions).text
      operationPolicyRevision := r.operationPolicyRevision
      resourceBudgetJson := (Json.obj (budgetJson r.resourceBudget)).text
      accountImpactBudgetJson := (Json.obj (budgetJson r.accountImpactBudget)).text
      credentialScopeJson := (Json.obj (scopeJson r.credentialScope)).text }
  requestedByUserId := r.requestedByUserId
  createdAt := r.createdAt

/-- `credential_scope.get("provider") != operation_options.get("provider")`. -/
def providerBound (r : ExecutionRequestRecord) : Bool :=
  match r.credentialScope.lookup "provider", Json.get? "provider" r.operationOptions with
  | some p, some (.str o) => p = o
  | none, none => true
  | none, some .null => true
  | _, _ => false

/-- What `create_execution_request` raises about a new record. -/
def ExecutionRequestRecord.check (g : Gateway) (d : Directory) (r : ExecutionRequestRecord) :
    Except DbError Unit := do
  ensure (r.state = .requested && r.operationPolicyRevision = CyberAssess.operationPolicyRevision g)
    (.valueError "execution request state or policy revision is invalid")
  ensure ((getOperationPolicy r.toolId r.operationFamily).any fun row =>
      row.requiredOptions.all fun o => optionAgrees o.2 (Json.get? o.1 r.operationOptions))
    (.valueError "execution request does not conform to the canonical policy row")
  ensure (r.resourceBudget.all (0 < ·.2))
    (.valueError "execution request resource budget is invalid")
  ensure (r.accountImpactBudget.all (0 ≤ ·.2))
    (.valueError "execution request account-impact budget is invalid")
  ensure (providerBound r)
    (.valueError "execution request credential scope is not policy-bound")
  ensure (d.organizationActive r.organizationId)
    (.valueError "execution request organization is invalid")
  ensure (d.asset r.assetId r.organizationId r.projectId).isSome
    (.valueError "execution request asset is not tenant-bound")
  ensure (d.userActive r.requestedByUserId r.organizationId)
    (.valueError "execution request principal is invalid")
  ensure (d.projectReferenced r.projectId r.organizationId)
    (.integrityError "execution_requests.project_id")

/-- `execution_requests` has no row under a key of `q`. -/
def Db.requestFree (db : Db) (q : RequestColumns) : Bool :=
  (db.requests.lookup .request (q.id, "")).isNone &&
    (db.executions.lookup .request (q.id, "")).isNone &&
    (db.requests.lookup .idempotency (q.organizationId, q.idempotencyKey)).isNone &&
    (db.executions.lookup .idempotency (q.organizationId, q.idempotencyKey)).isNone

/-- The request the tenant already has under an idempotency key. -/
def Db.requestUnderKey (db : Db) (organizationId key : String) : Option RequestColumns :=
  ((db.requests.lookup .idempotency (organizationId, key)).map (·.fixed)).or
    ((db.executions.lookup .idempotency (organizationId, key)).map (·.fixed.request))

/-- `create_execution_request`: the id of the new request, or of the one it repeats. -/
def createExecutionRequest (g : Gateway) (r : ExecutionRequestRecord) (db : Db) :
    Except DbError (String × Db) :=
  match db.requestUnderKey r.organizationId r.idempotencyKey with
  | some q =>
      if q.requestFingerprint = r.requestFingerprint then .ok (q.id, db)
      else .error (.valueError "execution request idempotency conflict")
  | none => do
      r.check g db.directory
      ensure (db.requestFree r.columns) (.integrityError "execution_requests")
      match db.requests.insert ⟨r.columns, ⟨.requested, r.expiresAt⟩⟩ with
      | none => .error (.integrityError "execution_requests")
      | some requests => .ok (r.id, { db with requests := requests })

/-! ### Approving a request -/

/-- The first component of what the two approvals return. -/
inductive ApprovalStatus where
  | authorized | replay | conflict | notFound | expired | denied | correlationRequired
deriving DecidableEq, Repr

/-- The arguments of `approve_execution_request`, with the correlation of the calling context
and the identities it draws. -/
structure ApproveRequestArgs where
  requestId : String
  organizationId : String
  requestFingerprint : String
  approvalIdempotencyKey : String
  approverUserId : String
  sessionJti : String
  workerIdentity : String
  workerGeneration : String
  correlationId : Option String
  decisionId : String
  executionId : String
deriving DecidableEq, Repr

/-- The approver, the worker and the clock of an approval, with the identities drawn for it. -/
structure Approval where
  approvalIdempotencyKey : String
  approverUserId : String
  sessionJti : String
  workerIdentity : String
  workerGeneration : String
  correlationId : String
  decisionId : String
  executionId : String
  approvedAt : Instant
deriving DecidableEq, Repr

/-- The columns of the decision and the run: those of the request, under the approval. -/
def approvedAuthority (q : RequestColumns) (v : Approval) : Authority where
  request := q
  approvedDecisionId := v.decisionId
  approvalIdempotencyKey := v.approvalIdempotencyKey
  decision :=
    { id := v.decisionId
      organizationId := q.organizationId
      projectId := q.projectId
      assetId := q.assetId
      operation := q.operation
      approvalState := .approved
      approverUserId := v.approverUserId
      sessionJti := v.sessionJti
      workerIdentity := v.workerIdentity
      createdAt := v.approvedAt }
  run :=
    { executionId := v.executionId
      requestId := q.id
      organizationId := q.organizationId
      approvedDecisionId := v.decisionId
      requestFingerprint := q.requestFingerprint
      workerGeneration := v.workerGeneration
      targetPolicyVersion := q.operation.targetPolicyVersion
      operationPolicyRevision := q.operation.operationPolicyRevision
      operationOptionsJson := q.operation.operationOptionsJson
      resourceBudgetJson := q.operation.resourceBudgetJson
      accountImpactBudgetJson := q.operation.accountImpactBudgetJson
      credentialScopeJson := q.operation.credentialScopeJson
      correlationId := v.correlationId
      createdAt := v.approvedAt }
  ownershipCorrelationId := v.correlationId

/-- The rows approval inserts: nothing claimed, nothing started, no process. -/
def approvedRows (expiresAt : Instant) (workerIdentity : String)
    (recoveryGeneration : Option String) (now : Instant) : Rows where
  request := ⟨.authorized, expiresAt⟩
  decision := ⟨expiresAt, none, none, none, none, none, none⟩
  run := ⟨.requested, some workerIdentity, none, none, none, none, none⟩
  dispatch := ⟨.pending, 0, none, none, none, none, none, none⟩
  ownership := ⟨.unknown, .none, none, none, none, none, none, none, .notAttempted, none, none,
    none, none, none, now⟩
  recovery := ⟨.requested, none, none, none, recoveryGeneration, 0, none, none, none, 0, now⟩
  attempts := []
  claimEvents := []

/-- The approval of `approve_execution_request`. -/
def ApproveRequestArgs.approval (c : ApproveRequestArgs) (correlationId : String)
    (now : Instant) : Approval where
  approvalIdempotencyKey := c.approvalIdempotencyKey
  approverUserId := c.approverUserId
  sessionJti := c.sessionJti
  workerIdentity := c.workerIdentity
  workerGeneration := c.workerGeneration
  correlationId := correlationId
  decisionId := c.decisionId
  executionId := c.executionId
  approvedAt := now

/-- The asset and the administrator `approve_execution_request` asks for.  The session is asked
for, and not whether it is revoked. -/
def requestApprovable (c : ApproveRequestArgs) (d : Directory) (q : RequestColumns) : Bool :=
  (d.asset q.assetId q.organizationId q.projectId).any (·.activeProbingGranted) &&
    d.administrator c.approverUserId c.organizationId && !c.sessionJti.isEmpty &&
    !c.workerIdentity.isEmpty && !c.workerGeneration.isEmpty

/-- The tests a pending request passes before it is approved. -/
def pendingApprovable (c : ApproveRequestArgs) (now : Instant) (d : Directory)
    (q : PendingRequest) : Bool :=
  !unset c.correlationId && q.fixed.requestFingerprint = c.requestFingerprint &&
    q.data.state = .requested && now < q.data.expiresAt && requestApprovable c d q.fixed

/-- What `approve_execution_request` returns. -/
structure RequestApproval where
  status : ApprovalStatus
  decisionId : Option String
  executionId : Option String
deriving DecidableEq, Repr

/-- The rows a request has once it is approved, in place of the pending one. -/
def Db.approve (db : Db) (q : PendingRequest) (v : Approval) : Option Db :=
  (db.executions.insert ⟨approvedAuthority q.fixed v,
      approvedRows q.data.expiresAt v.workerIdentity none v.approvedAt⟩).map fun executions =>
    { db with executions := executions, requests := db.requests.erase .request (q.fixed.id, "") }

/-- `approve_execution_request`, of a request that has no decision. -/
def approvePending (c : ApproveRequestArgs) (correlationId : String) (now : Instant) (db : Db)
    (q : PendingRequest) : Except DbError (RequestApproval × Db) :=
  if q.fixed.requestFingerprint ≠ c.requestFingerprint then .ok (⟨.conflict, none, none⟩, db)
  else if q.data.state ≠ .requested then .ok (⟨.conflict, none, none⟩, db)
  else if q.data.expiresAt ≤ now then .ok (⟨.expired, none, none⟩, db)
  else if !requestApprovable c db.directory q.fixed then .ok (⟨.denied, none, none⟩, db)
  else
    match db.approve q (c.approval correlationId now) with
    | none => .error (.integrityError "execution_decisions")
    | some db' => .ok (⟨.authorized, some c.decisionId, some c.executionId⟩, db')

/-- `approve_execution_request`, of a request that has one. -/
def approveAgain (c : ApproveRequestArgs) (e : Execution) : RequestApproval :=
  if e.fixed.request.requestFingerprint ≠ c.requestFingerprint then ⟨.conflict, none, none⟩
  else if e.data.request.state ≠ .authorized then ⟨.conflict, none, none⟩
  else if e.fixed.approvalIdempotencyKey ≠ c.approvalIdempotencyKey then ⟨.conflict, none, none⟩
  else ⟨.replay, some e.fixed.approvedDecisionId, some e.fixed.run.executionId⟩

/-- `approve_execution_request`. -/
def approveExecutionRequest (c : ApproveRequestArgs) (now : Instant) (db : Db) :
    Except DbError (RequestApproval × Db) :=
  if unset c.correlationId then .ok (⟨.correlationRequired, none, none⟩, db)
  else
    match db.pendingRequest c.requestId c.organizationId with
    | some q => approvePending c (orEmpty c.correlationId) now db q
    | none =>
        match (db.executions.lookup .request (c.requestId, "")).filter
            fun e => e.fixed.request.organizationId = c.organizationId with
        | some e => .ok (approveAgain c e, db)
        | none => .ok (⟨.notFound, none, none⟩, db)

/-! ### Revoking a session -/

/-- `session_jti = ?`. -/
def Authority.sessionIs (a : Authority) (jti : String) : Bool := a.decision.sessionJti = jti

/-- `revoke_token`: the decisions of the session and their requests; dispatch and run stay. -/
def revokeToken (jti : String) (now : Instant) (db : Db) : Db :=
  { db with
    revokedTokens := jti :: db.revokedTokens
    executions := db.executions.update (fun e => e.fixed.sessionIs jti) fun e =>
      e.data.revoked now }

end CyberAssess
