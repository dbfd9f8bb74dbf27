import CyberAssess.Database.Store

/-!
# Database — the authority of a scan

The calls of `core/db.py` on `scan_authorization_requests`: saving a request with its scan,
approving it, which inserts one execution for each selected operation, and its later transitions.

* `saveScanAndAuthorizationRequest`, `approveScanAuthorizationRequest`,
  `transitionScanAuthorizationRequest`.
* `assertMaterializedChildAuthorities`: what a replayed approval asks of the executions.

`[about ours]`: the dispatch intent's own correlation column, written once from the parent and
compared with it, is left out.
-/

namespace CyberAssess

open Python
open Checked (ensure refuse)

/-- A check that raises `RuntimeError`. -/
def orRuntimeError (x : Except String Unit) : Except DbError Unit := x.mapError .runtimeError

/-- The parent `WHERE scan_request_id=? AND organization_id=?`. -/
abbrev ScanRequest := Relational.Row ScanRequestColumns ScanRequestRow

def Db.scanRequest (db : Db) (scanRequestId organizationId : String) : Option ScanRequest :=
  (db.scanRequests.lookup .request (scanRequestId, "")).filter
    fun p => p.fixed.organizationId = organizationId

/-- The parent `p` with the columns `x`. -/
def Db.setScanRequest (db : Db) (p : ScanRequest) (x : ScanRequestRow) : Db :=
  { db with scanRequests := db.scanRequests.set .request (p.fixed.scanRequestId, "") x }

/-! ### Saving -/

/-- `ScanAuthorizationRequestRecord`. -/
structure ScanAuthorizationRequestRecord where
  scanRequestId : String
  scanId : String
  organizationId : String
  requestedByUserId : String
  correlationId : String
  manifestHash : String
  manifest : ScanAuthorizationManifest
  createdAt : Instant
  expiresAt : Instant
  creationIdempotencyKey : String
  creationFingerprint : String

/-- `[0-9a-f]{64}`. -/
def isSha256 (s : String) : Bool :=
  s.length = 64 && s.toList.all fun c => c.isDigit || ('a' ≤ c && c ≤ 'f')

/-- `validate_manifest_binding` and the field patterns of the record. -/
def ScanAuthorizationRequestRecord.check (r : ScanAuthorizationRequestRecord) :
    Except String Unit := do
  ensure (isSha256 r.manifestHash) "manifest_hash"
  ensure (r.manifestHash = r.manifest.manifestHash &&
      r.organizationId = r.manifest.organizationId)
    "scan authorization request is not bound to its immutable manifest"
  ensure (r.expiresAt = r.manifest.requestedExpiry)
    "scan authorization request expiry differs from its approved manifest"
  ensure (decide (r.createdAt < r.expiresAt))
    "scan authorization request must expire after creation"
  ensure (isIdempotencyKey r.creationIdempotencyKey) "creation_idempotency_key"
  ensure (isSha256 r.creationFingerprint) "creation_fingerprint"
  ensure (decide ((r.manifest.operations.map (·.operationId) ++
      r.manifest.engineOperations.map (·.operationId)).Nodup))
    "scan authorization request contains duplicate operation identities"

/-- The parent's columns, those of the manifest beside the manifest itself. -/
def ScanAuthorizationRequestRecord.columns (r : ScanAuthorizationRequestRecord) :
    ScanRequestColumns where
  scanRequestId := r.scanRequestId
  scanId := r.scanId
  organizationId := r.organizationId
  requestedByUserId := r.requestedByUserId
  projectId := r.manifest.projectId
  assetId := r.manifest.assetId
  correlationId := r.correlationId
  manifestHash := r.manifestHash
  targetId := r.manifest.targetId
  targetIntegritySeal := r.manifest.targetIntegritySeal
  targetPolicyVersion := r.manifest.targetPolicyVersion
  profile := r.manifest.profile
  selectedEngineIds := r.manifest.selectedEngineIds
  policyRevision := r.manifest.policyRevision
  createdAt := r.createdAt
  manifest := r.manifest
  creationIdempotencyKey := r.creationIdempotencyKey
  creationFingerprint := r.creationFingerprint
  fleet := r.manifest.fleetSnapshot

/-- The parent's other columns, and its operations without child authority. -/
def ScanAuthorizationRequestRecord.row (r : ScanAuthorizationRequestRecord) : ScanRequestRow where
  state := .requested
  expiresAt := r.expiresAt
  approverUserId := none
  approvalSessionJti := none
  approvalIdempotencyKey := none
  revokedAt := none
  consumedAt := none
  operations := r.manifest.operations.map fun o => ⟨o, none⟩

/-- The keys of the operation and fleet rows of one parent are distinct. -/
def childKeysDistinct (m : ScanAuthorizationManifest) : Bool :=
  decide ((m.operations.map (·.operationId)).Nodup) &&
    decide ((m.operations.map fun o => (o.toolId, o.engineId)).Nodup) &&
    decide ((m.fleetSnapshot.map (·.toolId)).Nodup)

/-- `save_scan_authorization_request`. -/
def saveScanAuthorizationRequest (g : Gateway) (r : ScanAuthorizationRequestRecord) (db : Db) :
    Except DbError Db := do
  let identity := "scan authorization request contains invalid durable identity material"
  ensure (isIdempotencyKey r.creationIdempotencyKey && isSha256 r.creationFingerprint)
    (.runtimeError identity)
  ensure (assertManifestSecretSafe g r.manifest).toBool (.runtimeError identity)
  ensure (db.scans.any (·.id = r.scanId) &&
      db.directory.organizations.any (·.id = r.organizationId))
    (.integrityError "scan_authorization_requests")
  orRuntimeError (assertParentManifestBinding r.columns)
  ensure (childKeysDistinct r.manifest) (.integrityError "scan_authorization_operations")
  orRuntimeError (assertNormalizedManifestRowsMatch r.columns r.row)
  match db.scanRequests.insert ⟨r.columns, r.row⟩ with
  | none => .error (.integrityError "scan_authorization_requests")
  | some scanRequests => .ok { db with scanRequests := scanRequests }

/-- `save_scan_record`: the row replaces the one of its id. -/
def saveScanRecord (s : ScanRow) (db : Db) : Db :=
  { db with scans := s :: db.scans.filter (·.id ≠ s.id) }

/-- `save_scan_and_authorization_request`. -/
def saveScanAndAuthorizationRequest (g : Gateway) (s : ScanRow)
    (r : ScanAuthorizationRequestRecord) (db : Db) : Except DbError Db :=
  saveScanAuthorizationRequest g r (saveScanRecord s db)

/-! ### Child authorities -/

/-- `_child_request_fingerprint`. -/
def childRequestFingerprint (g : Gateway) (scanRequestId manifestHash organizationId : String)
    (o : ScanManifestOperation) : String :=
  g.sha256 (Json.obj
    [("parent_scan_request_id", .str scanRequestId), ("manifest_hash", .str manifestHash),
      ("operation_id", .str o.operationId), ("organization_id", .str organizationId),
      ("target_id", .str o.targetId), ("tool_id", .str o.toolId),
      ("engine_id", .str o.engineId), ("operation_family", .str o.operationFamily),
      ("operation_options", .obj o.operationOptions),
      ("operation_policy_revision", .str o.operationPolicyRevision),
      ("resource_budget", .obj (budgetJson o.resourceBudget)),
      ("account_impact_budget", .obj (budgetJson o.accountImpactBudget)),
      ("credential_scope", .obj (scopeJson o.credentialScope))]).text

/-- The columns an operation gives its request, decision and run. -/
def operationSnapshot (p : ScanRequestColumns) (o : ScanManifestOperation) :
    OperationSnapshot where
  targetId := o.targetId
  authorizationDecisionId := o.authorizationDecisionId
  targetPolicyVersion := p.targetPolicyVersion
  toolId := o.toolId
  operationFamily := o.operationFamily
  operationOptionsJson := (Json.obj o.operationOptions).text
  operationPolicyRevision := o.operationPolicyRevision
  resourceBudgetJson := (Json.obj (budgetJson o.resourceBudget)).text
  accountImpactBudgetJson := (Json.obj (budgetJson o.accountImpactBudget)).text
  credentialScopeJson := (Json.obj (scopeJson o.credentialScope)).text

/-- `f"{scan_request_id}:{operation_id}"`. -/
def childIdempotencyKey (scanRequestId operationId : String) : String :=
  scanRequestId ++ ":" ++ operationId

/-- The child request. -/
def childRequest (g : Gateway) (p : ScanRequestColumns) (o : ScanManifestOperation)
    (requestId : String) (now : Instant) : RequestColumns where
  id := requestId
  idempotencyKey := childIdempotencyKey p.scanRequestId o.operationId
  requestFingerprint :=
    childRequestFingerprint g p.scanRequestId p.manifestHash p.organizationId o
  organizationId := p.organizationId
  projectId := p.projectId
  assetId := p.assetId
  operation := operationSnapshot p o
  requestedByUserId := p.requestedByUserId
  createdAt := now

/-- The arguments of `approve_scan_authorization_request`; `draw` has the identities it draws for
an operation. -/
structure ApproveScanArgs where
  scanRequestId : String
  organizationId : String
  manifestHash : String
  approvalIdempotencyKey : String
  approverUserId : String
  sessionJti : String
  workerIdentity : String
  workerGeneration : String
  draw : String → ChildAuthority

/-- The approval of one operation. -/
def ApproveScanArgs.approval (c : ApproveScanArgs) (p : ScanRequestColumns)
    (o : ScanManifestOperation) (now : Instant) : Approval where
  approvalIdempotencyKey := c.approvalIdempotencyKey
  approverUserId := c.approverUserId
  sessionJti := c.sessionJti
  workerIdentity := c.workerIdentity
  workerGeneration := c.workerGeneration
  correlationId := p.correlationId
  decisionId := (c.draw o.operationId).decisionId
  executionId := (c.draw o.operationId).executionId
  approvedAt := now

/-- The execution of one operation. -/
def childExecution (g : Gateway) (c : ApproveScanArgs) (p : ScanRequest)
    (o : ScanManifestOperation) (now : Instant) : Execution where
  fixed := approvedAuthority
    (childRequest g p.fixed o (c.draw o.operationId).requestId now) (c.approval p.fixed o now)
  data := approvedRows p.data.expiresAt c.workerIdentity (some c.workerGeneration) now

/-- The inserts for one operation. -/
def insertChild (g : Gateway) (c : ApproveScanArgs) (p : ScanRequest) (now : Instant)
    (o : ScanManifestOperation) (db : Db) : Except DbError Db := do
  let e := childExecution g c p o now
  ensure (db.directory.projectReferenced p.fixed.projectId p.fixed.organizationId &&
      db.requestFree e.fixed.request) (.integrityError "execution_requests")
  match db.executions.insert e with
  | none => .error (.integrityError "execution_decisions")
  | some executions => .ok { db with executions := executions }

/-- The inserts for the operations, in order. -/
def insertChildren (g : Gateway) (c : ApproveScanArgs) (p : ScanRequest) (now : Instant) :
    List ScanManifestOperation → Db → Except DbError Db
  | [], db => .ok db
  | o :: os, db => do
      let db ← insertChild g c p now o db
      insertChildren g c p now os db

/-- `selection_state='SELECTED' ORDER BY operation_id`. -/
def ScanRequestRow.selected (x : ScanRequestRow) : List ScanManifestOperation :=
  sortOperations ((x.operations.map (·.operation)).filter (·.selectionState = .selected))

/-- A returned link. -/
structure ChildLink where
  operationId : String
  child : ChildAuthority
deriving DecidableEq, Repr

/-- What `approve_scan_authorization_request` returns. -/
structure ScanApproval where
  status : ApprovalStatus
  links : List ChildLink
deriving DecidableEq, Repr

/-! ### Replay -/

/-- The JSON columns of the operation, in one snapshot column set. -/
def snapshotMaterial (s t : OperationSnapshot) : Bool :=
  s.operationOptionsJson = t.operationOptionsJson &&
    s.resourceBudgetJson = t.resourceBudgetJson &&
    s.accountImpactBudgetJson = t.accountImpactBudgetJson &&
    s.credentialScopeJson = t.credentialScopeJson

/-- The plain columns of a snapshot. -/
def snapshotBinding (s t : OperationSnapshot) : Bool :=
  s.targetId = t.targetId && s.authorizationDecisionId = t.authorizationDecisionId &&
    s.targetPolicyVersion = t.targetPolicyVersion && s.toolId = t.toolId &&
    s.operationFamily = t.operationFamily &&
    s.operationPolicyRevision = t.operationPolicyRevision

/-- What a replay asks of the execution of one operation. -/
def assertMaterializedChild (g : Gateway) (p : ScanRequest) (o : ScanManifestOperation)
    (child : ChildAuthority) (e : Execution) : Except String Unit := do
  let s := operationSnapshot p.fixed o
  let q := e.fixed.request
  let d := e.fixed.decision
  let r := e.fixed.run
  ensure (q.organizationId = p.fixed.organizationId && q.projectId = p.fixed.projectId &&
      q.assetId = p.fixed.assetId && snapshotBinding q.operation s &&
      q.requestedByUserId = p.fixed.requestedByUserId &&
      e.data.request.state = .authorized && e.fixed.approvedDecisionId = child.decisionId &&
      some e.fixed.approvalIdempotencyKey = p.data.approvalIdempotencyKey)
    "scan authorization replay child request binding changed"
  ensure (q.id = child.requestId &&
      q.idempotencyKey = childIdempotencyKey p.fixed.scanRequestId o.operationId)
    "scan authorization replay child request identity changed"
  ensure (q.requestFingerprint = childRequestFingerprint g p.fixed.scanRequestId
      p.fixed.manifest.manifestHash p.fixed.organizationId o)
    "scan authorization replay child request fingerprint changed"
  ensure (e.data.request.expiresAt = p.data.expiresAt)
    "scan authorization replay child request expiry changed"
  ensure (snapshotMaterial q.operation s)
    "scan authorization replay child request material changed"
  ensure (snapshotMaterial d.operation s)
    "scan authorization replay child decision material changed"
  ensure (d.id = child.decisionId && d.organizationId = p.fixed.organizationId &&
      d.projectId = p.fixed.projectId && d.assetId = p.fixed.assetId &&
      snapshotBinding d.operation s && d.approvalState = .approved &&
      some d.approverUserId = p.data.approverUserId &&
      some d.sessionJti = p.data.approvalSessionJti && e.data.decision.revokedAt.isNone &&
      e.data.decision.consumedAt.isNone)
    "scan authorization replay child decision binding changed"
  ensure (e.data.run.workerIdentity = some d.workerIdentity)
    "scan authorization replay worker identity binding changed"
  ensure (e.data.decision.expiresAt = p.data.expiresAt)
    "scan authorization replay child decision expiry changed"
  ensure (r.executionId = child.executionId && r.requestId = child.requestId &&
      r.organizationId = p.fixed.organizationId && r.approvedDecisionId = child.decisionId &&
      r.targetPolicyVersion = p.fixed.targetPolicyVersion &&
      r.operationPolicyRevision = o.operationPolicyRevision &&
      r.requestFingerprint = q.requestFingerprint && e.data.run.state = .requested &&
      r.correlationId = p.fixed.correlationId)
    "scan authorization replay execution binding changed"
  ensure (r.operationOptionsJson = s.operationOptionsJson &&
      r.resourceBudgetJson = s.resourceBudgetJson &&
      r.accountImpactBudgetJson = s.accountImpactBudgetJson &&
      r.credentialScopeJson = s.credentialScopeJson)
    "scan authorization replay execution material changed"
  ensure (e.data.dispatch.state = .pending && e.data.dispatch.attemptCount = 0 &&
      e.data.recovery.workerGeneration = some r.workerGeneration)
    "scan authorization replay lifecycle binding changed"

/-- What a replay asks of one operation row. -/
def assertMaterializedOperation (g : Gateway) (executions : ExecutionTable) (p : ScanRequest)
    (o : OperationRow) : Except String (Option ChildLink) :=
  match o.operation.selectionState, o.child with
  | .excluded, none => .ok none
  | .excluded, some _ => .error "excluded scan authorization operation has child authority"
  | .selected, none => .error "scan authorization replay child authority is incomplete"
  | .selected, some child =>
      match (executions.lookup .request (child.requestId, "")).filter
          fun e => e.fixed.request.organizationId = p.fixed.organizationId with
      | none => .error "scan authorization replay child authority is missing or cross-tenant"
      | some e => do
          assertMaterializedChild g p o.operation child e
          .ok (some ⟨o.operation.operationId, child⟩)

/-- The operation rows, in order. -/
def assertMaterializedOperations (g : Gateway) (executions : ExecutionTable) (p : ScanRequest) :
    List OperationRow → Except String (List ChildLink)
  | [] => .ok []
  | o :: os => do
      let link ← assertMaterializedOperation g executions p o
      let links ← assertMaterializedOperations g executions p os
      .ok (link.toList ++ links)

/-- `ORDER BY operation_id`. -/
def ScanRequestRow.sortedOperations (x : ScanRequestRow) : List OperationRow :=
  x.operations.mergeSort fun o o' => decide (o.operation.operationId ≤ o'.operation.operationId)

/-- The identities of the selected operations of a list. -/
def selectedIds (os : List ScanManifestOperation) : List String :=
  (os.filter (·.selectionState = .selected)).map (·.operationId)

/-- `_assert_materialized_child_authorities`. -/
def assertMaterializedChildAuthorities (g : Gateway) (executions : ExecutionTable)
    (p : ScanRequest) : Except String (List ChildLink) := do
  let rows := selectedIds (p.data.operations.map (·.operation))
  let manifest := selectedIds p.fixed.manifest.operations
  ensure (rows.all (· ∈ manifest) && manifest.all (· ∈ rows))
    "scan authorization replay selection inventory is inconsistent"
  assertMaterializedOperations g executions p p.data.sortedOperations

/-! ### Approval -/

/-- The arguments `approve_scan_authorization_request` takes. -/
def ApproveScanArgs.complete (c : ApproveScanArgs) : Bool :=
  !isBlank c.scanRequestId && !isBlank c.organizationId && !isBlank c.manifestHash &&
    !isBlank c.approvalIdempotencyKey && !isBlank c.approverUserId && !isBlank c.sessionJti &&
    !isBlank c.workerIdentity && !isBlank c.workerGeneration &&
    isIdempotencyKey c.approvalIdempotencyKey

/-- The checks of the stored parent before it is replayed or dispatched. -/
def assertParentCurrent (g : Gateway) (db : Db) (p : ScanRequest) : Except String Unit := do
  let m := p.fixed.manifest
  ensure (m.manifestHash = m.digest g)
    "scan authorization manifest cannot be reconstructed; operator reconciliation required"
  ensure (m.manifestHash = p.fixed.manifestHash)
    "scan authorization manifest hash does not match stored canonical material"
  assertManifestSecretSafe g m
  assertParentManifestBinding p.fixed
  assertNormalizedManifestRowsMatch p.fixed p.data
  assertPolicyMaterialCurrent g m
  assertCurrentTargetAndAsset g db.directory db.scans p.fixed

/-- The parent as approval leaves it, its selected operations linked. -/
def ScanRequestRow.dispatchable (x : ScanRequestRow) (c : ApproveScanArgs) : ScanRequestRow :=
  { x with
    state := .dispatchable
    approverUserId := some c.approverUserId
    approvalSessionJti := some c.sessionJti
    approvalIdempotencyKey := some c.approvalIdempotencyKey
    operations := x.operations.map fun o =>
      if o.operation.selectionState = .selected then
        { o with child := some (c.draw o.operation.operationId) }
      else o }

/-- The first approval. -/
def materialize (g : Gateway) (c : ApproveScanArgs) (now : Instant) (db : Db) (p : ScanRequest) :
    Except DbError (ScanApproval × Db) := do
  let db ← insertChildren g c p now p.data.selected db
  let links := p.data.selected.map fun o => ⟨o.operationId, c.draw o.operationId⟩
  .ok (⟨.authorized, links⟩, db.setScanRequest p (p.data.dispatchable c))

/-- The approval repeated. -/
def replayApproval (g : Gateway) (c : ApproveScanArgs) (db : Db) (p : ScanRequest) :
    Except DbError (ScanApproval × Db) :=
  if p.data.approvalIdempotencyKey = some c.approvalIdempotencyKey &&
      p.data.approverUserId = some c.approverUserId &&
      p.data.approvalSessionJti = some c.sessionJti then
    match assertMaterializedChildAuthorities g db.executions p with
    | .ok links => .ok (⟨.replay, links⟩, db)
    | .error e => .error (.runtimeError e)
  else .ok (⟨.conflict, []⟩, db)

/-- The approver and the session of an approval. -/
def scanApprovable (c : ApproveScanArgs) (db : Db) : Bool :=
  db.directory.administrator c.approverUserId c.organizationId &&
    c.sessionJti ∉ db.revokedTokens

/-- `approve_scan_authorization_request`. -/
def approveScanAuthorizationRequest (g : Gateway) (c : ApproveScanArgs) (now : Instant)
    (db : Db) : Except DbError (ScanApproval × Db) :=
  if !c.complete then .ok (⟨.denied, []⟩, db)
  else
    match db.scanRequest c.scanRequestId c.organizationId with
    | none => .ok (⟨.notFound, []⟩, db)
    | some p =>
        if p.fixed.manifestHash ≠ c.manifestHash then .ok (⟨.conflict, []⟩, db)
        else if p.data.state ≠ .requested ∧ p.data.state ≠ .dispatchable then
          .ok (⟨.conflict, []⟩, db)
        else if p.data.expiresAt ≤ now then
          .ok (⟨.expired, []⟩,
            if p.data.state = .requested then db.setScanRequest p { p.data with state := .expired }
            else db)
        else if !scanApprovable c db then .ok (⟨.denied, []⟩, db)
        else do
          orRuntimeError (assertParentCurrent g db p)
          if p.data.state = .dispatchable then replayApproval g c db p
          else materialize g c now db p

/-! ### Later transitions -/

/-- The arguments of `transition_scan_authorization_request`. -/
structure TransitionScanArgs where
  scanRequestId : String
  organizationId : String
  targetState : ScanAuthorizationState
  actor : String
  reasonCode : Option String
deriving DecidableEq, Repr

/-- `[A-Z][A-Z0-9_]{0,127}`. -/
def isReasonCode (s : String) : Bool :=
  match s.toList with
  | [] => false
  | c :: cs => c.isUpper && cs.length ≤ 127 && cs.all fun d => d.isUpper || d.isDigit || d = '_'

/-- The arguments are bounded, and the reason given is a code. -/
def TransitionScanArgs.complete (c : TransitionScanArgs) : Bool :=
  nonBlankUpTo 256 c.scanRequestId && nonBlankUpTo 256 c.organizationId &&
    nonBlankUpTo 256 c.actor && c.reasonCode.all isReasonCode

/-- `allowed_sources`, of the three targets; no other state is a target. -/
def allowedSources : ScanAuthorizationState → List ScanAuthorizationState
  | .revoked | .expired => [.requested, .approved, .dispatchable]
  | .consumed => [.dispatchable]
  | _ => []

/-- `id IN (SELECT child_decision_id …)`. -/
def ScanRequestRow.hasChild (x : ScanRequestRow) (organizationId : String) (a : Authority) :
    Bool :=
  a.decision.organizationId = organizationId &&
    x.operations.any fun o => o.child.any (·.decisionId = a.decision.id)

/-- The child rows of an expired parent. -/
def Rows.expired (x : Rows) (now : Instant) : Rows :=
  { x with
    request := { x.request with expiresAt := now }
    decision := { x.decision with expiresAt := now } }

/-- The child rows of a consumed parent. -/
def Rows.consumed (x : Rows) (now : Instant) : Rows :=
  { x with decision := { x.decision.unclaimed with
      consumedAt := x.decision.consumedAt.or (some now) } }

/-- The child rows under each target state. -/
def Rows.parentMoved (x : Rows) (target : ScanAuthorizationState) (now : Instant) : Rows :=
  match target with
  | .revoked => x.revoked now
  | .expired => x.expired now
  | .consumed => x.consumed now
  | _ => x

/-- The parent under each target state. -/
def ScanRequestRow.moved (x : ScanRequestRow) (target : ScanAuthorizationState)
    (now : Instant) : ScanRequestRow :=
  match target with
  | .revoked => { x with state := .revoked, revokedAt := x.revokedAt.or (some now) }
  | .expired => { x with state := .expired, expiresAt := now }
  | .consumed => { x with state := .consumed, consumedAt := x.consumedAt.or (some now) }
  | _ => x

/-- `transition_scan_authorization_request`. -/
def transitionScanAuthorizationRequest (c : TransitionScanArgs) (now : Instant) (db : Db) :
    Bool × Db :=
  if !c.complete then (false, db)
  else
    match db.scanRequest c.scanRequestId c.organizationId with
    | none => (false, db)
    | some p =>
        if c.targetState ∉ [.revoked, .expired, .consumed] then (false, db)
        else if p.data.state = c.targetState then (true, db)
        else if p.data.state ∉ allowedSources c.targetState then (false, db)
        else
          (true, { db.setScanRequest p (p.data.moved c.targetState now) with
            executions := db.executions.update
              (fun e => p.data.hasChild c.organizationId e.fixed)
              fun e => e.data.parentMoved c.targetState now })

end CyberAssess
