import CyberAssess.Database.Store
import CyberAssess.Support.Transition

/-!
# Database — approvals of one request, statement by statement

`approve_execution_request` of `core/db.py` as its statements interleave between any number of
callers.  A `SELECT` sees what is committed.  The `UPDATE` takes the row of the request, waits while
another transaction has it, and finds it as it was committed; the inserts after it are the
transaction's own until it commits.

* `ApprovalTables` holds what is stored for one request, `ApprovalPhase` where a caller is.
* `ApprovalStatement` are the inserts, in order.
* `ApprovalStep`: one statement of one caller, or what another call of the data layer does.

`[about ours]`: assets, administrators and the clock may change between any two statements, so each
statement finds a directory or an instant of its own.  The audit rows of the transaction are left out;
a statement may raise anywhere.
-/

namespace CyberAssess

/-- What the tables hold for one request: its columns that change, and the rows approval inserts. -/
structure ApprovalTables where
  state : RequestState
  approvedDecisionId : Option String
  approvalIdempotencyKey : Option String
  decisions : List (DecisionColumns × DecisionRow)
  runs : List (RunColumns × RunRow)
  dispatchIntents : List (String × DispatchRow)
  ownership : List (String × String × OwnershipRow)
  recovery : List (String × RecoveryRow)

/-- A request as it is created. -/
def ApprovalTables.created : ApprovalTables := ⟨.requested, none, none, [], [], [], [], []⟩

/-- The inserts of `approve_execution_request`. -/
inductive ApprovalStatement where
  | decision | run | dispatchIntent | ownership | recovery
deriving DecidableEq, Repr

/-- They are executed in this order. -/
def approvalStatements : List ApprovalStatement :=
  [.decision, .run, .dispatchIntent, .ownership, .recovery]

/-- Where a caller is, with what it has read and drawn. -/
inductive ApprovalPhase where
  | idle
  | selecting (c : ApproveRequestArgs)
  | replaying (c : ApproveRequestArgs) (decisionId : Option String)
  | checkingAsset (c : ApproveRequestArgs) (now : Instant)
  | checkingApprover (c : ApproveRequestArgs) (now : Instant)
  | updating (c : ApproveRequestArgs) (now : Instant)
  | writing (v : Approval) (todo : List ApprovalStatement) (own : ApprovalTables)

variable (q : RequestColumns) (expiresAt : Instant)

/-! ### The statements -/

/-- `SELECT * FROM execution_requests`, and the tests of the row: an answer, or how to go on. -/
def ApproveRequestArgs.select (c : ApproveRequestArgs) (now : Instant) (t : ApprovalTables) :
    Except RequestApproval ApprovalPhase :=
  if c.requestId ≠ q.id ∨ c.organizationId ≠ q.organizationId then .error ⟨.notFound, none, none⟩
  else if q.requestFingerprint ≠ c.requestFingerprint then .error ⟨.conflict, none, none⟩
  else if t.state = .authorized then
    if t.approvalIdempotencyKey ≠ some c.approvalIdempotencyKey then .error ⟨.conflict, none, none⟩
    else .ok (.replaying c t.approvedDecisionId)
  else if t.state ≠ .requested then .error ⟨.conflict, none, none⟩
  else if expiresAt ≤ now then .error ⟨.expired, none, none⟩
  else .ok (.checkingAsset c now)

/-- `SELECT execution_id FROM execution_runs WHERE request_id = ? AND organization_id = ?`. -/
def ApprovalTables.runOf (t : ApprovalTables) : Option String :=
  (t.runs.find? fun r => r.1.requestId = q.id && r.1.organizationId = q.organizationId).map
    (·.1.executionId)

/-- The asset is there and may be probed. -/
def assetGranted (d : Directory) : Bool :=
  (d.asset q.assetId q.organizationId q.projectId).any (·.activeProbingGranted)

/-- The approver is an administrator, and the session and the worker are named. -/
def approverGranted (c : ApproveRequestArgs) (d : Directory) : Bool :=
  d.administrator c.approverUserId c.organizationId && !c.sessionJti.isEmpty &&
    !c.workerIdentity.isEmpty && !c.workerGeneration.isEmpty

/-- `UPDATE execution_requests SET state = 'AUTHORIZED', …`. -/
def ApprovalTables.authorized (t : ApprovalTables) (v : Approval) : ApprovalTables :=
  { t with
    state := .authorized
    approvedDecisionId := some v.decisionId
    approvalIdempotencyKey := some v.approvalIdempotencyKey }

/-- One insert. -/
def ApprovalStatement.insert (v : Approval) (t : ApprovalTables) : ApprovalStatement → ApprovalTables
  | .decision =>
      { t with decisions := ((approvedAuthority q v).decision,
          (approvedRows expiresAt v.workerIdentity none v.approvedAt).decision) :: t.decisions }
  | .run =>
      { t with runs := ((approvedAuthority q v).run,
          (approvedRows expiresAt v.workerIdentity none v.approvedAt).run) :: t.runs }
  | .dispatchIntent =>
      { t with dispatchIntents := (v.executionId,
          (approvedRows expiresAt v.workerIdentity none v.approvedAt).dispatch) ::
            t.dispatchIntents }
  | .ownership =>
      { t with ownership := (v.executionId, v.correlationId,
          (approvedRows expiresAt v.workerIdentity none v.approvedAt).ownership) :: t.ownership }
  | .recovery =>
      { t with recovery := (v.executionId,
          (approvedRows expiresAt v.workerIdentity none v.approvedAt).recovery) :: t.recovery }

/-- The inserts, one after the other. -/
def insertAll (v : Approval) (t : ApprovalTables) (statements : List ApprovalStatement) :
    ApprovalTables :=
  statements.foldl (fun t s => s.insert q expiresAt v t) t

/-- What other calls do to the rows: claims, starts, settlements and revocations update columns, and
none adds or removes a row. -/
structure RowUpdate where
  decision : DecisionRow → DecisionRow
  run : RunRow → RunRow
  dispatchIntent : DispatchRow → DispatchRow
  ownership : OwnershipRow → OwnershipRow
  recovery : RecoveryRow → RecoveryRow

/-- The tables after such a call. -/
def ApprovalTables.updated (t : ApprovalTables) (u : RowUpdate) (state : RequestState) :
    ApprovalTables :=
  { t with
    state := state
    decisions := t.decisions.map fun r => (r.1, u.decision r.2)
    runs := t.runs.map fun r => (r.1, u.run r.2)
    dispatchIntents := t.dispatchIntents.map fun r => (r.1, u.dispatchIntent r.2)
    ownership := t.ownership.map fun r => (r.1, r.2.1, u.ownership r.2.2)
    recovery := t.recovery.map fun r => (r.1, u.recovery r.2) }

/-! ### The interleaving -/

variable {W : Type} [DecidableEq W]

/-- What is committed, which caller has the row of the request, and where the callers are. -/
structure ApprovalSystem (W : Type) where
  committed : ApprovalTables
  holder : Option W
  phase : W → ApprovalPhase

/-- What happens in a step. -/
inductive ApprovalEvent (W : Type) where
  | proceeds (w : W)
  | returns (w : W) (answer : RequestApproval)
  | raises (w : W)
  | elsewhere

/-- A caller goes on. -/
def ApprovalSystem.goes (s : ApprovalSystem W) (w : W) (p : ApprovalPhase) : ApprovalSystem W :=
  { s with phase := Function.update s.phase w p }

/-- No caller has called. -/
def ApprovalSystem.initial : ApprovalSystem W := ⟨.created, none, fun _ => .idle⟩

/-- The request is not found, or denied, and so on: no identities. -/
def refused (status : ApprovalStatus) : RequestApproval := ⟨status, none, none⟩

/-- One statement of one caller, or an update by another call. -/
inductive ApprovalStep : ApprovalSystem W → ApprovalEvent W → ApprovalSystem W → Prop where
  | uncorrelated {s : ApprovalSystem W} {w : W} (c : ApproveRequestArgs) (at' : s.phase w = .idle)
      (missing : unset c.correlationId = true) :
      ApprovalStep s (.returns w (refused .correlationRequired)) s
  | call {s : ApprovalSystem W} {w : W} (c : ApproveRequestArgs) (at' : s.phase w = .idle)
      (correlated : unset c.correlationId = false) :
      ApprovalStep s (.proceeds w) (s.goes w (.selecting c))
  | selectReturns {s : ApprovalSystem W} {w : W} {c : ApproveRequestArgs} {answer : RequestApproval}
      (now : Instant) (at' : s.phase w = .selecting c)
      (read : c.select q expiresAt now s.committed = .error answer) :
      ApprovalStep s (.returns w answer) (s.goes w .idle)
  | select {s : ApprovalSystem W} {w : W} {c : ApproveRequestArgs} {p : ApprovalPhase}
      (now : Instant) (at' : s.phase w = .selecting c)
      (read : c.select q expiresAt now s.committed = .ok p) :
      ApprovalStep s (.proceeds w) (s.goes w p)
  | replay {s : ApprovalSystem W} {w : W} {c : ApproveRequestArgs} {decisionId : Option String}
      {executionId : String} (at' : s.phase w = .replaying c decisionId)
      (found : s.committed.runOf q = some executionId) :
      ApprovalStep s (.returns w ⟨.replay, decisionId, some executionId⟩) (s.goes w .idle)
  | asset {s : ApprovalSystem W} {w : W} {c : ApproveRequestArgs} {now : Instant} (d : Directory)
      (at' : s.phase w = .checkingAsset c now) (granted : assetGranted q d = true) :
      ApprovalStep s (.proceeds w) (s.goes w (.checkingApprover c now))
  | assetDenied {s : ApprovalSystem W} {w : W} {c : ApproveRequestArgs} {now : Instant}
      (d : Directory) (at' : s.phase w = .checkingAsset c now) (denied : assetGranted q d = false) :
      ApprovalStep s (.returns w (refused .denied)) (s.goes w .idle)
  | approver {s : ApprovalSystem W} {w : W} {c : ApproveRequestArgs} {now : Instant} (d : Directory)
      (at' : s.phase w = .checkingApprover c now) (granted : approverGranted c d = true) :
      ApprovalStep s (.proceeds w) (s.goes w (.updating c now))
  | approverDenied {s : ApprovalSystem W} {w : W} {c : ApproveRequestArgs} {now : Instant}
      (d : Directory) (at' : s.phase w = .checkingApprover c now)
      (denied : approverGranted c d = false) :
      ApprovalStep s (.returns w (refused .denied)) (s.goes w .idle)
  | updateLost {s : ApprovalSystem W} {w : W} {c : ApproveRequestArgs} {now : Instant}
      (at' : s.phase w = .updating c now) (free : s.holder = none)
      (state : s.committed.state ≠ .requested) :
      ApprovalStep s (.returns w (refused .conflict)) (s.goes w .idle)
  | update {s : ApprovalSystem W} {w : W} {c : ApproveRequestArgs} {now : Instant}
      (at' : s.phase w = .updating c now) (free : s.holder = none)
      (state : s.committed.state = .requested) :
      ApprovalStep s (.proceeds w)
        { s.goes w (.writing (c.approval (orEmpty c.correlationId) now) approvalStatements
            (s.committed.authorized (c.approval (orEmpty c.correlationId) now))) with
          holder := some w }
  | insert {s : ApprovalSystem W} {w : W} {v : Approval} {statement : ApprovalStatement}
      {todo : List ApprovalStatement} {own : ApprovalTables}
      (at' : s.phase w = .writing v (statement :: todo) own) :
      ApprovalStep s (.proceeds w)
        (s.goes w (.writing v todo (statement.insert q expiresAt v own)))
  | commit {s : ApprovalSystem W} {w : W} {v : Approval} {own : ApprovalTables}
      (at' : s.phase w = .writing v [] own) :
      ApprovalStep s (.returns w ⟨.authorized, some v.decisionId, some v.executionId⟩)
        { s.goes w .idle with committed := own, holder := none }
  | raises {s : ApprovalSystem W} (w : W) :
      ApprovalStep s (.raises w)
        { s.goes w .idle with holder := if s.holder = some w then none else s.holder }
  | elsewhere {s : ApprovalSystem W} (u : RowUpdate) (state : RequestState)
      (free : s.holder = none) (moved : state = s.committed.state ∨ state = .revoked) :
      ApprovalStep s .elsewhere { s with committed := s.committed.updated u state }

end CyberAssess
