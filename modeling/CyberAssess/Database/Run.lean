import CyberAssess.Support.Transition
import CyberAssess.Database.ScanAuthority

/-!
# Database — runs of operations

An `Operation` is one database call, an `Event` a call with the clock it read and what came back.
`Db.step` takes a database to the next; a call that raises leaves it as it was.

* `Change`: what one step does to the tables, `step_change` the inversion of `Db.step` into it.
* `step_evolves`: what that is for the executions.  An old one is untouched, changed by the
  call that addresses it (`Effect`), revoked with its session, or moved with its parent; a new one
  is what an approval inserts.
* `granted_effect`: a call that granted something found its execution and had an effect on it.
* `Reachable`: the databases runs from an initial one end in.
-/

namespace CyberAssess

open Relational (Row Table)
open Relational.Table (evolves_refl evolves_update evolves_set evolves_insert)

/-- The database calls of the model, and statements on the tables they only read. -/
inductive Operation where
  | call (c : ExecutionCall)
  | createRequest (r : ExecutionRequestRecord)
  | approveRequest (c : ApproveRequestArgs)
  | saveScanRequest (s : ScanRow) (r : ScanAuthorizationRequestRecord)
  | approveScan (c : ApproveScanArgs)
  | transitionScan (c : TransitionScanArgs)
  | revokeToken (jti : String)
  | saveScan (s : ScanRow)
  | setDirectory (d : Directory)

/-- What an operation returns. -/
inductive Returned where
  | response (r : Response)
  | requestId (id : String)
  | requestApproval (a : RequestApproval)
  | scanApproval (a : ScanApproval)
  | moved (b : Bool)
  | done
deriving DecidableEq, Repr

/-- A result under its name. -/
def returning {α : Type} (f : α → Returned) (x : Except DbError (α × Db)) :
    Except DbError (Returned × Db) :=
  x.map fun p => (f p.1, p.2)

/-- One operation. -/
def Db.perform (g : Gateway) (now : Instant) (db : Db) :
    Operation → Except DbError (Returned × Db)
  | .call c => returning .response (db.execute c now)
  | .createRequest r => returning .requestId (createExecutionRequest g r db)
  | .approveRequest c => returning .requestApproval (approveExecutionRequest c now db)
  | .saveScanRequest s r =>
      (saveScanAndAuthorizationRequest g s r db).map fun db' => (.done, db')
  | .approveScan c => returning .scanApproval (approveScanAuthorizationRequest g c now db)
  | .transitionScan c =>
      let p := transitionScanAuthorizationRequest c now db
      .ok (.moved p.1, p.2)
  | .revokeToken jti => .ok (.done, revokeToken jti now db)
  | .saveScan s => .ok (.done, saveScanRecord s db)
  | .setDirectory d => .ok (.done, { db with directory := d })

/-- An operation, the clock it read, and what came back. -/
structure Event where
  operation : Operation
  now : Instant
  outcome : Except DbError Returned

/-- One operation, or its roll-back. -/
def Db.step (g : Gateway) (db : Db) (ev : Event) (db' : Db) : Prop :=
  (∃ r, db.perform g ev.now ev.operation = .ok (r, db') ∧ ev.outcome = .ok r) ∨
    (∃ e, db.perform g ev.now ev.operation = .error e ∧ ev.outcome = .error e ∧ db' = db)

/-- The databases some run ends in. -/
abbrev Db.Reachable (g : Gateway) (db : Db) : Prop :=
  Transition.Reachable Db.Initial (Db.step g) db

/-! ### What a step changes -/

/-- The links of a first approval. -/
def ApproveScanArgs.links (c : ApproveScanArgs) (os : List ScanManifestOperation) :
    List ChildLink :=
  os.map fun o => ⟨o.operationId, c.draw o.operationId⟩

/-- The ways a step changes the tables. -/
inductive Change (g : Gateway) (db : Db) (ev : Event) : Db → Prop where
  | beside {z : Db} (he : z.executions = db.executions) (hq : z.requests = db.requests)
      (hp : z.scanRequests = db.scanRequests) (ht : z.revokedTokens = db.revokedTokens) :
      Change g db ev z
  | called {c : ExecutionCall} {e : Execution} {r : Response} {y : Rows}
      (ho : ev.operation = .call c) (hr : ev.outcome = .ok (.response r))
      (hx : db.addressed c = some e)
      (h : Effect db.revokedTokens ev.now e.fixed e.data c r y) : Change g db ev (db.setRows e y)
  | pendingRevoked {q : PendingRequest} (hq : q ∈ db.requests) :
      Change g db ev { db with
        requests := db.requests.set .request (q.fixed.id, "") { q.data with state := .revoked } }
  | requestCreated {q : PendingRequest} {t : RequestTable} (hf : db.requestFree q.fixed = true)
      (hi : db.requests.insert q = some t) : Change g db ev { db with requests := t }
  | requestApproved {c : ApproveRequestArgs} {q : PendingRequest} {v : Approval} {z : Db}
      (ho : ev.operation = .approveRequest c) (hj : v.sessionJti = c.sessionJti)
      (hq : db.pendingRequest c.requestId c.organizationId = some q)
      (ha : pendingApprovable c ev.now db.directory q = true) (hz : db.approve q v = some z) :
      Change g db ev z
  | parentSaved {s : ScanRow} {r : ScanAuthorizationRequestRecord} {t : ScanRequestTable}
      (hi : db.scanRequests.insert ⟨r.columns, r.row⟩ = some t) :
      Change g db ev { saveScanRecord s db with scanRequests := t }
  | parentExpired {p : ScanRequest} (hp : p ∈ db.scanRequests) (hs : p.data.state = .requested)
      (ht : p.data.expiresAt ≤ ev.now) :
      Change g db ev (db.setScanRequest p { p.data with state := .expired })
  | parentMaterialized {c : ApproveScanArgs} {p : ScanRequest} {z : Db}
      (ho : ev.operation = .approveScan c) (hp : p ∈ db.scanRequests)
      (hs : p.data.state = .requested) (hj : c.sessionJti ∉ db.revokedTokens)
      (hz : insertChildren g c p ev.now p.data.selected db = .ok z)
      (hf : db.scanRequest c.scanRequestId c.organizationId = some p)
      (hr : ev.outcome = .ok (.scanApproval ⟨.authorized, c.links p.data.selected⟩)) :
      Change g db ev (z.setScanRequest p (p.data.dispatchable c))
  | parentMoved {c : TransitionScanArgs} {p : ScanRequest} (ho : ev.operation = .transitionScan c)
      (hp : db.scanRequest c.scanRequestId c.organizationId = some p)
      (ht : p.data.state ∈ allowedSources c.targetState) :
      Change g db ev { db.setScanRequest p (p.data.moved c.targetState ev.now) with
        executions := db.executions.update (fun e => p.data.hasChild c.organizationId e.fixed)
          fun e => e.data.parentMoved c.targetState ev.now }
  | tokenRevoked {jti : String} (ho : ev.operation = .revokeToken jti) :
      Change g db ev (revokeToken jti ev.now db)

/-! ### What a step does to one execution -/

/-- The ways a step changes the rows of an execution it finds in `db`. -/
inductive RowStep (db : Db) (ev : Event) (e : Execution) : Rows → Prop where
  | untouched : RowStep db ev e e.data
  | called {c : ExecutionCall} {r : Response} {y : Rows} (ho : ev.operation = .call c)
      (hr : ev.outcome = .ok (.response r)) (hx : db.addressed c = some e)
      (h : Effect db.revokedTokens ev.now e.fixed e.data c r y) : RowStep db ev e y
  | sessionRevoked {jti : String} (ho : ev.operation = .revokeToken jti)
      (h : e.fixed.sessionIs jti = true) : RowStep db ev e (e.data.revoked ev.now)
  | parentMoved {c : TransitionScanArgs} {p : ScanRequest} (ho : ev.operation = .transitionScan c)
      (hp : db.scanRequest c.scanRequestId c.organizationId = some p)
      (ht : p.data.state ∈ allowedSources c.targetState)
      (hc : p.data.hasChild c.organizationId e.fixed = true) :
      RowStep db ev e (e.data.parentMoved c.targetState ev.now)

/-- The executions a step inserts. -/
inductive Inserted (g : Gateway) (db : Db) (ev : Event) : Execution → Prop where
  | request {c : ApproveRequestArgs} {q : PendingRequest} {v : Approval}
      (ho : ev.operation = .approveRequest c) (hj : v.sessionJti = c.sessionJti)
      (hq : db.pendingRequest c.requestId c.organizationId = some q)
      (ha : pendingApprovable c ev.now db.directory q = true) :
      Inserted g db ev ⟨approvedAuthority q.fixed v,
        approvedRows q.data.expiresAt v.workerIdentity none v.approvedAt⟩
  | scan {c : ApproveScanArgs} {p : ScanRequest} {o : ScanManifestOperation}
      (ho : ev.operation = .approveScan c) (hj : c.sessionJti ∉ db.revokedTokens)
      (hp : p ∈ db.scanRequests) (hs : p.data.state = .requested) :
      Inserted g db ev (childExecution g c p o ev.now)

/-- An inserted execution is approved, and nothing has happened to it. -/
theorem Inserted.fresh {g : Gateway} {db : Db} {ev : Event} {e : Execution}
    (h : Inserted g db ev e) :
    e.fixed.decision.approvalState = .approved ∧
      ∃ t w r now, e.data = approvedRows t w r now := by
  cases h with
  | request => exact ⟨rfl, _, _, _, _, rfl⟩
  | scan => exact ⟨rfl, _, _, _, _, rfl⟩

variable {g : Gateway} {db db' : Db} {ev : Event}

/-- A result comes from the function's own. -/
theorem returning_ok {α : Type} {f : α → Returned} {x : Except DbError (α × Db)} {r : Returned} :
    returning f x = .ok (r, db') ↔ ∃ v, x = .ok (v, db') ∧ r = f v := by
  unfold returning
  rw [Checked.map_ok]
  constructor
  · rintro ⟨⟨v, z⟩, hv, he⟩
    cases he
    exact ⟨v, hv, rfl⟩
  · rintro ⟨v, hv, rfl⟩
    exact ⟨(v, db'), hv, rfl⟩

/-- A call that finds no rows returns `False` or nothing. -/
theorem missing_granted {c : ExecutionCall} {r : Response} (h : c.missing = .ok r) :
    r.granted = false := by
  cases c with
  | claimDecision | claimAuthority | markStarted | releaseAuthority | releaseDecisionClaim
  | finish | renewLease | acknowledge | transitionRun | revokeRequest | blockCommitted
  | claimRecovery | renewRecovery =>
      cases h
      rfl
  | _ =>
      obtain ⟨-, -, rfl⟩ := Checked.map_ok.mp h
      rfl

/-- A call returns what its rows give it, or finds none; only `revoke_execution_request` then
grants something, and revokes a request without a decision. -/
theorem execute_ok {c : ExecutionCall} {now : Instant} {r : Response}
    (h : db.execute c now = .ok (r, db')) :
    (∃ e y, db.addressed c = some e ∧ Effect db.revokedTokens now e.fixed e.data c r y ∧
      db' = db.setRows e y) ∨
    (db.addressed c = none ∧
      ((r.granted = false ∧ db' = db) ∨
        ∃ k q, c = .revokeRequest k ∧ db.pendingRequest k.requestId k.organizationId = some q ∧
          db' = { db with requests :=
            db.requests.set .request (q.fixed.id, "") { q.data with state := .revoked } })) := by
  unfold Db.execute at h
  split at h
  · rename_i e he
    obtain ⟨p, hp, hd⟩ := Checked.map_ok.mp h
    cases hd
    exact Or.inl ⟨e, p.2, he, apply_effect hp, rfl⟩
  · rename_i hn
    refine Or.inr ⟨hn, ?_⟩
    split at h
    · rename_i k
      unfold revokePendingRequest at h
      split at h
      · cases h
        exact Or.inl ⟨rfl, rfl⟩
      · rename_i q hq
        split at h <;> cases h
        · exact Or.inr ⟨k, q, rfl, hq, rfl⟩
        · exact Or.inl ⟨rfl, rfl⟩
    · obtain ⟨s, hm, hd⟩ := Checked.map_ok.mp h
      cases hd
      exact Or.inl ⟨missing_granted hm, rfl⟩

/-- A call that granted something found an execution and had an effect on it; only
`revoke_execution_request` also answers for a request without a decision. -/
theorem granted_effect {c : ExecutionCall} {now : Instant} {r : Response}
    (h : db.step g ⟨.call c, now, .ok (.response r)⟩ db') (hr : r.granted = true)
    (hc : ∀ k, c ≠ .revokeRequest k) :
    ∃ e y, db.addressed c = some e ∧ Effect db.revokedTokens now e.fixed e.data c r y ∧
      db' = db.setRows e y := by
  rcases h with ⟨s, h, hs⟩ | ⟨e, -, hs, -⟩
  · obtain ⟨v, hv, rfl⟩ := returning_ok.mp h
    cases hs
    rcases execute_ok hv with ⟨e, y, he, hy, hd⟩ | ⟨-, ⟨hn, -⟩ | ⟨k, -, hk, -⟩⟩
    · exact ⟨e, y, he, hy, hd⟩
    · rw [hr] at hn
      cases hn
    · exact absurd hk (hc k)
  · cases hs

/-! ### The executions after each operation -/

theorem createExecutionRequest_ok {r : ExecutionRequestRecord} {id : String}
    (h : createExecutionRequest g r db = .ok (id, db')) :
    db' = db ∨ ∃ q t, db.requestFree q.fixed = true ∧ db.requests.insert q = some t ∧
      db' = { db with requests := t } := by
  unfold createExecutionRequest at h
  split at h
  · split at h <;> cases h
    exact Or.inl rfl
  · simp only [Checked.bind_ok, Checked.exists_unit, Checked.ensure_ok] at h
    obtain ⟨-, hf, h⟩ := h
    split at h
    · cases h
    · rename_i t ht
      cases h
      exact Or.inr ⟨_, t, hf, ht, rfl⟩

theorem saveScanAndAuthorizationRequest_ok {s : ScanRow}
    {r : ScanAuthorizationRequestRecord}
    (h : saveScanAndAuthorizationRequest g s r db = .ok db') :
    ∃ t, db.scanRequests.insert ⟨r.columns, r.row⟩ = some t ∧
      db' = { saveScanRecord s db with scanRequests := t } := by
  unfold saveScanAndAuthorizationRequest saveScanAuthorizationRequest at h
  simp only [Checked.bind_ok, Checked.exists_unit] at h
  obtain ⟨-, -, -, -, -, -, h⟩ := h
  split at h
  · cases h
  · rename_i t ht
    cases h
    exact ⟨t, ht, rfl⟩

/-- Approval of a request answers, or moves the pending request to the executions. -/
theorem approveExecutionRequest_ok {c : ApproveRequestArgs} {now : Instant}
    {a : RequestApproval} (h : approveExecutionRequest c now db = .ok (a, db')) :
    db' = db ∨ ∃ q v, db.pendingRequest c.requestId c.organizationId = some q ∧
      pendingApprovable c now db.directory q = true ∧ v.sessionJti = c.sessionJti ∧
      db.approve q v = some db' := by
  unfold approveExecutionRequest at h
  split at h
  · cases h
    exact Or.inl rfl
  rename_i correlated
  split at h
  · rename_i q hq
    unfold approvePending at h
    split at h
    · cases h; exact Or.inl rfl
    rename_i fingerprint
    split at h
    · cases h; exact Or.inl rfl
    rename_i state
    split at h
    · cases h; exact Or.inl rfl
    rename_i unexpired
    split at h
    · cases h; exact Or.inl rfl
    rename_i approvable
    split at h
    · cases h
    · rename_i d hd
      cases h
      refine Or.inr ⟨q, _, hq, ?_, rfl, hd⟩
      simp only [pendingApprovable, Bool.and_eq_true, decide_eq_true_eq]
      exact ⟨⟨⟨⟨by simpa using correlated, not_not.mp fingerprint⟩, not_not.mp state⟩,
        not_le.mp unexpired⟩, by simpa using approvable⟩
  · split at h <;> cases h <;> exact Or.inl rfl

/-- What moving a pending request leaves. -/
theorem approve_some {q : PendingRequest} {v : Approval} (h : db.approve q v = some db') :
    db'.revokedTokens = db.revokedTokens ∧ db'.scanRequests = db.scanRequests ∧
      db'.requests = db.requests.erase .request (q.fixed.id, "") ∧
      db.executions.insert ⟨approvedAuthority q.fixed v,
        approvedRows q.data.expiresAt v.workerIdentity none v.approvedAt⟩
        = some db'.executions := by
  unfold Db.approve at h
  obtain ⟨t, ht, rfl⟩ := Option.map_eq_some_iff.mp h
  exact ⟨rfl, rfl, rfl, ht⟩

theorem insertChild_ok {c : ApproveScanArgs} {p : ScanRequest} {now : Instant}
    {o : ScanManifestOperation} (h : insertChild g c p now o db = .ok db') :
    ∃ t, db.requestFree (childExecution g c p o now).fixed.request = true ∧
      db.executions.insert (childExecution g c p o now) = some t ∧
      db' = { db with executions := t } := by
  unfold insertChild at h
  simp only [Checked.bind_ok, Checked.exists_unit, Checked.ensure_ok, Bool.and_eq_true] at h
  obtain ⟨hf, h⟩ := h
  split at h
  · cases h
  · rename_i t ht
    cases h
    exact ⟨t, hf.2, ht, rfl⟩

/-- The inserts touch no other table. -/
theorem insertChildren_same {c : ApproveScanArgs} {p : ScanRequest} {now : Instant} :
    ∀ {os : List ScanManifestOperation} {db : Db}, insertChildren g c p now os db = .ok db' →
      ∃ t, db' = { db with executions := t }
  | [], db, h => by
      cases h
      exact ⟨_, rfl⟩
  | o :: os, db, h => by
      simp only [insertChildren, Checked.bind_ok] at h
      obtain ⟨z, hz, h⟩ := h
      obtain ⟨u, -, -, rfl⟩ := insertChild_ok hz
      obtain ⟨t, rfl⟩ := insertChildren_same h
      exact ⟨t, rfl⟩

/-- The inserts add the executions of the operations, under request ids of their own, and change
no other. -/
theorem insertChildren_ok {c : ApproveScanArgs} {p : ScanRequest} {now : Instant} :
    ∀ {os : List ScanManifestOperation} {db : Db}, insertChildren g c p now os db = .ok db' →
      db.executions.Evolves (fun e y => y = e.data)
        (fun e => ∃ o, e = childExecution g c p o now ∧
          db.requests.lookup .request (e.fixed.request.id, "") = none) db'.executions
  | [], db, h => by
      cases h
      exact evolves_refl fun _ _ => rfl
  | o :: os, db, h => by
      simp only [insertChildren, Checked.bind_ok] at h
      obtain ⟨z, hz, h⟩ := h
      obtain ⟨t, hf, hi, rfl⟩ := insertChild_ok hz
      have unused : db.requests.lookup .request
          ((childExecution g c p o now).fixed.request.id, "") = none := by
        simp only [Db.requestFree, Bool.and_eq_true, Option.isNone_iff_eq_none] at hf
        exact hf.1.1.1
      have first := evolves_insert (R := fun e y => y = e.data) hi (fun _ _ => rfl)
        (N := fun e => ∃ o, e = childExecution g c p o now ∧
          db.requests.lookup .request (e.fixed.request.id, "") = none) ⟨o, rfl, unused⟩
      refine first.after (insertChildren_ok h) ?_
      rintro r d hr rfl
      exact hr

/-- Every listed operation has its execution. -/
theorem insertChildren_inserts {c : ApproveScanArgs} {p : ScanRequest} {now : Instant} :
    ∀ {os : List ScanManifestOperation} {db : Db}, insertChildren g c p now os db = .ok db' →
      ∀ o ∈ os, childExecution g c p o now ∈ db'.executions
  | [], _, _ => nofun
  | o :: os, db, h => by
      simp only [insertChildren, Checked.bind_ok] at h
      obtain ⟨z, hz, h⟩ := h
      obtain ⟨t, -, hi, rfl⟩ := insertChild_ok hz
      intro o' ho'
      rcases List.mem_cons.mp ho' with rfl | ho'
      · have inserted := (Relational.Table.mem_insert hi).mpr (Or.inr rfl)
        obtain ⟨d, hd, rfl⟩ := (insertChildren_ok h).old _ inserted
        exact hd
      · exact insertChildren_inserts h o' ho'

theorem scanRequest_mem {p : ScanRequest} {scanRequestId organizationId : String}
    (h : db.scanRequest scanRequestId organizationId = some p) :
    p ∈ db.scanRequests ∧ p.fixed.scanRequestId = scanRequestId ∧
      p.fixed.organizationId = organizationId := by
  obtain ⟨hl, ho⟩ := Option.filter_eq_some_iff.mp h
  obtain ⟨hm, hk⟩ := Relational.Table.lookup_eq_some.mp hl
  exact ⟨hm, congrArg Prod.fst hk, of_decide_eq_true ho⟩

/-- No listed operation's decision was there before. -/
theorem insertChildren_fresh {c : ApproveScanArgs} {p : ScanRequest} {now : Instant} :
    ∀ {os : List ScanManifestOperation} {db : Db}, insertChildren g c p now os db = .ok db' →
      ∀ o ∈ os, ∀ e ∈ db.executions,
        e.fixed.decision.id ≠ (c.draw o.operationId).decisionId
  | [], _, _ => nofun
  | o :: os, db, h => by
      simp only [insertChildren, Checked.bind_ok] at h
      obtain ⟨z, hz, h⟩ := h
      obtain ⟨t, -, hi, rfl⟩ := insertChild_ok hz
      intro o' ho' e he
      rcases List.mem_cons.mp ho' with rfl | ho'
      · intro same
        exact Relational.Table.fresh_of_insert hi .decision e he (congrArg (·, "") same)
      · exact insertChildren_fresh h o' ho' e ((Relational.Table.mem_insert hi).mpr (Or.inl he))

/-- The ways an approval of a scan returns. -/
inductive ScanApproved (g : Gateway) (c : ApproveScanArgs) (now : Instant) (db : Db) :
    ScanApproval → Db → Prop where
  | refused {s : ApprovalStatus} (hs : s ≠ .authorized) (hr : s ≠ .replay) :
      ScanApproved g c now db ⟨s, []⟩ db
  | expired {p : ScanRequest} (hp : db.scanRequest c.scanRequestId c.organizationId = some p)
      (hs : p.data.state = .requested) (ht : p.data.expiresAt ≤ now) :
      ScanApproved g c now db ⟨.expired, []⟩ (db.setScanRequest p { p.data with state := .expired })
  | replayed {p : ScanRequest} {links : List ChildLink}
      (hp : db.scanRequest c.scanRequestId c.organizationId = some p)
      (hs : p.data.state = .dispatchable)
      (hl : assertMaterializedChildAuthorities g db.executions p = .ok links) :
      ScanApproved g c now db ⟨.replay, links⟩ db
  | authorized {p : ScanRequest} {z : Db}
      (hp : db.scanRequest c.scanRequestId c.organizationId = some p)
      (hs : p.data.state = .requested) (hj : c.sessionJti ∉ db.revokedTokens)
      (hz : insertChildren g c p now p.data.selected db = .ok z) :
      ScanApproved g c now db ⟨.authorized, c.links p.data.selected⟩
        (z.setScanRequest p (p.data.dispatchable c))

/-- Approval of a scan answers, expires the parent, replays, or inserts the executions of its
selected operations and makes the parent dispatchable. -/
theorem approveScanAuthorizationRequest_ok {c : ApproveScanArgs} {now : Instant}
    {a : ScanApproval} (h : approveScanAuthorizationRequest g c now db = .ok (a, db')) :
    ScanApproved g c now db a db' := by
  unfold approveScanAuthorizationRequest at h
  split at h
  · cases h
    exact .refused nofun nofun
  split at h
  · cases h
    exact .refused nofun nofun
  rename_i p hp
  split at h
  · cases h
    exact .refused nofun nofun
  split at h
  · cases h
    exact .refused nofun nofun
  rename_i hstate
  split at h
  · rename_i ht
    cases h
    split
    · rename_i hr
      exact .expired hp hr ht
    · exact .refused nofun nofun
  split at h
  · cases h
    exact .refused nofun nofun
  rename_i happ
  simp only [Checked.bind_ok, Checked.exists_unit] at h
  obtain ⟨-, h⟩ := h
  split at h
  · rename_i hd
    unfold replayApproval at h
    split at h
    · split at h
      · rename_i links hl
        cases h
        exact .replayed hp hd hl
      · cases h
    · cases h
      exact .refused nofun nofun
  · rename_i hd
    have hr : p.data.state = .requested := by
      by_contra hn
      exact hstate ⟨hn, hd⟩
    have hj : c.sessionJti ∉ db.revokedTokens := by
      simp only [scanApprovable, Bool.not_eq_true', Bool.not_eq_false, Bool.and_eq_true,
        decide_eq_true_eq] at happ
      exact happ.2
    unfold materialize at h
    simp only [Checked.bind_ok] at h
    obtain ⟨z, hz, h⟩ := h
    cases h
    exact .authorized hp hr hj hz

/-- A transition of a parent answers, or moves it with its children. -/
theorem transitionScanAuthorizationRequest_ok (c : TransitionScanArgs) (now : Instant) (db : Db) :
    (∃ b, transitionScanAuthorizationRequest c now db = (b, db) ∧
      (b = true → ∃ p, db.scanRequest c.scanRequestId c.organizationId = some p ∧
        p.data.state = c.targetState)) ∨
    ∃ p, db.scanRequest c.scanRequestId c.organizationId = some p ∧
      p.data.state ∈ allowedSources c.targetState ∧
      transitionScanAuthorizationRequest c now db =
        (true, { db.setScanRequest p (p.data.moved c.targetState now) with
          executions := db.executions.update
            (fun e => p.data.hasChild c.organizationId e.fixed)
            fun e => e.data.parentMoved c.targetState now }) := by
  unfold transitionScanAuthorizationRequest
  split
  · exact Or.inl ⟨false, rfl, nofun⟩
  split
  · exact Or.inl ⟨false, rfl, nofun⟩
  rename_i p hp
  split
  · exact Or.inl ⟨false, rfl, nofun⟩
  split
  · rename_i hs
    exact Or.inl ⟨true, rfl, fun _ => ⟨p, hp, hs⟩⟩
  split
  · exact Or.inl ⟨false, rfl, nofun⟩
  · rename_i hs
    exact Or.inr ⟨p, hp, not_not.mp hs, rfl⟩

/-! ### The step, inverted -/

/-- What a step changes. -/
theorem step_change (h : db.step g ev db') : Change g db ev db' := by
  have stay : Change g db ev db := .beside rfl rfl rfl rfl
  rcases h with ⟨r, h, hr⟩ | ⟨e, -, -, rfl⟩
  swap
  · exact stay
  cases ho : ev.operation with
  | call c =>
      rw [ho] at h
      obtain ⟨v, hv, rfl⟩ := returning_ok.mp h
      rcases execute_ok hv with ⟨e, y, he, hy, rfl⟩ | ⟨-, ⟨-, rfl⟩ | ⟨k, q, rfl, hq, rfl⟩⟩
      · exact .called ho hr he hy
      · exact stay
      · exact .pendingRevoked
          (Relational.Table.lookup_eq_some.mp (Option.filter_eq_some_iff.mp hq).1).1
  | createRequest r =>
      rw [ho] at h
      obtain ⟨v, hv, rfl⟩ := returning_ok.mp h
      rcases createExecutionRequest_ok hv with rfl | ⟨q, t, hf, hi, rfl⟩
      · exact stay
      · exact .requestCreated hf hi
  | approveRequest c =>
      rw [ho] at h
      obtain ⟨v, hv, rfl⟩ := returning_ok.mp h
      rcases approveExecutionRequest_ok hv with rfl | ⟨q, w, hq, hp, hw, ha⟩
      · exact stay
      · exact .requestApproved ho hw hq hp ha
  | saveScanRequest s r =>
      rw [ho] at h
      obtain ⟨z, hz, hd⟩ := Checked.map_ok.mp h
      cases hd
      obtain ⟨t, ht, rfl⟩ := saveScanAndAuthorizationRequest_ok hz
      exact .parentSaved ht
  | approveScan c =>
      rw [ho] at h
      obtain ⟨v, hv, rfl⟩ := returning_ok.mp h
      cases approveScanAuthorizationRequest_ok hv with
      | refused | replayed => exact stay
      | expired hp hs ht => exact .parentExpired (scanRequest_mem hp).1 hs ht
      | authorized hp hs hj hz =>
          exact .parentMaterialized ho (scanRequest_mem hp).1 hs hj hz hp hr
  | transitionScan c =>
      rw [ho] at h
      simp only [Db.perform, Except.ok.injEq, Prod.mk.injEq] at h
      obtain ⟨-, rfl⟩ := h
      rcases transitionScanAuthorizationRequest_ok c ev.now db with ⟨b, hb, -⟩ | ⟨p, hp, ht, hb⟩
      · rw [hb]
        exact stay
      · rw [hb]
        exact .parentMoved ho hp ht
  | revokeToken jti =>
      rw [ho] at h
      cases h
      exact .tokenRevoked ho
  | saveScan s =>
      rw [ho] at h
      cases h
      exact .beside rfl rfl rfl rfl
  | setDirectory d =>
      rw [ho] at h
      cases h
      exact .beside rfl rfl rfl rfl

/-- What a step does to the executions. -/
theorem step_evolves (h : db.step g ev db') :
    db.executions.Evolves (RowStep db ev) (Inserted g db ev) db'.executions := by
  have stay : db.executions.Evolves (RowStep db ev) (Inserted g db ev) db.executions :=
    evolves_refl fun _ _ => .untouched
  cases step_change h with
  | beside he => exact he ▸ stay
  | called ho hr he hy =>
      exact evolves_set (Db.addressed_eq_some.mp he).1 (.called ho hr he hy)
        fun _ _ _ => .untouched
  | pendingRevoked | requestCreated | parentSaved | parentExpired => exact stay
  | requestApproved ho hj hq ha hz =>
      exact evolves_insert (approve_some hz).2.2.2 (fun _ _ => .untouched) (.request ho hj hq ha)
  | parentMaterialized ho hp hs hj hz =>
      refine (insertChildren_ok hz).mono (fun e y hd => ?_) fun e => ?_
      · rw [hd]
        exact .untouched
      · rintro ⟨o, rfl, -⟩
        exact .scan ho hj hp hs
  | parentMoved ho hp ht =>
      exact evolves_update (fun _ _ hc => .parentMoved ho hp ht hc) fun _ _ _ => .untouched
  | tokenRevoked ho =>
      exact evolves_update (fun _ _ hj => .sessionRevoked ho hj) fun _ _ _ => .untouched

/-- What every change of an execution keeps and every inserted one has, holds of the executions
of a reachable database. -/
theorem reachable_executions {C : Db → Event → Prop} {I : Execution → Prop}
    (keep : ∀ db ev e y, C db ev → I e → RowStep db ev e y → I ⟨e.fixed, y⟩)
    (new : ∀ db ev e, Inserted g db ev e → I e)
    (h : Transition.Reachable Db.Initial (Transition.Guarded C (Db.step g)) db) :
    ∀ e ∈ db.executions, I e := by
  refine h.invariant (I := fun db => ∀ e ∈ db.executions, I e) ?_ ?_
  · intro d hd e he
    rw [Relational.Table.mem_def, hd.executions] at he
    cases he
  · intro d ev d' hd hs
    exact (step_evolves hs.2).keeps (fun e _ y hI hy => keep d ev e y hs.1 hI hy) (new d ev) hd

/-- One execution, before and after a step. -/
theorem step_rowStep {e e' : Execution} (h : db.step g ev db') (he : e ∈ db.executions)
    (he' : e' ∈ db'.executions) (hf : e'.fixed = e.fixed) : RowStep db ev e e'.data := by
  obtain ⟨y, hy, hs⟩ := (step_evolves h).old e he
  have : e' = ⟨e.fixed, y⟩ :=
    Relational.Table.eq_of_key_eq he' hy .request (by rw [hf])
  rw [this]
  exact hs

/-! ### Runs that are computed -/

/-- The database after an operation, as it was where the operation raises. -/
def Db.after (g : Gateway) (db : Db) (now : Instant) (o : Operation) : Db :=
  match db.perform g now o with
  | .ok p => p.2
  | .error _ => db

/-- What came back. -/
def Db.outcome (g : Gateway) (db : Db) (now : Instant) (o : Operation) :
    Except DbError Returned :=
  (db.perform g now o).map (·.1)

/-- The database after operations, each at its time. -/
def Db.afterAll (g : Gateway) : Db → List (Instant × Operation) → Db
  | db, [] => db
  | db, (now, o) :: os => (db.after g now o).afterAll g os

/-- Their events. -/
def Db.events (g : Gateway) : Db → List (Instant × Operation) → List Event
  | _, [] => []
  | db, (now, o) :: os => ⟨o, now, db.outcome g now o⟩ :: (db.after g now o).events g os

theorem step_after (db : Db) (now : Instant) (o : Operation) :
    db.step g ⟨o, now, db.outcome g now o⟩ (db.after g now o) := by
  unfold Db.step Db.after Db.outcome
  cases e : db.perform g now o with
  | ok p => exact Or.inl ⟨p.1, by simp, by simp [Except.map]⟩
  | error d => exact Or.inr ⟨d, by simp, by simp [Except.map], rfl⟩

theorem run_afterAll : ∀ (db : Db) (os : List (Instant × Operation)),
    Transition.Run (Db.step g) db (db.events g os) (db.afterAll g os)
  | db, [] => .refl db
  | db, (now, o) :: os => .more (step_after db now o) (run_afterAll (db.after g now o) os)

theorem reachable_afterAll (h : db.Initial) (os : List (Instant × Operation)) :
    (db.afterAll g os).Reachable g :=
  ⟨db, _, h, run_afterAll db os⟩

theorem Db.Reachable.afterAll (h : db.Reachable g) (os : List (Instant × Operation)) :
    (db.afterAll g os).Reachable g := by
  obtain ⟨initial, es, hi, run⟩ := h
  exact ⟨initial, _, hi, run.append (run_afterAll db os)⟩

/-- The steps taken where `ok` holds of the database and the operation. -/
abbrev Db.GuardedStep (g : Gateway) (ok : Db → Instant → Operation → Bool) :
    Db → Event → Db → Prop :=
  Transition.Guarded (fun db ev => ok db ev.now ev.operation = true) (Db.step g)

/-- The databases runs of such steps end in. -/
abbrev Db.GuardedReachable (g : Gateway) (ok : Db → Instant → Operation → Bool) (db : Db) : Prop :=
  Transition.Reachable Db.Initial (Db.GuardedStep g ok) db

/-- Every operation of a computed run is taken where `ok` holds. -/
def Db.allMeet (g : Gateway) (ok : Db → Instant → Operation → Bool) :
    Db → List (Instant × Operation) → Bool
  | _, [] => true
  | db, (now, o) :: os => ok db now o && (db.after g now o).allMeet g ok os

theorem guarded_run {ok : Db → Instant → Operation → Bool} :
    ∀ (db : Db) (os : List (Instant × Operation)), db.allMeet g ok os = true →
      Transition.Run (Db.GuardedStep g ok) db (db.events g os) (db.afterAll g os)
  | db, [], _ => .refl db
  | db, (now, o) :: os, h => by
      obtain ⟨ho, hs⟩ := Bool.and_eq_true_iff.mp h
      exact .more ⟨ho, step_after db now o⟩ (guarded_run (db.after g now o) os hs)

theorem guardedReachable_afterAll {ok : Db → Instant → Operation → Bool} (h : db.Initial)
    {os : List (Instant × Operation)} (hm : db.allMeet g ok os = true) :
    (db.afterAll g os).GuardedReachable g ok :=
  ⟨db, _, h, guarded_run db os hm⟩

/-! ### A tenant to run on -/

namespace Sample

/-- The digest of the operation-policy document; nothing else is hashed on these runs. -/
def revision : String := "e7619c0c0d003bd950d070c7d6c4cbaf7e092a54e2d4cb26d39b12826684d120"

/-- A host that resolves nothing. -/
def gateway : Gateway where
  lower := fun s => String.ofList (s.toList.map Char.toLower)
  urlparse := fun _ => .error "ValueError"
  resolveHostnameIps := fun _ => []
  resolveAtConstruction := fun _ => []
  isIpAddress := fun _ => false
  isIpAllowedForPolicy := fun _ _ => .error "ValueError"
  validatePathSandbox := fun _ => .ok ()
  abspath := id
  sha256 := fun _ => revision
  gatewaySeal := fun _ => revision
  appVersion := "15.0.0"

/-- One organization with its administrator and an asset that may be probed. -/
def directory : Directory where
  organizations := [⟨"org-a", true⟩]
  users := [⟨"admin-a", "org-a", .admin, true⟩]
  projects := []
  assets := [⟨"asset-a", "org-a", none, .ipAddress, "8.8.8.8", true, none, .monitored⟩]

/-- Its empty database. -/
def tenant : Db where
  directory := directory
  scans := []
  revokedTokens := []
  requests := .empty
  executions := .empty
  scanRequests := .empty

theorem initial : tenant.Initial := ⟨rfl, rfl, rfl⟩

/-- An `nmap` request that expires after 300 s. -/
def request : ExecutionRequestRecord where
  id := "req-a"
  idempotencyKey := "key-a"
  requestFingerprint := "fingerprint-a"
  organizationId := "org-a"
  projectId := none
  assetId := "asset-a"
  targetId := "tgt-a"
  authorizationDecisionId := "auth-a"
  targetPolicyVersion := "v1"
  toolId := "nmap"
  operationFamily := "network_assessment"
  operationOptions := []
  operationPolicyRevision := revision
  resourceBudget := [("timeout_seconds", 300)]
  accountImpactBudget := []
  credentialScope := []
  requestedByUserId := "admin-a"
  state := .requested
  createdAt := 0
  expiresAt := seconds 300

/-- The administrator approves it under a session. -/
def approval : ApproveRequestArgs where
  requestId := "req-a"
  organizationId := "org-a"
  requestFingerprint := "fingerprint-a"
  approvalIdempotencyKey := "approve-a"
  approverUserId := "admin-a"
  sessionJti := "session-a"
  workerIdentity := "worker-a"
  workerGeneration := "generation-a"
  correlationId := some "corr-a"
  decisionId := "dec-a"
  executionId := "run-a"

/-- The worker claims its authority. -/
def claim : ClaimAuthorityArgs where
  decisionId := "dec-a"
  organizationId := "org-a"
  sessionJti := "session-a"
  workerIdentity := "worker-a"
  policyRevision := revision
  dispatchClaimToken := none
  leaseSeconds := 30
  decisionToken := "decision-token"
  freshDispatchToken := "dispatch-token"

/-- The worker starts a process. -/
def start : MarkStartedArgs where
  decisionId := "dec-a"
  organizationId := "org-a"
  workerIdentity := "worker-a"
  claimToken := "decision-token"
  dispatchClaimToken := some "dispatch-token"
  processId := some 4242
  processGroupId := some "4242"

/-- Creation and approval, in the first second. -/
def approved : List (Instant × Operation) :=
  [(0, .createRequest request), (seconds 1, .approveRequest approval)]

/-- The claim after them. -/
def claimed : List (Instant × Operation) :=
  approved ++ [(seconds 2, .call (.claimAuthority claim))]

end Sample

end CyberAssess
