import CyberAssess.Execution.Rows

/-!
# Execution — decisions and their launch authority

The calls of `core/db.py` that claim, start, release, abort and finish an execution under its
decision.  Each is a function of the revoked session tokens, the clock, the call's arguments and
the rows of the one execution it addresses; an error rolls the transaction back.

* `claimExecutionDecision`, `claimExecutionAuthority`: take the decision, the second one
  together with its dispatch intent.
* `markExecutionDecisionStarted`: consume the decision and move the run to `RUNNING`.
* `releaseExecutionAuthority`, `releaseExecutionDecisionClaim`, `abortExecutionStart`: give the
  claim back, or end a run that did not start.
* `finishExecution`: settle a running execution and its dispatch lease.

`[about ours]`: the clock is read once for each call.  Tokens the source draws with `uuid4` are
arguments.
-/

namespace CyberAssess

open Checked (ensure)

/-- `SELECT 1 FROM revoked_tokens WHERE jti = d.session_jti`. -/
def Authority.sessionRevoked (a : Authority) (revokedTokens : List String) : Bool :=
  a.decision.sessionJti ∈ revokedTokens

/-- `q.state = 'AUTHORIZED' … d.expires_at > now` and the session test, as the terminal updates
join them. -/
def authorityCurrent (revokedTokens : List String) (now : Instant) (a : Authority) (x : Rows) :
    Bool :=
  x.request.state = .authorized && a.decision.approvalState = .approved &&
    x.decision.revokedAt.isNone && !a.sessionRevoked revokedTokens &&
    now < x.decision.expiresAt && now < x.request.expiresAt

/-- `ExecutionLeaseClaim`. -/
structure ExecutionLeaseClaim where
  token : String
  owner : String
  expiresAt : Instant
deriving DecidableEq, Repr

/-- `ExecutionDispatchLease`. -/
structure ExecutionDispatchLease where
  executionId : String
  organizationId : String
  owner : String
  token : String
  expiresAt : Instant
  attemptCount : Nat
deriving DecidableEq, Repr

/-- `ExecutionAuthorityLease`. -/
structure ExecutionAuthorityLease where
  decision : ExecutionLeaseClaim
  dispatch : ExecutionDispatchLease
  executionId : String
  correlationId : String
deriving DecidableEq, Repr

/-- `lease_expires_at > now`, false at `NULL`. -/
def leaseHeld (now : Instant) (lease : Option Instant) : Bool := lease.any (now < ·)

theorem leaseHeld_some {now t : Instant} : leaseHeld now (some t) = true ↔ now < t := by
  simp [leaseHeld]

/-- `lease_expires_at <= now`, false at `NULL`. -/
def leaseLapsed (now : Instant) (lease : Option Instant) : Bool := lease.any (· ≤ now)

/-! ### Claiming -/

/-- The arguments of `claim_execution_decision`. -/
structure ClaimDecisionArgs where
  decisionId : String
  organizationId : String
  sessionJti : String
  workerIdentity : String
  policyRevision : String
  claimToken : String
deriving DecidableEq, Repr

/-- The `WHERE` of `claim_execution_decision`. -/
def decisionClaimable (c : ClaimDecisionArgs) (now : Instant) (a : Authority) (x : Rows) : Bool :=
  a.decision.sessionJti = c.sessionJti && a.decision.workerIdentity = c.workerIdentity &&
    a.decision.operation.operationPolicyRevision = c.policyRevision &&
    a.decision.approvalState = .approved && x.decision.revokedAt.isNone &&
    x.decision.consumedAt.isNone && x.decision.claimExpiresAt.all (· ≤ now) &&
    now < x.decision.expiresAt && x.request.state = .authorized && now < x.request.expiresAt &&
    (x.dispatch.state = .pending ||
      (x.dispatch.state = .claimed && x.dispatch.claimedBy = some c.workerIdentity))

/-- The decision under the claim. -/
def Rows.decisionClaimed (x : Rows) (c : ClaimDecisionArgs) (now : Instant) : Rows :=
  { x with decision := { x.decision with
      claimOwner := some c.workerIdentity
      claimExpiresAt := some (now + seconds 30)
      claimToken := some c.claimToken } }

/-- `claim_execution_decision`. -/
def claimExecutionDecision (c : ClaimDecisionArgs) (now : Instant) (a : Authority) (x : Rows) :
    Except DbError (Option ExecutionLeaseClaim × Rows) :=
  if decisionClaimable c now a x then
    .ok (some ⟨c.claimToken, c.workerIdentity, now + seconds 30⟩, x.decisionClaimed c now)
  else .ok (none, x)

theorem claimExecutionDecision_ok {c : ClaimDecisionArgs} {now : Instant} {a : Authority}
    {x y : Rows} {r : Option ExecutionLeaseClaim}
    (h : claimExecutionDecision c now a x = .ok (r, y)) :
    (r = none ∧ y = x) ∨
      (decisionClaimable c now a x = true ∧
        r = some ⟨c.claimToken, c.workerIdentity, now + seconds 30⟩ ∧
        y = x.decisionClaimed c now) := by
  unfold claimExecutionDecision at h
  split at h
  · rename_i hc
    cases h
    exact Or.inr ⟨hc, rfl, rfl⟩
  · cases h
    exact Or.inl ⟨rfl, rfl⟩

/-- The arguments of `claim_execution_authority`, with the two tokens it draws. -/
structure ClaimAuthorityArgs where
  decisionId : String
  organizationId : String
  sessionJti : String
  workerIdentity : String
  policyRevision : String
  dispatchClaimToken : Option String
  leaseSeconds : Nat
  decisionToken : String
  freshDispatchToken : String
deriving DecidableEq, Repr

/-- `if not decision_id or not organization_id or …`. -/
def ClaimAuthorityArgs.complete (c : ClaimAuthorityArgs) : Bool :=
  !c.decisionId.isEmpty && !c.organizationId.isEmpty && !c.sessionJti.isEmpty &&
    !c.workerIdentity.isEmpty && 0 < c.leaseSeconds

/-- `dispatch_claim_token or uuid4().hex`. -/
def ClaimAuthorityArgs.dispatchToken (c : ClaimAuthorityArgs) : String :=
  match c.dispatchClaimToken with
  | some t => if t.isEmpty then c.freshDispatchToken else t
  | none => c.freshDispatchToken

/-- The `WHERE` of `claim_execution_authority`. -/
def authorityClaimable (c : ClaimAuthorityArgs) (revokedTokens : List String) (now : Instant)
    (a : Authority) (x : Rows) : Bool :=
  a.decision.sessionJti = c.sessionJti && a.decision.workerIdentity = c.workerIdentity &&
    a.decision.operation.operationPolicyRevision = c.policyRevision &&
    authorityCurrent revokedTokens now a x && x.decision.consumedAt.isNone &&
    (x.run.state = .requested || x.run.state = .starting) &&
    (x.dispatch.state = .pending ||
      (x.dispatch.state = .claimed && x.dispatch.claimedBy = some c.workerIdentity &&
        c.dispatchClaimToken.isSome && x.dispatch.claimToken = c.dispatchClaimToken &&
        leaseHeld now x.dispatch.leaseExpiresAt))

/-- The dispatch intent under the claim; one the caller already holds is kept with its token and
lease. -/
def DispatchRow.claimedFor (i : DispatchRow) (c : ClaimAuthorityArgs) (now : Instant) :
    DispatchRow :=
  if i.state = .pending then
    { i with
      state := .claimed
      attemptCount := i.attemptCount + 1
      claimedAt := some now
      claimedBy := some c.workerIdentity
      claimToken := some c.dispatchToken
      leaseExpiresAt := some (now + seconds c.leaseSeconds) }
  else i

/-- The lease `claim_execution_authority` returns. -/
def authorityLease (c : ClaimAuthorityArgs) (a : Authority) (i : DispatchRow) :
    ExecutionAuthorityLease where
  decision := ⟨c.decisionToken, c.workerIdentity, i.leaseExpiresAt.getD 0⟩
  dispatch := ⟨a.run.executionId, c.organizationId, c.workerIdentity, i.claimToken.getD "",
    i.leaseExpiresAt.getD 0, i.attemptCount⟩
  executionId := a.run.executionId
  correlationId :=
    if a.run.correlationId.isEmpty then "corr-execution-" ++ a.run.executionId
    else a.run.correlationId

/-- The rows under the claim: dispatch, run and decision in one transaction. -/
def Rows.authorityClaimed (x : Rows) (c : ClaimAuthorityArgs) (now : Instant) : Rows :=
  let i := x.dispatch.claimedFor c now
  { x with
    dispatch := i
    run := { x.run with state := .starting }
    decision := { x.decision with
      claimOwner := some c.workerIdentity
      claimExpiresAt := some (i.leaseExpiresAt.getD 0)
      claimToken := some c.decisionToken }
    claimEvents := .dispatchClaimed ⟨i.claimToken.getD ""⟩ ::
      .decisionClaimed ⟨c.decisionToken⟩ :: x.claimEvents }

/-- `claim_execution_authority`. -/
def claimExecutionAuthority (c : ClaimAuthorityArgs) (revokedTokens : List String)
    (now : Instant) (a : Authority) (x : Rows) :
    Except DbError (Option ExecutionAuthorityLease × Rows) :=
  if !c.complete || !authorityClaimable c revokedTokens now a x then .ok (none, x)
  else do
    ensure (decide (x.run.workerIdentity = some c.workerIdentity))
      (.runtimeError "execution authority start transition lost its transaction fence")
    ensure (x.decision.claimOwner.isNone || leaseLapsed now x.decision.claimExpiresAt)
      (.runtimeError "execution authority decision claim lost its transaction fence")
    .ok (some (authorityLease c a (x.dispatch.claimedFor c now)), x.authorityClaimed c now)

theorem claimExecutionAuthority_ok {c : ClaimAuthorityArgs} {revokedTokens : List String}
    {now : Instant} {a : Authority} {x y : Rows} {r : Option ExecutionAuthorityLease}
    (h : claimExecutionAuthority c revokedTokens now a x = .ok (r, y)) :
    (r = none ∧ y = x) ∨
      (authorityClaimable c revokedTokens now a x = true ∧
        x.run.workerIdentity = some c.workerIdentity ∧
        (x.decision.claimOwner.isNone || leaseLapsed now x.decision.claimExpiresAt) = true ∧
        r = some (authorityLease c a (x.dispatch.claimedFor c now)) ∧
        y = x.authorityClaimed c now) := by
  unfold claimExecutionAuthority at h
  split at h
  · cases h
    exact Or.inl ⟨rfl, rfl⟩
  · rename_i hc
    simp only [Bool.or_eq_true, Bool.not_eq_true', not_or, Bool.not_eq_false] at hc
    simp only [Checked.bind_ok, Checked.exists_unit, Checked.ensure_ok, decide_eq_true_eq,
      Except.ok.injEq, Prod.mk.injEq] at h
    obtain ⟨hw, hd, hr, hy⟩ := h
    exact Or.inr ⟨hc.2, hw, hd, hr.symm, hy.symm⟩

/-! ### Starting -/

/-- The arguments of `mark_execution_decision_started`. -/
structure MarkStartedArgs where
  decisionId : String
  organizationId : String
  workerIdentity : String
  claimToken : String
  dispatchClaimToken : Option String
  processId : Option Int
  processGroupId : Option String
deriving DecidableEq, Repr

/-- The `WHERE` of `mark_execution_decision_started`. -/
def decisionStartable (c : MarkStartedArgs) (revokedTokens : List String) (now : Instant)
    (a : Authority) (x : Rows) : Bool :=
  x.decision.claimOwner = some c.workerIdentity && x.decision.claimToken = some c.claimToken &&
    x.decision.consumedAt.isNone && x.decision.revokedAt.isNone && now < x.decision.expiresAt &&
    leaseHeld now x.decision.claimExpiresAt && x.request.state = .authorized &&
    now < x.request.expiresAt && x.dispatch.state = .claimed &&
    x.dispatch.claimedBy = some c.workerIdentity && c.dispatchClaimToken.isSome &&
    x.dispatch.claimToken = c.dispatchClaimToken && leaseHeld now x.dispatch.leaseExpiresAt &&
    x.run.state = .starting && !a.sessionRevoked revokedTokens

/-- The rows of a started execution: the decision is consumed. -/
def Rows.started (x : Rows) (c : MarkStartedArgs) (now : Instant) : Rows :=
  { x with
    decision := { x.decision with
      startedAt := some now
      consumedAt := some now
      claimExpiresAt := none }
    run := { x.run with
      state := .running
      processId := c.processId
      processGroupId := c.processGroupId
      startedAt := x.run.startedAt.or (some now) } }

/-- `mark_execution_decision_started`. -/
def markExecutionDecisionStarted (c : MarkStartedArgs) (revokedTokens : List String)
    (now : Instant) (a : Authority) (x : Rows) : Except DbError (Bool × Rows) :=
  if decisionStartable c revokedTokens now a x then do
    ensure (decide (x.run.workerIdentity = some c.workerIdentity))
      (.runtimeError "execution run could not commit RUNNING after process creation")
    .ok (true, x.started c now)
  else .ok (false, x)

theorem markExecutionDecisionStarted_ok {c : MarkStartedArgs} {revokedTokens : List String}
    {now : Instant} {a : Authority} {x y : Rows} {r : Bool}
    (h : markExecutionDecisionStarted c revokedTokens now a x = .ok (r, y)) :
    (r = false ∧ y = x) ∨
      (decisionStartable c revokedTokens now a x = true ∧
        x.run.workerIdentity = some c.workerIdentity ∧ r = true ∧ y = x.started c now) := by
  unfold markExecutionDecisionStarted at h
  split at h
  · rename_i hc
    simp only [Checked.bind_ok, Checked.exists_unit, Checked.ensure_ok, decide_eq_true_eq,
      Except.ok.injEq, Prod.mk.injEq] at h
    obtain ⟨hw, hr, hy⟩ := h
    exact Or.inr ⟨hc, hw, hr.symm, hy.symm⟩
  · cases h
    exact Or.inl ⟨rfl, rfl⟩

/-! ### Giving back -/

/-- `claim_owner = NULL, claim_expires_at = NULL, claim_token = NULL`. -/
def DecisionRow.unclaimed (d : DecisionRow) : DecisionRow :=
  { d with claimOwner := none, claimExpiresAt := none, claimToken := none }

/-- `claim_owner = ? AND claim_token = ?`. -/
def DecisionRow.claimedWith (d : DecisionRow) (workerIdentity token : String) : Bool :=
  d.claimOwner = some workerIdentity && d.claimToken = some token

/-- `state = 'CLAIMED' AND claimed_by = ? AND claim_token = ?`. -/
def DispatchRow.claimedWith (i : DispatchRow) (workerIdentity token : String) : Bool :=
  i.state = .claimed && i.claimedBy = some workerIdentity && i.claimToken = some token

/-- The arguments of `release_execution_authority`. -/
structure ReleaseAuthorityArgs where
  decisionId : String
  organizationId : String
  workerIdentity : String
  decisionClaimToken : String
  dispatchClaimToken : String
deriving DecidableEq, Repr

/-- The identities are all given. -/
def ReleaseAuthorityArgs.complete (c : ReleaseAuthorityArgs) : Bool :=
  !c.decisionId.isEmpty && !c.organizationId.isEmpty && !c.workerIdentity.isEmpty &&
    !c.decisionClaimToken.isEmpty && !c.dispatchClaimToken.isEmpty

/-- The rows given back: the dispatch returns to `PENDING`, the run keeps its state. -/
def Rows.authorityReleased (x : Rows) : Rows :=
  { x with
    decision := x.decision.unclaimed
    dispatch := { x.dispatch with
      state := .pending
      claimedBy := none
      claimToken := none
      leaseExpiresAt := none
      claimedAt := none } }

/-- The two `WHERE` of `release_execution_authority`. -/
def authorityReleasable (c : ReleaseAuthorityArgs) (x : Rows) : Bool :=
  x.decision.claimedWith c.workerIdentity c.decisionClaimToken && x.decision.consumedAt.isNone &&
    x.dispatch.claimedWith c.workerIdentity c.dispatchClaimToken &&
    (x.run.state = .requested || x.run.state = .starting)

/-- `release_execution_authority`. -/
def releaseExecutionAuthority (c : ReleaseAuthorityArgs) (x : Rows) :
    Except DbError (Bool × Rows) :=
  if c.complete && authorityReleasable c x then .ok (true, x.authorityReleased)
  else .ok (false, x)

theorem releaseExecutionAuthority_ok {c : ReleaseAuthorityArgs} {x y : Rows} {r : Bool}
    (h : releaseExecutionAuthority c x = .ok (r, y)) :
    (r = false ∧ y = x) ∨
      (authorityReleasable c x = true ∧ r = true ∧ y = x.authorityReleased) := by
  unfold releaseExecutionAuthority at h
  split at h
  · rename_i hc
    cases h
    exact Or.inr ⟨(Bool.and_eq_true_iff.mp hc).2, rfl, rfl⟩
  · cases h
    exact Or.inl ⟨rfl, rfl⟩

/-- The arguments of `release_execution_decision_claim`. -/
structure ReleaseDecisionClaimArgs where
  decisionId : String
  organizationId : String
  workerIdentity : String
  claimToken : String
deriving DecidableEq, Repr

/-- The rows with the decision given back. -/
def Rows.decisionReleased (x : Rows) : Rows := { x with decision := x.decision.unclaimed }

/-- `release_execution_decision_claim`. -/
def releaseExecutionDecisionClaim (c : ReleaseDecisionClaimArgs) (x : Rows) :
    Except DbError (Bool × Rows) :=
  if x.decision.claimedWith c.workerIdentity c.claimToken && x.decision.consumedAt.isNone then
    .ok (true, x.decisionReleased)
  else .ok (false, x)

theorem releaseExecutionDecisionClaim_ok {c : ReleaseDecisionClaimArgs} {x y : Rows} {r : Bool}
    (h : releaseExecutionDecisionClaim c x = .ok (r, y)) :
    (r = false ∧ y = x) ∨
      (x.decision.claimedWith c.workerIdentity c.claimToken = true ∧
        x.decision.consumedAt.isNone = true ∧ r = true ∧ y = x.decisionReleased) := by
  unfold releaseExecutionDecisionClaim at h
  split at h
  · rename_i hc
    cases h
    obtain ⟨hd, hn⟩ := Bool.and_eq_true_iff.mp hc
    exact Or.inr ⟨hd, hn, rfl, rfl⟩
  · cases h
    exact Or.inl ⟨rfl, rfl⟩

/-- `"BLOCKED" if terminal_state in {"CANCELLED", "EXECUTION_BLOCKED"} else "FAILED"`. -/
def safeDispatchState : RunState → DispatchState
  | .cancelled | .executionBlocked => .blocked
  | _ => .failed

/-- `{"FAILED", "CANCELLED", "TIMED_OUT", "EXECUTION_BLOCKED"}`. -/
def isSafeState : RunState → Bool
  | .failed | .cancelled | .timedOut | .executionBlocked => true
  | _ => false

/-- The dispatch row as a settlement leaves it. -/
def DispatchRow.settled (i : DispatchRow) (state : DispatchState) (now : Instant)
    (lastError : Option ReasonCode) : DispatchRow :=
  { i with
    state := state
    completedAt := some now
    lastError := lastError
    claimedBy := none
    claimToken := none
    leaseExpiresAt := none }

/-- The arguments of `abort_execution_start`. -/
structure AbortStartArgs where
  decisionId : String
  organizationId : String
  workerIdentity : String
  decisionClaimToken : String
  dispatchClaimToken : String
  terminalState : RunState
  reasonCode : ReasonCode
  processId : Option Int
  processGroupId : Option String
deriving DecidableEq, Repr

/-- What `abort_execution_start` raises before it reads. -/
def AbortStartArgs.check (c : AbortStartArgs) : Except DbError Unit :=
  ensure (isSafeState c.terminalState &&
      isValidExecutionTerminalOutcome c.terminalState (some c.reasonCode))
    (.valueError "execution start abort requires a safe terminal state and reason")

theorem abortStart_check {c : AbortStartArgs} (h : c.check = .ok ()) :
    isSafeState c.terminalState = true ∧
      isValidExecutionTerminalOutcome c.terminalState (some c.reasonCode) = true :=
  Bool.and_eq_true_iff.mp (Checked.ensure_ok.mp h)

/-- The `WHERE` of `abort_execution_start`. -/
def startAbortable (c : AbortStartArgs) (x : Rows) : Bool :=
  x.dispatch.claimedWith c.workerIdentity c.dispatchClaimToken && x.run.state = .starting &&
    x.decision.claimedWith c.workerIdentity c.decisionClaimToken

/-- The rows of an execution that did not start. -/
def Rows.startAborted (x : Rows) (c : AbortStartArgs) (now : Instant) : Rows :=
  { x with
    run := { x.run with
      state := c.terminalState
      reasonCode := some c.reasonCode
      processId := c.processId.or x.run.processId
      processGroupId := c.processGroupId.or x.run.processGroupId
      finishedAt := some now }
    dispatch := x.dispatch.settled (safeDispatchState c.terminalState) now (some c.reasonCode)
    decision := x.decision.unclaimed }

/-- `abort_execution_start`. -/
def abortExecutionStart (c : AbortStartArgs) (now : Instant) (x : Rows) :
    Except DbError (Bool × Rows) := do
  c.check
  if !startAbortable c x then .ok (false, x)
  else do
    ensure x.decision.consumedAt.isNone
      (.runtimeError "execution start abort lost its transaction fence")
    .ok (true, x.startAborted c now)

theorem abortExecutionStart_ok {c : AbortStartArgs} {now : Instant} {x y : Rows} {r : Bool}
    (h : abortExecutionStart c now x = .ok (r, y)) :
    (r = false ∧ y = x) ∨
      (c.check = .ok () ∧ startAbortable c x = true ∧ x.decision.consumedAt.isNone = true ∧
        r = true ∧ y = x.startAborted c now) := by
  unfold abortExecutionStart at h
  simp only [Checked.bind_ok, Checked.exists_unit] at h
  obtain ⟨hc, h⟩ := h
  split at h
  · cases h
    exact Or.inl ⟨rfl, rfl⟩
  · rename_i hs
    simp only [Checked.bind_ok, Checked.exists_unit, Checked.ensure_ok, Except.ok.injEq,
      Prod.mk.injEq] at h
    obtain ⟨hn, hr, hy⟩ := h
    exact Or.inr ⟨hc, by simpa using hs, hn, hr.symm, hy.symm⟩

/-! ### Finishing -/

/-- The arguments of `finish_execution`. -/
structure FinishArgs where
  executionId : String
  organizationId : String
  workerIdentity : String
  dispatchClaimToken : String
  terminalState : RunState
  reasonCode : Option ReasonCode
  processId : Option Int
  processGroupId : Option String
deriving DecidableEq, Repr

/-- `{"SUCCEEDED", "PARTIAL_RESULTS_WITH_WARNING", "FAILED", "TIMED_OUT", "CANCELLED"}`. -/
def isFinishState : RunState → Bool
  | .succeeded | .partialResultsWithWarning | .failed | .timedOut | .cancelled => true
  | _ => false

/-- The dispatch state `finish_execution` pairs with a terminal state. -/
def finishDispatchState : RunState → DispatchState
  | .succeeded | .partialResultsWithWarning => .completed
  | .cancelled => .blocked
  | _ => .failed

/-- The replay of the outcome already stored. -/
def finishReplays (c : FinishArgs) (x : Rows) : Bool :=
  c.terminalState = x.run.state && x.dispatch.state = finishDispatchState x.run.state &&
    x.run.reasonCode = c.reasonCode && x.dispatch.lastError = c.reasonCode &&
    x.run.workerIdentity = some c.workerIdentity &&
    (c.processId.isNone || x.run.processId = c.processId) &&
    (c.processGroupId.isNone || x.run.processGroupId = c.processGroupId)

/-- The tests `finish_execution` makes between its read and its updates. -/
def finishAllowed (c : FinishArgs) (revokedTokens : List String) (now : Instant)
    (a : Authority) (x : Rows) : Bool :=
  x.dispatch.claimedWith c.workerIdentity c.dispatchClaimToken &&
    leaseHeld now x.dispatch.leaseExpiresAt && x.run.state = .running &&
    x.run.workerIdentity = some c.workerIdentity && authorityCurrent revokedTokens now a x &&
    (c.processId.isNone || x.run.processId = c.processId) &&
    (c.processGroupId.isNone || x.run.processGroupId = c.processGroupId)

/-- The rows of a finished execution. -/
def Rows.finished (x : Rows) (c : FinishArgs) (now : Instant) : Rows :=
  { x with
    run := { x.run with
      state := c.terminalState
      reasonCode := c.reasonCode
      processId := c.processId.or x.run.processId
      processGroupId := c.processGroupId.or x.run.processGroupId
      finishedAt := some now }
    dispatch := x.dispatch.settled (finishDispatchState c.terminalState) now c.reasonCode }

/-- The arguments `finish_execution` takes: a terminal state of its own with its reason. -/
def FinishArgs.complete (c : FinishArgs) : Bool :=
  isFinishState c.terminalState && !c.executionId.isEmpty && !c.organizationId.isEmpty &&
    !c.workerIdentity.isEmpty && !c.dispatchClaimToken.isEmpty &&
    isValidExecutionTerminalOutcome c.terminalState c.reasonCode

/-- `finish_execution`.  Its run update matches the process columns exactly, so an omitted
process id meets only a run without one. -/
def finishExecution (c : FinishArgs) (revokedTokens : List String) (now : Instant)
    (a : Authority) (x : Rows) : Except DbError (Bool × Rows) :=
  if !c.complete then .ok (false, x)
  else if x.run.state.isTerminal then .ok (finishReplays c x, x)
  else if !finishAllowed c revokedTokens now a x then .ok (false, x)
  else do
    ensure (decide (x.run.processId = c.processId ∧ x.run.processGroupId = c.processGroupId))
      (.runtimeError "execution finish lost its transaction fence")
    .ok (true, x.finished c now)

theorem finishExecution_ok {c : FinishArgs} {revokedTokens : List String} {now : Instant}
    {a : Authority} {x y : Rows} {r : Bool}
    (h : finishExecution c revokedTokens now a x = .ok (r, y)) :
    (y = x ∧ (r = true → c.complete = true ∧ x.run.state.isTerminal = true ∧
        finishReplays c x = true)) ∨
      (c.complete = true ∧ finishAllowed c revokedTokens now a x = true ∧ r = true ∧
        y = x.finished c now) := by
  unfold finishExecution at h
  split at h
  · cases h
    exact Or.inl ⟨rfl, nofun⟩
  rename_i hc
  split at h
  · rename_i ht
    cases h
    exact Or.inl ⟨rfl, fun hr => ⟨by simpa using hc, ht, hr⟩⟩
  split at h
  · cases h
    exact Or.inl ⟨rfl, nofun⟩
  · rename_i hf
    simp only [Checked.bind_ok, Checked.exists_unit, Except.ok.injEq, Prod.mk.injEq] at h
    obtain ⟨-, hr, hy⟩ := h
    exact Or.inr ⟨by simpa using hc, by simpa using hf, hr.symm, hy.symm⟩

end CyberAssess
