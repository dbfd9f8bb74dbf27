import CyberAssess.Support.Text
import CyberAssess.Execution.Authority

/-!
# Execution — the dispatch intent and the run's transitions

The calls of `core/db.py` that lease the dispatch intent and those that settle it with its run.

* `claimExecutionDispatchIntent`, `renewExecutionDispatchLease`: the lease.
* `acknowledgeExecutionCancellation`, `reapExecutionDispatch`, `settleExecutionDispatchIntent`,
  `transitionExecutionRun`: the updates of the run's state.
* `revokeExecutionDecision`, `revokeExecutionRequest`: revocation, which cancels what has not
  been dispatched.

`[about ours]`: an update whose `WHERE` repeats the read before it cannot miss inside the
transaction, and its `rowcount` test is left out.
-/

namespace CyberAssess

open Checked (ensure)

/-! ### The lease -/

/-- The arguments of `claim_execution_dispatch_intent`, with the token it draws. -/
structure ClaimDispatchArgs where
  executionId : String
  organizationId : String
  workerIdentity : String
  leaseSeconds : Nat
  token : String
deriving DecidableEq, Repr

/-- The tests of `claim_execution_dispatch_intent`, and the `WHERE` of its update.  The session
is not among them. -/
def dispatchClaimable (c : ClaimDispatchArgs) (now : Instant) (a : Authority) (x : Rows) : Bool :=
  x.request.state = .authorized && a.decision.approvalState = .approved &&
    a.decision.workerIdentity = c.workerIdentity && x.decision.revokedAt.isNone &&
    now < x.decision.expiresAt && now < x.request.expiresAt &&
    (x.dispatch.state = .pending ||
      (x.dispatch.state = .claimed && leaseLapsed now x.dispatch.leaseExpiresAt))

/-- The rows under the lease. -/
def Rows.dispatchClaimed (x : Rows) (c : ClaimDispatchArgs) (now : Instant) : Rows :=
  { x with dispatch := { x.dispatch with
      state := .claimed
      attemptCount := x.dispatch.attemptCount + 1
      claimedAt := some now
      claimedBy := some c.workerIdentity
      claimToken := some c.token
      leaseExpiresAt := some (now + seconds c.leaseSeconds) } }

/-- What `claim_execution_dispatch_intent` raises before it reads. -/
def ClaimDispatchArgs.check (c : ClaimDispatchArgs) : Except DbError Unit :=
  ensure (!c.executionId.isEmpty && !c.organizationId.isEmpty && !c.workerIdentity.isEmpty &&
      decide (0 < c.leaseSeconds))
    (.valueError "dispatch lease identity and duration are required")

/-- `claim_execution_dispatch_intent`. -/
def claimExecutionDispatchIntent (c : ClaimDispatchArgs) (now : Instant) (a : Authority)
    (x : Rows) : Except DbError (Option ExecutionDispatchLease × Rows) := do
  c.check
  if dispatchClaimable c now a x then
    .ok (some ⟨c.executionId, c.organizationId, c.workerIdentity, c.token,
        now + seconds c.leaseSeconds, x.dispatch.attemptCount + 1⟩, x.dispatchClaimed c now)
  else .ok (none, x)

theorem claimExecutionDispatchIntent_ok {c : ClaimDispatchArgs} {now : Instant} {a : Authority}
    {x y : Rows} {r : Option ExecutionDispatchLease}
    (h : claimExecutionDispatchIntent c now a x = .ok (r, y)) :
    (r = none ∧ y = x) ∨
      (dispatchClaimable c now a x = true ∧
        r = some ⟨c.executionId, c.organizationId, c.workerIdentity, c.token,
          now + seconds c.leaseSeconds, x.dispatch.attemptCount + 1⟩ ∧
        y = x.dispatchClaimed c now) := by
  unfold claimExecutionDispatchIntent at h
  simp only [Checked.bind_ok, Checked.exists_unit] at h
  obtain ⟨-, h⟩ := h
  split at h
  · rename_i hc
    cases h
    exact Or.inr ⟨hc, rfl, rfl⟩
  · cases h
    exact Or.inl ⟨rfl, rfl⟩

/-- The arguments of `renew_execution_dispatch_lease`. -/
structure RenewLeaseArgs where
  executionId : String
  organizationId : String
  workerIdentity : String
  claimToken : String
  leaseSeconds : Nat
deriving DecidableEq, Repr

/-- The tests of `renew_execution_dispatch_lease`. -/
def leaseRenewable (c : RenewLeaseArgs) (revokedTokens : List String) (now : Instant)
    (a : Authority) (x : Rows) : Bool :=
  x.dispatch.claimedWith c.workerIdentity c.claimToken &&
    leaseHeld now x.dispatch.leaseExpiresAt && authorityCurrent revokedTokens now a x &&
    a.decision.workerIdentity = c.workerIdentity

/-- The arguments are all given. -/
def RenewLeaseArgs.complete (c : RenewLeaseArgs) : Bool :=
  !c.executionId.isEmpty && !c.organizationId.isEmpty && !c.workerIdentity.isEmpty &&
    !c.claimToken.isEmpty && c.leaseSeconds ≠ 0

/-- The renewed expiry, never past the authority's own. -/
def renewedUntil (c : RenewLeaseArgs) (now : Instant) (x : Rows) : Instant :=
  min (now + seconds c.leaseSeconds) (min x.request.expiresAt x.decision.expiresAt)

/-- The rows with a dispatch lease that runs to `expiresAt`. -/
def Rows.leasedUntil (x : Rows) (expiresAt : Instant) : Rows :=
  { x with dispatch := { x.dispatch with leaseExpiresAt := some expiresAt } }

/-- `renew_execution_dispatch_lease`. -/
def renewExecutionDispatchLease (c : RenewLeaseArgs) (revokedTokens : List String)
    (now : Instant) (a : Authority) (x : Rows) : Except DbError (Option Instant × Rows) :=
  if c.complete && leaseRenewable c revokedTokens now a x then
    .ok (some (renewedUntil c now x), x.leasedUntil (renewedUntil c now x))
  else .ok (none, x)

theorem renewExecutionDispatchLease_ok {c : RenewLeaseArgs} {revokedTokens : List String}
    {now : Instant} {a : Authority} {x y : Rows} {r : Option Instant}
    (h : renewExecutionDispatchLease c revokedTokens now a x = .ok (r, y)) :
    (r = none ∧ y = x) ∨
      (leaseRenewable c revokedTokens now a x = true ∧ r = some (renewedUntil c now x) ∧
        y = x.leasedUntil (renewedUntil c now x)) := by
  unfold renewExecutionDispatchLease at h
  split at h
  · rename_i hc
    cases h
    exact Or.inr ⟨(Bool.and_eq_true_iff.mp hc).2, rfl, rfl⟩
  · cases h
    exact Or.inl ⟨rfl, rfl⟩

/-! ### Settlements of run and dispatch -/

/-- The arguments of `acknowledge_execution_cancellation`. -/
structure AcknowledgeArgs where
  executionId : String
  organizationId : String
  workerIdentity : String
  claimToken : String
deriving DecidableEq, Repr

/-- The run as a settlement leaves it. -/
def RunRow.settled (r : RunRow) (state : RunState) (reasonCode : Option ReasonCode)
    (now : Instant) : RunRow :=
  { r with state := state, reasonCode := reasonCode, finishedAt := some now }

/-- The identities are all given. -/
def AcknowledgeArgs.complete (c : AcknowledgeArgs) : Bool :=
  !c.executionId.isEmpty && !c.organizationId.isEmpty && !c.workerIdentity.isEmpty &&
    !c.claimToken.isEmpty

/-- The `WHERE` of `acknowledge_execution_cancellation`. -/
def cancellationAcknowledgeable (c : AcknowledgeArgs) (a : Authority) (x : Rows) : Bool :=
  x.dispatch.claimedWith c.workerIdentity c.claimToken &&
    a.decision.workerIdentity = c.workerIdentity &&
    (x.request.state = .revoked || x.decision.revokedAt.isSome)

/-- The rows of an acknowledged cancellation. -/
def Rows.cancellationAcknowledged (x : Rows) (now : Instant) : Rows :=
  { x with
    dispatch := x.dispatch.settled .blocked now (some .executionCancelledAcknowledged)
    run := x.run.settled .cancelled (some .executionCancelledAcknowledged) now }

/-- `acknowledge_execution_cancellation`. -/
def acknowledgeExecutionCancellation (c : AcknowledgeArgs) (now : Instant) (a : Authority)
    (x : Rows) : Except DbError (Bool × Rows) :=
  if c.complete && cancellationAcknowledgeable c a x then do
    ensure (!x.run.state.isTerminal)
      (.runtimeError "cancellation acknowledgement could not terminalize its execution run")
    .ok (true, x.cancellationAcknowledged now)
  else .ok (false, x)

theorem acknowledgeExecutionCancellation_ok {c : AcknowledgeArgs} {now : Instant}
    {a : Authority} {x y : Rows} {r : Bool}
    (h : acknowledgeExecutionCancellation c now a x = .ok (r, y)) :
    (r = false ∧ y = x) ∨
      (cancellationAcknowledgeable c a x = true ∧ x.run.state.isTerminal = false ∧ r = true ∧
        y = x.cancellationAcknowledged now) := by
  unfold acknowledgeExecutionCancellation at h
  split at h
  · rename_i hc
    simp only [Checked.bind_ok, Checked.exists_unit, Checked.ensure_ok, Bool.not_eq_true',
      Except.ok.injEq, Prod.mk.injEq] at h
    obtain ⟨ht, hr, hy⟩ := h
    exact Or.inr ⟨(Bool.and_eq_true_iff.mp hc).2, ht, hr.symm, hy.symm⟩
  · cases h
    exact Or.inl ⟨rfl, rfl⟩

/-- The arguments of `reap_execution_dispatch`. -/
structure ReapArgs where
  executionId : String
  organizationId : String
  terminalState : RunState
  reasonCode : ReasonCode
deriving DecidableEq, Repr

/-- `expired_or_revoked` of `reap_execution_dispatch`. -/
def expiredOrRevoked (revokedTokens : List String) (now : Instant) (a : Authority) (x : Rows) :
    Bool :=
  x.request.state = .revoked || a.decision.approvalState ≠ .approved ||
    x.decision.revokedAt.isSome || x.request.expiresAt ≤ now || x.decision.expiresAt ≤ now ||
    a.sessionRevoked revokedTokens ||
    (x.dispatch.state = .claimed && x.dispatch.leaseExpiresAt.all (· ≤ now))

/-- What `reap_execution_dispatch` raises before it reads. -/
def ReapArgs.check (c : ReapArgs) : Except DbError Unit :=
  ensure (isSafeState c.terminalState &&
      isValidExecutionTerminalOutcome c.terminalState (some c.reasonCode))
    (.valueError "reaper requires a reason-coded safe terminal state")

theorem reap_check {c : ReapArgs} (h : c.check = .ok ()) :
    isSafeState c.terminalState = true ∧
      isValidExecutionTerminalOutcome c.terminalState (some c.reasonCode) = true :=
  Bool.and_eq_true_iff.mp (Checked.ensure_ok.mp h)

/-- The rows of a reaped execution. -/
def Rows.reaped (x : Rows) (c : ReapArgs) (now : Instant) : Rows :=
  { x with
    dispatch := x.dispatch.settled (safeDispatchState c.terminalState) now (some c.reasonCode)
    run := x.run.settled c.terminalState (some c.reasonCode) now }

/-- `reap_execution_dispatch`. -/
def reapExecutionDispatch (c : ReapArgs) (revokedTokens : List String) (now : Instant)
    (a : Authority) (x : Rows) : Except DbError (Bool × Rows) := do
  c.check
  if !expiredOrRevoked revokedTokens now a x || x.run.state.isTerminal then .ok (false, x)
  else do
    ensure (!x.dispatch.state.isTerminal)
      (.runtimeError "execution reaper could not atomically settle run and dispatch intent")
    .ok (true, x.reaped c now)

theorem reapExecutionDispatch_ok {c : ReapArgs} {revokedTokens : List String} {now : Instant}
    {a : Authority} {x y : Rows} {r : Bool}
    (h : reapExecutionDispatch c revokedTokens now a x = .ok (r, y)) :
    (r = false ∧ y = x) ∨
      (c.check = .ok () ∧ expiredOrRevoked revokedTokens now a x = true ∧
        x.run.state.isTerminal = false ∧ x.dispatch.state.isTerminal = false ∧ r = true ∧
        y = x.reaped c now) := by
  unfold reapExecutionDispatch at h
  simp only [Checked.bind_ok, Checked.exists_unit] at h
  obtain ⟨hc, h⟩ := h
  split at h
  · cases h
    exact Or.inl ⟨rfl, rfl⟩
  · rename_i he
    simp only [Bool.or_eq_true, Bool.not_eq_true', not_or, Bool.not_eq_false,
      Bool.not_eq_true] at he
    simp only [Checked.bind_ok, Checked.exists_unit, Checked.ensure_ok, Bool.not_eq_true',
      Except.ok.injEq, Prod.mk.injEq] at h
    obtain ⟨hd, hr, hy⟩ := h
    exact Or.inr ⟨hc, he.1, he.2, hd, hr.symm, hy.symm⟩

/-- The arguments of `settle_execution_dispatch_intent`. -/
structure SettleDispatchArgs where
  executionId : String
  organizationId : String
  workerIdentity : String
  claimToken : String
  success : Bool
  errorCode : Option ReasonCode
deriving DecidableEq, Repr

/-- Truth of an optional reason text. -/
def reasonGiven (c : Option ReasonCode) : Bool := c.any (· ≠ .other "")

/-- `None if success else (error_code or "EXECUTION_DISPATCH_FAILED")`. -/
def SettleDispatchArgs.message (c : SettleDispatchArgs) : Option ReasonCode :=
  if c.success then none
  else if reasonGiven c.errorCode then c.errorCode else some .executionDispatchFailed

/-- `"SUCCEEDED" if success else "FAILED"`. -/
def SettleDispatchArgs.runState (c : SettleDispatchArgs) : RunState :=
  if c.success then .succeeded else .failed

/-- `current` of `settle_execution_dispatch_intent`. -/
def dispatchSettleable (c : SettleDispatchArgs) (revokedTokens : List String) (now : Instant)
    (a : Authority) (x : Rows) : Bool :=
  x.dispatch.claimedWith c.workerIdentity c.claimToken &&
    leaseHeld now x.dispatch.leaseExpiresAt && !x.run.state.isTerminal &&
    authorityCurrent revokedTokens now a x && a.decision.workerIdentity = c.workerIdentity

/-- The identities are all given. -/
def SettleDispatchArgs.complete (c : SettleDispatchArgs) : Bool :=
  !c.executionId.isEmpty && !c.organizationId.isEmpty && !c.workerIdentity.isEmpty &&
    !c.claimToken.isEmpty

/-- What `settle_execution_dispatch_intent` raises before it reads. -/
def SettleDispatchArgs.check (c : SettleDispatchArgs) : Except DbError Unit :=
  if !c.complete then .ok ()
  else do
    ensure (!(c.success && reasonGiven c.errorCode))
      (.valueError "successful dispatch cannot carry an error code")
    ensure (isValidExecutionTerminalOutcome c.runState c.message)
      (.valueError "dispatch settlement reason is not a valid terminal outcome")

/-- The rows of a settled dispatch: a success leaves the reason the run already had. -/
def Rows.dispatchSettled (x : Rows) (c : SettleDispatchArgs) (now : Instant) : Rows :=
  { x with
    dispatch := x.dispatch.settled (if c.success then .completed else .failed) now c.message
    run := x.run.settled c.runState (c.message.or x.run.reasonCode) now }

/-- `settle_execution_dispatch_intent`. -/
def settleExecutionDispatchIntent (c : SettleDispatchArgs) (revokedTokens : List String)
    (now : Instant) (a : Authority) (x : Rows) : Except DbError (Bool × Rows) := do
  c.check
  if c.complete && dispatchSettleable c revokedTokens now a x then
    .ok (true, x.dispatchSettled c now)
  else .ok (false, x)

theorem settleExecutionDispatchIntent_ok {c : SettleDispatchArgs} {revokedTokens : List String}
    {now : Instant} {a : Authority} {x y : Rows} {r : Bool}
    (h : settleExecutionDispatchIntent c revokedTokens now a x = .ok (r, y)) :
    (r = false ∧ y = x) ∨
      (isValidExecutionTerminalOutcome c.runState c.message = true ∧
        dispatchSettleable c revokedTokens now a x = true ∧ r = true ∧
        y = x.dispatchSettled c now) := by
  unfold settleExecutionDispatchIntent at h
  simp only [Checked.bind_ok, Checked.exists_unit] at h
  obtain ⟨hc, h⟩ := h
  split at h
  · rename_i hs
    cases h
    obtain ⟨hg, hs⟩ := Bool.and_eq_true_iff.mp hs
    simp only [SettleDispatchArgs.check, hg, Bool.not_true, Bool.false_eq_true, if_false,
      Checked.bind_ok, Checked.exists_unit, Checked.ensure_ok] at hc
    exact Or.inr ⟨hc.2, hs, rfl, rfl⟩
  · cases h
    exact Or.inl ⟨rfl, rfl⟩

/-- The arguments of `transition_execution_run`. -/
structure TransitionRunArgs where
  executionId : String
  organizationId : String
  expectedState : RunState
  newState : RunState
  reasonCode : Option ReasonCode
  processId : Option Int
  workerIdentity : Option String
  dispatchClaimToken : Option String
deriving DecidableEq, Repr

/-- `dispatch_fence` of `transition_execution_run`. -/
def dispatchFence (c : TransitionRunArgs) (now : Instant) (a : Authority) (x : Rows) : Bool :=
  x.dispatch.state = .claimed && x.dispatch.claimedBy = c.workerIdentity &&
    x.dispatch.claimToken = c.dispatchClaimToken && leaseHeld now x.dispatch.leaseExpiresAt &&
    some a.decision.workerIdentity = c.workerIdentity

/-- `not reason_code.strip()`. -/
def ReasonCode.isBlank (c : ReasonCode) : Bool := Python.isBlank c.text

/-- `safe_abort_after_expiry` of `transition_execution_run`. -/
def safeAbortAfterExpiry (c : TransitionRunArgs) (revokedTokens : List String) (now : Instant)
    (a : Authority) (x : Rows) : Bool :=
  isSafeState c.newState &&
    c.reasonCode.any (!·.isBlank) && !authorityCurrent revokedTokens now a x

/-- The run as `transition_execution_run` writes it: reason, process and worker only where they
are given. -/
def RunRow.transitioned (r : RunRow) (c : TransitionRunArgs) (now : Instant) : RunRow :=
  { state := c.newState
    workerIdentity := c.workerIdentity.or r.workerIdentity
    processId := c.processId.or r.processId
    processGroupId := r.processGroupId
    reasonCode := c.reasonCode.or r.reasonCode
    startedAt := if c.newState = .running then r.startedAt.or (some now) else r.startedAt
    finishedAt := if c.newState.isTerminal then r.finishedAt.or (some now) else r.finishedAt }

/-- The rows of a terminal transition. -/
def Rows.runSettled (x : Rows) (c : TransitionRunArgs) (d : DispatchState) (now : Instant) : Rows :=
  { x with
    dispatch := x.dispatch.settled d now
      (if d = .completed then x.dispatch.lastError else c.reasonCode.or x.dispatch.lastError)
    run := x.run.transitioned c now }

/-- The rows of a transition that is not terminal. -/
def Rows.runMoved (x : Rows) (c : TransitionRunArgs) (now : Instant) : Rows :=
  { x with run := x.run.transitioned c now }

/-- `transition_execution_run`.  The updates repeat the authority test, so the branch for an
expired authority settles nothing. -/
def transitionExecutionRun (c : TransitionRunArgs) (revokedTokens : List String)
    (now : Instant) (a : Authority) (x : Rows) : Except DbError (Bool × Rows) :=
  let current := authorityCurrent revokedTokens now a x
  if c.newState ∉ executionRunTransitions c.expectedState then .ok (false, x)
  else if c.newState.isTerminal && !isValidExecutionTerminalOutcome c.newState c.reasonCode then
    .ok (false, x)
  else if !(dispatchFence c now a x &&
      (current || safeAbortAfterExpiry c revokedTokens now a x)) then .ok (false, x)
  else
    match terminalDispatchState c.newState with
    | some d =>
        if !(current && c.dispatchClaimToken.isSome) then .ok (false, x)
        else do
          ensure (decide (x.run.state = c.expectedState))
            (.runtimeError
              "execution run transition could not commit with its dispatch settlement")
          .ok (true, x.runSettled c d now)
    | none =>
        if current && x.run.state = c.expectedState then .ok (true, x.runMoved c now)
        else .ok (false, x)

theorem transitionExecutionRun_ok {c : TransitionRunArgs} {revokedTokens : List String}
    {now : Instant} {a : Authority} {x y : Rows} {r : Bool}
    (h : transitionExecutionRun c revokedTokens now a x = .ok (r, y)) :
    (r = false ∧ y = x) ∨
      (c.newState ∈ executionRunTransitions x.run.state ∧ dispatchFence c now a x = true ∧
        authorityCurrent revokedTokens now a x = true ∧ r = true ∧
        ((∃ d, terminalDispatchState c.newState = some d ∧
            isValidExecutionTerminalOutcome c.newState c.reasonCode = true ∧
            y = x.runSettled c d now) ∨
          (c.newState.isTerminal = false ∧ y = x.runMoved c now))) := by
  unfold transitionExecutionRun at h
  simp only at h
  split at h
  · cases h
    exact Or.inl ⟨rfl, rfl⟩
  rename_i he
  split at h
  · cases h
    exact Or.inl ⟨rfl, rfl⟩
  rename_i hv
  split at h
  · cases h
    exact Or.inl ⟨rfl, rfl⟩
  rename_i hf
  have hfence : dispatchFence c now a x = true := by
    by_contra hn
    simp [hn] at hf
  split at h
  · rename_i d hd
    split at h
    · cases h
      exact Or.inl ⟨rfl, rfl⟩
    · rename_i hcur
      simp only [Bool.not_eq_true', Bool.not_eq_false, Bool.and_eq_true] at hcur
      simp only [Checked.bind_ok, Checked.exists_unit, Checked.ensure_ok, decide_eq_true_eq,
        Except.ok.injEq, Prod.mk.injEq] at h
      obtain ⟨hs, hr, hy⟩ := h
      have ht : c.newState.isTerminal = true := by
        rw [← terminalDispatchState_isSome, hd]
        rfl
      refine Or.inr ⟨?_, hfence, hcur.1, hr.symm, Or.inl ⟨d, hd, ?_, hy.symm⟩⟩
      · rw [hs]
        exact not_not.mp he
      · simpa [ht] using hv
  · rename_i hd
    split at h
    · rename_i hcur
      simp only [Bool.and_eq_true, decide_eq_true_eq] at hcur
      cases h
      refine Or.inr ⟨?_, hfence, hcur.1, rfl, Or.inr ⟨?_, rfl⟩⟩
      · rw [hcur.2]
        exact not_not.mp he
      · rw [← terminalDispatchState_isSome, hd]
        rfl
    · cases h
      exact Or.inl ⟨rfl, rfl⟩

/-! ### Revocation -/

/-- A pending dispatch is blocked, and a run that was still `REQUESTED` cancelled with it. -/
def Rows.cancelBeforeDispatch (x : Rows) (now : Instant) : Rows :=
  if x.dispatch.state = .pending then
    { x with
      dispatch := { x.dispatch with
        state := .blocked
        completedAt := some now
        lastError := some .executionCancelledBeforeDispatch }
      run :=
        if x.run.state = .requested then
          x.run.settled .cancelled (some .executionCancelledBeforeDispatch) now
        else x.run }
  else x

/-- The arguments of `revoke_execution_decision`. -/
structure RevokeDecisionArgs where
  decisionId : String
  organizationId : String
  actor : String
deriving DecidableEq, Repr

/-- What `revoke_execution_decision` raises before it reads. -/
def RevokeDecisionArgs.check (c : RevokeDecisionArgs) : Except DbError Unit :=
  ensure (!c.organizationId.isEmpty && !c.actor.isEmpty)
    (.valueError "tenant scope and revoking actor are required")

/-- `UPDATE execution_requests SET state='REVOKED' WHERE state='AUTHORIZED'`. -/
def RequestRow.revoked (q : RequestRow) : RequestRow :=
  if q.state = .authorized then { q with state := .revoked } else q

/-- The decision revoked where it was not, and the request where it was authorized. -/
def Rows.revoked (x : Rows) (now : Instant) : Rows :=
  { x with
    decision := { x.decision with revokedAt := x.decision.revokedAt.or (some now) }
    request := x.request.revoked }

/-- `revoke_execution_decision`. -/
def revokeExecutionDecision (c : RevokeDecisionArgs) (now : Instant) (x : Rows) :
    Except DbError (Bool × Rows) := do
  c.check
  if x.decision.revokedAt.isSome then .ok (false, x)
  else .ok (true, (x.revoked now).cancelBeforeDispatch now)

theorem revokeExecutionDecision_ok {c : RevokeDecisionArgs} {now : Instant} {x y : Rows}
    {r : Bool} (h : revokeExecutionDecision c now x = .ok (r, y)) :
    (r = false ∧ y = x) ∨
      (c.check = .ok () ∧ x.decision.revokedAt.isSome = false ∧ r = true ∧
        y = (x.revoked now).cancelBeforeDispatch now) := by
  unfold revokeExecutionDecision at h
  simp only [Checked.bind_ok, Checked.exists_unit] at h
  obtain ⟨hc, h⟩ := h
  split at h
  · cases h
    exact Or.inl ⟨rfl, rfl⟩
  · rename_i hr
    cases h
    exact Or.inr ⟨hc, by simpa using hr, rfl, rfl⟩

/-- The arguments of `revoke_execution_request`. -/
structure RevokeRequestArgs where
  requestId : String
  organizationId : String
  actor : String
deriving DecidableEq, Repr

/-- The tenant and the actor are given. -/
def RevokeRequestArgs.complete (c : RevokeRequestArgs) : Bool :=
  !c.organizationId.isEmpty && !c.actor.isEmpty

/-- The request revoked whatever its state, and the decision where it was not. -/
def Rows.requestRevoked (x : Rows) (now : Instant) : Rows :=
  { x.revoked now with request := { x.request with state := .revoked } }

/-- `revoke_execution_request`, of a request that was approved. -/
def revokeExecutionRequest (c : RevokeRequestArgs) (now : Instant) (x : Rows) :
    Except DbError (Bool × Rows) :=
  if c.complete then .ok (true, (x.requestRevoked now).cancelBeforeDispatch now)
  else .ok (false, x)

theorem revokeExecutionRequest_ok {c : RevokeRequestArgs} {now : Instant} {x y : Rows}
    {r : Bool} (h : revokeExecutionRequest c now x = .ok (r, y)) :
    (r = false ∧ y = x) ∨
      (c.complete = true ∧ r = true ∧ y = (x.requestRevoked now).cancelBeforeDispatch now) := by
  unfold revokeExecutionRequest at h
  split at h
  · rename_i hc
    cases h
    exact Or.inr ⟨hc, rfl, rfl⟩
  · cases h
    exact Or.inl ⟨rfl, rfl⟩

end CyberAssess
