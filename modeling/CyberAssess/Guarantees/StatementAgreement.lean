import CyberAssess.Database.Statements

/-!
# Guarantees — the statements against the row functions

Each of the four calls, run statement by statement, answers what its row function computes, and
leaves the rows it computes.

* `Follows`: the same answer and rows, events exactly where something was written; after a raise the
  rows are as they were unless the call was torn between two statements.
* `transition_follows`, `abort_follows`, `finish_follows`, `settle_follows`.
-/

namespace CyberAssess

open Transaction
open Python (isBlank nonBlankUpTo)

/-- The same journal, or a longer one. -/
def Journal.Grew (j j' : Journal) : Prop := j' = j ∨ j.changes.length < j'.changes.length

/-- The statements `m` do what the row function computes. -/
def Follows (m : Transaction Journal DbError Bool) (torn : Bool) (j : Journal) :
    Except DbError (Bool × Rows) → Prop
  | .ok (r, y) => ∃ j', outcome m j = (.ok r, j') ∧ j'.rows = y ∧ j.Grew j' ∧ (r = false → j' = j)
  | .error e => ∃ j', outcome m j = (.error e, j') ∧ j'.changes = j.changes ∧ (j' = j ↔ torn = false)

variable {m : Transaction Journal DbError Bool} {torn : Bool} {j : Journal}

/-- What writes nothing. -/
theorem Follows.kept {r : Bool} (h : outcome m j = (.ok r, j)) : Follows m torn j (.ok (r, j.rows)) :=
  ⟨j, h, rfl, Or.inl rfl, fun _ => rfl⟩

/-- What raises before it writes. -/
theorem Follows.raised {e : DbError} (h : outcome m j = (.error e, j)) (ht : torn = false) :
    Follows m torn j (.error e) :=
  ⟨j, h, rfl, fun _ => ht, fun _ => rfl⟩

/-- What writes, and notes it. -/
theorem Follows.wrote {y : Rows} (h : ∃ j', outcome m j = (.ok true, j') ∧ j'.rows = y ∧
    j.changes.length < j'.changes.length) : Follows m torn j (.ok (true, y)) := by
  obtain ⟨j', out, rows, noted⟩ := h
  exact ⟨j', out, rows, Or.inr noted, nofun⟩

/-- What raises between two statements. -/
theorem Follows.apart {e : DbError} (h : ∃ j', outcome m j = (.error e, j') ∧
    j'.changes = j.changes ∧ j'.rows ≠ j.rows) : Follows m true j (.error e) := by
  obtain ⟨j', out, unnoted, wrote⟩ := h
  exact ⟨j', out, unnoted, fun same => absurd (congrArg Journal.rows same) wrote, nofun⟩

@[simp] theorem outcome_update (fence : Rows → Bool) (write : Rows → Rows) (j : Journal) :
    outcome (update fence write) j =
      if fence j.rows then (.ok 1, { j with rows := write j.rows }) else (.ok 0, j) := by
  unfold update
  rw [outcome_bind, outcome_get]
  by_cases h : fence j.rows = true
  · simp only [h, if_true]
    rfl
  · simp only [h, Bool.false_eq_true, if_false]
    rfl

theorem outcome_update_met {fence : Rows → Bool} {write : Rows → Rows} (met : fence j.rows = true) :
    outcome (update fence write) j = (.ok 1, { j with rows := write j.rows }) := by
  rw [outcome_update, if_pos met]

theorem outcome_update_unmet {fence : Rows → Bool} {write : Rows → Rows}
    (unmet : fence j.rows = false) : outcome (update fence write) j = (.ok 0, j) := by
  rw [outcome_update, if_neg (by rw [unmet]; nofun)]

/-- In a connection, whichever. -/
theorem Follows.within (active : Bool) {f : Except DbError (Bool × Rows)}
    (h : Follows m torn j f) : Follows (connection active m) (active && torn) j f := by
  cases f with
  | ok p =>
      obtain ⟨j', out, rest⟩ := h
      exact ⟨j', connection_returns out, rest⟩
  | error e =>
      obtain ⟨j', out, same⟩ := h
      cases active with
      | true => exact ⟨j', out, same⟩
      | false => exact ⟨j, connection_raises out, rfl, fun _ => rfl, fun _ => rfl⟩

/-- In a connection, what is never torn. -/
theorem Follows.whole {active : Bool} {f : Except DbError (Bool × Rows)} (h : Follows m false j f) :
    Follows (connection active m) false j f := by
  have within := h.within active
  rwa [Bool.and_false] at within

/-- What leaves the same. -/
theorem Follows.of_outcome {n : Transaction Journal DbError Bool} {f : Except DbError (Bool × Rows)}
    (same : outcome m j = outcome n j) (h : Follows n torn j f) : Follows m torn j f := by
  cases f with
  | ok p => rwa [Follows, same]
  | error e => rwa [Follows, same]

/-- `transition_process_ownership`. -/
theorem transition_follows (active : Bool) (c : TransitionOwnershipArgs) (reasonCode : String)
    (a : Authority) (j : Journal) :
    Follows (transitionProcessOwnershipIn active c reasonCode a) false j
      (transitionProcessOwnership c a j.rows) := by
  unfold transitionProcessOwnershipIn transitionProcessOwnership
  cases hc : c.check with
  | error e => exact .raised (by rw [outcome_bind, outcome_ofExcept]) rfl
  | ok u =>
      refine .of_outcome (outcome_bind_ok (outcome_ofExcept _ _)) ?_
      change Follows _ _ _ (if _ then _ else _)
      split_ifs with given fence ended moves
      · exact .kept rfl
      all_goals refine Follows.whole (.of_outcome (outcome_bind_ok (outcome_get j)) ?_)
      · rw [if_pos fence]
        exact .kept rfl
      · rw [if_neg fence, if_pos ended]
        exact .kept rfl
      · rw [if_neg fence, if_neg ended, if_neg (by rw [moves]; nofun)]
        simp only [Bool.and_eq_true, decide_eq_true_eq] at moves
        refine .wrote ?_
        rw [outcome_bind, outcome_update, if_pos (decide_eq_true moves.1)]
        exact ⟨_, rfl, rfl, Nat.lt_succ_self _⟩
      · rw [if_neg fence, if_neg ended, if_pos (by rw [Bool.eq_false_of_not_eq_true moves]; rfl)]
        exact .kept rfl

/-- `abort_execution_start`. -/
theorem abort_follows (active : Bool) (c : AbortStartArgs) (now : Instant) (a : Authority)
    (j : Journal) :
    Follows (abortExecutionStartIn active c now a) (active && abortTorn c j.rows) j
      (abortExecutionStart c now j.rows) := by
  unfold abortExecutionStartIn abortExecutionStart
  cases hc : c.check with
  | error e =>
      refine .raised (by rw [outcome_bind, outcome_ofExcept]) ?_
      rw [abortTorn, hc]
      exact Bool.and_false active
  | ok u =>
      refine .of_outcome (outcome_bind_ok (outcome_ofExcept _ _)) (Follows.within active ?_)
      refine .of_outcome (outcome_bind_ok (outcome_get j)) ?_
      change Follows _ _ _ (if _ then _ else _)
      split_ifs with guard
      · rw [if_pos guard]
        exact .kept rfl
      rw [if_neg guard]
      simp only [Bool.not_eq_true', Bool.not_eq_false] at guard
      have found := guard
      simp only [startAbortable, Bool.and_eq_true, decide_eq_true_eq] at found
      obtain ⟨⟨dispatch, starting⟩, decision⟩ := found
      cases consumed : j.rows.decision.consumedAt with
      | none =>
          have free : (j.rows.decision.claimedWith c.workerIdentity c.decisionClaimToken &&
              j.rows.decision.consumedAt.isNone) = true := by rw [decision, consumed]; rfl
          refine .wrote ?_
          rw [outcome_bind_ok (outcome_update_met (decide_eq_true starting)),
            outcome_bind_ok (outcome_update_met dispatch), outcome_bind_ok (outcome_update_met free)]
          exact ⟨_, rfl, rfl, Nat.lt_add_of_pos_right (by decide : 0 < 2)⟩
      | some t =>
          have held : (j.rows.decision.claimedWith c.workerIdentity c.decisionClaimToken &&
              j.rows.decision.consumedAt.isNone) = false := by rw [decision, consumed]; rfl
          have torn : abortTorn c j.rows = true := by
            rw [abortTorn, hc, guard, consumed]
            rfl
          rw [torn]
          refine .apart ?_
          rw [outcome_bind_ok (outcome_update_met (decide_eq_true starting)),
            outcome_bind_ok (outcome_update_met dispatch), outcome_bind_ok (outcome_update_unmet held)]
          refine ⟨_, rfl, rfl, fun same => ?_⟩
          have state : c.terminalState = j.rows.run.state := congrArg (·.run.state) same
          have ended := isTerminal_of_valid (abortStart_check hc).2
          rw [state, starting] at ended
          cases ended

/-- `finish_execution`. -/
theorem finish_follows (active : Bool) (c : FinishArgs) (revokedTokens : List String) (now : Instant)
    (a : Authority) (j : Journal) :
    Follows (finishExecutionIn active c revokedTokens now a)
      (active && finishTorn c revokedTokens now a j.rows) j
      (finishExecution c revokedTokens now a j.rows) := by
  unfold finishExecutionIn finishExecution
  split_ifs with whole ended allowed
  · exact .kept rfl
  all_goals
    refine Follows.within active (.of_outcome (outcome_bind_ok (outcome_get j)) ?_)
  · rw [if_pos ended]
    exact .kept rfl
  · rw [if_neg ended, if_pos allowed]
    exact .kept rfl
  · rw [if_neg ended, if_neg allowed]
    simp only [Bool.not_eq_true', Bool.not_eq_false, Bool.not_eq_true] at whole ended allowed
    have found := allowed
    simp only [finishAllowed, Bool.and_eq_true, decide_eq_true_eq] at found
    obtain ⟨⟨⟨⟨⟨⟨claimed, -⟩, running⟩, worker⟩, current⟩, -⟩, -⟩ := found
    have dispatch : (j.rows.dispatch.claimedWith c.workerIdentity c.dispatchClaimToken &&
        authorityCurrent revokedTokens now a j.rows) = true := by
      rw [claimed, current]
      rfl
    by_cases columns : j.rows.run.processId = c.processId ∧ j.rows.run.processGroupId = c.processGroupId
    · have runs : (j.rows.run.state = .running && j.rows.run.workerIdentity = some c.workerIdentity &&
          j.rows.run.processId = c.processId && j.rows.run.processGroupId = c.processGroupId &&
          authorityCurrent revokedTokens now a j.rows) = true := by
        simp only [running, worker, columns, current, decide_true, Bool.and_self]
      rw [decide_eq_true columns]
      refine .wrote ?_
      rw [outcome_bind_ok (outcome_update_met runs), outcome_bind_ok (outcome_update_met dispatch)]
      exact ⟨_, rfl, rfl, Nat.lt_add_of_pos_right (by decide : 0 < 2)⟩
    · have apart : (j.rows.run.processId = c.processId && j.rows.run.processGroupId = c.processGroupId) =
          false := by
        simpa using columns
      have rests : (j.rows.run.state = .running && j.rows.run.workerIdentity = some c.workerIdentity &&
          j.rows.run.processId = c.processId && j.rows.run.processGroupId = c.processGroupId &&
          authorityCurrent revokedTokens now a j.rows) = false := by
        rw [Bool.and_assoc _ (decide (j.rows.run.processId = c.processId)), apart, Bool.and_false,
          Bool.false_and]
      have torn : finishTorn c revokedTokens now a j.rows = true := by
        rw [finishTorn, whole, ended, allowed, apart]
        rfl
      rw [decide_eq_false columns, torn]
      refine .apart ?_
      rw [outcome_bind_ok (outcome_update_unmet rests), outcome_bind_ok (outcome_update_met dispatch)]
      refine ⟨_, rfl, rfl, fun same => ?_⟩
      have state : finishDispatchState c.terminalState = j.rows.dispatch.state :=
        congrArg (·.dispatch.state) same
      simp only [DispatchRow.claimedWith, Bool.and_eq_true, decide_eq_true_eq] at claimed
      rw [claimed.1.1] at state
      cases hs : c.terminalState <;> rw [hs] at state <;> cases state

/-! ### The confirmed termination -/

theorem outcome_insertAttempt (t : RecoveryAttempt) (j : Journal) :
    outcome (insertAttempt t) j =
      match j.rows.appendAttempt t with
      | .ok y => (.ok ⟨⟩, { j with rows := y })
      | .error e => (.error e, j) := by
  unfold insertAttempt
  rw [outcome_bind_ok (outcome_get j), outcome_bind, outcome_ofExcept]
  cases j.rows.appendAttempt t <;> rfl

theorem outcome_updateFenced {lost : String} {fence : Rows → Bool} {write : Rows → Rows}
    (met : fence j.rows = true) :
    outcome (updateFenced lost fence write) j = (.ok ⟨⟩, { j with rows := write j.rows }) := by
  unfold updateFenced
  rw [outcome_bind_ok (outcome_update_met met)]
  rfl

theorem outcome_settleDispatchUpdate (c : SettleConfirmedArgs) (now : Instant) (x : Rows)
    (same : j.rows.dispatch = x.dispatch) :
    outcome (settleDispatchUpdate c now x) j = (.ok ⟨⟩, { j with rows := { j.rows with
      dispatch := if x.dispatch.state.isTerminal then x.dispatch
        else x.dispatch.settled (safeDispatchState c.terminalState) now (some c.reasonCode) } }) := by
  unfold settleDispatchUpdate
  rw [← same]
  by_cases waiting : (j.rows.dispatch.state = .pending || j.rows.dispatch.state = .claimed) = true
  · have unended : j.rows.dispatch.state.isTerminal = false := by
      cases hs : j.rows.dispatch.state <;> rw [hs] at waiting <;> first | rfl | cases waiting
    rw [if_pos waiting, outcome_updateFenced waiting, unended]
    rfl
  · have ended : j.rows.dispatch.state.isTerminal = true := by
      cases hs : j.rows.dispatch.state <;> rw [hs] at waiting <;>
        first | rfl | exact absurd rfl waiting
    rw [if_neg waiting, ended]
    rfl

theorem outcome_settleRunUpdate (c : SettleConfirmedArgs) (now : Instant) (x : Rows)
    (same : j.rows.run = x.run) :
    outcome (settleRunUpdate c now x) j = (.ok ⟨⟩, { j with rows := { j.rows with
      run := if x.run.state.isTerminal then x.run
        else x.run.settled c.terminalState (some c.reasonCode) now } }) := by
  unfold settleRunUpdate
  rw [← same]
  cases ended : j.rows.run.state.isTerminal with
  | true => rfl
  | false =>
      have met : (!j.rows.run.state.isTerminal) = true := by rw [ended]; rfl
      rw [if_neg Bool.false_ne_true, outcome_updateFenced met]
      rfl

/-- What follows the updates of a first settlement. -/
theorem outcome_settleUpdates {c : SettleConfirmedArgs} (proof : ExecutionProof) {now : Instant}
    {a : Authority} {revokedTokens : List String} {jobEmpty : Bool}
    (h : confirmedSettleable c revokedTokens jobEmpty now a j.rows = true) :
    outcome (settleUpdates c proof now a j.rows) j =
      match (j.rows.settledAfterTermination c proof now).appendAttempt (c.attempt now a j.rows) with
      | .ok y => (.ok true, ⟨y,
          runTransitioned c.actor c.organizationId c.executionId (lifecycleCorrelation a)
            [("to", c.terminalState.text), ("reason_code", c.reasonCode.text)] ::
          ownershipTransitioned c.actor c.organizationId c.executionId (lifecycleCorrelation a)
            [("from", j.rows.ownership.ownershipState.text), ("to", "TERMINAL"),
              ("termination_status", c.terminationStatus.value),
              ("reason_code", c.reasonCode.text)] :: j.changes⟩)
      | .error e => (.error e, ⟨j.rows.settledAfterTermination c proof now, j.changes⟩) := by
  have requested : (j.rows.recovery.status = .requested || j.rows.recovery.status = .deferred) = true := by
    simp only [confirmedSettleable, Bool.and_eq_true] at h
    exact h.1.1.1.2
  unfold settleUpdates
  rw [outcome_bind_ok (outcome_update_met (decide_eq_true rfl))]
  change outcome (settleDispatchUpdate c now j.rows >>= _) _ = _
  rw [outcome_bind_ok (outcome_settleDispatchUpdate c now j.rows ?_),
    outcome_bind_ok (outcome_settleRunUpdate c now j.rows ?_), outcome_bind_ok (outcome_update_met ?_),
    outcome_bind_ok (outcome_updateFenced ?_)]
  · change outcome (insertAttempt (c.attempt now a j.rows) >>= _)
      ⟨j.rows.settledAfterTermination c proof now, j.changes⟩ = _
    rw [outcome_bind, outcome_insertAttempt]
    cases (j.rows.settledAfterTermination c proof now).appendAttempt (c.attempt now a j.rows) <;> rfl
  · exact requested
  · rfl
  · rfl
  · rfl

/-- `settle_execution_after_confirmed_termination`. -/
theorem settle_follows (active : Bool) (c : SettleConfirmedArgs) (revokedTokens : List String)
    (jobEmpty : Bool) (now : Instant) (a : Authority) (j : Journal) :
    Follows (settleExecutionAfterConfirmedTerminationIn active c revokedTokens jobEmpty now a)
      (active && settleTorn c revokedTokens jobEmpty now a j.rows) j
      (settleExecutionAfterConfirmedTermination c revokedTokens jobEmpty now a j.rows) := by
  unfold settleExecutionAfterConfirmedTerminationIn settleExecutionAfterConfirmedTermination
  cases hc : c.check with
  | error e =>
      refine .raised (by rw [outcome_bind, outcome_ofExcept]) ?_
      rw [settleTorn, hc]
      exact Bool.and_false active
  | ok u =>
      refine .of_outcome (outcome_bind_ok (outcome_ofExcept _ _)) ?_
      change Follows _ _ _ (if _ then _ else _)
      cases given : c.complete && c.identityFits with
      | false => exact .kept rfl
      | true =>
          rw [Bool.true_and]
          refine Follows.within active (.of_outcome (outcome_bind_ok (outcome_get j)) ?_)
          change Follows (if _ then _ else _) _ _ (if _ then _ else _)
          split_ifs with unbound terminal settleable
          · exact .kept rfl
          · exact .kept rfl
          · exact .kept rfl
          simp only [Bool.not_eq_true', Bool.not_eq_false] at unbound settleable
          have torn : settleTorn c revokedTokens jobEmpty now a j.rows =
              ((terminationProof c now a j.rows).fits &&
                j.rows.attempts.any (·.attemptId = c.attemptId)) := by
            rw [settleTorn, hc, Bool.and_assoc _ c.complete, given, unbound, settleable,
              decide_eq_true terminal]
            rfl
          rw [torn]
          change Follows (if _ then _ else _) _ _
            (Except.bind (Checked.ensure (terminationProof c now a j.rows).fits _) _)
          cases fits : (terminationProof c now a j.rows).fits with
          | false => exact .raised rfl rfl
          | true =>
              have out := outcome_settleUpdates (terminationProof c now a j.rows) settleable
              change Follows (settleUpdates c (terminationProof c now a j.rows) now a j.rows) _ _
                (Except.bind ((j.rows.settledAfterTermination c (terminationProof c now a j.rows)
                  now).appendAttempt (c.attempt now a j.rows)) _)
              cases taken : j.rows.attempts.any (·.attemptId = c.attemptId) with
              | true =>
                  have refused : (j.rows.settledAfterTermination c (terminationProof c now a j.rows)
                      now).appendAttempt (c.attempt now a j.rows) =
                        .error (.integrityError "execution_recovery_attempts.attempt_id") := if_pos taken
                  rw [refused] at out ⊢
                  refine Follows.apart ⟨_, out, rfl, fun same => terminal ?_⟩
                  exact (congrArg (·.ownership.ownershipState) same).symm
              | false =>
                  have added : (j.rows.settledAfterTermination c (terminationProof c now a j.rows)
                      now).appendAttempt (c.attempt now a j.rows) = .ok _ :=
                    if_neg (fun found => Bool.false_ne_true (taken.symm.trans found))
                  rw [added] at out ⊢
                  exact Follows.wrote ⟨_, out, rfl, Nat.lt_add_of_pos_right (by decide : 0 < 2)⟩

end CyberAssess
