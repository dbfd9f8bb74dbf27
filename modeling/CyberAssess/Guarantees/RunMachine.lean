import CyberAssess.Database.Run

/-!
# Guarantees — the state machine of an execution run

`EXECUTION_RUN_TRANSITIONS` over every run of the database.

* `Effect.run_change`: what one call does to the run's state.  It stays, moves along an edge, or a
  call that fails closed ends it in a safe state.
* `Effect.valid_outcome`: the reason a call stores fits the state it stores.
* `run_machine_obeyed`: both, over runs in which a success is only written to a running execution
  without a stored reason (`succeedsInOrder`).
* `expired_request_times_out`: a reaped request goes from `REQUESTED` to `TIMED_OUT`, which is no
  edge.
-/

namespace CyberAssess

/-! ### What the calls are allowed -/

/-- The calls that end an execution whose authority, process or worker is gone. -/
def ExecutionCall.failsClosed : ExecutionCall → Bool
  | .abortStart _ | .reap _ | .settleRecovery _ _ | .settleConfirmed _ _ => true
  | .settleDispatch c => !c.success
  | _ => false

/-- One run before and after a step. -/
structure RunChange (ev : Event) (r r' : RunRow) : Prop where
  final : r.state.isTerminal = true → r'.state = r.state
  edge : r'.state = r.state ∨ r'.state ∈ executionRunTransitions r.state ∨
    (isSafeState r'.state = true ∧ ∃ c, ev.operation = .call c ∧ c.failsClosed = true)

/-- The stored outcome of a run. -/
def RunRow.OutcomeValid (r : RunRow) : Prop :=
  r.state.isTerminal = true → isValidExecutionTerminalOutcome r.state r.reasonCode = true

/-- A call that writes `SUCCEEDED` finds a running execution without a stored reason. -/
def ExecutionCall.succeedsInOrder (revokedTokens : List String) (now : Instant) (a : Authority)
    (x : Rows) : ExecutionCall → Bool
  | .settleDispatch c =>
      !(c.success && dispatchSettleable c revokedTokens now a x) ||
        (x.run.state = .running && x.run.reasonCode.isNone)
  | .transitionRun c =>
      !(c.newState = .succeeded && dispatchFence c now a x &&
        authorityCurrent revokedTokens now a x) || x.run.reasonCode.isNone
  | _ => true

/-- Every success of the operation is in order. -/
def succeedsInOrder (db : Db) (now : Instant) : Operation → Bool
  | .call c =>
      (db.addressed c).all fun e => c.succeedsInOrder db.revokedTokens now e.fixed e.data
  | _ => true

/-! ### One call -/

/-- A run that has not ended may be cancelled. -/
theorem cancelled_mem_transitions {s : RunState} (h : s.isTerminal = false) :
    .cancelled ∈ executionRunTransitions s := by
  cases s <;> first | decide | cases h

/-- A terminal state has no edge. -/
theorem nonterminal_of_edge {s t : RunState} (h : t ∈ executionRunTransitions s) :
    s.isTerminal = false := by
  by_contra hn
  rw [executionRunTransitions_terminal (Bool.eq_true_of_not_eq_false hn)] at h
  cases h

theorem starting_of_requested : .starting ∈ executionRunTransitions .requested := by decide

theorem running_of_starting : .running ∈ executionRunTransitions .starting := by decide

/-- A change along an edge. -/
theorem RunChange.ofEdge {ev : Event} {r r' : RunRow}
    (h : r'.state ∈ executionRunTransitions r.state) : RunChange ev r r' where
  final hr := by rw [nonterminal_of_edge h] at hr; cases hr
  edge := Or.inr (Or.inl h)

/-- A state that stays. -/
theorem RunChange.ofSame {ev : Event} {r r' : RunRow} (h : r'.state = r.state) :
    RunChange ev r r' := ⟨fun _ => h, Or.inl h⟩

/-- A run that fails closed. -/
theorem RunChange.ofClosed {ev : Event} {r r' : RunRow} {c : ExecutionCall}
    (hr : r.state.isTerminal = false) (hs : isSafeState r'.state = true)
    (ho : ev.operation = .call c) (hc : c.failsClosed = true) : RunChange ev r r' where
  final ht := by rw [hr] at ht; cases ht
  edge := Or.inr (Or.inr ⟨hs, c, ho, hc⟩)

/-- Cancelling before dispatch moves a requested run along its edge, or leaves the run. -/
theorem cancelBeforeDispatch_run (x : Rows) (now : Instant) :
    (x.run.state = .requested ∧
        (x.cancelBeforeDispatch now).run =
          x.run.settled .cancelled (some .executionCancelledBeforeDispatch) now) ∨
      (x.cancelBeforeDispatch now).run = x.run := by
  unfold Rows.cancelBeforeDispatch
  split
  · by_cases h : x.run.state = .requested
    · exact Or.inl ⟨h, by simp [h]⟩
    · exact Or.inr (by simp [h])
  · exact Or.inr rfl

variable {revokedTokens : List String} {now : Instant} {a : Authority} {x y : Rows}
  {c : ExecutionCall} {r : Response}

/-- What one call does to the run's state. -/
theorem Effect.run_change (h : Effect revokedTokens now a x c r y) {ev : Event}
    (ho : ev.operation = .call c) (hc : c.succeedsInOrder revokedTokens now a x = true) :
    RunChange ev x.run y.run := by
  cases h with
  | kept | decisionClaimed | authorityReleased | decisionReleased | dispatchClaimed
  | leaseRenewed => exact .ofSame rfl
  | beside _ h => exact .ofSame (by rw [h.run])
  | authorityClaimed h =>
      simp only [authorityClaimable, Bool.and_eq_true, Bool.or_eq_true, decide_eq_true_eq] at h
      rcases h.1.2 with hs | hs
      · exact .ofEdge (hs ▸ starting_of_requested)
      · exact .ofSame hs.symm
  | started h =>
      simp only [decisionStartable, Bool.and_eq_true, decide_eq_true_eq] at h
      exact .ofEdge (h.1.2 ▸ running_of_starting)
  | startAborted hk h =>
      simp only [startAbortable, Bool.and_eq_true, decide_eq_true_eq] at h
      exact .ofClosed (by rw [h.1.2]; rfl) (abortStart_check hk).1 ho rfl
  | @finished c hk h =>
      simp only [FinishArgs.complete, Bool.and_eq_true] at hk
      simp only [finishAllowed, Bool.and_eq_true, decide_eq_true_eq] at h
      have hs : x.run.state = .running := h.1.1.1.1.2
      have hf : isFinishState c.terminalState = true := hk.1.1.1.1.1
      refine .ofEdge ?_
      change c.terminalState ∈ executionRunTransitions x.run.state
      rw [hs]
      cases ht : c.terminalState <;> rw [ht] at hf <;> first | decide | cases hf
  | cancellationAcknowledged _ hr => exact .ofEdge (cancelled_mem_transitions hr)
  | reaped hk _ hr => exact .ofClosed hr (reap_check hk).1 ho rfl
  | @dispatchSettled c hv h =>
      cases hsucc : c.success with
      | true =>
          -- A success is in order here: the run is running.
          simp only [ExecutionCall.succeedsInOrder, hsucc, h, Bool.and_self, Bool.not_true,
            Bool.false_or, Bool.and_eq_true, decide_eq_true_eq] at hc
          refine .ofEdge ?_
          change c.runState ∈ executionRunTransitions x.run.state
          rw [hc.1, SettleDispatchArgs.runState, hsucc]
          decide
      | false =>
          simp only [dispatchSettleable, Bool.and_eq_true, Bool.not_eq_true'] at h
          refine .ofClosed h.1.1.2 ?_ ho (by simp [ExecutionCall.failsClosed, hsucc])
          change isSafeState c.runState = true
          rw [SettleDispatchArgs.runState, hsucc]
          rfl
  | runSettled he => exact .ofEdge he
  | runMoved he => exact .ofEdge he
  | decisionRevoked | requestRevoked =>
      rcases cancelBeforeDispatch_run _ now with ⟨hs, hy⟩ | hy <;> rw [hy]
      · exact .ofEdge (by
          change RunState.cancelled ∈ _
          rw [show x.run.state = .requested from hs]
          decide)
      · exact .ofSame rfl
  | recoverySettled t hk _ _ hr =>
      refine .ofClosed hr ?_ ho rfl
      change isSafeState (RunRow.settled x.run _ _ now).state = true
      rw [RunRow.settled, (settleRecovery_check hk).1]
      rfl
  | terminationSettled t hk hg =>
      cases hr : x.run.state.isTerminal with
      | true => exact .ofSame (by simp [Rows.settledAfterTermination, hr])
      | false =>
          refine .ofClosed hr ?_ ho rfl
          simpa [Rows.settledAfterTermination, hr, RunRow.settled] using (settleConfirmed_check hk hg).1

/-- The outcome of a run that has ended is not written again. -/
theorem Effect.outcome_kept (h : Effect revokedTokens now a x c r y)
    (hx : x.run.state.isTerminal = true) :
    y.run.state = x.run.state ∧ y.run.reasonCode = x.run.reasonCode := by
  have not_open (hr : x.run.state.isTerminal = false) : y.run.state = x.run.state ∧
      y.run.reasonCode = x.run.reasonCode := by
    rw [hx] at hr
    cases hr
  cases h with
  | kept | decisionClaimed | authorityReleased | decisionReleased | dispatchClaimed
  | leaseRenewed => exact ⟨rfl, rfl⟩
  | beside _ h =>
      rw [h.run]
      exact ⟨rfl, rfl⟩
  | authorityClaimed h =>
      simp only [authorityClaimable, Bool.and_eq_true, Bool.or_eq_true, decide_eq_true_eq] at h
      rcases h.1.2 with hs | hs <;> exact not_open (by rw [hs]; rfl)
  | started h =>
      simp only [decisionStartable, Bool.and_eq_true, decide_eq_true_eq] at h
      exact not_open (by rw [h.1.2]; rfl)
  | startAborted _ h =>
      simp only [startAbortable, Bool.and_eq_true, decide_eq_true_eq] at h
      exact not_open (by rw [h.1.2]; rfl)
  | finished _ h =>
      simp only [finishAllowed, Bool.and_eq_true, decide_eq_true_eq] at h
      exact not_open (by rw [h.1.1.1.1.2]; rfl)
  | cancellationAcknowledged _ hr | reaped _ _ hr | recoverySettled _ _ _ _ hr => exact not_open hr
  | dispatchSettled _ h =>
      simp only [dispatchSettleable, Bool.and_eq_true, Bool.not_eq_true'] at h
      exact not_open h.1.1.2
  | runSettled he | runMoved he => exact not_open (nonterminal_of_edge he)
  | decisionRevoked | requestRevoked =>
      rcases cancelBeforeDispatch_run _ now with ⟨hs, hy⟩ | hy <;> rw [hy]
      · rw [show x.run.state = .requested from hs] at hx
        cases hx
      · exact ⟨rfl, rfl⟩
  | terminationSettled => simp [Rows.settledAfterTermination, hx]

/-- An outcome that is written with its reason. -/
theorem RunRow.OutcomeValid.ofSettled {r : RunRow} {s : RunState} {reason : Option ReasonCode}
    (h : isValidExecutionTerminalOutcome s reason = true) : (r.settled s reason now).OutcomeValid :=
  fun _ => h

/-- A run whose state and reason stay. -/
theorem RunRow.OutcomeValid.ofSame {r r' : RunRow} (h : r.OutcomeValid) (hs : r'.state = r.state)
    (hc : r'.reasonCode = r.reasonCode) : r'.OutcomeValid := by
  unfold RunRow.OutcomeValid at *
  rw [hs, hc]
  exact h

/-- A run that has not ended stores no outcome. -/
theorem RunRow.OutcomeValid.ofOpen {r : RunRow} (h : r.state.isTerminal = false) : r.OutcomeValid :=
  fun ht => by rw [h] at ht; cases ht

/-- A reason that is given is the one that is kept by `COALESCE`; success is given none. -/
theorem coalesced_reason {s : RunState} {given stored : Option ReasonCode}
    (h : isValidExecutionTerminalOutcome s given = true) (hs : s = .succeeded → stored = none) :
    isValidExecutionTerminalOutcome s (given.or stored) = true := by
  by_cases e : s = .succeeded
  · rw [hs e, Option.or_none]
    exact h
  · obtain ⟨c, rfl⟩ := exists_reason_of_valid h e
    exact h

/-- The outcome a call stores is a valid one. -/
theorem Effect.valid_outcome (h : Effect revokedTokens now a x c r y)
    (hc : c.succeedsInOrder revokedTokens now a x = true) (hx : x.run.OutcomeValid) :
    y.run.OutcomeValid := by
  cases h with
  | kept | decisionClaimed | authorityReleased | decisionReleased | dispatchClaimed
  | leaseRenewed => exact hx
  | beside _ h => exact RunRow.OutcomeValid.ofSame hx (by rw [h.run]) (by rw [h.run])
  | authorityClaimed | started => exact .ofOpen rfl
  | startAborted hk => exact fun _ => (abortStart_check hk).2
  | finished hk =>
      simp only [FinishArgs.complete, Bool.and_eq_true] at hk
      exact fun _ => hk.2
  | cancellationAcknowledged => exact .ofSettled (by decide)
  | reaped hk => exact .ofSettled (reap_check hk).2
  | @dispatchSettled c hv h =>
      refine .ofSettled (coalesced_reason hv fun hs => ?_)
      have hsucc : c.success = true := by
        cases e : c.success
        · simp [SettleDispatchArgs.runState, e] at hs
        · rfl
      simp only [ExecutionCall.succeedsInOrder, hsucc, h, Bool.and_self, Bool.not_true,
        Bool.false_or, Bool.and_eq_true] at hc
      exact Option.isNone_iff_eq_none.mp hc.2
  | @runSettled c d he hf ha hd hv =>
      refine fun _ => coalesced_reason hv fun hs => ?_
      have hs : c.newState = .succeeded := hs
      simp only [ExecutionCall.succeedsInOrder, hs, hf, ha, decide_true, Bool.and_self,
        Bool.not_true, Bool.false_or] at hc
      exact Option.isNone_iff_eq_none.mp hc
  | runMoved _ _ _ ht => exact .ofOpen ht
  | decisionRevoked | requestRevoked =>
      rcases cancelBeforeDispatch_run _ now with ⟨-, hy⟩ | hy <;> rw [hy]
      · exact .ofSettled (by decide)
      · exact hx
  | recoverySettled t hk => exact .ofSettled (settleRecovery_check hk).2
  | terminationSettled t hk hg =>
      cases hr : x.run.state.isTerminal with
      | true =>
          exact RunRow.OutcomeValid.ofSame hx (by simp [Rows.settledAfterTermination, hr])
            (by simp [Rows.settledAfterTermination, hr])
      | false =>
          intro _
          simpa [Rows.settledAfterTermination, hr, RunRow.settled] using
            (settleConfirmed_check hk hg).2

/-! ### Runs -/

/-- The parent's transitions leave the run. -/
theorem parentMoved_run (x : Rows) (target : ScanAuthorizationState) (now : Instant) :
    (x.parentMoved target now).run = x.run := by
  cases target <;> rfl

/-- Where a success of the operation is in order, so is one of the call on its rows. -/
theorem succeedsInOrder_call {db : Db} {ev : Event} {e : Execution}
    (hok : succeedsInOrder db ev.now ev.operation = true) (ho : ev.operation = .call c)
    (he : db.addressed c = some e) :
    c.succeedsInOrder db.revokedTokens ev.now e.fixed e.data = true := by
  rw [ho] at hok
  simpa [succeedsInOrder, he] using hok

theorem RowStep.run_change {db : Db} {ev : Event} {e : Execution} (h : RowStep db ev e y)
    (hok : succeedsInOrder db ev.now ev.operation = true) : RunChange ev e.data.run y.run := by
  cases h with
  | untouched | sessionRevoked => exact .ofSame rfl
  | called ho hr he h => exact h.run_change ho (succeedsInOrder_call hok ho he)
  | parentMoved => exact .ofSame (by rw [parentMoved_run])

theorem RowStep.valid_outcome {db : Db} {ev : Event} {e : Execution} (h : RowStep db ev e y)
    (hok : succeedsInOrder db ev.now ev.operation = true) (he : e.data.run.OutcomeValid) :
    y.run.OutcomeValid := by
  cases h with
  | untouched | sessionRevoked => exact he
  | called ho hr ha h => exact h.valid_outcome (succeedsInOrder_call hok ho ha) he
  | parentMoved =>
      rw [parentMoved_run]
      exact he

/-- **The run's state machine, over every run.**  A state moves along an edge of
`EXECUTION_RUN_TRANSITIONS`, or a call that fails closed ends it in a safe state; a terminal state
stays, and its stored reason is one of its own. -/
theorem run_machine_obeyed {g : Gateway} {db : Db} (h : db.GuardedReachable g succeedsInOrder) :
    (∀ e ∈ db.executions, e.data.run.OutcomeValid) ∧
      ∀ ev db', Db.GuardedStep g succeedsInOrder db ev db' →
        ∀ e ∈ db.executions, ∀ e' ∈ db'.executions, e'.fixed = e.fixed →
          RunChange ev e.data.run e'.data.run := by
  constructor
  · refine reachable_executions (I := fun e => e.data.run.OutcomeValid) (g := g)
      (C := fun db ev => succeedsInOrder db ev.now ev.operation = true) ?_ ?_ h
    · intro d ev e y hok he hs
      exact hs.valid_outcome hok he
    · intro d ev e he
      obtain ⟨-, t, w, r, now, hd⟩ := he.fresh
      rw [hd]
      exact .ofOpen rfl
  · intro ev db' hs e he e' he' hf
    exact (step_rowStep hs.2 he he' hf).run_change hs.1

/-- The run of an execution that was started and finished. -/
def Sample.finished : List (Instant × Operation) :=
  Sample.claimed ++
    [(seconds 3, .call (.markStarted Sample.start)),
      (seconds 4, .call (.finish
        { executionId := "run-a", organizationId := "org-a", workerIdentity := "worker-a",
          dispatchClaimToken := "dispatch-token", terminalState := .succeeded, reasonCode := none,
          processId := some 4242, processGroupId := some "4242" }))]

/-- It succeeds without a reason. -/
theorem run_machine_obeyed_finished :
    (Sample.tenant.afterAll Sample.gateway Sample.finished).executions.rows.map
        (fun e => e.data.run.state) = [.succeeded] ∧
      ∀ e ∈ (Sample.tenant.afterAll Sample.gateway Sample.finished).executions,
        e.data.run.OutcomeValid :=
  ⟨by decide +kernel,
    (run_machine_obeyed (guardedReachable_afterAll Sample.initial (by decide +kernel))).1⟩

/-- An execution that was approved and never claimed is reaped when it has expired. -/
def Sample.reap : ReapArgs where
  executionId := "run-a"
  organizationId := "org-a"
  terminalState := .timedOut
  reasonCode := .executionAuthorityExpired

/-- The reaper ends it from `REQUESTED` in `TIMED_OUT`, which is no edge. -/
theorem expired_request_times_out :
    ¬ ∀ (g : Gateway) (db db' : Db) (ev : Event), db.Reachable g → db.step g ev db' →
      ∀ e ∈ db.executions, ∀ e' ∈ db'.executions, e'.fixed = e.fixed →
        e'.data.run.state = e.data.run.state ∨
          e'.data.run.state ∈ executionRunTransitions e.data.run.state := by
  intro h
  have step := h Sample.gateway _ _ _ (reachable_afterAll Sample.initial Sample.approved)
    (step_after _ (seconds 400) (.call (.reap Sample.reap)))
  obtain ⟨e, he, e', he', hf, hs⟩ :
      ∃ e ∈ (Sample.tenant.afterAll Sample.gateway Sample.approved).executions.rows,
        ∃ e' ∈ ((Sample.tenant.afterAll Sample.gateway Sample.approved).after Sample.gateway
          (seconds 400) (.call (.reap Sample.reap))).executions.rows, e'.fixed = e.fixed ∧
          ¬ (e'.data.run.state = e.data.run.state ∨
            e'.data.run.state ∈ executionRunTransitions e.data.run.state) := by
    decide +kernel
  exact hs (step e he e' he' hf)

end CyberAssess
