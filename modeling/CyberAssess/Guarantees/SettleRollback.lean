import CyberAssess.Guarantees.SettlementRepeat
import CyberAssess.Guarantees.StatementAgreement
import CyberAssess.Service.SettleConnection

/-!
# Guarantees — what a rejected settlement leaves

`settle_execution` rejects by raising `_SettlementRejected` through its connection, so that a
connection of its own rolls the ownership part back.  Inside an active connection
`_connection_scope` yields that one and rolls nothing back.

* `Verdict`: a call did what it is for, returned `False`, or raised; `runVerdict` and `ownershipEnd`
  read it off the rows.
* `strands`: the ownership part is written and nothing accepts the run after it, or the first call
  that raises does so between two of its statements.
* `settle_rolls_back`: what does not answer `True` leaves the tables and their audit events, exactly
  where the call is not in an active connection, or does not strand.
-/

namespace CyberAssess

open Transaction (connection outcome closed outcome_bind outcome_bind_ok outcome_bind_error
  connection_returns connection_raises outcome_throw outcome_pure outcome_tryCatch)
open Python (isBlank nonBlankUpTo)

/-! ### How a call ends -/

/-- It did what it is for, it returned `False`, or it raised. -/
inductive Verdict where
  | granted
  | refused
  | raised
deriving DecidableEq, Repr

/-- How a row function ends. -/
def Verdict.of : Except DbError (Bool × Rows) → Verdict
  | .ok (true, _) => .granted
  | .ok (false, _) => .refused
  | .error _ => .raised

/-- `abort_execution_start`, by what it tests. -/
def abortVerdict (c : AbortStartArgs) (x : Rows) : Verdict :=
  if !c.check.isOk then .raised
  else if !startAbortable c x then .refused
  else if x.decision.consumedAt.isSome then .raised
  else .granted

/-- `finish_execution`, by what it tests. -/
def finishVerdict (c : FinishArgs) (revokedTokens : List String) (now : Instant) (a : Authority)
    (x : Rows) : Verdict :=
  if !c.complete then .refused
  else if x.run.state.isTerminal then if finishReplays c x then .granted else .refused
  else if !finishAllowed c revokedTokens now a x then .refused
  else if x.run.processId = c.processId ∧ x.run.processGroupId = c.processGroupId then .granted
  else .raised

/-- `settle_execution_after_confirmed_termination` accepts. -/
def settleAccepted (c : SettleConfirmedArgs) (revokedTokens : List String) (jobEmpty : Bool)
    (now : Instant) (a : Authority) (x : Rows) : Bool :=
  c.check.isOk && (c.complete && c.identityFits && settlementBinding c a x) &&
    if x.ownership.ownershipState = .terminal then
      (!c.terminationStatus.isProcess || settlementAttested c jobEmpty now a x) &&
        settlementReplays c a x
    else
      confirmedSettleable c revokedTokens jobEmpty now a x &&
        ((terminationProof c now a x).fits && !x.attempts.any (·.attemptId = c.attemptId))

/-- `transition_process_ownership` writes its record. -/
def transitionMoves (t : TransitionOwnershipArgs) (a : Authority) (x : Rows) : Bool :=
  (t.workerIdentity.any (nonBlankUpTo 256) && t.record.workerGeneration.any (nonBlankUpTo 256) &&
      !isBlank t.record.correlationId) &&
    (ownershipFence t a x && ownershipAuthorized t a x && !isBlank a.ownershipCorrelationId &&
      ownershipCompatible t.record x.ownership) &&
    x.ownership.ownershipState ≠ .terminal &&
    (x.ownership.ownershipState = t.expectedState &&
      a.ownershipCorrelationId = t.record.correlationId)

theorem abort_verdict (c : AbortStartArgs) (now : Instant) (x : Rows) :
    Verdict.of (abortExecutionStart c now x) = abortVerdict c x := by
  unfold abortExecutionStart abortVerdict
  cases c.check with
  | error e => rfl
  | ok u =>
      change Verdict.of (if _ then _ else _) = if (!startAbortable c x) = true then _ else _
      cases startAbortable c x with
      | false => rfl
      | true => cases x.decision.consumedAt <;> rfl

theorem finish_verdict (c : FinishArgs) (revokedTokens : List String) (now : Instant) (a : Authority)
    (x : Rows) : Verdict.of (finishExecution c revokedTokens now a x) =
      finishVerdict c revokedTokens now a x := by
  unfold finishExecution finishVerdict
  split_ifs with whole ended replays allowed columns
  · rfl
  · rw [replays]
    rfl
  · rw [Bool.eq_false_of_not_eq_true replays]
    rfl
  · rfl
  · rw [decide_eq_true columns]
    rfl
  · rw [decide_eq_false columns]
    rfl

theorem settle_verdict (c : SettleConfirmedArgs) (revokedTokens : List String) (jobEmpty : Bool)
    (now : Instant) (a : Authority) (x : Rows) :
    Verdict.of (settleExecutionAfterConfirmedTermination c revokedTokens jobEmpty now a x) = .granted ↔
      settleAccepted c revokedTokens jobEmpty now a x = true := by
  unfold settleExecutionAfterConfirmedTermination settleAccepted
  cases c.check with
  | error e => exact ⟨nofun, nofun⟩
  | ok u =>
      change Verdict.of (if _ then _ else _) = _ ↔ (true && _ && _) = true
      rw [Bool.true_and]
      cases given : c.complete && c.identityFits && settlementBinding c a x with
      | false => exact ⟨nofun, nofun⟩
      | true =>
          rw [Bool.true_and]
          by_cases terminal : x.ownership.ownershipState = .terminal
          · rw [if_pos terminal, if_pos terminal]
            cases (!c.terminationStatus.isProcess || settlementAttested c jobEmpty now a x) &&
              settlementReplays c a x
            · exact ⟨nofun, nofun⟩
            · exact ⟨fun _ => rfl, fun _ => rfl⟩
          rw [if_neg terminal, if_neg terminal]
          cases confirmedSettleable c revokedTokens jobEmpty now a x with
          | false => exact ⟨nofun, nofun⟩
          | true =>
              rw [Bool.true_and]
              change Verdict.of (Except.bind (Checked.ensure (terminationProof c now a x).fits _) _) = _
                ↔ _
              cases (terminationProof c now a x).fits with
              | false => exact ⟨nofun, nofun⟩
              | true =>
                  rw [Bool.true_and]
                  change Verdict.of (Except.bind (if (x.attempts.any (·.attemptId = c.attemptId)) = true
                    then _ else _) _) = _ ↔ _
                  cases x.attempts.any (·.attemptId = c.attemptId) with
                  | false => exact ⟨fun _ => rfl, fun _ => rfl⟩
                  | true => exact ⟨nofun, nofun⟩

/-- A settlement that is torn raises. -/
theorem settleTorn_raises {c : SettleConfirmedArgs} {revokedTokens : List String} {jobEmpty : Bool}
    {now : Instant} {a : Authority} {x : Rows}
    (h : settleTorn c revokedTokens jobEmpty now a x = true) :
    Verdict.of (settleExecutionAfterConfirmedTermination c revokedTokens jobEmpty now a x) = .raised := by
  simp only [settleTorn, Bool.and_eq_true, decide_eq_true_eq] at h
  obtain ⟨⟨⟨⟨⟨⟨⟨checked, complete⟩, identity⟩, bound⟩, unended⟩, settleable⟩, fits⟩, taken⟩ := h
  unfold settleExecutionAfterConfirmedTermination
  cases hc : c.check with
  | error e =>
      rw [hc] at checked
      cases checked
  | ok u =>
      have refused : (x.settledAfterTermination c (terminationProof c now a x) now).appendAttempt
          (c.attempt now a x) = .error (.integrityError "execution_recovery_attempts.attempt_id") :=
        if_pos taken
      rw [complete, identity, bound, if_neg unended, settleable]
      change Verdict.of (Except.bind (Checked.ensure (terminationProof c now a x).fits _) fun _ =>
        Except.bind (Rows.appendAttempt _ _) _) = _
      rw [fits, refused]
      rfl

/-- A transition that is no replay writes its record or refuses. -/
theorem transition_moves {t : TransitionOwnershipArgs} {a : Authority} {x : Rows}
    (checked : t.check = .ok ())
    (fresh : x.ownership.ownershipState = .terminal → ownershipReplays t.record a x.ownership = false) :
    transitionProcessOwnership t a x =
      .ok (if transitionMoves t a x then
          (true, { x with ownership := x.ownership.recorded t.record })
        else (false, x)) := by
  unfold transitionProcessOwnership transitionMoves
  rw [checked]
  change (if _ then _ else _) = _
  cases (t.workerIdentity.any (nonBlankUpTo 256) && t.record.workerGeneration.any (nonBlankUpTo 256) &&
      !isBlank t.record.correlationId) with
  | false => rfl
  | true =>
      cases (ownershipFence t a x && ownershipAuthorized t a x && !isBlank a.ownershipCorrelationId &&
          ownershipCompatible t.record x.ownership) with
      | false => rfl
      | true =>
          by_cases terminal : x.ownership.ownershipState = .terminal
          · rw [fresh terminal]
            simp [terminal]
          · simp only [Bool.not_true, Bool.false_eq_true, if_false, terminal, Bool.and_self, ne_eq,
              not_false_eq_true, decide_true, Bool.true_and]
            cases (decide (x.ownership.ownershipState = t.expectedState) &&
              decide (a.ownershipCorrelationId = t.record.correlationId)) <;> rfl

/-! ### How the parts end, on the tables -/

/-- How the ownership part ends. -/
inductive OwnershipEnd where
  | wrote (db : Db)
  | repeated
  | refused
  | raised

section Ends

variable (k : ExecutionCapability) (c : SettleArgs) (jobEmpty : Bool) (attemptId : String)
  (now : Instant) (db : Db)

/-- The ownership part, up to its transition. -/
def ownershipStep : RecordStep :=
  if c.identity.processId.isNone then
    noProcessStep k
      ⟨c.reasonCode, c.reasonCode, some c.terminalState,
        some (expectedTerminalDispatch c.terminalState)⟩ now db
  else terminalStep k ⟨c.terminalState, c.reasonCode, c.identity, c.status⟩ jobEmpty now db

/-- The ownership part: `record_no_process` catches the `ValueError` of its transition. -/
def ownershipEnd : OwnershipEnd :=
  match ownershipStep k c jobEmpty now db with
  | .answered b => if b then .repeated else .refused
  | .moves t =>
      if !t.check.isOk then if c.identity.processId.isNone then .refused else .raised
      else
        match db.addressed (.transitionOwnership t) with
        | none => .refused
        | some e =>
            if transitionMoves t e.fixed e.data then
              .wrote (db.setRows e { e.data with ownership := e.data.ownership.recorded t.record })
            else .refused

/-- How the run part ends. -/
def runVerdict : Verdict :=
  if c.identity.processId.isNone then
    match db.addressed (.abortStart (c.abort k)) with
    | none => if (c.abort k).check.isOk then .refused else .raised
    | some e => abortVerdict (c.abort k) e.data
  else
    match db.addressed (.finish (c.finish k)) with
    | none => .refused
    | some e => finishVerdict (c.finish k) db.revokedTokens now e.fixed e.data

/-- The run part raises between two statements. -/
def runTorn : Bool :=
  if c.identity.processId.isNone then
    (db.addressed (.abortStart (c.abort k))).any fun e => abortTorn (c.abort k) e.data
  else
    (db.addressed (.finish (c.finish k))).any fun e =>
      finishTorn (c.finish k) db.revokedTokens now e.fixed e.data

/-- A test of the rows the fallback would settle. -/
def fallbackFinds (test : SettleConfirmedArgs → Authority → Rows → Bool) : Bool :=
  (revokedSettlement k c attemptId db).any fun s =>
    (db.addressed (.settleConfirmed s jobEmpty)).any fun e => test s e.fixed e.data

/-- The fallback accepts. -/
def fallbackAccepted : Bool :=
  fallbackFinds k c jobEmpty attemptId db fun s => settleAccepted s db.revokedTokens jobEmpty now

/-- The fallback raises between two statements. -/
def fallbackTorn : Bool :=
  fallbackFinds k c jobEmpty attemptId db fun s => settleTorn s db.revokedTokens jobEmpty now

/-- Something is written, and `True` is not answered. -/
def strands : Bool :=
  match ownershipEnd k c jobEmpty now db with
  | .wrote d =>
      match runVerdict k c now d with
      | .granted => false
      | .refused => !fallbackAccepted k c jobEmpty attemptId now d
      | .raised => true
  | .repeated =>
      match runVerdict k c now db with
      | .granted => false
      | .refused => fallbackTorn k c jobEmpty attemptId now db
      | .raised => runTorn k c now db
  | .refused => fallbackTorn k c jobEmpty attemptId now db
  | .raised => false

end Ends

/-! ### The calls, in a connection -/

variable {l : Ledger} {active torn : Bool}

/-- Rows that are written are the same exactly where they are. -/
theorem Ledger.same_iff {e : Execution} (he : e ∈ l.db.executions) (j : Journal) :
    (⟨l.db.setRows e j.rows, j.changes⟩ : Ledger) = l ↔ j = ⟨e.data, l.changes⟩ := by
  constructor
  · intro same
    have db : l.db.setRows e j.rows = l.db := congrArg Ledger.db same
    have changes : j.changes = l.changes := congrArg Ledger.changes same
    have there : e ∈ (l.db.setRows e j.rows).executions := by rwa [db]
    have rows : e.data = j.rows := (Db.mem_setRows_self he).mp there
    rw [rows, ← changes]
  · rintro rfl
    rw [Db.setRows_same he]

theorem onExecution_found {call : ExecutionCall} {body : Authority → Transaction Journal DbError Bool}
    {e : Execution} {r : Except DbError Bool} {j : Journal} (found : l.db.addressed call = some e)
    (h : outcome (body e.fixed) ⟨e.data, l.changes⟩ = (r, j)) :
    outcome (onExecution call body) l = (r, ⟨l.db.setRows e j.rows, j.changes⟩) := by
  change (match l.db.addressed call with | none => _ | some e => _) = _
  rw [found]
  change ((outcome _ _).1, Ledger.mk _ _) = _
  rw [h]

theorem onExecution_missing {call : ExecutionCall} (body : Authority → Transaction Journal DbError Bool)
    (missing : l.db.addressed call = none) :
    outcome (onExecution call body) l = (call.missing.map Response.granted, l) := by
  change (match l.db.addressed call with | none => _ | some e => _) = _
  rw [missing]

/-- A computation ends as its verdict says; after a raise the ledger is kept unless it is torn. -/
def Answered (m : Transaction Ledger DbError Bool) (l : Ledger) (torn : Bool) : Verdict → Prop
  | .granted => ∃ l', outcome m l = (.ok true, l')
  | .refused => outcome m l = (.ok false, l)
  | .raised => ∃ e l', outcome m l = (.error e, l') ∧ l'.changes = l.changes ∧
      (l' = l ↔ torn = false)

/-- A call on its rows answers as its row function. -/
theorem onExecution_answered {call : ExecutionCall} {body : Authority → Transaction Journal DbError Bool}
    {e : Execution} {f : Except DbError (Bool × Rows)} (found : l.db.addressed call = some e)
    (h : Follows (body e.fixed) torn ⟨e.data, l.changes⟩ f) :
    Answered (onExecution call body) l torn (Verdict.of f) := by
  have there := (Db.addressed_eq_some.mp found).1
  match f, h with
  | .ok (true, _), ⟨j, out, _⟩ => exact ⟨_, onExecution_found found out⟩
  | .ok (false, _), ⟨j, out, _, _, kept⟩ =>
      have same := (Ledger.same_iff there j).mpr (kept rfl)
      exact (onExecution_found found out).trans (by rw [same])
  | .error e', ⟨j, out, changes, same⟩ =>
      exact ⟨e', _, onExecution_found found out, changes, (Ledger.same_iff there j).trans same⟩

theorem Answered.of_outcome {m n : Transaction Ledger DbError Bool} {v : Verdict}
    (same : outcome m l = outcome n l) (h : Answered n l torn v) : Answered m l torn v := by
  cases v <;> rwa [Answered, same]

theorem outcome_runPart (active : Bool) (k : ExecutionCapability) (c : SettleArgs) (now : Instant)
    (l : Ledger) : outcome (runPartIn active k c now) l =
      if c.identity.processId.isNone then
        outcome (onExecution (.abortStart (c.abort k))
          (abortExecutionStartIn active (c.abort k) now)) l
      else
        outcome (onExecution (.finish (c.finish k))
          (finishExecutionIn active (c.finish k) l.db.revokedTokens now)) l := rfl

/-- The run part. -/
theorem runPart_answered (active : Bool) (k : ExecutionCapability) (c : SettleArgs) (now : Instant)
    (l : Ledger) : Answered (runPartIn active k c now) l (active && runTorn k c now l.db)
      (runVerdict k c now l.db) := by
  unfold runTorn runVerdict
  cases absent : c.identity.processId.isNone with
  | true =>
      have run := outcome_runPart active k c now l
      rw [if_pos absent] at run
      refine .of_outcome run ?_
      cases found : l.db.addressed (.abortStart (c.abort k)) with
      | none =>
          have missing := onExecution_missing (abortExecutionStartIn active (c.abort k) now) found
          simp only [ExecutionCall.missing] at missing
          cases checked : (c.abort k).check with
          | ok u =>
              rw [checked] at missing
              exact missing
          | error e =>
              rw [checked] at missing
              exact ⟨e, l, missing, rfl, fun _ => Bool.and_false active, fun _ => rfl⟩
      | some e =>
          have answered := onExecution_answered found
            (abort_follows active (c.abort k) now e.fixed ⟨e.data, l.changes⟩)
          rwa [abort_verdict] at answered
  | false =>
      have run := outcome_runPart active k c now l
      rw [if_neg (by rw [absent]; rintro ⟨⟩)] at run
      refine .of_outcome run ?_
      cases found : l.db.addressed (.finish (c.finish k)) with
      | none => exact onExecution_missing _ found
      | some e =>
          have answered := onExecution_answered found
            (finish_follows active (c.finish k) l.db.revokedTokens now e.fixed ⟨e.data, l.changes⟩)
          rwa [finish_verdict] at answered

/-! ### The ownership part -/

/-- The `ValueError` of a transition is all it raises before it reads. -/
theorem transition_check_valueError {t : TransitionOwnershipArgs} {e : DbError}
    (h : t.check = .error e) : ∃ text, e = .valueError text := by
  unfold TransitionOwnershipArgs.check Checked.ensure at h
  split_ifs at h <;> cases h <;> exact ⟨_, rfl⟩

/-- `record_no_process` asks for `NO_EXTERNAL_PROCESS`. -/
theorem noProcessStep_moves {k : ExecutionCapability} {c : NoProcessArgs} {now : Instant} {db : Db}
    {t : TransitionOwnershipArgs} (h : noProcessStep k c now db = .moves t) :
    t.expectedState = .unknown ∧ t.record.ownershipState = .noExternalProcess := by
  unfold noProcessStep at h
  split at h
  · split at h
    · cases h
    split at h
    · cases h
    split at h
    · simp only at h
      split at h
      · cases h
      · obtain rfl := RecordStep.moves.inj h
        exact ⟨rfl, rfl⟩
    · cases h
  · cases h

/-- The first termination asks for `TERMINAL`, of the row that was read. -/
theorem firstTerminationStep_moves {k : ExecutionCapability} {executionId : String} {c : TerminalArgs}
    {jobEmpty : Bool} {now : Instant} {db : Db} {e : Execution} {t : TransitionOwnershipArgs}
    (h : firstTerminationStep k executionId c jobEmpty now db e = .moves t) :
    t.executionId = executionId ∧ t.organizationId = k.organizationId ∧
      t.expectedState = e.data.ownership.ownershipState ∧ t.record.ownershipState = .terminal := by
  unfold firstTerminationStep at h
  simp only at h
  split at h
  · cases h
  by_cases identity : (if e.data.ownership.containerType = .windowsJob then
      terminalWindowsGiven e.data.ownership e.fixed k.workerIdentity jobEmpty now c.identity
    else terminalPosixIdentity e.data.ownership &&
      terminalPosixGiven e.data.ownership c.identity) = true
  · simp only [identity, Bool.not_true, Bool.false_eq_true, if_false] at h
    split at h
    · cases h
    split at h
    · split at h
      · cases h
      · obtain rfl := RecordStep.moves.inj h
        exact ⟨rfl, rfl, rfl, rfl⟩
    · cases h
  · simp only [identity, Bool.not_false, if_true] at h
    cases h

/-- `record_terminal` asks for a transition of a row that governs a process. -/
theorem terminalStep_moves {k : ExecutionCapability} {c : TerminalArgs} {jobEmpty : Bool}
    {now : Instant} {db : Db} {t : TransitionOwnershipArgs}
    (h : terminalStep k c jobEmpty now db = .moves t) :
    t.expectedState = .externalProcessGoverned ∧ t.record.ownershipState = .terminal ∧
      ∃ e, db.addressed (.transitionOwnership t) = some e ∧
        e.data.ownership.ownershipState = .externalProcessGoverned := by
  unfold terminalStep at h
  split at h
  · cases h
  split at h
  · cases h
  split at h
  · cases h
  rename_i e found
  split at h
  · cases h
  · rename_i governed
    obtain ⟨executionId, organizationId, expected, requested⟩ := firstTerminationStep_moves h
    refine ⟨expected.trans governed, requested, e, ?_, governed⟩
    rw [← executionId, ← organizationId] at found
    exact found
  · cases h

/-- A transition to another state, of a row that is no replay of it. -/
structure TransitionOwnershipArgs.Fresh (t : TransitionOwnershipArgs) (db : Db) : Prop where
  distinct : t.expectedState ≠ t.record.ownershipState
  unreplayed : ∀ e, db.addressed (.transitionOwnership t) = some e →
    e.data.ownership.ownershipState = .terminal →
    ownershipReplays t.record e.fixed e.data.ownership = false

/-- So is what the ownership part asks for. -/
theorem ownershipStep_fresh {k : ExecutionCapability} {c : SettleArgs} {jobEmpty : Bool}
    {now : Instant} {db : Db} {t : TransitionOwnershipArgs}
    (h : ownershipStep k c jobEmpty now db = .moves t) : t.Fresh db := by
  unfold ownershipStep at h
  split_ifs at h
  · obtain ⟨expected, requested⟩ := noProcessStep_moves h
    refine ⟨by rw [expected, requested]; rintro ⟨⟩, fun e _ _ => ?_⟩
    rw [ownershipReplays, requested]
    rfl
  · obtain ⟨expected, requested, e', found', governed⟩ := terminalStep_moves h
    refine ⟨by rw [expected, requested]; rintro ⟨⟩, fun e found terminal => ?_⟩
    obtain rfl : e = e' := Option.some.inj (found.symm.trans found')
    cases terminal.symm.trans governed

/-- The transition of a settlement: refused, raised before it reads, or written. -/
theorem transition_ends (active : Bool) (reasonCode : Option ReasonCode) {t : TransitionOwnershipArgs}
    (fresh : t.Fresh l.db) :
    (t.check.isOk = false ∧
      ∃ text, outcome (transitionIn active reasonCode t) l = (.error (.valueError text), l)) ∨
    (t.check.isOk = true ∧
      match l.db.addressed (.transitionOwnership t) with
      | none => outcome (transitionIn active reasonCode t) l = (.ok false, l)
      | some e =>
          if transitionMoves t e.fixed e.data then
            ∃ l', outcome (transitionIn active reasonCode t) l = (.ok true, l') ∧
              l'.db = l.db.setRows e { e.data with ownership := e.data.ownership.recorded t.record } ∧
              l.changes.length < l'.changes.length
          else outcome (transitionIn active reasonCode t) l = (.ok false, l)) := by
  unfold transitionIn
  cases checked : t.check with
  | error error =>
      obtain ⟨text, rfl⟩ := transition_check_valueError checked
      refine Or.inl ⟨rfl, text, ?_⟩
      cases found : l.db.addressed (.transitionOwnership t) with
      | none =>
          rw [onExecution_missing _ found, ExecutionCall.missing, checked]
          rfl
      | some e =>
          obtain ⟨j, out, -, same⟩ : Follows _ _ _ (.error (.valueError text)) := by
            have follows := transition_follows active t ((reasonCode.map (·.text)).getD "null") e.fixed
              ⟨e.data, l.changes⟩
            have raised : transitionProcessOwnership t e.fixed e.data = .error (.valueError text) := by
              rw [transitionProcessOwnership, checked]
              rfl
            rwa [raised] at follows
          rw [onExecution_found found out, same.mpr rfl, Db.setRows_same (Db.addressed_eq_some.mp found).1]
  | ok u =>
      refine Or.inr ⟨rfl, ?_⟩
      cases found : l.db.addressed (.transitionOwnership t) with
      | none =>
          rw [onExecution_missing _ found, ExecutionCall.missing, checked]
          rfl
      | some e =>
          have there := (Db.addressed_eq_some.mp found).1
          have follows := transition_follows active t ((reasonCode.map (·.text)).getD "null") e.fixed
            ⟨e.data, l.changes⟩
          rw [transition_moves checked (fresh.unreplayed e found)] at follows
          change if _ then _ else _
          split_ifs with moves
          · rw [if_pos moves] at follows
            obtain ⟨j, out, rows, grew, -⟩ := follows
            refine ⟨_, onExecution_found found out, by rw [rows], ?_⟩
            rcases grew with rfl | grew
            · simp only [transitionMoves, Bool.and_eq_true, decide_eq_true_eq] at moves
              exact absurd (moves.2.1.symm.trans (congrArg (·.ownership.ownershipState) rows))
                fresh.distinct
            · exact grew
          · rw [if_neg moves] at follows
            obtain ⟨j, out, -, -, kept⟩ := follows
            rw [onExecution_found found out, kept rfl, Db.setRows_same there]

/-- A computation ends as the ownership part. -/
def EndsAs (m : Transaction Ledger DbError Bool) (l : Ledger) : OwnershipEnd → Prop
  | .wrote d => ∃ l', outcome m l = (.ok true, l') ∧ l'.db = d ∧ l.changes.length < l'.changes.length
  | .repeated => outcome m l = (.ok true, l)
  | .refused => outcome m l = (.ok false, l)
  | .raised => ∃ e, outcome m l = (.error e, l)

/-- `except ValueError: return False` of `record_no_process`; `record_terminal` has none. -/
def caughtValueError (caught : Bool) : Except DbError Bool × Ledger → Except DbError Bool × Ledger
  | (.error (.valueError text), l) =>
      if caught then (.ok false, l) else (.error (.valueError text), l)
  | r => r

theorem outcome_exceptValueError (m : Transaction Ledger DbError Bool) (l : Ledger) :
    outcome (exceptValueError m) l = caughtValueError true (outcome m l) := by
  rw [exceptValueError, outcome_tryCatch]
  rcases outcome m l with ⟨e | b, l'⟩
  · cases e <;> rfl
  · rfl

theorem caughtValueError_false (r : Except DbError Bool × Ledger) : caughtValueError false r = r := by
  rcases r with ⟨e | b, l'⟩
  · cases e <;> rfl
  · rfl

/-- What the ownership part does with its step. -/
theorem outcome_ownershipPart (active : Bool) (k : ExecutionCapability) (c : SettleArgs)
    (jobEmpty : Bool) (now : Instant) (l : Ledger) :
    outcome (ownershipPartIn active k c jobEmpty now) l =
      match ownershipStep k c jobEmpty now l.db with
      | .answered b => (.ok b, l)
      | .moves t =>
          caughtValueError c.identity.processId.isNone
            (outcome (transitionIn active c.reasonCode t) l) := by
  unfold ownershipPartIn ownershipStep
  cases c.identity.processId.isNone with
  | true =>
      simp only [if_true, ← outcome_exceptValueError]
      rfl
  | false =>
      simp only [Bool.false_eq_true, if_false, caughtValueError_false]
      rfl

/-- The ownership part. -/
theorem ownershipPart_ends (active : Bool) (k : ExecutionCapability) (c : SettleArgs)
    (jobEmpty : Bool) (now : Instant) (l : Ledger) :
    EndsAs (ownershipPartIn active k c jobEmpty now) l (ownershipEnd k c jobEmpty now l.db) := by
  have run := outcome_ownershipPart active k c jobEmpty now l
  unfold ownershipEnd
  cases step : ownershipStep k c jobEmpty now l.db with
  | answered b =>
      rw [step] at run
      cases b <;> exact run
  | moves t =>
      rw [step] at run
      change _ = caughtValueError _ _ at run
      change EndsAs _ _ (if (!t.check.isOk) = true then _ else _)
      rcases transition_ends active c.reasonCode (ownershipStep_fresh step) with
        ⟨checked, text, out⟩ | ⟨checked, ends⟩
      · rw [out] at run
        rw [checked]
        cases absent : c.identity.processId.isNone with
        | true =>
            rw [absent] at run
            exact run
        | false =>
            rw [absent] at run
            exact ⟨_, run⟩
      · rw [checked]
        change EndsAs _ _ (match l.db.addressed (.transitionOwnership t) with | none => _ | some e => _)
        cases found : l.db.addressed (.transitionOwnership t) with
        | none =>
            rw [found] at ends
            rw [ends] at run
            exact run
        | some e =>
            rw [found] at ends
            change EndsAs _ _ (if transitionMoves t e.fixed e.data = true then _ else _)
            change (if transitionMoves t e.fixed e.data = true then _ else _) at ends
            split_ifs at ends ⊢ with moves
            · obtain ⟨l', out, db, changes⟩ := ends
              rw [out] at run
              exact ⟨l', run, db, changes⟩
            · rw [ends] at run
              exact run

/-! ### The fallback -/

section Fallback

variable (active) (k : ExecutionCapability) (c : SettleArgs) (jobEmpty : Bool) (attemptId : String)
  (now : Instant) (l : Ledger)

/-- The fallback accepts, or leaves the ledger unless it is torn. -/
theorem fallback_answered :
    (fallbackAccepted k c jobEmpty attemptId now l.db = true ∧
      fallbackTorn k c jobEmpty attemptId now l.db = false ∧
      ∃ l', outcome (settleRevokedIn active k c jobEmpty attemptId now) l = (.ok true, l')) ∨
    (fallbackAccepted k c jobEmpty attemptId now l.db = false ∧
      ∃ r l', outcome (settleRevokedIn active k c jobEmpty attemptId now) l = (r, l') ∧
        r ≠ .ok true ∧ l'.changes = l.changes ∧
        (l' = l ↔ (active && fallbackTorn k c jobEmpty attemptId now l.db) = false)) := by
  unfold fallbackAccepted fallbackTorn fallbackFinds
  have run : outcome (settleRevokedIn active k c jobEmpty attemptId now) l =
      (revokedSettlement k c attemptId l.db).elim (.ok false, l) fun s =>
        outcome (onExecution (.settleConfirmed s jobEmpty)
          (settleExecutionAfterConfirmedTerminationIn active s l.db.revokedTokens jobEmpty now)) l := by
    have step : outcome (settleRevokedIn active k c jobEmpty attemptId now) l =
        settleRevokedIn active k c jobEmpty attemptId now l := rfl
    rw [step, settleRevokedIn]
    cases revokedSettlement k c attemptId l.db <;> rfl
  rw [run]
  cases revokedSettlement k c attemptId l.db with
  | none => exact Or.inr ⟨rfl, _, _, rfl, by rintro ⟨⟩, rfl, fun _ => Bool.and_false active, fun _ => rfl⟩
  | some s =>
      simp only [Option.any_some]
      cases found : l.db.addressed (.settleConfirmed s jobEmpty) with
      | none =>
          have missing := onExecution_missing
            (settleExecutionAfterConfirmedTerminationIn active s l.db.revokedTokens jobEmpty now)
            found
          refine Or.inr ⟨rfl, _, _, missing, ?_, rfl, fun _ => Bool.and_false active, fun _ => rfl⟩
          simp only [ExecutionCall.missing]
          cases s.check <;> rintro ⟨⟩
      | some e =>
          have answered := onExecution_answered found
            (settle_follows active s l.db.revokedTokens jobEmpty now e.fixed ⟨e.data, l.changes⟩)
          have accepted := settle_verdict s l.db.revokedTokens jobEmpty now e.fixed e.data
          simp only [Option.any_some]
          cases accepts : settleAccepted s l.db.revokedTokens jobEmpty now e.fixed e.data with
          | true =>
              rw [accepted.mpr accepts] at answered
              refine Or.inl ⟨rfl, ?_, answered⟩
              by_contra torn
              have raises := settleTorn_raises (Bool.eq_true_of_not_eq_false torn)
              cases raises.symm.trans (accepted.mpr accepts)
          | false =>
              refine Or.inr ⟨rfl, ?_⟩
              have ungranted := mt accepted.mp (by rw [accepts]; rintro ⟨⟩)
              cases verdict : Verdict.of (settleExecutionAfterConfirmedTermination s l.db.revokedTokens
                  jobEmpty now e.fixed e.data) with
              | granted => exact absurd verdict ungranted
              | refused =>
                  have whole : settleTorn s l.db.revokedTokens jobEmpty now e.fixed e.data = false := by
                    by_contra torn
                    cases verdict.symm.trans (settleTorn_raises (Bool.eq_true_of_not_eq_false torn))
                  rw [verdict] at answered
                  rw [whole, Bool.and_false]
                  exact ⟨_, l, answered, by rintro ⟨⟩, rfl, fun _ => rfl, fun _ => rfl⟩
              | raised =>
                  rw [verdict] at answered
                  obtain ⟨e', l', out, changes, same⟩ := answered
                  exact ⟨_, l', out, by rintro ⟨⟩, changes, same⟩

/-! ### Both together -/

variable {k c jobEmpty now} {l' l'' : Ledger} {e : DbError}

theorem outcome_raising {m : Transaction Ledger DbError Bool} {b : Bool} (h : outcome m l = (.ok b, l')) :
    outcome (raising m) l = (.ok b, l') := by
  have run : outcome (raising m) l = raising m l := rfl
  rw [run, raising, h]

theorem outcome_raising_error {m : Transaction Ledger DbError Bool} (h : outcome m l = (.error e, l')) :
    outcome (raising m) l = (.error (.raised e), l') := by
  have run : outcome (raising m) l = raising m l := rfl
  rw [run, raising, h]

/-- The block raises what its ownership part raises. -/
theorem settleBlock_raised (h : outcome (ownershipPartIn true k c jobEmpty now) l = (.error e, l')) :
    outcome (settleBlock k c jobEmpty now) l = (.error (.raised e), l') :=
  outcome_bind_error (outcome_raising_error l h)

/-- It is rejected where its ownership part refuses. -/
theorem settleBlock_rejected
    (h : outcome (ownershipPartIn true k c jobEmpty now) l = (.ok false, l')) :
    outcome (settleBlock k c jobEmpty now) l = (.error .rejected, l') :=
  outcome_bind_ok (outcome_raising l h)

/-- Else it ends as its run part. -/
theorem settleBlock_recorded
    (h : outcome (ownershipPartIn true k c jobEmpty now) l = (.ok true, l')) :
    outcome (settleBlock k c jobEmpty now) l =
      match outcome (runPartIn true k c now) l' with
      | (.error e, l'') => (.error (.raised e), l'')
      | (.ok false, l'') => (.error .rejected, l'')
      | (.ok true, l'') => (.ok ⟨⟩, l'') := by
  unfold settleBlock
  rw [outcome_bind_ok (outcome_raising l h)]
  change outcome (raising (runPartIn true k c now) >>= _) l' = _
  rcases run : outcome (runPartIn true k c now) l' with ⟨e | b, l''⟩
  · exact outcome_bind_error (outcome_raising_error l' run)
  · rw [outcome_bind_ok (outcome_raising l' run)]
    cases b <;> rfl

end Fallback

/-- What does not answer `True` leaves the ledger as it was. -/
def Restores (m : Transaction Ledger DbError Bool) (l : Ledger) : Prop :=
  ∀ r l', outcome m l = (r, l') → r ≠ .ok true → l' = l

section Restores

variable {m : Transaction Ledger DbError Bool} {l' : Ledger}

theorem Restores.granted (h : outcome m l = (.ok true, l')) : Restores m l := by
  intro r l'' out refused
  cases h.symm.trans out
  exact absurd rfl refused

theorem restores_iff {r : Except DbError Bool} (h : outcome m l = (r, l')) (hr : r ≠ .ok true) :
    Restores m l ↔ l' = l := by
  constructor
  · exact fun restores => restores r l' h hr
  · rintro rfl r' l'' out -
    cases h.symm.trans out
    rfl

end Restores

variable {k : ExecutionCapability} {c : SettleArgs} {jobEmpty : Bool} {attemptId : String}
  {now : Instant}

/-- A settlement without its ids. -/
theorem outcome_settle_absent (h : (absent k.executionId || absent k.dispatchClaimToken) = true) :
    outcome (settleExecutionIn active k c jobEmpty attemptId now) l = (.ok false, l) := if_pos h

/-- A settlement with its ids. -/
theorem outcome_settle (active : Bool) (c : SettleArgs) (jobEmpty : Bool) (attemptId : String)
    (now : Instant) (l : Ledger) (h : (absent k.executionId || absent k.dispatchClaimToken) = false) :
    outcome (settleExecutionIn active k c jobEmpty attemptId now) l =
      match outcome (connection active (settleBlock k c jobEmpty now)) l with
      | (.ok _, l') => (.ok true, l')
      | (.error (.raised e), l') => (.error e, l')
      | (.error .rejected, l') =>
          outcome (settleRevokedIn active k c jobEmpty attemptId now) l' :=
  if_neg (by rw [h]; nofun)

section Nested

variable {l' : Ledger}

/-- A rejected block is followed by the fallback, in the active connection. -/
theorem outcome_settle_rejected (attemptId : String)
    (given : (absent k.executionId || absent k.dispatchClaimToken) = false)
    (h : outcome (settleBlock k c jobEmpty now) l = (.error .rejected, l')) :
    outcome (settleExecutionIn true k c jobEmpty attemptId now) l =
      outcome (settleRevokedIn true k c jobEmpty attemptId now) l' := by
  have block : outcome (connection true (settleBlock k c jobEmpty now)) l = _ := h
  rw [outcome_settle true c jobEmpty attemptId now l given, block]

/-- A block that raises leaves what it has written. -/
theorem outcome_settle_raised {e : DbError} (attemptId : String)
    (given : (absent k.executionId || absent k.dispatchClaimToken) = false)
    (h : outcome (settleBlock k c jobEmpty now) l = (.error (.raised e), l')) :
    outcome (settleExecutionIn true k c jobEmpty attemptId now) l = (.error e, l') := by
  have block : outcome (connection true (settleBlock k c jobEmpty now)) l = _ := h
  rw [outcome_settle true c jobEmpty attemptId now l given, block]

/-- A block that returns is a settlement. -/
theorem outcome_settle_returned {u : PUnit} (attemptId : String)
    (given : (absent k.executionId || absent k.dispatchClaimToken) = false)
    (h : outcome (settleBlock k c jobEmpty now) l = (.ok u, l')) :
    outcome (settleExecutionIn true k c jobEmpty attemptId now) l = (.ok true, l') := by
  have block : outcome (connection true (settleBlock k c jobEmpty now)) l = _ := h
  rw [outcome_settle true c jobEmpty attemptId now l given, block]

/-- The fallback of a block that has written nothing. -/
theorem restores_fallback (given : (absent k.executionId || absent k.dispatchClaimToken) = false)
    (h : outcome (settleBlock k c jobEmpty now) l = (.error .rejected, l)) :
    Restores (settleExecutionIn true k c jobEmpty attemptId now) l ↔
      fallbackTorn k c jobEmpty attemptId now l.db = false := by
  have rejected := outcome_settle_rejected attemptId given h
  rcases fallback_answered true k c jobEmpty attemptId now l with
    ⟨-, whole, l', accepted⟩ | ⟨-, r, l', out, refused, -, same⟩
  · exact iff_of_true (.granted (rejected.trans accepted)) whole
  · exact (restores_iff (rejected.trans out) refused).trans same

/-- What a rejected settlement leaves in an active connection. -/
theorem restores_nested (given : (absent k.executionId || absent k.dispatchClaimToken) = false) :
    Restores (settleExecutionIn true k c jobEmpty attemptId now) l ↔
      strands k c jobEmpty attemptId now l.db = false := by
  have ends := ownershipPart_ends true k c jobEmpty now l
  unfold strands
  cases ended : ownershipEnd k c jobEmpty now l.db with
  | raised =>
      rw [ended] at ends
      obtain ⟨e, out⟩ := ends
      have settled := outcome_settle_raised attemptId given (settleBlock_raised l out)
      exact iff_of_true ((restores_iff settled nofun).mpr rfl) rfl
  | refused =>
      rw [ended] at ends
      exact restores_fallback given (settleBlock_rejected l ends)
  | repeated =>
      rw [ended] at ends
      have recorded := settleBlock_recorded l ends
      have answered := runPart_answered true k c now l
      cases verdict : runVerdict k c now l.db with
      | granted =>
          rw [verdict] at answered
          obtain ⟨l', run⟩ := answered
          rw [run] at recorded
          exact iff_of_true (.granted (outcome_settle_returned attemptId given recorded)) rfl
      | refused =>
          rw [verdict] at answered
          have run : outcome (runPartIn true k c now) l = _ := answered
          rw [run] at recorded
          exact restores_fallback given recorded
      | raised =>
          rw [verdict] at answered
          obtain ⟨e, l', run, -, same⟩ := answered
          rw [run] at recorded
          exact (restores_iff (outcome_settle_raised attemptId given recorded) nofun).trans same
  | wrote d =>
      rw [ended] at ends
      obtain ⟨l₁, out, rfl, noted⟩ := ends
      dsimp only
      -- the events of the ownership part are not taken back
      have kept {l' : Ledger} (h : l'.changes = l₁.changes) : l' ≠ l := by
        rintro rfl
        rw [h] at noted
        exact lt_irrefl _ noted
      have recorded := settleBlock_recorded l out
      have answered := runPart_answered true k c now l₁
      cases verdict : runVerdict k c now l₁.db with
      | granted =>
          rw [verdict] at answered
          obtain ⟨l', run⟩ := answered
          rw [run] at recorded
          exact iff_of_true (.granted (outcome_settle_returned attemptId given recorded)) rfl
      | refused =>
          rw [verdict] at answered
          have run : outcome (runPartIn true k c now) l₁ = _ := answered
          rw [run] at recorded
          have rejected := outcome_settle_rejected attemptId given recorded
          rcases fallback_answered true k c jobEmpty attemptId now l₁ with
            ⟨accepts, -, l', accepted⟩ | ⟨unaccepted, r, l', fell, refused, changes, -⟩
          · refine iff_of_true (.granted (rejected.trans accepted)) ?_
            rw [accepts]
            rfl
          · refine iff_of_false ?_ ?_
            · rw [restores_iff (rejected.trans fell) refused]
              exact kept changes
            · rw [unaccepted]
              nofun
      | raised =>
          rw [verdict] at answered
          obtain ⟨e, l', run, changes, -⟩ := answered
          rw [run] at recorded
          refine iff_of_false ?_ nofun
          rw [restores_iff (outcome_settle_raised attemptId given recorded) nofun]
          exact kept changes

end Nested

/-- A connection of its own rolls back. -/
theorem restores_own (k : ExecutionCapability) (c : SettleArgs) (jobEmpty : Bool) (attemptId : String)
    (now : Instant) (l : Ledger)
    (given : (absent k.executionId || absent k.dispatchClaimToken) = false) :
    Restores (settleExecutionIn false k c jobEmpty attemptId now) l := by
  have settled := outcome_settle false c jobEmpty attemptId now l given
  rcases block : outcome (settleBlock k c jobEmpty now) l with ⟨(_ | e) | u, l'⟩
  · rw [connection_raises block] at settled
    rcases fallback_answered false k c jobEmpty attemptId now l with
      ⟨-, -, l', accepted⟩ | ⟨-, r, l', out, refused, -, same⟩
    · exact .granted (settled.trans accepted)
    · exact (restores_iff (settled.trans out) refused).mpr (same.mpr rfl)
  · rw [connection_raises block] at settled
    exact (restores_iff settled nofun).mpr rfl
  · rw [connection_returns block] at settled
    exact .granted settled

namespace Sample

/-- The settlement of a process that exited with 1. -/
def exited : SettleArgs where
  terminalState := .failed
  reasonCode := some .processExitNonzero
  identity := ⟨some 4242, some "4242", some "posix:0000-0000:77", some 4242⟩
  terminationStatus := none

end Sample

end CyberAssess
