import CyberAssess.Database.Run

/-!
# Guarantees — run and dispatch agree

The run of an execution is terminal exactly when its dispatch is, in the pair
`terminalDispatchState` names (`Rows.Paired`).

* `Effect.paired`: every call keeps the pair, where a revocation finds a pending dispatch only
  under a run that is still `REQUESTED` (`revokesInOrder`).
* `Rows.Paired.raises`: on a pair that agrees, what a call raises is about its caller's worker,
  tokens, process or expected state.
* `run_dispatch_agree`: both, over every run of such steps.
* `revoked_after_release_disagrees`: a claim that is released leaves the dispatch `PENDING` under
  a `STARTING` run, and a revocation then blocks the one and not the other.
-/

namespace CyberAssess

open Checked (ensure RaisesOnly)

/-- Run and dispatch are both open, or end as `terminalDispatchState` pairs them. -/
structure Rows.Paired (x : Rows) : Prop where
  terminal : x.run.state.isTerminal = x.dispatch.state.isTerminal
  state : ∀ d, terminalDispatchState x.run.state = some d → x.dispatch.state = d

/-- A revocation that takes effect finds the dispatch claimed or settled, or the run not begun. -/
def ExecutionCall.revokesInOrder (x : Rows) : ExecutionCall → Bool
  | .revokeDecision c =>
      !(c.check.toBool && x.decision.revokedAt.isNone) ||
        (x.dispatch.state ≠ .pending || x.run.state = .requested)
  | .revokeRequest c =>
      !c.complete || (x.dispatch.state ≠ .pending || x.run.state = .requested)
  | _ => true

/-- The revocations of the operation are in order. -/
def revokesInOrder (db : Db) (_now : Instant) : Operation → Bool
  | .call c => (db.addressed c).all fun e => c.revokesInOrder e.data
  | _ => true

/-- What a call may raise about rows that agree: the worker, the claim, the process or the state
its caller names is not the stored one, or a recovery settles a run that has ended. -/
def ExecutionCall.mismatch (now : Instant) (x : Rows) : ExecutionCall → Bool
  | .claimAuthority c =>
      x.run.workerIdentity ≠ some c.workerIdentity ||
        (x.decision.claimOwner.isSome && !leaseLapsed now x.decision.claimExpiresAt)
  | .markStarted c => x.run.workerIdentity ≠ some c.workerIdentity
  | .abortStart _ => x.decision.consumedAt.isSome
  | .finish c =>
      x.run.processId ≠ c.processId || x.run.processGroupId ≠ c.processGroupId
  | .transitionRun c => x.run.state ≠ c.expectedState
  | .settleRecovery _ _ => x.run.state.isTerminal
  | _ => false

/-- The errors that are not about how run and dispatch agree. -/
def ExecutionCall.Blames (c : ExecutionCall) (now : Instant) (x : Rows) (e : DbError) : Prop :=
  e.isRuntime = true → c.mismatch now x = true

/-! ### Pairs -/

/-- Two open rows agree. -/
theorem Rows.Paired.ofOpen {x : Rows} (hr : x.run.state.isTerminal = false)
    (hd : x.dispatch.state.isTerminal = false) : x.Paired where
  terminal := hr.trans hd.symm
  state d h := by
    have := terminalDispatchState_isSome x.run.state
    rw [h, hr] at this
    cases this

/-- Two rows settled as a pair agree. -/
theorem Rows.Paired.ofSettled {x : Rows} (h : terminalDispatchState x.run.state
    = some x.dispatch.state) : x.Paired where
  terminal := by
    rw [isTerminal_of_terminalDispatchState h, ← terminalDispatchState_isSome, h]
    rfl
  state d hd := Option.some.inj (h.symm.trans hd)

/-- The pair reads the two states alone. -/
theorem Rows.Paired.ofSame {x y : Rows} (h : x.Paired) (hr : y.run.state = x.run.state)
    (hd : y.dispatch.state = x.dispatch.state) : y.Paired where
  terminal := by rw [hr, hd]; exact h.terminal
  state d := by rw [hr, hd]; exact h.state d

theorem Rows.Paired.open_iff {x : Rows} (h : x.Paired) :
    x.run.state.isTerminal = false ↔ x.dispatch.state.isTerminal = false := by rw [h.terminal]

/-- A safe state goes with the dispatch state the settlements write. -/
theorem terminalDispatchState_of_safe {s : RunState} (h : isSafeState s = true) :
    terminalDispatchState s = some (safeDispatchState s) := by
  cases s <;> first | rfl | cases h

/-- So does a state `finish_execution` writes. -/
theorem terminalDispatchState_of_finish {s : RunState} (h : isFinishState s = true) :
    terminalDispatchState s = some (finishDispatchState s) := by
  cases s <;> first | rfl | cases h

/-- Cancelling before dispatch keeps the pair where the run had not begun. -/
theorem cancelBeforeDispatch_paired {x : Rows} (now : Instant) (h : x.Paired)
    (hx : x.dispatch.state = .pending → x.run.state = .requested) :
    (x.cancelBeforeDispatch now).Paired := by
  by_cases hd : x.dispatch.state = .pending
  · refine .ofSettled ?_
    simp [Rows.cancelBeforeDispatch, hd, hx hd, RunRow.settled, terminalDispatchState]
  · rw [Rows.cancelBeforeDispatch, if_neg hd]
    exact h

/-- It breaks the pair where the run had begun. -/
theorem cancelBeforeDispatch_not_paired {x : Rows} (now : Instant) (h : x.Paired)
    (hd : x.dispatch.state = .pending) (hr : x.run.state ≠ .requested) :
    ¬ (x.cancelBeforeDispatch now).Paired := by
  intro hp
  have open_run : x.run.state.isTerminal = false := h.open_iff.mpr (by rw [hd]; rfl)
  have := hp.terminal
  simp only [Rows.cancelBeforeDispatch, hd, if_true, if_neg hr] at this
  rw [open_run] at this
  cases this

variable {revokedTokens : List String} {now : Instant} {a : Authority} {x y : Rows}
  {c : ExecutionCall} {r : Response}

/-- Every call keeps the pair, where its revocations are in order. -/
theorem Effect.paired (h : Effect revokedTokens now a x c r y)
    (hc : c.revokesInOrder x = true) (hx : x.Paired) : y.Paired := by
  cases h with
  | kept | decisionClaimed | decisionReleased | leaseRenewed => exact hx.ofSame rfl rfl
  | beside _ h => exact hx.ofSame (by rw [h.run]) (by rw [h.dispatch])
  | authorityClaimed h =>
      simp only [authorityClaimable, Bool.and_eq_true, Bool.or_eq_true, decide_eq_true_eq] at h
      refine .ofOpen rfl ?_
      change (x.dispatch.claimedFor _ now).state.isTerminal = false
      unfold DispatchRow.claimedFor
      rcases h.2 with hd | hd
      · rw [if_pos hd]
        rfl
      · rw [if_neg (by rw [hd.1.1.1.1]; nofun), hd.1.1.1.1]
        rfl
  | started h =>
      simp only [decisionStartable, Bool.and_eq_true, decide_eq_true_eq] at h
      have hd : x.dispatch.state = .claimed := h.1.1.1.1.1.1.2
      exact .ofOpen rfl (by change x.dispatch.state.isTerminal = false; rw [hd]; rfl)
  | authorityReleased h =>
      simp only [authorityReleasable, Bool.and_eq_true, Bool.or_eq_true, decide_eq_true_eq] at h
      refine .ofOpen ?_ rfl
      change x.run.state.isTerminal = false
      rcases h.2 with hr | hr <;> rw [hr] <;> rfl
  | startAborted hk => exact .ofSettled (terminalDispatchState_of_safe (abortStart_check hk).1)
  | finished hk =>
      simp only [FinishArgs.complete, Bool.and_eq_true] at hk
      exact .ofSettled (terminalDispatchState_of_finish hk.1.1.1.1.1)
  | dispatchClaimed h =>
      simp only [dispatchClaimable, Bool.and_eq_true, Bool.or_eq_true, decide_eq_true_eq] at h
      have open_dispatch : x.dispatch.state.isTerminal = false := by
        rcases h.2 with hd | hd
        · rw [hd]; rfl
        · rw [hd.1]; rfl
      exact .ofOpen (hx.open_iff.mpr open_dispatch) rfl
  | cancellationAcknowledged => exact .ofSettled rfl
  | reaped hk => exact .ofSettled (terminalDispatchState_of_safe (reap_check hk).1)
  | @dispatchSettled c =>
      refine .ofSettled ?_
      cases e : c.success <;>
        simp [Rows.dispatchSettled, RunRow.settled, DispatchRow.settled, SettleDispatchArgs.runState,
          e, terminalDispatchState]
  | runSettled _ _ _ hd => exact .ofSettled hd
  | runMoved _ hf _ ht =>
      simp only [dispatchFence, Bool.and_eq_true, decide_eq_true_eq] at hf
      refine .ofOpen ht ?_
      change x.dispatch.state.isTerminal = false
      rw [hf.1.1.1.1]
      rfl
  | decisionRevoked hk hn =>
      refine cancelBeforeDispatch_paired now (hx.ofSame rfl rfl) fun hd => ?_
      have hd : x.dispatch.state = .pending := hd
      change x.run.state = .requested
      rw [Bool.eq_false_iff, ne_eq, Option.isSome_iff_ne_none, not_not] at hn
      simpa [ExecutionCall.revokesInOrder, hk, hn, hd, Except.toBool] using hc
  | requestRevoked hk =>
      refine cancelBeforeDispatch_paired now (hx.ofSame rfl rfl) fun hd => ?_
      have hd : x.dispatch.state = .pending := hd
      change x.run.state = .requested
      simpa [ExecutionCall.revokesInOrder, hk, hd] using hc
  | recoverySettled t hk =>
      refine .ofSettled ?_
      change terminalDispatchState (RunRow.settled x.run _ _ now).state = some .failed
      rw [RunRow.settled, (settleRecovery_check hk).1]
      rfl
  | terminationSettled t hk hg =>
      have hs := terminalDispatchState_of_safe (settleConfirmed_check hk hg).1
      cases hr : x.run.state.isTerminal with
      | true =>
          have hd : x.dispatch.state.isTerminal = true := hx.terminal.symm.trans hr
          exact hx.ofSame (by simp [Rows.settledAfterTermination, hr])
            (by simp [Rows.settledAfterTermination, hd])
      | false =>
          have hd : x.dispatch.state.isTerminal = false := hx.terminal.symm.trans hr
          refine .ofSettled ?_
          simpa [Rows.settledAfterTermination, hr, hd, RunRow.settled, DispatchRow.settled] using hs

/-! ### What a call raises -/

/-- The errors that are no `RuntimeError`. -/
abbrev Quiet {α : Type} (u : Except DbError α) : Prop := RaisesOnly (fun e => e.isRuntime = false) u

/-- A refused argument is a `ValueError`. -/
theorem quiet_ensure {p : Bool} {m : String} : Quiet (ensure p (.valueError m)) :=
  .ensure fun _ => rfl

theorem appendAttempt_quiet (x : Rows) (t : RecoveryAttempt) : Quiet (x.appendAttempt t) := by
  unfold Rows.appendAttempt
  split
  · exact .error rfl
  · exact .ok _

theorem CompleteRecoveryArgs.check_quiet (c : CompleteRecoveryArgs) : Quiet c.check := by
  unfold CompleteRecoveryArgs.check
  split
  · exact .ok _
  · exact .bind quiet_ensure fun _ _ => quiet_ensure

theorem UnconfirmedRecoveryArgs.check_quiet (c : UnconfirmedRecoveryArgs) : Quiet c.check := by
  unfold UnconfirmedRecoveryArgs.check
  split
  · exact .ok _
  · exact .bind quiet_ensure fun _ _ => quiet_ensure

theorem UnavailableRecoveryArgs.check_quiet (c : UnavailableRecoveryArgs) : Quiet c.check := by
  unfold UnavailableRecoveryArgs.check
  split
  · exact .ok _
  · exact .bind quiet_ensure fun _ _ => quiet_ensure

theorem SettleConfirmedArgs.check_quiet (c : SettleConfirmedArgs) : Quiet c.check := by
  unfold SettleConfirmedArgs.check
  split
  · exact .ok _
  · exact quiet_ensure

theorem SettleDispatchArgs.check_quiet (c : SettleDispatchArgs) : Quiet c.check := by
  unfold SettleDispatchArgs.check
  split
  · exact .ok _
  · exact .bind quiet_ensure fun _ _ => quiet_ensure

theorem SettleRecoveryArgs.check_quiet (c : SettleRecoveryArgs) : Quiet c.check :=
  .bind quiet_ensure fun _ _ => quiet_ensure

theorem TransitionOwnershipArgs.check_quiet (c : TransitionOwnershipArgs) : Quiet c.check :=
  .bind quiet_ensure fun _ _ => .bind quiet_ensure fun _ _ => quiet_ensure

/-- Only the calls that end or start a run raise a `RuntimeError`. -/
theorem beside_quiet (hc : c.isBeside = true) : Quiet (c.apply revokedTokens now a x) := by
  cases c with
  | transitionOwnership c =>
      refine .map (.bind c.check_quiet fun _ _ => ?_)
      repeat' split
      all_goals exact .ok _
  | blockCommitted c =>
      refine .map ?_
      unfold transitionCommittedProcessToRecoveryBlocked
      split <;> exact .ok _
  | claimRecovery c =>
      refine .map ?_
      unfold claimRecovery
      split
      · exact .ok _
      split
      · exact .ok _
      · exact .bind (appendAttempt_quiet _ _) fun _ _ => .ok _
  | renewRecovery c =>
      refine .map ?_
      unfold renewRecovery
      split <;> exact .ok _
  | completeRecovery c =>
      refine .map (.bind c.check_quiet fun _ _ => ?_)
      split
      · exact .ok _
      · exact .bind (appendAttempt_quiet _ _) fun _ _ => .ok _
  | recordUnconfirmed c =>
      refine .map (.bind c.check_quiet fun _ _ => ?_)
      repeat' split
      all_goals exact .ok _
  | recordUnavailable c =>
      refine .map (.bind c.check_quiet fun _ _ => ?_)
      repeat' split
      all_goals exact .ok _
  | _ => cases hc

/-- What is no `RuntimeError` blames nothing. -/
theorem Quiet.blames {α : Type} {u : Except DbError α} (h : Quiet u) :
    RaisesOnly (c.Blames now x) u :=
  fun e he hr => by rw [h e he] at hr; cases hr

/-- A check of the rows that raises blames what it found. -/
theorem blames_ensure {p : Bool} {e : DbError} (h : p = false → c.mismatch now x = true) :
    RaisesOnly (c.Blames now x) (ensure p e) :=
  .ensure fun hp _ => h hp

/-- **No call raises about rows that agree.**  Acknowledging and reaping test one row after the
other, and on a pair the second test passes where the first did. -/
theorem Rows.Paired.raises (hx : x.Paired) :
    RaisesOnly (c.Blames now x) (c.apply revokedTokens now a x) := by
  by_cases hb : c.isBeside = true
  · exact (beside_quiet hb).blames
  cases c with
  | claimDecision c =>
      refine .map ?_
      unfold claimExecutionDecision
      split <;> exact .ok _
  | claimAuthority c =>
      refine .map ?_
      unfold claimExecutionAuthority
      split
      · exact .ok _
      · refine .bind (blames_ensure fun h => ?_) fun _ _ => .bind (blames_ensure fun h => ?_)
          fun _ _ => .ok _
        · simp_all [ExecutionCall.mismatch]
        · cases ho : x.decision.claimOwner <;> simp_all [ExecutionCall.mismatch]
  | markStarted c =>
      refine .map ?_
      unfold markExecutionDecisionStarted
      split
      · refine .bind (blames_ensure fun h => ?_) fun _ _ => .ok _
        simpa [ExecutionCall.mismatch] using h
      · exact .ok _
  | releaseAuthority c =>
      refine .map ?_
      unfold releaseExecutionAuthority
      split <;> exact .ok _
  | releaseDecisionClaim c =>
      refine .map ?_
      unfold releaseExecutionDecisionClaim
      split <;> exact .ok _
  | abortStart c =>
      refine .map (.bind (Quiet.blames quiet_ensure) fun _ _ => ?_)
      split
      · exact .ok _
      · refine .bind (blames_ensure fun h => ?_) fun _ _ => .ok _
        simpa [ExecutionCall.mismatch, Option.isSome_iff_ne_none] using h
  | finish c =>
      refine .map ?_
      unfold finishExecution
      split
      · exact .ok _
      split
      · exact .ok _
      split
      · exact .ok _
      · refine .bind (blames_ensure fun h => ?_) fun _ _ => .ok _
        simp only [decide_eq_false_iff_not, not_and_or] at h
        simpa [ExecutionCall.mismatch] using h
  | claimDispatch c =>
      refine .map (.bind (Quiet.blames quiet_ensure) fun _ _ => ?_)
      split <;> exact .ok _
  | renewLease c =>
      refine .map ?_
      unfold renewExecutionDispatchLease
      split <;> exact .ok _
  | acknowledge c =>
      refine .map ?_
      unfold acknowledgeExecutionCancellation
      split
      · rename_i h
        refine .bind (blames_ensure fun ht => ?_) fun _ _ => .ok _
        -- The dispatch is claimed, so the run has not ended either.
        simp only [cancellationAcknowledgeable, DispatchRow.claimedWith, Bool.and_eq_true,
          decide_eq_true_eq] at h
        have hd : x.dispatch.state.isTerminal = false := by rw [h.2.1.1.1.1]; rfl
        rw [hx.open_iff.mpr hd] at ht
        cases ht
      · exact .ok _
  | reap c =>
      refine .map (.bind (Quiet.blames quiet_ensure) fun _ _ => ?_)
      split
      · exact .ok _
      · rename_i h
        refine .bind (blames_ensure fun ht => ?_) fun _ _ => .ok _
        -- The run has not ended, so the dispatch has not either.
        simp only [Bool.or_eq_true, not_or, Bool.not_eq_true] at h
        rw [hx.open_iff.mp h.2] at ht
        cases ht
  | settleDispatch c =>
      refine .map (.bind c.check_quiet.blames fun _ _ => ?_)
      split <;> exact .ok _
  | transitionRun c =>
      refine .map ?_
      unfold transitionExecutionRun
      simp only
      split
      · exact .ok _
      split
      · exact .ok _
      split
      · exact .ok _
      split
      · split
        · exact .ok _
        · refine .bind (blames_ensure fun h => ?_) fun _ _ => .ok _
          simpa [ExecutionCall.mismatch] using h
      · split <;> exact .ok _
  | revokeDecision c =>
      refine .map (.bind (Quiet.blames quiet_ensure) fun _ _ => ?_)
      split <;> exact .ok _
  | revokeRequest c =>
      refine .map ?_
      unfold revokeExecutionRequest
      split <;> exact .ok _
  | settleRecovery c jobEmpty =>
      refine .map (.bind c.check_quiet.blames fun _ _ => ?_)
      split
      · exact .ok _
      · refine .bind (Quiet.blames quiet_ensure) fun _ _ => .bind (blames_ensure fun h => ?_)
          fun _ _ => .bind (appendAttempt_quiet _ _).blames fun _ _ => .ok _
        simpa [ExecutionCall.mismatch, hx.terminal] using h
  | settleConfirmed c jobEmpty =>
      refine .map (.bind c.check_quiet.blames fun _ _ => ?_)
      split
      · exact .ok _
      split
      · exact .ok _
      split
      · exact .ok _
      · exact .bind (Quiet.blames quiet_ensure) fun _ _ =>
          .bind (appendAttempt_quiet _ _).blames fun _ _ => .ok _
  | _ => exact absurd rfl hb

/-! ### Runs -/

/-- The parent's transitions revoke and expire, and leave run and dispatch. -/
theorem parentMoved_paired {target : ScanAuthorizationState} (hx : x.Paired) :
    (x.parentMoved target now).Paired := by
  cases target <;> exact hx.ofSame rfl rfl

theorem RowStep.paired {db : Db} {ev : Event} {e : Execution} (h : RowStep db ev e y)
    (hok : revokesInOrder db ev.now ev.operation = true) (hx : e.data.Paired) : y.Paired := by
  cases h with
  | untouched => exact hx
  | @called c _ _ ho _ ha h =>
      rw [ho] at hok
      have in_order : c.revokesInOrder e.data = true := by
        simpa [CyberAssess.revokesInOrder, ha] using hok
      exact h.paired in_order hx
  | sessionRevoked => exact hx.ofSame rfl rfl
  | parentMoved => exact parentMoved_paired hx

/-- The executions of a run without a revocation out of order agree. -/
theorem paired_of_reachable {g : Gateway} {db : Db}
    (h : db.GuardedReachable g revokesInOrder) : ∀ e ∈ db.executions, e.data.Paired := by
  refine reachable_executions (I := fun e => e.data.Paired) (g := g)
    (C := fun db ev => revokesInOrder db ev.now ev.operation = true) ?_ ?_ h
  · intro d ev e y hok he hs
    exact hs.paired hok he
  · intro d ev e he
    obtain ⟨-, t, w, r, now, hd⟩ := he.fresh
    rw [hd]
    exact .ofOpen rfl rfl

/-- A revocation that finds its execution commits. -/
theorem revocation_applies (revokedTokens : List String) (now : Instant) (a : Authority)
    (h : c.revokesInOrder x = false) :
    ∃ y, c.apply revokedTokens now a x = .ok (.done true, y) ∧ (x.Paired → ¬ y.Paired) := by
  cases c with
  | revokeDecision c =>
      simp only [ExecutionCall.revokesInOrder, Bool.or_eq_false_iff, Bool.not_eq_eq_eq_not,
        Bool.not_false, Bool.and_eq_true, decide_eq_false_iff_not, not_not] at h
      obtain ⟨⟨hc, hn⟩, hd, hr⟩ := h
      have hc : c.check = .ok () := by
        cases e : c.check with
        | ok => rfl
        | error => rw [e] at hc; cases hc
      have hn : x.decision.revokedAt.isSome = false := by
        rw [Option.isNone_iff_eq_none.mp hn]
        rfl
      refine ⟨(x.revoked now).cancelBeforeDispatch now, ?_, fun hx => ?_⟩
      · simp [ExecutionCall.apply, ExecutionCall.respond, revokeExecutionDecision, hc, hn, bind,
          Except.bind, Except.map]
      · exact cancelBeforeDispatch_not_paired now (hx.ofSame rfl rfl) hd hr
  | revokeRequest c =>
      simp only [ExecutionCall.revokesInOrder, Bool.or_eq_false_iff, Bool.not_eq_eq_eq_not,
        Bool.not_false, decide_eq_false_iff_not, not_not] at h
      obtain ⟨hc, hd, hr⟩ := h
      refine ⟨(x.requestRevoked now).cancelBeforeDispatch now, ?_, fun hx => ?_⟩
      · simp [ExecutionCall.apply, ExecutionCall.respond, revokeExecutionRequest, hc, Except.map]
      · exact cancelBeforeDispatch_not_paired now (hx.ofSame rfl rfl) hd hr
  | _ => cases h

/-- A revocation out of order breaks the pair it finds. -/
theorem out_of_order_disagrees {g : Gateway} {db db' : Db} {ev : Event}
    (hp : ∀ e ∈ db.executions, e.data.Paired) (hs : db.step g ev db')
    (hok : revokesInOrder db ev.now ev.operation = false) :
    ∃ e ∈ db'.executions, ¬ e.data.Paired := by
  cases ho : ev.operation with
  | call c =>
      rw [ho] at hok
      obtain ⟨e, he, hc⟩ : ∃ e, db.addressed c = some e ∧ c.revokesInOrder e.data = false := by
        cases ha : db.addressed c with
        | none => simp [revokesInOrder, ha] at hok
        | some e => exact ⟨e, rfl, by simpa [revokesInOrder, ha] using hok⟩
      obtain ⟨y, hy, hn⟩ := revocation_applies db.revokedTokens ev.now e.fixed hc
      have hm := (Db.addressed_eq_some.mp he).1
      have performed : db.perform g ev.now ev.operation
          = .ok (.response (.done true), db.setRows e y) := by
        rw [ho]
        simp [Db.perform, Db.execute, he, hy, returning, Except.map]
      refine ⟨⟨e.fixed, y⟩, ?_, hn (hp e hm)⟩
      rcases hs with ⟨r, h, -⟩ | ⟨d, h, -⟩
      · rw [performed] at h
        cases h
        exact Relational.Table.mem_set.mpr ⟨e, hm, Or.inl ⟨rfl, rfl⟩⟩
      · rw [performed] at h
        cases h
  | _ => rw [ho] at hok; cases hok

/-- **Run and dispatch agree.**  While no revocation finds a pending dispatch under a run that has
begun, they end together in the pairs of `terminalDispatchState`, and no call raises about them;
the first revocation that does breaks the pair. -/
theorem run_dispatch_agree {g : Gateway} {db : Db} (h : db.GuardedReachable g revokesInOrder) :
    (∀ e ∈ db.executions, e.data.Paired ∧ ∀ now (c : ExecutionCall),
      RaisesOnly (c.Blames now e.data) (c.apply db.revokedTokens now e.fixed e.data)) ∧
    ∀ ev db', db.step g ev db' → revokesInOrder db ev.now ev.operation = false →
      ∃ e ∈ db'.executions, ¬ e.data.Paired :=
  have agree := paired_of_reachable h
  ⟨fun e he => ⟨agree e he, fun _ _ => (agree e he).raises⟩,
    fun _ _ => out_of_order_disagrees agree⟩

/-- The worker gives its claim back. -/
def Sample.release : ReleaseAuthorityArgs where
  decisionId := "dec-a"
  organizationId := "org-a"
  workerIdentity := "worker-a"
  decisionClaimToken := "decision-token"
  dispatchClaimToken := "dispatch-token"

/-- The administrator revokes the decision. -/
def Sample.revocation : ExecutionCall :=
  .revokeDecision ⟨"dec-a", "org-a", "admin-a"⟩

/-- Revoked while it is claimed, an execution is acknowledged as cancelled. -/
def Sample.acknowledged : List (Instant × Operation) :=
  Sample.claimed ++
    [(seconds 3, .call Sample.revocation),
      (seconds 4, .call (.acknowledge ⟨"run-a", "org-a", "worker-a", "dispatch-token"⟩))]

/-- It ends `CANCELLED` with its dispatch `BLOCKED`. -/
theorem run_dispatch_agree_acknowledged :
    (Sample.tenant.afterAll Sample.gateway Sample.acknowledged).executions.rows.map
        (fun e => (e.data.run.state, e.data.dispatch.state)) = [(.cancelled, .blocked)] ∧
      ∀ e ∈ (Sample.tenant.afterAll Sample.gateway Sample.acknowledged).executions,
        e.data.Paired :=
  ⟨by decide +kernel, fun e he =>
    ((run_dispatch_agree (guardedReachable_afterAll Sample.initial (by decide +kernel))).1 e he).1⟩

/-- Claimed, released and then revoked. -/
def Sample.revokedAfterRelease : List (Instant × Operation) :=
  Sample.claimed ++
    [(seconds 3, .call (.releaseAuthority Sample.release)),
      (seconds 4, .call Sample.revocation)]

/-- The dispatch is `BLOCKED` and the run stays `STARTING`; reaping it then raises. -/
theorem revoked_after_release_disagrees :
    ¬ ((∀ (g : Gateway) (db : Db), db.Reachable g → ∀ e ∈ db.executions, e.data.Paired) ∨
      ∀ (g : Gateway) (db : Db), db.Reachable g → ∀ e ∈ db.executions, ∀ now c m,
        reapExecutionDispatch c db.revokedTokens now e.fixed e.data ≠
          .error (.runtimeError m)) := by
  have reached := reachable_afterAll (g := Sample.gateway) Sample.initial
    Sample.revokedAfterRelease
  rintro (h | h)
  · obtain ⟨e, he, hr, hd⟩ :
        ∃ e ∈ (Sample.tenant.afterAll Sample.gateway Sample.revokedAfterRelease).executions.rows,
          e.data.run.state.isTerminal = false ∧ e.data.dispatch.state.isTerminal = true := by
      decide +kernel
    have := (h _ _ reached e he).terminal
    rw [hr, hd] at this
    cases this
  · obtain ⟨e, he, hr⟩ :
        ∃ e ∈ (Sample.tenant.afterAll Sample.gateway Sample.revokedAfterRelease).executions.rows,
          reapExecutionDispatch ⟨"run-a", "org-a", .cancelled, .executionCancelledAcknowledged⟩
            [] (seconds 5) e.fixed e.data = .error (.runtimeError
              "execution reaper could not atomically settle run and dispatch intent") := by
      decide +kernel
    exact h _ _ reached e he _ _ _ hr

end CyberAssess
