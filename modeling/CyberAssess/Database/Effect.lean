import CyberAssess.Database.Calls

/-!
# Database — what a call does to the rows it addresses

`Effect` lists every way a call on one execution can return, with the test it passed and the rows
it left; `apply_effect` is the inversion of `ExecutionCall.apply` into that list.  What holds of a
run of calls is proved by one case for each of these ways, and no later proof unfolds a call.

* `kept`: the rows are as they were.  Only a replay of a stored outcome then grants anything.
* `beside`: ownership and recovery moved under the same request, decision, run and dispatch, in
  one of the ways of `BesideEffect`.
* the others are named after the update.
-/

namespace CyberAssess

/-- The calls that end an execution and return `True` for an outcome that is stored already. -/
def ExecutionCall.replays : ExecutionCall → Bool
  | .finish _ | .settleConfirmed _ _ => true
  | _ => false

/-- What a recorder observed. -/
def ExecutionCall.observation : ExecutionCall → Option RecoveryObservation
  | .recordUnconfirmed c => some c.observation
  | .recordUnavailable c => some c.observation
  | _ => none

/-- The calls on ownership and recovery alone. -/
def ExecutionCall.isBeside : ExecutionCall → Bool
  | .transitionOwnership _ | .blockCommitted _ | .claimRecovery _ | .renewRecovery _
  | .completeRecovery _ | .recordUnconfirmed _ | .recordUnavailable _ => true
  | _ => false

/-- The ways a call on ownership or recovery returns. -/
inductive BesideEffect (now : Instant) (a : Authority) (x : Rows) :
    ExecutionCall → Response → Rows → Prop where
  | refused {c : ExecutionCall} {r : Response} (h : r.granted = false) : BesideEffect now a x c r x
  | ownershipReplayed {c : TransitionOwnershipArgs} {b : Bool}
      (ht : x.ownership.ownershipState = .terminal)
      (h : b = ownershipReplays c.record a x.ownership) :
      BesideEffect now a x (.transitionOwnership c) (.done b) x
  | ownershipMoved {c : TransitionOwnershipArgs} (h : OwnershipMove c a x) :
      BesideEffect now a x (.transitionOwnership c) (.done true)
        { x with ownership := x.ownership.recorded c.record }
  | processBlocked {c : BlockCommittedArgs} (h : committedProcessBlockable c now a x = true) :
      BesideEffect now a x (.blockCommitted c) (.done true)
        { x with ownership :=
          { x.ownership with ownershipState := .recoveryBlocked, updatedAt := now } }
  | recoveryClaimed {c : ClaimRecoveryArgs} (t : RecoveryAttempt) (h : RecoveryClaim c now a x)
      (ht : t.attemptId = c.token) :
      BesideEffect now a x (.claimRecovery c)
        (.recoveryLease (some ⟨c.executionId, c.organizationId, c.owner, c.workerGeneration,
          c.token, now + seconds c.leaseSeconds, x.recovery.attemptNumber + 1,
          a.run.correlationId⟩))
        { x with recovery := x.recovery.claimed c now, attempts := t :: x.attempts }
  | recoveryRenewed {c : RenewRecoveryArgs}
      (h : x.recovery.leasedBy c.owner c.leaseToken c.workerGeneration now = true) :
      BesideEffect now a x (.renewRecovery c) (.done true)
        { x with recovery := { x.recovery with
          leaseExpiresAt := some (now + seconds c.leaseSeconds)
          updatedAt := now } }
  | recoveryCompleted {c : CompleteRecoveryArgs} (t : RecoveryAttempt) (hc : c.complete = true)
      (h : x.recovery.leasedBy c.owner c.leaseToken c.workerGeneration now = true) :
      BesideEffect now a x (.completeRecovery c) (.done true)
        { x with
          recovery := x.recovery.completed c now
          ownership := x.ownership.afterCompletion c.status now
          attempts := t :: x.attempts }
  | observationKept {c : ExecutionCall} {o : RecoveryObservation} {b : Bool}
      (hc : c.observation = some o) (h : x.recovery.open = true) :
      BesideEffect now a x c (.done b) x
  | observed {c : ExecutionCall} {o : RecoveryObservation} (t : RecoveryAttempt)
      (hc : c.observation = some o) (h : x.recovery.open = true) :
      BesideEffect now a x c (.done true)
        { x with recovery := x.recovery.observed o now, attempts := t :: x.attempts }

/-- None of them writes an authority row. -/
theorem BesideEffect.same {now : Instant} {a : Authority} {x y : Rows} {c : ExecutionCall}
    {r : Response} (h : BesideEffect now a x c r y) : SameAuthority x y := by
  cases h <;> exact ⟨rfl, rfl, rfl, rfl⟩

/-- The ways a call on `x` returns. -/
inductive Effect (revokedTokens : List String) (now : Instant) (a : Authority) (x : Rows) :
    ExecutionCall → Response → Rows → Prop where
  | kept {c : ExecutionCall} {r : Response} (h : r.granted = true → c.replays = true) :
      Effect revokedTokens now a x c r x
  | beside {c : ExecutionCall} {r : Response} {y : Rows} (hc : c.isBeside = true)
      (h : SameAuthority x y) (hb : BesideEffect now a x c r y) :
      Effect revokedTokens now a x c r y
  | decisionClaimed {c : ClaimDecisionArgs} (h : decisionClaimable c now a x = true) :
      Effect revokedTokens now a x (.claimDecision c)
        (.decisionClaim (some ⟨c.claimToken, c.workerIdentity, now + seconds 30⟩))
        (x.decisionClaimed c now)
  | authorityClaimed {c : ClaimAuthorityArgs}
      (h : authorityClaimable c revokedTokens now a x = true)
      (hw : x.run.workerIdentity = some c.workerIdentity)
      (hd : (x.decision.claimOwner.isNone || leaseLapsed now x.decision.claimExpiresAt) = true) :
      Effect revokedTokens now a x (.claimAuthority c)
        (.authority (some (authorityLease c a (x.dispatch.claimedFor c now))))
        (x.authorityClaimed c now)
  | started {c : MarkStartedArgs} (h : decisionStartable c revokedTokens now a x = true)
      (hw : x.run.workerIdentity = some c.workerIdentity) :
      Effect revokedTokens now a x (.markStarted c) (.done true) (x.started c now)
  | authorityReleased {c : ReleaseAuthorityArgs} (h : authorityReleasable c x = true) :
      Effect revokedTokens now a x (.releaseAuthority c) (.done true) x.authorityReleased
  | decisionReleased {c : ReleaseDecisionClaimArgs}
      (h : x.decision.claimedWith c.workerIdentity c.claimToken = true)
      (hn : x.decision.consumedAt.isNone = true) :
      Effect revokedTokens now a x (.releaseDecisionClaim c) (.done true) x.decisionReleased
  | startAborted {c : AbortStartArgs} (hc : c.check = .ok ()) (h : startAbortable c x = true)
      (hn : x.decision.consumedAt.isNone = true) :
      Effect revokedTokens now a x (.abortStart c) (.done true) (x.startAborted c now)
  | finished {c : FinishArgs} (hc : c.complete = true)
      (h : finishAllowed c revokedTokens now a x = true) :
      Effect revokedTokens now a x (.finish c) (.done true) (x.finished c now)
  | dispatchClaimed {c : ClaimDispatchArgs} (h : dispatchClaimable c now a x = true) :
      Effect revokedTokens now a x (.claimDispatch c)
        (.dispatchLease (some ⟨c.executionId, c.organizationId, c.workerIdentity, c.token,
          now + seconds c.leaseSeconds, x.dispatch.attemptCount + 1⟩))
        (x.dispatchClaimed c now)
  | leaseRenewed {c : RenewLeaseArgs} (h : leaseRenewable c revokedTokens now a x = true) :
      Effect revokedTokens now a x (.renewLease c) (.leaseExpiry (some (renewedUntil c now x)))
        (x.leasedUntil (renewedUntil c now x))
  | cancellationAcknowledged {c : AcknowledgeArgs}
      (h : cancellationAcknowledgeable c a x = true) (hr : x.run.state.isTerminal = false) :
      Effect revokedTokens now a x (.acknowledge c) (.done true) (x.cancellationAcknowledged now)
  | reaped {c : ReapArgs} (hc : c.check = .ok ())
      (h : expiredOrRevoked revokedTokens now a x = true) (hr : x.run.state.isTerminal = false)
      (hd : x.dispatch.state.isTerminal = false) :
      Effect revokedTokens now a x (.reap c) (.done true) (x.reaped c now)
  | dispatchSettled {c : SettleDispatchArgs}
      (hv : isValidExecutionTerminalOutcome c.runState c.message = true)
      (h : dispatchSettleable c revokedTokens now a x = true) :
      Effect revokedTokens now a x (.settleDispatch c) (.done true) (x.dispatchSettled c now)
  | runSettled {c : TransitionRunArgs} {d : DispatchState}
      (he : c.newState ∈ executionRunTransitions x.run.state)
      (hf : dispatchFence c now a x = true)
      (ha : authorityCurrent revokedTokens now a x = true)
      (hd : terminalDispatchState c.newState = some d)
      (hv : isValidExecutionTerminalOutcome c.newState c.reasonCode = true) :
      Effect revokedTokens now a x (.transitionRun c) (.done true) (x.runSettled c d now)
  | runMoved {c : TransitionRunArgs} (he : c.newState ∈ executionRunTransitions x.run.state)
      (hf : dispatchFence c now a x = true)
      (ha : authorityCurrent revokedTokens now a x = true)
      (ht : c.newState.isTerminal = false) :
      Effect revokedTokens now a x (.transitionRun c) (.done true) (x.runMoved c now)
  | decisionRevoked {c : RevokeDecisionArgs} (hc : c.check = .ok ())
      (h : x.decision.revokedAt.isSome = false) :
      Effect revokedTokens now a x (.revokeDecision c) (.done true)
        ((x.revoked now).cancelBeforeDispatch now)
  | requestRevoked {c : RevokeRequestArgs} (hc : c.complete = true) :
      Effect revokedTokens now a x (.revokeRequest c) (.done true)
        ((x.requestRevoked now).cancelBeforeDispatch now)
  | recoverySettled {c : SettleRecoveryArgs} {jobEmpty : Bool} (t : RecoveryAttempt)
      (hc : c.check = .ok ()) (h : recoverySettleable c jobEmpty now a x = true)
      (hd : x.dispatch.state.isTerminal = false) (hr : x.run.state.isTerminal = false) :
      Effect revokedTokens now a x (.settleRecovery c jobEmpty) (.done true)
        { x.recoverySettled c (recoveryProof c now a x) now with attempts := t :: x.attempts }
  | terminationSettled {c : SettleConfirmedArgs} {jobEmpty : Bool} (t : RecoveryAttempt)
      (hc : c.check = .ok ()) (hg : c.complete = true) (hb : settlementBinding c a x = true)
      (ho : x.ownership.ownershipState ≠ .terminal)
      (h : confirmedSettleable c revokedTokens jobEmpty now a x = true) :
      Effect revokedTokens now a x (.settleConfirmed c jobEmpty) (.done true)
        { x.settledAfterTermination c (terminationProof c now a x) now with
          attempts := t :: x.attempts }

/-! ### The inversion -/

/-- A response comes from a row function's result. -/
theorem respond_ok {α : Type} {f : α → Response} {u : Except DbError (α × Rows)} {r : Response}
    {y : Rows} : ExecutionCall.respond f u = .ok (r, y) ↔ ∃ v, u = .ok (v, y) ∧ r = f v := by
  unfold ExecutionCall.respond
  rw [Checked.map_ok]
  constructor
  · rintro ⟨⟨v, z⟩, hv, he⟩
    cases he
    exact ⟨v, hv, rfl⟩
  · rintro ⟨v, hv, rfl⟩
    exact ⟨(v, y), hv, rfl⟩

variable {revokedTokens : List String} {now : Instant} {a : Authority} {x y : Rows}

/-- A call that answers `False` or nothing keeps the rows. -/
theorem Effect.keptOf {c : ExecutionCall} {r : Response} (hr : r.granted = false) (hy : y = x) :
    Effect revokedTokens now a x c r y := by
  subst hy
  exact .kept fun h => absurd h (by simp [hr])

/-- A call on ownership or recovery leaves the authority rows. -/
theorem Effect.besideOf {c : ExecutionCall} {r : Response} (hc : c.isBeside = true)
    (h : BesideEffect now a x c r y) : Effect revokedTokens now a x c r y :=
  .beside hc h.same h

/-- What a recorder does. -/
theorem BesideEffect.ofObservation {c : ExecutionCall} {o : RecoveryObservation} {b : Bool}
    (hc : c.observation = some o)
    (h : (b = false ∧ y = x) ∨ (x.recovery.open = true ∧ (y = x ∨ b = true ∧ ∃ t, y = { x with
      recovery := x.recovery.observed o now
      attempts := t :: x.attempts }))) : BesideEffect now a x c (.done b) y := by
  rcases h with ⟨rfl, rfl⟩ | ⟨ho, rfl | ⟨rfl, t, rfl⟩⟩
  · exact .refused rfl
  · exact .observationKept hc ho
  · exact .observed t hc ho

/-- Every call returns in one of the listed ways. -/
theorem apply_effect {c : ExecutionCall} {r : Response}
    (h : c.apply revokedTokens now a x = .ok (r, y)) : Effect revokedTokens now a x c r y := by
  cases c with
  | claimDecision c =>
      obtain ⟨v, hv, rfl⟩ := respond_ok.mp h
      rcases claimExecutionDecision_ok hv with ⟨rfl, hy⟩ | ⟨hg, rfl, rfl⟩
      · exact .keptOf rfl hy
      · exact .decisionClaimed hg
  | claimAuthority c =>
      obtain ⟨v, hv, rfl⟩ := respond_ok.mp h
      rcases claimExecutionAuthority_ok hv with ⟨rfl, hy⟩ | ⟨hg, hw, hd, rfl, rfl⟩
      · exact .keptOf rfl hy
      · exact .authorityClaimed hg hw hd
  | markStarted c =>
      obtain ⟨v, hv, rfl⟩ := respond_ok.mp h
      rcases markExecutionDecisionStarted_ok hv with ⟨rfl, hy⟩ | ⟨hg, hw, rfl, rfl⟩
      · exact .keptOf rfl hy
      · exact .started hg hw
  | releaseAuthority c =>
      obtain ⟨v, hv, rfl⟩ := respond_ok.mp h
      rcases releaseExecutionAuthority_ok hv with ⟨rfl, hy⟩ | ⟨hg, rfl, rfl⟩
      · exact .keptOf rfl hy
      · exact .authorityReleased hg
  | releaseDecisionClaim c =>
      obtain ⟨v, hv, rfl⟩ := respond_ok.mp h
      rcases releaseExecutionDecisionClaim_ok hv with ⟨rfl, hy⟩ | ⟨hg, hn, rfl, rfl⟩
      · exact .keptOf rfl hy
      · exact .decisionReleased hg hn
  | abortStart c =>
      obtain ⟨v, hv, rfl⟩ := respond_ok.mp h
      rcases abortExecutionStart_ok hv with ⟨rfl, hy⟩ | ⟨hc, hg, hn, rfl, rfl⟩
      · exact .keptOf rfl hy
      · exact .startAborted hc hg hn
  | finish c =>
      obtain ⟨v, hv, rfl⟩ := respond_ok.mp h
      rcases finishExecution_ok hv with ⟨rfl, -⟩ | ⟨hc, hg, rfl, rfl⟩
      · exact .kept fun _ => rfl
      · exact .finished hc hg
  | claimDispatch c =>
      obtain ⟨v, hv, rfl⟩ := respond_ok.mp h
      rcases claimExecutionDispatchIntent_ok hv with ⟨rfl, hy⟩ | ⟨hg, rfl, rfl⟩
      · exact .keptOf rfl hy
      · exact .dispatchClaimed hg
  | renewLease c =>
      obtain ⟨v, hv, rfl⟩ := respond_ok.mp h
      rcases renewExecutionDispatchLease_ok hv with ⟨rfl, hy⟩ | ⟨hg, rfl, rfl⟩
      · exact .keptOf rfl hy
      · exact .leaseRenewed hg
  | acknowledge c =>
      obtain ⟨v, hv, rfl⟩ := respond_ok.mp h
      rcases acknowledgeExecutionCancellation_ok hv with ⟨rfl, hy⟩ | ⟨hg, hr, rfl, rfl⟩
      · exact .keptOf rfl hy
      · exact .cancellationAcknowledged hg hr
  | reap c =>
      obtain ⟨v, hv, rfl⟩ := respond_ok.mp h
      rcases reapExecutionDispatch_ok hv with ⟨rfl, hy⟩ | ⟨hc, hg, hr, hd, rfl, rfl⟩
      · exact .keptOf rfl hy
      · exact .reaped hc hg hr hd
  | settleDispatch c =>
      obtain ⟨v, hv, rfl⟩ := respond_ok.mp h
      rcases settleExecutionDispatchIntent_ok hv with ⟨rfl, hy⟩ | ⟨ho, hg, rfl, rfl⟩
      · exact .keptOf rfl hy
      · exact .dispatchSettled ho hg
  | transitionRun c =>
      obtain ⟨v, hv, rfl⟩ := respond_ok.mp h
      rcases transitionExecutionRun_ok hv with
        ⟨rfl, hy⟩ | ⟨he, hf, ha, rfl, ⟨d, hd, ho, rfl⟩ | ⟨ht, rfl⟩⟩
      · exact .keptOf rfl hy
      · exact .runSettled he hf ha hd ho
      · exact .runMoved he hf ha ht
  | revokeDecision c =>
      obtain ⟨v, hv, rfl⟩ := respond_ok.mp h
      rcases revokeExecutionDecision_ok hv with ⟨rfl, hy⟩ | ⟨hc, hn, rfl, rfl⟩
      · exact .keptOf rfl hy
      · exact .decisionRevoked hc hn
  | revokeRequest c =>
      obtain ⟨v, hv, rfl⟩ := respond_ok.mp h
      rcases revokeExecutionRequest_ok hv with ⟨rfl, hy⟩ | ⟨hc, rfl, rfl⟩
      · exact .keptOf rfl hy
      · exact .requestRevoked hc
  | transitionOwnership c =>
      obtain ⟨v, hv, rfl⟩ := respond_ok.mp h
      refine .besideOf rfl ?_
      rcases transitionProcessOwnership_ok hv with ⟨rfl, rfl⟩ | ⟨ht, hr, rfl⟩ | ⟨hm, rfl, rfl⟩
      · exact .refused rfl
      · exact .ownershipReplayed ht hr
      · exact .ownershipMoved hm
  | blockCommitted c =>
      obtain ⟨v, hv, rfl⟩ := respond_ok.mp h
      refine .besideOf rfl ?_
      rcases transitionCommittedProcessToRecoveryBlocked_ok hv with ⟨rfl, rfl⟩ | ⟨hb, rfl, rfl⟩
      · exact .refused rfl
      · exact .processBlocked hb
  | claimRecovery c =>
      obtain ⟨v, hv, rfl⟩ := respond_ok.mp h
      refine .besideOf rfl ?_
      rcases claimRecovery_ok hv with ⟨rfl, rfl⟩ | ⟨hc, rfl, t, ht, rfl⟩
      · exact .refused rfl
      · exact .recoveryClaimed t hc ht
  | renewRecovery c =>
      obtain ⟨v, hv, rfl⟩ := respond_ok.mp h
      refine .besideOf rfl ?_
      rcases renewRecovery_ok hv with ⟨rfl, rfl⟩ | ⟨hl, rfl, rfl⟩
      · exact .refused rfl
      · exact .recoveryRenewed hl
  | completeRecovery c =>
      obtain ⟨v, hv, rfl⟩ := respond_ok.mp h
      refine .besideOf rfl ?_
      rcases completeRecovery_ok hv with ⟨rfl, rfl⟩ | ⟨hc, hl, rfl, t, rfl⟩
      · exact .refused rfl
      · exact .recoveryCompleted t hc hl
  | recordUnconfirmed c =>
      obtain ⟨v, hv, rfl⟩ := respond_ok.mp h
      exact .besideOf rfl (.ofObservation rfl (recordUnconfirmedGovernedRecovery_ok hv))
  | recordUnavailable c =>
      obtain ⟨v, hv, rfl⟩ := respond_ok.mp h
      exact .besideOf rfl (.ofObservation rfl (recordUnavailableGovernedRecovery_ok hv))
  | settleRecovery c jobEmpty =>
      obtain ⟨v, hv, rfl⟩ := respond_ok.mp h
      rcases settleRecoveryExecution_ok hv with ⟨rfl, hy⟩ | ⟨hc, hg, hd, hr, rfl, rfl⟩
      · exact .keptOf rfl hy
      · exact .recoverySettled _ hc hg hd hr
  | settleConfirmed c jobEmpty =>
      obtain ⟨v, hv, rfl⟩ := respond_ok.mp h
      rcases settleExecutionAfterConfirmedTermination_ok hv with
        ⟨rfl, -⟩ | ⟨hc, hg, hb, ho, hs, rfl, rfl⟩
      · exact .kept fun _ => rfl
      · exact .terminationSettled _ hc hg hb ho hs

/-! ### Expiries -/

theorem revoked_expiries (x : Rows) (now : Instant) :
    (x.revoked now).request.expiresAt = x.request.expiresAt := by
  change x.request.revoked.expiresAt = _
  unfold RequestRow.revoked
  split <;> rfl

/-- No call writes an expiry. -/
theorem Effect.expiries {r : Response} {y : Rows} {c : ExecutionCall}
    (h : Effect revokedTokens now a x c r y) :
    y.request.expiresAt = x.request.expiresAt ∧ y.decision.expiresAt = x.decision.expiresAt := by
  cases h with
  | beside _ hs => exact ⟨by rw [hs.request], by rw [hs.decision]⟩
  | decisionRevoked =>
      unfold Rows.cancelBeforeDispatch
      split <;> exact ⟨revoked_expiries x now, rfl⟩
  | requestRevoked =>
      unfold Rows.cancelBeforeDispatch
      split <;> exact ⟨rfl, rfl⟩
  | _ => exact ⟨rfl, rfl⟩

end CyberAssess
