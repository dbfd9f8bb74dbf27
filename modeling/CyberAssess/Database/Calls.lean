import CyberAssess.Execution.Dispatch
import CyberAssess.Execution.Settlement

/-!
# Database — the calls on one execution

Every call of `core/db.py` that addresses one approved execution, with its arguments, as one
type, so that a run of the database is a list of calls.

* `ExecutionCall.apply` is the call on the rows it addresses.
* `ExecutionCall.key` and `organizationId` are the columns its `WHERE` finds them by, `missing`
  what it returns when there are none.
* `Response` is what a call returns, `Response.granted` whether it did what it is for.
-/

namespace CyberAssess

/-- What a call returns. -/
inductive Response where
  | done (b : Bool)
  | decisionClaim (claim : Option ExecutionLeaseClaim)
  | authority (lease : Option ExecutionAuthorityLease)
  | dispatchLease (lease : Option ExecutionDispatchLease)
  | leaseExpiry (expiresAt : Option Instant)
  | recoveryLease (lease : Option RecoveryLease)
deriving DecidableEq, Repr

/-- The call did what it is for. -/
def Response.granted : Response → Bool
  | .done b => b
  | .decisionClaim c => c.isSome
  | .authority l => l.isSome
  | .dispatchLease l => l.isSome
  | .leaseExpiry t => t.isSome
  | .recoveryLease l => l.isSome

/-- The calls on one execution. -/
inductive ExecutionCall where
  | claimDecision (c : ClaimDecisionArgs)
  | claimAuthority (c : ClaimAuthorityArgs)
  | markStarted (c : MarkStartedArgs)
  | releaseAuthority (c : ReleaseAuthorityArgs)
  | releaseDecisionClaim (c : ReleaseDecisionClaimArgs)
  | abortStart (c : AbortStartArgs)
  | finish (c : FinishArgs)
  | claimDispatch (c : ClaimDispatchArgs)
  | renewLease (c : RenewLeaseArgs)
  | acknowledge (c : AcknowledgeArgs)
  | reap (c : ReapArgs)
  | settleDispatch (c : SettleDispatchArgs)
  | transitionRun (c : TransitionRunArgs)
  | revokeDecision (c : RevokeDecisionArgs)
  | revokeRequest (c : RevokeRequestArgs)
  | transitionOwnership (c : TransitionOwnershipArgs)
  | blockCommitted (c : BlockCommittedArgs)
  | claimRecovery (c : ClaimRecoveryArgs)
  | renewRecovery (c : RenewRecoveryArgs)
  | completeRecovery (c : CompleteRecoveryArgs)
  | recordUnconfirmed (c : UnconfirmedRecoveryArgs)
  | recordUnavailable (c : UnavailableRecoveryArgs)
  | settleRecovery (c : SettleRecoveryArgs) (jobEmpty : Bool)
  | settleConfirmed (c : SettleConfirmedArgs) (jobEmpty : Bool)

namespace ExecutionCall

/-- The key the rows are found by, and its value. -/
def key : ExecutionCall → ExecutionKey × String
  | .claimDecision c => (.decision, c.decisionId)
  | .claimAuthority c => (.decision, c.decisionId)
  | .markStarted c => (.decision, c.decisionId)
  | .releaseAuthority c => (.decision, c.decisionId)
  | .releaseDecisionClaim c => (.decision, c.decisionId)
  | .abortStart c => (.decision, c.decisionId)
  | .revokeDecision c => (.decision, c.decisionId)
  | .revokeRequest c => (.request, c.requestId)
  | .finish c => (.execution, c.executionId)
  | .claimDispatch c => (.execution, c.executionId)
  | .renewLease c => (.execution, c.executionId)
  | .acknowledge c => (.execution, c.executionId)
  | .reap c => (.execution, c.executionId)
  | .settleDispatch c => (.execution, c.executionId)
  | .transitionRun c => (.execution, c.executionId)
  | .transitionOwnership c => (.execution, c.executionId)
  | .blockCommitted c => (.execution, c.executionId)
  | .claimRecovery c => (.execution, c.executionId)
  | .renewRecovery c => (.execution, c.executionId)
  | .completeRecovery c => (.execution, c.executionId)
  | .recordUnconfirmed c => (.execution, c.observation.executionId)
  | .recordUnavailable c => (.execution, c.observation.executionId)
  | .settleRecovery c _ => (.execution, c.executionId)
  | .settleConfirmed c _ => (.execution, c.executionId)

/-- The tenant of the call. -/
def organizationId : ExecutionCall → String
  | .claimDecision c => c.organizationId
  | .claimAuthority c => c.organizationId
  | .markStarted c => c.organizationId
  | .releaseAuthority c => c.organizationId
  | .releaseDecisionClaim c => c.organizationId
  | .abortStart c => c.organizationId
  | .revokeDecision c => c.organizationId
  | .revokeRequest c => c.organizationId
  | .finish c => c.organizationId
  | .claimDispatch c => c.organizationId
  | .renewLease c => c.organizationId
  | .acknowledge c => c.organizationId
  | .reap c => c.organizationId
  | .settleDispatch c => c.organizationId
  | .transitionRun c => c.organizationId
  | .transitionOwnership c => c.organizationId
  | .blockCommitted c => c.organizationId
  | .claimRecovery c => c.organizationId
  | .renewRecovery c => c.organizationId
  | .completeRecovery c => c.organizationId
  | .recordUnconfirmed c => c.observation.organizationId
  | .recordUnavailable c => c.observation.organizationId
  | .settleRecovery c _ => c.organizationId
  | .settleConfirmed c _ => c.organizationId

/-- What the call returns where its `WHERE` finds nothing. -/
def missing : ExecutionCall → Except DbError Response
  | .claimDecision _ => .ok (.decisionClaim none)
  | .claimAuthority _ => .ok (.authority none)
  | .renewLease _ => .ok (.leaseExpiry none)
  | .claimRecovery _ => .ok (.recoveryLease none)
  | .claimDispatch c => c.check.map fun _ => .dispatchLease none
  | .abortStart c => c.check.map fun _ => .done false
  | .reap c => c.check.map fun _ => .done false
  | .settleDispatch c => c.check.map fun _ => .done false
  | .revokeDecision c => c.check.map fun _ => .done false
  | .transitionOwnership c => c.check.map fun _ => .done false
  | .completeRecovery c => c.check.map fun _ => .done false
  | .recordUnconfirmed c => c.check.map fun _ => .done false
  | .recordUnavailable c => c.check.map fun _ => .done false
  | .settleRecovery c _ => c.check.map fun _ => .done false
  | .settleConfirmed c _ => c.check.map fun _ => .done false
  | _ => .ok (.done false)

/-- A row function's result, as a response. -/
def respond {α : Type} (f : α → Response) (x : Except DbError (α × Rows)) :
    Except DbError (Response × Rows) :=
  x.map fun p => (f p.1, p.2)

/-- The call on the rows it addresses. -/
def apply (revokedTokens : List String) (now : Instant) (a : Authority) (x : Rows) :
    ExecutionCall → Except DbError (Response × Rows)
  | .claimDecision c => respond .decisionClaim (claimExecutionDecision c now a x)
  | .claimAuthority c => respond .authority (claimExecutionAuthority c revokedTokens now a x)
  | .markStarted c => respond .done (markExecutionDecisionStarted c revokedTokens now a x)
  | .releaseAuthority c => respond .done (releaseExecutionAuthority c x)
  | .releaseDecisionClaim c => respond .done (releaseExecutionDecisionClaim c x)
  | .abortStart c => respond .done (abortExecutionStart c now x)
  | .finish c => respond .done (finishExecution c revokedTokens now a x)
  | .claimDispatch c => respond .dispatchLease (claimExecutionDispatchIntent c now a x)
  | .renewLease c => respond .leaseExpiry (renewExecutionDispatchLease c revokedTokens now a x)
  | .acknowledge c => respond .done (acknowledgeExecutionCancellation c now a x)
  | .reap c => respond .done (reapExecutionDispatch c revokedTokens now a x)
  | .settleDispatch c => respond .done (settleExecutionDispatchIntent c revokedTokens now a x)
  | .transitionRun c => respond .done (transitionExecutionRun c revokedTokens now a x)
  | .revokeDecision c => respond .done (revokeExecutionDecision c now x)
  | .revokeRequest c => respond .done (revokeExecutionRequest c now x)
  | .transitionOwnership c => respond .done (transitionProcessOwnership c a x)
  | .blockCommitted c => respond .done (transitionCommittedProcessToRecoveryBlocked c now a x)
  | .claimRecovery c => respond .recoveryLease (CyberAssess.claimRecovery c now a x)
  | .renewRecovery c => respond .done (CyberAssess.renewRecovery c now a x)
  | .completeRecovery c => respond .done (CyberAssess.completeRecovery c now a x)
  | .recordUnconfirmed c => respond .done (recordUnconfirmedGovernedRecovery c now a x)
  | .recordUnavailable c => respond .done (recordUnavailableGovernedRecovery c now a x)
  | .settleRecovery c jobEmpty => respond .done (settleRecoveryExecution c jobEmpty now a x)
  | .settleConfirmed c jobEmpty =>
      respond .done
        (settleExecutionAfterConfirmedTermination c revokedTokens jobEmpty now a x)

end ExecutionCall

end CyberAssess
