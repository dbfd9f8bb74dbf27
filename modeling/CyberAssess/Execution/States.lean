import Mathlib.Tactic.Common

/-!
# Execution — durable states and their tables

The state columns of an execution, with the tables `core/models.py` declares over them.

* `RunState` with `executionRunTransitions`, the edges of the run's state machine, and
  `RunState.isTerminal`.
* `ReasonCode`, the bounded registry of reasons, and `isValidExecutionTerminalOutcome`, the
  pairing of a terminal state with its reason.
* `DispatchState` with `terminalDispatchState`, the dispatch state a terminal run goes with.
* `OwnershipState` with `isValidProcessOwnershipTransition`.

`[about ours]`: a reason is a registered code or any other text; `other` is never built on the
name of a registered code.
-/

namespace CyberAssess

/-- Durable stamps, in microseconds of one UTC clock. -/
abbrev Instant := Nat

/-- `timedelta(seconds=n)`. -/
def seconds (n : Nat) : Nat := n * 1000000

/-- A span of some seconds is not empty. -/
theorem lt_add_seconds {n : Nat} (h : 0 < n) (now : Instant) : now < now + seconds n := by
  have positive : 0 < seconds n := by
    unfold seconds
    omega
  exact Nat.lt_add_of_pos_right positive

/-! ### The run -/

/-- `EXECUTION_RUN_STATES`. -/
inductive RunState where
  | requested | starting | running
  | succeeded | partialResultsWithWarning | failed | timedOut | cancelled | executionBlocked
deriving DecidableEq, Repr

/-- The stored text of a run state. -/
def RunState.text : RunState → String
  | .requested => "REQUESTED"
  | .starting => "STARTING"
  | .running => "RUNNING"
  | .succeeded => "SUCCEEDED"
  | .partialResultsWithWarning => "PARTIAL_RESULTS_WITH_WARNING"
  | .failed => "FAILED"
  | .timedOut => "TIMED_OUT"
  | .cancelled => "CANCELLED"
  | .executionBlocked => "EXECUTION_BLOCKED"

/-- `EXECUTION_RUN_TERMINAL_STATES`. -/
def RunState.isTerminal : RunState → Bool
  | .requested | .starting | .running => false
  | .succeeded | .partialResultsWithWarning | .failed | .timedOut | .cancelled
  | .executionBlocked => true

/-- `EXECUTION_RUN_TRANSITIONS`: the states each state may change to. -/
def executionRunTransitions : RunState → List RunState
  | .requested => [.starting, .cancelled, .executionBlocked]
  | .starting => [.running, .failed, .cancelled, .executionBlocked]
  | .running => [.succeeded, .partialResultsWithWarning, .failed, .timedOut, .cancelled]
  | _ => []

/-- No edge leaves a terminal state. -/
theorem executionRunTransitions_terminal {s : RunState} (h : s.isTerminal = true) :
    executionRunTransitions s = [] := by
  cases s <;> first | rfl | cases h

/-- `EXECUTION_REASON_CODES`, or a text outside it. -/
inductive ReasonCode where
  | executionAuthorityExpired
  | executionAuthorityReleased
  | executionAuthorityRevokedOrExpired
  | executionCancelledAcknowledged
  | executionCancelledBeforeDispatch
  | executionCancelledBeforeProcessCreation
  | executionCancelled
  | executionDecisionClaimRejected
  | executionDispatchFenceRequired
  | executionDispatchFailed
  | executionDispatchSettlementRequired
  | executionIdentityMismatch
  | executionLeaseRenewalFailed
  | executionTimeout
  | executableNotFound
  | executablePermissionDenied
  | linkedDispatchIntentMissing
  | outputLimitExceeded
  | processExecutionException
  | processExitNonzero
  | processLaunchRejectedSecurity
  | processLaunchUncertain
  | other (text : String)
deriving DecidableEq, Repr

/-- The stored text of a reason. -/
def ReasonCode.text : ReasonCode → String
  | .executionAuthorityExpired => "EXECUTION_AUTHORITY_EXPIRED"
  | .executionAuthorityReleased => "EXECUTION_AUTHORITY_RELEASED"
  | .executionAuthorityRevokedOrExpired => "EXECUTION_AUTHORITY_REVOKED_OR_EXPIRED"
  | .executionCancelledAcknowledged => "EXECUTION_CANCELLED_ACKNOWLEDGED"
  | .executionCancelledBeforeDispatch => "EXECUTION_CANCELLED_BEFORE_DISPATCH"
  | .executionCancelledBeforeProcessCreation => "EXECUTION_CANCELLED_BEFORE_PROCESS_CREATION"
  | .executionCancelled => "EXECUTION_CANCELLED"
  | .executionDecisionClaimRejected => "EXECUTION_DECISION_CLAIM_REJECTED"
  | .executionDispatchFenceRequired => "EXECUTION_DISPATCH_FENCE_REQUIRED"
  | .executionDispatchFailed => "EXECUTION_DISPATCH_FAILED"
  | .executionDispatchSettlementRequired => "EXECUTION_DISPATCH_SETTLEMENT_REQUIRED"
  | .executionIdentityMismatch => "EXECUTION_IDENTITY_MISMATCH"
  | .executionLeaseRenewalFailed => "EXECUTION_LEASE_RENEWAL_FAILED"
  | .executionTimeout => "EXECUTION_TIMEOUT"
  | .executableNotFound => "EXECUTABLE_NOT_FOUND"
  | .executablePermissionDenied => "EXECUTABLE_PERMISSION_DENIED"
  | .linkedDispatchIntentMissing => "LINKED_DISPATCH_INTENT_MISSING"
  | .outputLimitExceeded => "OUTPUT_LIMIT_EXCEEDED"
  | .processExecutionException => "PROCESS_EXECUTION_EXCEPTION"
  | .processExitNonzero => "PROCESS_EXIT_NONZERO"
  | .processLaunchRejectedSecurity => "PROCESS_LAUNCH_REJECTED_SECURITY"
  | .processLaunchUncertain => "PROCESS_LAUNCH_UNCERTAIN"
  | .other text => text

/-- `EXECUTION_TERMINAL_REASON_CODES`; no entry for the other states. -/
def executionTerminalReasonCodes : RunState → List ReasonCode
  | .succeeded => []
  | .partialResultsWithWarning => [.outputLimitExceeded]
  | .failed =>
      [.executionAuthorityExpired, .executionAuthorityRevokedOrExpired, .executionDispatchFailed,
        .executionLeaseRenewalFailed, .executableNotFound, .executablePermissionDenied,
        .linkedDispatchIntentMissing, .processExecutionException, .processExitNonzero,
        .processLaunchUncertain]
  | .timedOut => [.executionAuthorityExpired, .executionTimeout]
  | .cancelled =>
      [.executionCancelled, .executionCancelledAcknowledged, .executionCancelledBeforeDispatch,
        .executionCancelledBeforeProcessCreation]
  | .executionBlocked =>
      [.executionAuthorityRevokedOrExpired, .executionDecisionClaimRejected,
        .executionDispatchFenceRequired, .executionDispatchSettlementRequired,
        .executionIdentityMismatch, .processLaunchRejectedSecurity]
  | .requested | .starting | .running => []

/-- `is_valid_execution_terminal_outcome`: `SUCCEEDED` has no reason, every other terminal state
one of its own. -/
def isValidExecutionTerminalOutcome (terminalState : RunState) (reason : Option ReasonCode) :
    Bool :=
  terminalState.isTerminal &&
    if terminalState = .succeeded then reason.isNone
    else reason.any fun c => c ∈ executionTerminalReasonCodes terminalState

/-- A valid outcome is one of a terminal state. -/
theorem isTerminal_of_valid {s : RunState} {c : Option ReasonCode}
    (h : isValidExecutionTerminalOutcome s c = true) : s.isTerminal = true := by
  unfold isValidExecutionTerminalOutcome at h
  exact (Bool.and_eq_true_iff.mp h).1

/-- Success carries no reason. -/
theorem valid_succeeded {c : Option ReasonCode} :
    isValidExecutionTerminalOutcome .succeeded c = true ↔ c = none := by
  simp [isValidExecutionTerminalOutcome, RunState.isTerminal]

/-- Every terminal state but success carries a reason. -/
theorem exists_reason_of_valid {s : RunState} {c : Option ReasonCode}
    (h : isValidExecutionTerminalOutcome s c = true) (hs : s ≠ .succeeded) :
    ∃ r, c = some r := by
  unfold isValidExecutionTerminalOutcome at h
  cases c with
  | none => simp [hs] at h
  | some r => exact ⟨r, rfl⟩

/-! ### The dispatch intent -/

/-- The `CHECK` list of `execution_dispatch_intents.state`. -/
inductive DispatchState where
  | pending | claimed | completed | failed | blocked
deriving DecidableEq, Repr

/-- The stored text of a dispatch state. -/
def DispatchState.text : DispatchState → String
  | .pending => "PENDING"
  | .claimed => "CLAIMED"
  | .completed => "COMPLETED"
  | .failed => "FAILED"
  | .blocked => "BLOCKED"

def DispatchState.isTerminal : DispatchState → Bool
  | .pending | .claimed => false
  | .completed | .failed | .blocked => true

/-- The dispatch state each terminal run state goes with, as `transition_execution_run` has it. -/
def terminalDispatchState : RunState → Option DispatchState
  | .succeeded | .partialResultsWithWarning => some .completed
  | .failed | .timedOut => some .failed
  | .cancelled | .executionBlocked => some .blocked
  | .requested | .starting | .running => none

theorem terminalDispatchState_isSome (s : RunState) :
    (terminalDispatchState s).isSome = s.isTerminal := by
  cases s <;> rfl

theorem isTerminal_of_terminalDispatchState {s : RunState} {d : DispatchState}
    (h : terminalDispatchState s = some d) : d.isTerminal = true := by
  cases s <;> cases h <;> rfl

/-! ### Requests and decisions -/

/-- `execution_requests.state`. -/
inductive RequestState where
  | requested | authorized | revoked
deriving DecidableEq, Repr

/-- `execution_decisions.approval_state`: only `APPROVED` is ever written. -/
inductive ApprovalState where
  | approved | unapproved
deriving DecidableEq, Repr

/-- `ScanAuthorizationState`. -/
inductive ScanAuthorizationState where
  | requested | approved | dispatchable | revoked | expired | consumed
deriving DecidableEq, Repr

/-! ### Process ownership -/

/-- `ProcessOwnershipState`. -/
inductive OwnershipState where
  | unknown | noExternalProcess | externalProcessGoverned | launchUncertain | recoveryBlocked
  | terminal
deriving DecidableEq, Repr

/-- `ProcessContainerType`. -/
inductive ContainerType where
  | none | posixSession | windowsJob | processSet
deriving DecidableEq, Repr

/-- The stored text of a container type. -/
def ContainerType.text : ContainerType → String
  | .none => "NONE"
  | .posixSession => "POSIX_SESSION"
  | .windowsJob => "WINDOWS_JOB"
  | .processSet => "PROCESS_SET"

/-- `LaunchCommitState`. -/
inductive LaunchCommitState where
  | notAttempted | committed | uncertain
deriving DecidableEq, Repr

/-- The stored text of a launch state. -/
def LaunchCommitState.text : LaunchCommitState → String
  | .notAttempted => "NOT_ATTEMPTED"
  | .committed => "COMMITTED"
  | .uncertain => "UNCERTAIN"

/-- The stored text of an ownership state. -/
def OwnershipState.text : OwnershipState → String
  | .unknown => "UNKNOWN"
  | .noExternalProcess => "NO_EXTERNAL_PROCESS"
  | .externalProcessGoverned => "EXTERNAL_PROCESS_GOVERNED"
  | .launchUncertain => "LAUNCH_UNCERTAIN"
  | .recoveryBlocked => "RECOVERY_BLOCKED"
  | .terminal => "TERMINAL"

/-- `PROCESS_OWNERSHIP_TRANSITIONS`. -/
def processOwnershipTransitions : OwnershipState → List OwnershipState
  | .unknown => [.noExternalProcess, .externalProcessGoverned, .launchUncertain, .recoveryBlocked]
  | .noExternalProcess => [.terminal]
  | .externalProcessGoverned => [.recoveryBlocked, .terminal]
  | .launchUncertain => [.externalProcessGoverned, .noExternalProcess, .recoveryBlocked]
  | .recoveryBlocked => [.terminal]
  | .terminal => []

/-- `is_valid_process_ownership_transition`. -/
def isValidProcessOwnershipTransition (current requested : OwnershipState) : Bool :=
  requested = current || requested ∈ processOwnershipTransitions current

/-- A terminal ownership is never left. -/
theorem ownership_terminal_final {s : OwnershipState}
    (h : isValidProcessOwnershipTransition .terminal s = true) : s = .terminal := by
  cases s <;> first | rfl | cases h

/-! ### Recovery -/

/-- The `CHECK` list of the recovery statuses. -/
inductive RecoveryStatus where
  | requested | inProgress | confirmedTerminated | deferred | failed | escalated | exhausted
deriving DecidableEq, Repr

/-- The stored text of a recovery status. -/
def RecoveryStatus.text : RecoveryStatus → String
  | .requested => "REQUESTED"
  | .inProgress => "IN_PROGRESS"
  | .confirmedTerminated => "CONFIRMED_TERMINATED"
  | .deferred => "DEFERRED"
  | .failed => "FAILED"
  | .escalated => "ESCALATED"
  | .exhausted => "EXHAUSTED"

end CyberAssess
