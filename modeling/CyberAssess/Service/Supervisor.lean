import CyberAssess.Service.Settle
import CyberAssess.Support.Utf8

/-!
# Service — one supervised process

`ProcessSupervisor.execute` of `core/process_supervisor.py`, for a governed command whose launch is
committed: its output is drained under a cap, its end is classified, and the run is settled.

* `supervise` reads the pipes and polls the process, `boundedCommunicate` adds the markers to the
  text on `stderr`.
* `ProcessExecutionResult.executionStatus` reads the markers back.
* `classify` chooses what is settled and what is returned.
* `SupervisedRun.execute` is the whole of it.

`[about ours]`: the pipes, the clock, the kills and the answers of the lease renewal are given, in
the order they come in.  The process has an identity, without which no launch is committed.
-/

namespace CyberAssess

/-! ### The result -/

/-- `ProcessExecutionStatus`. -/
inductive ProcessExecutionStatus where
  | completed | failed | timedOut | cancelled | outputLimitExceeded | notFound | permissionDenied
  | securityRejected | launchUncertain
deriving DecidableEq, Repr

/-- `ProcessExecutionResult`. -/
structure ProcessExecutionResult where
  returncode : Int
  stdout : String
  stderr : String
deriving DecidableEq, Repr

/-- `text.startswith(marker)`. -/
def startsWith (text marker : String) : Bool := marker.toList.isPrefixOf text.toList

/-- `execution_status`. -/
def ProcessExecutionResult.executionStatus (r : ProcessExecutionResult) :
    ProcessExecutionStatus :=
  if startsWith r.stderr "PROCESS_LAUNCH_UNCERTAIN" then .launchUncertain
  else if startsWith r.stderr "PROCESS_LAUNCH_REJECTED_SECURITY" then .securityRejected
  else if startsWith r.stderr "PROCESS_TERMINATION_UNCONFIRMED" then .launchUncertain
  else if startsWith r.stderr "PROCESS_LAUNCH_CANCELLED" then .cancelled
  else if startsWith r.stderr "Output exceeded maximum" then .outputLimitExceeded
  else if startsWith r.stderr "Execution timed out" then .timedOut
  else if r.returncode = 127 && startsWith r.stderr "Executable not found" then .notFound
  else if r.returncode = 126 && startsWith r.stderr "Permission denied" then .permissionDenied
  else if r.returncode = 0 then .completed
  else .failed

/-! ### Draining the pipes -/

/-- The two pipes. -/
inductive Pipe where
  | stdout | stderr
deriving DecidableEq, Repr

/-- What the readers share. -/
structure Captured where
  stdout : List UInt8
  stderr : List UInt8
  totalBytes : Nat
  limitReached : Bool
deriving DecidableEq, Repr

/-- One chunk of one pipe, under the combined cap. -/
def Captured.read (c : Captured) (maxOutputBytes : Nat) (pipe : Pipe) (chunk : List UInt8) :
    Captured :=
  let remaining := maxOutputBytes - c.totalBytes
  let kept := chunk.take remaining
  { stdout := if pipe = .stdout then c.stdout ++ kept else c.stdout
    stderr := if pipe = .stderr then c.stderr ++ kept else c.stderr
    totalBytes := c.totalBytes + kept.length
    limitReached := c.limitReached || decide (remaining < chunk.length) }

/-- What one turn of the polling loop finds, and what its kill would answer. -/
structure Poll where
  exited : Bool
  cancellationRequested : Bool
  timedOut : Bool
  renewalDue : Bool
  renewed : Bool
  killed : Bool
deriving DecidableEq, Repr

/-- What ended the loop. -/
inductive LoopExit where
  | exited | cancelled | limitReached | timedOut | leaseLost
deriving DecidableEq, Repr

/-- The tests of one turn, in their order. -/
def Poll.ends (p : Poll) (limitReached : Bool) : Option LoopExit :=
  if p.exited then some .exited
  else if p.cancellationRequested then some .cancelled
  else if limitReached then some .limitReached
  else if p.timedOut then some .timedOut
  else if p.renewalDue && !p.renewed then some .leaseLost
  else none

/-- What the readers and the loop do, in one order. -/
inductive DrainEvent where
  | read (pipe : Pipe) (chunk : List UInt8)
  | readRaises
  | poll (p : Poll)
deriving DecidableEq, Repr

/-- The readers, and the loop once it ended with its `termination_confirmed`. -/
structure Supervision where
  captured : Captured
  ended : Option (LoopExit × Bool)
deriving DecidableEq, Repr

/-- Before anything was read. -/
def Supervision.initial : Supervision := ⟨⟨[], [], 0, false⟩, none⟩

/-- One event; a reader that raises sets the limit flag. -/
def Supervision.step (maxOutputBytes : Nat) (s : Supervision) : DrainEvent → Supervision
  | .read pipe chunk => { s with captured := s.captured.read maxOutputBytes pipe chunk }
  | .readRaises => { s with captured := { s.captured with limitReached := true } }
  | .poll p =>
      match s.ended with
      | some _ => s
      | none =>
          { s with ended := (p.ends s.captured.limitReached).map fun x =>
              (x, decide (x = .exited) || p.killed) }

/-- The readers and the polling loop of `_bounded_communicate`. -/
def supervise (maxOutputBytes : Nat) (events : List DrainEvent) : Supervision :=
  events.foldl (Supervision.step maxOutputBytes) .initial

/-- The waits and kills after the loop, in their order. -/
structure Teardown where
  exited : Bool
  killed : Bool
  exitedAfterKill : Bool
  killedAgain : Bool
  exitedAfterAgain : Bool
  rootExited : Bool
  treeEmpty : Bool
  closed : Bool
deriving DecidableEq, Repr

/-- `termination_confirmed` after them. -/
def Teardown.terminationConfirmed (t : Teardown) (confirmed : Bool) : Bool :=
  let waited := if t.exited then confirmed else t.exitedAfterKill && (t.killed && confirmed)
  let retried := waited || (t.killedAgain && t.exitedAfterAgain)
  if t.rootExited && !t.treeEmpty then t.closed && retried else retried

/-- `marker + (f"\n{stderr}" if stderr else "")`. -/
def marked (marker stderr : String) : String :=
  marker ++ (if stderr.isEmpty then "" else "\n" ++ stderr)

/-- `f"Output exceeded maximum of {max_output_bytes} bytes"`. -/
def outputLimitMarker (maxOutputBytes : Nat) : String :=
  "Output exceeded maximum of " ++ toString maxOutputBytes ++ " bytes"

/-- What `_bounded_communicate` returns. -/
structure Communicated where
  stdout : String
  stderr : String
  boundedFailure : Bool
  terminationConfirmed : Bool
deriving DecidableEq, Repr

/-- `_bounded_communicate`, once its loop has ended; `timeout` is the timeout as it is printed. -/
def boundedCommunicate (maxOutputBytes : Nat) (timeout : String) (events : List DrainEvent)
    (t : Teardown) : Option Communicated :=
  let s := supervise maxOutputBytes events
  s.ended.map fun (exit, confirmed) =>
    let stderr := Utf8.decode s.captured.stderr
    let stderr :=
      if s.captured.limitReached then marked (outputLimitMarker maxOutputBytes) stderr else stderr
    let stderr :=
      if exit = .timedOut then marked ("Execution timed out after " ++ timeout ++ " seconds") stderr
      else stderr
    let stderr :=
      if exit = .leaseLost then marked "Execution lease renewal failed" stderr else stderr
    { stdout := Utf8.decode s.captured.stdout
      stderr := stderr
      boundedFailure := s.captured.limitReached || decide (exit = .timedOut) ||
        decide (exit = .leaseLost) || decide (exit = .cancelled)
      terminationConfirmed := t.terminationConfirmed confirmed }

/-! ### An uncertain process -/

/-- What an uncertain launch records of its process. -/
structure UncertainProcess where
  ownershipState : OwnershipState
  containerType : ContainerType
  containerIdentity : Option String
  rootProcessId : Option Int
  rootProcessStartToken : Option String
  processGroupId : Option String
  sessionId : Option String
  identityAttestation : Option Attestation
deriving DecidableEq, Repr

/-- The record of it. -/
def UncertainProcess.record (u : UncertainProcess) (k : ExecutionCapability)
    (correlationId : String) (now : Instant) : OwnershipRecord where
  ownershipState := u.ownershipState
  containerType := u.containerType
  containerIdentity := u.containerIdentity
  rootProcessId := u.rootProcessId
  rootProcessStartToken := u.rootProcessStartToken
  processGroupId := u.processGroupId
  sessionId := u.sessionId
  workerGeneration := some k.workerGeneration
  launchCommitState := .uncertain
  noProcessProof := none
  identityAttestation := u.identityAttestation
  correlationId := correlationId
  launchedAt := none
  lastVerifiedAt := some now
  terminalizedAt := none
  updatedAt := now

/-- `record_launch_uncertain`: the uncertain record, or where a launch was committed the block of
the committed process. -/
def recordLaunchUncertain (k : ExecutionCapability) (u : UncertainProcess) (now : Instant)
    (db : Db) : Except DbError (Bool × Db) :=
  match k.executionId, durableExecutionEvidence k db with
  | some executionId, some e => do
      let (recorded, db) ← db.execute
        (.transitionOwnership
          { executionId := executionId
            organizationId := k.organizationId
            record := u.record k e.fixed.run.correlationId now
            expectedState := .unknown
            workerIdentity := some k.workerIdentity })
        now
      if recorded.granted then .ok (true, db)
      else
        (db.execute
          (.blockCommitted
            { executionId := executionId
              organizationId := k.organizationId
              workerIdentity := k.workerIdentity
              workerGeneration := k.workerGeneration })
          now).map fun r => (r.1.granted, r.2)
  | _, _ => .ok (false, db)

/-- A result without output that carries one marker. -/
def failedResult (stdout stderr : String) : ProcessExecutionResult := ⟨-1, stdout, stderr⟩

/-- What is returned when the process could not be recorded as uncertain, and when it was. -/
def uncertainResult (k : ExecutionCapability) (u : UncertainProcess) (now : Instant) (db : Db)
    (unrecorded recorded : ProcessExecutionResult) : ProcessExecutionResult × Db :=
  match recordLaunchUncertain k u now db with
  | .ok (true, db') => (recorded, db')
  | .ok (false, db') => (unrecorded, db')
  | .error _ => (unrecorded, db)

/-! ### The end of the process -/

/-- What the supervisor settles, and what it returns when that is durable. -/
structure Finalization where
  terminalState : RunState
  reasonCode : Option ReasonCode
  terminationStatus : Option TerminationStatus
  result : ProcessExecutionResult
deriving DecidableEq, Repr

/-- `"Output exceeded maximum" in stderr`, of any marker. -/
def contains (text marker : String) : Bool := (cutText marker.toList text.toList).2.isSome

/-- The classification after the process has ended and its container is empty. -/
def classify (c : Communicated) (cancellationRequested exited : Bool) (returncode : Int) :
    Finalization :=
  if cancellationRequested then
    ⟨.cancelled, some .executionCancelled, some (if exited then .alreadyExited else .killed),
      ⟨130, c.stdout, marked "PROCESS_LAUNCH_CANCELLED: cancellation was requested" c.stderr⟩⟩
  else if contains c.stderr "Output exceeded maximum" then
    ⟨.partialResultsWithWarning, some .outputLimitExceeded, none, failedResult c.stdout c.stderr⟩
  else if c.boundedFailure && contains c.stderr "Execution timed out" then
    ⟨.timedOut, some .executionTimeout, none, failedResult c.stdout c.stderr⟩
  else if c.boundedFailure && contains c.stderr "Execution lease renewal failed" then
    ⟨.failed, some .executionLeaseRenewalFailed, none, failedResult c.stdout c.stderr⟩
  else
    ⟨if returncode = 0 then .succeeded else .failed,
      if returncode = 0 then none else some .processExitNonzero, none,
      ⟨returncode, c.stdout, c.stderr⟩⟩

/-- What the supervisor finds once the pipes are drained. -/
structure Aftermath where
  treeEmpty : Bool
  killed : Bool
  treeEmptyAfterKill : Bool
  cancellationRequested : Bool
  exited : Bool
  returncode : Int
  killedAfterException : Bool
  uncertain : UncertainProcess
deriving DecidableEq, Repr

/-- A governed process, and everything its supervisor meets. -/
structure SupervisedRun where
  capability : ExecutionCapability
  processId : Int
  processGroupId : Option String
  processStartToken : String
  sessionId : Option Int
  maxOutputBytes : Nat
  timeout : String
  events : List DrainEvent
  teardown : Teardown
  aftermath : Aftermath
  jobEmpty : Bool
  attemptId : String
  now : Instant
  db : Db

namespace SupervisedRun

variable (r : SupervisedRun)

/-- `_bounded_communicate`. -/
def communicated : Option Communicated :=
  boundedCommunicate r.maxOutputBytes r.timeout r.events r.teardown

/-- What the supervisor knows of the process. -/
def identity : IdentityArgs :=
  ⟨some r.processId, r.processGroupId, some r.processStartToken, r.sessionId⟩

/-- `_finish_durable`, as the call it makes. -/
def settlement (f : Finalization) : Except DbError (Bool × Db) :=
  settleExecution r.capability
    { terminalState := f.terminalState
      reasonCode := f.reasonCode
      identity := r.identity
      terminationStatus := f.terminationStatus }
    r.jobEmpty r.attemptId r.now r.db

/-- `except Exception`, with a process. -/
def afterException : ProcessExecutionResult × Db :=
  uncertainResult r.capability r.aftermath.uncertain r.now r.db
    (failedResult ""
      "PROCESS_FINALIZATION_FAILED: post-Popen exception uncertainty was not committed")
    (failedResult ""
      (if r.aftermath.killedAfterException then
        "PROCESS_LAUNCH_UNCERTAIN: post-launch exception requires recovery"
      else "PROCESS_TERMINATION_UNCONFIRMED: process tree remains active"))

/-- `_finish_durable`, and the result after it. -/
def finalize (f : Finalization) : ProcessExecutionResult × Db :=
  match r.settlement f with
  | .ok (true, db') => (f.result, db')
  | .ok (false, db') =>
      (failedResult "" "PROCESS_FINALIZATION_FAILED: durable terminal state was not committed", db')
  | .error _ => r.afterException

/-- From the drained pipes to the result. -/
def finish (c : Communicated) : ProcessExecutionResult × Db :=
  let a := r.aftermath
  if c.boundedFailure && !c.terminationConfirmed then
    uncertainResult r.capability a.uncertain r.now r.db
      (failedResult c.stdout
        "PROCESS_FINALIZATION_FAILED: bounded-execution uncertainty was not committed")
      (failedResult c.stdout
        ("PROCESS_TERMINATION_UNCONFIRMED: process tree remains active\n" ++ c.stderr))
  else if !a.treeEmpty && !(a.killed && a.treeEmptyAfterKill) then
    uncertainResult r.capability a.uncertain r.now r.db
      (failedResult c.stdout
        "PROCESS_FINALIZATION_FAILED: process-container uncertainty was not committed")
      (failedResult c.stdout "PROCESS_LAUNCH_UNCERTAIN: owned process container is not empty")
  else r.finalize (classify c a.cancellationRequested a.exited a.returncode)

/-- `execute`, from the committed launch on. -/
def execute : Option (ProcessExecutionResult × Db) := r.communicated.map r.finish

end SupervisedRun

end CyberAssess
