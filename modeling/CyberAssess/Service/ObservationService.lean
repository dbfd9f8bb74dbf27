import CyberAssess.Service.GuardedCalls
import CyberAssess.Support.SingleFlight

/-!
# Service — the observation service

The guarded operations of `BackendObservationService` in `core/observation_service.py`: durable
writes and supervisor cancellations that run in threads of their own, and whoever waits for them.

* `consumeCompletion` is `_consume_durable_write_completion` and its sibling, `getOrSubmit` is
  `_get_or_submit_…`, `reconcileCompleted` is `_reconcile_completed_owned_operations`.
* `timeOut`, `interrupt` and `deliver` are the ends of a wait in `_durable_recovery_write` and
  `_owned_supervisor_cancellation`.
* `start` and the points of `stop` are the lifecycle.
* `perform` is one step of the service, of a thread, or of the event loop; `ObservationReachable`
  the states of its runs.

`[about ours]`: the code of a coroutine between two `await`s is one step, a thread that ends during
it ends before or after; the event loops the service is used from are numbered, one at a time; a
guarded method raises nothing but an `Exception`.
-/

namespace CyberAssess

open SingleFlight

/-! ### State -/

/-- What a guarded method raises: its class, and whether that is `TimeoutError`. -/
structure RaisedError where
  typeName : String
  isTimeout : Bool
deriving DecidableEq, Repr

/-- What a guarded method ends with. -/
abbrev Outcome (V : Type) := Except RaisedError V

/-- What an operation was submitted with: its call, the fingerprint of the request, the event loop
its completion returns to, and how many lifecycles had begun. -/
structure OwnedCall where
  call : GuardedCall
  requestFingerprint : String
  loop : Nat
  lifecycle : Nat

/-- The flags of an operation, and whether its completion callback has been called. -/
structure OperationMarks where
  callerTimedOut : Bool
  callerInterrupted : Bool
  shutdownPending : Bool
  announced : Bool
deriving DecidableEq, Repr

/-- A `_DurableWriteOperation` or `_SupervisorCancellationOperation`. -/
abbrev OwnedOperation (V : Type) :=
  SingleFlight.Operation String OwnedCall OperationMarks (Outcome V)

/-- The operations of one kind, and those pending. -/
abbrev OwnedRegistry (V : Type) := SingleFlight.Registry String OwnedCall OperationMarks (Outcome V)

/-- How a wait ends. -/
inductive Answer (V : Type) where
  | outcome (result : Outcome V)
  | timedOut
  | interrupted

/-- A caller of `_durable_recovery_write` or `_owned_supervisor_cancellation`, the operation it
waits for, and how that ended. -/
structure Waiter (V : Type) where
  call : GuardedCall
  operation : Nat
  loop : Nat
  answer : Option (Answer V)

/-- What a call of `stop` waits for. -/
inductive StopPoint where
  | lifecycle (task : Nat)
  | writes
  | cancellations
  | workers (tasks : List Nat)
  | cancelledWorkers (tasks : List Nat)
  | ended
deriving DecidableEq, Repr

/-- `BackendObservationService`, the event loop, and the callers. -/
structure ObservationService (V : Type) where
  pendingDurableWrites : OwnedRegistry V
  pendingSupervisorCancellations : OwnedRegistry V
  lastRecoveryError : Option String
  recoveryWorkers : List Nat
  task : Option Nat
  stoppingLifecycleTask : Option Nat
  lifecycles : Nat
  endedTasks : List Nat
  stops : List StopPoint
  loop : Nat
  ready : List (OperationKind × Nat)
  waiters : List (Waiter V)

/-- What the service does not decide itself: the digest, and the status of a supervisor's result or
else the name of its type. -/
structure ObservationHost (V : Type) where
  sha256 : String → String
  statusText : V → String

namespace ObservationService

variable {V : Type} (h : ObservationHost V)

/-- A service that has not been started. -/
def initial : ObservationService V where
  pendingDurableWrites := .empty
  pendingSupervisorCancellations := .empty
  lastRecoveryError := none
  recoveryWorkers := []
  task := none
  stoppingLifecycleTask := none
  lifecycles := 0
  endedTasks := []
  stops := []
  loop := 0
  ready := []
  waiters := []

variable (s : ObservationService V)

/-- The registry of a kind. -/
def registry : OperationKind → OwnedRegistry V
  | .durableWrite => s.pendingDurableWrites
  | .supervisorCancellation => s.pendingSupervisorCancellations

/-- The service with another registry of a kind. -/
def setRegistry (k : OperationKind) (r : OwnedRegistry V) : ObservationService V :=
  match k with
  | .durableWrite => { s with pendingDurableWrites := r }
  | .supervisorCancellation => { s with pendingSupervisorCancellations := r }

/-! ### Errors on record -/

/-- `_record_recovery_error`. -/
def recordRecoveryError (message : String) : ObservationService V :=
  { s with lastRecoveryError := some (String.ofList (message.toList.take 512)) }

/-- The words for a kind of operation. -/
def kindText : OperationKind → String
  | .durableWrite => "durable write"
  | .supervisorCancellation => "supervisor cancellation"

/-- A message about an operation. -/
def operationText (what : String) (o : OwnedOperation V) (detail : String) : String :=
  what ++ ": operation=" ++ o.request.call.operation ++ " identity=" ++ o.key ++ detail ++
    "; reconciliation required"

/-- `_record_pending_durable_write`, `_record_pending_supervisor_cancellation`. -/
def recordPending (k : OperationKind) (condition : String) (o : OwnedOperation V) :
    ObservationService V :=
  s.recordRecoveryError (operationText (kindText k ++ " " ++ condition) o "")

/-! ### Completions -/

/-- Somebody stopped waiting for the operation. -/
def lateMarks (m : OperationMarks) : Bool :=
  m.callerTimedOut || m.callerInterrupted || m.shutdownPending

/-- What a late result is recorded with. -/
def statusDetail (k : OperationKind) (v : V) : String :=
  match k with
  | .durableWrite => ""
  | .supervisorCancellation => " status=" ++ h.statusText v

/-- The record of a consumed result. -/
def recordCompletion (k : OperationKind) (o : OwnedOperation V) : ObservationService V :=
  match o.future with
  | .cancelled =>
      s.recordRecoveryError (operationText (kindText k ++ " cancelled before start") o "")
  | .finished (.error e) =>
      if lateMarks o.marks then
        s.recordRecoveryError
          (operationText ("late " ++ kindText k ++ " failed") o (" error=" ++ e.typeName))
      else s
  | .finished (.ok v) =>
      if lateMarks o.marks then
        s.recordRecoveryError
          (operationText ("late " ++ kindText k ++ " completed") o (statusDetail h k v))
      else s
  | .pending | .running => s

/-- `_consume_durable_write_completion`, `_consume_supervisor_cancellation_completion`. -/
def consumeCompletion (k : OperationKind) (n : Nat) : ObservationService V :=
  match (s.registry k).operations[n]? with
  | some o =>
      if (s.registry k).held.lookup o.key = some n then
        (s.setRegistry k ((s.registry k).consume n)).recordCompletion h k o
      else s
  | none => s

/-- One operation, consumed where it is done. -/
def settleCompletion (k : OperationKind) (n : Nat) : ObservationService V :=
  if (s.registry k).isDone n then s.consumeCompletion h k n else s

/-- The numbers of the pending operations of a kind. -/
def pendingNumbers (k : OperationKind) : List Nat := (s.registry k).held.map (·.2)

/-- The completed operations of a kind are consumed. -/
def reconcileKind (k : OperationKind) : ObservationService V :=
  (s.pendingNumbers k).foldl (fun s n => s.settleCompletion h k n) s

/-- `_reconcile_completed_owned_operations`. -/
def reconcileCompleted : ObservationService V :=
  (s.reconcileKind h .durableWrite).reconcileKind h .supervisorCancellation

/-! ### Requests -/

/-- The text of a conflict. -/
def conflictText : OperationKind → String
  | .durableWrite => "conflicting pending durable write payload for the same recovery identity"
  | .supervisorCancellation =>
      "conflicting pending supervisor cancellation for the same recovery identity"

/-- What `json.dumps` raises for an integer of too many digits. -/
def digitsText : String :=
  "Exceeds the limit (4300 digits) for integer string conversion; use sys.set_int_max_str_digits() " ++
    "to increase the limit"

/-- `_EXECUTOR.submit`, and the operation on record. -/
def submit (call : GuardedCall) (fingerprint : String) : Nat × ObservationService V :=
  ((s.registry call.kind).operations.length,
    s.setRegistry call.kind ((s.registry call.kind).submit call.identity
      ⟨call, fingerprint, s.loop, s.lifecycles⟩ ⟨false, false, false, false⟩))

/-- `_get_or_submit_durable_write`, `_get_or_submit_supervisor_cancellation`. -/
def getOrSubmit (call : GuardedCall) : Except String Nat × ObservationService V :=
  match call.fingerprint h.sha256 with
  | none => (.error digitsText, s)
  | some fingerprint =>
      match (s.registry call.kind).holding call.identity with
      | some (n, o) =>
          if o.future.done then
            let (m, t) := (s.consumeCompletion h call.kind n).submit call fingerprint
            (.ok m, t)
          else if o.request.requestFingerprint = fingerprint then (.ok n, s)
          else (.error (conflictText call.kind), s)
      | none =>
          let (m, t) := s.submit call fingerprint
          (.ok m, t)

/-- A call of `_durable_recovery_write` or `_owned_supervisor_cancellation`, up to its wait. -/
def request (call : GuardedCall) : ObservationService V :=
  match s.getOrSubmit h call with
  | (.ok n, t) => { t with waiters := t.waiters ++ [⟨call, n, t.loop, none⟩] }
  | (.error _, t) => t

/-! ### The end of a wait -/

/-- The waiter in place `i`, and its operation, where it is still waited for on this event loop. -/
def waiting (i : Nat) : Option (Waiter V × OwnedOperation V) :=
  s.waiters[i]?.bind fun w =>
    if w.answer.isNone && w.loop = s.loop then
      ((s.registry w.call.kind).operations[w.operation]?).map (w, ·)
    else none

/-- The waiter in place `i` is answered. -/
def setAnswer (i : Nat) (a : Answer V) : ObservationService V :=
  { s with waiters := s.waiters.modify i fun w => { w with answer := some a } }

/-- `except asyncio.TimeoutError:`. -/
def markTimedOut (k : OperationKind) (n : Nat) (o : OwnedOperation V) : ObservationService V :=
  (s.setRegistry k ((s.registry k).mark n fun m => { m with callerTimedOut := true })).recordPending
    k "timed out" o

/-- `except asyncio.CancelledError:`. -/
def markInterrupted (k : OperationKind) (n : Nat) (o : OwnedOperation V) : ObservationService V :=
  (s.setRegistry k
    ((s.registry k).mark n fun m => { m with callerInterrupted := true })).recordPending
    k "caller interrupted" o

/-- The timeout of a wait. -/
def timeOut (i : Nat) : Option (ObservationService V) :=
  (s.waiting i).map fun (w, o) =>
    (s.markTimedOut w.call.kind w.operation o).setAnswer i .timedOut

/-- The cancellation of a wait. -/
def interrupt (i : Nat) : Option (ObservationService V) :=
  (s.waiting i).map fun (w, o) =>
    (s.markInterrupted w.call.kind w.operation o).setAnswer i .interrupted

/-- The result of an operation reaches a waiter. -/
def deliver (i : Nat) : Option (ObservationService V) :=
  (s.waiting i).bind fun (w, o) =>
    match o.future with
    | .finished (.ok v) => some (s.setAnswer i (.outcome (.ok v)))
    | .finished (.error e) =>
        if e.isTimeout then
          some ((s.markTimedOut w.call.kind w.operation o).setAnswer i (.outcome (.error e)))
        else some (s.setAnswer i (.outcome (.error e)))
    | .cancelled =>
        some ((s.markInterrupted w.call.kind w.operation o).setAnswer i .interrupted)
    | .pending | .running => none

/-! ### The fence of a recovery -/

/-- The check of `_supervisor_cancellation_requires_reconciliation`. -/
def cancellationPending (executionId organizationId : String) : Bool × ObservationService V :=
  let identity := supervisorCancellationIdentity executionId organizationId
  match s.pendingSupervisorCancellations.holding identity with
  | none => (false, s)
  | some (n, o) =>
      let t := if o.future.done then s.consumeCompletion h .supervisorCancellation n else s
      match t.pendingSupervisorCancellations.holding identity with
      | none => (false, t)
      | some (_, p) =>
          (true, t.recordRecoveryError (operationText "supervisor cancellation pending" p ""))

/-- `_supervisor_cancellation_requires_reconciliation`. -/
def requiresReconciliation (executionId organizationId : String) : Bool × ObservationService V :=
  (s.reconcileCompleted h).cancellationPending h executionId organizationId

/-! ### The lifecycle -/

/-- `running`. -/
def running : Bool := s.task.any fun t => t ∉ s.endedTasks

/-- What `start` does. -/
inductive Started where
  | running
  | begun (task : Nat)
  | refused (message : String)
deriving DecidableEq, Repr

/-- `start`, once completed operations are consumed. -/
def startReconciled : Started × ObservationService V :=
  if s.pendingDurableWrites.held ≠ [] then
    (.refused "observation service cannot restart while a durable recovery write is unresolved", s)
  else if s.pendingSupervisorCancellations.held ≠ [] then
    (.refused "observation service cannot restart while a supervisor cancellation is unresolved", s)
  else if s.recoveryWorkers ≠ [] then
    (.refused "observation service cannot restart while a recovery worker is unresolved", s)
  else if s.stoppingLifecycleTask.any fun t => t ∉ s.endedTasks then
    (.refused "observation service cannot restart while its prior lifecycle task is stopping", s)
  else
    (.begun s.lifecycles,
      { s with
        stoppingLifecycleTask := none
        task := some s.lifecycles
        lifecycles := s.lifecycles + 1 })

/-- `start`. -/
def start : Started × ObservationService V :=
  if s.running then (.running, s) else (s.reconcileCompleted h).startReconciled

/-- How the wait for the lifecycle task ends in `stop`. -/
inductive Waited where
  | ended
  | timedOut
  | failed (typeName : String)
deriving DecidableEq, Repr

/-- The pending operations of a kind, each marked and put on record. -/
def markShutdown (k : OperationKind) (ns : List Nat) : ObservationService V :=
  ns.foldl (fun s n =>
    match (s.registry k).operations[n]? with
    | some o =>
        (s.setRegistry k
          ((s.registry k).mark n fun m => { m with shutdownPending := true })).recordPending
          k "pending at shutdown" o
    | none => s) s

/-- The pending operations of a kind that are not done. -/
def unfinished (k : OperationKind) : List Nat :=
  (s.pendingNumbers k).filter fun n => !(s.registry k).isDone n

/-- `stop` from the recovery workers on. -/
def stopWorkers : StopPoint × ObservationService V :=
  if s.recoveryWorkers = [] then (.ended, s) else (.workers s.recoveryWorkers, s)

/-- `stop` from the supervisor cancellations on. -/
def stopCancellations : StopPoint × ObservationService V :=
  if s.unfinished .supervisorCancellation = [] then s.stopWorkers
  else
    (.cancellations, s.markShutdown .supervisorCancellation (s.unfinished .supervisorCancellation))

/-- `stop` from the durable writes on. -/
def stopWrites : StopPoint × ObservationService V :=
  if s.unfinished .durableWrite = [] then s.stopCancellations
  else (.writes, s.markShutdown .durableWrite (s.unfinished .durableWrite))

/-- `stop`, up to what it first waits for. -/
def stopBegins : StopPoint × ObservationService V :=
  let s := s.reconcileCompleted h
  match s.task with
  | some t => (.lifecycle t, s)
  | none => s.stopWrites

/-- The record of the wait for the lifecycle task. -/
def recordWaited : Waited → ObservationService V
  | .ended => s
  | .timedOut =>
      s.recordRecoveryError "observation shutdown timed out; recovery work remains visible"
  | .failed typeName => s.recordRecoveryError ("observation shutdown failed: " ++ typeName)

/-- A lifecycle task that outlasts `stop` stays owned. -/
def keepLifecycle (t : Nat) : ObservationService V :=
  if t ∈ s.endedTasks then { s with task := none }
  else
    { s with
      stoppingLifecycleTask := some t
      recoveryWorkers := if t ∈ s.recoveryWorkers then s.recoveryWorkers else s.recoveryWorkers ++ [t]
      task := none }

/-- Where an operation is still pending, that is on record. -/
def recordShutdown (k : OperationKind) (message : String) : ObservationService V :=
  if (s.registry k).held = [] then s else s.recordRecoveryError message

/-- `stop`, from what it waited for to what it waits for next. -/
def stopResumes (waited : Waited) : StopPoint → Option (StopPoint × ObservationService V)
  | .lifecycle t => some ((s.recordWaited waited).keepLifecycle t).stopWrites
  | .writes =>
      some (s.recordShutdown .durableWrite
        "durable recovery write shutdown timed out; reconciliation remains required").stopCancellations
  | .cancellations =>
      some (s.recordShutdown .supervisorCancellation
        "supervisor cancellation shutdown timed out; reconciliation remains required").stopWorkers
  | .workers tasks =>
      let pending := tasks.filter fun t => t ∉ s.endedTasks
      some (if pending = [] then (.ended, s) else (.cancelledWorkers pending, s))
  | .cancelledWorkers tasks =>
      some (.ended,
        if (tasks.all fun t => t ∈ s.endedTasks) || s.pendingDurableWrites.held ≠ [] then s
        else
          s.recordRecoveryError "recovery worker shutdown timed out; late result remains isolated")
  | .ended => none

/-! ### Steps -/

/-- The future of an operation advances. -/
def advance (k : OperationKind) (n : Nat) (f : Future (Outcome V)) : ObservationService V :=
  s.setRegistry k ((s.registry k).advance n f)

/-- `_schedule_…_completion`: the completion is queued on the loop it belongs to, unless that is
closed. -/
def scheduleCompletion (k : OperationKind) (n : Nat) (o : OwnedOperation V) : ObservationService V :=
  let t := s.setRegistry k ((s.registry k).mark n fun m => { m with announced := true })
  if o.request.loop = s.loop then { t with ready := t.ready ++ [(k, n)] } else t

/-- What the service, a thread, or the event loop does next. -/
inductive ObservationAction (V : Type) where
  | request (call : GuardedCall)
  | beginThread (k : OperationKind) (n : Nat)
  | cancelFuture (k : OperationKind) (n : Nat)
  | endThread (k : OperationKind) (n : Nat) (result : Outcome V)
  | announce (k : OperationKind) (n : Nat)
  | runCallback
  | deliver (i : Nat)
  | timeOut (i : Nat)
  | interrupt (i : Nat)
  | reconcile
  | requireReconciliation (executionId organizationId : String)
  | start
  | beginStop
  | resumeStop (i : Nat) (waited : Waited)
  | endTask (t : Nat)
  | releaseWorker (t : Nat)
  | clearStopping (t : Nat)
  | closeLoop

/-- One action, where it can be taken. -/
def perform : ObservationAction V → Option (ObservationService V)
  | .request call => some (s.request h call)
  | .beginThread k n => do
      let o ← (s.registry k).operations[n]?
      match o.future with
      | .pending => some (s.advance k n .running)
      | _ => none
  | .cancelFuture k n => do
      let o ← (s.registry k).operations[n]?
      match o.future with
      | .pending => some (s.advance k n .cancelled)
      | _ => none
  | .endThread k n result => do
      let o ← (s.registry k).operations[n]?
      match o.future with
      | .running => some (s.advance k n (.finished result))
      | _ => none
  | .announce k n => do
      let o ← (s.registry k).operations[n]?
      if o.future.done && !o.marks.announced then some (s.scheduleCompletion k n o) else none
  | .runCallback =>
      match s.ready with
      | (k, n) :: rest => some { s.consumeCompletion h k n with ready := rest }
      | [] => none
  | .deliver i => s.deliver i
  | .timeOut i => s.timeOut i
  | .interrupt i => s.interrupt i
  | .reconcile => some (s.reconcileCompleted h)
  | .requireReconciliation executionId organizationId =>
      some (s.requiresReconciliation h executionId organizationId).2
  | .start => some (s.start h).2
  | .beginStop =>
      let (point, t) := s.stopBegins h
      some { t with stops := t.stops ++ [point] }
  | .resumeStop i waited => do
      let point ← s.stops[i]?
      let (next, t) ← s.stopResumes waited point
      some { t with stops := t.stops.set i next }
  | .endTask t =>
      if t < s.lifecycles && t ∉ s.endedTasks then
        some { s with endedTasks := s.endedTasks ++ [t] }
      else none
  | .releaseWorker t =>
      if t ∈ s.endedTasks then some { s with recoveryWorkers := s.recoveryWorkers.erase t } else none
  | .clearStopping t =>
      if t ∈ s.endedTasks then
        some (if s.stoppingLifecycleTask = some t then { s with stoppingLifecycleTask := none } else s)
      else none
  | .closeLoop => some { s with loop := s.loop + 1, ready := [] }

/-- One action taken. -/
def Step (s : ObservationService V) (a : ObservationAction V) (t : ObservationService V) : Prop :=
  s.perform h a = some t

end ObservationService

/-- The states of the runs of a service from its construction. -/
def ObservationReachable {V : Type} (h : ObservationHost V) : ObservationService V → Prop :=
  Transition.Reachable (· = .initial) (ObservationService.Step h)

end CyberAssess
