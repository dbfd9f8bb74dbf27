import CyberAssess.Queue.Consumer

/-!
# Queue — the manager of the executions

`core/queue.py`, `ScanQueueManager`: an execution is published, run within its bounds, and settled.

* `enqueueOnly` publishes an intent and leaves it to a worker.
* `executeBounded` publishes it, runs the task, and completes or fails the message.

`[about ours]`: a task is given with its slots and its timeout, as what it asks and how it ends; a
timeout is the exception it ends in.
-/

namespace CyberAssess

open Python
open Interaction (Program)
open Interaction.Program (ofExcept)
open Checked (refuse require)
open DurableQueue (EnqueueRequest FailureReport)

/-- `ScanQueueManager`, with its durable backend. -/
structure ScanQueueManager where
  durableBackend : Option DurableQueue

/-- What `execute_bounded` is called with, besides its task. -/
structure BoundedCall where
  scanId : String
  organizationId : Option String := none
  authorizationRequestId : Option String := none
  queueBinding : Option QueueDispatchBinding := none

/-- The intent of a call. -/
def BoundedCall.request (c : BoundedCall) : EnqueueRequest where
  scanId := c.scanId
  organizationId := c.organizationId
  authorizationRequestId := c.authorizationRequestId
  queueBinding := c.queueBinding

/-- What an authoritative call reports of its failure. -/
def BoundedCall.report (queue : DurableQueue) (c : BoundedCall) (errorCode : String) :
    FailureReport where
  errorCode := errorCode
  acknowledge := false
  scanId := some c.scanId
  organizationId := c.organizationId
  authorizationRequestId := c.authorizationRequestId
  queueBindingDigest := c.queueBinding.map (·.queueBindingDigest)
  manifestHash := c.queueBinding.map (·.manifestHash)
  executionIds := c.queueBinding.map (·.executionIds)
  operationIds := c.queueBinding.map (·.operationIds)
  attemptCount := some 1
  maxAttempts := some queue.settings.maxDeliveryAttempts

namespace ScanQueueManager

variable (manager : ScanQueueManager)

/-- `enqueue_only`. -/
def enqueueOnly (r : EnqueueRequest) : Asking String := do
  let queue ← ofExcept (require manager.durableBackend
    (runtimeError "enqueue_only requires a durable execution backend"))
  ofExcept (refuse (r.authorizationRequestId.isNone && r.queueBinding.isSome)
    (valueError "a queue binding requires an authoritative authorization request"))
  ofExcept (refuse (r.credentialEnvelope.isSome && r.authorizationRequestId.isNone) (valueError
    "credential handoff requires an authoritative authorization request and typed queue binding"))
  queue.enqueue r

/-- The message of a call: none where there is no backend. -/
def publish (c : BoundedCall) : Asking (Option String) :=
  match manager.durableBackend with
  | none => return none
  | some queue => do
      ofExcept (refuse (c.authorizationRequestId.isNone && c.queueBinding.isSome)
        (valueError "a queue binding requires an authoritative authorization request"))
      ofExcept (refuse (c.authorizationRequestId.isSome && c.queueBinding.isNone)
        (valueError "authoritative durable execution requires a typed queue binding"))
      let messageId ← queue.enqueue c.request
      return some messageId

/-- `complete`, where there is a message. -/
def complete : Option String → Asking Unit
  | some messageId => DurableQueue.complete messageId
  | none => return ()

/-- `fail`, where there is a message. -/
def fail (c : BoundedCall) (messageId : Option String) (errorCode : String) : Asking Unit :=
  match manager.durableBackend, messageId with
  | some queue, some messageId =>
      if (DurableQueue.nonEmpty c.authorizationRequestId).isSome then
        queue.fail messageId (c.report queue errorCode)
      else queue.fail messageId { errorCode := errorCode, messageKind := some legacyKind }
  | _, _ => return ()

/-- `execute_bounded`. -/
def executeBounded {α : Type} (c : BoundedCall) (task : Asking α) : Asking α := do
  let messageId ← manager.publish c
  let body : Asking α := do
    let result ← task
    complete messageId
    return result
  match ← body.attempt with
  | .ok result => return result
  | .error e =>
      if e.isException then manager.fail c messageId e.name
      .raise e

end ScanQueueManager

end CyberAssess
