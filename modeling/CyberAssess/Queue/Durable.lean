import CyberAssess.Queue.Redis

/-!
# Queue — the durable queue

`core/queue.py`, `RedisDurableQueue`: each method as the program of the commands it asks.

* `enqueue` publishes an execution intent, once for each request of a tenant.
* `consumeOnce` claims one message and settles it; `consume` is what it does with the message.
* `fail` records a failure, `quarantine` stores the quarantine of a message in one transaction.
* `acknowledgeQuarantined` closes a quarantine for an operator.
-/

namespace CyberAssess

open Python
open Interaction (Program)
open Interaction.Program (ofExcept)
open Checked (ensure refuse require)

/-- A method of the queue. -/
abbrev Asking (α : Type) : Type := Program Command Reply PyException α

/-! ### The client: each command with what it is told -/

namespace Client

abbrev xautoclaim (consumer : String) : Asking (List (String × Fields)) :=
  Program.command (Command.xautoclaim consumer)

abbrev xreadgroup (consumer : String) : Asking (List (String × Fields)) :=
  Program.command (Command.xreadgroup consumer)

abbrev get (key : String) : Asking (Option String) := Program.command (Command.get key)

abbrev xpendingRange (messageId : String) : Asking (Option Nat) :=
  Program.command (Command.xpendingRange messageId)

abbrev xadd (fields : Fields) : Asking (Option String) := Program.command (Command.xadd fields)

abbrev xaddFailure (fields : Fields) : Asking Unit := Program.command (Command.xaddFailure fields)

abbrev xack (messageId : String) : Asking Nat := Program.command (Command.xack messageId)

abbrev execute (pipeline : List Write) : Asking Unit := Program.command (Command.execute pipeline)

abbrev evalEnqueue (dedupeKey : String) (a : EnqueueArguments) : Asking (Option String) :=
  Program.command (Command.evalEnqueue dedupeKey a)

abbrev evalAcknowledge (stateKey markerKey rawState messageId : String) (event : Fields) :
    Asking Nat :=
  Program.command (Command.evalAcknowledge stateKey markerKey rawState messageId event)

abbrev now : Asking String := Program.command Command.now

abbrev encryptCredentialEnvelope (scanId organizationId : String) : Asking String :=
  Program.command (Command.encryptCredentialEnvelope scanId organizationId)

abbrev enterHandler (messageId : String) (call : HandlerCall) : Asking Unit :=
  Program.command (Command.enterHandler messageId call)

abbrev leaveHandler (messageId : String) (call : HandlerCall) : Asking (Except PyException Unit) :=
  Program.command (Command.leaveHandler messageId call)

end Client

/-- `RedisDurableQueue`. -/
structure DurableQueue where
  host : QueueHost
  settings : QueueSettings
  consumerName : String

/-- `stream_name`. -/
def streamName : String := "cyberassess:scan-execution"

/-- What a refused command raises. -/
def responseError : PyException where
  name := "ResponseError"
  message := "The ID specified in XADD is equal or smaller than the target stream top item"

namespace DurableQueue

variable (q : DurableQueue)

/-- `_quarantine_key`. -/
def quarantineKey (messageId : String) : String :=
  streamName ++ ":quarantine:" ++ q.host.sha256 messageId

/-- `_quarantine_state_key`. -/
def quarantineStateKey (messageId : String) : String :=
  streamName ++ ":quarantine-state:" ++ q.host.sha256 messageId

/-- The key of a request's publication. -/
def dedupeKey (organizationId authorizationRequestId : String) : String :=
  streamName ++ ":dedupe:" ++ q.host.sha256 (organizationId ++ "\x00" ++ authorizationRequestId)

/-- `_delivery_attempts`. -/
def deliveryAttempts (messageId : String) : Asking Nat := do
  match ← Client.xpendingRange messageId with
  | none =>
      .raise (runtimeError
        "authoritative Redis delivery counter is unavailable for the pending message")
  | some n => if n < 1 then .raise (valueError "Redis delivery counter is invalid") else return n

/-- `_is_quarantined`. -/
def isQuarantined (messageId : String) : Asking Bool := do
  match ← Client.get (q.quarantineStateKey messageId) with
  | some _ => return true
  | none =>
      let marker ← Client.get (q.quarantineKey messageId)
      return marker.any fun text => !text.isEmpty

/-- `_get_quarantine_state`. -/
def getQuarantineState (messageId : String) : Asking (Option (List (Points × Value) × Fields)) := do
  match ← Client.get (q.quarantineStateKey messageId) with
  | some raw => return readQuarantineState q.host messageId raw
  | none =>
      let marker ← Client.get (q.quarantineKey messageId)
      return marker.bind (readQuarantineState q.host messageId)

/-! ### Failures -/

/-- The arguments of `fail`. -/
structure FailureReport where
  errorCode : String
  acknowledge : Bool := true
  scanId : Option String := none
  organizationId : Option String := none
  authorizationRequestId : Option String := none
  queueBindingDigest : Option String := none
  manifestHash : Option String := none
  executionIds : Option (List Points) := none
  operationIds : Option (List Points) := none
  messageKind : Option String := none
  attemptCount : Option Nat := none
  maxAttempts : Option Nat := none
  escalated : Bool := false
  quarantined : Bool := false

/-- What a quarantine keeps of a report. -/
def FailureReport.identity (r : FailureReport) : QuarantineIdentity where
  scanId := r.scanId
  organizationId := r.organizationId
  authorizationRequestId := r.authorizationRequestId
  queueBindingDigest := r.queueBindingDigest
  manifestHash := r.manifestHash
  executionIds := r.executionIds
  operationIds := r.operationIds
  attemptCount := r.attemptCount
  maxAttempts := r.maxAttempts

/-- `[A-Za-z0-9_.-]{1,128}`. -/
def isErrorCode (s : String) : Bool :=
  1 ≤ s.length && s.length ≤ 128 &&
    s.toList.all fun c => c.isAlphanum || c = '_' || c = '.' || c = '-'

/-- One of the authoritative identities is there. -/
def FailureReport.hasBinding (r : FailureReport) : Bool :=
  r.authorizationRequestId.isSome || r.queueBindingDigest.isSome || r.manifestHash.isSome ||
    r.executionIds.isSome || r.operationIds.isSome

/-- The payload an authoritative failure is checked against. -/
def FailureReport.payload (r : FailureReport) : Option Fields := do
  let scanId ← r.scanId
  let organizationId ← r.organizationId
  let authorizationRequestId ← r.authorizationRequestId
  let digest ← r.queueBindingDigest
  let manifestHash ← r.manifestHash
  let executionIds ← r.executionIds
  let operationIds ← r.operationIds
  return [("scan_id", scanId), ("organization_id", organizationId),
    ("authorization_request_id", authorizationRequestId), ("manifest_hash", manifestHash),
    ("execution_ids_json", identityJson executionIds),
    ("operation_ids_json", identityJson operationIds), ("queue_binding_digest", digest),
    ("queue_binding_schema_version", "queue-dispatch-binding-v1")]

/-- What a failure of each kind must come with. -/
def FailureReport.checkKind (r : FailureReport) : Except PyException Unit :=
  if r.messageKind = some authoritativeKind then do
    refuse r.acknowledge
      (valueError "authoritative queue failures must remain pending until explicit recovery")
    let payload ← require r.payload (valueError "authoritative queue failure binding is incomplete")
    let _ ← QueueDispatchBinding.fromPayload q.host payload
    return
  else if r.messageKind = some legacyKind then
    refuse r.hasBinding
      (valueError "legacy queue failure cannot carry authoritative binding fields")
  else
    ensure (r.quarantined && !r.acknowledge)
      (valueError "ambiguous queue failure must remain quarantined and pending")

/-- The checks of `fail`. -/
def FailureReport.check (messageId : String) (r : FailureReport) : Except PyException Unit := do
  ensure (nonBlankUpTo 256 messageId) (valueError "queue failure message identity is invalid")
  ensure (r.scanId.all (nonBlankUpTo 256)) (valueError "queue failure scan identity is invalid")
  ensure (isErrorCode (strip r.errorCode)) (valueError "queue failure error code is invalid")
  ensure (r.attemptCount.all (1 ≤ ·)) (valueError "queue failure delivery count is invalid")
  ensure (r.maxAttempts.all (1 ≤ ·)) (valueError "queue failure delivery bound is invalid")
  ensure (r.messageKind.any queueMessageKinds.contains)
    (valueError "queue failure message kind is invalid")
  FailureReport.checkKind q r

/-- `failure_category`. -/
def failureCategory (kind : Option String) : String :=
  if kind = some authoritativeKind then "AUTHORITATIVE_DISPATCH"
  else if kind = some ambiguousKind then "AMBIGUOUS_QUEUE_MESSAGE"
  else "LEGACY_QUEUE"

/-- `"1"` or `"0"`. -/
def flag (b : Bool) : String := if b then "1" else "0"

/-- A text that is there and not empty. -/
def nonEmpty (s : Option String) : Option String := s.filter fun text => !text.isEmpty

/-- A safe text is not empty. -/
theorem nonEmpty_of_safe {s : String} (h : safeQueueText s = true) :
    nonEmpty (some s) = some s := by
  have solid : s ≠ "" := by
    rintro rfl
    exact absurd h (by decide)
  simp [nonEmpty, solid]

/-- A binding field is among the evidence. -/
def FailureReport.carriesBinding (r : FailureReport) : Bool :=
  (nonEmpty r.queueBindingDigest).isSome || (nonEmpty r.manifestHash).isSome ||
    r.executionIds.isSome || r.operationIds.isSome

/-- `failure_fields`, each where it is there. -/
def FailureReport.rows (messageId now : String) (r : FailureReport) :
    List (String × Option String) :=
  [("message_id", some messageId), ("dispatch_message_id", some messageId),
    ("error_code", some (strip r.errorCode)),
    ("failure_category", some (failureCategory r.messageKind)),
    ("failure_observed_at", some now),
    ("requeue_required", some (flag !r.acknowledge)), ("escalated", some (flag r.escalated)),
    ("quarantined", some (flag r.quarantined)), ("message_kind", r.messageKind),
    ("scan_id", nonEmpty r.scanId), ("organization_id", nonEmpty r.organizationId),
    ("authorization_request_id", nonEmpty r.authorizationRequestId),
    ("queue_binding_digest", nonEmpty r.queueBindingDigest),
    ("manifest_hash", nonEmpty r.manifestHash),
    ("execution_ids_json", r.executionIds.map identityJson),
    ("operation_ids_json", r.operationIds.map identityJson),
    ("queue_binding_schema_version",
      if r.carriesBinding then some "queue-dispatch-binding-v1" else none),
    ("attempt_count", r.attemptCount.map toString), ("max_attempts", r.maxAttempts.map toString)]

/-- `failure_fields`. -/
def FailureReport.fields (messageId now : String) (r : FailureReport) : Fields :=
  present (r.rows messageId now)

/-- `_quarantine`. -/
def quarantine (messageId reason : String) (identity : QuarantineIdentity) (failureFields : Fields)
    (acknowledge : Bool) : Asking Unit := do
  let evidence ← ofExcept (canonicalFailureEvidence q.host messageId failureFields true)
  let now ← Client.now
  let serialized ← ofExcept (quarantineState q.host now messageId reason evidence identity)
  Client.execute ([.set (q.quarantineStateKey messageId) serialized none,
    .set (q.quarantineKey messageId) serialized (some q.settings.quarantineTtlSeconds),
    .xaddFailure evidence] ++ if acknowledge then [.xack messageId] else [])

/-- `fail`. -/
def fail (messageId : String) (r : FailureReport) : Asking Unit := do
  ofExcept (FailureReport.check q messageId r)
  let now ← Client.now
  let failureFields := r.fields messageId now
  if r.messageKind ≠ some legacyKind && r.quarantined then
    q.quarantine messageId (strip r.errorCode) r.identity failureFields r.acknowledge
  else
    let evidence ← ofExcept (canonicalFailureEvidence q.host messageId failureFields false)
    Client.xaddFailure evidence
    if r.acknowledge then
      let _ ← Client.xack messageId

/-- `complete`. -/
def complete (messageId : String) : Asking Unit := do
  let _ ← Client.xack messageId

end DurableQueue

end CyberAssess
