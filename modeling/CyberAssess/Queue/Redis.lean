import Mathlib.Logic.Function.Basic
import CyberAssess.Support.Interaction
import CyberAssess.Queue.Failure

/-!
# Queue — the commands of the queue and the server that answers them

The stream of execution intents with its consumer group, the keys of the quarantine and of the
deduplication, the stream of failures, and the two scripts `core/queue.py` sends.

* `Command` is what a worker or an API process asks; `Reply` is what it is told.
* `Redis.answer` is the server, and the outside where a command asks for it: the clock, the id of a
  new entry, which pending messages have been idle long enough, what the handler does.

`[about ours]`: the consumer group is there from the start, so `_ensure_group` asks nothing. An entry
is the dictionary the client writes and reads; entries are neither trimmed nor deleted. A key with a
lifetime is one that may expire.
-/

namespace CyberAssess

open Python

/-- The settings of the queue, within the bounds their import enforces. -/
structure QueueSettings where
  dedupeTtlSeconds : Nat
  maxDeliveryAttempts : Nat
  quarantineTtlSeconds : Nat
  dedupe_ok : 900 ≤ dedupeTtlSeconds ∧ dedupeTtlSeconds ≤ 604800
  attempts_ok : 1 ≤ maxDeliveryAttempts ∧ maxDeliveryAttempts ≤ 100
  quarantine_ok : 300 ≤ quarantineTtlSeconds ∧ quarantineTtlSeconds ≤ 2592000

/-- What the handler is called with. -/
structure HandlerCall where
  scanId : String
  organizationId : Option String
  authorizationRequestId : Option String
  envelope : Option String
  binding : Option QueueDispatchBinding
deriving DecidableEq

/-- The arguments of `_IDEMPOTENT_ENQUEUE_SCRIPT` after its keys. -/
structure EnqueueArguments where
  scanId : String
  organizationId : String
  enqueuedAt : String
  authorizationRequestId : String
  credentialEnvelope : String
  dedupeTtlSeconds : Nat
  queueBindingDigest : String
  manifestHash : String
  executionIdsJson : String
  operationIdsJson : String
  schemaVersion : String
  messageKind : String
deriving DecidableEq

/-- One write of a transaction. -/
inductive Write where
  | set (key text : String) (ttl : Option Nat)
  | xaddFailure (fields : Fields)
  | xack (messageId : String)
deriving DecidableEq

/-- What is asked. A handler is entered and left for the message that is being consumed. -/
inductive Command where
  | xautoclaim (consumer : String)
  | xreadgroup (consumer : String)
  | get (key : String)
  | xpendingRange (messageId : String)
  | xadd (fields : Fields)
  | xaddFailure (fields : Fields)
  | xack (messageId : String)
  | execute (pipeline : List Write)
  | evalEnqueue (dedupeKey : String) (arguments : EnqueueArguments)
  | evalAcknowledge (stateKey markerKey rawState messageId : String) (event : Fields)
  | now
  | encryptCredentialEnvelope (scanId organizationId : String)
  | enterHandler (messageId : String) (call : HandlerCall)
  | leaveHandler (messageId : String) (call : HandlerCall)

/-- What is told: claimed messages, a stored text, the delivery count of a pending message, the id of
a new entry unless the server refuses one, how many messages were acknowledged. -/
abbrev Reply : Command → Type
  | .xautoclaim _ | .xreadgroup _ => List (String × Fields)
  | .get _ => Option String
  | .xpendingRange _ => Option Nat
  | .xadd _ => Option String
  | .xack _ | .evalAcknowledge .. => Nat
  | .evalEnqueue .. => Option String
  | .xaddFailure _ | .execute _ | .enterHandler .. => Unit
  | .now | .encryptCredentialEnvelope .. => String
  | .leaveHandler .. => Except PyException Unit

/-! ### The server -/

/-- An entry of the pending list. -/
structure PendingEntry where
  messageId : String
  consumer : String
  timesDelivered : Nat

/-- A stored text, with its lifetime. -/
structure Stored where
  text : String
  ttl : Option Nat

/-- An id the server gives: digits and dashes. -/
def isStreamId (id : String) : Bool :=
  1 ≤ id.length && id.length ≤ 41 && id.toList.all fun c => c.isDigit || c = '-'

/-- The server: the stream under the ids it gave, how far the group has read it, its pending list, the
keys, and the stream of failures. -/
structure Redis where
  entries : List (String × Fields)
  delivered : Nat
  pending : List PendingEntry
  store : String → Option Stored
  failures : List Fields
  ids_ok : ∀ e ∈ entries, isStreamId e.1 = true

/-- A server nobody has written to. -/
def Redis.empty : Redis where
  entries := []
  delivered := 0
  pending := []
  store := fun _ => none
  failures := []
  ids_ok := by simp

/-- What the outside answers: `datetime.now(timezone.utc).isoformat()`, the id a new entry gets, the
pending messages that have been idle long enough, an encryption, and what the handler does. -/
structure World where
  now : String
  newId : String
  idle : String → Bool
  ciphertext : String
  handled : HandlerCall → Except PyException Unit
  now_ok : safeQueueText now = true
  newId_ok : isStreamId newId = true

namespace Redis

/-- `SET key text [EX ttl]`. -/
def set (r : Redis) (key text : String) (ttl : Option Nat) : Redis :=
  { r with store := Function.update r.store key (some ⟨text, ttl⟩) }

/-- `DEL key`. -/
def del (r : Redis) (key : String) : Redis := { r with store := Function.update r.store key none }

/-- `XACK`, of one message. -/
def xack (r : Redis) (messageId : String) : Redis :=
  { r with pending := r.pending.filter fun p => p.messageId ≠ messageId }

/-- The message is pending. -/
def isPending (r : Redis) (messageId : String) : Bool :=
  r.pending.any fun p => p.messageId = messageId

/-- `XADD` to the failures. -/
def xaddFailure (r : Redis) (fields : Fields) : Redis := { r with failures := r.failures ++ [fields] }

/-- `XADD stream *`: refused where the id is not new. -/
def xadd (r : Redis) (newId : String) (ok : isStreamId newId = true) (fields : Fields) :
    Option String × Redis :=
  if r.entries.any fun e => e.1 = newId then (none, r)
  else
    (some newId,
      { r with
        entries := r.entries ++ [(newId, fields)]
        ids_ok := List.forall_mem_append.mpr ⟨r.ids_ok, by simpa using ok⟩ })

/-- One write of a transaction. -/
def write (r : Redis) : Write → Redis
  | .set key text ttl => r.set key text ttl
  | .xaddFailure fields => r.xaddFailure fields
  | .xack messageId => r.xack messageId

/-- The entry of an id. -/
def entry (r : Redis) (id : String) : Option Fields := r.entries.lookup id

/-- `XAUTOCLAIM … COUNT 1`: the first pending message that has been idle long enough, delivered once
more and to this consumer. -/
def xautoclaim (r : Redis) (idle : String → Bool) (consumer : String) :
    List (String × Fields) × Redis :=
  match r.pending.find? fun p => idle p.messageId with
  | none => ([], r)
  | some claimed =>
      ((r.entry claimed.messageId).toList.map fun fields => (claimed.messageId, fields),
        { r with
          pending := r.pending.map fun p =>
            if p.messageId = claimed.messageId then
              { p with consumer := consumer, timesDelivered := p.timesDelivered + 1 }
            else p })

/-- `XREADGROUP … COUNT 1`: the next entry of the stream, pending from now on. -/
def xreadgroup (r : Redis) (consumer : String) : List (String × Fields) × Redis :=
  match r.entries[r.delivered]? with
  | none => ([], r)
  | some (messageId, fields) =>
      ([(messageId, fields)],
        { r with
          delivered := r.delivered + 1
          pending := r.pending ++ [⟨messageId, consumer, 1⟩] })

/-- `XPENDING … id id 1`, its delivery count. -/
def timesDelivered (r : Redis) (messageId : String) : Option Nat :=
  (r.pending.find? fun p => p.messageId = messageId).map (·.timesDelivered)

/-- The prefix of the two conflicts the script reports. -/
def identityConflictPrefix : String := "__CYBERASSESS_QUEUE_IDENTITY_CONFLICT__:"

/-- The comparison of `_IDEMPOTENT_ENQUEUE_SCRIPT`. -/
def matchesArguments (fields : Fields) (a : EnqueueArguments) : Bool :=
  fields.lookup "scan_id" = some a.scanId &&
    fields.lookup "organization_id" = some a.organizationId &&
    fields.lookup "authorization_request_id" = some a.authorizationRequestId &&
    fields.lookup "queue_binding_digest" = some a.queueBindingDigest &&
    fields.lookup "manifest_hash" = some a.manifestHash &&
    fields.lookup "execution_ids_json" = some a.executionIdsJson &&
    fields.lookup "operation_ids_json" = some a.operationIdsJson &&
    fields.lookup "queue_binding_schema_version" = some a.schemaVersion &&
    fields.lookup "message_kind" = some a.messageKind

/-- The fields `_IDEMPOTENT_ENQUEUE_SCRIPT` adds. -/
def publishedFields (a : EnqueueArguments) : Fields :=
  [("scan_id", a.scanId), ("organization_id", a.organizationId), ("enqueued_at", a.enqueuedAt),
    ("authorization_request_id", a.authorizationRequestId),
    ("credential_envelope", a.credentialEnvelope), ("queue_binding_digest", a.queueBindingDigest),
    ("manifest_hash", a.manifestHash), ("execution_ids_json", a.executionIdsJson),
    ("operation_ids_json", a.operationIdsJson),
    ("queue_binding_schema_version", a.schemaVersion), ("message_kind", a.messageKind)]

/-- `_IDEMPOTENT_ENQUEUE_SCRIPT`. -/
def evalEnqueue (r : Redis) (newId : String) (ok : isStreamId newId = true) (dedupeKey : String)
    (a : EnqueueArguments) : Option String × Redis :=
  match r.store dedupeKey with
  | some existing =>
      match r.entry existing.text with
      | none => (some (identityConflictPrefix ++ "MISSING_ENTRY"), r)
      | some fields =>
          if matchesArguments fields a then (some existing.text, r)
          else (some (identityConflictPrefix ++ "MISMATCH"), r)
  | none =>
      match r.xadd newId ok (publishedFields a) with
      | (some messageId, r) => (some messageId, r.set dedupeKey messageId (some a.dedupeTtlSeconds))
      | (none, r) => (none, r)

/-- `_ACK_QUARANTINE_SCRIPT`. -/
def evalAcknowledge (r : Redis) (stateKey markerKey rawState messageId : String) (event : Fields) :
    Nat × Redis :=
  if (r.store stateKey).map (·.text) ≠ some rawState then (0, r)
  else if !r.isPending messageId then (0, r)
  else (1, (((r.xack messageId).xaddFailure event).del stateKey).del markerKey)

/-- What a command is told, and what it leaves. -/
def answer (w : World) (r : Redis) : (c : Command) → Reply c × Redis
  | .xautoclaim consumer => r.xautoclaim w.idle consumer
  | .xreadgroup consumer => r.xreadgroup consumer
  | .get key => ((r.store key).map (·.text), r)
  | .xpendingRange messageId => (r.timesDelivered messageId, r)
  | .xadd fields => r.xadd w.newId w.newId_ok fields
  | .xaddFailure fields => ((), r.xaddFailure fields)
  | .xack messageId => ((r.isPending messageId).toNat, r.xack messageId)
  | .execute pipeline => ((), pipeline.foldl write r)
  | .evalEnqueue dedupeKey a => r.evalEnqueue w.newId w.newId_ok dedupeKey a
  | .evalAcknowledge stateKey markerKey rawState messageId event =>
      r.evalAcknowledge stateKey markerKey rawState messageId event
  | .now => (w.now, r)
  | .encryptCredentialEnvelope _ _ => (w.ciphertext, r)
  | .enterHandler _ _ => ((), r)
  | .leaveHandler _ call => (w.handled call, r)

end Redis

end CyberAssess
