import CyberAssess.Queue.Durable

/-!
# Queue — publishing and consuming

`core/queue.py`, `RedisDurableQueue`: the producer's `enqueue` and the worker's `consume_once`.

* `validateWireMessage` is what the consumer accepts.
* `consumeOnce` claims a message; `consume` looks at its quarantine first, `dispatch` at its binding
  and its delivery count, `settle` runs the handler and records the outcome.
-/

namespace CyberAssess

open Python
open Interaction (Program)
open Interaction.Program (ofExcept)
open Checked (ensure refuse require bind_ok exists_unit ensure_ok refuse_ok require_ok)

/-! ### The wire -/

/-- `_QUEUE_WIRE_FIELDS`. -/
def queueWireFields : List String :=
  ["message_kind", "scan_id", "organization_id", "enqueued_at", "authorization_request_id",
    "credential_envelope"] ++ bindingFields

/-- What `_validate_wire_message` returns. -/
structure WireMessage where
  messageKind : String
  scanId : String
  organizationId : Option String
  authorizationRequestId : Option String
deriving DecidableEq

/-- `_validate_wire_message`. -/
def validateWireMessage (host : QueueHost) (fields : Fields) : Except PyException WireMessage := do
  ensure (fields.all fun f => queueWireFields.contains f.1)
    (valueError "queue message contains unsupported fields")
  let field (name : String) := require (fields.lookup name) (valueError "queue message envelope is incomplete")
  let messageKind ← field "message_kind"
  let scanId ← field "scan_id"
  let organizationId ← field "organization_id"
  let enqueuedAt ← field "enqueued_at"
  ensure (messageKind = authoritativeKind || messageKind = legacyKind)
    (valueError "queue message classification is missing or invalid")
  ensure (safeQueueText scanId) (valueError "execution intent scan identity is invalid")
  ensure (organizationId.isEmpty || safeQueueText organizationId)
    (valueError "execution intent tenant identity is invalid")
  ensure (safeQueueText enqueuedAt) (valueError "execution intent enqueue timestamp is invalid")
  let authorizationRequestId := fields.lookup "authorization_request_id"
  let presentBinding := bindingFields.filter fun name => (fields.lookup name).isSome
  if messageKind = authoritativeKind then
    ensure (safeQueueText organizationId && authorizationRequestId.any safeQueueText)
      (valueError "authoritative queue message identity is incomplete")
    ensure (presentBinding.length = bindingFields.length)
      (valueError "authoritative queue message binding is incomplete")
    let _ ← QueueDispatchBinding.fromPayload host fields
  else
    refuse ((DurableQueue.nonEmpty authorizationRequestId).isSome || !presentBinding.isEmpty)
      (valueError "legacy diagnostic message contains authoritative metadata")
    refuse (fields.lookup "credential_envelope").isSome
      (valueError "legacy diagnostic message cannot contain credential handoff")
  return {
    messageKind := messageKind
    scanId := scanId
    organizationId := DurableQueue.nonEmpty (some organizationId)
    authorizationRequestId := authorizationRequestId }

/-- What an accepted message of a kind has in any case: known fields, its kind and a time. -/
structure Enveloped (fields : Fields) (kind : String) : Prop where
  known : ∀ f ∈ fields, f.1 ∈ queueWireFields
  messageKind : fields.lookup "message_kind" = some kind
  enqueuedAt : ∃ text, fields.lookup "enqueued_at" = some text ∧ safeQueueText text = true

theorem bindingFields_present {fields : Fields} {b : QueueDispatchBinding} (h : Carries fields b) :
    bindingFields.filter (fun name => (fields.lookup name).isSome) = bindingFields := by
  obtain ⟨e, he, -⟩ := Option.bind_eq_some_iff.mp h.executionIds
  obtain ⟨o, ho, -⟩ := Option.bind_eq_some_iff.mp h.operationIds
  simp [bindingFields, h.digest, h.manifestHash, h.schemaVersion, he, ho]

/-- An accepted authoritative message is the one its binding names, and its identities are safe
texts. -/
theorem validate_authoritative {host : QueueHost} {fields : Fields} {wire : WireMessage} :
    validateWireMessage host fields = .ok wire ∧ wire.messageKind = authoritativeKind ↔
      Enveloped fields authoritativeKind ∧
        ∃ b, QueueDispatchBinding.fromPayload host fields = .ok b ∧
          safeQueueText b.scanId = true ∧ safeQueueText b.organizationId = true ∧
          safeQueueText b.authorizationRequestId = true ∧
          wire = ⟨authoritativeKind, b.scanId, some b.organizationId,
            some b.authorizationRequestId⟩ := by
  simp only [validateWireMessage, bind_ok, exists_unit, ensure_ok, require_ok]
  constructor
  · rintro ⟨⟨known, k, hk, scan, hs, org, ho, at_, hat, -, safeScan, -, safeAt, h⟩, kind⟩
    by_cases same : k = authoritativeKind
    · subst same
      rw [if_pos rfl] at h
      simp only [bind_ok, exists_unit, ensure_ok, Bool.and_eq_true] at h
      obtain ⟨⟨safeOrg, safeRequest⟩, -, b, read, result⟩ := h
      cases result
      obtain ⟨carried, -, -⟩ := fromPayload_ok.mp read
      rw [carried.scanId] at hs
      rw [carried.organizationId] at ho
      rw [carried.authorizationRequestId] at safeRequest
      cases hs
      cases ho
      refine ⟨⟨by simpa using known, hk, at_, hat, safeAt⟩, b, read, safeScan, safeOrg,
        safeRequest, ?_⟩
      rw [DurableQueue.nonEmpty_of_safe safeOrg, carried.authorizationRequestId]
    · rw [if_neg same] at h
      simp only [bind_ok, exists_unit] at h
      obtain ⟨-, -, result⟩ := h
      cases result
      exact absurd kind same
  · rintro ⟨env, b, read, safeScan, safeOrg, safeRequest, rfl⟩
    obtain ⟨at_, hat, safeAt⟩ := env.enqueuedAt
    obtain ⟨carried, -, -⟩ := fromPayload_ok.mp read
    refine ⟨⟨by simpa using env.known, _, env.messageKind, _, carried.scanId, _,
      carried.organizationId, at_, hat, by simp, safeScan, by simp [safeOrg], safeAt, ?_⟩, rfl⟩
    rw [if_pos rfl]
    simp only [bind_ok, exists_unit, ensure_ok, Bool.and_eq_true,
      carried.authorizationRequestId, bindingFields_present carried]
    exact ⟨⟨safeOrg, safeRequest⟩, by simp, b, read, by rw [DurableQueue.nonEmpty_of_safe safeOrg]; rfl⟩

/-- An accepted legacy message carries nothing authoritative. -/
theorem validate_legacy {host : QueueHost} {fields : Fields} {wire : WireMessage} :
    validateWireMessage host fields = .ok wire ∧ wire.messageKind = legacyKind ↔
      Enveloped fields legacyKind ∧
        ∃ scan org, fields.lookup "scan_id" = some scan ∧
          fields.lookup "organization_id" = some org ∧ safeQueueText scan = true ∧
          (org.isEmpty || safeQueueText org) = true ∧
          (DurableQueue.nonEmpty (fields.lookup "authorization_request_id") = none ∧
            bindingFields.filter (fun name => (fields.lookup name).isSome) = []) ∧
          fields.lookup "credential_envelope" = none ∧
          wire = ⟨legacyKind, scan, DurableQueue.nonEmpty (some org),
            fields.lookup "authorization_request_id"⟩ := by
  have apart : legacyKind ≠ authoritativeKind := by decide
  simp only [validateWireMessage, bind_ok, exists_unit, ensure_ok, require_ok]
  constructor
  · rintro ⟨⟨known, k, hk, scan, hs, org, ho, at_, hat, -, safeScan, safeOrg, safeAt, h⟩, kind⟩
    by_cases same : k = authoritativeKind
    · rw [if_pos same] at h
      simp only [bind_ok, exists_unit] at h
      obtain ⟨-, -, -, -, result⟩ := h
      cases result
      exact absurd (kind.symm.trans same) apart
    · rw [if_neg same] at h
      simp only [bind_ok, exists_unit, refuse_ok, Bool.or_eq_false_iff] at h
      obtain ⟨⟨request, binding⟩, envelope, result⟩ := h
      cases result
      cases kind
      exact ⟨⟨by simpa using known, hk, at_, hat, safeAt⟩, scan, org, hs, ho, safeScan, safeOrg,
        ⟨by simpa using request, by simpa using binding⟩, by simpa using envelope, rfl⟩
  · rintro ⟨env, scan, org, hs, ho, safeScan, safeOrg, ⟨request, binding⟩, envelope, rfl⟩
    obtain ⟨at_, hat, safeAt⟩ := env.enqueuedAt
    refine ⟨⟨by simpa using env.known, _, env.messageKind, scan, hs, org, ho, at_, hat, by simp,
      safeScan, safeOrg, safeAt, ?_⟩, rfl⟩
    rw [if_neg apart]
    simp only [bind_ok, exists_unit, refuse_ok, request, binding, envelope]
    exact ⟨by simp, by simp, rfl⟩

/-- What `inspect.signature` says of the handler. -/
structure HandlerSignature where
  variadic : Bool
  parameters : Nat

/-- The handler can be called with `n` arguments. -/
def HandlerSignature.accepts (s : HandlerSignature) (n : Nat) : Bool :=
  s.variadic || n ≤ s.parameters

namespace DurableQueue

variable (q : DurableQueue)

/-! ### The producer -/

/-- `DurableQueueIdentityConflict(message)`. -/
def identityConflict (message : String) : PyException where
  name := "DurableQueueIdentityConflict"
  message := message

/-- The arguments of `enqueue`. -/
structure EnqueueRequest where
  scanId : String
  organizationId : Option String
  credentialEnvelope : Option String := none
  authorizationRequestId : Option String := none
  queueBinding : Option QueueDispatchBinding := none

/-- The binding of an authoritative intent is the one `create` makes of the arguments. -/
def EnqueueRequest.checkBinding (r : EnqueueRequest) (authorizationRequestId : String) :
    Except PyException QueueDispatchBinding := do
  let binding ← require r.queueBinding
    (valueError "authoritative execution intent requires a typed queue binding")
  let expected ← Checked.reraise (fun _ => valueError "authoritative queue binding is malformed")
    (QueueDispatchBinding.create q.host r.scanId (r.organizationId.getD "")
      (strip authorizationRequestId) binding.manifestHash binding.executionIds binding.operationIds)
  ensure (binding = expected)
    (valueError "authoritative queue binding does not match its canonical digest")
  return binding

/-- The checks of `enqueue`: the request of an authoritative intent with its binding. -/
def EnqueueRequest.check (r : EnqueueRequest) :
    Except PyException (Option (String × QueueDispatchBinding)) := do
  refuse (isBlank r.scanId) (valueError "execution intent requires a scan identity")
  ensure (r.authorizationRequestId.all (nonBlankUpTo 256))
    (valueError "execution intent authorization request identity is invalid")
  match r.authorizationRequestId with
  | some authorizationRequestId =>
      ensure (nonEmpty r.organizationId).isSome
        (valueError "execution intent authorization request requires a tenant")
      let binding ← EnqueueRequest.checkBinding q r authorizationRequestId
      return some (strip authorizationRequestId, binding)
  | none =>
      refuse r.queueBinding.isSome
        (valueError "a queue binding requires an authoritative authorization request")
      refuse r.credentialEnvelope.isSome (valueError
        "credential handoff requires an authoritative authorization request and typed queue binding")
      return none

/-- `encrypt_credential_envelope`, where there is an envelope. -/
def encrypted (r : EnqueueRequest) : Asking String :=
  match r.credentialEnvelope with
  | none => return ""
  | some _ => Client.encryptCredentialEnvelope r.scanId (r.organizationId.getD "")

/-- What the script is called with. -/
def enqueueArguments (r : EnqueueRequest) (now envelope authorizationRequestId : String)
    (binding : QueueDispatchBinding) : EnqueueArguments where
  scanId := r.scanId
  organizationId := r.organizationId.getD ""
  enqueuedAt := now
  authorizationRequestId := authorizationRequestId
  credentialEnvelope := envelope
  dedupeTtlSeconds := q.settings.dedupeTtlSeconds
  queueBindingDigest := binding.queueBindingDigest
  manifestHash := binding.manifestHash
  executionIdsJson := identityJson binding.executionIds
  operationIdsJson := identityJson binding.operationIds
  schemaVersion := binding.schemaVersion
  messageKind := authoritativeKind

/-- The fields of a legacy intent. -/
def legacyFields (r : EnqueueRequest) (now : String) : Fields :=
  [("message_kind", legacyKind), ("scan_id", r.scanId),
    ("organization_id", r.organizationId.getD ""), ("enqueued_at", now)]

/-- `enqueue`. -/
def enqueue (r : EnqueueRequest) : Asking String := do
  let checked ← ofExcept (EnqueueRequest.check q r)
  let now ← Client.now
  match checked with
  | some (authorizationRequestId, binding) =>
      let envelope ← encrypted r
      let reply ← Client.evalEnqueue
        (q.dedupeKey (r.organizationId.getD "") authorizationRequestId)
        (enqueueArguments q r now envelope authorizationRequestId binding)
      match reply with
      | none => .raise responseError
      | some messageId =>
          if Redis.identityConflictPrefix.isPrefixOf messageId then
            .raise (identityConflict messageId)
          else return messageId
  | none =>
      let reply ← Client.xadd (legacyFields r now)
      match reply with
      | none => .raise responseError
      | some messageId => return messageId

/-! ### The worker -/

/-- `_quarantine_invalid_wire_message`. -/
def quarantineInvalidWireMessage (messageId : String) (fields : Fields) (errorCode : String) :
    Asking Unit := do
  let safeValue (name : String) := (fields.lookup name).filter safeQueueText
  let authorizationRequestId := safeValue "authorization_request_id"
  let attempts ← (deliveryAttempts messageId).attempt
  q.fail messageId {
    errorCode := errorCode
    acknowledge := false
    scanId := safeValue "scan_id"
    organizationId := if authorizationRequestId.isSome then safeValue "organization_id" else none
    authorizationRequestId := authorizationRequestId
    attemptCount := attempts.toOption
    maxAttempts := some q.settings.maxDeliveryAttempts
    messageKind := some ambiguousKind
    escalated := true
    quarantined := true }

/-- The credential envelope of the message, decrypted. -/
def openEnvelope (fields : Fields) (wire : WireMessage) : Except PyException (Option String) := do
  match nonEmpty (fields.lookup "credential_envelope") with
  | none => return none
  | some envelope =>
      let organizationId ← require wire.organizationId
        (valueError "credential handoff is missing queue tenant")
      let opened ← q.host.decryptCredentialEnvelope envelope wire.scanId organizationId
      return some opened

/-- How the handler is called. -/
def handlerCall (signature : HandlerSignature) (wire : WireMessage) (envelope : Option String)
    (binding : Option QueueDispatchBinding) : Except PyException HandlerCall :=
  if (nonEmpty wire.authorizationRequestId).isSome then do
    ensure (signature.accepts 5)
      (valueError "authoritative worker handler must accept the typed queue binding")
    return ⟨wire.scanId, wire.organizationId, wire.authorizationRequestId, envelope, binding⟩
  else if signature.accepts 4 then
    return ⟨wire.scanId, wire.organizationId, wire.authorizationRequestId, envelope, none⟩
  else if signature.accepts 3 then
    return ⟨wire.scanId, wire.organizationId, none, envelope, none⟩
  else do
    refuse envelope.isSome (valueError "worker handler does not accept credential handoff")
    return ⟨wire.scanId, wire.organizationId, none, none, none⟩

/-- The body of the `try`: the envelope is opened and the handler runs. -/
def handle (signature : HandlerSignature) (messageId : String) (fields : Fields)
    (wire : WireMessage) (binding : Option QueueDispatchBinding) : Asking Unit := do
  let envelope ← ofExcept (q.openEnvelope fields wire)
  let call ← ofExcept (handlerCall signature wire envelope binding)
  Client.enterHandler messageId call
  let outcome ← Client.leaveHandler messageId call
  ofExcept outcome

/-- The report of an authoritative failure. -/
def authoritativeReport (wire : WireMessage) (kind : String) (binding : QueueDispatchBinding)
    (errorCode : String) (attempts : Nat) (escalated : Bool) : FailureReport where
  errorCode := errorCode
  acknowledge := false
  scanId := some wire.scanId
  organizationId := wire.organizationId
  authorizationRequestId := wire.authorizationRequestId
  messageKind := some kind
  queueBindingDigest := some binding.queueBindingDigest
  manifestHash := some binding.manifestHash
  executionIds := some binding.executionIds
  operationIds := some binding.operationIds
  attemptCount := some attempts
  maxAttempts := some q.settings.maxDeliveryAttempts
  escalated := escalated
  quarantined := escalated

/-- Runs the handler: a success acknowledges the message, a failure is recorded. -/
def settle (signature : HandlerSignature) (messageId : String) (fields : Fields)
    (wire : WireMessage) (authoritative : Option (QueueDispatchBinding × Nat)) : Asking Bool := do
  match ← (q.handle signature messageId fields wire (authoritative.map (·.1))).attempt with
  | .ok () =>
      complete messageId
      return true
  | .error e =>
      if !e.isException then .raise e
      else
        match authoritative with
        | some (binding, attempts) =>
            q.fail messageId (authoritativeReport q wire wire.messageKind binding e.name attempts
              (q.settings.maxDeliveryAttempts ≤ attempts))
            return true
        | none =>
            q.fail messageId { errorCode := e.name, messageKind := some wire.messageKind }
            return true

/-- An authoritative message with its binding: the delivery count is read before the handler. -/
def dispatch (signature : HandlerSignature) (messageId : String) (fields : Fields)
    (wire : WireMessage) (binding : QueueDispatchBinding) : Asking Bool := do
  match ← (deliveryAttempts messageId).attempt with
  | .error _ =>
      q.fail messageId {
        errorCode := "QUEUE_DELIVERY_COUNTER_UNAVAILABLE"
        acknowledge := false
        scanId := some wire.scanId
        organizationId := wire.organizationId
        authorizationRequestId := wire.authorizationRequestId
        messageKind := some ambiguousKind
        maxAttempts := some q.settings.maxDeliveryAttempts
        escalated := true
        quarantined := true }
      return true
  | .ok attempts =>
      if q.settings.maxDeliveryAttempts < attempts then
        q.fail messageId
          (authoritativeReport q wire authoritativeKind binding "QUEUE_DELIVERY_ATTEMPTS_EXCEEDED"
            attempts true)
        return true
      else q.settle signature messageId fields wire (some (binding, attempts))

/-- The binding of an authoritative message, which is the message's own. -/
def readBinding (fields : Fields) (wire : WireMessage) : Except PyException QueueDispatchBinding := do
  let binding ← QueueDispatchBinding.fromPayload q.host fields
  refuse (binding.scanId ≠ wire.scanId || some binding.organizationId ≠ wire.organizationId ||
      some binding.authorizationRequestId ≠ wire.authorizationRequestId)
    (valueError "authoritative queue binding identity does not match the message")
  return binding

/-- What `consume_once` does with the message it claimed. -/
def consume (signature : HandlerSignature) (messageId : String) (fields : Fields) :
    Asking Bool := do
  if ← q.isQuarantined messageId then return true
  else
    match validateWireMessage q.host fields with
    | .error _ =>
        q.quarantineInvalidWireMessage messageId fields "QUEUE_MESSAGE_CLASSIFICATION_REJECTED"
        return true
    | .ok wire =>
        if (nonEmpty wire.authorizationRequestId).isSome then
          match q.readBinding fields wire with
          | .error _ =>
              q.quarantineInvalidWireMessage messageId fields "QUEUE_BINDING_REJECTED"
              return true
          | .ok binding => q.dispatch signature messageId fields wire binding
        else q.settle signature messageId fields wire none

/-- The message a worker claims: a pending one that has been idle, or the next of the stream. -/
def claim : Asking (List (String × Fields)) := do
  let claimed ← Client.xautoclaim q.consumerName
  if claimed.isEmpty then Client.xreadgroup q.consumerName else return claimed

/-- `consume_once`. -/
def consumeOnce (signature : HandlerSignature) : Asking Bool := do
  match ← q.claim with
  | [] => return false
  | (messageId, fields) :: _ => q.consume signature messageId fields

end DurableQueue

end CyberAssess
