import CyberAssess.Queue.Binding

/-!
# Queue — failure evidence and the quarantine state

`core/queue.py`: what a failed dispatch leaves behind.

* `canonicalFailureEvidence` is the check every piece of evidence passes before it is stored.
* `quarantineState` is the state a quarantine stores, `readQuarantineState` what is made of a stored
  text again.
* `canonical_ok`: what accepted evidence is, `Evident`, and what is stored of it.

`[about ours]`: evidence is a dictionary of texts. Read back from JSON, a value that is no text of
plain characters is refused where the source refuses it, by the check of the single fields.
-/

namespace CyberAssess

open Python
open Checked (ensure refuse require bind_ok exists_unit ensure_ok refuse_ok require_ok)

/-! ### The kinds of message, and the fields -/

/-- `_QUEUE_MESSAGE_KIND_AUTHORITATIVE`. -/
def authoritativeKind : String := "AUTHORITATIVE_EXECUTION"

/-- `_QUEUE_MESSAGE_KIND_LEGACY`. -/
def legacyKind : String := "LEGACY_DIAGNOSTIC"

/-- `_QUEUE_MESSAGE_KIND_AMBIGUOUS`. -/
def ambiguousKind : String := "AMBIGUOUS_UNCLASSIFIED"

/-- `_QUEUE_MESSAGE_KINDS`. -/
def queueMessageKinds : List String := [authoritativeKind, legacyKind, ambiguousKind]

/-- The fields that carry a binding, its scan, tenant and request apart. -/
def bindingFields : List String :=
  ["queue_binding_digest", "manifest_hash", "execution_ids_json", "operation_ids_json",
    "queue_binding_schema_version"]

/-- `_QUEUE_REQUIRED_FAILURE_EVIDENCE_FIELDS`. -/
def requiredEvidenceFields : List String :=
  ["message_id", "dispatch_message_id", "error_code", "failure_category", "failure_observed_at",
    "requeue_required", "escalated", "quarantined", "message_kind"]

/-- `_QUEUE_FAILURE_EVIDENCE_FIELDS`. -/
def failureEvidenceFields : List String :=
  requiredEvidenceFields ++ ["scan_id", "organization_id", "authorization_request_id"] ++
    bindingFields ++ ["attempt_count", "max_attempts"]

/-- `_QUEUE_FAILURE_EVIDENCE_MAX_LENGTHS.get(field_name, 256)`. -/
def evidenceMaxLength (name : String) : Nat :=
  if name = "execution_ids_json" || name = "operation_ids_json" then 131072 else 256

/-- One field of the evidence. -/
def evidenceFieldOk (name value : String) : Bool :=
  1 ≤ value.length && value.length ≤ evidenceMaxLength name && value.toList.all isGraphic

/-! ### Canonical evidence -/

/-- `_validate_identity_json_fields`. -/
def validateIdentityJsonFields (host : QueueHost) (fields : Fields) : Except PyException Unit := do
  let present := bindingFields.filter fun name => (fields.lookup name).isSome
  if present.isEmpty then return
  ensure (present.length = bindingFields.length)
    (valueError "queue binding identity fields must be complete")
  let _ ← QueueDispatchBinding.fromPayload host fields
  return

/-- A counter of the evidence, where it is there. -/
def evidenceCounterOk (evidence : Fields) (name : String) : Bool :=
  (evidence.lookup name).all fun value => isDigits value && 1 ≤ digitsToNat value

/-- `_canonical_failure_evidence`. -/
def canonicalFailureEvidence (host : QueueHost) (messageId : String) (evidence : Fields)
    (requireQuarantined : Bool) : Except PyException Fields := do
  let invalid (name : String) := valueError s!"queue failure evidence field {name} is invalid"
  ensure (evidence.all fun f => failureEvidenceFields.contains f.1)
    (valueError "queue failure evidence contains unsupported fields")
  Checked.ensureEach invalid (evidence.map fun f => (f.1, evidenceFieldOk f.1 f.2))
  ensure (requiredEvidenceFields.all fun name => (evidence.lookup name).isSome)
    (valueError "queue failure evidence is incomplete")
  ensure (evidence.lookup "message_id" = some messageId &&
      evidence.lookup "dispatch_message_id" = some messageId)
    (valueError "queue failure evidence message identity does not match")
  ensure ((evidence.lookup "quarantined").any fun value => value = "0" || value = "1")
    (valueError "queue failure evidence quarantine state is invalid")
  refuse (requireQuarantined && evidence.lookup "quarantined" ≠ some "1")
    (valueError "authoritative quarantine evidence must be marked quarantined")
  ensure ((evidence.lookup "message_kind").any queueMessageKinds.contains)
    (valueError "queue failure evidence message kind is invalid")
  refuse (evidence.lookup "message_kind" = some legacyKind && requireQuarantined)
    (valueError "legacy diagnostic evidence cannot be authoritative quarantine evidence")
  Checked.ensureEach invalid (["organization_id", "authorization_request_id"].map fun name =>
    (name, (evidence.lookup name).all safeQueueText))
  refuse ((evidence.lookup "authorization_request_id").isSome &&
      (evidence.lookup "organization_id").isNone)
    (valueError "queue failure authorization identity requires a tenant")
  validateIdentityJsonFields host evidence
  Checked.ensureEach invalid (["attempt_count", "max_attempts"].map fun name =>
    (name, evidenceCounterOk evidence name))
  ensure (((evidence.lookup "attempt_count").bind fun attempts =>
      (evidence.lookup "max_attempts").map fun bound =>
        decide (digitsToNat attempts ≤ digitsToNat bound)).getD true)
    (valueError "queue failure delivery count exceeds its declared bound")
  return sortKeys evidence

/-- `_failure_evidence_digest`. -/
def failureEvidenceDigest (host : QueueHost) (evidence : Fields) : String :=
  host.sha256 (String.ofList (Value.obj (evidence.map fun f => (points f.1, textValue f.2))).write)

/-! ### The quarantine state -/

/-- `_QUEUE_QUARANTINE_SCHEMA_VERSION`. -/
def quarantineSchemaVersion : String := "queue-quarantine-v3"

/-- What a quarantine is asked to keep, besides its evidence. -/
structure QuarantineIdentity where
  scanId : Option String
  organizationId : Option String
  authorizationRequestId : Option String
  queueBindingDigest : Option String
  manifestHash : Option String
  executionIds : Option (List Points)
  operationIds : Option (List Points)
  attemptCount : Option Nat
  maxAttempts : Option Nat

/-- The identities that are texts. -/
def QuarantineIdentity.texts (q : QuarantineIdentity) : List (String × Option String) :=
  [("scan_id", q.scanId), ("organization_id", q.organizationId),
    ("authorization_request_id", q.authorizationRequestId),
    ("queue_binding_digest", q.queueBindingDigest), ("manifest_hash", q.manifestHash)]

/-- The identities that are lists. -/
def QuarantineIdentity.lists (q : QuarantineIdentity) : List (String × Option (List Points)) :=
  [("execution_ids", q.executionIds), ("operation_ids", q.operationIds)]

/-- The counters that are kept. -/
def QuarantineIdentity.counters (q : QuarantineIdentity) : List (String × Option Nat) :=
  [("attempt_count", q.attemptCount.filter (1 ≤ ·)), ("max_attempts", q.maxAttempts.filter (1 ≤ ·))]

/-- The members that are there. -/
def present {α : Type} (rows : List (String × Option α)) : List (String × α) :=
  rows.filterMap fun r => r.2.map fun v => (r.1, v)

/-- `_quarantine_state_digest` of the members before the digest is among them. -/
def quarantineStateDigest (host : QueueHost) (members : List (Points × Value)) : String :=
  host.sha256 (String.ofList
    (Value.obj (members.filter fun m => m.1 ≠ points "quarantine_state_digest")).write)

/-- `safe_reason[:128]`. -/
def safeReason (reason : String) : String :=
  if safeQueueText (String.ofList (reason.toList.take 256)) then
    String.ofList (reason.toList.take 128)
  else "QUEUE_FAILURE"

/-- The members of the state, its own digest apart: what `_quarantine` puts together. -/
def quarantineMembers (host : QueueHost) (now messageId reason : String) (evidence : Fields)
    (q : QuarantineIdentity) : Except PyException (List (Points × Value)) := do
  Checked.ensureEach
    (fun name => valueError s!"quarantine identity does not match failure evidence: {name}")
    (q.texts.map fun r => (r.1, r.2.all fun value => evidence.lookup r.1 = some value))
  Checked.ensureEach
    (fun name => valueError s!"quarantine identity list does not match failure evidence: {name}")
    (q.lists.map fun r =>
      (r.1, r.2.all fun ids => evidence.lookup (r.1 ++ "_json") = some (identityJson ids)))
  ensure ((q.attemptCount.filter (1 ≤ ·)).all fun n =>
      evidence.lookup "attempt_count" = some (toString n))
    (valueError "quarantine attempt count does not match failure evidence")
  ensure ((q.maxAttempts.filter (1 ≤ ·)).all fun n =>
      evidence.lookup "max_attempts" = some (toString n))
    (valueError "quarantine delivery bound does not match failure evidence")
  return ([("schema_version", textValue quarantineSchemaVersion), ("status", textValue "QUARANTINED"),
        ("message_id", textValue messageId), ("reason", textValue (safeReason reason)),
        ("quarantined_at", textValue now),
        ("failure_evidence", .obj (evidence.map fun f => (points f.1, textValue f.2))),
        ("failure_evidence_digest", textValue (failureEvidenceDigest host evidence)),
        ("message_kind", textValue ((evidence.lookup "message_kind").getD ""))] ++
      (present q.texts).map (fun m => (m.1, textValue m.2)) ++
      (present q.lists).map (fun m => (m.1, identityList m.2)) ++
      (present q.counters).map fun m => (m.1, Value.int m.2)).map fun m => (points m.1, m.2)

/-- The text that is stored. -/
def quarantineState (host : QueueHost) (now messageId reason : String) (evidence : Fields)
    (q : QuarantineIdentity) : Except PyException String := do
  let members ← quarantineMembers host now messageId reason evidence q
  return String.ofList (Value.obj (members ++
    [(points "quarantine_state_digest", textValue (quarantineStateDigest host members))])).write

/-! ### Reading a state again -/

/-- `_QUEUE_QUARANTINE_STATE_FIELDS`. -/
def quarantineStateFields : List String :=
  ["schema_version", "status", "message_id", "reason", "quarantined_at", "failure_evidence",
    "failure_evidence_digest", "quarantine_state_digest", "message_kind", "scan_id",
    "organization_id", "authorization_request_id", "queue_binding_digest", "manifest_hash",
    "execution_ids", "operation_ids", "attempt_count", "max_attempts"]

/-- The text of code points that are no surrogates. -/
def textOf (ps : Points) : Option String :=
  if ps.all fun p => !isHigh p && !isLow p then
    some (String.ofList (ps.map fun p => Char.ofNat p.val))
  else none

/-- A dictionary of texts among the values. -/
def fieldsOf : Value → Option Fields
  | .obj members => members.mapM fun m =>
      match m.2 with
      | .str value => do return (← textOf m.1, ← textOf value)
      | _ => none
  | _ => none

/-- `value == text`. -/
def valueIsText (text : String) : Value → Bool
  | .str value => value = points text
  | _ => false

/-- `value == list`, of a list of strings. -/
def valueIsTexts (texts : List Points) : Value → Bool
  | .arr items => items.mapM (fun v => match v with | .str t => some t | _ => none) = some texts
  | _ => false

/-- `value == n`: truth values and floats are numbers too. -/
def valueIsNumber (host : QueueHost) (n : Int) : Value → Bool
  | .int m => m = n
  | .bool b => (if b then 1 else 0) = n
  | .float t => host.floatEq t n
  | _ => false

/-- `state.get(name)`. -/
def stateField (members : List (Points × Value)) (name : String) : Option Value :=
  members.lookup (points name)

/-- A field of the state is there exactly where the evidence has its own, and agrees with it. -/
def stateAgrees (members : List (Points × Value)) (name : String) (own : Option String)
    (agrees : String → Value → Bool) : Bool :=
  match own with
  | some text => (stateField members name).any (agrees text)
  | none => (stateField members name).isNone

/-- `_get_quarantine_state` of a stored text: the members, and the evidence among them. -/
def readQuarantineState (host : QueueHost) (messageId raw : String) :
    Option (List (Points × Value) × Fields) := do
  let .obj members ← loads raw.toList | none
  guard (members.all fun m => quarantineStateFields.any fun name => points name = m.1)
  guard ((stateField members "schema_version").any (valueIsText quarantineSchemaVersion))
  guard ((stateField members "status").any (valueIsText "QUARANTINED"))
  guard ((stateField members "message_id").any (valueIsText messageId))
  let given ← (stateField members "failure_evidence").bind fieldsOf
  let evidence ← (canonicalFailureEvidence host messageId given true).toOption
  guard ((stateField members "failure_evidence_digest").any
    (valueIsText (failureEvidenceDigest host evidence)))
  guard ((stateField members "message_kind").any
    (valueIsText ((evidence.lookup "message_kind").getD "")))
  guard (["scan_id", "organization_id", "authorization_request_id", "queue_binding_digest",
      "manifest_hash"].all fun name =>
    stateAgrees members name (evidence.lookup name) valueIsText)
  guard (["execution_ids", "operation_ids"].all fun name =>
    stateAgrees members name (evidence.lookup (name ++ "_json")) fun text v =>
      match (loadList text).bind fun items => items.mapM listedIdentity with
      | some ids => valueIsTexts ids v
      | none => false)
  guard (["attempt_count", "max_attempts"].all fun name =>
    stateAgrees members name (evidence.lookup name) fun text v =>
      valueIsNumber host (digitsToNat text) v)
  guard ((stateField members "quarantine_state_digest").any
    (valueIsText (quarantineStateDigest host members)))
  return (members, evidence)

/-! ### Dictionaries with optional members -/

theorem mem_present {α : Type} {rows : List (String × Option α)} {name : String} {v : α} :
    (name, v) ∈ present rows ↔ (name, some v) ∈ rows := by
  simp only [present, List.mem_filterMap, Option.map_eq_some_iff, Prod.mk.injEq]
  constructor
  · rintro ⟨⟨n, o⟩, mem, x, found, rfl, rfl⟩
    exact found ▸ mem
  · intro mem
    exact ⟨_, mem, v, rfl, rfl, rfl⟩

theorem keys_present {α : Type} (rows : List (String × Option α)) :
    ((present rows).map (·.1)).Sublist (rows.map (·.1)) := by
  induction rows with
  | nil => exact List.Sublist.refl _
  | cons row rows ih =>
      obtain ⟨name, value⟩ := row
      cases value with
      | none => exact ih.cons name
      | some v => exact ih.cons_cons name

/-- A member is found where its row has a value. -/
theorem lookup_present {α : Type} {rows : List (String × Option α)}
    (distinct : (rows.map (·.1)).Nodup) (name : String) :
    (present rows).lookup name = (rows.lookup name).join := by
  induction rows with
  | nil => rfl
  | cons row rows ih =>
      obtain ⟨key, value⟩ := row
      obtain ⟨new, distinct⟩ := List.nodup_cons.mp distinct
      have others := ih distinct
      by_cases same : name = key
      · subst same
        have none : (present rows).lookup name = none := by
          rw [List.lookup_eq_none_iff]
          intro p hp
          have key := (keys_present rows).subset (List.mem_map_of_mem hp)
          refine bne_iff_ne.mpr ?_
          rintro rfl
          exact new key
        cases value with
        | none => simpa [present] using none
        | some v => simp [present]
      · have apart : (name == key) = false := beq_eq_false_iff_ne.mpr same
        rw [List.lookup_cons, apart, ← others]
        cases value with
        | none => rfl
        | some v => simp [present, List.lookup_cons, apart]

theorem lookup_sortKeys {α : Type} {members : List (String × α)}
    (distinct : (members.map (·.1)).Nodup) (name : String) :
    (sortKeys members).lookup name = members.lookup name :=
  (lookup_perm (List.mergeSort_perm members _).symm distinct name).symm

/-! ### Accepted evidence -/

/-- What accepted evidence is. -/
structure Evident (host : QueueHost) (messageId : String) (evidence : Fields)
    (requireQuarantined : Bool) : Prop where
  known : ∀ f ∈ evidence, f.1 ∈ failureEvidenceFields
  safe : ∀ f ∈ evidence, evidenceFieldOk f.1 f.2 = true
  complete : ∀ name ∈ requiredEvidenceFields, (evidence.lookup name).isSome = true
  message : evidence.lookup "message_id" = some messageId
  dispatched : evidence.lookup "dispatch_message_id" = some messageId
  flagged : (evidence.lookup "quarantined").any (fun value => value = "0" || value = "1") = true
  marked : requireQuarantined = true → evidence.lookup "quarantined" = some "1"
  kind : (evidence.lookup "message_kind").any queueMessageKinds.contains = true
  legacy : evidence.lookup "message_kind" = some legacyKind → requireQuarantined = false
  organization : (evidence.lookup "organization_id").all safeQueueText = true
  request : (evidence.lookup "authorization_request_id").all safeQueueText = true
  tenant : (evidence.lookup "authorization_request_id").isSome = true →
    (evidence.lookup "organization_id").isSome = true
  identity : validateIdentityJsonFields host evidence = .ok ()
  attempts : evidenceCounterOk evidence "attempt_count" = true
  bound : evidenceCounterOk evidence "max_attempts" = true
  within : ∀ attempts bound, evidence.lookup "attempt_count" = some attempts →
    evidence.lookup "max_attempts" = some bound → digitsToNat attempts ≤ digitsToNat bound

/-- Accepted evidence is stored in the order of its keys. -/
theorem canonical_ok {host : QueueHost} {messageId : String} {evidence canonical : Fields}
    {requireQuarantined : Bool} :
    canonicalFailureEvidence host messageId evidence requireQuarantined = .ok canonical ↔
      Evident host messageId evidence requireQuarantined ∧ sortKeys evidence = canonical := by
  have counted : (((evidence.lookup "attempt_count").bind fun attempts =>
      (evidence.lookup "max_attempts").map fun bound =>
        decide (digitsToNat attempts ≤ digitsToNat bound)).getD true) = true ↔
      ∀ attempts bound, evidence.lookup "attempt_count" = some attempts →
        evidence.lookup "max_attempts" = some bound → digitsToNat attempts ≤ digitsToNat bound := by
    cases evidence.lookup "attempt_count" with
    | none => simp
    | some attempts =>
        cases evidence.lookup "max_attempts" with
        | none => simp
        | some bound => simp
  simp only [canonicalFailureEvidence, bind_ok, exists_unit, ensure_ok, refuse_ok,
    Checked.ensureEach_ok, counted, List.all_eq_true, List.contains_iff_mem, Bool.and_eq_true,
    Bool.and_eq_false_imp, decide_eq_true_eq, decide_eq_false_iff_not, ne_eq, not_not,
    Option.isNone_eq_false_iff, List.forall_mem_map, List.forall_mem_cons,
    List.not_mem_nil, false_implies, implies_true, and_true]
  constructor
  · rintro ⟨known, safe, complete, ⟨message, dispatched⟩, flagged, marked, kind, legacy,
      ⟨organization, request⟩, tenant, identity, ⟨attempts, bound⟩, within, result⟩
    exact ⟨⟨known, safe, complete, message, dispatched, flagged, marked, kind, legacy, organization,
      request, tenant, identity, attempts, bound, within⟩, Except.ok.inj result⟩
  · rintro ⟨ok, rfl⟩
    exact ⟨ok.known, ok.safe, ok.complete, ⟨ok.message, ok.dispatched⟩, ok.flagged, ok.marked,
      ok.kind, ok.legacy, ⟨ok.organization, ok.request⟩, ok.tenant, ok.identity,
      ⟨ok.attempts, ok.bound⟩, ok.within, rfl⟩

end CyberAssess
