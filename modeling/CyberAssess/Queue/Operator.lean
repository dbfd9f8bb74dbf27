import CyberAssess.Queue.Consumer

/-!
# Queue — acknowledging a quarantine

`core/queue.py`: `acknowledge_quarantined`, the one call that takes a quarantined message out of the
pending list.

* `QuarantineOperator` is the authorization the authenticated service issues.
* `acknowledgeable` is what the stored state must say, `recoveryEvent` the event that is recorded.
-/

namespace CyberAssess

open Python
open Interaction (Program)
open Interaction.Program (ofExcept)
open Checked (ensure refuse require)

/-- `QueueQuarantineOperatorAuthorization`: only the authenticated service issues one. -/
structure QuarantineOperator where
  actorId : String
  organizationId : String
  sessionBinding : String
  actor_ok : safeQueueText actorId = true
  organization_ok : safeQueueText organizationId = true
  session_ok : safeQueueText sessionBinding = true

/-- `_QUEUE_AMBIGUOUS_RECOVERY_REASONS`. -/
def ambiguousRecoveryReasons : List String :=
  ["QUEUE_MESSAGE_CLASSIFICATION_REJECTED", "QUEUE_BINDING_REJECTED"]

/-- The members of a stored state. -/
abbrev StateMembers := List (Points × Value)

/-- `state.get(name) == text`. -/
def stateIs (members : StateMembers) (name text : String) : Bool :=
  (stateField members name).any (valueIsText text)

/-- `value in frozenset(…)`: a list or a dictionary has no hash. -/
def reasonAmong (reasons : List String) : Option Value → Except PyException Bool
  | some (.arr _) | some (.obj _) => .error
      { name := "TypeError"
        message := "unhashable type" }
  | some v => .ok (reasons.any fun reason => valueIsText reason v)
  | none => .ok false

/-- `acknowledgeable`. -/
def acknowledgeable (members : StateMembers) : Except PyException Bool := do
  if stateIs members "message_kind" ambiguousKind then
    let recovery ← reasonAmong ambiguousRecoveryReasons (stateField members "reason")
    return recovery &&
      ["queue_binding_digest", "manifest_hash", "execution_ids", "operation_ids"].all fun name =>
        (stateField members name).isNone
  else return stateIs members "message_kind" authoritativeKind

namespace DurableQueue

variable (q : DurableQueue)

/-- `str(state.get(name, default))`. -/
def stateText (members : StateMembers) (name default : String) : String :=
  match stateField members name with
  | none => default
  | some (.str value) => (textOf value).getD (q.host.render (.str value))
  | some v => q.host.render v

/-- `json.dumps(values)` of a list of the state, which is a list of strings. -/
def stateList (members : StateMembers) (name : String) : Option String :=
  match stateField members name with
  | some (.arr items) => some (String.ofList (Value.arr items).write)
  | _ => none

/-- `str(state[name])` of an integer of the state. -/
def stateCounter (members : StateMembers) (name : String) : Option String :=
  match stateField members name with
  | some (.int n) => some (toString n)
  | _ => none

/-- The event of an acknowledgement. -/
def recoveryEvent (members : StateMembers) (operator : QuarantineOperator)
    (messageId authorizationRequestId now : String) : Fields :=
  present [("message_id", some messageId), ("dispatch_message_id", some messageId),
    ("failure_category", some "AUTHORITATIVE_DISPATCH_RECOVERY"),
    ("recovery_action", some "ACKNOWLEDGED_AFTER_QUARANTINE"),
    ("recovery_actor", some operator.actorId), ("recovery_observed_at", some now),
    ("quarantine_reason",
      some (String.ofList ((q.stateText members "reason" "QUEUE_FAILURE").toList.take 128))),
    ("scan_id", some (q.stateText members "scan_id" "")),
    ("queue_binding_digest", some (q.stateText members "queue_binding_digest" "")),
    ("manifest_hash", some (q.stateText members "manifest_hash" "")),
    ("original_failure_evidence_digest",
      some (q.stateText members "failure_evidence_digest" "")),
    ("organization_id", some operator.organizationId),
    ("authorization_request_id", some authorizationRequestId),
    ("execution_ids_json", stateList members "execution_ids"),
    ("operation_ids_json", stateList members "operation_ids"),
    ("attempt_count", stateCounter members "attempt_count"),
    ("max_attempts", stateCounter members "max_attempts")]

/-- The compare-and-swap on the state that was read. -/
def closeQuarantine (messageId raw authorizationRequestId : String)
    (operator : QuarantineOperator) (members : StateMembers) : Asking Bool := do
  let now ← Client.now
  let result ← Client.evalAcknowledge (q.quarantineStateKey messageId)
    (q.quarantineKey messageId) raw messageId
    (q.recoveryEvent members operator messageId authorizationRequestId now)
  ofExcept (ensure (result ≤ 1)
    (runtimeError "quarantine acknowledgement transaction returned an invalid result"))
  return result = 1

/-- `acknowledge_quarantined`. -/
def acknowledgeQuarantined (messageId : String) (operator : QuarantineOperator)
    (authorizationRequestId : Option String) : Asking Bool := do
  ofExcept (ensure (nonBlankUpTo 256 messageId)
    (valueError "quarantine acknowledgement identity is invalid"))
  match authorizationRequestId.filter fun r => !isBlank r with
  | none => return false
  | some request =>
      if operator.organizationId ≠ strip operator.organizationId then return false
      else
        let raw ← Client.get (q.quarantineStateKey messageId)
        let state ← q.getQuarantineState messageId
        match raw, state with
        | some raw, some (members, _) =>
            let allowed ← ofExcept (acknowledgeable members)
            if stateIs members "organization_id" operator.organizationId &&
                stateIs members "authorization_request_id" (strip request) && allowed then
              q.closeQuarantine messageId raw (strip request) operator members
            else return false
        | none, some (members, _) =>
            let _ ← ofExcept (acknowledgeable members)
            return false
        | _, none => return false

end DurableQueue

end CyberAssess
