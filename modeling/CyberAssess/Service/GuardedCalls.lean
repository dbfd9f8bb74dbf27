import Mathlib.Data.List.Perm.Basic
import CyberAssess.Service.Identity
import CyberAssess.Support.DateTime
import CyberAssess.Support.JsonCanonical

/-!
# Service — guarded calls

The calls that `BackendObservationService` of `core/observation_service.py` owns until they end: its
durable writes and its supervisor cancellations.  A pending call is found by its identity, and joined
by a call with its fingerprint.

* `canonicalDurableWriteValue` is `_canonical_durable_write_value`; `PlainArgument` is what the call sites
  pass, `RecoveryWrite` the call sites.
* `RecoveryWrite.call_ids`: each is identified by its own execution and organization.
* `durableWriteIdentity`, `supervisorCancellationIdentity` are the identities;
  `WriteCall.fingerprint`, `CancellationCall.fingerprint` the fingerprints.
* `WriteCall.same_of_payload`, `CancellationCall.eq_of_payload`: what is written of a call tells it
  from any other.

`[about ours]`: the digest is a parameter; a float is kept as its text, and the keys of a dictionary
are strings.
-/

namespace CyberAssess

open Python (Value Points points)

/-- A dictionary under names. -/
def objectOf (members : List (String × Value)) : Value :=
  .obj (members.map fun m => (points m.1, m.2))

/-! ### Arguments -/

/-- A value passed to a guarded call. -/
inductive Argument where
  | none
  | bool (b : Bool)
  | int (n : Int)
  | float (text : List Char)
  | str (s : String)
  | datetime (t : Python.DateTime)
  | list (items : List Argument)
  | tuple (items : List Argument)
  | dict (members : List (String × Argument))
  | object (type representation : String)

mutual

/-- `_canonical_durable_write_value`. -/
def canonicalDurableWriteValue : Argument → Value
  | .none => .null
  | .bool b => .bool b
  | .int n => .int n
  | .float text => .float text
  | .str s => .str (points s)
  | .datetime t =>
      objectOf [("type", .str (points "datetime")), ("value", .str (points t.isoformat))]
  | .list items | .tuple items => .arr (canonicalWriteItems items)
  | .dict members => .obj (canonicalWriteMembers members)
  | .object type representation =>
      objectOf [("type", .str (points type)),
        ("representation", .str (points representation))]

/-- The items of a list or tuple. -/
def canonicalWriteItems : List Argument → List Value
  | [] => []
  | a :: as => canonicalDurableWriteValue a :: canonicalWriteItems as

/-- The members of a dictionary. -/
def canonicalWriteMembers : List (String × Argument) → List (Points × Value)
  | [] => []
  | (k, a) :: ms => (points k, canonicalDurableWriteValue a) :: canonicalWriteMembers ms

end

/-- What the call sites pass. -/
inductive PlainArgument where
  | none
  | bool (b : Bool)
  | int (n : Int)
  | str (s : String)
  | datetime (t : Python.DateTime)

/-- A plain argument as an argument. -/
def PlainArgument.argument : PlainArgument → Argument
  | .none => .none
  | .bool b => .bool b
  | .int n => .int n
  | .str s => .str s
  | .datetime t => .datetime t

/-- A string, or `None`. -/
def PlainArgument.optStr (s : Option String) : PlainArgument := s.elim .none .str

/-- An integer, or `None`. -/
def PlainArgument.optInt (n : Option Int) : PlainArgument := n.elim .none .int

/-- A time, or `None`. -/
def PlainArgument.optTime (t : Option Python.DateTime) : PlainArgument := t.elim .none .datetime

/-! ### Durable writes -/

/-- A call of `_durable_recovery_write`: the operation, the method's qualified name, and its
arguments. -/
structure WriteCall where
  operation : String
  method : String
  args : List PlainArgument
  kwargs : List (String × PlainArgument)
  distinct : (kwargs.map (·.1)).Nodup

/-- `args[i]` where it is a string that is not blank. -/
def nonBlankArgument (args : List PlainArgument) (i : Nat) : Option String :=
  match args[i]? with
  | some (.str s) => if Python.isBlank s then none else some s
  | _ => none

/-- `execution_id` of `_durable_write_identity`. -/
def WriteCall.executionId (c : WriteCall) : Option String := nonBlankArgument c.args 0

/-- `organization_id` of `_durable_write_identity`. -/
def WriteCall.organizationId (c : WriteCall) : Option String := nonBlankArgument c.args 1

/-- `_durable_write_identity`. -/
def durableWriteIdentity (operation : String) (executionId organizationId : Option String) : String :=
  ":".intercalate
    [operation, executionId.getD "no-execution", organizationId.getD "no-organization"]

/-- The payload of `_durable_write_request_fingerprint`. -/
def WriteCall.payload (c : WriteCall) : Value :=
  objectOf
    [("operation", .str (points c.operation)),
      ("method", .str (points c.method)),
      ("args", canonicalDurableWriteValue (.tuple (c.args.map (·.argument)))),
      ("kwargs",
        canonicalDurableWriteValue (.dict (c.kwargs.map fun m => (m.1, m.2.argument))))]

/-- One operation with one method on the same arguments, keywords in any order. -/
structure WriteCall.Same (c d : WriteCall) : Prop where
  operation : c.operation = d.operation
  method : c.method = d.method
  args : c.args = d.args
  kwargs : c.kwargs.Perm d.kwargs

/-! ### The durable writes of a recovery pass -/

/-- The calls of `complete_recovery`. -/
inductive CompletionSite where
  | identityUnavailable
  | timeout
  | unconfirmed
deriving DecidableEq, Repr

/-- Their operations. -/
def CompletionSite.operation : CompletionSite → String
  | .identityUnavailable => "complete-recovery-identity-unavailable"
  | .timeout => "complete-recovery-timeout"
  | .unconfirmed => "complete-recovery-unconfirmed"

/-- The durable writes of `_reap_execution_authority_once`, with what varies in each. -/
inductive RecoveryWrite where
  | claimRecoveryLease (executionId organizationId workerGeneration : String)
  | completeRecovery (site : CompletionSite) (executionId organizationId leaseToken workerGeneration
      status outcome error : String) (nextRetryAt : Option Python.DateTime)
  | settleRecoveryExecution (executionId organizationId leaseToken workerGeneration
      terminationStatus : String)
  | settlePreDispatch (executionId organizationId terminalState reasonCode : String)
      (workerGeneration : Option String)
  | settleNoExternalProcess (executionId organizationId terminalState reasonCode : String)
      (workerGeneration : Option String)
  | recordIdentityUnavailable (executionId organizationId : String)
      (runWorkerGeneration : Option String) (workerGeneration error : String)
      (nextRetryAt : Option Python.DateTime) (exhausted : Bool)
  | recordGovernedTimeout (executionId organizationId : String) (identity : ProcessIdentity)
      (workerGeneration : String) (nextRetryAt : Option Python.DateTime) (exhausted : Bool)
  | recordGovernedUnconfirmed (executionId organizationId : String) (identity : ProcessIdentity)
      (workerGeneration terminationStatus outcome : String) (nextRetryAt : Option Python.DateTime)
      (exhausted : Bool)
  | settleConfirmedTermination (executionId organizationId terminalState reasonCode
      terminationStatus : String) (identity : ProcessIdentity)
      (workerGeneration workerIdentity : Option String)
  | reapLegacyDispatch (executionId organizationId terminalState reasonCode : String)

/-- `f"{method.__module__}.{method.__qualname__}"`. -/
def databaseMethod (name : String) : String := "app.core.db.DatabaseManager." ++ name

/-- `settle_execution_after_confirmed_termination` before a process exists. -/
def settleWithoutProcessWrite (operation executionId organizationId terminalState reasonCode
    terminationStatus : String) (workerGeneration : Option String) : WriteCall where
  operation := operation
  method := databaseMethod "settle_execution_after_confirmed_termination"
  args := [.str executionId, .str organizationId]
  kwargs :=
    [("terminal_state", .str terminalState), ("reason_code", .str reasonCode),
      ("termination_status", .str terminationStatus),
      ("worker_generation", .optStr workerGeneration), ("actor", .str "execution-reaper")]
  distinct := (by decide : ["terminal_state", "reason_code", "termination_status",
    "worker_generation", "actor"].Nodup)

/-- `record_unconfirmed_governed_recovery`. -/
def unconfirmedGovernedWrite (operation executionId organizationId : String) (identity : ProcessIdentity)
    (workerGeneration terminationStatus outcome error : String)
    (nextRetryAt : Option Python.DateTime) (exhausted : Bool) : WriteCall where
  operation := operation
  method := databaseMethod "record_unconfirmed_governed_recovery"
  args := [.str executionId, .str organizationId]
  kwargs :=
    [("process_id", .int identity.pid),
      ("process_group_id", .optStr (identity.processGroupId.map toString)),
      ("process_start_token", .str identity.startToken), ("session_id", .optInt identity.sessionId),
      ("recovery_worker_identity", .str "execution-recovery-coordinator"),
      ("recovery_worker_generation", .str workerGeneration),
      ("termination_status", .str terminationStatus), ("outcome", .str outcome),
      ("error", .str error), ("next_retry_at", .optTime nextRetryAt), ("exhausted", .bool exhausted),
      ("actor", .str "execution-reaper")]
  distinct := (by decide : ["process_id", "process_group_id", "process_start_token", "session_id",
    "recovery_worker_identity", "recovery_worker_generation", "termination_status", "outcome",
    "error", "next_retry_at", "exhausted", "actor"].Nodup)

/-- The call each makes. -/
def RecoveryWrite.call : RecoveryWrite → WriteCall
  | .claimRecoveryLease executionId organizationId workerGeneration =>
      { operation := "claim-recovery-lease"
        method := databaseMethod "claim_recovery"
        args := [.str executionId, .str organizationId, .str "execution-recovery-coordinator",
          .str workerGeneration]
        kwargs := [("lease_seconds", .int 30)]
        distinct := List.nodup_singleton _ }
  | .completeRecovery site executionId organizationId leaseToken workerGeneration status outcome error
      nextRetryAt =>
      { operation := site.operation
        method := databaseMethod "complete_recovery"
        args := [.str executionId, .str organizationId, .str "execution-recovery-coordinator",
          .str leaseToken, .str workerGeneration]
        kwargs := [("status", .str status), ("outcome", .str outcome), ("error", .str error),
          ("next_retry_at", .optTime nextRetryAt)]
        distinct := (by decide : ["status", "outcome", "error", "next_retry_at"].Nodup) }
  | .settleRecoveryExecution executionId organizationId leaseToken workerGeneration terminationStatus =>
      { operation := "settle-recovery-execution"
        method := databaseMethod "settle_recovery_execution"
        args := [.str executionId, .str organizationId, .str "execution-recovery-coordinator",
          .str leaseToken, .str workerGeneration]
        kwargs := [("termination_status", .str terminationStatus)]
        distinct := List.nodup_singleton _ }
  | .settlePreDispatch executionId organizationId terminalState reasonCode workerGeneration =>
      settleWithoutProcessWrite "settle-pre-dispatch" executionId organizationId terminalState reasonCode
        "PRE_DISPATCH" workerGeneration
  | .settleNoExternalProcess executionId organizationId terminalState reasonCode workerGeneration =>
      settleWithoutProcessWrite "settle-no-external-process" executionId organizationId terminalState
        reasonCode "NO_EXTERNAL_PROCESS" workerGeneration
  | .recordIdentityUnavailable executionId organizationId runWorkerGeneration workerGeneration error
      nextRetryAt exhausted =>
      { operation := "record-identity-unavailable"
        method := databaseMethod "record_unavailable_governed_recovery"
        args := [.str executionId, .str organizationId]
        kwargs := [("worker_generation", .optStr runWorkerGeneration),
          ("recovery_worker_identity", .str "execution-recovery-coordinator"),
          ("recovery_worker_generation", .str workerGeneration),
          ("outcome", .str "identity_unavailable"), ("error", .str error),
          ("next_retry_at", .optTime nextRetryAt), ("exhausted", .bool exhausted),
          ("actor", .str "execution-reaper")]
        distinct := (by decide : ["worker_generation", "recovery_worker_identity",
          "recovery_worker_generation", "outcome", "error", "next_retry_at", "exhausted",
          "actor"].Nodup) }
  | .recordGovernedTimeout executionId organizationId identity workerGeneration nextRetryAt exhausted =>
      unconfirmedGovernedWrite "record-governed-timeout" executionId organizationId identity workerGeneration
        "TIMEOUT" "termination_timeout"
        "identity-bound termination exceeded the recovery timeout; automatic recovery remains fenced"
        nextRetryAt exhausted
  | .recordGovernedUnconfirmed executionId organizationId identity workerGeneration terminationStatus
      outcome nextRetryAt exhausted =>
      unconfirmedGovernedWrite "record-governed-unconfirmed" executionId organizationId identity
        workerGeneration terminationStatus outcome
        "termination was not confirmed; automatic recovery remains fenced" nextRetryAt exhausted
  | .settleConfirmedTermination executionId organizationId terminalState reasonCode terminationStatus
      identity workerGeneration workerIdentity =>
      { operation := "settle-confirmed-termination"
        method := databaseMethod "settle_execution_after_confirmed_termination"
        args := [.str executionId, .str organizationId]
        kwargs := [("terminal_state", .str terminalState), ("reason_code", .str reasonCode),
          ("termination_status", .str terminationStatus), ("process_id", .int identity.pid),
          ("process_group_id", .optStr (identity.processGroupId.map toString)),
          ("process_start_token", .str identity.startToken),
          ("session_id", .optInt identity.sessionId),
          ("worker_generation", .optStr workerGeneration),
          ("worker_identity", .optStr workerIdentity), ("actor", .str "execution-reaper")]
        distinct := (by decide : ["terminal_state", "reason_code", "termination_status", "process_id",
          "process_group_id", "process_start_token", "session_id", "worker_generation",
          "worker_identity", "actor"].Nodup) }
  | .reapLegacyDispatch executionId organizationId terminalState reasonCode =>
      { operation := "reap-legacy-dispatch"
        method := databaseMethod "reap_execution_dispatch"
        args := [.str executionId, .str organizationId]
        kwargs := [("terminal_state", .str terminalState), ("reason_code", .str reasonCode),
          ("actor", .str "execution-reaper")]
        distinct := (by decide : ["terminal_state", "reason_code", "actor"].Nodup) }

/-- The execution and the organization each is about. -/
def RecoveryWrite.ids : RecoveryWrite → String × String
  | .claimRecoveryLease e o _ | .completeRecovery _ e o .. | .settleRecoveryExecution e o ..
  | .settlePreDispatch e o .. | .settleNoExternalProcess e o .. | .recordIdentityUnavailable e o ..
  | .recordGovernedTimeout e o .. | .recordGovernedUnconfirmed e o ..
  | .settleConfirmedTermination e o .. | .reapLegacyDispatch e o .. => (e, o)

/-- The identity of each names its execution and its organization. -/
theorem RecoveryWrite.call_ids (w : RecoveryWrite) :
    w.call.executionId = (if Python.isBlank w.ids.1 then none else some w.ids.1) ∧
      w.call.organizationId = if Python.isBlank w.ids.2 then none else some w.ids.2 := by
  cases w <;> exact ⟨rfl, rfl⟩

/-! ### Supervisor cancellations -/

/-- A call of `_owned_supervisor_cancellation`. -/
structure CancellationCall where
  executionId : String
  organizationId : String
  processIdentity : Option ProcessIdentity
  recoveryWorkerGeneration : String
  recoveryLeaseToken : Option String
  recoveryAttempt : Option Int
deriving DecidableEq, Repr

/-- `_supervisor_cancellation_identity`. -/
def supervisorCancellationIdentity (executionId organizationId : String) : String :=
  ":".intercalate ["supervisor-cancel", executionId, organizationId]

/-- A string, or `null`. -/
def optText (s : Option String) : Value := s.elim .null fun s => .str (points s)

/-- An integer, or `null`. -/
def optInt (n : Option Int) : Value := n.elim .null .int

/-- A member of the snapshot. -/
def memberPayload (m : ProcessMember) : Value :=
  objectOf
    [("pid", .int m.pid), ("process_group_id", .int m.processGroupId),
      ("session_id", .int m.sessionId), ("start_token", .str (points m.startToken))]

/-- The payload of `_process_identity_fingerprint`. -/
def identityPayload (i : Option ProcessIdentity) : Value :=
  objectOf
    [("pid", optInt (i.map (·.pid))),
      ("process_group_id", optInt (i.bind (·.processGroupId))),
      ("start_token", optText (i.map (·.startToken))),
      ("session_id", optInt (i.bind (·.sessionId))),
      ("windows_attestation", optText (i.bind (·.windowsAttestation))),
      ("member_snapshot", .arr ((i.elim [] (·.memberSnapshot)).map memberPayload))]

/-- The payload of `_supervisor_cancellation_request_fingerprint`. -/
def CancellationCall.payload (c : CancellationCall) (processIdentityFingerprint : String) : Value :=
  objectOf
    [("operation", .str (points "supervisor-cancel")),
      ("execution_id", .str (points c.executionId)),
      ("organization_id", .str (points c.organizationId)),
      ("process_identity_fingerprint", .str (points processIdentityFingerprint)),
      ("recovery_worker_generation", .str (points c.recoveryWorkerGeneration)),
      ("recovery_lease_token", optText c.recoveryLeaseToken),
      ("recovery_attempt", optInt c.recoveryAttempt)]

/-! ### Fingerprints -/

variable (sha256 : String → String)

/-- `hashlib.sha256(json.dumps(…).encode()).hexdigest()`, or that `json.dumps` raises. -/
def payloadDigest (payload : Value) : Option String :=
  (Python.dumps payload).map (sha256 <| String.ofList ·)

/-- `_durable_write_request_fingerprint`. -/
def WriteCall.fingerprint (c : WriteCall) : Option String := payloadDigest sha256 c.payload

/-- `_process_identity_fingerprint`. -/
def processIdentityFingerprint (i : Option ProcessIdentity) : Option String :=
  payloadDigest sha256 (identityPayload i)

/-- `_supervisor_cancellation_request_fingerprint`, of the identity's own fingerprint. -/
def CancellationCall.fingerprint (c : CancellationCall) : Option String :=
  (processIdentityFingerprint sha256 c.processIdentity).bind fun i =>
    payloadDigest sha256 (c.payload i)

/-- Either call. -/
inductive GuardedCall where
  | durableWrite (c : WriteCall)
  | supervisorCancellation (c : CancellationCall)

/-- `_pending_durable_writes` or `_pending_supervisor_cancellations`. -/
inductive OperationKind where
  | durableWrite
  | supervisorCancellation
deriving DecidableEq, Repr

/-- The registry of either. -/
def GuardedCall.kind : GuardedCall → OperationKind
  | .durableWrite _ => .durableWrite
  | .supervisorCancellation _ => .supervisorCancellation

/-- The operation of either. -/
def GuardedCall.operation : GuardedCall → String
  | .durableWrite c => c.operation
  | .supervisorCancellation _ => "supervisor-cancel"

/-- The execution either is about. -/
def GuardedCall.executionId : GuardedCall → Option String
  | .durableWrite c => c.executionId
  | .supervisorCancellation c => some c.executionId

/-- Its organization. -/
def GuardedCall.organizationId : GuardedCall → Option String
  | .durableWrite c => c.organizationId
  | .supervisorCancellation c => some c.organizationId

/-- The identity either is pending under. -/
def GuardedCall.identity : GuardedCall → String
  | .durableWrite c => durableWriteIdentity c.operation c.executionId c.organizationId
  | .supervisorCancellation c => supervisorCancellationIdentity c.executionId c.organizationId

/-- The fingerprint of either. -/
def GuardedCall.fingerprint : GuardedCall → Option String
  | .durableWrite c => c.fingerprint sha256
  | .supervisorCancellation c => c.fingerprint sha256

/-- The texts of which either has the digest taken. -/
def GuardedCall.digested : GuardedCall → List String
  | .durableWrite c => [String.ofList c.payload.write]
  | .supervisorCancellation c =>
      String.ofList (identityPayload c.processIdentity).write ::
        (processIdentityFingerprint sha256 c.processIdentity).toList.map fun i =>
          String.ofList (c.payload i).write

/-- One operation on the same arguments. -/
def GuardedCall.Same : GuardedCall → GuardedCall → Prop
  | .durableWrite c, .durableWrite d => c.Same d
  | .supervisorCancellation c, .supervisorCancellation d => c = d
  | _, _ => False

/-! ### What is written of a call -/

open Python (joined_points points_inj)

variable {sha256}

theorem readable_str (s : String) : (Value.str (points s)).Readable := joined_points s

theorem readable_optText (s : Option String) : (optText s).Readable := by
  cases s with
  | none => trivial
  | some s => exact joined_points s

theorem optText_inj {s t : Option String} (h : (optText s).canonical = (optText t).canonical) :
    s = t := by
  cases s with
  | none =>
      cases t with
      | none => rfl
      | some t => exact nomatch h
  | some s =>
      cases t with
      | none => exact nomatch h
      | some t => exact congrArg some (points_inj (Value.str.inj h))

theorem readable_int {n : Int} (w : (Value.int n).isWritable = true) : (Value.int n).Readable := by
  have short : (Nat.toDigits 10 n.natAbs).length ≤ 4300 := of_decide_eq_true w
  exact short

theorem readable_optInt {n : Option Int} (w : (optInt n).isWritable = true) : (optInt n).Readable := by
  cases n with
  | none => trivial
  | some n => exact readable_int w

theorem optInt_inj {m n : Option Int} (h : (optInt m).canonical = (optInt n).canonical) : m = n := by
  cases m with
  | none =>
      cases n with
      | none => rfl
      | some n => exact nomatch h
  | some m =>
      cases n with
      | none => exact nomatch h
      | some n => exact congrArg some (Value.int.inj h)

section Objects

variable {ms ns : List (String × Value)}

theorem isWritable_objectOf : (objectOf ms).isWritable = true ↔ ∀ m ∈ ms, m.2.isWritable = true := by
  rw [objectOf, Python.isWritable_obj]
  exact List.forall_mem_map

theorem points_nodup (distinct : (ms.map (·.1)).Nodup) :
    ((ms.map fun m => (points m.1, m.2)).map (·.1)).Nodup := by
  have keys := distinct.map fun s t => points_inj (s := s) (t := t)
  rw [List.map_map] at keys ⊢
  exact keys

/-- An object under distinct names is readable where its members are. -/
theorem readable_objectOf (each : ∀ m ∈ ms, m.2.Readable) (distinct : (ms.map (·.1)).Nodup) :
    (objectOf ms).Readable := by
  refine ⟨Python.readableMembers_iff.mpr ?_, points_nodup distinct⟩
  intro m hm
  obtain ⟨n, hn, rfl⟩ := List.mem_map.mp hm
  exact ⟨joined_points n.1, each n hn⟩

/-- Objects under the same names, with one canonical form, agree on each. -/
theorem objectOf_agree (same : (objectOf ms).canonical = (objectOf ns).canonical)
    {names : List String} (distinct : names.Nodup) (left : ms.map (·.1) = names)
    (right : ns.map (·.1) = names) :
    List.Forall₂ (fun m n => m.2.canonical = n.2.canonical) ms ns := by
  have length : ms.length = ns.length := by
    have mapped := congrArg List.length (left.trans right.symm)
    rwa [List.length_map, List.length_map] at mapped
  refine List.forall₂_iff_get.mpr ⟨length, fun i hi hi' => ?_⟩
  have name : (ms.get ⟨i, hi⟩).1 = (ns.get ⟨i, hi'⟩).1 := by
    have at_i := congrArg (·[i]?) (left.trans right.symm)
    simpa [hi, hi'] using at_i
  have here := List.mem_map_of_mem (f := fun m : String × Value => (points m.1, m.2))
    (ms.get_mem ⟨i, hi⟩)
  have there := List.mem_map_of_mem (f := fun m : String × Value => (points m.1, m.2))
    (ns.get_mem ⟨i, hi'⟩)
  rw [name] at here
  exact Python.member_of_canonical same (points_nodup (right ▸ distinct)) here there

end Objects

theorem payloadDigest_some {v : Value} {f : String} (h : payloadDigest sha256 v = some f) :
    v.isWritable = true ∧ sha256 (String.ofList v.write) = f := by
  rw [payloadDigest, Option.map_eq_some_iff] at h
  obtain ⟨text, written, digest⟩ := h
  obtain ⟨writable, rfl⟩ := Python.dumps_some.mp written
  exact ⟨writable, digest⟩

/-- Readable payloads with one digest, where it tells their texts apart, have one canonical form. -/
theorem canonical_of_digest {v w : Value} (hv : v.Readable) (hw : w.Readable)
    (apart : sha256 (String.ofList v.write) = sha256 (String.ofList w.write) →
      String.ofList v.write = String.ofList w.write)
    (same : sha256 (String.ofList v.write) = sha256 (String.ofList w.write)) :
    v.canonical = w.canonical :=
  Python.write_inj hv hw (String.ofList_inj.mp (apart same))

/-! ### Plain arguments -/

/-- A plain argument as it is written. -/
def PlainArgument.value (a : PlainArgument) : Value := canonicalDurableWriteValue a.argument

theorem PlainArgument.readable {a : PlainArgument} (w : a.value.isWritable = true) : a.value.Readable := by
  cases a with
  | none => trivial
  | bool b => trivial
  | int n => exact readable_int w
  | str s => exact joined_points s
  | datetime t =>
      have names : ["type", "value"].Nodup := by decide
      refine readable_objectOf ?_ names
      intro m hm
      rcases List.mem_pair.mp hm with rfl | rfl
      · exact readable_str _
      · exact readable_str _

/-- A plain argument is told from any other by what is written of it. -/
theorem PlainArgument.value_inj {a b : PlainArgument} (h : a.value.canonical = b.value.canonical) : a = b := by
  cases a <;> cases b <;>
    simp only [value, argument, canonicalDurableWriteValue, objectOf, Value.canonical,
      reduceCtorEq, Value.bool.injEq, Value.int.injEq, Value.str.injEq] at h
  case none.none => rfl
  case bool.bool => rw [h]
  case int.int => rw [h]
  case str.str => rw [points_inj h]
  case datetime.datetime t t' =>
    have same : (objectOf [("type", .str (points "datetime")),
          ("value", .str (points t.isoformat))]).canonical =
        (objectOf [("type", .str (points "datetime")),
          ("value", .str (points t'.isoformat))]).canonical := h
    have names : ["type", "value"].Nodup := by decide
    obtain ⟨⟩ | ⟨-, ⟨⟩ | ⟨value, -⟩⟩ := objectOf_agree same names rfl rfl
    have text := points_inj (Value.str.inj value)
    have read := Python.fromisoformat_isoformat t
    rw [text, Python.fromisoformat_isoformat t'] at read
    rw [Option.some.inj read]

/-! ### Writes -/

theorem canonicalWriteItems_eq (as : List PlainArgument) :
    canonicalWriteItems (as.map (·.argument)) = as.map (·.value) := by
  induction as with
  | nil => rfl
  | cons a as ih => rw [List.map_cons, canonicalWriteItems, ih, List.map_cons, PlainArgument.value]

theorem canonicalWriteMembers_eq (ms : List (String × PlainArgument)) :
    canonicalDurableWriteValue (.dict (ms.map fun m => (m.1, m.2.argument))) =
      objectOf (ms.map fun m => (m.1, m.2.value)) := by
  rw [canonicalDurableWriteValue, objectOf, Value.obj.injEq]
  induction ms with
  | nil => rfl
  | cons m ms ih =>
      rw [List.map_cons, canonicalWriteMembers, ih, List.map_cons, List.map_cons, PlainArgument.value]

/-- The members of a write's payload. -/
theorem WriteCall.payload_eq (c : WriteCall) : c.payload =
    objectOf [("operation", .str (points c.operation)), ("method", .str (points c.method)),
      ("args", .arr (c.args.map (·.value))),
      ("kwargs", objectOf (c.kwargs.map fun m => (m.1, m.2.value)))] := by
  rw [payload, canonicalDurableWriteValue, canonicalWriteItems_eq, canonicalWriteMembers_eq]

theorem payloadNames_nodup : ["operation", "method", "args", "kwargs"].Nodup := by decide

theorem WriteCall.readable_payload {c : WriteCall} (w : c.payload.isWritable = true) :
    c.payload.Readable := by
  rw [payload_eq] at w ⊢
  have each := isWritable_objectOf.mp w
  refine readable_objectOf ?_ payloadNames_nodup
  intro m hm
  have written := each m hm
  simp only [List.mem_cons, List.not_mem_nil, or_false] at hm
  rcases hm with rfl | rfl | rfl | rfl
  · exact readable_str _
  · exact readable_str _
  · refine Python.readableItems_iff.mpr ?_
    intro v hv
    obtain ⟨a, -, rfl⟩ := List.mem_map.mp hv
    exact PlainArgument.readable (Python.isWritable_arr.mp written _ hv)
  · refine readable_objectOf ?_ ?_
    · intro v hv
      obtain ⟨a, -, rfl⟩ := List.mem_map.mp hv
      exact PlainArgument.readable (isWritable_objectOf.mp written _ hv)
    · rw [List.map_map]
      exact c.distinct

/-- Writes with one canonical payload are the same. -/
theorem WriteCall.same_of_payload {c d : WriteCall} (same : c.payload.canonical = d.payload.canonical) :
    c.Same d := by
  rw [payload_eq, payload_eq] at same
  obtain ⟨⟩ | ⟨operation, ⟨⟩ | ⟨method, ⟨⟩ | ⟨args, ⟨⟩ | ⟨kwargs, -⟩⟩⟩⟩ :=
    objectOf_agree same payloadNames_nodup rfl rfl
  refine ⟨points_inj (Value.str.inj operation), points_inj (Value.str.inj method), ?_, ?_⟩
  · have items := Value.arr.inj args
    rw [Python.canonicalItems_eq, Python.canonicalItems_eq, List.map_map, List.map_map] at items
    exact List.map_injective_iff.mpr (fun _ _ => PlainArgument.value_inj) items
  · have members := Python.perm_of_canonical kwargs
    rw [List.map_map, List.map_map, List.map_map, List.map_map] at members
    refine (List.map_perm_map_iff fun m n h => ?_).mp members
    obtain ⟨name, value⟩ := Prod.mk.inj h
    exact Prod.ext (points_inj name) (PlainArgument.value_inj value)

/-! ### Cancellations -/

theorem readable_memberPayload {m : ProcessMember} (w : (memberPayload m).isWritable = true) :
    (memberPayload m).Readable := by
  have each := isWritable_objectOf.mp w
  have names : ["pid", "process_group_id", "session_id", "start_token"].Nodup := by decide
  refine readable_objectOf ?_ names
  intro v hv
  have written := each v hv
  simp only [List.mem_cons, List.not_mem_nil, or_false] at hv
  rcases hv with rfl | rfl | rfl | rfl
  · exact readable_int written
  · exact readable_int written
  · exact readable_int written
  · exact readable_str _

theorem memberPayload_inj {m n : ProcessMember}
    (same : (memberPayload m).canonical = (memberPayload n).canonical) : m = n := by
  have names : ["pid", "process_group_id", "session_id", "start_token"].Nodup := by decide
  obtain ⟨⟩ | ⟨pid, ⟨⟩ | ⟨group, ⟨⟩ | ⟨session, ⟨⟩ | ⟨token, -⟩⟩⟩⟩ :=
    objectOf_agree same names rfl rfl
  obtain ⟨a, b, c, d⟩ := m
  obtain ⟨a', b', c', d'⟩ := n
  rw [ProcessMember.mk.injEq]
  exact ⟨Int.ofNat.inj (Value.int.inj pid), Int.ofNat.inj (Value.int.inj group),
    Int.ofNat.inj (Value.int.inj session), points_inj (Value.str.inj token)⟩

theorem identityNames_nodup : ["pid", "process_group_id", "start_token", "session_id",
    "windows_attestation", "member_snapshot"].Nodup := by decide

theorem readable_identityPayload {i : Option ProcessIdentity}
    (w : (identityPayload i).isWritable = true) : (identityPayload i).Readable := by
  have each := isWritable_objectOf.mp w
  refine readable_objectOf ?_ identityNames_nodup
  intro v hv
  have written := each v hv
  simp only [List.mem_cons, List.not_mem_nil, or_false] at hv
  rcases hv with rfl | rfl | rfl | rfl | rfl | rfl
  · exact readable_optInt written
  · exact readable_optInt written
  · exact readable_optText _
  · exact readable_optInt written
  · exact readable_optText _
  · refine Python.readableItems_iff.mpr ?_
    intro u hu
    obtain ⟨m, -, rfl⟩ := List.mem_map.mp hu
    exact readable_memberPayload (Python.isWritable_arr.mp written _ hu)

/-- Identities with one canonical payload are the same. -/
theorem identityPayload_inj {i j : Option ProcessIdentity}
    (same : (identityPayload i).canonical = (identityPayload j).canonical) : i = j := by
  obtain ⟨⟩ | ⟨pid, ⟨⟩ | ⟨group, ⟨⟩ | ⟨token, ⟨⟩ | ⟨session, ⟨⟩ | ⟨windows, ⟨⟩ | ⟨members, -⟩⟩⟩⟩⟩⟩ :=
    objectOf_agree same identityNames_nodup rfl rfl
  have pids := optInt_inj pid
  cases i with
  | none =>
      cases j with
      | none => rfl
      | some j => exact nomatch pids
  | some i =>
      cases j with
      | none => exact nomatch pids
      | some j =>
          have items := Value.arr.inj members
          rw [Python.canonicalItems_eq, Python.canonicalItems_eq, List.map_map, List.map_map] at items
          have snapshot := List.map_injective_iff.mpr (fun _ _ => memberPayload_inj) items
          obtain ⟨a, b, c, d, e, f⟩ := i
          obtain ⟨a', b', c', d', e', f'⟩ := j
          rw [Option.some.injEq, ProcessIdentity.mk.injEq]
          exact ⟨Option.some.inj pids, optInt_inj group, Option.some.inj (optText_inj token),
            optInt_inj session, snapshot, optText_inj windows⟩

theorem cancellationNames_nodup : ["operation", "execution_id", "organization_id",
    "process_identity_fingerprint", "recovery_worker_generation", "recovery_lease_token",
    "recovery_attempt"].Nodup := by decide

theorem CancellationCall.readable_payload {c : CancellationCall} {i : String}
    (w : (c.payload i).isWritable = true) : (c.payload i).Readable := by
  have each := isWritable_objectOf.mp w
  refine readable_objectOf ?_ cancellationNames_nodup
  intro v hv
  have written := each v hv
  simp only [List.mem_cons, List.not_mem_nil, or_false] at hv
  rcases hv with rfl | rfl | rfl | rfl | rfl | rfl | rfl
  · exact readable_str _
  · exact readable_str _
  · exact readable_str _
  · exact readable_str _
  · exact readable_str _
  · exact readable_optText _
  · exact readable_optInt written

/-- Cancellations with one canonical payload have one identity fingerprint, and agree otherwise. -/
theorem CancellationCall.of_payload {c d : CancellationCall} {i j : String}
    (same : (c.payload i).canonical = (d.payload j).canonical) :
    i = j ∧ c = { d with processIdentity := c.processIdentity } := by
  obtain ⟨⟩ | ⟨-, ⟨⟩ | ⟨execution, ⟨⟩ | ⟨organization, ⟨⟩ | ⟨identity, ⟨⟩ | ⟨generation, ⟨⟩ | ⟨lease,
    ⟨⟩ | ⟨attempt, -⟩⟩⟩⟩⟩⟩⟩ := objectOf_agree same cancellationNames_nodup rfl rfl
  refine ⟨points_inj (Value.str.inj identity), ?_⟩
  obtain ⟨a, b, p, e, f, g⟩ := c
  obtain ⟨a', b', p', e', f', g'⟩ := d
  rw [CancellationCall.mk.injEq]
  exact ⟨points_inj (Value.str.inj execution), points_inj (Value.str.inj organization), rfl,
    points_inj (Value.str.inj generation), optText_inj lease, optInt_inj attempt⟩

/-! ### What a fingerprint says -/

/-- Writes with one fingerprint are the same, where the digest tells their texts apart. -/
theorem WriteCall.same_of_fingerprint {c d : WriteCall} {f : String}
    (apart : sha256 (String.ofList c.payload.write) = sha256 (String.ofList d.payload.write) →
      String.ofList c.payload.write = String.ofList d.payload.write)
    (hc : c.fingerprint sha256 = some f) (hd : d.fingerprint sha256 = some f) : c.Same d := by
  obtain ⟨wc, digest⟩ := payloadDigest_some hc
  obtain ⟨wd, digest'⟩ := payloadDigest_some hd
  exact same_of_payload (canonical_of_digest (readable_payload wc) (readable_payload wd) apart
    (digest.trans digest'.symm))

/-- Calls of one kind with one fingerprint are the same, where the digest tells their texts apart. -/
theorem GuardedCall.same_of_fingerprint {c d : GuardedCall} {f : String} (kind : c.kind = d.kind)
    (apart : ∀ s ∈ c.digested sha256, ∀ t ∈ d.digested sha256, sha256 s = sha256 t → s = t)
    (hc : c.fingerprint sha256 = some f) (hd : d.fingerprint sha256 = some f) : c.Same d := by
  cases c with
  | durableWrite c =>
      cases d with
      | durableWrite d =>
          exact WriteCall.same_of_fingerprint
            (apart _ (List.mem_singleton_self _) _ (List.mem_singleton_self _)) hc hd
      | supervisorCancellation d => exact nomatch kind
  | supervisorCancellation c =>
      cases d with
      | durableWrite d => exact nomatch kind
      | supervisorCancellation d =>
          obtain ⟨i, hi, hc⟩ := Option.bind_eq_some_iff.mp hc
          obtain ⟨j, hj, hd⟩ := Option.bind_eq_some_iff.mp hd
          obtain ⟨wc, digest⟩ := payloadDigest_some hc
          obtain ⟨wd, digest'⟩ := payloadDigest_some hd
          have mine : String.ofList (c.payload i).write ∈
              (GuardedCall.supervisorCancellation c).digested sha256 :=
            List.mem_cons_of_mem _ (List.mem_map_of_mem (Option.mem_toList.mpr hi))
          have theirs : String.ofList (d.payload j).write ∈
              (GuardedCall.supervisorCancellation d).digested sha256 :=
            List.mem_cons_of_mem _ (List.mem_map_of_mem (Option.mem_toList.mpr hj))
          obtain ⟨rfl, rest⟩ := CancellationCall.of_payload (canonical_of_digest
            (CancellationCall.readable_payload wc) (CancellationCall.readable_payload wd)
            (apart _ mine _ theirs) (digest.trans digest'.symm))
          obtain ⟨wi, digest⟩ := payloadDigest_some hi
          obtain ⟨wj, digest'⟩ := payloadDigest_some hj
          have identity := identityPayload_inj (canonical_of_digest (readable_identityPayload wi)
            (readable_identityPayload wj) (apart _ List.mem_cons_self _ List.mem_cons_self)
            (digest.trans digest'.symm))
          rw [identity] at rest
          exact rest

end CyberAssess
