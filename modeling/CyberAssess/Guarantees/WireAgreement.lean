import CyberAssess.Queue.Operator

/-!
# Guarantees — what is enqueued and what is consumed

The producer asks that identities are not blank, the consumer that they are printable, without a
space and short. The lists of a binding travel as JSON.

* `check_authoritative` and `check_legacy`: which requests `enqueue` accepts.
* `enqueue_added`: the entry a publication adds.
* `carries_published`: a published entry carries the binding it was made of, where its identities are
  joined.
* `wire_agreement`: the consumer agrees with the producer exactly on transparent requests.
-/

namespace CyberAssess

open Python
open Interaction (Program)
open Interaction.Program (ofExcept run_bind)
open Checked (ensure refuse require bind_ok exists_unit ensure_ok refuse_ok require_ok reraise_ok)

namespace DurableQueue

variable {q : DurableQueue} {req : EnqueueRequest} {w : World} {r r' : Redis}

/-! ### What the producer accepts -/

theorem checkBinding_ok {request : String} {b : QueueDispatchBinding} :
    EnqueueRequest.checkBinding q req request = .ok b ↔
      req.queueBinding = some b ∧
        QueueDispatchBinding.create q.host req.scanId (req.organizationId.getD "") (strip request)
          b.manifestHash b.executionIds b.operationIds = .ok b := by
  simp only [EnqueueRequest.checkBinding, bind_ok, exists_unit, require_ok, reraise_ok, ensure_ok,
    decide_eq_true_eq]
  constructor
  · rintro ⟨c, given, expected, made, rfl, result⟩
    cases result
    exact ⟨given, made⟩
  · rintro ⟨given, made⟩
    exact ⟨b, given, b, made, rfl, rfl⟩

/-- An authoritative request is one with a tenant and the binding `create` makes of it. -/
theorem check_authoritative {request : String} {b : QueueDispatchBinding} :
    EnqueueRequest.check q req = .ok (some (request, b)) ↔
      isBlank req.scanId = false ∧
        ∃ given, req.authorizationRequestId = some given ∧ nonBlankUpTo 256 given = true ∧
          (nonEmpty req.organizationId).isSome = true ∧ strip given = request ∧
          req.queueBinding = some b ∧
          QueueDispatchBinding.create q.host req.scanId (req.organizationId.getD "") request
            b.manifestHash b.executionIds b.operationIds = .ok b := by
  simp only [EnqueueRequest.check, bind_ok, exists_unit, ensure_ok, refuse_ok]
  cases asked : req.authorizationRequestId with
  | none =>
      simp only [bind_ok, exists_unit, refuse_ok]
      constructor
      · rintro ⟨-, -, -, -, result⟩
        cases result
      · rintro ⟨-, given, same, -⟩
        cases same
  | some given =>
      simp only [bind_ok, exists_unit, ensure_ok, checkBinding_ok, Option.all_some]
      constructor
      · rintro ⟨scan, ok, tenant, c, ⟨bound, made⟩, result⟩
        cases result
        exact ⟨scan, given, rfl, ok, tenant, rfl, bound, made⟩
      · rintro ⟨scan, _, same, ok, tenant, rfl, bound, made⟩
        cases same
        exact ⟨scan, ok, tenant, b, ⟨bound, made⟩, rfl⟩

/-- A legacy request has neither a request identity nor a binding. -/
theorem check_legacy :
    EnqueueRequest.check q req = .ok none ↔
      isBlank req.scanId = false ∧ req.authorizationRequestId = none ∧ req.queueBinding = none ∧
        req.credentialEnvelope = none := by
  simp only [EnqueueRequest.check, bind_ok, exists_unit, ensure_ok, refuse_ok]
  cases req.authorizationRequestId with
  | none =>
      simp only [bind_ok, exists_unit, refuse_ok, Option.isSome_eq_false_iff,
        Option.isNone_iff_eq_none, Option.all_none, true_and]
      constructor
      · rintro ⟨scan, binding, envelope, -⟩
        exact ⟨scan, binding, envelope⟩
      · rintro ⟨scan, binding, envelope⟩
        exact ⟨scan, binding, envelope, rfl⟩
  | some given =>
      simp only [bind_ok, exists_unit, ensure_ok]
      constructor
      · rintro ⟨-, -, -, b, -, result⟩
        cases result
      · rintro ⟨-, same, -⟩
        cases same

/-! ### The entry -/

/-- `XADD` adds the entry, or is refused. -/
theorem xadd_entries {newId : String} {ok : isStreamId newId = true} {fields : Fields} :
    (r.xadd newId ok fields).2.entries = r.entries ∨
      (r.xadd newId ok fields).1 = some newId ∧
        (r.xadd newId ok fields).2.entries = r.entries ++ [(newId, fields)] := by
  rw [Redis.xadd]
  split
  · exact Or.inl rfl
  · exact Or.inr ⟨rfl, rfl⟩

/-- The script adds the fields of its arguments, or nothing. -/
theorem evalEnqueue_entries {newId dedupeKey : String} {ok : isStreamId newId = true}
    {a : EnqueueArguments} :
    (r.evalEnqueue newId ok dedupeKey a).2.entries = r.entries ∨
      (r.evalEnqueue newId ok dedupeKey a).1 = some newId ∧
        (r.evalEnqueue newId ok dedupeKey a).2.entries =
          r.entries ++ [(newId, Redis.publishedFields a)] := by
  rw [Redis.evalEnqueue]
  split
  · split
    · exact Or.inl rfl
    · split
      · exact Or.inl rfl
      · exact Or.inl rfl
  · have step : (r.xadd newId ok (Redis.publishedFields a)).2.entries = r.entries ∨
        (r.xadd newId ok (Redis.publishedFields a)).1 = some newId ∧
          (r.xadd newId ok (Redis.publishedFields a)).2.entries =
            r.entries ++ [(newId, Redis.publishedFields a)] := xadd_entries
    split
    · rename_i messageId s added
      rw [added] at step
      exact step
    · rename_i s refused
      rw [refused] at step
      exact step

/-- The envelope that is handed over. -/
def handedEnvelope (req : EnqueueRequest) (w : World) : String :=
  if req.credentialEnvelope.isSome then w.ciphertext else ""

/-- What the caller of `enqueue` is told. -/
def enqueued (reply : Option String × Redis) : Except PyException String × Redis :=
  (match reply.1 with
    | none => .error responseError
    | some messageId =>
        if Redis.identityConflictPrefix.isPrefixOf messageId then .error (identityConflict messageId)
        else .ok messageId,
    reply.2)

theorem run_encrypted :
    (encrypted req).run (Redis.answer w) r = (.ok (handedEnvelope req w), r) := by
  rw [encrypted, handedEnvelope]
  cases req.credentialEnvelope with
  | none => rfl
  | some given => rfl

/-- An authoritative intent is handed to the script. -/
theorem run_enqueue_authoritative {request : String} {b : QueueDispatchBinding}
    (checked : EnqueueRequest.check q req = .ok (some (request, b))) :
    (q.enqueue req).run (Redis.answer w) r =
      enqueued (r.evalEnqueue w.newId w.newId_ok
        (q.dedupeKey (req.organizationId.getD "") request)
        (enqueueArguments q req w.now (handedEnvelope req w) request b)) := by
  simp only [enqueue, checked, Program.bind_eq, Program.ofExcept_ok, Program.ret_bind,
    Program.command_bind, Program.run_ask, Redis.answer, run_bind, run_encrypted, enqueued]
  split
  · rename_i refused
    rw [refused, Program.run_raise]
  · rename_i messageId told
    rw [told]
    by_cases conflict : Redis.identityConflictPrefix.isPrefixOf messageId = true
    · simp only [if_pos conflict, Program.run_raise]
    · simp only [if_neg conflict, Program.pure_eq, Program.run_ret]

/-- A legacy intent is added as it is. -/
theorem run_enqueue_legacy (checked : EnqueueRequest.check q req = .ok none) :
    (q.enqueue req).run (Redis.answer w) r =
      ((r.xadd w.newId w.newId_ok (legacyFields req w.now)).1.elim (.error responseError) .ok,
        (r.xadd w.newId w.newId_ok (legacyFields req w.now)).2) := by
  simp only [enqueue, checked, Program.bind_eq, Program.ofExcept_ok, Program.ret_bind,
    Program.command_bind, Program.run_ask, Redis.answer]
  split
  · rename_i refused
    rw [refused, Program.run_raise, Option.elim_none]
  · rename_i messageId told
    rw [told, Program.pure_eq, Program.run_ret, Option.elim_some]

/-- A refused intent raises before anything is asked. -/
theorem run_enqueue_refused {e : PyException} (checked : EnqueueRequest.check q req = .error e) :
    (q.enqueue req).run (Redis.answer w) r = (.error e, r) := by
  simp only [enqueue, checked, Program.bind_eq, Program.ofExcept_error, Program.raise_bind,
    Program.run_raise]

/-- The entry a publication adds. -/
theorem enqueue_added {id : String} {fields : Fields}
    (published : (q.enqueue req).run (Redis.answer w) r = (.ok id, r'))
    (added : r'.entries = r.entries ++ [(id, fields)]) :
    (∃ request b, EnqueueRequest.check q req = .ok (some (request, b)) ∧
        fields = Redis.publishedFields
          (enqueueArguments q req w.now (handedEnvelope req w) request b)) ∨
      (EnqueueRequest.check q req = .ok none ∧ fields = legacyFields req w.now) := by
  -- an unchanged stream has added nothing
  have grown {s : Redis} {own : Fields} (same : s = r') (h : s.entries = r.entries ∨
      s.entries = r.entries ++ [(w.newId, own)]) : fields = own := by
    subst same
    rcases h with h | h
    · rw [added] at h
      exact absurd (List.append_right_eq_self.mp h) (List.cons_ne_nil _ _)
    · rw [added] at h
      exact (Prod.mk.inj (List.cons.inj (List.append_cancel_left h)).1).2
  cases checked : EnqueueRequest.check q req with
  | error e =>
      rw [run_enqueue_refused checked] at published
      cases published
  | ok accepted =>
      cases accepted with
      | none =>
          rw [run_enqueue_legacy checked] at published
          exact Or.inr ⟨rfl, grown (Prod.mk.inj published).2 (xadd_entries.imp_right And.right)⟩
      | some pair =>
          obtain ⟨request, b⟩ := pair
          rw [run_enqueue_authoritative checked] at published
          exact Or.inl ⟨request, b, rfl,
            grown (Prod.mk.inj published).2 (evalEnqueue_entries.imp_right And.right)⟩

/-! ### What the consumer makes of it -/

/-- The consumer agrees with the producer: it accepts the entry as the message that was enqueued, its
request identity stripped, and reads the binding that was enqueued. -/
structure Agrees (q : DurableQueue) (req : EnqueueRequest) (fields : Fields) : Prop where
  accepted : validateWireMessage q.host fields = .ok
    ⟨if req.authorizationRequestId.isSome then authoritativeKind else legacyKind, req.scanId,
      nonEmpty req.organizationId, req.authorizationRequestId.map strip⟩
  binding : ∀ b, req.queueBinding = some b → QueueDispatchBinding.fromPayload q.host fields = .ok b

/-- Every identity of the request arrives as it was sent: the texts are safe, and no identity of a list
holds the two halves of a surrogate pair. -/
structure Transparent (req : EnqueueRequest) : Prop where
  scanId : safeQueueText req.scanId = true
  organizationId : (nonEmpty req.organizationId).all safeQueueText = true
  authorizationRequestId : (req.authorizationRequestId.map strip).all safeQueueText = true
  executionIds : ∀ b, req.queueBinding = some b → ∀ id ∈ b.executionIds, Joined id
  operationIds : ∀ b, req.queueBinding = some b → ∀ id ∈ b.operationIds, Joined id

/-- A published entry carries the binding it was made of, where its identities are joined. -/
theorem carries_published {b : QueueDispatchBinding}
    (made : QueueDispatchBinding.create q.host req.scanId (req.organizationId.getD "")
      b.authorizationRequestId b.manifestHash b.executionIds b.operationIds = .ok b)
    (executions : ∀ id ∈ b.executionIds, Joined id) (operations : ∀ id ∈ b.operationIds, Joined id)
    (now envelope : String) :
    QueueDispatchBinding.fromPayload q.host
      (Redis.publishedFields (enqueueArguments q req now envelope b.authorizationRequestId b)) =
        .ok b := by
  obtain ⟨-, ⟨scan, tenant, -⟩, ok⟩ := create_ok.mp made
  refine fromPayload_ok.mpr ⟨?_, ok, ordered_of_create made⟩
  exact {
    scanId := congrArg some scan
    organizationId := congrArg some tenant
    authorizationRequestId := rfl
    manifestHash := rfl
    executionIds := loadList_identityJson executions
    operationIds := loadList_identityJson operations
    digest := rfl
    schemaVersion := rfl }

/-- A published authoritative entry has the shape of one. -/
theorem enveloped_published {request envelope : String} {b : QueueDispatchBinding} :
    Enveloped (Redis.publishedFields (enqueueArguments q req w.now envelope request b))
      authoritativeKind where
  known := by
    have names : (Redis.publishedFields (enqueueArguments q req w.now envelope request b)).map (·.1) =
        ["scan_id", "organization_id", "enqueued_at", "authorization_request_id",
          "credential_envelope", "queue_binding_digest", "manifest_hash", "execution_ids_json",
          "operation_ids_json", "queue_binding_schema_version", "message_kind"] := rfl
    intro f hf
    have mem := List.mem_map_of_mem (f := (·.1)) hf
    rw [names] at mem
    exact (by decide : ∀ name ∈ ["scan_id", "organization_id", "enqueued_at",
      "authorization_request_id", "credential_envelope", "queue_binding_digest", "manifest_hash",
      "execution_ids_json", "operation_ids_json", "queue_binding_schema_version", "message_kind"],
        name ∈ queueWireFields) f.1 mem
  messageKind := rfl
  enqueuedAt := ⟨w.now, rfl, w.now_ok⟩

/-- A published legacy entry has the shape of one. -/
theorem enveloped_legacy : Enveloped (legacyFields req w.now) legacyKind where
  known := by
    have names : (legacyFields req w.now).map (·.1) =
        ["message_kind", "scan_id", "organization_id", "enqueued_at"] := rfl
    intro f hf
    have mem := List.mem_map_of_mem (f := (·.1)) hf
    rw [names] at mem
    exact (by decide : ∀ name ∈ ["message_kind", "scan_id", "organization_id", "enqueued_at"],
      name ∈ queueWireFields) f.1 mem
  messageKind := rfl
  enqueuedAt := ⟨w.now, rfl, w.now_ok⟩

/-- On an authoritative entry. -/
theorem agrees_authoritative {request : String} {b : QueueDispatchBinding}
    (checked : EnqueueRequest.check q req = .ok (some (request, b))) :
    Agrees q req (Redis.publishedFields
      (enqueueArguments q req w.now (handedEnvelope req w) request b)) ↔ Transparent req := by
  obtain ⟨-, given, asked, -, tenant, stripped, bound, made⟩ := check_authoritative.mp checked
  obtain ⟨-, ⟨scan, organization, rfl, -⟩, -⟩ := create_ok.mp made
  obtain ⟨org, full⟩ := Option.isSome_iff_exists.mp tenant
  have own : org = b.organizationId := by
    rw [← organization, (Option.filter_eq_some_iff.mp full).1, Option.getD_some]
  have wire : (⟨if req.authorizationRequestId.isSome then authoritativeKind else legacyKind,
      req.scanId, nonEmpty req.organizationId, req.authorizationRequestId.map strip⟩ : WireMessage) =
      ⟨authoritativeKind, b.scanId, some b.organizationId, some b.authorizationRequestId⟩ := by
    rw [asked, Option.isSome_some, if_pos rfl, scan, full, own, Option.map_some, stripped]
  constructor
  · intro agrees
    have accepted := agrees.accepted
    rw [wire] at accepted
    obtain ⟨-, c, read, safeScan, safeOrg, safeRequest, -⟩ :=
      validate_authoritative.mp ⟨accepted, rfl⟩
    obtain rfl : c = b := Except.ok.inj (read.symm.trans (agrees.binding b bound))
    obtain ⟨executions, operations⟩ := (fromPayload_ok.mp read).1.joined
    exact {
      scanId := scan ▸ safeScan
      organizationId := by rw [full, own, Option.all_some, safeOrg]
      authorizationRequestId := by rw [asked, Option.map_some, stripped, Option.all_some, safeRequest]
      executionIds := fun d h => (Option.some.inj (bound.symm.trans h)) ▸ executions
      operationIds := fun d h => (Option.some.inj (bound.symm.trans h)) ▸ operations }
  · intro clear
    have read := carries_published made (clear.executionIds b bound) (clear.operationIds b bound)
      w.now (handedEnvelope req w)
    have safeOrg := clear.organizationId
    have safeRequest := clear.authorizationRequestId
    rw [full, own, Option.all_some] at safeOrg
    rw [asked, Option.map_some, stripped, Option.all_some] at safeRequest
    refine ⟨?_, fun d h => (Option.some.inj (bound.symm.trans h)) ▸ read⟩
    rw [wire]
    exact (validate_authoritative.mpr ⟨enveloped_published, b, read, scan ▸ clear.scanId, safeOrg,
      safeRequest, rfl⟩).1

/-- On a legacy entry. -/
theorem agrees_legacy (checked : EnqueueRequest.check q req = .ok none) :
    Agrees q req (legacyFields req w.now) ↔ Transparent req := by
  obtain ⟨-, asked, bound, -⟩ := check_legacy.mp checked
  have tenant : nonEmpty (some (req.organizationId.getD "")) = nonEmpty req.organizationId := by
    cases req.organizationId with
    | none => rfl
    | some org => rfl
  have safe : ((req.organizationId.getD "").isEmpty || safeQueueText (req.organizationId.getD "")) =
      (nonEmpty req.organizationId).all safeQueueText := by
    rw [← tenant, nonEmpty, Option.filter]
    cases (req.organizationId.getD "").isEmpty <;> rfl
  have wire : (⟨if req.authorizationRequestId.isSome then authoritativeKind else legacyKind,
      req.scanId, nonEmpty req.organizationId, req.authorizationRequestId.map strip⟩ : WireMessage) =
      ⟨legacyKind, req.scanId, nonEmpty (some (req.organizationId.getD "")), none⟩ := by
    rw [asked, tenant]
    rfl
  constructor
  · intro agrees
    have accepted := agrees.accepted
    rw [wire] at accepted
    obtain ⟨-, scan, org, sentScan, sentOrg, safeScan, safeOrg, -⟩ :=
      validate_legacy.mp ⟨accepted, rfl⟩
    cases sentScan
    cases sentOrg
    exact {
      scanId := safeScan
      organizationId := safe ▸ safeOrg
      authorizationRequestId := by rw [asked]; rfl
      executionIds := fun d h => absurd (bound.symm.trans h) (by rintro ⟨⟩)
      operationIds := fun d h => absurd (bound.symm.trans h) (by rintro ⟨⟩) }
  · intro clear
    refine ⟨?_, fun d h => absurd (bound.symm.trans h) (by rintro ⟨⟩)⟩
    rw [wire]
    exact (validate_legacy.mpr ⟨enveloped_legacy, req.scanId, req.organizationId.getD "", rfl, rfl,
      clear.scanId, safe ▸ clear.organizationId, ⟨rfl, rfl⟩, rfl, rfl⟩).1

/-- The consumer agrees with the producer on a published entry exactly where the request is
transparent. -/
theorem wire_agreement {id : String} {fields : Fields}
    (published : (q.enqueue req).run (Redis.answer w) r = (.ok id, r'))
    (added : r'.entries = r.entries ++ [(id, fields)]) :
    Agrees q req fields ↔ Transparent req := by
  rcases enqueue_added published added with ⟨request, b, checked, rfl⟩ | ⟨checked, rfl⟩
  · exact agrees_authoritative checked
  · exact agrees_legacy checked

end DurableQueue

/-! ### One intent -/

/-- An intent with one operation: its execution, and the SHA-256 of the canonical text of its
binding. -/
structure QueueSample where
  execution : Points
  digest : String
  identity_ok : IsIdentity execution
  digest_ok : isHexDigest digest = true

namespace QueueSample

variable (s : QueueSample)

/-- SHA-256 of the id of the message, of the deduplication's text and of the canonical text. -/
def sha256 (text : String) : String :=
  if text = "1700000000000-0" then
    "729529b3d8be6121d5d2af10c4fb4a3af348aa1dec209ab21a13dbe71dedc5aa"
  else if text = "org-1\x00request-1" then
    "d9ba2de7ecbdd6b010b1d9966a4a89357731406c8b793fe72892c5a2c48f0b6f"
  else s.digest

/-- The host of the sample: it holds no envelope that opens. -/
def host : QueueHost where
  sha256 := s.sha256
  floatEq _ _ := false
  render _ := ""
  decryptCredentialEnvelope _ _ _ := .error (valueError "credential envelope cannot be decrypted")

/-- A worker of the queue, with the default settings. -/
def queue : DurableQueue where
  host := s.host
  settings := {
    dedupeTtlSeconds := 86400
    maxDeliveryAttempts := 5
    quarantineTtlSeconds := 604800
    dedupe_ok := by decide
    attempts_ok := by decide
    quarantine_ok := by decide }
  consumerName := "worker-1"

/-- Every pending message has been idle, and the handler succeeds. -/
def world : World where
  now := "2026-01-01T00:00:00+00:00"
  newId := "1700000000000-0"
  idle _ := true
  ciphertext := ""
  handled _ := .ok ()
  now_ok := by decide
  newId_ok := by decide

/-- The digest of the approved manifest. -/
def manifestHash : String := "05b3abf2579a5eb66403cd78be557fd860633a1fe2103c7642030defe32c657f"

/-- The binding. -/
def binding : QueueDispatchBinding where
  scanId := "scan-1"
  organizationId := "org-1"
  authorizationRequestId := "request-1"
  manifestHash := manifestHash
  executionIds := [s.execution]
  operationIds := [points "operation-1"]
  queueBindingDigest := s.digest
  schemaVersion := "queue-dispatch-binding-v1"

/-- The intent to run it. -/
def intent : DurableQueue.EnqueueRequest where
  scanId := "scan-1"
  organizationId := some "org-1"
  authorizationRequestId := some "request-1"
  queueBinding := some s.binding

/-- Its entry. -/
def entry : Fields :=
  Redis.publishedFields (s.queue.enqueueArguments s.intent world.now "" "request-1" s.binding)

/-- The server once it is published. -/
def published : Redis :=
  (Redis.empty.evalEnqueue world.newId world.newId_ok (s.queue.dedupeKey "org-1" "request-1")
    (s.queue.enqueueArguments s.intent world.now "" "request-1" s.binding)).2

/-- A text that opens with a brace is neither of the first two. -/
theorem sha256_brace (cs : List Char) : s.sha256 (String.ofList ('\x7b' :: cs)) = s.digest := by
  have apart {text : String} (other : text.toList.head? ≠ some '\x7b') :
      String.ofList ('\x7b' :: cs) ≠ text := by
    intro same
    rw [← same, String.toList_ofList] at other
    exact other rfl
  rw [sha256, if_neg (apart (by decide)), if_neg (apart (by decide))]

theorem binding_made :
    QueueDispatchBinding.create s.host "scan-1" "org-1" "request-1" s.binding.manifestHash
      s.binding.executionIds s.binding.operationIds = .ok s.binding := by
  refine create_ok.mpr ⟨by simp [binding], ⟨rfl, rfl, rfl, rfl, ?_, ?_⟩, ?_⟩
  · simp [binding, sortedPairs]
  · simp [binding, sortedPairs]
  exact {
    scanId := (by decide : nonBlankUpTo 256 "scan-1" = true)
    organizationId := (by decide : nonBlankUpTo 256 "org-1" = true)
    authorizationRequestId := (by decide : nonBlankUpTo 256 "request-1" = true)
    schemaVersion := rfl
    manifestHash := (by decide : isHexDigest manifestHash = true)
    hexDigest := s.digest_ok
    nonempty := by simp [binding]
    paired := by simp [binding]
    executions := List.forall_mem_singleton.mpr s.identity_ok
    executionsDistinct := by simp [binding]
    operations := List.forall_mem_singleton.mpr ⟨by decide, by decide⟩
    operationsDistinct := by simp [binding]
    digest := by
      rw [CyberAssess.queueBindingDigest, Value.write]
      exact (s.sha256_brace _).symm }

theorem intent_checked :
    DurableQueue.EnqueueRequest.check s.queue s.intent = .ok (some ("request-1", s.binding)) :=
  DurableQueue.check_authoritative.mpr
    ⟨(by decide : isBlank "scan-1" = false), "request-1", rfl, by decide, rfl, by decide, rfl,
      s.binding_made⟩

/-- It is published under the first id. -/
theorem intent_published :
    (s.queue.enqueue s.intent).run (Redis.answer world) Redis.empty =
      (.ok "1700000000000-0", s.published) := by
  rw [DurableQueue.run_enqueue_authoritative s.intent_checked]
  rfl

theorem intent_transparent (joined : Joined s.execution) :
    DurableQueue.Transparent s.intent where
  scanId := (by decide : safeQueueText "scan-1" = true)
  organizationId := (by decide : safeQueueText "org-1" = true)
  authorizationRequestId := (by decide : safeQueueText (strip "request-1") = true)
  executionIds := by
    rintro b ⟨⟩
    exact List.forall_mem_singleton.mpr joined
  operationIds := by
    rintro b ⟨⟩
    exact List.forall_mem_singleton.mpr (joined_points _)

/-- The consumer takes the entry for the intent's. -/
theorem entry_agrees (joined : Joined s.execution) :
    DurableQueue.Agrees s.queue s.intent s.entry :=
  (DurableQueue.agrees_authoritative s.intent_checked).mpr (s.intent_transparent joined)

/-- A plain execution. -/
def plain : QueueSample where
  execution := points "execution-1"
  digest := "190d2f27d30a605fdd0ee2bb80b5204935e7ed379566e2b9dc74d595d58683c0"
  identity_ok := ⟨by decide, by decide⟩
  digest_ok := by decide

/-- Its entry is accepted. -/
theorem plain_accepted : validateWireMessage plain.queue.host plain.entry =
    .ok ⟨authoritativeKind, "scan-1", some "org-1", some "request-1"⟩ :=
  (plain.entry_agrees (joined_points _)).accepted

/-- A legacy intent whose scan identity holds a space. -/
def spacedScan : DurableQueue.EnqueueRequest where
  scanId := "scan 1"
  organizationId := none

/-- The consumer agrees on the published intent. -/
theorem plain_agrees : DurableQueue.Agrees plain.queue plain.intent plain.entry :=
  (DurableQueue.wire_agreement plain.intent_published rfl).mpr
    (plain.intent_transparent (joined_points _))

/-- It does not agree on the spaced one, which is published all the same. -/
theorem spacedScan_disagrees :
    ¬ ∀ (q : DurableQueue) (req : DurableQueue.EnqueueRequest) (w : World) (r r' : Redis)
      (id : String) (fields : Fields),
      (q.enqueue req).run (Redis.answer w) r = (.ok id, r') →
        r'.entries = r.entries ++ [(id, fields)] → DurableQueue.Agrees q req fields := by
  intro agree
  have checked : DurableQueue.EnqueueRequest.check plain.queue spacedScan = .ok none :=
    DurableQueue.check_legacy.mpr ⟨by decide, rfl, rfl, rfl⟩
  have added := DurableQueue.run_enqueue_legacy (w := world) (r := Redis.empty) checked
  have agrees := agree plain.queue spacedScan world Redis.empty _ "1700000000000-0"
    (DurableQueue.legacyFields spacedScan world.now) added rfl
  obtain ⟨-, scan, -, sent, -, safe, -⟩ := validate_legacy.mp ⟨agrees.accepted, rfl⟩
  cases sent
  exact absurd safe (by decide)

end QueueSample

end CyberAssess
