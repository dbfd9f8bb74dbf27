import CyberAssess.Guarantees.PoisonBound

/-!
# Guarantees — the evidence of a failed dispatch

An accepted message may list identities of any characters; the evidence of its failure is kept in
printable characters without a space, within a length.

* `evidenceOf`: the evidence of an authoritative failure, field by field.
* `evident_evidenceOf`: it is accepted exactly where the binding is retainable.
* `fail_authoritative` and `fail_refused`: what `fail` then writes.
* `failure_recorded`: a handler that raises leaves its evidence exactly where the exception is caught,
  its name is short and the binding is retainable.
-/

namespace CyberAssess

open Python
open Interaction (Program)
open Interaction.Program (ofExcept run_bind asked_bind)
open Checked (ensure refuse require bind_ok exists_unit ensure_ok refuse_ok require_ok)

/-! ### The evidence of an authoritative failure -/

namespace DurableQueue

/-- The evidence of an authoritative failure. -/
def evidenceOf (messageId now errorCode : String) (b : QueueDispatchBinding) (attempts bound : Nat)
    (escalated : Bool) : Fields :=
  [("message_id", messageId), ("dispatch_message_id", messageId), ("error_code", errorCode),
    ("failure_category", "AUTHORITATIVE_DISPATCH"), ("failure_observed_at", now),
    ("requeue_required", "1"), ("escalated", flag escalated), ("quarantined", flag escalated),
    ("message_kind", authoritativeKind), ("scan_id", b.scanId),
    ("organization_id", b.organizationId), ("authorization_request_id", b.authorizationRequestId),
    ("queue_binding_digest", b.queueBindingDigest), ("manifest_hash", b.manifestHash),
    ("execution_ids_json", identityJson b.executionIds),
    ("operation_ids_json", identityJson b.operationIds),
    ("queue_binding_schema_version", "queue-dispatch-binding-v1"),
    ("attempt_count", toString attempts), ("max_attempts", toString bound)]

/-- The identities of a binding fit into evidence. -/
structure Retainable (b : QueueDispatchBinding) : Prop where
  executions : ∀ id ∈ b.executionIds, (32 : CodePoint) ∉ id
  operations : ∀ id ∈ b.operationIds, (32 : CodePoint) ∉ id
  executionsFit : (identityJson b.executionIds).length ≤ 131072
  operationsFit : (identityJson b.operationIds).length ≤ 131072

/-- The accepted message of a binding. -/
def wireOf (b : QueueDispatchBinding) : WireMessage :=
  ⟨authoritativeKind, b.scanId, some b.organizationId, some b.authorizationRequestId⟩

/-- A binding that an accepted message carries. -/
structure Accepted (q : DurableQueue) (b : QueueDispatchBinding) : Prop where
  wellFormed : b.WellFormed q.host
  ordered : b.Ordered
  scanId : safeQueueText b.scanId = true
  organizationId : safeQueueText b.organizationId = true
  authorizationRequestId : safeQueueText b.authorizationRequestId = true
  executions : ∀ id ∈ b.executionIds, Joined id
  operations : ∀ id ∈ b.operationIds, Joined id

variable {q : DurableQueue} {b : QueueDispatchBinding} {w : World} {r r₁ : Redis}
  {messageId now code : String} {n : Nat} {escalated : Bool}

/-- The report of an authoritative failure is its evidence. -/
theorem fields_authoritativeReport (ok : Accepted q b) (stripped : strip code = code) :
    (authoritativeReport q (wireOf b) authoritativeKind b code n escalated).fields messageId now =
      evidenceOf messageId now code b n q.settings.maxDeliveryAttempts escalated := by
  have digest := safe_of_isHexDigest ok.wellFormed.hexDigest
  have manifest := safe_of_isHexDigest ok.wellFormed.manifestHash
  simp only [FailureReport.fields, FailureReport.rows, FailureReport.carriesBinding,
    authoritativeReport, wireOf, nonEmpty_of_safe ok.scanId, nonEmpty_of_safe ok.organizationId,
    nonEmpty_of_safe ok.authorizationRequestId, nonEmpty_of_safe digest,
    nonEmpty_of_safe manifest, stripped, present, evidenceOf]
  rfl

/-- An id of the server is a safe text. -/
theorem safe_of_isStreamId {id : String} (h : isStreamId id = true) : safeQueueText id = true := by
  simp only [isStreamId, Bool.and_eq_true, decide_eq_true_eq, List.all_eq_true, Bool.or_eq_true] at h
  obtain ⟨⟨full, short⟩, digits⟩ := h
  simp only [safeQueueText, Bool.and_eq_true, decide_eq_true_eq, List.all_eq_true]
  refine ⟨⟨full, by omega⟩, fun c hc => ?_⟩
  rcases digits c hc with digit | rfl
  · simp only [Char.isDigit, Bool.and_eq_true, decide_eq_true_eq, UInt32.le_iff_toNat_le] at digit
    simp only [isGraphic, Bool.and_eq_true, decide_eq_true_eq]
    have low : ('0' : Char).val.toNat = 48 := rfl
    have high : ('9' : Char).val.toNat = 57 := rfl
    omega
  · decide

/-- A safe text is kept in any field. -/
theorem evidenceFieldOk_of_safe {name value : String} (h : safeQueueText value = true) :
    evidenceFieldOk name value = true := by
  simp only [safeQueueText, Bool.and_eq_true, decide_eq_true_eq] at h
  obtain ⟨⟨full, short⟩, graphic⟩ := h
  have room : 256 ≤ evidenceMaxLength name := by
    rw [evidenceMaxLength]
    split
    · decide
    · exact Nat.le_refl _
  simp only [evidenceFieldOk, Bool.and_eq_true, decide_eq_true_eq]
  exact ⟨⟨full, by omega⟩, graphic⟩

/-- A list is kept where it has no space and fits. -/
theorem evidenceFieldOk_identityJson {name : String} {ids : List Points}
    (list : evidenceMaxLength name = 131072) :
    evidenceFieldOk name (identityJson ids) = true ↔
      (∀ id ∈ ids, (32 : CodePoint) ∉ id) ∧ (identityJson ids).length ≤ 131072 := by
  have opened : 1 ≤ (identityJson ids).length := by
    rw [identityJson, String.length_ofList, writeTexts, Value.write, List.length_append,
      List.length_cons]
    omega
  have graphic : (identityJson ids).toList.all isGraphic = true ↔ ∀ id ∈ ids, (32 : CodePoint) ∉ id := by
    rw [identityJson, String.toList_ofList, ← writeTexts_graphic ids]
    simp only [List.all_eq_true, isGraphic, Bool.and_eq_true, decide_eq_true_eq]
  rw [evidenceFieldOk, list, Bool.and_eq_true, Bool.and_eq_true, graphic, decide_eq_true_eq,
    decide_eq_true_eq]
  constructor
  · rintro ⟨⟨_, fits⟩, free⟩
    exact ⟨free, fits⟩
  · rintro ⟨free, fits⟩
    exact ⟨⟨opened, fits⟩, free⟩

/-- A count up to a hundred is kept. -/
theorem evidenceFieldOk_toString {name : String} {n : Nat} (small : n ≤ 100) :
    evidenceFieldOk name (toString n) = true :=
  evidenceFieldOk_of_safe
    ((by decide : ∀ i : Fin 101, safeQueueText (toString i.val) = true) ⟨n, by omega⟩)

theorem evidenceCounterOk_toString {evidence : Fields} {name : String} {n : Nat} (positive : 1 ≤ n)
    (found : evidence.lookup name = some (toString n)) : evidenceCounterOk evidence name = true := by
  rw [evidenceCounterOk, found, Option.all_some, isDigits_toString, digitsToNat_toString,
    decide_eq_true positive, Bool.and_true]

/-- The evidence carries the binding. -/
theorem carries_evidenceOf (ok : Accepted q b) :
    QueueDispatchBinding.fromPayload q.host
      (evidenceOf messageId now code b n q.settings.maxDeliveryAttempts escalated) = .ok b :=
  fromPayload_ok.mpr ⟨{
    scanId := rfl
    organizationId := rfl
    authorizationRequestId := rfl
    manifestHash := rfl
    executionIds := loadList_identityJson ok.executions
    operationIds := loadList_identityJson ok.operations
    digest := rfl
    schemaVersion := congrArg some ok.wellFormed.schemaVersion.symm }, ok.wellFormed, ok.ordered⟩

/-- Fields that are read as a binding are complete. -/
theorem validateIdentityJsonFields_of_payload {fields : Fields}
    (read : QueueDispatchBinding.fromPayload q.host fields = .ok b) :
    validateIdentityJsonFields q.host fields = .ok () := by
  rw [validateIdentityJsonFields, bindingFields_present (fromPayload_ok.mp read).1,
    if_neg (by decide), read]
  rfl

/-- The evidence is accepted exactly where the binding is retainable. -/
theorem evident_evidenceOf (ok : Accepted q b) (id_ok : isStreamId messageId = true)
    (now_ok : safeQueueText now = true) (code_ok : safeQueueText code = true) (positive : 1 ≤ n)
    (within : n ≤ q.settings.maxDeliveryAttempts) (marked : Bool)
    (escalates : marked = true → escalated = true) :
    Evident q.host messageId
        (evidenceOf messageId now code b n q.settings.maxDeliveryAttempts escalated) marked ↔
      Retainable b := by
  have limit := q.settings.attempts_ok
  constructor
  · intro evident
    have executions : evidenceFieldOk "execution_ids_json" (identityJson b.executionIds) = true :=
      evident.safe ("execution_ids_json", identityJson b.executionIds) (by simp [evidenceOf])
    have operations : evidenceFieldOk "operation_ids_json" (identityJson b.operationIds) = true :=
      evident.safe ("operation_ids_json", identityJson b.operationIds) (by simp [evidenceOf])
    obtain ⟨executionsFree, executionsFit⟩ := (evidenceFieldOk_identityJson rfl).mp executions
    obtain ⟨operationsFree, operationsFit⟩ := (evidenceFieldOk_identityJson rfl).mp operations
    exact ⟨executionsFree, operationsFree, executionsFit, operationsFit⟩
  · intro keeps
    have flagged : evidenceFieldOk "escalated" (flag escalated) = true ∧
        evidenceFieldOk "quarantined" (flag escalated) = true := by
      cases escalated <;> exact ⟨evidenceFieldOk_of_safe (by decide), evidenceFieldOk_of_safe (by decide)⟩
    have id := safe_of_isStreamId id_ok
    have safe : ∀ f ∈ evidenceOf messageId now code b n q.settings.maxDeliveryAttempts escalated,
        evidenceFieldOk f.1 f.2 = true := by
      simp only [evidenceOf, List.forall_mem_cons, List.not_mem_nil, false_implies, implies_true,
        and_true]
      exact ⟨evidenceFieldOk_of_safe id, evidenceFieldOk_of_safe id, evidenceFieldOk_of_safe code_ok,
        evidenceFieldOk_of_safe (by decide), evidenceFieldOk_of_safe now_ok,
        evidenceFieldOk_of_safe (by decide), flagged.1, flagged.2,
        evidenceFieldOk_of_safe (by decide), evidenceFieldOk_of_safe ok.scanId,
        evidenceFieldOk_of_safe ok.organizationId, evidenceFieldOk_of_safe ok.authorizationRequestId,
        evidenceFieldOk_of_safe (safe_of_isHexDigest ok.wellFormed.hexDigest),
        evidenceFieldOk_of_safe (safe_of_isHexDigest ok.wellFormed.manifestHash),
        (evidenceFieldOk_identityJson rfl).mpr ⟨keeps.executions, keeps.executionsFit⟩,
        (evidenceFieldOk_identityJson rfl).mpr ⟨keeps.operations, keeps.operationsFit⟩,
        evidenceFieldOk_of_safe (by decide), evidenceFieldOk_toString (by omega),
        evidenceFieldOk_toString (by omega)⟩
    exact {
      known := by
        simp only [evidenceOf, List.forall_mem_cons, List.not_mem_nil, false_implies, implies_true,
          and_true]
        decide
      safe := safe
      complete := by
        simp only [requiredEvidenceFields, List.forall_mem_cons, List.not_mem_nil, false_implies,
          implies_true, and_true]
        exact ⟨rfl, rfl, rfl, rfl, rfl, rfl, rfl, rfl, rfl⟩
      message := rfl
      dispatched := rfl
      flagged := by cases escalated <;> rfl
      marked := by
        intro h
        rw [escalates h]
        rfl
      kind := rfl
      legacy := by
        intro h
        exact absurd (Option.some.inj h) (by decide)
      organization := ok.organizationId
      request := ok.authorizationRequestId
      tenant := fun _ => rfl
      identity := validateIdentityJsonFields_of_payload (carries_evidenceOf ok)
      attempts := evidenceCounterOk_toString positive rfl
      bound := evidenceCounterOk_toString limit.1 rfl
      within := by
        rintro attempts bound ⟨⟩ ⟨⟩
        rw [digitsToNat_toString, digitsToNat_toString]
        exact within }

/-! ### What `fail` writes -/

/-- The evidence is told apart by its names. -/
theorem evidenceOf_distinct {bound : Nat} :
    ((evidenceOf messageId now code b n bound escalated).map (·.1)).Nodup := by
  have names : (evidenceOf messageId now code b n bound escalated).map (·.1) =
      ["message_id", "dispatch_message_id", "error_code", "failure_category",
        "failure_observed_at", "requeue_required", "escalated", "quarantined", "message_kind",
        "scan_id", "organization_id", "authorization_request_id", "queue_binding_digest",
        "manifest_hash", "execution_ids_json", "operation_ids_json",
        "queue_binding_schema_version", "attempt_count", "max_attempts"] := rfl
  rw [names]
  decide

/-- A letter, a digit or one of the three marks is printable. -/
theorem isGraphic_of_mark {c : Char}
    (h : c.isAlphanum = true ∨ c = '_' ∨ c = '.' ∨ c = '-') : isGraphic c = true := by
  have bounds : ('A' : Char).val.toNat = 65 ∧ ('Z' : Char).val.toNat = 90 ∧
      ('a' : Char).val.toNat = 97 ∧ ('z' : Char).val.toNat = 122 ∧
      ('0' : Char).val.toNat = 48 ∧ ('9' : Char).val.toNat = 57 := ⟨rfl, rfl, rfl, rfl, rfl, rfl⟩
  rcases h with alphanumeric | rfl | rfl | rfl
  · simp only [Char.isAlphanum, Char.isAlpha, Char.isUpper, Char.isLower, Char.isDigit,
      Bool.or_eq_true, Bool.and_eq_true, decide_eq_true_eq, UInt32.le_iff_toNat_le] at alphanumeric
    simp only [isGraphic, Bool.and_eq_true, decide_eq_true_eq]
    omega
  · decide
  · decide
  · decide

/-- An error code is a safe text. -/
theorem safe_of_isErrorCode (h : isErrorCode code = true) : safeQueueText code = true := by
  simp only [isErrorCode, Bool.and_eq_true, decide_eq_true_eq, List.all_eq_true, Bool.or_eq_true,
    or_assoc] at h
  obtain ⟨⟨full, short⟩, marks⟩ := h
  simp only [safeQueueText, Bool.and_eq_true, decide_eq_true_eq, List.all_eq_true]
  exact ⟨⟨full, by omega⟩, fun c hc => isGraphic_of_mark (marks c hc)⟩

/-- What the report is checked for is the error code. -/
theorem check_authoritativeReport (ok : Accepted q b) (id_ok : isStreamId messageId = true)
    (positive : 1 ≤ n) :
    FailureReport.check q messageId (authoritativeReport q (wireOf b) authoritativeKind b code n
      escalated) = .ok () ↔ isErrorCode (strip code) = true := by
  have limit := q.settings.attempts_ok
  have payload : QueueDispatchBinding.fromPayload q.host
      [("scan_id", b.scanId), ("organization_id", b.organizationId),
        ("authorization_request_id", b.authorizationRequestId), ("manifest_hash", b.manifestHash),
        ("execution_ids_json", identityJson b.executionIds),
        ("operation_ids_json", identityJson b.operationIds),
        ("queue_binding_digest", b.queueBindingDigest),
        ("queue_binding_schema_version", "queue-dispatch-binding-v1")] = .ok b :=
    fromPayload_ok.mpr ⟨{
      scanId := rfl
      organizationId := rfl
      authorizationRequestId := rfl
      manifestHash := rfl
      executionIds := loadList_identityJson ok.executions
      operationIds := loadList_identityJson ok.operations
      digest := rfl
      schemaVersion := congrArg some ok.wellFormed.schemaVersion.symm }, ok.wellFormed, ok.ordered⟩
  have kind : FailureReport.checkKind q (authoritativeReport q (wireOf b) authoritativeKind b code n
      escalated) = .ok () := by
    simp only [FailureReport.checkKind, authoritativeReport, if_pos, bind_ok, exists_unit, refuse_ok,
      require_ok]
    exact ⟨trivial, _, rfl, b, payload, rfl⟩
  simp only [FailureReport.check, bind_ok, exists_unit, ensure_ok, kind, and_true]
  constructor
  · rintro ⟨-, -, named, -⟩
    exact named
  · intro named
    exact ⟨nonBlankUpTo_of_safe (safe_of_isStreamId id_ok), nonBlankUpTo_of_safe ok.scanId, named,
      by simpa [authoritativeReport] using positive, by simpa [authoritativeReport] using limit.1,
      (by decide : queueMessageKinds.contains authoritativeKind = true)⟩

theorem strip_errorCode (named : isErrorCode code = true) : strip code = code := by
  have safe := safe_of_isErrorCode named
  simp only [safeQueueText, Bool.and_eq_true, List.all_eq_true] at safe
  exact strip_of_graphic safe.2

/-- Evidence that is not accepted is refused. -/
theorem canonical_refused {evidence : Fields} {marked : Bool}
    (unfit : ¬ Evident q.host messageId evidence marked) :
    ∃ e, canonicalFailureEvidence q.host messageId evidence marked = .error e := by
  cases outcome : canonicalFailureEvidence q.host messageId evidence marked with
  | error e => exact ⟨e, rfl⟩
  | ok canonical => exact absurd (canonical_ok.mp outcome).1 unfit

/-- An authoritative failure comes to its evidence. -/
theorem fail_authoritative (ok : Accepted q b) (id_ok : isStreamId messageId = true)
    (positive : 1 ≤ n) (named : isErrorCode code = true) (escalated : Bool) :
    q.fail messageId (authoritativeReport q (wireOf b) authoritativeKind b code n escalated) =
      Program.ask .now fun now =>
        if escalated then
          q.quarantine messageId code
            (authoritativeReport q (wireOf b) authoritativeKind b code n escalated).identity
            (evidenceOf messageId now code b n q.settings.maxDeliveryAttempts escalated) false
        else
          (ofExcept (canonicalFailureEvidence q.host messageId
            (evidenceOf messageId now code b n q.settings.maxDeliveryAttempts escalated) false)).bind
              fun evidence => Program.ask (.xaddFailure evidence) fun _ => .ret () := by
  have stripped := strip_errorCode named
  have checked : FailureReport.check q messageId (authoritativeReport q (wireOf b) authoritativeKind b
      code n escalated) = .ok () :=
    (check_authoritativeReport ok id_ok positive).mpr (stripped.symm ▸ named)
  have code_eq : strip (authoritativeReport q (wireOf b) authoritativeKind b code n
      escalated).errorCode = code := stripped
  simp only [fail, checked, Program.bind_eq, Program.ofExcept_ok, Program.ret_bind,
    Program.command_bind, fields_authoritativeReport ok stripped, code_eq]
  cases escalated with
  | true => rfl
  | false => rfl

/-- Below the bound a failure is one event. -/
theorem fail_recorded (ok : Accepted q b) (id_ok : isStreamId messageId = true) (positive : 1 ≤ n)
    (within : n ≤ q.settings.maxDeliveryAttempts) (named : isErrorCode code = true)
    (keeps : Retainable b) :
    ∃ evidence,
      (q.fail messageId (authoritativeReport q (wireOf b) authoritativeKind b code n false)).run
          (Redis.answer w) r = (.ok (), r.xaddFailure evidence) ∧
        (q.fail messageId (authoritativeReport q (wireOf b) authoritativeKind b code n false)).asked
          (Redis.answer w) r = [.now, .xaddFailure evidence] := by
  have evident : Evident q.host messageId
      (evidenceOf messageId w.now code b n q.settings.maxDeliveryAttempts false) false :=
    (evident_evidenceOf ok id_ok w.now_ok (safe_of_isErrorCode named) positive within false
      (by simp)).mpr keeps
  have canonical := canonical_ok.mpr ⟨evident, rfl⟩
  rw [fail_authoritative ok id_ok positive named]
  simp only [Program.run_ask, Program.asked_ask, Redis.answer, if_neg Bool.false_ne_true, canonical,
    Program.ofExcept_ok, Program.ret_bind, Program.run_ret, Program.asked_ret]
  exact ⟨_, rfl, rfl⟩

/-- The identities of the report agree with its evidence, so the state is made. -/
theorem quarantineState_evidenceOf (positive : 1 ≤ n) (messageId now code : String)
    (escalated : Bool) :
    ∃ state, quarantineState q.host now messageId code
      (sortKeys (evidenceOf messageId now code b n q.settings.maxDeliveryAttempts escalated))
      (authoritativeReport q (wireOf b) authoritativeKind b code n escalated).identity =
        .ok state := by
  have found (name : String) :
      (sortKeys (evidenceOf messageId now code b n q.settings.maxDeliveryAttempts escalated)).lookup
        name =
      (evidenceOf messageId now code b n q.settings.maxDeliveryAttempts escalated).lookup name :=
    lookup_sortKeys evidenceOf_distinct name
  simp only [quarantineState, quarantineMembers, bind_ok, exists_unit, Checked.ensureEach_ok, ensure_ok, found,
    FailureReport.identity, authoritativeReport, wireOf, QuarantineIdentity.texts,
    QuarantineIdentity.lists, List.map_cons, List.map_nil, List.forall_mem_cons, List.not_mem_nil,
    false_implies, implies_true, and_true, Option.all_some, decide_eq_true_eq]
  have kept {m : Nat} (h : 1 ≤ m) : (some m).filter (fun i => decide (1 ≤ i)) = some m := by
    simp [h]
  refine ⟨_, _, ⟨⟨rfl, rfl, rfl, rfl, rfl⟩, ⟨rfl, rfl⟩, ?_, ?_, rfl⟩, rfl⟩
  · rw [kept positive, Option.all_some]
    exact decide_eq_true rfl
  · rw [kept q.settings.attempts_ok.1, Option.all_some]
    exact decide_eq_true rfl

/-- At the bound a failure is one transaction: the state, the marker and the event. -/
theorem fail_quarantined (ok : Accepted q b) (id_ok : isStreamId messageId = true) (positive : 1 ≤ n)
    (within : n ≤ q.settings.maxDeliveryAttempts) (named : isErrorCode code = true)
    (keeps : Retainable b) :
    ∃ state evidence,
      (q.fail messageId (authoritativeReport q (wireOf b) authoritativeKind b code n true)).run
          (Redis.answer w) r =
        (.ok (), ((r.set (q.quarantineStateKey messageId) state none).set (q.quarantineKey messageId)
          state (some q.settings.quarantineTtlSeconds)).xaddFailure evidence) ∧
        (q.fail messageId (authoritativeReport q (wireOf b) authoritativeKind b code n true)).asked
          (Redis.answer w) r =
        [.now, .now, .execute [.set (q.quarantineStateKey messageId) state none,
          .set (q.quarantineKey messageId) state (some q.settings.quarantineTtlSeconds),
          .xaddFailure evidence]] := by
  have evident : Evident q.host messageId
      (evidenceOf messageId w.now code b n q.settings.maxDeliveryAttempts true) true :=
    (evident_evidenceOf ok id_ok w.now_ok (safe_of_isErrorCode named) positive within true
      (fun _ => rfl)).mpr keeps
  have canonical := canonical_ok.mpr ⟨evident, rfl⟩
  obtain ⟨state, made⟩ := quarantineState_evidenceOf (q := q) (b := b) positive messageId w.now code true
  rw [fail_authoritative ok id_ok positive named]
  simp only [Program.run_ask, Program.asked_ask, Redis.answer, if_pos, quarantine, canonical,
    Program.bind_eq, Program.ofExcept_ok, Program.ret_bind, Program.command_bind, made]
  exact ⟨_, _, rfl, rfl⟩

/-- A name or a list that does not fit is refused, and nothing is written. -/
theorem fail_refused (ok : Accepted q b) (id_ok : isStreamId messageId = true) (positive : 1 ≤ n)
    (within : n ≤ q.settings.maxDeliveryAttempts) (stripped : strip code = code)
    (unfit : ¬ (isErrorCode code = true ∧ Retainable b)) (escalated : Bool) :
    ∃ e, (q.fail messageId (authoritativeReport q (wireOf b) authoritativeKind b code n escalated)).run
      (Redis.answer w) r = (.error e, r) := by
  by_cases named : isErrorCode code = true
  · have refused (marked : Bool) (escalates : marked = true → escalated = true) :
        ∃ e, canonicalFailureEvidence q.host messageId
          (evidenceOf messageId w.now code b n q.settings.maxDeliveryAttempts escalated) marked =
            .error e := by
      refine canonical_refused fun evident => unfit ⟨named, ?_⟩
      exact (evident_evidenceOf ok id_ok w.now_ok (safe_of_isErrorCode named) positive within marked
        escalates).mp evident
    rw [fail_authoritative ok id_ok positive named]
    cases escalated with
    | true =>
        obtain ⟨e, canonical⟩ := refused true fun _ => rfl
        exact ⟨e, by simp [quarantine, Redis.answer, canonical]⟩
    | false =>
        obtain ⟨e, canonical⟩ := refused false fun h => h
        exact ⟨e, by simp [Redis.answer, canonical]⟩
  · cases checked : FailureReport.check q messageId (authoritativeReport q (wireOf b)
        authoritativeKind b code n escalated) with
    | ok u =>
        have named' := (check_authoritativeReport ok id_ok positive).mp checked
        rw [stripped] at named'
        exact absurd named' named
    | error e => exact ⟨e, by simp [fail, checked]⟩

/-! ### The handler raises -/

variable {signature : HandlerSignature} {fields : Fields} {wire : WireMessage}
  {envelope : Option String} {e : PyException}

/-- What follows an exception of the handler. -/
def raisedIn (q : DurableQueue) (messageId : String) (wire : WireMessage) (b : QueueDispatchBinding)
    (n : Nat) (e : PyException) : Asking Bool :=
  if !e.isException then .raise e
  else
    (q.fail messageId (authoritativeReport q wire wire.messageKind b e.name n
      (q.settings.maxDeliveryAttempts ≤ n))).bind fun _ => .ret true

/-- The handler is entered once, and what it raises is settled. -/
theorem dispatch_raised (counted : r.timesDelivered messageId = some n) (positive : 1 ≤ n)
    (within : n ≤ q.settings.maxDeliveryAttempts)
    (request : (nonEmpty wire.authorizationRequestId).isSome = true)
    (opened : q.openEnvelope fields wire = .ok envelope) (takes : signature.accepts 5 = true)
    (raised : w.handled ⟨wire.scanId, wire.organizationId, wire.authorizationRequestId, envelope,
      some b⟩ = .error e) :
    (q.dispatch signature messageId fields wire b).run (Redis.answer w) r =
        (raisedIn q messageId wire b n e).run (Redis.answer w) r ∧
      ∃ call, (q.dispatch signature messageId fields wire b).asked (Redis.answer w) r =
        [.xpendingRange messageId, .enterHandler messageId call, .leaveHandler messageId call] ++
          (raisedIn q messageId wire b n e).asked (Redis.answer w) r := by
  have no : ¬ q.settings.maxDeliveryAttempts < n := by omega
  have counts := run_deliveryAttempts (w := w) counted positive
  have asks : (deliveryAttempts messageId).asked (Redis.answer w) r = [.xpendingRange messageId] := by
    have some : ¬ n = 0 := by omega
    simp [deliveryAttempts, Redis.answer, counted, some]
  have called : handlerCall signature wire envelope (some b) =
      .ok ⟨wire.scanId, wire.organizationId, wire.authorizationRequestId, envelope, some b⟩ := by
    rw [handlerCall, if_pos request, takes]
    rfl
  have handled : (q.handle signature messageId fields wire (some b)).run (Redis.answer w) r =
      (.error e, r) := by
    simp [handle, opened, called, Redis.answer, raised]
  have entered : ∃ call, (q.handle signature messageId fields wire (some b)).asked
      (Redis.answer w) r = [.enterHandler messageId call, .leaveHandler messageId call] := by
    refine ⟨⟨wire.scanId, wire.organizationId, wire.authorizationRequestId, envelope, some b⟩, ?_⟩
    simp [handle, opened, called, Redis.answer, raised]
  have settled : (q.settle signature messageId fields wire (some (b, n))).run (Redis.answer w) r =
      (raisedIn q messageId wire b n e).run (Redis.answer w) r := by
    rw [settle, Program.bind_eq, run_bind, Program.run_attempt, Option.map_some, handled]
    rfl
  obtain ⟨call, entered⟩ := entered
  refine ⟨?_, call, ?_⟩
  · rw [dispatch, Program.bind_eq, run_bind, Program.run_attempt, counts]
    simp only [if_neg no, settled]
  · rw [dispatch, Program.bind_eq, asked_bind, Program.run_attempt, Program.asked_attempt, counts, asks]
    simp only [if_neg no]
    rw [settle, Program.bind_eq, asked_bind, Program.run_attempt, Program.asked_attempt,
      Option.map_some, handled, entered]
    rfl

/-! ### The record of a failure -/

/-- A command that writes to the server. -/
def writes : Command → Bool
  | .xadd _ | .xaddFailure _ | .xack _ | .execute _ | .evalEnqueue .. | .evalAcknowledge .. => true
  | _ => false

/-- What `consume_once` promises of a handler that raised: it returns, it has written one event of
failure, or at the bound one transaction with the quarantine, and nothing else, and the message stays
pending. -/
structure Recorded (q : DurableQueue) (w : World) (r : Redis) (signature : HandlerSignature)
    (messageId : String) (n : Nat) : Prop where
  returns : ((q.consumeOnce signature).run (Redis.answer w) r).1 = .ok true
  below : n < q.settings.maxDeliveryAttempts →
    ∃ evidence, ((q.consumeOnce signature).asked (Redis.answer w) r).filter writes =
      [.xaddFailure evidence]
  atBound : n = q.settings.maxDeliveryAttempts →
    ∃ state evidence, ((q.consumeOnce signature).asked (Redis.answer w) r).filter writes =
      [.execute [.set (q.quarantineStateKey messageId) state none,
        .set (q.quarantineKey messageId) state (some q.settings.quarantineTtlSeconds),
        .xaddFailure evidence]]
  pending : ((q.consumeOnce signature).run (Redis.answer w) r).2.isPending messageId = true

/-- `str.isidentifier` on ASCII. -/
def isIdentifier (name : String) : Bool :=
  name.toList.all (fun c => c.isAlphanum || c = '_') && name.toList.head?.any fun c => !c.isDigit

/-- An identifier has nothing to strip. -/
theorem strip_of_isIdentifier {name : String} (plain : isIdentifier name = true) :
    strip name = name := by
  simp only [isIdentifier, Bool.and_eq_true, List.all_eq_true, Bool.or_eq_true,
    decide_eq_true_eq] at plain
  exact strip_of_graphic fun c hc => isGraphic_of_mark ((plain.1 c hc).imp_right Or.inl)

/-- An identifier is an error code where it is short. -/
theorem isErrorCode_of_isIdentifier {name : String} (plain : isIdentifier name = true) :
    isErrorCode name = true ↔ name.length ≤ 128 := by
  simp only [isIdentifier, Bool.and_eq_true, List.all_eq_true, Bool.or_eq_true,
    decide_eq_true_eq] at plain
  obtain ⟨letters, first⟩ := plain
  have full : 1 ≤ name.length := by
    rw [← String.length_toList]
    cases text : name.toList with
    | nil =>
        rw [text] at first
        cases first
    | cons c cs => exact Nat.le_add_left _ _
  simp only [isErrorCode, Bool.and_eq_true, decide_eq_true_eq, List.all_eq_true, Bool.or_eq_true]
  constructor
  · rintro ⟨⟨-, short⟩, -⟩
    exact short
  · intro short
    refine ⟨⟨full, short⟩, fun c hc => ?_⟩
    rcases letters c hc with letter | score
    · exact Or.inl (Or.inl (Or.inl letter))
    · exact Or.inl (Or.inl (Or.inr score))

/-- An accepted message is that of its binding. -/
theorem accepted_of_wire (accepted : validateWireMessage q.host fields = .ok wire)
    (kind : wire.messageKind = authoritativeKind)
    (bound : QueueDispatchBinding.fromPayload q.host fields = .ok b) :
    wire = wireOf b ∧ Accepted q b := by
  obtain ⟨-, c, read, scan, organization, request, rfl⟩ :=
    validate_authoritative.mp ⟨accepted, kind⟩
  obtain rfl : b = c := Except.ok.inj (bound.symm.trans read)
  obtain ⟨carried, ok, ordered⟩ := fromPayload_ok.mp read
  exact ⟨rfl, ok, ordered, scan, organization, request, carried.joined.1, carried.joined.2⟩

/-- A claimed message has an id of the server. -/
theorem claimed_id {rest : List (String × Fields)}
    (claimed : q.claim.run (Redis.answer w) r = (.ok ((messageId, fields) :: rest), r₁)) :
    isStreamId messageId = true := by
  have auto : (r.xautoclaim w.idle q.consumerName).2.entries = r.entries := by
    rw [Redis.xautoclaim]
    cases r.pending.find? fun p => w.idle p.messageId <;> rfl
  rcases claim_cases (q := q) (w := w) (r := r) with ⟨run, -⟩ | ⟨run, -⟩
  · rw [run, Redis.xautoclaim] at claimed
    cases pending : r.pending.find? fun p => w.idle p.messageId with
    | none =>
        rw [pending] at claimed
        cases claimed
    | some p =>
        rw [pending] at claimed
        cases found : r.entry p.messageId with
        | none =>
            simp only [found] at claimed
            cases claimed
        | some own =>
            simp only [found] at claimed
            cases claimed
            obtain ⟨before, after, split, -⟩ := List.lookup_eq_some_iff.mp found
            exact r.ids_ok (p.messageId, fields) (by rw [split]; simp)
  · rw [run, Redis.xreadgroup] at claimed
    cases next : (r.xautoclaim w.idle q.consumerName).2.entries[
        (r.xautoclaim w.idle q.consumerName).2.delivered]? with
    | none =>
        rw [next] at claimed
        cases claimed
    | some own =>
        rw [next] at claimed
        cases claimed
        rw [auto] at next
        exact r.ids_ok _ (List.mem_of_getElem? next)

/-- A delivery whose handler raises comes to what follows the exception. -/
theorem consumeOnce_raised {rest : List (String × Fields)}
    (claimed : q.claim.run (Redis.answer w) r = (.ok ((messageId, fields) :: rest), r₁))
    (accepted : validateWireMessage q.host fields = .ok wire)
    (kind : wire.messageKind = authoritativeKind)
    (bound : QueueDispatchBinding.fromPayload q.host fields = .ok b)
    (fresh : q.gated r messageId = false)
    (counted : r₁.timesDelivered messageId = some n) (positive : 1 ≤ n)
    (within : n ≤ q.settings.maxDeliveryAttempts)
    (opened : q.openEnvelope fields wire = .ok envelope) (takes : signature.accepts 5 = true)
    (raised : w.handled ⟨wire.scanId, wire.organizationId, wire.authorizationRequestId, envelope,
      some b⟩ = .error e) :
    (q.consumeOnce signature).run (Redis.answer w) r =
        (raisedIn q messageId (wireOf b) b n e).run (Redis.answer w) r₁ ∧
      ((q.consumeOnce signature).asked (Redis.answer w) r).filter writes =
        ((raisedIn q messageId (wireOf b) b n e).asked (Redis.answer w) r₁).filter writes := by
  obtain ⟨rfl, ok⟩ := accepted_of_wire accepted kind bound
  have shut : q.gated r₁ messageId = false := by
    simpa only [gated, claim_store claimed] using fresh
  obtain ⟨c, read, run, asked⟩ := consume_authoritative (w := w) shut accepted kind signature
  obtain rfl : b = c := Except.ok.inj (bound.symm.trans read)
  have request : (nonEmpty (wireOf b).authorizationRequestId).isSome = true := by
    rw [wireOf, nonEmpty_of_safe ok.authorizationRequestId, Option.isSome_some]
  obtain ⟨ran, call, entered⟩ := dispatch_raised counted positive within request opened takes raised
  constructor
  · rw [consumeOnce, Program.bind_eq, run_bind, claimed]
    exact run.trans ran
  · have silent : (q.claim.asked (Redis.answer w) r).filter writes = [] := by
      rcases claim_cases (q := q) (w := w) (r := r) with ⟨-, list⟩ | ⟨-, list⟩
      · rw [list]
        rfl
      · rw [list]
        rfl
    rw [consumeOnce, Program.bind_eq, asked_bind, claimed, List.filter_append, silent]
    simp only [asked, entered]
    rfl

/-- A caught exception goes to `fail`. -/
theorem raisedIn_caught (caught : e.isException = true) (q : DurableQueue) (messageId : String)
    (b : QueueDispatchBinding) (n : Nat) :
    raisedIn q messageId (wireOf b) b n e =
      (q.fail messageId (authoritativeReport q (wireOf b) authoritativeKind b e.name n
        (q.settings.maxDeliveryAttempts ≤ n))).bind fun _ => .ret true := by
  rw [raisedIn, caught]
  rfl

/-- A handler that raises leaves its evidence exactly where the exception is caught, its name is short
and the binding is retainable. -/
theorem failure_recorded {rest : List (String × Fields)}
    (claimed : q.claim.run (Redis.answer w) r = (.ok ((messageId, fields) :: rest), r₁))
    (accepted : validateWireMessage q.host fields = .ok wire)
    (kind : wire.messageKind = authoritativeKind)
    (bound : QueueDispatchBinding.fromPayload q.host fields = .ok b)
    (fresh : q.gated r messageId = false)
    (counted : r₁.timesDelivered messageId = some n) (positive : 1 ≤ n)
    (within : n ≤ q.settings.maxDeliveryAttempts)
    (opened : q.openEnvelope fields wire = .ok envelope) (takes : signature.accepts 5 = true)
    (raised : w.handled ⟨wire.scanId, wire.organizationId, wire.authorizationRequestId, envelope,
      some b⟩ = .error e)
    (plain : isIdentifier e.name = true) :
    Recorded q w r signature messageId n ↔
      e.isException = true ∧ e.name.length ≤ 128 ∧ Retainable b := by
  obtain ⟨once, wrote⟩ := consumeOnce_raised claimed accepted kind bound fresh counted positive within
    opened takes raised
  have ok := (accepted_of_wire accepted kind bound).2
  have id_ok := claimed_id claimed
  have stripped := strip_of_isIdentifier plain
  cases caught : e.isException with
  | false =>
      have through : (raisedIn q messageId (wireOf b) b n e).run (Redis.answer w) r₁ =
          (.error e, r₁) := by
        rw [raisedIn, caught]
        rfl
      refine ⟨fun recorded => ?_, fun ⟨h, _⟩ => absurd h Bool.false_ne_true⟩
      have back := recorded.returns
      rw [once, through] at back
      cases back
  | true =>
      have through := raisedIn_caught caught q messageId b n
      have here := pending_of_counted counted
      by_cases fit : isErrorCode e.name = true ∧ Retainable b
      · obtain ⟨named, keeps⟩ := fit
        refine iff_of_true ?_ ⟨rfl, (isErrorCode_of_isIdentifier plain).mp named, keeps⟩
        by_cases last : q.settings.maxDeliveryAttempts ≤ n
        · obtain ⟨state, evidence, failed, commands⟩ :=
            fail_quarantined (w := w) (r := r₁) ok id_ok positive within named keeps
          rw [through, decide_eq_true last, run_bind, failed] at once
          rw [through, decide_eq_true last, asked_bind, failed, commands] at wrote
          refine ⟨by rw [once]; rfl, fun below => absurd below (by omega), fun _ =>
            ⟨state, evidence, wrote⟩, ?_⟩
          rw [once]
          exact here
        · obtain ⟨evidence, failed, commands⟩ :=
            fail_recorded (w := w) (r := r₁) ok id_ok positive within named keeps
          rw [through, decide_eq_false last, run_bind, failed] at once
          rw [through, decide_eq_false last, asked_bind, failed, commands] at wrote
          refine ⟨by rw [once]; rfl, fun _ => ⟨evidence, wrote⟩, fun atBound => absurd atBound
            (by omega), ?_⟩
          rw [once]
          exact here
      · refine iff_of_false (fun recorded => ?_) fun ⟨_, short, keeps⟩ =>
          fit ⟨(isErrorCode_of_isIdentifier plain).mpr short, keeps⟩
        obtain ⟨refusal, failed⟩ := fail_refused (w := w) (r := r₁) ok id_ok positive within stripped
          fit (q.settings.maxDeliveryAttempts ≤ n)
        have back := recorded.returns
        rw [once, through, run_bind, failed] at back
        cases back

end DurableQueue

namespace QueueSample

variable (s : QueueSample)

/-- The handler raises. -/
def failing : World := { world with handled := fun _ => .error (runtimeError "scan failed") }

/-- The first delivery of the published intent. -/
def delivered : Redis := ((s.published.xautoclaim world.idle "worker-1").2.xreadgroup "worker-1").2

theorem published_claimed :
    s.queue.claim.run (Redis.answer failing) s.published =
      (.ok [("1700000000000-0", s.entry)], s.delivered) := rfl

theorem entry_read (joined : Joined s.execution) :
    QueueDispatchBinding.fromPayload s.queue.host s.entry = .ok s.binding :=
  (s.entry_agrees joined).binding _ rfl

/-- An execution identity with a space. -/
def spaced : QueueSample where
  execution := points "execution 1"
  digest := "0d247559c9db1658d5a9164c58420ce81c9e00175ab5015b6f8a6ac79110bad5"
  identity_ok := ⟨by decide, by decide⟩
  digest_ok := by decide

theorem spaced_accepted : validateWireMessage spaced.queue.host spaced.entry =
    .ok ⟨authoritativeKind, "scan-1", some "org-1", some "request-1"⟩ :=
  (spaced.entry_agrees (joined_points _)).accepted

theorem plain_retainable : DurableQueue.Retainable plain.binding where
  executions := List.forall_mem_singleton.mpr (by decide)
  operations := List.forall_mem_singleton.mpr (by decide)
  executionsFit := by decide
  operationsFit := by decide

/-- The failure of the plain execution is recorded. -/
theorem plain_recorded :
    DurableQueue.Recorded plain.queue failing plain.published signature "1700000000000-0" 1 :=
  (DurableQueue.failure_recorded plain.published_claimed plain_accepted rfl
    (plain.entry_read (joined_points _)) rfl rfl (by decide) (by decide) rfl rfl rfl (by decide)).mpr
      ⟨rfl, by decide, plain_retainable⟩

/-- The failure of the spaced one is not, though its message was accepted. -/
theorem spaced_unrecorded :
    ¬ ∀ (q : DurableQueue) (w : World) (r r₁ : Redis) (signature : HandlerSignature)
      (messageId : String) (fields : Fields) (rest : List (String × Fields)) (wire : WireMessage)
      (b : QueueDispatchBinding) (n : Nat) (envelope : Option String) (e : PyException),
      q.claim.run (Redis.answer w) r = (.ok ((messageId, fields) :: rest), r₁) →
        validateWireMessage q.host fields = .ok wire → wire.messageKind = authoritativeKind →
        QueueDispatchBinding.fromPayload q.host fields = .ok b → q.gated r messageId = false →
        r₁.timesDelivered messageId = some n → 1 ≤ n → n ≤ q.settings.maxDeliveryAttempts →
        q.openEnvelope fields wire = .ok envelope → signature.accepts 5 = true →
        w.handled ⟨wire.scanId, wire.organizationId, wire.authorizationRequestId, envelope,
          some b⟩ = .error e → DurableQueue.isIdentifier e.name = true →
          DurableQueue.Recorded q w r signature messageId n := by
  intro all
  have read := spaced.entry_read (joined_points _)
  have recorded := all spaced.queue failing spaced.published spaced.delivered signature
    "1700000000000-0" spaced.entry [] _ spaced.binding 1 none (runtimeError "scan failed")
    spaced.published_claimed spaced_accepted rfl read rfl rfl (by decide) (by decide) rfl rfl rfl
    (by decide)
  have counted : spaced.delivered.timesDelivered "1700000000000-0" = some 1 := rfl
  have takes : signature.accepts 5 = true := rfl
  obtain ⟨once, -⟩ := DurableQueue.consumeOnce_raised spaced.published_claimed
    spaced_accepted rfl read rfl counted (by decide) (by decide) rfl takes
    rfl
  obtain ⟨-, ok⟩ := DurableQueue.accepted_of_wire spaced_accepted rfl read
  have unfit : ¬ (DurableQueue.isErrorCode "RuntimeError" = true ∧
      DurableQueue.Retainable spaced.binding) := by
    rintro ⟨-, keeps⟩
    exact keeps.executions (points "execution 1") (by simp [binding, spaced]) (by decide)
  have id_ok : isStreamId "1700000000000-0" = true := by decide
  obtain ⟨refusal, failed⟩ := DurableQueue.fail_refused (w := failing) (r := spaced.delivered) ok
    id_ok (Nat.le_refl 1) (by decide) rfl unfit (spaced.queue.settings.maxDeliveryAttempts ≤ 1)
  have back := recorded.returns
  rw [once, DurableQueue.raisedIn_caught rfl, run_bind] at back
  simp only [runtimeError] at back
  rw [failed] at back
  cases back

end QueueSample

end CyberAssess
