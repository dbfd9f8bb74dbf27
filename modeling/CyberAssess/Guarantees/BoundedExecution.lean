import CyberAssess.Guarantees.FailureEvidence
import CyberAssess.Queue.Manager

/-!
# Guarantees — a task that raises

`execute_bounded` reports a failed task to the queue before it raises again. The report of an
authoritative call does not say of what kind its message is, and `fail` refuses it.

* `fail_legacy`: the failure of a legacy message is one event, where its code is a name.
* `fail_unnamed`: a report without a kind is refused.
* `execute_bounded_transparent`: what the caller sees is the task's own exception, after one recorded
  failure, exactly for the legacy calls whose exception has such a name.
-/

namespace CyberAssess

open Python
open Interaction (Program)
open Interaction.Program (ofExcept run_bind)
open Checked (ensure refuse require bind_ok exists_unit ensure_ok refuse_ok require_ok)

namespace DurableQueue

variable {q : DurableQueue} {w : World} {r : Redis} {messageId now code : String}

/-- The report of a legacy failure. -/
def legacyReport (code : String) : FailureReport where
  errorCode := code
  messageKind := some legacyKind

/-- The evidence of a legacy failure. -/
theorem fields_legacyReport : (legacyReport code).fields messageId now =
    [("message_id", messageId), ("dispatch_message_id", messageId), ("error_code", strip code),
      ("failure_category", "LEGACY_QUEUE"), ("failure_observed_at", now), ("requeue_required", "0"),
      ("escalated", "0"), ("quarantined", "0"), ("message_kind", legacyKind)] := rfl

theorem evident_legacyReport (id_ok : isStreamId messageId = true) (now_ok : safeQueueText now = true)
    (named : isErrorCode (strip code) = true) :
    Evident q.host messageId ((legacyReport code).fields messageId now) false := by
  have id := safe_of_isStreamId id_ok
  have safe : ∀ f ∈ (legacyReport code).fields messageId now, evidenceFieldOk f.1 f.2 = true := by
    simp only [fields_legacyReport, List.forall_mem_cons, List.not_mem_nil, false_implies,
      implies_true, and_true]
    exact ⟨evidenceFieldOk_of_safe id, evidenceFieldOk_of_safe id,
      evidenceFieldOk_of_safe (safe_of_isErrorCode named), evidenceFieldOk_of_safe (by decide),
      evidenceFieldOk_of_safe now_ok, evidenceFieldOk_of_safe (by decide),
      evidenceFieldOk_of_safe (by decide), evidenceFieldOk_of_safe (by decide),
      evidenceFieldOk_of_safe (by decide)⟩
  rw [fields_legacyReport] at safe ⊢
  exact {
    known := by
      simp only [List.forall_mem_cons, List.not_mem_nil, false_implies, implies_true, and_true]
      decide
    safe := safe
    complete := by
      simp only [requiredEvidenceFields, List.forall_mem_cons, List.not_mem_nil, false_implies,
        implies_true, and_true]
      exact ⟨rfl, rfl, rfl, rfl, rfl, rfl, rfl, rfl, rfl⟩
    message := rfl
    dispatched := rfl
    flagged := rfl
    marked := nofun
    kind := rfl
    legacy := fun _ => rfl
    organization := rfl
    request := rfl
    tenant := nofun
    identity := rfl
    attempts := rfl
    bound := rfl
    within := nofun }

/-- What a legacy report is checked for is its code. -/
theorem check_legacyReport (id_ok : isStreamId messageId = true) :
    FailureReport.check q messageId (legacyReport code) = .ok () ↔
      isErrorCode (strip code) = true := by
  have kind : FailureReport.checkKind q (legacyReport code) = .ok () := rfl
  simp only [FailureReport.check, bind_ok, exists_unit, ensure_ok, kind, and_true]
  constructor
  · rintro ⟨-, -, named, -⟩
    exact named
  · intro named
    exact ⟨nonBlankUpTo_of_safe (safe_of_isStreamId id_ok), rfl, named, rfl, rfl,
      (by decide : (some legacyKind).any queueMessageKinds.contains = true)⟩

/-- The failure of a legacy message is one event, and the message is acknowledged. -/
theorem fail_legacy (w : World) (r : Redis) (id_ok : isStreamId messageId = true)
    (named : isErrorCode (strip code) = true) :
    ∃ evidence, (q.fail messageId (legacyReport code)).run (Redis.answer w) r =
        (.ok (), (r.xaddFailure evidence).xack messageId) ∧
      evidence.lookup "message_id" = some messageId ∧
      evidence.lookup "error_code" = some (strip code) := by
  have evident := evident_legacyReport (q := q) id_ok w.now_ok named
  have canonical := canonical_ok.mpr ⟨evident, rfl⟩
  have distinct : (((legacyReport code).fields messageId w.now).map (·.1)).Nodup := by
    rw [fields_legacyReport]
    exact (by decide : ["message_id", "dispatch_message_id", "error_code", "failure_category",
      "failure_observed_at", "requeue_required", "escalated", "quarantined", "message_kind"].Nodup)
  have found (name : String) : (sortKeys ((legacyReport code).fields messageId w.now)).lookup name =
      ((legacyReport code).fields messageId w.now).lookup name := lookup_sortKeys distinct name
  refine ⟨sortKeys ((legacyReport code).fields messageId w.now), ?_, ?_, ?_⟩
  · have quiet : (decide ((legacyReport code).messageKind ≠ some legacyKind) &&
        (legacyReport code).quarantined) = false := rfl
    simp only [fail, (check_legacyReport id_ok).mpr named, Program.bind_eq, Program.ofExcept_ok,
      Program.ret_bind, Program.command_bind, Program.run_ask, Redis.answer, quiet, canonical]
    rfl
  · rw [found, fields_legacyReport]
    rfl
  · rw [found, fields_legacyReport]
    rfl

/-- A report that is refused changes nothing. -/
theorem fail_unchecked {report : FailureReport}
    (refused : FailureReport.check q messageId report ≠ .ok ()) :
    ∃ e, (q.fail messageId report).run (Redis.answer w) r = (.error e, r) := by
  cases checked : FailureReport.check q messageId report with
  | ok u => exact absurd checked refused
  | error e =>
      refine ⟨e, ?_⟩
      simp only [fail, checked, Program.bind_eq, Program.ofExcept_error, Program.raise_bind,
        Program.run_raise]

/-- A report without a kind is refused. -/
theorem fail_unnamed {report : FailureReport} (unnamed : report.messageKind = none) :
    FailureReport.check q messageId report ≠ .ok () := by
  intro checked
  simp only [FailureReport.check, bind_ok, exists_unit, ensure_ok, unnamed, Option.any_none] at checked
  obtain ⟨-, -, -, -, -, kind, -⟩ := checked
  exact Bool.false_ne_true kind

end DurableQueue

/-! ### A task that raises -/

namespace ScanQueueManager

variable {α : Type} {queue : DurableQueue} {call : BoundedCall} {task : Asking α} {w : World}
  {r r₁ r₂ : Redis} {id : String} {e : PyException}

/-- An intent that is published is authoritative with its binding, or legacy without one. -/
theorem checked_of_published (published : (queue.enqueue call.request).run (Redis.answer w) r = (.ok id, r₁)) :
    call.authorizationRequestId.isSome = call.queueBinding.isSome ∧
      (call.authorizationRequestId.isSome = true →
        (DurableQueue.nonEmpty call.authorizationRequestId).isSome = true) := by
  cases checked : DurableQueue.EnqueueRequest.check queue call.request with
  | error e =>
      rw [DurableQueue.run_enqueue_refused checked] at published
      cases published
  | ok accepted =>
      cases accepted with
      | none =>
          obtain ⟨-, request, binding, -⟩ := DurableQueue.check_legacy.mp checked
          have asked : call.authorizationRequestId = none := request
          have bound : call.queueBinding = none := binding
          rw [asked, bound]
          exact ⟨rfl, nofun⟩
      | some pair =>
          obtain ⟨-, given, request, solid, -, -, binding, -⟩ :=
            DurableQueue.check_authoritative.mp checked
          have asked : call.authorizationRequestId = some given := request
          have bound : call.queueBinding = some pair.2 := binding
          have full : given ≠ "" := by
            rintro rfl
            exact absurd solid (by decide)
          rw [asked, bound]
          exact ⟨rfl, fun _ => by simp [DurableQueue.nonEmpty, full]⟩

/-- The message of a published call is what the intent was published under. -/
theorem run_publish (published : (queue.enqueue call.request).run (Redis.answer w) r = (.ok id, r₁)) :
    ((⟨some queue⟩ : ScanQueueManager).publish call).run (Redis.answer w) r = (.ok (some id), r₁) := by
  obtain ⟨same, -⟩ := checked_of_published published
  have bound : (call.authorizationRequestId.isNone && call.queueBinding.isSome) = false := by
    rw [← same]
    cases call.authorizationRequestId <;> rfl
  have named : (call.authorizationRequestId.isSome && call.queueBinding.isNone) = false := by
    rw [same]
    cases call.queueBinding <;> rfl
  simp only [publish, bound, named, refuse, Bool.false_eq_true, if_false, Program.bind_eq,
    Program.ofExcept_ok, Program.ret_bind, run_bind, published]
  rfl

/-- A legacy message is named by the server. -/
theorem id_of_legacy (asked : call.authorizationRequestId = none)
    (published : (queue.enqueue call.request).run (Redis.answer w) r = (.ok id, r₁)) :
    isStreamId id = true := by
  cases checked : DurableQueue.EnqueueRequest.check queue call.request with
  | error e =>
      rw [DurableQueue.run_enqueue_refused checked] at published
      cases published
  | ok accepted =>
      cases accepted with
      | some pair =>
          obtain ⟨-, given, request, -⟩ := DurableQueue.check_authoritative.mp checked
          exact nomatch (show call.authorizationRequestId = some given from request).symm.trans asked
      | none =>
          rw [DurableQueue.run_enqueue_legacy checked, Redis.xadd] at published
          split at published
          · cases published
          · obtain rfl := Except.ok.inj (Prod.mk.inj published).1
            exact w.newId_ok

/-- A published call runs its task, and hands a caught exception to `fail`. -/
theorem run_executeBounded (published : (queue.enqueue call.request).run (Redis.answer w) r = (.ok id, r₁))
    (raised : task.run (Redis.answer w) r₁ = (.error e, r₂)) (caught : e.isException = true) :
    ((⟨some queue⟩ : ScanQueueManager).executeBounded call task).run (Redis.answer w) r =
      (((⟨some queue⟩ : ScanQueueManager).fail call (some id) e.name).bind fun _ =>
        (.raise e : Asking α)).run (Redis.answer w) r₂ := by
  simp only [executeBounded, Program.bind_eq, run_bind, run_publish published, Program.run_attempt,
    raised, caught, if_true]

/-- The task's own exception is raised again, after one recorded failure of the message; an
authoritative message stays pending. -/
def RaisesAgain (queue : DurableQueue) (call : BoundedCall) (task : Asking α) (w : World) (r r₂ : Redis)
    (id : String) (e : PyException) : Prop :=
  ∃ r₃ evidence,
    ((⟨some queue⟩ : ScanQueueManager).executeBounded call task).run (Redis.answer w) r = (.error e, r₃) ∧
    r₃.failures = r₂.failures ++ [evidence] ∧ evidence.lookup "message_id" = some id ∧
    evidence.lookup "error_code" = some (strip e.name) ∧
    (call.authorizationRequestId.isSome = true → r₃.pending = r₂.pending)

/-- A report that is refused is raised in place of the task's exception, and nothing is recorded. -/
theorem not_raisesAgain (published : (queue.enqueue call.request).run (Redis.answer w) r = (.ok id, r₁))
    (raised : task.run (Redis.answer w) r₁ = (.error e, r₂)) (caught : e.isException = true)
    {refusal : PyException}
    (refused : ((⟨some queue⟩ : ScanQueueManager).fail call (some id) e.name).run (Redis.answer w) r₂ =
      (.error refusal, r₂)) : ¬ RaisesAgain queue call task w r r₂ id e := by
  rintro ⟨r₃, evidence, ran, recorded, -⟩
  rw [run_executeBounded published raised caught, run_bind, refused] at ran
  obtain rfl := (Prod.mk.inj ran).2
  exact absurd (List.append_right_eq_self.mp recorded.symm) (List.cons_ne_nil _ _)

/-- The failure of an authoritative call is not recorded: its report has no kind. -/
theorem fail_authoritative (queue : DurableQueue)
    (authoritative : (DurableQueue.nonEmpty call.authorizationRequestId).isSome = true) (w : World) (r : Redis) (id code : String) :
    ∃ refusal, ((⟨some queue⟩ : ScanQueueManager).fail call (some id) code).run (Redis.answer w) r =
      (.error refusal, r) := by
  simp only [fail, authoritative, if_true]
  exact DurableQueue.fail_unchecked (DurableQueue.fail_unnamed rfl)

/-- What a task raises is raised again, after its failure is recorded, exactly where the call is a
legacy one and the name of the exception is an error code. -/
theorem execute_bounded_transparent
    (published : (queue.enqueue call.request).run (Redis.answer w) r = (.ok id, r₁))
    (raised : task.run (Redis.answer w) r₁ = (.error e, r₂)) (caught : e.isException = true) :
    RaisesAgain queue call task w r r₂ id e ↔
      call.authorizationRequestId = none ∧ DurableQueue.isErrorCode (strip e.name) = true := by
  cases asked : call.authorizationRequestId with
  | some request =>
      refine iff_of_false ?_ fun ⟨other, _⟩ => nomatch other
      have there : call.authorizationRequestId.isSome = true := asked ▸ rfl
      obtain ⟨refusal, refused⟩ :=
        fail_authoritative queue ((checked_of_published published).2 there) w r₂ id e.name
      exact not_raisesAgain published raised caught refused
  | none =>
      have legacy (code : String) : (⟨some queue⟩ : ScanQueueManager).fail call (some id) code =
          queue.fail id (DurableQueue.legacyReport code) := by
        simp only [fail, asked]
        rfl
      by_cases named : DurableQueue.isErrorCode (strip e.name) = true
      · refine iff_of_true ?_ ⟨rfl, named⟩
        obtain ⟨evidence, failed, own, code⟩ :=
          DurableQueue.fail_legacy (q := queue) w r₂ (id_of_legacy asked published) named
        refine ⟨(r₂.xaddFailure evidence).xack id, evidence, ?_, rfl, own, code, ?_⟩
        · rw [run_executeBounded published raised caught, run_bind, legacy, failed]
          rfl
        · rw [asked]
          exact nofun
      · refine iff_of_false ?_ fun ⟨_, h⟩ => named h
        obtain ⟨refusal, refused⟩ := DurableQueue.fail_unchecked (q := queue) (w := w) (r := r₂)
          fun checked => named ((DurableQueue.check_legacyReport (id_of_legacy asked published)).mp checked)
        rw [← legacy] at refused
        exact not_raisesAgain published raised caught refused

end ScanQueueManager

/-! ### Two calls -/

namespace QueueSample

/-- A legacy call. -/
def legacyCall : BoundedCall where
  scanId := "scan-1"

/-- The authoritative call of the plain execution. -/
def boundedCall : BoundedCall where
  scanId := "scan-1"
  organizationId := some "org-1"
  authorizationRequestId := some "request-1"
  queueBinding := some plain.binding

/-- A task that fails. -/
def failingTask : Asking Unit := .raise (runtimeError "scan failed")

theorem legacyCall_published :
    (plain.queue.enqueue legacyCall.request).run (Redis.answer world) Redis.empty =
      (.ok "1700000000000-0", (Redis.empty.xadd world.newId world.newId_ok
        (DurableQueue.legacyFields legacyCall.request world.now)).2) := by
  have checked : DurableQueue.EnqueueRequest.check plain.queue legacyCall.request = .ok none :=
    DurableQueue.check_legacy.mpr ⟨by decide, rfl, rfl, rfl⟩
  exact DurableQueue.run_enqueue_legacy checked

/-- The failure of the legacy call is recorded, and its exception raised again. -/
theorem legacyCall_raisesAgain :
    ScanQueueManager.RaisesAgain plain.queue legacyCall failingTask world Redis.empty
      (Redis.empty.xadd world.newId world.newId_ok
        (DurableQueue.legacyFields legacyCall.request world.now)).2 "1700000000000-0"
      (runtimeError "scan failed") :=
  (ScanQueueManager.execute_bounded_transparent legacyCall_published rfl rfl).mpr
    ⟨rfl, by decide⟩

/-- The authoritative call is published; its task raises, and what is raised again after a recorded
failure is not that. -/
theorem boundedCall_masked :
    (plain.queue.enqueue boundedCall.request).run (Redis.answer world) Redis.empty =
        (.ok "1700000000000-0", plain.published) ∧
      failingTask.run (Redis.answer world) plain.published =
        (.error (runtimeError "scan failed"), plain.published) ∧
      ¬ ScanQueueManager.RaisesAgain plain.queue boundedCall failingTask world Redis.empty
        plain.published "1700000000000-0" (runtimeError "scan failed") := by
  have published : (plain.queue.enqueue boundedCall.request).run (Redis.answer world) Redis.empty =
      (.ok "1700000000000-0", plain.published) := plain.intent_published
  have authoritative : (DurableQueue.nonEmpty boundedCall.authorizationRequestId).isSome = true := by
    decide
  obtain ⟨refusal, refused⟩ := ScanQueueManager.fail_authoritative plain.queue authoritative
    world plain.published "1700000000000-0" "RuntimeError"
  exact ⟨published, rfl, ScanQueueManager.not_raisesAgain published rfl rfl refused⟩

end QueueSample

end CyberAssess
