import CyberAssess.Guarantees.WireAgreement

/-!
# Guarantees — the delivery bound of a poisoned message

A message that kills its workers is delivered again and again. Past the bound `consume_once` means
to quarantine it before the handler is entered; the evidence it writes for that counts more attempts
than its bound allows, and is refused.

* `run_isQuarantined` and `run_getQuarantineState`: what the two reads of a quarantine return.
* `fail_exceeded`: past the bound, `fail` raises and the server is as it was.
* `consume_exceeded`: so does `consume_once`, on every message that is not quarantined yet.
* `poison_bound`: past the bound a message is held back exactly where an earlier delivery had left
  a quarantine that reads.
-/

namespace CyberAssess

open Python
open Interaction (Program)
open Interaction.Program (ofExcept run_bind asked_bind)
open Checked (ensure refuse require bind_ok exists_unit ensure_ok refuse_ok require_ok)

namespace DurableQueue

variable (q : DurableQueue)

/-! ### Reading the quarantine -/

/-- The message is quarantined, as `_is_quarantined` sees it. -/
def gated (r : Redis) (messageId : String) : Bool :=
  (r.store (q.quarantineStateKey messageId)).isSome ||
    (r.store (q.quarantineKey messageId)).any fun s => !s.text.isEmpty

/-- The quarantine that is stored for a message, where it reads. -/
def storedQuarantine (r : Redis) (messageId : String) : Option (StateMembers × Fields) :=
  ((r.store (q.quarantineStateKey messageId)).or (r.store (q.quarantineKey messageId))).bind
    fun s => readQuarantineState q.host messageId s.text

variable {q} {w : World} {r : Redis} {messageId : String}

theorem run_isQuarantined :
    (q.isQuarantined messageId).run (Redis.answer w) r = (.ok (q.gated r messageId), r) := by
  simp only [isQuarantined, Program.bind_eq, Program.command_bind, Program.run_ask,
    Redis.answer, gated]
  cases r.store (q.quarantineStateKey messageId) with
  | some s => rfl
  | none =>
      simp only [Option.map_none, Program.run_ask, Redis.answer]
      cases r.store (q.quarantineKey messageId) <;> rfl

theorem run_getQuarantineState :
    (q.getQuarantineState messageId).run (Redis.answer w) r =
      (.ok (q.storedQuarantine r messageId), r) := by
  simp only [getQuarantineState, Program.bind_eq, Program.command_bind, Program.run_ask,
    Redis.answer, storedQuarantine]
  cases r.store (q.quarantineStateKey messageId) with
  | some s => rfl
  | none =>
      simp only [Option.map_none, Program.run_ask, Redis.answer]
      cases r.store (q.quarantineKey messageId) <;> rfl

/-- A quarantine that reads is seen. -/
theorem gated_of_stored (h : (q.storedQuarantine r messageId).isSome) :
    q.gated r messageId = true := by
  obtain ⟨state, stored⟩ := Option.isSome_iff_exists.mp h
  obtain ⟨s, found, read⟩ := Option.bind_eq_some_iff.mp stored
  rw [gated, Bool.or_eq_true]
  cases key : r.store (q.quarantineStateKey messageId) with
  | some _ => exact Or.inl rfl
  | none =>
      rw [key, Option.none_or] at found
      refine Or.inr ?_
      rw [found, Option.any_some]
      by_cases empty : s.text = ""
      · rw [empty] at read
        cases read
      · simpa using empty

theorem run_deliveryAttempts {n : Nat} (counted : r.timesDelivered messageId = some n)
    (positive : 1 ≤ n) :
    (deliveryAttempts messageId).run (Redis.answer w) r = (.ok n, r) := by
  have no : ¬ n < 1 := by omega
  simp only [deliveryAttempts, Program.bind_eq, Program.command_bind, Program.run_ask,
    Redis.answer, counted, if_neg no]
  rfl

/-! ### Past the bound -/

/-- The rows of a report's evidence are told apart by their names. -/
theorem FailureReport.rows_distinct (report : FailureReport) (messageId now : String) :
    ((report.rows messageId now).map (·.1)).Nodup := by
  have names : (report.rows messageId now).map (·.1) =
      ["message_id", "dispatch_message_id", "error_code", "failure_category",
        "failure_observed_at", "requeue_required", "escalated", "quarantined", "message_kind",
        "scan_id", "organization_id", "authorization_request_id", "queue_binding_digest",
        "manifest_hash", "execution_ids_json", "operation_ids_json",
        "queue_binding_schema_version", "attempt_count", "max_attempts"] := rfl
  rw [names]
  decide

/-- Evidence that counts more attempts than its bound is refused. -/
theorem canonical_exceeded {report : FailureReport} {now : String} {attempts bound : Nat}
    (counted : report.attemptCount = some attempts) (bounded : report.maxAttempts = some bound)
    (beyond : bound < attempts) (q : DurableQueue) (messageId : String)
    (requireQuarantined : Bool) :
    ∃ e, canonicalFailureEvidence q.host messageId (report.fields messageId now)
      requireQuarantined = .error e := by
  have count : (report.fields messageId now).lookup "attempt_count" = some (toString attempts) := by
    rw [FailureReport.fields, lookup_present (report.rows_distinct messageId now)]
    simp [FailureReport.rows, List.lookup, counted]
  have limit : (report.fields messageId now).lookup "max_attempts" = some (toString bound) := by
    rw [FailureReport.fields, lookup_present (report.rows_distinct messageId now)]
    simp [FailureReport.rows, List.lookup, bounded]
  cases outcome : canonicalFailureEvidence q.host messageId (report.fields messageId now)
      requireQuarantined with
  | error e => exact ⟨e, rfl⟩
  | ok evidence =>
      have within := (canonical_ok.mp outcome).1.within _ _ count limit
      rw [digitsToNat_toString, digitsToNat_toString] at within
      omega

/-- Past the bound `fail` raises, and has written nothing. -/
theorem fail_exceeded {report : FailureReport} {attempts bound : Nat}
    (counted : report.attemptCount = some attempts) (bounded : report.maxAttempts = some bound)
    (beyond : bound < attempts) :
    ∃ e, (q.fail messageId report).run (Redis.answer w) r = (.error e, r) := by
  obtain ⟨e₁, strict⟩ : ∃ e, canonicalFailureEvidence q.host messageId
      (report.fields messageId w.now) true = .error e :=
    canonical_exceeded counted bounded beyond q messageId true
  obtain ⟨e₂, loose⟩ : ∃ e, canonicalFailureEvidence q.host messageId
      (report.fields messageId w.now) false = .error e :=
    canonical_exceeded counted bounded beyond q messageId false
  cases checked : FailureReport.check q messageId report with
  | error e => exact ⟨e, by simp [fail, checked]⟩
  | ok u =>
      simp only [fail, checked, Program.bind_eq, Program.ofExcept_ok, Program.ret_bind,
        Program.command_bind, Program.run_ask, Redis.answer]
      by_cases quarantines : report.messageKind ≠ some legacyKind && report.quarantined
      · rw [if_pos quarantines]
        exact ⟨e₁, by simp [quarantine, strict]⟩
      · rw [if_neg quarantines]
        exact ⟨e₂, by simp [loose]⟩

variable {signature : HandlerSignature} {fields : Fields} {wire : WireMessage}

/-- A message that is quarantined is left alone. -/
theorem run_consume_gated (closed : q.gated r messageId = true) (signature : HandlerSignature)
    (fields : Fields) :
    (q.consume signature messageId fields).run (Redis.answer w) r = (.ok true, r) := by
  rw [consume, Program.bind_eq, run_bind, run_isQuarantined, closed]
  rfl

/-- An accepted authoritative message that is not quarantined comes to the delivery count with the
binding it carries. -/
theorem consume_authoritative (fresh : q.gated r messageId = false)
    (accepted : validateWireMessage q.host fields = .ok wire)
    (kind : wire.messageKind = authoritativeKind) (signature : HandlerSignature) :
    ∃ b, QueueDispatchBinding.fromPayload q.host fields = .ok b ∧
      (q.consume signature messageId fields).run (Redis.answer w) r =
        (q.dispatch signature messageId fields wire b).run (Redis.answer w) r ∧
      (q.consume signature messageId fields).asked (Redis.answer w) r =
        .get (q.quarantineStateKey messageId) :: .get (q.quarantineKey messageId) ::
          (q.dispatch signature messageId fields wire b).asked (Redis.answer w) r := by
  obtain ⟨-, b, read, -, -, safeRequest, rfl⟩ := validate_authoritative.mp ⟨accepted, kind⟩
  have solid : (nonEmpty (some b.authorizationRequestId)).isSome = true := by
    rw [nonEmpty_of_safe safeRequest, Option.isSome_some]
  have own : q.readBinding fields ⟨authoritativeKind, b.scanId, some b.organizationId,
      some b.authorizationRequestId⟩ = .ok b := by
    simp [readBinding, read, refuse, bind, Except.bind, pure, Except.pure]
  have gate : (q.isQuarantined messageId).asked (Redis.answer w) r =
      [.get (q.quarantineStateKey messageId), .get (q.quarantineKey messageId)] := by
    have absent : r.store (q.quarantineStateKey messageId) = none := by
      simpa using (Bool.or_eq_false_iff.mp fresh).1
    simp [isQuarantined, Redis.answer, absent]
  refine ⟨b, read, ?_, ?_⟩
  · rw [consume, Program.bind_eq, run_bind, run_isQuarantined, fresh]
    simp [accepted, solid, own]
  · rw [consume, Program.bind_eq, asked_bind, run_isQuarantined, fresh, gate]
    simp [accepted, solid, own]

/-- Past the bound `consume_once` raises on a message that is not quarantined yet, and has written
nothing. -/
theorem consume_exceeded {n : Nat} (fresh : q.gated r messageId = false)
    (accepted : validateWireMessage q.host fields = .ok wire)
    (kind : wire.messageKind = authoritativeKind)
    (counted : r.timesDelivered messageId = some n)
    (beyond : q.settings.maxDeliveryAttempts < n) (signature : HandlerSignature) :
    ∃ e, (q.consume signature messageId fields).run (Redis.answer w) r = (.error e, r) := by
  obtain ⟨b, -, run, -⟩ := consume_authoritative (w := w) fresh accepted kind signature
  have counts := run_deliveryAttempts (w := w) counted (by omega)
  obtain ⟨e, failed⟩ : ∃ e, (q.fail messageId (authoritativeReport q wire authoritativeKind b
      "QUEUE_DELIVERY_ATTEMPTS_EXCEEDED" n true)).run (Redis.answer w) r = (.error e, r) :=
    fail_exceeded rfl rfl beyond
  refine ⟨e, ?_⟩
  rw [run, dispatch, Program.bind_eq, run_bind, Program.run_attempt, counts]
  simp only [if_pos beyond, Program.bind_eq, run_bind, failed]

/-! ### The bound -/

/-- What `consume_once` promises of a message past its bound: it returns, the handler is not entered,
a quarantine that reads is stored, and the message stays pending. -/
structure HeldBack (q : DurableQueue) (w : World) (r : Redis) (signature : HandlerSignature)
    (messageId : String) : Prop where
  returns : ((q.consumeOnce signature).run (Redis.answer w) r).1 = .ok true
  notEntered : ∀ c ∈ (q.consumeOnce signature).asked (Redis.answer w) r,
    ∀ id call, c ≠ .enterHandler id call
  quarantined :
    (q.storedQuarantine ((q.consumeOnce signature).run (Redis.answer w) r).2 messageId).isSome
  pending : ((q.consumeOnce signature).run (Redis.answer w) r).2.isPending messageId = true

/-- Claiming asks for a pending message, and where there is none for the next of the stream. -/
theorem claim_cases :
    (q.claim.run (Redis.answer w) r = (.ok (r.xautoclaim w.idle q.consumerName).1,
        (r.xautoclaim w.idle q.consumerName).2) ∧
      q.claim.asked (Redis.answer w) r = [.xautoclaim q.consumerName]) ∨
    (q.claim.run (Redis.answer w) r =
        (.ok ((r.xautoclaim w.idle q.consumerName).2.xreadgroup q.consumerName).1,
          ((r.xautoclaim w.idle q.consumerName).2.xreadgroup q.consumerName).2) ∧
      q.claim.asked (Redis.answer w) r =
        [.xautoclaim q.consumerName, .xreadgroup q.consumerName]) := by
  have opened : q.claim = Program.ask (.xautoclaim q.consumerName) fun claimed =>
      if List.isEmpty claimed then Client.xreadgroup q.consumerName else .ret claimed := rfl
  rw [opened, Program.run_ask, Program.asked_ask]
  by_cases none : List.isEmpty (Redis.answer w r (.xautoclaim q.consumerName)).1 = true
  · rw [if_pos none]
    exact Or.inr ⟨rfl, rfl⟩
  · rw [if_neg none]
    exact Or.inl ⟨rfl, rfl⟩

/-- Claiming a message leaves the keys as they are. -/
theorem claim_store {x : Except PyException (List (String × Fields))} {r₁ : Redis}
    (h : q.claim.run (Redis.answer w) r = (x, r₁)) : r₁.store = r.store := by
  have first : (r.xautoclaim w.idle q.consumerName).2.store = r.store := by
    rw [Redis.xautoclaim]
    cases r.pending.find? fun p => w.idle p.messageId <;> rfl
  have second (s : Redis) : (s.xreadgroup q.consumerName).2.store = s.store := by
    rw [Redis.xreadgroup]
    cases s.entries[s.delivered]? <;> rfl
  rcases claim_cases (q := q) (w := w) (r := r) with ⟨run, -⟩ | ⟨run, -⟩
  · rw [run] at h
    cases h
    exact first
  · rw [run] at h
    cases h
    exact (second _).trans first

/-- Claiming enters no handler. -/
theorem claim_asked :
    ∀ c ∈ q.claim.asked (Redis.answer w) r, ∀ id call, c ≠ .enterHandler id call := by
  intro c hc id call
  rcases claim_cases (q := q) (w := w) (r := r) with ⟨-, asked⟩ | ⟨-, asked⟩
  · rw [asked, List.mem_singleton] at hc
    cases hc
    exact nofun
  · rw [asked, List.mem_pair] at hc
    rcases hc with rfl | rfl
    · exact nofun
    · exact nofun

/-- Looking at the quarantine of a message that is left alone enters no handler. -/
theorem consume_gated_asked (closed : q.gated r messageId = true) :
    ∀ c ∈ (q.consume signature messageId fields).asked (Redis.answer w) r,
      ∀ id call, c ≠ .enterHandler id call := by
  rw [consume, Program.bind_eq, asked_bind, run_isQuarantined, closed]
  simp only [isQuarantined, Program.bind_eq, Program.command_bind, Program.asked_ask,
    Redis.answer, if_true, Program.pure_eq, Program.asked_ret, List.append_nil]
  intro c hc id call
  rcases List.mem_cons.mp hc with rfl | hc
  · rintro ⟨⟩
  · cases found : r.store (q.quarantineStateKey messageId) with
    | some s =>
        rw [found] at hc
        cases hc
    | none =>
        rw [found] at hc
        rcases List.mem_cons.mp hc with rfl | hc
        · rintro ⟨⟩
        · cases hc

/-- A counted message is pending. -/
theorem pending_of_counted {n : Nat} (counted : r.timesDelivered messageId = some n) :
    r.isPending messageId = true := by
  obtain ⟨p, found, -⟩ := Option.map_eq_some_iff.mp counted
  have named := List.find?_some found
  exact List.any_eq_true.mpr ⟨p, List.mem_of_find?_eq_some found, named⟩

/-- Past the bound a message is held back exactly where a quarantine that reads was stored for it
before. -/
theorem poison_bound {r₁ : Redis} {rest : List (String × Fields)} {n : Nat}
    (claimed : q.claim.run (Redis.answer w) r = (.ok ((messageId, fields) :: rest), r₁))
    (accepted : validateWireMessage q.host fields = .ok wire)
    (kind : wire.messageKind = authoritativeKind)
    (counted : r₁.timesDelivered messageId = some n)
    (beyond : q.settings.maxDeliveryAttempts < n) :
    HeldBack q w r signature messageId ↔ (q.storedQuarantine r messageId).isSome := by
  have store := claim_store claimed
  have same : q.storedQuarantine r₁ messageId = q.storedQuarantine r messageId := by
    simp only [storedQuarantine, store]
  have run : (q.consumeOnce signature).run (Redis.answer w) r =
      (q.consume signature messageId fields).run (Redis.answer w) r₁ := by
    rw [consumeOnce, Program.bind_eq, run_bind, claimed]
  have asked : (q.consumeOnce signature).asked (Redis.answer w) r =
      q.claim.asked (Redis.answer w) r ++
        (q.consume signature messageId fields).asked (Redis.answer w) r₁ := by
    rw [consumeOnce, Program.bind_eq, asked_bind, claimed]
  constructor
  · intro held
    by_cases closed : q.gated r₁ messageId = true
    · have left := held.quarantined
      rw [run, run_consume_gated closed signature fields, same] at left
      exact left
    · -- nothing holds the message back, and the evidence is refused
      obtain ⟨e, raised⟩ := consume_exceeded (w := w) (Bool.not_eq_true _ ▸ closed)
        accepted kind counted beyond signature
      have back := held.returns
      rw [run, raised] at back
      cases back
  · intro stored
    have closed : q.gated r₁ messageId = true := gated_of_stored (same ▸ stored)
    have ended := run_consume_gated (w := w) closed signature fields
    refine ⟨?_, ?_, ?_, ?_⟩
    · rw [run, ended]
    · rw [asked]
      exact List.forall_mem_append.mpr ⟨claim_asked, consume_gated_asked closed⟩
    · rw [run, ended, same]
      exact stored
    · rw [run, ended]
      exact pending_of_counted counted

end DurableQueue

namespace QueueSample

/-- The published intent after five deliveries whose workers died. -/
def poisoned : Redis :=
  { plain.published with
    delivered := 1
    pending := [⟨"1700000000000-0", "worker-0", 5⟩] }

/-- A handler that takes the binding. -/
def signature : HandlerSignature where
  variadic := false
  parameters := 5

/-- The sixth delivery. -/
theorem poisoned_claimed :
    plain.queue.claim.run (Redis.answer world) poisoned =
      (.ok [("1700000000000-0", plain.entry)], (poisoned.xautoclaim world.idle "worker-1").2) := rfl

/-- Nothing holds it back. -/
theorem poisoned_runs :
    ¬ DurableQueue.HeldBack plain.queue world poisoned signature "1700000000000-0" := by
  intro held
  have stored := (DurableQueue.poison_bound (n := 6) poisoned_claimed plain_accepted rfl
    rfl (by decide)).mp held
  cases stored

/-- The sixth delivery raises. -/
theorem poisoned_raises :
    ¬ ∀ (q : DurableQueue) (w : World) (r r₁ : Redis) (signature : HandlerSignature)
      (messageId : String) (fields : Fields) (rest : List (String × Fields)) (wire : WireMessage)
      (n : Nat), q.claim.run (Redis.answer w) r = (.ok ((messageId, fields) :: rest), r₁) →
        validateWireMessage q.host fields = .ok wire → wire.messageKind = authoritativeKind →
        r₁.timesDelivered messageId = some n → q.settings.maxDeliveryAttempts < n →
          DurableQueue.HeldBack q w r signature messageId := by
  intro all
  have held := all plain.queue world poisoned _ signature "1700000000000-0" plain.entry [] _ 6
    poisoned_claimed plain_accepted rfl rfl (by decide)
  have fresh : plain.queue.gated (poisoned.xautoclaim world.idle "worker-1").2
      "1700000000000-0" = false := rfl
  have counted : (poisoned.xautoclaim world.idle "worker-1").2.timesDelivered
      "1700000000000-0" = some 6 := rfl
  obtain ⟨e, raised⟩ := DurableQueue.consume_exceeded (w := world) fresh plain_accepted
    rfl counted (by decide) signature
  have back := held.returns
  rw [DurableQueue.consumeOnce, Program.bind_eq, run_bind, poisoned_claimed] at back
  simp only [raised] at back
  cases back

end QueueSample

end CyberAssess
