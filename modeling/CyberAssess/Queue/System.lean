import CyberAssess.Queue.Operator

/-!
# Queue — the parties at the server

API processes that publish, workers that consume and operators that acknowledge, each with its call in
progress, at one server. Their commands interleave in any order; a worker may die at any point, and a
key with a lifetime may expire.

* `QueueCall` are the calls, `queueRules` the rules of the pool, `QueuePool.Start` where it starts.
* `Noted` is what a party has been told in its call: the key of a quarantine that was absent after it
  had claimed a message, and the texts it has read.
* `Intent` is a call of `enqueue` that passes its checks, `Intent.script` that call at the script.
* `Demands` is what every command of a party is, given what it has noted; `QueueCall.meets` proves it
  of every call.

`[about ours]`: every command is one step, whatever the server answers; the outside may be different
at each. All parties share the hash of one host; settings and handlers are their own.
-/

namespace CyberAssess

open Python
open Interaction (Program Pool Rules Event Party)
open Interaction.Program (ofExcept meets_bind meets_attempt meets_ofExcept)
open Checked (ensure refuse require bind_ok exists_unit ensure_ok refuse_ok require_ok)

/-- What a call returns. -/
inductive QueueResult where
  | message (id : String)
  | answer (b : Bool)

/-- A call in progress. -/
abbrev QueueProgram := Program Command Reply PyException QueueResult

/-- The calls of the parties. -/
inductive QueueCall (host : QueueHost) : QueueProgram → Prop where
  | enqueue (q : DurableQueue) (own : q.host = host) (req : DurableQueue.EnqueueRequest) :
      QueueCall host ((q.enqueue req).bind fun id => .ret (.message id))
  | consume (q : DurableQueue) (own : q.host = host) (signature : HandlerSignature) :
      QueueCall host ((q.consumeOnce signature).bind fun b => .ret (.answer b))
  | acknowledge (q : DurableQueue) (own : q.host = host) (messageId : String)
      (operator : QuarantineOperator) (authorizationRequestId : Option String) :
      QueueCall host ((q.acknowledgeQuarantined messageId operator authorizationRequestId).bind
        fun b => .ret (.answer b))

/-- What a party has noted in its call. -/
structure Noted where
  claimed : Bool
  passed : Option String
  told : List (String × String)

/-- Nothing yet. -/
def Noted.blank : Noted := ⟨false, none, []⟩

/-- What a reply adds. The first key that is absent after a claim is the one of the quarantine; with a
quarantine of its own a party gives up what it passed. -/
def Noted.add (g : Noted) : (c : Command) → Reply c → Noted
  | .xautoclaim _, _ => { g with claimed := true }
  | .get key, none => if g.claimed then { g with passed := g.passed.or (some key) } else g
  | .get key, some text => { g with told := (key, text) :: g.told }
  | .execute _, _ => { g with passed := none }
  | _, _ => g

/-- A key with a lifetime expires, unless it is one that lasts. -/
def Expires (lasting : String → Prop) (r r' : Redis) : Prop :=
  ∃ key stored, r.store key = some stored ∧ stored.ttl ≠ none ∧ ¬ lasting key ∧ r' = r.del key

/-- The parties at one server. -/
abbrev QueuePool (ι : Type) := Pool ι Command Reply PyException QueueResult Noted Redis

/-- What may happen. -/
def queueRules (ι : Type) (host : QueueHost) (lasting : String → Prop) :
    Rules ι Command Reply PyException QueueResult Noted Redis where
  calls _ p := QueueCall host p
  answers r c reply r' := ∃ w : World, r.answer w c = (reply, r')
  drifts := Expires lasting
  blank := Noted.blank
  notes := Noted.add

/-- A server nobody has written to, and every party about to begin a call. -/
structure QueuePool.Start {ι : Type} (host : QueueHost) (s : QueuePool ι) : Prop where
  shared : s.shared = Redis.empty
  party : ∀ i, QueueCall host (s.party i).program ∧ (s.party i).noted = Noted.blank

/-! ### Intents -/

/-- A call of `enqueue` that passes its checks, with the request and the binding it comes to. -/
structure Intent (host : QueueHost) where
  q : DurableQueue
  req : DurableQueue.EnqueueRequest
  request : String
  binding : QueueDispatchBinding
  own : q.host = host
  checked : DurableQueue.EnqueueRequest.check q req = .ok (some (request, binding))

namespace Intent

variable {host : QueueHost} (p : Intent host)

/-- Its tenant. -/
def organizationId : String := p.req.organizationId.getD ""

/-- Its deduplication key. -/
def key : String := p.q.dedupeKey p.organizationId p.request

/-- What the script is called with. -/
def arguments (now envelope : String) : EnqueueArguments :=
  p.q.enqueueArguments p.req now envelope p.request p.binding

/-- The call at the script. -/
def script (now envelope : String) : QueueProgram :=
  .ask (.evalEnqueue p.key (p.arguments now envelope)) fun
    | none => .raise responseError
    | some messageId =>
        if Redis.identityConflictPrefix.isPrefixOf messageId then
          .raise (DurableQueue.identityConflict messageId)
        else .ret (.message messageId)

/-- Two intents agree in all the script compares, tenant and request apart. -/
structure Same (p p' : Intent host) : Prop where
  scanId : p.req.scanId = p'.req.scanId
  digest : p.binding.queueBindingDigest = p'.binding.queueBindingDigest
  manifestHash : p.binding.manifestHash = p'.binding.manifestHash
  executionIds : identityJson p.binding.executionIds = identityJson p'.binding.executionIds
  operationIds : identityJson p.binding.operationIds = identityJson p'.binding.operationIds
  schemaVersion : p.binding.schemaVersion = p'.binding.schemaVersion

end Intent

/-! ### What the parties ask -/

/-- What every command of a party is. A handler is entered and a message acknowledged or quarantined
only past the gate of its quarantine; a quarantine is closed for an operator who has read one of the
operator's tenant and of the request. -/
def Demands (q : DurableQueue) (g : Noted) : Command → Prop
  | .evalEnqueue key a => ∃ (p : Intent q.host) (now envelope : String),
      key = p.key ∧ a = p.arguments now envelope
  | .xadd fields => fields.lookup "authorization_request_id" = none
  | .enterHandler messageId _ | .xack messageId =>
      g.passed = some (q.quarantineStateKey messageId)
  | .execute pipeline => ∃ messageId text ttl event,
      pipeline = [.set (q.quarantineStateKey messageId) text none,
        .set (q.quarantineKey messageId) text (some ttl), .xaddFailure event] ∧
      g.passed = some (q.quarantineStateKey messageId)
  | .evalAcknowledge stateKey markerKey _ messageId event =>
      stateKey = q.quarantineStateKey messageId ∧ markerKey = q.quarantineKey messageId ∧
      ∃ (q' : DurableQueue) (operator : QuarantineOperator) (request now key text : String)
        (members : StateMembers) (evidence : Fields),
        (key = stateKey ∨ key = markerKey) ∧ (key, text) ∈ g.told ∧
        readQuarantineState q.host messageId text = some (members, evidence) ∧
        stateIs members "organization_id" operator.organizationId = true ∧
        stateIs members "authorization_request_id" request = true ∧
        event = q'.recoveryEvent members operator messageId request now
  | _ => True

/-- What a worker asks. -/
def Working (q : DurableQueue) (g : Noted) : Command → Prop
  | .evalEnqueue .. | .xadd _ | .evalAcknowledge .. => False
  | c => Demands q g c

/-- What an operator asks, for a message and with a request. -/
def Closing (q : DurableQueue) (messageId : String) (operator : QuarantineOperator)
    (requested : Option String) (g : Noted) : Command → Prop
  | .get _ | .now => True
  | .evalAcknowledge stateKey markerKey _ closed event =>
      closed = messageId ∧ stateKey = q.quarantineStateKey closed ∧
      markerKey = q.quarantineKey closed ∧
      ∃ (request now key text : String) (members : StateMembers) (evidence : Fields),
        requested = some request ∧ (key = stateKey ∨ key = markerKey) ∧ (key, text) ∈ g.told ∧
        readQuarantineState q.host closed text = some (members, evidence) ∧
        stateIs members "organization_id" operator.organizationId = true ∧
        stateIs members "authorization_request_id" (strip request) = true ∧
        event = q.recoveryEvent members operator closed (strip request) now
  | _ => False

namespace DurableQueue

variable {q q' : DurableQueue} {g : Noted} {messageId : String}

theorem quarantineStateKey_eq (own : q'.host = q.host) :
    q'.quarantineStateKey messageId = q.quarantineStateKey messageId := by
  rw [quarantineStateKey, quarantineStateKey, own]

theorem quarantineKey_eq (own : q'.host = q.host) :
    q'.quarantineKey messageId = q.quarantineKey messageId := by
  rw [quarantineKey, quarantineKey, own]

theorem Working.demands {c : Command} (h : Working q g c) : Demands q g c := by
  cases c with
  | evalEnqueue key a => exact h.elim
  | xadd fields => exact h.elim
  | evalAcknowledge stateKey markerKey raw m event => exact h.elim
  | _ => exact h

theorem Closing.demands {operator : QuarantineOperator} {requested : Option String} {c : Command}
    (own : q'.host = q.host) (h : Closing q' messageId operator requested g c) : Demands q g c := by
  cases c with
  | get key => exact trivial
  | now => exact trivial
  | evalAcknowledge stateKey markerKey raw m event =>
      obtain ⟨rfl, rfl, rfl, request, now, key, text, members, evidence, -, place, told, stored, org,
        asked, sent⟩ := h
      refine ⟨quarantineStateKey_eq own, quarantineKey_eq own, q', operator, strip request, now, key,
        text, members, evidence, place, told, ?_, org, asked, sent⟩
      rwa [own] at stored
  | _ => exact h.elim

/-- A report that is quarantined is not acknowledged. -/
theorem FailureReport.pending_of_check {report : FailureReport}
    (checked : FailureReport.check q messageId report = .ok ())
    (kind : report.messageKind ≠ some legacyKind) : report.acknowledge = false := by
  simp only [FailureReport.check, bind_ok, exists_unit, ensure_ok] at checked
  obtain ⟨-, -, -, -, -, -, checked⟩ := checked
  rw [FailureReport.checkKind] at checked
  by_cases authoritative : report.messageKind = some authoritativeKind
  · rw [if_pos authoritative] at checked
    simp only [bind_ok, exists_unit, refuse_ok] at checked
    exact checked.1
  · rw [if_neg authoritative, if_neg kind] at checked
    simp only [ensure_ok, Bool.and_eq_true, Bool.not_eq_true'] at checked
    exact checked.2

/-- A quarantine without an acknowledgement is stored past the gate. -/
theorem quarantine_meets (own : q'.host = q.host)
    (passed : g.passed = some (q.quarantineStateKey messageId)) (reason : String)
    (identity : QuarantineIdentity) (failureFields : Fields) :
    (q'.quarantine messageId reason identity failureFields false).Meets Noted.add (Working q)
      (fun _ _ => True) g := by
  rw [quarantine, Program.bind_eq, meets_bind, meets_ofExcept]
  cases canonicalFailureEvidence q'.host messageId failureFields true with
  | error e => exact trivial
  | ok evidence =>
      refine ⟨trivial, fun now => ?_⟩
      simp only [Program.ret_bind, Program.bind_eq, meets_bind, meets_ofExcept]
      cases quarantineState q'.host now messageId reason evidence identity with
      | error e => exact trivial
      | ok serialized =>
          refine ⟨⟨messageId, serialized, q'.settings.quarantineTtlSeconds, evidence, ?_, passed⟩,
            fun _ => trivial⟩
          rw [quarantineStateKey_eq own, quarantineKey_eq own]
          rfl

/-- A failure is recorded past the gate. -/
theorem fail_meets (own : q'.host = q.host)
    (passed : g.passed = some (q.quarantineStateKey messageId)) (report : FailureReport) :
    (q'.fail messageId report).Meets Noted.add (Working q) (fun _ _ => True) g := by
  rw [fail, Program.bind_eq, meets_bind, meets_ofExcept]
  cases checked : FailureReport.check q' messageId report with
  | error e => exact trivial
  | ok u =>
      refine ⟨trivial, fun now => ?_⟩
      simp only [Program.ret_bind, Program.bind_eq]
      by_cases quarantines : (decide (report.messageKind ≠ some legacyKind) && report.quarantined) = true
      · rw [if_pos quarantines]
        have kind : report.messageKind ≠ some legacyKind := by
          simpa using (Bool.and_eq_true_iff.mp quarantines).1
        rw [FailureReport.pending_of_check checked kind]
        exact quarantine_meets own passed _ _ _
      · rw [if_neg quarantines, meets_bind, meets_ofExcept]
        cases canonicalFailureEvidence q'.host messageId (report.fields messageId now) false with
        | error e => exact trivial
        | ok evidence =>
            refine ⟨trivial, fun _ => ?_⟩
            cases report.acknowledge with
            | true => exact ⟨passed, fun _ => trivial⟩
            | false => exact trivial

/-- What follows a failure that is recorded past the gate. -/
theorem fail_then_meets (own : q'.host = q.host)
    (passed : g.passed = some (q.quarantineStateKey messageId)) (report : FailureReport) :
    ((q'.fail messageId report).bind fun _ => Program.ret true).Meets Noted.add (Working q)
      (fun _ _ => True) g := by
  rw [meets_bind]
  refine (fail_meets own passed report).mono (fun _ _ h => h) fun _ x _ => ?_
  cases x <;> exact trivial

/-- The delivery count is read without writing. -/
theorem deliveryAttempts_meets (Q : Noted → Except PyException Nat → Prop) (after : ∀ x, Q g x) :
    (deliveryAttempts messageId).Meets Noted.add (Working q) Q g := by
  refine ⟨trivial, fun count => ?_⟩
  cases count with
  | none => exact after _
  | some n =>
      simp only [Program.ret_bind]
      split
      · exact after _
      · exact after _

/-- The handler is entered past the gate. -/
theorem handle_meets (passed : g.passed = some (q.quarantineStateKey messageId))
    (signature : HandlerSignature) (fields : Fields) (wire : WireMessage)
    (binding : Option QueueDispatchBinding) {Q : Noted → Except PyException Unit → Prop}
    (after : ∀ x, Q g x) :
    (q'.handle signature messageId fields wire binding).Meets Noted.add (Working q) Q g := by
  rw [handle, Program.bind_eq, meets_bind, meets_ofExcept]
  cases q'.openEnvelope fields wire with
  | error e => exact after _
  | ok envelope =>
      simp only [Program.bind_eq, meets_bind, meets_ofExcept]
      cases handlerCall signature wire envelope binding with
      | error e => exact after _
      | ok call => exact ⟨passed, fun _ => ⟨trivial, fun outcome => after outcome⟩⟩

/-- The handler is entered, and its outcome recorded, past the gate. -/
theorem settle_meets (own : q'.host = q.host)
    (passed : g.passed = some (q.quarantineStateKey messageId)) (signature : HandlerSignature)
    (fields : Fields) (wire : WireMessage) (authoritative : Option (QueueDispatchBinding × Nat)) :
    (q'.settle signature messageId fields wire authoritative).Meets Noted.add (Working q)
      (fun _ _ => True) g := by
  rw [settle, Program.bind_eq, meets_bind, meets_attempt]
  refine handle_meets passed signature fields wire _ fun x => ?_
  cases x with
  | ok u => exact ⟨passed, fun _ => trivial⟩
  | error e =>
      simp only
      split
      · exact trivial
      · cases authoritative with
        | some pair => exact fail_then_meets own passed _
        | none => exact fail_then_meets own passed _

theorem dispatch_meets (own : q'.host = q.host)
    (passed : g.passed = some (q.quarantineStateKey messageId)) (signature : HandlerSignature)
    (fields : Fields) (wire : WireMessage) (binding : QueueDispatchBinding) :
    (q'.dispatch signature messageId fields wire binding).Meets Noted.add (Working q)
      (fun _ _ => True) g := by
  rw [dispatch, Program.bind_eq, meets_bind, meets_attempt]
  refine deliveryAttempts_meets _ fun x => ?_
  cases x with
  | error e => exact fail_then_meets own passed _
  | ok attempts =>
      simp only
      split
      · exact fail_then_meets own passed _
      · exact settle_meets own passed signature fields wire _

theorem quarantineInvalidWireMessage_meets (own : q'.host = q.host)
    (passed : g.passed = some (q.quarantineStateKey messageId)) (fields : Fields)
    (errorCode : String) :
    ((q'.quarantineInvalidWireMessage messageId fields errorCode).bind fun _ =>
      Program.ret true).Meets Noted.add (Working q) (fun _ _ => True) g := by
  rw [quarantineInvalidWireMessage, Program.bind_eq, meets_bind, meets_bind, meets_attempt]
  refine deliveryAttempts_meets _ fun x => ?_
  refine (fail_meets own passed _).mono (fun _ _ h => h) fun _ x _ => ?_
  cases x <;> exact trivial

/-- The gate: a message that is not quarantined is let past it. -/
theorem isQuarantined_meets (own : q'.host = q.host) (claimed : g.claimed = true)
    (fresh : g.passed = none) :
    (q'.isQuarantined messageId).Meets Noted.add (Working q)
      (fun g' x => ∃ b, x = .ok b ∧
        (b = false → g'.passed = some (q.quarantineStateKey messageId))) g := by
  refine ⟨trivial, fun state => ?_⟩
  cases state with
  | some text => exact ⟨true, rfl, fun h => absurd h (by decide)⟩
  | none =>
      refine ⟨trivial, fun marker => ?_⟩
      have passed : (g.add (.get (q'.quarantineStateKey messageId)) none).passed =
          some (q.quarantineStateKey messageId) := by
        simp [Noted.add, claimed, fresh, quarantineStateKey_eq own]
      refine ⟨_, rfl, fun _ => ?_⟩
      cases marker with
      | some text => exact passed
      | none => simp [Noted.add, claimed, fresh, quarantineStateKey_eq own]

/-- Whatever is done with a claimed message is done past the gate. -/
theorem consume_meets (own : q'.host = q.host) (claimed : g.claimed = true) (fresh : g.passed = none)
    (signature : HandlerSignature) (fields : Fields) :
    (q'.consume signature messageId fields).Meets Noted.add (Working q) (fun _ _ => True) g := by
  rw [consume, Program.bind_eq, meets_bind]
  refine (isQuarantined_meets own claimed fresh).mono (fun _ _ h => h) ?_
  rintro g' x ⟨quarantined, rfl, gate⟩
  cases quarantined with
  | true => exact trivial
  | false =>
      have passed := gate rfl
      simp only [if_neg Bool.false_ne_true]
      cases validateWireMessage q'.host fields with
      | error e => exact quarantineInvalidWireMessage_meets own passed fields _
      | ok wire =>
          simp only
          split
          · cases q'.readBinding fields wire with
            | error e => exact quarantineInvalidWireMessage_meets own passed fields _
            | ok binding => exact dispatch_meets own passed signature fields wire binding
          · exact settle_meets own passed signature fields wire none

theorem consumeOnce_meets (own : q'.host = q.host) (signature : HandlerSignature) :
    (q'.consumeOnce signature).Meets Noted.add (Working q) (fun _ _ => True) Noted.blank := by
  refine ⟨trivial, fun claimed => ?_⟩
  cases claimed with
  | nil =>
      refine ⟨trivial, fun messages => ?_⟩
      cases messages with
      | nil => exact trivial
      | cons m rest => exact consume_meets own rfl rfl signature m.2
  | cons m rest => exact consume_meets own rfl rfl signature m.2

/-- A quarantine that is found was read from one of the two keys. -/
theorem getQuarantineState_meets (operator : QuarantineOperator) (requested : Option String) :
    (q.getQuarantineState messageId).Meets Noted.add (Closing q messageId operator requested)
      (fun g' x => ∃ found, x = .ok found ∧ ∀ state, found = some state → ∃ key text,
        (key = q.quarantineStateKey messageId ∨ key = q.quarantineKey messageId) ∧
        (key, text) ∈ g'.told ∧ readQuarantineState q.host messageId text = some state) g := by
  refine ⟨trivial, fun stored => ?_⟩
  cases stored with
  | some text =>
      exact ⟨_, rfl, fun state read => ⟨_, text, Or.inl rfl, List.mem_cons_self, read⟩⟩
  | none =>
      refine ⟨trivial, fun marker => ⟨_, rfl, fun state read => ?_⟩⟩
      cases marker with
      | none => cases read
      | some text => exact ⟨_, text, Or.inr rfl, List.mem_cons_self, read⟩

/-- An operator closes what was read as the operator's own. -/
theorem acknowledge_meets (operator : QuarantineOperator) (requested : Option String) :
    (q.acknowledgeQuarantined messageId operator requested).Meets Noted.add
      (Closing q messageId operator requested) (fun _ _ => True) g := by
  rw [acknowledgeQuarantined, Program.bind_eq, meets_bind, meets_ofExcept]
  cases ensure (nonBlankUpTo 256 messageId)
      (valueError "quarantine acknowledgement identity is invalid") with
  | error e => exact trivial
  | ok u =>
      simp only
      split
      · exact trivial
      · rename_i request asked
        have asked : requested = some request := (Option.filter_eq_some_iff.mp asked).1
        split
        · exact trivial
        · refine ⟨trivial, fun raw => ?_⟩
          simp only [Program.ret_bind, Program.bind_eq, meets_bind]
          refine (getQuarantineState_meets operator requested).mono (fun _ _ h => h) ?_
          rintro g' x ⟨found, rfl, read⟩
          cases found with
          | none => cases raw <;> exact trivial
          | some state =>
              obtain ⟨members, evidence⟩ := state
              cases raw with
              | none =>
                  simp only [meets_bind, meets_ofExcept]
                  cases acknowledgeable members <;> exact trivial
              | some raw =>
                  simp only [meets_bind, meets_ofExcept]
                  cases acknowledgeable members with
                  | error e => exact trivial
                  | ok allowed =>
                      simp only
                      split
                      · rename_i matched
                        simp only [Bool.and_eq_true] at matched
                        obtain ⟨key, text, place, told, stored⟩ := read _ rfl
                        refine ⟨trivial, fun now => ⟨⟨rfl, rfl, rfl, request, now, key, text, members,
                          evidence, asked, place, told, stored, matched.1.1, matched.1.2, rfl⟩,
                          fun reply => ?_⟩⟩
                        simp only [Program.ret_bind]
                        cases ensure (reply ≤ 1) (runtimeError
                          "quarantine acknowledgement transaction returned an invalid result") <;>
                          exact trivial
                      · exact trivial

end DurableQueue

/-- The call of an intent comes to the script. -/
theorem Intent.enqueue_eq {host : QueueHost} (p : Intent host) :
    ((p.q.enqueue p.req).bind fun id => .ret (.message id) : QueueProgram) =
      .ask .now fun now => (DurableQueue.encrypted p.req).bind fun envelope =>
        p.script now envelope := by
  rw [DurableQueue.enqueue, p.checked]
  simp only [Program.bind_eq, Program.ofExcept_ok, Program.ret_bind, Program.command_bind,
    Program.ask_bind, Program.bind_assoc]
  refine congrArg _ (funext fun now => congrArg _ (funext fun envelope => ?_))
  refine congrArg (Program.ask _) (funext fun reply => ?_)
  cases reply with
  | none => rfl
  | some messageId =>
      simp only [Program.pure_eq]
      split <;> rfl

/-- Every command of every call is as demanded. -/
theorem QueueCall.meets {q : DurableQueue} {p : QueueProgram} (h : QueueCall q.host p) :
    p.Meets Noted.add (Demands q) (fun _ _ => True) Noted.blank := by
  have after {α : Type} {x : Asking α} {f : α → QueueResult} {g : Noted}
      (meets : x.Meets Noted.add (Demands q) (fun _ _ => True) g) :
      (x.bind fun a => .ret (f a) : QueueProgram).Meets Noted.add (Demands q) (fun _ _ => True) g := by
    rw [meets_bind]
    refine meets.mono (fun _ _ h => h) fun _ y _ => ?_
    cases y <;> exact trivial
  cases h with
  | consume q' own signature =>
      exact after ((DurableQueue.consumeOnce_meets own signature).mono
        (fun _ _ works => DurableQueue.Working.demands works) fun _ _ h => h)
  | acknowledge q' own messageId operator requested =>
      exact after ((DurableQueue.acknowledge_meets operator requested).mono
        (fun _ _ closes => DurableQueue.Closing.demands own closes) fun _ _ h => h)
  | enqueue q' own req =>
      cases checked : DurableQueue.EnqueueRequest.check q' req with
      | error e =>
          rw [DurableQueue.enqueue, checked]
          exact trivial
      | ok accepted =>
          cases accepted with
          | none =>
              rw [DurableQueue.enqueue, checked]
              refine ⟨trivial, fun now => ⟨rfl, fun reply => ?_⟩⟩
              cases reply <;> exact trivial
          | some pair =>
              let p : Intent q.host := ⟨q', req, pair.1, pair.2, own, checked⟩
              have script (g : Noted) (now envelope : String) :
                  (p.script now envelope).Meets Noted.add (Demands q) (fun _ _ => True) g := by
                refine ⟨⟨p, now, envelope, rfl, rfl⟩, fun reply => ?_⟩
                cases reply with
                | none => exact trivial
                | some messageId =>
                    simp only
                    split <;> exact trivial
              have opened : ((q'.enqueue req).bind fun id => .ret (.message id) : QueueProgram) = _ :=
                p.enqueue_eq
              rw [opened]
              refine ⟨trivial, fun now => ?_⟩
              rw [meets_bind, DurableQueue.encrypted]
              cases req.credentialEnvelope with
              | none => exact script _ now ""
              | some given => exact ⟨trivial, fun envelope => script _ now envelope⟩

end CyberAssess
