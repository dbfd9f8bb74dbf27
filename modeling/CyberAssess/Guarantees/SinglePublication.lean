import CyberAssess.Queue.System
import CyberAssess.Guarantees.FailureEvidence

/-!
# Guarantees — one publication for each request

Any number of API processes publish, workers consume and operators acknowledge at one server, in any
order. The key of a tenant's request names its entry.

* `OnePublication`: the invariant. An entry of the request is the only one, and the key names it.
* `OnePublication.answer`: every command of a party keeps it, `OnePublication.expires` every expiry.
* `published_once`: while the key lasts there is at most one entry, and a call that comes to the script
  again is told its id or raises the conflict.
-/

namespace CyberAssess

open Python
open Interaction (Program Pool Rules Party)
open Interaction.Program (ofExcept run_bind meets_bind meets_attempt)
open Transition (Run)
open Checked (ensure refuse require bind_ok exists_unit ensure_ok refuse_ok require_ok)

/-! ### The keys are apart -/

/-- Keys of two kinds differ within the names of their kinds. -/
theorem key_ne {a b : String} (k : Nat) (ha : k ≤ a.toList.length) (hb : k ≤ b.toList.length)
    (apart : a.toList.take k ≠ b.toList.take k) (x y : String) :
    streamName ++ a ++ x ≠ streamName ++ b ++ y := by
  intro same
  have chars := congrArg String.toList same
  simp only [String.toList_append, List.append_assoc] at chars
  have rest := congrArg (List.take k) (List.append_cancel_left chars)
  rw [List.take_append_of_le_length ha, List.take_append_of_le_length hb] at rest
  exact apart rest

namespace DurableQueue

variable {q : DurableQueue}

theorem quarantineStateKey_ne_dedupeKey (m o a : String) (q' : DurableQueue) :
    q.quarantineStateKey m ≠ q'.dedupeKey o a :=
  key_ne 2 (by decide) (by decide) (by decide) _ _

theorem quarantineKey_ne_dedupeKey (m o a : String) (q' : DurableQueue) :
    q.quarantineKey m ≠ q'.dedupeKey o a :=
  key_ne 2 (by decide) (by decide) (by decide) _ _

end DurableQueue

/-- An entry of a tenant's request. -/
def isFor (org request : String) (e : String × Fields) : Bool :=
  e.2.lookup "organization_id" = some org && e.2.lookup "authorization_request_id" = some request

theorem isFor_published {host : QueueHost} {p : Intent host} {id now envelope org request : String} :
    isFor org request (id, Redis.publishedFields (p.arguments now envelope)) = true ↔
      p.organizationId = org ∧ p.request = request := by
  have tenant : (Redis.publishedFields (p.arguments now envelope)).lookup "organization_id" =
      some p.organizationId := rfl
  have asked : (Redis.publishedFields (p.arguments now envelope)).lookup "authorization_request_id" =
      some p.request := rfl
  simp only [isFor, tenant, asked, Bool.and_eq_true, decide_eq_true_eq, Option.some.injEq]

/-! ### The invariant -/

/-- The entry of a request is the only one, an intent of the request has published it, and the key
names it. -/
structure OnePublication (q : DurableQueue) (org request : String) (r : Redis) : Prop where
  ids : (r.entries.map (·.1)).Nodup
  once : r.entries.countP (isFor org request) ≤ 1
  named : ∀ e ∈ r.entries, isFor org request e = true →
    (r.store (q.dedupeKey org request)).map (·.text) = some e.1
  origin : ∀ e ∈ r.entries, isFor org request e = true →
    ∃ (p : Intent q.host) (now envelope : String), p.organizationId = org ∧ p.request = request ∧
      e.2 = Redis.publishedFields (p.arguments now envelope)

variable {q : DurableQueue} {org request : String} {r r' : Redis}

/-- A new id is told apart from those before. -/
theorem ids_append {entries : List (String × Fields)} {e : String × Fields}
    (ids : (entries.map (·.1)).Nodup) (new : e.1 ∉ entries.map (·.1)) :
    ((entries ++ [e]).map (·.1)).Nodup := by
  rw [List.map_append, List.nodup_append]
  refine ⟨ids, by simp, ?_⟩
  rintro x hx y hy rfl
  have same : x = e.1 := by simpa using hy
  exact new (same ▸ hx)

/-- The stream and the key are all it depends on. -/
theorem OnePublication.congr (h : OnePublication q org request r) (entries : r'.entries = r.entries)
    (key : r'.store (q.dedupeKey org request) = r.store (q.dedupeKey org request)) :
    OnePublication q org request r' where
  ids := entries ▸ h.ids
  once := entries ▸ h.once
  named := by
    rw [entries, key]
    exact h.named
  origin := by
    rw [entries]
    exact h.origin

/-- An entry of another request changes nothing. -/
theorem OnePublication.append_other (h : OnePublication q org request r) {e : String × Fields}
    (new : e.1 ∉ r.entries.map (·.1)) (other : isFor org request e = false)
    (entries : r'.entries = r.entries ++ [e])
    (named : ∀ e ∈ r.entries, isFor org request e = true →
      (r'.store (q.dedupeKey org request)).map (·.text) = some e.1) :
    OnePublication q org request r' := by
  have old {x : String × Fields} (hx : x ∈ r'.entries) (mine : isFor org request x = true) :
      x ∈ r.entries := by
    rw [entries] at hx
    rcases List.mem_append.mp hx with hx | hx
    · exact hx
    · rw [List.mem_singleton.mp hx, other] at mine
      exact absurd mine Bool.false_ne_true
  refine ⟨?_, ?_, fun x hx mine => named x (old hx mine) mine,
    fun x hx mine => h.origin x (old hx mine) mine⟩
  · exact entries ▸ ids_append h.ids new
  · rw [entries, List.countP_append, List.countP_singleton, if_neg (by simp [other])]
    exact h.once

/-- The key goes to the request's own first entry. -/
theorem OnePublication.append_own (h : OnePublication q org request r)
    (absent : r.store (q.dedupeKey org request) = none) {p : Intent q.host}
    {id now envelope : String} (new : id ∉ r.entries.map (·.1)) (tenant : p.organizationId = org)
    (asked : p.request = request)
    (entries : r'.entries = r.entries ++ [(id, Redis.publishedFields (p.arguments now envelope))])
    (named : (r'.store (q.dedupeKey org request)).map (·.text) = some id) :
    OnePublication q org request r' := by
  have none_before : ∀ e ∈ r.entries, ¬ isFor org request e = true := by
    intro e he mine
    have found := h.named e he mine
    rw [absent] at found
    cases found
  refine ⟨?_, ?_, ?_, ?_⟩
  · exact entries ▸ ids_append h.ids new
  · rw [entries, List.countP_append, List.countP_eq_zero.mpr none_before, List.countP_singleton]
    split <;> decide
  · intro e he mine
    rw [entries] at he
    rcases List.mem_append.mp he with he | he
    · exact absurd mine (none_before e he)
    · rw [List.mem_singleton.mp he]
      exact named
  · intro e he mine
    rw [entries] at he
    rcases List.mem_append.mp he with he | he
    · exact absurd mine (none_before e he)
    · rw [List.mem_singleton.mp he]
      exact ⟨p, now, envelope, tenant, asked, rfl⟩

/-- `XADD` is refused, or adds an entry under a new id. -/
theorem xadd_cases (r : Redis) {newId : String} (ok : isStreamId newId = true) (fields : Fields) :
    r.xadd newId ok fields = (none, r) ∨
      newId ∉ r.entries.map (·.1) ∧ (r.xadd newId ok fields).1 = some newId ∧
        (r.xadd newId ok fields).2.entries = r.entries ++ [(newId, fields)] ∧
        (r.xadd newId ok fields).2.store = r.store := by
  rw [Redis.xadd]
  by_cases taken : (r.entries.any fun e => e.1 = newId) = true
  · rw [if_pos taken]
    exact Or.inl rfl
  · rw [if_neg taken]
    refine Or.inr ⟨?_, rfl, rfl, rfl⟩
    intro mem
    obtain ⟨e, he, same⟩ := List.mem_map.mp mem
    exact taken (List.any_eq_true.mpr ⟨e, he, decide_eq_true same⟩)

/-- The script keeps it. -/
theorem OnePublication.evalEnqueue (h : OnePublication q org request r) (p : Intent q.host)
    (now envelope : String) {newId : String} {ok : isStreamId newId = true} :
    OnePublication q org request
      (r.evalEnqueue newId ok p.key (p.arguments now envelope)).2 := by
  have key : p.key = q.dedupeKey p.organizationId p.request := by
    rw [Intent.key, DurableQueue.dedupeKey, DurableQueue.dedupeKey, p.own]
  rw [Redis.evalEnqueue]
  cases stored : r.store p.key with
  | some existing =>
      simp only
      split
      · exact h
      · split <;> exact h
  | none =>
      simp only
      rcases xadd_cases r ok (Redis.publishedFields (p.arguments now envelope)) with
        refused | ⟨new, told, entries, store⟩
      · rw [refused]
        exact h
      · cases added : r.xadd newId ok (Redis.publishedFields (p.arguments now envelope)) with
        | mk reply s =>
            rw [added] at told entries store
            cases told
            by_cases mine : p.organizationId = org ∧ p.request = request
            · -- the first entry of the request
              rw [mine.1, mine.2] at key
              refine h.append_own (key ▸ stored) new mine.1 mine.2 entries ?_
              rw [key]
              simp [Redis.set]
            · refine h.append_other new ?_ entries ?_
              · exact Bool.eq_false_iff.mpr fun own => mine (isFor_published.mp own)
              · intro e he own
                have found := h.named e he own
                have apart : q.dedupeKey org request ≠ p.key := by
                  intro same
                  rw [same, stored] at found
                  cases found
                have kept : s.store = r.store := store
                simp only [Redis.set, Function.update_of_ne apart, kept]
                exact found

/-- Every command of a party keeps it. -/
theorem OnePublication.answer (h : OnePublication q org request r) {g : Noted} {w : World}
    {c : Command} (demands : Demands q g c) :
    OnePublication q org request (r.answer w c).2 := by
  cases c with
  | evalEnqueue key a =>
      obtain ⟨p, now, envelope, rfl, rfl⟩ := demands
      exact h.evalEnqueue p now envelope
  | xadd fields =>
      rcases xadd_cases r w.newId_ok fields with refused | ⟨new, -, entries, store⟩
      · have same : (r.answer w (.xadd fields)).2 = r := congrArg Prod.snd refused
        rw [same]
        exact h
      · refine h.append_other new ?_ entries ?_
        · have legacy : fields.lookup "authorization_request_id" = none := demands
          simp [isFor, legacy]
        · intro e he mine
          exact (congrArg (fun f => (f (q.dedupeKey org request)).map (·.text)) store).trans
            (h.named e he mine)
  | execute pipeline =>
      obtain ⟨m, text, ttl, event, rfl, -⟩ := demands
      refine h.congr rfl ?_
      simp only [Redis.answer, List.foldl_cons, List.foldl_nil, Redis.write, Redis.xaddFailure,
        Redis.set]
      rw [Function.update_of_ne (DurableQueue.quarantineKey_ne_dedupeKey m org request q).symm,
        Function.update_of_ne (DurableQueue.quarantineStateKey_ne_dedupeKey m org request q).symm]
  | evalAcknowledge stateKey markerKey raw m event =>
      obtain ⟨rfl, rfl, -⟩ := demands
      rw [Redis.answer, Redis.evalAcknowledge]
      split
      · exact h
      · split
        · exact h
        · refine h.congr rfl ?_
          simp only [Redis.del, Redis.xaddFailure, Redis.xack]
          rw [Function.update_of_ne (DurableQueue.quarantineKey_ne_dedupeKey m org request q).symm,
            Function.update_of_ne
              (DurableQueue.quarantineStateKey_ne_dedupeKey m org request q).symm]
  | xautoclaim consumer =>
      rw [Redis.answer, Redis.xautoclaim]
      split
      · exact h
      · exact h.congr rfl rfl
  | xreadgroup consumer =>
      rw [Redis.answer, Redis.xreadgroup]
      split
      · exact h
      · exact h.congr rfl rfl
  | get key => exact h
  | xpendingRange m => exact h
  | xaddFailure fields => exact h.congr rfl rfl
  | xack m => exact h.congr rfl rfl
  | now => exact h
  | encryptCredentialEnvelope s o => exact h
  | enterHandler m call => exact h
  | leaveHandler m call => exact h

/-- While the key lasts, every expiry keeps it. -/
theorem OnePublication.expires (h : OnePublication q org request r)
    (gone : Expires (· = q.dedupeKey org request) r r') : OnePublication q org request r' := by
  obtain ⟨key, stored, -, -, other, rfl⟩ := gone
  refine h.congr rfl ?_
  exact Function.update_of_ne (Ne.symm other) _ _

/-! ### The script, again -/

/-- The script compares all that two intents of a request may differ in. -/
theorem matchesArguments_iff {p p' : Intent q.host} (tenant : p.organizationId = p'.organizationId)
    (asked : p.request = p'.request) (now envelope now' envelope' : String) :
    Redis.matchesArguments (Redis.publishedFields (p.arguments now envelope))
      (p'.arguments now' envelope') = true ↔ p.Same p' := by
  have compared : Redis.matchesArguments (Redis.publishedFields (p.arguments now envelope))
      (p'.arguments now' envelope') =
      (decide (some p.req.scanId = some p'.req.scanId) &&
        decide (some p.organizationId = some p'.organizationId) &&
        decide (some p.request = some p'.request) &&
        decide (some p.binding.queueBindingDigest = some p'.binding.queueBindingDigest) &&
        decide (some p.binding.manifestHash = some p'.binding.manifestHash) &&
        decide (some (identityJson p.binding.executionIds) =
          some (identityJson p'.binding.executionIds)) &&
        decide (some (identityJson p.binding.operationIds) =
          some (identityJson p'.binding.operationIds)) &&
        decide (some p.binding.schemaVersion = some p'.binding.schemaVersion) &&
        decide (some authoritativeKind = some authoritativeKind)) := rfl
  rw [compared]
  simp only [Bool.and_eq_true, decide_eq_true_eq, Option.some.injEq, tenant, asked, and_true]
  constructor
  · rintro ⟨⟨⟨⟨⟨scan, digest⟩, manifest⟩, executions⟩, operations⟩, schema⟩
    exact ⟨scan, digest, manifest, executions, operations, schema⟩
  · rintro ⟨scan, digest, manifest, executions, operations, schema⟩
    exact ⟨⟨⟨⟨⟨scan, digest⟩, manifest⟩, executions⟩, operations⟩, schema⟩

/-- An id of the server is no conflict. -/
theorem not_conflict_of_isStreamId {id : String} (h : isStreamId id = true) :
    Redis.identityConflictPrefix.isPrefixOf id = false := by
  refine Bool.eq_false_iff.mpr fun conflict => ?_
  have start := String.startsWith_string_iff.mp conflict
  have score : '_' ∈ id.toList := start.subset (by decide)
  simp only [isStreamId, Bool.and_eq_true, List.all_eq_true] at h
  exact absurd (h.2 '_' score) (by decide)

theorem conflict_mismatch :
    Redis.identityConflictPrefix.isPrefixOf (Redis.identityConflictPrefix ++ "MISMATCH") = true :=
  String.startsWith_string_iff.mpr (by simp)

/-- An entry is found under its id. -/
theorem lookup_of_mem {α : Type} {entries : List (String × α)} (ids : (entries.map (·.1)).Nodup)
    {e : String × α} (mem : e ∈ entries) : entries.lookup e.1 = some e.2 := by
  induction entries with
  | nil => cases mem
  | cons x xs ih =>
      obtain ⟨id, value⟩ := x
      obtain ⟨new, ids⟩ := List.nodup_cons.mp ids
      rcases List.mem_cons.mp mem with rfl | later
      · rw [List.lookup_cons, beq_self_eq_true]
      · have apart : (e.1 == id) = false := by
          refine beq_eq_false_iff_ne.mpr ?_
          rintro rfl
          exact new (List.mem_map.mpr ⟨e, later, rfl⟩)
        rw [List.lookup_cons, apart]
        exact ih ids later

/-- A request that has its entry comes to the comparison with it. -/
theorem OnePublication.evalEnqueue_again (h : OnePublication q org request r) {e : String × Fields}
    (he : e ∈ r.entries) (mine : isFor org request e = true) {p' : Intent q.host}
    (tenant : p'.organizationId = org) (asked : p'.request = request) (now envelope newId : String)
    (ok : isStreamId newId = true) :
    r.evalEnqueue newId ok p'.key (p'.arguments now envelope) =
      if Redis.matchesArguments e.2 (p'.arguments now envelope) then (some e.1, r)
      else (some (Redis.identityConflictPrefix ++ "MISMATCH"), r) := by
  have key : p'.key = q.dedupeKey org request := by
    rw [Intent.key, DurableQueue.dedupeKey, DurableQueue.dedupeKey, p'.own, tenant, asked]
  obtain ⟨stored, found, same⟩ := Option.map_eq_some_iff.mp (h.named e he mine)
  rw [Redis.evalEnqueue, key, found]
  simp only [same, Redis.entry, lookup_of_mem h.ids he]

/-! ### Runs -/

variable {ι : Type} [DecidableEq ι] {s₀ s t : QueuePool ι} {e : Interaction.Event ι Command Reply PyException QueueResult}
  {es : List (Interaction.Event ι Command Reply PyException QueueResult)}

/-- A step keeps it, and that every party meets its demands. -/
theorem Publication.step {lasting : String → Prop}
    (step : Pool.Step (queueRules ι q.host lasting) s e t)
    (lasts : ∀ key, key = q.dedupeKey org request → lasting key)
    (h : OnePublication q org request s.shared ∧ ∀ i, (s.party i).program.Meets Noted.add (Demands q)
      (fun _ _ => True) (s.party i).noted) :
    OnePublication q org request t.shared ∧ ∀ i, (t.party i).program.Meets Noted.add (Demands q)
      (fun _ _ => True) (t.party i).noted := by
  refine ⟨?_, step.meets (fun i p called => QueueCall.meets called) h.2⟩
  cases step with
  | begins called => exact h.1
  | @asks i c next reply u at_ told =>
      obtain ⟨w, told⟩ := told
      have demands := h.2 i
      rw [at_] at demands
      have kept := h.1.answer (w := w) demands.1
      rw [told] at kept
      exact kept
  | moves gone =>
      obtain ⟨key, stored, found, mortal, other, same⟩ := gone
      exact h.1.expires ⟨key, stored, found, mortal, fun own => other (lasts key own), same⟩

/-- What is promised of a tenant's request: it has at most one entry; an intent has published it, and
another call for the request that comes to the script leaves the server as it is, returns the id where
it agrees with the intent in all that is compared, and raises the conflict where it does not. A call
that fails its checks asks nothing. -/
structure PublishedOnce (q : DurableQueue) (lasting : String → Prop) (org request : String)
    (s : QueuePool ι) : Prop where
  once : s.shared.entries.countP (isFor org request) ≤ 1
  again : ∀ e ∈ s.shared.entries, isFor org request e = true →
    ∃ (p : Intent q.host) (now envelope : String), p.organizationId = org ∧ p.request = request ∧
      e.2 = Redis.publishedFields (p.arguments now envelope) ∧
      ∀ (i : ι) (p' : Intent q.host) (now' envelope' : String) (reply : Option String)
        (t : QueuePool ι), p'.organizationId = org → p'.request = request →
        (s.party i).program = p'.script now' envelope' →
        Pool.Step (queueRules ι q.host lasting) s
          (.asks i (.evalEnqueue p'.key (p'.arguments now' envelope')) reply) t →
        t.shared = s.shared ∧
          (p.Same p' → (t.party i).program = .ret (.message e.1)) ∧
          (¬ p.Same p' → (t.party i).program = .raise (DurableQueue.identityConflict
            (Redis.identityConflictPrefix ++ "MISMATCH")))
  refused : ∀ (q' : DurableQueue) (req : DurableQueue.EnqueueRequest) (e : PyException),
    DurableQueue.EnqueueRequest.check q' req = .error e → q'.enqueue req = .raise e

/-- While its key lasts, a tenant's request is published at most once, whatever the order of the
steps. -/
theorem published_once (start : s₀.Start q.host)
    (run : Run (Pool.Step (queueRules ι q.host (· = q.dedupeKey org request))) s₀ es s) :
    PublishedOnce q (· = q.dedupeKey org request) org request s := by
  have first : OnePublication q org request s₀.shared ∧ ∀ i, (s₀.party i).program.Meets Noted.add
      (Demands q) (fun _ _ => True) (s₀.party i).noted := by
    rw [start.shared]
    refine ⟨⟨by simp [Redis.empty], by simp [Redis.empty], by simp [Redis.empty],
      by simp [Redis.empty]⟩, fun i => ?_⟩
    obtain ⟨called, blank⟩ := start.party i
    rw [blank]
    exact called.meets
  obtain ⟨inv, -⟩ := run.invariant (fun s e t h step => Publication.step step (fun _ own => own) h) first
  refine ⟨inv.once, fun e he mine => ?_, fun q' req e checked => by
    rw [DurableQueue.enqueue, checked]; rfl⟩
  obtain ⟨p, now, envelope, tenant, asked, published⟩ := inv.origin e he mine
  refine ⟨p, now, envelope, tenant, asked, published, ?_⟩
  intro i p' now' envelope' reply t tenant' asked' at_ step
  cases step with
  | @asks _ _ next _ u running told =>
      obtain ⟨w, told⟩ := told
      obtain rfl : _ = next := eq_of_heq (Program.ask.inj (at_.symm.trans running)).2
      have answered := inv.evalEnqueue_again he mine tenant' asked' now' envelope' w.newId w.newId_ok
      have compared := matchesArguments_iff (tenant.trans tenant'.symm) (asked.trans asked'.symm) now
        envelope now' envelope'
      rw [← published] at compared
      have told : s.shared.evalEnqueue w.newId w.newId_ok p'.key (p'.arguments now' envelope') =
        (reply, u) := told
      rw [answered] at told
      by_cases same : p.Same p'
      · rw [if_pos (compared.mpr same)] at told
        cases told
        refine ⟨rfl, fun _ => ?_, fun differ => absurd same differ⟩
        have id_ok := not_conflict_of_isStreamId (s.shared.ids_ok e he)
        simp only [Function.update_self]
        rw [if_neg (Bool.not_eq_true _ ▸ id_ok)]
      · rw [if_neg fun matched => same (compared.mp matched)] at told
        cases told
        refine ⟨rfl, fun agree => absurd agree same, fun _ => ?_⟩
        simp only [Function.update_self]
        rw [if_pos conflict_mismatch]

/-! ### One face, spelled twice -/

namespace QueueSample

variable (s : QueueSample)

/-- The intent of the sample. -/
def asIntent : Intent s.queue.host where
  q := s.queue
  req := s.intent
  request := "request-1"
  binding := s.binding
  own := rfl
  checked := s.intent_checked

instance codePointsNonempty : NeZero 0x110000 := ⟨by decide⟩

/-- A face as one character. -/
def face : QueueSample where
  execution := [0x1F600]
  digest := "0e39736233e789a2f15255b24b4335934e35f21178282f1b638a627644e6b422"
  identity_ok := ⟨by decide, by decide⟩
  digest_ok := by decide

/-- The face as the two halves of its pair: the canonical text is the same. -/
def halves : QueueSample where
  execution := [0xD83D, 0xDE00]
  digest := "0e39736233e789a2f15255b24b4335934e35f21178282f1b638a627644e6b422"
  identity_ok := ⟨by decide, by decide⟩
  digest_ok := by decide

/-- One party, about to publish. -/
def publishing : QueuePool Unit where
  shared := Redis.empty
  party _ := ⟨(plain.queue.enqueue plain.intent).bind fun id => .ret (.message id), Noted.blank⟩

/-- It publishes, and the request has its one entry. -/
theorem publishing_once : ∃ s : QueuePool Unit, s.shared.entries.length = 1 ∧
    PublishedOnce plain.queue (· = plain.queue.dedupeKey "org-1" "request-1") "org-1" "request-1" s := by
  have run : Run (Pool.Step (queueRules Unit plain.queue.host
      (· = plain.queue.dedupeKey "org-1" "request-1"))) publishing
      [.asks () .now world.now,
        .asks () (.evalEnqueue plain.asIntent.key (plain.asIntent.arguments world.now ""))
          (some "1700000000000-0")]
      { shared := plain.published
        party := Function.update (Function.update publishing.party ()
            ⟨plain.asIntent.script world.now "", Noted.blank⟩) ()
            ⟨.ret (.message "1700000000000-0"), Noted.blank⟩ } :=
    .more (.asks plain.asIntent.enqueue_eq ⟨world, rfl⟩)
      (.more (.asks rfl ⟨world, rfl⟩) (.refl _))
  exact ⟨_, rfl, published_once ⟨rfl, fun _ => ⟨.enqueue plain.queue rfl plain.intent, rfl⟩⟩ run⟩

/-- The halves are taken for the face, though the lists differ: the first id is returned. -/
theorem halves_returned :
    ¬ ∀ (q : DurableQueue) (w : World) (r r₁ : Redis) (p p' : Intent q.host) (id : String),
      p.q = q → p'.q = q → p.organizationId = p'.organizationId → p.request = p'.request →
        (q.enqueue p.req).run (Redis.answer w) r = (.ok id, r₁) →
        p.binding.executionIds ≠ p'.binding.executionIds →
          ∃ message, (q.enqueue p'.req).run (Redis.answer w) r₁ =
            (.error (DurableQueue.identityConflict message), r₁) := by
  intro conflicts
  have again : (face.queue.enqueue halves.intent).run (Redis.answer world) face.published =
      (.ok "1700000000000-0", face.published) := by
    have checked : DurableQueue.EnqueueRequest.check face.queue halves.intent =
        .ok (some ("request-1", halves.binding)) := halves.intent_checked
    rw [DurableQueue.run_enqueue_authoritative checked]
    rfl
  obtain ⟨message, raised⟩ := conflicts face.queue world Redis.empty face.published face.asIntent
    halves.asIntent "1700000000000-0" rfl rfl rfl rfl face.intent_published (by decide)
  rw [show halves.asIntent.req = halves.intent from rfl, again] at raised
  cases raised

end QueueSample

end CyberAssess
