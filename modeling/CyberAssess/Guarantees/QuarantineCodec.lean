import CyberAssess.Guarantees.SinglePublication
import CyberAssess.Support.JsonCanonical

/-!
# Guarantees — a quarantine is read as it was stored

`_quarantine` puts a state together field by field, and `_get_quarantine_state` takes it apart field
by field.

* `stateRows`: the fields of a state, each where it is there; `quarantineMembers_ok`: what is stored.
* `readQuarantineState_ok`: what an accepted text holds, `ReadState`.
* `field_stored`: a field of the stored text is that of its row.
* `read_stored`: the state of a call that gives what its evidence has reads back.
* `quarantine_codec`: the two together, over the server.

`[about ours]`: two surrogates that stand for one character read back as the character.
-/

namespace CyberAssess

open Python
open Interaction (Program)
open Interaction.Program (ofExcept run_bind)
open Checked (ensure refuse require bind_ok exists_unit ensure_ok refuse_ok require_ok)

/-! ### Dictionaries -/

theorem present_append {α : Type} (rows more : List (String × Option α)) :
    present (rows ++ more) = present rows ++ present more :=
  List.filterMap_append

theorem present_map {α β : Type} (f : α → β) (rows : List (String × Option α)) :
    present (rows.map fun r => (r.1, r.2.map f)) = (present rows).map fun m => (m.1, f m.2) := by
  induction rows with
  | nil => rfl
  | cons row rows ih =>
      obtain ⟨name, value⟩ := row
      cases value with
      | none => exact ih
      | some v => exact congrArg ((name, f v) :: ·) ih

/-- A member is found under its own name, whatever is made of the values. -/
theorem lookup_points {α β : Type} (f : α → β) (ms : List (String × α)) (name : String) :
    (ms.map fun m => (points m.1, f m.2)).lookup (points name) = (ms.lookup name).map f :=
  lookup_map (fun _ _ => points_inj) f ms name

/-- The names of points are told apart where the names are. -/
theorem nodup_points {α : Type} {ms : List (String × α)} (distinct : (ms.map (·.1)).Nodup) :
    ((ms.map fun m => (points m.1, m.2)).map (·.1)).Nodup := by
  rw [List.map_map]
  have coded := distinct.map fun s t => points_inj (s := s) (t := t)
  rwa [List.map_map] at coded

theorem textOf_points (s : String) : textOf (points s) = some s := by
  have plain : (points s).all (fun p => !isHigh p && !isLow p) = true := by
    rw [List.all_eq_true]
    intro p hp
    obtain ⟨c, -, rfl⟩ := List.mem_map.mp hp
    rw [isHigh_point, isLow_point]
    rfl
  have back : (points s).map (fun p => Char.ofNat p.val) = s.toList := by
    rw [points, List.map_map]
    exact (List.map_congr_left fun c _ => Char.ofNat_toNat c).trans (List.map_id _)
  rw [textOf, if_pos plain, back, String.ofList_toList]

/-- A dictionary of texts is read as it was written. -/
theorem fieldsOf_texts (fields : Fields) :
    fieldsOf (.obj (fields.map fun f => (points f.1, textValue f.2))) = some fields := by
  rw [fieldsOf]
  induction fields with
  | nil => rfl
  | cons f fields ih =>
      rw [List.map_cons, List.mapM_cons, ih]
      simp only [textValue, textOf_points]
      rfl

/-- Evidence under its own names, in another order, is accepted as it is. -/
theorem Evident.congr {host : QueueHost} {messageId : String} {evidence other : Fields}
    {requireQuarantined : Bool} (h : Evident host messageId evidence requireQuarantined)
    (mem : ∀ f ∈ other, f ∈ evidence) (found : ∀ name, evidence.lookup name = other.lookup name) :
    Evident host messageId other requireQuarantined where
  known f hf := h.known f (mem f hf)
  safe f hf := h.safe f (mem f hf)
  complete name hn := found name ▸ h.complete name hn
  message := found _ ▸ h.message
  dispatched := found _ ▸ h.dispatched
  flagged := found _ ▸ h.flagged
  marked marked := found _ ▸ h.marked marked
  kind := found _ ▸ h.kind
  legacy legacy := h.legacy (found _ ▸ legacy)
  organization := found _ ▸ h.organization
  request := found _ ▸ h.request
  tenant := by
    rw [← found, ← found]
    exact h.tenant
  identity := by
    have identity := h.identity
    simp only [validateIdentityJsonFields, QueueDispatchBinding.fromPayload, found] at identity ⊢
    exact identity
  attempts := by
    have attempts := h.attempts
    rwa [evidenceCounterOk, found] at attempts
  bound := by
    have bound := h.bound
    rwa [evidenceCounterOk, found] at bound
  within attempts bound ha hb := h.within attempts bound (by rw [found, ha]) (by rw [found, hb])

/-! ### What is stored -/

/-- The fields of a state before its own digest, each where it is there. -/
def stateRows (host : QueueHost) (now messageId reason : String) (evidence : Fields)
    (q : QuarantineIdentity) : List (String × Option Value) :=
  [("schema_version", some (textValue quarantineSchemaVersion)),
      ("status", some (textValue "QUARANTINED")), ("message_id", some (textValue messageId)),
      ("reason", some (textValue (safeReason reason))), ("quarantined_at", some (textValue now)),
      ("failure_evidence", some (.obj (evidence.map fun f => (points f.1, textValue f.2)))),
      ("failure_evidence_digest", some (textValue (failureEvidenceDigest host evidence))),
      ("message_kind", some (textValue ((evidence.lookup "message_kind").getD "")))] ++
    q.texts.map (fun r => (r.1, r.2.map textValue)) ++
    q.lists.map (fun r => (r.1, r.2.map identityList)) ++
    q.counters.map fun r => (r.1, r.2.map fun n => .int n)

/-- The members the fields are. -/
def membersOf (rows : List (String × Option Value)) : List (Points × Value) :=
  (present rows).map fun m => (points m.1, m.2)

/-- What the call gives agrees with its evidence. -/
structure Matched (evidence : Fields) (q : QuarantineIdentity) : Prop where
  texts : ∀ r ∈ q.texts, ∀ value ∈ r.2, evidence.lookup r.1 = some value
  lists : ∀ r ∈ q.lists, ∀ ids ∈ r.2, evidence.lookup (r.1 ++ "_json") = some (identityJson ids)
  counters : ∀ r ∈ q.counters, ∀ n ∈ r.2, evidence.lookup r.1 = some (toString n)

variable {host : QueueHost} {now messageId reason raw : String} {evidence given : Fields}
  {q : QuarantineIdentity} {members : List (Points × Value)}

/-- The state is put together where the call agrees with its evidence. -/
theorem quarantineMembers_ok :
    quarantineMembers host now messageId reason evidence q = .ok members ↔
      Matched evidence q ∧ membersOf (stateRows host now messageId reason evidence q) = members := by
  have rows : membersOf (stateRows host now messageId reason evidence q) =
      ([("schema_version", textValue quarantineSchemaVersion), ("status", textValue "QUARANTINED"),
        ("message_id", textValue messageId), ("reason", textValue (safeReason reason)),
        ("quarantined_at", textValue now),
        ("failure_evidence", .obj (evidence.map fun f => (points f.1, textValue f.2))),
        ("failure_evidence_digest", textValue (failureEvidenceDigest host evidence)),
        ("message_kind", textValue ((evidence.lookup "message_kind").getD ""))] ++
      (present q.texts).map (fun m => (m.1, textValue m.2)) ++
      (present q.lists).map (fun m => (m.1, identityList m.2)) ++
      (present q.counters).map fun m => (m.1, Value.int m.2)).map fun m => (points m.1, m.2) := by
    rw [membersOf, stateRows, present_append, present_append, present_append, present_map,
      present_map, present_map]
    rfl
  simp only [quarantineMembers, bind_ok, exists_unit, Checked.ensureEach_ok, ensure_ok,
    List.forall_mem_map, Option.all_eq_true, decide_eq_true_eq]
  constructor
  · rintro ⟨texts, lists, attempts, bound, result⟩
    refine ⟨⟨texts, lists, ?_⟩, rows.trans (Except.ok.inj result)⟩
    exact List.forall_mem_cons.mpr ⟨attempts, List.forall_mem_singleton.mpr bound⟩
  · rintro ⟨⟨texts, lists, counters⟩, rfl⟩
    obtain ⟨attempts, rest⟩ := List.forall_mem_cons.mp counters
    exact ⟨texts, lists, attempts, List.forall_mem_singleton.mp rest, congrArg Except.ok rows.symm⟩

/-- The fields of the stored text, its digest among them. -/
def storedRows (host : QueueHost) (now messageId reason : String) (evidence : Fields)
    (q : QuarantineIdentity) : List (String × Option Value) :=
  stateRows host now messageId reason evidence q ++
    [("quarantine_state_digest", some (textValue (quarantineStateDigest host
      (membersOf (stateRows host now messageId reason evidence q)))))]

theorem quarantineState_ok {text : String} :
    quarantineState host now messageId reason evidence q = .ok text ↔
      Matched evidence q ∧ text = String.ofList
        (Value.obj (membersOf (storedRows host now messageId reason evidence q))).write := by
  have rows : membersOf (storedRows host now messageId reason evidence q) =
      membersOf (stateRows host now messageId reason evidence q) ++
        [(points "quarantine_state_digest", textValue (quarantineStateDigest host
          (membersOf (stateRows host now messageId reason evidence q))))] := by
    rw [storedRows, membersOf, present_append, List.map_append]
    rfl
  simp only [quarantineState, bind_ok, quarantineMembers_ok]
  constructor
  · rintro ⟨_, ⟨matched, rfl⟩, result⟩
    rw [rows]
    exact ⟨matched, (Except.ok.inj result).symm⟩
  · rintro ⟨matched, rfl⟩
    rw [rows]
    exact ⟨_, ⟨matched, rfl⟩, rfl⟩

/-- No two fields share a name, and every name is one of the state's. -/
theorem storedRows_names (host : QueueHost) (now messageId reason : String) (evidence : Fields)
    (q : QuarantineIdentity) :
    ((storedRows host now messageId reason evidence q).map (·.1)).Nodup ∧
      ∀ r ∈ storedRows host now messageId reason evidence q, r.1 ∈ quarantineStateFields := by
  have names : (storedRows host now messageId reason evidence q).map (·.1) =
      ["schema_version", "status", "message_id", "reason", "quarantined_at", "failure_evidence",
        "failure_evidence_digest", "message_kind", "scan_id", "organization_id",
        "authorization_request_id", "queue_binding_digest", "manifest_hash", "execution_ids",
        "operation_ids", "attempt_count", "max_attempts", "quarantine_state_digest"] := rfl
  constructor
  · rw [names]
    decide
  · intro r hr
    have named : r.1 ∈ (storedRows host now messageId reason evidence q).map (·.1) :=
      List.mem_map_of_mem hr
    rw [names] at named
    exact (by decide : ∀ name ∈ ["schema_version", "status", "message_id", "reason",
      "quarantined_at", "failure_evidence", "failure_evidence_digest", "message_kind", "scan_id",
      "organization_id", "authorization_request_id", "queue_binding_digest", "manifest_hash",
      "execution_ids", "operation_ids", "attempt_count", "max_attempts",
      "quarantine_state_digest"], name ∈ quarantineStateFields) _ named

/-! ### What is accepted -/

/-- What the members of an accepted text are, and the evidence among them. -/
structure ReadState (host : QueueHost) (messageId : String) (members : List (Points × Value))
    (given evidence : Fields) : Prop where
  known : ∀ m ∈ members, ∃ name ∈ quarantineStateFields, points name = m.1
  schema : (stateField members "schema_version").any (valueIsText quarantineSchemaVersion) = true
  status : (stateField members "status").any (valueIsText "QUARANTINED") = true
  message : (stateField members "message_id").any (valueIsText messageId) = true
  held : (stateField members "failure_evidence").bind fieldsOf = some given
  canonical : canonicalFailureEvidence host messageId given true = .ok evidence
  digest : (stateField members "failure_evidence_digest").any
    (valueIsText (failureEvidenceDigest host evidence)) = true
  kind : (stateField members "message_kind").any
    (valueIsText ((evidence.lookup "message_kind").getD "")) = true
  texts : ∀ name ∈ ["scan_id", "organization_id", "authorization_request_id",
    "queue_binding_digest", "manifest_hash"],
    stateAgrees members name (evidence.lookup name) valueIsText = true
  lists : ∀ name ∈ ["execution_ids", "operation_ids"],
    stateAgrees members name (evidence.lookup (name ++ "_json")) (fun text v =>
      match (loadList text).bind fun items => items.mapM listedIdentity with
      | some ids => valueIsTexts ids v
      | none => false) = true
  counters : ∀ name ∈ ["attempt_count", "max_attempts"],
    stateAgrees members name (evidence.lookup name)
      (fun text v => valueIsNumber host (digitsToNat text) v) = true
  closed : (stateField members "quarantine_state_digest").any
    (valueIsText (quarantineStateDigest host members)) = true

theorem toOption_ok {α : Type} {x : Except PyException α} {a : α} :
    x.toOption = some a ↔ x = .ok a := by
  cases x <;> simp [Except.toOption]

theorem guard_some {p : Prop} [Decidable p] {u : Unit} : (guard p : Option Unit) = some u ↔ p := by
  by_cases h : p <;> simp [guard, h]

/-- A text is accepted where it is an object of the members `ReadState` asks for. -/
theorem readQuarantineState_ok :
    readQuarantineState host messageId raw = some (members, evidence) ↔
      loads raw.toList = some (.obj members) ∧
        ∃ given, ReadState host messageId members given evidence := by
  constructor
  · intro read
    rw [readQuarantineState] at read
    obtain ⟨value, loaded, read⟩ := Option.bind_eq_some_iff.mp read
    cases value with
    | obj ms =>
        simp only [Option.bind_eq_bind, Option.bind_eq_some_iff, guard_some, toOption_ok,
          Option.pure_def, Option.some.injEq, Prod.mk.injEq, List.all_eq_true, List.any_eq_true,
          decide_eq_true_eq] at read
        obtain ⟨-, known, -, schema, -, status, -, message, given, held, e, canonical, -, digest, -,
          kind, -, texts, -, lists, -, counters, -, closed, rfl, rfl⟩ := read
        exact ⟨loaded, given, known, schema, status, message, Option.bind_eq_some_iff.mpr held,
          canonical, digest, kind, texts, lists, counters, closed⟩
    | null | bool b | int n | float t | str t | arr items => cases read
  · rintro ⟨loaded, given, h⟩
    rw [readQuarantineState]
    refine Option.bind_eq_some_iff.mpr ⟨.obj members, loaded, ?_⟩
    simp only [Option.bind_eq_bind, Option.bind_eq_some_iff, guard_some, toOption_ok,
      Option.pure_def, Option.some.injEq, Prod.mk.injEq, List.all_eq_true, List.any_eq_true,
      decide_eq_true_eq]
    exact ⟨(), h.known, (), h.schema, (), h.status, (), h.message, given,
      Option.bind_eq_some_iff.mp h.held, evidence, h.canonical, (), h.digest, (), h.kind, (),
      h.texts, (), h.lists, (), h.counters, (), h.closed, trivial, rfl⟩

/-! ### Reading what is stored -/

/-- The members that are read of the fields. -/
def readBack (rows : List (String × Option Value)) : List (Points × Value) :=
  sortMembers (canonicalMembers (joinedMembers (membersOf rows)))

theorem readBack_perm (rows : List (String × Option Value)) :
    (readBack rows).Perm ((membersOf rows).map fun m => (m.1, m.2.joined.canonical)) := by
  refine (sortMembers_perm _).trans (List.Perm.of_eq ?_)
  rw [canonicalMembers_eq, joinedMembers_eq, List.map_map]
  rfl

section
variable {rows : List (String × Option Value)}

theorem keys_membersOf (distinct : (rows.map (·.1)).Nodup) :
    ((membersOf rows).map (·.1)).Nodup :=
  nodup_points ((keys_present rows).nodup distinct)

/-- A field is read as it is, joined and in canonical form. -/
theorem field_readBack (distinct : (rows.map (·.1)).Nodup) (name : String) :
    stateField (readBack rows) name = (rows.lookup name).join.map fun v => v.joined.canonical := by
  have keys : ((readBack rows).map (·.1)).Nodup := by
    have same := (readBack_perm rows).map (·.1)
    rw [List.map_map] at same
    exact same.nodup_iff.mpr (keys_membersOf distinct)
  rw [stateField, lookup_perm (readBack_perm rows) keys, membersOf, List.map_map,
    ← lookup_present distinct]
  exact lookup_points (fun v => v.joined.canonical) (present rows) name

theorem known_readBack {m : Points × Value} (hm : m ∈ readBack rows) :
    ∃ r ∈ rows, points r.1 = m.1 := by
  obtain ⟨n, hn, rfl⟩ := List.mem_map.mp ((readBack_perm rows).mem_iff.mp hm)
  obtain ⟨k, hk, rfl⟩ := List.mem_map.mp hn
  exact ⟨_, mem_present.mp hk, rfl⟩

/-- The text of readable fields reads as `readBack`. -/
theorem loads_membersOf (distinct : (rows.map (·.1)).Nodup)
    (readable : ∀ r ∈ rows, ∀ v ∈ r.2, v.joined.Readable) :
    loads (String.ofList (Value.obj (membersOf rows)).write).toList =
      some (.obj (readBack rows)) := by
  rw [String.toList_ofList]
  refine loads_write_joined ⟨?_, ?_⟩
  · rw [joinedMembers_eq, readableMembers_iff]
    intro m hm
    obtain ⟨n, hn, rfl⟩ := List.mem_map.mp hm
    obtain ⟨k, hk, rfl⟩ := List.mem_map.mp hn
    exact ⟨joined_points k.1, readable _ (mem_present.mp hk) k.2 rfl⟩
  · rw [joinedMembers_eq, List.map_map]
    exact keys_membersOf distinct

/-- The digest is over the same text before and after. -/
theorem digest_readBack (distinct : (rows.map (·.1)).Nodup) (digest : String)
    (host : QueueHost) :
    quarantineStateDigest host
        (readBack (rows ++ [("quarantine_state_digest", some (textValue digest))])) =
      quarantineStateDigest host (membersOf rows) := by
  let others (m : Points × Value) : Bool := m.1 ≠ points "quarantine_state_digest"
  let last : String × Option Value := ("quarantine_state_digest", some (textValue digest))
  have before : (membersOf (rows ++ [last])).filter others = (membersOf rows).filter others := by
    rw [membersOf, present_append, List.map_append, List.filter_append]
    have none : ((present [last]).map fun m => (points m.1, m.2)).filter others = [] := by
      simp [present, last, others]
    rw [none, List.append_nil]
    rfl
  have alike : (((readBack (rows ++ [last])).filter others).map fun m => (m.1, m.2.write)).Perm
      (((membersOf rows).filter others).map fun m => (m.1, m.2.write)) := by
    refine (((readBack_perm _).filter others).map _).trans (List.Perm.of_eq ?_)
    rw [List.filter_map, List.map_map, ← before]
    refine List.map_congr_left fun m _ => ?_
    rw [Function.comp_apply, write_canonical, write_joined]
  have keys : (((membersOf rows).filter others).map (·.1)).Nodup :=
    (List.filter_sublist.map _).nodup (keys_membersOf distinct)
  rw [quarantineStateDigest, quarantineStateDigest, write_obj_perm alike.symm keys]

end

/-! ### A call and its state -/

theorem joined_textValue (s : String) : (textValue s).joined = textValue s := by
  rw [textValue, Value.joined, joinPairs_of_joined (joined_points s)]

/-- A list of identities, joined, is the list of the joined identities. -/
theorem joined_identityList (ids : List Points) :
    (identityList ids).joined.canonical = identityList (ids.map joinPairs) := by
  rw [identityList, Value.joined, joinedItems_eq, Value.canonical, List.map_map, identityList,
    List.map_map]
  congr 1
  induction ids with
  | nil => rfl
  | cons id ids ih => rw [List.map_cons, List.map_cons, canonicalItems, ih]; rfl

theorem pairwise_sortKeys {α : Type} (ms : List (String × α)) :
    (sortKeys ms).Pairwise fun p q => p.1 ≤ q.1 := by
  have transitive (p q r : String × α) (h : decide (p.1 ≤ q.1) = true)
      (k : decide (q.1 ≤ r.1) = true) : decide (p.1 ≤ r.1) = true :=
    decide_eq_true (le_trans (of_decide_eq_true h) (of_decide_eq_true k))
  have total (p q : String × α) : (decide (p.1 ≤ q.1) || decide (q.1 ≤ p.1)) = true := by
    rw [Bool.or_eq_true, decide_eq_true_eq, decide_eq_true_eq]
    exact le_total p.1 q.1
  exact (List.pairwise_mergeSort transitive total ms).imp fun h => of_decide_eq_true h

theorem sortKeys_of_pairwise {α : Type} {ms : List (String × α)}
    (sorted : ms.Pairwise fun p q => p.1 ≤ q.1) : sortKeys ms = ms :=
  List.mergeSort_of_pairwise (sorted.imp fun h => decide_eq_true h)

/-- Evidence that is accepted and in its order. -/
structure Settled (host : QueueHost) (messageId : String) (evidence : Fields) : Prop where
  evident : Evident host messageId evidence true
  distinct : (evidence.map (·.1)).Nodup
  sorted : evidence.Pairwise fun p q => p.1 ≤ q.1

/-- The canonical evidence is settled. -/
theorem settled_of_canonical (distinct : (given.map (·.1)).Nodup)
    (canonical : canonicalFailureEvidence host messageId given true = .ok evidence) :
    Settled host messageId evidence ∧ ∀ name, evidence.lookup name = given.lookup name := by
  obtain ⟨evident, rfl⟩ := canonical_ok.mp canonical
  have perm : (sortKeys given).Perm given := List.mergeSort_perm given _
  refine ⟨⟨evident.congr (fun f hf => perm.mem_iff.mp hf) fun name => ?_, ?_,
    pairwise_sortKeys given⟩, lookup_sortKeys distinct⟩
  · exact (lookup_sortKeys distinct name).symm
  · exact (perm.map _).nodup_iff.mpr distinct

namespace Settled

/-- Settled evidence is its own canonical form. -/
theorem canonical (h : Settled host messageId evidence) :
    canonicalFailureEvidence host messageId evidence true = .ok evidence :=
  canonical_ok.mpr ⟨h.evident, sortKeys_of_pairwise h.sorted⟩

/-- The evidence among the members is readable, and reads as it is. -/
theorem value (h : Settled host messageId evidence) :
    (Value.obj (evidence.map fun f => (points f.1, textValue f.2))).joined.Readable ∧
      (Value.obj (evidence.map fun f => (points f.1, textValue f.2))).joined.canonical =
        .obj (evidence.map fun f => (points f.1, textValue f.2)) := by
  have same : joinedMembers (evidence.map fun f => (points f.1, textValue f.2)) =
      evidence.map fun f => (points f.1, textValue f.2) := by
    rw [joinedMembers_eq, List.map_map]
    exact List.map_congr_left fun f _ => congrArg (points f.1, ·) (joined_textValue f.2)
  rw [Value.joined, same]
  constructor
  · rw [Value.Readable, readableMembers_iff]
    constructor
    · intro m hm
      obtain ⟨f, -, rfl⟩ := List.mem_map.mp hm
      exact ⟨joined_points f.1, joined_points f.2⟩
    · have keys := nodup_points h.distinct
      rw [List.map_map] at keys ⊢
      exact keys
  · have leaves : canonicalMembers (evidence.map fun f => (points f.1, textValue f.2)) =
        evidence.map fun f => (points f.1, textValue f.2) := by
      rw [canonicalMembers_eq, List.map_map]
      rfl
    have ordered : (evidence.map fun f => (points f.1, textValue f.2)).Pairwise
        fun p q => p.1 ≤ q.1 :=
      List.pairwise_map.mpr (h.sorted.imp fun le => points_le.mpr le)
    rw [Value.canonical, leaves, sortMembers_of_pairwise ordered]

end Settled

/-- Evidence that has one of the fields of a binding carries a well-formed one. -/
theorem binding_of_identity {name : String} (h : validateIdentityJsonFields host evidence = .ok ())
    (named : name ∈ bindingFields) (there : (evidence.lookup name).isSome = true) :
    ∃ b, Carries evidence b ∧ b.WellFormed host := by
  have some : (bindingFields.filter fun n => (evidence.lookup n).isSome).isEmpty = false :=
    List.isEmpty_eq_false_iff.mpr (List.ne_nil_of_mem (List.mem_filter.mpr ⟨named, there⟩))
  simp only [validateIdentityJsonFields, some, Bool.false_eq_true, if_false, bind_ok, exists_unit] at h
  obtain ⟨-, b, read, -⟩ := h
  obtain ⟨carried, ok, -⟩ := fromPayload_ok.mp read
  exact ⟨b, carried, ok⟩

/-- Identities are written as they are joined. -/
theorem identityJson_joinPairs (ids : List Points) : identityJson (ids.map joinPairs) = identityJson ids := by
  have same := write_joined (identityList ids)
  rw [identityList, Value.joined, joinedItems_eq, List.map_map] at same
  rw [identityJson, identityJson, writeTexts, writeTexts, List.map_map, ← same]
  rfl

/-- A list of the evidence is read as the joined identities that were written, all accepted. -/
theorem list_of_evident {ids : List Points} (settled : Settled host messageId evidence)
    {name : String} (named : name ∈ ["execution_ids", "operation_ids"])
    (held : evidence.lookup (name ++ "_json") = some (identityJson ids)) :
    ((loadList (identityJson ids)).bind fun items => items.mapM listedIdentity) =
      some (ids.map joinPairs) := by
  have loaded : loadList (identityJson ids) = some ((ids.map joinPairs).map .str) := by
    rw [← identityJson_joinPairs]
    refine loadList_identityJson fun id hid => ?_
    obtain ⟨ps, -, rfl⟩ := List.mem_map.mp hid
    exact joined_joinPairs ps
  have listed : name ++ "_json" ∈ bindingFields :=
    (by decide : ∀ name ∈ ["execution_ids", "operation_ids"], name ++ "_json" ∈ bindingFields) name named
  have there : (evidence.lookup (name ++ "_json")).isSome = true := by rw [held, Option.isSome_some]
  obtain ⟨b, carried, ok⟩ := binding_of_identity settled.evident.identity listed there
  rw [loaded, Option.bind_some, mapM_listedIdentity]
  refine ⟨rfl, ?_⟩
  rcases List.mem_cons.mp named with rfl | other
  · have read := carried.executionIds
    rw [show evidence.lookup "execution_ids_json" = some (identityJson ids) from held,
      Option.bind_some, loaded] at read
    exact map_str_inj (Option.some.inj read) ▸ ok.executions
  · obtain rfl := List.mem_singleton.mp other
    have read := carried.operationIds
    rw [show evidence.lookup "operation_ids_json" = some (identityJson ids) from held,
      Option.bind_some, loaded] at read
    exact map_str_inj (Option.some.inj read) ▸ ok.operations

/-- Every field of the stored text is readable. -/
theorem readable_stored (settled : Settled host messageId evidence) (matched : Matched evidence q) :
    ∀ r ∈ storedRows host now messageId reason evidence q, ∀ v ∈ r.2, v.joined.Readable := by
  have text (s : String) : (textValue s).joined.Readable := by
    rw [joined_textValue]
    exact joined_points s
  simp only [storedRows, stateRows, List.forall_mem_append, List.forall_mem_map,
    List.forall_mem_cons, List.not_mem_nil, false_implies, implies_true, and_true,
    Option.mem_def, Option.some.injEq, forall_eq', Option.map_eq_some_iff,
    forall_exists_index, and_imp, forall_apply_eq_imp_iff₂]
  refine ⟨⟨⟨⟨⟨text _, text _, text _, text _, text _, settled.value.1, text _, text _⟩, ?_⟩, ?_⟩,
    ?_⟩, text _⟩
  · intro r _ s _
    exact text s
  · intro r _ ids _
    rw [identityList, Value.joined, joinedItems_eq, Value.Readable, readableItems_iff, List.map_map]
    intro v hv
    obtain ⟨id, -, rfl⟩ := List.mem_map.mp hv
    exact joined_joinPairs id
  · intro r hr n hn
    -- A counter that is kept has its digits in the evidence.
    obtain ⟨before, after, split, -⟩ := List.lookup_eq_some_iff.mp (matched.counters r hr n hn)
    have kept := settled.evident.safe (r.1, toString n) (by rw [split]; simp)
    have bound : evidenceMaxLength r.1 = 256 := by
      simp only [QuarantineIdentity.counters, List.mem_cons, List.not_mem_nil, or_false] at hr
      rcases hr with rfl | rfl <;> rfl
    simp only [evidenceFieldOk, bound, Bool.and_eq_true, decide_eq_true_eq] at kept
    have digits : (toString n).length = (Nat.toDigits 10 n).length := by
      rw [Nat.toString_eq_repr, Nat.repr, String.length_ofList]
    have whole : ((n : Int).natAbs) = n := Int.natAbs_natCast n
    have same : (Value.int (n : Int)).joined = .int n := rfl
    rw [same, Value.Readable, whole]
    omega

/-- The call gives every identity, list and counter its evidence has. -/
structure Covers (evidence : Fields) (q : QuarantineIdentity) : Prop where
  texts : ∀ r ∈ q.texts, r.2 = none → evidence.lookup r.1 = none
  lists : ∀ r ∈ q.lists, r.2 = none → evidence.lookup (r.1 ++ "_json") = none
  counters : ∀ r ∈ q.counters, r.2 = none → evidence.lookup r.1 = none

/-- The members give back what the call was given, lists joined. -/
structure GivenBack (reason : String) (kind : Option String) (q : QuarantineIdentity)
    (members : List (Points × Value)) : Prop where
  reason : stateField members "reason" = some (textValue (safeReason reason))
  kind : stateField members "message_kind" = kind.map textValue
  texts : ∀ r ∈ q.texts, stateField members r.1 = r.2.map textValue
  lists : ∀ r ∈ q.lists,
    stateField members r.1 = r.2.map fun ids => identityList (ids.map joinPairs)
  counters : ∀ r ∈ q.counters, stateField members r.1 = r.2.map fun n => .int n

/-- A field is read of the row that holds it. -/
theorem field_stored {name : String} {value : Option Value}
    (row : (name, value) ∈ storedRows host now messageId reason evidence q) :
    stateField (readBack (storedRows host now messageId reason evidence q)) name =
      value.map fun v => v.joined.canonical := by
  rw [field_readBack (storedRows_names ..).1, lookup_of_mem (storedRows_names ..).1 row]
  rfl

theorem text_stored {name s : String}
    (row : (name, some (textValue s)) ∈ storedRows host now messageId reason evidence q) :
    stateField (readBack (storedRows host now messageId reason evidence q)) name =
      some (textValue s) := by
  rw [field_stored row, Option.map_some, joined_textValue]
  rfl

/-- The evidence is read as it is stored. -/
theorem evidence_stored (settled : Settled host messageId evidence) :
    stateField (readBack (storedRows host now messageId reason evidence q)) "failure_evidence" =
      some (.obj (evidence.map fun f => (points f.1, textValue f.2))) := by
  have row : ("failure_evidence", some (.obj (evidence.map fun f => (points f.1, textValue f.2)))) ∈
      storedRows host now messageId reason evidence q := by
    simp [storedRows, stateRows]
  rw [field_stored row, Option.map_some, settled.value.2]

/-- What is stored gives back what the call was given. -/
theorem returned_stored (now reason : String) (q : QuarantineIdentity)
    (settled : Settled host messageId evidence) :
    GivenBack reason (evidence.lookup "message_kind") q
      (readBack (storedRows host now messageId reason evidence q)) := by
  obtain ⟨kind, found⟩ : ∃ kind, evidence.lookup "message_kind" = some kind :=
    Option.isSome_iff_exists.mp (settled.evident.complete "message_kind" (by decide))
  refine ⟨?_, ?_, ?_, ?_, ?_⟩
  · exact text_stored (by simp [storedRows, stateRows])
  · rw [found]
    exact text_stored (by simp [storedRows, stateRows, found])
  · intro r hr
    have row : (r.1, r.2.map textValue) ∈ storedRows host now messageId reason evidence q := by
      simp only [storedRows, stateRows, List.mem_append]
      exact Or.inl (Or.inl (Or.inl (Or.inr (List.mem_map_of_mem hr))))
    rw [field_stored row, Option.map_map]
    exact congrArg (r.2.map ·) (funext fun s => congrArg Value.canonical (joined_textValue s))
  · intro r hr
    have row : (r.1, r.2.map identityList) ∈ storedRows host now messageId reason evidence q := by
      simp only [storedRows, stateRows, List.mem_append]
      exact Or.inl (Or.inl (Or.inr (List.mem_map_of_mem hr)))
    rw [field_stored row, Option.map_map]
    exact congrArg (r.2.map ·) (funext joined_identityList)
  · intro r hr
    have row : (r.1, r.2.map fun n : Nat => Value.int n) ∈
        storedRows host now messageId reason evidence q := by
      simp only [storedRows, stateRows, List.mem_append]
      exact Or.inl (Or.inr (List.mem_map_of_mem hr))
    rw [field_stored row, Option.map_map]
    rfl

/-- A check of a text that is stored under its name passes. -/
theorem checked_stored {name s : String}
    (row : (name, some (textValue s)) ∈ storedRows host now messageId reason evidence q) :
    (stateField (readBack (storedRows host now messageId reason evidence q)) name).any
      (valueIsText s) = true := by
  rw [text_stored row, Option.any_some, textValue, valueIsText, decide_eq_true rfl]

/-- A field that is the evidence's own agrees with it. -/
theorem stateAgrees_of {α : Type} {name : String} {value : Option α} {text : α → String}
    {agrees : String → Value → Bool} {f : α → Value} (field : stateField members name = value.map f)
    (each : ∀ a ∈ value, agrees (text a) (f a) = true) :
    stateAgrees members name (value.map text) agrees = true := by
  cases value with
  | none => rw [Option.map_none, stateAgrees, field]; rfl
  | some a =>
      rw [Option.map_some, stateAgrees, field, Option.map_some, Option.any_some]
      exact each a rfl

theorem mapM_text {items : List Value} {texts : List Points} :
    items.mapM (fun v => match v with | .str t => some t | _ => none) = some texts ↔
      items = texts.map .str := by
  induction items generalizing texts with
  | nil => cases texts <;> simp
  | cons v vs ih =>
      rw [List.mapM_cons, Option.bind_eq_bind, Option.bind_eq_some_iff]
      constructor
      · rintro ⟨t, first, rest⟩
        obtain ⟨ts, others, result⟩ := Option.bind_eq_some_iff.mp rest
        obtain rfl := Option.some.inj result
        cases v with
        | str s => rw [← Option.some.inj first, ih.mp others, List.map_cons]
        | null | bool b | int n | float t | arr items | obj members => cases first
      · intro same
        cases texts with
        | nil => cases same
        | cons t ts =>
            obtain ⟨rfl, rfl⟩ := List.cons.inj same
            exact ⟨t, rfl, Option.bind_eq_some_iff.mpr ⟨ts, ih.mpr rfl, rfl⟩⟩

theorem valueIsTexts_iff {texts : List Points} {v : Value} :
    valueIsTexts texts v = true ↔ v = identityList texts := by
  cases v with
  | arr items =>
      rw [valueIsTexts, decide_eq_true_eq, identityList, Value.arr.injEq]
      exact mapM_text
  | null | bool b | int n | float t | str t | obj members => simp [valueIsTexts, identityList]

theorem valueIsText_iff {text : String} {v : Value} :
    valueIsText text v = true ↔ v = textValue text := by
  cases v with
  | str t => rw [valueIsText, decide_eq_true_eq, textValue, Value.str.injEq]
  | null | bool b | int n | float t | arr items | obj members => simp [valueIsText, textValue]

/-- The state of a call that gives what its evidence has is read, with its evidence. -/
theorem read_stored (settled : Settled host messageId evidence) (matched : Matched evidence q)
    (covers : Covers evidence q) :
    readQuarantineState host messageId (String.ofList
        (Value.obj (membersOf (storedRows host now messageId reason evidence q))).write) =
      some (readBack (storedRows host now messageId reason evidence q), evidence) := by
  obtain ⟨distinct, known⟩ := storedRows_names host now messageId reason evidence q
  have back := returned_stored now reason q settled
  refine readQuarantineState_ok.mpr
    ⟨loads_membersOf distinct (readable_stored settled matched), evidence, ?_⟩
  constructor
  case known =>
    intro m hm
    obtain ⟨r, hr, same⟩ := known_readBack hm
    exact ⟨r.1, known r hr, same⟩
  case schema => exact checked_stored (by simp [storedRows, stateRows])
  case status => exact checked_stored (by simp [storedRows, stateRows])
  case message => exact checked_stored (by simp [storedRows, stateRows])
  case digest => exact checked_stored (by simp [storedRows, stateRows])
  case kind => exact checked_stored (by simp [storedRows, stateRows])
  case canonical => exact settled.canonical
  case held =>
    rw [evidence_stored settled]
    exact fieldsOf_texts evidence
  case closed =>
    have names := distinct
    rw [storedRows, List.map_append] at names
    rw [storedRows, digest_readBack (List.nodup_append.mp names).1]
    exact checked_stored (by simp [storedRows])
  case texts =>
    intro name hn
    obtain ⟨r, hr, rfl⟩ := List.mem_map.mp (show name ∈ q.texts.map (·.1) from hn)
    have own : evidence.lookup r.1 = r.2.map id := by
      cases value : r.2 with
      | none => exact covers.texts r hr value
      | some text => exact matched.texts r hr text value
    rw [own]
    exact stateAgrees_of (back.texts r hr) fun text _ => decide_eq_true rfl
  case lists =>
    intro name hn
    obtain ⟨r, hr, rfl⟩ := List.mem_map.mp (show name ∈ q.lists.map (·.1) from hn)
    have own : evidence.lookup (r.1 ++ "_json") = r.2.map identityJson := by
      cases value : r.2 with
      | none => exact covers.lists r hr value
      | some ids => exact matched.lists r hr ids value
    rw [own]
    refine stateAgrees_of (back.lists r hr) fun ids given => ?_
    rw [list_of_evident settled hn (matched.lists r hr ids given)]
    exact valueIsTexts_iff.mpr rfl
  case counters =>
    intro name hn
    obtain ⟨r, hr, rfl⟩ := List.mem_map.mp (show name ∈ q.counters.map (·.1) from hn)
    have own : evidence.lookup r.1 = r.2.map toString := by
      cases value : r.2 with
      | none => exact covers.counters r hr value
      | some n => exact matched.counters r hr n value
    rw [own]
    refine stateAgrees_of (back.counters r hr) fun n _ => ?_
    rw [digitsToNat_toString]
    exact decide_eq_true rfl

/-! ### Every accepted text -/

/-- The fields of the members and of the evidence are there together, and hold the same. -/
structure InStep (host : QueueHost) (members : List (Points × Value)) (evidence : Fields) : Prop where
  texts : ∀ name ∈ ["scan_id", "organization_id", "authorization_request_id",
    "queue_binding_digest", "manifest_hash"],
    Option.Rel (fun text v => v = textValue text) (evidence.lookup name) (stateField members name)
  lists : ∀ name ∈ ["execution_ids", "operation_ids"],
    Option.Rel (fun text v => loads text.toList = some v) (evidence.lookup (name ++ "_json"))
      (stateField members name)
  counters : ∀ name ∈ ["attempt_count", "max_attempts"],
    Option.Rel (fun text v => valueIsNumber host (digitsToNat text) v = true) (evidence.lookup name)
      (stateField members name)

theorem rel_of_stateAgrees {name : String} {own : Option String} {agrees : String → Value → Bool}
    {same : String → Value → Prop} (h : stateAgrees members name own agrees = true)
    (each : ∀ text v, agrees text v = true → same text v) :
    Option.Rel same own (stateField members name) := by
  cases own with
  | none =>
      rw [stateAgrees, Option.isNone_iff_eq_none] at h
      rw [h]
      exact .none
  | some text =>
      cases field : stateField members name with
      | none =>
          rw [stateAgrees, field] at h
          cases h
      | some v =>
          rw [stateAgrees, field, Option.any_some] at h
          exact .some (each text v h)

/-- The members of an accepted text are in step with its evidence. -/
theorem inStep_of_read (read : ReadState host messageId members given evidence) :
    InStep host members evidence := by
  refine ⟨?_, ?_, ?_⟩
  · intro name hn
    exact rel_of_stateAgrees (read.texts name hn) fun text v same => valueIsText_iff.mp same
  · intro name hn
    refine rel_of_stateAgrees (read.lists name hn) fun text v same => ?_
    cases listed : (loadList text).bind fun items => items.mapM listedIdentity with
    | none =>
        rw [listed] at same
        cases same
    | some ids =>
        rw [listed] at same
        obtain ⟨items, loaded, identities⟩ := Option.bind_eq_some_iff.mp listed
        obtain ⟨rfl, -⟩ := mapM_listedIdentity.mp identities
        rw [valueIsTexts_iff.mp same]
        exact loadList_eq_some.mp loaded
  · intro name hn
    exact rel_of_stateAgrees (read.counters name hn) fun text v same => same

/-- A state reads only where its call gives what its evidence has. -/
theorem covers_of_read (settled : Settled host messageId evidence) (matched : Matched evidence q)
    {state : List (Points × Value) × Fields}
    (read : readQuarantineState host messageId (String.ofList
        (Value.obj (membersOf (storedRows host now messageId reason evidence q))).write) =
      some state) : Covers evidence q := by
  obtain ⟨ms, e⟩ := state
  obtain ⟨loaded, given, h⟩ := readQuarantineState_ok.mp read
  rw [loads_membersOf (storedRows_names ..).1 (readable_stored settled matched), Option.some.injEq,
    Value.obj.injEq] at loaded
  subst loaded
  -- The evidence that is read is the evidence that was stored.
  have held := h.held
  rw [evidence_stored settled, Option.bind_some, fieldsOf_texts] at held
  obtain rfl := Option.some.inj held
  obtain rfl := Except.ok.inj (settled.canonical.symm.trans h.canonical)
  have back := returned_stored now reason q settled
  have step := inStep_of_read h
  have gone {same : String → Value → Prop} {own : Option String} {name : String}
      (rel : Option.Rel same own
        (stateField (readBack (storedRows host now messageId reason evidence q)) name))
      (none : stateField (readBack (storedRows host now messageId reason evidence q)) name = none) :
      own = Option.none := by
    rw [none] at rel
    cases rel
    rfl
  refine ⟨fun r hr none => ?_, fun r hr none => ?_, fun r hr none => ?_⟩
  · refine gone (step.texts r.1 (List.mem_map_of_mem (f := (·.1)) hr)) ?_
    rw [back.texts r hr, none, Option.map_none]
  · refine gone (step.lists r.1 (List.mem_map_of_mem (f := (·.1)) hr)) ?_
    rw [back.lists r hr, none, Option.map_none]
  · refine gone (step.counters r.1 (List.mem_map_of_mem (f := (·.1)) hr)) ?_
    rw [back.counters r hr, none, Option.map_none]

/-! ### Over the server -/

namespace DurableQueue

variable {queue : DurableQueue} {w w' : World} {r r' : Redis} {fields : Fields} {acknowledge : Bool}

theorem quarantineStateKey_ne_quarantineKey (m n : String) :
    queue.quarantineStateKey m ≠ queue.quarantineKey n :=
  key_ne 12 (by decide) (by decide) (by decide) _ _

/-- A call that commits has stored the state of its canonical evidence. -/
theorem run_quarantine
    (committed : (queue.quarantine messageId reason q fields acknowledge).run (Redis.answer w) r =
      (.ok (), r')) :
    ∃ evidence text, canonicalFailureEvidence queue.host messageId fields true = .ok evidence ∧
      quarantineState queue.host w.now messageId reason evidence q = .ok text ∧
      r'.store (queue.quarantineStateKey messageId) = some ⟨text, none⟩ := by
  rw [quarantine] at committed
  cases canonical : canonicalFailureEvidence queue.host messageId fields true with
  | error e =>
      rw [canonical] at committed
      cases committed
  | ok evidence =>
      rw [canonical] at committed
      simp only [Program.bind_eq, Program.ofExcept_ok, Program.ret_bind, Program.command_bind,
        Program.run_ask, Redis.answer] at committed
      cases made : quarantineState queue.host w.now messageId reason evidence q with
      | error e =>
          rw [made] at committed
          cases committed
      | ok text =>
          rw [made] at committed
          refine ⟨evidence, text, rfl, made, ?_⟩
          have apart : queue.quarantineStateKey messageId ≠ queue.quarantineKey messageId :=
            quarantineStateKey_ne_quarantineKey messageId messageId
          obtain rfl := (Prod.mk.inj committed).2
          cases acknowledge <;>
            simp [Redis.answer, Redis.write, Redis.set, Redis.xaddFailure, Redis.xack, apart]

/-- A call whose evidence is accepted, and that agrees with it, commits. -/
theorem commits (w : World) (r : Redis) (reason : String) (acknowledge : Bool)
    (distinct : (fields.map (·.1)).Nodup)
    (evident : Evident queue.host messageId fields true) (matched : Matched fields q) :
    ∃ r', (queue.quarantine messageId reason q fields acknowledge).run (Redis.answer w) r =
      (.ok (), r') := by
  have found (name : String) : (sortKeys fields).lookup name = fields.lookup name :=
    lookup_sortKeys distinct name
  have agrees : Matched (sortKeys fields) q := by
    refine ⟨fun r hr value given => ?_, fun r hr ids given => ?_, fun r hr n given => ?_⟩
    · rw [found, matched.texts r hr value given]
    · rw [found, matched.lists r hr ids given]
    · rw [found, matched.counters r hr n given]
  have made : quarantineState queue.host w.now messageId reason (sortKeys fields) q = .ok _ :=
    quarantineState_ok.mpr ⟨agrees, rfl⟩
  have canonical := canonical_ok.mpr ⟨evident, rfl⟩
  simp only [quarantine, canonical, Program.bind_eq, Program.ofExcept_ok, Program.ret_bind,
    Program.command_bind, Program.run_ask, Redis.answer, made]
  exact ⟨_, rfl⟩

/-- The state of a call that commits holds what the call was given, and reads exactly where the call
gives what its evidence has. -/
theorem given_back (w' : World) (distinct : (fields.map (·.1)).Nodup)
    (committed : (queue.quarantine messageId reason q fields acknowledge).run (Redis.answer w) r =
      (.ok (), r')) :
    ∃ evidence members, canonicalFailureEvidence queue.host messageId fields true = .ok evidence ∧
      GivenBack reason (fields.lookup "message_kind") q members ∧
      (Covers fields q → (queue.getQuarantineState messageId).run (Redis.answer w') r' =
        (.ok (some (members, evidence)), r')) ∧
      (¬ Covers fields q → (queue.getQuarantineState messageId).run (Redis.answer w') r' =
        (.ok none, r')) := by
  obtain ⟨evidence, text, canonical, made, stored⟩ := run_quarantine committed
  obtain ⟨settled, found⟩ := settled_of_canonical distinct canonical
  obtain ⟨matched, rfl⟩ := quarantineState_ok.mp made
  have own : Covers evidence q ↔ Covers fields q :=
    ⟨fun ⟨t, l, c⟩ => ⟨by simpa only [found] using t, by simpa only [found] using l,
      by simpa only [found] using c⟩,
    fun ⟨t, l, c⟩ => ⟨by simpa only [found] using t, by simpa only [found] using l,
      by simpa only [found] using c⟩⟩
  refine ⟨evidence, readBack (storedRows queue.host w.now messageId reason evidence q), canonical,
    ?_, fun covers => ?_, fun lacks => ?_⟩
  · rw [← found]
    exact returned_stored w.now reason q settled
  · rw [run_getQuarantineState, storedQuarantine, stored, Option.some_or, Option.bind_some,
      read_stored settled matched (own.mpr covers)]
  · rw [run_getQuarantineState, storedQuarantine, stored, Option.some_or, Option.bind_some]
    cases read : readQuarantineState queue.host messageId (String.ofList (Value.obj (membersOf
        (storedRows queue.host w.now messageId reason evidence q))).write) with
    | none => rfl
    | some state => exact absurd (own.mp (covers_of_read settled matched read)) lacks

/-- What a call that commits was given is read again, reason in its safe form and lists joined, where
it gave what its evidence has; and every text that is read is in step with its evidence. -/
theorem quarantine_codec (queue : DurableQueue) :
    (∀ (w w' : World) (r r' : Redis) (messageId reason : String) (q : QuarantineIdentity)
      (fields : Fields) (acknowledge : Bool), (fields.map (·.1)).Nodup →
      (queue.quarantine messageId reason q fields acknowledge).run (Redis.answer w) r =
        (.ok (), r') → Covers fields q →
      ∃ evidence members, canonicalFailureEvidence queue.host messageId fields true = .ok evidence ∧
        (queue.getQuarantineState messageId).run (Redis.answer w') r' =
          (.ok (some (members, evidence)), r') ∧
        GivenBack reason (fields.lookup "message_kind") q members) ∧
    ∀ (messageId raw : String) (members : List (Points × Value)) (evidence : Fields),
      readQuarantineState queue.host messageId raw = some (members, evidence) →
        InStep queue.host members evidence := by
  constructor
  · intro w w' r r' messageId reason q fields acknowledge distinct committed covers
    obtain ⟨evidence, members, canonical, back, reads, -⟩ := given_back w' distinct committed
    exact ⟨evidence, members, canonical, reads covers, back⟩
  · intro messageId raw members evidence read
    obtain ⟨-, given, h⟩ := readQuarantineState_ok.mp read
    exact inStep_of_read h

end DurableQueue

/-! ### Calls -/

namespace QueueSample

variable (s : QueueSample)

/-- The evidence of the first attempt, escalated. -/
def quarantineFields : Fields :=
  DurableQueue.evidenceOf "1700000000000-0" world.now "RuntimeError" s.binding 1 5 true

/-- What a call gives with it. -/
def quarantineIdentity : QuarantineIdentity where
  scanId := some "scan-1"
  organizationId := some "org-1"
  authorizationRequestId := some "request-1"
  queueBindingDigest := some s.digest
  manifestHash := some manifestHash
  executionIds := some [s.execution]
  operationIds := some [points "operation-1"]
  attemptCount := some 1
  maxAttempts := some 5

theorem quarantineFields_evident (joined : Joined s.execution)
    (keeps : DurableQueue.Retainable s.binding) :
    Evident s.queue.host "1700000000000-0" s.quarantineFields true := by
  have accepted : validateWireMessage s.queue.host s.entry =
      .ok ⟨authoritativeKind, "scan-1", some "org-1", some "request-1"⟩ :=
    (s.entry_agrees joined).accepted
  obtain ⟨-, ok⟩ := DurableQueue.accepted_of_wire accepted rfl (s.entry_read joined)
  exact (DurableQueue.evident_evidenceOf ok (by decide) (by decide) (by decide) (Nat.le_refl 1)
    (by decide : 1 ≤ 5) true fun _ => rfl).mpr keeps

theorem matched_quarantineIdentity {executions : List Points}
    (written : identityJson executions = identityJson [s.execution]) :
    Matched s.quarantineFields { s.quarantineIdentity with executionIds := some executions } := by
  refine ⟨?_, ?_, ?_⟩
  · simp only [QuarantineIdentity.texts, quarantineIdentity, List.forall_mem_cons, List.not_mem_nil,
      false_implies, implies_true, and_true, Option.mem_some_iff, forall_eq']
    exact ⟨rfl, rfl, rfl, rfl, rfl⟩
  · simp only [QuarantineIdentity.lists, quarantineIdentity, List.forall_mem_cons, List.not_mem_nil,
      false_implies, implies_true, and_true, Option.mem_some_iff, forall_eq', written]
    exact ⟨rfl, rfl⟩
  · simp only [QuarantineIdentity.counters, quarantineIdentity, List.forall_mem_cons,
      List.not_mem_nil, false_implies, implies_true, and_true, Option.mem_def]
    constructor
    · rintro n ⟨⟩
      rfl
    · rintro n ⟨⟩
      rfl

theorem covers_quarantineIdentity (executions : List Points) :
    Covers s.quarantineFields { s.quarantineIdentity with executionIds := some executions } := by
  refine ⟨?_, ?_, ?_⟩
  · simp [QuarantineIdentity.texts, quarantineIdentity]
  · simp [QuarantineIdentity.lists, quarantineIdentity]
  · simp [QuarantineIdentity.counters, quarantineIdentity]

/-- The call of the plain execution gives what its evidence has, and is given it back. -/
theorem plain_given_back :
    ∃ (r' : Redis) (evidence : Fields) (members : List (Points × Value)),
      (plain.queue.quarantine "1700000000000-0" "RuntimeError" plain.quarantineIdentity
        plain.quarantineFields false).run (Redis.answer world) Redis.empty = (.ok (), r') ∧
      (plain.queue.getQuarantineState "1700000000000-0").run (Redis.answer world) r' =
        (.ok (some (members, evidence)), r') ∧
      GivenBack "RuntimeError" (some authoritativeKind) plain.quarantineIdentity members := by
  obtain ⟨r', committed⟩ := DurableQueue.commits world Redis.empty "RuntimeError" false
    DurableQueue.evidenceOf_distinct
    (plain.quarantineFields_evident (joined_points _) plain_retainable)
    (plain.matched_quarantineIdentity rfl)
  obtain ⟨evidence, members, -, read, back⟩ := (DurableQueue.quarantine_codec plain.queue).1 world
    world Redis.empty r' _ _ _ _ false DurableQueue.evidenceOf_distinct committed
    (plain.covers_quarantineIdentity _)
  exact ⟨r', evidence, members, committed, read, back⟩

/-- The evidence of a message of no clear kind. -/
def ambiguousFields : Fields :=
  [("message_id", "1700000000000-0"), ("dispatch_message_id", "1700000000000-0"),
    ("error_code", "worker-lost"), ("failure_category", "AMBIGUOUS_QUEUE_MESSAGE"),
    ("failure_observed_at", "2026-01-01T00:00:00+00:00"), ("requeue_required", "1"),
    ("escalated", "1"), ("quarantined", "1"), ("message_kind", ambiguousKind),
    ("scan_id", "scan-1")]

theorem ambiguousFields_evident (host : QueueHost) :
    Evident host "1700000000000-0" ambiguousFields true where
  known := by decide
  safe := by decide
  complete := by decide
  message := rfl
  dispatched := rfl
  flagged := by decide
  marked _ := rfl
  kind := by decide
  legacy := by decide
  organization := rfl
  request := rfl
  tenant := by decide
  identity := rfl
  attempts := rfl
  bound := rfl
  within attempts _ counted _ := nomatch counted

/-- What a call gives with it: a scan, and how many attempts there were. -/
def ambiguousIdentity (scanId : Option String) (attempts : Nat) : QuarantineIdentity where
  scanId := scanId
  organizationId := none
  authorizationRequestId := none
  queueBindingDigest := none
  manifestHash := none
  executionIds := none
  operationIds := none
  attemptCount := some attempts
  maxAttempts := none

theorem ambiguous_commits (reason : String) (scanId : Option String)
    (own : ∀ scan ∈ scanId, scan = "scan-1") :
    ∃ r', (plain.queue.quarantine "1700000000000-0" reason (ambiguousIdentity scanId 0)
      ambiguousFields false).run (Redis.answer world) Redis.empty = (.ok (), r') := by
  refine DurableQueue.commits world Redis.empty reason false (by decide) (ambiguousFields_evident _) ⟨?_, ?_, ?_⟩
  · simp only [QuarantineIdentity.texts, ambiguousIdentity, List.forall_mem_cons, List.not_mem_nil,
      false_implies, implies_true, and_true, Option.not_mem_none]
    intro scan given
    rw [own scan given]
    rfl
  · simp [QuarantineIdentity.lists, ambiguousIdentity]
  · simp [QuarantineIdentity.counters, ambiguousIdentity]

/-- An execution whose identity is one character beyond the basic plane. -/
def pictured : QueueSample where
  execution := [0x1F600]
  digest := "0e39736233e789a2f15255b24b4335934e35f21178282f1b638a627644e6b422"
  identity_ok := face.identity_ok
  digest_ok := face.digest_ok

theorem pictured_retainable : DurableQueue.Retainable pictured.binding where
  executions := List.forall_mem_singleton.mpr (by decide)
  operations := List.forall_mem_singleton.mpr (by decide)
  executionsFit := by decide
  operationsFit := by decide

/-- Some call that commits is not given back its reason and its counter, some not its list, and the
state of some does not read. -/
theorem not_given_back :
    (∃ (r' : Redis) (state : List (Points × Value) × Fields),
      (plain.queue.quarantine "1700000000000-0" "worker lost" (ambiguousIdentity (some "scan-1") 0)
        ambiguousFields false).run (Redis.answer world) Redis.empty = (.ok (), r') ∧
      (plain.queue.getQuarantineState "1700000000000-0").run (Redis.answer world) r' =
        (.ok (some state), r') ∧
      stateField state.1 "reason" ≠ some (textValue "worker lost") ∧
      stateField state.1 "attempt_count" ≠ some (.int 0)) ∧
    (∃ (r' : Redis) (state : List (Points × Value) × Fields),
      (pictured.queue.quarantine "1700000000000-0" "RuntimeError"
        { pictured.quarantineIdentity with executionIds := some [[0xD83D, 0xDE00]] }
        pictured.quarantineFields false).run (Redis.answer world) Redis.empty = (.ok (), r') ∧
      (pictured.queue.getQuarantineState "1700000000000-0").run (Redis.answer world) r' =
        (.ok (some state), r') ∧
      stateField state.1 "execution_ids" ≠ some (identityList [[0xD83D, 0xDE00]])) ∧
    ∃ r' : Redis,
      (plain.queue.quarantine "1700000000000-0" "worker-lost" (ambiguousIdentity none 0)
        ambiguousFields false).run (Redis.answer world) Redis.empty = (.ok (), r') ∧
      (plain.queue.getQuarantineState "1700000000000-0").run (Redis.answer world) r' =
        (.ok none, r') := by
  refine ⟨?_, ?_, ?_⟩
  · obtain ⟨r', committed⟩ := ambiguous_commits "worker lost" (some "scan-1") (by simp)
    obtain ⟨evidence, members, -, back, reads, -⟩ :=
      DurableQueue.given_back world (by decide) committed
    refine ⟨r', (members, evidence), committed, reads ⟨?_, ?_, ?_⟩, ?_, ?_⟩
    · simp [QuarantineIdentity.texts, ambiguousIdentity, ambiguousFields, List.lookup]
    · simp [QuarantineIdentity.lists, ambiguousIdentity, ambiguousFields, List.lookup]
    · simp [QuarantineIdentity.counters, ambiguousIdentity, ambiguousFields, List.lookup]
    · rw [back.reason]
      intro same
      have text : safeReason "worker lost" = "worker lost" :=
        points_inj (Value.str.inj (Option.some.inj same))
      exact absurd text (by decide)
    · have field : stateField members "attempt_count" = none :=
        back.counters ("attempt_count", none) List.mem_cons_self
      rw [field]
      rintro ⟨⟩
  · have written : identityJson [[0xD83D, 0xDE00]] = identityJson [pictured.execution] :=
      (identityJson_joinPairs [[0xD83D, 0xDE00]]).symm
    obtain ⟨r', committed⟩ := DurableQueue.commits world Redis.empty "RuntimeError"
      false DurableQueue.evidenceOf_distinct
      (pictured.quarantineFields_evident (List.isChain_singleton _) pictured_retainable)
      (pictured.matched_quarantineIdentity written)
    obtain ⟨evidence, members, -, back, reads, -⟩ := DurableQueue.given_back world
      DurableQueue.evidenceOf_distinct committed
    refine ⟨r', (members, evidence), committed, reads (pictured.covers_quarantineIdentity _), ?_⟩
    rw [back.lists ("execution_ids", some [[0xD83D, 0xDE00]]) List.mem_cons_self]
    intro same
    have ids := map_str_inj (Value.arr.inj (Option.some.inj same))
    exact absurd ids (by decide)
  · obtain ⟨r', committed⟩ := ambiguous_commits "worker-lost" none (by simp)
    obtain ⟨evidence, members, -, -, -, lacks⟩ :=
      DurableQueue.given_back world (by decide) committed
    refine ⟨r', committed, lacks fun covers => ?_⟩
    have scan := covers.texts ("scan_id", none) List.mem_cons_self rfl
    cases scan

end QueueSample

end CyberAssess
