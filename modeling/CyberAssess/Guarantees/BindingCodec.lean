import Mathlib.Data.List.Nodup
import CyberAssess.Guarantees.WireAgreement

/-!
# Guarantees — the wire form of a binding

What `QueueDispatchBinding.create` makes is sent as eight fields, and read back with `from_payload`.

* `QueueDispatchBinding.payload` are the eight fields, `WireCodec` what is promised of them.
* `create_perm`: the order in which the pairs are supplied makes no difference.
* `binding_codec`: the binding comes back where the identities of its lists are joined, and an accepted
  payload differs from the one of its binding in the spelling of the two lists only.
-/

namespace CyberAssess

open Python
open Checked (ensure refuse require bind_ok exists_unit ensure_ok refuse_ok require_ok)

namespace QueueDispatchBinding

/-- The eight fields the producer sends. -/
def payload (b : QueueDispatchBinding) : Fields :=
  [("scan_id", b.scanId), ("organization_id", b.organizationId),
    ("authorization_request_id", b.authorizationRequestId), ("manifest_hash", b.manifestHash),
    ("execution_ids_json", identityJson b.executionIds),
    ("operation_ids_json", identityJson b.operationIds),
    ("queue_binding_digest", b.queueBindingDigest),
    ("queue_binding_schema_version", b.schemaVersion)]

/-- The two fields that hold a list. -/
def listFields : List String := ["execution_ids_json", "operation_ids_json"]

/-- The identities of the two lists are joined: none has the two halves of a character side by side. -/
def JoinedIds (b : QueueDispatchBinding) : Prop :=
  (∀ id ∈ b.executionIds, Joined id) ∧ ∀ id ∈ b.operationIds, Joined id

/-! ### The order of the pairs -/

/-- What is asked of the identities of a list, in whatever order they stand. -/
def checkIdentities (label : String) (ids : List Points) : Except PyException Unit := do
  ensure (ids.all fun id => (listedIdentity (.str id)).isSome)
    (valueError s!"queue binding {label} identity is invalid")
  ensure (decide ids.Nodup) (valueError s!"queue binding {label} identities are duplicated")

theorem checkIdentities_ok {label : String} {ids : List Points} {u : Unit}
    (h : checkIdentities label ids = .ok u) : ids.Nodup := by
  simp only [checkIdentities, bind_ok, exists_unit, ensure_ok, decide_eq_true_eq] at h
  exact h.2

theorem checkIdentities_perm (label : String) {ids ids' : List Points} (perm : ids.Perm ids') :
    checkIdentities label ids = checkIdentities label ids' := by
  rw [checkIdentities, checkIdentities, perm.all_eq, decide_eq_decide.mpr perm.nodup_iff]

/-- The identities of a list are checked, and are the list. -/
theorem listedIdentities_map (label : String) (ids : List Points) :
    listedIdentities label (ids.map .str) = checkIdentities label ids >>= fun _ => .ok ids := by
  have read : (ids.map Value.str).mapM listedIdentity =
      if (ids.all fun id => (listedIdentity (.str id)).isSome) = true then some ids else none := by
    split
    · rename_i all
      refine mapM_listedIdentity.mpr ⟨rfl, fun id hid => ?_⟩
      obtain ⟨id', some⟩ := Option.isSome_iff_exists.mp (List.all_eq_true.mp all id hid)
      obtain ⟨same, ok⟩ := listedIdentity_eq_some.mp some
      cases same
      exact ok
    · rename_i invalid
      refine Option.eq_none_iff_forall_not_mem.mpr fun ids' read => invalid ?_
      obtain ⟨same, ok⟩ := mapM_listedIdentity.mp read
      obtain rfl := map_str_inj same
      refine List.all_eq_true.mpr fun id hid => ?_
      rw [listedIdentity_eq_some.mpr ⟨rfl, ok id hid⟩, Option.isSome_some]
  rw [listedIdentities, checkIdentities, read]
  cases ids.all fun id => (listedIdentity (.str id)).isSome with
  | false => rfl
  | true =>
      by_cases distinct : ids.Nodup
      · simp [require, ensure, distinct, bind, Except.bind, pure, Except.pure]
      · simp [require, ensure, distinct, bind, Except.bind]

/-- Pairs in the order of their operations. -/
def ordered (pairs : List (Points × Points)) : List (Points × Points) :=
  pairs.mergeSort fun p q => decide (p.1 ≤ q.1)

theorem sortedPairs_map (pairs : List (Points × Points)) :
    sortedPairs (pairs.map (·.1)) (pairs.map (·.2)) = ordered pairs := by
  have zipped : pairs = (pairs.map (·.1)).zip (pairs.map (·.2)) := List.zip_of_prod rfl rfl
  rw [sortedPairs, ordered, ← zipped]

theorem ordered_perm (pairs : List (Points × Points)) : (ordered pairs).Perm pairs :=
  List.mergeSort_perm pairs _

theorem ordered_pairwise (pairs : List (Points × Points)) :
    (ordered pairs).Pairwise fun p q => p.1 ≤ q.1 := by
  rw [← sortedPairs_map]
  exact sortedPairs_pairwise _ _

/-- Where the operations are distinct, their order fixes the pairs. -/
theorem ordered_eq {pairs pairs' : List (Points × Points)} (perm : pairs.Perm pairs')
    (distinct : (pairs.map (·.1)).Nodup) : ordered pairs = ordered pairs' := by
  have same : (ordered pairs).Perm (ordered pairs') :=
    (ordered_perm pairs).trans (perm.trans (ordered_perm pairs').symm)
  refine same.eq_of_pairwise ?_ (ordered_pairwise pairs) (ordered_pairwise pairs')
  intro p q hp hq below above
  have apart := List.inj_on_of_nodup_map (f := fun p : Points × Points => p.1) distinct
  exact apart ((ordered_perm pairs).subset hp)
    ((perm.trans (ordered_perm pairs').symm).symm.subset hq) (le_antisymm below above)

/-- What `create` does with a list of pairs. -/
theorem create_pairs {host : QueueHost} (hex : ∀ text, isHexDigest (host.sha256 text) = true)
    (scanId organizationId authorizationRequestId manifestHash : String)
    (pairs : List (Points × Points)) :
    create host scanId organizationId authorizationRequestId manifestHash (pairs.map (·.2))
        (pairs.map (·.1)) = (do
      let named (name value : String) := ensure (nonBlankUpTo 256 value)
        (valueError s!"queue binding {name} is invalid")
      named "scan_id" scanId
      named "organization_id" organizationId
      named "authorization_request_id" authorizationRequestId
      named "manifest_hash" manifestHash
      ensure (isHexDigest manifestHash) (valueError "queue binding manifest hash is invalid")
      ensure (!pairs.isEmpty) (valueError "queue binding operation/execution set is incomplete")
      checkIdentities "execution" (pairs.map (·.2))
      checkIdentities "operation" (pairs.map (·.1))
      return ⟨scanId, organizationId, authorizationRequestId, manifestHash,
        (ordered pairs).map (·.2), (ordered pairs).map (·.1),
        CyberAssess.queueBindingDigest host scanId organizationId authorizationRequestId manifestHash
          ((ordered pairs).map (·.2)) ((ordered pairs).map (·.1)), "queue-dispatch-binding-v1"⟩) := by
  have digest : isHexDigest (CyberAssess.queueBindingDigest host scanId organizationId
      authorizationRequestId manifestHash ((ordered pairs).map (·.2))
      ((ordered pairs).map (·.1))) = true := hex _
  have executions := checkIdentities_perm "execution" ((ordered_perm pairs).map (·.2))
  have operations := checkIdentities_perm "operation" ((ordered_perm pairs).map (·.1))
  have full : (((ordered pairs).map (·.2)).map Value.str).isEmpty = pairs.isEmpty := by
    rw [List.isEmpty_map, List.isEmpty_map, (ordered_perm pairs).isEmpty_eq]
  rw [create, sortedPairs_map, newBinding]
  simp only [nonBlankUpTo_of_isHexDigest digest, digest, listedIdentities_map, executions, operations,
    full, List.length_map]
  have passes (e : PyException) {β : Type} (f : Unit → Except PyException β) :
      (ensure true e >>= f) = f () := rfl
  have returns {α β : Type} (a : α) (f : α → Except PyException β) : (Except.ok a >>= f) = f a := rfl
  simp only [decide_true, Bool.and_true, passes, bind_assoc, returns]

/-- The order in which the pairs are supplied makes no difference. -/
theorem create_perm {host : QueueHost} (hex : ∀ text, isHexDigest (host.sha256 text) = true)
    (scanId organizationId authorizationRequestId manifestHash : String)
    {pairs pairs' : List (Points × Points)} (perm : pairs.Perm pairs') :
    create host scanId organizationId authorizationRequestId manifestHash (pairs.map (·.2))
        (pairs.map (·.1)) =
      create host scanId organizationId authorizationRequestId manifestHash (pairs'.map (·.2))
        (pairs'.map (·.1)) := by
  rw [create_pairs hex, create_pairs hex, perm.isEmpty_eq, checkIdentities_perm _ (perm.map (·.2)),
    ← checkIdentities_perm _ (perm.map (·.1))]
  cases checked : checkIdentities "operation" (pairs.map (·.1)) with
  | ok u => rw [ordered_eq perm (checkIdentities_ok checked)]
  | error e => rfl

/-! ### The payload -/

/-- The payload carries the binding exactly where its identities are joined. -/
theorem carries_payload {b : QueueDispatchBinding} : Carries b.payload b ↔ b.JoinedIds := by
  constructor
  · exact Carries.joined
  · rintro ⟨executions, operations⟩
    exact {
      scanId := rfl
      organizationId := rfl
      authorizationRequestId := rfl
      manifestHash := rfl
      executionIds := loadList_identityJson executions
      operationIds := loadList_identityJson operations
      digest := rfl
      schemaVersion := rfl }

/-- `fields` spell the binding: every text is the one of its payload, and each of the two lists is one
that reads as the payload's. -/
structure Spells (fields : Fields) (b : QueueDispatchBinding) : Prop where
  texts : ∀ name ∈ b.payload.map (·.1), name ∉ listFields →
    fields.lookup name = b.payload.lookup name
  lists : ∀ name ∈ listFields, ∃ text own, fields.lookup name = some text ∧
    b.payload.lookup name = some own ∧ loadList text = loadList own

/-- Fields that carry a binding spell it. -/
theorem spells_of_carries {fields : Fields} {b : QueueDispatchBinding} (h : Carries fields b) :
    Spells fields b := by
  obtain ⟨executions, operations⟩ := h.joined
  constructor
  · intro name mem text
    simp only [payload, List.map_cons, List.map_nil, List.mem_cons, List.not_mem_nil, or_false] at mem
    rcases mem with rfl | rfl | rfl | rfl | rfl | rfl | rfl | rfl
    · exact h.scanId
    · exact h.organizationId
    · exact h.authorizationRequestId
    · exact h.manifestHash
    · exact absurd (by decide) text
    · exact absurd (by decide) text
    · exact h.digest
    · exact h.schemaVersion
  · intro name mem
    rcases List.mem_pair.mp mem with rfl | rfl
    · obtain ⟨text, found, read⟩ := Option.bind_eq_some_iff.mp h.executionIds
      exact ⟨text, _, found, rfl, read.trans (loadList_identityJson executions).symm⟩
    · obtain ⟨text, found, read⟩ := Option.bind_eq_some_iff.mp h.operationIds
      exact ⟨text, _, found, rfl, read.trans (loadList_identityJson operations).symm⟩

/-- Whatever is read as the executions may stand for them. -/
theorem fromPayload_respelled {host : QueueHost} {b : QueueDispatchBinding} {text : String}
    (ok : b.WellFormed host) (inOrder : b.Ordered) (joined : b.JoinedIds)
    (read : loadList text = some (b.executionIds.map .str)) :
    fromPayload host (("execution_ids_json", text) :: b.payload) = .ok b := by
  refine fromPayload_ok.mpr ⟨?_, ok, inOrder⟩
  exact {
    scanId := rfl
    organizationId := rfl
    authorizationRequestId := rfl
    manifestHash := rfl
    executionIds := read
    operationIds := loadList_identityJson joined.2
    digest := rfl
    schemaVersion := rfl }

/-- What is promised of the wire form: what `create` makes comes back from its payload exactly where
its identities are joined, the order of the pairs makes no difference to `create`, and an accepted
payload spells its binding. -/
structure WireCodec (host : QueueHost) : Prop where
  roundTrip : ∀ {scanId organizationId authorizationRequestId manifestHash : String}
    {executionIds operationIds : List Points} {b : QueueDispatchBinding},
    create host scanId organizationId authorizationRequestId manifestHash executionIds operationIds =
      .ok b → (fromPayload host b.payload = .ok b ↔ b.JoinedIds)
  order : ∀ (scanId organizationId authorizationRequestId manifestHash : String)
    {pairs pairs' : List (Points × Points)}, pairs.Perm pairs' →
    create host scanId organizationId authorizationRequestId manifestHash (pairs.map (·.2))
        (pairs.map (·.1)) =
      create host scanId organizationId authorizationRequestId manifestHash (pairs'.map (·.2))
        (pairs'.map (·.1))
  accepted : ∀ {fields : Fields} {b : QueueDispatchBinding},
    fromPayload host fields = .ok b → Spells fields b ∧ fromPayload host b.payload = .ok b

/-- The wire form is a codec, up to the spelling of the two lists. -/
theorem binding_codec {host : QueueHost} (hex : ∀ text, isHexDigest (host.sha256 text) = true) :
    WireCodec host where
  roundTrip := by
    intro scanId organizationId authorizationRequestId manifestHash executionIds operationIds b made
    obtain ⟨-, -, ok⟩ := create_ok.mp made
    rw [fromPayload_ok, carries_payload]
    exact and_iff_left ⟨ok, ordered_of_create made⟩
  order := fun scanId organizationId authorizationRequestId manifestHash _ _ perm =>
    create_perm hex scanId organizationId authorizationRequestId manifestHash perm
  accepted := by
    intro fields b read
    obtain ⟨carried, ok, ordered⟩ := fromPayload_ok.mp read
    exact ⟨spells_of_carries carried, fromPayload_ok.mpr ⟨carries_payload.mpr carried.joined, ok, ordered⟩⟩

end QueueDispatchBinding

namespace QueueSample

/-- The hash of the sample is one of the two constants or its digest. -/
theorem plain_codec : QueueDispatchBinding.WireCodec plain.host :=
  QueueDispatchBinding.binding_codec fun text => by
    change isHexDigest (plain.sha256 text) = true
    rw [sha256]
    split
    · decide
    · split
      · decide
      · exact plain.digest_ok

/-- The payload of the sample, with a space in front of its executions. -/
def shifted : Fields :=
  ("execution_ids_json", " " ++ identityJson plain.binding.executionIds) :: plain.binding.payload

/-- It is accepted, and not what its binding is sent as. -/
theorem shifted_accepted :
    ¬ ∀ (host : QueueHost) (fields : Fields) (b : QueueDispatchBinding),
      QueueDispatchBinding.fromPayload host fields = .ok b →
        ∀ name ∈ b.payload.map (·.1), fields.lookup name = b.payload.lookup name := by
  intro same
  obtain ⟨-, -, ok⟩ := create_ok.mp plain.binding_made
  have joined : plain.binding.JoinedIds :=
    ⟨List.forall_mem_singleton.mpr (joined_points _), List.forall_mem_singleton.mpr (joined_points _)⟩
  have read : loadList (" " ++ identityJson plain.binding.executionIds) =
      some (plain.binding.executionIds.map .str) := by
    have blank : " ".toList = [' '] := by decide
    rw [loadList_eq_some, String.toList_append, blank, identityJson, String.toList_ofList]
    exact loads_write_after (v := .arr (plain.binding.executionIds.map .str))
      (plainItems_of_joined joined.1) [' '] (List.forall_mem_singleton.mpr rfl)
  have accepted : QueueDispatchBinding.fromPayload plain.host shifted = .ok plain.binding :=
    QueueDispatchBinding.fromPayload_respelled ok (ordered_of_create plain.binding_made) joined read
  have named : "execution_ids_json" ∈ plain.binding.payload.map (·.1) := by
    simp [QueueDispatchBinding.payload]
  have found := same plain.host shifted plain.binding accepted "execution_ids_json" named
  have texts : " " ++ identityJson plain.binding.executionIds =
      identityJson plain.binding.executionIds := Option.some.inj found
  have lengths := congrArg String.length texts
  rw [String.length_append] at lengths
  have one : " ".length = 1 := rfl
  omega

end QueueSample

end CyberAssess
