import CyberAssess.Support.Checked
import CyberAssess.Support.JsonReader

/-!
# Queue — the dispatch binding and its wire form

`core/queue.py`: the identities that one queued handoff is bound to.

* `newBinding` is the constructor with `__post_init__`: identities, hashes, lists and the digest.
* `QueueDispatchBinding.create` puts the pairs in the order of their operations;
  `QueueDispatchBinding.fromPayload` reads a binding from its wire fields and refuses one that
  `create` would not have made.
* `newBinding_ok` and `fromPayload_ok` say what each returns.

`[about ours]`: the identity lists are read with `json.loads` and may hold lone surrogates, so their
members are code points; every other text has been through UTF-8.
-/

namespace CyberAssess

open Python
open Checked (ensure refuse require bind_ok exists_unit ensure_ok refuse_ok require_ok)

/-! ### Texts and exceptions -/

/-- What a call raises. `except Exception` catches it unless it is one of the others, such as a
cancellation. -/
structure PyException where
  name : String
  message : String
  isException : Bool := true
deriving DecidableEq

/-- `ValueError(message)`. -/
def valueError (message : String) : PyException where
  name := "ValueError"
  message := message

/-- `RuntimeError(message)`. -/
def runtimeError (message : String) : PyException where
  name := "RuntimeError"
  message := message

/-- A dictionary of texts, in insertion order. -/
abbrev Fields := List (String × String)

/-- `[\x21-\x7e]`. -/
def isGraphic (c : Char) : Bool := 0x21 ≤ c.val.toNat && c.val.toNat ≤ 0x7E

/-- `_safe_queue_text` of a text. -/
def safeQueueText (s : String) : Bool := 1 ≤ s.length && s.length ≤ 256 && s.toList.all isGraphic

/-- A lower-case SHA-256 in hexadecimal. -/
def isHexDigest (s : String) : Bool :=
  s.length = 64 && s.toList.all fun c => "0123456789abcdef".toList.contains c

/-- A printable character is no space. -/
theorem isSpace_of_isGraphic {c : Char} (h : isGraphic c = true) : isSpace c = false := by
  simp only [isGraphic, Bool.and_eq_true, decide_eq_true_eq] at h
  simp only [isSpace, Bool.or_eq_false_iff, Bool.and_eq_false_iff, decide_eq_false_iff_not,
    beq_eq_false_iff_ne]
  omega

/-- A safe text is not blank. -/
theorem nonBlankUpTo_of_safe {s : String} (h : safeQueueText s = true) :
    nonBlankUpTo 256 s = true := by
  simp only [safeQueueText, Bool.and_eq_true, decide_eq_true_eq, List.all_eq_true] at h
  obtain ⟨⟨full, short⟩, graphic⟩ := h
  have solid : isBlank s = false := by
    cases text : s.toList with
    | nil =>
        rw [← String.length_toList, text] at full
        cases full
    | cons c cs =>
        have first := isSpace_of_isGraphic (graphic c (text ▸ List.mem_cons_self))
        rw [isBlank, text, List.all_cons, first, Bool.false_and]
  rw [nonBlankUpTo, solid, decide_eq_true short]
  rfl

/-- A text of printable characters is stripped. -/
theorem strip_of_graphic {s : String} (h : ∀ c ∈ s.toList, isGraphic c = true) : strip s = s := by
  rw [strip, stripChars_eq, String.ofList_toList]
  · intro c hc
    exact isSpace_of_isGraphic (h c (List.mem_of_mem_head? hc))
  · intro c hc
    exact isSpace_of_isGraphic (h c (List.mem_of_mem_getLast? hc))

/-- A digest is a safe text. -/
theorem safe_of_isHexDigest {s : String} (h : isHexDigest s = true) : safeQueueText s = true := by
  simp only [isHexDigest, Bool.and_eq_true, decide_eq_true_eq, List.all_eq_true] at h
  obtain ⟨size, digits⟩ := h
  have graphic : ∀ d ∈ "0123456789abcdef".toList, isGraphic d = true := List.all_eq_true.mp rfl
  simp only [safeQueueText, Bool.and_eq_true, decide_eq_true_eq, List.all_eq_true]
  exact ⟨⟨by omega, by omega⟩, fun c hc => graphic c (List.contains_iff_mem.mp (digits c hc))⟩

/-- What the queue takes from outside: the hash, `float(text) == n`, `str(value)` of a value that is no
text, and the decryption of a credential envelope under its scan and organization. -/
structure QueueHost where
  sha256 : String → String
  floatEq : List Char → Int → Bool
  render : Value → String
  decryptCredentialEnvelope : String → String → String → Except PyException String

/-! ### The binding -/

/-- The value of a text. -/
def textValue (s : String) : Value := .str (points s)

/-- The value of a list of identities. -/
def identityList (ids : List Points) : Value := .arr (ids.map .str)

/-- `json.dumps(list(ids), separators=(",", ":"), ensure_ascii=True)`. -/
def identityJson (ids : List Points) : String := String.ofList (writeTexts ids)

/-- `_queue_binding_digest`. -/
def queueBindingDigest (host : QueueHost) (scanId organizationId authorizationRequestId
    manifestHash : String) (executionIds operationIds : List Points) : String :=
  host.sha256 (String.ofList (Value.obj
    [(points "schema_version", textValue "queue-dispatch-binding-v1"),
     (points "scan_id", textValue scanId),
     (points "organization_id", textValue organizationId),
     (points "authorization_request_id", textValue authorizationRequestId),
     (points "manifest_hash", textValue manifestHash),
     (points "execution_ids", identityList executionIds),
     (points "operation_ids", identityList operationIds)]).write)

/-- `QueueDispatchBinding`. -/
structure QueueDispatchBinding where
  scanId : String
  organizationId : String
  authorizationRequestId : String
  manifestHash : String
  executionIds : List Points
  operationIds : List Points
  queueBindingDigest : String
  schemaVersion : String
deriving DecidableEq

/-- An identity of a list: a text that is not blank, of at most 256 code points. -/
def listedIdentity : Value → Option Points
  | .str s => if !isBlankPoints s && s.length ≤ 256 then some s else none
  | _ => none

/-- The identities of one of the two lists. -/
def listedIdentities (label : String) (values : List Value) : Except PyException (List Points) := do
  let ids ← require (values.mapM listedIdentity) (valueError s!"queue binding {label} identity is invalid")
  ensure (decide ids.Nodup) (valueError s!"queue binding {label} identities are duplicated")
  return ids

/-- The constructor, with `__post_init__`. -/
def newBinding (host : QueueHost) (scanId organizationId authorizationRequestId
    manifestHash : String) (executionIds operationIds : List Value)
    (digest schemaVersion : String) : Except PyException QueueDispatchBinding := do
  let named (name value : String) := ensure (nonBlankUpTo 256 value) (valueError s!"queue binding {name} is invalid")
  named "scan_id" scanId
  named "organization_id" organizationId
  named "authorization_request_id" authorizationRequestId
  named "manifest_hash" manifestHash
  named "queue_binding_digest" digest
  ensure (schemaVersion = "queue-dispatch-binding-v1")
    (valueError "queue binding schema version is unsupported")
  ensure (isHexDigest manifestHash) (valueError "queue binding manifest hash is invalid")
  ensure (isHexDigest digest) (valueError "queue binding digest is invalid")
  ensure (!executionIds.isEmpty && executionIds.length = operationIds.length)
    (valueError "queue binding operation/execution set is incomplete")
  let executionIds ← listedIdentities "execution" executionIds
  let operationIds ← listedIdentities "operation" operationIds
  ensure (digest = queueBindingDigest host scanId organizationId authorizationRequestId manifestHash
      executionIds operationIds)
    (valueError "queue binding digest does not match canonical content")
  return {
    scanId := scanId
    organizationId := organizationId
    authorizationRequestId := authorizationRequestId
    manifestHash := manifestHash
    executionIds := executionIds
    operationIds := operationIds
    queueBindingDigest := digest
    schemaVersion := schemaVersion }

/-- `sorted(zip(operation_ids, execution_ids), key=lambda pair: pair[0])`. -/
def sortedPairs (operationIds executionIds : List Points) : List (Points × Points) :=
  (operationIds.zip executionIds).mergeSort fun p q => decide (p.1 ≤ q.1)

/-- `QueueDispatchBinding.create`. -/
def QueueDispatchBinding.create (host : QueueHost) (scanId organizationId authorizationRequestId
    manifestHash : String) (executionIds operationIds : List Points) :
    Except PyException QueueDispatchBinding := do
  ensure (operationIds.length = executionIds.length)
    (valueError "queue binding operation/execution set is incomplete")
  let pairs := sortedPairs operationIds executionIds
  let orderedOperations := pairs.map (·.1)
  let orderedExecutions := pairs.map (·.2)
  newBinding host scanId organizationId authorizationRequestId manifestHash
    (orderedExecutions.map .str) (orderedOperations.map .str)
    (CyberAssess.queueBindingDigest host scanId organizationId authorizationRequestId manifestHash
      orderedExecutions orderedOperations)
    "queue-dispatch-binding-v1"

/-- The list a wire field holds. -/
def loadList (text : String) : Option (List Value) :=
  match loads text.toList with
  | some (.arr items) => some items
  | _ => none

/-- `QueueDispatchBinding.from_payload`. -/
def QueueDispatchBinding.fromPayload (host : QueueHost) (fields : Fields) :
    Except PyException QueueDispatchBinding := do
  let field (name : String) := require (fields.lookup name) (valueError "queue binding payload is incomplete")
  let scanId ← field "scan_id"
  let organizationId ← field "organization_id"
  let authorizationRequestId ← field "authorization_request_id"
  let manifestHash ← field "manifest_hash"
  let executionIdsJson ← field "execution_ids_json"
  let operationIdsJson ← field "operation_ids_json"
  let digest ← field "queue_binding_digest"
  let schemaVersion ← field "queue_binding_schema_version"
  let executionIds ← require (loadList executionIdsJson) (valueError "queue binding identity lists are malformed")
  let operationIds ← require (loadList operationIdsJson) (valueError "queue binding identity lists are malformed")
  let binding ← newBinding host scanId organizationId authorizationRequestId manifestHash
    executionIds operationIds digest schemaVersion
  let canonical ← QueueDispatchBinding.create host binding.scanId binding.organizationId
    binding.authorizationRequestId binding.manifestHash binding.executionIds binding.operationIds
  ensure (binding = canonical) (valueError "queue binding payload is not canonically ordered")
  return binding

/-! ### What the constructors return -/

/-- One identity of a list is accepted. -/
def IsIdentity (id : Points) : Prop := isBlankPoints id = false ∧ id.length ≤ 256

/-- What every binding has. -/
structure QueueDispatchBinding.WellFormed (host : QueueHost) (b : QueueDispatchBinding) : Prop where
  scanId : nonBlankUpTo 256 b.scanId = true
  organizationId : nonBlankUpTo 256 b.organizationId = true
  authorizationRequestId : nonBlankUpTo 256 b.authorizationRequestId = true
  schemaVersion : b.schemaVersion = "queue-dispatch-binding-v1"
  manifestHash : isHexDigest b.manifestHash = true
  hexDigest : isHexDigest b.queueBindingDigest = true
  nonempty : b.executionIds ≠ []
  paired : b.executionIds.length = b.operationIds.length
  executions : ∀ id ∈ b.executionIds, IsIdentity id
  executionsDistinct : b.executionIds.Nodup
  operations : ∀ id ∈ b.operationIds, IsIdentity id
  operationsDistinct : b.operationIds.Nodup
  digest : b.queueBindingDigest = CyberAssess.queueBindingDigest host b.scanId b.organizationId
    b.authorizationRequestId b.manifestHash b.executionIds b.operationIds

theorem listedIdentity_eq_some {v : Value} {id : Points} :
    listedIdentity v = some id ↔ v = .str id ∧ IsIdentity id := by
  cases v with
  | str s =>
      simp only [listedIdentity, IsIdentity, Bool.and_eq_true, Bool.not_eq_true',
        decide_eq_true_eq, Value.str.injEq, Option.ite_none_right_eq_some, Option.some.injEq]
      constructor
      · rintro ⟨ok, rfl⟩
        exact ⟨rfl, ok⟩
      · rintro ⟨rfl, ok⟩
        exact ⟨ok, rfl⟩
  | null => simp [listedIdentity]
  | bool b => simp [listedIdentity]
  | int n => simp [listedIdentity]
  | float t => simp [listedIdentity]
  | arr items => simp [listedIdentity]
  | obj members => simp [listedIdentity]

theorem mapM_listedIdentity {values : List Value} {ids : List Points} :
    values.mapM listedIdentity = some ids ↔
      values = ids.map .str ∧ ∀ id ∈ ids, IsIdentity id := by
  induction values generalizing ids with
  | nil => cases ids <;> simp
  | cons v vs ih =>
      simp only [List.mapM_cons, Option.bind_eq_bind, Option.pure_def, Option.bind_eq_some_iff,
        Option.some.injEq, listedIdentity_eq_some]
      constructor
      · rintro ⟨id, ⟨rfl, ok⟩, others, rest, rfl⟩
        obtain ⟨rfl, all⟩ := ih.mp rest
        exact ⟨rfl, List.forall_mem_cons.mpr ⟨ok, all⟩⟩
      · rintro ⟨same, all⟩
        cases ids with
        | nil => cases same
        | cons id ids =>
            obtain ⟨rfl, rfl⟩ := List.cons.inj same
            obtain ⟨ok, all⟩ := List.forall_mem_cons.mp all
            exact ⟨id, ⟨rfl, ok⟩, ids, ih.mpr ⟨rfl, all⟩, rfl⟩

theorem listedIdentities_ok {label : String} {values : List Value} {ids : List Points} :
    listedIdentities label values = .ok ids ↔
      values = ids.map .str ∧ (∀ id ∈ ids, IsIdentity id) ∧ ids.Nodup := by
  simp only [listedIdentities, bind_ok, exists_unit, require_ok, ensure_ok, decide_eq_true_eq,
    mapM_listedIdentity]
  constructor
  · rintro ⟨a, ⟨same, ok⟩, distinct, result⟩
    cases result
    exact ⟨same, ok, distinct⟩
  · rintro ⟨same, ok, distinct⟩
    exact ⟨ids, ⟨same, ok⟩, distinct, rfl⟩

/-- A digest is a text. -/
theorem nonBlankUpTo_of_isHexDigest {s : String} (h : isHexDigest s = true) :
    nonBlankUpTo 256 s = true := by
  simp only [isHexDigest, Bool.and_eq_true, decide_eq_true_eq, List.all_eq_true] at h
  obtain ⟨size, digits⟩ := h
  have length : s.toList.length = 64 := by rw [String.length_toList, size]
  cases text : s.toList with
  | nil =>
      rw [text] at length
      cases length
  | cons c cs =>
      have digit := digits c (text ▸ List.mem_cons_self)
      have solid : ∀ d ∈ "0123456789abcdef".toList, isSpace d = false := by
        intro d hd
        exact (Bool.not_eq_true' _).mp (List.all_eq_true.mp
          (show "0123456789abcdef".toList.all (fun d => !isSpace d) = true from rfl) d hd)
      have blank : isBlank s = false := by
        rw [isBlank, text, List.all_cons, solid c (List.contains_iff_mem.mp digit),
          Bool.false_and]
      simp only [nonBlankUpTo, blank, Bool.not_false, Bool.true_and, decide_eq_true_eq]
      omega

/-- The constructor returns the binding of its arguments, where that is well formed. -/
theorem newBinding_ok {host : QueueHost} {scanId organizationId authorizationRequestId
    manifestHash : String} {executionIds operationIds : List Value} {digest schemaVersion : String}
    {b : QueueDispatchBinding} :
    newBinding host scanId organizationId authorizationRequestId manifestHash executionIds
        operationIds digest schemaVersion = .ok b ↔
      (scanId = b.scanId ∧ organizationId = b.organizationId ∧
        authorizationRequestId = b.authorizationRequestId ∧ manifestHash = b.manifestHash ∧
        executionIds = b.executionIds.map .str ∧ operationIds = b.operationIds.map .str ∧
        digest = b.queueBindingDigest ∧ schemaVersion = b.schemaVersion) ∧ b.WellFormed host := by
  simp only [newBinding, bind_ok, exists_unit, ensure_ok, listedIdentities_ok, decide_eq_true_eq,
    Bool.and_eq_true, Bool.not_eq_true', List.isEmpty_eq_false_iff]
  constructor
  · rintro ⟨scan, org, request, -, -, schema, manifest, hex, ⟨nonempty, paired⟩, es,
      ⟨rfl, executions, executionsDistinct⟩, os, ⟨rfl, operations, operationsDistinct⟩, same,
      result⟩
    cases result
    exact ⟨⟨rfl, rfl, rfl, rfl, rfl, rfl, rfl, rfl⟩, scan, org, request, schema, manifest, hex,
      by simpa using nonempty, by simpa using paired, executions, executionsDistinct, operations,
      operationsDistinct, same⟩
  · rintro ⟨⟨rfl, rfl, rfl, rfl, rfl, rfl, rfl, rfl⟩, ok⟩
    exact ⟨ok.scanId, ok.organizationId, ok.authorizationRequestId,
      nonBlankUpTo_of_isHexDigest ok.manifestHash, nonBlankUpTo_of_isHexDigest ok.hexDigest,
      ok.schemaVersion, ok.manifestHash, ok.hexDigest,
      ⟨by simpa using ok.nonempty, by simpa using ok.paired⟩, b.executionIds,
      ⟨rfl, ok.executions, ok.executionsDistinct⟩, b.operationIds,
      ⟨rfl, ok.operations, ok.operationsDistinct⟩, ok.digest, rfl⟩

theorem map_str_inj {xs ys : List Points} (h : xs.map Value.str = ys.map Value.str) : xs = ys :=
  List.map_injective_iff.mpr (fun _ _ => Value.str.inj) h

/-- `create` returns the binding of the sorted pairs, where that is well formed. -/
theorem create_ok {host : QueueHost} {scanId organizationId authorizationRequestId
    manifestHash : String} {executionIds operationIds : List Points} {b : QueueDispatchBinding} :
    QueueDispatchBinding.create host scanId organizationId authorizationRequestId manifestHash
        executionIds operationIds = .ok b ↔
      operationIds.length = executionIds.length ∧
        (scanId = b.scanId ∧ organizationId = b.organizationId ∧
          authorizationRequestId = b.authorizationRequestId ∧ manifestHash = b.manifestHash ∧
          (sortedPairs operationIds executionIds).map (·.2) = b.executionIds ∧
          (sortedPairs operationIds executionIds).map (·.1) = b.operationIds) ∧
        b.WellFormed host := by
  simp only [QueueDispatchBinding.create, bind_ok, exists_unit, ensure_ok, decide_eq_true_eq,
    newBinding_ok]
  constructor
  · rintro ⟨paired, ⟨rfl, rfl, rfl, rfl, es, os, -, -⟩, ok⟩
    exact ⟨paired, ⟨rfl, rfl, rfl, rfl, map_str_inj es, map_str_inj os⟩, ok⟩
  · rintro ⟨paired, ⟨rfl, rfl, rfl, rfl, es, os⟩, ok⟩
    rw [es, os]
    exact ⟨paired, ⟨rfl, rfl, rfl, rfl, rfl, rfl, ok.digest.symm, ok.schemaVersion.symm⟩, ok⟩

/-- The operations stand in their order. -/
def QueueDispatchBinding.Ordered (b : QueueDispatchBinding) : Prop :=
  b.operationIds.Pairwise fun p q => p ≤ q

theorem sortedPairs_pairwise (operationIds executionIds : List Points) :
    (sortedPairs operationIds executionIds).Pairwise fun p q => p.1 ≤ q.1 := by
  have trans (a b c : Points × Points) (hab : decide (a.1 ≤ b.1) = true)
      (hbc : decide (b.1 ≤ c.1) = true) : decide (a.1 ≤ c.1) = true :=
    decide_eq_true (le_trans (of_decide_eq_true hab) (of_decide_eq_true hbc))
  have total (a b : Points × Points) : (decide (a.1 ≤ b.1) || decide (b.1 ≤ a.1)) = true := by
    simpa using le_total a.1 b.1
  exact (List.pairwise_mergeSort trans total (operationIds.zip executionIds)).imp
    fun h => of_decide_eq_true h

/-- Pairs whose operations stand in their order are left as they are. -/
theorem sortedPairs_of_ordered {operationIds executionIds : List Points}
    (ordered : operationIds.Pairwise fun p q => p ≤ q) (paired : operationIds.length = executionIds.length) :
    sortedPairs operationIds executionIds = operationIds.zip executionIds := by
  have firsts : ((operationIds.zip executionIds).map (·.1)).Pairwise fun p q => p ≤ q := by
    rw [List.map_fst_zip (Nat.le_of_eq paired)]
    exact ordered
  exact List.mergeSort_of_pairwise ((List.pairwise_map.mp firsts).imp fun h => decide_eq_true h)

/-- The binding `create` makes is in order. -/
theorem ordered_of_create {host : QueueHost} {scanId organizationId authorizationRequestId
    manifestHash : String} {executionIds operationIds : List Points} {b : QueueDispatchBinding}
    (h : QueueDispatchBinding.create host scanId organizationId authorizationRequestId manifestHash
      executionIds operationIds = .ok b) : b.Ordered := by
  obtain ⟨-, ⟨-, -, -, -, -, os⟩, -⟩ := create_ok.mp h
  rw [QueueDispatchBinding.Ordered, ← os]
  exact List.pairwise_map.mpr (sortedPairs_pairwise operationIds executionIds)

/-- Made again from its own parts, a binding is itself exactly where it is in order. -/
theorem create_self {host : QueueHost} {b : QueueDispatchBinding} (ok : b.WellFormed host) :
    QueueDispatchBinding.create host b.scanId b.organizationId b.authorizationRequestId
        b.manifestHash b.executionIds b.operationIds = .ok b ↔ b.Ordered := by
  refine ⟨ordered_of_create, fun ordered => create_ok.mpr ?_⟩
  rw [sortedPairs_of_ordered ordered ok.paired.symm,
    List.map_snd_zip (Nat.le_of_eq ok.paired), List.map_fst_zip (Nat.le_of_eq ok.paired.symm)]
  exact ⟨ok.paired.symm, ⟨rfl, rfl, rfl, rfl, rfl, rfl⟩, ok⟩

theorem loadList_eq_some {text : String} {values : List Value} :
    loadList text = some values ↔ loads text.toList = some (.arr values) := by
  rw [loadList]
  split
  · rename_i items read
    rw [read, Option.some.injEq, Option.some.injEq, Value.arr.injEq]
  · rename_i other
    constructor
    · intro h
      cases h
    · intro read
      exact absurd read (other values)

/-- What the wire fields say where they are read as `b`. -/
structure Carries (fields : Fields) (b : QueueDispatchBinding) : Prop where
  scanId : fields.lookup "scan_id" = some b.scanId
  organizationId : fields.lookup "organization_id" = some b.organizationId
  authorizationRequestId : fields.lookup "authorization_request_id" = some b.authorizationRequestId
  manifestHash : fields.lookup "manifest_hash" = some b.manifestHash
  executionIds : (fields.lookup "execution_ids_json").bind loadList =
    some (b.executionIds.map .str)
  operationIds : (fields.lookup "operation_ids_json").bind loadList =
    some (b.operationIds.map .str)
  digest : fields.lookup "queue_binding_digest" = some b.queueBindingDigest
  schemaVersion : fields.lookup "queue_binding_schema_version" = some b.schemaVersion

/-- `from_payload` returns the well-formed binding in order that the fields carry. -/
theorem fromPayload_ok {host : QueueHost} {fields : Fields} {b : QueueDispatchBinding} :
    QueueDispatchBinding.fromPayload host fields = .ok b ↔
      Carries fields b ∧ b.WellFormed host ∧ b.Ordered := by
  simp only [QueueDispatchBinding.fromPayload, bind_ok, exists_unit, ensure_ok, require_ok,
    decide_eq_true_eq, newBinding_ok]
  constructor
  · rintro ⟨s, hs, o, ho, r, hr, m, hm, e, he, p, hp, d, hd, v, hv, es, hes, os, hos, a,
      ⟨⟨rfl, rfl, rfl, rfl, rfl, rfl, rfl, rfl⟩, ok⟩, c, made, rfl, result⟩
    cases result
    exact ⟨⟨hs, ho, hr, hm, by rw [he]; exact hes, by rw [hp]; exact hos, hd, hv⟩, ok,
      ordered_of_create made⟩
  · rintro ⟨carried, ok, ordered⟩
    obtain ⟨e, he, hes⟩ := Option.bind_eq_some_iff.mp carried.executionIds
    obtain ⟨p, hp, hos⟩ := Option.bind_eq_some_iff.mp carried.operationIds
    exact ⟨_, carried.scanId, _, carried.organizationId, _, carried.authorizationRequestId, _,
      carried.manifestHash, e, he, p, hp, _, carried.digest, _, carried.schemaVersion, _, hes, _,
      hos, b, ⟨⟨rfl, rfl, rfl, rfl, rfl, rfl, rfl, rfl⟩, ok⟩, b, (create_self ok).mpr ordered, rfl,
      rfl⟩

/-- The identities a payload carries are joined. -/
theorem Carries.joined {fields : Fields} {b : QueueDispatchBinding} (h : Carries fields b) :
    (∀ id ∈ b.executionIds, Joined id) ∧ ∀ id ∈ b.operationIds, Joined id := by
  have read {field : Option String} {ids : List Points}
      (h : field.bind loadList = some (ids.map .str)) : ∀ id ∈ ids, Joined id := by
    obtain ⟨text, -, list⟩ := Option.bind_eq_some_iff.mp h
    intro id hid
    exact joined_of_loads (loadList_eq_some.mp list) id (List.mem_map_of_mem hid)
  exact ⟨read h.executionIds, read h.operationIds⟩

/-- The list a list of joined identities is written as. -/
theorem loadList_identityJson {ids : List Points} (joined : ∀ id ∈ ids, Joined id) :
    loadList (identityJson ids) = some (ids.map .str) := by
  rw [loadList_eq_some, identityJson, String.toList_ofList]
  exact loads_writeTexts joined

end CyberAssess
