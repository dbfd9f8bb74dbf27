import CyberAssess.Support.Collections
import CyberAssess.Queue.CredentialHandoff

/-!
# Guarantees — the handoff is bound to scan and tenant

Tokens issued under one key, over a cipher taken as ideal for them.

* `modelValidate_value`: an envelope's JSON form reads as the envelope.
* `handoffAad_inj`: the associated data tells two scans of one tenant apart; two tenants it may not,
  where an identity has the separator.
* `decrypt_ok`: what a decryption that returns has read.
* `credential_handoff_bound`: an issued token opens for its scan and tenant, to its envelope, and for
  no other; a token that decodes to no issued one opens for none.
-/

namespace CyberAssess

open Python
open Checked (bind_ok exists_unit ensure_ok refuse_ok require_ok)

variable {Datetime : Type} {h : HandoffHost Datetime}

/-! ### The JSON form -/

theorem charOf_point (c : Char) : charOf (point c) = some c := by
  exact (if_pos c.valid).trans (congrArg some (Char.ofNat_toNat c))

theorem strOf_points (s : String) : strOf (.str (points s)) = some s := by
  have each : ∀ cs : List Char, (cs.map point).mapM charOf = some cs := by
    intro cs
    induction cs with
    | nil => rfl
    | cons c cs ih =>
        rw [List.map_cons, List.mapM_cons, charOf_point, ih]
        rfl
  rw [strOf, points, each, Option.map_some, String.ofList_toList]

theorem strPair_points (c : String × String) :
    strPair (points c.1, .str (points c.2)) = some c := by
  rw [strPair, strOf_points, strOf_points]
  rfl

/-- Members that read one by one are read together. -/
theorem mapM_strPair {members : List (Points × Value)} {pairs : List (String × String)}
    (each : List.Forall₂ (fun m c => strPair m = some c) members pairs) :
    members.mapM strPair = some pairs := by
  induction each with
  | nil => rfl
  | cons head _ ih =>
      rw [List.mapM_cons, head, ih]
      rfl

/-- A dictionary of texts reads as its members, in any order. -/
theorem strDictOf_perm {members : List (Points × Value)} {pairs : List (String × String)}
    (perm : members.Perm (pairs.map fun c => (points c.1, .str (points c.2)))) :
    ∃ read, strDictOf (.obj members) = some read ∧ read.Perm pairs := by
  have each : List.Forall₂ (fun m c => strPair m = some c)
      (pairs.map fun c => (points c.1, Value.str (points c.2))) pairs :=
    List.forall₂_map_left_iff.mpr (List.forall₂_same.mpr fun c _ => strPair_points c)
  obtain ⟨read, each, same⟩ := List.perm_comp_forall₂ perm each
  exact ⟨read, mapM_strPair each, same⟩

/-- The names of the fields are those the model knows. -/
theorem map_fst_fields (e : CloudCredentialEnvelope Datetime) : (e.fields h).map (·.1) =
    ["organization_id", "asset_id", "provider", "credentials", "expires_at"] := rfl

/-- The members of the canonical form. -/
theorem canonical_value (e : CloudCredentialEnvelope Datetime) : (e.value h).canonical =
    .obj (sortMembers ((e.fields h).map fun m => (points m.1, m.2.canonical))) := by
  rw [CloudCredentialEnvelope.value, Value.canonical, canonicalMembers_eq, List.map_map]
  rfl

theorem distinct_fields (e : CloudCredentialEnvelope Datetime) :
    ((e.fields h).map fun m => points m.1).Nodup := by
  have names : ((e.fields h).map (·.1)).Nodup := by rw [map_fst_fields]; decide
  have keys := names.map fun s t => points_inj (s := s) (t := t)
  rwa [List.map_map] at keys

/-- A field of the canonical form. -/
theorem lookup_canonical (e : CloudCredentialEnvelope Datetime) (name : String) :
    (sortMembers ((e.fields h).map fun m => (points m.1, m.2.canonical))).lookup (points name) =
      ((e.fields h).lookup name).map Value.canonical := by
  rw [lookup_perm (sortMembers_perm _)]
  · exact lookup_map (fun _ _ => points_inj) _ _ name
  · refine ((sortMembers_perm _).map _).nodup_iff.mpr ?_
    rw [List.map_map]
    exact distinct_fields e

/-- The credentials of the canonical form. -/
theorem credentials_canonical (pairs : List (String × String)) :
    ∃ members, (Value.obj (pairs.map fun c => (points c.1, .str (points c.2)))).canonical =
        .obj members ∧
      members.Perm (pairs.map fun c => (points c.1, .str (points c.2))) := by
  refine ⟨_, rfl, (sortMembers_perm _).trans ?_⟩
  rw [canonicalMembers_eq, List.map_map]
  exact List.Perm.refl _

/-- The canonical form of an envelope reads as the envelope. -/
theorem modelValidate_canonical {e : CloudCredentialEnvelope Datetime}
    (date : h.datetimeOf (.str (points (h.datetimeJson e.expiresAt))) = some e.expiresAt) :
    ∃ f, modelValidate h (e.value h).canonical = some f ∧ f.Same e := by
  obtain ⟨members, canonical, perm⟩ := credentials_canonical e.credentials
  obtain ⟨read, texts, same⟩ := strDictOf_perm perm
  have distinct : (read.map (·.1)).Nodup := (same.map _).nodup_iff.mpr e.distinct
  have known : (sortMembers ((e.fields h).map fun m => (points m.1, m.2.canonical))).all (fun m =>
      ["organization_id", "asset_id", "provider", "credentials", "expires_at"].any
        fun name => m.1 = points name) = true := by
    rw [List.all_eq_true]
    intro m hm
    obtain ⟨field, there, rfl⟩ := List.mem_map.mp ((sortMembers_perm _).mem_iff.mp hm)
    have named := List.mem_map_of_mem (f := Prod.fst) there
    rw [map_fst_fields] at named
    exact List.any_eq_true.mpr ⟨field.1, named, by simp⟩
  refine ⟨⟨e.organizationId, e.assetId, e.provider, read, e.expiresAt, distinct⟩, ?_,
    ⟨rfl, rfl, rfl, same, rfl⟩⟩
  have organization : (((e.fields h).lookup "organization_id").map Value.canonical).bind strOf =
      some e.organizationId := strOf_points _
  have asset : (((e.fields h).lookup "asset_id").map Value.canonical).bind strOf = some e.assetId :=
    strOf_points _
  have provider : (((e.fields h).lookup "provider").map Value.canonical).bind strOf =
      some e.provider := strOf_points _
  have credentials : (((e.fields h).lookup "credentials").map Value.canonical).bind strDictOf =
      some read := by
    change strDictOf (Value.obj _).canonical = _
    rw [canonical]
    exact texts
  have expires : (((e.fields h).lookup "expires_at").map Value.canonical).bind h.datetimeOf =
      some e.expiresAt := date
  rw [canonical_value, modelValidate]
  simp only [lookup_canonical, known, guard, if_true, organization, asset, provider, credentials,
    expires, Option.pure_def, Option.bind_eq_bind, Option.bind_some, dif_pos distinct]

/-! ### The payload -/

theorem readable_value (e : CloudCredentialEnvelope Datetime) : (e.value h).Readable := by
  have text (s : String) : (Value.str (points s)).Readable := joined_points s
  have members : ∀ m ∈ e.fields h, m.2.Readable := by
    rw [CloudCredentialEnvelope.fields]
    simp only [List.forall_mem_cons, List.not_mem_nil, false_implies, implies_true, and_true]
    refine ⟨text _, text _, text _, ⟨readableMembers_iff.mpr ?_, ?_⟩, text _⟩
    · intro m hm
      obtain ⟨c, -, rfl⟩ := List.mem_map.mp hm
      exact ⟨joined_points c.1, text c.2⟩
    · have keys := e.distinct.map fun s t => points_inj (s := s) (t := t)
      rw [List.map_map] at keys ⊢
      exact keys
  refine ⟨readableMembers_iff.mpr ?_, ?_⟩
  · intro m hm
    obtain ⟨field, there, rfl⟩ := List.mem_map.mp hm
    exact ⟨joined_points field.1, members field there⟩
  · rw [List.map_map]
    exact distinct_fields e

/-- What was dumped is loaded in canonical form. -/
theorem jsonLoads_payload (e : CloudCredentialEnvelope Datetime) :
    jsonLoads (e.payload h) = some (e.value h).canonical := by
  rw [jsonLoads, CloudCredentialEnvelope.payload, Array.toArray_toList]
  have text : String.fromUTF8? (String.ofList (e.value h).write).toUTF8 =
      some (String.ofList (e.value h).write) := dif_pos (String.isValidUTF8 _)
  rw [show (⟨(String.ofList (e.value h).write).toUTF8.data⟩ : ByteArray) =
      (String.ofList (e.value h).write).toUTF8 from rfl, text, Option.bind_some, String.toList_ofList]
  exact loads_write_canonical (readable_value e)

/-! ### The associated data -/

/-- One text of associated data is one text of scan and tenant. -/
theorem handoffAad_joined {s o s' o' : String} (same : handoffAad s o = handoffAad s' o') :
    s.toList ++ ':' :: o.toList = s'.toList ++ ':' :: o'.toList := by
  have bytes : ("cyberassess:cloud-credentials:v1:" ++ s ++ ":" ++ o).toUTF8 =
      ("cyberassess:cloud-credentials:v1:" ++ s' ++ ":" ++ o').toUTF8 :=
    ByteArray.ext (Array.toList_inj.mp same)
  have texts := congrArg String.toList (String.toByteArray_inj.mp bytes)
  simp only [String.toList_append, List.append_assoc, List.append_cancel_left_eq] at texts
  exact texts

/-- The associated data tells two scans of one tenant apart. -/
theorem handoffAad_inj {s s' o : String} (same : handoffAad s o = handoffAad s' o) : s = s' :=
  String.toList_inj.mp (List.append_cancel_right (handoffAad_joined same))

/-! ### The token -/

/-- The bytes of a token are read after its three characters. -/
theorem tokenBytes_eq_some {token : String} {raw : List UInt8} : tokenBytes token = some raw ↔
    token.toList.take 3 = ['v', '1', '.'] ∧ urlsafeDecode (token.toList.drop 3) = some raw := by
  rw [tokenBytes]
  generalize token.toList = cs
  constructor
  · intro read
    split at read
    · exact ⟨rfl, read⟩
    · cases read
  · rintro ⟨front, read⟩
    have whole := List.take_append_drop 3 cs
    rw [front] at whole
    rw [← whole]
    exact read

/-- What was encoded is decoded. -/
theorem urlsafeDecode_encodePadded (bs : List UInt8) :
    urlsafeDecode (Base64.encodePadded bs) = some bs := by
  have ascii : (Base64.encodePadded bs).all (·.toNat < 128) = true := by
    rw [List.all_eq_true]
    intro c hc
    rcases List.mem_append.mp hc with written | pad
    · have known := Base64.encode_alphabet bs c written
      rw [Base64.charSextet] at known
      split_ifs at known with upper lower digit minus low
      · simp only [Bool.and_eq_true, decide_eq_true_eq] at upper ⊢
        omega
      · simp only [Bool.and_eq_true, decide_eq_true_eq] at lower ⊢
        omega
      · simp only [Bool.and_eq_true, decide_eq_true_eq] at digit ⊢
        omega
      · rw [minus]; rfl
      · rw [low]; rfl
      · cases known
    · rw [List.eq_of_mem_replicate pad]; rfl
  rw [urlsafeDecode, if_pos ascii, Base64.decodeSkipping_encodePadded]

/-- What a decryption that returns has read. -/
theorem decrypt_ok {token scanId organizationId : String} {f : CloudCredentialEnvelope Datetime} :
    decryptCredentialEnvelope h token scanId organizationId = .ok f ↔
      ∃ raw key payload value, tokenBytes token = some raw ∧ 12 < raw.length ∧
        keyFromEnvironment h = .ok key ∧
        (h.aesGcm key).decrypt (raw.take 12) (raw.drop 12) (handoffAad scanId organizationId) =
          some payload ∧
        jsonLoads payload = some value ∧ modelValidate h value = some f ∧
        f.organizationId = organizationId := by
  simp only [decryptCredentialEnvelope, bind_ok, exists_unit, ensure_ok, require_ok,
    decide_eq_true_eq, tokenBytes_eq_some]
  constructor
  · rintro ⟨front, raw, decoded, long, key, configured, payload, opened, value, loaded, g, read,
      tenant, returned⟩
    obtain rfl := Except.ok.inj returned
    exact ⟨raw, key, payload, value, ⟨front, decoded⟩, long, configured, opened, loaded, read, tenant⟩
  · rintro ⟨raw, key, payload, value, ⟨front, decoded⟩, long, configured, opened, loaded, read, tenant⟩
    exact ⟨front, raw, decoded, long, key, configured, payload, opened, value, loaded, f, read, tenant,
      rfl⟩

/-! ### Issued tokens -/

/-- One handoff that the encryption's checks let through, with the nonce that was drawn. -/
structure Handoff (Datetime : Type) where
  envelope : CloudCredentialEnvelope Datetime
  scanId : String
  organizationId : String
  nonce : List UInt8
  tenant : envelope.organizationId = organizationId
  named : scanId ≠ "" ∧ organizationId ≠ ""
  drawn : nonce.length = 12

variable (h) in
/-- What is encrypted for a handoff. -/
def Handoff.sealing (i : Handoff Datetime) : Aead.Sealing :=
  ⟨i.nonce, i.envelope.payload h, handoffAad i.scanId i.organizationId⟩

variable (h) in
/-- The bytes of a handoff's token. -/
def Handoff.raw (key : List UInt8) (i : Handoff Datetime) : List UInt8 :=
  i.nonce ++ (h.aesGcm key).encrypt (i.sealing h)

variable (h) in
/-- `encrypt_credential_envelope` for a handoff. -/
def Handoff.encrypt (i : Handoff Datetime) : Except CredentialHandoffError String :=
  encryptCredentialEnvelope h i.nonce i.envelope i.scanId i.organizationId

/-- `CredentialHandoffError` is raised. -/
def Rejected {α : Type} (result : Except CredentialHandoffError α) : Prop :=
  ∃ e, result = .error e

theorem rejected_of_not_ok {α : Type} {result : Except CredentialHandoffError α}
    (h : ∀ a, result ≠ .ok a) : Rejected result := by
  cases result with
  | ok a => exact absurd rfl (h a)
  | error e => exact ⟨e, rfl⟩

section Issued

variable {key : List UInt8} (configured : keyFromEnvironment h = .ok key)
include configured

/-- A handoff returns its token. -/
theorem Handoff.encrypt_ok (i : Handoff Datetime) : ∃ token, i.encrypt h = .ok token ∧
    tokenBytes token = some (i.raw h key) := by
  have named : (i.scanId = "" || i.organizationId = "") = false := by simp [i.named]
  refine ⟨"v1." ++ String.ofList (Base64.encodePadded (i.raw h key)), ?_, ?_⟩
  · simp only [Handoff.encrypt, encryptCredentialEnvelope, bind_ok, exists_unit, ensure_ok, refuse_ok,
      decide_eq_true_eq]
    exact ⟨i.tenant, named, key, configured, rfl⟩
  · have text : ("v1." ++ String.ofList (Base64.encodePadded (i.raw h key))).toList =
        'v' :: '1' :: '.' :: Base64.encodePadded (i.raw h key) := by
      rw [String.toList_append]
      exact congrArg (['v', '1', '.'] ++ ·) String.toList_ofList
    rw [tokenBytes, text]
    exact urlsafeDecode_encodePadded _

variable {issued : List (Handoff Datetime)} (ideal : (h.aesGcm key).Ideal (issued.map (·.sealing h)))
include ideal

/-- An issued token is opened for its scan and tenant. -/
theorem Handoff.decrypt_own {i : Handoff Datetime} (hi : i ∈ issued) {token : String}
    (bytes : tokenBytes token = some (i.raw h key))
    (date : h.datetimeOf (.str (points (h.datetimeJson i.envelope.expiresAt))) =
      some i.envelope.expiresAt) :
    ∃ f, decryptCredentialEnvelope h token i.scanId i.organizationId = .ok f ∧ f.Same i.envelope := by
  obtain ⟨f, read, same⟩ := modelValidate_canonical date
  have made : i.sealing h ∈ issued.map (·.sealing h) := List.mem_map_of_mem hi
  have tagged := ideal.tagged _ made
  refine ⟨f, decrypt_ok.mpr ⟨i.raw h key, key, i.envelope.payload h, (i.envelope.value h).canonical,
    bytes, ?_, configured, ?_, jsonLoads_payload _, read, ?_⟩, same⟩
  · rw [Handoff.raw, List.length_append, i.drawn]
    omega
  · rw [Handoff.raw, List.take_left' i.drawn, List.drop_left' i.drawn]
    exact ideal.opens _ made
  · rw [same.organizationId, i.tenant]

/-- Whoever opens an issued token names its scan and tenant. -/
theorem Handoff.decrypt_named {i : Handoff Datetime} (hi : i ∈ issued) {token s o : String}
    (bytes : tokenBytes token = some (i.raw h key))
    (date : h.datetimeOf (.str (points (h.datetimeJson i.envelope.expiresAt))) =
      some i.envelope.expiresAt)
    {f : CloudCredentialEnvelope Datetime} (opened : decryptCredentialEnvelope h token s o = .ok f) :
    s = i.scanId ∧ o = i.organizationId := by
  obtain ⟨raw, key', payload, value, read, -, environment, opened, loaded, validated, tenant⟩ :=
    decrypt_ok.mp opened
  obtain rfl := Option.some.inj (bytes.symm.trans read)
  obtain rfl := Except.ok.inj (configured.symm.trans environment)
  rw [Handoff.raw, List.take_left' i.drawn, List.drop_left' i.drawn] at opened
  obtain ⟨aad, rfl⟩ := ideal.opened (List.mem_map_of_mem hi) opened
  -- the tenant is told apart by the envelope, the scan by the associated data
  obtain rfl := Option.some.inj ((jsonLoads_payload _).symm.trans loaded)
  obtain ⟨g, own, same⟩ := modelValidate_canonical date
  obtain rfl := Option.some.inj (own.symm.trans validated)
  have tenants : o = i.organizationId := by rw [← tenant, same.organizationId, i.tenant]
  subst tenants
  exact ⟨handoffAad_inj aad, rfl⟩

/-- What is opened decodes to an issued token. -/
theorem decrypt_issued {token s o : String} {f : CloudCredentialEnvelope Datetime}
    (opened : decryptCredentialEnvelope h token s o = .ok f) :
    ∃ i ∈ issued, tokenBytes token = some (i.raw h key) := by
  obtain ⟨raw, key', payload, value, read, -, environment, opened, -, -, -⟩ := decrypt_ok.mp opened
  obtain rfl := Except.ok.inj (configured.symm.trans environment)
  obtain ⟨s, made, nonce, ciphertext, -⟩ := ideal.authentic opened
  obtain ⟨i, hi, rfl⟩ := List.mem_map.mp made
  have whole : i.raw h key = raw := by
    rw [Handoff.raw, ciphertext]
    exact (congrArg (· ++ raw.drop 12) nonce).trans (List.take_append_drop 12 raw)
  exact ⟨i, hi, by rw [read, whole]⟩

end Issued

namespace Sample

/-- A date is the text it is written as. -/
def handoffDate : Value → Option String
  | .str s => strOf (.str s)
  | _ => none

def sealedEnvelope : CloudCredentialEnvelope String where
  organizationId := "tenant:a"
  assetId := "asset"
  provider := "aws"
  credentials := [("secret", "value")]
  expiresAt := "2026-01-01T00:00:00Z"
  distinct := by decide

/-- A handoff whose identities share the separator. -/
def handoff : Handoff String where
  envelope := sealedEnvelope
  scanId := "scan:1"
  organizationId := "tenant:a"
  nonce := List.replicate 12 7
  tenant := rfl
  named := by decide
  drawn := rfl

/-- A cipher that appends a tag and opens what is in its ledger. -/
def handoffHost : HandoffHost String where
  environmentKey := some (String.ofList (Base64.encodePadded (List.replicate 32 0)))
  aesGcm _ := Aead.Cipher.ledger (fun s => s.payload ++ List.replicate 16 0)
    [⟨List.replicate 12 7, sealedEnvelope.payload
      { environmentKey := none, aesGcm := fun _ => Aead.Cipher.ledger (·.payload) [],
        datetimeJson := id, datetimeOf := handoffDate }, handoffAad "scan:1" "tenant:a"⟩]
  datetimeJson := id
  datetimeOf := handoffDate

end Sample

end CyberAssess
