import CyberAssess.Support.Aead
import CyberAssess.Support.Checked
import CyberAssess.Support.Base64Padded
import CyberAssess.Support.JsonCanonical

/-!
# Queue — the encrypted credential handoff

`core/credential_handoff.py` and `CloudCredentialEnvelope` of `core/models.py`: worker credentials
cross the queue as an authenticated, encrypted token that names the scan and the tenant.

* `encryptCredentialEnvelope` and `decryptCredentialEnvelope`.
* `CloudCredentialEnvelope.fields` is its JSON form, `modelValidate` the model read from JSON.

`[about ours]`: texts are sequences of Unicode characters.  `HandoffHost` holds the environment, the
cipher of each key and the JSON form of a date; a date is whatever the model keeps.
-/

namespace CyberAssess

open Python
open Checked (ensure refuse require)

/-- `CloudCredentialEnvelope`; its credentials are a dictionary. -/
structure CloudCredentialEnvelope (Datetime : Type) where
  organizationId : String
  assetId : String
  provider : String
  credentials : List (String × String)
  expiresAt : Datetime
  distinct : (credentials.map (·.1)).Nodup

/-- Equality of two envelopes: dictionaries are equal in any order. -/
structure CloudCredentialEnvelope.Same {Datetime : Type} (e f : CloudCredentialEnvelope Datetime) :
    Prop where
  organizationId : e.organizationId = f.organizationId
  assetId : e.assetId = f.assetId
  provider : e.provider = f.provider
  credentials : e.credentials.Perm f.credentials
  expiresAt : e.expiresAt = f.expiresAt

/-- `CredentialHandoffError`. -/
structure CredentialHandoffError where
  message : String
deriving DecidableEq, Repr

/-- What the handoff asks of the environment and of its libraries. -/
structure HandoffHost (Datetime : Type) where
  /-- `os.getenv("CLOUD_CREDENTIALS_ENCRYPTION_KEY")`. -/
  environmentKey : Option String
  aesGcm : List UInt8 → Aead.Cipher
  datetimeJson : Datetime → String
  datetimeOf : Value → Option Datetime

variable {Datetime : Type} (h : HandoffHost Datetime)

/-! ### The key and the associated data -/

/-- `base64.urlsafe_b64decode(text.encode("ascii"))`. -/
def urlsafeDecode (text : List Char) : Option (List UInt8) :=
  if text.all (·.toNat < 128) then Base64.decodeSkipping text else none

/-- `_key_from_environment`. -/
def keyFromEnvironment : Except CredentialHandoffError (List UInt8) := do
  let value := strip (h.environmentKey.getD "")
  refuse (value = "") ⟨"CLOUD_CREDENTIALS_ENCRYPTION_KEY is required"⟩
  let key ← require (urlsafeDecode value.toList)
    ⟨"credential handoff key must be URL-safe base64"⟩
  ensure (key.length = 32) ⟨"credential handoff key must decode to 32 bytes"⟩
  return key

/-- `f"cyberassess:cloud-credentials:v1:{scan_id}:{organization_id}".encode("utf-8")`. -/
def handoffAad (scanId organizationId : String) : List UInt8 :=
  ("cyberassess:cloud-credentials:v1:" ++ scanId ++ ":" ++ organizationId).toUTF8.data.toList

/-! ### The JSON form -/

/-- `envelope.model_dump(mode="json")`. -/
def CloudCredentialEnvelope.fields (e : CloudCredentialEnvelope Datetime) : List (String × Value) :=
  [("organization_id", .str (points e.organizationId)), ("asset_id", .str (points e.assetId)),
    ("provider", .str (points e.provider)),
    ("credentials", .obj (e.credentials.map fun c => (points c.1, .str (points c.2)))),
    ("expires_at", .str (points (h.datetimeJson e.expiresAt)))]

/-- The dumped envelope as an object. -/
def CloudCredentialEnvelope.value (e : CloudCredentialEnvelope Datetime) : Value :=
  .obj ((e.fields h).map fun m => (points m.1, m.2))

/-- The payload's bytes. -/
def CloudCredentialEnvelope.payload (e : CloudCredentialEnvelope Datetime) : List UInt8 :=
  (String.ofList (e.value h).write).toUTF8.data.toList

/-- `json.loads(payload)`. -/
def jsonLoads (payload : List UInt8) : Option Value :=
  (String.fromUTF8? ⟨payload.toArray⟩).bind fun text => loads text.toList

/-- A character; a surrogate is none. -/
def charOf (p : CodePoint) : Option Char :=
  if p.val.isValidChar then some (Char.ofNat p.val) else none

/-- A field of type `str`. -/
def strOf : Value → Option String
  | .str s => (s.mapM charOf).map String.ofList
  | _ => none

/-- A member of a `Dict[str, str]`. -/
def strPair (m : Points × Value) : Option (String × String) := do
  let key ← strOf (.str m.1)
  let text ← strOf m.2
  return (key, text)

/-- A field of type `Dict[str, str]`. -/
def strDictOf : Value → Option (List (String × String))
  | .obj members => members.mapM strPair
  | _ => none

/-- `CloudCredentialEnvelope.model_validate`, which forbids other fields. -/
def modelValidate : Value → Option (CloudCredentialEnvelope Datetime)
  | .obj members => do
      let field (name : String) : Option Value := members.lookup (points name)
      guard (members.all fun m =>
        ["organization_id", "asset_id", "provider", "credentials", "expires_at"].any
          fun name => m.1 = points name)
      let organizationId ← (field "organization_id").bind strOf
      let assetId ← (field "asset_id").bind strOf
      let provider ← (field "provider").bind strOf
      let credentials ← (field "credentials").bind strDictOf
      let expiresAt ← (field "expires_at").bind h.datetimeOf
      if distinct : (credentials.map (·.1)).Nodup then
        some ⟨organizationId, assetId, provider, credentials, expiresAt, distinct⟩
      else none
  | _ => none

/-! ### The token -/

/-- `encrypt_credential_envelope`, with the nonce it draws. -/
def encryptCredentialEnvelope (nonce : List UInt8) (envelope : CloudCredentialEnvelope Datetime)
    (scanId organizationId : String) : Except CredentialHandoffError String := do
  ensure (envelope.organizationId = organizationId)
    ⟨"credential envelope tenant does not match queue intent"⟩
  refuse (scanId = "" || organizationId = "")
    ⟨"credential handoff requires scan and tenant identities"⟩
  let key ← keyFromEnvironment h
  let ciphertext := (h.aesGcm key).encrypt
    ⟨nonce, envelope.payload h, handoffAad scanId organizationId⟩
  return "v1." ++ String.ofList (Base64.encodePadded (nonce ++ ciphertext))

/-- What a token decodes to: `token.startswith("v1.")`, then `token[3:]`. -/
def tokenBytes (token : String) : Option (List UInt8) :=
  match token.toList with
  | 'v' :: '1' :: '.' :: encoded => urlsafeDecode encoded
  | _ => none

/-- `decrypt_credential_envelope`. -/
def decryptCredentialEnvelope (token scanId organizationId : String) :
    Except CredentialHandoffError (CloudCredentialEnvelope Datetime) := do
  ensure (token.toList.take 3 = ['v', '1', '.']) ⟨"unsupported credential handoff token"⟩
  let raw ← require (urlsafeDecode (token.toList.drop 3))
    ⟨"credential handoff authentication failed"⟩
  ensure (12 < raw.length) ⟨"credential handoff token is truncated"⟩
  let key ← keyFromEnvironment h
  let payload ← require
    ((h.aesGcm key).decrypt (raw.take 12) (raw.drop 12) (handoffAad scanId organizationId))
    ⟨"credential handoff authentication failed"⟩
  let value ← require (jsonLoads payload) ⟨"credential handoff authentication failed"⟩
  let envelope ← require (modelValidate h value) ⟨"credential handoff authentication failed"⟩
  ensure (envelope.organizationId = organizationId)
    ⟨"credential envelope tenant binding failed"⟩
  return envelope

end CyberAssess
