import Mathlib.Data.List.AList
import Mathlib.Logic.Equiv.List
import Mathlib.Tactic.DeriveEncodable
import CyberAssess.Access.Scopes

/-!
# Access — signed access tokens

`core/auth.py`: the ring of signing keys, and the tokens it signs and verifies.

* `SigningKeys` is the ring with the active key id; `rotateSigningKey` and `retireSigningKey`
  change it.
* `createAccessToken` signs a user's payload under the active id, `decodeAccessToken` verifies a
  token under the id its header names.
* `decode_issued`: what the decoder says of an issued token depends on the key its id has now.

`[about ours]`: `PyJwt` is the JWT library with what ideal signatures mean for it; `PyJwt.ideal`
has all of it.
-/

namespace CyberAssess

open Python
open Checked (ensure require reraise bind_ok exists_unit ensure_ok require_ok reraise_ok)

/-! ### The ring of keys -/

/-- `_invalid_secret_values`. -/
def invalidSecretValues : List String :=
  ["", "cyberassess-enterprise-secret-key-32b-min", "secret", "changeme", "default"]

/-- `JWT_SECRET`, `ACTIVE_KEY_ID` and `JWT_KEY_ROTATION_STORE`. -/
structure SigningKeys where
  jwtSecret : String
  activeKeyId : String
  store : AList fun _ : String => String

/-- `store[kid]` after `store[newKid] = secret`. -/
theorem lookup_insert (store : AList fun _ : String => String) (newKid secret kid : String) :
    (store.insert newKid secret).lookup kid =
      if kid = newKid then some secret else store.lookup kid := by
  by_cases same : kid = newKid
  · subst same
    simp [AList.lookup_insert]
  · simp [same, AList.lookup_insert_ne same]

/-- `store[kid]` after `store.pop(oldKid)`. -/
theorem lookup_erase (store : AList fun _ : String => String) (oldKid kid : String) :
    (store.erase oldKid).lookup kid = if kid = oldKid then none else store.lookup kid := by
  by_cases same : kid = oldKid
  · subst same
    simp [AList.lookup_erase]
  · simp [same, AList.lookup_erase_ne same]

/-- The ring at import: the one secret, under the configured id. -/
def SigningKeys.initial (activeKeyId jwtSecret : String) : SigningKeys where
  jwtSecret := jwtSecret
  activeKeyId := activeKeyId
  store := .singleton activeKeyId jwtSecret

/-- `JWT_KEY_ROTATION_STORE.get(ACTIVE_KEY_ID, JWT_SECRET)`. -/
def SigningKeys.signingKey (keys : SigningKeys) : String :=
  (keys.store.lookup keys.activeKeyId).getD keys.jwtSecret

/-- `rotate_signing_key`. -/
def rotateSigningKey (lower : String → String) (keys : SigningKeys) (newKid newSecret : String) :
    Except String SigningKeys := do
  ensure (!isBlank newKid && newKid.length ≤ 128)
    "JWT key identifier must be a non-empty string of at most 128 characters."
  let normalizedSecret := strip newSecret
  ensure (32 ≤ normalizedSecret.length && !invalidSecretValues.contains (lower normalizedSecret))
    "JWT signing keys must contain at least 32 non-trivial characters."
  return { keys with
    store := keys.store.insert newKid normalizedSecret
    activeKeyId := strip newKid }

/-- `retire_signing_key`. -/
def retireSigningKey (keys : SigningKeys) (oldKid : String) : SigningKeys :=
  if (keys.store.lookup oldKid).isSome && 1 < keys.store.keys.length then
    { keys with store := keys.store.erase oldKid }
  else keys

/-! ### Payloads -/

/-- `payload.get("scopes")`: no claim, one that is no list, or a list. -/
inductive ScopesClaim where
  | absent | malformed
  | listed (scopes : List String)
deriving DecidableEq, Repr

/-- The payload of a token.  The required claims are always there, the others are read with
`.get`; times are in seconds. -/
structure TokenPayload where
  iss : String
  aud : String
  sub : String
  username : Option String
  email : Option String
  role : Option String
  principalType : Option String
  orgId : Option String
  scopes : ScopesClaim
  iat : Nat
  nbf : Nat
  exp : Int
  jti : Option String
  syntheticFixture : Bool
deriving DecidableEq, Repr

/-- The exceptions `jwt.decode` raises. -/
inductive JwtError where
  | expiredSignature | immatureSignature | invalidIssuer | invalidAudience
  | invalidAlgorithm (text : String)
  | missingRequiredClaim (text : String)
  | pyJwtError (text : String)
  | exception (text : String)
deriving DecidableEq, Repr

/-- `JWT_ISSUER`. -/
def jwtIssuer : String := "CyberAssess-Control-Plane"

/-- `JWT_AUDIENCE`. -/
def jwtAudience : String := "CyberAssess-Platform"

/-- What `jwt.decode` says of the claims of a payload whose signature verifies. -/
def TokenPayload.validateClaims (p : TokenPayload) (now : Instant) :
    Except JwtError TokenPayload := do
  ensure (seconds p.iat ≤ now) .immatureSignature
  ensure (seconds p.nbf ≤ now) .immatureSignature
  ensure ((now : Int) < p.exp * 1000000) .expiredSignature
  ensure (p.iss = jwtIssuer) .invalidIssuer
  ensure (p.aud = jwtAudience) .invalidAudience
  return p

/-! ### The JWT library -/

/-- The header fields that are read. -/
structure TokenHeader where
  alg : Option String
  kid : Option String
deriving DecidableEq, Repr

/-- PyJWT with HS256 signatures that are ideal: a token verifies under the key it was signed
with, and under no other. -/
structure PyJwt where
  encode : TokenPayload → (signingKey kid : String) → String
  getUnverifiedHeader : String → Option TokenHeader
  decode : String → (verificationKey : String) → Instant → Except JwtError TokenPayload
  encode_ne_empty : ∀ p key kid, encode p key kid ≠ ""
  header_encode : ∀ p key kid,
    getUnverifiedHeader (encode p key kid) = some ⟨some "HS256", some kid⟩
  decode_encode : ∀ p key kid now, decode (encode p key kid) key now = p.validateClaims now
  decode_forged : ∀ p key kid key' now, key' ≠ key →
    ∃ e, decode (encode p key kid) key' now = .error e

/-- Characters by their code points. -/
instance encodableChar : Encodable Char :=
  .ofLeftInjection (fun c => c.toNat) (fun n => some (Char.ofNat n)) fun c => by simp

/-- Strings by their characters. -/
instance encodableString : Encodable String :=
  .ofEquiv (List Char) ⟨String.toList, String.ofList, fun s => by simp, fun cs => by simp⟩

deriving instance Encodable for ScopesClaim
deriving instance Encodable for TokenPayload

namespace PyJwt

/-- What an ideal token carries: its payload, and the key and the key id it was signed under. -/
def read (token : String) : Option (TokenPayload × String × String) :=
  Encodable.decode (token.length - 1)

/-- A token that is as long as the number of what it carries. -/
def write (p : TokenPayload) (key kid : String) : String :=
  String.ofList (List.replicate (Encodable.encode (p, key, kid) + 1) 'x')

theorem read_write (p : TokenPayload) (key kid : String) :
    read (write p key kid) = some (p, key, kid) := by
  simp [read, write]

/-- A library with ideal signatures. -/
def ideal : PyJwt where
  encode := write
  getUnverifiedHeader token := (read token).map fun c => ⟨some "HS256", some c.2.2⟩
  decode token key now :=
    match read token with
    | none => .error (.pyJwtError "Not enough segments")
    | some (p, signingKey, _) =>
        if key = signingKey then p.validateClaims now
        else .error (.pyJwtError "Signature verification failed")
  encode_ne_empty p key kid := by
    intro h
    have := congrArg String.length h
    simp [write] at this
  header_encode p key kid := by rw [read_write]; rfl
  decode_encode p key kid now := by simp [read_write]
  decode_forged p key kid key' now h := by simp [read_write, h]

end PyJwt

/-! ### Issuing -/

/-- What one call of `create_access_token` is made with; the clock and `secrets` are the host's. -/
structure TokenIssue where
  user : UserProfile
  expiresIn : Int
  scopes : Option (List String)
  now : Instant
  jti : String
deriving DecidableEq, Repr

/-- The scopes a token carries. -/
def TokenIssue.effectiveScopes (i : TokenIssue) : List String :=
  match i.scopes with
  | some scopes =>
      if i.user.isSystemAdmin then
        if scopes.contains "*" then ["*"] else scopes.filter allValidScopes.contains
      else
        let allowedMax := resolveEffectiveScopes i.user none
        scopes.filter fun s => allowedMax.contains s && s ≠ "*"
  | none => resolveEffectiveScopes i.user none

/-- The payload `create_access_token` signs. -/
def TokenIssue.payload (mode : OperatingMode) (i : TokenIssue) : TokenPayload :=
  let now := i.now / 1000000
  { iss := jwtIssuer
    aud := jwtAudience
    sub := i.user.id
    username := some i.user.username
    email := some i.user.email
    role := some i.user.role.text
    principalType := some i.user.principalType.text
    orgId := some i.user.organizationId
    scopes := .listed i.effectiveScopes
    iat := now
    nbf := now
    exp := now + i.expiresIn
    jti := some i.jti
    syntheticFixture := mode ≠ .production }

/-- `create_access_token`. -/
def createAccessToken (jwt : PyJwt) (mode : OperatingMode) (keys : SigningKeys) (i : TokenIssue) :
    String :=
  jwt.encode (i.payload mode) keys.signingKey keys.activeKeyId

/-! ### Verifying -/

/-- `HTTPException`. -/
structure HttpException where
  statusCode : Nat
  detail : String
  authenticate : Option String
deriving DecidableEq, Repr

/-- A 401 that asks for a bearer token. -/
def unauthorized (detail : String) : HttpException := ⟨401, detail, some "Bearer"⟩

/-- `REVOKED_TOKENS_REGISTRY` and `revoked_tokens`. -/
structure Revocations where
  registry : List String
  jtis : List String

/-- The detail of the 401 a decoding error is answered with. -/
def JwtError.detail : JwtError → String
  | .expiredSignature => "Token has expired."
  | .immatureSignature => "Token is not yet valid."
  | .invalidIssuer => "Invalid token issuer."
  | .invalidAudience => "Invalid token audience."
  | .invalidAlgorithm e => "Unsupported or forbidden token algorithm: " ++ e
  | .missingRequiredClaim e => "Mandatory claim missing: " ++ e
  | .pyJwtError e => "Token signature verification failed: " ++ e
  | .exception e => "Token validation failed: " ++ e

/-- `decode_access_token`. -/
def decodeAccessToken (jwt : PyJwt) (keys : SigningKeys) (revoked : Revocations) (now : Instant)
    (token : String) : Except HttpException TokenPayload := do
  ensure (token ≠ "") (unauthorized "Invalid token format.")
  ensure (!revoked.registry.contains token) (unauthorized "Token has been revoked.")
  let header ← require (jwt.getUnverifiedHeader token) (unauthorized "Invalid token format.")
  ensure (header.alg = some "HS256")
    (unauthorized ("Unsupported or forbidden token algorithm '" ++ header.alg.getD "None" ++ "'."))
  let kid ← require (header.kid.filter (!isBlank ·))
    (unauthorized "Unknown or missing token key identifier.")
  let verificationKey ← require (keys.store.lookup kid)
    (unauthorized "Unknown or missing token key identifier.")
  let payload ← reraise (fun e => unauthorized e.detail) (jwt.decode token verificationKey now)
  ensure (!payload.jti.any fun jti => jti ≠ "" && revoked.jtis.contains jti)
    (unauthorized "Token has been revoked.")
  return payload

/-! ### What the decoder says of an issued token -/

variable {jwt : PyJwt} {keys : SigningKeys} {revoked : Revocations} {now : Instant}
  {p q : TokenPayload} {key kid : String}

/-- The verification under one key: where it is the token's, the claims decide, and no other key
verifies. -/
theorem decode_under {verificationKey : String} :
    jwt.decode (jwt.encode p key kid) verificationKey now = .ok q ↔
      verificationKey = key ∧ p.validateClaims now = .ok q := by
  by_cases same : verificationKey = key
  · rw [same, jwt.decode_encode]
    simp
  · obtain ⟨e, refused⟩ := jwt.decode_forged p key kid verificationKey now same
    simp [refused, same]

/-- The revocation check by the payload's id. -/
theorem alive_iff : (!p.jti.any fun jti => jti ≠ "" && revoked.jtis.contains jti) = true ↔
    ∀ j ∈ p.jti, j ≠ "" → j ∉ revoked.jtis := by
  cases p.jti <;> simp [or_iff_not_imp_left]

/-- An issued token is accepted exactly where the ring has its key under its id, its claims are
valid and neither registry revokes it. -/
theorem decode_issued :
    decodeAccessToken jwt keys revoked now (jwt.encode p key kid) = .ok q ↔
      jwt.encode p key kid ∉ revoked.registry ∧ isBlank kid = false ∧
        keys.store.lookup kid = some key ∧ p.validateClaims now = .ok q ∧
        ∀ j ∈ q.jti, j ≠ "" → j ∉ revoked.jtis := by
  simp only [decodeAccessToken, bind_ok, exists_unit, ensure_ok, require_ok, reraise_ok,
    jwt.header_encode, Option.some.injEq, exists_eq_left']
  constructor
  · rintro ⟨-, registry, -, _, named, verificationKey, held, r, decoded, alive, done⟩
    obtain ⟨same, blank⟩ := Option.filter_eq_some_iff.mp named
    cases same
    cases done
    obtain ⟨rfl, valid⟩ := decode_under.mp decoded
    refine ⟨by simpa using registry, by simpa using blank, held, valid, alive_iff.mp alive⟩
  · rintro ⟨registry, named, held, valid, alive⟩
    refine ⟨by simpa using jwt.encode_ne_empty p key kid, by simpa using registry, by simp, kid,
      Option.filter_eq_some_iff.mpr ⟨rfl, by simp [named]⟩, key, held, q,
      decode_under.mpr ⟨rfl, valid⟩, alive_iff.mpr alive, rfl⟩

end CyberAssess
