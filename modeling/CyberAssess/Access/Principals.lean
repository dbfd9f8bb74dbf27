import CyberAssess.Access.Tokens

/-!
# Access — authenticated principals

`core/auth.py`, `core/db.py` and `api/auth.py`: who a request is made by, and the API keys.

* `Accounts` is the users and the API keys the database holds.
* `verifyApiKeyHash` and `getUserById` read them; `getCurrentUser` is the dependency that turns the
  headers of a request into a principal.
* `requirePermission` is the role guard, `createApiKey` and `revokeApiKey` are the endpoints.

`[about ours]`: `AuthHost` holds the process: its JWT library, mode, key ring, revocations and the
text functions of the standard library.  An exception no handler turns into a response is a 500.
-/

namespace CyberAssess

open Python
open Checked (ensure refuse require reraise)

/-! ### Rows -/

/-- `users`. -/
structure UserRow where
  id : String
  username : String
  email : String
  role : UserRole
  principalType : PrincipalType
  organizationId : String
  isActive : Bool
deriving DecidableEq, Repr

/-- `api_keys`. -/
structure ApiKeyRow where
  keyId : String
  keyHash : String
  organizationId : String
  userId : Option String
  name : String
  scopes : List String
  status : String
  expiresAt : Option Instant
  revokedAt : Option Instant
deriving DecidableEq, Repr

/-- The users and the API keys. -/
structure Accounts where
  users : List UserRow
  apiKeys : List ApiKeyRow
deriving DecidableEq, Repr

/-- The process that answers a request. -/
structure AuthHost where
  jwt : PyJwt
  mode : OperatingMode
  keys : SigningKeys
  revoked : Revocations
  lower : String → String
  sha256 : String → String

/-- An exception the framework answers. -/
def serverError (detail : String) : HttpException := ⟨500, detail, none⟩

/-- The limits `UserProfile` puts on a username. -/
def validUsername (s : String) : Bool := 3 ≤ s.length && s.length ≤ 50

/-- `UserProfile(…)` of a users row: it has no scopes of its own. -/
def UserRow.profile (u : UserRow) : Except HttpException UserProfile := do
  ensure (validUsername u.username) (serverError "username")
  return ⟨u.id, u.username, u.email, u.role, u.principalType, u.organizationId, [], u.isActive⟩

/-- `get_user_by_id`. -/
def Accounts.getUserById (db : Accounts) (id : String) : Except HttpException (Option UserProfile) :=
  match db.users.find? (·.id = id) with
  | none => .ok none
  | some u => u.profile.map some

/-- The key has not expired. -/
def ApiKeyRow.unexpired (k : ApiKeyRow) (now : Instant) : Bool := k.expiresAt.all (now < ·)

/-- `verify_api_key_hash`. -/
def Accounts.verifyApiKeyHash (db : Accounts) (now : Instant) (keyHash : String) :
    Except HttpException (Option (ApiKeyRow × UserProfile)) :=
  match db.apiKeys.find? fun k => k.keyHash = keyHash && k.revokedAt.isNone && k.status = "ACTIVE" with
  | none => .ok none
  | some key =>
      if !key.unexpired now then .ok none
      else
        match key.userId.filter (· ≠ "") with
        | some userId =>
            match db.users.find? (·.id = userId) with
            | none => .ok none
            | some user =>
                if !user.isActive || user.organizationId ≠ key.organizationId then .ok none
                else user.profile.map fun p => some (key, { p with isActive := true })
        | none => do
            let username := "apikey-" ++ key.name
            ensure (validUsername username) (serverError "username")
            return some (key, ⟨"usr-key-" ++ key.keyId, username, username ++ "@cyberassess.local",
              .securityAnalyst, .tenantPrincipal, key.organizationId, [], true⟩)

/-! ### The current user -/

/-- The two headers a request may authenticate with. -/
structure Credentials where
  authorization : Option String
  xApiKey : Option String
deriving DecidableEq, Repr

/-- The headers that are given, blank ones not. -/
def headerValue (header : Option String) : Option String := header.filter (!isBlank ·)

/-- The token of a `Bearer` header. -/
def AuthHost.bearerToken (host : AuthHost) (c : Credentials) : Option String :=
  match (headerValue c.authorization).map fun a => (stripChars a.toList).splitOn ' ' with
  | some [scheme, token] =>
      if host.lower (String.ofList scheme) = "bearer" && !token.isEmpty then
        some (String.ofList token)
      else none
  | _ => none

/-- A bearer header with a token that has no space in it gives that token. -/
theorem AuthHost.bearerToken_of (host : AuthHost) {token : String} (xApiKey : Option String)
    (scheme : host.lower "Bearer" = "bearer") (nonempty : token ≠ "")
    (unspaced : ∀ x ∈ token.toList, isSpace x = false) :
    host.bearerToken ⟨some ("Bearer " ++ token), xApiKey⟩ = some token := by
  have chars : ("Bearer " ++ token).toList = "Bearer".toList ++ ' ' :: token.toList := by
    rw [String.toList_append]
    rfl
  have stripped : stripChars ("Bearer " ++ token).toList = "Bearer".toList ++ ' ' :: token.toList := by
    rw [chars]
    refine stripChars_eq (by rintro x ⟨⟩; decide) ?_
    rw [List.getLast?_append_of_ne_nil _ (List.cons_ne_nil _ _), List.getLast?_cons]
    intro x hx
    cases hl : token.toList.getLast? with
    | none => exact absurd (List.getLast?_eq_none_iff.mp hl) (by simpa using nonempty)
    | some y =>
        have : x = y := by simpa [hl, eq_comm] using hx
        exact this ▸ unspaced y (List.mem_of_getLast? hl)
  have split : ("Bearer".toList ++ ' ' :: token.toList).splitOn ' ' =
      ["Bearer".toList, token.toList] := by
    have noBlank : ∀ x ∈ token.toList, (x == ' ') = false := by
      intro x hx
      by_contra blank
      have : x = ' ' := by simpa using blank
      exact absurd (unspaced x hx) (by rw [this]; decide)
    rw [List.splitOn, List.splitOnP_append_cons_of_forall_mem (by simp) ' ' rfl,
      List.splitOnP_eq_singleton noBlank]
  have shown : headerValue (some ("Bearer " ++ token)) = some ("Bearer " ++ token) := by
    refine Option.filter_eq_some_iff.mpr ⟨rfl, ?_⟩
    rw [isBlank, chars]
    rfl
  simp only [AuthHost.bearerToken, shown, Option.map_some, stripped, split]
  simp [scheme, nonempty]

/-- `ANONYMOUS_DEV_USER`. -/
def anonymousDevUser : UserProfile where
  id := "usr-dev-anon"
  username := "dev-viewer"
  email := "dev@cyberassess.local"
  role := .viewer
  principalType := .tenantPrincipal
  organizationId := "org-default"
  scopes := ["scan:read", "asset:read", "finding:read", "report:read"]
  isActive := true

/-- `PrincipalType(value) if value in [...] else TENANT_PRINCIPAL`. -/
def principalTypeOf (value : String) : PrincipalType :=
  if value = "SYSTEM_PRINCIPAL" then .systemPrincipal else .tenantPrincipal

/-- `UserRole(value)`. -/
def userRoleOf (value : String) : Option UserRole :=
  [.admin, .securityAnalyst, .developer, .viewer].find? (·.text = value)

/-- The explicit scopes of a claim; one that is no list is refused. -/
def ScopesClaim.explicit : ScopesClaim → Except HttpException (Option (List String))
  | .absent => .ok none
  | .malformed => .error (unauthorized "Malformed token scopes claim.")
  | .listed scopes => .ok (some scopes)

/-- The scopes a fixture token lists. -/
def TokenPayload.fixtureScopes (p : TokenPayload) : List String :=
  match p.scopes with
  | .listed scopes => if p.syntheticFixture then scopes else []
  | _ => []

/-- The synthetic identity of a token whose subject has no row. -/
def syntheticUser (p : TokenPayload) : Except HttpException UserProfile := do
  let rawScopes ← p.scopes.explicit
  let role ← require (userRoleOf (p.role.getD "VIEWER")) (serverError "role")
  let user : UserProfile :=
    { id := p.sub
      username := p.username.getD "user"
      email := p.email.getD "user@local"
      role := role
      principalType := principalTypeOf (p.principalType.getD "TENANT_PRINCIPAL")
      organizationId := p.orgId.getD "org-default"
      scopes := p.fixtureScopes
      isActive := true }
  return { user with scopes := resolveEffectiveScopes user rawScopes }

/-- The user a subject names, if there is one. -/
def Accounts.authoritativeUser (db : Accounts) (subjectId : String) :
    Except HttpException (Option UserProfile) :=
  if subjectId = "" then .ok none else db.getUserById subjectId

/-- The principal of a bearer token. -/
def AuthHost.bearerUser (host : AuthHost) (db : Accounts) (now : Instant) (token : String) :
    Except HttpException UserProfile := do
  let payload ← decodeAccessToken host.jwt host.keys host.revoked now token
  let authoritative ← db.authoritativeUser (strip payload.sub)
  match authoritative with
  | some user =>
      ensure user.isActive (unauthorized "User account has been deactivated.")
      let tokenScopes ← payload.scopes.explicit
      return { user with scopes := resolveEffectiveScopes user tokenScopes }
  | none =>
      refuse (host.mode = .production)
        (unauthorized "Authenticated user identity is not present in the authoritative database.")
      syntheticUser payload

/-- The 401 an API key is refused with. -/
def invalidApiKey : HttpException := ⟨401, "Invalid, expired, or revoked API key.", some "ApiKey"⟩

/-- The principal of an API key. -/
def AuthHost.apiKeyUser (host : AuthHost) (db : Accounts) (now : Instant) (xApiKey : String) :
    Except HttpException UserProfile := do
  let verified ← db.verifyApiKeyHash now (host.sha256 (strip xApiKey))
  let (key, user) ← require verified invalidApiKey
  ensure (user.isActive && key.status = "ACTIVE" && key.revokedAt.isNone) invalidApiKey
  return { user with scopes := key.scopes }

/-- `get_current_user`. -/
def AuthHost.getCurrentUser (host : AuthHost) (db : Accounts) (now : Instant) (c : Credentials) :
    Except HttpException UserProfile := do
  refuse ((headerValue c.authorization).isSome && (headerValue c.xApiKey).isSome)
    ⟨400, "Conflicting authentication credentials are not permitted.", none⟩
  match headerValue c.xApiKey, host.bearerToken c with
  | some key, _ => host.apiKeyUser db now key
  | none, some token => host.bearerUser db now token
  | none, none =>
      ensure (host.mode = .development) (unauthorized
        "Authentication required. Please provide a valid Bearer token or X-API-Key.")
      return anonymousDevUser

/-- `require_permission(allowed_roles=…)`. -/
def requirePermission (allowedRoles : List UserRole) (user : UserProfile) :
    Except HttpException Unit := do
  ensure user.isActive ⟨403, "User account is deactivated.", none⟩
  ensure (user.role = .admin || allowedRoles.contains user.role)
    ⟨403, "Access forbidden: User role '" ++ user.role.text ++
      "' does not possess required privileges ([" ++
      ", ".intercalate (allowedRoles.map fun r => "'" ++ r.text ++ "'") ++ "]).", none⟩

/-! ### The API keys -/

/-- `API_KEY_ALLOWED_SCOPES`. -/
def apiKeyAllowedScopes : List String :=
  ["scan:create", "scan:read", "scan:cancel", "scan:delete", "scan:repeater", "scan:internal",
    "asset:read", "asset:write", "asset:delete",
    "finding:read", "finding:write", "finding:triage", "finding:risk_accept", "report:read",
    "tool:read", "tool:install",
    "execution:request", "execution:approve", "execution:read", "execution:revoke"]

/-- `CreateAPIKeyRequest`. -/
structure CreateApiKeyRequest where
  name : String
  scopes : List String
  expiresInDays : Option Nat
deriving DecidableEq, Repr

/-- The limits of the request model. -/
def CreateApiKeyRequest.valid (r : CreateApiKeyRequest) : Bool :=
  2 ≤ r.name.length && r.name.length ≤ 50 && 1 ≤ r.scopes.length && r.scopes.length ≤ 20 &&
    r.expiresInDays.all fun d => 1 ≤ d && d ≤ 365

/-- The requested scopes, each once. -/
def CreateApiKeyRequest.requestedScopes (r : CreateApiKeyRequest) : List String :=
  ((r.scopes.filter (!isBlank ·)).map strip).eraseDups

/-- `create_api_key` for an authenticated user; the key id, the secret and the clock are the
host's. -/
def createApiKey (sha256 : String → String) (db : Accounts) (now : Instant) (user : UserProfile)
    (r : CreateApiKeyRequest) (keyId rawSecret : String) : Except HttpException Accounts := do
  ensure r.valid ⟨422, "Unprocessable Entity", none⟩
  requirePermission [.admin, .securityAnalyst] user
  let requested := r.requestedScopes
  ensure (!requested.isEmpty && !requested.contains "*" && requested.all apiKeyAllowedScopes.contains)
    ⟨400, "API key scopes must be a non-empty subset of the platform scope allowlist.", none⟩
  ensure ((user.isSystemAdmin && user.scopes.contains "*") || requested.all user.scopes.contains)
    ⟨403, "API key scopes cannot exceed the caller's effective permissions.", none⟩
  let keyHash := sha256 rawSecret
  -- the primary key and the unique column
  refuse (db.apiKeys.any fun k => k.keyId = keyId || k.keyHash = keyHash) (serverError "api_keys")
  let key : ApiKeyRow :=
    { keyId := keyId
      keyHash := keyHash
      organizationId := user.organizationId
      userId := some user.id
      name := strip r.name
      scopes := requested.mergeSort
      status := "ACTIVE"
      expiresAt := r.expiresInDays.map fun d => now + seconds (d * 86400)
      revokedAt := none }
  return { db with apiKeys := db.apiKeys ++ [key] }

/-- `revoke_api_key` for an authenticated user. -/
def revokeApiKey (db : Accounts) (now : Instant) (user : UserProfile) (keyId : String) :
    Except HttpException Accounts := do
  requirePermission [.admin, .securityAnalyst] user
  let mine (k : ApiKeyRow) : Bool :=
    k.keyId = keyId && (user.isSystemAdmin || k.organizationId = user.organizationId)
  ensure (db.apiKeys.any mine) ⟨404, "API key '" ++ keyId ++ "' not found.", none⟩
  let revoke (k : ApiKeyRow) : ApiKeyRow :=
    if mine k then { k with revokedAt := some now, status := "REVOKED" } else k
  return { db with apiKeys := db.apiKeys.map revoke }

/-- The role of a user is changed. -/
def Accounts.setRole (db : Accounts) (userId : String) (role : UserRole) : Accounts :=
  { db with users := db.users.map fun u => if u.id = userId then { u with role := role } else u }

end CyberAssess
