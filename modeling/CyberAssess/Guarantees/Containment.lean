import CyberAssess.Access.Principals
import CyberAssess.Support.Transition

/-!
# Guarantees — scopes within the current role

Whether the scopes a request is granted stay within the role its user has now, over every run of
role changes, API-key creations and key revocations.

* `AccessState.Contained` is the promise, `WithinRole` the steps that keep it.
* A bearer token is resolved against the current role; an API key grants the scopes it was created
  with, so a role change keeps the promise exactly as far as it leaves no open key outside the role.
-/

namespace CyberAssess

open Python
open Transition
open Checked (ensure refuse require bind_ok exists_unit ensure_ok refuse_ok require_ok map_ok)

/-! ### The system -/

/-- The accounts, and the time of the last step. -/
structure AccessState where
  db : Accounts
  clock : Instant
deriving DecidableEq, Repr

/-- A change of the accounts, with the process that makes it and the time it is made at. -/
inductive AccessEvent where
  | setRole (userId : String) (role : UserRole) (now : Instant)
  | createKey (host : AuthHost) (c : Credentials) (r : CreateApiKeyRequest)
      (keyId rawSecret : String) (now : Instant)
  | revokeKey (host : AuthHost) (c : Credentials) (keyId : String) (now : Instant)

/-- One successful change. -/
inductive AccessState.Step : AccessState → AccessEvent → AccessState → Prop where
  | setRole {s : AccessState} {now : Instant} (userId : String) (role : UserRole)
      (later : s.clock ≤ now) :
      Step s (.setRole userId role now) ⟨s.db.setRole userId role, now⟩
  | createKey {s : AccessState} {host : AuthHost} {c : Credentials} {user : UserProfile}
      {r : CreateApiKeyRequest} {keyId rawSecret : String} {now : Instant} {db : Accounts}
      (later : s.clock ≤ now) (caller : host.getCurrentUser s.db now c = .ok user)
      (h : createApiKey host.sha256 s.db now user r keyId rawSecret = .ok db) :
      Step s (.createKey host c r keyId rawSecret now) ⟨db, now⟩
  | revokeKey {s : AccessState} {host : AuthHost} {c : Credentials} {user : UserProfile}
      {keyId : String} {now : Instant} {db : Accounts}
      (later : s.clock ≤ now) (caller : host.getCurrentUser s.db now c = .ok user)
      (h : revokeApiKey s.db now user keyId = .ok db) :
      Step s (.revokeKey host c keyId now) ⟨db, now⟩

/-- Before the first key: users under distinct ids, as the code makes ids. -/
structure AccessState.Initial (s : AccessState) : Prop where
  noKeys : s.db.apiKeys = []
  distinct : (s.db.users.map (·.id)).Nodup
  ids : ∀ u ∈ s.db.users, strip u.id = u.id ∧ u.id ≠ ""

/-! ### The promise -/

/-- The users row a principal stands for. -/
def Accounts.rowOf (db : Accounts) (p : UserProfile) : Option UserRow :=
  db.users.find? (·.id = p.id)

/-- The current role of a principal: its row's, and of a synthetic principal its own. -/
def Accounts.currentRole (db : Accounts) (p : UserProfile) : UserRole :=
  (db.rowOf p).elim p.role (·.role)

/-- The scopes a principal is assigned beyond its role: a row has none, and a synthetic principal
those its fixture token lists. -/
def AuthHost.assignedScopes (host : AuthHost) (db : Accounts) (now : Instant) (c : Credentials)
    (p : UserProfile) : List String :=
  if (db.rowOf p).isSome then []
  else
    match (host.bearerToken c).map (decodeAccessToken host.jwt host.keys host.revoked now) with
    | some (.ok payload) => payload.fixtureScopes.filter allValidScopes.contains
    | _ => []

/-- Whatever a request with a bearer token or an API key is granted as a tenant principal is a scope
of the user's current role or an assigned one. -/
def AccessState.Contained (s : AccessState) : Prop :=
  ∀ (host : AuthHost) (now : Instant) (c : Credentials) (p : UserProfile), s.clock ≤ now →
    (headerValue c.xApiKey).isSome ∨ (host.bearerToken c).isSome →
    host.getCurrentUser s.db now c = .ok p → p.principalType = .tenantPrincipal →
    ∀ scope ∈ p.scopes, scope ∈ roleBaseScopes (s.db.currentRole p) ∨
      scope ∈ host.assignedScopes s.db now c p

/-- The key opens the account of the user: it is active and unexpired, bound to the user and its
organization, and the user is an active tenant principal. -/
structure UserRow.Opens (u : UserRow) (k : ApiKeyRow) (now : Instant) : Prop where
  bound : k.userId = some u.id
  status : k.status = "ACTIVE"
  unrevoked : k.revokedAt = none
  unexpired : k.unexpired now = true
  active : u.isActive = true
  organization : u.organizationId = k.organizationId
  username : validUsername u.username = true
  tenant : u.principalType = .tenantPrincipal

/-- A role change leaves every key that opens the account within the new role; a key is created
under a subject that is not empty. -/
def WithinRole (s : AccessState) : AccessEvent → Prop
  | .setRole userId role now => ∀ u ∈ s.db.users, u.id = userId → ∀ k ∈ s.db.apiKeys,
      u.Opens k now → ∀ scope ∈ k.scopes, scope ∈ roleBaseScopes role
  | .createKey host c _ _ _ now => host.mode = .production ∨ ∀ token payload,
      host.bearerToken c = some token →
      decodeAccessToken host.jwt host.keys host.revoked now token = .ok payload → payload.sub ≠ ""
  | .revokeKey _ _ _ _ => True

/-! ### The reads -/

variable {db : Accounts} {host : AuthHost} {now : Instant} {c : Credentials} {p : UserProfile}
  {u : UserRow} {key : ApiKeyRow} {s s' : AccessState} {e : AccessEvent}

theorem profile_ok : u.profile = .ok p ↔ validUsername u.username = true ∧
    p = ⟨u.id, u.username, u.email, u.role, u.principalType, u.organizationId, [], u.isActive⟩ := by
  simp only [UserRow.profile, bind_ok, exists_unit, ensure_ok, pure, Except.pure, Except.ok.injEq]
  exact and_congr_right fun _ => eq_comm

/-- A key that verifies is stored, active, unrevoked and unexpired; the principal is the row it is
bound to, or the key is bound to none. -/
theorem verifyApiKeyHash_some {keyHash : String}
    (h : db.verifyApiKeyHash now keyHash = .ok (some (key, p))) :
    key ∈ db.apiKeys ∧ key.status = "ACTIVE" ∧ key.revokedAt = none ∧
      key.unexpired now = true ∧
      (key.userId.filter (· ≠ "") = none ∨
        ∃ u, db.users.find? (·.id = p.id) = some u ∧ key.userId = some u.id ∧
          u.isActive = true ∧ u.organizationId = key.organizationId ∧
          validUsername u.username = true ∧ p.id = u.id ∧ p.principalType = u.principalType) := by
  unfold Accounts.verifyApiKeyHash at h
  split at h
  · cases h
  · rename_i found stored
    have mem := List.mem_of_find?_eq_some stored
    have facts := List.find?_some stored
    simp only [Bool.and_eq_true, decide_eq_true_eq, Option.isNone_iff_eq_none] at facts
    split at h
    · cases h
    · rename_i alive
      have unexpired : found.unexpired now = true := by simpa using alive
      split at h
      · rename_i userId bound
        split at h
        · cases h
        · rename_i user row
          split at h
          · cases h
          · rename_i usable
            obtain ⟨q, hq, done⟩ := map_ok.mp h
            obtain ⟨username, rfl⟩ := profile_ok.mp hq
            cases done
            have same : user.id = userId := by simpa using List.find?_some row
            subst same
            simp only [Bool.or_eq_true, Bool.not_eq_true', decide_eq_true_eq, not_or,
              Bool.not_eq_false, not_not] at usable
            exact ⟨mem, facts.2, facts.1.2, unexpired, .inr ⟨user, row,
              (Option.filter_eq_some_iff.mp bound).1, usable.1, usable.2, username, rfl, rfl⟩⟩
      · rename_i unbound
        simp only [bind_ok, exists_unit, ensure_ok, pure, Except.pure, Except.ok.injEq,
          Option.some.injEq, Prod.mk.injEq] at h
        obtain ⟨-, rfl, -⟩ := h
        exact ⟨mem, facts.2, facts.1.2, unexpired, .inl unbound⟩

/-- A principal's row, found by the principal's id, is the row of that id. -/
theorem rowOf_id (h : db.rowOf p = some u) : u ∈ db.users ∧ u.id = p.id :=
  ⟨List.mem_of_find?_eq_some h, by simpa using List.find?_some h⟩

/-- Where ids are distinct, a row is found under its id. -/
theorem rowOf_of_mem (distinct : (db.users.map (·.id)).Nodup) (hu : u ∈ db.users)
    (hp : u.id = p.id) : db.rowOf p = some u := by
  cases hr : db.rowOf p with
  | none => exact absurd hp (by simpa using List.find?_eq_none.mp hr u hu)
  | some v =>
      obtain ⟨hv, hvp⟩ := rowOf_id hr
      rw [List.inj_on_of_nodup_map distinct hv hu (hvp.trans hp.symm)]

/-- What the API key path grants. -/
theorem apiKeyUser_ok {xApiKey : String} (h : host.apiKeyUser db now xApiKey = .ok p) :
    ∃ key ∈ db.apiKeys, key.status = "ACTIVE" ∧ key.revokedAt = none ∧
      key.unexpired now = true ∧ p.scopes = key.scopes ∧
      (key.userId.filter (· ≠ "") = none ∨
        ∃ u, db.rowOf p = some u ∧ key.userId = some u.id ∧ u.isActive = true ∧
          u.organizationId = key.organizationId ∧ validUsername u.username = true ∧
          p.principalType = u.principalType) := by
  simp only [AuthHost.apiKeyUser, bind_ok, require_ok] at h
  obtain ⟨_, verified, ⟨key, user⟩, rfl, _, -, done⟩ := h
  cases done
  obtain ⟨mem, status, unrevoked, unexpired, bound⟩ := verifyApiKeyHash_some verified
  refine ⟨key, mem, status, unrevoked, unexpired, rfl, bound.imp_right ?_⟩
  rintro ⟨u, row, owner, active, organization, username, -, type⟩
  exact ⟨u, row, owner, active, organization, username, type⟩

/-- What the bearer path grants: within the role of the subject's row, or within the role and the
fixture scopes of a synthetic principal. -/
theorem bearerUser_ok {token : String} (h : host.bearerUser db now token = .ok p) :
    ∃ payload, decodeAccessToken host.jwt host.keys host.revoked now token = .ok payload ∧
      ((∃ u, db.rowOf p = some u ∧ p.principalType = u.principalType ∧
          (p.principalType = .tenantPrincipal → ∀ x ∈ p.scopes, x ∈ roleBaseScopes u.role)) ∨
        (strip payload.sub = "" ∨ db.users.find? (·.id = strip payload.sub) = none) ∧
          host.mode ≠ .production ∧ p.id = payload.sub ∧
          (p.principalType = .tenantPrincipal → ∀ x ∈ p.scopes,
            x ∈ roleBaseScopes p.role ∨ x ∈ payload.fixtureScopes.filter allValidScopes.contains)) := by
  simp only [AuthHost.bearerUser, bind_ok] at h
  obtain ⟨payload, decoded, found, read, h⟩ := h
  refine ⟨payload, decoded, ?_⟩
  cases found with
  | some user =>
      left
      unfold Accounts.authoritativeUser at read
      split at read
      · cases read
      · unfold Accounts.getUserById at read
        split at read
        · cases read
        · rename_i u row
          obtain ⟨q, hq, same⟩ := map_ok.mp read
          cases same
          obtain ⟨-, rfl⟩ := profile_ok.mp hq
          simp only [bind_ok, exists_unit, ensure_ok] at h
          obtain ⟨-, scopes, -, done⟩ := h
          cases done
          have id : u.id = strip payload.sub := by simpa using List.find?_some row
          refine ⟨u, ?_, rfl, ?_⟩
          · rw [Accounts.rowOf]
            simpa [id] using row
          · intro tenant x hx
            refine (mem_resolveEffectiveScopes (isSystemAdmin_of_tenant ?_) hx).resolve_right ?_
            · exact tenant
            · simp [UserProfile.assigned]
  | none =>
      right
      simp only [bind_ok, exists_unit, refuse_ok, decide_eq_false_iff_not] at h
      obtain ⟨mode, h⟩ := h
      simp only [syntheticUser, bind_ok, require_ok] at h
      obtain ⟨scopes, -, role, -, done⟩ := h
      cases done
      refine ⟨?_, mode, rfl, ?_⟩
      · unfold Accounts.authoritativeUser at read
        split at read
        · exact .inl ‹_›
        · right
          unfold Accounts.getUserById at read
          split at read
          · assumption
          · obtain ⟨q, -, same⟩ := map_ok.mp read
            cases same
      · intro tenant x hx
        refine (mem_resolveEffectiveScopes (isSystemAdmin_of_tenant ?_) hx).imp_right ?_
        · exact tenant
        · intro mine
          simp only [UserProfile.assigned, Bool.and_eq_true] at mine
          exact List.mem_filter.mpr ⟨List.contains_iff_mem.mp mine.1.1, mine.1.2⟩

/-! ### The invariant -/

/-- Every key is bound to a user, and no key that opens an account now or later exceeds the role
its user has. -/
structure AccessState.Kept (s : AccessState) : Prop where
  distinct : (s.db.users.map (·.id)).Nodup
  ids : ∀ u ∈ s.db.users, strip u.id = u.id ∧ u.id ≠ ""
  bound : ∀ k ∈ s.db.apiKeys, ∃ id, k.userId = some id ∧ id ≠ ""
  within : ∀ u ∈ s.db.users, ∀ k ∈ s.db.apiKeys, u.Opens k s.clock →
    ∀ scope ∈ k.scopes, scope ∈ roleBaseScopes u.role

/-- A key that is unexpired was so before. -/
theorem UserRow.Opens.earlier {k : ApiKeyRow} {before : Instant} (h : u.Opens k now)
    (le : before ≤ now) : u.Opens k before := by
  refine { h with unexpired := ?_ }
  have late := h.unexpired
  unfold ApiKeyRow.unexpired at late ⊢
  cases hk : k.expiresAt with
  | none => rfl
  | some t =>
      rw [hk] at late
      simp only [Option.all_some, decide_eq_true_eq] at late ⊢
      exact lt_of_le_of_lt le late

/-- Whom a request is made by, where the invariant holds: a user of the database within its role,
or a synthetic principal within its own, or the anonymous development user. -/
theorem AccessState.Kept.principal (h : s.Kept) (later : s.clock ≤ now)
    (hp : host.getCurrentUser s.db now c = .ok p) :
    (∃ u, s.db.rowOf p = some u ∧ p.principalType = u.principalType ∧
        (p.principalType = .tenantPrincipal → ∀ x ∈ p.scopes, x ∈ roleBaseScopes u.role)) ∨
      (∃ token payload, host.bearerToken c = some token ∧
        decodeAccessToken host.jwt host.keys host.revoked now token = .ok payload ∧
        s.db.rowOf p = none ∧ host.mode ≠ .production ∧ p.id = payload.sub ∧
        (p.principalType = .tenantPrincipal → ∀ x ∈ p.scopes,
          x ∈ roleBaseScopes p.role ∨
            x ∈ payload.fixtureScopes.filter allValidScopes.contains)) ∨
      (¬ ((headerValue c.xApiKey).isSome ∨ (host.bearerToken c).isSome)) ∧
        p = anonymousDevUser := by
  simp only [AuthHost.getCurrentUser, bind_ok, exists_unit, refuse_ok] at hp
  obtain ⟨-, hp⟩ := hp
  split at hp
  · rename_i xApiKey _ _
    obtain ⟨key, mem, status, unrevoked, unexpired, scopes, owner⟩ := apiKeyUser_ok hp
    obtain ⟨id, hid, nonempty⟩ := h.bound key mem
    rcases owner with unbound | ⟨u, row, owner, active, organization, username, type⟩
    · rw [hid] at unbound
      simp [nonempty] at unbound
    · refine .inl ⟨u, row, type, ?_⟩
      intro tenant x hx
      have opens : u.Opens key now :=
        ⟨owner, status, unrevoked, unexpired, active, organization, username, type ▸ tenant⟩
      exact h.within u (rowOf_id row).1 key mem (opens.earlier later) x (scopes ▸ hx)
  · rename_i token noKey isToken
    obtain ⟨payload, decoded, known | ⟨unknown, mode, id, within⟩⟩ := bearerUser_ok hp
    · exact .inl known
    · refine .inr (.inl ⟨token, payload, isToken, decoded, ?_, mode, id, within⟩)
      -- a row under the subject itself has a stripped id, and would have been found
      cases row : s.db.rowOf p with
      | none => rfl
      | some u =>
          obtain ⟨mem, hid⟩ := rowOf_id row
          obtain ⟨stripped, nonempty⟩ := h.ids u mem
          have subject : strip payload.sub = u.id := by rw [← id, ← hid, stripped]
          rcases unknown with blank | missing
          · exact absurd (subject.symm.trans blank) nonempty
          · exact absurd subject.symm (by simpa using List.find?_eq_none.mp missing u mem)
  · rename_i noKey noToken
    simp only [bind_ok, exists_unit, pure, Except.pure, Except.ok.injEq] at hp
    exact .inr (.inr ⟨by simp [noKey, noToken], hp.2.symm⟩)

/-- The invariant contains the grants. -/
theorem AccessState.Kept.contained (h : s.Kept) : s.Contained := by
  intro host now c p later credentials hp tenant x hx
  rcases h.principal later hp with ⟨u, row, -, within⟩ | ⟨token, payload, isToken, decoded, row, -, -,
    within⟩ | ⟨none, -⟩
  · left
    rw [Accounts.currentRole, row]
    exact within tenant x hx
  · rw [Accounts.currentRole, AuthHost.assignedScopes, row, isToken]
    simpa [decoded] using within tenant x hx
  · exact absurd credentials none

theorem AccessState.Kept.initial (h : s.Initial) : s.Kept where
  distinct := h.distinct
  ids := h.ids
  bound := by simp [h.noKeys]
  within := by simp [h.noKeys]

/-- A role change within the condition keeps the invariant. -/
theorem AccessState.Kept.setRole {userId : String} {role : UserRole} (h : s.Kept)
    (later : s.clock ≤ now) (within : WithinRole s (.setRole userId role now)) :
    AccessState.Kept ⟨s.db.setRole userId role, now⟩ := by
  let changed (u : UserRow) : UserRow := if u.id = userId then { u with role := role } else u
  have sameId (u : UserRow) : (changed u).id = u.id := by
    unfold changed
    split <;> rfl
  refine ⟨?_, ?_, h.bound, ?_⟩
  · have same : (s.db.users.map changed).map (·.id) = s.db.users.map (·.id) := by
      simp only [List.map_map]
      exact List.map_congr_left fun u _ => sameId u
    exact same ▸ h.distinct
  · intro v hv
    obtain ⟨u, hu, rfl⟩ := List.mem_map.mp hv
    exact (sameId u).symm ▸ h.ids u hu
  · intro v hv k hk opens
    obtain ⟨u, hu, rfl⟩ := List.mem_map.mp hv
    by_cases mine : u.id = userId
    · simp only [mine, if_true] at opens ⊢
      exact within u hu mine k hk ⟨by simpa [mine] using opens.bound, opens.status, opens.unrevoked,
        opens.unexpired, opens.active, opens.organization, opens.username, opens.tenant⟩
    · simp only [mine, if_false] at opens ⊢
      exact h.within u hu k hk (opens.earlier later)

/-- A key that is created: of the caller, with scopes the caller has unless it is a system
administrator. -/
theorem createApiKey_ok {sha256 : String → String} {r : CreateApiKeyRequest}
    {keyId rawSecret : String} {db' : Accounts}
    (h : createApiKey sha256 db now p r keyId rawSecret = .ok db') :
    requirePermission [.admin, .securityAnalyst] p = .ok () ∧
      ∃ key, db' = { db with apiKeys := db.apiKeys ++ [key] } ∧ key.userId = some p.id ∧
        (p.isSystemAdmin = false → ∀ x ∈ key.scopes, x ∈ p.scopes) := by
  simp only [createApiKey, bind_ok, exists_unit, ensure_ok, refuse_ok] at h
  obtain ⟨-, permitted, -, allowed, -, done⟩ := h
  cases done
  refine ⟨permitted, _, rfl, rfl, ?_⟩
  intro tenant x hx
  have mem : x ∈ r.requestedScopes := (List.mergeSort_perm _ _).mem_iff.mp hx
  simp only [tenant, Bool.false_and, Bool.false_or, List.all_eq_true] at allowed
  exact List.contains_iff_mem.mp (allowed x mem)

/-- The anonymous development user may not create keys. -/
theorem anonymous_refused :
    requirePermission [.admin, .securityAnalyst] anonymousDevUser ≠ .ok () := by
  decide

/-- A key created within the condition keeps the invariant. -/
theorem AccessState.Kept.createKey {r : CreateApiKeyRequest} {keyId rawSecret : String}
    {db' : Accounts} (h : s.Kept) (later : s.clock ≤ now)
    (within : WithinRole s (.createKey host c r keyId rawSecret now))
    (caller : host.getCurrentUser s.db now c = .ok p)
    (created : createApiKey host.sha256 s.db now p r keyId rawSecret = .ok db') :
    AccessState.Kept ⟨db', now⟩ := by
  obtain ⟨permitted, key, rfl, owner, bounded⟩ := createApiKey_ok created
  refine ⟨h.distinct, h.ids, ?_, ?_⟩
  · intro k hk
    rcases List.mem_append.mp hk with old | new
    · exact h.bound k old
    · rw [List.mem_singleton.mp new]
      refine ⟨p.id, owner, ?_⟩
      rcases h.principal later caller with ⟨u, row, -⟩ | ⟨token, payload, isToken, decoded, -, mode,
        id, -⟩ | ⟨-, rfl⟩
      · obtain ⟨mem, same⟩ := rowOf_id row
        exact same ▸ (h.ids u mem).2
      · rw [id]
        exact (within.resolve_left mode) token payload isToken decoded
      · exact absurd permitted anonymous_refused
  · intro u hu k hk opens
    rcases List.mem_append.mp hk with old | new
    · exact h.within u hu k old (opens.earlier later)
    · rw [List.mem_singleton.mp new] at opens ⊢
      have same : u.id = p.id := Option.some.inj (opens.bound.symm.trans owner)
      have row := rowOf_of_mem h.distinct hu same
      rcases h.principal later caller with ⟨v, known, type, grants⟩ | ⟨_, _, _, _, none, _⟩ | ⟨-, rfl⟩
      · rw [row] at known
        cases known
        have tenant : p.principalType = .tenantPrincipal := type.trans opens.tenant
        intro x hx
        exact grants tenant x (bounded (isSystemAdmin_of_tenant tenant) x hx)
      · rw [row] at none
        cases none
      · exact absurd permitted anonymous_refused

/-- A revocation keeps the invariant. -/
theorem AccessState.Kept.revokeKey {keyId : String} {db' : Accounts} (h : s.Kept)
    (later : s.clock ≤ now) (revoked : revokeApiKey s.db now p keyId = .ok db') :
    AccessState.Kept ⟨db', now⟩ := by
  simp only [revokeApiKey, bind_ok, exists_unit, ensure_ok] at revoked
  obtain ⟨-, -, done⟩ := revoked
  cases done
  refine ⟨h.distinct, h.ids, ?_, ?_⟩
  · intro k hk
    obtain ⟨before, mem, rfl⟩ := List.mem_map.mp hk
    split
    · exact h.bound before mem
    · exact h.bound before mem
  · intro u hu k hk opens
    obtain ⟨before, mem, rfl⟩ := List.mem_map.mp hk
    split at opens
    · exact absurd opens.unrevoked (by simp)
    · rw [if_neg ‹_›]
      exact h.within u hu before mem (opens.earlier later)

/-- A step within the condition keeps the invariant. -/
theorem AccessState.Kept.step (h : s.Kept) (within : WithinRole s e) (hs : s.Step e s') :
    s'.Kept := by
  cases hs with
  | setRole userId role later => exact h.setRole later within
  | createKey later caller created => exact h.createKey later within caller created
  | revokeKey later caller revoked => exact h.revokeKey later revoked

/-! ### The result -/

/-- Over every run whose role changes leave no open key outside the new role, and whose keys are
created under a subject that is not empty, every grant is within the user's current role. -/
theorem grants_within_current_role
    (run : Reachable AccessState.Initial (Guarded WithinRole AccessState.Step) s) :
    s.Contained := by
  have kept : s.Kept := run.invariant (fun _ => .initial) fun s e s' h hs => h.step hs.1 hs.2
  exact kept.contained

/-! ### A demotion -/

namespace Sample

/-- A process with ideal tokens. -/
def authHost : AuthHost where
  jwt := .ideal
  mode := .production
  keys := .initial "k-primary" "2b7e151628aed2a6abf7158809cf4f3c"
  revoked := ⟨[], []⟩
  lower s := if s = "Bearer" then "bearer" else s
  sha256 := id

/-- An administrator of a tenant. -/
def tenantAdmin : UserRow :=
  ⟨"usr-1", "admin", "admin@local", .admin, .tenantPrincipal, "org-1", true⟩

/-- The administrator logs in. -/
def adminLogin : TokenIssue where
  user := ⟨"usr-1", "admin", "admin@local", .admin, .tenantPrincipal, "org-1", [], true⟩
  expiresIn := 86400
  scopes := none
  now := 1700000000000000
  jti := "jti-1"

/-- The headers of a request with that login's token. -/
def adminCredentials : Credentials :=
  ⟨some ("Bearer " ++ createAccessToken .ideal .production authHost.keys adminLogin), none⟩

/-- The request for a key with one scope. -/
def keyRequest (scope : String) : CreateApiKeyRequest := ⟨"ci", [scope], some 90⟩

/-- One tenant with its administrator. -/
def adminTenant : AccessState := ⟨⟨[tenantAdmin], []⟩, 1700000000000000⟩

/-- The key the administrator creates. -/
def adminKey (scope : String) : ApiKeyRow :=
  ⟨"ca_key_1", "ca_live_1", "org-1", some "usr-1", "ci", [scope], "ACTIVE",
    some (1700000000000000 + seconds (90 * 86400)), none⟩

/-- The tenant with the key. -/
def withKey (scope : String) : AccessState :=
  ⟨⟨[tenantAdmin], [adminKey scope]⟩, 1700000000000000⟩

/-- The administrator is made a viewer. -/
def demoted (scope : String) : AccessState :=
  ⟨(withKey scope).db.setRole "usr-1" .viewer, 1700000000000000⟩

theorem adminToken_accepted :
    decodeAccessToken .ideal authHost.keys authHost.revoked 1700000000000000
      (createAccessToken .ideal .production authHost.keys adminLogin) =
        .ok (adminLogin.payload .production) :=
  decode_issued.mpr ⟨List.not_mem_nil, by decide, by decide, by decide, by simp [authHost]⟩

/-- The token is a run of one character. -/
theorem adminToken_unspaced : ∀ x ∈
    (createAccessToken .ideal .production authHost.keys adminLogin).toList, isSpace x = false := by
  intro x hx
  have written : x ∈ (PyJwt.write (adminLogin.payload .production) authHost.keys.signingKey
      authHost.keys.activeKeyId).toList := hx
  rw [PyJwt.write, String.toList_ofList] at written
  rw [List.eq_of_mem_replicate written]
  decide

theorem adminCaller :
    authHost.getCurrentUser adminTenant.db 1700000000000000 adminCredentials =
      .ok { adminLogin.user with scopes := roleBaseScopes .admin } := by
  have token : authHost.bearerToken adminCredentials =
      some (createAccessToken .ideal .production authHost.keys adminLogin) :=
    authHost.bearerToken_of none rfl (PyJwt.ideal.encode_ne_empty _ _ _) adminToken_unspaced
  have noKey : headerValue adminCredentials.xApiKey = none := rfl
  simp only [AuthHost.getCurrentUser, noKey, token, Option.isSome_none, Bool.and_false]
  simp only [AuthHost.bearerUser]
  rw [show authHost.jwt = PyJwt.ideal from rfl, adminToken_accepted]
  rfl

/-- The creation of the key. -/
def createAdminKey (scope : String) : AccessEvent :=
  .createKey authHost adminCredentials (keyRequest scope) "ca_key_1" "ca_live_1" 1700000000000000

theorem withKey_step {scope : String}
    (h : createApiKey id adminTenant.db 1700000000000000
      { adminLogin.user with scopes := roleBaseScopes .admin } (keyRequest scope) "ca_key_1"
      "ca_live_1" = .ok (withKey scope).db) :
    adminTenant.Step (createAdminKey scope) (withKey scope) :=
  .createKey (le_refl _) adminCaller h

theorem adminTenant_initial : adminTenant.Initial := ⟨rfl, by decide, by decide⟩

/-- A key for what a viewer may do, and then the demotion. -/
theorem demoted_reachable :
    Reachable AccessState.Initial (Guarded WithinRole AccessState.Step) (demoted "scan:read") := by
  have created : Guarded WithinRole AccessState.Step adminTenant (createAdminKey "scan:read")
      (withKey "scan:read") :=
    ⟨Or.inl rfl, withKey_step (by decide +kernel)⟩
  have within : WithinRole (withKey "scan:read") (.setRole "usr-1" .viewer 1700000000000000) := by
    intro u _ _ k hk _ x hx
    rw [List.mem_singleton.mp hk] at hx
    rw [List.mem_singleton.mp hx]
    decide
  exact ⟨adminTenant, _, adminTenant_initial,
    .more created (.single ⟨within, .setRole "usr-1" .viewer (le_refl _)⟩)⟩

end Sample

/-- After the demotion, whatever a request is granted is a viewer's. -/
theorem grants_within_current_role_demoted : (Sample.demoted "scan:read").Contained :=
  grants_within_current_role Sample.demoted_reachable

/-- A key an administrator created for approving executions still grants that to the viewer the
administrator has become. -/
theorem demoted_key_approves :
    ¬ ∀ s, Reachable AccessState.Initial AccessState.Step s → s.Contained := by
  intro claimed
  have run : Reachable AccessState.Initial AccessState.Step (Sample.demoted "execution:approve") :=
    ⟨Sample.adminTenant, _, Sample.adminTenant_initial,
      .more (Sample.withKey_step (by decide +kernel)) (.single (.setRole "usr-1" .viewer (le_refl _)))⟩
  have granted : Sample.authHost.getCurrentUser (Sample.demoted "execution:approve").db
      1700000000000000 ⟨none, some "ca_live_1"⟩ =
        .ok ⟨"usr-1", "admin", "admin@local", .viewer, .tenantPrincipal, "org-1",
          ["execution:approve"], true⟩ := by
    decide +kernel
  have within := claimed _ run Sample.authHost 1700000000000000 ⟨none, some "ca_live_1"⟩ _
    (le_refl _) (.inl rfl) granted rfl "execution:approve" (List.mem_singleton_self _)
  exact absurd within (by decide +kernel)

end CyberAssess
