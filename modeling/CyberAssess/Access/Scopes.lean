import CyberAssess.Scan.Requests

/-!
# Access — roles and scopes

`core/auth.py`: the scopes a role starts with, and the one resolver of what a user is granted.

* `roleBaseScopes` is the scope matrix.
* `resolveEffectiveScopes` resolves the role's scopes with the user's assigned ones, or bounds an
  explicit grant by them.
* `mem_resolveEffectiveScopes`: whatever it grants to anyone but a system administrator is a scope
  of the role or an assigned one.
-/

namespace CyberAssess

/-- `PrincipalType`. -/
inductive PrincipalType where
  | systemPrincipal | tenantPrincipal
deriving DecidableEq, Repr

/-- `OperatingMode`. -/
inductive OperatingMode where
  | production | development | test
deriving DecidableEq, Repr

/-- `UserRole.value`. -/
def UserRole.text : UserRole → String
  | .admin => "ADMIN"
  | .securityAnalyst => "SECURITY_ANALYST"
  | .developer => "DEVELOPER"
  | .viewer => "VIEWER"

/-- `PrincipalType.value`. -/
def PrincipalType.text : PrincipalType → String
  | .systemPrincipal => "SYSTEM_PRINCIPAL"
  | .tenantPrincipal => "TENANT_PRINCIPAL"

/-- `UserProfile`. -/
structure UserProfile where
  id : String
  username : String
  email : String
  role : UserRole
  principalType : PrincipalType
  organizationId : String
  scopes : List String
  isActive : Bool
deriving DecidableEq, Repr

/-- `principal_type == SYSTEM_PRINCIPAL and role == ADMIN`. -/
def UserProfile.isSystemAdmin (user : UserProfile) : Bool :=
  user.principalType = .systemPrincipal && user.role = .admin

theorem isSystemAdmin_of_tenant {user : UserProfile} (h : user.principalType = .tenantPrincipal) :
    user.isSystemAdmin = false := by
  simp [UserProfile.isSystemAdmin, h]

/-- `ALL_VALID_SCOPES`. -/
def allValidScopes : List String :=
  ["scan:create", "scan:read", "scan:cancel", "scan:delete", "scan:repeater", "scan:internal",
    "asset:read", "asset:write", "asset:delete",
    "finding:read", "finding:write", "finding:triage", "finding:risk_accept",
    "report:read", "tool:read", "tool:install", "execution:request", "execution:approve",
    "execution:read", "execution:revoke", "execution:recovery"]

/-- `ROLE_BASE_SCOPES`. -/
def roleBaseScopes : UserRole → List String
  | .viewer => ["scan:read", "asset:read", "finding:read", "report:read", "tool:read"]
  | .developer =>
      ["scan:read", "scan:create", "scan:cancel", "asset:read", "asset:write", "finding:read",
        "finding:write", "finding:triage", "finding:risk_accept", "report:read", "tool:read"]
  | .securityAnalyst =>
      ["scan:read", "scan:create", "scan:cancel", "scan:repeater", "asset:read", "asset:write",
        "finding:read", "finding:write", "finding:triage", "finding:risk_accept", "report:read",
        "tool:read"]
  | .admin =>
      ["scan:create", "scan:read", "scan:cancel", "scan:delete", "scan:repeater", "asset:read",
        "asset:write", "asset:delete", "finding:read", "finding:write", "finding:triage",
        "finding:risk_accept", "report:read", "tool:read", "tool:install", "execution:request",
        "execution:approve", "execution:read", "execution:revoke", "execution:recovery"]

/-- The base scopes are valid ones, and no role has the wildcard. -/
theorem roleBaseScopes_valid (role : UserRole) :
    ∀ s ∈ roleBaseScopes role, s ∈ allValidScopes ∧ s ≠ "*" := by
  cases role <;> decide

/-- The assigned scopes that count: valid ones. -/
def UserProfile.assigned (user : UserProfile) (s : String) : Bool :=
  user.scopes.contains s && allValidScopes.contains s && s ≠ "*"

/-- `resolve_effective_scopes`. -/
def resolveEffectiveScopes (user : UserProfile) (explicitScopes : Option (List String)) :
    List String :=
  if user.isSystemAdmin && explicitScopes.isNone then ["*"]
  else if user.isSystemAdmin && explicitScopes.any (·.contains "*") then ["*"]
  else
    let baseScopes := roleBaseScopes user.role
    match explicitScopes with
    | some scopes =>
        (scopes.filter fun s => (baseScopes.contains s || user.assigned s) && s ≠ "*").eraseDups
    | none =>
        baseScopes ++ (user.scopes.filter fun s =>
          s ≠ "*" && allValidScopes.contains s && !baseScopes.contains s).eraseDups

/-- What is granted is a scope of the role or an assigned one. -/
theorem mem_resolveEffectiveScopes {user : UserProfile} {explicitScopes : Option (List String)}
    {s : String} (tenant : user.isSystemAdmin = false)
    (h : s ∈ resolveEffectiveScopes user explicitScopes) :
    s ∈ roleBaseScopes user.role ∨ user.assigned s = true := by
  cases explicitScopes with
  | none =>
      simp only [resolveEffectiveScopes, tenant, Bool.false_and, Bool.false_eq_true, if_false,
        List.mem_append, List.mem_eraseDups, List.mem_filter] at h
      rcases h with base | ⟨mine, valid⟩
      · exact .inl base
      · simp only [Bool.and_eq_true, decide_eq_true_eq] at valid
        refine .inr ?_
        simp [UserProfile.assigned, mine, valid.1.1, List.contains_iff_mem.mp valid.1.2]
  | some scopes =>
      simp only [resolveEffectiveScopes, tenant, Bool.false_and, Bool.false_eq_true, if_false,
        List.mem_eraseDups, List.mem_filter] at h
      obtain ⟨-, allowed⟩ := h
      simp only [Bool.and_eq_true, Bool.or_eq_true, decide_eq_true_eq] at allowed
      exact allowed.1.imp List.contains_iff_mem.mp id

end CyberAssess
