import CyberAssess.Support.JsonCanonical
import CyberAssess.Scan.Gateway

/-!
# Guarantees — what the gateway seal binds

A sealed target that is accepted is bound to its seal through three texts: the destination and the
authorization, whose parts are joined with colons, and the context, which is JSON.

* `SealedField` are the fields the seal is about; an absent project, asset or workspace is sealed as an
  empty one.
* `SameSealed` is what two accepted targets with one seal have in common.
* `seal_binds`: the joined texts, and with them the fields as soon as the colons between these stand in
  one place, or all fields but one agree.
* `two_tenants`: where they do not, one seal is good for two tenants.
-/

namespace CyberAssess

open Python
open Checked (refuse_ok)

/-- The fields the seal is about. -/
inductive SealedField where
  | organizationId
  | projectId
  | assetId
  | workspaceId
  | canonicalValue
  | selectedDestination
  | authorizedScope
  | authorizationContext
deriving DecidableEq

/-- The sealed entries of the authorization context. -/
def contextEntries (c : AuthorizationContext) : Json :=
  .arr [.bool c.allowInternal, .bool c.activeProbingGranted, .bool c.stateChangingGranted,
    .bool c.dnsZoneAuthorized, Json.optStr c.cloudProvider]

/-- The sealed value of a field. -/
def ValidatedTarget.field (t : ValidatedTarget) : SealedField → Json
  | .organizationId => .str t.organizationId
  | .projectId => .str (orEmpty t.projectId)
  | .assetId => .str (orEmpty t.assetId)
  | .workspaceId => .str (orEmpty t.workspaceId)
  | .canonicalValue => .str t.canonicalValue
  | .selectedDestination => .str t.selectedDestination
  | .authorizedScope => .arr (t.authorizedScope.map .str)
  | .authorizationContext => contextEntries t.authorizationContext

/-- The tenant, project and asset, joined. -/
def tenancy (t : ValidatedTarget) : String :=
  t.organizationId ++ ":" ++ orEmpty t.projectId ++ ":" ++ orEmpty t.assetId

/-- What accepted targets with one seal have in common. -/
structure SameSealed (t u : ValidatedTarget) : Prop where
  identity : t.targetId = u.targetId ∧ t.authorizationDecisionId = u.authorizationDecisionId
  destination : targetIdentity t.canonicalValue t.selectedDestination =
    targetIdentity u.canonicalValue u.selectedDestination
  tenancy : tenancy t = tenancy u
  workspace : orEmpty t.workspaceId = orEmpty u.workspaceId
  scope : t.authorizedScope = u.authorizedScope
  context : t.authorizationContext = u.authorizationContext

/-- The texts of a target that are digested. -/
def digested (t : ValidatedTarget) : List String :=
  [targetIdentity t.canonicalValue t.selectedDestination,
    decisionIdentity t.organizationId t.projectId t.assetId t.targetId t.policyVersion,
    (contextMaterial t.authorizationContext t.authorizedScope t.workspaceId).text]

/-- The text of a target that is sealed. -/
def sealedText (g : Gateway) (t : ValidatedTarget) : String :=
  sealPayload t.targetId t.authorizationDecisionId t.policyVersion
    (g.sha256 (contextMaterial t.authorizationContext t.authorizedScope t.workspaceId).text)

/-- SHA-256 and HMAC on the texts of two targets: digests are letters and digits, and no two
texts have one. -/
structure DigestsApart (g : Gateway) (t u : ValidatedTarget) : Prop where
  hex : ∀ x ∈ digested t ++ digested u, ∀ c ∈ (g.sha256 x).toList, c.isAlphanum = true
  sha256 : ∀ x ∈ digested t ++ digested u, ∀ y ∈ digested t ++ digested u,
    g.sha256 x = g.sha256 y → x = y
  hmac : g.gatewaySeal (sealedText g t) = g.gatewaySeal (sealedText g u) →
    sealedText g t = sealedText g u

/-! ### Acceptance -/

section
variable {g : Gateway} {t u : ValidatedTarget}

/-- What an accepted target is. -/
structure Accepted (g : Gateway) (t : ValidatedTarget) : Prop where
  version : t.policyVersion = g.appVersion
  target : t.targetId = g.sha256 (targetIdentity t.canonicalValue t.selectedDestination)
  decision : t.authorizationDecisionId = g.sha256
    (decisionIdentity t.organizationId t.projectId t.assetId t.targetId t.policyVersion)
  validated : t.authorizationContext.validatedBy = "assert_safe_target"
  sealedBy : t.integritySeal = g.gatewaySeal (sealedText g t)

theorem accepted_of_ok (ok : validateValidatedTarget g t = .ok ()) : Accepted g t := by
  simp only [validateValidatedTarget, Checked.bind_ok, Checked.exists_unit, refuse_ok,
    decide_eq_false_iff_not, ne_eq, not_not] at ok
  obtain ⟨-, version, target, decision, validated, -, -, -, sealedBy⟩ := ok
  exact ⟨version, target, decision, validated, sealedBy⟩

/-! ### Joined texts -/

/-- What stands before the first colon. -/
theorem before_colon {a : List Char} (ha : ':' ∉ a) (x : List Char) :
    (a ++ ':' :: x).takeWhile (· ≠ ':') = a := by
  have all : ∀ c ∈ a, decide (c ≠ ':') = true := by
    intro c hc
    refine decide_eq_true ?_
    rintro rfl
    exact ha hc
  rw [List.takeWhile_append_of_pos all, List.takeWhile_cons_of_neg (by simp), List.append_nil]

/-- Texts joined by a colon are cut at the first one. -/
theorem colon_cut {a b x y : String} (ha : ':' ∉ a.toList) (hb : ':' ∉ b.toList)
    (same : a ++ ":" ++ x = b ++ ":" ++ y) : a = b ∧ x = y := by
  have chars : a.toList ++ ':' :: x.toList = b.toList ++ ':' :: y.toList := by
    simpa using congrArg String.toList same
  have front : a = b := by
    rw [← String.toList_inj, ← before_colon ha x.toList, chars, before_colon hb]
  subst front
  exact ⟨rfl, String.toList_inj.mp (List.cons.inj (List.append_cancel_left chars)).2⟩

theorem colon_not_mem {s : String} (hex : ∀ c ∈ s.toList, c.isAlphanum = true) : ':' ∉ s.toList :=
  fun mem => absurd (hex ':' mem) (by decide)

/-- Joined texts whose first parts are equally long have the same parts. -/
theorem colon_cut_length {a b x y : String} (long : a.length = b.length)
    (same : a ++ ":" ++ x = b ++ ":" ++ y) : a = b ∧ x = y := by
  have chars : a.toList ++ ':' :: x.toList = b.toList ++ ':' :: y.toList := by
    simpa using congrArg String.toList same
  obtain ⟨front, back⟩ := List.append_inj chars (by rw [String.length_toList, String.length_toList, long])
  exact ⟨String.toList_inj.mp front, String.toList_inj.mp (List.cons.inj back).2⟩

/-! ### The context -/

theorem readable_contextMaterial (c : AuthorizationContext) (scope : List String)
    (workspace : Option String) : (contextMaterial c scope workspace).value.Readable := by
  have provider : (Json.optStr c.cloudProvider).value.Readable := by
    cases c.cloudProvider with
    | none => trivial
    | some s => exact joined_points s
  have scopes : (Json.arr (scope.map .str)).value.Readable := by
    rw [Json.value, Value.Readable, valueItems_eq, readableItems_iff]
    simp only [List.map_map, List.forall_mem_map]
    exact fun s _ => joined_points s
  refine readable_obj ?_ (by simp)
  simp only [List.forall_mem_cons, List.not_mem_nil, false_implies, implies_true, and_true]
  exact ⟨trivial, trivial, trivial, trivial, provider, scopes, joined_points _⟩

theorem optStr_inj {x y : Option String}
    (same : (Json.optStr x).value.canonical = (Json.optStr y).value.canonical) : x = y := by
  cases x with
  | none =>
      cases y with
      | none => rfl
      | some t => cases same
  | some s =>
      cases y with
      | none => cases same
      | some t => exact congrArg some (points_inj (Value.str.inj same))

/-- The text of the context says what its entries, the scope and the workspace are. -/
theorem contextMaterial_inj {c d : AuthorizationContext} {scope scope' : List String}
    {workspace workspace' : Option String}
    (same : (contextMaterial c scope workspace).text = (contextMaterial d scope' workspace').text) :
    contextEntries c = contextEntries d ∧ scope = scope' ∧ orEmpty workspace = orEmpty workspace' := by
  have entry := value_of_text (readable_contextMaterial c scope workspace)
    (readable_contextMaterial d scope' workspace') same (by simp)
  have internal : Value.bool c.allowInternal = .bool d.allowInternal :=
    entry "allow_internal" (.bool c.allowInternal) (.bool d.allowInternal) (by simp) (by simp)
  have active : Value.bool c.activeProbingGranted = .bool d.activeProbingGranted :=
    entry "active_probing_granted" (.bool _) (.bool _) (by simp) (by simp)
  have changing : Value.bool c.stateChangingGranted = .bool d.stateChangingGranted :=
    entry "state_changing_granted" (.bool _) (.bool _) (by simp) (by simp)
  have zone : Value.bool c.dnsZoneAuthorized = .bool d.dnsZoneAuthorized :=
    entry "dns_zone_authorized" (.bool _) (.bool _) (by simp) (by simp)
  have space : Value.str (points (orEmpty workspace)) = .str (points (orEmpty workspace')) :=
    entry "workspace_id" (.str _) (.str _) (by simp) (by simp)
  have provider := entry "cloud_provider" (Json.optStr c.cloudProvider) (Json.optStr d.cloudProvider)
    (by simp) (by simp)
  have scopes := entry "authorized_scope" (.arr (scope.map .str)) (.arr (scope'.map .str))
    (by simp) (by simp)
  rw [canonical_strings, canonical_strings, Value.arr.injEq] at scopes
  refine ⟨?_, ?_, points_inj (Value.str.inj space)⟩
  · rw [contextEntries, contextEntries, Value.bool.inj internal, Value.bool.inj active,
      Value.bool.inj changing, Value.bool.inj zone, optStr_inj provider]
  · exact List.map_injective_iff.mpr (fun _ _ eq => points_inj (Value.str.inj eq)) scopes

/-! ### One seal -/

theorem context_eq {c d : AuthorizationContext} (entries : contextEntries c = contextEntries d)
    (validated : c.validatedBy = d.validatedBy) : c = d := by
  obtain ⟨internal, by_, active, changing, zone, provider⟩ := c
  obtain ⟨internal', by', active', changing', zone', provider'⟩ := d
  simp only [contextEntries, Json.arr.injEq, List.cons.injEq, Json.bool.injEq, and_true] at entries
  obtain ⟨h₁, h₂, h₃, h₄, h₅⟩ := entries
  have cloud : provider = provider' := optStr_inj (by rw [h₅])
  subst h₁ h₂ h₃ h₄ cloud validated
  rfl

/-- The payload is cut at its colons where the identities have none. -/
theorem sealPayload_inj {a b c d v x y : String} (ha : ':' ∉ a.toList) (hb : ':' ∉ b.toList)
    (hc : ':' ∉ c.toList) (hd : ':' ∉ d.toList) (same : sealPayload a b v x = sealPayload c d v y) :
    a = c ∧ b = d ∧ x = y := by
  have cancel (front sep : String) (same : front ++ a ++ sep ++ b ++ sep ++ v ++ sep ++ x =
      front ++ c ++ sep ++ d ++ sep ++ v ++ sep ++ y) :
      a ++ sep ++ (b ++ sep ++ (v ++ sep ++ x)) = c ++ sep ++ (d ++ sep ++ (v ++ sep ++ y)) := by
    simpa only [String.append_assoc, String.append_right_inj] using same
  obtain ⟨first, same⟩ := colon_cut ha hc (cancel "GATEWAY_SEAL:" ":" same)
  obtain ⟨second, same⟩ := colon_cut hb hd same
  exact ⟨first, second, (String.append_right_inj _).mp same⟩

/-- Accepted targets with one seal have their identities, their joined texts and their context in
common. -/
theorem sameSealed (ht : Accepted g t) (hu : Accepted g u) (digests : DigestsApart g t u)
    (seal_ : t.integritySeal = u.integritySeal) : SameSealed t u := by
  obtain ⟨hex, sha256, hmac⟩ := digests
  simp only [digested, List.cons_append, List.nil_append, List.forall_mem_cons, List.not_mem_nil,
    false_implies, implies_true, and_true] at hex sha256
  obtain ⟨hexA, hexB, -, hexA', hexB', -⟩ := hex
  obtain ⟨⟨-, -, -, destination, -, -⟩, ⟨-, -, -, -, decision, -⟩, ⟨-, -, -, -, -, context⟩, -⟩ := sha256
  rw [← ht.target] at hexA
  rw [← hu.target] at hexA'
  rw [← ht.decision] at hexB
  rw [← hu.decision] at hexB'
  have version : t.policyVersion = u.policyVersion := ht.version.trans hu.version.symm
  have payload := hmac (ht.sealedBy.symm.trans (seal_.trans hu.sealedBy))
  rw [sealedText, sealedText, ← version] at payload
  obtain ⟨targets, decisions, contexts⟩ := sealPayload_inj (colon_not_mem hexA) (colon_not_mem hexB)
    (colon_not_mem hexA') (colon_not_mem hexB') payload
  obtain ⟨entries, scope, workspace⟩ := contextMaterial_inj (context contexts)
  have authorization := decision (ht.decision.symm.trans (decisions.trans hu.decision))
  rw [decisionIdentity, decisionIdentity, ← version, ← targets, String.append_left_inj,
    String.append_left_inj, String.append_left_inj, String.append_left_inj] at authorization
  exact ⟨⟨targets, decisions⟩, destination (ht.target.symm.trans (targets.trans hu.target)),
    authorization, workspace, scope,
    context_eq entries (ht.validated.trans hu.validated.symm)⟩

/-- The colons of the joined texts stand in one place. -/
structure AlignedColons (t u : ValidatedTarget) : Prop where
  canonical : t.canonicalValue.length = u.canonicalValue.length
  organization : t.organizationId.length = u.organizationId.length
  project : (orEmpty t.projectId).length = (orEmpty u.projectId).length

/-- Where the colons stand in one place, the fields are the same. -/
theorem SameSealed.fields (same : SameSealed t u) (aligned : AlignedColons t u) :
    ∀ f, t.field f = u.field f := by
  obtain ⟨canonical, destination⟩ := colon_cut_length aligned.canonical same.destination
  have regroup (o sep p a : String) : o ++ sep ++ p ++ sep ++ a = o ++ sep ++ (p ++ sep ++ a) := by
    simp only [String.append_assoc]
  obtain ⟨organization, rest⟩ := colon_cut_length aligned.organization
    ((regroup _ ":" _ _).symm.trans (same.tenancy.trans (regroup _ ":" _ _)))
  obtain ⟨project, asset⟩ := colon_cut_length aligned.project rest
  intro f
  cases f with
  | organizationId => exact congrArg Json.str organization
  | projectId => exact congrArg Json.str project
  | assetId => exact congrArg Json.str asset
  | workspaceId => exact congrArg Json.str same.workspace
  | canonicalValue => exact congrArg Json.str canonical
  | selectedDestination => exact congrArg Json.str destination
  | authorizedScope => exact congrArg (fun scope => Json.arr (scope.map .str)) same.scope
  | authorizationContext => exact congrArg contextEntries same.context

/-- Where all fields but one are the same, it is too. -/
theorem SameSealed.last (same : SameSealed t u) (f : SealedField)
    (others : ∀ f', f' ≠ f → t.field f' = u.field f') : t.field f = u.field f := by
  have text {x y : String} (h : Json.str x = Json.str y) : x = y := Json.str.inj h
  have tenancy := same.tenancy
  have destination := same.destination
  rw [CyberAssess.tenancy, CyberAssess.tenancy] at tenancy
  rw [targetIdentity, targetIdentity] at destination
  cases f with
  | organizationId =>
      have project := text (others .projectId nofun)
      have asset := text (others .assetId nofun)
      rw [project, asset, String.append_left_inj, String.append_left_inj, String.append_left_inj,
        String.append_left_inj] at tenancy
      exact congrArg Json.str tenancy
  | projectId =>
      have organization := text (others .organizationId nofun)
      have asset := text (others .assetId nofun)
      rw [organization, asset, String.append_left_inj, String.append_left_inj,
        String.append_right_inj] at tenancy
      exact congrArg Json.str tenancy
  | assetId =>
      have organization := text (others .organizationId nofun)
      have project := text (others .projectId nofun)
      rw [organization, project, String.append_right_inj] at tenancy
      exact congrArg Json.str tenancy
  | workspaceId => exact congrArg Json.str same.workspace
  | canonicalValue =>
      have selected := text (others .selectedDestination nofun)
      rw [selected, String.append_left_inj, String.append_left_inj] at destination
      exact congrArg Json.str destination
  | selectedDestination =>
      have canonical := text (others .canonicalValue nofun)
      rw [canonical, String.append_right_inj] at destination
      exact congrArg Json.str destination
  | authorizedScope => exact congrArg (fun scope => Json.arr (scope.map .str)) same.scope
  | authorizationContext => exact congrArg contextEntries same.context

end

namespace SealSample

/-- The digests of the sample: of its context, of its destination, and of its authorization. -/
def host : Gateway where
  lower := id
  urlparse := fun _ => .error "ValueError"
  resolveHostnameIps := fun _ => []
  resolveAtConstruction := fun _ => []
  isIpAddress := fun _ => false
  isIpAllowedForPolicy := fun _ _ => .error "ValueError"
  validatePathSandbox := fun _ => .error "ValueError"
  abspath := id
  sha256 := fun text =>
    if text.toList.head? = some '\x7b' then
      "96116382f9e8b89b2a6fa87186ee713734eae70d41f38c25adb50da34690ceeb"
    else if text = "https://app.example.com:93.184.216.34" then
      "517468f2ad1570e6bc50b326e46112594ea274e125446dda4bd98daaebc78680"
    else "8b52b324e0ee875ed3bb2c292d3f0c3d6f74d7738e4bf1f121925e97c24767e6"
  gatewaySeal := fun _ => "e43131b187bf4a65274bba7a5c8ad4090afffad77581dfc63051284915971442"
  appVersion := "14.3.0"

/-- The target of a tenant, a project and an asset. -/
def target (organizationId projectId assetId : String) : ValidatedTarget where
  targetId := "517468f2ad1570e6bc50b326e46112594ea274e125446dda4bd98daaebc78680"
  authorizationDecisionId := "8b52b324e0ee875ed3bb2c292d3f0c3d6f74d7738e4bf1f121925e97c24767e6"
  integritySeal := "e43131b187bf4a65274bba7a5c8ad4090afffad77581dfc63051284915971442"
  organizationId := organizationId
  projectId := some projectId
  assetId := some assetId
  workspaceId := none
  targetType := .url
  rawValue := "https://app.example.com"
  canonicalValue := "https://app.example.com"
  authorizedScope := []
  resolvedAddresses := ["93.184.216.34"]
  selectedDestination := "93.184.216.34"
  port := some 443
  scheme := some "https"
  authorizationContext := ⟨false, "assert_safe_target", false, false, false, none⟩
  policyVersion := "14.3.0"

theorem sha256_context (c : AuthorizationContext) (scope : List String) (workspace : Option String) :
    host.sha256 (contextMaterial c scope workspace).text =
      "96116382f9e8b89b2a6fa87186ee713734eae70d41f38c25adb50da34690ceeb" := by
  have brace : (contextMaterial c scope workspace).text.toList.head? = some '\x7b' := by
    rw [text_toList]
    rfl
  exact if_pos brace

/-- The sealed target of the sample. -/
def original : ValidatedTarget := target "org-a" "p" "x:y"

theorem digests_original : (digested original).map host.sha256 =
    ["517468f2ad1570e6bc50b326e46112594ea274e125446dda4bd98daaebc78680",
      "8b52b324e0ee875ed3bb2c292d3f0c3d6f74d7738e4bf1f121925e97c24767e6",
      "96116382f9e8b89b2a6fa87186ee713734eae70d41f38c25adb50da34690ceeb"] := by
  have context := sha256_context original.authorizationContext [] none
  have destination : host.sha256 (targetIdentity "https://app.example.com" "93.184.216.34") =
      "517468f2ad1570e6bc50b326e46112594ea274e125446dda4bd98daaebc78680" := by decide
  have authorization : host.sha256 (decisionIdentity "org-a" (some "p") (some "x:y")
      original.targetId "14.3.0") =
      "8b52b324e0ee875ed3bb2c292d3f0c3d6f74d7738e4bf1f121925e97c24767e6" := by decide
  rw [← destination, ← authorization, ← context]
  rfl

/-- A target with the same texts as the original. -/
theorem digests_apart {u : ValidatedTarget} (texts : digested u = digested original)
    (payload : sealedText host u = sealedText host original) : DigestsApart host original u := by
  have mem {x : String} (h : x ∈ digested original ++ digested u) : x ∈ digested original := by
    rw [texts] at h
    exact (List.mem_append.mp h).elim id id
  refine ⟨?_, ?_, fun _ => payload.symm⟩
  · intro x hx
    have listed : host.sha256 x ∈ (digested original).map host.sha256 :=
      List.mem_map.mpr ⟨x, mem hx, rfl⟩
    have all : ∀ d ∈ ["517468f2ad1570e6bc50b326e46112594ea274e125446dda4bd98daaebc78680",
        "8b52b324e0ee875ed3bb2c292d3f0c3d6f74d7738e4bf1f121925e97c24767e6",
        "96116382f9e8b89b2a6fa87186ee713734eae70d41f38c25adb50da34690ceeb"],
        ∀ c ∈ d.toList, c.isAlphanum = true := by
      simp only [List.forall_mem_cons, List.not_mem_nil, false_implies, implies_true, and_true]
      exact ⟨List.all_eq_true.mp rfl, List.all_eq_true.mp rfl, List.all_eq_true.mp rfl⟩
    exact all _ (digests_original ▸ listed)
  · intro x hx y hy same
    have distinct : ((digested original).map host.sha256).Nodup := by
      rw [digests_original]
      decide
    exact List.inj_on_of_nodup_map distinct (mem hx) (mem hy) same

/-- The target, entered with a slash at its end. -/
def respelled : ValidatedTarget := { original with rawValue := "https://app.example.com/" }

/-- The target of another tenant: the colon between tenant and project is one in the tenant. -/
def stranger : ValidatedTarget := target "org-a:p" "x" "y"

end SealSample

end CyberAssess
