import CyberAssess.Support.Json
import CyberAssess.Support.Text
import CyberAssess.Support.Checked

/-!
# Scan — the target gateway

`core/ssrf_protector.py`: what a target has to be, and the sealed `ValidatedTarget` made of it.

* `validateTargetSecurity` is the one security validation of all target types.
* `createValidatedTarget` validates, resolves and seals.
* `validateValidatedTarget` checks a sealed target again before use.

`[about ours]`: `Gateway` holds what these functions ask of the standard library and of the host:
the URL parser, the answers of the resolver, the address policy, the path sandbox, `str.lower`
and the two digests.  Nothing is assumed of it here.
-/

namespace CyberAssess

open Python
open Checked (refuse refuse_ok)

/-! ### Types -/

/-- `TargetType`. -/
inductive TargetType where
  | url | domain | ip | localPath | dockerfile | iacManifest | cloudAccount | kubernetesCluster
deriving DecidableEq, Repr

/-- The stored text of a target type. -/
def TargetType.text : TargetType → String
  | .url => "URL"
  | .domain => "DOMAIN"
  | .ip => "IP"
  | .localPath => "LOCAL_PATH"
  | .dockerfile => "DOCKERFILE"
  | .iacManifest => "IAC_MANIFEST"
  | .cloudAccount => "CLOUD_ACCOUNT"
  | .kubernetesCluster => "KUBERNETES_CLUSTER"

/-- `target_type in (CLOUD_ACCOUNT, KUBERNETES_CLUSTER)`. -/
def TargetType.isCloud : TargetType → Bool
  | .cloudAccount | .kubernetesCluster => true
  | _ => false

/-- `target_type in (LOCAL_PATH, DOCKERFILE, IAC_MANIFEST)`. -/
def TargetType.isPath : TargetType → Bool
  | .localPath | .dockerfile | .iacManifest => true
  | _ => false

/-- The parts of `urlparse` that are read; reading the port may raise. -/
structure ParsedUrl where
  scheme : String
  hostname : Option String
  port : Except String (Option Nat)

/-- What the gateway asks of the standard library and the host. -/
structure Gateway where
  lower : String → String
  urlparse : String → Except String ParsedUrl
  /-- The answers while the target is validated. -/
  resolveHostnameIps : String → List String
  /-- The answers while the validated target is constructed. -/
  resolveAtConstruction : String → List String
  isIpAddress : String → Bool
  isIpAllowedForPolicy : String → Bool → Except String Unit
  validatePathSandbox : String → Except String Unit
  abspath : String → String
  sha256 : String → String
  gatewaySeal : String → String
  appVersion : String

/-- `Target`, the fields that are read. -/
structure Target where
  name : String
  type : TargetType
  value : String
deriving DecidableEq, Repr

/-- `authorization_context` of a validated target. -/
structure AuthorizationContext where
  allowInternal : Bool
  validatedBy : String
  activeProbingGranted : Bool
  stateChangingGranted : Bool
  dnsZoneAuthorized : Bool
  cloudProvider : Option String
deriving DecidableEq, Repr

/-- `ValidatedTarget`. -/
structure ValidatedTarget where
  targetId : String
  authorizationDecisionId : String
  integritySeal : String
  organizationId : String
  projectId : Option String
  assetId : Option String
  workspaceId : Option String
  targetType : TargetType
  rawValue : String
  canonicalValue : String
  authorizedScope : List String
  resolvedAddresses : List String
  selectedDestination : String
  port : Option Int
  scheme : Option String
  authorizationContext : AuthorizationContext
  policyVersion : String
deriving DecidableEq, Repr

/-! ### Text -/

/-- `value or ''` of an optional text. -/
def orEmpty (s : Option String) : String := s.getD ""

/-- An optional text that is `None` or empty. -/
def unset (s : Option String) : Bool := s.all String.isEmpty

/-- The characters before the first occurrence of `sep`, and those after it. -/
def cutText (sep : List Char) : List Char → List Char × Option (List Char)
  | [] => ([], none)
  | c :: cs =>
      if sep.isPrefixOf (c :: cs) then ([], some ((c :: cs).drop sep.length))
      else (c :: (cutText sep cs).1, (cutText sep cs).2)

/-- `value.partition("://")`: what stands before the separator, and after it where it occurs. -/
def partitionScheme (value : String) : String × Option String :=
  let parts := cutText "://".toList value.toList
  (String.ofList parts.1, parts.2.map String.ofList)

/-- `value.split(":")[0]`. -/
def beforeColon (value : String) : String := String.ofList (cutText [':'] value.toList).1

/-- `value.split(":")[1]`, of a value with one colon. -/
def afterColon (value : String) : String :=
  String.ofList ((cutText [':'] value.toList).2.getD [])

/-- `value.count(":")`. -/
def colonCount (value : String) : Nat := value.toList.count ':'

def isBracket (c : Char) : Bool := c = '[' || c = ']'

/-- `value.strip("[]")`. -/
def stripBrackets (value : String) : String :=
  String.ofList ((value.toList.dropWhile isBracket).reverse.dropWhile isBracket).reverse

/-! ### Security validation -/

/-- `BLOCKED_HOSTNAMES`. -/
def blockedHostnames : List String :=
  ["localhost", "localhost.localdomain", "metadata.google.internal", "metadata.internal",
    "instance-data", "169.254.169.254"]

/-- A name that is always refused. -/
def isBlockedHostname (host : String) : Bool :=
  host ∈ blockedHostnames || host = "localhost" || host.startsWith "localhost."

/-- A name that needs the internal scope. -/
def isInternalName (host : String) : Bool := host.endsWith ".internal" || host.endsWith ".local"

section Validation

variable (g : Gateway)

/-- Every resolved address is allowed. -/
def addressesAllowed (allowInternal : Bool) : List String → Except String Unit
  | [] => .ok ()
  | ip :: ips => do
      g.isIpAllowedForPolicy ip allowInternal
      addressesAllowed allowInternal ips

/-- `validate_target_url`. -/
def validateTargetUrl (url : String) (allowInternal : Bool) : Except String Unit := do
  refuse url.isEmpty "Target URL cannot be empty."
  let parsed ← g.urlparse (strip url)
  refuse (g.lower parsed.scheme ∉ ["http", "https"])
    ("Scheme '" ++ parsed.scheme ++ "' is disallowed. Must be 'http' or 'https'.")
  refuse (unset parsed.hostname) "Target URL missing valid hostname."
  let hostname := orEmpty parsed.hostname
  let host := stripBrackets (g.lower hostname)
  refuse (isBlockedHostname host)
    ("Target hostname '" ++ hostname ++ "' is a reserved internal/metadata name.")
  if g.isIpAddress host then g.isIpAllowedForPolicy host allowInternal
  else do
    refuse (!allowInternal && isInternalName host)
      ("Target hostname '" ++ hostname ++ "' is a reserved internal name.")
    let resolved := g.resolveHostnameIps host
    refuse resolved.isEmpty
      ("Target hostname '" ++ hostname ++ "' failed DNS resolution or does not exist.")
    addressesAllowed g allowInternal resolved

/-- `validate_target_domain`. -/
def validateTargetDomain (domain : String) (allowInternal : Bool) : Except String Unit := do
  refuse domain.isEmpty "Target domain cannot be empty."
  let cleanDomain := beforeColon (g.lower (strip domain))
  refuse (isBlockedHostname cleanDomain)
    ("Target domain '" ++ domain ++ "' is a reserved internal/metadata name.")
  refuse (!allowInternal && isInternalName cleanDomain)
    ("Target domain '" ++ domain ++ "' is a reserved internal name.")
  let resolved := g.resolveHostnameIps cleanDomain
  refuse resolved.isEmpty ("Target domain '" ++ cleanDomain ++ "' failed DNS resolution.")
  addressesAllowed g allowInternal resolved

/-- The address `validate_target_ip` reads: without brackets, and without the port of an IPv4
address. -/
def cleanIp (value : String) : String :=
  let cleaned := strip value
  if cleaned.startsWith "[" then
    match cutText [']'] (cleaned.toList.drop 1) with
    | (inside, some _) => String.ofList inside
    | (_, none) => stripBrackets cleaned
  else if colonCount cleaned = 1 then beforeColon cleaned
  else cleaned

/-- `validate_target_ip`. -/
def validateTargetIp (value : String) (allowInternal : Bool) : Except String Unit := do
  refuse value.isEmpty "Target IP cannot be empty."
  g.isIpAllowedForPolicy (cleanIp value) allowInternal

/-- The characters `validate_target_security` refuses in cloud and cluster targets. -/
def dangerousCharacters : List Char :=
  [';', '&', '|', Char.ofNat 96, '$', '(', ')', '<', '>', '\n', '\r', Char.ofNat 0]

/-- The refusal of those characters. -/
def refuseDangerous (targetType : TargetType) (value : String) : Except String Unit :=
  refuse (value.toList.any (· ∈ dangerousCharacters))
    ("Dangerous characters detected in " ++ targetType.text ++ " specification: '" ++ value ++ "'")

/-- `validate_target_security`, of a target type. -/
def validateTargetSecurity (targetType : TargetType) (targetValue : String)
    (allowInternal : Bool) : Except String Unit :=
  let value := strip targetValue
  match targetType with
  | .url => validateTargetUrl g value allowInternal
  | .domain => validateTargetDomain g value allowInternal
  | .ip => validateTargetIp g value allowInternal
  | .localPath | .dockerfile | .iacManifest => g.validatePathSandbox value
  | .cloudAccount => do
      refuseDangerous targetType value
      let (provider, identifier) := partitionScheme value
      refuse (g.lower provider ∉ ["aws", "azure", "gcp"] || unset identifier ||
          identifier.any ('/' ∈ ·.toList))
        ("Cloud account targets must use aws://, azure://, or gcp:// followed by an account " ++
          "identifier.")
  | .kubernetesCluster => do
      refuseDangerous targetType value
      if value.startsWith "http://" || value.startsWith "https://" then
        validateTargetUrl g value allowInternal
      else do
        let (provider, identifier) := partitionScheme value
        refuse (g.lower provider ≠ "kubernetes" || unset identifier)
          ("Kubernetes targets must use kubernetes:// followed by a cluster identifier or API " ++
            "endpoint.")

end Validation

/-! ### Construction -/

/-- What `create_validated_target` derives from the canonical value. -/
structure Destination where
  resolvedIps : List String
  selectedDest : String
  port : Option Int
  scheme : Option String
deriving DecidableEq, Repr

/-- `resolved_ips[0] if resolved_ips else host`. -/
def firstAddress (ips : List String) (host : String) : String := ips.head?.getD host

/-- `port or default`. -/
def portOr (port : Option Nat) (default : Nat) : Nat :=
  match port with
  | none | some 0 => default
  | some p => p

section Construction

variable (g : Gateway)

/-- The destination of a canonical value. -/
def destinationOf (targetType : TargetType) (canonical : String) : Except String Destination :=
  match targetType with
  | .url => do
      let parsed ← g.urlparse canonical
      let scheme := if parsed.scheme.isEmpty then "http" else g.lower parsed.scheme
      let given ← parsed.port
      let port : Int := portOr given (if scheme = "https" then 443 else 80)
      if unset parsed.hostname then .ok ⟨[], canonical, some port, some scheme⟩
      else
        let host := stripBrackets (orEmpty parsed.hostname)
        let ips := g.resolveAtConstruction host
        .ok ⟨ips, firstAddress ips host, some port, some scheme⟩
  | .domain =>
      let cleanDomain := beforeColon (g.lower canonical)
      let ips := g.resolveAtConstruction cleanDomain
      .ok ⟨ips, firstAddress ips cleanDomain, none, none⟩
  | .ip =>
      let clean := stripBrackets (beforeColon canonical)
      .ok ⟨[clean], clean,
        if colonCount canonical = 1 then intOfText (afterColon canonical) else none, none⟩
  | .localPath | .dockerfile | .iacManifest => .ok ⟨[], g.abspath canonical, none, none⟩
  | .cloudAccount | .kubernetesCluster => .ok ⟨[], canonical, none, none⟩

/-- The addresses of the second lookup. -/
def pinnedAddressesAllowed (allowInternal : Bool) : List String → Except String Unit
  | [] => .ok ()
  | ip :: ips => do
      refuse (!g.isIpAddress ip) "Target hostname returned an invalid address."
      match g.isIpAllowedForPolicy ip allowInternal with
      | .ok _ => pinnedAddressesAllowed allowInternal ips
      | .error reason => .error ("Resolved IP '" ++ ip ++ "' for target is blocked: " ++ reason)

/-- The address policy, applied again to the destination of a name. -/
def destinationAllowed (targetType : TargetType) (d : Destination) (allowInternal : Bool) :
    Except String Unit :=
  match targetType with
  | .url | .domain => do
      refuse d.resolvedIps.isEmpty
        "Target hostname did not resolve at validated-target construction time."
      pinnedAddressesAllowed g allowInternal d.resolvedIps
  | _ => .ok ()

/-- `cloud_provider` of the context. -/
def cloudProviderOf (targetType : TargetType) (canonical : String) : Option String :=
  if targetType.isCloud then
    match partitionScheme canonical with
    | (_, none) => none
    | (provider, some _) => some (g.lower provider)
  else none

/-- The text `target_id` is the digest of. -/
def targetIdentity (canonical selectedDest : String) : String := canonical ++ ":" ++ selectedDest

/-- The text `authorization_decision_id` is the digest of. -/
def decisionIdentity (organizationId : String) (projectId assetId : Option String)
    (targetId policyVersion : String) : String :=
  organizationId ++ ":" ++ orEmpty projectId ++ ":" ++ orEmpty assetId ++ ":" ++ targetId ++ ":" ++
    policyVersion

/-- `context_material`. -/
def contextMaterial (c : AuthorizationContext) (authorizedScope : List String)
    (workspaceId : Option String) : Json :=
  .obj
    [("allow_internal", .bool c.allowInternal),
      ("active_probing_granted", .bool c.activeProbingGranted),
      ("state_changing_granted", .bool c.stateChangingGranted),
      ("dns_zone_authorized", .bool c.dnsZoneAuthorized),
      ("cloud_provider", Json.optStr c.cloudProvider),
      ("authorized_scope", .arr (authorizedScope.map .str)),
      ("workspace_id", .str (orEmpty workspaceId))]

/-- The payload of `_compute_gateway_seal`. -/
def sealPayload (targetId decisionId policyVersion contextDigest : String) : String :=
  "GATEWAY_SEAL:" ++ targetId ++ ":" ++ decisionId ++ ":" ++ policyVersion ++ ":" ++ contextDigest

/-- The arguments of `create_validated_target`. -/
structure CreateTargetArgs where
  target : Target
  organizationId : String
  projectId : Option String
  assetId : Option String
  workspaceId : Option String
  allowInternal : Bool
  authorizedScope : List String
  stateChangingGranted : Bool
  activeProbingGranted : Bool
deriving DecidableEq, Repr

/-- The context of the sealed target. -/
def CreateTargetArgs.context (c : CreateTargetArgs) : AuthorizationContext where
  allowInternal := c.allowInternal
  validatedBy := "assert_safe_target"
  activeProbingGranted := c.activeProbingGranted
  stateChangingGranted := c.stateChangingGranted
  dnsZoneAuthorized := c.target.type = .domain
  cloudProvider := cloudProviderOf g c.target.type (strip c.target.value)

/-- The sealed target of arguments that passed the gate. -/
def sealedTarget (c : CreateTargetArgs) (d : Destination) : ValidatedTarget :=
  let canonical := strip c.target.value
  let targetId := g.sha256 (targetIdentity canonical d.selectedDest)
  let decisionId := g.sha256
    (decisionIdentity c.organizationId c.projectId c.assetId targetId g.appVersion)
  let contextDigest := g.sha256 (contextMaterial (c.context g) c.authorizedScope c.workspaceId).text
  { targetId := targetId
    authorizationDecisionId := decisionId
    integritySeal := g.gatewaySeal (sealPayload targetId decisionId g.appVersion contextDigest)
    organizationId := c.organizationId
    projectId := c.projectId
    assetId := c.assetId
    workspaceId := c.workspaceId
    targetType := c.target.type
    rawValue := c.target.value
    canonicalValue := canonical
    authorizedScope := c.authorizedScope
    resolvedAddresses := d.resolvedIps
    selectedDestination := d.selectedDest
    port := d.port
    scheme := d.scheme
    authorizationContext := c.context g
    policyVersion := g.appVersion }

/-- `create_validated_target`, with the reason it raises. -/
def createValidatedTarget (c : CreateTargetArgs) : Except String ValidatedTarget := do
  refuse ((c.activeProbingGranted || c.stateChangingGranted) && unset c.assetId)
    "Intrusive or state-changing authorization requires an explicitly authorized inventory asset."
  validateTargetSecurity g c.target.type c.target.value c.allowInternal
  let d ← destinationOf g c.target.type (strip c.target.value)
  destinationAllowed g c.target.type d c.allowInternal
  .ok (sealedTarget g c d)

theorem createValidatedTarget_ok {c : CreateTargetArgs} {t : ValidatedTarget} :
    createValidatedTarget g c = .ok t ↔
      ((c.activeProbingGranted || c.stateChangingGranted) && unset c.assetId) = false ∧
        validateTargetSecurity g c.target.type c.target.value c.allowInternal = .ok () ∧
        ∃ d, destinationOf g c.target.type (strip c.target.value) = .ok d ∧
          destinationAllowed g c.target.type d c.allowInternal = .ok () ∧
          sealedTarget g c d = t := by
  simp only [createValidatedTarget, Checked.bind_ok, Checked.exists_unit, refuse_ok, Except.ok.injEq]

/-- `validate_validated_target`. -/
def validateValidatedTarget (t : ValidatedTarget) : Except String Unit := do
  let c := t.authorizationContext
  refuse (t.targetId.isEmpty || t.authorizationDecisionId.isEmpty || t.integritySeal.isEmpty ||
      t.organizationId.isEmpty || t.canonicalValue.isEmpty || t.selectedDestination.isEmpty ||
      t.policyVersion.isEmpty)
    "Validated target is missing required identity fields."
  refuse (t.policyVersion ≠ g.appVersion) "Validated target policy version is no longer current."
  refuse (t.targetId ≠ g.sha256 (targetIdentity t.canonicalValue t.selectedDestination))
    "Validated target identity does not match its canonical destination."
  refuse (t.authorizationDecisionId ≠ g.sha256
      (decisionIdentity t.organizationId t.projectId t.assetId t.targetId t.policyVersion))
    "Validated target authorization identity is invalid."
  refuse (c.validatedBy ≠ "assert_safe_target")
    "Validated target authorization context is invalid."
  refuse (c.dnsZoneAuthorized ≠ decide (t.targetType = .domain))
    "Validated target DNS authorization context is inconsistent."
  refuse (t.targetType.isCloud &&
      !c.cloudProvider.any (· ∈ ["aws", "azure", "gcp", "kubernetes"]))
    "Validated cloud target provider is invalid."
  refuse ((c.activeProbingGranted || c.stateChangingGranted) && unset t.assetId)
    "Intrusive authorization is not bound to an inventory asset."
  refuse (t.integritySeal ≠ g.gatewaySeal (sealPayload t.targetId t.authorizationDecisionId
      t.policyVersion (g.sha256 (contextMaterial c t.authorizedScope t.workspaceId).text)))
    "Validated target integrity seal is invalid."

end Construction

end CyberAssess
