import CyberAssess.Support.IpAddress
import CyberAssess.Scan.Gateway

/-!
# Scan — the address policy

`core/ssrf_protector.py`: which addresses may be contacted.

* `classifyIp` puts an address into one category, the dangerous ones first.
* `isIpAllowedForPolicy` allows public addresses, and private ones with the internal scope.
* `Gateway.underPolicy` is a gateway whose address questions are answered by this policy.

`[about ours]`: `str` is the text form of an address, which only the refusals quote.
-/

namespace CyberAssess

open Python
open Checked (require)

/-- `NetworkClassification`. -/
inductive NetworkClassification where
  | publicNet | privateNet | loopback | linkLocal | metadata | reserved | multicast | unspecified
deriving DecidableEq, Repr

/-- The value of a classification. -/
def NetworkClassification.text : NetworkClassification → String
  | .publicNet => "PUBLIC"
  | .privateNet => "PRIVATE"
  | .loopback => "LOOPBACK"
  | .linkLocal => "LINK_LOCAL"
  | .metadata => "METADATA"
  | .reserved => "RESERVED"
  | .multicast => "MULTICAST"
  | .unspecified => "UNSPECIFIED"

/-- `METADATA_NETWORKS`. -/
def metadataNetworks : List IpNetwork :=
  [net4 169 254 169 254 32, net4 168 63 129 16 32, net4 100 100 100 200 32]

/-- `LOOPBACK_NETWORKS`. -/
def loopbackNetworks : List IpNetwork :=
  [net4 127 0 0 0 8, net6 [0, 0, 0, 0, 0, 0, 0, 1] 128]

/-- `UNSPECIFIED_NETWORKS`. -/
def unspecifiedNetworks : List IpNetwork := [net4 0 0 0 0 8, net6 [0] 128]

/-- `LINK_LOCAL_NETWORKS`. -/
def linkLocalNetworks : List IpNetwork := [net4 169 254 0 0 16, net6 [0xfe80] 10]

/-- `MULTICAST_NETWORKS`. -/
def multicastNetworks : List IpNetwork := [net4 224 0 0 0 4, net6 [0xff00] 8]

/-- `RESERVED_NETWORKS`. -/
def reservedNetworks : List IpNetwork :=
  [net4 240 0 0 0 4, net4 100 64 0 0 10, net4 192 0 0 0 24, net4 192 0 2 0 24,
    net4 198 51 100 0 24, net4 203 0 113 0 24, net4 198 18 0 0 15, net4 255 255 255 255 32,
    net6 [0x2001, 0xdb8] 32, net6 [0x100] 64, net6 [0x2001, 2] 48]

/-- `PRIVATE_NETWORKS`. -/
def privateNetworks : List IpNetwork :=
  [net4 10 0 0 0 8, net4 172 16 0 0 12, net4 192 168 0 0 16, net6 [0xfc00] 7]

/-- `BLOCKED_NETWORKS`. -/
def blockedNetworks : List IpNetwork :=
  metadataNetworks ++ loopbackNetworks ++ unspecifiedNetworks ++ linkLocalNetworks ++
    multicastNetworks ++ reservedNetworks ++ privateNetworks

section Policy

variable (version : PythonVersion) (str : IpAddress → String)

/-- `classify_ip`, of an address. -/
def classifyIp (ip : IpAddress) : NetworkClassification × Option String :=
  if inSome metadataNetworks ip then
    (.metadata, some ("Cloud metadata address '" ++ str ip ++ "' is strictly forbidden."))
  else if ip.isLoopback version || inSome loopbackNetworks ip then
    (.loopback, some ("Loopback address '" ++ str ip ++ "' is forbidden."))
  else if ip.isUnspecified version || inSome unspecifiedNetworks ip then
    (.unspecified, some ("Unspecified address '" ++ str ip ++ "' is forbidden."))
  else if ip.isLinkLocal version || inSome linkLocalNetworks ip then
    (.linkLocal, some ("Link-local address '" ++ str ip ++ "' is forbidden."))
  else if ip.isMulticast version || inSome multicastNetworks ip then
    (.multicast, some ("Multicast address '" ++ str ip ++ "' is forbidden."))
  else if ip.isReserved version || inSome reservedNetworks ip then
    (.reserved, some ("Reserved/non-global address '" ++ str ip ++ "' is forbidden."))
  else if inSome privateNetworks ip then (.privateNet, none)
  else if ip.isGlobal version then (.publicNet, none)
  else (.reserved, some ("Non-global routable address '" ++ str ip ++ "' is forbidden."))

/-- What `is_ip_allowed_for_policy` says of an address that is written as `ipStr`. -/
def isAddressAllowed (ipStr : String) (ip : IpAddress) (allowInternal : Bool) :
    Except String Unit :=
  match classifyIp version str ip with
  | (.privateNet, _) =>
      if allowInternal then .ok ()
      else .error ("Private intranet address '" ++ ipStr ++
        "' requires explicit 'scan:internal' authorization.")
  | (.publicNet, _) => .ok ()
  | (classification, reason) =>
      .error (reason.getD
        (classification.text ++ " address '" ++ ipStr ++ "' is strictly forbidden."))

/-- `is_ip_allowed_for_policy`. -/
def isIpAllowedForPolicy (ipStr : String) (allowInternal : Bool) : Except String Unit := do
  let ip ← require (ipAddress (strip ipStr)) ("Invalid IP address format: '" ++ ipStr ++ "'")
  isAddressAllowed version str ipStr ip allowInternal

/-- The gateway whose questions about addresses are answered by this policy. -/
def Gateway.underPolicy (g : Gateway) : Gateway :=
  { g with
    isIpAddress := fun s => (ipAddress s).isSome
    isIpAllowedForPolicy := CyberAssess.isIpAllowedForPolicy version str }

end Policy

end CyberAssess
