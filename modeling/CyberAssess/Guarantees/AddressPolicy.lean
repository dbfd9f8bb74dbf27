import CyberAssess.Scan.Address

/-!
# Guarantees — what the address policy lets through

An address that is allowed is to be in no blocked network, and neither is the IPv4 address it holds.

* `Unblocked` is what the categories before the private one leave over.
* `Leaks`: later Pythons answer for the IPv4 address that a mapped one holds. It is not looked up in
  the lists, and three blocked addresses are global to Python.
* `policy_sound`: the policy is sound for all other addresses.
-/

namespace CyberAssess

open Python IpAddress

/-- The address, and the IPv4 address it holds. -/
def forms (a : IpAddress) : List IpAddress := a :: (a.ipv4Mapped.map IpAddress.v4).toList

section
variable (version : PythonVersion) (str : IpAddress → String)

/-- The address is allowed, as it is written. -/
def Allowed (ipStr : String) (a : IpAddress) (allowInternal : Bool) : Prop :=
  isAddressAllowed version str ipStr a allowInternal = .ok ()

/-- What is promised of an address. -/
structure PolicySound (ipStr : String) (a : IpAddress) : Prop where
  outside : Allowed version str ipStr a false → ∀ form ∈ forms a, inSome blockedNetworks form = false
  inside : Allowed version str ipStr a true → ∀ form ∈ forms a, ∀ net ∈ blockedNetworks,
    net.contains form = true → net ∈ privateNetworks
  wider : Allowed version str ipStr a false → Allowed version str ipStr a true

/-- The blocked addresses that Python takes for global. -/
def globalToPython : List IpNetwork := [net4 168 63 129 16 32, net4 192 0 0 9 32, net4 192 0 0 10 32]

/-- The address holds one of them, and the Python answers for what it holds. -/
def Leaks (a : IpAddress) : Prop :=
  version = .v313 ∧ ∃ ip ∈ a.ipv4Mapped, inSome globalToPython (.v4 ip) = true

/-- None of the categories before the private one has the address. -/
structure Unblocked (a : IpAddress) : Prop where
  metadata : inSome metadataNetworks a = false
  loopback : a.isLoopback version = false ∧ inSome loopbackNetworks a = false
  unspecified : a.isUnspecified version = false ∧ inSome unspecifiedNetworks a = false
  linkLocal : a.isLinkLocal version = false ∧ inSome linkLocalNetworks a = false
  multicast : a.isMulticast version = false ∧ inSome multicastNetworks a = false
  reserved : a.isReserved version = false ∧ inSome reservedNetworks a = false

end

/-! ### The cascade -/

section
variable {version : PythonVersion} {str : IpAddress → String} {ipStr : String} {a : IpAddress}

/-- What the categories say: the private and the public one come after all others. -/
theorem classifyIp_cases (version : PythonVersion) (str : IpAddress → String) (a : IpAddress) :
    ((classifyIp version str a).1 = .privateNet →
      Unblocked version a ∧ inSome privateNetworks a = true) ∧
    ((classifyIp version str a).1 = .publicNet →
      Unblocked version a ∧ inSome privateNetworks a = false ∧ a.isGlobal version = true) := by
  rw [classifyIp]
  by_cases metadata : inSome metadataNetworks a = true
  · rw [if_pos metadata]
    simp
  rw [if_neg metadata]
  by_cases loopback : (a.isLoopback version || inSome loopbackNetworks a) = true
  · rw [if_pos loopback]
    simp
  rw [if_neg loopback]
  by_cases unspecified : (a.isUnspecified version || inSome unspecifiedNetworks a) = true
  · rw [if_pos unspecified]
    simp
  rw [if_neg unspecified]
  by_cases linkLocal : (a.isLinkLocal version || inSome linkLocalNetworks a) = true
  · rw [if_pos linkLocal]
    simp
  rw [if_neg linkLocal]
  by_cases multicast : (a.isMulticast version || inSome multicastNetworks a) = true
  · rw [if_pos multicast]
    simp
  rw [if_neg multicast]
  by_cases reserved : (a.isReserved version || inSome reservedNetworks a) = true
  · rw [if_pos reserved]
    simp
  rw [if_neg reserved]
  rw [Bool.not_eq_true, Bool.or_eq_false_iff] at loopback unspecified linkLocal multicast reserved
  have unblocked : Unblocked version a :=
    ⟨Bool.eq_false_iff.mpr metadata, loopback, unspecified, linkLocal, multicast, reserved⟩
  by_cases internal : inSome privateNetworks a = true
  · rw [if_pos internal]
    simp [unblocked, internal]
  rw [if_neg internal]
  by_cases isGlobal : a.isGlobal version = true
  · rw [if_pos isGlobal]
    simp [unblocked, internal, isGlobal]
  · rw [if_neg isGlobal]
    simp

/-- What is allowed is public, or private with the internal scope. -/
theorem allowed_iff {allowInternal : Bool} : Allowed version str ipStr a allowInternal ↔
    (classifyIp version str a).1 = .publicNet ∨
      ((classifyIp version str a).1 = .privateNet ∧ allowInternal = true) := by
  rw [Allowed, isAddressAllowed]
  obtain ⟨classification, reason⟩ := classifyIp version str a
  cases classification <;> cases allowInternal <;> simp

/-- What is in a blocked network and in no category before the private one is in a private network. -/
theorem Unblocked.blocked (h : Unblocked version a) :
    inSome blockedNetworks a = inSome privateNetworks a := by
  simp [blockedNetworks, h.metadata, h.loopback.2, h.unspecified.2, h.linkLocal.2, h.multicast.2,
    h.reserved.2]

theorem Unblocked.privateOnly (h : Unblocked version a) {net : IpNetwork} (mem : net ∈ blockedNetworks)
    (contains : net.contains a = true) : net ∈ privateNetworks := by
  have none {nets : List IpNetwork} (out : inSome nets a = false) : net ∉ nets :=
    fun mem => List.any_eq_false.mp out net mem contains
  simpa only [blockedNetworks, List.mem_append, none h.metadata, none h.loopback.2,
    none h.unspecified.2, none h.linkLocal.2, none h.multicast.2, none h.reserved.2, false_or] using mem

/-! ### Mapped addresses -/

/-- Before Python 3.13 every mapped address is reserved. -/
theorem not_unblocked_mapped {ip : BitVec 32} (held : a.ipv4Mapped = some ip) :
    ¬Unblocked .v311 a := by
  obtain ⟨scopeId, rfl⟩ := ipv4Mapped_eq_some.mp held
  intro h
  have reserved : inSome (reserved4 ++ reserved6) (.v6 (mapped ip) scopeId) = false := h.reserved.1
  have mem : inSome [net6 [0, 0, 0, 0, 0, 0xffff] 96] (.v6 (mapped ip) scopeId) = true := by
    have small := ip.isLt
    have base : (BitVec.ofNat 128 (0xffff * 2 ^ 32)).toNat = 0xffff * 2 ^ 32 := by decide
    have high : (mapped ip).toNat / 2 ^ 32 = 0xffff * 2 ^ 32 / 2 ^ 32 := by
      rw [toNat_mapped]
      omega
    simp only [inSome, List.any_cons, List.any_nil, Bool.or_false]
    exact decide_eq_true high
  rw [inSome_of_subnets (by decide) mem] at reserved
  cases reserved

/-- No mapped address is in a private network. -/
theorem not_private_mapped {ip : BitVec 32} (held : a.ipv4Mapped = some ip) :
    inSome privateNetworks a = false := by
  obtain ⟨scopeId, rfl⟩ := ipv4Mapped_eq_some.mp held
  have small := ip.isLt
  have base : (net6 [0xfc00] 7) = .v6 (BitVec.ofNat 128 (0xfc00 * 65536 ^ 7)) 7 := rfl
  have num : (BitVec.ofNat 128 (0xfc00 * 65536 ^ 7)).toNat = 0xfc00 * 65536 ^ 7 := by decide
  have apart : ¬(mapped ip).toNat / 2 ^ (128 - 7) = 0xfc00 * 65536 ^ 7 / 2 ^ (128 - 7) := by
    rw [toNat_mapped]
    omega
  simp only [inSome, privateNetworks, net4, List.any_cons, IpNetwork.contains, base, num, List.any_nil,
    Bool.or_false, decide_eq_false apart]

/-- The networks Python does not take for global, or tests for before. -/
def knownToPython : List IpNetwork :=
  loopback4 ++ linkLocal4 ++ multicast4 ++ reserved4 ++ [net4 100 64 0 0 10] ++ private4

/-- Python knows the blocked IPv4 networks, but for one. -/
theorem known_of_blocked {ip : BitVec 32} (other : inSome globalToPython (.v4 ip) = false)
    (blocked : inSome blockedNetworks (.v4 ip) = true) : inSome knownToPython (.v4 ip) = true := by
  have around : ∀ n ∈ blockedNetworks,
      ∃ m ∈ globalToPython ++ knownToPython ++ [net6 [0] 0], n.subnetOf m = true := by decide
  have mem := inSome_of_subnets around blocked
  rw [inSome_append, inSome_append, other, Bool.false_or] at mem
  have v6 : inSome [net6 [0] 0] (.v4 ip) = false := rfl
  rwa [v6, Bool.or_false] at mem

/-- A later Python has an IPv4 address in a category, or it is not global, where it is blocked. -/
theorem not_blocked_of_global {ip : BitVec 32} (other : inSome globalToPython (.v4 ip) = false)
    (loopback : inSome loopback4 (.v4 ip) = false)
    (linkLocal : inSome (linkLocal4 ++ linkLocal6) (.v4 ip) = false)
    (multicast : inSome (multicast4 ++ multicast6) (.v4 ip) = false)
    (reserved : inSome (reserved4 ++ reserved6) (.v4 ip) = false)
    (isGlobal : (!inSome [net4 100 64 0 0 10] (.v4 ip) && !isPrivate .v313 (.v4 ip)) = true) :
    inSome blockedNetworks (.v4 ip) = false := by
  rw [Bool.eq_false_iff]
  intro blocked
  have known := known_of_blocked other blocked
  have exceptions : inSome (privateExceptions4 ++ privateExceptions6) (.v4 ip) = false := by
    rw [Bool.eq_false_iff]
    intro mem
    have within : ∀ n ∈ privateExceptions4 ++ privateExceptions6,
        ∃ m ∈ globalToPython ++ [net6 [0] 0], n.subnetOf m = true := by decide
    have mem := inSome_of_subnets within mem
    rw [inSome_append, other] at mem
    cases mem
  rw [inSome_append, Bool.or_eq_false_iff] at linkLocal multicast reserved
  rw [Bool.and_eq_true, Bool.not_eq_true', Bool.not_eq_true', isPrivate] at isGlobal
  obtain ⟨shared, private_⟩ := isGlobal
  have none : (ipv4Mapped (.v4 ip)).map IpAddress.v4 = none := rfl
  simp only [none, Option.getD_none, exceptions, Bool.not_false, Bool.and_true, inSome_append,
    Bool.or_eq_false_iff] at private_
  simp only [knownToPython, inSome_append, loopback, linkLocal.1, multicast.1, reserved.1, shared,
    private_.1, Bool.or_false, Bool.false_eq_true] at known

/-- Where a later Python takes a mapped address for public, what it holds is not blocked, three
addresses apart. -/
theorem Unblocked.held {ip : BitVec 32} (h : Unblocked version a) (isGlobal : a.isGlobal version = true)
    (held : a.ipv4Mapped = some ip) (keeps : ¬Leaks version a) :
    inSome blockedNetworks (.v4 ip) = false := by
  cases version with
  | v311 => exact absurd h (not_unblocked_mapped held)
  | v313 =>
      have other : inSome globalToPython (.v4 ip) = false := by
        rw [Bool.eq_false_iff]
        exact fun mem => keeps ⟨rfl, ip, held, mem⟩
      have loopback := h.loopback.1
      have linkLocal := h.linkLocal.1
      have multicast := h.multicast.1
      have reserved := h.reserved.1
      rw [isLoopback, ofMapped_held held] at loopback
      rw [isLinkLocal, ofMapped_held held] at linkLocal
      rw [isMulticast, ofMapped_held held] at multicast
      rw [isReserved, ofMapped_held held] at reserved
      rw [IpAddress.isGlobal, ofMapped_held held] at isGlobal
      exact not_blocked_of_global other loopback linkLocal multicast reserved isGlobal

/-! ### The policy -/

theorem policySound_of_not_leaks (keeps : ¬Leaks version a) : PolicySound version str ipStr a := by
  have cases_ := classifyIp_cases version str a
  have isPublic (h : (classifyIp version str a).1 = .publicNet) :
      ∀ form ∈ forms a, inSome blockedNetworks form = false := by
    obtain ⟨unblocked, external, isGlobal⟩ := cases_.2 h
    intro form mem
    rcases List.mem_cons.mp mem with rfl | mem
    · rw [unblocked.blocked, external]
    · cases held : a.ipv4Mapped with
      | none => simp [held] at mem
      | some ip =>
          rw [held] at mem
          rw [List.mem_singleton.mp mem]
          exact unblocked.held isGlobal held keeps
  refine ⟨fun allowed => ?_, fun allowed => ?_, fun allowed => ?_⟩
  · rcases allowed_iff.mp allowed with h | ⟨-, internal⟩
    · exact isPublic h
    · cases internal
  · intro form mem net hnet contains
    rcases allowed_iff.mp allowed with h | ⟨h, -⟩
    · exact absurd contains (List.any_eq_false.mp (isPublic h form mem) net hnet)
    · obtain ⟨unblocked, internal⟩ := cases_.1 h
      rcases List.mem_cons.mp mem with rfl | mem
      · exact unblocked.privateOnly hnet contains
      · cases held : a.ipv4Mapped with
        | none => simp [held] at mem
        | some ip =>
            rw [not_private_mapped held] at internal
            cases internal
  · rcases allowed_iff.mp allowed with h | ⟨-, internal⟩
    · exact allowed_iff.mpr (Or.inl h)
    · cases internal

/-- A later Python takes three blocked addresses for public where an IPv6 address holds them. -/
theorem leaks_public (leaks : Leaks version a) : (classifyIp version str a).1 = .publicNet := by
  obtain ⟨rfl, ip, held, mem⟩ := leaks
  obtain ⟨scopeId, rfl⟩ := ipv4Mapped_eq_some.mp held
  have number : ip = dotted 168 63 129 16 ∨ ip = dotted 192 0 0 9 ∨ ip = dotted 192 0 0 10 := by
    simpa [inSome, globalToPython, net4, IpNetwork.contains, ← BitVec.toNat_inj] using mem
  rcases number with rfl | rfl | rfl
  · rfl
  · rfl
  · rfl

/-- The policy is sound for an address exactly where the address does not hold one of the three for a
Python that answers for it; and a text is allowed where it reads as an address that is. -/
theorem policy_sound (version : PythonVersion) (str : IpAddress → String) (ipStr : String) :
    (∀ a, PolicySound version str ipStr a ↔ ¬Leaks version a) ∧
      ∀ allowInternal, isIpAllowedForPolicy version str ipStr allowInternal = .ok () ↔
        ∃ a, ipAddress (strip ipStr) = some a ∧ Allowed version str ipStr a allowInternal := by
  refine ⟨fun a => ⟨?_, policySound_of_not_leaks⟩, ?_⟩
  · intro sound leaks
    have allowed : Allowed version str ipStr a false := allowed_iff.mpr (Or.inl (leaks_public leaks))
    obtain ⟨-, ip, held, mem⟩ := leaks
    have blocked : inSome blockedNetworks (.v4 ip) = true := inSome_of_subnets (by decide) mem
    have open_ := sound.outside allowed (.v4 ip) (by simp [forms, Option.mem_def.mp held])
    rw [blocked] at open_
    cases open_
  · intro allowInternal
    rw [isIpAllowedForPolicy]
    constructor
    · intro allowed
      obtain ⟨a, read, allowed⟩ := Checked.bind_ok.mp allowed
      exact ⟨a, Checked.require_ok.mp read, allowed⟩
    · rintro ⟨a, read, allowed⟩
      exact Checked.bind_ok.mpr ⟨a, Checked.require_ok.mpr read, allowed⟩

end

/-- The metadata address of a cloud, held by an IPv6 address: a later Python lets it through. -/
theorem mapped_metadata_allowed :
    isIpAllowedForPolicy .v313 (fun _ => "") "::ffff:168.63.129.16" false = .ok () ∧
      ipAddress (strip "::ffff:168.63.129.16") = some (.v6 (mapped (dotted 168 63 129 16)) none) ∧
      inSome metadataNetworks (.v4 (dotted 168 63 129 16)) = true ∧
      ¬PolicySound .v313 (fun _ => "") "::ffff:168.63.129.16"
        (.v6 (mapped (dotted 168 63 129 16)) none) := by
  refine ⟨rfl, rfl, rfl, ?_⟩
  intro sound
  have outside := sound.outside rfl (.v4 (dotted 168 63 129 16)) (by decide)
  exact absurd outside (by decide)

end CyberAssess
