import Mathlib.Tactic.Common
import CyberAssess.Support.Text

/-!
# Support — IP addresses

The parts of Python's `ipaddress` that programs test addresses with.

* `ipAddress` reads an IPv4 or IPv6 text.
* `IpNetwork` is a block of addresses, with `IpNetwork.contains`.
* `IpAddress.isLoopback` and the other predicates are the properties of the same names, as the
  given Python has them.
* `ipAddress_v4` and `ipAddress_v6`: a text without a colon reads as IPv4 only, and the text before
  the first colon of an IPv6 text has no dot.

`[about ours]`: an address is its number; the mapped form of an IPv6 address is read off it.
-/

namespace Python

/-! ### Addresses and networks -/

/-- An address; an IPv6 address may have a scope id. -/
inductive IpAddress where
  | v4 (ip : BitVec 32)
  | v6 (ip : BitVec 128) (scopeId : Option String)
deriving DecidableEq, Repr

/-- A network by its first address and its prefix length. -/
inductive IpNetwork where
  | v4 (base : BitVec 32) (prefixLength : Nat)
  | v6 (base : BitVec 128) (prefixLength : Nat)
deriving DecidableEq, Repr

/-- `address in network`: one version, and the same prefix. -/
def IpNetwork.contains : IpNetwork → IpAddress → Bool
  | .v4 base n, .v4 ip => ip.toNat / 2 ^ (32 - n) = base.toNat / 2 ^ (32 - n)
  | .v6 base n, .v6 ip _ => ip.toNat / 2 ^ (128 - n) = base.toNat / 2 ^ (128 - n)
  | _, _ => false

/-- The address is in one of the networks. -/
def inSome (networks : List IpNetwork) (a : IpAddress) : Bool := networks.any (·.contains a)

@[simp] theorem inSome_append (ns ms : List IpNetwork) (a : IpAddress) :
    inSome (ns ++ ms) a = (inSome ns a || inSome ms a) := List.any_append

/-- `subnet_of`. -/
def IpNetwork.subnetOf : IpNetwork → IpNetwork → Bool
  | .v4 sub n, .v4 base k => k ≤ n && sub.toNat / 2 ^ (32 - k) = base.toNat / 2 ^ (32 - k)
  | .v6 sub n, .v6 base k => k ≤ n && sub.toNat / 2 ^ (128 - k) = base.toNat / 2 ^ (128 - k)
  | _, _ => false

/-- Numbers with one quotient have one quotient by what that divisor divides. -/
theorem div_pow_congr {x y m n : Nat} (h : x / 2 ^ m = y / 2 ^ m) (le : m ≤ n) :
    x / 2 ^ n = y / 2 ^ n := by
  obtain ⟨k, rfl⟩ := Nat.exists_eq_add_of_le le
  rw [Nat.pow_add, ← Nat.div_div_eq_div_mul, ← Nat.div_div_eq_div_mul, h]

/-- The addresses of a subnet are addresses of the network. -/
theorem IpNetwork.contains_of_subnetOf {sub net : IpNetwork} {a : IpAddress}
    (within : sub.subnetOf net = true) (mem : sub.contains a = true) : net.contains a = true := by
  cases sub <;> cases net <;> cases a <;>
    simp only [subnetOf, contains, Bool.false_eq_true, Bool.and_eq_true, decide_eq_true_eq] at *
  all_goals
    obtain ⟨longer, same⟩ := within
    rw [← same]
    exact div_pow_congr mem (by omega)

/-- What is in some network is in any list that has a network around each. -/
theorem inSome_of_subnets {ns ms : List IpNetwork} {a : IpAddress}
    (around : ∀ n ∈ ns, ∃ m ∈ ms, n.subnetOf m = true) (mem : inSome ns a = true) :
    inSome ms a = true := by
  obtain ⟨n, hn, mem⟩ := List.any_eq_true.mp mem
  obtain ⟨m, hm, within⟩ := around n hn
  exact List.any_eq_true.mpr ⟨m, hm, IpNetwork.contains_of_subnetOf within mem⟩

/-- A dotted quad. -/
def dotted (a b c d : Nat) : BitVec 32 := BitVec.ofNat 32 (((a * 256 + b) * 256 + c) * 256 + d)

/-- An IPv4 network. -/
def net4 (a b c d n : Nat) : IpNetwork := .v4 (dotted a b c d) n

/-- An IPv6 network, by its leading hextets. -/
def net6 (hextets : List Nat) (n : Nat) : IpNetwork :=
  .v6 (BitVec.ofNat 128
    (hextets.foldl (fun x h => x * 65536 + h) 0 * 65536 ^ (8 - hextets.length))) n

/-! ### Reading a text -/

/-- `_parse_octet`. -/
def parseOctet (cs : List Char) : Option Nat :=
  if cs.isEmpty || !cs.all Char.isDigit || 3 < cs.length || (cs ≠ ['0'] && cs.head? = some '0')
  then none
  else
    let n := digitsToNat (String.ofList cs)
    if n ≤ 255 then some n else none

/-- `IPv4Address(text)`. -/
def ipv4OfText (cs : List Char) : Option (BitVec 32) :=
  if cs.contains '/' then none
  else
    match (cs.splitOn '.').mapM parseOctet with
    | some [a, b, c, d] => some (dotted a b c d)
    | _ => none

/-- A character of `_HEX_DIGITS`. -/
def isHexDigit (c : Char) : Bool :=
  c.isDigit || ('a' ≤ c && c ≤ 'f') || ('A' ≤ c && c ≤ 'F')

/-- The value of a hexadecimal digit. -/
def hexValue (c : Char) : Nat :=
  if c.isDigit then c.toNat - 48 else if 'a' ≤ c then c.toNat - 87 else c.toNat - 55

/-- `_parse_hextet`. -/
def parseHextet (cs : List Char) : Option Nat :=
  if cs.isEmpty || !cs.all isHexDigit || 4 < cs.length then none
  else some (cs.foldl (fun n c => n * 16 + hexValue c) 0)

/-- The number some hextets spell. -/
def hextetsToNat (hextets : List Nat) : Nat := hextets.foldl (fun x h => x * 65536 + h) 0

/-- The parts with an IPv4 suffix rewritten as two hextets. -/
def expandSuffix (parts : List (List Char)) : Option (List (List Char)) :=
  let last := parts.getLast?.getD []
  if last.contains '.' then
    (ipv4OfText last).map fun ip =>
      parts.dropLast ++ [Nat.toDigits 16 (ip.toNat / 65536), Nat.toDigits 16 (ip.toNat % 65536)]
  else some parts

/-- The positions of the parts between the endpoints that are empty. -/
def skips (parts : List (List Char)) : List Nat :=
  ((parts.dropLast.drop 1).findIdxs (·.isEmpty)).map (· + 1)

/-- The hextets on one side of a skip, where an empty part at the end `edge` is the only one. -/
def sideOfSkip (edge : Option (List Char)) (side : List (List Char)) : Option (List Nat) :=
  if edge = some [] then if side.length = 1 then some [] else none
  else side.mapM parseHextet

/-- The number an IPv6 text with these parts reads as. -/
def ipv6OfParts (parts : List (List Char)) : Option Nat :=
  if 9 < parts.length then none
  else
    match skips parts with
    | [] => if parts.length = 8 then (parts.mapM parseHextet).map hextetsToNat else none
    | [k] => do
        let hi ← sideOfSkip parts.head? (parts.take k)
        let lo ← sideOfSkip parts.getLast? (parts.drop (k + 1))
        let skipped := 8 - (hi.length + lo.length)
        if skipped < 1 then none
        else some (hextetsToNat hi * 65536 ^ skipped * 65536 ^ lo.length + hextetsToNat lo)
    | _ => none

/-- The text before a `%`, and the scope id after it. -/
def splitScopeId (cs : List Char) : Option (List Char × Option String) :=
  match cs.splitOn '%' with
  | [addr] => some (addr, none)
  | [addr, scope] => if scope.isEmpty then none else some (addr, some (String.ofList scope))
  | _ => none

/-- `IPv6Address(text)`. -/
def ipv6OfText (cs : List Char) : Option IpAddress :=
  if cs.contains '/' then none
  else do
    let (addr, scopeId) ← splitScopeId cs
    let parts := addr.splitOn ':'
    if parts.length < 3 then none
    else
      let parts ← expandSuffix parts
      let ip ← ipv6OfParts parts
      return .v6 (BitVec.ofNat 128 ip) scopeId

/-- `ip_address(text)`. -/
def ipAddress (s : String) : Option IpAddress :=
  ((ipv4OfText s.toList).map .v4).or (ipv6OfText s.toList)

/-! ### What a text that reads looks like -/

/-- A character of a split text is the separator or in a part. -/
theorem mem_splitOn {x c : Char} : ∀ {cs : List Char}, c ∈ cs →
    c = x ∨ ∃ part ∈ cs.splitOn x, c ∈ part
  | y :: ys, h => by
      rw [List.splitOn_cons_eq_if_modifyHead]
      obtain ⟨head, tail, split⟩ := List.exists_cons_of_ne_nil (List.splitOn_ne_nil x ys)
      by_cases sep : y = x
      · rcases List.mem_cons.mp h with rfl | h
        · exact .inl sep
        · refine (mem_splitOn h).imp_right ?_
          rintro ⟨part, hp, hc⟩
          exact ⟨part, by simp [sep, hp], hc⟩
      · rcases List.mem_cons.mp h with rfl | h
        · exact .inr ⟨c :: head, by simp [sep, split], List.mem_cons_self⟩
        · refine (mem_splitOn h).imp_right ?_
          rintro ⟨part, hp, hc⟩
          rw [split] at hp
          rcases List.mem_cons.mp hp with rfl | hp
          · exact ⟨y :: part, by simp [sep, split], List.mem_cons_of_mem _ hc⟩
          · exact ⟨part, by simp [sep, split, hp], hc⟩

/-- The parts of a text that is split in some way are its splits where they are read. -/
theorem all_of_mapM {α β : Type} {f : α → Option β} : ∀ {xs : List α} {ys : List β},
    xs.mapM f = some ys → ∀ x ∈ xs, (f x).isSome
  | [], _, _ => by simp
  | x :: xs, ys, h => by
      rw [List.mapM_cons] at h
      simp only [Option.bind_eq_bind, Option.bind_eq_some_iff] at h
      obtain ⟨y, hy, zs, hz, -⟩ := h
      exact List.forall_mem_cons.mpr ⟨by simp [hy], all_of_mapM hz⟩

/-- An octet is written in digits. -/
theorem digits_of_octet {cs : List Char} (h : (parseOctet cs).isSome) :
    ∀ c ∈ cs, c.isDigit = true := by
  unfold parseOctet at h
  split at h
  · cases h
  · rename_i written
    simp only [Bool.or_eq_true, not_or, Bool.not_eq_true', Bool.not_eq_false] at written
    exact List.all_eq_true.mp written.1.1.2

/-- A hextet is written in hexadecimal digits. -/
theorem hexDigits_of_hextet {cs : List Char} (h : (parseHextet cs).isSome) :
    ∀ c ∈ cs, isHexDigit c = true := by
  unfold parseHextet at h
  split at h
  · cases h
  · rename_i written
    simp only [Bool.or_eq_true, not_or, Bool.not_eq_true', Bool.not_eq_false] at written
    exact List.all_eq_true.mp written.1.2

/-- A character of an IPv4 text. -/
def isDotted (c : Char) : Bool := c.isDigit || c = '.'

/-- An IPv4 text is made of digits and dots, and there is a dot. -/
theorem ipv4OfText_some {cs : List Char} {ip : BitVec 32} (h : ipv4OfText cs = some ip) :
    (∀ c ∈ cs, isDotted c = true) ∧ '.' ∈ cs := by
  unfold ipv4OfText at h
  split at h
  · cases h
  · split at h
    · rename_i a b c d read
      refine ⟨fun x hx => ?_, ?_⟩
      · rcases mem_splitOn (x := '.') hx with rfl | ⟨part, hp, hxp⟩
        · rfl
        · simp [isDotted, digits_of_octet (all_of_mapM read part hp) x hxp]
      · by_contra undotted
        rw [List.splitOn_eq_singleton undotted] at read
        cases only : parseOctet cs <;> simp [only] at read
    · cases h

/-- The first part of an IPv6 text with this many parts has no dot. -/
theorem undotted_of_parts {first : List Char} {rest : List (List Char)} {n : Nat}
    (h : ipv6OfParts (first :: rest) = some n) : '.' ∉ first := by
  have written (read : (parseHextet first).isSome) : '.' ∉ first := by
    intro dot
    exact absurd (hexDigits_of_hextet read '.' dot) (by decide)
  unfold ipv6OfParts at h
  split at h
  · cases h
  · split at h
    · split at h
      · obtain ⟨hextets, read, -⟩ := Option.map_eq_some_iff.mp h
        exact written (all_of_mapM read first List.mem_cons_self)
      · cases h
    · rename_i k skip
      simp only [Option.bind_eq_bind, Option.bind_eq_some_iff] at h
      obtain ⟨hi, side, -⟩ := h
      have mem : k ∈ skips (first :: rest) := by
        rw [skip]
        exact List.mem_singleton_self k
      obtain ⟨j, -, rfl⟩ := List.mem_map.mp mem
      unfold sideOfSkip at side
      split at side
      · rename_i empty
        have : first = [] := by simpa using empty
        simp [this]
      · exact written (all_of_mapM side first (by simp))
    · cases h

/-- Where a text reads as IPv6, what stands before its first colon has no dot. -/
theorem ipv6OfText_some {cs : List Char} {a : IpAddress} (h : ipv6OfText cs = some a) :
    ∃ first rest, cs = first ++ ':' :: rest ∧ ':' ∉ first ∧ '.' ∉ first := by
  unfold ipv6OfText at h
  split at h
  · cases h
  · simp only [Option.bind_eq_bind, Option.bind_eq_some_iff] at h
    obtain ⟨⟨addr, scopeId⟩, hasScope, h⟩ := h
    split at h
    · cases h
    · rename_i enough
      simp only [Option.bind_eq_some_iff] at h
      obtain ⟨parts, expanded, ip, read, -⟩ := h
      have colon : ':' ∈ addr := by
        by_contra none
        rw [List.splitOn_eq_singleton none] at enough
        simp at enough
      obtain ⟨first, rest, rfl, before⟩ := List.eq_append_cons_of_mem colon
      rw [List.splitOn_append_cons_self_of_not_mem before] at expanded enough
      -- the suffix is the last of three parts at least
      have head : ∃ more, parts = first :: more := by
        simp only [expandSuffix] at expanded
        split at expanded
        · obtain ⟨v4, -, rfl⟩ := Option.map_eq_some_iff.mp expanded
          obtain ⟨y, ys, split⟩ := List.exists_cons_of_ne_nil (List.splitOn_ne_nil ':' rest)
          rw [split]
          exact ⟨_, rfl⟩
        · exact ⟨_, (Option.some.inj expanded).symm⟩
      obtain ⟨more, rfl⟩ := head
      refine ⟨first, ?_⟩
      have joined : ∃ tail, cs = (first ++ ':' :: rest) ++ tail := by
        have whole : ['%'].intercalate (cs.splitOn '%') = cs := List.intercalate_splitOn '%'
        unfold splitScopeId at hasScope
        split at hasScope
        · rename_i only
          cases hasScope
          rw [only] at whole
          exact ⟨[], by simpa [List.intercalate] using whole.symm⟩
        · rename_i addr' scope both
          split at hasScope
          · cases hasScope
          · cases hasScope
            rw [both] at whole
            exact ⟨'%' :: scope, by simpa [List.intercalate] using whole.symm⟩
        · cases hasScope
      obtain ⟨tail, rfl⟩ := joined
      exact ⟨rest ++ tail, by simp, before, undotted_of_parts read⟩

/-! ### Properties -/

/-- The Python versions a program runs under, where their `ipaddress` differs. -/
inductive PythonVersion where
  | v311 | v313
deriving DecidableEq, Repr

/-- The properties of an IPv4 number. -/
def linkLocal4 : List IpNetwork := [net4 169 254 0 0 16]

def loopback4 : List IpNetwork := [net4 127 0 0 0 8]

def multicast4 : List IpNetwork := [net4 224 0 0 0 4]

def reserved4 : List IpNetwork := [net4 240 0 0 0 4]

/-- The IPv4 blocks that are not globally reachable, and the exceptions among them. -/
def private4 : List IpNetwork :=
  [net4 0 0 0 0 8, net4 10 0 0 0 8, net4 127 0 0 0 8, net4 169 254 0 0 16, net4 172 16 0 0 12,
    net4 192 0 0 0 24, net4 192 0 0 170 31, net4 192 0 2 0 24, net4 192 168 0 0 16,
    net4 198 18 0 0 15, net4 198 51 100 0 24, net4 203 0 113 0 24, net4 240 0 0 0 4,
    net4 255 255 255 255 32]

def privateExceptions4 : List IpNetwork := [net4 192 0 0 9 32, net4 192 0 0 10 32]

def linkLocal6 : List IpNetwork := [net6 [0xfe80] 10]

def multicast6 : List IpNetwork := [net6 [0xff00] 8]

def reserved6 : List IpNetwork :=
  [net6 [0] 8, net6 [0x100] 8, net6 [0x200] 7, net6 [0x400] 6, net6 [0x800] 5, net6 [0x1000] 4,
    net6 [0x4000] 3, net6 [0x6000] 3, net6 [0x8000] 3, net6 [0xA000] 3, net6 [0xC000] 3,
    net6 [0xE000] 4, net6 [0xF000] 5, net6 [0xF800] 6, net6 [0xFE00] 9]

/-- The IPv6 blocks that are not globally reachable, and the exceptions among them; later Pythons
know one block more. -/
def private6 (version : PythonVersion) : List IpNetwork :=
  [net6 [0, 0, 0, 0, 0, 0, 0, 1] 128, net6 [0] 128, net6 [0, 0, 0, 0, 0, 0xffff] 96,
    net6 [0x64, 0xff9b, 1] 48, net6 [0x100] 64, net6 [0x2001] 23, net6 [0x2001, 0xdb8] 32,
    net6 [0x2002] 16, net6 [0xfc00] 7, net6 [0xfe80] 10] ++
    (if version = .v313 then [net6 [0x3fff] 20] else [])

def privateExceptions6 : List IpNetwork :=
  [net6 [0x2001, 1, 0, 0, 0, 0, 0, 1] 128, net6 [0x2001, 1, 0, 0, 0, 0, 0, 2] 128,
    net6 [0x2001, 3] 32, net6 [0x2001, 4, 0x112] 48, net6 [0x2001, 0x20] 28,
    net6 [0x2001, 0x30] 28]

namespace IpAddress

/-- `ipv4_mapped`. -/
def ipv4Mapped : IpAddress → Option (BitVec 32)
  | .v4 _ => none
  | .v6 ip _ =>
      if ip.toNat / 2 ^ 32 = 0xFFFF then some (BitVec.ofNat 32 (ip.toNat % 2 ^ 32)) else none

/-- The IPv6 number that holds an IPv4 number. -/
def mapped (ip : BitVec 32) : BitVec 128 := BitVec.ofNat 128 (0xFFFF * 2 ^ 32 + ip.toNat)

theorem toNat_mapped (ip : BitVec 32) : (mapped ip).toNat = 0xFFFF * 2 ^ 32 + ip.toNat := by
  have small := ip.isLt
  rw [mapped, BitVec.toNat_ofNat]
  omega

/-- An address that holds an IPv4 number is made of it. -/
theorem ipv4Mapped_eq_some {a : IpAddress} {ip : BitVec 32} :
    a.ipv4Mapped = some ip ↔ ∃ scopeId, a = .v6 (mapped ip) scopeId := by
  constructor
  · intro h
    cases a with
    | v4 n => cases h
    | v6 n scopeId =>
        rw [ipv4Mapped] at h
        split at h
        · rename_i high
          cases h
          refine ⟨scopeId, ?_⟩
          congr 1
          apply BitVec.eq_of_toNat_eq
          rw [toNat_mapped, BitVec.toNat_ofNat]
          omega
        · cases h
  · rintro ⟨scopeId, rfl⟩
    have small := ip.isLt
    have high : (mapped ip).toNat / 2 ^ 32 = 0xFFFF := by
      rw [toNat_mapped]
      omega
    have low : (mapped ip).toNat % 2 ^ 32 = ip.toNat := by
      rw [toNat_mapped]
      omega
    rw [ipv4Mapped, if_pos high, low, BitVec.ofNat_toNat, BitVec.setWidth_eq]

/-- A property of IPv6 addresses; later Pythons answer it for the mapped IPv4 address where there
is one. -/
def ofMapped (version : PythonVersion) (property : IpAddress → Bool) (a : IpAddress) : Bool :=
  match version, a.ipv4Mapped with
  | .v313, some ip => property (.v4 ip)
  | _, _ => property a

theorem ofMapped_held {property : IpAddress → Bool} {a : IpAddress} {ip : BitVec 32}
    (held : a.ipv4Mapped = some ip) : ofMapped .v313 property a = property (.v4 ip) := by
  simp only [ofMapped, held]

/-- `is_multicast`. -/
def isMulticast (version : PythonVersion) : IpAddress → Bool :=
  ofMapped version (inSome (multicast4 ++ multicast6))

/-- `is_reserved`. -/
def isReserved (version : PythonVersion) : IpAddress → Bool :=
  ofMapped version (inSome (reserved4 ++ reserved6))

/-- `is_link_local`. -/
def isLinkLocal (version : PythonVersion) : IpAddress → Bool :=
  ofMapped version (inSome (linkLocal4 ++ linkLocal6))

/-- `is_unspecified`. -/
def isUnspecified (version : PythonVersion) : IpAddress → Bool :=
  ofMapped version fun
    | .v4 ip => ip = 0
    | .v6 ip _ => ip = 0

/-- `is_loopback`. -/
def isLoopback (version : PythonVersion) : IpAddress → Bool :=
  ofMapped version fun
    | .v4 ip => inSome loopback4 (.v4 ip)
    | .v6 ip _ => ip = 1

/-- `is_private`: of the mapped address where there is one. -/
def isPrivate (version : PythonVersion) (a : IpAddress) : Bool :=
  let a := (a.ipv4Mapped.map IpAddress.v4).getD a
  inSome (private4 ++ private6 version) a && !inSome (privateExceptions4 ++ privateExceptions6) a

/-- `is_global`. -/
def isGlobal (version : PythonVersion) : IpAddress → Bool :=
  ofMapped version fun a => !inSome [net4 100 64 0 0 10] a && !a.isPrivate version

end IpAddress

end Python
