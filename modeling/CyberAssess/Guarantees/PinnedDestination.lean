import CyberAssess.Scan.Address

/-!
# Guarantees — the pinned destination

Whether the destination a validated target is pinned to is the address the policy was applied to.

* `Pinned` is the promise: the destination reads as an address, the policy allows it, and for an IP
  target it is the address that was checked.
* `pinned_iff`: names are always pinned so; an IP target exactly where what stands before its first
  colon, without brackets, is a dotted IPv4 address.

`validate_target_ip` knows brackets and single ports, `create_validated_target` cuts at the first
colon.
-/

namespace CyberAssess

open Python
open Checked (refuse refuse_ok require_ok bind_ok exists_unit)

variable {version : PythonVersion} {str : IpAddress → String}

/-- The destination reads as an address the policy allows; of an IP target it is the address that
`validate_target_ip` checked. -/
structure Pinned (version : PythonVersion) (str : IpAddress → String) (c : CreateTargetArgs)
    (t : ValidatedTarget) : Prop where
  address : (ipAddress t.selectedDestination).isSome
  allowed : isIpAllowedForPolicy version str t.selectedDestination c.allowInternal = .ok ()
  checked : c.target.type = .ip → ipAddress t.selectedDestination =
    ipAddress (strip (cleanIp (strip c.target.value)))

/-- What is pinned of an IP target: the text before the first colon, without brackets. -/
def pinnedText (value : String) : String := stripBrackets (beforeColon value)

/-! ### Text -/

theorem cutColon_of_mem {first rest : List Char} (h : ':' ∉ first) :
    (cutText [':'] (first ++ ':' :: rest)).1 = first := by
  induction first with
  | nil => simp [cutText]
  | cons c cs ih =>
      simp only [List.mem_cons, not_or] at h
      simp [cutText, h.1, ih h.2]

theorem cutColon_of_not_mem {cs : List Char} (h : ':' ∉ cs) : (cutText [':'] cs).1 = cs := by
  induction cs with
  | nil => rfl
  | cons c cs ih =>
      simp only [List.mem_cons, not_or] at h
      simp [cutText, h.1, ih h.2]

/-- A cut at one character. -/
theorem cutText_some {x : Char} : ∀ {cs inside rest : List Char},
    cutText [x] cs = (inside, some rest) → cs = inside ++ x :: rest ∧ x ∉ inside
  | [], _, _, h => by simp [cutText] at h
  | c :: cs, inside, rest, h => by
      by_cases hc : x = c
      · subst hc
        simp only [cutText, List.isPrefixOf, beq_self_eq_true, Bool.and_self, if_true,
          Prod.mk.injEq, Option.some.injEq] at h
        obtain ⟨rfl, rfl⟩ := h
        simp
      · simp only [cutText, List.isPrefixOf, beq_iff_eq, hc, Bool.and_true, if_false,
          Prod.mk.injEq] at h
        obtain ⟨rfl, h⟩ := h
        have cut : cutText [x] cs = ((cutText [x] cs).1, some rest) := Prod.ext rfl h
        obtain ⟨whole, clear⟩ := cutText_some cut
        refine ⟨by rw [List.cons_append, ← whole], ?_⟩
        simp [hc, clear]

theorem not_isDotted_of_bracket {c : Char} (h : isBracket c = true) : isDotted c = false := by
  simp only [isBracket, Bool.or_eq_true, decide_eq_true_eq] at h
  rcases h with rfl | rfl <;> decide

theorem not_isDotted_of_space {c : Char} (h : isSpace c = true) : isDotted c = false := by
  by_contra dotted
  simp only [isDotted, Bool.not_eq_false, Bool.or_eq_true, decide_eq_true_eq] at dotted
  rcases dotted with digit | rfl
  · simp only [Char.isDigit, Bool.and_eq_true, decide_eq_true_eq, UInt32.le_iff_toNat_le] at digit
    simp only [isSpace, Bool.or_eq_true, Bool.and_eq_true, decide_eq_true_eq, beq_iff_eq] at h
    have low : 48 ≤ c.val.toNat := digit.1
    have high : c.val.toNat ≤ 57 := digit.2
    omega
  · exact absurd h (by decide)

/-- The dotted characters of a text around which there are none. -/
theorem filter_between {l m r : List Char} (hl : ∀ c ∈ l, isDotted c = false)
    (hr : ∀ c ∈ r, isDotted c = false) :
    (l ++ m ++ r).filter isDotted = m.filter isDotted := by
  have nl : l.filter isDotted = [] := List.filter_eq_nil_iff.mpr (by simpa using hl)
  have nr : r.filter isDotted = [] := List.filter_eq_nil_iff.mpr (by simpa using hr)
  simp [nl, nr]

/-- A text is its stripped text with spaces around it. -/
theorem strip_parts (cs : List Char) : ∃ l r, cs = l ++ stripChars cs ++ r ∧
    (∀ c ∈ l, isSpace c = true) ∧ ∀ c ∈ r, isSpace c = true :=
  trim_parts isSpace cs

/-- A text is its text without brackets with brackets around it. -/
theorem stripBrackets_parts (s : String) : ∃ l r, s.toList = l ++ (stripBrackets s).toList ++ r ∧
    (∀ c ∈ l, isBracket c = true) ∧ ∀ c ∈ r, isBracket c = true := by
  rw [stripBrackets, String.toList_ofList]
  exact trim_parts isBracket s.toList

/-- Spaces and brackets. -/
def isAround (c : Char) : Bool := isSpace c || isBracket c

theorem not_isDotted_of_around {c : Char} (h : isAround c = true) : isDotted c = false := by
  rcases Bool.or_eq_true_iff.mp h with space | bracket
  · exact not_isDotted_of_space space
  · exact not_isDotted_of_bracket bracket

/-- What `validate_target_ip` reads of a value: the text in the brackets it starts with, or its
text without brackets, or what stands before its only colon, or the value. -/
theorem cleanIp_cases {value : String} (stripped : strip value = value) :
    (∃ inside rest, value.toList = '[' :: inside ++ ']' :: rest ∧
        (cleanIp value).toList = inside) ∨
      cleanIp value = stripBrackets value ∨
      (':' ∈ value.toList ∧ cleanIp value = beforeColon value) ∨
      cleanIp value = value := by
  unfold cleanIp
  rw [stripped]
  dsimp only
  split
  · rename_i bracketed
    obtain ⟨cs, whole⟩ := String.startsWith_string_iff.mp bracketed
    split
    · rename_i inside rest cut
      obtain ⟨parts, -⟩ := cutText_some cut
      refine .inl ⟨inside, rest, ?_, String.toList_ofList⟩
      rw [← whole] at parts ⊢
      simpa using parts
    · exact .inr (.inl rfl)
  · split
    · rename_i one
      refine .inr (.inr (.inl ⟨?_, rfl⟩))
      exact List.count_pos_iff.mp (by unfold colonCount at one; omega)
    · exact .inr (.inr (.inr rfl))

theorem beforeColon_of_mem {value : String} {first rest : List Char}
    (h : value.toList = first ++ ':' :: rest) (clear : ':' ∉ first) :
    (beforeColon value).toList = first := by
  rw [beforeColon, String.toList_ofList, h, cutColon_of_mem clear]

theorem beforeColon_of_not_mem {value : String} (h : ':' ∉ value.toList) :
    beforeColon value = value := by
  rw [beforeColon, cutColon_of_not_mem h, String.ofList_toList]

theorem not_colon_of_around {c : Char} (h : isAround c = true) : c ≠ ':' := by
  rintro rfl
  exact absurd h (by decide)

/-- What is read of a value stands in it between characters that are neither colons nor dotted. -/
theorem cleanIp_within {value : String} (stripped : strip value = value) : ∃ l r,
    value.toList = l ++ (cleanIp value).toList ++ r ∧ ∀ c ∈ l, isAround c = true := by
  rcases cleanIp_cases stripped with ⟨inside, rest, whole, clean⟩ | clean | ⟨colon, clean⟩ | clean
  · exact ⟨['['], ']' :: rest, by rw [clean, whole]; simp, List.forall_mem_singleton.mpr (by decide)⟩
  · obtain ⟨l, r, whole, hl, -⟩ := stripBrackets_parts value
    exact ⟨l, r, by rw [clean]; exact whole, fun c hc => Bool.or_eq_true_iff.mpr (.inr (hl c hc))⟩
  · obtain ⟨first, rest, whole, clear⟩ := List.eq_append_cons_of_mem colon
    exact ⟨[], ':' :: rest, by rw [clean, beforeColon_of_mem whole clear, whole]; rfl, by simp⟩
  · exact ⟨[], [], by rw [clean]; simp, by simp⟩

/-- The text that is pinned is a part of what stands before the first colon. -/
theorem pinnedText_subset {value : String} {first rest : List Char}
    (h : value.toList = first ++ ':' :: rest) (clear : ':' ∉ first) :
    ∀ c ∈ (pinnedText value).toList, c ∈ first := by
  intro c hc
  obtain ⟨l, r, whole, -⟩ := stripBrackets_parts (beforeColon value)
  rw [beforeColon_of_mem h clear] at whole
  rw [whole]
  simp only [List.mem_append]
  exact .inl (.inr hc)

/-- The pinned text has no colon. -/
theorem pinnedText_clear (value : String) : ':' ∉ (pinnedText value).toList := by
  intro h
  by_cases colon : ':' ∈ value.toList
  · obtain ⟨first, rest, text, clear⟩ := List.eq_append_cons_of_mem colon
    exact clear (pinnedText_subset text clear ':' h)
  · rw [pinnedText, beforeColon_of_not_mem colon] at h
    obtain ⟨l, r, whole, -⟩ := stripBrackets_parts value
    refine colon ?_
    rw [whole]
    exact List.mem_append_left _ (List.mem_append_right _ h)

/-- Where the checked address is IPv6, the pinned text has no dot. -/
theorem undotted_of_v6 {value : String} {a : IpAddress} (stripped : strip value = value)
    (h : ipv6OfText (stripChars (cleanIp value).toList) = some a) :
    '.' ∉ (pinnedText value).toList := by
  obtain ⟨first, rest, text, clear, undotted⟩ := ipv6OfText_some h
  obtain ⟨l, r, whole, hl⟩ := cleanIp_within stripped
  obtain ⟨spaces, more, parts, hs, -⟩ := strip_parts (cleanIp value).toList
  have split : value.toList = (l ++ spaces ++ first) ++ ':' :: (rest ++ more ++ r) := by
    rw [whole, parts, text]
    simp
  have before : ':' ∉ l ++ spaces ++ first := by
    simp only [List.mem_append, not_or]
    refine ⟨⟨fun h => not_colon_of_around (hl _ h) rfl, fun h => ?_⟩, clear⟩
    exact absurd (hs _ h) (by decide)
  intro dot
  have mem := pinnedText_subset split before '.' dot
  simp only [List.mem_append] at mem
  rcases mem with (inL | inSpaces) | inFirst
  · exact absurd (hl _ inL) (by decide)
  · exact absurd (hs _ inSpaces) (by decide)
  · exact undotted inFirst

/-- A cut after characters that are no colons. -/
theorem cutColon_append {xs ys : List Char} (h : ':' ∉ xs) :
    (cutText [':'] (xs ++ ys)).1 = xs ++ (cutText [':'] ys).1 := by
  induction xs with
  | nil => rfl
  | cons c cs ih =>
      simp only [List.mem_cons, not_or] at h
      simp [cutText, h.1, ih h.2]

/-- Where a dotted text in brackets is what is left of a text without its outer brackets, nothing
but brackets follows its bracket. -/
theorem brackets_after {inside rest l s r : List Char}
    (h : '[' :: inside ++ ']' :: rest = l ++ s ++ r) (hl : ∀ c ∈ l, isBracket c = true)
    (hr : ∀ c ∈ r, isBracket c = true) (hs : ∀ c ∈ s, isDotted c = true)
    (some : ∃ c ∈ inside, isDotted c = true) : ∀ c ∈ rest, isBracket c = true := by
  have inR {pre : List Char} (tail : r = pre ++ ']' :: rest) : ∀ c ∈ rest, isBracket c = true := by
    intro c hc
    exact hr c (by rw [tail]; simp [hc])
  rcases List.append_eq_append_iff.mp h with ⟨a, left, right⟩ | ⟨a, -, right⟩
  · cases a with
    | nil => exact inR (show r = [] ++ ']' :: rest by simpa using right.symm)
    | cons x a =>
        -- the bracket after the dotted text would be in it, or the text among the leading brackets
        exfalso
        simp only [List.cons_append, List.cons.injEq] at right
        obtain ⟨rfl, -⟩ := right
        obtain ⟨c, hc, dotted⟩ := some
        rcases List.append_eq_append_iff.mp left with ⟨b, -, tail⟩ | ⟨b, head, -⟩
        · exact absurd (hs ']' (by simp [tail])) (by decide)
        · have bracket := hl c (by simp [head, hc])
          rw [not_isDotted_of_bracket bracket] at dotted
          cases dotted
  · exact inR right

/-- Where the pinned text is an IPv4 address, it is the text that was checked. -/
theorem pinned_eq_checked {value : String} (stripped : strip value = value) {ip : BitVec 32}
    (pinned : ipv4OfText (pinnedText value).toList = some ip) {a : IpAddress}
    (checked : ipAddress (strip (cleanIp value)) = some a) :
    (pinnedText value).toList = stripChars (cleanIp value).toList := by
  obtain ⟨dottedS, dotS⟩ := ipv4OfText_some pinned
  rw [ipAddress, strip, String.toList_ofList] at checked
  obtain ⟨ip', read⟩ : ∃ ip', ipv4OfText (stripChars (cleanIp value).toList) = some ip' := by
    cases v4 : ipv4OfText (stripChars (cleanIp value).toList) with
    | some ip' => exact ⟨ip', rfl⟩
    | none =>
        rw [v4] at checked
        exact absurd dotS (undotted_of_v6 stripped (by simpa using checked))
  obtain ⟨dottedT, dotT⟩ := ipv4OfText_some read
  obtain ⟨spaces, more, parts, hs, hm⟩ := strip_parts (cleanIp value).toList
  have filterClean : (cleanIp value).toList.filter isDotted = stripChars (cleanIp value).toList := by
    rw [parts, filter_between (fun c hc => not_isDotted_of_space (hs c hc))
      fun c hc => not_isDotted_of_space (hm c hc), ← parts]
    exact List.filter_eq_self.mpr dottedT
  obtain ⟨l, r, whole, hl, hr⟩ := stripBrackets_parts (beforeColon value)
  have filterPinned : (beforeColon value).toList.filter isDotted = (pinnedText value).toList := by
    rw [whole, filter_between (fun c hc => not_isDotted_of_bracket (hl c hc))
      fun c hc => not_isDotted_of_bracket (hr c hc)]
    exact List.filter_eq_self.mpr dottedS
  have noColon : ':' ∉ (cleanIp value).toList := by
    rw [parts]
    simp only [List.mem_append, not_or]
    refine ⟨⟨fun h => absurd (hs _ h) (by decide), fun h => absurd (dottedT _ h) (by decide)⟩,
      fun h => absurd (hm _ h) (by decide)⟩
  rw [← filterPinned, ← filterClean]
  rcases cleanIp_cases stripped with ⟨inside, rest, text, clean⟩ | clean | ⟨-, clean⟩ | clean
  · rw [clean] at noColon filterClean ⊢
    have before : (beforeColon value).toList = '[' :: inside ++ ']' :: (cutText [':'] rest).1 := by
      rw [beforeColon, String.toList_ofList, text, cutColon_append (by simpa using noColon)]
      simp [cutText]
    rw [before] at whole ⊢
    have some : ∃ c ∈ inside, isDotted c = true := by
      refine ⟨'.', ?_, rfl⟩
      rw [clean, ← filterClean] at dotT
      exact (List.mem_filter.mp dotT).1
    have after := brackets_after whole hl hr dottedS some
    have split : '[' :: inside ++ ']' :: (cutText [':'] rest).1 =
        ['['] ++ inside ++ (']' :: (cutText [':'] rest).1) := by simp
    rw [split, filter_between (List.forall_mem_singleton.mpr (by decide))
      (List.forall_mem_cons.mpr ⟨by decide, fun c hc => not_isDotted_of_bracket (after c hc)⟩)]
  · obtain ⟨l, r, text, hl, hr⟩ := stripBrackets_parts value
    rw [← clean] at text
    have same : beforeColon value = value := by
      refine beforeColon_of_not_mem ?_
      rw [text]
      simp only [List.mem_append, not_or]
      exact ⟨⟨fun h => absurd (hl _ h) (by decide), noColon⟩, fun h => absurd (hr _ h) (by decide)⟩
    rw [same, text, filter_between (fun c hc => not_isDotted_of_bracket (hl c hc))
      fun c hc => not_isDotted_of_bracket (hr c hc)]
  · rw [clean]
  · rw [clean] at noColon ⊢
    rw [beforeColon_of_not_mem noColon]

/-! ### The policy -/

/-- Whether an address is allowed does not depend on how it is written. -/
theorem isAddressAllowed_congr {ip : IpAddress} {allowInternal : Bool} (s s' : String)
    (h : isAddressAllowed version str s ip allowInternal = .ok ()) :
    isAddressAllowed version str s' ip allowInternal = .ok () := by
  unfold isAddressAllowed at h ⊢
  generalize classifyIp version str ip = found at h ⊢
  obtain ⟨classification, reason⟩ := found
  cases classification <;> cases allowInternal <;> first | rfl | cases h

theorem isIpAllowedForPolicy_ok {s : String} {allowInternal : Bool} :
    isIpAllowedForPolicy version str s allowInternal = .ok () ↔
      ∃ ip, ipAddress (strip s) = some ip ∧
        isAddressAllowed version str s ip allowInternal = .ok () := by
  simp only [isIpAllowedForPolicy, bind_ok, require_ok]

/-- The addresses of the second lookup are addresses, and allowed. -/
theorem pinnedAddressesAllowed_ok {g : Gateway} {allowInternal : Bool} : ∀ {ips : List String},
    pinnedAddressesAllowed g allowInternal ips = .ok () →
      ∀ ip ∈ ips, g.isIpAddress ip = true ∧ g.isIpAllowedForPolicy ip allowInternal = .ok ()
  | [], _ => by simp
  | ip :: ips, h => by
      simp only [pinnedAddressesAllowed, bind_ok, exists_unit, refuse_ok, Bool.not_eq_false'] at h
      obtain ⟨address, h⟩ := h
      split at h
      · rename_i allowed
        exact List.forall_mem_cons.mpr ⟨⟨address, allowed⟩, pinnedAddressesAllowed_ok h⟩
      · cases h

/-! ### The result -/

variable {g : Gateway} {c : CreateTargetArgs} {t : ValidatedTarget}

/-- The destination of a name is an address of the second lookup. -/
theorem pinned_name (named : c.target.type = .url ∨ c.target.type = .domain)
    (h : createValidatedTarget (g.underPolicy version str) c = .ok t) :
    Pinned version str c t := by
  obtain ⟨-, -, d, destination, allowed, rfl⟩ := (createValidatedTarget_ok _).mp h
  have answers : d.resolvedIps ≠ [] ∧
      pinnedAddressesAllowed (g.underPolicy version str) c.allowInternal d.resolvedIps = .ok () := by
    rcases named with type | type <;> rw [type] at allowed <;>
      simpa [destinationAllowed, bind_ok, exists_unit] using allowed
  have chosen : ∃ host, d.selectedDest = firstAddress d.resolvedIps host := by
    rcases named with type | type <;> rw [type] at destination
    · simp only [destinationOf, bind_ok] at destination
      obtain ⟨parsed, -, given, -, destination⟩ := destination
      split at destination
      · cases destination
        exact absurd rfl answers.1
      · cases destination
        exact ⟨_, rfl⟩
    · cases destination
      exact ⟨_, rfl⟩
  obtain ⟨host, chosen⟩ := chosen
  obtain ⟨first, rest, ips⟩ := List.exists_cons_of_ne_nil answers.1
  have selected : d.selectedDest = first := by rw [chosen, ips]; rfl
  obtain ⟨address, policy⟩ := pinnedAddressesAllowed_ok answers.2 first (by simp [ips])
  refine ⟨?_, ?_, ?_⟩
  · change (ipAddress d.selectedDest).isSome
    rw [selected]
    exact address
  · change isIpAllowedForPolicy version str d.selectedDest c.allowInternal = .ok ()
    rw [selected]
    exact policy
  · intro ip
    rcases named with type | type <;> rw [type] at ip <;> cases ip

/-- The destination of an IP target, and the check it passed. -/
theorem pinned_ip (type : c.target.type = .ip)
    (h : createValidatedTarget (g.underPolicy version str) c = .ok t) :
    t.selectedDestination = pinnedText (strip c.target.value) ∧
      isIpAllowedForPolicy version str (cleanIp (strip c.target.value)) c.allowInternal =
        .ok () := by
  obtain ⟨-, secure, d, destination, -, rfl⟩ := (createValidatedTarget_ok _).mp h
  rw [type] at secure destination
  simp only [validateTargetSecurity, validateTargetIp, bind_ok, exists_unit, refuse_ok] at secure
  cases destination
  exact ⟨rfl, secure.2⟩

theorem strip_strip (s : String) : strip (strip s) = strip s := by
  simp only [strip, String.toList_ofList, stripChars_stripChars]

/-- What a validated target of a network type is pinned to is the address the policy allows and,
for an IP target, the one that was checked; for an IP target this is so exactly where what stands
before the first colon, without brackets, is a dotted IPv4 address. -/
theorem pinned_iff (type : c.target.type ∈ [TargetType.url, .domain, .ip])
    (h : createValidatedTarget (g.underPolicy version str) c = .ok t) :
    Pinned version str c t ↔
      (c.target.type = .ip →
        (ipv4OfText (pinnedText (strip c.target.value)).toList).isSome) := by
  by_cases ip : c.target.type = .ip
  · obtain ⟨selected, allowed⟩ := pinned_ip ip h
    constructor
    · intro pinned _
      -- an IPv6 text has a colon, and the pinned text has none
      have address := pinned.address
      rw [selected, ipAddress] at address
      cases v4 : ipv4OfText (pinnedText (strip c.target.value)).toList with
      | some _ => rfl
      | none =>
          rw [v4] at address
          obtain ⟨a, v6⟩ := Option.isSome_iff_exists.mp (by simpa using address)
          obtain ⟨first, rest, text, -, -⟩ := ipv6OfText_some v6
          exact absurd (by simp [text]) (pinnedText_clear (strip c.target.value))
    · intro dotted
      obtain ⟨v4, read⟩ := Option.isSome_iff_exists.mp (dotted ip)
      obtain ⟨a, checked, policy⟩ := isIpAllowedForPolicy_ok.mp allowed
      have same := pinned_eq_checked (strip_strip _) read checked
      have text : pinnedText (strip c.target.value) = strip (cleanIp (strip c.target.value)) := by
        refine String.toList_inj.mp ?_
        rw [same]
        simp only [strip, String.toList_ofList]
      refine ⟨?_, ?_, fun _ => by rw [selected, text]⟩
      · rw [selected, text, checked]
        rfl
      · rw [selected, text]
        exact isIpAllowedForPolicy_ok.mpr ⟨a, by rw [strip_strip, checked],
          isAddressAllowed_congr _ _ policy⟩
  · have named : c.target.type = .url ∨ c.target.type = .domain := by
      simpa [ip] using type
    exact ⟨fun _ other => absurd other ip, fun _ => pinned_name named h⟩

/-! ### Two targets -/

namespace Sample

/-- A host that resolves nothing. -/
def silentHost : Gateway where
  lower := id
  urlparse := fun _ => .error "ValueError"
  resolveHostnameIps := fun _ => []
  resolveAtConstruction := fun _ => []
  isIpAddress := fun _ => false
  isIpAllowedForPolicy := fun _ _ => .error "ValueError"
  validatePathSandbox := fun _ => .error "ValueError"
  abspath := id
  sha256 := id
  gatewaySeal := id
  appVersion := "1.0"

/-- An IP target. -/
def ipTarget (value : String) : CreateTargetArgs where
  target := ⟨"host", .ip, value⟩
  organizationId := "org-1"
  projectId := none
  assetId := none
  workspaceId := none
  allowInternal := false
  authorizedScope := []
  stateChangingGranted := false
  activeProbingGranted := false

/-- The gateway under the policy. -/
def policyHost : Gateway := silentHost.underPolicy .v311 fun _ => ""

/-- The validated target of an IP target. -/
def validatedIp (value : String) : ValidatedTarget :=
  sealedTarget policyHost (ipTarget value)
    ⟨[pinnedText (strip value)], pinnedText (strip value),
      if colonCount (strip value) = 1 then intOfText (afterColon (strip value)) else none, none⟩

theorem validatedIp_created {value : String}
    (secure : validateTargetSecurity policyHost .ip value false = .ok ()) :
    createValidatedTarget policyHost (ipTarget value) = .ok (validatedIp value) :=
  (createValidatedTarget_ok _).mpr ⟨rfl, secure, _, rfl, rfl, rfl⟩

end Sample

/-- An IPv4 address with a port is pinned to the address. -/
theorem pinned_iff_ipv4 :
    Pinned .v311 (fun _ => "") (Sample.ipTarget "8.8.8.8:53") (Sample.validatedIp "8.8.8.8:53") :=
  (pinned_iff (by decide) (Sample.validatedIp_created (by decide +kernel))).mpr
    fun _ => by decide +kernel

/-- A public IPv6 address is checked whole, and its first group is pinned, which is no address. -/
theorem ipv6_target_unpinned :
    ¬ ∀ (version : PythonVersion) (str : IpAddress → String) (g : Gateway) (c : CreateTargetArgs)
      (t : ValidatedTarget), c.target.type ∈ [TargetType.url, .domain, .ip] →
      createValidatedTarget (g.underPolicy version str) c = .ok t → Pinned version str c t := by
  intro claimed
  have created : createValidatedTarget Sample.policyHost (Sample.ipTarget "2606:4700:4700::1111") =
      .ok (Sample.validatedIp "2606:4700:4700::1111") :=
    Sample.validatedIp_created (by decide +kernel)
  have pinned := claimed .v311 (fun _ => "") Sample.silentHost _ _ (by decide) created
  exact absurd pinned.address (by decide +kernel)

end CyberAssess
