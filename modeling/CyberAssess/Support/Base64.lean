import Mathlib.Tactic.Common

/-!
# Support — URL-safe base64 without padding

`base64.urlsafe_b64encode(bs).rstrip("=")`, and `b64decode` of such a text: three bytes are four
characters of six bits each, and what is left over is two or three.

* `encode` and `decode`; `decode_encode`: what was written is read back.

`[about ours]`: the bits that are left over at the end are not looked at, as the decoder does not.
-/

namespace Base64

/-- The character of six bits. -/
def sextetChar (n : Nat) : Char :=
  if n < 26 then Char.ofNat (65 + n)
  else if n < 52 then Char.ofNat (71 + n)
  else if n < 62 then Char.ofNat (n - 4)
  else if n = 62 then '-'
  else '_'

/-- The six bits of a character: `[A-Za-z0-9_-]`. -/
def charSextet (c : Char) : Option Nat :=
  let n := c.toNat
  if 65 ≤ n && n ≤ 90 then some (n - 65)
  else if 97 ≤ n && n ≤ 122 then some (n - 71)
  else if 48 ≤ n && n ≤ 57 then some (n + 4)
  else if c = '-' then some 62
  else if c = '_' then some 63
  else none

/-- The bytes, six bits at a time. -/
def sextets : List UInt8 → List Nat
  | a :: b :: c :: rest =>
      a.toNat / 4 :: (a.toNat % 4 * 16 + b.toNat / 16) :: (b.toNat % 16 * 4 + c.toNat / 64) ::
        c.toNat % 64 :: sextets rest
  | [a, b] => [a.toNat / 4, a.toNat % 4 * 16 + b.toNat / 16, b.toNat % 16 * 4]
  | [a] => [a.toNat / 4, a.toNat % 4 * 16]
  | [] => []

/-- The bytes of six bits at a time: one that is left over alone is no byte. -/
def bytesOf : List Nat → Option (List UInt8)
  | w :: x :: y :: z :: rest =>
      (bytesOf rest).map fun bs =>
        UInt8.ofNat (w * 4 + x / 16) :: UInt8.ofNat (x % 16 * 16 + y / 4) ::
          UInt8.ofNat (y % 4 * 64 + z) :: bs
  | [w, x, y] => some [UInt8.ofNat (w * 4 + x / 16), UInt8.ofNat (x % 16 * 16 + y / 4)]
  | [w, x] => some [UInt8.ofNat (w * 4 + x / 16)]
  | [_] => none
  | [] => some []

/-- `base64.urlsafe_b64encode(bs)`, its padding stripped. -/
def encode (bs : List UInt8) : List Char := (sextets bs).map sextetChar

/-- `base64.b64decode` of a text, its padding put back. -/
def decode (cs : List Char) : Option (List UInt8) := (cs.mapM charSextet).bind bytesOf

theorem charSextet_sextetChar {n : Nat} (small : n < 64) : charSextet (sextetChar n) = some n :=
  (by decide : ∀ i : Fin 64, charSextet (sextetChar i.val) = some i.val) ⟨n, small⟩

theorem sextets_lt : ∀ bs : List UInt8, ∀ n ∈ sextets bs, n < 64
  | a :: b :: c :: rest => by
      have ha := a.toNat_lt
      have hb := b.toNat_lt
      have hc := c.toNat_lt
      have others := sextets_lt rest
      simp only [sextets, List.forall_mem_cons]
      exact ⟨by omega, by omega, by omega, by omega, others⟩
  | [a, b] => by
      have ha := a.toNat_lt
      have hb := b.toNat_lt
      simp only [sextets, List.forall_mem_cons, List.not_mem_nil, false_implies, implies_true]
      exact ⟨by omega, by omega, by omega, trivial⟩
  | [a] => by
      have ha := a.toNat_lt
      simp only [sextets, List.forall_mem_cons, List.not_mem_nil, false_implies, implies_true]
      exact ⟨by omega, by omega, trivial⟩
  | [] => by simp [sextets]

theorem ofNat_eq {n : Nat} {a : UInt8} (same : n = a.toNat) : UInt8.ofNat n = a := by
  rw [same, UInt8.ofNat_toNat]

theorem bytesOf_sextets : ∀ bs : List UInt8, bytesOf (sextets bs) = some bs
  | a :: b :: c :: rest => by
      have hb := b.toNat_lt
      have hc := c.toNat_lt
      rw [sextets, bytesOf, bytesOf_sextets rest, Option.map_some, ofNat_eq (a := a) (by omega),
        ofNat_eq (a := b) (by omega), ofNat_eq (a := c) (by omega)]
  | [a, b] => by
      have hb := b.toNat_lt
      rw [sextets, bytesOf, ofNat_eq (a := a) (by omega), ofNat_eq (a := b) (by omega)]
  | [a] => by rw [sextets, bytesOf, ofNat_eq (a := a) (by omega)]
  | [] => rfl

theorem mapM_charSextet {ns : List Nat} (small : ∀ n ∈ ns, n < 64) :
    (ns.map sextetChar).mapM charSextet = some ns := by
  induction ns with
  | nil => rfl
  | cons n ns ih =>
      obtain ⟨first, rest⟩ := List.forall_mem_cons.mp small
      rw [List.map_cons, List.mapM_cons, charSextet_sextetChar first, ih rest]
      rfl

/-- What was written is read back. -/
theorem decode_encode (bs : List UInt8) : decode (encode bs) = some bs := by
  rw [decode, encode, mapM_charSextet (sextets_lt bs), Option.bind_some, bytesOf_sextets]

/-- It is written in the alphabet. -/
theorem encode_alphabet (bs : List UInt8) : ∀ c ∈ encode bs, (charSextet c).isSome = true := by
  intro c hc
  obtain ⟨n, hn, rfl⟩ := List.mem_map.mp hc
  rw [charSextet_sextetChar (sextets_lt bs n hn), Option.isSome_some]

theorem encode_ne_nil {bs : List UInt8} (full : bs ≠ []) : encode bs ≠ [] := by
  match bs with
  | [] => exact absurd rfl full
  | [a] => simp [encode, sextets]
  | [a, b] => simp [encode, sextets]
  | a :: b :: c :: rest => simp [encode, sextets]

end Base64
