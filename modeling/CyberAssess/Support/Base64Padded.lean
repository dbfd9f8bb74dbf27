import CyberAssess.Support.Base64

/-!
# Support — URL-safe base64 with padding

`base64.urlsafe_b64encode`, and `base64.urlsafe_b64decode` as the library decodes: characters of
neither alphabet are skipped, and a complete group of padding ends the text.

* `encodePadded` and `decodeSkipping`; `decodeSkipping_encodePadded`: what was written is read back.

`[about ours]`: `decodeSkipping` reads both alphabets, as the translation of `-` and `_` does.
-/

namespace Base64

/-- The padding of so many bytes. -/
def padding (length : Nat) : List Char := List.replicate ((3 - length % 3) % 3) '='

/-- `base64.urlsafe_b64encode(bs)`. -/
def encodePadded (bs : List UInt8) : List Char := encode bs ++ padding bs.length

/-- The six bits of a character, in either alphabet. -/
def charBits (c : Char) : Option Nat :=
  if c = '+' then some 62 else if c = '/' then some 63 else charSextet c

/-- The decoder's loop: the place in a group of four, the bits left over, the padding just seen. -/
def decodeFrom : Nat → Nat → Nat → List Char → Option (List UInt8)
  | place, _, _, [] => if place = 0 then some [] else none
  | place, left, pads, c :: cs =>
      if c = '=' then
        if place < 2 then decodeFrom place left pads cs
        -- a complete group: what follows is not looked at
        else if 4 ≤ place + (pads + 1) then some []
        else decodeFrom place left (pads + 1) cs
      else
        match charBits c, place with
        | none, _ => decodeFrom place left pads cs
        | some n, 0 => decodeFrom 1 n 0 cs
        | some n, 1 => (decodeFrom 2 (n % 16) 0 cs).map (UInt8.ofNat (left * 4 + n / 16) :: ·)
        | some n, 2 => (decodeFrom 3 (n % 4) 0 cs).map (UInt8.ofNat (left * 16 + n / 4) :: ·)
        | some n, _ => (decodeFrom 0 0 0 cs).map (UInt8.ofNat (left * 64 + n) :: ·)

/-- `base64.urlsafe_b64decode`. -/
def decodeSkipping (cs : List Char) : Option (List UInt8) := decodeFrom 0 0 0 cs

theorem charBits_sextetChar {n : Nat} (small : n < 64) : charBits (sextetChar n) = some n := by
  have read := charSextet_sextetChar small
  have plus : sextetChar n ≠ '+' := fun h => by rw [h] at read; cases read
  have slash : sextetChar n ≠ '/' := fun h => by rw [h] at read; cases read
  rw [charBits, if_neg plus, if_neg slash, read]

theorem sextetChar_ne_pad {n : Nat} (small : n < 64) : sextetChar n ≠ '=' := by
  have read := charSextet_sextetChar small
  exact fun h => by rw [h] at read; cases read

section Groups

variable {w x y z : Nat} (hw : w < 64) (hx : x < 64) (hy : y < 64) (hz : z < 64) (cs : List Char)
include hw hx

theorem decodeFrom_two : decodeFrom 0 0 0 (sextetChar w :: sextetChar x :: cs) =
    (decodeFrom 2 (x % 16) 0 cs).map (UInt8.ofNat (w * 4 + x / 16) :: ·) := by
  simp only [decodeFrom, sextetChar_ne_pad hw, sextetChar_ne_pad hx, charBits_sextetChar hw,
    charBits_sextetChar hx, if_false]

include hy

theorem decodeFrom_three : decodeFrom 0 0 0 (sextetChar w :: sextetChar x :: sextetChar y :: cs) =
    (decodeFrom 3 (y % 4) 0 cs).map fun bs =>
      UInt8.ofNat (w * 4 + x / 16) :: UInt8.ofNat (x % 16 * 16 + y / 4) :: bs := by
  rw [decodeFrom_two hw hx]
  simp only [decodeFrom, sextetChar_ne_pad hy, charBits_sextetChar hy, if_false, Option.map_map]
  rfl

include hz

theorem decodeFrom_four :
    decodeFrom 0 0 0 (sextetChar w :: sextetChar x :: sextetChar y :: sextetChar z :: cs) =
      (decodeFrom 0 0 0 cs).map fun bs =>
        UInt8.ofNat (w * 4 + x / 16) :: UInt8.ofNat (x % 16 * 16 + y / 4) ::
          UInt8.ofNat (y % 4 * 64 + z) :: bs := by
  rw [decodeFrom_three hw hx hy]
  simp only [decodeFrom, sextetChar_ne_pad hz, charBits_sextetChar hz, if_false, Option.map_map]
  rfl

end Groups

/-- What was written is read back. -/
theorem decodeSkipping_encodePadded : ∀ bs : List UInt8,
    decodeSkipping (encodePadded bs) = some bs
  | a :: b :: c :: rest => by
      have ih := decodeSkipping_encodePadded rest
      have ha := a.toNat_lt
      have hb := b.toNat_lt
      have hc := c.toNat_lt
      have length : padding (a :: b :: c :: rest).length = padding rest.length := by
        simp only [padding, List.length_cons]
        congr 1
        omega
      rw [decodeSkipping, encodePadded, length, encode, sextets, List.map_cons, List.map_cons,
        List.map_cons, List.map_cons, List.cons_append, List.cons_append, List.cons_append,
        List.cons_append, decodeFrom_four (by omega) (by omega) (by omega) (by omega)]
      change (decodeSkipping (encodePadded rest)).map _ = _
      rw [ih, Option.map_some, ofNat_eq (a := a) (by omega), ofNat_eq (a := b) (by omega),
        ofNat_eq (a := c) (by omega)]
  | [a, b] => by
      have ha := a.toNat_lt
      have hb := b.toNat_lt
      have tail : decodeFrom 3 (b.toNat % 16 * 4 % 4) 0 ['='] = some [] := rfl
      change decodeFrom 0 0 0 (sextetChar _ :: sextetChar _ :: sextetChar _ :: ['=']) = _
      rw [decodeFrom_three (by omega) (by omega) (by omega), tail, Option.map_some,
        ofNat_eq (a := a) (by omega), ofNat_eq (a := b) (by omega)]
  | [a] => by
      have ha := a.toNat_lt
      have tail : decodeFrom 2 (a.toNat % 4 * 16 % 16) 0 ['=', '='] = some [] := rfl
      change decodeFrom 0 0 0 (sextetChar _ :: sextetChar _ :: ['=', '=']) = _
      rw [decodeFrom_two (by omega) (by omega), tail, Option.map_some, ofNat_eq (a := a) (by omega)]
  | [] => rfl

end Base64
