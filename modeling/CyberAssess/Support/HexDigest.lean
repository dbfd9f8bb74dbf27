import Mathlib
import CyberAssess.Support.Json

/-!
# Support — digests in hexadecimal

The text of a 256-bit digest: 64 lower-case hexadecimal digits.

* `hexText` writes the last digits of a number, `length_hexText` and `all_hexText` say what is written,
  `hexText_inj` that the number can be read back.
* `Digest` is a digest, `Digest.hex` its text and `Digest.bytes` its bytes; no two digests share either
  (`Digest.hex_inj`, `Digest.bytes_inj`).
-/

namespace Python

/-- `[0-9a-f]`. -/
def isHex (c : Char) : Bool := c.isDigit || ('a' ≤ c && c ≤ 'f')

/-- The last `k` hexadecimal digits of a number. -/
def hexText : Nat → Nat → List Char
  | 0, _ => []
  | k + 1, n => hexText k (n / 16) ++ [hexDigit (n % 16)]

@[simp] theorem length_hexText (k n : Nat) : (hexText k n).length = k := by
  induction k generalizing n with
  | zero => rfl
  | succ k ih => simp [hexText, ih]

theorem isHex_hexDigit {n : Nat} (h : n < 16) : isHex (hexDigit n) = true := by
  have all : ∀ i : Fin 16, isHex (hexDigit i.val) = true := by decide
  exact all ⟨n, h⟩

theorem hexDigit_inj {n m : Nat} (hn : n < 16) (hm : m < 16) (same : hexDigit n = hexDigit m) :
    n = m := by
  have all : ∀ i j : Fin 16, hexDigit i.val = hexDigit j.val → i = j := by decide
  exact Fin.mk.inj_iff.mp (all ⟨n, hn⟩ ⟨m, hm⟩ same)

@[simp] theorem all_hexText (k n : Nat) : (hexText k n).all isHex = true := by
  induction k generalizing n with
  | zero => rfl
  | succ k ih =>
      have digit : isHex (hexDigit (n % 16)) = true := isHex_hexDigit (Nat.mod_lt _ (by decide))
      simp [hexText, ih, digit]

/-- A number is known from enough of its digits. -/
theorem hexText_inj {k n m : Nat} (hn : n < 16 ^ k) (hm : m < 16 ^ k)
    (same : hexText k n = hexText k m) : n = m := by
  induction k generalizing n m with
  | zero =>
      rw [pow_zero, Nat.lt_one_iff] at hn hm
      rw [hn, hm]
  | succ k ih =>
      obtain ⟨front, last⟩ := List.append_inj' same rfl
      have digits : n % 16 = m % 16 :=
        hexDigit_inj (Nat.mod_lt _ (by decide)) (Nat.mod_lt _ (by decide)) (List.cons.inj last).1
      have rest : n / 16 = m / 16 :=
        ih (Nat.div_lt_of_lt_mul (by rwa [pow_succ'] at hn))
          (Nat.div_lt_of_lt_mul (by rwa [pow_succ'] at hm)) front
      rw [← Nat.div_add_mod n 16, rest, digits, Nat.div_add_mod]

/-- A SHA-256. -/
abbrev Digest := BitVec 256

/-- `hexdigest()`. -/
def Digest.hex (d : Digest) : String := String.ofList (hexText 64 d.toNat)

@[simp] theorem Digest.toList_hex (d : Digest) : d.hex.toList = hexText 64 d.toNat := by
  simp [Digest.hex]

/-- No two digests share a text. -/
theorem Digest.hex_inj {d e : Digest} (same : d.hex = e.hex) : d = e := by
  have digits : hexText 64 d.toNat = hexText 64 e.toNat := by
    rw [← Digest.toList_hex, ← Digest.toList_hex, same]
  exact BitVec.eq_of_toNat_eq (hexText_inj (by simpa using d.isLt) (by simpa using e.isLt) digits)

/-- The last `k` bytes of a number, the highest first. -/
def bytesOf : Nat → Nat → List UInt8
  | 0, _ => []
  | k + 1, n => bytesOf k (n / 256) ++ [UInt8.ofNat (n % 256)]

@[simp] theorem length_bytesOf (k n : Nat) : (bytesOf k n).length = k := by
  induction k generalizing n with
  | zero => rfl
  | succ k ih => simp [bytesOf, ih]

/-- A number is known from enough of its bytes. -/
theorem bytesOf_inj {k n m : Nat} (hn : n < 256 ^ k) (hm : m < 256 ^ k)
    (same : bytesOf k n = bytesOf k m) : n = m := by
  induction k generalizing n m with
  | zero =>
      rw [pow_zero, Nat.lt_one_iff] at hn hm
      rw [hn, hm]
  | succ k ih =>
      obtain ⟨front, last⟩ := List.append_inj' same rfl
      have low : n % 256 = m % 256 := by
        have bytes := congrArg UInt8.toNat (List.cons.inj last).1
        rwa [UInt8.toNat_ofNat', UInt8.toNat_ofNat', Nat.mod_mod, Nat.mod_mod] at bytes
      have high : n / 256 = m / 256 :=
        ih (Nat.div_lt_of_lt_mul (by rwa [pow_succ'] at hn))
          (Nat.div_lt_of_lt_mul (by rwa [pow_succ'] at hm)) front
      rw [← Nat.div_add_mod n 256, high, low, Nat.div_add_mod]

/-- `digest()`. -/
def Digest.bytes (d : Digest) : List UInt8 := bytesOf 32 d.toNat

@[simp] theorem Digest.length_bytes (d : Digest) : d.bytes.length = 32 := length_bytesOf 32 d.toNat

theorem Digest.bytes_inj {d e : Digest} (same : d.bytes = e.bytes) : d = e :=
  BitVec.eq_of_toNat_eq (bytesOf_inj (by simpa using d.isLt) (by simpa using e.isLt) same)

end Python
