import Mathlib.Tactic.Common

/-!
# Support — decoding with replacement

`bytes.decode("utf-8", errors="replace")`: a byte that cannot continue what came before it ends it,
and each such beginning, like each byte that begins nothing, becomes one U+FFFD.

* `feed` takes one byte, `decodeFrom` the rest of the bytes after some.
* `decode_ascii`: text in ASCII is read as it was written.
-/

namespace Utf8

/-- U+FFFD. -/
def replacement : Char := Char.ofNat 0xFFFD

/-- Between characters, or inside one: `code` is read of it, the next byte has to lie between
`low` and `high`, and `left` more follow that one. -/
inductive State where
  | start
  | pending (code left low high : Nat)
deriving DecidableEq, Repr

/-- A byte between characters. -/
def lead (b : UInt8) : List Char × State :=
  let n := b.toNat
  if n < 0x80 then ([Char.ofNat n], .start)
  else if n < 0xC2 then ([replacement], .start)
  else if n < 0xE0 then ([], .pending (n - 0xC0) 0 0x80 0xBF)
  else if n = 0xE0 then ([], .pending 0x0 1 0xA0 0xBF)
  else if n = 0xED then ([], .pending 0xD 1 0x80 0x9F)
  else if n < 0xF0 then ([], .pending (n - 0xE0) 1 0x80 0xBF)
  else if n = 0xF0 then ([], .pending 0x0 2 0x90 0xBF)
  else if n < 0xF4 then ([], .pending (n - 0xF0) 2 0x80 0xBF)
  else if n = 0xF4 then ([], .pending 0x4 2 0x80 0x8F)
  else ([replacement], .start)

/-- The characters one byte completes, and the state after it. -/
def feed : State → UInt8 → List Char × State
  | .start, b => lead b
  | .pending code left low high, b =>
      if low ≤ b.toNat && b.toNat ≤ high then
        match left with
        | 0 => ([Char.ofNat (64 * code + (b.toNat - 0x80))], .start)
        | left + 1 => ([], .pending (64 * code + (b.toNat - 0x80)) left 0x80 0xBF)
      else (replacement :: (lead b).1, (lead b).2)

/-- The characters of the bytes after `s`. -/
def decodeFrom : State → List UInt8 → List Char
  | .start, [] => []
  | .pending .., [] => [replacement]
  | s, b :: bs => (feed s b).1 ++ decodeFrom (feed s b).2 bs

/-- `bs.decode("utf-8", errors="replace")`. -/
def decode (bs : List UInt8) : String := String.ofList (decodeFrom .start bs)

@[simp] theorem decode_nil : decode [] = "" := rfl

/-- The bytes of a text in ASCII. -/
def asciiBytes (cs : List Char) : List UInt8 := cs.map fun c => UInt8.ofNat c.toNat

/-- An ASCII byte between characters is its character. -/
theorem feed_ascii {c : Char} (h : c.toNat < 0x80) :
    feed .start (UInt8.ofNat c.toNat) = ([c], .start) := by
  have byte : (UInt8.ofNat c.toNat).toNat = c.toNat := by
    rw [UInt8.toNat_ofNat']
    exact Nat.mod_eq_of_lt (by omega)
  simp only [feed, lead, byte, if_pos h, Char.ofNat_toNat]

theorem decodeFrom_ascii {cs : List Char} (h : ∀ c ∈ cs, c.toNat < 0x80) :
    decodeFrom .start (asciiBytes cs) = cs := by
  induction cs with
  | nil => rfl
  | cons c cs ih =>
      have rest := ih fun d hd => h d (List.mem_cons_of_mem c hd)
      have first := feed_ascii (h c List.mem_cons_self)
      simp only [asciiBytes, List.map_cons, decodeFrom, first] at rest ⊢
      rw [rest]
      rfl

/-- **ASCII text is read as it was written.** -/
theorem decode_ascii {s : String} (h : ∀ c ∈ s.toList, c.toNat < 0x80) :
    decode (asciiBytes s.toList) = s := by
  rw [decode, decodeFrom_ascii h, String.ofList_toList]

end Utf8
