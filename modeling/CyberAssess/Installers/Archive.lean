import CyberAssess.Installers.Payload
import CyberAssess.Support.FileTree

/-!
# Installers — archives of the format newc

What a package builder writes, for comparison with what `_extract_rpm_payload` reads.

* `hexField` is a number in digits; `intHex_hexField` reads it back.
* `Member` is an executable, a file or a directory of the package, `Member.entry` its entry.
* `archive` is an archive of members, up to its trailer.

`[about ours]`: entries are those of root. The field that the extraction takes for the number of links is
that of the owner.
-/

namespace CyberAssess.Payload

open FileTree (utf8 RelPath joined)

/-! ### Fields -/

/-- The byte of a digit. -/
def digitByte (n : Nat) : UInt8 := if n < 10 then UInt8.ofNat (48 + n) else UInt8.ofNat (87 + n)

/-- The last `k` digits of a number. -/
def hexField : Nat → Nat → Bytes
  | 0, _ => []
  | k + 1, n => hexField k (n / 16) ++ [digitByte (n % 16)]

@[simp] theorem length_hexField (k n : Nat) : (hexField k n).length = k := by
  induction k generalizing n with
  | zero => rfl
  | succ k ih => simp [hexField, ih]

theorem hexByte_digitByte {n : Nat} (h : n < 16) : hexByte (digitByte n) = some n := by
  have all : ∀ i : Fin 16, hexByte (digitByte i.val) = some i.val := by decide
  exact all ⟨n, h⟩

/-- A byte of a field is a digit. -/
theorem digit_of_mem {k n : Nat} {b : UInt8} (h : b ∈ hexField k n) :
    ∃ d < 16, b = digitByte d := by
  induction k generalizing n with
  | zero => cases h
  | succ k ih =>
      rcases List.mem_append.mp h with front | last
      · exact ih front
      · exact ⟨n % 16, Nat.mod_lt _ (by decide), List.mem_singleton.mp last⟩

theorem hexDigits_append {bare : Bool} {value n d : Nat} {bs : Bytes} (h : d < 16)
    (front : hexDigits bare value bs = some n) (given : bs ≠ [] ∨ bare = false) :
    hexDigits bare value (bs ++ [digitByte d]) = some (16 * n + d) := by
  induction bs generalizing bare value with
  | nil =>
      rcases given with absurd | rfl
      · cases absurd rfl
      · rw [hexDigits] at front
        obtain rfl := Option.some.inj front
        simp [hexDigits, hexByte_digitByte h]
  | cons b bs ih =>
      rw [List.cons_append, hexDigits]
      rw [hexDigits] at front
      cases digit : hexByte b with
      | some v =>
          rw [digit] at front
          exact ih front (.inr rfl)
      | none =>
          rw [digit] at front
          dsimp only at front ⊢
          split at front
          · rename_i underscore
            rw [if_pos underscore]
            refine ih front (.inl ?_)
            rintro rfl
            cases front
          · cases front

/-- A field is read as the number that was written. -/
theorem hexDigits_hexField {k n : Nat} (h : n < 16 ^ (k + 1)) :
    hexDigits true 0 (hexField (k + 1) n) = some n := by
  induction k generalizing n with
  | zero =>
      have small : n < 16 := by simpa using h
      simp [hexField, hexDigits, Nat.mod_eq_of_lt small, hexByte_digitByte small]
  | succ k ih =>
      have front : n / 16 < 16 ^ (k + 1) := Nat.div_lt_of_lt_mul (by rwa [← pow_succ'])
      rw [hexField]
      have given : hexField (k + 1) (n / 16) ≠ [] := by
        intro empty
        have length := congrArg List.length empty
        rw [length_hexField] at length
        cases length
      rw [hexDigits_append (Nat.mod_lt n (by decide)) (ih front) (.inl given), Nat.div_add_mod]

theorem digitByte_facts {d : Nat} (h : d < 16) : isSpaceByte (digitByte d) = false ∧
    digitByte d ≠ 43 ∧ digitByte d ≠ 45 ∧ digitByte d ≠ 120 ∧ digitByte d ≠ 88 := by
  have all : ∀ i : Fin 16, isSpaceByte (digitByte i.val) = false ∧ digitByte i.val ≠ 43 ∧
      digitByte i.val ≠ 45 ∧ digitByte i.val ≠ 120 ∧ digitByte i.val ≠ 88 := by decide
  exact all ⟨d, h⟩

/-- Digits alone have no prefix. -/
theorem hexUnsigned_digits {bs : Bytes} (digits : ∀ b ∈ bs, ∃ d < 16, b = digitByte d) :
    hexUnsigned bs = hexDigits true 0 bs := by
  have plain : ∀ b ∈ bs, b ≠ 120 ∧ b ≠ 88 := by
    intro b member
    obtain ⟨d, small, rfl⟩ := digits b member
    exact (digitByte_facts small).2.2.2
  unfold hexUnsigned
  split
  · exact absurd rfl (plain 120 (by simp)).1
  · exact absurd rfl (plain 88 (by simp)).2
  · exact absurd rfl (plain 120 (by simp)).1
  · exact absurd rfl (plain 88 (by simp)).2
  · rfl

theorem intHex_digits {bs : Bytes} (digits : ∀ b ∈ bs, ∃ d < 16, b = digitByte d) :
    intHex bs = (hexDigits true 0 bs).map Int.ofNat := by
  have plain : ∀ b ∈ bs, isSpaceByte b = false ∧ b ≠ 43 ∧ b ≠ 45 := by
    intro b member
    obtain ⟨d, small, rfl⟩ := digits b member
    obtain ⟨space, plus, minus, -⟩ := digitByte_facts small
    exact ⟨space, plus, minus⟩
  have stripped : (bs.dropWhile isSpaceByte).rdropWhile isSpaceByte = bs := by
    have front : bs.dropWhile isSpaceByte = bs := by
      cases bs with
      | nil => rfl
      | cons b bs => simp [List.dropWhile, (plain b (by simp)).1]
    rw [front, List.rdropWhile_eq_self_iff]
    intro given
    simp [(plain _ (List.getLast_mem given)).1]
  rw [intHex, stripped]
  split
  · exact absurd rfl (plain 43 (by simp)).2.1
  · exact absurd rfl (plain 45 (by simp)).2.2
  · rw [hexUnsigned_digits digits]

theorem intHex_hexField {n : Nat} (h : n < 16 ^ 8) : intHex (hexField 8 n) = some (n : Int) := by
  rw [intHex_digits fun b member => digit_of_mem member, hexDigits_hexField h]
  rfl

/-! ### Archives -/

/-- What is archived. -/
inductive Member where
  | binary (content : Bytes)
  | resource (path : RelPath) (content : Bytes) (executable : Bool)
  | directory (path : RelPath)

namespace Member

/-- The names from the root of the package on. -/
def names : Member → List String
  | binary _ => ["usr", "bin", "nmap"]
  | resource path _ _ | directory path => "usr" :: "share" :: "nmap" :: path.parts

/-- The name in the archive. -/
def name (m : Member) : List Char := ['.', '/'] ++ joined m.names

/-- What is in it. -/
def content : Member → Bytes
  | binary content | resource _ content _ => content
  | directory _ => []

/-- The type and the permissions. -/
def mode : Member → Nat
  | binary _ => 0o100755
  | resource _ _ executable => if executable then 0o100755 else 0o100644
  | directory _ => 0o040755

end Member

/-- The header of an entry that root owns, with one link. -/
def newcHeader (mode filesize namesize : Nat) : Bytes :=
  [48, 55, 48, 55, 48, 49] ++
    ([0, mode, 0, 0, 1, 0, filesize, 0, 0, 0, 0, namesize, 0] : List Nat).flatMap (hexField 8)

/-- Zeros up to the next length that four divides. -/
def padded (bs : Bytes) : Bytes := bs ++ List.replicate ((4 - bs.length % 4) % 4) 0

/-- The bytes of a name. -/
def nameBytes (name : List Char) : Bytes := utf8 (String.ofList name)

/-- The header and the name of an entry. -/
def newcFront (mode : Nat) (name : List Char) (content : Bytes) : Bytes :=
  newcHeader mode content.length ((nameBytes name).length + 1) ++ (nameBytes name ++ [0])

/-- An entry of an archive. -/
def newcEntry (mode : Nat) (name : List Char) (content : Bytes) : Bytes :=
  padded (newcFront mode name content) ++ padded content

/-- The name of the last entry. -/
def trailerName : List Char := ['T', 'R', 'A', 'I', 'L', 'E', 'R', '!', '!', '!']

/-- The entry of a member. -/
def Member.entry (m : Member) : Bytes := newcEntry m.mode m.name m.content

/-- An archive of members. -/
def archive (ms : List Member) : Bytes := ms.flatMap Member.entry ++ newcEntry 0 trailerName []

end CyberAssess.Payload
