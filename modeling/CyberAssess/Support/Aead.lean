import Mathlib.Tactic.Common

/-!
# Support — ideal authenticated encryption

A cipher with associated data under one key, and what is assumed of it when it is taken as ideal.

* `Sealing` is one encryption; `Cipher.Ideal` is relative to the sealings made under the key.
* `Cipher.Ideal.opened`: what opens a sealing's ciphertext is its own associated data.
* `Cipher.ledger` opens what is recorded; `ledger_ideal`: it is ideal, where no two sealings share a
  nonce and a ciphertext.
-/

namespace Aead

/-- What one encryption takes. -/
structure Sealing where
  nonce : List UInt8
  payload : List UInt8
  aad : List UInt8
deriving DecidableEq, Repr

/-- The two directions under one key; decryption may find the tag invalid. -/
structure Cipher where
  encrypt : Sealing → List UInt8
  decrypt : (nonce ciphertext aad : List UInt8) → Option (List UInt8)

/-- Ideal for the sealings made: each carries a tag and is opened again, nothing else is opened, and
a ciphertext binds the associated data it was made under. -/
structure Cipher.Ideal (c : Cipher) (made : List Sealing) : Prop where
  tagged : ∀ s ∈ made, 16 ≤ (c.encrypt s).length
  opens : ∀ s ∈ made, c.decrypt s.nonce (c.encrypt s) s.aad = some s.payload
  authentic : ∀ {nonce ciphertext aad payload}, c.decrypt nonce ciphertext aad = some payload →
    ∃ s ∈ made, s.nonce = nonce ∧ c.encrypt s = ciphertext ∧ s.aad = aad
  binding : ∀ s ∈ made, ∀ t ∈ made, s.nonce = t.nonce → c.encrypt s = c.encrypt t → s.aad = t.aad

variable {c : Cipher} {made : List Sealing}

/-- A sealing's ciphertext is opened under its own associated data, to its own payload. -/
theorem Cipher.Ideal.opened (ideal : c.Ideal made) {s : Sealing} (hs : s ∈ made)
    {aad payload : List UInt8} (h : c.decrypt s.nonce (c.encrypt s) aad = some payload) :
    aad = s.aad ∧ payload = s.payload := by
  obtain ⟨t, ht, nonce, ciphertext, rfl⟩ := ideal.authentic h
  have same := ideal.binding t ht s hs nonce ciphertext
  have own := ideal.opens s hs
  rw [same, own] at h
  exact ⟨same, (Option.some.inj h).symm⟩

/-- The cipher that opens what is recorded. -/
def Cipher.ledger (encrypt : Sealing → List UInt8) (made : List Sealing) : Cipher where
  encrypt := encrypt
  decrypt nonce ciphertext aad :=
    (made.find? fun s => s.nonce = nonce && encrypt s = ciphertext && s.aad = aad).map (·.payload)

theorem ledger_ideal {encrypt : Sealing → List UInt8} (tagged : ∀ s ∈ made, 16 ≤ (encrypt s).length)
    (apart : ∀ s ∈ made, ∀ t ∈ made, s.nonce = t.nonce → encrypt s = encrypt t → s = t) :
    (Cipher.ledger encrypt made).Ideal made where
  tagged := tagged
  opens s hs := by
    have found : (made.find? fun t =>
        t.nonce = s.nonce && encrypt t = encrypt s && t.aad = s.aad).isSome = true :=
      List.find?_isSome.mpr ⟨s, hs, by simp⟩
    obtain ⟨t, ht⟩ := Option.isSome_iff_exists.mp found
    have matched := List.find?_some ht
    simp only [Bool.and_eq_true, decide_eq_true_eq] at matched
    have same := apart t (List.mem_of_find?_eq_some ht) s hs matched.1.1 matched.1.2
    rw [same] at ht
    exact congrArg (Option.map _) ht
  authentic h := by
    obtain ⟨s, hs, -⟩ := Option.map_eq_some_iff.mp h
    have matched := List.find?_some hs
    simp only [Bool.and_eq_true, decide_eq_true_eq] at matched
    exact ⟨s, List.mem_of_find?_eq_some hs, matched.1.1, matched.1.2, matched.2⟩
  binding s hs t ht nonce ciphertext := congrArg Sealing.aad (apart s hs t ht nonce ciphertext)

end Aead
