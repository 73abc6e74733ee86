import Mathlib.Data.List.Basic

/-!
# Authenticated encryption

A cipher seals a text under a key and a nonce into a ciphertext and a tag.  What is opened has been
sealed with the same ciphertext, and the ciphertext fixes the text; a tag may still be opened in
another form than the one it was made in.  That ciphertexts cannot be forged is said of a run, as
for message tags.
-/

set_option autoImplicit false

namespace Ciphers

variable {κ ν μ γ τ σ ε : Type}

structure Cipher (κ ν μ γ τ ε : Type) where
  encipher : κ → ν → μ → Except ε (γ × τ)
  decipher : κ → ν → τ → γ → Except ε μ
  decipher_encipher : ∀ {key nonce plain sealed tag}, encipher key nonce plain = .ok (sealed, tag) →
    decipher key nonce tag sealed = .ok plain
  encipher_decipher : ∀ {key nonce tag sealed plain}, decipher key nonce tag sealed = .ok plain →
    ∃ full, encipher key nonce plain = .ok (sealed, full)
  encipher_injective : ∀ {key nonce plain other sealed tag full},
    encipher key nonce plain = .ok (sealed, tag) → encipher key nonce other = .ok (sealed, full) →
      plain = other

inductive Event (κ ν μ γ τ : Type) where
  | sealed (key : κ) (nonce : ν) (plain : μ)
  | opened (key : κ) (nonce : ν) (tag : τ) (ciphertext : γ)

/-- What opens was sealed before, under the same key and nonce and with the same ciphertext. -/
def Unforgeable (cipher : Cipher κ ν μ γ τ ε) (run : List (Event κ ν μ γ τ)) : Prop :=
  ∀ (before after : List (Event κ ν μ γ τ)) (key : κ) (nonce : ν) (tag : τ) (ciphertext : γ)
    (found : μ), run = before ++ .opened key nonce tag ciphertext :: after →
      cipher.decipher key nonce tag ciphertext = .ok found →
        ∃ plain full, .sealed key nonce plain ∈ before ∧
          cipher.encipher key nonce plain = .ok (ciphertext, full)

theorem Unforgeable.sealed {cipher : Cipher κ ν μ γ τ ε} {event : σ → Event κ ν μ γ τ}
    {history : List σ} (unforgeable : Unforgeable cipher (history.map event))
    {past future : List σ} {step : σ} (split : history = past ++ step :: future) {key : κ}
    {nonce : ν} {tag : τ} {ciphertext : γ} {found : μ}
    (opens : event step = .opened key nonce tag ciphertext)
    (accepted : cipher.decipher key nonce tag ciphertext = .ok found) :
    ∃ earlier ∈ past, event earlier = .sealed key nonce found := by
  have order : history.map event =
      past.map event ++ .opened key nonce tag ciphertext :: future.map event := by
    rw [split, List.map_append, List.map_cons, opens]
  obtain ⟨plain, full, member, sealed⟩ := unforgeable _ _ _ _ _ _ _ order accepted
  obtain ⟨whole, again⟩ := cipher.encipher_decipher accepted
  rw [← cipher.encipher_injective sealed again]
  exact List.mem_map.mp member

theorem unforgeable_of_sealed {cipher : Cipher κ ν μ γ τ ε} {event : σ → Event κ ν μ γ τ}
    {history : List σ}
    (honest : ∀ (past future : List σ) (step : σ) (key : κ) (nonce : ν) (tag : τ)
      (ciphertext : γ), history = past ++ step :: future →
        event step = .opened key nonce tag ciphertext →
          ∃ earlier ∈ past, ∃ plain full, event earlier = .sealed key nonce plain ∧
            cipher.encipher key nonce plain = .ok (ciphertext, full)) :
    Unforgeable cipher (history.map event) := by
  intro before after key nonce tag ciphertext found order accepted
  obtain ⟨past, rest, split, first, second⟩ := List.map_eq_append_iff.mp order
  obtain ⟨step, future, rfl, opens, _⟩ := List.map_eq_cons_iff.mp second
  obtain ⟨earlier, member, plain, full, was, sealed⟩ :=
    honest past future step key nonce tag ciphertext split opens
  refine ⟨plain, full, ?_, sealed⟩
  rw [← first]
  exact List.mem_map.mpr ⟨earlier, member, was⟩

end Ciphers
