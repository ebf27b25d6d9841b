import Mathlib.Data.List.Basic

/-!
# Signed tokens

A signer turns claims into a text with a secret, and finds the claims again in the text with
the same secret only. Tokens expire: `verify` accepts a text before the time in its claims.

Nothing keeps a stranger from presenting a text that nobody has issued. `IsUnforged` says of
a text that it can only be checked if it is an issued token; of such a text, `verify_iff`
says exactly when it is accepted.
-/

namespace Library

/-- Signing with a secret, and checking a signature with one. -/
structure Signer (Secret Claims Text : Type) where
  sign : Secret → Claims → Text
  check : Secret → Text → Option Claims

/-- A signature is accepted with the secret that it was made with, and with no other. -/
structure Signer.Lawful {Secret Claims Text : Type} (signer : Signer Secret Claims Text) :
    Prop where
  check_sign : ∀ secret claims, signer.check secret (signer.sign secret claims) = some claims
  check_other : ∀ secret other claims, secret ≠ other →
    signer.check other (signer.sign secret claims) = none

/-- What a token says: whom it is about, and the times between which it is good. -/
structure Claims (Subject : Type) where
  subject : Subject
  issuedAt : Nat
  expiresAt : Nat
  deriving DecidableEq, Repr

/-- Claims that were signed, and the secret. -/
structure Signed (Secret Subject : Type) where
  secret : Secret
  claims : Claims Subject
  deriving DecidableEq, Repr

namespace Signer

variable {Secret Subject Text : Type} (signer : Signer Secret (Claims Subject) Text)

/-- The text of a signed token. -/
def text (signed : Signed Secret Subject) : Text :=
  signer.sign signed.secret signed.claims

/-- The claims of a token that is accepted at a time. -/
def verify (now : Nat) (secret : Secret) (text : Text) : Option (Claims Subject) :=
  (signer.check secret text).filter fun claims => now < claims.expiresAt

/-- A text that carries a signature is an issued token. -/
def IsUnforged (issued : List (Signed Secret Subject)) (text : Text) : Prop :=
  ∀ secret claims, signer.check secret text = some claims →
    ∃ signed ∈ issued, signer.text signed = text

variable {signer} {issued later : List (Signed Secret Subject)} {text : Text} {secret : Secret}
  {claims : Claims Subject} {signed : Signed Secret Subject} {now : Nat}

theorem IsUnforged.mono (h : signer.IsUnforged issued text) (hlater : ∀ signed ∈ issued,
    signed ∈ later) : signer.IsUnforged later text := by
  intro secret claims hcheck
  obtain ⟨signed, hissued, htext⟩ := h secret claims hcheck
  exact ⟨signed, hlater signed hissued, htext⟩

/-- An issued token was signed with the secret with which it can be checked. -/
theorem Lawful.of_check (laws : signer.Lawful)
    (h : signer.check secret (signer.text signed) = some claims) : signed = ⟨secret, claims⟩ := by
  obtain ⟨secret', claims'⟩ := signed
  by_cases hsecret : secret' = secret
  · subst hsecret
    have hsame : signer.check secret' (signer.sign secret' claims') = some claims' :=
      laws.check_sign secret' claims'
    obtain rfl : claims' = claims := Option.some.inj (hsame.symm.trans h)
    rfl
  · have hnone : signer.check secret (signer.sign secret' claims') = none :=
      laws.check_other secret' secret claims' hsecret
    exact nomatch hnone.symm.trans h

/-- A text that was not forged is accepted exactly if it is an issued token of the secret that has
not expired. -/
theorem Lawful.verify_iff (laws : signer.Lawful) (h : signer.IsUnforged issued text) :
    signer.verify now secret text = some claims ↔
      ⟨secret, claims⟩ ∈ issued ∧ signer.text ⟨secret, claims⟩ = text ∧ now < claims.expiresAt := by
  rw [verify, Option.filter_eq_some_iff, decide_eq_true_eq]
  constructor
  · rintro ⟨hcheck, hnow⟩
    obtain ⟨signed, hissued, rfl⟩ := h secret claims hcheck
    obtain rfl := laws.of_check hcheck
    exact ⟨hissued, rfl, hnow⟩
  · rintro ⟨-, rfl, hnow⟩
    exact ⟨laws.check_sign secret claims, hnow⟩

end Signer

end Library
