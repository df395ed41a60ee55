import Mathlib.Data.Option.Basic
import Mathlib.Logic.Function.Basic
import Mathlib.Tactic.Common

/-!
# Ideal signatures

What has been signed under a secret is recognised under that secret, and nothing else is.

* `SignatureScheme` : signing and recognising.
* `SignatureScheme.Unforged` : whoever presents a text cannot sign.
* `SignatureScheme.ofLeftInverse` : a text that can be read back is a scheme.
-/

namespace HrBooking

/-- Claims are signed under secrets; a text shows what has been signed and under which secret. -/
structure SignatureScheme (Secret Claims Text : Type*) where
  sign : Secret → Claims → Text
  verify : Secret → Text → Option Claims
  verify_eq_some : ∀ {k t c}, verify k t = some c ↔ sign k c = t
  secret_unique : ∀ {k k' c c'}, sign k c = sign k' c' → k = k'

namespace SignatureScheme

variable {Secret Claims Text : Type*} (σ : SignatureScheme Secret Claims Text)
  {k k' : Secret} {c c' : Claims} {t : Text}

@[simp] theorem verify_sign : σ.verify k (σ.sign k c) = some c := σ.verify_eq_some.2 rfl

theorem claims_unique (h : σ.sign k c = σ.sign k' c') : c = c' := by
  obtain rfl := σ.secret_unique h
  have hverify := σ.verify_eq_some.2 h.symm
  rw [verify_sign] at hverify
  exact Option.some.inj hverify

theorem verify_sign_eq_some :
    σ.verify k (σ.sign k' c') = some c ↔ k = k' ∧ c = c' := by
  rw [σ.verify_eq_some]
  constructor
  · exact fun h => ⟨σ.secret_unique h, σ.claims_unique h⟩
  · rintro ⟨rfl, rfl⟩
    rfl

/-- Whatever a text is recognised as has been issued. -/
def Unforged (issued : Secret → Claims → Prop) (t : Text) : Prop :=
  ∀ k c, σ.verify k t = some c → issued k c

theorem unforged_sign {issued : Secret → Claims → Prop} (h : issued k c) :
    σ.Unforged issued (σ.sign k c) := by
  intro k' c' hverify
  obtain ⟨rfl, rfl⟩ := σ.verify_sign_eq_some.1 hverify
  exact h

/-- A text from which secret and claims can be read. -/
def ofLeftInverse [DecidableEq Secret] [DecidableEq Text] (sign : Secret → Claims → Text)
    (read : Text → Secret × Claims) (hread : ∀ k c, read (sign k c) = (k, c)) :
    SignatureScheme Secret Claims Text where
  sign := sign
  verify k t := if sign k (read t).2 = t then some (read t).2 else none
  verify_eq_some {k t c} := by
    rw [Option.ite_none_right_eq_some, Option.some.injEq]
    constructor
    · rintro ⟨h, rfl⟩
      exact h
    · rintro rfl
      rw [hread]
      exact ⟨rfl, rfl⟩
  secret_unique {k k' c c'} h := by
    have := congrArg read h
    rw [hread, hread] at this
    exact (Prod.mk.inj this).1

end SignatureScheme

end HrBooking
