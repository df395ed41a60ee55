import HrBooking.Machine.Basic

/-!
# How often something happens in a run

`Machine.count P` is the number of the steps of a run that satisfy `P`, and `Machine.run_count` is
the induction for a predicate that keeps pace with it.
-/

namespace HrBooking

namespace Machine

variable {S A : Type*} {M : Machine S A} {P : S → A → Prop} [∀ s a, Decidable (P s a)]

/-- The number of the steps of the run of `as` from `s` that satisfy `P`. -/
def count (M : Machine S A) (P : S → A → Prop) [∀ s a, Decidable (P s a)] (s : S) : List A → ℕ
  | [] => 0
  | a :: as =>
    (if P s a then 1 else 0) +
      match M.step s a with
      | none => 0
      | some s' => M.count P s' as

@[simp] theorem count_nil (s : S) : M.count P s [] = 0 := rfl

theorem count_cons {s s' : S} {a : A} {as : List A} (hstep : M.step s a = some s') :
    M.count P s (a :: as) = (if P s a then 1 else 0) + M.count P s' as := by
  rw [count, hstep]

/-- **Induction over runs with a count.**  What every guarded step keeps, when the count goes up
with the steps that satisfy `P`, holds at the end of a run with the whole count. -/
theorem run_count {I : ℕ → S → Prop} {G : S → A → Prop}
    (hstep : ∀ n s a s', I n s → G s a → M.step s a = some s' → I (n + if P s a then 1 else 0) s')
    {n : ℕ} {s s' : S} {as : List A} (hI : I n s) (hG : M.Meets G s as)
    (hrun : M.run s as = some s') : I (n + M.count P s as) s' := by
  induction as generalizing n s with
  | nil =>
    obtain rfl : s = s' := by simpa using hrun
    simpa using hI
  | cons a as ih =>
    obtain ⟨t, ht, hrun'⟩ := run_cons.1 hrun
    rw [count_cons ht, ← Nat.add_assoc]
    exact ih (hstep n s a t hI hG.1 ht) (hG.2 t ht) hrun'

end Machine

end HrBooking
