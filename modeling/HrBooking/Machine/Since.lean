import HrBooking.Machine.Basic

/-!
# What has happened since

A condition that one kind of step brings about and another kind of step ends holds in a state
exactly when the last step that bears on it brought it about.  `Machine.Since P Q` says so of a run:
some step of it satisfies `P` and all later ones satisfy `Q`.

* `Machine.since_concat` : the recursion over the end of a run.
* `Machine.run_since` : a condition that follows this recursion step by step is `Since` of the run.
-/

namespace HrBooking

namespace Machine

variable {S A : Type*} {M : Machine S A} {P Q : S → A → Prop} {s t t' : S} {as : List A} {a : A}

/-- Some step of the run of `as` from `s` satisfies `P`, and every later one satisfies `Q`. -/
def Since (M : Machine S A) (P Q : S → A → Prop) (s : S) (as : List A) : Prop :=
  ∃ pre b post t u, as = pre ++ b :: post ∧ M.run s pre = some t ∧ P t b ∧
    M.step t b = some u ∧ M.Meets Q u post

theorem not_since_nil : ¬ M.Since P Q s [] := by
  rintro ⟨pre, b, post, -, -, h, -⟩
  simp at h

/-- What has happened in a run violates every guard that excludes it. -/
theorem Since.not_meets {G : S → A → Prop} (h : M.Since P Q s as) (hG : ∀ t b, P t b → ¬ G t b) :
    ¬ M.Meets G s as := by
  obtain ⟨pre, b, post, t, -, hsplit, hrun, hP, -⟩ := h
  intro hmeets
  have hmeets' := meets_iff_forall_prefix.1 hmeets
  exact hG t b hP (hmeets' pre b post t hsplit hrun)

/-- A guard holds along a run that is one step longer when it also holds at that step. -/
theorem meets_concat (hrun : M.run s as = some t) :
    M.Meets Q s (as ++ [a]) ↔ M.Meets Q s as ∧ Q t a := by
  constructor
  · intro h
    exact ⟨h.of_append, (h.append_right hrun).1⟩
  · rintro ⟨has, ha⟩
    refine meets_iff_forall_prefix.2 fun pre b post u hsplit hpre => ?_
    rcases List.eq_nil_or_concat post with rfl | ⟨post, c, rfl⟩
    · obtain ⟨rfl, hb⟩ := List.append_inj' hsplit rfl
      obtain rfl : a = b := by simpa using hb
      obtain rfl : t = u := Option.some.inj (hrun.symm.trans hpre)
      exact ha
    · have hsplit' : as ++ [a] = (pre ++ b :: post) ++ [c] := by simpa using hsplit
      exact meets_iff_forall_prefix.1 has pre b post u (List.append_inj' hsplit' rfl).1 hpre

theorem since_concat (hrun : M.run s as = some t) (hstep : M.step t a = some t') :
    M.Since P Q s (as ++ [a]) ↔ P t a ∨ M.Since P Q s as ∧ Q t a := by
  constructor
  · rintro ⟨pre, b, post, t₀, u, hsplit, hpre, hP, hb, hpost⟩
    rcases List.eq_nil_or_concat post with rfl | ⟨post, c, rfl⟩
    · obtain ⟨rfl, hab⟩ := List.append_inj' hsplit rfl
      obtain rfl : a = b := by simpa using hab
      obtain rfl : t = t₀ := Option.some.inj (hrun.symm.trans hpre)
      exact .inl hP
    · have hsplit' : as ++ [a] = (pre ++ b :: post) ++ [c] := by simpa using hsplit
      obtain ⟨rfl, hac⟩ := List.append_inj' hsplit' rfl
      obtain rfl : a = c := by simpa using hac
      -- the run goes on from the state after `b`
      obtain ⟨t₁, ht₁, htail⟩ := run_append.1 hrun
      obtain rfl : t₀ = t₁ := Option.some.inj (hpre.symm.trans ht₁)
      obtain ⟨u', hu', htail⟩ := run_cons.1 htail
      obtain rfl : u = u' := Option.some.inj (hb.symm.trans hu')
      have hpost' := (meets_concat htail).1 (by simpa using hpost)
      exact .inr ⟨⟨pre, b, post, t₀, u, rfl, hpre, hP, hb, hpost'.1⟩, hpost'.2⟩
  · rintro (hP | ⟨⟨pre, b, post, t₀, u, rfl, hpre, hP, hb, hpost⟩, hQ⟩)
    · exact ⟨as, a, [], t, t', rfl, hrun, hP, hstep, trivial⟩
    · obtain ⟨t₁, ht₁, htail⟩ := run_append.1 hrun
      obtain rfl : t₀ = t₁ := Option.some.inj (hpre.symm.trans ht₁)
      obtain ⟨u', hu', htail⟩ := run_cons.1 htail
      obtain rfl : u = u' := Option.some.inj (hb.symm.trans hu')
      exact ⟨pre, b, post ++ [a], t₀, u, by simp, hpre, hP, hb, (meets_concat htail).2 ⟨hpost, hQ⟩⟩

/-- **A condition with a history.**  While `C` lasts, `I` is brought about by `P` and goes on under
`Q`; so it holds at the end of a run from a state without it exactly when `P` has happened and `Q`
ever since.  `J` is an invariant of the steps. -/
theorem run_since {I J C : S → Prop}
    (hstep : ∀ t a t', J t → M.step t a = some t' →
      J t' ∧ (C t' → C t ∧ (I t' ↔ P t a ∨ I t ∧ Q t a)))
    (hI : ¬ I s) (hJ : J s) (hrun : M.run s as = some t) (hC : C t) :
    I t ↔ M.Since P Q s as := by
  suffices h : J t ∧ (C t → (I t ↔ M.Since P Q s as)) from h.2 hC
  clear hC
  induction as using List.reverseRecOn generalizing t with
  | nil =>
    obtain rfl : s = t := by simpa using hrun
    exact ⟨hJ, fun _ => iff_of_false hI not_since_nil⟩
  | append_singleton as a ih =>
    obtain ⟨u, hu, ha⟩ := run_concat.1 hrun
    obtain ⟨hJu, hu'⟩ := ih hu
    obtain ⟨hJt, ht⟩ := hstep u a t hJu ha
    refine ⟨hJt, fun hC => ?_⟩
    obtain ⟨hCu, hiff⟩ := ht hC
    rw [since_concat hu ha, hiff, hu' hCu]

end Machine

end HrBooking
