import Mathlib.Data.List.Induction
import Mathlib.Data.Set.Basic
import Mathlib.Tactic.Common

/-!
# Machines and their runs

A `Machine` is a partial step function: in a state an action is either refused or leads to one
next state.  Whatever is not decided by the state (which party moves, what a service answers, how
far the clock advances) is part of the action, so a list of actions is a schedule and running it
is a computation.

* `Machine.run` : the state after a list of actions, if none of them is refused.
* `Machine.Meets G` : every step of the run satisfies the guard `G` on the state before the step
  and the action.
* `Machine.run_invariant` : the induction over runs, with the guard available at every step.
* `Machine.run_history` : the same for a predicate on the state and the actions that led to it.
* `Machine.meets_iff_forall_prefix` : a guard violated in a run is violated at a reachable state.
* `Machine.forall_prefix_iff` : what holds at first and after each step holds throughout a run.
-/

namespace HrBooking

/-- A deterministic machine with states `S` and actions `A`. -/
structure Machine (S : Type*) (A : Type*) where
  /-- The state after an action, or `none` when the action is refused. -/
  step : S → A → Option S

namespace Machine

variable {S A : Type*} (M : Machine S A)

/-- Run a list of actions; `none` when one of them is refused. -/
def run (s : S) : List A → Option S
  | [] => some s
  | a :: as =>
    match M.step s a with
    | none => none
    | some s' => run s' as

/-- Every step of the run of `as` from `s` satisfies `G`. -/
def Meets (G : S → A → Prop) (s : S) : List A → Prop
  | [] => True
  | a :: as => G s a ∧ ∀ s', M.step s a = some s' → Meets G s' as

variable {M}

@[simp] theorem run_nil (s : S) : M.run s [] = some s := rfl

theorem run_cons {s s' : S} {a : A} {as : List A} :
    M.run s (a :: as) = some s' ↔ ∃ t, M.step s a = some t ∧ M.run t as = some s' := by
  rw [run]
  cases h : M.step s a with
  | none => simp
  | some t => simp

theorem run_append {s s' : S} {as bs : List A} :
    M.run s (as ++ bs) = some s' ↔ ∃ t, M.run s as = some t ∧ M.run t bs = some s' := by
  induction as generalizing s with
  | nil => simp
  | cons a as ih =>
    rw [List.cons_append, run_cons]
    constructor
    · rintro ⟨u, hu, h⟩
      obtain ⟨t, ht, h'⟩ := ih.1 h
      exact ⟨t, run_cons.2 ⟨u, hu, ht⟩, h'⟩
    · rintro ⟨t, ht, h'⟩
      obtain ⟨u, hu, ht'⟩ := run_cons.1 ht
      exact ⟨u, hu, ih.2 ⟨t, ht', h'⟩⟩

theorem run_concat {s s' : S} {as : List A} {a : A} :
    M.run s (as ++ [a]) = some s' ↔ ∃ t, M.run s as = some t ∧ M.step t a = some s' := by
  rw [run_append]
  refine exists_congr fun t => and_congr_right fun _ => ?_
  rw [run_cons]
  simp

@[simp] theorem meets_nil (G : S → A → Prop) (s : S) : M.Meets G s [] := trivial

instance Meets.decidable {G : S → A → Prop} [∀ s a, Decidable (G s a)] :
    ∀ (s : S) (as : List A), Decidable (M.Meets G s as)
  | _, [] => isTrue trivial
  | s, a :: as =>
    have : Decidable (∀ s', M.step s a = some s' → M.Meets G s' as) :=
      match M.step s a with
      | none => isTrue fun _ h' => nomatch h'
      | some t =>
        match Meets.decidable t as with
        | isTrue ht => isTrue fun _ h' => Option.some.inj h' ▸ ht
        | isFalse ht => isFalse fun h' => ht (h' t rfl)
    inferInstanceAs (Decidable (_ ∧ _))

theorem Meets.mono {G G' : S → A → Prop} (hG : ∀ s a, G s a → G' s a) {s : S} {as : List A}
    (h : M.Meets G s as) : M.Meets G' s as := by
  induction as generalizing s with
  | nil => trivial
  | cons a as ih => exact ⟨hG _ _ h.1, fun s' hs' => ih (h.2 s' hs')⟩

theorem Meets.and {G G' : S → A → Prop} {s : S} {as : List A} (h : M.Meets G s as)
    (h' : M.Meets G' s as) : M.Meets (fun s a => G s a ∧ G' s a) s as := by
  induction as generalizing s with
  | nil => trivial
  | cons a as ih => exact ⟨⟨h.1, h'.1⟩, fun s' hs' => ih (h.2 s' hs') (h'.2 s' hs')⟩

/-- Two guards that agree under an invariant are met by the same runs. -/
theorem meets_congr {I : S → Prop} {G G' : S → A → Prop} (hG : ∀ s a, I s → (G s a ↔ G' s a))
    (hstep : ∀ s a s', I s → G' s a → M.step s a = some s' → I s') {s : S} {as : List A}
    (hI : I s) : M.Meets G s as ↔ M.Meets G' s as := by
  induction as generalizing s with
  | nil => rfl
  | cons a as ih =>
    constructor
    · rintro ⟨ha, has⟩
      have ha' := (hG s a hI).1 ha
      exact ⟨ha', fun s' hs' => (ih (hstep s a s' hI ha' hs')).1 (has s' hs')⟩
    · rintro ⟨ha', has⟩
      exact ⟨(hG s a hI).2 ha', fun s' hs' => (ih (hstep s a s' hI ha' hs')).2 (has s' hs')⟩

theorem meets_of_forall {G : S → A → Prop} (hG : ∀ s a, G s a) (s : S) (as : List A) :
    M.Meets G s as := by
  induction as generalizing s with
  | nil => trivial
  | cons a as ih => exact ⟨hG _ _, fun s' _ => ih s'⟩

theorem meets_of_forall_mem {P : A → Prop} {s : S} {as : List A} (h : ∀ a ∈ as, P a) :
    M.Meets (fun _ a => P a) s as := by
  induction as generalizing s with
  | nil => trivial
  | cons a as ih =>
    exact ⟨h a List.mem_cons_self, fun s' _ => ih fun b hb => h b (List.mem_cons_of_mem _ hb)⟩

/-- The guard holds at every step exactly when it holds after every proper prefix of the run. -/
theorem meets_iff_forall_prefix {G : S → A → Prop} {s : S} {as : List A} :
    M.Meets G s as ↔
      ∀ pre a post t, as = pre ++ a :: post → M.run s pre = some t → G t a := by
  induction as generalizing s with
  | nil => simp
  | cons b bs ih =>
    constructor
    · rintro ⟨hb, hbs⟩ pre a post t hsplit hrun
      cases pre with
      | nil =>
        obtain ⟨rfl, rfl⟩ : b = a ∧ bs = post := by simpa using hsplit
        obtain rfl : s = t := by simpa using hrun
        exact hb
      | cons c pre =>
        obtain ⟨rfl, hsplit'⟩ : b = c ∧ bs = pre ++ a :: post := by simpa using hsplit
        obtain ⟨u, hu, hrun'⟩ := run_cons.1 hrun
        exact ih.1 (hbs u hu) pre a post t hsplit' hrun'
    · intro h
      refine ⟨h [] b bs s rfl rfl, fun s' hs' => ih.2 fun pre a post t hsplit hrun => ?_⟩
      exact h (b :: pre) a post t (by rw [hsplit, List.cons_append]) (run_cons.2 ⟨s', hs', hrun⟩)

/-- A predicate holds in every state that a run goes through exactly when it holds at first and
after each step. -/
theorem forall_prefix_iff {P : S → Prop} {s : S} {as : List A} :
    (∀ bs t, bs <+: as → M.run s bs = some t → P t) ↔
      P s ∧ M.Meets (fun s a => ∀ s', M.step s a = some s' → P s') s as := by
  induction as generalizing s with
  | nil =>
    constructor
    · exact fun h => ⟨h [] s (List.prefix_refl _) rfl, trivial⟩
    · rintro ⟨hs, -⟩ bs t hbs hrun
      obtain rfl := List.prefix_nil.1 hbs
      obtain rfl : s = t := by simpa using hrun
      exact hs
  | cons a as ih =>
    constructor
    · intro h
      have hrest : ∀ s', M.step s a = some s' →
          P s' ∧ M.Meets (fun s a => ∀ s', M.step s a = some s' → P s') s' as :=
        fun s' hs' => ih.1 fun bs t hbs hrun =>
          h (a :: bs) t (List.cons_prefix_cons.2 ⟨rfl, hbs⟩) (run_cons.2 ⟨s', hs', hrun⟩)
      exact ⟨h [] s List.nil_prefix rfl, fun s' hs' => (hrest s' hs').1,
        fun s' hs' => (hrest s' hs').2⟩
    · rintro ⟨hs, hstep, hrest⟩ bs t hbs hrun
      cases bs with
      | nil =>
        obtain rfl : s = t := by simpa using hrun
        exact hs
      | cons b bs =>
        obtain ⟨rfl, htail⟩ := List.cons_prefix_cons.1 hbs
        obtain ⟨s', hs', hrun⟩ := run_cons.1 hrun
        exact ih.2 ⟨hstep s' hs', hrest s' hs'⟩ bs t htail hrun

/-- **Induction over runs.**  A predicate that every guarded step preserves holds at the end of
every run whose steps meet the guard. -/
theorem run_invariant {I : S → Prop} {G : S → A → Prop}
    (hstep : ∀ s a s', I s → G s a → M.step s a = some s' → I s') {s s' : S} {as : List A}
    (hI : I s) (hG : M.Meets G s as) (hrun : M.run s as = some s') : I s' := by
  induction as generalizing s with
  | nil =>
    obtain rfl : s = s' := by simpa using hrun
    exact hI
  | cons a as ih =>
    obtain ⟨t, ht, hrun'⟩ := run_cons.1 hrun
    exact ih (hstep s a t hI hG.1 ht) (hG.2 t ht) hrun'

/-- Induction over runs without a guard. -/
theorem run_invariant' {I : S → Prop} (hstep : ∀ s a s', I s → M.step s a = some s' → I s')
    {s s' : S} {as : List A} (hI : I s) (hrun : M.run s as = some s') : I s' :=
  run_invariant (G := fun _ _ => True) (fun s a s' h _ hs => hstep s a s' h hs) hI
    (meets_of_forall (fun _ _ => trivial) s as) hrun

theorem Meets.of_append {G : S → A → Prop} {s : S} {as bs : List A} (h : M.Meets G s (as ++ bs)) :
    M.Meets G s as := by
  refine meets_iff_forall_prefix.2 fun pre a post t hsplit hrun => ?_
  exact meets_iff_forall_prefix.1 h pre a (post ++ bs) t (by rw [hsplit]; simp) hrun

theorem Meets.append_right {G : S → A → Prop} {s t : S} {as bs : List A}
    (h : M.Meets G s (as ++ bs)) (hrun : M.run s as = some t) : M.Meets G t bs := by
  refine meets_iff_forall_prefix.2 fun pre a post u hsplit hpre => ?_
  exact meets_iff_forall_prefix.1 h (as ++ pre) a post u (by rw [hsplit]; simp)
    (run_append.2 ⟨t, hrun, hpre⟩)

/-- **Induction over runs with their history.**  The invariant may speak of the actions that led to
the state. -/
theorem run_history {I : List A → S → Prop} {G : S → A → Prop} {s s' : S} {as : List A}
    (hinit : I [] s)
    (hstep : ∀ pre a t t', M.run s pre = some t → I pre t → G t a → M.step t a = some t' →
      I (pre ++ [a]) t')
    (hG : M.Meets G s as) (hrun : M.run s as = some s') : I as s' := by
  induction as using List.reverseRecOn generalizing s' with
  | nil =>
    obtain rfl : s = s' := by simpa using hrun
    exact hinit
  | append_singleton as a ih =>
    obtain ⟨t, ht, hstep'⟩ := run_concat.1 hrun
    have hGa : G t a := (hG.append_right ht).1
    exact hstep as a t s' ht (ih hG.of_append ht) hGa hstep'

end Machine

end HrBooking
