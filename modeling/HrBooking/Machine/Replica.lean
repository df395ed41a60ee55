import Mathlib.Logic.Function.Basic
import Mathlib.Tactic.Common

/-!
# Replicas

A table somewhere else is kept by reading a journal.  An entry of the journal is about one key.  It
fits what the table has there and says what the table has afterwards, or the reader is at a loss.

* `Replica` : the key of an entry, and what an entry makes of a value.
* `Replica.readFrom` : a value after the entries about its key.
* `Replica.read` : the table after the whole journal.
* `Replica.read_eq_some_iff` : **a journal is read key by key.**
-/

namespace HrBooking

/-- A table of values in `V` under keys in `K` that entries in `E` change. -/
structure Replica (K V E : Type*) where
  /-- What an entry is about. -/
  key : E → K
  /-- The value after an entry, unless the entry does not fit. -/
  apply : E → V → Option V

namespace Replica

variable {K V E : Type*} [DecidableEq K] (R : Replica K V E)

/-- A value after entries about its key. -/
def readFrom (v : V) : List E → Option V
  | [] => some v
  | e :: es => (R.apply e v).bind fun v => readFrom v es

/-- The table after a journal. -/
def read (t : K → V) : List E → Option (K → V)
  | [] => some t
  | e :: es => (R.apply e (t (R.key e))).bind fun v => read (Function.update t (R.key e) v) es

/-- The entries about one key. -/
def about (k : K) (es : List E) : List E := es.filter fun e => R.key e = k

variable {R} {k : K} {v v' : V} {t t' : K → V} {e : E} {es es' : List E}

omit [DecidableEq K] in
@[simp] theorem readFrom_nil : R.readFrom v [] = some v := rfl

omit [DecidableEq K] in
theorem readFrom_cons_eq_some :
    R.readFrom v (e :: es) = some v' ↔
      ∃ u, R.apply e v = some u ∧ R.readFrom u es = some v' := by
  rw [readFrom, Option.bind_eq_some_iff]

omit [DecidableEq K] in
theorem readFrom_append_eq_some :
    R.readFrom v (es ++ es') = some v' ↔
      ∃ u, R.readFrom v es = some u ∧ R.readFrom u es' = some v' := by
  induction es generalizing v with
  | nil => simp
  | cons e es ih =>
    rw [List.cons_append, readFrom_cons_eq_some]
    constructor
    · rintro ⟨u, hu, h⟩
      obtain ⟨u', hu', h'⟩ := ih.1 h
      exact ⟨u', readFrom_cons_eq_some.2 ⟨u, hu, hu'⟩, h'⟩
    · rintro ⟨u', h, h'⟩
      obtain ⟨u, hu, hu'⟩ := readFrom_cons_eq_some.1 h
      exact ⟨u, hu, ih.2 ⟨u', hu', h'⟩⟩

omit [DecidableEq K] in
/-- The last entry changes the value that the others left. -/
theorem readFrom_concat (h : R.readFrom v es = some v') :
    R.readFrom v (es ++ [e]) = R.apply e v' := by
  refine Option.ext fun u => ?_
  rw [readFrom_append_eq_some]
  constructor
  · rintro ⟨w, hw, hu⟩
    obtain rfl : v' = w := Option.some.inj (h.symm.trans hw)
    obtain ⟨w', hw', hu⟩ := readFrom_cons_eq_some.1 hu
    exact hw'.trans hu
  · intro hu
    exact ⟨v', h, readFrom_cons_eq_some.2 ⟨u, hu, rfl⟩⟩

omit [DecidableEq K] in
/-- Entries that change nothing. -/
theorem readFrom_of_forall (h : ∀ e ∈ es, R.apply e v = some v) : R.readFrom v es = some v := by
  induction es with
  | nil => rfl
  | cons e es ih =>
    obtain ⟨he, hes⟩ := List.forall_mem_cons.1 h
    exact readFrom_cons_eq_some.2 ⟨v, he, ih hes⟩

@[simp] theorem about_nil : R.about k [] = [] := rfl

theorem about_cons_self (h : R.key e = k) : R.about k (e :: es) = e :: R.about k es :=
  List.filter_cons_of_pos (decide_eq_true h)

theorem about_cons_of_ne (h : R.key e ≠ k) : R.about k (e :: es) = R.about k es :=
  List.filter_cons_of_neg (by simpa using h)

theorem about_append : R.about k (es ++ es') = R.about k es ++ R.about k es' :=
  List.filter_append ..

/-- **A journal is read key by key.** -/
theorem read_eq_some_iff :
    R.read t es = some t' ↔ ∀ k, R.readFrom (t k) (R.about k es) = some (t' k) := by
  induction es generalizing t with
  | nil => simp only [read, about_nil, readFrom_nil, Option.some.injEq, funext_iff]
  | cons e es ih =>
    rw [read, Option.bind_eq_some_iff]
    constructor
    · rintro ⟨v, hv, h⟩ k
      have hk := ih.1 h k
      by_cases he : R.key e = k
      · subst he
        rw [Function.update_self] at hk
        rw [about_cons_self rfl]
        exact readFrom_cons_eq_some.2 ⟨v, hv, hk⟩
      · rw [Function.update_of_ne (Ne.symm he)] at hk
        rwa [about_cons_of_ne he]
    · intro h
      have he := h (R.key e)
      rw [about_cons_self rfl] at he
      obtain ⟨v, hv, hrest⟩ := readFrom_cons_eq_some.1 he
      refine ⟨v, hv, ih.2 fun k => ?_⟩
      by_cases he : R.key e = k
      · subst he
        rwa [Function.update_self]
      · have hk := h k
        rw [about_cons_of_ne he] at hk
        rwa [Function.update_of_ne (Ne.symm he)]

end Replica

end HrBooking
