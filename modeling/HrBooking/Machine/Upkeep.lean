import Mathlib.Tactic.Common

/-!
# Copies kept up by jobs

A source has a copy elsewhere.  A change of the source queues a job, and a job reads the source as
it is when it runs, so what it does to the copy depends on changes that came after it was queued.
The copy is kept up as long as running all queued jobs now would bring it where the source wants it:
this survives a change of the source that queues a job which mends it, and nothing is left to do
when the queue is empty.

* `Upkeep` : what a job makes of the copy, and what the copy should be.
* `Upkeep.drain` : all queued jobs run now.
* `Upkeep.Due` : draining the queue brings the copy where it should be.
* `Upkeep.Due.ran`, `Upkeep.due_push`, `Upkeep.Due.push`, `Upkeep.Due.settled` : the rules.
* `filter_of_oldest` : the queue of one source within a shared one.
-/

namespace HrBooking

/-- Jobs of kind `J` that keep a copy in `V` of a source in `S`. -/
structure Upkeep (S J V : Type*) where
  /-- What a job makes of the copy. -/
  run : S → J → V → V
  /-- What the copy should be. -/
  goal : S → V

namespace Upkeep

variable {S J V : Type*} (U : Upkeep S J V)

/-- The copy after all queued jobs, the source staying as it is. -/
def drain (s : S) (jobs : List J) (v : V) : V := jobs.foldl (fun v j => U.run s j v) v

/-- Running the queued jobs now brings the copy where it should be. -/
def Due (s : S) (jobs : List J) (v : V) : Prop := U.drain s jobs v = U.goal s

@[simp] theorem drain_nil (s : S) (v : V) : U.drain s [] v = v := rfl

@[simp] theorem drain_cons (s : S) (j : J) (jobs : List J) (v : V) :
    U.drain s (j :: jobs) v = U.drain s jobs (U.run s j v) := rfl

@[simp] theorem drain_append (s : S) (jobs jobs' : List J) (v : V) :
    U.drain s (jobs ++ jobs') v = U.drain s jobs' (U.drain s jobs v) := List.foldl_append

variable {U} {s s' : S} {j : J} {jobs : List J} {v v' : V}

/-- Two sources that jobs cannot tell apart are drained the same way. -/
theorem drain_congr (h : ∀ j ∈ jobs, ∀ v, U.run s' j v = U.run s j v) :
    U.drain s' jobs v = U.drain s jobs v := by
  induction jobs generalizing v with
  | nil => rfl
  | cons j jobs ih =>
    rw [drain_cons, drain_cons, h j List.mem_cons_self]
    exact ih fun k hk => h k (List.mem_cons_of_mem _ hk)

/-- The oldest job runs. -/
theorem Due.ran (h : U.Due s (j :: jobs) v) : U.Due s jobs (U.run s j v) := h

/-- Nothing is left to do. -/
theorem Due.settled (h : U.Due s [] v) : v = U.goal s := h

/-- A job that mends every copy may be queued after any change. -/
theorem due_push (hj : ∀ v, U.run s j v = U.goal s) : U.Due s (jobs ++ [j]) v := by
  simp only [Due, drain_append, drain_cons, drain_nil, hj]

/-- A job that mends the copy of the old source may be queued after a change that the other jobs
do not see. -/
theorem Due.push (h : U.Due s jobs v) (hrun : ∀ k ∈ jobs, ∀ v, U.run s' k v = U.run s k v)
    (hj : U.run s' j (U.goal s) = U.goal s') : U.Due s' (jobs ++ [j]) v := by
  have hdrain : U.drain s' jobs v = U.goal s := (drain_congr hrun).trans h
  simp only [Due, drain_append, drain_cons, drain_nil, hdrain, hj]

/-- A change that no job sees and that asks for no other copy. -/
theorem Due.congr (h : U.Due s jobs v) (hrun : ∀ k ∈ jobs, ∀ v, U.run s' k v = U.run s k v)
    (hgoal : U.goal s' = U.goal s) : U.Due s' jobs v :=
  (drain_congr hrun).trans (h.trans hgoal.symm)

end Upkeep

/-! ### A queue shared by several sources -/

section Queue

variable {α : Type*} {p q : α → Bool} {queue : List α} {job : α}

/-- The oldest entry of one kind is the first of them, and taking it leaves the rest of them. -/
theorem filter_of_oldest (h : queue.find? p = some job) :
    queue.filter p = job :: (queue.eraseP p).filter p := by
  induction queue with
  | nil => cases h
  | cons j queue ih =>
    cases hj : p j with
    | true =>
      obtain rfl : j = job := by simpa [List.find?_cons, hj] using h
      rw [List.filter_cons_of_pos hj, List.eraseP_cons_of_pos hj]
    | false =>
      have hne : ¬ p j = true := by simp [hj]
      rw [List.filter_cons_of_neg hne, List.eraseP_cons_of_neg hne, List.filter_cons_of_neg hne]
      exact ih (by simpa [List.find?_cons, hj] using h)

/-- Taking it leaves the entries of other kinds. -/
theorem filter_eraseP_of_disjoint (queue : List α) (h : ∀ j, p j = true → q j = false) :
    (queue.eraseP p).filter q = queue.filter q := by
  induction queue with
  | nil => rfl
  | cons j queue ih =>
    cases hj : p j with
    | true =>
      rw [List.eraseP_cons_of_pos hj, List.filter_cons_of_neg (by simp [h j hj])]
    | false =>
      rw [List.eraseP_cons_of_neg (by simp [hj]), List.filter_cons, List.filter_cons, ih]

end Queue

end HrBooking
