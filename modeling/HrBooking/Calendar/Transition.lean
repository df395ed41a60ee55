import HrBooking.Calendar.Zone
import Mathlib.Data.Set.Finite.Basic

/-!
# Transitions

A zone changes its offset finitely often.  When the clock is put forward, the readings it jumps over
are shown by no instant; such a reading is moved forward by the length of the gap.

* `Zone.JumpsOver` : the clock is put forward over a reading.
* `Zone.Lawful` : how readings are resolved.
* `Zone.Lawful.resolve_cases` : a resolved reading is shown, or it is later by the length of a gap.
* `Zone.exists_day_eq` : dates are passed one by one.
* `Zone.putForward` : a zone whose clock is put forward once.
-/

namespace HrBooking

namespace Zone

variable (z : Zone)

/-- At `T` the clock is put forward over the reading. -/
def JumpsOver (T r : ℤ) : Prop := z.wall (T - 1) < r ∧ r < z.wall T

/-- By how much the clock is put forward at an instant. -/
def shift (T : ℤ) : ℤ := z.offset T - z.offset (T - 1)

/-- Some instant shows the reading. -/
def Shows (r : ℤ) : Prop := ∃ t, z.wall t = r

/-- A zone with transitions: readings that exist are resolved to an instant that shows them, and a
reading that does not exist is moved forward by the length of the gap. -/
structure Lawful : Prop where
  finite : {T | z.shift T ≠ 0}.Finite
  resolve : ∀ r, z.wall (z.resolve r) = r ∨
    ¬ z.Shows r ∧ ∃ T, z.JumpsOver T r ∧ z.wall (z.resolve r) = r + z.shift T

/-- No transition shifts the clock by more than `n` milliseconds. -/
def ShiftsAtMost (n : ℤ) : Prop := ∀ T, |z.shift T| ≤ n

variable {z}

theorem day_eq_iff {t d : ℤ} :
    z.day t = d ↔ d * msPerDay ≤ z.wall t ∧ z.wall t < d * msPerDay + msPerDay :=
  Int.ediv_eq_iff_of_pos (by decide)

theorem wall_eq_pred (t : ℤ) : z.wall t = z.wall (t - 1) + 1 + z.shift t := by
  simp only [wall, shift]
  ring

theorem JumpsOver.shift_pos {T r : ℤ} (h : z.JumpsOver T r) : 0 < z.shift T := by
  have hwall := z.wall_eq_pred T
  obtain ⟨hbefore, hafter⟩ := h
  omega

theorem Lawful.wall_resolve (h : z.Lawful) {r : ℤ} (hr : z.Shows r) : z.wall (z.resolve r) = r :=
  (h.resolve r).elim id fun hnot => absurd hr hnot.1

theorem Lawful.resolve_cases (h : z.Lawful) {n : ℤ} (hn : z.ShiftsAtMost n) (r : ℤ) :
    z.wall (z.resolve r) = r ∨ r < z.wall (z.resolve r) ∧ z.wall (z.resolve r) ≤ r + n := by
  rcases h.resolve r with hshown | ⟨-, T, hjump, hmoved⟩
  · exact .inl hshown
  · have hpos := hjump.shift_pos
    have hle := (abs_le.1 (hn T)).2
    refine .inr ⟨?_, ?_⟩ <;> omega

/-- A local date is followed by itself or by the next one, unless the clock is put back. -/
theorem day_succ_le {n : ℤ} (hn : z.ShiftsAtMost n) (hday : n < msPerDay) (t : ℤ) :
    z.day (t + 1) ≤ z.day t + 1 := by
  have hwall := z.wall_eq_pred (t + 1)
  have hle := (abs_le.1 (hn (t + 1))).2
  have hnext : z.wall (t + 1) ≤ z.wall t + msPerDay := by
    rw [show t + 1 - 1 = t by ring] at hwall
    omega
  calc z.wall (t + 1) / msPerDay ≤ (z.wall t + msPerDay) / msPerDay :=
        Int.ediv_le_ediv (by decide) hnext
    _ = z.wall t / msPerDay + 1 := Int.add_ediv_of_dvd_right (dvd_refl _)

/-- **Every date between two dates is passed.** -/
theorem exists_day_eq {n : ℤ} (hn : z.ShiftsAtMost n) (hday : n < msPerDay) {a b d : ℤ}
    (hab : a ≤ b) (ha : z.day a ≤ d) (hb : d ≤ z.day b) : ∃ t, a ≤ t ∧ t ≤ b ∧ z.day t = d := by
  induction b, hab using Int.leInduction with
  | base => exact ⟨a, le_rfl, le_rfl, le_antisymm ha hb⟩
  | succ b hab ih =>
    by_cases hle : d ≤ z.day b
    · obtain ⟨t, hat, htb, ht⟩ := ih hle
      exact ⟨t, hat, by omega, ht⟩
    · have hsucc := day_succ_le hn hday b
      exact ⟨b + 1, by omega, le_rfl, by omega⟩

/-! ### One transition -/

/-- Universal time until `T`, and from then on the clock is `gap` milliseconds ahead. -/
def putForward (T gap : ℤ) : Zone where
  offset t := if t < T then 0 else gap
  resolve r := if r < T + gap then r else r - gap

variable {T gap : ℤ}

theorem wall_putForward (t : ℤ) :
    (putForward T gap).wall t = if t < T then t else t + gap := by
  simp only [wall, putForward]
  split_ifs
  · exact add_zero t
  · rfl

theorem shift_putForward (hgap : 0 ≤ gap) (t : ℤ) :
    (putForward T gap).shift t = if t = T then gap else 0 := by
  simp only [shift, putForward]
  split_ifs <;> omega

theorem putForward_lawful (hgap : 0 ≤ gap) : (putForward T gap).Lawful where
  finite := by
    refine (Set.finite_singleton T).subset fun t ht => ?_
    rw [Set.mem_ofPred_eq, shift_putForward hgap] at ht
    by_contra hne
    exact ht (if_neg hne)
  resolve r := by
    have hshift := shift_putForward (T := T) hgap T
    rw [if_pos rfl] at hshift
    by_cases hskipped : T ≤ r ∧ r < T + gap
    · refine .inr ⟨?_, T, ⟨?_, ?_⟩, ?_⟩
      · rintro ⟨t, ht⟩
        rw [wall_putForward] at ht
        split_ifs at ht <;> omega
      · rw [wall_putForward, if_pos (by omega)]
        omega
      · rw [wall_putForward, if_neg (by omega)]
        exact hskipped.2
      · rw [hshift, wall_putForward]
        simp only [putForward]
        split_ifs <;> omega
    · refine .inl ?_
      rw [wall_putForward]
      simp only [putForward]
      split_ifs <;> omega

theorem putForward_shiftsAtMost (hgap : 0 ≤ gap) : (putForward T gap).ShiftsAtMost gap := by
  intro t
  rw [shift_putForward hgap, abs_le]
  split_ifs <;> omega

/-- The clock of the zone is never put back. -/
theorem wall_putForward_mono (hgap : 0 ≤ gap) {t t' : ℤ} (h : t ≤ t') :
    (putForward T gap).wall t ≤ (putForward T gap).wall t' := by
  rw [wall_putForward, wall_putForward]
  split_ifs <;> omega

theorem shows_putForward {r : ℤ} (h : r < T ∨ T + gap ≤ r) : (putForward T gap).Shows r := by
  rcases h with h | h
  · exact ⟨r, by rw [wall_putForward, if_pos h]⟩
  · refine ⟨r - gap, ?_⟩
    rw [wall_putForward, if_neg (by omega)]
    exact sub_add_cancel r gap

end Zone

end HrBooking
