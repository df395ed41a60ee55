import HrBooking.Calendar.Transition
import HrBooking.Model.Datetime
import Mathlib.Data.Finset.Max
import Mathlib.Data.Int.Interval

/-!
# The walk over the dates of a range

`dateKeysBetween` of `utils/datetime.ts` steps from the start of the first date by whole days and
stops after the start of the last one.  The cursor keeps its wall-clock time of day, so once a
transition has pushed it off midnight it stays off midnight.

* `Zone.cursor` : the cursor after a number of steps.
* `Zone.Covers` : the loop ends with exactly the dates of the range, in order.
* `Zone.Walkable` : the midnights that the walk steps on exist, and it reaches the last of them.
* `dateKeysBetween_covers` : a walkable range is covered, and no other range is where the midnights
  exist or where the last date begins with its own.
* `not_dateKeysBetween_covers` : a gap at midnight loses the last date.
-/

namespace HrBooking

namespace Zone

variable (z : Zone)

/-- The cursor after `k` steps from the start of the day of `a`. -/
def cursor (a : ℤ) (k : ℕ) : ℤ := (fun t => z.plusDays t 1)^[k] (z.startOfDay a)

/-- The loop ends, and these are the days it has met. -/
def WalksTo (a b : ℤ) (days : List ℤ) : Prop :=
  ∃ steps, ∀ fuel, steps ≤ fuel → z.daysLoop (z.startOfDay b) fuel (z.startOfDay a) = days

/-- The loop ends with the local dates of the instants from `a` to `b`, in order, and the keys are
theirs. -/
def Covers (a b : ℤ) : Prop :=
  ∃ days, z.WalksTo a b days ∧ z.calendar.dateKeysBetween a b = days.map formatDay ∧
    days.Pairwise (· < ·) ∧ ∀ d, d ∈ days ↔ ∃ t, a ≤ t ∧ t ≤ b ∧ z.day t = d

/-- Every midnight exists from the first date of the range to the one before its last. -/
def MidnightsExist (a b : ℤ) : Prop := ∀ d, z.day a ≤ d → d < z.day b → z.Shows (d * msPerDay)

/-- No date of the range comes before its first one, the midnights that lead from date to date
exist, no date starts after the date of `b` does, and a day after the start of the latest date is
after that. -/
structure Walkable (a b : ℤ) : Prop where
  first : ∀ t, a ≤ t → t ≤ b → z.day a ≤ z.day t
  midnights : ∀ t, a ≤ t → t ≤ b → z.MidnightsExist a t
  reached : ∀ t, a ≤ t → t ≤ b → z.midnight (z.day t) ≤ z.startOfDay b
  left : ∀ t, a ≤ t → t ≤ b → (∀ t', a ≤ t' → t' ≤ b → z.day t' ≤ z.day t) →
    z.startOfDay b < z.plusDays (z.midnight (z.day t)) 1

/-- The date begins with its midnight. -/
structure BeginsAtMidnight (d : ℤ) : Prop where
  shown : z.wall (z.midnight d) = d * msPerDay
  day_lt : ∀ t, t < z.midnight d → z.day t < d

variable {z} {a b d : ℤ} {n : ℤ}

/-! ### The loop -/

theorem cursor_zero : z.cursor a 0 = z.startOfDay a := rfl

theorem cursor_succ (k : ℕ) : z.cursor a (k + 1) = z.plusDays (z.cursor a k) 1 :=
  Function.iterate_succ_apply' ..

/-- While the cursor has not passed the last start, the loop meets the days of the cursors. -/
theorem daysLoop_eq {last : ℤ} {j m : ℕ} (hbefore : ∀ k, k < m → z.cursor a (j + k) ≤ last)
    (hafter : last < z.cursor a (j + m)) {fuel : ℕ} (hfuel : m ≤ fuel) :
    z.daysLoop last fuel (z.cursor a j) =
      (List.range m).map fun k => z.day (z.cursor a (j + k)) := by
  induction m generalizing j fuel with
  | zero =>
    cases fuel with
    | zero => rfl
    | succ fuel => exact if_neg (not_le.2 hafter)
  | succ m ih =>
    obtain ⟨fuel, rfl⟩ : ∃ f, fuel = f + 1 := ⟨fuel - 1, by omega⟩
    have hrest : z.daysLoop last fuel (z.cursor a (j + 1)) =
        (List.range m).map fun k => z.day (z.cursor a (j + 1 + k)) := by
      refine ih (fun k hk => ?_) ?_ (by omega)
      · rw [show j + 1 + k = j + (k + 1) by ring]
        exact hbefore (k + 1) (by omega)
      · rwa [show j + 1 + m = j + (m + 1) by ring]
    have hfirst : z.cursor a j ≤ last := hbefore 0 (by omega)
    rw [daysLoop, if_pos hfirst, ← cursor_succ, hrest, List.range_succ_eq_map, List.map_cons,
      List.map_map]
    refine congrArg _ (List.map_congr_left fun k _ => ?_)
    rw [Function.comp_apply, show j + 1 + k = j + (k + 1) by ring]

/-- A day that the loop meets is the day of a cursor, and no cursor before it has passed the last
start. -/
theorem exists_cursor_of_mem_daysLoop {last e : ℤ} {fuel j : ℕ}
    (h : e ∈ z.daysLoop last fuel (z.cursor a j)) :
    ∃ k, (∀ i, j ≤ i → i ≤ k → z.cursor a i ≤ last) ∧ z.day (z.cursor a k) = e := by
  induction fuel generalizing j with
  | zero => exact absurd h List.not_mem_nil
  | succ fuel ih =>
    rw [daysLoop] at h
    split_ifs at h with hle
    · rcases List.mem_cons.1 h with rfl | h
      · refine ⟨j, fun i hji hij => ?_, rfl⟩
        rwa [le_antisymm hij hji]
      · rw [← cursor_succ] at h
        obtain ⟨k, hbefore, hk⟩ := ih h
        refine ⟨k, fun i hji hik => ?_, hk⟩
        rcases hji.eq_or_lt with rfl | hlt
        · exact hle
        · exact hbefore i hlt hik
    · exact absurd h List.not_mem_nil

/-- The loop meets the day of a cursor, when it is given the steps and nothing stops it before. -/
theorem mem_daysLoop_cursor {last : ℤ} {fuel j k : ℕ} (hjk : j ≤ k)
    (hbefore : ∀ i, j ≤ i → i ≤ k → z.cursor a i ≤ last) (hfuel : k < j + fuel) :
    z.day (z.cursor a k) ∈ z.daysLoop last fuel (z.cursor a j) := by
  induction fuel generalizing j with
  | zero => omega
  | succ fuel ih =>
    rw [daysLoop, if_pos (hbefore j le_rfl hjk), ← cursor_succ, List.mem_cons]
    rcases hjk.eq_or_lt with rfl | hlt
    · exact .inl rfl
    · exact .inr (ih hlt (fun i hi => hbefore i (by omega)) (by omega))

/-! ### Readings of the cursor -/

section Readings

variable (h : z.Lawful) (hn : z.ShiftsAtMost n)
include h hn

/-- The cursor starts on its date, at midnight or after a gap. -/
theorem le_wall_midnight (d : ℤ) :
    d * msPerDay ≤ z.wall (z.midnight d) ∧ z.wall (z.midnight d) ≤ d * msPerDay + n := by
  have hnonneg : 0 ≤ n := (abs_nonneg _).trans (hn 0)
  rcases h.resolve_cases hn (d * msPerDay) with hshown | hmoved
  · rw [midnight, hshown]
    omega
  · rw [midnight]
    omega

/-- A step moves the reading by a day or, over a gap, by more. -/
theorem wall_cursor_succ (k : ℕ) :
    z.wall (z.cursor a k) + msPerDay ≤ z.wall (z.cursor a (k + 1)) ∧
      z.wall (z.cursor a (k + 1)) ≤ z.wall (z.cursor a k) + msPerDay + n := by
  have hnonneg : 0 ≤ n := (abs_nonneg _).trans (hn 0)
  have hplus : z.cursor a (k + 1) = z.resolve (z.wall (z.cursor a k) + msPerDay) := by
    rw [cursor_succ, plusDays, if_neg one_ne_zero, Nat.cast_one, one_mul]
  rw [hplus]
  rcases h.resolve_cases hn (z.wall (z.cursor a k) + msPerDay) with hshown | hmoved
  · rw [hshown]
    omega
  · omega

theorem day_midnight (hday : n < msPerDay) (d : ℤ) : z.day (z.midnight d) = d := by
  obtain ⟨hle, hle'⟩ := le_wall_midnight h hn d
  exact day_eq_iff.2 ⟨hle, by omega⟩

end Readings

/-! ### Walkable ranges -/

/-- A range has a latest date. -/
theorem exists_latest (z : Zone) (hab : a ≤ b) :
    ∃ t, a ≤ t ∧ t ≤ b ∧ ∀ t', a ≤ t' → t' ≤ b → z.day t' ≤ z.day t := by
  obtain ⟨t, ht, hlatest⟩ := (Finset.Icc a b).exists_max_image z.day
    ⟨a, Finset.mem_Icc.2 ⟨le_rfl, hab⟩⟩
  obtain ⟨hat, htb⟩ := Finset.mem_Icc.1 ht
  exact ⟨t, hat, htb, fun t' hat' htb' => hlatest t' (Finset.mem_Icc.2 ⟨hat', htb'⟩)⟩

/-- A date takes a millisecond at least. -/
theorem day_le_add (hn : z.ShiftsAtMost n) (hday : n < msPerDay) {t : ℤ} (hat : a ≤ t) :
    z.day t ≤ z.day a + (t - a) := by
  induction t, hat using Int.leInduction with
  | base => simp
  | succ t hat ih =>
    have hsucc := day_succ_le hn hday t
    omega

section Midnights

variable (h : z.Lawful) {t : ℤ} (hmidnights : z.MidnightsExist a t)
include h hmidnights

/-- The cursor is at the midnight of each date. -/
theorem MidnightsExist.cursor_eq {k : ℕ} (hk : z.day a + k ≤ z.day t) :
    z.cursor a k = z.midnight (z.day a + k) := by
  induction k with
  | zero => simp [cursor_zero, startOfDay]
  | succ k ih =>
    have hshows := hmidnights (z.day a + k) (by omega) (by omega)
    rw [cursor_succ, ih (by omega), plusDays, if_neg one_ne_zero, midnight, h.wall_resolve hshows,
      midnight]
    congr 1
    push_cast
    ring

theorem MidnightsExist.day_cursor (hn : z.ShiftsAtMost n) (hday : n < msPerDay) {k : ℕ}
    (hk : z.day a + k ≤ z.day t) : z.day (z.cursor a k) = z.day a + k := by
  rw [hmidnights.cursor_eq h hk, day_midnight h hn hday]

end Midnights

section Walkable

variable (h : z.Lawful) (hn : z.ShiftsAtMost n) (hday : n < msPerDay) (hw : z.Walkable a b)
include h hn hday hw

/-- **A walkable range** is walked date by date. -/
theorem Walkable.daysLoop_eq {t : ℤ} (hat : a ≤ t) (htb : t ≤ b)
    (hlatest : ∀ t', a ≤ t' → t' ≤ b → z.day t' ≤ z.day t) {m : ℕ} (hm : z.day a + m = z.day t)
    {fuel : ℕ} (hfuel : m + 1 ≤ fuel) :
    z.daysLoop (z.startOfDay b) fuel (z.startOfDay a) =
      (List.range (m + 1)).map fun k : ℕ => z.day a + k := by
  have hmidnights := hw.midnights t hat htb
  have hbefore : ∀ k, k < m + 1 → z.cursor a (0 + k) ≤ z.startOfDay b := by
    intro k hk
    obtain ⟨t', hat', htb', ht'⟩ :=
      exists_day_eq hn hday hat (d := z.day a + k) (by omega) (by omega)
    rw [zero_add, hmidnights.cursor_eq h (by omega), ← ht']
    exact hw.reached t' hat' (htb'.trans htb)
  have hafter : z.startOfDay b < z.cursor a (0 + (m + 1)) := by
    rw [zero_add, cursor_succ, hmidnights.cursor_eq h hm.le, hm]
    exact hw.left t hat htb hlatest
  rw [← cursor_zero (a := a), Zone.daysLoop_eq hbefore hafter hfuel]
  refine List.map_congr_left fun k hk => ?_
  have hk := List.mem_range.1 hk
  rw [zero_add, hmidnights.day_cursor h hn hday (by omega)]

/-- **A walkable range is covered.** -/
theorem Walkable.covers (hab : a ≤ b) : z.Covers a b := by
  obtain ⟨t, hat, htb, hlatest⟩ := exists_latest z hab
  obtain ⟨m, hm⟩ := Int.le.dest (hw.first t hat htb)
  have hwalk : ∀ {fuel}, m + 1 ≤ fuel →
      z.daysLoop (z.startOfDay b) fuel (z.startOfDay a) =
        (List.range (m + 1)).map fun k : ℕ => z.day a + k :=
    hw.daysLoop_eq h hn hday hat htb hlatest hm
  have hsteps : m ≤ (b - a).toNat := by
    have hle := day_le_add hn hday hat
    omega
  refine ⟨_, ⟨m + 1, fun fuel => hwalk⟩, congrArg (List.map formatDay) (hwalk (by omega)), ?_,
    fun d => ?_⟩
  · rw [List.pairwise_map]
    exact List.pairwise_lt_range.imp fun hlt => by omega
  · rw [List.mem_map]
    constructor
    · rintro ⟨k, hk, rfl⟩
      have hk := List.mem_range.1 hk
      obtain ⟨t', hat', htb', ht'⟩ :=
        exists_day_eq hn hday hat (d := z.day a + k) (by omega) (by omega)
      exact ⟨t', hat', htb'.trans htb, ht'⟩
    · rintro ⟨t', hat', htb', rfl⟩
      have hle := hw.first t' hat' htb'
      have hle' := hlatest t' hat' htb'
      exact ⟨(z.day t' - z.day a).toNat, List.mem_range.2 (by omega), by omega⟩

end Walkable

/-! ### Covered ranges -/

section Covered

variable (h : z.Lawful) (hn : z.ShiftsAtMost n) (hday : n < msPerDay)
include h hn

/-- The cursor gets a day further with every step, at least. -/
theorem wall_cursor_add_le {j k : ℕ} (hjk : j ≤ k) :
    z.wall (z.cursor a j) + (k - j) * msPerDay ≤ z.wall (z.cursor a k) := by
  induction k, hjk using Nat.le_induction with
  | base => simp
  | succ k hjk ih =>
    have hstep := (wall_cursor_succ h hn (a := a) k).1
    calc z.wall (z.cursor a j) + ((k + 1 : ℕ) - j) * msPerDay
        = z.wall (z.cursor a j) + (k - j) * msPerDay + msPerDay := by push_cast; ring
      _ ≤ z.wall (z.cursor a k) + msPerDay := by omega
      _ ≤ z.wall (z.cursor a (k + 1)) := hstep

/-- So does its date. -/
theorem day_cursor_lt {j k : ℕ} (hjk : j < k) : z.day (z.cursor a j) < z.day (z.cursor a k) := by
  have hstep := (wall_cursor_succ h hn (a := a) j).1
  have hrest := wall_cursor_add_le h hn (a := a) (show j + 1 ≤ k from hjk)
  have hnonneg : 0 ≤ ((k : ℤ) - (j + 1 : ℕ)) * msPerDay :=
    mul_nonneg (by omega) (by decide)
  have hle := (day_eq_iff.1 (rfl : z.day (z.cursor a j) = _)).1
  have hlt := (day_eq_iff.1 (rfl : z.day (z.cursor a k) = _)).2
  have hpos : (0 : ℤ) < msPerDay := by decide
  by_contra hnot
  have hmul : z.day (z.cursor a k) * msPerDay ≤ z.day (z.cursor a j) * msPerDay :=
    mul_le_mul_of_nonneg_right (not_lt.1 hnot) hpos.le
  omega

theorem day_cursor_inj {j k : ℕ} (hjk : z.day (z.cursor a j) = z.day (z.cursor a k)) : j = k := by
  rcases lt_trichotomy j k with hlt | heq | hlt
  · exact absurd hjk (day_cursor_lt h hn hlt).ne
  · exact heq
  · exact absurd hjk.symm (day_cursor_lt h hn hlt).ne

include hday

theorem day_cursor_zero : z.day (z.cursor a 0) = z.day a := day_midnight h hn hday _

omit h hn hday in
/-- Every date of a covered range is the day of a cursor, and no cursor before it has passed the
last start. -/
theorem Covers.exists_cursor (hc : z.Covers a b) {t : ℤ} (hat : a ≤ t) (htb : t ≤ b) :
    ∃ k, (∀ i, i ≤ k → z.cursor a i ≤ z.startOfDay b) ∧ z.day (z.cursor a k) = z.day t := by
  obtain ⟨days, ⟨steps, hloop⟩, -, -, hmem⟩ := hc
  have ht : z.day t ∈ days := (hmem _).2 ⟨t, hat, htb, rfl⟩
  rw [← hloop steps le_rfl, ← cursor_zero (a := a)] at ht
  obtain ⟨k, hbefore, hk⟩ := exists_cursor_of_mem_daysLoop ht
  exact ⟨k, fun i => hbefore i (Nat.zero_le i), hk⟩

omit h hn hday in
/-- The cursors that have not passed the last start are on dates of the range. -/
theorem Covers.exists_day (hc : z.Covers a b) {k : ℕ}
    (hbefore : ∀ i, i ≤ k → z.cursor a i ≤ z.startOfDay b) :
    ∃ t, a ≤ t ∧ t ≤ b ∧ z.day t = z.day (z.cursor a k) := by
  obtain ⟨days, ⟨steps, hloop⟩, -, -, hmem⟩ := hc
  refine (hmem _).1 ?_
  rw [← hloop (steps + k + 1) (by omega), ← cursor_zero]
  exact mem_daysLoop_cursor (Nat.zero_le k) (fun i _ => hbefore i) (by omega)

theorem Covers.first (hc : z.Covers a b) {t : ℤ} (hat : a ≤ t) (htb : t ≤ b) :
    z.day a ≤ z.day t := by
  obtain ⟨k, -, hk⟩ := hc.exists_cursor hat htb
  rw [← day_cursor_zero h hn hday, ← hk]
  rcases Nat.eq_zero_or_pos k with rfl | hpos
  · exact le_rfl
  · exact (day_cursor_lt h hn hpos).le

/-- **A covered range** whose midnights exist is walkable. -/
theorem Covers.walkable (hc : z.Covers a b)
    (hmidnights : ∀ t, a ≤ t → t ≤ b → z.MidnightsExist a t) : z.Walkable a b := by
  -- the cursor meets a date at its midnight, after as many steps
  have hmet : ∀ t, a ≤ t → t ≤ b → ∃ k : ℕ, z.cursor a k = z.midnight (z.day t) ∧
      z.day (z.cursor a k) = z.day t ∧ ∀ i, i ≤ k → z.cursor a i ≤ z.startOfDay b := by
    intro t hat htb
    obtain ⟨k, hk⟩ := Int.le.dest (hc.first h hn hday hat htb)
    have hcursor := (hmidnights t hat htb).cursor_eq h hk.le
    have hdate := (hmidnights t hat htb).day_cursor h hn hday hk.le
    rw [hk] at hcursor hdate
    obtain ⟨j, hbefore, hj⟩ := hc.exists_cursor hat htb
    obtain rfl : j = k := day_cursor_inj h hn (hj.trans hdate.symm)
    exact ⟨j, hcursor, hdate, hbefore⟩
  refine ⟨fun t => hc.first h hn hday, hmidnights, fun t hat htb => ?_,
    fun t hat htb hlatest => ?_⟩
  · obtain ⟨k, hcursor, -, hbefore⟩ := hmet t hat htb
    rw [← hcursor]
    exact hbefore k le_rfl
  · obtain ⟨k, hcursor, hdate, hbefore⟩ := hmet t hat htb
    rw [← hcursor, ← cursor_succ]
    by_contra hnot
    obtain ⟨t', hat', htb', ht'⟩ := hc.exists_day (k := k + 1) fun i hi => by
      rcases Nat.le_succ_iff.1 hi with hi | rfl
      · exact hbefore i hi
      · exact not_lt.1 hnot
    have hlt := day_cursor_lt h hn (a := a) (show k < k + 1 by omega)
    have hle := hlatest t' hat' htb'
    omega

/-- The cursor meets every date of a covered range in its turn. -/
theorem Covers.day_cursor (hc : z.Covers a b) (hab : a ≤ b) {k : ℕ} (hk : z.day a + k ≤ z.day b) :
    z.day (z.cursor a k) = z.day a + k := by
  induction k with
  | zero => simpa using day_cursor_zero h hn hday
  | succ k ih =>
    have hbefore := ih (by omega)
    have hstep := day_cursor_lt h hn (a := a) (show k < k + 1 by omega)
    by_contra hne
    -- the date that the step leaves out is met by no other cursor
    obtain ⟨t, hat, htb, ht⟩ := exists_day_eq hn hday hab (d := z.day a + (k + 1)) (by omega)
      (by omega)
    obtain ⟨j, -, hj⟩ := hc.exists_cursor hat htb
    rcases lt_trichotomy j (k + 1) with hlt | rfl | hlt
    · rcases Nat.lt_succ_iff_lt_or_eq.1 hlt with hlt | rfl
      · have := day_cursor_lt h hn (a := a) hlt
        omega
      · omega
    · omega
    · have := day_cursor_lt h hn (a := a) hlt
      omega

/-- **A covered range** whose last date begins with its midnight is walked on midnights. -/
theorem Covers.midnights (hc : z.Covers a b) (hab : a ≤ b)
    (hbegins : z.BeginsAtMidnight (z.day b)) {t : ℤ} (hat : a ≤ t) (htb : t ≤ b) :
    z.MidnightsExist a t := by
  have hlast : ∀ k, z.cursor a k ≤ z.startOfDay b → z.day (z.cursor a k) ≤ z.day b := by
    intro k hk
    rcases hk.lt_or_eq with hlt | heq
    · exact (hbegins.day_lt _ hlt).le
    · rw [heq, startOfDay, day_midnight h hn hday]
  obtain ⟨m, hm⟩ := Int.le.dest (hc.first h hn hday hab le_rfl)
  -- the last date is met at its midnight
  have hend : z.wall (z.cursor a m) = z.day b * msPerDay := by
    have hday_m := hc.day_cursor h hn hday hab hm.le
    obtain ⟨k, hbefore, hk⟩ := hc.exists_cursor hab le_rfl
    obtain rfl : k = m := day_cursor_inj h hn (hk.trans (hm.symm.trans hday_m.symm))
    rcases (hbefore k le_rfl).lt_or_eq with hlt | heq
    · exact absurd (hbegins.day_lt _ hlt) (by omega)
    · rw [heq]
      exact hbegins.shown
  intro d hd hdt
  -- so the cursor has not been pushed off midnight before
  obtain ⟨k, hk⟩ := Int.le.dest hd
  have hdb : d < z.day b := by
    obtain ⟨j, hbefore, hj⟩ := hc.exists_cursor hat htb
    have hle := hlast j (hbefore j le_rfl)
    omega
  have hday_k := hc.day_cursor h hn hday hab (k := k) (by omega)
  have hle := wall_cursor_add_le h hn (a := a) (show k ≤ m by omega)
  have hstart := (day_eq_iff.1 hday_k).1
  have hsum : (z.day a + k) * msPerDay + ((m : ℤ) - k) * msPerDay = z.day b * msPerDay := by
    rw [← add_mul, ← hm]
    congr 1
    ring
  refine ⟨z.cursor a k, ?_⟩
  rw [← hk]
  omega

end Covered

/-- A day later is later, unless the clock is put back by a day. -/
theorem lt_plusDays (h : z.Lawful) (hn : z.ShiftsAtMost n)
    (hback : ∀ t t', t ≤ t' → z.wall t < z.wall t' + msPerDay) (t : ℤ) : t < z.plusDays t 1 := by
  by_contra hnot
  have hlt := hback _ _ (not_lt.1 hnot)
  rw [plusDays, if_neg one_ne_zero, Nat.cast_one, one_mul] at hlt
  rcases h.resolve_cases hn (z.wall t + msPerDay) with hshown | ⟨hmoved, -⟩
  · omega
  · omega

/-- **The dates of a range.**  In a zone whose transitions shift the clock by at most three hours, a
walkable range is covered by its keys.  Where the midnights exist, or where the last date begins
with its midnight, a range that is covered is walkable. -/
theorem dateKeysBetween_covers (h : z.Lawful) (hn : z.ShiftsAtMost (3 * 60 * 60000)) (hab : a ≤ b) :
    (z.Walkable a b → z.Covers a b) ∧
      ((∀ t, a ≤ t → t ≤ b → z.MidnightsExist a t) ∨ z.BeginsAtMidnight (z.day b) →
        z.Covers a b → z.Walkable a b) := by
  refine ⟨fun hw => hw.covers h hn (by decide) hab, fun hor hc => ?_⟩
  refine hc.walkable h hn (by decide) ?_
  rcases hor with hmidnights | hbegins
  · exact hmidnights
  · exact fun t => hc.midnights h hn (by decide) hab hbegins

/-! ### One transition -/

/-- When the clock is put forward at another time than midnight, every range is walkable. -/
theorem putForward_walkable {T gap : ℤ} (hgap : 0 ≤ gap)
    (hT : ∀ d : ℤ, d * msPerDay < T ∨ T + gap ≤ d * msPerDay) :
    (putForward T gap).Walkable a b := by
  have hpos : (0 : ℤ) < msPerDay := by decide
  have hlawful := putForward_lawful (T := T) hgap
  have hday : ∀ {t t'}, t ≤ t' → (putForward T gap).day t ≤ (putForward T gap).day t' :=
    fun h => Int.ediv_le_ediv (by decide) (wall_putForward_mono hgap h)
  have hmidnight : ∀ d, (putForward T gap).wall ((putForward T gap).midnight d) = d * msPerDay :=
    fun d => hlawful.wall_resolve (shows_putForward (hT d))
  have hmono : ∀ {d d'}, d ≤ d' →
      (putForward T gap).midnight d ≤ (putForward T gap).midnight d' := by
    intro d d' hd
    rcases hd.eq_or_lt with rfl | hlt
    · exact le_rfl
    · by_contra hnot
      have hle := wall_putForward_mono (T := T) hgap (not_le.1 hnot).le
      rw [hmidnight, hmidnight] at hle
      exact absurd (le_of_mul_le_mul_right hle hpos) (not_le.2 hlt)
  refine ⟨fun t hat htb => hday hat, fun t _ _ d _ _ => shows_putForward (hT d),
    fun t hat htb => hmono (hday htb), fun t hat htb hlatest => ?_⟩
  refine lt_of_le_of_lt (hmono (hlatest b (hat.trans htb) le_rfl)) ?_
  exact lt_plusDays hlawful (putForward_shiftsAtMost hgap)
    (fun t t' h => lt_of_le_of_lt (wall_putForward_mono hgap h) (lt_add_of_pos_right _ hpos)) _

/-- When the gap and the readings that are moved over it stay within a date, the zone is steady. -/
theorem putForward_steady {T gap : ℤ} (hgap : 0 ≤ gap)
    (hT : ∀ d : ℤ, d * msPerDay ≤ T ∨ T + 2 * gap ≤ d * msPerDay) : (putForward T gap).Steady where
  wall_resolve t := (putForward_lawful hgap).wall_resolve ⟨t, rfl⟩
  day_mono _ _ h := Int.ediv_le_ediv (by decide) (wall_putForward_mono hgap h)
  day_resolve d m hm := by
    have hnext := hT (d + 1)
    rw [day_eq_iff, wall_putForward]
    simp only [putForward, msPerDay] at hnext ⊢
    split_ifs <;> omega

/-- The clock is put forward from two to three o'clock; three days and a half are covered. -/
theorem dateKeysBetween_covers_morning :
    (putForward (26 * 60 * 60000) (60 * 60000)).Covers 0 (84 * 60 * 60000) := by
  refine (dateKeysBetween_covers (putForward_lawful (by decide)) (fun T => ?_) (by decide)).1
    (putForward_walkable (by decide) fun d => ?_)
  · exact (putForward_shiftsAtMost (by decide) T).trans (by decide)
  · simp only [msPerDay]
    omega

/-- The clock is put forward from midnight to one o'clock on the second day. -/
def midnightGap : Zone := putForward msPerDay (60 * 60000)

/-- **A gap at midnight loses the last date**: the cursor stays at one o'clock, after the midnight
of the third day. -/
theorem not_dateKeysBetween_covers :
    ¬ ∀ (z : Zone) (a b : ℤ), z.Lawful → z.ShiftsAtMost (3 * 60 * 60000) → a ≤ b →
      z.Covers a b := by
  intro h
  obtain ⟨days, ⟨steps, hloop⟩, -, -, hmem⟩ := h midnightGap 0 (58 * 60 * 60000)
    (putForward_lawful (by decide))
    (fun T => (putForward_shiftsAtMost (by decide) T).trans (by decide)) (by decide)
  have hwalk : days = [0, 1] := by
    rw [← hloop (steps + 2) (by omega), ← cursor_zero (a := 0),
      daysLoop_eq (z := midnightGap) (a := 0) (j := 0) (m := 2) (by decide +kernel)
        (by decide +kernel) (by omega)]
    decide +kernel
  have hlast : (2 : ℤ) ∈ days := (hmem 2).2 ⟨58 * 60 * 60000, by decide, le_rfl, by decide +kernel⟩
  rw [hwalk] at hlast
  exact absurd hlast (by decide)

end Zone

end HrBooking
