import Mathlib.Tactic.Common
import Mathlib.Data.Int.Order.Basic

/-!
# Days of the proleptic Gregorian calendar

A day is counted from 1970-01-01.  `Civil.ofDay` splits a day into year, month and day of the
month, `Civil.toDay` counts back; years are taken to begin in March, which puts the leap day at
the end of the year.  `Civil.toDay_ofDay` is the round trip, so that two days with the same date
are the same day (`Civil.ofDay_injective`).
-/

namespace HrBooking

/-- A calendar date. -/
structure Civil where
  /-- The astronomical year. -/
  year : ℤ
  /-- The month, from 1. -/
  month : ℕ
  /-- The day of the month, from 1. -/
  day : ℕ
  deriving DecidableEq, Repr

namespace Civil

/-- Days from the start of a March-based year to the start of its month `m` (March is 0). -/
def daysBeforeMonth (m : ℕ) : ℕ := (153 * m + 2) / 5

/-- The day a date names. -/
def toDay (c : Civil) : ℤ :=
  let y := if c.month ≤ 2 then c.year - 1 else c.year
  let m := (c.month + 9) % 12
  365 * y + y / 4 - y / 100 + y / 400 + (daysBeforeMonth m + c.day : ℕ) - 1 - 719468

/-- The March-based year of the `n`-th day of a 400-year era, and the day of that year. -/
def splitEra (n : ℕ) : ℕ × ℕ :=
  let century := min (n / 36524) 3
  let n₁ := n - 36524 * century
  let quad := n₁ / 1461
  let n₂ := n₁ - 1461 * quad
  let year := min (n₂ / 365) 3
  (100 * century + 4 * quad + year, n₂ - 365 * year)

/-- The calendar month of a March-based month. -/
def monthOfMarch (m : ℕ) : ℕ := if m < 10 then m + 3 else m - 9

/-- The date of a day. -/
def ofDay (z : ℤ) : Civil :=
  let era := (z + 719468) / 146097
  let (yoe, doy) := splitEra ((z + 719468) % 146097).toNat
  let m := (5 * doy + 2) / 153
  { year := 400 * era + yoe + if m < 10 then 0 else 1
    month := monthOfMarch m
    day := doy + 1 - daysBeforeMonth m }

theorem splitEra_spec {n : ℕ} (h : n < 146097) :
    (splitEra n).1 < 400 ∧ (splitEra n).2 ≤ 365 ∧
      365 * (splitEra n).1 + (splitEra n).1 / 4 - (splitEra n).1 / 100 + (splitEra n).2 = n := by
  simp only [splitEra]
  obtain ⟨c, hc, hc3, hn₁⟩ : ∃ c, min (n / 36524) 3 = c ∧ c ≤ 3 ∧ 36524 * c ≤ n ∧
      n - 36524 * c ≤ 36524 := ⟨_, rfl, by omega, by omega, by omega⟩
  rw [hc]
  generalize hn₁' : n - 36524 * c = n₁ at *
  obtain ⟨q, hq, hq24, hn₂⟩ : ∃ q, n₁ / 1461 = q ∧ q ≤ 24 ∧ 1461 * q ≤ n₁ ∧
      n₁ - 1461 * q ≤ 1460 := ⟨_, rfl, by omega, by omega, by omega⟩
  rw [hq]
  generalize hn₂' : n₁ - 1461 * q = n₂ at *
  obtain ⟨y, hy, hy3, hd⟩ : ∃ y, min (n₂ / 365) 3 = y ∧ y ≤ 3 ∧ 365 * y ≤ n₂ ∧
      n₂ - 365 * y ≤ 365 := ⟨_, rfl, by omega, by omega, by omega⟩
  rw [hy]
  -- the 4-year and 100-year blocks of a year are the ones it was built from
  have h4 : (100 * c + 4 * q + y) / 4 = 25 * c + q := by omega
  have h100 : (100 * c + 4 * q + y) / 100 = c := by omega
  rw [h4, h100]
  omega

theorem month_range {doy : ℕ} (h : doy ≤ 365) : (5 * doy + 2) / 153 ≤ 11 := by omega

theorem daysBeforeMonth_le (doy : ℕ) : daysBeforeMonth ((5 * doy + 2) / 153) ≤ doy := by
  simp only [daysBeforeMonth]; omega

theorem monthOfMarch_back {m : ℕ} (h : m ≤ 11) : (monthOfMarch m + 9) % 12 = m := by
  unfold monthOfMarch; split_ifs <;> omega

theorem monthOfMarch_le_two {m : ℕ} (h : m ≤ 11) : monthOfMarch m ≤ 2 ↔ ¬ m < 10 := by
  unfold monthOfMarch; split_ifs <;> omega

theorem ofDay_month_range (z : ℤ) : 1 ≤ (ofDay z).month ∧ (ofDay z).month ≤ 12 := by
  have h : ((z + 719468) % 146097).toNat < 146097 := by omega
  have hm := month_range (splitEra_spec h).2.1
  simp only [ofDay, monthOfMarch]
  split_ifs <;> omega

theorem ofDay_day_range (z : ℤ) : 1 ≤ (ofDay z).day ∧ (ofDay z).day ≤ 31 := by
  have h : ((z + 719468) % 146097).toNat < 146097 := by omega
  have hd := (splitEra_spec h).2.1
  simp only [ofDay, daysBeforeMonth]
  omega

theorem toDay_ofDay (z : ℤ) : toDay (ofDay z) = z := by
  obtain ⟨n, hn⟩ : ∃ n : ℕ, (z + 719468) % 146097 = n := ⟨((z + 719468) % 146097).toNat, by omega⟩
  have hera : z + 719468 = 146097 * ((z + 719468) / 146097) + n := by omega
  obtain ⟨hy, hd, hsum⟩ := splitEra_spec (n := n) (by omega)
  have hm := month_range hd
  have hb := daysBeforeMonth_le (splitEra n).2
  simp only [toDay, ofDay, hn, Int.toNat_natCast, monthOfMarch_back hm, monthOfMarch_le_two hm]
  generalize (z + 719468) / 146097 = era at *
  generalize (splitEra n).1 = yoe at *
  generalize (splitEra n).2 = doy at *
  generalize daysBeforeMonth ((5 * doy + 2) / 153) = before at *
  -- a date in January or February counts towards the March-based year before
  have hyear : (if ¬ (5 * doy + 2) / 153 < 10
      then 400 * era + (yoe : ℤ) + (if (5 * doy + 2) / 153 < 10 then 0 else 1) - 1
      else 400 * era + (yoe : ℤ) + (if (5 * doy + 2) / 153 < 10 then 0 else 1)) =
        400 * era + yoe := by
    split_ifs <;> omega
  rw [hyear]
  have h4 : (400 * era + (yoe : ℤ)) / 4 = 100 * era + (yoe / 4 : ℕ) := by omega
  have h100 : (400 * era + (yoe : ℤ)) / 100 = 4 * era + (yoe / 100 : ℕ) := by omega
  have h400 : (400 * era + (yoe : ℤ)) / 400 = era := by omega
  rw [h4, h100, h400]
  omega

theorem ofDay_injective : Function.Injective ofDay :=
  Function.LeftInverse.injective toDay_ofDay

/-- The weekday of a day, 0 for Sunday. -/
def weekday (z : ℤ) : ℕ := ((z + 4) % 7).toNat

example : ofDay 20454 = ⟨2026, 1, 1⟩ := by decide

end Civil

end HrBooking
