import Mathlib.Algebra.Order.Round
import Mathlib.Data.Int.Log
import Mathlib.Data.Rat.Floor
import Mathlib.Tactic.Linarith
import Mathlib.Tactic.Positivity
import Mathlib.Tactic.FieldSimp

/-!
# Binary floating point

A positive rational number in the nearest binary format of a given precision.  The exponents have
no bounds here: what is rounded is neither tiny nor huge.

* `roundHalfEven` : the nearest integer, the even one of two.
* `nearestFloat` : the nearest number of `p` significant bits.
* `abs_nearestFloat_sub_le` : how far that is off.
* `round_mul_nearestFloat` : a quotient that is rounded keeps its numerator, while it is small.
-/

namespace HrBooking

/-- The nearest integer, the even one of two. -/
def roundHalfEven (x : ℚ) : ℤ :=
  if Int.fract x < 1 / 2 then ⌊x⌋
  else if 1 / 2 < Int.fract x then ⌊x⌋ + 1
  else if Even ⌊x⌋ then ⌊x⌋ else ⌊x⌋ + 1

theorem abs_roundHalfEven_sub_le (x : ℚ) : |roundHalfEven x - x| ≤ 1 / 2 := by
  have hfract := Int.self_sub_floor x
  have hnonneg := Int.fract_nonneg x
  have hlt := Int.fract_lt_one x
  unfold roundHalfEven
  rw [abs_le]
  split_ifs with hdown hup heven
  all_goals
    push_cast
    constructor <;> linarith

/-- The distance of two neighbours among the numbers of `p` significant bits. -/
def ulp (p : ℕ) (x : ℚ) : ℚ := 2 ^ (Int.log 2 x + 1 - p)

/-- The nearest number of `p` significant bits. -/
def nearestFloat (p : ℕ) (x : ℚ) : ℚ := roundHalfEven (x / ulp p x) * ulp p x

theorem ulp_pos (p : ℕ) (x : ℚ) : 0 < ulp p x := zpow_pos two_pos _

theorem ulp_le {p : ℕ} {x : ℚ} (hx : 0 < x) : ulp p x ≤ 2 * x / 2 ^ p := by
  have hlog : (2 : ℚ) ^ Int.log 2 x ≤ x := by
    exact_mod_cast Int.zpow_log_le_self (b := 2) Nat.one_lt_two hx
  rw [ulp, zpow_sub₀ two_ne_zero, zpow_add_one₀ two_ne_zero, zpow_natCast, mul_comm]
  gcongr

/-- **The nearest float** is off by half a unit in the last place. -/
theorem abs_nearestFloat_sub_le {p : ℕ} {x : ℚ} (hx : 0 < x) :
    |nearestFloat p x - x| ≤ x / 2 ^ p := by
  have hulp := ulp_pos p x
  have hsplit : nearestFloat p x - x = (roundHalfEven (x / ulp p x) - x / ulp p x) * ulp p x := by
    rw [nearestFloat, sub_mul, div_mul_cancel₀ x hulp.ne']
  calc |nearestFloat p x - x|
      = |roundHalfEven (x / ulp p x) - x / ulp p x| * ulp p x := by
        rw [hsplit, abs_mul, abs_of_pos hulp]
    _ ≤ 1 / 2 * (2 * x / 2 ^ p) := by
        gcongr
        · exact abs_roundHalfEven_sub_le _
        · exact ulp_le hx
    _ = x / 2 ^ p := by ring

/-- **A quotient that is rounded** keeps its numerator, when the numerator has less bits than the
format. -/
theorem round_mul_nearestFloat {p k n : ℕ} (hk : 0 < k) (hn : 2 * n < 2 ^ p) :
    round (k * nearestFloat p (n / k)) = n := by
  rcases Nat.eq_zero_or_pos n with rfl | hpos
  · simp [nearestFloat, roundHalfEven]
  · have hquotient : (0 : ℚ) < n / k := by positivity
    have hsmall : (n : ℚ) / 2 ^ p < 1 / 2 := by
      rw [div_lt_div_iff₀ (by positivity) two_pos]
      exact_mod_cast (by omega : n * 2 < 1 * 2 ^ p)
    have hdistance : |(k : ℚ) * nearestFloat p (n / k) - (n : ℤ)| < 1 / 2 := by
      calc |(k : ℚ) * nearestFloat p (n / k) - (n : ℤ)|
          = k * |nearestFloat p (n / k) - n / k| := by
            have hsplit : (k : ℚ) * nearestFloat p (n / k) - (n : ℤ) =
                k * (nearestFloat p (n / k) - n / k) := by
              push_cast
              field_simp
            rw [hsplit, abs_mul, abs_of_pos (by positivity)]
        _ ≤ k * (n / k / 2 ^ p) := by
            gcongr
            exact abs_nearestFloat_sub_le hquotient
        _ = n / 2 ^ p := by field_simp
        _ < 1 / 2 := hsmall
    obtain ⟨hlow, hhigh⟩ := abs_lt.1 hdistance
    rw [round_eq_iff, Set.mem_Ico]
    constructor <;> linarith

end HrBooking
