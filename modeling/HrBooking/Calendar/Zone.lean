import HrBooking.Calendar.Iso
import Mathlib.Tactic.Ring

/-!
# Time zones

A `Zone` gives every instant its offset from UTC and every wall-clock reading the instant it is
taken to mean.  A reading that two instants show is resolved to one of them, and a reading that no
instant shows to some instant nearby; which one is the business of the library that reads clocks.

Calendar days are walked in the way of a date library: from the start of one day, add a day to the
wall clock, until the start of the last day is passed (`Zone.daysLoop`).  In a regular zone the
walk meets every day of the range (`Zone.Steady.mem_daysBetween`).
-/

namespace HrBooking

/-- A time zone: offsets in milliseconds, and the resolution of wall-clock readings. -/
structure Zone where
  /-- The offset from UTC in force at an instant. -/
  offset : ℤ → ℤ
  /-- The instant a wall-clock reading is taken to mean. -/
  resolve : ℤ → ℤ

namespace Zone

variable (z : Zone)

/-- The wall-clock reading at an instant, as milliseconds of local time. -/
def wall (t : ℤ) : ℤ := t + z.offset t

/-- The local calendar day of an instant. -/
def day (t : ℤ) : ℤ := z.wall t / msPerDay

/-- The instant a local midnight is taken to mean. -/
def midnight (d : ℤ) : ℤ := z.resolve (d * msPerDay)

/-- The start of the local day of an instant. -/
def startOfDay (t : ℤ) : ℤ := z.midnight (z.day t)

/-- The same wall-clock time `n` days later; adding no days changes nothing. -/
def plusDays (t : ℤ) (n : ℕ) : ℤ := if n = 0 then t else z.resolve (z.wall t + n * msPerDay)

/-- The days met from `cursor` to `last`, for at most the given number of steps. -/
def daysLoop (last : ℤ) : ℕ → ℤ → List ℤ
  | 0, _ => []
  | fuel + 1, cursor =>
    if cursor ≤ last then z.day cursor :: daysLoop last fuel (z.plusDays cursor 1) else []

/-- The days met from the start of the day of `a` to the start of the day of `b`.  The steps are
enough where each of them moves the cursor forward, by a millisecond at least, and where the loop
ends with the dates of the range, of which a millisecond meets one at most. -/
def daysBetween (a b : ℤ) : List ℤ :=
  z.daysLoop (z.startOfDay b)
    ((z.startOfDay b - z.startOfDay a).toNat + (b - a).toNat + 1) (z.startOfDay a)

/-- A regular zone: a reading that exists resolves to an instant that shows it, every local
midnight exists, local dates never go backwards, and every minute of a date resolves to an instant
of that date. -/
structure Regular : Prop where
  /-- Readings that exist are resolved to an instant that shows them. -/
  wall_resolve : ∀ t, z.wall (z.resolve (z.wall t)) = z.wall t
  /-- Every local midnight exists. -/
  midnight_exists : ∀ d : ℤ, ∃ t, z.wall t = d * msPerDay
  /-- Local dates never go backwards. -/
  day_mono : ∀ t t', t ≤ t' → z.day t ≤ z.day t'
  /-- Every wall-clock minute of a date resolves to an instant on that date. -/
  day_resolve : ∀ (d : ℤ) (m : ℕ), m < 1440 → z.day (z.resolve (d * msPerDay + m * 60000)) = d

/-- Universal time. -/
def utc : Zone := ⟨fun _ => 0, id⟩

theorem utc_regular : utc.Regular where
  wall_resolve t := by simp [wall, utc]
  midnight_exists d := ⟨d * msPerDay, by simp [wall, utc]⟩
  day_mono t t' h := by
    have : (0 : ℤ) < msPerDay := by decide
    simpa [day, wall, utc] using Int.ediv_le_ediv this h
  day_resolve d m hm := by
    simp only [day, wall, utc, id_eq, msPerDay]
    omega

/-- What of a regular zone the walk needs: midnights may be missing. -/
structure Steady : Prop where
  /-- Readings that exist are resolved to an instant that shows them. -/
  wall_resolve : ∀ t, z.wall (z.resolve (z.wall t)) = z.wall t
  /-- Local dates never go backwards. -/
  day_mono : ∀ t t', t ≤ t' → z.day t ≤ z.day t'
  /-- Every wall-clock minute of a date resolves to an instant on that date. -/
  day_resolve : ∀ (d : ℤ) (m : ℕ), m < 1440 → z.day (z.resolve (d * msPerDay + m * 60000)) = d

variable {z}

theorem Regular.steady (h : z.Regular) : z.Steady := ⟨h.wall_resolve, h.day_mono, h.day_resolve⟩

namespace Steady

variable (h : z.Steady)
include h

theorem day_midnight (d : ℤ) : z.day (z.midnight d) = d := by
  have hday := h.day_resolve d 0 (by decide)
  rwa [Nat.cast_zero, zero_mul, add_zero] at hday

theorem midnight_le_iff {d d' : ℤ} : z.midnight d ≤ z.midnight d' ↔ d ≤ d' := by
  have hle : ∀ {d d' : ℤ}, z.midnight d ≤ z.midnight d' → d ≤ d' := by
    intro d d' hm
    have := h.day_mono _ _ hm
    rwa [h.day_midnight, h.day_midnight] at this
  refine ⟨hle, fun hd => ?_⟩
  rcases hd.lt_or_eq with hlt | rfl
  · by_contra hm
    exact absurd (hle (not_le.1 hm).le) (not_le.2 hlt)
  · exact le_rfl

theorem midnight_lt_iff {d d' : ℤ} : z.midnight d < z.midnight d' ↔ d < d' := by
  rw [← not_le, h.midnight_le_iff, not_le]

theorem plusDays_midnight {d : ℤ} (hd : ∃ t, z.wall t = d * msPerDay) :
    z.plusDays (z.midnight d) 1 = z.midnight (d + 1) := by
  obtain ⟨t, ht⟩ := hd
  rw [plusDays, if_neg one_ne_zero, midnight, ← ht, h.wall_resolve, ht, midnight]
  congr 1
  push_cast
  ring

theorem mem_daysLoop {last : ℤ} {fuel : ℕ} {d e : ℤ} (hde : d ≤ e) (he : e ≤ last)
    (hmidnight : ∀ d', d ≤ d' → d' < e → ∃ t, z.wall t = d' * msPerDay)
    (hfuel : (z.midnight last - z.midnight d).toNat < fuel) :
    e ∈ z.daysLoop (z.midnight last) fuel (z.midnight d) := by
  induction fuel generalizing d with
  | zero => omega
  | succ fuel ih =>
    rw [daysLoop, if_pos (h.midnight_le_iff.2 (hde.trans he)), h.day_midnight, List.mem_cons]
    rcases hde.lt_or_eq with hlt | rfl
    · -- the next midnight is later, so one step less is enough for the rest
      have hnext : z.midnight d < z.midnight (d + 1) := h.midnight_lt_iff.2 (lt_add_one d)
      have hrest : z.midnight (d + 1) ≤ z.midnight last := h.midnight_le_iff.2 (by omega)
      rw [h.plusDays_midnight (hmidnight d le_rfl hlt)]
      exact .inr (ih hlt (fun d' hd' => hmidnight d' (by omega)) (by omega))
    · exact .inl rfl

/-- **The walk meets the days of the range**, as long as the midnights before them exist. -/
theorem mem_daysBetween {a b e : ℤ} (ha : z.day a ≤ e) (hb : e ≤ z.day b)
    (hmidnight : ∀ d, z.day a ≤ d → d < e → ∃ t, z.wall t = d * msPerDay) :
    e ∈ z.daysBetween a b :=
  h.mem_daysLoop ha hb hmidnight (Nat.lt_succ_of_le (Nat.le_add_right _ _))

end Steady

end Zone

end HrBooking
