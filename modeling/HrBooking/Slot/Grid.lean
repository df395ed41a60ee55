import HrBooking.Calendar.Transition
import HrBooking.Slot.Spec

/-!
# The grid of a schedule

A `GridTime` is a minute of a date at which a slot is cut from a working interval.  The grid is
laid out on the wall clock: two of its times are a slot apart there, whatever the zone does.  What
the zone resolves them to is another matter.

* `isFound_iff_exists` : slots start at the instants of the listed grid times.
* `GridTime.separated_reading` : on the wall clock grid times of an accepted schedule are a slot
  apart, in one interval by the buffer more (`GridTime.separated_of_interval`).
* `GridTime.separated_of_offset` : so are their instants when both are shown at the same offset.
-/

namespace HrBooking

/-- The instants are equal, or at least `n` minutes apart. -/
def Separated (n : ℕ) (t t' : ℤ) : Prop := t = t' ∨ addMinutes t n ≤ t' ∨ addMinutes t' n ≤ t

theorem Separated.symm {n : ℕ} {t t' : ℤ} (h : Separated n t t') : Separated n t' t := by
  rcases h with h | h | h
  · exact .inl h.symm
  · exact .inr (.inr h)
  · exact .inr (.inl h)

theorem separated_add_iff {n : ℕ} {t t' c : ℤ} :
    Separated n (t + c) (t' + c) ↔ Separated n t t' := by
  simp only [Separated, addMinutes]
  omega

/-- A minute of a date at which a slot is cut from a working interval of the date. -/
structure GridTime (z : Zone) (config : SlotConfig) where
  day : ℤ
  interval : WorkingInterval
  offset : ℕ
  /-- The interval is one of the date. -/
  interval_mem : ∃ intervals, intervalsOn z.calendar config (formatDay day) = some intervals ∧
    interval ∈ intervals
  /-- Whole steps lead from the start of the interval to the slot. -/
  on_step : ∃ k : ℕ, offset = timeToMinutes interval.start.val + k * slotStep config
  /-- The slot ends within the interval. -/
  fits : offset + config.slotDurationMinutes ≤ timeToMinutes interval.stop.val
  /-- No block meets the slot. -/
  unblocked : Unblocked config (formatDay day) offset

namespace GridTime

variable {z : Zone} {config : SlotConfig} (g g' : GridTime z config) (opts : GenerateSlotsOptions)

/-- The reading of the wall clock. -/
def reading : ℤ := g.day * msPerDay + g.offset * 60000

/-- The instant the reading is taken to mean. -/
def instant : ℤ := z.resolve g.reading

/-- The date is visited, and the instant is admissible. -/
def Listed : Prop :=
  g.day ∈ z.daysBetween (earliest config opts) (latest config opts) ∧
    Admissible config opts g.instant

/-- The clock is put forward over the reading. -/
def Skipped : Prop := ¬ z.Shows g.reading

variable {g g' opts}

theorem offset_lt : g.offset < minutesInDay :=
  calc g.offset ≤ g.offset + config.slotDurationMinutes := Nat.le_add_right _ _
    _ ≤ timeToMinutes g.interval.stop.val := g.fits
    _ < minutesInDay := timeToMinutes_lt _

theorem parseDay_day : parseDay (formatDay g.day) = some g.day := by
  obtain ⟨intervals, hlookup, -⟩ := g.interval_mem
  obtain ⟨_, hweekday, -⟩ := Option.bind_eq_some_iff.1 hlookup
  obtain ⟨d, hd, -⟩ := Option.map_eq_some_iff.1 hweekday
  rw [hd, eq_of_parseDay_formatDay hd]

theorem wallTimeToUtc_day :
    z.calendar.wallTimeToUtc (formatDay g.day) g.offset = some g.instant := by
  refine Option.map_eq_some_iff.2 ⟨g.day, parseDay_day, ?_⟩
  rw [Nat.div_eq_of_lt g.offset_lt, Nat.mod_eq_of_lt g.offset_lt, Zone.plusDays, if_pos rfl]
  rfl

theorem wall_instant (hz : z.Lawful) (hg : ¬ g.Skipped) : z.wall g.instant = g.reading :=
  hz.wall_resolve (not_not.1 hg)

/-! ### On the wall clock -/

/-- **Times of one interval** are a step apart. -/
theorem separated_of_interval (hday : g.day = g'.day) (hinterval : g.interval = g'.interval) :
    Separated (slotStep config) g.reading g'.reading := by
  obtain ⟨k, hk⟩ := g.on_step
  obtain ⟨k', hk'⟩ := g'.on_step
  rw [← hinterval] at hk'
  simp only [Separated, addMinutes, reading, hday]
  rcases lt_trichotomy k k' with hlt | rfl | hlt
  · have hstep : k * slotStep config + slotStep config ≤ k' * slotStep config := by
      rw [← Nat.succ_mul]
      exact Nat.mul_le_mul_right _ hlt
    omega
  · omega
  · have hstep : k' * slotStep config + slotStep config ≤ k * slotStep config := by
      rw [← Nat.succ_mul]
      exact Nat.mul_le_mul_right _ hlt
    omega

theorem reading_add_le_of_day (h : g.day < g'.day) :
    addMinutes g.reading config.slotDurationMinutes ≤ g'.reading := by
  have hfits := g.fits
  have hstop := timeToMinutes_lt g.interval.stop
  simp only [addMinutes, reading, minutesInDay, msPerDay] at *
  omega

theorem reading_add_le_of_before (hday : g.day = g'.day) (h : g.interval.Before g'.interval) :
    addMinutes g.reading config.slotDurationMinutes ≤ g'.reading := by
  have hfits := g.fits
  obtain ⟨k, hk⟩ := g'.on_step
  have hstart : timeToMinutes g'.interval.start.val ≤ g'.offset := by
    rw [hk]
    exact Nat.le_add_right _ _
  have hbefore := hfits.trans (h.trans hstart)
  simp only [addMinutes, reading, hday]
  omega

section

variable {isValidTimezone : String → Bool} {body : AvailabilityBody}
  (h : updateAvailabilitySchema isValidTimezone body = .ok config)
include h

theorem interval_apart (hday : g.day = g'.day) (hne : g.interval ≠ g'.interval) :
    g.interval.Apart g'.interval := by
  obtain ⟨intervals, hlookup, hg⟩ := g.interval_mem
  obtain ⟨intervals', hlookup', hg'⟩ := g'.interval_mem
  rw [← hday, hlookup] at hlookup'
  cases hlookup'
  obtain ⟨w, -, hw⟩ := Option.bind_eq_some_iff.1 hlookup
  obtain ⟨day, hmem, -, rfl⟩ :=
    (intervalsByWeekday_eq_some (updateAvailabilitySchema_weekdays h)).1 hw
  exact updateAvailabilitySchema_intervals h hmem hg hg' hne

/-- **Grid times of an accepted schedule** are a slot apart. -/
theorem separated_reading : Separated config.slotDurationMinutes g.reading g'.reading := by
  rcases lt_trichotomy g.day g'.day with hlt | hday | hlt
  · exact .inr (.inl (reading_add_le_of_day hlt))
  · by_cases hinterval : g.interval = g'.interval
    · have hstep := separated_of_interval hday hinterval
      simp only [Separated, addMinutes, slotStep] at hstep ⊢
      omega
    · rcases interval_apart h hday hinterval with hbefore | hbefore
      · exact .inr (.inl (reading_add_le_of_before hday hbefore))
      · exact .inr (.inr (reading_add_le_of_before hday.symm hbefore))
  · exact .inr (.inr (reading_add_le_of_day hlt))

end

/-! ### In real time -/

theorem separated_of_offset (hz : z.Lawful) {n : ℕ} (hg : ¬ g.Skipped) (hg' : ¬ g'.Skipped)
    (hoffset : z.offset g.instant = z.offset g'.instant)
    (h : Separated n g.reading g'.reading) : Separated n g.instant g'.instant := by
  rw [← wall_instant hz hg, ← wall_instant hz hg', Zone.wall, Zone.wall, hoffset,
    separated_add_iff] at h
  exact h

end GridTime

/-! ### Slots and grid times -/

section

variable {z : Zone} {config : SlotConfig} {opts : GenerateSlotsOptions} {t : ℤ}

/-- **Slots start at the instants of the listed grid times.** -/
theorem isFound_iff_exists :
    IsFound z.calendar config opts t ↔
      ∃ g : GridTime z config, g.Listed opts ∧ g.instant = t := by
  constructor
  · rintro ⟨_, hd, intervals, hlookup, ⟨interval, hmem, k, offset, hk, hfits, hfree, hwall⟩, hadm⟩
    obtain ⟨d, hvisited, rfl⟩ := List.mem_map.1 hd
    let g : GridTime z config :=
      ⟨d, interval, offset, ⟨intervals, hlookup, hmem⟩, ⟨k, hk⟩, hfits, hfree⟩
    have hinstant : g.instant = t := Option.some.inj (g.wallTimeToUtc_day.symm.trans hwall)
    exact ⟨g, ⟨hvisited, hinstant ▸ hadm⟩, hinstant⟩
  · rintro ⟨g, ⟨hd, hadm⟩, rfl⟩
    obtain ⟨intervals, hlookup, hmem⟩ := g.interval_mem
    obtain ⟨k, hk⟩ := g.on_step
    exact ⟨_, List.mem_map_of_mem hd, intervals, hlookup,
      ⟨g.interval, hmem, k, g.offset, hk, g.fits, g.unblocked, g.wallTimeToUtc_day⟩, hadm⟩

theorem exists_gridTime {s : Slot} (hs : s ∈ generateSlots z.calendar config opts) :
    ∃ g : GridTime z config, g.Listed opts ∧ g.instant = s.startAt :=
  isFound_iff_exists.1 (exists_startAt_iff_isFound.1 ⟨s, hs, rfl⟩)

theorem GridTime.Listed.exists_slot {g : GridTime z config} (hg : g.Listed opts) :
    ∃ s ∈ generateSlots z.calendar config opts, s.startAt = g.instant :=
  exists_startAt_iff_isFound.2 (isFound_iff_exists.2 ⟨g, hg, rfl⟩)

/-- Two slots of the list do not overlap, or they are the same. -/
def NoOverlap (slots : List Slot) : Prop :=
  ∀ s ∈ slots, ∀ s' ∈ slots, s ≠ s' → ¬ overlaps s.startAt s.endAt s'.startAt s'.endAt

theorem noOverlap_iff :
    NoOverlap (generateSlots z.calendar config opts) ↔
      ∀ g g' : GridTime z config, g.Listed opts → g'.Listed opts →
        Separated config.slotDurationMinutes g.instant g'.instant := by
  constructor
  · intro h g g' hg hg'
    obtain ⟨s, hs, hstart⟩ := hg.exists_slot
    obtain ⟨s', hs', hstart'⟩ := hg'.exists_slot
    rw [← hstart, ← hstart']
    by_cases heq : s = s'
    · exact .inl (congrArg _ heq)
    · have hfree := h s hs s' hs' heq
      rw [endAt_of_mem_generateSlots hs, endAt_of_mem_generateSlots hs'] at hfree
      simp only [overlaps, Separated] at hfree ⊢
      omega
  · intro h s hs s' hs' hne hover
    obtain ⟨g, hg, hstart⟩ := exists_gridTime hs
    obtain ⟨g', hg', hstart'⟩ := exists_gridTime hs'
    have hsep := h g g' hg hg'
    have hne' : s.startAt ≠ s'.startAt := fun heq =>
      hne (Slot.eq_of_startAt (endAt_of_mem_generateSlots hs) (endAt_of_mem_generateSlots hs') heq)
    rw [endAt_of_mem_generateSlots hs, endAt_of_mem_generateSlots hs'] at hover
    simp only [overlaps, Separated, hstart, hstart'] at hover hsep
    omega

end

end HrBooking
