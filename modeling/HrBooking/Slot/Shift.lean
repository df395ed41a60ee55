import HrBooking.Slot.Grid

/-!
# Slots and clock changes

Working hours, blocks and the grid are compared as minutes of the wall clock, while the instant
that is offered is what the zone makes of the reading.  A reading in a gap is moved forward, into
time that the loops have not looked at, and a clock change brings readings on both sides of it
nearer to each other; only equal instants are dropped.

* `generateSlots_respects_iff` : exactly when the slots respect the working hours and the blocks of
  the local clock and do not overlap.
* `generateSlots_separated_iff` : exactly when they keep apart in a window of constant offset.
-/

namespace HrBooking

/-- The minute of the local day. -/
def Zone.minute (z : Zone) (t : ℤ) : ℕ := (z.wall t % msPerDay / 60000).toNat

/-- Read back on the local clock, the slot at the instant starts in a working interval of its date,
fits into the rest of it, and meets no block of the date. -/
def Respects (z : Zone) (config : SlotConfig) (t : ℤ) : Prop :=
  (∃ intervals, intervalsOn z.calendar config (formatDay (z.day t)) = some intervals ∧
    ∃ interval ∈ intervals, timeToMinutes interval.start.val ≤ z.minute t ∧
      z.minute t + config.slotDurationMinutes ≤ timeToMinutes interval.stop.val) ∧
    Unblocked config (formatDay (z.day t)) (z.minute t)

section

variable {z : Zone} {config : SlotConfig} {opts : GenerateSlotsOptions}

/-! ### Working hours -/

theorem GridTime.day_instant {g : GridTime z config} (hz : z.Lawful) (hg : ¬ g.Skipped) :
    z.day g.instant = g.day ∧ z.minute g.instant = g.offset := by
  have hlt := g.offset_lt
  have hwall := wall_instant hz hg
  simp only [reading, minutesInDay, msPerDay] at hwall hlt
  constructor
  · rw [Zone.day, hwall]
    simp only [msPerDay]
    omega
  · rw [Zone.minute, hwall]
    simp only [msPerDay]
    omega

theorem GridTime.respects {g : GridTime z config} (hz : z.Lawful) (hg : ¬ g.Skipped) :
    Respects z config g.instant := by
  obtain ⟨hday, hminute⟩ := day_instant hz hg
  obtain ⟨intervals, hlookup, hmem⟩ := g.interval_mem
  obtain ⟨k, hk⟩ := g.on_step
  rw [Respects, hday, hminute]
  refine ⟨⟨intervals, hlookup, g.interval, hmem, ?_, g.fits⟩, g.unblocked⟩
  rw [hk]
  exact Nat.le_add_right _ _

theorem respects_iff (hz : z.Lawful) :
    (∀ s ∈ generateSlots z.calendar config opts, Respects z config s.startAt) ↔
      ∀ g : GridTime z config, g.Listed opts → g.Skipped → Respects z config g.instant := by
  constructor
  · intro h g hg _
    obtain ⟨s, hs, hstart⟩ := hg.exists_slot
    exact hstart ▸ h s hs
  · intro h s hs
    obtain ⟨g, hg, hstart⟩ := exists_gridTime hs
    rw [← hstart]
    by_cases hskipped : g.Skipped
    · exact h g hg hskipped
    · exact GridTime.respects hz hskipped

/-- **Slots across clock changes.**  The slots of an accepted schedule respect its working hours and
blocks and do not overlap exactly when every listed grid time that the clock jumps over is moved to
working time, and any two listed grid times of which one is jumped over, or whose instants are under
different offsets, stay a slot apart or become one. -/
theorem generateSlots_respects_iff {isValidTimezone : String → Bool} {body : AvailabilityBody}
    {config : SlotConfig} (h : updateAvailabilitySchema isValidTimezone body = .ok config)
    {z : Zone} (hz : z.Lawful) (opts : GenerateSlotsOptions) :
    ((∀ s ∈ generateSlots z.calendar config opts, Respects z config s.startAt) ∧
        NoOverlap (generateSlots z.calendar config opts)) ↔
      (∀ g : GridTime z config, g.Listed opts → g.Skipped → Respects z config g.instant) ∧
        ∀ g g' : GridTime z config, g.Listed opts → g'.Listed opts →
          (g.Skipped ∨ z.offset g.instant ≠ z.offset g'.instant) →
            Separated config.slotDurationMinutes g.instant g'.instant := by
  rw [respects_iff hz, noOverlap_iff]
  refine and_congr_right fun _ => ⟨fun hsep g g' hg hg' _ => hsep g g' hg hg', ?_⟩
  intro hsep g g' hg hg'
  by_cases hskipped : g.Skipped
  · exact hsep g g' hg hg' (.inl hskipped)
  by_cases hskipped' : g'.Skipped
  · exact (hsep g' g hg' hg (.inl hskipped')).symm
  by_cases hoffset : z.offset g.instant = z.offset g'.instant
  · -- on the wall clock the grid keeps them apart
    exact GridTime.separated_of_offset hz hskipped hskipped' hoffset
      (GridTime.separated_reading h)
  · exact hsep g g' hg hg' (.inr hoffset)

end

/-! ### A night of Monday -/

/-- Mondays from one to six in the morning, in slots of 45 minutes. -/
def nightBody : AvailabilityBody :=
  { mondayBody 45 with weeklyHours := some [⟨1, [⟨"01:00", "06:00"⟩]⟩] }

theorem threeQuarters_mem_slotDurations : 45 ∈ slotDurations := by decide

/-- The schedule read from `nightBody`. -/
def nightConfig : SlotConfig :=
  { mondayConfig ⟨45, threeQuarters_mem_slotDurations⟩ with
    weeklyHours := [⟨⟨1, monday_lt_seven⟩, [⟨⟨"01:00", by decide⟩, ⟨"06:00", by decide⟩⟩]⟩] }

theorem nightBody_accepted :
    updateAvailabilitySchema (fun name => name == "UTC") nightBody = .ok nightConfig := rfl

/-- The clock is put forward from two to three o'clock of the first Monday. -/
def mondayNight : ℤ := 4 * msPerDay + 2 * 60 * 60000

def nightGap : Zone := Zone.putForward mondayNight (60 * 60000)

/-- The three hours that follow the clock change. -/
def nightOptions : GenerateSlotsOptions where
  rangeStart := mondayNight
  rangeEnd := addMinutes mondayNight 180
  now := 0
  busy := []

/-- The slot of half past two is moved to half past three, into the slot of a quarter past three. -/
theorem not_noOverlap_night :
    ¬ NoOverlap (generateSlots nightGap.calendar nightConfig nightOptions) := by
  intro h
  refine h ⟨addMinutes mondayNight 15, addMinutes mondayNight 60⟩ ?_
    ⟨addMinutes mondayNight 30, addMinutes mondayNight 75⟩ ?_ ?_ ?_ <;> decide +kernel

/-- **The grid is not moved with the clock.** -/
theorem not_generateSlots_respects :
    ¬ ∀ (isValidTimezone : String → Bool) (body : AvailabilityBody) (config : SlotConfig),
      updateAvailabilitySchema isValidTimezone body = .ok config →
        ∀ (z : Zone), z.Lawful → ∀ opts : GenerateSlotsOptions,
          (∀ s ∈ generateSlots z.calendar config opts, Respects z config s.startAt) ∧
            NoOverlap (generateSlots z.calendar config opts) :=
  fun h => not_noOverlap_night
    (h _ _ _ nightBody_accepted nightGap (Zone.putForward_lawful (by decide)) nightOptions).2

/-- The clock is put forward from two to three o'clock of the second Sunday. -/
def sundayNight : ℤ := 10 * msPerDay + 2 * 60 * 60000

def sundayGap : Zone := Zone.putForward sundayNight (60 * 60000)

theorem sundayGap_lawful : sundayGap.Lawful := Zone.putForward_lawful (by decide)

/-- From the first Monday to the second one, past the clock change. -/
def twoMondays : GenerateSlotsOptions where
  rangeStart := mondayNight
  rangeEnd := addDays mondayNight 8
  now := 0
  busy := []

theorem day_of_nightConfig {z : Zone} (g : GridTime z nightConfig) : g.day % 7 = 4 := by
  obtain ⟨intervals, hlookup, -⟩ := g.interval_mem
  obtain ⟨w, hw, hday⟩ := Option.bind_eq_some_iff.1 hlookup
  obtain ⟨d, hd, rfl⟩ := Option.map_eq_some_iff.1 hw
  obtain rfl := Option.some.inj (g.parseDay_day.symm.trans hd)
  obtain ⟨day, hmem, hmonday, -⟩ := (intervalsByWeekday_eq_some (by decide)).1 hday
  obtain rfl := List.mem_singleton.1 hmem
  simp only [Civil.weekday] at hmonday
  omega

/-- The clock change is on a Sunday: the readings of the grid are as they are, or an hour early. -/
theorem sundayGap_instant (g : GridTime sundayGap nightConfig) :
    g.day ≤ 4 ∧ g.instant = g.reading ∨ 11 ≤ g.day ∧ g.instant = g.reading - 60 * 60000 := by
  have hday := day_of_nightConfig g
  have hlt := g.offset_lt
  simp only [minutesInDay] at hlt
  simp only [GridTime.instant, sundayGap, Zone.putForward, GridTime.reading, sundayNight, msPerDay]
  split_ifs <;> omega

theorem sundayGap_shown (g : GridTime sundayGap nightConfig) : ¬ g.Skipped := by
  have hlt := g.offset_lt
  simp only [minutesInDay] at hlt
  refine not_not.2 ⟨g.instant, ?_⟩
  change (Zone.putForward sundayNight (60 * 60000)).wall g.instant = _
  rw [Zone.wall_putForward]
  rcases sundayGap_instant g with ⟨hday, heq⟩ | ⟨hday, heq⟩
  all_goals
    rw [heq]
    simp only [GridTime.reading, sundayNight, msPerDay]
    split_ifs <;> omega

/-- The slots of the two Mondays are as they should be. -/
theorem generateSlots_respects_iff_twoMondays :
    (∀ s ∈ generateSlots sundayGap.calendar nightConfig twoMondays,
        Respects sundayGap nightConfig s.startAt) ∧
      NoOverlap (generateSlots sundayGap.calendar nightConfig twoMondays) := by
  refine (generateSlots_respects_iff nightBody_accepted sundayGap_lawful twoMondays).2
    ⟨fun g _ hs => absurd hs (sundayGap_shown g), fun g g' _ _ _ => ?_⟩
  have hapart : Separated nightConfig.slotDurationMinutes g.reading g'.reading :=
    GridTime.separated_reading nightBody_accepted
  have hlt := g.offset_lt
  have hlt' := g'.offset_lt
  have hlength := nightConfig.slotDurationMinutes.le
  simp only [minutesInDay, Separated, addMinutes] at *
  rcases sundayGap_instant g with ⟨hday, heq⟩ | ⟨hday, heq⟩ <;>
    rcases sundayGap_instant g' with ⟨hday', heq'⟩ | ⟨hday', heq'⟩ <;>
    rw [heq, heq'] <;> simp only [GridTime.reading, msPerDay] at * <;> omega

section

variable {z : Zone} {config : SlotConfig} {opts : GenerateSlotsOptions}

/-! ### Windows of constant offset -/

/-- The slot starts at a listed grid time of the interval on the date. -/
def CutFrom (z : Zone) (config : SlotConfig) (opts : GenerateSlotsOptions) (d : ℤ)
    (interval : WorkingInterval) (s : Slot) : Prop :=
  ∃ g : GridTime z config, g.Listed opts ∧ g.day = d ∧ g.interval = interval ∧
    g.instant = s.startAt

/-- Two slots cut from one interval of one date leave the buffer between them. -/
def KeepsBuffer (z : Zone) (config : SlotConfig) (opts : GenerateSlotsOptions) : Prop :=
  ∀ s ∈ generateSlots z.calendar config opts, ∀ s' ∈ generateSlots z.calendar config opts,
    s ≠ s' → ∀ d interval, CutFrom z config opts d interval s →
      CutFrom z config opts d interval s' →
        addMinutes s.endAt config.bufferMinutes ≤ s'.startAt ∨
          addMinutes s'.endAt config.bufferMinutes ≤ s.startAt

theorem keepsBuffer_iff :
    KeepsBuffer z config opts ↔
      ∀ g g' : GridTime z config, g.Listed opts → g'.Listed opts → g.day = g'.day →
        g.interval = g'.interval → Separated (slotStep config) g.instant g'.instant := by
  constructor
  · intro h g g' hg hg' hday hinterval
    obtain ⟨s, hs, hstart⟩ := hg.exists_slot
    obtain ⟨s', hs', hstart'⟩ := hg'.exists_slot
    rw [← hstart, ← hstart']
    by_cases heq : s = s'
    · exact .inl (congrArg _ heq)
    · have hbuffer := h s hs s' hs' heq g.day g.interval ⟨g, hg, rfl, rfl, hstart.symm⟩
        ⟨g', hg', hday.symm, hinterval.symm, hstart'.symm⟩
      rw [endAt_of_mem_generateSlots hs, endAt_of_mem_generateSlots hs'] at hbuffer
      simp only [Separated, addMinutes, slotStep] at hbuffer ⊢
      omega
  · rintro h s hs s' hs' hne d interval ⟨g, hg, rfl, rfl, hstart⟩
      ⟨g', hg', hday, hinterval, hstart'⟩
    have hsep := h g g' hg hg' hday.symm hinterval.symm
    have hne' : s.startAt ≠ s'.startAt := fun heq =>
      hne (Slot.eq_of_startAt (endAt_of_mem_generateSlots hs) (endAt_of_mem_generateSlots hs') heq)
    rw [endAt_of_mem_generateSlots hs, endAt_of_mem_generateSlots hs']
    simp only [Separated, addMinutes, slotStep, hstart, hstart'] at hsep ⊢
    omega

theorem GridTime.Listed.offset_eq {g : GridTime z config} (hg : g.Listed opts) {o : ℤ}
    (hconst : ∀ t, opts.rangeStart ≤ t → t < opts.rangeEnd → z.offset t = o) :
    z.offset g.instant = o := by
  obtain ⟨-, hfrom, hto, -⟩ := hg
  exact hconst _ ((le_max_left _ _).trans hfrom) (hto.trans_le (min_le_left _ _))

/-- **Slots of a window of constant offset.**  The slots of an accepted schedule do not overlap and
keep the buffer exactly when every listed grid time that the clock jumps over stays clear of the
others: the clock may have been put forward just before the window, and the reading moved into
it. -/
theorem generateSlots_separated_iff {isValidTimezone : String → Bool} {body : AvailabilityBody}
    {config : SlotConfig} (h : updateAvailabilitySchema isValidTimezone body = .ok config)
    {z : Zone} (hz : z.Lawful) (opts : GenerateSlotsOptions) {o : ℤ}
    (hconst : ∀ t, opts.rangeStart ≤ t → t < opts.rangeEnd → z.offset t = o) :
    (NoOverlap (generateSlots z.calendar config opts) ∧ KeepsBuffer z config opts) ↔
      ∀ g g' : GridTime z config, g.Listed opts → g'.Listed opts → g.Skipped →
        Separated config.slotDurationMinutes g.instant g'.instant ∧
          (g.day = g'.day → g.interval = g'.interval →
            Separated (slotStep config) g.instant g'.instant) := by
  rw [noOverlap_iff, keepsBuffer_iff]
  constructor
  · rintro ⟨hsep, hbuffer⟩ g g' hg hg' -
    exact ⟨hsep g g' hg hg', hbuffer g g' hg hg'⟩
  · intro hskip
    -- times that are shown are as far apart as on the wall clock
    have hshown : ∀ {n : ℕ} {g g' : GridTime z config}, g.Listed opts → g'.Listed opts →
        ¬ g.Skipped → ¬ g'.Skipped → Separated n g.reading g'.reading →
          Separated n g.instant g'.instant := fun hg hg' hs hs' hsep =>
      GridTime.separated_of_offset hz hs hs'
        ((hg.offset_eq hconst).trans (hg'.offset_eq hconst).symm) hsep
    constructor
    · intro g g' hg hg'
      by_cases hs : g.Skipped
      · exact (hskip g g' hg hg' hs).1
      by_cases hs' : g'.Skipped
      · exact (hskip g' g hg' hg hs').1.symm
      · exact hshown hg hg' hs hs' (GridTime.separated_reading h)
    · intro g g' hg hg' hday hinterval
      by_cases hs : g.Skipped
      · exact (hskip g g' hg hg' hs).2 hday hinterval
      by_cases hs' : g'.Skipped
      · exact ((hskip g' g hg' hg hs').2 hday.symm hinterval.symm).symm
      · exact hshown hg hg' hs hs' (GridTime.separated_of_interval hday hinterval)

end

/-- **A window that starts with the clock change** has a constant offset, and the slot moved out of
the gap. -/
theorem not_generateSlots_separated :
    ¬ ∀ (isValidTimezone : String → Bool) (body : AvailabilityBody) (config : SlotConfig),
      updateAvailabilitySchema isValidTimezone body = .ok config →
        ∀ (z : Zone), z.Lawful → ∀ (opts : GenerateSlotsOptions) (o : ℤ),
          (∀ t, opts.rangeStart ≤ t → t < opts.rangeEnd → z.offset t = o) →
            NoOverlap (generateSlots z.calendar config opts) ∧ KeepsBuffer z config opts :=
  fun h => not_noOverlap_night
    (h _ _ _ nightBody_accepted nightGap (Zone.putForward_lawful (by decide)) nightOptions
      (60 * 60000) fun _ hfrom _ => if_neg (not_lt.2 hfrom)).1

/-- After the clock change the window has a constant offset. -/
theorem generateSlots_separated_iff_secondMonday :
    let opts := { twoMondays with rangeStart := addDays mondayNight 7 }
    NoOverlap (generateSlots sundayGap.calendar nightConfig opts) ∧
      KeepsBuffer sundayGap nightConfig opts := by
  intro opts
  have hchanged : sundayNight ≤ opts.rangeStart := by decide
  have hconst : ∀ t, opts.rangeStart ≤ t → t < opts.rangeEnd → sundayGap.offset t = 60 * 60000 :=
    fun t hfrom _ => if_neg (not_lt.2 (hchanged.trans hfrom))
  exact (generateSlots_separated_iff nightBody_accepted sundayGap_lawful opts hconst).2
    fun g _ _ _ hs => absurd hs (sundayGap_shown g)

end HrBooking
