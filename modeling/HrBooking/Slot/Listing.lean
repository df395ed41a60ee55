import HrBooking.Booking.Overlap
import HrBooking.Calendar.Transition
import HrBooking.Slot.Spec

/-!
# The public slot list

`getAvailableSlots` of `services/slot.service.ts`, and how its answer compares with the gate a
booking passes.  The list removes the bookings that meet the range it is asked for; the gate asks
for bookings that meet the slot itself, which may extend past the end of the range.

* `isFound_iff_isOnGrid` : in a regular zone whether a slot starts at an instant does not depend
  on the range it is asked through, except for the range's bounds.
* `isListed_iff`, `isAccepted_iff` : what the list and the gate answer.
* `isListed_iff_isAccepted_iff` : exactly when the two agree on an instant.
-/

namespace HrBooking

/-- `assertRange` -/
def assertRange (rangeStart rangeEnd : ℤ) : Except AppError Unit :=
  if rangeStart ≥ rangeEnd then
    .error (.badRequest "The end of the range must be after its start.")
  else if rangeEnd - rangeStart >
      AvailabilityLimits.slotRangeDaysMax * (minutesInDay * 60000 : ℕ) then
    .error (.badRequest s!"Slot ranges are limited to {AvailabilityLimits.slotRangeDaysMax} days.")
  else .ok ()

/-- What a client is shown. -/
structure AvailableSlotsResult where
  timezone : TimezoneName
  slotDurationMinutes : SlotDuration
  rangeStart : ℤ
  rangeEnd : ℤ
  slots : List Slot

/-- The busy intervals of a range: the active bookings that meet it. -/
def busyIntervals (bookings : Collection Booking) (hrUserId : ObjectId) (rangeStart rangeEnd : ℤ) :
    List Slot :=
  (bookings.docs.filter fun b =>
    b.hrUserId = hrUserId ∧ b.isActive ∧ b.endAt > rangeStart ∧ b.startAt < rangeEnd).map
    fun b => ⟨b.startAt, b.endAt⟩

/-- Slots a client may still book, with active bookings for the consultant removed. -/
def getAvailableSlots (cal : TimezoneName → Calendar) (bookings : Collection Booking)
    (availability : Availability) (rangeStart rangeEnd now : ℤ) :
    Except AppError AvailableSlotsResult := do
  assertRange rangeStart rangeEnd
  let busy := busyIntervals bookings availability.hrUserId rangeStart rangeEnd
  return {
    timezone := availability.timezone
    slotDurationMinutes := availability.slotDurationMinutes
    rangeStart, rangeEnd
    slots := generateSlots (cal availability.timezone) availability.toSlotConfig
      { rangeStart, rangeEnd, now, busy } }

/-! ### The grid of a zone -/

/-- The instant is on the grid of its own local date. -/
def IsOnGrid (z : Zone) (config : SlotConfig) (t : ℤ) : Prop :=
  ∃ intervals, intervalsOn z.calendar config (formatDay (z.day t)) = some intervals ∧
    IsGridStart z.calendar config (formatDay (z.day t)) intervals t

section

variable {z : Zone} {config : SlotConfig} {opts : GenerateSlotsOptions} {t : ℤ}

theorem day_of_wallTimeToUtc (h : z.Steady) {e : ℤ} {offset : ℕ} (hoffset : offset < minutesInDay)
    (hwall : z.calendar.wallTimeToUtc (formatDay e) offset = some t) : z.day t = e := by
  obtain ⟨d, hd, rfl⟩ := Option.map_eq_some_iff.1 hwall
  obtain rfl := eq_of_parseDay_formatDay hd
  rw [Nat.div_eq_of_lt hoffset, Nat.mod_eq_of_lt hoffset, Zone.plusDays, if_pos rfl]
  exact h.day_resolve d offset hoffset

theorem IsFound.isOnGrid (h : z.Steady) (hfound : IsFound z.calendar config opts t) :
    IsOnGrid z config t ∧ Admissible config opts t := by
  obtain ⟨_, hd, intervals, hlookup, hgrid, hadm⟩ := hfound
  obtain ⟨e, -, rfl⟩ := List.mem_map.1 hd
  have hday : z.day t = e := by
    obtain ⟨interval, -, k, offset, -, hfit, -, hwall⟩ := hgrid
    refine day_of_wallTimeToUtc h ?_ hwall
    have := timeToMinutes_lt interval.stop
    omega
  subst hday
  exact ⟨⟨intervals, hlookup, hgrid⟩, hadm⟩

theorem IsOnGrid.isFound (h : z.Steady) (hgrid : IsOnGrid z config t)
    (hadm : Admissible config opts t)
    (hmidnight : ∀ d, z.day (earliest config opts) ≤ d → d < z.day t → z.Shows (d * msPerDay)) :
    IsFound z.calendar config opts t := by
  obtain ⟨intervals, hlookup, hgrid⟩ := hgrid
  refine ⟨_, List.mem_map_of_mem (h.mem_daysBetween ?_ ?_ hmidnight), intervals, hlookup, hgrid,
    hadm⟩
  · exact h.day_mono _ _ hadm.1
  · exact h.day_mono _ _ hadm.2.1.le

theorem isFound_iff_isOnGrid (h : z.Regular) :
    IsFound z.calendar config opts t ↔ IsOnGrid z config t ∧ Admissible config opts t :=
  ⟨fun hfound => hfound.isOnGrid h.steady,
    fun ⟨hgrid, hadm⟩ => hgrid.isFound h.steady hadm fun d _ _ => h.midnight_exists d⟩

/-! ### The list and the gate -/

variable {zones : TimezoneName → Zone} {bookings : Collection Booking} {availability : Availability}
  {rangeStart rangeEnd now : ℤ}

/-- `t` is among the slots a client is shown. -/
def IsListed (cal : TimezoneName → Calendar) (bookings : Collection Booking)
    (availability : Availability) (rangeStart rangeEnd now t : ℤ) : Prop :=
  ∃ result, getAvailableSlots cal bookings availability rangeStart rangeEnd now = .ok result ∧
    ∃ s ∈ result.slots, s.startAt = t

/-- The gate of a booking passes for `t`: the slot is offered and the consultant is free. -/
def IsAccepted (cal : TimezoneName → Calendar) (bookings : Collection Booking)
    (availability : Availability) (now t : ℤ) : Prop :=
  isOfferedSlot cal availability t now = true ∧
    ∀ pick, assertConsultantIsFree bookings pick availability.hrUserId t
      (addMinutes t availability.slotDurationMinutes) none = .ok ()

/-- The instant is in the window that the schedule's notice and horizon leave. -/
def InWindow (config : SlotConfig) (now t : ℤ) : Prop :=
  addMinutes now config.minNoticeMinutes ≤ t ∧ t < addDays now config.maxAdvanceDays

/-- The instant's own date is the first that the check visits, so no midnight is stepped on. -/
theorem isOfferedSlot_iff (h : (zones availability.timezone).Steady) :
    isOfferedSlot (fun name => (zones name).calendar) availability t now = true ↔
      IsOnGrid (zones availability.timezone) availability.toSlotConfig t ∧
        InWindow availability.toSlotConfig now t := by
  simp only [isOfferedSlot, List.any_eq_true, decide_eq_true_eq]
  rw [exists_startAt_iff_isFound]
  constructor
  · intro hfound
    obtain ⟨hgrid, hfrom, hto, -⟩ := hfound.isOnGrid h
    exact ⟨hgrid, (max_le_iff.1 hfrom).2, (lt_min_iff.1 hto).2⟩
  · rintro ⟨hgrid, hfrom, hto⟩
    have hnext : t < addMinutes t 1 := lt_addMinutes one_pos
    refine hgrid.isFound h ⟨max_le le_rfl hfrom, lt_min hnext hto, by simp⟩ fun d hd hd' => ?_
    exact absurd ((h.day_mono _ _ (le_max_left _ _)).trans hd) (not_le.2 hd')

/-- The booking is an active one of the consultant and meets the slot at `t`. -/
def TakesSlot (bookings : Collection Booking) (availability : Availability) (t : ℤ)
    (b : Booking) : Prop :=
  b ∈ bookings ∧ b.OverlapsWith (.hr availability.hrUserId) t
    (addMinutes t availability.slotDurationMinutes)

theorem isAccepted_iff :
    IsAccepted (fun name => (zones name).calendar) bookings availability now t ↔
      isOfferedSlot (fun name => (zones name).calendar) availability t now = true ∧
        ∀ b, ¬ TakesSlot bookings availability t b := by
  refine and_congr_right fun _ => ?_
  simp only [assertConsultantIsFree_eq_ok, IsFree, forall_const, TakesSlot, not_and]
  simp

/-- No fetched booking meets the slot exactly when those that meet it start after the range. -/
theorem busyIntervals_free_iff (hfrom : rangeStart ≤ t) :
    (∀ b ∈ busyIntervals bookings availability.hrUserId rangeStart rangeEnd,
        ¬ (t < b.endAt ∧ addMinutes t availability.slotDurationMinutes > b.startAt)) ↔
      ∀ b, TakesSlot bookings availability t b → rangeEnd ≤ b.startAt := by
  constructor
  · -- a booking that starts before the end of the range and meets the slot is a busy interval
    intro hbusy b ⟨hb, hhr, hactive, hstart, hend⟩
    by_contra hlt
    refine hbusy ⟨b.startAt, b.endAt⟩ ?_ ⟨hend, hstart⟩
    refine List.mem_map.2 ⟨b, List.mem_filter.2 ⟨hb, ?_⟩, rfl⟩
    rw [decide_eq_true_iff]
    exact ⟨hhr, hactive, hfrom.trans_lt hend, not_le.1 hlt⟩
  · rintro htaken _ hbusy ⟨hend, hstart⟩
    obtain ⟨b, hb, rfl⟩ := List.mem_map.1 hbusy
    obtain ⟨hb, hfilter⟩ := List.mem_filter.1 hb
    obtain ⟨hhr, hactive, -, hlt⟩ := of_decide_eq_true hfilter
    exact absurd hlt (not_lt.2 (htaken b ⟨hb, hhr, hactive, hstart, hend⟩))

theorem isListed_iff (h : (zones availability.timezone).Regular)
    (hrange : assertRange rangeStart rangeEnd = .ok ()) (hfrom : rangeStart ≤ t)
    (hto : t < rangeEnd) :
    IsListed (fun name => (zones name).calendar) bookings availability rangeStart rangeEnd now t ↔
      isOfferedSlot (fun name => (zones name).calendar) availability t now = true ∧
        ∀ b, TakesSlot bookings availability t b → rangeEnd ≤ b.startAt := by
  have hanswer : IsListed (fun name => (zones name).calendar) bookings availability rangeStart
      rangeEnd now t ↔ IsFound (zones availability.timezone).calendar availability.toSlotConfig
        { rangeStart, rangeEnd, now,
          busy := busyIntervals bookings availability.hrUserId rangeStart rangeEnd } t := by
    rw [← exists_startAt_iff_isFound]
    simp only [IsListed, getAvailableSlots, hrange]
    constructor
    · rintro ⟨_, ⟨⟩, hs⟩
      exact hs
    · exact fun hs => ⟨_, rfl, hs⟩
  rw [hanswer, isFound_iff_isOnGrid h, isOfferedSlot_iff h.steady, and_assoc]
  refine and_congr_right fun _ => ?_
  rw [← busyIntervals_free_iff hfrom]
  simp only [Admissible, max_le_iff, lt_min_iff, InWindow, hfrom, hto, true_and,
    and_assoc]

/-- **When the list and the gate agree.**  For an instant of the range they differ exactly when
the slot is offered and taken, but only by bookings that start at the end of the range or later:
these the list does not fetch. -/
theorem isListed_iff_isAccepted_iff (zones : TimezoneName → Zone)
    (h : (zones availability.timezone).Regular)
    (hrange : assertRange rangeStart rangeEnd = .ok ()) (hfrom : rangeStart ≤ t)
    (hto : t < rangeEnd) :
    (IsListed (fun name => (zones name).calendar) bookings availability rangeStart rangeEnd now t ↔
        IsAccepted (fun name => (zones name).calendar) bookings availability now t) ↔
      (isOfferedSlot (fun name => (zones name).calendar) availability t now = true →
        (∃ b, TakesSlot bookings availability t b) →
          ∃ b, TakesSlot bookings availability t b ∧ b.startAt < rangeEnd) := by
  rw [isListed_iff h hrange hfrom hto, isAccepted_iff]
  by_cases hoffered : isOfferedSlot (fun name => (zones name).calendar) availability t now = true
  · simp only [hoffered, true_and, forall_const]
    constructor
    · intro hagree ⟨b, hb⟩
      by_contra hnone
      push Not at hnone
      exact hagree.1 hnone b hb
    · intro hcond
      refine ⟨fun hlate b hb => ?_, fun hfree b hb => absurd hb (hfree b)⟩
      obtain ⟨b', hb', hlt⟩ := hcond ⟨b, hb⟩
      exact absurd hlt (not_lt.2 (hlate b' hb'))
  · simp [hoffered]

end

/-! ### A slot past the end of the range -/

/-- The hourly Monday schedule of consultant 1. -/
def mondayAvailability (slotDurationMinutes : SlotDuration) : Availability :=
  { mondayConfig slotDurationMinutes with hrUserId := 1 }

/-- A confirmed booking of client 2 with consultant 1. -/
def sampleBooking (id : ObjectId) (startAt : ℤ) (durationMinutes : ℕ) : Booking where
  id := id
  userId := 2
  hrUserId := 1
  hrProfileId := 5
  startAt := startAt
  endAt := addMinutes startAt durationMinutes
  durationMinutes := durationMinutes
  hrTimezone := utc
  userTimezone := utc
  status := .confirmed
  priceCents := 5000
  currency := .usd
  meetingProvider := .googleMeet
  notes := none
  slotKey := some (buildSlotKey 1 startAt)
  cancelledAt := none
  cancelledBy := none
  cancellationReason := none
  previousStartAt := none
  rescheduleCount := 0

/-- A collection with one booking. -/
def singleBooking (b : Booking) : Collection Booking := ⟨[b], List.pairwise_singleton _ _⟩

/-- Asked for the half hour from nine, the list shows the hour from nine although the second half
of it is taken. -/
theorem isListed_not_isAccepted :
    ¬ ∀ (zones : TimezoneName → Zone) (bookings : Collection Booking) (availability : Availability)
      (rangeStart rangeEnd now t : ℤ), (zones availability.timezone).Regular →
      assertRange rangeStart rangeEnd = .ok () → rangeStart ≤ t → t < rangeEnd →
      (IsListed (fun name => (zones name).calendar) bookings availability rangeStart rangeEnd now
          t ↔
        IsAccepted (fun name => (zones name).calendar) bookings availability now t) := by
  intro h
  have hagree := h (fun _ => Zone.utc)
    (singleBooking (sampleBooking 7 (addMinutes mondayNine 30) 30))
    (mondayAvailability ⟨60, by decide⟩) mondayNine (addMinutes mondayNine 30) 0 mondayNine
    Zone.utc_regular rfl le_rfl (by decide)
  have hlisted : IsListed (fun _ => Zone.utc.calendar)
      (singleBooking (sampleBooking 7 (addMinutes mondayNine 30) 30))
      (mondayAvailability ⟨60, by decide⟩) mondayNine (addMinutes mondayNine 30) 0 mondayNine :=
    ⟨_, rfl, by decide +kernel⟩
  exact absurd ((hagree.1 hlisted).2 0) (by decide +kernel)

/-- A range that ends with the slot fetches the booking, and the two agree. -/
theorem isListed_iff_isAccepted_iff_monday :
    IsListed (fun _ => Zone.utc.calendar)
        (singleBooking (sampleBooking 7 (addMinutes mondayNine 30) 30))
        (mondayAvailability ⟨60, by decide⟩) mondayNine (addMinutes mondayNine 60) 0 mondayNine ↔
      IsAccepted (fun _ => Zone.utc.calendar)
        (singleBooking (sampleBooking 7 (addMinutes mondayNine 30) 30))
        (mondayAvailability ⟨60, by decide⟩) 0 mondayNine :=
  (isListed_iff_isAccepted_iff (fun _ => Zone.utc) Zone.utc_regular rfl le_rfl (by decide)).2
    fun _ _ => ⟨_, ⟨List.mem_singleton_self _, rfl, by decide, by decide, by decide⟩, by decide⟩

end HrBooking
