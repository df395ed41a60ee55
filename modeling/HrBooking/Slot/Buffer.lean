import HrBooking.Booking.Record
import HrBooking.Slot.Grid
import HrBooking.Slot.Listing

/-!
# The buffer and the bookings

The buffer is part of the step of the grid, and bookings are compared with the slots as they are.
So a gap of the buffer is kept to those bookings that lie on the grid, and to others only by luck.

* `honoursBuffer_iff` : exactly when the slot list keeps the buffer to every active booking, in a
  zone with a fixed offset.
* `honoursBuffer_of_onGrid` : it does when the bookings lie on a grid that keeps the buffer.
* `not_honoursBuffer` : two working intervals side by side, and a booking in the first.
-/

namespace HrBooking

/-! ### Zones with a fixed offset -/

/-- A zone whose clock is never changed. -/
def Zone.fixed (offset : ℤ) : Zone := ⟨fun _ => offset, fun r => r - offset⟩

@[simp] theorem Zone.wall_fixed (offset t : ℤ) : (Zone.fixed offset).wall t = t + offset := rfl

@[simp] theorem Zone.resolve_fixed (offset r : ℤ) : (Zone.fixed offset).resolve r = r - offset :=
  rfl

theorem Zone.fixed_regular (offset : ℤ) : (Zone.fixed offset).Regular where
  wall_resolve t := by simp
  midnight_exists d := ⟨d * msPerDay - offset, sub_add_cancel _ _⟩
  day_mono t t' h := by
    simp only [day, wall_fixed, msPerDay]
    omega
  day_resolve d m hm := by
    simp only [day, wall_fixed, resolve_fixed, msPerDay]
    omega

/-! ### Gaps -/

/-- The booking leaves less than the buffer to the slot at `t`. -/
def Booking.Crowds (config : SlotConfig) (t : ℤ) (b : Booking) : Prop :=
  t < addMinutes b.endAt config.bufferMinutes ∧ b.startAt < addMinutes t (slotStep config)

theorem Booking.WellFormed.crowds_iff {b : Booking} (h : b.WellFormed) {config : SlotConfig}
    {t : ℤ} :
    b.Crowds config t ↔
      (b.endAt ≤ t ∧ t < addMinutes b.endAt config.bufferMinutes) ∨
        (addMinutes t config.slotDurationMinutes ≤ b.startAt ∧
          b.startAt < addMinutes t (slotStep config)) ∨
        overlaps t (addMinutes t config.slotDurationMinutes) b.startAt b.endAt := by
  have hlt := h.lt
  have hpos := config.slotDurationMinutes.pos
  simp only [Crowds, overlaps, addMinutes, slotStep]
  omega

section

variable (bookings : Collection Booking) (availability : Availability)

/-- The booking is an active one of the consultant. -/
def IsActiveOf (b : Booking) : Prop :=
  b ∈ bookings ∧ b.hrUserId = availability.hrUserId ∧ b.isActive

/-- Every slot is the buffer apart from every active booking of the consultant. -/
def HonoursBuffer (slots : List Slot) : Prop :=
  ∀ s ∈ slots, ∀ b, IsActiveOf bookings availability b →
    addMinutes b.endAt availability.bufferMinutes ≤ s.startAt ∨
      addMinutes s.endAt availability.bufferMinutes ≤ b.startAt

end

/-- The instant is between the bounds of the range, the notice and the horizon. -/
def GridTime.IsOpen {z : Zone} {config : SlotConfig} (g : GridTime z config)
    (rangeStart rangeEnd now : ℤ) : Prop :=
  (rangeStart ≤ g.instant ∧ g.instant < rangeEnd) ∧ InWindow config now g.instant

section

variable {z : Zone} {config : SlotConfig} {opts : GenerateSlotsOptions}

theorem GridTime.listed_iff (h : z.Regular) {g : GridTime z config} :
    g.Listed opts ↔ Admissible config opts g.instant := by
  refine and_iff_right_of_imp fun hadm => ?_
  have hday : z.day g.instant = g.day :=
    day_of_wallTimeToUtc h.steady g.offset_lt g.wallTimeToUtc_day
  refine h.steady.mem_daysBetween ?_ ?_ fun d _ _ => h.midnight_exists d
  · exact hday ▸ h.day_mono _ _ hadm.1
  · exact hday ▸ h.day_mono _ _ hadm.2.1.le

end

section

variable {offset : TimezoneName → ℤ} {bookings : Collection Booking} {availability : Availability}
  {rangeStart rangeEnd now : ℤ}

theorem GridTime.listed_iff_isOpen {z : Zone} (h : z.Regular)
    {g : GridTime z availability.toSlotConfig} :
    g.Listed ⟨rangeStart, rangeEnd, now,
        busyIntervals bookings availability.hrUserId rangeStart rangeEnd⟩ ↔
      g.IsOpen rangeStart rangeEnd now ∧
        ∀ b, TakesSlot bookings availability g.instant b → rangeEnd ≤ b.startAt := by
  rw [listed_iff h]
  simp only [Admissible, max_le_iff, lt_min_iff, IsOpen, InWindow]
  constructor
  · rintro ⟨⟨hfrom, hnotice⟩, ⟨hto, hhorizon⟩, hfree⟩
    exact ⟨⟨⟨hfrom, hto⟩, hnotice, hhorizon⟩, (busyIntervals_free_iff hfrom).1 hfree⟩
  · rintro ⟨⟨⟨hfrom, hto⟩, hnotice, hhorizon⟩, hfree⟩
    exact ⟨⟨hfrom, hnotice⟩, ⟨hto, hhorizon⟩, (busyIntervals_free_iff hfrom).2 hfree⟩

/-- The buffer is kept to a booking unless the booking crowds the slot. -/
theorem not_crowds_iff {config : SlotConfig} {s : Slot} {b : Booking}
    (hs : s.endAt = addMinutes s.startAt config.slotDurationMinutes) :
    ¬ b.Crowds config s.startAt ↔
      addMinutes b.endAt config.bufferMinutes ≤ s.startAt ∨
        addMinutes s.endAt config.bufferMinutes ≤ b.startAt := by
  simp only [Booking.Crowds, hs, addMinutes, slotStep]
  omega

/-- **The buffer and the bookings.**  The slots a client is shown are the buffer apart from every
active booking exactly when each open grid time that a booking crowds is taken by a booking that
the range fetches. -/
theorem honoursBuffer_iff (offset : TimezoneName → ℤ) (bookings : Collection Booking)
    (availability : Availability) (rangeStart rangeEnd now : ℤ) :
    (∀ result, getAvailableSlots (fun name => (Zone.fixed (offset name)).calendar) bookings
        availability rangeStart rangeEnd now = .ok result →
          HonoursBuffer bookings availability result.slots) ↔
      (assertRange rangeStart rangeEnd = .ok () →
        ∀ g : GridTime (Zone.fixed (offset availability.timezone)) availability.toSlotConfig,
          g.IsOpen rangeStart rangeEnd now →
            (∃ b, IsActiveOf bookings availability b ∧
              b.Crowds availability.toSlotConfig g.instant) →
              ∃ b, TakesSlot bookings availability g.instant b ∧ b.startAt < rangeEnd) := by
  have hregular := Zone.fixed_regular (offset availability.timezone)
  constructor
  · rintro h hrange g hopen ⟨b, hb, hcrowds⟩
    by_contra hnone
    push Not at hnone
    -- the grid time is listed, so the list keeps the buffer to the booking
    obtain ⟨s, hs, hstart⟩ := (GridTime.listed_iff_isOpen hregular).2 ⟨hopen, hnone⟩ |>.exists_slot
    have hkept := h _ (by simp only [getAvailableSlots, hrange]; rfl) s hs b hb
    rw [← hstart] at hcrowds
    exact (not_crowds_iff (endAt_of_mem_generateSlots hs)).2 hkept hcrowds
  · intro h result hresult s hs b hb
    cases hrange : assertRange rangeStart rangeEnd with
    | error e =>
      simp only [getAvailableSlots, hrange] at hresult
      cases hresult
    | ok _ =>
      simp only [getAvailableSlots, hrange] at hresult
      cases hresult
      refine (not_crowds_iff (endAt_of_mem_generateSlots hs)).1 fun hcrowds => ?_
      obtain ⟨g, hg, hstart⟩ := exists_gridTime hs
      obtain ⟨hopen, hfree⟩ := (GridTime.listed_iff_isOpen hregular).1 hg
      rw [← hstart] at hcrowds
      obtain ⟨b', htakes, hlt⟩ := h hrange g hopen ⟨b, hb, hcrowds⟩
      exact absurd hlt (not_lt.2 (hfree b' htakes))

/-- **On the grid.**  Bookings that are slots of the current grid are kept at a distance when the
grid times themselves are the buffer apart. -/
theorem honoursBuffer_of_onGrid
    (hgrid : ∀ g g' : GridTime (Zone.fixed (offset availability.timezone))
      availability.toSlotConfig,
        Separated (slotStep availability.toSlotConfig) g.reading g'.reading)
    (hbookings : ∀ b, IsActiveOf bookings availability b →
      b.endAt = addMinutes b.startAt availability.slotDurationMinutes ∧
        ∃ g : GridTime (Zone.fixed (offset availability.timezone)) availability.toSlotConfig,
          g.instant = b.startAt)
    {result : AvailableSlotsResult}
    (hresult : getAvailableSlots (fun name => (Zone.fixed (offset name)).calendar) bookings
      availability rangeStart rangeEnd now = .ok result) :
    HonoursBuffer bookings availability result.slots := by
  refine (honoursBuffer_iff offset bookings availability rangeStart rangeEnd now).2
    (fun _ g hopen => ?_) result hresult
  rintro ⟨b, hb, hcrowds⟩
  obtain ⟨hend, g', hstart⟩ := hbookings b hb
  have hpos : 0 < (availability.slotDurationMinutes : ℕ) :=
    Nat.lt_of_lt_of_le (by decide) availability.slotDurationMinutes.pos
  have hsep : Separated (slotStep availability.toSlotConfig) g.instant b.startAt := by
    rw [← hstart]
    exact separated_add_iff.2 (hgrid g g')
  rcases hsep with heq | hlt | hlt
  · -- the booking has taken the slot
    refine ⟨b, ⟨hb.1, hb.2.1, hb.2.2, ?_, ?_⟩, heq ▸ hopen.1.2⟩
    · rw [heq]
      exact lt_addMinutes hpos
    · rw [hend, heq]
      exact lt_addMinutes hpos
  · exact absurd hcrowds.2 (not_lt.2 hlt)
  · refine absurd hcrowds.1 (not_lt.2 ?_)
    simp only [hend, addMinutes, slotStep] at hlt ⊢
    omega

end

/-! ### Working intervals side by side -/

/-- Mondays from nine to ten and from ten to eleven, an hour each, with a quarter between. -/
def backToBackBody : AvailabilityBody :=
  { mondayBody 60 with
    bufferMinutes := some 15
    weeklyHours := some [⟨1, [⟨"09:00", "10:00"⟩, ⟨"10:00", "11:00"⟩]⟩] }

theorem timePattern_nine : timePattern "09:00" := by decide

theorem timePattern_ten : timePattern "10:00" := by decide

theorem timePattern_eleven : timePattern "11:00" := by decide

/-- The schedule read from `backToBackBody`. -/
def backToBack : Availability :=
  { mondayAvailability ⟨60, hour_mem_slotDurations⟩ with
    bufferMinutes := 15
    weeklyHours := [⟨⟨1, monday_lt_seven⟩,
      [⟨⟨"09:00", timePattern_nine⟩, ⟨"10:00", timePattern_ten⟩⟩,
        ⟨⟨"10:00", timePattern_ten⟩, ⟨"11:00", timePattern_eleven⟩⟩]⟩] }

theorem backToBackBody_accepted :
    updateAvailabilitySchema (fun name => name == "UTC") backToBackBody =
      .ok backToBack.toSlotConfig := rfl

/-- With the first hour booked, the second is shown without a minute between them. -/
theorem not_honoursBuffer :
    ¬ ∀ (isValidTimezone : String → Bool) (body : AvailabilityBody) (availability : Availability),
      updateAvailabilitySchema isValidTimezone body = .ok availability.toSlotConfig →
        ∀ (offset : TimezoneName → ℤ) (bookings : Collection Booking) (rangeStart rangeEnd now : ℤ)
          (result : AvailableSlotsResult),
          getAvailableSlots (fun name => (Zone.fixed (offset name)).calendar) bookings availability
              rangeStart rangeEnd now = .ok result →
            HonoursBuffer bookings availability result.slots := by
  intro h
  have hkept := h _ _ backToBack backToBackBody_accepted (fun _ => 0)
    (singleBooking (sampleBooking 7 mondayNine 60)) mondayNine (addDays mondayNine 1) 0 _ rfl
    ⟨addMinutes mondayNine 60, addMinutes mondayNine 120⟩ (by decide +kernel)
    (sampleBooking 7 mondayNine 60) ⟨List.mem_singleton_self _, rfl, by decide⟩
  exact absurd hkept (by decide)

end HrBooking
