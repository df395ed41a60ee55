import HrBooking.Booking.Rules

/-!
# The booking record

`Booking.WellFormed` ties the fields of a booking to each other.  Every document the services write
is well formed, whatever happened to the stored document since the held copy was read.

* `newBooking_wellFormed`, `MoveArgs.apply_wellFormed`, `saveCancelled_wellFormed` and
  `Booking.complete_wellFormed` : the four writes.
* `eq_of_active_start` : at most one active booking per consultant and start.
-/

namespace HrBooking

/-- The fields of a booking agree with each other. -/
structure Booking.WellFormed (b : Booking) : Prop where
  /-- Exactly the active bookings carry a slot key, the one of their consultant and start. -/
  slotKey_eq : b.slotKey = if b.isActive then some (buildSlotKey b.hrUserId b.startAt) else none
  endAt_eq : b.endAt = addMinutes b.startAt b.durationMinutes
  duration_pos : 1 ≤ b.durationMinutes
  cancelledAt_iff : b.cancelledAt.isSome ↔ b.status = .cancelled
  cancelledBy_iff : b.cancelledBy.isSome ↔ b.status = .cancelled
  moved_iff : b.previousStartAt.isSome ↔ 1 ≤ b.rescheduleCount
  moved_ne : ∀ p ∈ b.previousStartAt, p ≠ b.startAt

/-- The interval of an insert has the length of the schedule. -/
def InsertBookingArgs.Sound (args : InsertBookingArgs) : Prop :=
  args.endAt = addMinutes args.startAt args.availability.slotDurationMinutes

/-- The interval of a move has the length of the schedule and starts at another time than the
booking did when it was read. -/
structure MoveArgs.Sound (args : MoveArgs) : Prop where
  endAt_eq : args.endAt = addMinutes args.startAt args.availability.slotDurationMinutes
  start_ne : args.startAt ≠ args.booking.startAt

section Arguments

variable {cal : TimezoneName → Calendar} {availability : Availability} {now : ℤ}

theorem offeredArgs_sound {actor : Actor} {profile : HRProfile} {input : CreateBookingInput}
    {args : InsertBookingArgs}
    (h : offeredArgs cal availability now actor profile input = .ok args) : args.Sound := by
  obtain ⟨-, rfl⟩ := offeredArgs_eq_ok.1 h
  rfl

theorem moveArgs_sound {booking : Booking} {input : RescheduleBookingInput} {args : MoveArgs}
    (h : moveArgs cal availability now booking input = .ok args)
    (hne : input.startAt ≠ booking.startAt) : args.Sound ∧ args.booking = booking := by
  obtain ⟨-, rfl⟩ := moveArgs_eq_ok.1 h
  exact ⟨⟨rfl, hne⟩, rfl⟩

end Arguments

section Active

variable {b : Booking}

theorem Booking.WellFormed.slotKey_of_active (h : b.WellFormed) (ha : b.isActive) :
    b.slotKey = some (buildSlotKey b.hrUserId b.startAt) := by
  rw [h.slotKey_eq, if_pos ha]

theorem Booking.WellFormed.slotKey_isSome (h : b.WellFormed) : b.slotKey.isSome ↔ b.isActive := by
  rw [h.slotKey_eq]
  split_ifs with ha <;> simp [ha]

theorem Booking.WellFormed.lt (h : b.WellFormed) : b.startAt < b.endAt := by
  rw [h.endAt_eq]
  exact lt_addMinutes h.duration_pos

theorem Booking.isActive.ne_cancelled (ha : b.isActive) : b.status ≠ .cancelled := by
  rcases Booking.isActive_iff.1 ha with h | h <;> simp [h]

end Active

theorem Booking.not_isActive_cancelled {b : Booking} (h : b.status = .cancelled) : ¬ b.isActive :=
  fun ha => ha.ne_cancelled h

/-! ### The writes -/

theorem newBooking_isActive (id : ObjectId) (args : InsertBookingArgs) :
    (newBooking id args).isActive := Booking.isActive_iff.2 (.inr rfl)

theorem newBooking_wellFormed (id : ObjectId) {args : InsertBookingArgs} (h : args.Sound) :
    (newBooking id args).WellFormed where
  slotKey_eq := (if_pos (newBooking_isActive id args)).symm
  endAt_eq := h
  duration_pos := le_trans (by decide) args.availability.slotDurationMinutes.pos
  cancelledAt_iff := by simp [newBooking]
  cancelledBy_iff := by simp [newBooking]
  moved_iff := by simp [newBooking]
  moved_ne p hp := by cases hp

theorem MoveArgs.apply_wellFormed {args : MoveArgs} {stored : Booking} (h : args.Sound)
    (hstored : stored.WellFormed) (ha : stored.isActive)
    (hhr : args.booking.hrUserId = stored.hrUserId) : (args.apply stored).WellFormed where
  slotKey_eq := by
    have : (args.apply stored).isActive := ha
    rw [if_pos this]
    simp [apply, hhr]
  endAt_eq := h.endAt_eq
  duration_pos := le_trans (by decide) args.availability.slotDurationMinutes.pos
  cancelledAt_iff := hstored.cancelledAt_iff
  cancelledBy_iff := hstored.cancelledBy_iff
  moved_iff := by simp [apply]
  moved_ne p hp := by
    obtain rfl : args.booking.startAt = p := by simpa [apply] using hp
    exact h.start_ne.symm

/-- Saving a cancelled copy of a booking that was active when it was read cancels the stored
document, whatever became of it in the meantime. -/
theorem saveCancelled_cancel {loaded stored : Booking} {now : ℤ} {role : CancelledBy}
    {reason : Option String} (h : loaded.WellFormed) (ha : loaded.isActive) :
    saveCancelled loaded (loaded.cancel now role reason) stored =
      { stored with
        status := .cancelled
        cancelledAt := some now
        cancelledBy := some role
        cancellationReason := savePath loaded.cancellationReason reason stored.cancellationReason
        slotKey := none } := by
  have hstatus := ha.ne_cancelled
  have hat : loaded.cancelledAt = none := by
    rw [← Option.not_isSome_iff_eq_none, h.cancelledAt_iff]
    exact hstatus
  have hby : loaded.cancelledBy = none := by
    rw [← Option.not_isSome_iff_eq_none, h.cancelledBy_iff]
    exact hstatus
  have hkey := h.slotKey_of_active ha
  simp only [saveCancelled, Booking.cancel, savePath_of_ne hstatus.symm, hat, hby, hkey]
  simp [savePath]

theorem saveCancelled_wellFormed {loaded stored : Booking} {now : ℤ} {role : CancelledBy}
    {reason : Option String} (h : loaded.WellFormed) (ha : loaded.isActive)
    (hstored : stored.WellFormed) :
    (saveCancelled loaded (loaded.cancel now role reason) stored).WellFormed := by
  rw [saveCancelled_cancel h ha]
  exact {
    slotKey_eq := (if_neg (Booking.not_isActive_cancelled rfl)).symm
    endAt_eq := hstored.endAt_eq
    duration_pos := hstored.duration_pos
    cancelledAt_iff := by simp
    cancelledBy_iff := by simp
    moved_iff := hstored.moved_iff
    moved_ne := hstored.moved_ne }

theorem Booking.complete_not_isActive (b : Booking) : ¬ b.complete.isActive := by
  simp [isActive_iff, complete]

theorem Booking.complete_wellFormed {b : Booking} (h : b.WellFormed) (ha : b.isActive) :
    b.complete.WellFormed where
  slotKey_eq := (if_neg b.complete_not_isActive).symm
  endAt_eq := h.endAt_eq
  duration_pos := h.duration_pos
  cancelledAt_iff := by simpa [complete, ha.ne_cancelled] using h.cancelledAt_iff
  cancelledBy_iff := by simpa [complete, ha.ne_cancelled] using h.cancelledBy_iff
  moved_iff := h.moved_iff
  moved_ne := h.moved_ne

/-! ### One active booking per start -/

/-- Under the unique index at most one active booking exists per consultant and start. -/
theorem eq_of_active_start {bookings : Collection Booking} {b b' : Booking} (hb : b ∈ bookings)
    (hb' : b' ∈ bookings) (h : b.WellFormed) (h' : b'.WellFormed) (ha : b.isActive)
    (ha' : b'.isActive) (hhr : b.hrUserId = b'.hrUserId) (hstart : b.startAt = b'.startAt) :
    b = b' := by
  refine Collection.eq_of_indexKey hb hb' (h.slotKey_of_active ha) ?_
  rw [hhr, hstart]
  exact h'.slotKey_of_active ha'

end HrBooking
