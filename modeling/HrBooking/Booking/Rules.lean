import HrBooking.Booking.Overlap
import HrBooking.Slot.Generate

/-!
# The rules of a booking

The checks that `services/booking.service.ts` makes between its database commands, and the
documents it writes.  They are shared by the services run one after another and by the steps of
requests that run together.

* `bookableProfile`, `offeredArgs`, `newBooking` : creation.
* `assertCancellable`, `Booking.cancel`, `saveCancelled` : cancellation.
* `assertReschedulable`, `moveArgs`, `MoveArgs.apply` : rescheduling.
* `isDue`, `Booking.complete` : the lifecycle sweep.
-/

namespace HrBooking

/-- Who makes a request. -/
structure Actor where
  id : ObjectId
  role : UserRole
  deriving DecidableEq, Repr

/-- The validated body of a booking request. -/
structure CreateBookingInput where
  profileId : ObjectId
  startAt : ℤ
  timezone : Option TimezoneName
  notes : Option Notes
  meetingProvider : {p : MeetingProvider // p ∈ supportedMeetingProviders}
  deriving DecidableEq

/-- The validated body of a reschedule request. -/
structure RescheduleBookingInput where
  startAt : ℤ
  timezone : Option TimezoneName
  deriving DecidableEq

/-- `assertParticipant` : in which role the actor takes part. -/
def assertParticipant (actor : Actor) (booking : Booking) : Except AppError CancelledBy :=
  if booking.userId = actor.id then .ok .user
  else if booking.hrUserId = actor.id then .ok .hr
  else if actor.role = .admin ∨ actor.role = .superAdmin then .ok .admin
  else .error (.notFound "Booking not found.")

/-! ### Creation -/

/-- The published profile of the request, if its consultant takes bookings and is not the actor. -/
def bookableProfile (profiles : Collection HRProfile) (actor : Actor) (input : CreateBookingInput) :
    Except AppError HRProfile :=
  match profiles.docs.find? fun p => p.id = input.profileId ∧ p.status = .published with
  | none => .error (.notFound "Profile not found.")
  | some profile =>
    if profile.isAvailable = false then
      .error (.conflict "This consultant is not accepting bookings right now.")
    else if profile.userId = actor.id then
      .error (.badRequest "You cannot book a consultation with yourself.")
    else .ok profile

theorem bookableProfile_eq_ok {profiles : Collection HRProfile} {actor : Actor}
    {input : CreateBookingInput} {profile : HRProfile} :
    bookableProfile profiles actor input = .ok profile ↔
      profile ∈ profiles ∧ profile.id = input.profileId ∧ profile.status = .published ∧
        profile.isAvailable ∧ profile.userId ≠ actor.id := by
  unfold bookableProfile
  constructor
  · intro h
    split at h
    · cases h
    · rename_i found hfound
      split_ifs at h with havailable hself
      cases h
      have hp := List.find?_some hfound
      simp only [decide_eq_true_eq] at hp
      exact ⟨List.mem_of_find?_eq_some hfound, hp.1, hp.2, by simpa using havailable, hself⟩
  · rintro ⟨hmem, hid, hstatus, havailable, hself⟩
    -- identities are unique, so the query finds this profile and no other
    obtain ⟨found, hfound⟩ : ∃ found, profiles.docs.find?
        (fun p => p.id = input.profileId ∧ p.status = .published) = some found :=
      Option.isSome_iff_exists.1 (List.find?_isSome.2 ⟨profile, hmem, by simp [hid, hstatus]⟩)
    have hp := List.find?_some hfound
    simp only [decide_eq_true_eq] at hp
    obtain rfl : found = profile := Collection.eq_of_docId
      (List.mem_of_find?_eq_some hfound) hmem (hp.1.trans hid.symm)
    simp only [hfound]
    rw [if_neg (by simp [havailable]), if_neg hself]

/-- `getAvailabilityForHr` : unsaved defaults when the consultant never configured one. -/
def getAvailabilityForHr (availabilities : ObjectId → Option Availability) (hrUserId : ObjectId) :
    Availability :=
  (availabilities hrUserId).getD (.default hrUserId)

/-- The fee for a part of an hour, half a cent rounded up. -/
def prorate (hourlyRateCents durationMinutes : ℕ) : ℕ :=
  (2 * (hourlyRateCents * durationMinutes) + 60) / 120

/-- The fee of the longest slot at the highest rate. -/
def maxPriceCents : ℕ := prorate ProfileLimits.hourlyRateCentsMax 90

theorem prorate_le_maxPriceCents {hourlyRateCents : ℕ}
    (hrate : hourlyRateCents ≤ ProfileLimits.hourlyRateCentsMax) (d : SlotDuration) :
    prorate hourlyRateCents d.val ≤ maxPriceCents := by
  have hproduct : hourlyRateCents * d.val ≤ ProfileLimits.hourlyRateCentsMax * 90 :=
    Nat.mul_le_mul hrate d.le
  unfold maxPriceCents prorate
  omega

/-- What `insertBooking` is called with. -/
structure InsertBookingArgs where
  actor : Actor
  availability : Availability
  profileId : ObjectId
  hrUserId : ObjectId
  startAt : ℤ
  endAt : ℤ
  input : CreateBookingInput
  priceCents : ℕ
  currency : Currency
  deriving DecidableEq

/-- The arguments of the insert, when the consultant offers the instant. -/
def offeredArgs (cal : TimezoneName → Calendar) (availability : Availability) (now : ℤ)
    (actor : Actor) (profile : HRProfile) (input : CreateBookingInput) :
    Except AppError InsertBookingArgs :=
  if isOfferedSlot cal availability input.startAt now = false then
    .error (.slotUnavailable "That time is not offered by this consultant.")
  else
    .ok {
      actor, availability, input
      profileId := profile.id
      hrUserId := profile.userId
      startAt := input.startAt
      endAt := addMinutes input.startAt availability.slotDurationMinutes
      priceCents := prorate profile.hourlyRateCents availability.slotDurationMinutes
      currency := profile.currency }

theorem offeredArgs_eq_ok {cal : TimezoneName → Calendar} {availability : Availability} {now : ℤ}
    {actor : Actor} {profile : HRProfile} {input : CreateBookingInput} {args : InsertBookingArgs} :
    offeredArgs cal availability now actor profile input = .ok args ↔
      isOfferedSlot cal availability input.startAt now ∧ args = {
        actor, availability, input
        profileId := profile.id
        hrUserId := profile.userId
        startAt := input.startAt
        endAt := addMinutes input.startAt availability.slotDurationMinutes
        priceCents := prorate profile.hourlyRateCents availability.slotDurationMinutes
        currency := profile.currency } := by
  unfold offeredArgs
  split_ifs with h
  · simp [h]
  · simp [h, eq_comm]

/-- The document `insertBooking` constructs. -/
def newBooking (id : ObjectId) (args : InsertBookingArgs) : Booking where
  id := id
  userId := args.actor.id
  hrUserId := args.hrUserId
  hrProfileId := args.profileId
  startAt := args.startAt
  endAt := args.endAt
  durationMinutes := args.availability.slotDurationMinutes
  hrTimezone := args.availability.timezone
  userTimezone := args.input.timezone.getD args.availability.timezone
  status := .confirmed
  priceCents := args.priceCents
  currency := args.currency
  meetingProvider := args.input.meetingProvider
  notes := args.input.notes
  slotKey := some (buildSlotKey args.hrUserId args.startAt)
  cancelledAt := none
  cancelledBy := none
  cancellationReason := none
  previousStartAt := none
  rescheduleCount := 0

/-- The conflict found after the insert makes the new booking stand down. -/
def standsDown (conflict booking : Booking) : Prop := conflict.id.text < booking.id.text

instance (conflict booking : Booking) : Decidable (standsDown conflict booking) :=
  inferInstanceAs (Decidable (_ < _))

/-! ### Cancellation -/

/-- The checks of `cancelBooking`. -/
def assertCancellable (actor : Actor) (booking : Booking) (now : ℤ) :
    Except AppError CancelledBy := do
  let role ← assertParticipant actor booking
  if ¬ booking.isActive then
    .error (.conflict "This booking can no longer be cancelled.")
  else if booking.startAt ≤ now then
    .error (.conflict "This consultation has already started.")
  else if role = .user ∧ booking.startAt - now < BookingLimits.cancelNoticeMinutes * 60000 then
    .error (.conflict (s!"Consultations must be cancelled at least " ++
      s!"{BookingLimits.cancelNoticeMinutes} minutes in advance."))
  else .ok role

/-- The held document after a cancellation. -/
def Booking.cancel (booking : Booking) (now : ℤ) (role : CancelledBy) (reason : Option String) :
    Booking :=
  { booking with
    status := .cancelled
    cancelledAt := some now
    cancelledBy := some role
    cancellationReason := reason
    slotKey := none }

/-- `booking.save()` : the modified paths of the held document are written to the stored one. -/
def saveCancelled (loaded current stored : Booking) : Booking :=
  { stored with
    status := savePath loaded.status current.status stored.status
    cancelledAt := savePath loaded.cancelledAt current.cancelledAt stored.cancelledAt
    cancelledBy := savePath loaded.cancelledBy current.cancelledBy stored.cancelledBy
    cancellationReason :=
      savePath loaded.cancellationReason current.cancellationReason stored.cancellationReason
    slotKey := savePath loaded.slotKey current.slotKey stored.slotKey }

theorem saveCancelled_self (b : Booking) (now : ℤ) (role : CancelledBy) (reason : Option String) :
    saveCancelled b (b.cancel now role reason) b = b.cancel now role reason := by
  simp only [saveCancelled, Booking.cancel, savePath_loaded]

theorem assertCancellable_eq_ok {actor : Actor} {booking : Booking} {now : ℤ} {role : CancelledBy} :
    assertCancellable actor booking now = .ok role ↔
      assertParticipant actor booking = .ok role ∧ booking.isActive ∧ now < booking.startAt ∧
        ¬ (role = .user ∧ booking.startAt - now < BookingLimits.cancelNoticeMinutes * 60000) := by
  unfold assertCancellable
  rw [bind_eq_ok]
  constructor
  · rintro ⟨_, hrole, h⟩
    split_ifs at h with hactive hstart hnotice
    cases h
    exact ⟨hrole, hactive, not_le.1 hstart, hnotice⟩
  · rintro ⟨hrole, hactive, hstart, hnotice⟩
    refine ⟨role, hrole, ?_⟩
    rw [if_neg (not_not.2 hactive), if_neg (not_le.2 hstart), if_neg hnotice]

/-! ### Rescheduling -/

/-- The checks of `rescheduleBooking` before the new time is looked at. -/
def assertReschedulable (actor : Actor) (booking : Booking) (input : RescheduleBookingInput)
    (now : ℤ) : Except AppError CancelledBy := do
  let role ← assertParticipant actor booking
  if ¬ booking.isActive then
    .error (.conflict "This booking can no longer be rescheduled.")
  else if booking.startAt ≤ now then
    .error (.conflict "This consultation has already started.")
  else if booking.rescheduleCount ≥ BookingLimits.rescheduleMax then
    .error (.conflict s!"A booking can be rescheduled at most {BookingLimits.rescheduleMax} times.")
  else if input.startAt = booking.startAt then
    .error (.badRequest "Pick a different time to reschedule to.")
  else .ok role

theorem assertReschedulable_eq_ok {actor : Actor} {booking : Booking}
    {input : RescheduleBookingInput} {now : ℤ} {role : CancelledBy} :
    assertReschedulable actor booking input now = .ok role ↔
      assertParticipant actor booking = .ok role ∧ booking.isActive ∧ now < booking.startAt ∧
        booking.rescheduleCount < BookingLimits.rescheduleMax ∧
        input.startAt ≠ booking.startAt := by
  unfold assertReschedulable
  rw [bind_eq_ok]
  constructor
  · rintro ⟨_, hrole, h⟩
    split_ifs at h with hactive hstart hcount hsame
    cases h
    exact ⟨hrole, hactive, not_le.1 hstart, not_le.1 hcount, hsame⟩
  · rintro ⟨hrole, hactive, hstart, hcount, hsame⟩
    refine ⟨role, hrole, ?_⟩
    rw [if_neg (not_not.2 hactive), if_neg (not_le.2 hstart), if_neg (not_le.2 hcount),
      if_neg hsame]

/-- What the move is made from: the booking as it was read, and the schedule. -/
structure MoveArgs where
  booking : Booking
  availability : Availability
  input : RescheduleBookingInput
  startAt : ℤ
  endAt : ℤ
  deriving DecidableEq

/-- The move, when the consultant offers the new time. -/
def moveArgs (cal : TimezoneName → Calendar) (availability : Availability) (now : ℤ)
    (booking : Booking) (input : RescheduleBookingInput) : Except AppError MoveArgs :=
  if isOfferedSlot cal availability input.startAt now = false then
    .error (.slotUnavailable "That time is not offered by this consultant.")
  else
    .ok {
      booking, availability, input
      startAt := input.startAt
      endAt := addMinutes input.startAt availability.slotDurationMinutes }

theorem moveArgs_eq_ok {cal : TimezoneName → Calendar} {availability : Availability} {now : ℤ}
    {booking : Booking} {input : RescheduleBookingInput} {args : MoveArgs} :
    moveArgs cal availability now booking input = .ok args ↔
      isOfferedSlot cal availability input.startAt now ∧ args = {
        booking, availability, input
        startAt := input.startAt
        endAt := addMinutes input.startAt availability.slotDurationMinutes } := by
  unfold moveArgs
  split_ifs with h
  · simp [h]
  · simp [h, eq_comm]

/-- The update of `findOneAndUpdate`. -/
def MoveArgs.apply (args : MoveArgs) (stored : Booking) : Booking :=
  { stored with
    startAt := args.startAt
    endAt := args.endAt
    durationMinutes := args.availability.slotDurationMinutes
    hrTimezone := args.availability.timezone
    userTimezone := args.input.timezone.getD args.booking.userTimezone
    slotKey := some (buildSlotKey args.booking.hrUserId args.startAt)
    previousStartAt := some args.booking.startAt
    rescheduleCount := stored.rescheduleCount + 1 }

/-! ### The lifecycle sweep -/

/-- The filter of the sweep: active bookings whose end has passed. -/
def isDue (now : ℤ) (booking : Booking) : Prop := booking.isActive ∧ booking.endAt ≤ now

instance (now : ℤ) (booking : Booking) : Decidable (isDue now booking) :=
  inferInstanceAs (Decidable (_ ∧ _))

/-- The update of the sweep. -/
def Booking.complete (booking : Booking) : Booking :=
  { booking with status := .completed, slotKey := none }

end HrBooking
