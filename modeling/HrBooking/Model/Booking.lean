import HrBooking.Model.Availability
import HrBooking.Store.Collection

/-!
# Booking and meeting records

The documents of the `Booking` and `Meeting` collections and the profile fields a booking reads.

* `buildSlotKey` : the identity of an occupied slot, under a unique sparse index.
* `buildSlotKey_injective` : it names one consultant and one start.
* `savePath` : what saving a held document does to one field of the stored one.
-/

namespace HrBooking

/-- Notes of a client, as the booking schema bounds them. -/
abbrev Notes := {s : String // utf16Length s ≤ 1000}

/-- A stored booking. -/
structure Booking where
  id : ObjectId
  userId : ObjectId
  hrUserId : ObjectId
  hrProfileId : ObjectId
  startAt : ℤ
  endAt : ℤ
  durationMinutes : ℕ
  hrTimezone : TimezoneName
  userTimezone : TimezoneName
  status : BookingStatus
  priceCents : ℕ
  currency : Currency
  meetingProvider : MeetingProvider
  notes : Option Notes
  slotKey : Option String
  cancelledAt : Option ℤ
  cancelledBy : Option CancelledBy
  cancellationReason : Option String
  previousStartAt : Option ℤ
  rescheduleCount : ℕ
  deriving DecidableEq

/-- The index on `slotKey` is unique and sparse. -/
instance : Document Booking ObjectId String := ⟨Booking.id, Booking.slotKey⟩

/-- Identity of an occupied slot. -/
def buildSlotKey (hrUserId : ObjectId) (startAt : ℤ) : String :=
  hrUserId.text ++ ":" ++ toISOString startAt

/-- The booking still occupies its slot. -/
def Booking.isActive (booking : Booking) : Prop := booking.status ∈ activeBookingStatuses

instance (booking : Booking) : Decidable booking.isActive := inferInstanceAs (Decidable (_ ∈ _))

theorem Booking.isActive_iff {booking : Booking} :
    booking.isActive ↔ booking.status = .pending ∨ booking.status = .confirmed := by
  simp [isActive, activeBookingStatuses]

/-- A stored meeting. -/
structure Meeting where
  id : ObjectId
  bookingId : ObjectId
  provider : MeetingProvider
  status : MeetingStatus
  externalMeetingId : Option ℕ
  externalCalendarId : Option String
  meetingUrl : Option String
  startTime : ℤ
  endTime : ℤ
  lastError : Option String
  attempts : ℕ
  deriving DecidableEq

/-- The index on `bookingId` is unique. -/
instance : Document Meeting ObjectId ObjectId := ⟨Meeting.id, fun meeting => some meeting.bookingId⟩

/-- What a booking reads of a consultant's profile. -/
structure HRProfile where
  id : ObjectId
  userId : ObjectId
  status : ProfileStatus
  isAvailable : Bool
  hourlyRateCents : ℕ
  currency : Currency
  deriving DecidableEq

/-- The index on `userId` is unique. -/
instance : Document HRProfile ObjectId ObjectId :=
  ⟨HRProfile.id, fun profile => some profile.userId⟩

/-- One field of the stored document after saving a held one: only paths that were modified since
the document was loaded are written. -/
def savePath {α : Type} [DecidableEq α] (loaded current stored : α) : α :=
  if current = loaded then stored else current

section SavePath

variable {α : Type} [DecidableEq α]

@[simp] theorem savePath_self (a stored : α) : savePath a a stored = stored := if_pos rfl

theorem savePath_of_ne {loaded current : α} (h : current ≠ loaded) (stored : α) :
    savePath loaded current stored = current := if_neg h

@[simp] theorem savePath_loaded (loaded current : α) :
    savePath loaded current loaded = current := by
  unfold savePath
  split_ifs with h
  · exact h.symm
  · rfl

end SavePath

/-! ### Slot keys -/

theorem colon_notMem_text (i : ObjectId) : ':' ∉ i.text.toList := by
  rw [ObjectId.text, String.toList_ofList]
  exact colon_notMem_padNumeral (by decide) (by decide) 24 i

/-- **A slot key names one consultant and one start.**  The first colon of a key ends the
identity of the consultant. -/
theorem buildSlotKey_injective {hr hr' : ObjectId} {t t' : ℤ}
    (h : buildSlotKey hr t = buildSlotKey hr' t') : hr = hr' ∧ t = t' := by
  have hlist : hr.text.toList ++ ':' :: (toISOString t).toList =
      hr'.text.toList ++ ':' :: (toISOString t').toList := by
    have := congrArg String.toList h
    simpa [buildSlotKey] using this
  have hsplit := congrArg (List.splitOn ':') hlist
  rw [List.splitOn_append_cons_self_of_not_mem (colon_notMem_text hr),
    List.splitOn_append_cons_self_of_not_mem (colon_notMem_text hr')] at hsplit
  have hid : hr.text.toList = hr'.text.toList := (List.cons.inj hsplit).1
  rw [hid] at hlist
  have hiso : (toISOString t).toList = (toISOString t').toList :=
    (List.cons.inj (List.append_cancel_left hlist)).2
  exact ⟨ObjectId.text_injective (String.toList_injective hid),
    toISOString_injective (String.toList_injective hiso)⟩

end HrBooking
