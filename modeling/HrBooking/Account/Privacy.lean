import HrBooking.Account.Suspension

/-!
# What a stranger learns about a booking

The services of `services/booking.service.ts` that are called with the identity of a booking.  A
loaded booking holds at a reference either the identity or the document it was populated with, and
the check of the participant reads both the same way.

* `Reference`, `LoadedBooking`, `idOf` : a booking as it is loaded.
* `assertLoadedParticipant_eq` : populating the references does not matter to the check.
* `BookingCall` : a call on one booking.
* `strangers_see_nothing` : an actor who takes no part in a booking cannot tell it from none.
-/

namespace HrBooking

/-! ### Loaded bookings -/

/-- What is populated of an account. -/
structure PopulatedUser where
  id : ObjectId
  firstName : String
  lastName : String
  deriving DecidableEq

/-- What a loaded document holds at a reference. -/
inductive Reference where
  | id (id : ObjectId)
  /-- The document, `none` when it is gone. -/
  | populated (user : Option PopulatedUser)
  deriving DecidableEq

/-- Reference ids read the same whether or not the path was populated. -/
def idOf : Reference → String
  | .id i => i.text
  | .populated (some user) => user.id.text
  | .populated none => "null"

/-- `populate('...', 'firstName lastName')` of one path. -/
def Reference.populate (users : Collection User) (i : ObjectId) : Reference :=
  .populated ((users.findById i).map fun user => ⟨user.id, user.firstName, user.lastName⟩)

/-- A booking with its references as they were loaded. -/
structure LoadedBooking where
  booking : Booking
  userId : Reference
  hrUserId : Reference
  deriving DecidableEq

/-- `Booking.findById`, populated or not. -/
def Booking.load (users : Collection User) (populated : Bool) (b : Booking) : LoadedBooking :=
  if populated then ⟨b, .populate users b.userId, .populate users b.hrUserId⟩
  else ⟨b, .id b.userId, .id b.hrUserId⟩

/-- `assertParticipant` on a booking as it was loaded. -/
def assertLoadedParticipant (actor : Actor) (loaded : LoadedBooking) :
    Except AppError CancelledBy :=
  if idOf loaded.userId = actor.id.text then .ok .user
  else if idOf loaded.hrUserId = actor.id.text then .ok .hr
  else if actor.role = .admin ∨ actor.role = .superAdmin then .ok .admin
  else .error (.notFound "Booking not found.")

/-! ### Calls -/

/-- `getBookingForActor`, with the references populated. -/
def getLoadedBooking (actor : Actor) (bookingId : ObjectId) (p : Platform) :
    Except AppError LoadedBooking := do
  let booking ← findBooking p.world.bookings bookingId
  let loaded := booking.load p.users true
  let _ ← assertLoadedParticipant actor loaded
  return loaded

/-- A call on one booking. -/
inductive BookingCall where
  | get
  | cancel (reason : Option String)
  | reschedule (input : RescheduleBookingInput)
  | retry

/-- What a call answers and the state it leaves.  A service that goes through answers with the
booking as it is read at its end, populated. -/
def BookingCall.answer (cal : TimezoneName → Calendar) (o : Oracle) (actor : Actor)
    (bookingId : ObjectId) (p : Platform) : BookingCall → Answer LoadedBooking
  | get => p.answer (getLoadedBooking actor bookingId p)
  | cancel reason =>
    (p.call (cancelBooking o actor bookingId reason)).andThen fun b p =>
      p.answer (.ok (b.load p.users true))
  | reschedule input =>
    (p.call (rescheduleBooking cal o actor bookingId input)).andThen fun b p =>
      p.answer (.ok (b.load p.users true))
  | retry =>
    (p.call (retryBookingMeeting o actor bookingId)).andThen fun b p =>
      p.answer (.ok (b.load p.users true))

/-! ### Strangers -/

/-- The actor is neither the client nor the consultant of the booking. -/
def Actor.IsStrangerTo (actor : Actor) (b : Booking) : Prop :=
  b.userId ≠ actor.id ∧ b.hrUserId ≠ actor.id

instance (actor : Actor) (b : Booking) : Decidable (actor.IsStrangerTo b) :=
  inferInstanceAs (Decidable (_ ∧ _))

/-- The stores differ only in bookings the actor takes no part in, and in the meetings of such
bookings. -/
structure DifferInForeign (actor : Actor) (p p' : Platform) : Prop where
  rest : p' = { p with
    world := { p.world with bookings := p'.world.bookings, meetings := p'.world.meetings } }
  bookings : ∀ b, ¬ actor.IsStrangerTo b → (b ∈ p.world.bookings ↔ b ∈ p'.world.bookings)
  meetings : ∀ m, (∀ b ∈ p.world.bookings, b.id = m.bookingId → ¬ actor.IsStrangerTo b) →
    (∀ b ∈ p'.world.bookings, b.id = m.bookingId → ¬ actor.IsStrangerTo b) →
    (m ∈ p.world.meetings ↔ m ∈ p'.world.meetings)

/-- The identity names a booking the actor takes no part in, or none. -/
def NamesForeign (actor : Actor) (bookingId : ObjectId) (p : Platform) : Prop :=
  ∀ b ∈ p.world.bookings, b.id = bookingId → actor.IsStrangerTo b

instance (actor : Actor) (bookingId : ObjectId) (p : Platform) :
    Decidable (NamesForeign actor bookingId p) :=
  inferInstanceAs (Decidable (∀ b ∈ p.world.bookings, _ → _))

section

variable {actor : Actor} {b : Booking} {bookingId : ObjectId} {p p' : Platform}

theorem DifferInForeign.namesForeign (h : DifferInForeign actor p p')
    (hid : NamesForeign actor bookingId p) : NamesForeign actor bookingId p' := by
  intro b hb hbid
  by_contra hown
  exact hown (hid b ((h.bookings b hown).2 hb) hbid)

theorem null_ne_text (i : ObjectId) : "null" ≠ i.text := by
  intro h
  have hlen := congrArg (fun s => s.toList.length) h
  have hle := le_length_padNumeral 16 24 i
  simp only [ObjectId.text, String.toList_ofList] at hlen
  have hnull : "null".toList.length = 4 := rfl
  omega

/-- A populated reference is compared like the identity it was populated from, and a reference to a
document that is gone like no identity. -/
theorem idOf_populate (users : Collection User) (i : ObjectId) :
    idOf (.populate users i) = i.text ∨ ∀ j : ObjectId, idOf (.populate users i) ≠ j.text := by
  unfold Reference.populate
  cases hfind : users.findById i with
  | none => exact .inr null_ne_text
  | some user =>
    obtain ⟨-, rfl⟩ := Collection.findById_eq_some.1 hfind
    exact .inl rfl

theorem assertLoadedParticipant_eq (users : Collection User) :
    assertLoadedParticipant actor (b.load users false) = assertParticipant actor b := by
  simp only [assertLoadedParticipant, assertParticipant, Booking.load, Bool.false_eq_true, if_false,
    idOf, ObjectId.text_injective.eq_iff]

/-- A stranger who is not an admin is answered as if there were no booking, however the references
were loaded. -/
theorem assertLoadedParticipant_of_stranger (hrole : actor.role ≠ .admin ∧ actor.role ≠ .superAdmin)
    (hstranger : actor.IsStrangerTo b) (users : Collection User) (populated : Bool) :
    assertLoadedParticipant actor (b.load users populated) =
      .error (.notFound "Booking not found.") := by
  have hne : ∀ {i : ObjectId} {r : Reference}, i ≠ actor.id →
      (idOf r = i.text ∨ ∀ j : ObjectId, idOf r ≠ j.text) → idOf r ≠ actor.id.text := by
    rintro i r hi (h | h)
    · rw [h]
      exact ObjectId.text_injective.ne hi
    · exact h actor.id
  have hadmin : ¬ (actor.role = .admin ∨ actor.role = .superAdmin) := not_or.2 hrole
  cases populated with
  | false =>
    rw [assertLoadedParticipant_eq, assertParticipant, if_neg hstranger.1, if_neg hstranger.2,
      if_neg hadmin]
  | true =>
    have huser := hne hstranger.1 (idOf_populate users b.userId)
    have hhr := hne hstranger.2 (idOf_populate users b.hrUserId)
    simp only [assertLoadedParticipant, Booking.load, if_true]
    rw [if_neg huser, if_neg hhr, if_neg hadmin]

theorem findBooking_stranger {α : Type} {rest : Booking → Except AppError α}
    (hid : NamesForeign actor bookingId p)
    (hrest : ∀ b, actor.IsStrangerTo b → rest b = .error (.notFound "Booking not found.")) :
    (findBooking p.world.bookings bookingId >>= rest) =
      .error (.notFound "Booking not found.") := by
  unfold findBooking
  cases hfind : p.world.bookings.findById bookingId with
  | none => rfl
  | some b =>
    obtain ⟨hb, hbid⟩ := Collection.findById_eq_some.1 hfind
    exact hrest b (hid b hb hbid)

theorem assertParticipant_of_stranger (hrole : actor.role ≠ .admin ∧ actor.role ≠ .superAdmin)
    (hstranger : actor.IsStrangerTo b) :
    assertParticipant actor b = .error (.notFound "Booking not found.") := by
  rw [← assertLoadedParticipant_eq .empty]
  exact assertLoadedParticipant_of_stranger hrole hstranger _ _

theorem BookingCall.answer_of_stranger (cal : TimezoneName → Calendar) (o : Oracle)
    (hrole : actor.role ≠ .admin ∧ actor.role ≠ .superAdmin)
    (hid : NamesForeign actor bookingId p) (call : BookingCall) :
    call.answer cal o actor bookingId p = (.error (.notFound "Booking not found."), p) := by
  -- all four calls refuse where they check the participant, with the text of a missing booking
  have hassert : ∀ {α : Type} {rest : CancelledBy → Except AppError α} (b : Booking),
      actor.IsStrangerTo b →
        (assertParticipant actor b >>= rest) = .error (.notFound "Booking not found.") := by
    intro α rest b hb
    rw [assertParticipant_of_stranger hrole hb]
    rfl
  cases call with
  | get =>
    have hget : getLoadedBooking actor bookingId p = .error (.notFound "Booking not found.") := by
      refine findBooking_stranger hid fun b hb => ?_
      dsimp only
      rw [assertLoadedParticipant_of_stranger hrole hb]
      rfl
    rw [answer, hget]
    rfl
  | cancel reason =>
    have hargs : cancelArgs actor bookingId p.world = .error (.notFound "Booking not found.") := by
      refine findBooking_stranger hid fun b hb => ?_
      rw [assertCancellable, hassert b hb]
      rfl
    have hcall : cancelBooking o actor bookingId reason p.world = (_, p.world) :=
      Service.bind_of_error (by rw [Service.check_apply, hargs])
    rw [answer, Platform.call, hcall]
    rfl
  | reschedule input =>
    have hargs : rescheduleArgs cal o actor bookingId input p.world =
        .error (.notFound "Booking not found.") := by
      refine findBooking_stranger hid fun b hb => ?_
      rw [assertReschedulable, hassert b hb]
      rfl
    have hcall : rescheduleBooking cal o actor bookingId input p.world = (_, p.world) :=
      Service.bind_of_error (by rw [Service.check_apply, hargs])
    rw [answer, Platform.call, hcall]
    rfl
  | retry =>
    have hargs : retryArgs actor bookingId p.world = .error (.notFound "Booking not found.") :=
      findBooking_stranger hid fun b hb => hassert b hb
    have hcall : retryBookingMeeting o actor bookingId p.world = (_, p.world) :=
      Service.bind_of_error (by rw [Service.check_apply, hargs])
    rw [answer, Platform.call, hcall]
    rfl

/-- In stores that differ in foreign bookings only, an actor who is no admin gets the same answer to
every call on a foreign booking, the one for an identity that names nothing, and nothing is written;
populating the references does not matter. -/
theorem strangers_see_nothing (cal : TimezoneName → Calendar) (o o' : Oracle)
    (hrole : actor.role ≠ .admin ∧ actor.role ≠ .superAdmin) (hdiffer : DifferInForeign actor p p')
    (hid : NamesForeign actor bookingId p) (call : BookingCall) :
    call.answer cal o actor bookingId p = (.error (.notFound "Booking not found."), p) ∧
      call.answer cal o' actor bookingId p' = (.error (.notFound "Booking not found."), p') ∧
      ∀ b, b ∈ p.world.bookings ∨ b ∈ p'.world.bookings → b.id = bookingId → ∀ populated,
        assertLoadedParticipant actor (b.load p.users populated) =
          .error (.notFound "Booking not found.") := by
  have hid' := hdiffer.namesForeign hid
  refine ⟨call.answer_of_stranger cal o hrole hid, call.answer_of_stranger cal o' hrole hid', ?_⟩
  rintro b (hb | hb) hbid populated
  · exact assertLoadedParticipant_of_stranger hrole (hid b hb hbid) _ _
  · exact assertLoadedParticipant_of_stranger hrole (hid' b hb hbid) _ _

end

/-- The client's store with these bookings. -/
def bookedPlatform (bookings : Collection Booking) : Platform :=
  { clientPlatform with world := { emptyWorld with bookings } }

/-- Account 9 cannot tell booking 7 of client 2 from none by trying to cancel it. -/
theorem strangers_see_nothing_cancel :
    let p := bookedPlatform (singleBooking (sampleBooking 7 mondayNine 30))
    let call := BookingCall.cancel none
    call.answer utcCalendar (answering 8 1) ⟨9, .user⟩ 7 p =
        (.error (.notFound "Booking not found."), p) ∧
      call.answer utcCalendar (answering 8 1) ⟨9, .user⟩ 7 (bookedPlatform .empty) =
        (.error (.notFound "Booking not found."), bookedPlatform .empty) := by
  have hdiffer : DifferInForeign ⟨9, .user⟩
      (bookedPlatform (singleBooking (sampleBooking 7 mondayNine 30)))
      (bookedPlatform .empty) := by
    refine ⟨rfl, fun b hown => ?_, fun m _ _ => Iff.rfl⟩
    refine ⟨fun hb => absurd ?_ hown, fun hb => absurd hb (List.not_mem_nil)⟩
    obtain rfl : b = sampleBooking 7 mondayNine 30 := List.mem_singleton.1 hb
    decide
  have hforeign : NamesForeign ⟨9, .user⟩ 7
      (bookedPlatform (singleBooking (sampleBooking 7 mondayNine 30))) := by decide
  have hclaim := strangers_see_nothing utcCalendar (answering 8 1) (answering 8 1) (by decide)
    hdiffer hforeign (.cancel none)
  exact ⟨hclaim.1, hclaim.2.1⟩

end HrBooking
