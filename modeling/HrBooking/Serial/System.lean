import HrBooking.Booking.Record
import HrBooking.Machine.Basic
import HrBooking.Meeting.Service

/-!
# Serial runs

The services run one after another: each action is a whole service call on the shared state, and no
call starts before the one before it has ended.

* `serial` : the machine; an action is refused only when its surroundings offer an identity that is
  taken.
* `CallWrite` : what a booking service writes when it runs alone.
* `serial_step_cases` : what an action does, from which the invariants of serial runs are derived.
-/

namespace HrBooking

/-- One service call, with its surroundings. -/
inductive SerialAction where
  | createBooking (o : Oracle) (actor : Actor) (input : CreateBookingInput)
  | cancelBooking (o : Oracle) (actor : Actor) (bookingId : ObjectId) (reason : Option String)
  | rescheduleBooking (o : Oracle) (actor : Actor) (bookingId : ObjectId)
      (input : RescheduleBookingInput)
  | retryBookingMeeting (o : Oracle) (actor : Actor) (bookingId : ObjectId)
  /-- a job of the meeting worker -/
  | runJob (o : Oracle) (name : MeetingJobName) (bookingId : ObjectId)
  | updateAvailability (hrUserId : ObjectId) (config : SlotConfig)
  /-- profiles change -/
  | setProfiles (profiles : Collection HRProfile)
  /-- the lifecycle sweep -/
  | sweep
  /-- time passes -/
  | advance (ms : ℕ)

/-- The handler of a job. -/
def MeetingJobName.handle (o : Oracle) (bookingId : ObjectId) :
    MeetingJobName → Service (Option Meeting)
  | create => ensureMeetingForBooking o bookingId
  | sync => syncMeetingTimes o bookingId
  | cancel => cancelMeetingForBooking o bookingId

/-- A service call ends in its state, whatever it answers. -/
def Service.after {α : Type} (o : Oracle) (call : Service α) (w : World) : Option World :=
  if o.Fresh w then some (call w).2 else none

/-- One action. -/
def SerialAction.exec (cal : TimezoneName → Calendar) (w : World) : SerialAction → Option World
  | createBooking o actor input => (HrBooking.createBooking cal o actor input).after o w
  | cancelBooking o actor bookingId reason =>
    (HrBooking.cancelBooking o actor bookingId reason).after o w
  | rescheduleBooking o actor bookingId input =>
    (HrBooking.rescheduleBooking cal o actor bookingId input).after o w
  | retryBookingMeeting o actor bookingId =>
    (HrBooking.retryBookingMeeting o actor bookingId).after o w
  | runJob o name bookingId => (name.handle o bookingId).after o w
  | updateAvailability hrUserId config => some (HrBooking.updateAvailability hrUserId config w)
  | setProfiles profiles => some { w with profiles }
  | sweep => some (lifecycleSweep w)
  | advance ms => some { w with now := w.now + ms }

/-- Serial runs as runs of a machine. -/
def serial (cal : TimezoneName → Calendar) : Machine World SerialAction :=
  ⟨fun w a => a.exec cal w⟩

/-! ### What a call writes -/

/-- What a booking service writes when it runs alone, the queues and the audit log apart.  The
checks hold of the collection that is written, since nothing happens between them and the write. -/
inductive CallWrite (w : World) : World → Prop
  | none : CallWrite w w
  | refused (id : ObjectId) : CallWrite w { w with issuedIds := id :: w.issuedIds }
  | insert {c : Collection Booking} (id : ObjectId) (args : InsertBookingArgs)
      (hsound : args.Sound) (hself : args.actor.id ≠ args.hrUserId)
      (hclient : IsFree w.bookings (.user args.actor.id) args.startAt args.endAt .none)
      (hconsultant : IsFree w.bookings (.hr args.hrUserId) args.startAt args.endAt .none)
      (h : w.bookings.insert (newBooking id args) = some c) :
      CallWrite w { w with issuedIds := id :: w.issuedIds, bookings := c }
  | save {c : Collection Booking} (b : Booking) (now : ℤ) (role : CancelledBy)
      (reason : Option String) (hmem : b ∈ w.bookings) (hactive : b.isActive)
      (h : w.bookings.update b.id (saveCancelled b (b.cancel now role reason)) = some c) :
      CallWrite w { w with bookings := c }
  | move {c : Collection Booking} (args : MoveArgs) (hsound : args.Sound)
      (hmem : args.booking ∈ w.bookings) (hactive : args.booking.isActive)
      (hclient : IsFree w.bookings (.user args.booking.userId) args.startAt args.endAt
        (some args.booking.id))
      (hconsultant : IsFree w.bookings (.hr args.booking.hrUserId) args.startAt args.endAt
        (some args.booking.id))
      (h : w.bookings.update args.booking.id args.apply = some c) :
      CallWrite w { w with bookings := c }

theorem CallWrite.now_eq {w w' : World} (h : CallWrite w w') : w'.now = w.now := by
  cases h <;> rfl

section Calls

variable {cal : TimezoneName → Calendar} {o : Oracle} {w : World}

theorem createBooking_writes (actor : Actor) (input : CreateBookingInput) :
    ∃ w₁, CallWrite w w₁ ∧ w₁.SameStore (createBooking cal o actor input w).2 := by
  rcases createBooking_cases cal o w actor input with
    ⟨⟨e, w₁, hrun, rfl | rfl⟩, -⟩ | ⟨args, c, hargs, hins, hrun⟩
  · rw [hrun]
    exact ⟨w₁, .none, .refl w₁⟩
  · rw [hrun]
    exact ⟨_, .refused o.newId, .refl _⟩
  · rw [hrun]
    obtain ⟨profile, hprofile, hoffered, hclient, hconsultant⟩ := createArgs_eq_ok.1 hargs
    have hsound := offeredArgs_sound hoffered
    obtain ⟨-, rfl⟩ := offeredArgs_eq_ok.1 hoffered
    have hself : actor.id ≠ profile.userId := (bookableProfile_eq_ok.1 hprofile).2.2.2.2.symm
    refine ⟨_, .insert o.newId _ hsound hself hclient hconsultant hins, ?_⟩
    exact Service.Within.bind (dispatchBookingCreated_within _) (fun _ => Service.within_pure _) _

theorem cancelBooking_writes (actor : Actor) (id : ObjectId) (reason : Option String) :
    ∃ w₁, CallWrite w w₁ ∧ w₁.SameStore (cancelBooking o actor id reason w).2 := by
  rcases cancelBooking_cases o w actor id reason with
    ⟨⟨e, hrun⟩, -⟩ | ⟨booking, role, c, -, hmem, -, hactive, hupd, hrun⟩
  · rw [hrun]
    exact ⟨w, .none, .refl w⟩
  · rw [hrun]
    refine ⟨_, .save booking w.now role reason hmem hactive hupd, ?_⟩
    exact Service.Within.bind (recordCancellation_within _ _ _ _)
      (fun _ => .bind (dispatchBookingCancelled_within _) fun _ => Service.within_pure _) _

theorem rescheduleBooking_writes (cal : TimezoneName → Calendar) (actor : Actor) (id : ObjectId)
    (input : RescheduleBookingInput) :
    ∃ w₁, CallWrite w w₁ ∧ w₁.SameStore (rescheduleBooking cal o actor id input w).2 := by
  rcases rescheduleBooking_cases cal o w actor id input with
    ⟨⟨e, hrun⟩, -⟩ | ⟨args, c, hargs, hmem, -, hactive, hupd, hrun⟩
  · rw [hrun]
    exact ⟨w, .none, .refl w⟩
  · rw [hrun]
    obtain ⟨booking, role, -, -, hrole, hmove, hclient, hconsultant⟩ :=
      rescheduleArgs_eq_ok.1 hargs
    obtain ⟨-, -, -, -, hne⟩ := assertReschedulable_eq_ok.1 hrole
    obtain ⟨hsound, rfl⟩ := moveArgs_sound hmove hne
    refine ⟨_, .move args hsound hmem hactive hclient hconsultant hupd, ?_⟩
    exact Service.Within.bind (dispatchBookingRescheduled_within _)
      (fun _ => Service.within_pure _) _

theorem MeetingJobName.handle_writes (name : MeetingJobName) (id : ObjectId) :
    (name.handle o id).Within (World.MeetingWrites o) := by
  cases name with
  | create => exact ensureMeetingForBooking_writes id
  | sync => exact syncMeetingTimes_writes id
  | cancel => exact cancelMeetingForBooking_writes id

end Calls

/-! ### What an action does -/

/-- The action calls a meeting service. -/
def SerialAction.isMeetingCall : SerialAction → Bool
  | retryBookingMeeting .. | runJob .. => true
  | _ => false

/-- What an action without a meeting service does: a booking service writes after its checks, the
clock, the profiles or the schedules change, or the bookings that are over are completed. -/
inductive BookingStep (w : World) : World → Prop
  | call {w₁ w' : World} (hwrite : CallWrite w w₁) (h : w₁.SameStore w') : BookingStep w w'
  | surroundings (now : ℤ) (profiles : Collection HRProfile)
      (availabilities : ObjectId → Option Availability) :
      BookingStep w { w with now, profiles, availabilities }
  | sweep : BookingStep w (lifecycleSweep w)

/-- What an action does: a meeting service leaves the bookings alone. -/
inductive SerialStep (w w' : World) : Prop
  | booking (h : BookingStep w w')
  | meeting (h : w.HandlerFrame w')

theorem Service.after_eq_some {α : Type} {o : Oracle} {call : Service α} {w w' : World} :
    call.after o w = some w' ↔ o.Fresh w ∧ (call w).2 = w' := by
  unfold after
  split_ifs with h <;> simp [h]

section Actions

variable {cal : TimezoneName → Calendar} {w w' : World} {a : SerialAction}

theorem booking_step_cases (ha : a.isMeetingCall = false) (h : (serial cal).step w a = some w') :
    BookingStep w w' := by
  cases a with
  | createBooking o actor input =>
    obtain ⟨-, rfl⟩ := Service.after_eq_some.1 h
    obtain ⟨w₁, hwrite, hsame⟩ := createBooking_writes (w := w) actor input
    exact .call hwrite hsame
  | cancelBooking o actor id reason =>
    obtain ⟨-, rfl⟩ := Service.after_eq_some.1 h
    obtain ⟨w₁, hwrite, hsame⟩ := cancelBooking_writes (w := w) actor id reason
    exact .call hwrite hsame
  | rescheduleBooking o actor id input =>
    obtain ⟨-, rfl⟩ := Service.after_eq_some.1 h
    obtain ⟨w₁, hwrite, hsame⟩ := rescheduleBooking_writes (w := w) cal actor id input
    exact .call hwrite hsame
  | retryBookingMeeting | runJob => cases ha
  | updateAvailability | setProfiles | advance =>
    cases h
    exact .surroundings _ _ _
  | sweep =>
    cases h
    exact .sweep

/-- **The effect of an action.** -/
theorem serial_step_cases (h : (serial cal).step w a = some w') : SerialStep w w' := by
  cases ha : a.isMeetingCall with
  | false => exact .booking (booking_step_cases ha h)
  | true =>
    cases a with
    | retryBookingMeeting o actor id =>
      obtain ⟨-, rfl⟩ := Service.after_eq_some.1 h
      exact .meeting ((retryBookingMeeting_writes actor id w).frame)
    | runJob o name id =>
      obtain ⟨-, rfl⟩ := Service.after_eq_some.1 h
      exact .meeting (name.handle_writes id w).frame
    | _ => cases ha

end Actions

end HrBooking
