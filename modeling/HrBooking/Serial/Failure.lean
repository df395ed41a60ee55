import HrBooking.Backend.Record
import HrBooking.Serial.Alone

/-!
# Calls that fail

A booking service writes first and dispatches then: the meeting job, the reminder, the e-mails.  An
audit entry and the removal of a reminder never fail a call, the other dispatches do, and nothing
takes the write back.

* `Request.Writes` : the request passes its checks, and the index accepts what it writes.
* `AllOrNothing` : a call that throws has written nothing, one that answers has written its booking
  and queued the meeting job.
* `allOrNothing_iff` : when that is so.
-/

namespace HrBooking

/-- The meeting job of a request. -/
def Request.jobName : Request → MeetingJobName
  | create .. => .create
  | cancel .. => .cancel
  | reschedule .. => .sync

/-- The start a request schedules a reminder for. -/
def Request.remindsOf : Request → Option ℤ
  | create _ input => some input.startAt
  | reschedule _ _ input => some input.startAt
  | cancel .. => none

/-- The dispatches of a request that has written a booking. -/
def Request.dispatch (o : Oracle) (booking : Booking) : Request → Service Unit
  | create .. => dispatchBookingCreated o booking
  | cancel .. => dispatchBookingCancelled o booking
  | reschedule .. => dispatchBookingRescheduled o booking

/-- The request passes its checks and writes a booking, and the bookings accept it. -/
def Request.Writes (cal : TimezoneName → Calendar) (o : Oracle) (w : World) (b : Booking)
    (c : Collection Booking) : Request → Prop
  | create actor input => ∃ args, createArgs cal o actor input w = .ok args ∧
      b = newBooking o.newId args ∧ w.bookings.insert b = some c
  | cancel actor bookingId reason => ∃ booking role,
      cancelArgs actor bookingId w = .ok (booking, role, w.now) ∧
      b = booking.cancel w.now role reason ∧
      w.bookings.update booking.id (saveCancelled booking b) = some c
  | reschedule actor bookingId input => ∃ args,
      rescheduleArgs cal o actor bookingId input w = .ok args ∧
      b = args.apply args.booking ∧ w.bookings.update args.booking.id args.apply = some c

/-- A queue does not answer a dispatch that the request makes. -/
def Request.DispatchFails (o : Oracle) (now : ℤ) (request : Request) : Prop :=
  o.meetingQueueFails = true ∨
    ∃ t ∈ request.remindsOf, 0 < t - reminderLeadMs - now ∧ o.reminderQueueFails = true

/-- A call that throws leaves the bookings as they were; one that answers has written its booking
and queued the meeting job for it. -/
structure AllOrNothing (cal : TimezoneName → Calendar) (o : Oracle) (w : World)
    (request : Request) : Prop where
  refused : ∀ e w', request.call cal o w = (.error e, w') → w'.bookings = w.bookings
  answered : ∀ b w', request.call cal o w = (.ok b, w') →
    request.Writes cal o w b w'.bookings ∧
      w'.meetingQueue = w.meetingQueue ++ [⟨request.jobName, b.id, meetingAttempts⟩]

section Calls

variable {cal : TimezoneName → Calendar} {o : Oracle} {w : World} {request : Request}

/-- How the dispatches end: they fail when a queue does not answer, and queue the meeting job
otherwise. -/
inductive Request.Dispatched (o : Oracle) (w : World) (request : Request) (b : Booking) :
    Except AppError Unit × World → Prop
  | failed {w' : World} (e : AppError) (hfails : request.DispatchFails o w.now)
      (hbookings : w'.bookings = w.bookings) : Dispatched o w request b (.error e, w')
  | queued {w' : World} (hanswers : ¬ request.DispatchFails o w.now)
      (hbookings : w'.bookings = w.bookings)
      (hqueue : w'.meetingQueue =
        w.meetingQueue ++ [⟨request.jobName, b.id, meetingAttempts⟩]) :
      Dispatched o w request b (.ok (), w')

theorem Request.dispatched_remind {b : Booking} {t : ℤ} (hstart : b.startAt = t)
    (ht : request.remindsOf = some t) (hanswers : o.meetingQueueFails = false)
    (q : List ReminderJob) :
    request.Dispatched o w b (scheduleReminder o b.id b.startAt
      { w with
        meetingQueue := w.meetingQueue ++ [⟨request.jobName, b.id, meetingAttempts⟩]
        reminderQueue := q }) := by
  subst hstart
  have hiff : request.DispatchFails o w.now ↔
      0 < b.startAt - reminderLeadMs - w.now ∧ o.reminderQueueFails = true := by
    simp [DispatchFails, hanswers, ht]
  rcases scheduleReminder_cases (o := o) b.id b.startAt with ⟨hdue, hw⟩ | ⟨hdue, q', hw⟩
  · rw [hw]
    exact .failed _ (hiff.2 hdue) rfl
  · rw [hw]
    exact .queued (fun hfails => hdue (hiff.1 hfails)) rfl rfl

/-- **The dispatches of a request.** -/
theorem Request.dispatched (request : Request) {b : Booking}
    (hstart : ∀ t ∈ request.remindsOf, b.startAt = t) :
    request.Dispatched o w b (request.dispatch o b w) := by
  rcases addMeetingJob_cases (o := o) (w := w) request.jobName b.id with
    ⟨hfails, hw⟩ | ⟨hanswers, hw⟩
  · have hrun : request.dispatch o b w = (.error .internal, w) := by
      cases request <;> exact Service.bind_of_error hw
    rw [hrun]
    exact .failed _ (.inl hfails) rfl
  · cases request with
    | create actor input =>
      rw [show dispatch o b (create actor input) w = _ from Service.bind_of_ok hw]
      exact dispatched_remind (hstart _ rfl) rfl hanswers w.reminderQueue
    | reschedule actor bookingId input =>
      obtain ⟨q, hw'⟩ := removeReminder_eq_ok b.id
      rw [show dispatch o b (reschedule actor bookingId input) w = _ from
        (Service.bind_of_ok hw).trans (Service.bind_of_ok hw')]
      exact dispatched_remind (hstart _ rfl) rfl hanswers q
    | cancel actor bookingId reason =>
      obtain ⟨q, hw'⟩ := removeReminder_eq_ok b.id
      rw [show dispatch o b (cancel actor bookingId reason) w = _ from
        (Service.bind_of_ok hw).trans hw']
      refine .queued ?_ rfl rfl
      simp [DispatchFails, hanswers, remindsOf]

/-- What a request writes: the booking it returns, which was not stored like this before. -/
structure Request.Written (cal : TimezoneName → Calendar) (o : Oracle) (w : World)
    (request : Request) (b : Booking) (c : Collection Booking) : Prop where
  writes : request.Writes cal o w b c
  stored : b ∈ c
  new : b ∉ w.bookings
  starts : ∀ t ∈ request.remindsOf, b.startAt = t

theorem Request.written {b : Booking} {c : Collection Booking} (h : request.Writes cal o w b c) :
    request.Written cal o w b c := by
  cases request with
  | create actor input =>
    obtain ⟨args, hargs, rfl, hins⟩ := id h
    refine ⟨h, (Collection.mem_insert hins).2 (.inr rfl), fun hmem => ?_, ?_⟩
    · exact Document.not_compatible_self _ ((Collection.insert_eq_some.1 hins).1 _ hmem)
    · rintro t ⟨⟩
      obtain ⟨profile, -, hoffered, -, -⟩ := createArgs_eq_ok.1 hargs
      obtain ⟨-, rfl⟩ := offeredArgs_eq_ok.1 hoffered
      rfl
  | cancel actor bookingId reason =>
    obtain ⟨booking, role, hargs, rfl, hupd⟩ := id h
    obtain ⟨found, hfind, hargs⟩ := bind_eq_ok.1 hargs
    obtain ⟨role', hrole, hargs⟩ := bind_eq_ok.1 hargs
    cases hargs
    obtain ⟨hmem, -⟩ := findBooking_eq_ok.1 hfind
    refine ⟨h, (Collection.mem_update hupd).2 (.inr ⟨booking, hmem, rfl, saveCancelled_self ..⟩),
      fun hmem' => ?_, by rintro t ⟨⟩⟩
    -- the stored booking is active, the one that is written is not
    have hactive := (assertCancellable_eq_ok.1 hrole).2.1
    rw [Collection.eq_of_docId hmem hmem' rfl] at hactive
    exact Booking.not_isActive_cancelled rfl hactive
  | reschedule actor bookingId input =>
    obtain ⟨args, hargs, rfl, hupd⟩ := id h
    obtain ⟨booking, role, hmem, -, -, hmove, -, -⟩ := rescheduleArgs_eq_ok.1 hargs
    obtain ⟨-, rfl⟩ := moveArgs_eq_ok.1 hmove
    refine ⟨h, (Collection.mem_update hupd).2 (.inr ⟨booking, hmem, rfl, rfl⟩), fun hmem' => ?_, ?_⟩
    · have hcount := congrArg Booking.rescheduleCount (Collection.eq_of_docId hmem hmem' rfl)
      simp [MoveArgs.apply] at hcount
    · rintro t ⟨⟩
      rfl

/-- **A request** is refused without a write, or writes and goes on to its dispatches. -/
theorem Request.call_cases (cal : TimezoneName → Calendar) (o : Oracle) (w : World)
    (request : Request) :
    ((∃ e w', request.call cal o w = (.error e, w') ∧ w'.bookings = w.bookings ∧
        w'.meetingQueue = w.meetingQueue) ∧ ∀ b c, ¬ request.Writes cal o w b c) ∨
      ∃ b c w₁, request.Writes cal o w b c ∧ w₁.bookings = c ∧ w₁.now = w.now ∧
        w₁.meetingQueue = w.meetingQueue ∧
        request.call cal o w = (request.dispatch o b >>= fun _ => pure b) w₁ := by
  cases request with
  | create actor input =>
    rcases createBooking_cases cal o w actor input with
      ⟨⟨e, w₁, hrun, hw₁⟩, hnone⟩ | ⟨args, c, hargs, hins, hrun⟩
    · refine .inl ⟨⟨e, w₁, hrun, by rcases hw₁ with rfl | rfl <;> exact ⟨rfl, rfl⟩⟩, ?_⟩
      rintro b c ⟨args, hargs, rfl, hins⟩
      rw [hnone args hargs] at hins
      cases hins
    · exact .inr ⟨_, c, { w with issuedIds := o.newId :: w.issuedIds, bookings := c },
        ⟨args, hargs, rfl, hins⟩, rfl, rfl, rfl, hrun⟩
  | cancel actor bookingId reason =>
    rcases cancelBooking_cases o w actor bookingId reason with
      ⟨⟨e, hrun⟩, hnone⟩ | ⟨booking, role, c, hargs, -, -, -, hupd, hrun⟩
    · refine .inl ⟨⟨e, w, hrun, rfl, rfl⟩, ?_⟩
      rintro b c ⟨booking, role, hargs, rfl, hupd⟩
      rw [hnone booking role hargs] at hupd
      cases hupd
    · obtain ⟨auditLog, hrecord⟩ := recordCancellation_eq_ok (o := o)
        (w := { w with bookings := c }) actor role (booking.cancel w.now role reason) reason
      exact .inr ⟨_, c, { w with bookings := c, auditLog }, ⟨booking, role, hargs, rfl, hupd⟩, rfl,
        rfl, rfl, hrun.trans (Service.bind_of_ok hrecord)⟩
  | reschedule actor bookingId input =>
    rcases rescheduleBooking_cases cal o w actor bookingId input with
      ⟨⟨e, hrun⟩, hnone⟩ | ⟨args, c, hargs, -, -, -, hupd, hrun⟩
    · refine .inl ⟨⟨e, w, hrun, rfl, rfl⟩, ?_⟩
      rintro b c ⟨args, hargs, rfl, hupd⟩
      rw [hnone args hargs] at hupd
      cases hupd
    · exact .inr ⟨_, c, { w with bookings := c }, ⟨args, hargs, rfl, hupd⟩, rfl, rfl, rfl, hrun⟩

/-- What a request does to the bookings: nothing, or its write. -/
theorem Request.bookings_cases (cal : TimezoneName → Calendar) (o : Oracle) (w : World)
    (request : Request) :
    (request.call cal o w).2.bookings = w.bookings ∨
      ∃ b, request.Writes cal o w b (request.call cal o w).2.bookings := by
  rcases request.call_cases cal o w with
    ⟨⟨e, w', hrun, hsame, -⟩, -⟩ | ⟨b, c, w₁, hwrites, hc, -, -, hrun⟩
  · exact .inl (by rw [hrun, hsame])
  · refine .inr ⟨b, ?_⟩
    have hdispatched := request.dispatched (o := o) (w := w₁) (Request.written hwrites).starts
    rw [hrun, Service.bind_apply]
    generalize request.dispatch o b w₁ = answer at hdispatched
    cases hdispatched with
    | failed e _ hbookings | queued _ hbookings _ =>
      simp only [Service.pure_apply, hbookings, hc]
      exact hwrites

/-- **All or nothing**: exactly when the request does not get as far as a write, or every queue
answers the dispatches after it. -/
theorem allOrNothing_iff (cal : TimezoneName → Calendar) (o : Oracle) (w : World)
    (request : Request) :
    AllOrNothing cal o w request ↔
      ¬ ((∃ b c, request.Writes cal o w b c) ∧ request.DispatchFails o w.now) := by
  rcases request.call_cases cal o w with
    ⟨⟨e, w', hrun, hsame, -⟩, hnone⟩ | ⟨b, c, w₁, hwrites, hc, hnow, hqueue, hrun⟩
  · refine iff_of_true ⟨?_, ?_⟩ ?_
    · rintro e' w'' hrun'
      cases hrun.symm.trans hrun'
      exact hsame
    · rintro b w'' hrun'
      cases hrun.symm.trans hrun'
    · rintro ⟨⟨b, c, hwrites⟩, -⟩
      exact hnone b c hwrites
  · -- the booking is written before anything is sent, so a failure to send is thrown after it
    have hwritten := Request.written hwrites
    have hdispatched := request.dispatched (o := o) (w := w₁) hwritten.starts
    rw [Service.bind_apply] at hrun
    generalize request.dispatch o b w₁ = answer at hrun hdispatched
    cases hdispatched with
    | failed e hfails hbookings =>
      rw [hnow] at hfails
      refine iff_of_false (fun h => hwritten.new ?_) (not_not.2 ⟨⟨b, c, hwrites⟩, hfails⟩)
      rw [← h.refused _ _ hrun, hbookings, hc]
      exact hwritten.stored
    | queued hanswers hbookings hq =>
      rw [hnow] at hanswers
      refine iff_of_true ⟨?_, ?_⟩ fun h => hanswers h.2
      · rintro e w'' hrun'
        cases hrun.symm.trans hrun'
      · rintro b' w'' hrun'
        cases hrun.symm.trans hrun'
        rw [hbookings, hc, hq, hqueue]
        exact ⟨hwrites, rfl⟩

end Calls

/-! ### A reminder that cannot be scheduled -/

/-- Everything answers but the queue of the reminders. -/
def withoutReminders : Oracle := { answering 1 1 with reminderQueueFails := true }

/-- **A failed creation is not undone**: the caller is told that the request has failed, and the
booking is stored. -/
theorem not_allOrNothing :
    ¬ ∀ (cal : TimezoneName → Calendar) (o : Oracle) (w : World) (request : Request),
      AllOrNothing cal o w request := by
  intro h
  have hrefused : ((bookAt mondayNine).call utcCalendar withoutReminders mondayWorld).1.isOk =
      false := by
    decide +kernel
  have hwritten : ((bookAt mondayNine).call utcCalendar withoutReminders
      mondayWorld).2.bookings.docs.length = 1 := by
    decide +kernel
  have hall := (h utcCalendar withoutReminders mondayWorld (bookAt mondayNine)).refused
  generalize (bookAt mondayNine).call utcCalendar withoutReminders mondayWorld = answer at *
  rcases answer with ⟨e | b, w'⟩
  · rw [hall e w' rfl] at hwritten
    cases hwritten
  · cases hrefused

end HrBooking
