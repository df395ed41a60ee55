import HrBooking.Booking.Service

/-!
# Booking requests, one database command at a time

A request in flight is a `RequestStage`: the command it issues next, with what it holds in memory.
Everything between two commands happens at once, so one stage is one atomic command together with
the checks the code makes on its answer.

* `RequestStage.exec` : issue the command; the answer is the next stage or the end of the request.
-/

namespace HrBooking

/-- A request to the booking services. -/
inductive Request where
  | create (actor : Actor) (input : CreateBookingInput)
  | cancel (actor : Actor) (bookingId : ObjectId) (reason : Option String)
  | reschedule (actor : Actor) (bookingId : ObjectId) (input : RescheduleBookingInput)

/-- The next command of a request in flight. -/
inductive RequestStage where
  /-- `HRProfile.findOne` -/
  | readProfile (actor : Actor) (input : CreateBookingInput)
  /-- `Availability.findOne` of a creation -/
  | readOffer (actor : Actor) (input : CreateBookingInput) (profile : HRProfile)
  /-- the overlap query of `assertClientIsFree` -/
  | checkClient (args : InsertBookingArgs)
  /-- the overlap query of `assertConsultantIsFree` -/
  | checkConsultant (args : InsertBookingArgs)
  /-- the document is constructed and gets its identity -/
  | construct (args : InsertBookingArgs)
  /-- the insert of `Booking.create` -/
  | insert (id : ObjectId) (args : InsertBookingArgs)
  /-- the overlap query after the insert -/
  | sweep (id : ObjectId) (args : InsertBookingArgs)
  /-- `Booking.deleteOne` -/
  | withdraw (id : ObjectId)
  /-- `meetingQueue.add('create')` -/
  | queueCreate (booking : Booking)
  /-- `reminderQueue.add` of a creation -/
  | remindCreated (booking : Booking)
  /-- `Booking.findById` of a cancellation -/
  | readCancel (actor : Actor) (bookingId : ObjectId) (reason : Option String)
  /-- `booking.save()` -/
  | saveCancel (actor : Actor) (loaded : Booking) (now : ℤ) (role : CancelledBy)
      (reason : Option String)
  /-- `AuditLog.create` -/
  | audit (actor : Actor) (booking : Booking) (role : CancelledBy) (reason : Option String)
  /-- `meetingQueue.add('cancel')` -/
  | queueCancel (actor : Actor) (booking : Booking)
  /-- `reminderQueue.remove` of a cancellation -/
  | forgetCancelled (actor : Actor) (booking : Booking)
  /-- `Booking.findById` of a reschedule -/
  | readMove (actor : Actor) (bookingId : ObjectId) (input : RescheduleBookingInput)
  /-- `Availability.findOne` of a reschedule -/
  | readMoveOffer (actor : Actor) (booking : Booking) (input : RescheduleBookingInput)
  /-- the overlap query of `assertClientIsFree` -/
  | checkMoveClient (actor : Actor) (args : MoveArgs)
  /-- the overlap query of `assertConsultantIsFree` -/
  | checkMoveConsultant (actor : Actor) (args : MoveArgs)
  /-- `Booking.findOneAndUpdate` -/
  | move (actor : Actor) (args : MoveArgs)
  /-- `meetingQueue.add('sync')` -/
  | queueSync (actor : Actor) (booking : Booking)
  /-- `reminderQueue.remove` of a reschedule -/
  | forgetMoved (actor : Actor) (booking : Booking)
  /-- `reminderQueue.add` of a reschedule -/
  | remindMoved (actor : Actor) (booking : Booking)
  /-- `Booking.findById` of `getBookingForActor` -/
  | reread (actor : Actor) (bookingId : ObjectId)

/-- The first command of a request. -/
def Request.start : Request → RequestStage
  | create actor input => .readProfile actor input
  | cancel actor bookingId reason => .readCancel actor bookingId reason
  | reschedule actor bookingId input => .readMove actor bookingId input

/-- How a command leaves its request. -/
inductive RequestOutcome where
  /-- another command follows -/
  | next (stage : RequestStage)
  /-- the request is answered or refused -/
  | finished (answer : Except AppError Booking)

namespace RequestOutcome

/-- Refuse on an error, go on otherwise. -/
def andThen {α : Type} (x : Except AppError α) (next : α → RequestOutcome) : RequestOutcome :=
  match x with
  | .ok a => next a
  | .error e => finished (.error e)

end RequestOutcome

open RequestOutcome

/-- A command that only reads. -/
def reading (w : World) (outcome : RequestOutcome) : Option (World × RequestOutcome) :=
  some (w, outcome)

/-- A command given by a service call. -/
def calling {α : Type} (call : Service α) (w : World) (next : α → RequestOutcome) :
    Option (World × RequestOutcome) :=
  some ((call w).2, andThen (call w).1 next)

/-- Issue the next command; refused only when the surroundings offer an identity that is taken. -/
def RequestStage.exec (cal : TimezoneName → Calendar) (o : Oracle) (w : World) :
    RequestStage → Option (World × RequestOutcome)
  | readProfile actor input =>
    reading w (andThen (bookableProfile w.profiles actor input)
      fun profile => next (.readOffer actor input profile))
  | readOffer actor input profile =>
    let availability := getAvailabilityForHr w.availabilities profile.userId
    reading w (andThen (offeredArgs cal availability w.now actor profile input)
      fun args => next (.checkClient args))
  | checkClient args =>
    reading w (andThen
      (assertClientIsFree w.bookings o.pick args.actor.id args.startAt args.endAt none)
      fun _ => next (.checkConsultant args))
  | checkConsultant args =>
    reading w (andThen
      (assertConsultantIsFree w.bookings o.pick args.hrUserId args.startAt args.endAt none)
      fun _ => next (.construct args))
  | construct args =>
    if o.newId ∈ w.issuedIds then none
    else some ({ w with issuedIds := o.newId :: w.issuedIds }, next (.insert o.newId args))
  | insert id args =>
    match w.bookings.insert (newBooking id args) with
    | none => reading w (finished (.error .slotTaken))
    | some bookings => some ({ w with bookings }, next (.sweep id args))
  | sweep id args =>
    match findOverlappingBooking w.bookings o.pick (.hr args.hrUserId) args.startAt args.endAt
        (some id) with
    | some conflict =>
      if standsDown conflict (newBooking id args) then reading w (next (.withdraw id))
      else reading w (next (.queueCreate (newBooking id args)))
    | none => reading w (next (.queueCreate (newBooking id args)))
  | withdraw id =>
    some ({ w with bookings := w.bookings.delete fun b => b.id = id },
      finished (.error .slotTaken))
  | queueCreate booking =>
    calling (addMeetingJob o .create booking.id) w fun _ => next (.remindCreated booking)
  | remindCreated booking =>
    calling (scheduleReminder o booking.id booking.startAt) w fun _ => finished (.ok booking)
  | readCancel actor bookingId reason =>
    reading w (andThen (cancelArgs actor bookingId w)
      fun (booking, role, now) => next (.saveCancel actor booking now role reason))
  | saveCancel actor loaded now role reason =>
    calling (saveBooking loaded (loaded.cancel now role reason)) w
      fun _ => next (.audit actor (loaded.cancel now role reason) role reason)
  | audit actor booking role reason =>
    calling (recordCancellation o actor role booking reason) w
      fun _ => next (.queueCancel actor booking)
  | queueCancel actor booking =>
    calling (addMeetingJob o .cancel booking.id) w fun _ => next (.forgetCancelled actor booking)
  | forgetCancelled actor booking =>
    calling (removeReminder o booking.id) w fun _ => next (.reread actor booking.id)
  | readMove actor bookingId input =>
    reading w (andThen (findBooking w.bookings bookingId) fun booking =>
      andThen (assertReschedulable actor booking input w.now)
        fun _ => next (.readMoveOffer actor booking input))
  | readMoveOffer actor booking input =>
    let availability := getAvailabilityForHr w.availabilities booking.hrUserId
    reading w (andThen (moveArgs cal availability w.now booking input)
      fun args => next (.checkMoveClient actor args))
  | checkMoveClient actor args =>
    reading w (andThen
      (assertClientIsFree w.bookings o.pick args.booking.userId args.startAt args.endAt
        (some args.booking.id))
      fun _ => next (.checkMoveConsultant actor args))
  | checkMoveConsultant actor args =>
    reading w (andThen
      (assertConsultantIsFree w.bookings o.pick args.booking.hrUserId args.startAt args.endAt
        (some args.booking.id))
      fun _ => next (.move actor args))
  | move actor args => calling (moveBooking args) w fun moved => next (.queueSync actor moved)
  | queueSync actor booking =>
    calling (addMeetingJob o .sync booking.id) w fun _ => next (.forgetMoved actor booking)
  | forgetMoved actor booking =>
    calling (removeReminder o booking.id) w fun _ => next (.remindMoved actor booking)
  | remindMoved actor booking =>
    calling (scheduleReminder o booking.id booking.startAt) w
      fun _ => next (.reread actor booking.id)
  | reread actor bookingId =>
    reading w (finished (getBookingForActor actor bookingId w))

end HrBooking
