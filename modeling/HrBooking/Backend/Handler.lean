import HrBooking.Meeting.Service

/-!
# Meeting handlers, one command at a time

A handler in flight is a `HandlerStage`: the database command or provider call it issues next, with
the documents it holds.  A held document is written back by its modified paths only, so a handler
may act on a stale copy of the booking and of the meeting.

* `HandlerStage.exec` : issue the command; the answer is the next stage or the end of the handler.
-/

namespace HrBooking

/-- The next command of a meeting handler in flight. -/
inductive HandlerStage where
  /-- `Booking.findById` of `ensureMeetingForBooking` -/
  | ensureRead (bookingId : ObjectId)
  /-- `Meeting.findOne` of `upsertMeetingRecord` -/
  | ensureFind (booking : Booking)
  /-- `Meeting.create` -/
  | ensureInsert (booking : Booking)
  /-- `createMeeting` of the provider -/
  | callCreate (booking : Booking) (held : HeldMeeting)
  /-- `meeting.save()` after a successful creation -/
  | saveCreated (held : HeldMeeting) (details : MeetingDetails)
  /-- `meeting.save()` of `recordFailure` -/
  | saveFailed (held : HeldMeeting) (message : String)
  /-- `Booking.findById` of `syncMeetingTimes` -/
  | syncRead (bookingId : ObjectId)
  /-- `Meeting.findOne` of `syncMeetingTimes` -/
  | syncFind (booking : Booking)
  /-- `meeting.save()` of the new times -/
  | saveTimes (held : HeldMeeting)
  /-- `updateMeeting` of the provider -/
  | callUpdate (booking : Booking) (held : HeldMeeting) (target : EventId × String)
  /-- `meeting.save()` after a successful update -/
  | saveMoved (held : HeldMeeting) (details : MeetingDetails)
  /-- `Booking.findById` of `cancelMeetingForBooking` -/
  | cancelRead (bookingId : ObjectId)
  /-- `Meeting.findOne` of `cancelMeetingForBooking` -/
  | cancelFind (bookingId : ObjectId) (booking : Option Booking)
  /-- `cancelMeeting` of the provider -/
  | callCancel (booking : Booking) (held : HeldMeeting) (target : EventId × String)
  /-- `meeting.save()` of the cancellation -/
  | saveCancelled (held : HeldMeeting)

/-- The first command of a job. -/
def MeetingJobName.start (bookingId : ObjectId) : MeetingJobName → HandlerStage
  | create => .ensureRead bookingId
  | sync => .syncRead bookingId
  | cancel => .cancelRead bookingId

/-- How a command leaves its handler. -/
inductive HandlerOutcome where
  /-- another command follows -/
  | next (stage : HandlerStage)
  /-- the handler returns -/
  | finished
  /-- the handler throws -/
  | thrown (e : AppError)

open HandlerOutcome

/-- A save that leads on, or to `onError`. -/
def saving (held : HeldMeeting) (w : World) (onSaved : HandlerOutcome)
    (onError : AppError → HandlerOutcome) : Option (World × HandlerOutcome) :=
  match saveMeeting held w with
  | (.ok (), w') => some (w', onSaved)
  | (.error e, w') => some (w', onError e)

/-- What `ensureMeetingForBooking` does with the record it holds. -/
def ensureWith (booking : Booking) (held : HeldMeeting) : HandlerOutcome :=
  if held.doc.isCreated then finished
  else if ¬ isSupportedMeetingProvider booking.meetingProvider then
    next (.saveFailed held (notSupportedText booking.meetingProvider))
  else next (.callCreate booking held)

/-- What `syncMeetingTimes` does with the record it found. -/
def syncWith (booking : Booking) (held : HeldMeeting) : HandlerOutcome :=
  match held.doc.movable with
  | none => next (.saveTimes held)
  | some target => next (.callUpdate booking held target)

/-- What `cancelMeetingForBooking` does with the record it found. -/
def cancelWith (booking : Booking) (meeting : Meeting) : HandlerOutcome :=
  match meeting.removable with
  | none => next (.saveCancelled (.ofStored meeting))
  | some target => next (.callCancel booking (.ofStored meeting) target)

/-- Issue the next command; refused only when the surroundings offer an identity that is taken. -/
def HandlerStage.exec (o : Oracle) (w : World) : HandlerStage → Option (World × HandlerOutcome)
  | ensureRead bookingId =>
    match w.bookings.findById bookingId with
    | none => some (w, finished)
    | some booking => some (w, next (.ensureFind booking))
  | ensureFind booking =>
    match w.meetings.findByKey booking.id with
    | none => some (w, next (.ensureInsert booking))
    | some existing =>
      some (w, ensureWith booking
        ((HeldMeeting.ofStored existing).modify fun m => m.follow booking))
  | ensureInsert booking =>
    if o.newId ∈ w.issuedIds then none
    else
      let meeting := newMeeting o.newId booking
      let w := { w with issuedIds := o.newId :: w.issuedIds }
      match w.meetings.insert meeting with
      | none => some (w, thrown .internal)
      | some meetings => some ({ w with meetings }, ensureWith booking (.ofStored meeting))
  | callCreate booking held =>
    if o.newEvent ∈ w.issuedEvents then none
    else
      match HrBooking.callCreate o (createInput booking) w with
      | (.ok details, w') => some (w', next (.saveCreated held details))
      | (.error message, w') => some (w', next (.saveFailed held message))
  | saveCreated held details =>
    let created := held.modify fun m => m.markCreated details
    saving created w finished fun e => next (.saveFailed created e.message)
  | saveFailed held message =>
    saving (held.modify fun m => m.markFailed message) w finished thrown
  | syncRead bookingId =>
    match w.bookings.findById bookingId with
    | none => some (w, finished)
    | some booking => some (w, next (.syncFind booking))
  | syncFind booking =>
    match w.meetings.findByKey booking.id with
    | none => some (w, next (.ensureRead booking.id))
    | some meeting =>
      some (w, syncWith booking
        ((HeldMeeting.ofStored meeting).modify fun m => m.retime booking))
  | saveTimes held => saving held w (next (.ensureRead held.doc.bookingId)) thrown
  | callUpdate booking held target =>
    match HrBooking.callUpdate o booking.meetingProvider (updateInput booking target) w with
    | (.ok details, w') => some (w', next (.saveMoved held details))
    | (.error message, w') => some (w', next (.saveFailed held message))
  | saveMoved held details =>
    let moved := held.modify fun m => m.markMoved details
    saving moved w finished fun e => next (.saveFailed moved e.message)
  | cancelRead bookingId => some (w, next (.cancelFind bookingId (w.bookings.findById bookingId)))
  | cancelFind bookingId booking =>
    match booking, w.meetings.findByKey bookingId with
    | some booking, some meeting => some (w, cancelWith booking meeting)
    | _, _ => some (w, finished)
  | callCancel booking held target =>
    some (HrBooking.callCancel o booking.meetingProvider (cancelInput booking target) w,
      next (.saveCancelled held))
  | saveCancelled held => saving (held.modify Meeting.markCancelled) w finished thrown

end HrBooking
