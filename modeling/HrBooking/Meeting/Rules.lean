import HrBooking.Model.World

/-!
# The rules of a meeting

The decisions and documents of `services/meeting.service.ts`, shared by the handlers run one after
another and by the steps of handlers that run together, and the provider adapter over the calendar.

* `HeldMeeting` : a meeting document in memory, with the version it was loaded in.
* `HeldMeeting.save` : what saving it does to the stored document.
* `isRetryable` : a participant may ask for the conference again.
* `callCreate`, `callUpdate`, `callCancel` : the provider calls.
-/

namespace HrBooking

/-- The provider has an adapter. -/
def isSupportedMeetingProvider (provider : MeetingProvider) : Prop :=
  provider ∈ supportedMeetingProviders

instance (provider : MeetingProvider) : Decidable (isSupportedMeetingProvider provider) :=
  inferInstanceAs (Decidable (_ ∈ _))

/-- A meeting document held by a handler, with the version it was loaded in. -/
structure HeldMeeting where
  loaded : Meeting
  doc : Meeting
  deriving DecidableEq

namespace HeldMeeting

/-- A document as it was just read or inserted. -/
def ofStored (meeting : Meeting) : HeldMeeting := ⟨meeting, meeting⟩

/-- Change the document in memory. -/
def modify (held : HeldMeeting) (f : Meeting → Meeting) : HeldMeeting :=
  { held with doc := f held.doc }

/-- `meeting.save()` : the modified paths are written to the stored document. -/
def save (held : HeldMeeting) (stored : Meeting) : Meeting :=
  { stored with
    provider := savePath held.loaded.provider held.doc.provider stored.provider
    status := savePath held.loaded.status held.doc.status stored.status
    externalMeetingId := savePath held.loaded.externalMeetingId held.doc.externalMeetingId
      stored.externalMeetingId
    externalCalendarId := savePath held.loaded.externalCalendarId held.doc.externalCalendarId
      stored.externalCalendarId
    meetingUrl := savePath held.loaded.meetingUrl held.doc.meetingUrl stored.meetingUrl
    startTime := savePath held.loaded.startTime held.doc.startTime stored.startTime
    endTime := savePath held.loaded.endTime held.doc.endTime stored.endTime
    lastError := savePath held.loaded.lastError held.doc.lastError stored.lastError
    attempts := savePath held.loaded.attempts held.doc.attempts stored.attempts }

/-- The held document after a save: nothing is modified any more. -/
def saved (held : HeldMeeting) : HeldMeeting := ofStored held.doc

end HeldMeeting

/-! ### Documents -/

/-- The record `upsertMeetingRecord` creates. -/
def newMeeting (id : ObjectId) (booking : Booking) : Meeting where
  id := id
  bookingId := booking.id
  provider := booking.meetingProvider
  status := .pending
  externalMeetingId := none
  externalCalendarId := none
  meetingUrl := none
  startTime := booking.startAt
  endTime := booking.endAt
  lastError := none
  attempts := 0

/-- The changes `upsertMeetingRecord` makes to an existing record, in memory only. -/
def Meeting.follow (meeting : Meeting) (booking : Booking) : Meeting :=
  { meeting with
    startTime := booking.startAt, endTime := booking.endAt, provider := booking.meetingProvider }

/-- The changes `syncMeetingTimes` starts with. -/
def Meeting.retime (meeting : Meeting) (booking : Booking) : Meeting :=
  { meeting with startTime := booking.startAt, endTime := booking.endAt }

/-- The changes after a successful creation. -/
def Meeting.markCreated (meeting : Meeting) (details : MeetingDetails) : Meeting :=
  { meeting with
    status := .created
    externalMeetingId := some details.externalMeetingId
    externalCalendarId := some details.externalCalendarId
    meetingUrl := details.meetingUrl
    lastError := none }

/-- The changes after a successful update. -/
def Meeting.markMoved (meeting : Meeting) (details : MeetingDetails) : Meeting :=
  { meeting with meetingUrl := details.meetingUrl.or meeting.meetingUrl, lastError := none }

/-- The changes of a cancellation. -/
def Meeting.markCancelled (meeting : Meeting) : Meeting :=
  { meeting with status := .cancelled, lastError := none }

/-- `ERROR_MAX_LENGTH` -/
def errorMaxLength : ℕ := 300

/-- The longest beginning of a text within a number of UTF-16 code units. -/
def takeUnits : ℕ → List Char → List Char
  | _, [] => []
  | n, c :: l =>
    let units := if c.toNat < 0x10000 then 1 else 2
    if units ≤ n then c :: takeUnits (n - units) l else []

/-- The changes of `recordFailure`. -/
def Meeting.markFailed (meeting : Meeting) (message : String) : Meeting :=
  { meeting with
    status := .failed
    lastError := some (String.ofList (takeUnits errorMaxLength message.toList))
    attempts := meeting.attempts + 1 }

/-! ### Decisions -/

/-- The conference exists, as `ensureMeetingForBooking` sees it. -/
def Meeting.isCreated (meeting : Meeting) : Prop :=
  meeting.status = .created ∧ meeting.externalMeetingId.isSome

instance (meeting : Meeting) : Decidable meeting.isCreated := inferInstanceAs (Decidable (_ ∧ _))

/-- The event and the calendar `syncMeetingTimes` moves; `none` when it creates instead. -/
def Meeting.movable (meeting : Meeting) : Option (EventId × String) :=
  match meeting.status, meeting.externalMeetingId, meeting.externalCalendarId with
  | .created, some id, some calendar => if calendar = "" then none else some (id, calendar)
  | _, _, _ => none

/-- The event and the calendar `cancelMeetingForBooking` asks the provider to delete from. -/
def Meeting.removable (meeting : Meeting) : Option (EventId × String) :=
  match meeting.status, meeting.externalMeetingId with
  | .created, some id => some (id, meeting.externalCalendarId.getD "primary")
  | _, _ => none

/-- A participant may ask for the conference again. -/
def isRetryable (meeting : Option Meeting) (booking : Booking) (now : ℤ) : Prop :=
  booking.isActive ∧ booking.endAt > now ∧
    ∀ m ∈ meeting, m.status = .pending ∨ m.status = .failed

instance (meeting : Option Meeting) (booking : Booking) (now : ℤ) :
    Decidable (isRetryable meeting booking now) := inferInstanceAs (Decidable (_ ∧ _))

/-! ### The provider -/

/-- The text of a booking whose provider has no adapter. -/
def notSupportedText (provider : MeetingProvider) : String :=
  provider.text ++ " meetings are not supported yet."

/-- The text `getMeetingProvider` throws. -/
def noAdapterText (provider : MeetingProvider) : String :=
  "No meeting adapter is registered for " ++ provider.text ++ "."

/-- What a conference is created from. -/
def createInput (booking : Booking) : CreateMeetingInput where
  bookingId := booking.id
  hostUserId := booking.hrUserId
  startAt := booking.startAt
  endAt := booking.endAt
  timeZone := booking.hrTimezone

/-- What a conference is moved by. -/
def updateInput (booking : Booking) (target : EventId × String) : UpdateMeetingInput where
  hostUserId := booking.hrUserId
  externalMeetingId := target.1
  externalCalendarId := target.2
  startAt := booking.startAt
  endAt := booking.endAt
  timeZone := booking.hrTimezone

/-- What a conference is removed by. -/
def cancelInput (booking : Booking) (target : EventId × String) : CancelMeetingInput where
  hostUserId := booking.hrUserId
  externalMeetingId := target.1
  externalCalendarId := target.2

/-- `createMeeting` : a new event, with an identity of its own. -/
def callCreate (o : Oracle) (input : CreateMeetingInput) (w : World) :
    Except String MeetingDetails × World :=
  match o.providerError with
  | some message =>
    (.error message, { w with providerLog := w.providerLog ++ [.create input (.error message)] })
  | none =>
    let details : MeetingDetails := ⟨o.newEvent, o.calendarId, o.meetingUrl⟩
    (.ok details,
      { w with
        events := ⟨o.newEvent, input.bookingId, input.startAt, input.endAt⟩ :: w.events
        providerLog := w.providerLog ++ [.create input (.ok details)]
        issuedEvents := o.newEvent :: w.issuedEvents })

/-- `updateMeeting` : the event is moved.  Without an adapter nothing is called. -/
def callUpdate (o : Oracle) (provider : MeetingProvider) (input : UpdateMeetingInput) (w : World) :
    Except String MeetingDetails × World :=
  if ¬ isSupportedMeetingProvider provider then (.error (noAdapterText provider), w)
  else
    match o.providerError with
    | some message =>
      (.error message, { w with providerLog := w.providerLog ++ [.update input (.error message)] })
    | none =>
      let details : MeetingDetails :=
        ⟨input.externalMeetingId, input.externalCalendarId, o.meetingUrl⟩
      (.ok details,
        { w with
          events := w.events.map fun e =>
            if e.id = input.externalMeetingId then
              { e with startAt := input.startAt, endAt := input.endAt }
            else e
          providerLog := w.providerLog ++ [.update input (.ok details)] })

/-- `cancelMeeting` : the event is deleted; one that is already gone is no failure. -/
def callCancel (o : Oracle) (provider : MeetingProvider) (input : CancelMeetingInput) (w : World) :
    World :=
  if ¬ isSupportedMeetingProvider provider then w
  else
    match o.providerError with
    | some message => { w with providerLog := w.providerLog ++ [.cancel input (.error message)] }
    | none =>
      { w with
        events := w.events.filter fun e => e.id ≠ input.externalMeetingId
        providerLog := w.providerLog ++ [.cancel input (.ok ())] }

end HrBooking
