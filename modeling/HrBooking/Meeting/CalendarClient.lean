import HrBooking.Codec.Url
import HrBooking.Meeting.Rules
import HrBooking.OAuth.Service

/-!
# Requests to the calendar

`integrations/google/google-calendar.client.ts` and the adapter over it,
`integrations/meeting/google-meet.provider.ts` : which resource of the calendar a request is about,
and what is made of the answer.

* `buildUrl` : the address of a request, with the dot segments that `new URL` resolves.
* `CalendarUrl.resource` : what the receiver reads in it.
* `createMeeting`, `updateMeeting`, `cancelMeeting` : the requests of the adapter and its answers.
* `same_event_iff` : an event is moved and removed at the address that it was created under, exactly
  when neither the calendar nor the event is named by dots.
-/

namespace HrBooking

namespace GoogleCalendar

/-! ### Addresses -/

/-- An address below `https://www.googleapis.com`, as the URL standard has it. -/
structure CalendarUrl where
  path : List String
  query : List (String × String)
  deriving DecidableEq

/-- What stands in the path of `GOOGLE_OAUTH.CALENDAR_API`. -/
def calendarApi : List String := ["calendar", "v3"]

/-- The segments of a path as they are written; the suffix is empty or names an event. -/
def writtenSegments (calendarId : String) (suffix : Option String) : List String :=
  calendarApi ++ ["calendars", encodeURIComponent calendarId, "events"] ++ suffix.toList

/-- `buildUrl` -/
def buildUrl (calendarId : String) (suffix : Option String) (query : List (String × String)) :
    CalendarUrl where
  path := pathSegments
    ('/' :: ['/'].intercalate ((writtenSegments calendarId suffix).map String.toList))
  query

/-- The names that the receiver reads in a path. -/
def CalendarUrl.resource (url : CalendarUrl) : List String := url.path.map decodeURIComponent

/-- The events of a calendar. -/
def eventsOf (calendarId : String) : List String :=
  calendarApi ++ ["calendars", calendarId, "events"]

/-- The text is a dot segment. -/
def IsDotted (s : String) : Prop := s = "." ∨ s = ".."

instance (s : String) : Decidable (IsDotted s) := inferInstanceAs (Decidable (_ ∨ _))

/-! ### Requests and answers -/

/-- What a new event is made from. -/
structure CalendarEventInput where
  summary : String
  description : Option String
  startAt : ℤ
  endAt : ℤ
  timeZone : TimezoneName
  /-- The address and the name of each guest. -/
  attendees : List (String × Option String)
  conferenceRequestId : String

/-- The times that an event is moved to. -/
structure EventPatch where
  startAt : ℤ
  endAt : ℤ
  timeZone : TimezoneName

/-- What is asked of the calendar. -/
inductive CalendarMethod where
  | post (input : CalendarEventInput)
  | patch (patch : EventPatch)
  | delete

structure CalendarRequest where
  method : CalendarMethod
  url : CalendarUrl
  accessToken : String

/-- An event, as Google answers it. -/
structure CalendarEvent where
  id : String
  hangoutLink : Option String

/-- The body of an answer. -/
structure ResponseBody where
  id : Option String
  hangoutLink : Option String
  /-- `error.message` -/
  message : Option String

/-- An answer; one whose body is no JSON has no body. -/
structure CalendarResponse where
  status : ℕ
  body : Option ResponseBody

/-- `res.ok` -/
def CalendarResponse.ok (res : CalendarResponse) : Prop := 200 ≤ res.status ∧ res.status ≤ 299

instance (res : CalendarResponse) : Decidable res.ok := inferInstanceAs (Decidable (_ ∧ _))

/-- Why a request has failed: an error of Google, or a body that is no JSON. -/
inductive CalendarError where
  | api (message : String) (status : ℕ)
  | malformed
  deriving DecidableEq

/-- `describeFailure` -/
def describeFailure (res : CalendarResponse) : String :=
  (res.body.bind ResponseBody.message).getD
    ("Google Calendar request failed with status " ++ toString res.status ++ ".")

/-- The answer to a `request`. -/
def readEvent (res : CalendarResponse) : Except CalendarError CalendarEvent :=
  if ¬ res.ok then .error (.api (describeFailure res) res.status)
  else
    match res.body with
    | none => .error .malformed
    | some body =>
      match body.id.filter (· ≠ "") with
      | none => .error (.api "Google Calendar returned an event without an id." 502)
      | some id => .ok ⟨id, body.hangoutLink⟩

/-- `createEvent` -/
def createEvent (accessToken calendarId : String) (input : CalendarEventInput) :
    CalendarRequest where
  method := .post input
  url := buildUrl calendarId none [("conferenceDataVersion", "1"), ("sendUpdates", "all")]
  accessToken

/-- `patchEvent` -/
def patchEvent (accessToken calendarId eventId : String) (patch : EventPatch) :
    CalendarRequest where
  method := .patch patch
  url := buildUrl calendarId (some (encodeURIComponent eventId)) [("sendUpdates", "all")]
  accessToken

/-- The request of `deleteEvent`. -/
def deleteEvent (accessToken calendarId eventId : String) : CalendarRequest where
  method := .delete
  url := buildUrl calendarId (some (encodeURIComponent eventId)) [("sendUpdates", "all")]
  accessToken

/-- The answer to `deleteEvent` : an event that is gone already has been deleted. -/
def readDeletion (res : CalendarResponse) : Except CalendarError Unit :=
  if ¬ res.ok ∧ res.status ≠ 404 ∧ res.status ≠ 410 then
    .error (.api (describeFailure res) res.status)
  else .ok ()

/-! ### The adapter -/

/-- What the adapter answers. -/
structure MeetingDetails where
  externalMeetingId : String
  externalCalendarId : String
  meetingUrl : Option String
  deriving DecidableEq

/-- `createMeeting` : the request, and what is made of the answer. -/
def createMeeting (access : OAuth.GoogleAccess) (bookingId : ObjectId)
    (input : CalendarEventInput) :
    CalendarRequest × (CalendarResponse → Except CalendarError MeetingDetails) :=
  (createEvent access.accessToken access.calendarId
      { input with conferenceRequestId := "booking-" ++ bookingId.text },
    fun res => (readEvent res).map fun event => ⟨event.id, access.calendarId, event.hangoutLink⟩)

/-- `updateMeeting` -/
def updateMeeting (access : OAuth.GoogleAccess) (externalCalendarId externalMeetingId : String)
    (patch : EventPatch) :
    CalendarRequest × (CalendarResponse → Except CalendarError MeetingDetails) :=
  (patchEvent access.accessToken externalCalendarId externalMeetingId patch,
    fun res => (readEvent res).map fun event => ⟨event.id, externalCalendarId, event.hangoutLink⟩)

/-- `cancelMeeting` -/
def cancelMeeting (access : OAuth.GoogleAccess) (externalCalendarId externalMeetingId : String) :
    CalendarRequest × (CalendarResponse → Except CalendarError Unit) :=
  (deleteEvent access.accessToken externalCalendarId externalMeetingId, readDeletion)

/-! ### What a request is about -/

section

variable {calendarId : String} {name : Option String}

theorem decodeURIComponent_ne_of_isDots {s : String} (h : IsDots s) :
    decodeURIComponent s ≠ decodeURIComponent "" := by
  have hdecode : ∀ w ∈ singleDots ++ doubleDots, decodeURIComponent w ≠ decodeURIComponent "" := by
    decide
  exact hdecode s (List.mem_append.2 h)

theorem map_decode_writtenSegments :
    (writtenSegments calendarId (name.map encodeURIComponent)).map decodeURIComponent =
      eventsOf calendarId ++ name.toList := by
  have hfixed : ["calendar", "v3", "calendars"].map decodeURIComponent =
      ["calendar", "v3", "calendars"] ∧ decodeURIComponent "events" = "events" := by
    decide
  have hname : (name.map encodeURIComponent).toList.map decodeURIComponent = name.toList := by
    cases name with
    | none => rfl
    | some e => exact congrArg (fun e => [e]) (decodeURIComponent_encodeURIComponent e)
  have hhead : (writtenSegments calendarId (name.map encodeURIComponent)).map decodeURIComponent =
      ["calendar", "v3", "calendars"].map decodeURIComponent ++
        decodeURIComponent (encodeURIComponent calendarId) :: decodeURIComponent "events" ::
        (name.map encodeURIComponent).toList.map decodeURIComponent := rfl
  rw [hhead, hfixed.1, hfixed.2, hname, decodeURIComponent_encodeURIComponent]
  rfl

theorem forall_writtenSegments {p : String → Prop}
    (hfixed : ∀ s ∈ ["calendar", "v3", "calendars", "events"], p s) :
    (∀ s ∈ writtenSegments calendarId (name.map encodeURIComponent), p s) ↔
      p (encodeURIComponent calendarId) ∧ ∀ e ∈ name, p (encodeURIComponent e) := by
  constructor
  · intro h
    refine ⟨h _ (by simp [writtenSegments]), ?_⟩
    rintro e rfl
    exact h _ (by simp [writtenSegments])
  · rintro ⟨hcalendar, hname⟩ s hs
    simp only [writtenSegments, calendarApi, List.mem_append, List.mem_cons, List.not_mem_nil,
      or_false, Option.mem_toList, Option.map_eq_some_iff] at hs
    rcases hs with ((rfl | rfl) | rfl | rfl | rfl) | ⟨e, he, rfl⟩
    · exact hfixed _ (by simp)
    · exact hfixed _ (by simp)
    · exact hfixed _ (by simp)
    · exact hcalendar
    · exact hfixed _ (by simp)
    · exact hname e he

/-- **What an address is of** : the names that it was built from, exactly when none of them is
dots. -/
theorem resource_buildUrl_iff (calendarId : String) (name : Option String)
    (query : List (String × String)) :
    (buildUrl calendarId (name.map encodeURIComponent) query).resource =
        eventsOf calendarId ++ name.toList ↔
      ¬ IsDotted calendarId ∧ ∀ e ∈ name, ¬ IsDotted e := by
  have hslash : ∀ s ∈ writtenSegments calendarId (name.map encodeURIComponent),
      '/' ∉ s.toList := by
    have hnot : ∀ s, '/' ∉ (encodeURIComponent s).toList :=
      notMem_encodeURIComponent (by decide)
    exact (forall_writtenSegments (by decide)).2 ⟨hnot _, fun e _ => hnot e⟩
  have hne : writtenSegments calendarId (name.map encodeURIComponent) ≠ [] := List.cons_ne_nil _ _
  have hiff := map_pathSegments_eq_iff (f := decodeURIComponent)
    (fun s => decodeURIComponent_ne_of_isDots) hne hslash
  have hdots : (∀ s ∈ writtenSegments calendarId (name.map encodeURIComponent), ¬ IsDots s) ↔
      ¬ IsDotted calendarId ∧ ∀ e ∈ name, ¬ IsDotted e := by
    rw [forall_writtenSegments (p := fun s => ¬ IsDots s) (by decide)]
    simp only [isDots_encodeURIComponent, IsDotted]
  rw [CalendarUrl.resource, buildUrl, ← map_decode_writtenSegments]
  rw [hiff]
  exact hdots

/-- **One meeting is one event.**  The request that creates it, those that move it and the one that
removes it are about the same event of the same calendar, whatever they are called, exactly when
neither is called by dots. -/
theorem same_event_iff (access later : OAuth.GoogleAccess) (bookingId : ObjectId)
    (input : CalendarEventInput) (patch : EventPatch) {res : CalendarResponse}
    {details : MeetingDetails} (h : (createMeeting access bookingId input).2 res = .ok details) :
    ((createMeeting access bookingId input).1.url.resource = eventsOf access.calendarId ∧
      (updateMeeting later details.externalCalendarId details.externalMeetingId
        patch).1.url.resource = eventsOf access.calendarId ++ [details.externalMeetingId] ∧
      (cancelMeeting later details.externalCalendarId details.externalMeetingId).1.url.resource =
        eventsOf access.calendarId ++ [details.externalMeetingId]) ↔
      ¬ IsDotted access.calendarId ∧ ¬ IsDotted details.externalMeetingId := by
  have hcalendar : details.externalCalendarId = access.calendarId := by
    simp only [createMeeting] at h
    cases hevent : readEvent res with
    | error e =>
      rw [hevent] at h
      cases h
    | ok event =>
      rw [hevent] at h
      obtain rfl := Except.ok.inj h
      rfl
  have hevents := resource_buildUrl_iff access.calendarId none
    [("conferenceDataVersion", "1"), ("sendUpdates", "all")]
  have hevent := resource_buildUrl_iff access.calendarId (some details.externalMeetingId)
    [("sendUpdates", "all")]
  rw [Option.toList_none, List.append_nil] at hevents
  simp only [createMeeting, createEvent, updateMeeting, patchEvent, cancelMeeting, deleteEvent,
    hcalendar]
  constructor
  · rintro ⟨-, -, hcancel⟩
    obtain ⟨hc, he⟩ := hevent.1 hcancel
    exact ⟨hc, he _ rfl⟩
  · rintro ⟨hc, he⟩
    have hdeleted := hevent.2 ⟨hc, fun _ heq => Option.some.inj heq ▸ he⟩
    exact ⟨hevents.2 ⟨hc, fun _ hnone => by cases hnone⟩, hdeleted, hdeleted⟩

/-- An event in a calendar whose name has a slash in it. -/
theorem same_event_iff_slash :
    (createMeeting ⟨"token", "team/hr#1"⟩ 5
        ⟨"Consultation", none, 0, 1, ⟨"UTC", by decide⟩, [], ""⟩).2
      ⟨200, some ⟨some "a?b", none, none⟩⟩ = .ok ⟨"a?b", "team/hr#1", none⟩ ∧
    (cancelMeeting ⟨"later", "primary"⟩ "team/hr#1" "a?b").1.url.resource =
      ["calendar", "v3", "calendars", "team/hr#1", "events", "a?b"] := by
  have hcreated : (createMeeting ⟨"token", "team/hr#1"⟩ 5
      ⟨"Consultation", none, 0, 1, ⟨"UTC", by decide⟩, [], ""⟩).2
      ⟨200, some ⟨some "a?b", none, none⟩⟩ = .ok ⟨"a?b", "team/hr#1", none⟩ := by decide
  exact ⟨hcreated, ((same_event_iff ⟨"token", "team/hr#1"⟩ ⟨"later", "primary"⟩ 5
    ⟨"Consultation", none, 0, 1, ⟨"UTC", by decide⟩, [], ""⟩ ⟨0, 1, ⟨"UTC", by decide⟩⟩
    hcreated).2 ⟨by decide, by decide⟩).2.2⟩

end

end GoogleCalendar

end HrBooking
