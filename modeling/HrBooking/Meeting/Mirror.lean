import HrBooking.Machine.Upkeep
import HrBooking.Meeting.Account

/-!
# The calendar as a copy of a booking

The event of a booking and its meeting record together are a copy of the booking in the
consultant's calendar: absent, holding some times, or removed.  The meeting jobs keep it up.

* `Appointment` : the record and the live events of one booking.
* `Appointment.Shows` : it is a copy in one of the three states.
* `calendarUpkeep` : what the jobs make of the copy, and what it should be.
* `World.Tidy` : identities are given once.
* `World.Touches` : a command for one booking replaces its appointment and no other.
-/

namespace HrBooking

/-- The meeting record and the live events of one booking. -/
structure Appointment where
  meeting : Option Meeting
  events : List CalendarEvent

/-- What is stored and live for a booking. -/
def World.appointment (w : World) (bookingId : ObjectId) : Appointment :=
  ⟨w.meetings.findByKey bookingId, w.events.filter fun e => e.bookingId = bookingId⟩

/-- The states of the copy. -/
inductive Mirror where
  | absent
  | held (startAt endAt : ℤ)
  | removed

/-- What a job that runs with nothing in between makes of the copy. -/
def MeetingJobName.leave (booking : Booking) : MeetingJobName → Mirror → Mirror
  | create, .held s t => .held s t
  | create, _ | sync, _ => .held booking.startAt booking.endAt
  | cancel, .absent => .absent
  | cancel, _ => .removed

/-- The copy a booking asks for. -/
def Booking.mirror (booking : Booking) : Mirror :=
  if booking.status = .cancelled then .removed else .held booking.startAt booking.endAt

/-- The meeting jobs keep the calendar up. -/
def calendarUpkeep : Upkeep Booking MeetingJobName Mirror where
  run booking name := name.leave booking
  goal := Booking.mirror

section Upkeep

variable {b b' : Booking} {names : List MeetingJobName} {v v' : Mirror}

theorem MeetingJobName.leave_congr (hs : b'.startAt = b.startAt) (he : b'.endAt = b.endAt)
    (name : MeetingJobName) (v : Mirror) : name.leave b' v = name.leave b v := by
  unfold leave
  split <;> simp only [hs, he]

theorem Booking.mirror_of_ne (h : b.status ≠ .cancelled) : b.mirror = .held b.startAt b.endAt :=
  if_neg h

theorem Booking.mirror_of_cancelled (h : b.status = .cancelled) : b.mirror = .removed := if_pos h

theorem due_created (h : b.status ≠ .cancelled) : calendarUpkeep.Due b [.create] .absent :=
  (Booking.mirror_of_ne h).symm

/-- A moved booking has a synchronisation queued, whatever the copy holds. -/
theorem due_moved (h : b.status ≠ .cancelled) : calendarUpkeep.Due b (names ++ [.sync]) v :=
  Upkeep.due_push fun _ => (Booking.mirror_of_ne h).symm

theorem Upkeep.Due.cancelled (hdue : calendarUpkeep.Due b names v) (h : b.status ≠ .cancelled)
    (hs : b'.startAt = b.startAt) (he : b'.endAt = b.endAt) (h' : b'.status = .cancelled) :
    calendarUpkeep.Due b' (names ++ [.cancel]) v := by
  refine hdue.push (fun name _ v => name.leave_congr hs he v) ?_
  show MeetingJobName.leave b' .cancel b.mirror = b'.mirror
  rw [Booking.mirror_of_ne h, Booking.mirror_of_cancelled h']
  rfl

theorem Upkeep.Due.retried (hdue : calendarUpkeep.Due b names v) (h : b.status ≠ .cancelled)
    (hnames : .cancel ∉ names) (hv : MeetingJobName.create.leave b v = v') :
    calendarUpkeep.Due b names v' := by
  subst hv
  cases names with
  | nil =>
    obtain rfl : v = b.mirror := hdue
    rw [Booking.mirror_of_ne h]
    exact (Booking.mirror_of_ne h).symm
  | cons name names =>
    refine Eq.trans (congrArg (calendarUpkeep.drain b names) ?_) hdue
    show name.leave b (MeetingJobName.create.leave b v) = name.leave b v
    cases name with
    | create => cases v <;> rfl
    | sync => rfl
    | cancel => simp at hnames

end Upkeep

/-! ### What an appointment shows -/

/-- The record names an event in a calendar. -/
structure Meeting.Names (meeting : Meeting) (target : EventId × String) : Prop where
  status : meeting.status = .created
  event : meeting.externalMeetingId = some target.1
  calendar : meeting.externalCalendarId = some target.2
  nonempty : target.2 ≠ ""

/-- The appointment is a copy in some state: the record and the events agree. -/
inductive Appointment.Shows (bookingId : ObjectId) : Appointment → Mirror → Prop
  | absent : Shows bookingId ⟨none, []⟩ .absent
  | held {meeting : Meeting} {target : EventId × String} (h : meeting.Names target) :
      Shows bookingId
        ⟨some meeting, [⟨target.1, bookingId, meeting.startTime, meeting.endTime⟩]⟩
        (.held meeting.startTime meeting.endTime)
  | removed {meeting : Meeting} (h : meeting.status = .cancelled) :
      Shows bookingId ⟨some meeting, []⟩ .removed

theorem Appointment.Shows.exists_names {id : ObjectId} {a : Appointment} {s t : ℤ}
    (h : a.Shows id (.held s t)) :
    ∃ m target, a.meeting = some m ∧ m.Names target ∧ m.startTime = s ∧ m.endTime = t ∧
      a.events = [⟨target.1, id, s, t⟩] := by
  generalize hv : Mirror.held s t = v at h
  cases h with
  | held hnames =>
    cases hv
    exact ⟨_, _, rfl, hnames, rfl, rfl, rfl⟩
  | absent | removed => cases hv

section Names

variable {m : Meeting} {target : EventId × String} {b : Booking}

theorem Meeting.Names.isCreated (h : m.Names target) : m.isCreated :=
  ⟨h.status, by rw [h.event]; rfl⟩

theorem Meeting.Names.movable (h : m.Names target) : m.movable = some target := by
  simp only [Meeting.movable, h.status, h.event, h.calendar, if_neg h.nonempty]

theorem Meeting.Names.removable (h : m.Names target) : m.removable = some target := by
  simp only [Meeting.removable, h.status, h.event, h.calendar, Option.getD_some]

theorem Meeting.Names.retime (h : m.Names target) : (m.retime b).Names target :=
  ⟨h.status, h.event, h.calendar, h.nonempty⟩

theorem Meeting.Names.markMoved (h : m.Names target) (details : MeetingDetails) :
    (m.markMoved details).Names target :=
  ⟨h.status, h.event, h.calendar, h.nonempty⟩

theorem Meeting.names_markCreated {details : MeetingDetails}
    (h : details.externalCalendarId ≠ "") :
    (m.markCreated details).Names (details.externalMeetingId, details.externalCalendarId) :=
  ⟨rfl, rfl, rfl, h⟩

theorem Meeting.movable_of_cancelled (h : m.status = .cancelled) : m.movable = none := by
  simp only [Meeting.movable, h]

theorem Meeting.removable_of_cancelled (h : m.status = .cancelled) : m.removable = none := by
  simp only [Meeting.removable, h]

theorem newMeeting_not_isCreated (i : ObjectId) : ¬ (newMeeting i b).isCreated := by
  simp [Meeting.isCreated, newMeeting]

theorem Meeting.not_isCreated_of_cancelled (h : m.status = .cancelled) : ¬ m.isCreated := by
  simp only [Meeting.isCreated, h]
  exact fun hc => nomatch hc.1

end Names

/-! ### Commands for one booking -/

/-- Identities are given once. -/
structure World.Tidy (w : World) : Prop where
  meetings_issued : ∀ m ∈ w.meetings, m.id ∈ w.issuedIds
  events_issued : ∀ e ∈ w.events, e.id ∈ w.issuedEvents
  events_nodup : (w.events.map CalendarEvent.id).Nodup

/-- A command for one booking has replaced its appointment, and left the others, the bookings and
the queue of the jobs as they were. -/
structure World.Touches (bookingId : ObjectId) (w w' : World) (a : Appointment) : Prop where
  appointment : w'.appointment bookingId = a
  others : ∀ i, i ≠ bookingId → w'.appointment i = w.appointment i
  bookings : w'.bookings = w.bookings
  meetingQueue : w'.meetingQueue = w.meetingQueue
  tidy : w'.Tidy

namespace World.Touches

variable {id : ObjectId} {w w' w'' : World} {a a' : Appointment}

theorem refl (h : w.Tidy) : w.Touches id w (w.appointment id) :=
  ⟨rfl, fun _ _ => rfl, rfl, rfl, h⟩

theorem trans (h : w.Touches id w' a) (h' : w'.Touches id w'' a') : w.Touches id w'' a' where
  appointment := h'.appointment
  others i hi := (h'.others i hi).trans (h.others i hi)
  bookings := h'.bookings.trans h.bookings
  meetingQueue := h'.meetingQueue.trans h.meetingQueue
  tidy := h'.tidy

end World.Touches

section Commands

variable {o : Oracle} {w : World} {id : ObjectId} {held : HeldMeeting} {b : Booking}

theorem World.Tidy.eq_of_id (h : w.Tidy) {e e' : CalendarEvent} (he : e ∈ w.events)
    (he' : e' ∈ w.events) (hid : e.id = e'.id) : e = e' :=
  List.inj_on_of_nodup_map h.events_nodup he he' hid

theorem World.Tidy.bookingId_eq (h : w.Tidy) (id : ObjectId) {e : CalendarEvent} {i : EventId}
    (hi : i ∈ (w.appointment id).events.map CalendarEvent.id) (he : e ∈ w.events)
    (hid : e.id = i) : e.bookingId = id := by
  obtain ⟨e', he', rfl⟩ := List.mem_map.1 hi
  obtain ⟨hmem, hkey⟩ := List.mem_filter.1 he'
  rw [h.eq_of_id he hmem hid]
  exact of_decide_eq_true hkey

/-- **A save** replaces the record. -/
theorem saveMeeting_touches (htidy : w.Tidy) (h : held.Fits w id) :
    ∃ w', saveMeeting held w = (.ok (), w') ∧
      w.Touches id w' ⟨some held.doc, (w.appointment id).events⟩ := by
  obtain ⟨c, hsave, hdoc⟩ := saveMeeting_of_fits h
  rcases saveMeeting_cases (w := w) held with ⟨e, hs⟩ | ⟨c', hupd, hs⟩
  · cases hs.symm.trans hsave
  obtain rfl : c' = c := congrArg (fun r => r.2.meetings) (hs.symm.trans hsave)
  have hself := HeldMeeting.save_loaded h
  have hkey : ∀ k, c'.findByKey k = if held.loaded.bookingId = k then some held.doc else
      w.meetings.findByKey k := by
    intro k
    rw [Collection.findByKey_update hupd h.mem rfl (by
      rw [hself]
      exact congrArg some (h.key_eq.trans h.loaded_key.symm)), hself]
    simp only [Document.indexKey, Option.some.injEq]
  refine ⟨_, hs, ⟨?_, fun i hi => ?_, rfl, rfl, ?_⟩⟩
  · simp only [World.appointment, hkey, if_pos h.loaded_key]
  · have hne : ¬ held.loaded.bookingId = i := fun he => hi (he.symm.trans h.loaded_key)
    simp only [World.appointment, hkey, if_neg hne]
  · refine ⟨fun m hm => ?_, htidy.events_issued, htidy.events_nodup⟩
    rcases (Collection.mem_update hupd).1 hm with ⟨hm, -⟩ | ⟨d, hd, hdid, rfl⟩
    · exact htidy.meetings_issued m hm
    · exact htidy.meetings_issued d hd

/-- **An insert** gives a booking without a record one. -/
theorem insertMeeting_touches (htidy : w.Tidy) (hnew : o.newId ∉ w.issuedIds)
    (hnone : w.meetings.findByKey b.id = none) :
    ∃ c, w.meetings.insert (newMeeting o.newId b) = some c ∧
      w.Touches b.id { w with issuedIds := o.newId :: w.issuedIds, meetings := c }
        ⟨some (newMeeting o.newId b), (w.appointment b.id).events⟩ := by
  have hcompat : ∀ m ∈ w.meetings, Document.Compatible m (newMeeting o.newId b) := by
    intro m hm
    have hid : m.id ≠ o.newId := fun he => hnew (he ▸ htidy.meetings_issued m hm)
    refine ⟨hid, ?_⟩
    rintro k hk hk'
    rw [← hk'] at hk
    exact Collection.findByKey_eq_none.1 hnone m hm hk
  obtain ⟨c, hc⟩ := Collection.insert_of_compatible hcompat
  have hkey : ∀ i, c.findByKey i =
      if some b.id = some i then some (newMeeting o.newId b) else w.meetings.findByKey i :=
    Collection.findByKey_insert hc
  refine ⟨c, hc, ⟨?_, fun i hi => ?_, rfl, rfl, ?_⟩⟩
  · simp only [World.appointment, hkey, if_true]
  · simp only [World.appointment, hkey, if_neg fun h => hi (Option.some.inj h).symm]
  · refine ⟨fun m hm => ?_, htidy.events_issued, htidy.events_nodup⟩
    rcases (Collection.mem_insert hc).1 hm with hm | rfl
    · exact List.mem_cons_of_mem _ (htidy.meetings_issued m hm)
    · exact List.mem_cons_self

/-- **A creation** that the provider answers gives the booking another event. -/
theorem callCreate_touches (htidy : w.Tidy) (ho : o.providerError = none)
    (hnew : o.newEvent ∉ w.issuedEvents) (input : CreateMeetingInput) :
    ∃ w', callCreate o input w = (.ok ⟨o.newEvent, o.calendarId, o.meetingUrl⟩, w') ∧
      w.Touches input.bookingId w' ⟨(w.appointment input.bookingId).meeting,
        ⟨o.newEvent, input.bookingId, input.startAt, input.endAt⟩ ::
          (w.appointment input.bookingId).events⟩ := by
  unfold callCreate
  rw [ho]
  refine ⟨_, rfl, ⟨?_, fun i hi => ?_, rfl, rfl, ?_⟩⟩
  · simp [World.appointment]
  · simp [World.appointment, hi.symm]
  · refine ⟨htidy.meetings_issued, fun e he => ?_, List.nodup_cons.2 ⟨fun hmem => ?_,
      htidy.events_nodup⟩⟩
    · rcases List.mem_cons.1 he with rfl | he
      · exact List.mem_cons_self
      · exact List.mem_cons_of_mem _ (htidy.events_issued e he)
    · obtain ⟨e, he, hid⟩ := List.mem_map.1 hmem
      have hid' : e.id = o.newEvent := hid
      exact hnew (hid' ▸ htidy.events_issued e he)

/-- **An update** that the provider answers moves an event of the booking. -/
theorem callUpdate_touches (htidy : w.Tidy) (ho : o.providerError = none)
    {provider : MeetingProvider} (hsup : isSupportedMeetingProvider provider)
    (input : UpdateMeetingInput) {s t : ℤ}
    (hevents : (w.appointment id).events = [⟨input.externalMeetingId, id, s, t⟩]) :
    ∃ w', callUpdate o provider input w =
        (.ok ⟨input.externalMeetingId, input.externalCalendarId, o.meetingUrl⟩, w') ∧
      w.Touches id w' ⟨(w.appointment id).meeting,
        [⟨input.externalMeetingId, id, input.startAt, input.endAt⟩]⟩ := by
  let move : CalendarEvent → CalendarEvent := fun e =>
    if e.id = input.externalMeetingId then { e with startAt := input.startAt, endAt := input.endAt }
    else e
  have hmove_id : ∀ e, (move e).id = e.id := fun e => by simp only [move]; split_ifs <;> rfl
  have hmove_key : ∀ e, (move e).bookingId = e.bookingId := fun e => by
    simp only [move]; split_ifs <;> rfl
  have hfilter : ∀ i, (w.events.map move).filter (fun e => e.bookingId = i) =
      (w.events.filter fun e => e.bookingId = i).map move := by
    intro i
    rw [List.filter_map]
    congr 1
    exact List.filter_congr fun e _ => by simp only [Function.comp_apply, hmove_key]
  refine ⟨{ w with events := w.events.map move, providerLog := _ },
    by simp only [callUpdate, if_neg (not_not.2 hsup), ho]; rfl,
    ⟨?_, fun i hi => ?_, rfl, rfl, ?_⟩⟩
  · simp only [World.appointment, hfilter]
    rw [show w.events.filter (fun e => e.bookingId = id) = _ from hevents]
    simp [move]
  · simp only [World.appointment, hfilter]
    -- the event that moves belongs to the booking, so the others stay
    refine congrArg (Appointment.mk _) ((List.map_congr_left fun e he => ?_).trans (List.map_id _))
    obtain ⟨hmem, hkey⟩ := List.mem_filter.1 he
    refine if_neg fun heq => hi ?_
    have hid := htidy.bookingId_eq id (by rw [hevents]; exact List.mem_cons_self) hmem heq
    exact (of_decide_eq_true hkey).symm.trans hid
  · refine ⟨htidy.meetings_issued, fun e he => ?_, ?_⟩
    · obtain ⟨e', he', rfl⟩ := List.mem_map.1 he
      rw [hmove_id]
      exact htidy.events_issued e' he'
    · rw [List.map_map, show CalendarEvent.id ∘ move = CalendarEvent.id from funext hmove_id]
      exact htidy.events_nodup

/-- **A cancellation** that the provider answers deletes the event of the booking. -/
theorem callCancel_touches (htidy : w.Tidy) (ho : o.providerError = none)
    {provider : MeetingProvider} (hsup : isSupportedMeetingProvider provider)
    (input : CancelMeetingInput) {s t : ℤ}
    (hevents : (w.appointment id).events = [⟨input.externalMeetingId, id, s, t⟩]) :
    w.Touches id (callCancel o provider input w) ⟨(w.appointment id).meeting, []⟩ := by
  have hfilter : ∀ i, (w.events.filter fun e => e.id ≠ input.externalMeetingId).filter
      (fun e => e.bookingId = i) =
      (w.events.filter fun e => e.bookingId = i).filter
        fun e => e.id ≠ input.externalMeetingId := fun i => List.filter_comm ..
  unfold callCancel
  rw [if_neg (not_not.2 hsup), ho]
  refine ⟨?_, fun i hi => ?_, rfl, rfl, ?_⟩
  · simp only [World.appointment, hfilter]
    rw [show w.events.filter (fun e => e.bookingId = id) = _ from hevents]
    simp
  · simp only [World.appointment, hfilter]
    refine congrArg (Appointment.mk _) (List.filter_eq_self.2 fun e he => ?_)
    obtain ⟨hmem, hkey⟩ := List.mem_filter.1 he
    refine decide_eq_true fun heq => hi ?_
    have hid := htidy.bookingId_eq id (by rw [hevents]; exact List.mem_cons_self) hmem heq
    exact (of_decide_eq_true hkey).symm.trans hid
  · exact ⟨htidy.meetings_issued, fun e he => htidy.events_issued e (List.mem_filter.1 he).1,
      (List.filter_sublist.map _).nodup htidy.events_nodup⟩

end Commands

end HrBooking
