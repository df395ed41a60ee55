import HrBooking.Backend.Outlook
import HrBooking.Serial.Failure
import HrBooking.Serial.Removal

/-!
# One worker for each booking

The services run one after another, and next to them the meeting worker takes the jobs of each
booking in the order they were queued, one at a time.  A job issues its commands one by one, and
bookings are created, moved and cancelled while it is in flight; a retry runs between two jobs.

* `Desk` : the shared state and the job in flight for each booking.
* `worker` : the machine.
* `File` : everything that concerns one booking.
* `BookingChange` : what a booking service does to the file of a booking.
* `request_changes`, `lifecycleSweep_changes` : and that it does no more.
-/

namespace HrBooking

/-- The shared state, and for each booking the job in flight with its next command. -/
structure Desk where
  world : World
  running : ObjectId → Option (MeetingJob × HandlerStage)

/-- The actions next to the worker, and its own. -/
inductive WorkerAction where
  /-- a service call -/
  | call (a : SerialAction)
  /-- the worker takes the oldest job of a booking -/
  | take (bookingId : ObjectId)
  /-- the job of a booking issues its next command -/
  | exec (bookingId : ObjectId) (o : Oracle)

/-- Jobs are left to the worker, and a retry does not run into one. -/
def Desk.admits (s : Desk) : SerialAction → Bool
  | .runJob .. => false
  | .retryBookingMeeting _ _ bookingId => (s.running bookingId).isNone
  | _ => true

/-- After a command of a job; one that throws is queued again as long as attempts are left. -/
def Desk.resume (s : Desk) (bookingId : ObjectId) (job : MeetingJob) (w : World) :
    HandlerOutcome → Desk
  | .next stage => ⟨w, Function.update s.running bookingId (some (job, stage))⟩
  | .finished => ⟨w, Function.update s.running bookingId none⟩
  | .thrown e => ⟨((Origin.job job).fail e w).1, Function.update s.running bookingId none⟩

/-- One action. -/
def Desk.step (cal : TimezoneName → Calendar) (s : Desk) : WorkerAction → Option Desk
  | .call a => if s.admits a then (a.exec cal s.world).map fun w => ⟨w, s.running⟩ else none
  | .take bookingId =>
    match s.running bookingId, s.world.meetingQueue.find? (fun j => j.bookingId = bookingId) with
    | none, some job =>
      some ⟨{ s.world with
          meetingQueue := s.world.meetingQueue.eraseP fun j => j.bookingId = bookingId },
        Function.update s.running bookingId (some (job, job.name.start bookingId))⟩
    | _, _ => none
  | .exec bookingId o =>
    match s.running bookingId with
    | none => none
    | some (job, stage) => (stage.exec o s.world).map fun r => s.resume bookingId job r.1 r.2

/-- The services and the worker as a machine. -/
def worker (cal : TimezoneName → Calendar) : Machine Desk WorkerAction := ⟨Desk.step cal⟩

/-- The surroundings of a service call. -/
def SerialAction.oracle : SerialAction → Option Oracle
  | createBooking o .. | cancelBooking o .. | rescheduleBooking o .. | retryBookingMeeting o ..
  | runJob o .. => some o
  | _ => none

/-- The surroundings of an action. -/
def WorkerAction.oracle : WorkerAction → Option Oracle
  | call a => a.oracle
  | take _ => none
  | exec _ o => some o

/-- The booking whose conference a call works on. -/
def SerialAction.serves : SerialAction → Option ObjectId
  | retryBookingMeeting _ _ bookingId | runJob _ _ bookingId => some bookingId
  | _ => none

/-- The booking whose conference an action works on. -/
def WorkerAction.serves : WorkerAction → Option ObjectId
  | call a => a.serves
  | take bookingId | exec bookingId _ => some bookingId

/-! ### Files -/

/-- The names of the queued jobs of a booking, the oldest first. -/
def World.jobs (w : World) (bookingId : ObjectId) : List MeetingJobName :=
  (w.meetingQueue.filter fun j => j.bookingId = bookingId).map MeetingJob.name

/-- Everything that concerns one booking. -/
structure File where
  booking : Option Booking
  appointment : Appointment
  jobs : List MeetingJobName
  stage : Option HandlerStage

/-- The file of a booking. -/
def Desk.file (s : Desk) (bookingId : ObjectId) : File where
  booking := s.world.bookings.findById bookingId
  appointment := s.world.appointment bookingId
  jobs := s.world.jobs bookingId
  stage := (s.running bookingId).map Prod.snd

/-- The same booking, as the calendar knows it. -/
structure Booking.Follows (b' b : Booking) : Prop where
  id_eq : b'.id = b.id
  provider_eq : b'.meetingProvider = b.meetingProvider

/-- The times have stayed as well. -/
structure Booking.Keeps (b' b : Booking) : Prop extends b'.Follows b where
  startAt_eq : b'.startAt = b.startAt
  endAt_eq : b'.endAt = b.endAt

/-- What a service does to a stored booking, and the jobs it queues for it. -/
inductive BookingChange (id : ObjectId) : Option Booking → Option Booking → List MeetingJobName →
    Prop
  | same (b : Option Booking) : BookingChange id b b []
  | created {b : Booking} (hb : b.Serves id) (h : b.status ≠ .cancelled) :
      BookingChange id none (some b) [.create]
  | moved {b b' : Booking} (hb : b'.Follows b) (h : b.status ≠ .cancelled)
      (h' : b'.status ≠ .cancelled) : BookingChange id (some b) (some b') [.sync]
  | cancelled {b b' : Booking} (hb : b'.Keeps b) (h : b.status ≠ .cancelled)
      (h' : b'.status = .cancelled) : BookingChange id (some b) (some b') [.cancel]
  | completed {b b' : Booking} (hb : b'.Keeps b) (h : b.status ≠ .cancelled)
      (h' : b'.status ≠ .cancelled) : BookingChange id (some b) (some b') []

/-- A service has changed the bookings and queued jobs for them, and left the calendar alone. -/
structure World.Changes (w w' : World) : Prop where
  bookings : ∀ id, ∃ names,
    BookingChange id (w.bookings.findById id) (w'.bookings.findById id) names ∧
      w'.jobs id = w.jobs id ++ names
  appointment : ∀ id, w'.appointment id = w.appointment id
  tidy : w.Tidy → w'.Tidy

namespace World.Changes

variable {w w' : World}

theorem of_same (hbookings : w'.bookings = w.bookings) (hqueue : w'.meetingQueue = w.meetingQueue)
    (hmeetings : w'.meetings = w.meetings) (hevents : w'.events = w.events)
    (hids : w.issuedIds ⊆ w'.issuedIds) (hissued : w'.issuedEvents = w.issuedEvents) :
    w.Changes w' where
  bookings id := by
    refine ⟨[], ?_, ?_⟩
    · rw [hbookings]
      exact .same _
    · simp only [World.jobs, hqueue, List.append_nil]
  appointment id := by simp only [World.appointment, hmeetings, hevents]
  tidy h := by
    refine ⟨fun m hm => ?_, fun e he => ?_, by rw [hevents]; exact h.events_nodup⟩
    · exact hids (h.meetings_issued m (hmeetings ▸ hm))
    · exact hissued ▸ h.events_issued e (hevents ▸ he)

theorem of_booking {b' : Booking} {name : MeetingJobName}
    (hchange : BookingChange b'.id (w.bookings.findById b'.id) (some b') [name])
    (hbookings : ∀ id, w'.bookings.findById id =
      if id = b'.id then some b' else w.bookings.findById id)
    (hqueue : w'.meetingQueue = w.meetingQueue ++ [⟨name, b'.id, meetingAttempts⟩])
    (hmeetings : w'.meetings = w.meetings) (hevents : w'.events = w.events)
    (hids : w.issuedIds ⊆ w'.issuedIds) (hissued : w'.issuedEvents = w.issuedEvents) :
    w.Changes w' := by
  have hsame : w.Changes { w' with bookings := w.bookings, meetingQueue := w.meetingQueue } :=
    of_same rfl rfl hmeetings hevents hids hissued
  refine ⟨fun id => ?_, hsame.appointment, fun h =>
    ⟨(hsame.tidy h).meetings_issued, (hsame.tidy h).events_issued, (hsame.tidy h).events_nodup⟩⟩
  rw [hbookings]
  by_cases hid : id = b'.id
  · subst hid
    refine ⟨[name], ?_, ?_⟩
    · rw [if_pos rfl]
      exact hchange
    · simp [World.jobs, hqueue]
  · refine ⟨[], ?_, ?_⟩
    · rw [if_neg hid]
      exact .same _
    · simp [World.jobs, hqueue, Ne.symm hid]

end World.Changes

section Services

variable {cal : TimezoneName → Calendar} {o : Oracle} {w : World}

theorem Request.Writes.change {request : Request} {b' : Booking} {c : Collection Booking}
    (h : request.Writes cal o w b' c) :
    BookingChange b'.id (w.bookings.findById b'.id) (some b') [request.jobName] ∧
      ∀ id, c.findById id = if id = b'.id then some b' else w.bookings.findById id := by
  -- each request writes one booking: a new one, or one that it has found
  cases request with
  | create actor input =>
    obtain ⟨args, hargs, rfl, hins⟩ := h
    have hnone : w.bookings.findById (newBooking o.newId args).id = none := by
      refine Collection.findById_eq_none.2 fun b hb => ?_
      exact ((Collection.insert_eq_some.1 hins).1 b hb).1
    refine ⟨?_, fun id => ?_⟩
    · obtain ⟨profile, -, hoffered, -, -⟩ := createArgs_eq_ok.1 hargs
      obtain ⟨-, rfl⟩ := offeredArgs_eq_ok.1 hoffered
      rw [hnone]
      exact .created ⟨rfl, input.meetingProvider.2⟩ fun hs => nomatch hs
    · rw [Collection.findById_insert hins]
      by_cases hid : id = (newBooking o.newId args).id
      · subst hid
        rw [hnone, if_pos rfl]
        exact if_pos rfl
      · have hne : Document.docId (newBooking o.newId args) ≠ id := Ne.symm hid
        rw [if_neg hid, if_neg hne, Option.or_none]
  | cancel actor bookingId reason =>
    obtain ⟨booking, role, hargs, rfl, hupd⟩ := h
    obtain ⟨found, hfind, hargs⟩ := bind_eq_ok.1 hargs
    obtain ⟨role', hrole, hargs⟩ := bind_eq_ok.1 hargs
    cases hargs
    obtain ⟨hmem, -⟩ := findBooking_eq_ok.1 hfind
    have hfound : w.bookings.findById booking.id = some booking := Collection.findById_of_mem hmem
    refine ⟨?_, fun id => ?_⟩
    · rw [show (booking.cancel w.now role reason).id = booking.id from rfl, hfound]
      exact .cancelled ⟨⟨rfl, rfl⟩, rfl, rfl⟩ (assertCancellable_eq_ok.1 hrole).2.1.ne_cancelled rfl
    · rw [Collection.findById_update hupd fun _ => rfl]
      by_cases hid : id = booking.id
      · subst hid
        rw [hfound, Option.map_some, if_pos rfl, saveCancelled_self]
        exact (if_pos rfl).symm
      · simp only [if_neg hid, Option.map_id']
        exact (if_neg hid).symm
  | reschedule actor bookingId input =>
    obtain ⟨args, hargs, rfl, hupd⟩ := h
    obtain ⟨booking, role, hmem, -, hrole, hmove, -, -⟩ := rescheduleArgs_eq_ok.1 hargs
    obtain ⟨-, rfl⟩ := moveArgs_eq_ok.1 hmove
    have hfound : w.bookings.findById booking.id = some booking := Collection.findById_of_mem hmem
    refine ⟨?_, fun id => ?_⟩
    · simp only [MoveArgs.apply, hfound]
      have hactive := (assertReschedulable_eq_ok.1 hrole).2.1.ne_cancelled
      exact .moved ⟨rfl, rfl⟩ hactive hactive
    · rw [Collection.findById_update hupd fun _ => rfl]
      by_cases hid : id = booking.id
      · subst hid
        rw [hfound, Option.map_some, if_pos rfl]
        exact (if_pos rfl).symm
      · simp only [if_neg hid, Option.map_id']
        exact (if_neg hid).symm

/-- A booking service leaves the calendar alone, and only adds identities. -/
structure World.KeepsCalendar (w w' : World) : Prop where
  meetings : w'.meetings = w.meetings
  events : w'.events = w.events
  issuedIds : w.issuedIds ⊆ w'.issuedIds
  issuedEvents : w'.issuedEvents = w.issuedEvents

theorem CallWrite.keepsCalendar {w₁ w' : World} (h : CallWrite w w₁) (hsame : w₁.SameStore w') :
    w.KeepsCalendar w' := by
  have hw₁ : w.KeepsCalendar w₁ := by
    cases h <;> exact ⟨rfl, rfl, by simp, rfl⟩
  refine ⟨hsame.meetings.trans hw₁.meetings, hsame.events.trans hw₁.events, ?_,
    hsame.issuedEvents.trans hw₁.issuedEvents⟩
  rw [hsame.issuedIds]
  exact hw₁.issuedIds

/-- **A request** whose queues answer changes one booking at most, and queues its job. -/
theorem request_changes (cal : TimezoneName → Calendar) (ho : o.QueuesAnswer) (request : Request) :
    w.Changes (request.call cal o w).2 := by
  have hkeeps : w.KeepsCalendar (request.call cal o w).2 := by
    cases request with
    | create actor input =>
      obtain ⟨w₁, hwrite, hsame⟩ := createBooking_writes actor input
      exact hwrite.keepsCalendar hsame
    | cancel actor bookingId reason =>
      obtain ⟨w₁, hwrite, hsame⟩ := cancelBooking_writes actor bookingId reason
      exact hwrite.keepsCalendar hsame
    | reschedule actor bookingId input =>
      obtain ⟨w₁, hwrite, hsame⟩ := rescheduleBooking_writes cal actor bookingId input
      exact hwrite.keepsCalendar hsame
  obtain ⟨hmeetings, hevents, hids, hissued⟩ := hkeeps
  -- a request is refused and writes nothing, or its booking and its job are written together
  rcases request.call_cases cal o w with
    ⟨⟨e, w', hrun, hbookings, hqueue⟩, -⟩ | ⟨b, c, w₁, hwrites, hc, -, hqueue, hrun⟩
  · rw [hrun] at hmeetings hevents hids hissued ⊢
    exact .of_same hbookings hqueue hmeetings hevents hids hissued
  · have hanswers : ¬ request.DispatchFails o w₁.now := by
      rintro (hfails | ⟨_, _, _, hfails⟩)
      · exact absurd hfails (by simp [ho.1])
      · exact absurd hfails (by simp [ho.2])
    have hdispatched := request.dispatched (o := o) (w := w₁) (Request.written hwrites).starts
    rw [Service.bind_apply] at hrun
    generalize request.dispatch o b w₁ = answer at hrun hdispatched
    cases hdispatched with
    | failed e hfails => exact absurd hfails hanswers
    | queued _ hbookings hq =>
      obtain ⟨hchange, hfind⟩ := hwrites.change
      rw [hrun] at hmeetings hevents hids hissued ⊢
      refine .of_booking hchange (fun id => ?_) (hq.trans (by rw [hqueue])) hmeetings hevents hids
        hissued
      rw [← hfind id]
      exact congrArg (fun c => Collection.findById c id) (hbookings.trans hc)

/-- **The lifecycle sweep** completes bookings and queues nothing. -/
theorem lifecycleSweep_changes (w : World) : w.Changes (lifecycleSweep w) := by
  refine ⟨fun id => ⟨[], ?_, by simp only [World.jobs, lifecycleSweep, List.append_nil]⟩,
    fun _ => rfl, fun h => ⟨h.meetings_issued, h.events_issued, h.events_nodup⟩⟩
  cases hfind : w.bookings.findById id with
  | none =>
    have hnone : (lifecycleSweep w).bookings.findById id = none := by
      refine Collection.findById_eq_none.2 fun b hb => ?_
      rcases mem_lifecycleSweep hb with hb | ⟨d, hd, -, rfl⟩
      · exact Collection.findById_eq_none.1 hfind b hb
      · exact Collection.findById_eq_none.1 hfind d hd
    rw [hnone]
    exact .same none
  | some b =>
    obtain ⟨hb, rfl⟩ := Collection.findById_eq_some.1 hfind
    obtain ⟨b', hb', hid, -⟩ := lifecycleSweep_keepsProviders w b hb
    have hfind' : (lifecycleSweep w).bookings.findById b.id = some b' :=
      Collection.findById_eq_some.2 ⟨hb', hid⟩
    rw [show Document.docId b = b.id from rfl, hfind']
    rcases mem_lifecycleSweep hb' with hmem | ⟨d, hd, hdue, rfl⟩
    · obtain rfl := Collection.eq_of_docId hmem hb hid
      exact .same _
    · obtain rfl := Collection.eq_of_docId hd hb hid
      exact .completed ⟨⟨rfl, rfl⟩, rfl, rfl⟩ hdue.1.ne_cancelled fun hs => nomatch hs

end Services

end HrBooking
