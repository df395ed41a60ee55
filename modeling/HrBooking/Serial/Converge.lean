import HrBooking.Serial.Alone
import HrBooking.Serial.Worker

/-!
# The calendar converges

While the jobs of a booking run in the order they were queued, draining its queue would at every
moment bring the calendar to what the booking asks for, whatever has happened to the booking since
the jobs were queued.  So once the queue is empty the calendar agrees with the booking.

* `File.InOrder` : the invariant, the appointment with the job in flight and the queued ones.
* `inOrder_step` : every action keeps it, if no provider or queue call fails.
* `Converged` : the calendar agrees with a booking.
* `calendar_converges` : and it does whenever no job of the booking is left.
-/

namespace HrBooking

/-- What the appointment is going to show when the job in flight, if there is one, has run. -/
def Appointment.Outlook (id : ObjectId) (now : Booking) (a : Appointment) (v : Mirror) :
    Option HandlerStage → Prop
  | none => a.Shows id v
  | some stage => stage.Leaves id now a v

/-- A file is blank, or the queued jobs are going to bring the appointment up. -/
inductive File.InOrder (id : ObjectId) : File → Prop
  | blank : InOrder id ⟨none, ⟨none, []⟩, [], none⟩
  | kept {b : Booking} {a : Appointment} {jobs : List MeetingJobName}
      {stage : Option HandlerStage} {v : Mirror} (hb : b.Serves id) (hlook : a.Outlook id b v stage)
      (hdue : calendarUpkeep.Due b jobs v) (hcancel : b.status ≠ .cancelled → .cancel ∉ jobs) :
      InOrder id ⟨some b, a, jobs, stage⟩

/-- The files of the bookings in `D` are in order. -/
structure Desk.InOrder (D : Set ObjectId) (s : Desk) : Prop where
  tidy : s.world.Tidy
  files : ∀ id ∈ D, (s.file id).InOrder id

section Files

variable {id : ObjectId} {b b' : Booking} {a : Appointment} {v : Mirror} {f : File}
  {jobs : List MeetingJobName} {name : MeetingJobName}

/-- When the booking changes, a job in flight may leave something else, but not while the times
stay. -/
theorem Appointment.Outlook.renew {stage : Option HandlerStage} (h : a.Outlook id b v stage)
    (b' : Booking) :
    ∃ v', a.Outlook id b' v' stage ∧
      (b'.startAt = b.startAt → b'.endAt = b.endAt → v' = v) := by
  cases stage with
  | none => exact ⟨v, h, fun _ _ => rfl⟩
  | some stage =>
    cases h with
    | ensureRead h => exact ⟨_, .ensureRead h, fun hs he => MeetingJobName.leave_congr hs he _ _⟩
    | ensureFind hb h => exact ⟨_, .ensureFind hb h, fun _ _ => rfl⟩
    | ensureInsert hb h => exact ⟨_, .ensureInsert hb h, fun _ _ => rfl⟩
    | callCreate hb hheld hs he hnone =>
      exact ⟨_, .callCreate hb hheld hs he hnone, fun _ _ => rfl⟩
    | saveCreated hheld hcalendar hone =>
      exact ⟨_, .saveCreated hheld hcalendar hone, fun _ _ => rfl⟩
    | syncRead h => exact ⟨_, .syncRead h, fun hs he => MeetingJobName.leave_congr hs he _ _⟩
    | @syncFind b₀ v hb h =>
      refine ⟨_, .syncFind hb h, fun hs he => ?_⟩
      cases v <;> simp only [Mirror.resync, hs, he]
    | saveTimes hheld hcancelled hnone =>
      refine ⟨_, .saveTimes hheld hcancelled hnone, fun hs he => ?_⟩
      rw [hs, he]
    | callUpdate hb hheld hnames hs he hone =>
      exact ⟨_, .callUpdate hb hheld hnames hs he hone, fun _ _ => rfl⟩
    | saveMoved hheld hnames hone => exact ⟨_, .saveMoved hheld hnames hone, fun _ _ => rfl⟩
    | cancelRead h => exact ⟨_, .cancelRead h, fun hs he => MeetingJobName.leave_congr hs he _ _⟩
    | cancelFind hb h =>
      exact ⟨_, .cancelFind hb h, fun hs he => MeetingJobName.leave_congr hs he _ _⟩
    | callCancel hb hheld hone => exact ⟨_, .callCancel hb hheld hone, fun _ _ => rfl⟩
    | saveCancelled hheld hnone => exact ⟨_, .saveCancelled hheld hnone, fun _ _ => rfl⟩

theorem Booking.Follows.serves (h : b'.Follows b) (hb : b.Serves id) : b'.Serves id :=
  ⟨h.id_eq.trans hb.id_eq, h.provider_eq ▸ hb.supported⟩

/-- **A booking service** keeps the file of a booking in order. -/
theorem File.InOrder.change {f : File} {booking : Option Booking} {names : List MeetingJobName}
    (h : f.InOrder id) (hchange : BookingChange id f.booking booking names) :
    File.InOrder id ⟨booking, f.appointment, f.jobs ++ names, f.stage⟩ := by
  cases h with
  | blank =>
    cases hchange with
    | same => exact .blank
    | created hb hstatus => exact .kept hb .absent (due_created hstatus) fun _ => by simp
  | @kept b a jobs stage v hb hlook hdue hcancel =>
    cases hchange with
    | same =>
      rw [List.append_nil]
      exact .kept hb hlook hdue hcancel
    | @moved _ b' hfollows hstatus hstatus' =>
      obtain ⟨v', hlook', -⟩ := hlook.renew b'
      exact .kept (hfollows.serves hb) hlook' (due_moved hstatus') fun _ => by
        simpa using hcancel hstatus
    | @cancelled _ b' hkeeps hstatus hstatus' =>
      obtain ⟨v', hlook', hv⟩ := hlook.renew b'
      rw [hv hkeeps.startAt_eq hkeeps.endAt_eq] at hlook'
      exact .kept (hkeeps.serves hb) hlook'
        (hdue.cancelled hstatus hkeeps.startAt_eq hkeeps.endAt_eq hstatus')
        fun hne => absurd hstatus' hne
    | @completed _ b' hkeeps hstatus hstatus' =>
      obtain ⟨v', hlook', hv⟩ := hlook.renew b'
      rw [hv hkeeps.startAt_eq hkeeps.endAt_eq] at hlook'
      rw [List.append_nil]
      refine .kept (hkeeps.serves hb) hlook' (hdue.congr (fun name _ v => ?_) ?_) fun _ =>
        hcancel hstatus
      · exact name.leave_congr hkeeps.startAt_eq hkeeps.endAt_eq v
      · show b'.mirror = b.mirror
        rw [Booking.mirror_of_ne hstatus, Booking.mirror_of_ne hstatus', hkeeps.startAt_eq,
          hkeeps.endAt_eq]

theorem MeetingJobName.leaves_start (h : a.Shows id v) (name : MeetingJobName) :
    (name.start id).Leaves id b a (name.leave b v) := by
  cases name with
  | create => exact .ensureRead h
  | sync => exact .syncRead h
  | cancel => exact .cancelRead h

theorem File.InOrder.cases {f : File} (h : f.InOrder id) :
    f = ⟨none, ⟨none, []⟩, [], none⟩ ∨
      ∃ b v, f.booking = some b ∧ b.Serves id ∧ f.appointment.Outlook id b v f.stage ∧
        calendarUpkeep.Due b f.jobs v ∧ (b.status ≠ .cancelled → .cancel ∉ f.jobs) := by
  cases h with
  | blank => exact .inl rfl
  | kept hb hlook hdue hcancel => exact .inr ⟨_, _, rfl, hb, hlook, hdue, hcancel⟩

/-- **The oldest job is taken.** -/
theorem File.InOrder.take {booking : Option Booking}
    (h : File.InOrder id ⟨booking, a, name :: jobs, none⟩) :
    File.InOrder id ⟨booking, a, jobs, some (name.start id)⟩ := by
  cases h with
  | kept hb hlook hdue hcancel =>
    exact .kept hb (name.leaves_start hlook) hdue.ran fun hstatus hmem =>
      hcancel hstatus (List.mem_cons_of_mem _ hmem)

end Files

/-! ### One action -/

section Step

variable {D : Set ObjectId} {cal : TimezoneName → Calendar} {o : Oracle} {s s' : Desk}
  {w w' : World} {id : ObjectId} {now : Booking} {a : Appointment} {v : Mirror}
  {out : HandlerOutcome}

/-- What a job that runs with nothing in between leaves. -/
theorem HandlerOutcome.EndsAs.leaves {α : Type} {answer : Except AppError α × World}
    (h : out.EndsAs o w answer) (ho : o.Answers) (hnow : now.Serves id) (htidy : w.Tidy)
    (hfind : w.bookings.findById id = some now) (hleaves : out.Leaves id now (w.appointment id) v) :
    ∃ a, w.Touches id answer.2 a ∧ a.Shows id v := by
  have hends : ∀ x, Relation.ReflTransGen (Goes o) x (answer.2, ofAnswer answer.1) →
      x.1.Tidy → x.1.bookings.findById id = some now →
      x.2.Leaves id now (x.1.appointment id) v →
      ∃ a, x.1.Touches id answer.2 a ∧ a.Shows id v := by
    intro x hx
    induction hx using Relation.ReflTransGen.head_induction_on with
    | refl =>
      intro htidy _ hleaves
      refine ⟨_, .refl htidy, ?_⟩
      rcases answer with ⟨_ | _, w'⟩
      · exact hleaves.elim
      · exact hleaves
    | head hstep _ ih =>
      intro htidy hfind hleaves
      obtain ⟨stage, hstage, hexec⟩ := hstep
      rw [hstage] at hleaves
      obtain ⟨a, htouches, hleaves'⟩ := stage.leaves_exec ho htidy hfind hnow hleaves hexec
      rw [← htouches.appointment] at hleaves'
      obtain ⟨a', htouches', hshows⟩ := ih htouches.tidy (htouches.bookings ▸ hfind) hleaves'
      exact ⟨a', htouches.trans htouches', hshows⟩
  exact hends _ h htidy hfind hleaves

theorem Desk.InOrder.of_file (h : s.InOrder D) (id : ObjectId) (htidy : s'.world.Tidy)
    (hothers : ∀ i, i ≠ id → s'.file i = s.file i) (hfile : (s'.file id).InOrder id) :
    s'.InOrder D := by
  refine ⟨htidy, fun i hiD => ?_⟩
  by_cases hi : i = id
  · exact hi ▸ hfile
  · rw [hothers i hi]
    exact h.files i hiD

theorem World.Touches.file {running : ObjectId → Option (MeetingJob × HandlerStage)}
    (h : s.world.Touches id w' a) (i : ObjectId) :
    (Desk.mk w' running).file i = ⟨(s.file i).booking,
      if i = id then a else (s.file i).appointment, (s.file i).jobs,
      (running i).map Prod.snd⟩ := by
  have hjobs : w'.jobs i = s.world.jobs i := by simp only [World.jobs, h.meetingQueue]
  simp only [Desk.file, h.bookings, hjobs]
  by_cases hi : i = id
  · subst hi
    rw [if_pos rfl, h.appointment]
  · rw [if_neg hi, h.others i hi]

theorem Desk.InOrder.changes (h : s.InOrder D) (hchanges : s.world.Changes w') :
    Desk.InOrder D ⟨w', s.running⟩ := by
  refine ⟨hchanges.tidy h.tidy, fun id hid => ?_⟩
  obtain ⟨names, hchange, hjobs⟩ := hchanges.bookings id
  have hfile := (h.files id hid).change hchange
  simp only [Desk.file, hchanges.appointment, hjobs]
  exact hfile

/-- **A retry**, which no job runs into, brings the appointment up early. -/
theorem Desk.InOrder.retry (h : s.InOrder D) (hid : id ∈ D) (ho : o.Answers)
    (hfresh : o.Fresh s.world) (hidle : s.running id = none) (actor : Actor) :
    Desk.InOrder D ⟨(retryBookingMeeting o actor id s.world).2, s.running⟩ := by
  unfold retryBookingMeeting
  cases hargs : retryArgs actor id s.world with
  | error e =>
    rw [Service.bind_of_error (by rw [Service.check_apply, hargs])]
    exact h
  | ok b =>
    rw [Service.bind_of_ok (by rw [Service.check_apply, hargs])]
    obtain ⟨booking, hfind, hargs'⟩ := bind_eq_ok.1 hargs
    obtain ⟨role, -, hargs'⟩ := bind_eq_ok.1 hargs'
    split_ifs at hargs' with hretry
    cases hargs'
    obtain ⟨hmem, rfl⟩ := findBooking_eq_ok.1 hfind
    have hstored : s.world.bookings.findById b.id = some b := Collection.findById_of_mem hmem
    have hstage : (s.file b.id).stage = none := by simp only [Desk.file, hidle, Option.map_none]
    rcases (h.files b.id hid).cases with hblank | ⟨b', v, hb', hserves, hlook, hdue, hcancel⟩
    · cases hstored.symm.trans (congrArg File.booking hblank)
    obtain rfl : b = b' := Option.some.inj (hstored.symm.trans hb')
    rw [hstage] at hlook
    obtain ⟨a, htouches, hshows⟩ := (ensureMeetingForBooking_endsAs hfresh b.id).leaves ho hserves
      h.tidy hstored (.ensureRead hlook)
    have hactive := hretry.1.ne_cancelled
    -- the booking is read again at the end, which changes nothing
    have hafter : ((ensureMeetingForBooking o b.id >>= fun _ =>
        Service.check (getBookingForActor actor b.id)) s.world).2 =
        (ensureMeetingForBooking o b.id s.world).2 := by
      rw [Service.bind_apply]
      rcases ensureMeetingForBooking o b.id s.world with ⟨_ | _, w'⟩ <;> rfl
    rw [hafter]
    refine h.of_file b.id htouches.tidy (fun i hi => ?_) ?_
    · rw [htouches.file, if_neg hi]
      rfl
    · rw [htouches.file, if_pos rfl, hb', hidle]
      exact .kept hserves hshows (hdue.retried hactive (hcancel hactive) rfl) hcancel

/-- **A service call** that no job runs into keeps the files in order. -/
theorem Desk.InOrder.call {a : SerialAction} (h : s.InOrder D) (hid : ∀ id ∈ a.serves, id ∈ D)
    (ho : ∀ o ∈ a.oracle, o.Answers) (hadmits : s.admits a = true)
    (hexec : a.exec cal s.world = some w') : Desk.InOrder D ⟨w', s.running⟩ := by
  cases a with
  | createBooking o actor input =>
    obtain ⟨-, rfl⟩ := Service.after_eq_some.1 hexec
    exact h.changes (request_changes cal (ho o rfl).queues (.create actor input))
  | cancelBooking o actor id reason =>
    obtain ⟨-, rfl⟩ := Service.after_eq_some.1 hexec
    exact h.changes (request_changes cal (ho o rfl).queues (.cancel actor id reason))
  | rescheduleBooking o actor id input =>
    obtain ⟨-, rfl⟩ := Service.after_eq_some.1 hexec
    exact h.changes (request_changes cal (ho o rfl).queues (.reschedule actor id input))
  | retryBookingMeeting o actor id =>
    obtain ⟨hfresh, rfl⟩ := Service.after_eq_some.1 hexec
    exact h.retry (hid id rfl) (ho o rfl) hfresh (Option.isNone_iff_eq_none.1 hadmits) actor
  | runJob => cases hadmits
  | updateAvailability | setProfiles | advance =>
    cases hexec
    exact h.changes (.of_same rfl rfl rfl rfl (List.Subset.refl _) rfl)
  | sweep =>
    cases hexec
    exact h.changes (lifecycleSweep_changes _)

/-- **The worker takes the oldest job** of a booking. -/
theorem Desk.InOrder.take {job : MeetingJob} (h : s.InOrder D) (hid : id ∈ D)
    (hidle : s.running id = none)
    (hjob : s.world.meetingQueue.find? (fun j => j.bookingId = id) = some job) :
    Desk.InOrder D ⟨{ s.world with
        meetingQueue := s.world.meetingQueue.eraseP fun j => j.bookingId = id },
      Function.update s.running id (some (job, job.name.start id))⟩ := by
  have hjobs := congrArg (List.map MeetingJob.name) (filter_of_oldest hjob)
  refine h.of_file id ⟨h.tidy.meetings_issued, h.tidy.events_issued, h.tidy.events_nodup⟩
    (fun i hi => ?_) ?_
  · have hothers := filter_eraseP_of_disjoint s.world.meetingQueue
      (p := fun j => j.bookingId = id) (q := fun j => j.bookingId = i) fun j hj =>
        decide_eq_false fun he => hi (he.symm.trans (of_decide_eq_true hj))
    simp only [Desk.file, World.jobs, World.appointment, hothers, Function.update_of_ne hi]
  · have hfile := h.files id hid
    simp only [Desk.file, World.jobs, hidle, hjobs, List.map_cons, Option.map_none] at hfile
    have htaken := hfile.take
    simp only [Desk.file, Function.update_self, Option.map_some]
    exact htaken

/-- **A job issues its next command.** -/
theorem Desk.InOrder.exec {job : MeetingJob} {stage : HandlerStage} (h : s.InOrder D)
    (hid : id ∈ D) (ho : o.Answers) (hrun : s.running id = some (job, stage))
    (hexec : stage.exec o s.world = some (w', out)) : (s.resume id job w' out).InOrder D := by
  have hstage : (s.file id).stage = some stage := by simp only [Desk.file, hrun, Option.map_some]
  rcases (h.files id hid).cases with hblank | ⟨b, v, hb, hserves, hlook, hdue, hcancel⟩
  · cases hstage.symm.trans (congrArg File.stage hblank)
  rw [hstage] at hlook
  obtain ⟨a, htouches, hleaves⟩ := stage.leaves_exec ho h.tidy hb hserves hlook hexec
  cases out with
  | thrown e => exact hleaves.elim
  | next stage' =>
    refine h.of_file id htouches.tidy (fun i hi => ?_) ?_
    · rw [Desk.resume, htouches.file, if_neg hi, Function.update_of_ne hi]
      rfl
    · rw [Desk.resume, htouches.file, if_pos rfl, Function.update_self, hb]
      exact .kept hserves hleaves hdue hcancel
  | finished =>
    refine h.of_file id htouches.tidy (fun i hi => ?_) ?_
    · rw [Desk.resume, htouches.file, if_neg hi, Function.update_of_ne hi]
      rfl
    · rw [Desk.resume, htouches.file, if_pos rfl, Function.update_self, hb]
      exact .kept hserves hleaves hdue hcancel

/-- **Every action keeps the files in order**, if no provider or queue call fails. -/
theorem inOrder_step {a : WorkerAction} (h : s.InOrder D) (hid : ∀ id ∈ a.serves, id ∈ D)
    (ho : ∀ o ∈ a.oracle, o.Answers) (hstep : (worker cal).step s a = some s') : s'.InOrder D := by
  cases a with
  | call a =>
    simp only [worker, Desk.step] at hstep
    split_ifs at hstep with hadmits
    obtain ⟨w', hexec, rfl⟩ := Option.map_eq_some_iff.1 hstep
    exact h.call hid ho hadmits hexec
  | take id =>
    simp only [worker, Desk.step] at hstep
    split at hstep
    · rename_i job hidle hjob
      cases hstep
      exact h.take (hid id rfl) hidle hjob
    · cases hstep
  | exec id o =>
    simp only [worker, Desk.step] at hstep
    split at hstep
    · cases hstep
    · rename_i job stage hrun
      obtain ⟨⟨w', out⟩, hexec, rfl⟩ := Option.map_eq_some_iff.1 hstep
      exact h.exec (hid id rfl) (ho o rfl) hrun hexec

end Step

/-! ### Runs -/

/-- The calendar agrees with a booking: one event with its times, named by a record with its times;
or none, when the booking is cancelled. -/
structure Converged (w : World) (b : Booking) : Prop where
  live : b.status ≠ .cancelled →
    ∃ m ∈ w.meetings, ∃ e : EventId, m.bookingId = b.id ∧ m.status = .created ∧
      m.externalMeetingId = some e ∧ m.startTime = b.startAt ∧ m.endTime = b.endAt ∧
      w.events.filter (fun e => e.bookingId = b.id) = [⟨e, b.id, b.startAt, b.endAt⟩]
  cancelled : b.status = .cancelled →
    (∃ m ∈ w.meetings, m.bookingId = b.id ∧ m.status = .cancelled) ∧
      w.events.filter (fun e => e.bookingId = b.id) = []

/-- Nothing is left of the jobs of a booking. -/
def Desk.Drained (s : Desk) (bookingId : ObjectId) : Prop :=
  (∀ j ∈ s.world.meetingQueue, j.bookingId ≠ bookingId) ∧ s.running bookingId = none

instance (s : Desk) (bookingId : ObjectId) : Decidable (s.Drained bookingId) :=
  inferInstanceAs (Decidable (_ ∧ _))

/-- Nothing is known of the bookings in `D`; of others anything may be stored. -/
structure Desk.Unused (D : Set ObjectId) (s : Desk) : Prop where
  tidy : s.world.Tidy
  bookings : ∀ b ∈ s.world.bookings, b.id ∉ D
  meetings : ∀ m ∈ s.world.meetings, m.bookingId ∉ D
  events : ∀ e ∈ s.world.events, e.bookingId ∉ D
  meetingQueue : ∀ j ∈ s.world.meetingQueue, j.bookingId ∉ D
  running : ∀ id ∈ D, s.running id = none

section Run

variable {D : Set ObjectId} {cal : TimezoneName → Calendar} {s₀ s : Desk}
  {as : List WorkerAction} {b : Booking}

theorem Desk.Unused.inOrder (h : s₀.Unused D) : s₀.InOrder D := by
  refine ⟨h.tidy, fun id hid => ?_⟩
  have hbooking : s₀.world.bookings.findById id = none :=
    Collection.findById_eq_none.2 fun b hb (he : b.id = id) => h.bookings b hb (he ▸ hid)
  have hmeeting : s₀.world.meetings.findByKey id = none :=
    Collection.findByKey_eq_none.2 fun m hm he => h.meetings m hm (Option.some.inj he ▸ hid)
  have hevents : s₀.world.events.filter (fun e => e.bookingId = id) = [] :=
    List.filter_eq_nil_iff.2 fun e he heq => h.events e he (of_decide_eq_true heq ▸ hid)
  have hjobs : s₀.world.meetingQueue.filter (fun j => j.bookingId = id) = [] :=
    List.filter_eq_nil_iff.2 fun j hj heq => h.meetingQueue j hj (of_decide_eq_true heq ▸ hid)
  simp only [Desk.file, World.appointment, World.jobs, hbooking, hmeeting, hevents, hjobs,
    h.running id hid, List.map_nil, Option.map_none]
  exact .blank

theorem converged_of_shows {w : World} (h : (w.appointment b.id).Shows b.id b.mirror) :
    Converged w b := by
  have hstored : ∀ {m}, (w.appointment b.id).meeting = some m → m ∈ w.meetings ∧
      m.bookingId = b.id := fun hm =>
    have hfound := Collection.findByKey_eq_some.1 hm
    ⟨hfound.1, Option.some.inj hfound.2⟩
  refine ⟨fun hstatus => ?_, fun hstatus => ?_⟩
  · rw [Booking.mirror_of_ne hstatus] at h
    obtain ⟨m, target, hm, hnames, hs, ht, hevents⟩ := h.exists_names
    obtain ⟨hmem, hkey⟩ := hstored hm
    exact ⟨m, hmem, target.1, hkey, hnames.status, hnames.event, hs, ht, hevents⟩
  · rw [Booking.mirror_of_cancelled hstatus] at h
    generalize ha : w.appointment b.id = a at h
    cases h with
    | @removed m hcancelled =>
      obtain ⟨hmem, hkey⟩ := hstored (congrArg Appointment.meeting ha)
      exact ⟨⟨m, hmem, hkey, hcancelled⟩, congrArg Appointment.events ha⟩

theorem Desk.InOrder.converged (h : s.InOrder D) (hid : b.id ∈ D) (hb : b ∈ s.world.bookings)
    (hdrained : s.Drained b.id) : Converged s.world b := by
  have hstored : s.world.bookings.findById b.id = some b := Collection.findById_of_mem hb
  rcases (h.files b.id hid).cases with hblank | ⟨b', v, hb', -, hlook, hdue, -⟩
  · cases hstored.symm.trans (congrArg File.booking hblank)
  obtain rfl : b = b' := Option.some.inj (hstored.symm.trans hb')
  have hjobs : (s.file b.id).jobs = [] := by
    simp only [Desk.file, World.jobs, List.map_eq_nil_iff, List.filter_eq_nil_iff,
      decide_eq_true_eq]
    exact hdrained.1
  have hstage : (s.file b.id).stage = none := by
    simp only [Desk.file, hdrained.2, Option.map_none]
  rw [hjobs] at hdue
  rw [hstage] at hlook
  obtain rfl := hdue.settled
  exact converged_of_shows hlook

/-- **The calendar converges.**  In every run of booking services and retries in which the worker
runs the jobs of each booking one at a time and in the order they were queued, and no provider or
queue call fails, the calendar agrees with a booking whenever none of its jobs is left. -/
theorem calendar_converges (h₀ : s₀.Unused D) (hD : ∀ a ∈ as, ∀ id ∈ a.serves, id ∈ D)
    (ho : ∀ a ∈ as, ∀ o ∈ a.oracle, o.Answers) (hrun : (worker cal).run s₀ as = some s)
    (hid : b.id ∈ D) (hb : b ∈ s.world.bookings) (hdrained : s.Drained b.id) :
    Converged s.world b := by
  have hinv : s.InOrder D := Machine.run_invariant
    (fun _ _ _ h hG hstep => inOrder_step h hG.1 hG.2 hstep) h₀.inOrder
    ((Machine.meets_of_forall_mem hD).and (Machine.meets_of_forall_mem ho)) hrun
  exact hinv.converged hid hb hdrained

end Run

/-! ### A booking that moves before its conference exists -/

/-- Client 2 books nine o'clock and moves to ten before the worker takes the first job; then both
jobs run. -/
def movedEarlyRun : List WorkerAction :=
  [.call (.createBooking (answering 1 1) ⟨2, .user⟩ (slotAt mondayNine)),
    .call (.rescheduleBooking (answering 2 1) ⟨2, .user⟩ 1 ⟨addMinutes mondayNine 60, none⟩),
    .take 1] ++ List.replicate 5 (.exec 1 (answering 2 1)) ++
  .take 1 :: List.replicate 4 (.exec 1 (answering 3 2))

/-- Nothing is in flight over the Monday schedule. -/
def mondayDesk : Desk := ⟨mondayWorld, fun _ => none⟩

theorem mondayDesk_unused (D : Set ObjectId) : mondayDesk.Unused D where
  tidy := ⟨fun _ h => absurd h List.not_mem_nil, fun _ h => absurd h List.not_mem_nil, .nil⟩
  bookings _ h := absurd h List.not_mem_nil
  meetings _ h := absurd h List.not_mem_nil
  events _ h := absurd h List.not_mem_nil
  meetingQueue _ h := absurd h List.not_mem_nil
  running _ _ := rfl

theorem movedEarlyRun_isSome :
    ((worker utcCalendar).run mondayDesk movedEarlyRun).isSome = true := by decide +kernel

/-- The event is at ten. -/
theorem calendar_converges_movedEarly :
    let s := ((worker utcCalendar).run mondayDesk movedEarlyRun).get movedEarlyRun_isSome
    s.world.events = [⟨1, 1, addMinutes mondayNine 60, addMinutes mondayNine 120⟩] ∧
      ∀ b ∈ s.world.bookings, Converged s.world b := by
  intro s
  have hdrained : ∀ b ∈ s.world.bookings, s.Drained b.id := by decide +kernel
  refine ⟨by decide +kernel, fun b hb => ?_⟩
  exact calendar_converges (mondayDesk_unused Set.univ) (fun _ _ _ _ => trivial) (by decide)
    (Option.some_get movedEarlyRun_isSome).symm trivial hb (hdrained b hb)

end HrBooking
