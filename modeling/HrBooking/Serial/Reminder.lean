import HrBooking.Booking.Reminder
import HrBooking.Machine.Since
import HrBooking.Serial.Worker

/-!
# One reminder for each booking

The booking services and the sweep run one after another, every queue answers, and a reminder runs
when it is due.  The job identity of a booking is used again each time the booking is moved; that
works because a move removes the old job first, also one that has run.

* `agenda` : the machine.
* `ReminderEffect`, `agenda_step_cases` : what a service does to the reminders, and an action.
* `Agenda.Tidy` : the queue belongs to the stored bookings, and nobody is late.
* `Agenda.Reminded` : a booking has its reminder exactly as long as it should.
* `reminders_exact` : so it is in every run.
* `agenda_inOrder` : and the runs of requests at the same time may start from there.
-/

namespace HrBooking

/-! ### The machine -/

/-- The actions next to the reminders, and theirs. -/
inductive AgendaAction where
  /-- a service call -/
  | call (a : SerialAction)
  /-- the worker runs a reminder, finding these users -/
  | remind (users : List Recipient) (job : ReminderJob)
  /-- a reminder that has run leaves the queue -/
  | discard (job : ReminderJob)

/-- The time does not pass a reminder, and no meeting is worked on. -/
def Agenda.Admits (s : Agenda) : SerialAction → Prop
  | .advance ms => ∀ job ∈ s.pending, s.world.now + ms ≤ job.dueAt
  | a => a.isMeetingCall = false

instance (s : Agenda) (a : SerialAction) : Decidable (s.Admits a) :=
  match a with
  | .advance ms => inferInstanceAs (Decidable (∀ job ∈ s.pending, s.world.now + ms ≤ job.dueAt))
  | .createBooking .. | .cancelBooking .. | .rescheduleBooking .. | .retryBookingMeeting ..
  | .runJob .. | .updateAvailability .. | .setProfiles .. | .sweep =>
    inferInstanceAs (Decidable (_ = false))

/-- One action. -/
def Agenda.step (cal : TimezoneName → Calendar) (s : Agenda) : AgendaAction → Option Agenda
  | .call a => if s.Admits a then (a.exec cal s.world).map fun world => { s with world } else none
  | .remind users job =>
    if job ∈ s.pending ∧ job.dueAt ≤ s.world.now then some (s.remind users job) else none
  | .discard job => if job ∈ s.taken then some (s.discard job) else none

/-- The services and the reminders as a machine. -/
def agenda (cal : TimezoneName → Calendar) : Machine Agenda AgendaAction := ⟨Agenda.step cal⟩

/-- Every queue answers the call. -/
def SerialAction.QueuesAnswer (a : SerialAction) : Prop :=
  ∀ o ∈ a.oracle, o.QueuesAnswer ∧ o.reminderRemoveFails = false

instance (a : SerialAction) : Decidable a.QueuesAnswer :=
  inferInstanceAs (Decidable (∀ o ∈ a.oracle, _))

/-- Every queue answers the action. -/
def AgendaAction.QueuesAnswer : AgendaAction → Prop
  | call a => a.QueuesAnswer
  | _ => True

instance (a : AgendaAction) : Decidable a.QueuesAnswer :=
  match a with
  | .call a => inferInstanceAs (Decidable a.QueuesAnswer)
  | .remind .. | .discard _ => inferInstanceAs (Decidable True)

/-- The booking a call answers with after it has created or moved it. -/
def SerialAction.places (cal : TimezoneName → Calendar) (w : World) : SerialAction → Option Booking
  | createBooking o actor input => (HrBooking.createBooking cal o actor input w).1.toOption
  | rescheduleBooking o actor bookingId input =>
    (HrBooking.rescheduleBooking cal o actor bookingId input w).1.toOption
  | _ => none

/-- The action creates the booking or moves it. -/
def AgendaAction.Places (cal : TimezoneName → Calendar) (id : ObjectId) (s : Agenda) :
    AgendaAction → Prop
  | call a => ∃ b ∈ a.places cal s.world, b.id = id
  | _ => False

/-- The action runs the reminder of the booking. -/
def AgendaAction.Fires (id : ObjectId) : AgendaAction → Prop
  | remind _ job => job.bookingId = id
  | _ => False

/-- The action creates the booking or moves it, early enough for a reminder before its start. -/
def AgendaAction.PlacesEarly (cal : TimezoneName → Calendar) (b : Booking) (s : Agenda)
    (a : AgendaAction) : Prop :=
  a.Places cal b.id s ∧ s.world.now < b.startAt - reminderLeadMs

/-- The action neither places the booking nor runs its reminder. -/
def AgendaAction.Spares (cal : TimezoneName → Calendar) (id : ObjectId) (s : Agenda)
    (a : AgendaAction) : Prop :=
  ¬ a.Places cal id s ∧ ¬ a.Fires id

/-! ### What a call does -/

/-- The stored bookings afterwards are those from before, with `b` in the place of the one of its
identity. -/
def Writes (c : Collection Booking) (b : Booking) (c' : Collection Booking) : Prop :=
  ∀ e, e ∈ c' ↔ e = b ∨ e ∈ c ∧ e.id ≠ b.id

/-- What a call does to the bookings and to the queue of the reminders. -/
inductive ReminderEffect (cal : TimezoneName → Calendar) (w : World) (a : SerialAction)
    (w' : World) : Prop
  | placed (b : Booking) (h : a.places cal w = some b) (hactive : b.isActive)
      (hlt : b.startAt < b.endAt) (hnow : w'.now = w.now)
      (hwrites : Writes w.bookings b w'.bookings)
      (hqueue : w'.reminderQueue =
        withReminder w.now b.id b.startAt (withoutReminder b.id w.reminderQueue))
  | cancelled (b : Booking) (h : a.places cal w = none) (hactive : ¬ b.isActive)
      (hwrites : Writes w.bookings b w'.bookings)
      (hqueue : w'.reminderQueue = withoutReminder b.id w.reminderQueue)
  | swept (h : a.places cal w = none)
      (hstored : ∀ b ∈ w'.bookings,
        b ∈ w.bookings ∨ ∃ d ∈ w.bookings, isDue w.now d ∧ d.complete = b)
      (hkept : ∀ b ∈ w.bookings, ∃ b' ∈ w'.bookings, b'.id = b.id)
      (hqueue : w'.reminderQueue = w.reminderQueue)

section Calls

variable {cal : TimezoneName → Calendar} {o : Oracle} {w w' : World} {a : SerialAction}

theorem ReminderEffect.quiet (h : a.places cal w = none) (hbookings : w'.bookings = w.bookings)
    (hqueue : w'.reminderQueue = w.reminderQueue) : ReminderEffect cal w a w' :=
  .swept h (fun _ hb => .inl (hbookings ▸ hb)) (fun b hb => ⟨b, hbookings ▸ hb, rfl⟩) hqueue

theorem writes_update {c c' : Collection Booking} {d : Booking} {f : Booking → Booking}
    (hd : d ∈ c) (hf : (f d).id = d.id) (h : c.update d.id f = some c') : Writes c (f d) c' := by
  intro e
  rw [Collection.mem_update h]
  constructor
  · rintro (⟨he, hne⟩ | ⟨d', hd', hid, rfl⟩)
    · exact .inr ⟨he, hf.symm ▸ hne⟩
    · obtain rfl := Collection.eq_of_docId hd' hd hid
      exact .inl rfl
  · rintro (rfl | ⟨he, hne⟩)
    · exact .inr ⟨d, hd, rfl, rfl⟩
    · exact .inl ⟨he, hf ▸ hne⟩

theorem withoutReminder_of_stored {id : ObjectId} (hnamed : Named w.reminderQueue)
    (hstored : ∀ job ∈ w.reminderQueue, ∃ b ∈ w.bookings, b.id = job.bookingId)
    (hnew : ∀ b ∈ w.bookings, b.id ≠ id) :
    withoutReminder id w.reminderQueue = w.reminderQueue := by
  refine List.filter_eq_self.2 fun job hjob => ?_
  rw [decide_eq_true_iff, Ne, hnamed.jobId_iff hjob]
  rintro rfl
  obtain ⟨b, hb, hid⟩ := hstored job hjob
  exact hnew b hb hid

theorem createBooking_reminds (hanswers : o.QueuesAnswer) (hnamed : Named w.reminderQueue)
    (hstored : ∀ job ∈ w.reminderQueue, ∃ b ∈ w.bookings, b.id = job.bookingId) (actor : Actor)
    (input : CreateBookingInput) :
    ReminderEffect cal w (.createBooking o actor input) (createBooking cal o actor input w).2 := by
  rcases createBooking_cases cal o w actor input with
    ⟨⟨e, w₁, hrun, hw₁⟩, -⟩ | ⟨args, c, hargs, hins, hrun⟩
  · refine .quiet (by simp only [SerialAction.places, hrun]; rfl) ?_ ?_ <;>
    · rw [hrun]
      rcases hw₁ with rfl | rfl <;> rfl
  · rw [Service.bind_of_ok (dispatchBookingCreated_of_answers hanswers ..)] at hrun
    obtain ⟨profile, -, hoffered, -, -⟩ := createArgs_eq_ok.1 hargs
    have hwell := newBooking_wellFormed o.newId (offeredArgs_sound hoffered)
    have hnew : ∀ b ∈ w.bookings, b.id ≠ o.newId := fun b hb =>
      ((Collection.insert_eq_some.1 hins).1 b hb).1
    refine .placed (newBooking o.newId args) ?_ (newBooking_isActive ..) hwell.lt ?_ ?_ ?_
    · simp only [SerialAction.places, hrun]
      rfl
    · rw [hrun]
      rfl
    · intro e
      rw [hrun, show (_ : World).bookings = c from rfl, Collection.mem_insert hins]
      constructor
      · rintro (he | rfl)
        · exact .inr ⟨he, hnew e he⟩
        · exact .inl rfl
      · rintro (rfl | ⟨he, -⟩)
        · exact .inr rfl
        · exact .inl he
    · have hfree := withoutReminder_of_stored hnamed hstored hnew
      rw [hrun, show withoutReminder (newBooking o.newId args).id _ = _ from hfree]
      rfl

theorem rescheduleBooking_reminds (hanswers : o.QueuesAnswer)
    (hremove : o.reminderRemoveFails = false) (actor : Actor) (id : ObjectId)
    (input : RescheduleBookingInput) :
    ReminderEffect cal w (.rescheduleBooking o actor id input)
      (rescheduleBooking cal o actor id input w).2 := by
  rcases rescheduleBooking_cases cal o w actor id input with
    ⟨⟨e, hrun⟩, -⟩ | ⟨args, c, hargs, hmem, -, hactive, hupd, hrun⟩
  · refine .quiet (by simp only [SerialAction.places, hrun]; rfl) ?_ ?_ <;> rw [hrun]
  · rw [Service.bind_of_ok (dispatchBookingRescheduled_of_answers hanswers hremove ..)] at hrun
    obtain ⟨b, role, -, -, hrole, hmove, -, -⟩ := rescheduleArgs_eq_ok.1 hargs
    obtain ⟨-, -, -, -, hne⟩ := assertReschedulable_eq_ok.1 hrole
    obtain ⟨hsound, rfl⟩ := moveArgs_sound hmove hne
    have hlt : args.startAt < args.endAt := by
      rw [hsound.endAt_eq]
      exact lt_addMinutes (le_trans (by decide) args.availability.slotDurationMinutes.pos)
    refine .placed (args.apply args.booking) ?_ hactive hlt ?_ ?_ ?_
    · simp only [SerialAction.places, hrun]
      rfl
    · rw [hrun]
      rfl
    · rw [hrun]
      exact writes_update hmem rfl hupd
    · rw [hrun]
      rfl

theorem cancelBooking_reminds (hanswers : o.QueuesAnswer) (hremove : o.reminderRemoveFails = false)
    (actor : Actor) (id : ObjectId) (reason : Option String) :
    ReminderEffect cal w (.cancelBooking o actor id reason)
      (cancelBooking o actor id reason w).2 := by
  rcases cancelBooking_cases o w actor id reason with
    ⟨⟨e, hrun⟩, -⟩ | ⟨b, role, c, -, hmem, -, hactive, hupd, hrun⟩
  · refine .quiet rfl ?_ ?_ <;> rw [hrun]
  · obtain ⟨auditLog, hrecord⟩ := recordCancellation_eq_ok (o := o)
      (w := { w with bookings := c }) actor role (b.cancel w.now role reason) reason
    rw [Service.bind_of_ok hrecord,
      Service.bind_of_ok (dispatchBookingCancelled_of_answers hanswers hremove ..)] at hrun
    refine .cancelled (b.cancel w.now role reason) rfl (Booking.not_isActive_cancelled rfl) ?_ ?_
    · rw [hrun]
      have hwrites := writes_update hmem rfl hupd
      rwa [saveCancelled_self] at hwrites
    · rw [hrun]
      rfl

/-- **What a service does to the reminders.** -/
theorem reminds_of_step (ha : a.isMeetingCall = false) (hanswers : a.QueuesAnswer)
    (hnamed : Named w.reminderQueue)
    (hstored : ∀ job ∈ w.reminderQueue, ∃ b ∈ w.bookings, b.id = job.bookingId)
    (h : (serial cal).step w a = some w') : ReminderEffect cal w a w' := by
  cases a with
  | createBooking o actor input =>
    obtain ⟨-, rfl⟩ := Service.after_eq_some.1 h
    exact createBooking_reminds (hanswers o rfl).1 hnamed hstored actor input
  | cancelBooking o actor id reason =>
    obtain ⟨-, rfl⟩ := Service.after_eq_some.1 h
    exact cancelBooking_reminds (hanswers o rfl).1 (hanswers o rfl).2 actor id reason
  | rescheduleBooking o actor id input =>
    obtain ⟨-, rfl⟩ := Service.after_eq_some.1 h
    exact rescheduleBooking_reminds (hanswers o rfl).1 (hanswers o rfl).2 actor id input
  | retryBookingMeeting | runJob => cases ha
  | updateAvailability | setProfiles | advance =>
    cases h
    exact .quiet rfl rfl rfl
  | sweep =>
    cases h
    refine .swept rfl (fun b hb => mem_lifecycleSweep hb) (fun b hb => ?_) rfl
    obtain ⟨b', hb', hid, -⟩ := lifecycleSweep_keepsProviders w b hb
    exact ⟨b', hb', hid⟩

theorem serial_now (ha : a.isMeetingCall = false) (h : (serial cal).step w a = some w') :
    w'.now = w.now ∨ ∃ ms, a = .advance ms ∧ w'.now = w.now + ms := by
  cases a with
  | createBooking o actor input =>
    obtain ⟨-, rfl⟩ := Service.after_eq_some.1 h
    obtain ⟨w₁, hwrite, hsame⟩ := createBooking_writes (w := w) actor input
    exact .inl (hsame.now.trans hwrite.now_eq)
  | cancelBooking o actor id reason =>
    obtain ⟨-, rfl⟩ := Service.after_eq_some.1 h
    obtain ⟨w₁, hwrite, hsame⟩ := cancelBooking_writes (w := w) actor id reason
    exact .inl (hsame.now.trans hwrite.now_eq)
  | rescheduleBooking o actor id input =>
    obtain ⟨-, rfl⟩ := Service.after_eq_some.1 h
    obtain ⟨w₁, hwrite, hsame⟩ := rescheduleBooking_writes (w := w) cal actor id input
    exact .inl (hsame.now.trans hwrite.now_eq)
  | retryBookingMeeting | runJob => cases ha
  | updateAvailability | setProfiles | sweep =>
    cases h
    exact .inl rfl
  | advance ms =>
    cases h
    exact .inr ⟨ms, rfl, rfl⟩

end Calls

/-! ### The invariant -/

/-- The queue belongs to the stored bookings, what has run was due, and nobody is late. -/
structure Agenda.Tidy (s : Agenda) : Prop where
  named : Named s.world.reminderQueue
  stored : ∀ job ∈ s.world.reminderQueue, ∃ b ∈ s.world.bookings, b.id = job.bookingId
  taken : ∀ job ∈ s.taken, job.dueAt ≤ s.world.now
  pending : ∀ job ∈ s.pending, s.world.now ≤ job.dueAt

/-- A booking has its reminder when it is active and expects one, and none otherwise. -/
structure Agenda.Reminded (s : Agenda) (b : Booking) (expected : Prop) : Prop where
  one : b.isActive ∧ expected → s.remindersOf b.id = [b.reminder]
  none : ¬ (b.isActive ∧ expected) → s.remindersOf b.id = []
  lt : b.isActive ∧ expected → b.startAt < b.endAt

section Invariant

variable {cal : TimezoneName → Calendar} {s s' : Agenda} {a : AgendaAction}

/-- What an action does. -/
inductive AgendaStep (cal : TimezoneName → Calendar) (s : Agenda) : AgendaAction → Agenda → Prop
  | call {a : SerialAction} {w : World} (heffect : ReminderEffect cal s.world a w)
      (hnow : s.world.now ≤ w.now) (hontime : ∀ job ∈ s.pending, w.now ≤ job.dueAt) :
      AgendaStep cal s (.call a) { s with world := w }
  | remind (users : List Recipient) {job : ReminderJob} (hjob : job ∈ s.pending)
      (hdue : job.dueAt ≤ s.world.now) : AgendaStep cal s (.remind users job) (s.remind users job)
  | discard {job : ReminderJob} (hjob : job ∈ s.taken) :
      AgendaStep cal s (.discard job) (s.discard job)

theorem Agenda.Admits.isMeetingCall {a : SerialAction} (h : s.Admits a) :
    a.isMeetingCall = false := by
  cases a with
  | advance => rfl
  | _ => exact h

/-- **The effect of an action.** -/
theorem agenda_step_cases (hs : s.Tidy) (hanswers : a.QueuesAnswer)
    (h : (agenda cal).step s a = some s') : AgendaStep cal s a s' := by
  cases a with
  | call a =>
    obtain ⟨hadmits, h⟩ := Option.ite_none_right_eq_some.1 h
    obtain ⟨w, hw, rfl⟩ := Option.map_eq_some_iff.1 h
    have ha := hadmits.isMeetingCall
    refine .call (reminds_of_step ha hanswers hs.named hs.stored hw) ?_ ?_
    · rcases serial_now ha hw with hnow | ⟨ms, -, hnow⟩ <;> omega
    · intro job hjob
      rcases serial_now ha hw with hnow | ⟨ms, rfl, hnow⟩
      · exact hnow ▸ hs.pending job hjob
      · exact hnow ▸ hadmits job hjob
  | remind users job =>
    obtain ⟨⟨hjob, hdue⟩, h⟩ := Option.ite_none_right_eq_some.1 h
    cases h
    exact .remind users hjob hdue
  | discard job =>
    obtain ⟨hjob, h⟩ := Option.ite_none_right_eq_some.1 h
    cases h
    exact .discard hjob

theorem Agenda.Reminded.congr {b : Booking} {expected expected' : Prop}
    (h : s.Reminded b expected) (hiff : expected ↔ expected')
    (hsame : s'.remindersOf b.id = s.remindersOf b.id) : s'.Reminded b expected' := by
  rw [← hiff]
  exact ⟨fun hb => hsame.trans (h.one hb), fun hb => hsame.trans (h.none hb), h.lt⟩

theorem Agenda.Reminded.of_inactive {b : Booking} {expected : Prop} (h : ¬ b.isActive)
    (hnone : s.remindersOf b.id = []) : s.Reminded b expected :=
  ⟨fun hb => absurd hb.1 h, fun _ => hnone, fun hb => absurd hb.1 h⟩

theorem ReminderEffect.mem_queue {w w' : World} {a : SerialAction}
    (h : ReminderEffect cal w a w') (hnamed : Named w.reminderQueue)
    (hstored : ∀ job ∈ w.reminderQueue, ∃ b ∈ w.bookings, b.id = job.bookingId) :
    ∀ job ∈ w'.reminderQueue,
      (job ∈ w.reminderQueue ∨
        job.jobId = reminderJobId job.bookingId ∧ w'.now ≤ job.dueAt) ∧
        ∃ b ∈ w'.bookings, b.id = job.bookingId := by
  have hothers : ∀ {b : Booking}, Writes w.bookings b w'.bookings →
      ∀ job ∈ withoutReminder b.id w.reminderQueue,
        job ∈ w.reminderQueue ∧ ∃ b ∈ w'.bookings, b.id = job.bookingId := by
    intro b hwrites job hjob
    obtain ⟨hold, hne⟩ := (mem_withoutReminder hnamed).1 hjob
    obtain ⟨d, hd, hid⟩ := hstored job hold
    exact ⟨hold, d, (hwrites d).2 (.inr ⟨hd, hid ▸ hne⟩), hid⟩
  intro job hjob
  cases h with
  | placed b hplaces hactive hlt hnow hwrites hqueue =>
    rw [hqueue] at hjob
    rcases mem_withReminder hjob with hjob | ⟨rfl, hlate⟩
    · obtain ⟨hold, hb⟩ := hothers hwrites job hjob
      exact ⟨.inl hold, hb⟩
    · exact ⟨.inr ⟨rfl, hnow ▸ hlate.le⟩, b, (hwrites b).2 (.inl rfl), rfl⟩
  | cancelled b hplaces hinactive hwrites hqueue =>
    rw [hqueue] at hjob
    obtain ⟨hold, hb⟩ := hothers hwrites job hjob
    exact ⟨.inl hold, hb⟩
  | swept hplaces hbookings hkept hqueue =>
    rw [hqueue] at hjob
    obtain ⟨d, hd, hid⟩ := hstored job hjob
    obtain ⟨b', hb', hid'⟩ := hkept d hd
    exact ⟨.inl hjob, b', hb', hid'.trans hid⟩

theorem AgendaStep.tidy (hs : s.Tidy) (h : AgendaStep cal s a s') : s'.Tidy := by
  cases h with
  | @call a w heffect hnow hontime =>
    have htaken : ∀ job ∈ s.taken, job.dueAt ≤ w.now := fun job hjob =>
      (hs.taken job hjob).trans hnow
    have hqueue := heffect.mem_queue hs.named hs.stored
    refine ⟨?_, fun job hjob => (hqueue job hjob).2, htaken, ?_⟩
    · intro job hjob
      rcases (hqueue job hjob).1 with hold | ⟨hname, -⟩
      · exact hs.named job hold
      · exact hname
    · -- a reminder that stays pending has been on time before, and a new one is early
      intro job hjob
      obtain ⟨hjob, hnot⟩ := Agenda.mem_pending.1 hjob
      rcases (hqueue job hjob).1 with hold | ⟨-, hlate⟩
      · exact hontime job (Agenda.mem_pending.2 ⟨hold, hnot⟩)
      · exact hlate
  | remind users hjob hdue =>
    refine ⟨hs.named, hs.stored, ?_, ?_⟩
    · intro j hj
      rcases List.mem_cons.1 hj with rfl | hj
      · exact hdue
      · exact hs.taken j hj
    · intro j hj
      obtain ⟨hj, hnot⟩ := Agenda.mem_pending.1 hj
      exact hs.pending j (Agenda.mem_pending.2 ⟨hj, fun hmem => hnot (List.mem_cons_of_mem _ hmem)⟩)
  | discard hjob =>
    refine ⟨?_, ?_, hs.taken, ?_⟩
    · intro j hj
      exact hs.named j (List.mem_filter.1 hj).1
    · intro j hj
      exact hs.stored j (List.mem_filter.1 hj).1
    · intro j hj
      obtain ⟨hj, hnot⟩ := Agenda.mem_pending.1 hj
      exact hs.pending j (Agenda.mem_pending.2 ⟨(List.mem_filter.1 hj).1, hnot⟩)

theorem spares_of_places {a : SerialAction} {id : ObjectId}
    (h : a.places cal s.world = none) : (AgendaAction.call a).Spares cal id s := by
  refine ⟨?_, False.elim⟩
  rintro ⟨b, hb, -⟩
  cases h.symm.trans hb

theorem AgendaAction.expects_iff {b : Booking} {expected : Prop} (h : a.Spares cal b.id s) :
    expected ↔ a.PlacesEarly cal b s ∨ expected ∧ a.Spares cal b.id s := by
  constructor
  · intro hexpected
    exact .inr ⟨hexpected, h⟩
  · rintro (hplaces | ⟨hexpected, -⟩)
    · exact absurd hplaces.1 h.1
    · exact hexpected

/-- **The reminders after a call**, from those before. -/
theorem ReminderEffect.reminded {w : World} {a : SerialAction} {expected : Booking → Prop}
    (hs : s.Tidy) (hall : ∀ d ∈ s.world.bookings, s.Reminded d (expected d))
    (h : ReminderEffect cal s.world a w) :
    ∀ b ∈ w.bookings, Agenda.Reminded { s with world := w } b
      ((AgendaAction.call a).PlacesEarly cal b s ∨
        expected b ∧ (AgendaAction.call a).Spares cal b.id s) := by
  intro b hb
  -- the queue of a booking changes with its own placement or cancellation only
  cases h with
  | placed n hplaces hactive hlt hnow hwrites hqueue =>
    have hafter : ∀ id, Agenda.remindersOf { s with world := w } id =
        if id = n.id then if s.world.now < n.startAt - reminderLeadMs then [n.reminder] else []
        else s.remindersOf id := by
      intro id
      rw [Agenda.remindersOf, show (_ : World).reminderQueue = _ from hqueue]
      exact remindersIn_rescheduled hs.named hs.taken
    rcases (hwrites b).1 hb with rfl | ⟨hold, hne⟩
    · -- the booking that was placed: its reminder is a new one
      have hits : (AgendaAction.call a).Places cal b.id s := ⟨b, hplaces, rfl⟩
      have hlast : Agenda.remindersOf { s with world := w } b.id =
          if s.world.now < b.startAt - reminderLeadMs then [b.reminder] else [] := by
        rw [hafter, if_pos rfl]
      refine ⟨fun hexpects => ?_, fun hnot => ?_, fun _ => hlt⟩
      · rcases hexpects.2 with hearly | ⟨-, hspares⟩
        · rw [hlast, if_pos hearly.2]
        · exact absurd hits hspares.1
      · rw [hlast, if_neg fun hearly => hnot ⟨hactive, .inl ⟨hits, hearly⟩⟩]
    · have hspares : (AgendaAction.call a).Spares cal b.id s := by
        refine ⟨?_, id⟩
        rintro ⟨n', hn', hid⟩
        cases hplaces.symm.trans hn'
        exact hne hid.symm
      refine (hall b hold).congr (AgendaAction.expects_iff hspares) ?_
      rw [hafter, if_neg hne]
  | cancelled n hplaces hinactive hwrites hqueue =>
    have hafter : ∀ id, Agenda.remindersOf { s with world := w } id =
        if id = n.id then [] else s.remindersOf id := by
      intro id
      rw [Agenda.remindersOf, show (_ : World).reminderQueue = _ from hqueue]
      exact remindersIn_withoutReminder hs.named
    rcases (hwrites b).1 hb with rfl | ⟨hold, hne⟩
    · exact .of_inactive hinactive (by rw [hafter, if_pos rfl])
    · refine (hall b hold).congr (AgendaAction.expects_iff (spares_of_places hplaces)) ?_
      rw [hafter, if_neg hne]
  | swept hplaces hstored hkept hqueue =>
    have hafter : ∀ id, Agenda.remindersOf { s with world := w } id = s.remindersOf id := by
      intro id
      rw [Agenda.remindersOf, show (_ : World).reminderQueue = _ from hqueue]
      rfl
    rcases hstored b hb with hold | ⟨d, hd, hdue, rfl⟩
    · exact (hall b hold).congr (AgendaAction.expects_iff (spares_of_places hplaces)) (hafter _)
    · -- the reminder of a booking that is over was due before
      refine .of_inactive d.complete_not_isActive ((hafter _).trans ?_)
      by_cases hexpects : d.isActive ∧ expected d
      · have hone := (hall d hd).one hexpects
        have hmem : d.reminder ∈ s.remindersOf d.id := by rw [hone]; exact List.mem_singleton_self _
        have hlate := hs.pending _ (Agenda.mem_remindersOf.1 hmem).1
        have hlt := (hall d hd).lt hexpects
        have hover := hdue.2
        simp only [Booking.reminder, reminderLeadMs] at hlate
        omega
      · exact (hall d hd).none hexpects

/-- **The reminders after an action**, from those before. -/
theorem AgendaStep.reminded {expected : Booking → Prop} (hs : s.Tidy)
    (hall : ∀ d ∈ s.world.bookings, s.Reminded d (expected d)) (h : AgendaStep cal s a s') :
    ∀ b ∈ s'.world.bookings, s'.Reminded b
      (a.PlacesEarly cal b s ∨ expected b ∧ a.Spares cal b.id s) := by
  cases h with
  | call heffect => exact heffect.reminded hs hall
  | @remind users job hjob hdue =>
    intro b hb
    have hafter : (s.remind users job).remindersOf b.id =
        (s.remindersOf b.id).filter fun j => j ≠ job := remindersIn_cons
    by_cases hid : job.bookingId = b.id
    · -- it was the reminder of this booking, and the only one
      have hmem : job ∈ s.remindersOf b.id := Agenda.mem_remindersOf.2 ⟨hjob, hid⟩
      have hnone : (s.remind users job).remindersOf b.id = [] := by
        by_cases hexpects : b.isActive ∧ expected b
        · rw [(hall b hb).one hexpects] at hmem hafter
          rw [hafter, List.mem_singleton.1 hmem]
          simp
        · rw [(hall b hb).none hexpects] at hmem
          cases hmem
      have hnot : ¬ ((AgendaAction.remind users job).PlacesEarly cal b s ∨
          expected b ∧ (AgendaAction.remind users job).Spares cal b.id s) := by
        rintro (hplaces | ⟨-, hspares⟩)
        · exact hplaces.1
        · exact hspares.2 hid
      exact ⟨fun h => absurd h.2 hnot, fun _ => hnone, fun h => absurd h.2 hnot⟩
    · refine (hall b hb).congr (AgendaAction.expects_iff ⟨id, hid⟩) (hafter.trans ?_)
      refine List.filter_eq_self.2 fun j hj => ?_
      rw [decide_eq_true_iff]
      rintro rfl
      exact hid (Agenda.mem_remindersOf.1 hj).2
  | @discard job hjob =>
    intro b hb
    exact (hall b hb).congr (AgendaAction.expects_iff ⟨id, id⟩) (remindersIn_discard hjob)

end Invariant

/-! ### Serial runs -/

section Runs

variable {cal : TimezoneName → Calendar} {s₀ s : Agenda} {as : List AgendaAction}

/-- The last creation or move of the booking came early enough for a reminder, and the reminder has
not run since. -/
def Expected (cal : TimezoneName → Calendar) (s₀ : Agenda) (as : List AgendaAction) (b : Booking) :
    Prop :=
  (agenda cal).Since (fun s a => a.PlacesEarly cal b s) (fun s a => a.Spares cal b.id s) s₀ as

theorem agenda_run (hqueue : s₀.world.reminderQueue = []) (htaken : s₀.taken = [])
    (hanswers : (agenda cal).Meets (fun _ a => a.QueuesAnswer) s₀ as)
    (hrun : (agenda cal).run s₀ as = some s) :
    s.Tidy ∧ ∀ b ∈ s.world.bookings, s.Reminded b (Expected cal s₀ as b) := by
  refine Machine.run_history
    (I := fun as s => s.Tidy ∧ ∀ b ∈ s.world.bookings, s.Reminded b (Expected cal s₀ as b))
    ?_ (fun pre a t t' hpre ht hGa hstep => ?_) hanswers hrun
  · have hempty : ∀ job, job ∉ s₀.world.reminderQueue := by simp [hqueue]
    refine ⟨⟨?_, ?_, by simp [htaken], ?_⟩, fun b _ => ?_⟩
    · exact fun job hjob => absurd hjob (hempty job)
    · exact fun job hjob => absurd hjob (hempty job)
    · exact fun job hjob => absurd (Agenda.mem_pending.1 hjob).1 (hempty job)
    · have hnever : ¬ Expected cal s₀ [] b := Machine.not_since_nil
      refine ⟨fun h => absurd h.2 hnever, fun _ => ?_, fun h => absurd h.2 hnever⟩
      exact remindersIn_eq_nil fun job hjob => absurd hjob (hempty job)
  · have hcases := agenda_step_cases ht.1 hGa hstep
    refine ⟨hcases.tidy ht.1, fun b hb => ?_⟩
    refine (hcases.reminded ht.1 ht.2 b hb).congr ?_ rfl
    exact (Machine.since_concat hpre hstep).symm

/-- What a serial run leaves is in order: requests and reminders may go on from there at the same
time. -/
theorem agenda_inOrder (hqueue : s₀.world.reminderQueue = []) (htaken : s₀.taken = [])
    (hanswers : (agenda cal).Meets (fun _ a => a.QueuesAnswer) s₀ as)
    (hrun : (agenda cal).run s₀ as = some s) : s.InOrder := by
  obtain ⟨htidy, hreminded⟩ := agenda_run hqueue htaken hanswers hrun
  refine ⟨htidy.named, fun job hjob b hb hid _ => ?_⟩
  have hmem : job ∈ s.remindersOf b.id := Agenda.mem_remindersOf.2 ⟨hjob, hid.symm⟩
  by_cases hexpects : b.isActive ∧ Expected cal s₀ as b
  · rw [(hreminded b hb).one hexpects] at hmem
    obtain rfl := List.mem_singleton.1 hmem
    exact le_refl _
  · rw [(hreminded b hb).none hexpects] at hmem
    cases hmem

/-- **One reminder for each booking**: in every serial run from an empty queue in which every queue
answers, a booking has a reminder to come exactly when it is active, was last created or moved
early enough, and the reminder has not run since.  It is the only one, and due when it should. -/
theorem reminders_exact (hqueue : s₀.world.reminderQueue = []) (htaken : s₀.taken = [])
    (hanswers : (agenda cal).Meets (fun _ a => a.QueuesAnswer) s₀ as)
    (hrun : (agenda cal).run s₀ as = some s) :
    (∀ b ∈ s.world.bookings,
      (b.isActive ∧ Expected cal s₀ as b → s.remindersOf b.id = [b.reminder]) ∧
        (¬ (b.isActive ∧ Expected cal s₀ as b) → s.remindersOf b.id = [])) ∧
      ∀ job ∈ s.pending, ∃ b ∈ s.world.bookings, b.id = job.bookingId := by
  obtain ⟨htidy, hreminded⟩ := agenda_run hqueue htaken hanswers hrun
  refine ⟨fun b hb => ⟨(hreminded b hb).one, (hreminded b hb).none⟩, fun job hjob => ?_⟩
  exact htidy.stored job (Agenda.mem_pending.1 hjob).1

end Runs

/-! ### A move after the reminder -/

/-- Client 2 books a Monday slot, is reminded, and moves the booking to the next Monday. -/
def movedAfterReminder : List AgendaAction :=
  [.call (.createBooking (answering 1 1) ⟨2, .user⟩ (slotAt mondayNine)),
    .call (.advance (mondayNine - reminderLeadMs).toNat),
    .remind [⟨1, "consultant", "Ada", "Noor"⟩, ⟨2, "client", "Ben", "Osei"⟩]
      ⟨reminderJobId 1, 1, mondayNine - reminderLeadMs⟩,
    .call (.rescheduleBooking (answering 3 3) ⟨2, .user⟩ 1 ⟨addDays mondayNine 7, none⟩)]

/-- Nothing is queued over the Monday schedule. -/
def mondayAgenda : Agenda := ⟨mondayWorld, [], []⟩

theorem movedAfterReminder_isSome :
    ((agenda utcCalendar).run mondayAgenda movedAfterReminder).isSome = true := by decide +kernel

/-- The agenda after `movedAfterReminder`. -/
def remindedTwice : Agenda :=
  ((agenda utcCalendar).run mondayAgenda movedAfterReminder).get movedAfterReminder_isSome

/-- The first reminder has run, and after the move the booking has its second one. -/
theorem reminders_exact_movedAfterReminder :
    (remindedTwice.outbox.length = 2 ∧ remindedTwice.pending.length = 1) ∧
      (∀ b ∈ remindedTwice.world.bookings,
        (b.isActive ∧ Expected utcCalendar mondayAgenda movedAfterReminder b →
          remindedTwice.remindersOf b.id = [b.reminder]) ∧
          (¬ (b.isActive ∧ Expected utcCalendar mondayAgenda movedAfterReminder b) →
            remindedTwice.remindersOf b.id = [])) ∧
      ∀ job ∈ remindedTwice.pending, ∃ b ∈ remindedTwice.world.bookings, b.id = job.bookingId :=
  ⟨⟨by decide +kernel, by decide +kernel⟩, reminders_exact rfl rfl (by decide +kernel)
    (Option.some_get movedAfterReminder_isSome).symm⟩

end HrBooking
