import HrBooking.Booking.Service
import HrBooking.Slot.Schema

/-!
# Reminders

The reminder queue with its worker, `jobs/reminder.job.ts`.  A booking has one job identity for all
of its life, and a job that has been taken up keeps its place in the queue until it is removed, so
it still stands in the way of a new one.

* `reminderBooking`, `reminderMails` : what the worker reads, and what it sends.
* `withReminder`, `withoutReminder` : what a schedule and a removal make of the queue.
* `remindersIn_withReminder`, `remindersIn_withoutReminder` : and of the reminders of a booking.
* `Agenda` : the shared state, the jobs that have been taken up, and the e-mails of the worker.
-/

namespace HrBooking

/-! ### The worker -/

/-- What the worker reads of a participant. -/
structure Recipient where
  id : ObjectId
  email : String
  firstName : String
  lastName : String

/-- `BookingContext` of the templates. -/
structure BookingContext where
  bookingId : ObjectId
  recipientName : String
  counterpartName : String
  startAt : ℤ
  durationMinutes : ℕ
  priceCents : ℕ
  currency : Currency
  recipientTimezone : TimezoneName
  meetingUrl : Option String

/-- A reminder by e-mail : the address and what `buildBookingReminder` makes the text from. -/
structure ReminderMail where
  address : String
  context : BookingContext

/-- The name a participant is presented with to the other one. -/
def Recipient.fullName (recipient : Recipient) : String :=
  jsTrim (recipient.firstName ++ " " ++ recipient.lastName)

/-- The booking is active and not over. -/
def Booking.isRemindable (now : ℤ) (booking : Booking) : Prop :=
  booking.isActive ∧ now < booking.endAt

instance (now : ℤ) (booking : Booking) : Decidable (booking.isRemindable now) :=
  inferInstanceAs (Decidable (_ ∧ _))

/-- The booking the worker goes on with, if there is one. -/
def reminderBooking (bookingId : ObjectId) (w : World) : Option Booking :=
  (w.bookings.findById bookingId).filter fun booking => booking.isRemindable w.now

/-- The e-mail to one participant. -/
def reminderMail (booking : Booking) (meetingUrl : Option String) (recipient other : Recipient)
    (timezone : TimezoneName) : ReminderMail where
  address := recipient.email
  context := {
    bookingId := booking.id
    recipientName := recipient.firstName
    counterpartName := other.fullName
    startAt := booking.startAt
    durationMinutes := booking.durationMinutes
    priceCents := booking.priceCents
    currency := booking.currency
    recipientTimezone := timezone
    meetingUrl }

/-- The e-mails to both participants, if both are found. -/
def reminderMails (users : List Recipient) (meeting : Option Meeting) (booking : Booking) :
    List ReminderMail :=
  match users.find? fun u => u.id = booking.userId,
    users.find? fun u => u.id = booking.hrUserId with
  | some client, some consultant =>
    let meetingUrl := meeting.bind Meeting.meetingUrl
    [reminderMail booking meetingUrl client consultant booking.userTimezone,
      reminderMail booking meetingUrl consultant client booking.hrTimezone]
  | _, _ => []

theorem reminderBooking_eq_some {bookingId : ObjectId} {w : World} {b : Booking} :
    reminderBooking bookingId w = some b ↔
      b ∈ w.bookings ∧ b.id = bookingId ∧ b.isRemindable w.now := by
  rw [reminderBooking, Option.filter_eq_some_iff, decide_eq_true_iff, ← and_assoc]
  exact and_congr_left fun _ => Collection.findById_eq_some

/-! ### The queue -/

/-- The queue after the reminder of a booking was scheduled. -/
def withReminder (now : ℤ) (bookingId : ObjectId) (startAt : ℤ) (queue : List ReminderJob) :
    List ReminderJob :=
  if startAt - reminderLeadMs - now ≤ 0 then queue
  else if ∃ job ∈ queue, job.jobId = reminderJobId bookingId then queue
  else queue ++ [⟨reminderJobId bookingId, bookingId, startAt - reminderLeadMs⟩]

/-- The queue after the reminder of a booking was removed. -/
def withoutReminder (bookingId : ObjectId) (queue : List ReminderJob) : List ReminderJob :=
  queue.filter fun job => job.jobId ≠ reminderJobId bookingId

/-- Every job is named after its booking. -/
def Named (queue : List ReminderJob) : Prop :=
  ∀ job ∈ queue, job.jobId = reminderJobId job.bookingId

/-- The reminders of a booking that are still to come. -/
def remindersIn (taken queue : List ReminderJob) (bookingId : ObjectId) : List ReminderJob :=
  queue.filter fun job => job ∉ taken ∧ job.bookingId = bookingId

/-- The reminder a booking should have. -/
def Booking.reminder (booking : Booking) : ReminderJob :=
  ⟨reminderJobId booking.id, booking.id, booking.startAt - reminderLeadMs⟩

section Queue

variable {o : Oracle} {now t : ℤ} {id id' : ObjectId} {taken queue : List ReminderJob}

theorem scheduleReminder_of_answers (h : o.reminderQueueFails = false) (id : ObjectId) (t : ℤ)
    (w : World) :
    scheduleReminder o id t w =
      (.ok (), { w with reminderQueue := withReminder w.now id t w.reminderQueue }) := by
  simp only [scheduleReminder, withReminder, h, Bool.false_eq_true, if_false]
  split_ifs <;> rfl

theorem removeReminder_of_answers (h : o.reminderRemoveFails = false) (id : ObjectId) (w : World) :
    removeReminder o id w =
      (.ok (), { w with reminderQueue := withoutReminder id w.reminderQueue }) := by
  rw [removeReminder, h]
  rfl

theorem addMeetingJob_of_answers (h : o.meetingQueueFails = false) (name : MeetingJobName)
    (id : ObjectId) (w : World) :
    addMeetingJob o name id w =
      (.ok (), { w with meetingQueue := w.meetingQueue ++ [⟨name, id, meetingAttempts⟩] }) := by
  rw [addMeetingJob, h]
  rfl

theorem dispatchBookingCreated_of_answers (h : o.QueuesAnswer) (b : Booking) (w : World) :
    dispatchBookingCreated o b w =
      (.ok (), { w with
        meetingQueue := w.meetingQueue ++ [⟨.create, b.id, meetingAttempts⟩]
        reminderQueue := withReminder w.now b.id b.startAt w.reminderQueue }) := by
  rw [dispatchBookingCreated, Service.bind_of_ok (addMeetingJob_of_answers h.1 ..),
    scheduleReminder_of_answers h.2]

theorem dispatchBookingCancelled_of_answers (h : o.QueuesAnswer)
    (hremove : o.reminderRemoveFails = false) (b : Booking) (w : World) :
    dispatchBookingCancelled o b w =
      (.ok (), { w with
        meetingQueue := w.meetingQueue ++ [⟨.cancel, b.id, meetingAttempts⟩]
        reminderQueue := withoutReminder b.id w.reminderQueue }) := by
  rw [dispatchBookingCancelled, Service.bind_of_ok (addMeetingJob_of_answers h.1 ..),
    removeReminder_of_answers hremove]

theorem dispatchBookingRescheduled_of_answers (h : o.QueuesAnswer)
    (hremove : o.reminderRemoveFails = false) (b : Booking) (w : World) :
    dispatchBookingRescheduled o b w =
      (.ok (), { w with
        meetingQueue := w.meetingQueue ++ [⟨.sync, b.id, meetingAttempts⟩]
        reminderQueue :=
          withReminder w.now b.id b.startAt (withoutReminder b.id w.reminderQueue) }) := by
  rw [dispatchBookingRescheduled, Service.bind_of_ok (addMeetingJob_of_answers h.1 ..),
    Service.bind_of_ok (removeReminder_of_answers hremove ..), scheduleReminder_of_answers h.2]

theorem reminderJobId_injective : Function.Injective reminderJobId := by
  intro i j h
  exact ObjectId.text_injective ((String.append_right_inj "reminder-").1 h)

theorem Named.jobId_iff {job : ReminderJob} (h : Named queue) (hjob : job ∈ queue) :
    job.jobId = reminderJobId id ↔ job.bookingId = id := by
  rw [h job hjob]
  exact reminderJobId_injective.eq_iff

theorem mem_withoutReminder {job : ReminderJob} (h : Named queue) :
    job ∈ withoutReminder id queue ↔ job ∈ queue ∧ job.bookingId ≠ id := by
  rw [withoutReminder, List.mem_filter]
  refine and_congr_right fun hjob => ?_
  rw [decide_eq_true_iff]
  exact not_congr (h.jobId_iff hjob)

theorem mem_withReminder {job : ReminderJob} (h : job ∈ withReminder now id t queue) :
    job ∈ queue ∨ job = ⟨reminderJobId id, id, t - reminderLeadMs⟩ ∧ now < job.dueAt := by
  unfold withReminder at h
  split_ifs at h with hdue hthere
  · exact .inl h
  · exact .inl h
  · rcases List.mem_append.1 h with h | h
    · exact .inl h
    · obtain rfl := List.mem_singleton.1 h
      refine .inr ⟨rfl, ?_⟩
      show now < t - reminderLeadMs
      omega

theorem Named.withoutReminder (h : Named queue) : Named (withoutReminder id queue) := by
  intro job hjob
  exact h job ((mem_withoutReminder h).1 hjob).1

theorem Named.withReminder (h : Named queue) : Named (withReminder now id t queue) := by
  intro job hjob
  rcases mem_withReminder hjob with hjob | ⟨rfl, -⟩
  · exact h job hjob
  · rfl

/-! ### The reminders of a booking -/

theorem mem_remindersIn {job : ReminderJob} :
    job ∈ remindersIn taken queue id ↔ job ∈ queue ∧ job ∉ taken ∧ job.bookingId = id := by
  rw [remindersIn, List.mem_filter, decide_eq_true_iff]

theorem remindersIn_eq_nil (h : ∀ job ∈ queue, job.bookingId ≠ id) :
    remindersIn taken queue id = [] := by
  refine List.filter_eq_nil_iff.2 fun job hjob => ?_
  simp [h job hjob]

theorem remindersIn_withoutReminder (h : Named queue) :
    remindersIn taken (withoutReminder id queue) id' =
      if id' = id then [] else remindersIn taken queue id' := by
  split_ifs with hid
  · refine remindersIn_eq_nil fun job hjob => ?_
    rw [hid]
    exact ((mem_withoutReminder h).1 hjob).2
  · rw [remindersIn, withoutReminder, List.filter_filter, remindersIn]
    refine List.filter_congr fun job hjob => ?_
    have hname : job.jobId = reminderJobId id ↔ job.bookingId = id := h.jobId_iff hjob
    by_cases hb : job.bookingId = id'
    · have hne : ¬ job.jobId = reminderJobId id := fun he => hid (hb.symm.trans (hname.1 he))
      simp [hne]
    · simp [hb]

theorem remindersIn_withReminder (hnone : ∀ job ∈ queue, job.jobId ≠ reminderJobId id)
    (hqueue : remindersIn taken queue id = []) (htaken : ∀ job ∈ taken, job.dueAt ≤ now) :
    remindersIn taken (withReminder now id t queue) id' =
      if id' = id then
        if now < t - reminderLeadMs then [⟨reminderJobId id, id, t - reminderLeadMs⟩] else []
      else remindersIn taken queue id' := by
  have hfree : ¬ ∃ job ∈ queue, job.jobId = reminderJobId id := by
    rintro ⟨job, hjob, hid⟩
    exact hnone job hjob hid
  rw [withReminder, if_neg hfree]
  by_cases hid : id' = id
  · rw [hid, if_pos rfl]
    by_cases hlate : now < t - reminderLeadMs
    · -- the new job has not been taken up, since it is due later
      have hnew : (⟨reminderJobId id, id, t - reminderLeadMs⟩ : ReminderJob) ∉ taken := by
        intro hmem
        exact absurd (htaken _ hmem) (not_le.2 hlate)
      rw [remindersIn] at hqueue
      rw [if_neg (by omega), if_pos hlate, remindersIn, List.filter_append, hqueue]
      simp [hnew]
    · rw [if_pos (by omega), if_neg hlate, hqueue]
  · rw [if_neg hid]
    split_ifs with hdue
    · rfl
    · have hid' : ¬ id = id' := fun h => hid h.symm
      simp [remindersIn, hid']

theorem remindersIn_rescheduled (h : Named queue) (htaken : ∀ job ∈ taken, job.dueAt ≤ now) :
    remindersIn taken (withReminder now id t (withoutReminder id queue)) id' =
      if id' = id then
        if now < t - reminderLeadMs then [⟨reminderJobId id, id, t - reminderLeadMs⟩] else []
      else remindersIn taken queue id' := by
  have hnone : remindersIn taken (withoutReminder id queue) id = [] := by
    rw [remindersIn_withoutReminder h, if_pos rfl]
  have hfree : ∀ job ∈ withoutReminder id queue, job.jobId ≠ reminderJobId id := by
    intro job hjob
    exact of_decide_eq_true (List.mem_filter.1 hjob).2
  rw [remindersIn_withReminder hfree hnone htaken, remindersIn_withoutReminder h]
  split_ifs <;> rfl

theorem remindersIn_cons {job : ReminderJob} :
    remindersIn (job :: taken) queue id = (remindersIn taken queue id).filter fun j => j ≠ job := by
  rw [remindersIn, remindersIn, List.filter_filter]
  refine List.filter_congr fun j _ => ?_
  by_cases hj : j = job <;> simp [hj]

theorem remindersIn_discard {job : ReminderJob} (hjob : job ∈ taken) :
    remindersIn taken (queue.filter fun j => j ≠ job) id = remindersIn taken queue id := by
  rw [remindersIn, remindersIn, List.filter_filter]
  refine List.filter_congr fun j _ => ?_
  by_cases hj : j = job
  · simp [hj, hjob]
  · simp [hj]

end Queue

/-! ### The agenda -/

/-- The shared state, the jobs of the queue that have been taken up, and the e-mails the worker has
queued. -/
structure Agenda where
  world : World
  taken : List ReminderJob
  outbox : List ReminderMail

namespace Agenda

variable {s : Agenda} {id : ObjectId} {job : ReminderJob}

/-- The jobs that are still to be taken up. -/
def pending (s : Agenda) : List ReminderJob :=
  s.world.reminderQueue.filter fun job => job ∉ s.taken

/-- The reminders of a booking that are still to come. -/
def remindersOf (s : Agenda) (bookingId : ObjectId) : List ReminderJob :=
  remindersIn s.taken s.world.reminderQueue bookingId

/-- The worker runs a reminder. -/
def remind (users : List Recipient) (job : ReminderJob) (s : Agenda) : Agenda where
  world := s.world
  taken := job :: s.taken
  outbox := s.outbox ++
    match reminderBooking job.bookingId s.world with
    | none => []
    | some booking => reminderMails users (s.world.meetings.findByKey booking.id) booking

/-- A reminder leaves the queue. -/
def discard (job : ReminderJob) (s : Agenda) : Agenda :=
  { s with
    world := { s.world with reminderQueue := s.world.reminderQueue.filter fun j => j ≠ job } }

/-- Every job is named after its booking, and no reminder of an active booking comes too early. -/
structure InOrder (s : Agenda) : Prop where
  named : Named s.world.reminderQueue
  due : ∀ job ∈ s.pending, ∀ b ∈ s.world.bookings, b.id = job.bookingId → b.isActive →
    b.startAt - reminderLeadMs ≤ job.dueAt

theorem mem_pending : job ∈ s.pending ↔ job ∈ s.world.reminderQueue ∧ job ∉ s.taken := by
  rw [pending, List.mem_filter, decide_eq_true_iff]

theorem mem_remindersOf : job ∈ s.remindersOf id ↔ job ∈ s.pending ∧ job.bookingId = id := by
  rw [remindersOf, mem_remindersIn, mem_pending, and_assoc]

end Agenda

end HrBooking
