import HrBooking.Backend.Move
import HrBooking.Booking.Reminder
import HrBooking.Machine.Parties
import Mathlib.Data.Fintype.Option

/-!
# Reminders while bookings move

Cancellations and reschedules of bookings run at the same time as the reminder worker, one command
after another.  A reminder trusts the delay it was queued with: the worker looks whether the booking
is active and not over, but not when it starts.

* `ReminderProc` : a request, or a reminder that is being worked on.
* `reminding` : any number of them over one agenda.
* `Truthful` : the e-mails are queued for an active booking that starts in half an hour at most.
* `RemindsInOrder` : the condition on a step.
* `RemindersFit` : the invariant, kept by every step that meets the condition.
* `truthful_of_inOrder` : the e-mails of every such run are truthful.
* `not_truthful` : in other runs they need not be.
-/

namespace HrBooking

/-! ### The parties -/

/-- A party: a request, or a reminder that has been taken up. -/
inductive ReminderProc where
  | idle
  | request (stage : RequestStage)
  /-- `Booking.findById` of the worker -/
  | wake (job : ReminderJob)
  /-- `User.find` and `Meeting.findOne` of the worker -/
  | gather (booking : Booking)
  /-- `emailQueue.add` for both participants -/
  | send (booking : Booking) (mails : List ReminderMail)
  | done

/-- What a party is started with. -/
inductive ReminderStart where
  | cancel (actor : Actor) (bookingId : ObjectId) (reason : Option String)
  | reschedule (actor : Actor) (bookingId : ObjectId) (input : RescheduleBookingInput)
  /-- the worker takes up a reminder -/
  | remind (job : ReminderJob)

/-- What the surroundings decide for a command: the answers to a request, and the users the worker
finds. -/
structure ReminderInput where
  oracle : Oracle
  users : List Recipient

/-- What the surroundings do. -/
inductive ReminderEvent where
  /-- time passes -/
  | advance (ms : ℕ)
  /-- a consultant changes the schedule -/
  | setAvailability (hrUserId : ObjectId) (config : SlotConfig)
  /-- a reminder that has been taken up leaves the queue -/
  | discard (job : ReminderJob)

namespace ReminderProc

/-- The party after a command of its request. -/
def after : RequestOutcome → ReminderProc
  | .next stage => request stage
  | .finished _ => done

/-- The next command of a party. -/
def exec (cal : TimezoneName → Calendar) (i : ReminderInput) (s : Agenda) :
    ReminderProc → Option (Agenda × ReminderProc)
  | request stage =>
    (stage.exec cal i.oracle s.world).map fun r => ({ s with world := r.1 }, after r.2)
  | wake job =>
    match reminderBooking job.bookingId s.world with
    | none => some (s, done)
    | some booking => some (s, gather booking)
  | gather booking =>
    match reminderMails i.users (s.world.meetings.findByKey booking.id) booking with
    | [] => some (s, done)
    | mails => some (s, send booking mails)
  | send _ mails => some ({ s with outbox := s.outbox ++ mails }, done)
  | idle | done => none

/-- The move the party is going to make next. -/
def moves : ReminderProc → Option MoveArgs
  | request (.move _ args) => some args
  | _ => none

/-- The booking whose cancellation the party is going to save next. -/
def saves : ReminderProc → Option Booking
  | request (.saveCancel _ loaded _ _ _) => some loaded
  | _ => none

/-- The booking the party has moved without having removed the old reminder. -/
def owes : ReminderProc → Option Booking
  | request (.queueSync _ booking) | request (.forgetMoved _ booking) => some booking
  | _ => none

/-- The booking the party has moved without having seen to its reminder. -/
def settles : ReminderProc → Option Booking
  | request (.queueSync _ booking) | request (.forgetMoved _ booking)
  | request (.remindMoved _ booking) => some booking
  | _ => none

/-- The reminder the party has taken up without having read the booking. -/
def wakes : ReminderProc → Option ReminderJob
  | wake job => some job
  | _ => none

/-- The booking the party has read to remind of it. -/
def holds : ReminderProc → Option Booking
  | gather booking | send booking _ => some booking
  | _ => none

/-- The booking the party is queueing the e-mails for. -/
def sends : ReminderProc → Option Booking
  | send booking _ => some booking
  | _ => none

/-- The party has moved the booking and not seen to its reminder, or works on a reminder of it. -/
def WorksOn (id : ObjectId) (p : ReminderProc) : Prop :=
  (∃ b ∈ p.settles, b.id = id) ∨ (∃ job ∈ p.wakes, job.bookingId = id) ∨ ∃ b ∈ p.holds, b.id = id

instance (id : ObjectId) (p : ReminderProc) : Decidable (p.WorksOn id) :=
  inferInstanceAs (Decidable ((∃ b ∈ p.settles, b.id = id) ∨
    (∃ job ∈ p.wakes, job.bookingId = id) ∨ ∃ b ∈ p.holds, b.id = id))

/-- The command should lead to the removal of a reminder, and does not. -/
def fails (o : Oracle) : ReminderProc → Bool
  | request (.queueSync _ _) => o.meetingQueueFails
  | request (.forgetMoved _ _) => o.reminderRemoveFails
  | _ => false

end ReminderProc

open ReminderProc

/-- Any number of cancellations, reschedules and reminders over one agenda. -/
def reminding (cal : TimezoneName → Calendar) :
    Program Agenda ReminderProc ReminderStart ReminderInput ReminderEvent where
  isIdle
    | idle => true
    | _ => false
  start
    | .cancel actor bookingId reason, s =>
      some (s, request (Request.cancel actor bookingId reason).start)
    | .reschedule actor bookingId input, s =>
      some (s, request (Request.reschedule actor bookingId input).start)
    | .remind job, s =>
      if job ∈ s.pending ∧ job.dueAt ≤ s.world.now then
        some ({ s with taken := job :: s.taken }, wake job)
      else none
  exec i s p := p.exec cal i s
  surroundings
    | .advance ms, s => some { s with world := { s.world with now := s.world.now + ms } }
    | .setAvailability hrUserId config, s =>
      some { s with world := updateAvailability hrUserId config s.world }
    | .discard job, s => if job ∈ s.taken then some (s.discard job) else none

/-- The state of the reminders. -/
abbrev Reminding (R : Type) := Parties R Agenda ReminderProc

/-- An action of the reminders. -/
abbrev RemindingAction (R : Type) := PartyAction R ReminderStart ReminderInput ReminderEvent

/-- Nothing is in flight over an agenda. -/
def Reminding.init (R : Type) (s : Agenda) : Reminding R := ⟨s, fun _ => idle⟩

/-! ### The condition on a step -/

/-- The booking is active and starts at `t`. -/
def Agenda.Starts (s : Agenda) (id : ObjectId) (t : ℤ) : Prop :=
  ∃ b ∈ s.world.bookings, b.id = id ∧ b.isActive ∧ b.startAt = t

/-- The move goes through, and the booking starts later than before. -/
def Agenda.Postpones (s : Agenda) (args : MoveArgs) : Prop :=
  (s.world.bookings.update args.booking.id args.apply).isSome ∧
    ∃ b ∈ s.world.bookings, b.id = args.booking.id ∧ b.isActive ∧ b.startAt < args.startAt

instance (s : Agenda) (args : MoveArgs) : Decidable (s.Postpones args) :=
  inferInstanceAs (Decidable (_ ∧ ∃ b ∈ s.world.bookings.docs, _))

/-- The reminder the worker takes up. -/
def ReminderStart.wakes : ReminderStart → Option ReminderJob
  | remind job => some job
  | _ => none

section Conditions

variable {R : Type}

/-- E-mails that are queued now are for an active booking that starts in half an hour at most. -/
def Truthful (s : Reminding R) (a : RemindingAction R) : Prop :=
  a.OnExec fun r _ => ∀ b ∈ (s.procs r).sends, ∃ b' ∈ s.shared.world.bookings,
    b'.id = b.id ∧ b'.isActive ∧ b'.startAt ≤ s.shared.world.now + reminderLeadMs

/-- What the requests and the worker have to leave each other. -/
structure RemindsInOrder (s : Reminding R) (a : RemindingAction R) : Prop where
  /-- A booking is postponed while nobody else is at its reminder. -/
  postpones : a.OnExec fun r _ => ∀ args ∈ (s.procs r).moves, s.shared.Postpones args →
    ∀ r', ¬ (s.procs r').WorksOn args.booking.id
  /-- A cancellation is saved while nobody holds the booking to remind of it. -/
  saves : a.OnExec fun r _ => ∀ b ∈ (s.procs r).saves, ∀ r', ∀ b' ∈ (s.procs r').holds, b'.id ≠ b.id
  /-- A reminder that comes too early is removed. -/
  removes : a.OnExec fun r i => (s.procs r).fails i.oracle → ∀ b ∈ (s.procs r).owes,
    ∀ job ∈ s.shared.pending, job.bookingId = b.id → b.startAt - reminderLeadMs ≤ job.dueAt
  /-- A reminder is taken up while nobody is going to remove it. -/
  wakes : a.OnStart fun j => ∀ job ∈ j.wakes, ∀ r', ∀ b ∈ (s.procs r').owes, b.id ≠ job.bookingId

instance (s : Reminding R) (a : RemindingAction R) : Decidable (Truthful s a) :=
  inferInstanceAs (Decidable (a.OnExec _))

instance [Fintype R] (s : Reminding R) (a : RemindingAction R) : Decidable (RemindsInOrder s a) :=
  have : Decidable (a.OnExec fun r _ => ∀ args ∈ (s.procs r).moves, s.shared.Postpones args →
      ∀ r', ¬ (s.procs r').WorksOn args.booking.id) := inferInstanceAs (Decidable (a.OnExec _))
  have : Decidable (a.OnExec fun r _ => ∀ b ∈ (s.procs r).saves, ∀ r', ∀ b' ∈ (s.procs r').holds,
      b'.id ≠ b.id) := inferInstanceAs (Decidable (a.OnExec _))
  have : Decidable (a.OnExec fun r i => (s.procs r).fails i.oracle → ∀ b ∈ (s.procs r).owes,
      ∀ job ∈ s.shared.pending, job.bookingId = b.id → b.startAt - reminderLeadMs ≤ job.dueAt) :=
    inferInstanceAs (Decidable (a.OnExec _))
  have : Decidable (a.OnStart fun j => ∀ job ∈ j.wakes, ∀ r', ∀ b ∈ (s.procs r').owes,
      b.id ≠ job.bookingId) := inferInstanceAs (Decidable (a.OnStart _))
  decidable_of_iff (_ ∧ _ ∧ _ ∧ _) ⟨fun h => ⟨h.1, h.2.1, h.2.2.1, h.2.2.2⟩,
    fun h => ⟨h.postpones, h.saves, h.removes, h.wakes⟩⟩

end Conditions

/-! ### What a command of a request does -/

section Commands

variable {cal : TimezoneName → Calendar} {o : Oracle} {w w' : World} {stage : RequestStage}
  {out : RequestOutcome}

/-- What a command of a request does to the bookings and the reminders, and what the party does
next. -/
inductive ReminderTurn (o : Oracle) (w : World) (stage : RequestStage) (w' : World)
    (p' : ReminderProc) : Prop
  | quiet (howes : (request stage).owes = none) (hnext : p'.settles = none)
      (hbookings : w'.bookings = w.bookings) (hqueue : w'.reminderQueue ⊆ w.reminderQueue)
  | moved (args : MoveArgs) (stored : Booking) (hmoves : (request stage).moves = some args)
      (hnext : p'.owes = some (args.apply stored)) (hmem : stored ∈ w.bookings)
      (hid : stored.id = args.booking.id) (hactive : stored.isActive)
      (hbookings : w.bookings.update args.booking.id args.apply = some w'.bookings)
      (hqueue : w'.reminderQueue = w.reminderQueue)
  | saved (loaded : Booking) (now : ℤ) (role : CancelledBy) (reason : Option String)
      (hsaves : (request stage).saves = some loaded) (hnext : p'.settles = none)
      (hbookings : w.bookings.update loaded.id
        (saveCancelled loaded (loaded.cancel now role reason)) = some w'.bookings)
      (hqueue : w'.reminderQueue = w.reminderQueue)
  | waits (b : Booking) (howes : (request stage).owes = some b) (hnext : p'.owes = some b)
      (hbookings : w'.bookings = w.bookings) (hqueue : w'.reminderQueue = w.reminderQueue)
  | fails (b : Booking) (howes : (request stage).owes = some b)
      (hfails : (request stage).fails o = true) (hnext : p'.owes = none)
      (hsettles : ∀ b' ∈ p'.settles, b' = b) (hbookings : w'.bookings = w.bookings)
      (hqueue : w'.reminderQueue = w.reminderQueue)
  | removed (b : Booking) (howes : (request stage).owes = some b) (hnext : p'.owes = none)
      (hsettles : p'.settles = some b) (hbookings : w'.bookings = w.bookings)
      (hqueue : w'.reminderQueue = withoutReminder b.id w.reminderQueue)
  | scheduled (b : Booking) (hsettles : (request stage).settles = some b)
      (howes : (request stage).owes = none) (hnext : p'.settles = none)
      (hbookings : w'.bookings = w.bookings)
      (hqueue : ∀ job ∈ w'.reminderQueue, job ∈ w.reminderQueue ∨ job = b.reminder)

theorem settles_andThen {α : Type} {x : Except AppError α} {f : α → RequestOutcome}
    (h : ∀ a, (after (f a)).settles = none) :
    (after (RequestOutcome.andThen x f)).settles = none := by
  cases x with
  | error e => rfl
  | ok a => exact h a

theorem withoutReminder_subset (id : ObjectId) (queue : List ReminderJob) :
    withoutReminder id queue ⊆ queue := List.filter_sublist.subset

/-- **The effect of a command** of a cancellation or a reschedule. -/
theorem reminderTurn_of_exec (hkind : stage.kind ≠ .creation)
    (h : stage.exec cal o w = some (w', out)) : ReminderTurn o w stage w' (after out) := by
  -- a creation is excluded; of the rest, the saves write bookings and the dispatches the queue
  cases stage with
  | readProfile | readOffer | checkClient | checkConsultant | construct | insert | sweep | withdraw
  | queueCreate | remindCreated => exact absurd rfl hkind
  | readCancel | readMoveOffer | checkMoveClient | checkMoveConsultant =>
    cases h
    exact .quiet rfl (settles_andThen fun _ => rfl) rfl (List.Subset.refl _)
  | readMove =>
    cases h
    refine .quiet rfl ?_ rfl (List.Subset.refl _)
    exact settles_andThen fun _ => settles_andThen fun _ => rfl
  | reread =>
    cases h
    exact .quiet rfl rfl rfl (List.Subset.refl _)
  | audit actor b role reason =>
    cases h
    obtain ⟨auditLog, hw⟩ := recordCancellation_eq_ok (o := o) (w := w) actor role b reason
    refine .quiet rfl (settles_andThen fun _ => rfl) ?_ ?_ <;> rw [hw]
    exact List.Subset.refl _
  | queueCancel actor b =>
    cases h
    rcases addMeetingJob_cases (o := o) (w := w) .cancel b.id with ⟨-, hw⟩ | ⟨-, hw⟩ <;>
    · refine .quiet rfl (settles_andThen fun _ => rfl) ?_ ?_ <;> rw [hw]
      exact List.Subset.refl _
  | forgetCancelled actor b =>
    cases h
    refine .quiet rfl (settles_andThen fun _ => rfl)
      (removeReminder_within b.id w).bookings ?_
    unfold removeReminder
    split_ifs
    · exact List.Subset.refl _
    · exact withoutReminder_subset _ _
  | saveCancel actor loaded now role reason =>
    cases h
    rcases saveBooking_cases (w := w) loaded (loaded.cancel now role reason) with
      ⟨e, hw⟩ | ⟨-, c, -, -, hc, hw⟩
    · refine .quiet rfl (settles_andThen fun _ => rfl) ?_ ?_ <;> rw [hw]
      exact List.Subset.refl _
    · refine .saved loaded now role reason rfl (settles_andThen fun _ => rfl) ?_ ?_ <;> rw [hw]
      exact hc
  | move actor args =>
    cases h
    rcases moveBooking_cases (w := w) args with ⟨e, hw⟩ | ⟨stored, c, hmem, hid, hactive, hc, hw⟩
    · rw [hw]
      exact .quiet rfl rfl rfl (List.Subset.refl _)
    · rw [hw]
      exact .moved args stored rfl rfl hmem hid hactive hc rfl
  | queueSync actor b =>
    cases h
    rcases addMeetingJob_cases (o := o) (w := w) .sync b.id with ⟨hfails, hw⟩ | ⟨-, hw⟩
    · rw [hw]
      exact .fails b rfl hfails rfl (by rintro _ ⟨⟩) rfl rfl
    · rw [hw]
      exact .waits b rfl rfl rfl rfl
  | forgetMoved actor b =>
    cases h
    by_cases hfails : o.reminderRemoveFails = true
    · have hw : removeReminder o b.id w = (.ok (), w) := if_pos hfails
      rw [hw]
      refine .fails b rfl hfails rfl ?_ rfl rfl
      rintro b' ⟨⟩
      rfl
    · rw [removeReminder_of_answers (Bool.eq_false_iff.2 hfails)]
      exact .removed b rfl rfl rfl rfl rfl
  | remindMoved actor b =>
    cases h
    refine .scheduled b rfl rfl (settles_andThen fun _ => rfl)
      (scheduleReminder_within b.id b.startAt w).bookings fun job hjob => ?_
    unfold scheduleReminder at hjob
    split_ifs at hjob
    · exact .inl hjob
    · exact .inl hjob
    · exact .inl hjob
    · rcases List.mem_append.1 hjob with hjob | hjob
      · exact .inl hjob
      · exact .inr (List.mem_singleton.1 hjob)

theorem now_of_exec (h : stage.exec cal o w = some (w', out)) : w'.now = w.now := by
  cases RequestStage.effect_of_exec h with
  | quiet _ hsame => exact hsame.now
  | construct | write => rfl

end Commands

/-! ### The invariant -/

/-- What a party holds agrees with the stored bookings. -/
structure Fit (s : Agenda) (p : ReminderProc) : Prop where
  kind : ∀ stage, p = request stage → stage.kind ≠ .creation
  /-- A reminder that is going to be queued does not come too early. -/
  settles : ∀ b ∈ p.settles, ∀ t, s.Starts b.id t → t ≤ b.startAt
  wakes : ∀ job ∈ p.wakes, ∀ t, s.Starts job.bookingId t → t ≤ s.world.now + reminderLeadMs
  holds : ∀ b ∈ p.holds, ∃ t, s.Starts b.id t ∧ t ≤ s.world.now + reminderLeadMs

/-- **The invariant**: a reminder does not come too early unless somebody is going to remove it. -/
structure RemindersFit {R : Type} (s : Reminding R) : Prop where
  named : Named s.shared.world.reminderQueue
  fit : ∀ r, Fit s.shared (s.procs r)
  due : ∀ job ∈ s.shared.pending, ∀ t, s.shared.Starts job.bookingId t →
    t - reminderLeadMs ≤ job.dueAt ∨ ∃ r, ∃ b ∈ (s.procs r).owes, b.id = job.bookingId

section Fit

variable {s s' : Agenda} {p : ReminderProc} {b : Booking} {out : RequestOutcome} {id : ObjectId}
  {t t' : ℤ}

theorem settles_of_owes (h : p.owes = some b) : p.settles = some b := by
  cases p with
  | request stage =>
    cases stage with
    | queueSync | forgetMoved => exact h
    | _ => cases h
  | _ => cases h

theorem owes_of_moves {args : MoveArgs} (h : p.moves = some args) : p.owes = none := by
  cases p with
  | request stage =>
    cases stage with
    | move => rfl
    | _ => cases h
  | _ => cases h

theorem owes_of_saves (h : p.saves = some b) : p.owes = none := by
  cases p with
  | request stage =>
    cases stage with
    | saveCancel => rfl
    | _ => cases h
  | _ => cases h

theorem Agenda.Starts.unique (h : s.Starts id t) (h' : s.Starts id t') : t = t' := by
  obtain ⟨b, hb, hid, -, rfl⟩ := h
  obtain ⟨b', hb', hid', -, rfl⟩ := h'
  rw [Collection.eq_of_docId hb hb' (hid.trans hid'.symm)]

theorem starts_congr (h : s'.world.bookings = s.world.bookings) :
    s'.Starts id t ↔ s.Starts id t := by
  rw [Agenda.Starts, h, Agenda.Starts]

theorem Fit.mono (h : Fit s p) (hbookings : s'.world.bookings = s.world.bookings)
    (hnow : s.world.now ≤ s'.world.now) : Fit s' p where
  kind := h.kind
  settles b hb t ht := h.settles b hb t ((starts_congr hbookings).1 ht)
  wakes job hjob t ht := by
    have := h.wakes job hjob t ((starts_congr hbookings).1 ht)
    omega
  holds b hb := by
    obtain ⟨t, ht, hle⟩ := h.holds b hb
    exact ⟨t, (starts_congr hbookings).2 ht, by omega⟩

theorem isActive_of_saveCancelled {loaded stored : Booking} {now : ℤ} {role : CancelledBy}
    {reason : Option String}
    (h : (saveCancelled loaded (loaded.cancel now role reason) stored).isActive) :
    stored.isActive := by
  by_cases hstatus : loaded.status = .cancelled
  · have hsame : savePath loaded.status BookingStatus.cancelled stored.status = stored.status := by
      simp [savePath, hstatus]
    simpa only [Booking.isActive, saveCancelled, Booking.cancel, hsame] using h
  · exact absurd h (Booking.not_isActive_cancelled (savePath_of_ne (Ne.symm hstatus) _))

theorem starts_of_saved {loaded : Booking} {now : ℤ} {role : CancelledBy} {reason : Option String}
    (s' : Agenda)
    (hbookings : s.world.bookings.update loaded.id
      (saveCancelled loaded (loaded.cancel now role reason)) = some s'.world.bookings)
    (h : s'.Starts id t) : s.Starts id t := by
  obtain ⟨b, hb, hid, ha, hstart⟩ := h
  rcases (Collection.mem_update hbookings).1 hb with ⟨hb, -⟩ | ⟨d, hd, -, rfl⟩
  · exact ⟨b, hb, hid, ha, hstart⟩
  · exact ⟨d, hd, hid, isActive_of_saveCancelled ha, hstart⟩

/-- The party goes on after a cancellation that was saved, unless it holds the booking. -/
theorem Fit.save {loaded : Booking} {now : ℤ} {role : CancelledBy} {reason : Option String}
    (h : Fit s p) (hnow : s'.world.now = s.world.now)
    (hbookings : s.world.bookings.update loaded.id
      (saveCancelled loaded (loaded.cancel now role reason)) = some s'.world.bookings)
    (hholds : ∀ b ∈ p.holds, b.id ≠ loaded.id) : Fit s' p where
  kind := h.kind
  settles b hb t ht := h.settles b hb t (starts_of_saved s' hbookings ht)
  wakes job hjob t ht := hnow ▸ h.wakes job hjob t (starts_of_saved s' hbookings ht)
  holds b hb := by
    obtain ⟨t, ⟨d, hd, hid, ha, hstart⟩, hle⟩ := h.holds b hb
    have hne : d.id ≠ loaded.id := hid ▸ hholds b hb
    have hd' := (Collection.mem_update hbookings).2 (.inl ⟨hd, hne⟩)
    exact ⟨t, ⟨d, hd', hid, ha, hstart⟩, hnow ▸ hle⟩

theorem starts_of_moved {args : MoveArgs} (s' : Agenda)
    (hbookings : s.world.bookings.update args.booking.id args.apply = some s'.world.bookings)
    (h : s'.Starts id t) : (id ≠ args.booking.id ∧ s.Starts id t) ∨
      (id = args.booking.id ∧ t = args.startAt) := by
  obtain ⟨b, hb, rfl, ha, rfl⟩ := h
  rcases (Collection.mem_update hbookings).1 hb with ⟨hb, hne⟩ | ⟨d, hd, hid, rfl⟩
  · exact .inl ⟨hne, b, hb, rfl, ha, rfl⟩
  · exact .inr ⟨hid, rfl⟩

theorem Fit.move {args : MoveArgs} {stored : Booking} (h : Fit s p)
    (hnow : s'.world.now = s.world.now) (hmem : stored ∈ s.world.bookings)
    (hid : stored.id = args.booking.id) (hactive : stored.isActive)
    (hbookings : s.world.bookings.update args.booking.id args.apply = some s'.world.bookings)
    (hearlier : p.WorksOn args.booking.id → args.startAt ≤ stored.startAt) : Fit s' p where
  kind := h.kind
  settles b hb t ht := by
    rcases starts_of_moved s' hbookings ht with ⟨-, ht⟩ | ⟨hb', rfl⟩
    · exact h.settles b hb t ht
    · have hold := h.settles b hb stored.startAt ⟨stored, hmem, hid.trans hb'.symm, hactive, rfl⟩
      exact (hearlier (.inl ⟨b, hb, hb'⟩)).trans hold
  wakes job hjob t ht := by
    rw [hnow]
    rcases starts_of_moved s' hbookings ht with ⟨-, ht⟩ | ⟨hjob', rfl⟩
    · exact h.wakes job hjob t ht
    · have hold := h.wakes job hjob stored.startAt
        ⟨stored, hmem, hid.trans hjob'.symm, hactive, rfl⟩
      exact (hearlier (.inr (.inl ⟨job, hjob, hjob'⟩))).trans hold
  holds b hb := by
    rw [hnow]
    obtain ⟨t, ht, hle⟩ := h.holds b hb
    by_cases hb' : b.id = args.booking.id
    · have hmoved : args.apply stored ∈ s'.world.bookings :=
        (Collection.mem_update hbookings).2 (.inr ⟨stored, hmem, hid, rfl⟩)
      have hold : t = stored.startAt :=
        ht.unique ⟨stored, hmem, hid.trans hb'.symm, hactive, rfl⟩
      have hstart := hearlier (.inr (.inr ⟨b, hb, hb'⟩))
      exact ⟨args.startAt, ⟨_, hmoved, hid.trans hb'.symm, hactive, rfl⟩,
        (hstart.trans hold.ge).trans hle⟩
    · obtain ⟨d, hd, hdid, ha, hstart⟩ := ht
      have hne : d.id ≠ args.booking.id := hdid ▸ hb'
      exact ⟨t, ⟨d, (Collection.mem_update hbookings).2 (.inl ⟨hd, hne⟩), hdid, ha, hstart⟩, hle⟩

theorem fit_after (hkind : ∀ stage, out = .next stage → stage.kind ≠ .creation)
    (hsettles : ∀ b ∈ (after out).settles, ∀ t, s.Starts b.id t → t ≤ b.startAt) :
    Fit s (after out) := by
  refine ⟨?_, hsettles, ?_, ?_⟩ <;> cases out with
  | finished => rintro _ ⟨⟩
  | next stage => ?_
  · rintro _ ⟨⟩
    exact hkind stage rfl
  · rintro _ ⟨⟩
  · rintro _ ⟨⟩

theorem fit_after_of_none (hkind : ∀ stage, out = .next stage → stage.kind ≠ .creation)
    (h : (after out).settles = none) : Fit s (after out) := by
  refine fit_after hkind fun b hb => ?_
  rw [h] at hb
  cases hb

theorem Fit.goesOn (h : Fit s p) (hb : p.settles = some b)
    (hkind : ∀ stage, out = .next stage → stage.kind ≠ .creation)
    (hnext : ∀ b' ∈ (after out).settles, b' = b)
    (hbookings : s'.world.bookings = s.world.bookings) : Fit s' (after out) := by
  refine fit_after hkind fun b' hb' t ht => ?_
  obtain rfl := hnext b' hb'
  exact h.settles b' hb t ((starts_congr hbookings).1 ht)

end Fit

section Steps

variable {R : Type} [DecidableEq R] {cal : TimezoneName → Calendar} {s s' : Reminding R} {r : R}
  {w : Agenda} {p : ReminderProc}

/-- A party moves and the bookings stay: every reminder to come was to come before, or is not too
early. -/
theorem RemindersFit.put (hs : RemindersFit s)
    (hbookings : w.world.bookings = s.shared.world.bookings)
    (hnow : s.shared.world.now ≤ w.world.now) (hnamed : Named w.world.reminderQueue)
    (hp : Fit w p)
    (hqueue : ∀ job ∈ w.pending, ∀ t, s.shared.Starts job.bookingId t →
      t - reminderLeadMs ≤ job.dueAt ∨ job ∈ s.shared.pending ∧
        ∀ b ∈ (s.procs r).owes, b.id = job.bookingId →
          t - reminderLeadMs ≤ job.dueAt ∨ b ∈ p.owes) :
    RemindersFit (s.put r w p) where
  named := hnamed
  fit := Parties.forall_put hp fun r' _ => (hs.fit r').mono hbookings hnow
  due job hjob t ht := by
    have ht' : s.shared.Starts job.bookingId t := (starts_congr hbookings).1 ht
    rcases hqueue job hjob t ht' with hdue | ⟨hold, howes⟩
    · exact .inl hdue
    rcases hs.due job hold t ht' with hdue | ⟨r', b, hb, hid⟩
    · exact .inl hdue
    by_cases hr : r' = r
    · subst hr
      rcases howes b hb hid with hdue | hb'
      · exact .inl hdue
      · exact .inr ⟨r', b, by rwa [Parties.put_procs_self], hid⟩
    · exact .inr ⟨r', b, by rwa [Parties.put_procs_of_ne hr], hid⟩

/-- A party moves and the bookings change: it is not going to remove a reminder, and the queue
stays. -/
theorem RemindersFit.put_write (hs : RemindersFit s) (howes : (s.procs r).owes = none)
    (hqueue : w.world.reminderQueue = s.shared.world.reminderQueue)
    (htaken : w.taken = s.shared.taken) (hp : Fit w p)
    (hothers : ∀ r', r' ≠ r → Fit w (s.procs r'))
    (hstarts : ∀ id t, w.Starts id t → s.shared.Starts id t ∨ ∃ b ∈ p.owes, b.id = id) :
    RemindersFit (s.put r w p) where
  named := hqueue ▸ hs.named
  fit := Parties.forall_put hp hothers
  due job hjob t ht := by
    have hold : job ∈ s.shared.pending := by
      obtain ⟨hmem, hnot⟩ := Agenda.mem_pending.1 hjob
      exact Agenda.mem_pending.2 ⟨hqueue ▸ hmem, htaken ▸ hnot⟩
    rcases hstarts _ t ht with ht | ⟨b, hb, hid⟩
    · rcases hs.due job hold t ht with hdue | ⟨r', b, hb, hid⟩
      · exact .inl hdue
      · have hr : r' ≠ r := by
          rintro rfl
          rw [howes] at hb
          cases hb
        exact .inr ⟨r', b, by rwa [Parties.put_procs_of_ne hr], hid⟩
    · exact .inr ⟨r, b, by rwa [Parties.put_procs_self], hid⟩

/-- **A move** keeps the invariant: when it postpones the booking, nobody else is at its
reminder. -/
theorem RemindersFit.moved {i : ReminderInput} {w' : World} {out : RequestOutcome}
    {args : MoveArgs} {stored : Booking} (hs : RemindersFit s)
    (hG : RemindsInOrder s (.exec r i)) (hmoves : (s.procs r).moves = some args)
    (hkind : ∀ stage, out = .next stage → stage.kind ≠ .creation)
    (howes : (after out).owes = some (args.apply stored))
    (hmem : stored ∈ s.shared.world.bookings) (hid : stored.id = args.booking.id)
    (hactive : stored.isActive)
    (hbookings : s.shared.world.bookings.update args.booking.id args.apply = some w'.bookings)
    (hqueue : w'.reminderQueue = s.shared.world.reminderQueue)
    (hnow : w'.now = s.shared.world.now) :
    RemindersFit (s.put r { s.shared with world := w' } (after out)) := by
  have hearlier : ∀ r', (s.procs r').WorksOn args.booking.id → args.startAt ≤ stored.startAt := by
    intro r' hworks
    by_contra hlater
    refine hG.postpones args hmoves ⟨?_, stored, hmem, hid, hactive, not_le.1 hlater⟩ r' hworks
    exact Option.isSome_of_eq_some hbookings
  refine hs.put_write (owes_of_moves hmoves) hqueue rfl ?_
    (fun r' _ => (hs.fit r').move hnow hmem hid hactive hbookings (hearlier r')) fun id t ht => ?_
  · -- the party is going to queue a reminder for the new start
    refine fit_after hkind fun b hb t ht => ?_
    obtain rfl : args.apply stored = b := Option.some.inj ((settles_of_owes howes).symm.trans hb)
    rcases starts_of_moved { s.shared with world := w' } hbookings ht with ⟨hne, -⟩ | ⟨-, rfl⟩
    · exact absurd hid hne
    · exact le_refl _
  · rcases starts_of_moved { s.shared with world := w' } hbookings ht with ⟨-, ht⟩ | ⟨rfl, -⟩
    · exact .inl ht
    · exact .inr ⟨_, howes, hid⟩

/-- **A command of a request** keeps the invariant. -/
theorem RemindersFit.request {i : ReminderInput} {stage : RequestStage} {w' : World}
    {out : RequestOutcome} (hs : RemindersFit s) (hG : RemindsInOrder s (.exec r i))
    (hp : s.procs r = request stage)
    (hexec : stage.exec cal i.oracle s.shared.world = some (w', out)) :
    RemindersFit (s.put r { s.shared with world := w' } (after out)) := by
  have hfit := hs.fit r
  rw [hp] at hfit
  have hkind := hfit.kind stage rfl
  have hnext : ∀ stage', out = .next stage' → stage'.kind ≠ .creation := by
    rintro stage' rfl
    rcases RequestStage.kind_of_exec hexec with h | h
    · rwa [h]
    · rw [h]
      decide
  have hnow : w'.now = s.shared.world.now := now_of_exec hexec
  have hpending : ∀ {job : ReminderJob}, w'.reminderQueue ⊆ s.shared.world.reminderQueue →
      job ∈ Agenda.pending { s.shared with world := w' } → job ∈ s.shared.pending := by
    intro job hqueue hjob
    obtain ⟨hmem, hnot⟩ := Agenda.mem_pending.1 hjob
    exact Agenda.mem_pending.2 ⟨hqueue hmem, hnot⟩
  cases reminderTurn_of_exec hkind hexec with
  | quiet howes hsettles hbookings hqueue =>
    refine hs.put hbookings hnow.ge (fun job hjob => hs.named job (hqueue hjob))
      (fit_after_of_none hnext hsettles) fun job hjob t ht => ?_
    refine .inr ⟨hpending hqueue hjob, ?_⟩
    rw [hp, howes]
    rintro b ⟨⟩
  | moved args stored hmoves howes hmem hid hactive hbookings hqueue =>
    exact hs.moved hG (by rw [hp]; exact hmoves) hnext howes hmem hid hactive hbookings hqueue hnow
  | saved loaded now role reason hsaves hsettles hbookings hqueue =>
    refine hs.put_write (by rw [hp]; exact owes_of_saves hsaves) hqueue rfl
      (fit_after_of_none hnext hsettles) (fun r' _ => ?_) fun id t ht => ?_
    · exact (hs.fit r').save hnow hbookings (hG.saves loaded (by rw [hp]; exact hsaves) r')
    · exact .inl (starts_of_saved { s.shared with world := w' } hbookings ht)
  | waits b howes howes' hbookings hqueue =>
    have hsettles : ∀ b' ∈ (after out).settles, b' = b := fun b' hb' =>
      (Option.some.inj ((settles_of_owes howes').symm.trans hb')).symm
    refine hs.put hbookings hnow.ge (hqueue ▸ hs.named)
      (hfit.goesOn (settles_of_owes howes) hnext hsettles hbookings) fun job hjob t ht =>
        .inr ⟨hpending (fun _ hj => hqueue ▸ hj) hjob, fun b' hb' _ => ?_⟩
    rw [hp, howes] at hb'
    exact .inr (howes'.trans hb')
  | fails b howes hfails howes' hsettles hbookings hqueue =>
    refine hs.put hbookings hnow.ge (hqueue ▸ hs.named)
      (hfit.goesOn (settles_of_owes howes) hnext hsettles hbookings) fun job hjob t ht =>
        .inr ⟨hpending (fun _ hj => hqueue ▸ hj) hjob, fun b' hb' hid => ?_⟩
    -- the reminder stays, and does not come too early for the new start
    rw [hp, howes] at hb'
    obtain rfl : b = b' := Option.some.inj hb'
    have hlate := hG.removes (by rw [hp]; exact hfails) b (by rw [hp]; exact howes) job
      (hpending (fun _ hj => hqueue ▸ hj) hjob) hid.symm
    have hstart := hfit.settles b (settles_of_owes howes) t (hid ▸ ht)
    exact .inl (by omega)
  | removed b howes howes' hsettles hbookings hqueue =>
    have hsettles' : ∀ b' ∈ (after out).settles, b' = b := fun b' hb' =>
      (Option.some.inj (hsettles.symm.trans hb')).symm
    have hnamed : Named w'.reminderQueue := by
      rw [hqueue]
      exact hs.named.withoutReminder
    refine hs.put hbookings hnow.ge hnamed
      (hfit.goesOn (settles_of_owes howes) hnext hsettles' hbookings) fun job hjob t ht =>
        .inr ⟨hpending (hqueue ▸ withoutReminder_subset _ _) hjob, fun b' hb' hid => ?_⟩
    -- the reminders of the booking are no longer queued
    rw [hp, howes] at hb'
    obtain rfl : b = b' := Option.some.inj hb'
    have hmem := (Agenda.mem_pending.1 hjob).1
    rw [show (_ : World).reminderQueue = _ from hqueue] at hmem
    exact absurd hid.symm ((mem_withoutReminder hs.named).1 hmem).2
  | scheduled b hsettles' howes hnext' hbookings hqueue =>
    have hsettles := hfit.settles b hsettles'
    refine hs.put hbookings hnow.ge (fun job hjob => ?_) (fit_after_of_none hnext hnext')
      fun job hjob t ht => ?_
    · rcases hqueue job hjob with hold | rfl
      · exact hs.named job hold
      · rfl
    · obtain ⟨hmem, hnot⟩ := Agenda.mem_pending.1 hjob
      rcases hqueue job hmem with hold | rfl
      · refine .inr ⟨Agenda.mem_pending.2 ⟨hold, hnot⟩, ?_⟩
        rw [hp, howes]
        rintro b' ⟨⟩
      · -- the new reminder is for the start the party has moved the booking to
        have hstart := hsettles t ht
        exact .inl (by simp only [Booking.reminder]; omega)

theorem RemindersFit.work (hs : RemindersFit s) (hworld : w.world = s.shared.world)
    (htaken : w.taken = s.shared.taken) (howes : (s.procs r).owes = none) (hp : Fit w p) :
    RemindersFit (s.put r w p) := by
  have hbookings : w.world.bookings = s.shared.world.bookings := by rw [hworld]
  refine hs.put hbookings (by rw [hworld]) (by rw [hworld]; exact hs.named) hp
    fun job hjob t ht => .inr ⟨?_, ?_⟩
  · obtain ⟨hmem, hnot⟩ := Agenda.mem_pending.1 hjob
    exact Agenda.mem_pending.2 ⟨hworld ▸ hmem, htaken ▸ hnot⟩
  · rw [howes]
    rintro b ⟨⟩

theorem fit_done (s : Agenda) : Fit s done :=
  ⟨by rintro _ ⟨⟩, by rintro _ ⟨⟩, by rintro _ ⟨⟩, by rintro _ ⟨⟩⟩

/-- A booking that is read to remind of it starts in half an hour at most. -/
theorem fit_gather {s : Agenda} {job : ReminderJob} {b : Booking} (h : Fit s (wake job))
    (hread : reminderBooking job.bookingId s.world = some b) : Fit s (gather b) := by
  obtain ⟨hmem, hid, hactive, -⟩ := reminderBooking_eq_some.1 hread
  refine ⟨by rintro _ ⟨⟩, by rintro _ ⟨⟩, by rintro _ ⟨⟩, ?_⟩
  rintro _ ⟨⟩
  have hstarts : s.Starts b.id b.startAt := ⟨b, hmem, rfl, hactive, rfl⟩
  exact ⟨b.startAt, hstarts, h.wakes job rfl b.startAt (hid ▸ hstarts)⟩

/-- **A command of a party** keeps the invariant. -/
theorem RemindersFit.exec {i : ReminderInput} (hs : RemindersFit s)
    (hG : RemindsInOrder s (.exec r i))
    (h : (s.procs r).exec cal i s.shared = some (w, p)) : RemindersFit (s.put r w p) := by
  have hfit := hs.fit r
  cases hp : s.procs r with
  | idle | done =>
    rw [hp] at h
    cases h
  | request stage =>
    rw [hp] at h
    obtain ⟨⟨w', out⟩, hexec, heq⟩ := Option.map_eq_some_iff.1 h
    cases heq
    exact hs.request hG hp hexec
  -- the worker decides with the booking it has read, whatever becomes of it afterwards
  | wake job =>
    rw [hp] at h hfit
    have howes : (s.procs r).owes = none := by rw [hp]; rfl
    cases hread : reminderBooking job.bookingId s.shared.world with
    | none =>
      simp only [ReminderProc.exec, hread] at h
      cases h
      exact hs.work rfl rfl howes (fit_done _)
    | some b =>
      simp only [ReminderProc.exec, hread] at h
      cases h
      exact hs.work rfl rfl howes (fit_gather hfit hread)
  | gather b =>
    rw [hp] at h hfit
    have howes : (s.procs r).owes = none := by rw [hp]; rfl
    simp only [ReminderProc.exec] at h
    split at h <;> cases h
    · exact hs.work rfl rfl howes (fit_done _)
    · refine hs.work rfl rfl howes ⟨by rintro _ ⟨⟩, by rintro _ ⟨⟩, by rintro _ ⟨⟩, ?_⟩
      exact hfit.holds
  | send b mails =>
    rw [hp] at h
    have howes : (s.procs r).owes = none := by rw [hp]; rfl
    cases h
    exact hs.work rfl rfl howes (fit_done _)

/-- **A party that starts** keeps the invariant. -/
theorem RemindersFit.start {j : ReminderStart} (hs : RemindersFit s)
    (hG : RemindsInOrder s (.start r j)) (hidle : (reminding cal).isIdle (s.procs r) = true)
    (h : (reminding cal).start j s.shared = some (w, p)) : RemindersFit (s.put r w p) := by
  have howes : (s.procs r).owes = none := by
    cases hp : s.procs r with
    | idle => rfl
    | _ =>
      rw [hp] at hidle
      cases hidle
  have hrequest : ∀ stage : RequestStage, stage.kind ≠ .creation →
      (ReminderProc.request stage).settles = none → Fit s.shared (.request stage) := by
    intro stage hkind hsettles
    have hnext : ∀ stage', RequestOutcome.next stage = .next stage' → stage'.kind ≠ .creation := by
      rintro _ ⟨⟩
      exact hkind
    exact fit_after_of_none hnext hsettles
  cases j with
  | cancel actor id reason =>
    cases h
    exact hs.work rfl rfl howes (hrequest _ (by rintro ⟨⟩) rfl)
  | reschedule actor id input =>
    cases h
    exact hs.work rfl rfl howes (hrequest _ (by rintro ⟨⟩) rfl)
  -- a job that is due is the reminder of a stored start, unless its move is not queued yet
  | remind job =>
    obtain ⟨⟨hjob, hdue⟩, h⟩ := Option.ite_none_right_eq_some.1 h
    cases h
    refine hs.put rfl (le_refl _) hs.named ?_ fun j hj t ht => .inr ⟨?_, ?_⟩
    · refine ⟨by rintro _ ⟨⟩, by rintro _ ⟨⟩, ?_, by rintro _ ⟨⟩⟩
      rintro _ ⟨⟩ t ht
      rcases hs.due job hjob t ht with hstart | ⟨r', b, hb, hid⟩
      · show t ≤ s.shared.world.now + reminderLeadMs
        omega
      · exact absurd hid (hG.wakes job rfl r' b hb)
    · obtain ⟨hmem, hnot⟩ := Agenda.mem_pending.1 hj
      exact Agenda.mem_pending.2 ⟨hmem, fun ht => hnot (List.mem_cons_of_mem _ ht)⟩
    · rw [howes]
      rintro b ⟨⟩

omit [DecidableEq R] in
/-- **The surroundings** keep the invariant. -/
theorem RemindersFit.surroundings {e : ReminderEvent} (hs : RemindersFit s)
    (h : (reminding cal).surroundings e s.shared = some w) :
    RemindersFit (⟨w, s.procs⟩ : Reminding R) := by
  have hkeep : w.world.bookings = s.shared.world.bookings →
      s.shared.world.now ≤ w.world.now →
      w.world.reminderQueue ⊆ s.shared.world.reminderQueue →
      w.taken = s.shared.taken → RemindersFit (⟨w, s.procs⟩ : Reminding R) := by
    intro hbookings hnow hqueue htaken
    refine ⟨fun job hjob => hs.named job (hqueue hjob), fun r => (hs.fit r).mono hbookings hnow,
      fun job hjob t ht => ?_⟩
    obtain ⟨hmem, hnot⟩ := Agenda.mem_pending.1 hjob
    exact hs.due job (Agenda.mem_pending.2 ⟨hqueue hmem, htaken ▸ hnot⟩) t
      ((starts_congr hbookings).1 ht)
  cases e with
  | advance ms =>
    cases h
    exact hkeep rfl (Int.le_add_of_nonneg_right (Int.natCast_nonneg ms)) (List.Subset.refl _) rfl
  | setAvailability hrUserId config =>
    cases h
    exact hkeep rfl (le_refl _) (List.Subset.refl _) rfl
  | discard job =>
    obtain ⟨-, h⟩ := Option.ite_none_right_eq_some.1 h
    cases h
    exact hkeep rfl (le_refl _) List.filter_sublist.subset rfl

/-- **An action** that meets the condition keeps the invariant. -/
theorem remindersFit_step {a : RemindingAction R} (hs : RemindersFit s) (hG : RemindsInOrder s a)
    (h : ((reminding cal).machine R).step s a = some s') : RemindersFit s' := by
  cases Program.step_cases h with
  | start hidle hstart => exact hs.start hG hidle hstart
  | exec hexec => exact hs.exec hG hexec
  | surroundings hsur => exact hs.surroundings hsur

omit [DecidableEq R] in
theorem remindersFit_init {s : Agenda} (h : s.InOrder) : RemindersFit (Reminding.init R s) where
  named := h.named
  fit _ := ⟨by rintro _ ⟨⟩, by rintro _ ⟨⟩, by rintro _ ⟨⟩, by rintro _ ⟨⟩⟩
  due job hjob t ht := by
    obtain ⟨b, hb, hid, hactive, rfl⟩ := ht
    exact .inl (h.due job hjob b hb hid hactive)

omit [DecidableEq R] in
theorem RemindersFit.truthful (hs : RemindersFit s) (a : RemindingAction R) : Truthful s a := by
  cases a with
  | exec r i =>
    intro b hb
    have hholds : (s.procs r).holds = some b := by
      cases hp : s.procs r with
      | send => rwa [hp] at hb
      | _ =>
        rw [hp] at hb
        cases hb
    obtain ⟨t, ⟨b', hb', hid, hactive, rfl⟩, hle⟩ := (hs.fit r).holds b hholds
    exact ⟨b', hb', hid, hactive, hle⟩
  | _ => trivial

/-- **Reminders tell the truth** in every run whose steps meet the condition. -/
theorem truthful_of_inOrder {s₀ : Agenda} {as : List (RemindingAction R)} (h₀ : s₀.InOrder)
    (hG : ((reminding cal).machine R).Meets RemindsInOrder (Reminding.init R s₀) as) :
    ((reminding cal).machine R).Meets Truthful (Reminding.init R s₀) as := by
  refine Machine.meets_iff_forall_prefix.2 fun pre a post s hsplit hrun => ?_
  rw [hsplit] at hG
  have hfit := Machine.run_invariant (I := RemindersFit)
    (fun s a s' hs hG h => remindersFit_step hs hG h) (remindersFit_init h₀) hG.of_append hrun
  exact hfit.truthful a

end Steps

/-! ### Two moves of one booking -/

/-- Client 2 holds booking 1 at nine o'clock, and its reminder is queued. -/
def bookedAgenda : Agenda := ⟨bookedWorld, [], []⟩

theorem bookedAgenda_inOrder : bookedAgenda.InOrder :=
  ⟨show ∀ job ∈ bookedWorld.reminderQueue, job.jobId = reminderJobId job.bookingId by
    decide +kernel, by decide +kernel⟩

/-- A party issues its next commands; every service answers, and the worker finds both users. -/
def goesOn {R : Type} (r : R) (commands : ℕ) : List (RemindingAction R) :=
  List.replicate commands
    (.exec r ⟨answering 2 2, [⟨1, "consultant", "Ada", "Noor"⟩, ⟨2, "client", "Ben", "Osei"⟩]⟩)

/-- Time passes until the reminder for a start is due, and the worker takes it up and runs it. -/
def reminds {R : Type} (r : R) (startAt : ℤ) : List (RemindingAction R) :=
  [.surroundings (.advance (startAt - reminderLeadMs).toNat),
    .start r (.remind ⟨reminderJobId 1, 1, startAt - reminderLeadMs⟩)] ++ goesOn r 3

/-- Both ask to move the booking; the consultant reads it once the client has moved it to the next
Monday, and moves it to the one after that when the client's reminder is queued. -/
def movedInOrder : List (RemindingAction (Option Bool)) :=
  [.start none (.reschedule ⟨2, .user⟩ 1 ⟨nextMondayNine, none⟩),
      .start (some false) (.reschedule ⟨1, .hr⟩ 1 ⟨addDays nextMondayNine 7, none⟩)] ++
    goesOn none 5 ++ goesOn (some false) 4 ++ goesOn none 3 ++ goesOn (some false) 4 ++
    reminds (some true) (addDays nextMondayNine 7)

/-- The condition is met, and the e-mails go out. -/
theorem truthful_of_inOrder_movedInOrder :
    (((reminding utcCalendar).machine (Option Bool)).run
      (Reminding.init (Option Bool) bookedAgenda) movedInOrder).map
        (fun s => s.shared.outbox.length) = some 2 ∧
      ((reminding utcCalendar).machine (Option Bool)).Meets Truthful
        (Reminding.init (Option Bool) bookedAgenda) movedInOrder :=
  ⟨by decide +kernel, truthful_of_inOrder bookedAgenda_inOrder (by decide +kernel)⟩

/-- The client moves the booking to the next Monday and the consultant to the one after it.  The
consultant's move is written last, and the client's reminder is queued last. -/
def movedByBoth : List (RemindingAction ℕ) :=
  [.start 0 (.reschedule ⟨2, .user⟩ 1 ⟨nextMondayNine, none⟩),
      .start 1 (.reschedule ⟨1, .hr⟩ 1 ⟨addDays nextMondayNine 7, none⟩)] ++
    goesOn 0 4 ++ goesOn 1 4 ++ goesOn 0 1 ++ goesOn 1 1 ++ goesOn 1 3 ++ goesOn 0 3 ++
    reminds 2 nextMondayNine

/-- **Reminders a week early**: on the next Monday both participants are told that the consultation
starts in half an hour, and it starts a week later. -/
theorem not_truthful :
    ¬ ∀ (R : Type) [DecidableEq R] (cal : TimezoneName → Calendar) (s₀ : Agenda)
      (as : List (RemindingAction R)), s₀.InOrder →
      ((reminding cal).machine R).Meets Truthful (Reminding.init R s₀) as := by
  intro h
  have htruthful := h ℕ utcCalendar bookedAgenda movedByBoth bookedAgenda_inOrder
  exact absurd htruthful (by decide +kernel)

end HrBooking
