import HrBooking.Booking.Notice
import HrBooking.Machine.Replica
import HrBooking.Serial.Reminder

/-!
# What the mails tell

The booking services run one after another and queue their mails, and the reminder worker queues
its own.  Somebody who reads the mails to an address in their order knows of each booking what the
last mail about it said.

* `Told`, `BookingNews.apply`, `bookingMails` : what a reader makes of the mails.
* `posts` : the machine.
* `Post.Mirrored` : the readers get through their mails, and know the bookings as they are stored.
* `PostAction.Delivers` : what an action writes is announced to both participants.
* `mirrored_iff` : the mails are enough exactly when every write is announced.
-/

namespace HrBooking

/-! ### Readers -/

/-- What a mail tells of a booking. -/
structure Told where
  startAt : ℤ
  durationMinutes : ℕ
  priceCents : ℕ
  currency : Currency
  deriving DecidableEq

def BookingContext.told (context : BookingContext) : Told :=
  ⟨context.startAt, context.durationMinutes, context.priceCents, context.currency⟩

/-- The data of a booking that mails tell. -/
def Booking.data (booking : Booking) : Told :=
  ⟨booking.startAt, booking.durationMinutes, booking.priceCents, booking.currency⟩

/-- What there is to know of a booking: nothing once it is cancelled. -/
def Booking.told (booking : Booking) : Option Told :=
  if booking.status = .cancelled then none else some booking.data

/-- What is known after a mail, if it fits what was known before. -/
def BookingNews.apply (told : Told) (known : Option Told) : BookingNews → Option (Option Told)
  | confirmation => if known = none then some (some told) else none
  | cancellation _ _ => if known = some told then some none else none
  | reschedule previousStartAt =>
    match known with
    | none => none
    | some before =>
      if before.startAt = previousStartAt ∧ before.priceCents = told.priceCents ∧
          before.currency = told.currency then some (some told)
      else none
  | reminder => if known = some told then some known else none

/-- Mails as they are read. -/
def bookingMails : Replica ObjectId (Option Told) BookingMail where
  key mail := mail.context.bookingId
  apply mail known := mail.news.apply mail.context.told known

/-- The mails to an address. -/
def inboxOf (address : String) (mails : List BookingMail) : List BookingMail :=
  mails.filter fun mail => mail.address = address

/-- **The mails are enough.**  Every reader gets through the mails to an address, and the
participants of a booking know it as it is stored. -/
def Post.Mirrored (email : ObjectId → String) (s : Post) : Prop :=
  ∃ t : String → ObjectId → Option Told,
    (∀ address, bookingMails.read (fun _ => none) (inboxOf address s.outbox) = some (t address)) ∧
      ∀ b ∈ s.world.bookings, ∀ i ∈ b.parties, t (email i) b.id = b.told

/-! ### The machine -/

/-- A service call of the serial runs with the mails, or a reminder. -/
inductive PostAction (email : ObjectId → String) where
  | call (m : MailOracle email) (a : SerialAction)
  | remind (m : MailOracle email) (bookingId : ObjectId)

/-- A call ends in its state, whatever it answers. -/
def Posting.after {α : Type} (o : Oracle) (call : Posting α) (s : Post) : Option Post :=
  if o.Fresh s.world then some (call s).2 else none

section

variable {email : ObjectId → String} (cal : TimezoneName → Calendar)

/-- A call; most services queue no mails about bookings. -/
def SerialAction.post (m : MailOracle email) (s : Post) : SerialAction → Option Post
  | createBooking o actor input => (Posting.createBooking cal o m actor input).after o s
  | cancelBooking o actor bookingId reason =>
    (Posting.cancelBooking o m actor bookingId reason).after o s
  | rescheduleBooking o actor bookingId input =>
    (Posting.rescheduleBooking cal o m actor bookingId input).after o s
  | a => (a.exec cal s.world).map fun world => { s with world }

/-- One action. -/
def PostAction.exec (s : Post) : PostAction email → Option Post
  | call m a => a.post cal m s
  | remind m bookingId => some ⟨s.world, s.outbox ++ reminderEmails m bookingId s.world⟩

/-- The services and their mails as a machine. -/
def posts (email : ObjectId → String) : Machine Post (PostAction email) :=
  ⟨fun s a => a.exec cal s⟩

/-! ### What is announced -/

/-- A booking that a request writes, and the mails about it. -/
structure Announcement where
  oracle : Oracle
  booking : Booking
  kind : EmailKind

/-- What an action writes, when its checks and the index let it through. -/
def SerialAction.announces (w : World) : SerialAction → Option Announcement
  | createBooking o actor input =>
    match createArgs cal o actor input w with
    | .error _ => none
    | .ok args =>
      (w.bookings.insert (newBooking o.newId args)).map fun _ =>
        ⟨o, newBooking o.newId args, .confirmation⟩
  | cancelBooking o actor bookingId reason =>
    match cancelArgs actor bookingId w with
    | .error _ => none
    | .ok (booking, role, now) =>
      (w.bookings.update booking.id (saveCancelled booking (booking.cancel now role reason))).map
        fun _ => ⟨o, booking.cancel now role reason, .cancellation role⟩
  | rescheduleBooking o actor bookingId input =>
    match rescheduleArgs cal o actor bookingId input w with
    | .error _ => none
    | .ok args =>
      (w.bookings.update args.booking.id args.apply).map fun _ =>
        ⟨o, args.apply args.booking, .reschedule args.booking.startAt⟩
  | _ => none

/-- The reminder of the booking is scheduled again. -/
def Announcement.Schedules (x : Announcement) (now : ℤ) : Prop :=
  match x.kind with
  | .cancellation _ => False
  | _ => 0 < x.booking.startAt - reminderLeadMs - now

instance (x : Announcement) (now : ℤ) : Decidable (x.Schedules now) := by
  unfold Announcement.Schedules
  split <;> infer_instance

/-- The queues that come before the mails answer. -/
def Announcement.GetsToMails (x : Announcement) (now : ℤ) : Prop :=
  x.oracle.meetingQueueFails = false ∧ (x.Schedules now → x.oracle.reminderQueueFails = false)

instance (x : Announcement) (now : ℤ) : Decidable (x.GetsToMails now) :=
  inferInstanceAs (Decidable (_ ∧ _))

/-- The mails that are queued. -/
def Announcement.mails (m : MailOracle email) (now : ℤ) (x : Announcement) : List BookingMail :=
  if x.GetsToMails now then enqueueBookingEmails m x.kind x.booking else []

/-- What an action writes is announced to both participants. -/
def PostAction.Delivers (s : Post) : PostAction email → Prop
  | call m a => ∀ x ∈ a.announces cal s.world, x.oracle.Fresh s.world →
      x.GetsToMails s.world.now ∧ ∀ i ∈ x.booking.parties, m.Reaches i
  | remind .. => True

instance (s : Post) (action : PostAction email) : Decidable (action.Delivers cal s) := by
  cases action <;> unfold PostAction.Delivers <;> infer_instance

end

/-! ### What is queued -/

section Queued

variable {email : ObjectId → String} {m : MailOracle email} {kind : EmailKind} {b : Booking}
  {mails mails' : List BookingMail} {mail : BookingMail} {address : String}

theorem inboxOf_append :
    inboxOf address (mails ++ mails') = inboxOf address mails ++ inboxOf address mails' :=
  List.filter_append ..

theorem mem_inboxOf : mail ∈ inboxOf address mails ↔ mail ∈ mails ∧ mail.address = address := by
  rw [inboxOf, List.mem_filter, decide_eq_true_iff]

/-- What a mail about a booking says. -/
structure BookingMail.Says (mail : BookingMail) (kind : EmailKind) (b : Booking) : Prop where
  bookingId : mail.context.bookingId = b.id
  told : mail.context.told = b.data
  news : mail.news = kind.news b

theorem bookingMail_says (recipient other : Recipient) (timezone : TimezoneName) :
    (bookingMail kind b recipient other timezone).Says kind b := ⟨rfl, rfl, rfl⟩

theorem enqueueBookingEmails_cases (m : MailOracle email) (kind : EmailKind) (b : Booking) :
    ((∃ i ∈ b.parties, ∀ accounts ∈ m.accounts, ∀ u ∈ accounts.users, u.id ≠ i) ∧
        enqueueBookingEmails m kind b = []) ∨
      ∃ accounts ∈ m.accounts, ∃ client ∈ accounts.users, ∃ consultant ∈ accounts.users,
        client.id = b.userId ∧ consultant.id = b.hrUserId ∧
        enqueueBookingEmails m kind b =
          m.enqueue [bookingMail kind b client consultant b.userTimezone,
            bookingMail kind b consultant client b.hrTimezone] := by
  unfold enqueueBookingEmails
  cases haccounts : m.accounts with
  | none => exact .inl ⟨⟨b.userId, List.mem_cons_self, fun _ h => by cases h⟩, rfl⟩
  | some accounts =>
    have hmissing : ∀ {i}, accounts.users.find? (fun u => u.id = i) = none →
        ∀ accounts' ∈ some accounts, ∀ u ∈ accounts'.users, u.id ≠ i := by
      rintro i hnone _ ⟨⟩ u hu
      simpa using List.find?_eq_none.1 hnone u hu
    cases hclient : accounts.users.find? fun u => u.id = b.userId with
    | none =>
      exact .inl ⟨⟨b.userId, List.mem_cons_self, hmissing hclient⟩, by simp only [hclient]⟩
    | some client =>
      cases hconsultant : accounts.users.find? fun u => u.id = b.hrUserId with
      | none =>
        exact .inl ⟨⟨b.hrUserId, List.mem_cons_of_mem _ List.mem_cons_self,
          hmissing hconsultant⟩, by simp only [hclient, hconsultant]⟩
      | some consultant =>
        exact .inr ⟨accounts, rfl, client, List.mem_of_find?_eq_some hclient, consultant,
          List.mem_of_find?_eq_some hconsultant,
          by simpa using List.find?_some hclient, by simpa using List.find?_some hconsultant,
          by simp only [hclient, hconsultant]⟩

theorem says_of_mem (h : mail ∈ enqueueBookingEmails m kind b) : mail.Says kind b := by
  rcases enqueueBookingEmails_cases m kind b with
    ⟨-, hnone⟩ | ⟨accounts, -, client, -, consultant, -, -, -, hsome⟩
  · rw [hnone] at h
    cases h
  · rw [hsome] at h
    rcases List.mem_cons.1 (List.mem_filter.1 h).1 with rfl | h
    · exact bookingMail_says ..
    · obtain rfl := List.mem_singleton.1 h
      exact bookingMail_says ..

theorem address_of_mem (h : mail ∈ enqueueBookingEmails m kind b) :
    ∃ i ∈ b.parties, mail.address = email i := by
  rcases enqueueBookingEmails_cases m kind b with
    ⟨-, hnone⟩ | ⟨accounts, -, client, hclient, consultant, hconsultant, hid, hid', hsome⟩
  · rw [hnone] at h
    cases h
  · rw [hsome] at h
    rcases List.mem_cons.1 (List.mem_filter.1 h).1 with rfl | h
    · exact ⟨b.userId, List.mem_cons_self, hid ▸ accounts.email_eq client hclient⟩
    · obtain rfl := List.mem_singleton.1 h
      exact ⟨b.hrUserId, List.mem_cons_of_mem _ List.mem_cons_self,
        hid' ▸ accounts.email_eq consultant hconsultant⟩

theorem inboxOf_of_reaches (kind : EmailKind) (hne : b.userId ≠ b.hrUserId)
    (h : ∀ i ∈ b.parties, m.Reaches i) :
    ∀ i ∈ b.parties, ∃ mail, inboxOf (email i) (enqueueBookingEmails m kind b) = [mail] ∧
      mail.Says kind b := by
  rcases enqueueBookingEmails_cases m kind b with
    ⟨⟨i, hi, hmissing⟩, -⟩ | ⟨accounts, haccounts, client, hclient, consultant, hconsultant,
      hid, hid', hsome⟩
  · obtain ⟨accounts, haccounts, ⟨u, hu, hid⟩, -⟩ := h i hi
    exact absurd hid (hmissing accounts haccounts u hu)
  · obtain ⟨-, -, -, hkept⟩ := h b.userId List.mem_cons_self
    obtain ⟨-, -, -, hkept'⟩ := h b.hrUserId (List.mem_cons_of_mem _ List.mem_cons_self)
    have hto : client.email = email b.userId := hid ▸ accounts.email_eq client hclient
    have hto' : consultant.email = email b.hrUserId :=
      hid' ▸ accounts.email_eq consultant hconsultant
    have hdistinct : email b.userId ≠ email b.hrUserId := by
      rw [← hto, ← hto']
      intro heq
      exact hne (hid ▸ hid' ▸ accounts.id_eq client hclient consultant hconsultant heq)
    rw [hsome]
    intro i hi
    rcases List.mem_cons.1 hi with rfl | hi
    · refine ⟨_, ?_, bookingMail_says client consultant b.userTimezone⟩
      simp [inboxOf, MailOracle.enqueue, bookingMail, hto, hto', hkept, hkept', hdistinct.symm]
    · obtain rfl := List.mem_singleton.1 hi
      refine ⟨_, ?_, bookingMail_says consultant client b.hrTimezone⟩
      simp [inboxOf, MailOracle.enqueue, bookingMail, hto, hto', hkept, hkept', hdistinct]

theorem inboxOf_of_not_reaches (h : ¬ ∀ i ∈ b.parties, m.Reaches i) :
    ∃ i ∈ b.parties, inboxOf (email i) (enqueueBookingEmails m kind b) = [] := by
  rcases enqueueBookingEmails_cases m kind b with
    ⟨-, hnone⟩ | ⟨accounts, haccounts, client, hclient, consultant, hconsultant, hid, hid', hsome⟩
  · rw [hnone]
    exact ⟨b.userId, List.mem_cons_self, rfl⟩
  · -- both are found, so a mail to one of them is lost
    have hfound : ∀ i ∈ b.parties, ∃ u ∈ accounts.users, u.id = i := by
      intro i hi
      rcases List.mem_cons.1 hi with rfl | hi
      · exact ⟨client, hclient, hid⟩
      · exact ⟨consultant, hconsultant, hid'.trans (List.mem_singleton.1 hi).symm⟩
    obtain ⟨i, hi, hlost⟩ : ∃ i ∈ b.parties, email i ∈ m.lost := by
      by_contra hall
      refine h fun i hi => ⟨accounts, haccounts, hfound i hi, fun hmem => hall ⟨i, hi, hmem⟩⟩
    refine ⟨i, hi, List.filter_eq_nil_iff.2 fun mail hmail => ?_⟩
    rw [hsome] at hmail
    have hkept : mail.address ∉ m.lost := of_decide_eq_true (List.mem_filter.1 hmail).2
    rw [decide_eq_true_iff]
    rintro heq
    exact hkept (heq ▸ hlost)

end Queued

/-! ### What the services queue -/

namespace Posting

section

variable {email : ObjectId → String} {cal : TimezoneName → Calendar} {o : Oracle}
  {m : MailOracle email} {α β : Type} {s : Post} {w : World} {b : Booking}

theorem dispatchBookingCreated_eq_ok_iff (b : Booking) :
    (HrBooking.dispatchBookingCreated o b w).1 = .ok () ↔
      o.meetingQueueFails = false ∧
        (0 < b.startAt - reminderLeadMs - w.now → o.reminderQueueFails = false) := by
  unfold HrBooking.dispatchBookingCreated
  rcases addMeetingJob_cases (o := o) (w := w) .create b.id with ⟨hfails, hadd⟩ | ⟨hanswers, hadd⟩
  · rw [Service.bind_of_error hadd, hfails]
    simp
  · rw [Service.bind_of_ok hadd, hanswers, scheduleReminder_eq_ok_iff]
    exact (and_iff_right rfl).symm

theorem dispatchBookingCancelled_eq_ok_iff (b : Booking) :
    (HrBooking.dispatchBookingCancelled o b w).1 = .ok () ↔ o.meetingQueueFails = false := by
  unfold HrBooking.dispatchBookingCancelled
  rcases addMeetingJob_cases (o := o) (w := w) .cancel b.id with ⟨hfails, hadd⟩ | ⟨hanswers, hadd⟩
  · rw [Service.bind_of_error hadd, hfails]
    simp
  · rw [Service.bind_of_ok hadd, hanswers]
    obtain ⟨queue, hremove⟩ := removeReminder_eq_ok (o := o) (w := { w with
      meetingQueue := w.meetingQueue ++ [⟨.cancel, b.id, meetingAttempts⟩] }) b.id
    rw [hremove]
    simp

theorem dispatchBookingRescheduled_eq_ok_iff (b : Booking) :
    (HrBooking.dispatchBookingRescheduled o b w).1 = .ok () ↔
      o.meetingQueueFails = false ∧
        (0 < b.startAt - reminderLeadMs - w.now → o.reminderQueueFails = false) := by
  unfold HrBooking.dispatchBookingRescheduled
  rcases addMeetingJob_cases (o := o) (w := w) .sync b.id with ⟨hfails, hadd⟩ | ⟨hanswers, hadd⟩
  · rw [Service.bind_of_error hadd, hfails]
    simp
  · rw [Service.bind_of_ok hadd, hanswers]
    obtain ⟨queue, hremove⟩ := removeReminder_eq_ok (o := o) (w := { w with
      meetingQueue := w.meetingQueue ++ [⟨.sync, b.id, meetingAttempts⟩] }) b.id
    rw [Service.bind_of_ok hremove, scheduleReminder_eq_ok_iff]
    exact (and_iff_right rfl).symm

theorem outbox_bind_queue {y : Service Unit} {mails : List BookingMail} {P : Prop} [Decidable P]
    (h : (y s.world).1 = .ok () ↔ P) :
    ((call y >>= fun _ => queue mails) s).2.outbox = s.outbox ++ if P then mails else [] := by
  rw [bind_apply]
  rcases hys : y s.world with ⟨e | _, w'⟩
  · have hP : ¬ P := by
      rw [← h, hys]
      exact nofun
    simp [call, hys, hP]
  · have hP : P := by
      rw [← h, hys]
    simp [call, queue, hys, hP]

theorem outbox_bind {x : Posting α} {f : α → Posting β}
    (hf : ∀ a s, (f a s).2.outbox = s.outbox) : ((x >>= f) s).2.outbox = (x s).2.outbox := by
  rw [bind_apply]
  rcases x s with ⟨e | a, s'⟩
  · rfl
  · exact hf a s'

theorem announces_createBooking (actor : Actor) (input : CreateBookingInput) :
    (SerialAction.createBooking o actor input).announces cal w =
      match createArgs cal o actor input w with
      | .error _ => none
      | .ok args =>
        (w.bookings.insert (newBooking o.newId args)).map fun _ =>
          ⟨o, newBooking o.newId args, .confirmation⟩ := rfl

theorem announces_cancelBooking (actor : Actor) (id : ObjectId) (reason : Option String) :
    (SerialAction.cancelBooking o actor id reason).announces cal w =
      match cancelArgs actor id w with
      | .error _ => none
      | .ok (booking, role, now) =>
        (w.bookings.update booking.id (saveCancelled booking (booking.cancel now role reason))).map
          fun _ => ⟨o, booking.cancel now role reason, .cancellation role⟩ := rfl

theorem announces_rescheduleBooking (actor : Actor) (id : ObjectId)
    (input : RescheduleBookingInput) :
    (SerialAction.rescheduleBooking o actor id input).announces cal w =
      match rescheduleArgs cal o actor id input w with
      | .error _ => none
      | .ok args =>
        (w.bookings.update args.booking.id args.apply).map fun _ =>
          ⟨o, args.apply args.booking, .reschedule args.booking.startAt⟩ := rfl

theorem createBooking_outbox (actor : Actor) (input : CreateBookingInput) :
    (createBooking cal o m actor input s).2.outbox = s.outbox ++
      ((SerialAction.createBooking o actor input).announces cal s.world).elim []
        fun x => x.mails m s.world.now := by
  rw [announces_createBooking, createBooking]
  cases hargs : createArgs cal o actor input s.world with
  | error e =>
    have hcall : call (Service.check (createArgs cal o actor input)) s = (.error e, s) := by
      simp only [call, Service.check_apply, hargs]
    rw [bind_of_error hcall]
    simp
  | ok args =>
    have hcall : call (Service.check (createArgs cal o actor input)) s = (.ok args, s) := by
      simp only [call, Service.check_apply, hargs]
    rw [bind_of_ok hcall]
    obtain ⟨profile, -, -, -, hconsultant⟩ := createArgs_eq_ok.1 hargs
    have hinsert := insertBooking_of_free (o := o) hconsultant
    cases hins : s.world.bookings.insert (newBooking o.newId args) with
    | none =>
      have hcall : call (insertBooking o args) s =
          (.error .slotTaken, ⟨{ s.world with issuedIds := o.newId :: s.world.issuedIds },
            s.outbox⟩) := by
        simp only [call, hinsert, hins]
      rw [bind_of_error hcall]
      simp [hins]
    | some c =>
      have hcall : call (insertBooking o args) s = (.ok (newBooking o.newId args),
          ⟨{ s.world with issuedIds := o.newId :: s.world.issuedIds, bookings := c },
            s.outbox⟩) := by
        simp only [call, hinsert, hins]
      rw [bind_of_ok hcall, outbox_bind fun _ _ => rfl]
      simp only [hins, Option.map_some, Option.elim_some]
      exact outbox_bind_queue (dispatchBookingCreated_eq_ok_iff _)

theorem cancelBooking_outbox (actor : Actor) (id : ObjectId) (reason : Option String) :
    (cancelBooking o m actor id reason s).2.outbox = s.outbox ++
      ((SerialAction.cancelBooking o actor id reason).announces cal s.world).elim []
        fun x => x.mails m s.world.now := by
  rw [announces_cancelBooking, cancelBooking]
  cases hargs : cancelArgs actor id s.world with
  | error e =>
    have hcall : call (Service.check (cancelArgs actor id)) s = (.error e, s) := by
      simp only [call, Service.check_apply, hargs]
    rw [bind_of_error hcall]
    simp
  | ok args =>
    obtain ⟨b, role, now⟩ := args
    have hcall : call (Service.check (cancelArgs actor id)) s = (.ok (b, role, now), s) := by
      simp only [call, Service.check_apply, hargs]
    rw [bind_of_ok hcall]
    obtain ⟨booking, hfind, hrest⟩ := bind_eq_ok.1 hargs
    obtain ⟨role', -, hrest⟩ := bind_eq_ok.1 hrest
    cases hrest
    obtain ⟨hmem, -⟩ := findBooking_eq_ok.1 hfind
    have hsave := saveBooking_of_mem hmem rfl (b.cancel s.world.now role reason)
    simp only
    -- a save that is refused ends the call before its mails
    cases hupd : s.world.bookings.update b.id
        (saveCancelled b (b.cancel s.world.now role reason)) with
    | none =>
      have hcall : call (saveBooking b (b.cancel s.world.now role reason)) s =
          (.error .internal, s) := by
        simp only [call, hsave, hupd]
      rw [bind_of_error hcall]
      simp
    | some c =>
      have hcall : call (saveBooking b (b.cancel s.world.now role reason)) s =
          (.ok (), ⟨{ s.world with bookings := c }, s.outbox⟩) := by
        simp only [call, hsave, hupd]
      obtain ⟨auditLog, hrecord⟩ := recordCancellation_eq_ok (o := o)
        (w := { s.world with bookings := c }) actor role (b.cancel s.world.now role reason) reason
      have hcall' : call (recordCancellation o actor role (b.cancel s.world.now role reason) reason)
          ⟨{ s.world with bookings := c }, s.outbox⟩ =
            (.ok (), ⟨{ s.world with bookings := c, auditLog }, s.outbox⟩) := by
        simp only [call, hrecord]
      rw [bind_of_ok hcall, bind_of_ok hcall', outbox_bind fun _ _ => rfl]
      refine outbox_bind_queue ((dispatchBookingCancelled_eq_ok_iff _).trans ?_)
      exact (and_iff_left (fun h => h.elim)).symm

theorem rescheduleBooking_outbox (actor : Actor) (id : ObjectId) (input : RescheduleBookingInput) :
    (rescheduleBooking cal o m actor id input s).2.outbox = s.outbox ++
      ((SerialAction.rescheduleBooking o actor id input).announces cal s.world).elim []
        fun x => x.mails m s.world.now := by
  rw [announces_rescheduleBooking, rescheduleBooking]
  cases hargs : rescheduleArgs cal o actor id input s.world with
  | error e =>
    have hcall : call (Service.check (rescheduleArgs cal o actor id input)) s = (.error e, s) := by
      simp only [call, Service.check_apply, hargs]
    rw [bind_of_error hcall]
    simp
  | ok args =>
    have hcall : call (Service.check (rescheduleArgs cal o actor id input)) s = (.ok args, s) := by
      simp only [call, Service.check_apply, hargs]
    rw [bind_of_ok hcall]
    obtain ⟨booking, role, hmem, -, hrole, hmove, -, -⟩ := rescheduleArgs_eq_ok.1 hargs
    obtain ⟨-, hactive, -, -, hne⟩ := assertReschedulable_eq_ok.1 hrole
    obtain ⟨-, rfl⟩ := moveArgs_sound hmove hne
    have hmoved := moveBooking_of_active hmem rfl hactive
    cases hupd : s.world.bookings.update args.booking.id args.apply with
    | none =>
      have hcall : call (moveBooking args) s = (.error .slotTaken, s) := by
        simp only [call, hmoved, hupd]
      rw [bind_of_error hcall]
      simp [hupd]
    | some c =>
      have hcall : call (moveBooking args) s =
          (.ok (args.apply args.booking), ⟨{ s.world with bookings := c }, s.outbox⟩) := by
        simp only [call, hmoved, hupd]
      rw [bind_of_ok hcall, outbox_bind fun _ _ => rfl]
      simp only [hupd, Option.map_some, Option.elim_some]
      exact outbox_bind_queue (dispatchBookingRescheduled_eq_ok_iff _)

end

end Posting

/-! ### What an action does -/

/-- What is known of a booking before it is written: nothing when it is new. -/
inductive KnownBefore (w : World) (b : Booking) : Option Told → Prop
  | new (hid : b.id ∉ w.issuedIds) : KnownBefore w b none
  | stored (d : Booking) (hd : d ∈ w.bookings) (hid : d.id = b.id)
      (hparties : d.parties = b.parties) : KnownBefore w b d.told

/-- What a call does to the bookings and the mails. -/
inductive PostEffect {email : ObjectId → String} (cal : TimezoneName → Calendar)
    (m : MailOracle email) (s : Post) (a : SerialAction) (s' : Post) : Prop
  | quiet (h : a.announces cal s.world = none)
      (hstored : ∀ b ∈ s'.world.bookings, ∃ d ∈ s.world.bookings,
        d.id = b.id ∧ d.parties = b.parties ∧ d.told = b.told)
      (hids : s.world.issuedIds ⊆ s'.world.issuedIds) (houtbox : s'.outbox = s.outbox)
  | wrote (x : Announcement) (known : Option Told) (h : a.announces cal s.world = some x)
      (hfresh : x.oracle.Fresh s.world) (hbefore : KnownBefore s.world x.booking known)
      (hfits : (x.kind.news x.booking).apply x.booking.data known = some x.booking.told)
      (hchange : known ≠ x.booking.told) (hne : x.booking.userId ≠ x.booking.hrUserId)
      (hwrites : Writes s.world.bookings x.booking s'.world.bookings)
      (hids : s.world.issuedIds ⊆ s'.world.issuedIds)
      (hid : x.booking.id ∈ s'.world.issuedIds)
      (houtbox : s'.outbox = s.outbox ++ x.mails m s.world.now)

/-- Bookings and mails are about issued identities, and nobody books a consultation with
themselves. -/
structure Post.Issued (s : Post) : Prop where
  mails : ∀ mail ∈ s.outbox, mail.context.bookingId ∈ s.world.issuedIds
  bookings : ∀ b ∈ s.world.bookings, b.id ∈ s.world.issuedIds ∧ b.userId ≠ b.hrUserId

section Effects

variable {email : ObjectId → String} {cal : TimezoneName → Calendar} {o : Oracle}
  {m : MailOracle email} {s s' : Post} {a : SerialAction} {b : Booking}

theorem Booking.told_of_active (h : b.isActive) : b.told = some b.data := if_neg h.ne_cancelled

theorem Posting.after_eq_some {α : Type} {call : Posting α} :
    call.after o s = some s' ↔ o.Fresh s.world ∧ (call s).2 = s' := by
  unfold Posting.after
  split_ifs with h <;> simp [h]

theorem writes_insert {c c' : Collection Booking} (h : c.insert b = some c') : Writes c b c' := by
  have hnew : ∀ d ∈ c, d.id ≠ b.id := fun d hd => ((Collection.insert_eq_some.1 h).1 d hd).1
  intro e
  rw [Collection.mem_insert h]
  constructor
  · rintro (he | rfl)
    · exact .inr ⟨he, hnew e he⟩
    · exact .inl rfl
  · rintro (rfl | ⟨he, -⟩)
    · exact .inr rfl
    · exact .inl he

theorem PostEffect.of_bookings_eq (h : a.announces cal s.world = none)
    (hbookings : s'.world.bookings = s.world.bookings)
    (hids : s.world.issuedIds ⊆ s'.world.issuedIds) (houtbox : s'.outbox = s.outbox) :
    PostEffect cal m s a s' :=
  .quiet h (fun b hb => ⟨b, hbookings ▸ hb, rfl, rfl, rfl⟩) hids houtbox

theorem createBooking_posts (hfresh : o.Fresh s.world) (actor : Actor)
    (input : CreateBookingInput) :
    PostEffect cal m s (.createBooking o actor input)
      (Posting.createBooking cal o m actor input s).2 := by
  have hworld : (Posting.createBooking cal o m actor input s).2.world = _ :=
    (Posting.createBooking_refines actor input s).2
  have houtbox : (Posting.createBooking cal o m actor input s).2.outbox = _ :=
    Posting.createBooking_outbox actor input
  rcases createBooking_cases cal o s.world actor input with
    ⟨⟨e, w₁, hrun, hw₁⟩, hrefused⟩ | ⟨args, c, hargs, hins, hrun⟩
  · -- nothing is written, and nothing is announced
    have hnone : (SerialAction.createBooking o actor input).announces cal s.world = none := by
      rw [Posting.announces_createBooking]
      cases hargs : createArgs cal o actor input s.world with
      | error e => rfl
      | ok args => simp only [hrefused args hargs, Option.map_none]
    rw [hnone, Option.elim_none, List.append_nil] at houtbox
    rw [hrun] at hworld
    refine .of_bookings_eq hnone ?_ ?_ houtbox
    · rw [hworld]
      rcases hw₁ with rfl | rfl <;> rfl
    · rw [hworld]
      rcases hw₁ with rfl | rfl
      · exact List.Subset.refl _
      · exact List.subset_cons_self _ _
  · have hsome : (SerialAction.createBooking o actor input).announces cal s.world =
        some ⟨o, newBooking o.newId args, .confirmation⟩ := by
      rw [Posting.announces_createBooking, hargs]
      simp only [hins, Option.map_some]
    rw [hsome, Option.elim_some] at houtbox
    obtain ⟨profile, hprofile, hoffered, -, -⟩ := createArgs_eq_ok.1 hargs
    obtain ⟨-, rfl⟩ := offeredArgs_eq_ok.1 hoffered
    have hself : actor.id ≠ profile.userId := (bookableProfile_eq_ok.1 hprofile).2.2.2.2.symm
    -- the dispatches leave the store alone
    have hsame : World.SameStore
        { s.world with issuedIds := o.newId :: s.world.issuedIds, bookings := c }
        (createBooking cal o actor input s.world).2 := by
      rw [hrun]
      exact Service.Within.bind (dispatchBookingCreated_within _) (fun _ => Service.within_pure _) _
    rw [← hworld] at hsame
    refine .wrote _ none hsome hfresh (.new hfresh.1) rfl nofun hself ?_ ?_ ?_ houtbox
    · rw [hsame.bookings]
      exact writes_insert hins
    · rw [hsame.issuedIds]
      exact List.subset_cons_self _ _
    · rw [hsame.issuedIds]
      exact List.mem_cons_self

theorem cancelBooking_posts (hs : s.Issued) (hfresh : o.Fresh s.world) (actor : Actor)
    (id : ObjectId) (reason : Option String) :
    PostEffect cal m s (.cancelBooking o actor id reason)
      (Posting.cancelBooking o m actor id reason s).2 := by
  have hworld : (Posting.cancelBooking o m actor id reason s).2.world = _ :=
    (Posting.cancelBooking_refines actor id reason s).2
  have houtbox : (Posting.cancelBooking o m actor id reason s).2.outbox = s.outbox ++
      ((SerialAction.cancelBooking o actor id reason).announces cal s.world).elim []
        fun x => x.mails m s.world.now :=
    Posting.cancelBooking_outbox actor id reason
  rcases cancelBooking_cases o s.world actor id reason with
    ⟨⟨e, hrun⟩, hrefused⟩ | ⟨d, role, c, hargs, hmem, -, hactive, hupd, hrun⟩
  · -- nothing is written, and nothing is announced
    have hnone : (SerialAction.cancelBooking o actor id reason).announces cal s.world = none := by
      rw [Posting.announces_cancelBooking]
      cases hargs : cancelArgs actor id s.world with
      | error e => rfl
      | ok args =>
        obtain ⟨d, role, now⟩ := args
        obtain ⟨_, -, hrest⟩ := bind_eq_ok.1 hargs
        obtain ⟨_, -, hrest⟩ := bind_eq_ok.1 hrest
        cases hrest
        simp only [hrefused _ _ hargs, Option.map_none]
    rw [hnone, Option.elim_none, List.append_nil] at houtbox
    rw [hrun] at hworld
    exact .of_bookings_eq hnone (by rw [hworld]) (by rw [hworld]; exact List.Subset.refl _) houtbox
  · have hsome : (SerialAction.cancelBooking o actor id reason).announces cal s.world =
        some ⟨o, d.cancel s.world.now role reason, .cancellation role⟩ := by
      rw [Posting.announces_cancelBooking, hargs]
      simp only [hupd, Option.map_some]
    rw [hsome, Option.elim_some] at houtbox
    -- the audit entry and the dispatches leave the store alone
    have hsame : World.SameStore { s.world with bookings := c }
        (cancelBooking o actor id reason s.world).2 := by
      rw [hrun]
      exact Service.Within.bind (recordCancellation_within _ _ _ _)
        (fun _ => .bind (dispatchBookingCancelled_within _) fun _ => Service.within_pure _) _
    rw [← hworld] at hsame
    have hknown : d.told = some d.data := Booking.told_of_active hactive
    refine .wrote _ d.told hsome hfresh (.stored d hmem rfl rfl) ?_ ?_ (hs.bookings d hmem).2 ?_ ?_
      ?_ houtbox
    · rw [hknown]
      exact if_pos rfl
    · rw [hknown]
      exact nofun
    · rw [hsame.bookings]
      have hwrites := writes_update hmem rfl hupd
      rwa [saveCancelled_self] at hwrites
    · rw [hsame.issuedIds]
      exact List.Subset.refl _
    · rw [hsame.issuedIds]
      exact (hs.bookings d hmem).1

theorem rescheduleBooking_posts (hs : s.Issued) (hfresh : o.Fresh s.world) (actor : Actor)
    (id : ObjectId) (input : RescheduleBookingInput) :
    PostEffect cal m s (.rescheduleBooking o actor id input)
      (Posting.rescheduleBooking cal o m actor id input s).2 := by
  have hworld : (Posting.rescheduleBooking cal o m actor id input s).2.world = _ :=
    (Posting.rescheduleBooking_refines actor id input s).2
  have houtbox : (Posting.rescheduleBooking cal o m actor id input s).2.outbox = _ :=
    Posting.rescheduleBooking_outbox actor id input
  rcases rescheduleBooking_cases cal o s.world actor id input with
    ⟨⟨e, hrun⟩, hrefused⟩ | ⟨args, c, hargs, hmem, -, hactive, hupd, hrun⟩
  · -- nothing is written, and nothing is announced
    have hnone : (SerialAction.rescheduleBooking o actor id input).announces cal s.world =
        none := by
      rw [Posting.announces_rescheduleBooking]
      cases hargs : rescheduleArgs cal o actor id input s.world with
      | error e => rfl
      | ok args => simp only [hrefused args hargs, Option.map_none]
    rw [hnone, Option.elim_none, List.append_nil] at houtbox
    rw [hrun] at hworld
    exact .of_bookings_eq hnone (by rw [hworld]) (by rw [hworld]; exact List.Subset.refl _) houtbox
  · have hsome : (SerialAction.rescheduleBooking o actor id input).announces cal s.world =
        some ⟨o, args.apply args.booking, .reschedule args.booking.startAt⟩ := by
      rw [Posting.announces_rescheduleBooking, hargs]
      simp only [hupd, Option.map_some]
    rw [hsome, Option.elim_some] at houtbox
    -- the dispatches leave the store alone
    have hsame : World.SameStore { s.world with bookings := c }
        (rescheduleBooking cal o actor id input s.world).2 := by
      rw [hrun]
      exact Service.Within.bind (dispatchBookingRescheduled_within _)
        (fun _ => Service.within_pure _) _
    rw [← hworld] at hsame
    obtain ⟨d, role, -, -, hrole, hmove, -, -⟩ := rescheduleArgs_eq_ok.1 hargs
    obtain ⟨-, -, -, -, hstart⟩ := assertReschedulable_eq_ok.1 hrole
    obtain ⟨hsound, rfl⟩ := moveArgs_sound hmove hstart
    have hknown : args.booking.told = some args.booking.data := Booking.told_of_active hactive
    have htold : (args.apply args.booking).told = some (args.apply args.booking).data :=
      Booking.told_of_active hactive
    refine .wrote _ args.booking.told hsome hfresh (.stored args.booking hmem rfl rfl) ?_ ?_
      (hs.bookings _ hmem).2 ?_ ?_ ?_ houtbox
    · rw [hknown, htold]
      exact if_pos ⟨rfl, rfl, rfl⟩
    · rw [hknown, htold]
      intro heq
      exact hsound.start_ne (congrArg Told.startAt (Option.some.inj heq)).symm
    · rw [hsame.bookings]
      exact writes_update hmem rfl hupd
    · rw [hsame.issuedIds]
      exact List.Subset.refl _
    · rw [hsame.issuedIds]
      exact (hs.bookings _ hmem).1

/-- **What a call does to the bookings and the mails.** -/
theorem post_cases (hs : s.Issued) (h : a.post cal m s = some s') : PostEffect cal m s a s' := by
  cases a with
  | createBooking o actor input =>
    obtain ⟨hfresh, rfl⟩ := Posting.after_eq_some.1 h
    exact createBooking_posts hfresh actor input
  | cancelBooking o actor id reason =>
    obtain ⟨hfresh, rfl⟩ := Posting.after_eq_some.1 h
    exact cancelBooking_posts hs hfresh actor id reason
  | rescheduleBooking o actor id input =>
    obtain ⟨hfresh, rfl⟩ := Posting.after_eq_some.1 h
    exact rescheduleBooking_posts hs hfresh actor id input
  | retryBookingMeeting o actor id =>
    obtain ⟨w, hw, rfl⟩ := Option.map_eq_some_iff.1 h
    obtain ⟨-, rfl⟩ := Service.after_eq_some.1 hw
    have hframe := (retryBookingMeeting_writes (o := o) actor id s.world).frame
    exact .of_bookings_eq rfl hframe.bookings hframe.issuedIds rfl
  | runJob o name id =>
    obtain ⟨w, hw, rfl⟩ := Option.map_eq_some_iff.1 h
    obtain ⟨-, rfl⟩ := Service.after_eq_some.1 hw
    have hframe := (name.handle_writes (o := o) id s.world).frame
    exact .of_bookings_eq rfl hframe.bookings hframe.issuedIds rfl
  | updateAvailability | setProfiles | advance =>
    cases h
    exact .of_bookings_eq rfl rfl (List.Subset.refl _) rfl
  | sweep =>
    cases h
    refine .quiet rfl (fun b hb => ?_) (List.Subset.refl _) rfl
    rcases mem_lifecycleSweep hb with hb | ⟨d, hd, hdue, rfl⟩
    · exact ⟨b, hb, rfl, rfl, rfl⟩
    · -- a booking that is over is still known
      exact ⟨d, hd, rfl, rfl, (Booking.told_of_active hdue.1).trans (if_neg nofun).symm⟩

end Effects

/-! ### What the readers know -/

section Readers

variable {email : ObjectId → String} {cal : TimezoneName → Calendar} {m : MailOracle email}
  {s s' : Post} {a : SerialAction} {b : Booking} {t : String → ObjectId → Option Told}

/-- The mails about a booking whose identity has not been issued. -/
theorem Post.Issued.about_eq_nil (hs : s.Issued) {id : ObjectId} (hid : id ∉ s.world.issuedIds)
    (address : String) : bookingMails.about id (inboxOf address s.outbox) = [] := by
  refine List.filter_eq_nil_iff.2 fun mail hmail => ?_
  rw [decide_eq_true_iff]
  rintro rfl
  exact hid (hs.mails mail (mem_inboxOf.1 hmail).1)

theorem KnownBefore.eq {known : Option Told} (h : KnownBefore s.world b known) (hs : s.Issued)
    (hreads : ∀ address, bookingMails.read (fun _ => none) (inboxOf address s.outbox) =
      some (t address))
    (hknows : ∀ b ∈ s.world.bookings, ∀ i ∈ b.parties, t (email i) b.id = b.told) :
    ∀ i ∈ b.parties, t (email i) b.id = known := by
  intro i hi
  cases h with
  | new hid =>
    have hread := Replica.read_eq_some_iff.1 (hreads (email i)) b.id
    rw [hs.about_eq_nil hid] at hread
    exact (Option.some.inj hread).symm
  | stored d hd hid hparties =>
    rw [← hid]
    exact hknows d hd i (hparties ▸ hi)

/-- Mails that say the same of one booking change what is known of it, and of nothing else. -/
theorem read_append_mail {mail : BookingMail} {known told : Option Told} {mails : List BookingMail}
    {t : ObjectId → Option Told} (hread : bookingMails.read (fun _ => none) mails = some t)
    (hknown : t mail.context.bookingId = known)
    (hfits : mail.news.apply mail.context.told known = some told) :
    bookingMails.read (fun _ => none) (mails ++ [mail]) =
      some (Function.update t mail.context.bookingId told) := by
  rw [Replica.read_eq_some_iff] at hread ⊢
  intro id
  rw [Replica.about_append]
  by_cases hid : mail.context.bookingId = id
  · subst hid
    have hlast : bookingMails.about mail.context.bookingId [mail] = [mail] :=
      Replica.about_cons_self rfl
    rw [hlast, Replica.readFrom_concat (hread _), Function.update_self, hknown]
    exact hfits
  · have hother : bookingMails.about id [mail] = [] := Replica.about_cons_of_ne hid
    rw [hother, List.append_nil, Function.update_of_ne (Ne.symm hid)]
    exact hread id

theorem Announcement.inboxOf_eq_nil {x : Announcement} {now : ℤ} {address : String}
    (h : ∀ i ∈ x.booking.parties, address ≠ email i) : inboxOf address (x.mails m now) = [] := by
  refine List.filter_eq_nil_iff.2 fun mail hmail => ?_
  rw [decide_eq_true_iff]
  intro haddress
  unfold Announcement.mails at hmail
  split_ifs at hmail with hgets
  · obtain ⟨i, hi, heq⟩ := address_of_mem hmail
    exact h i hi (haddress.symm.trans heq)
  · cases hmail

/-- When a write is announced to both participants, what is known of the booking is what it has
become. -/
theorem mirrored_of_announced {x : Announcement} {known : Option Told} (hs : s.Issued)
    (hm : s.Mirrored email) (hbefore : KnownBefore s.world x.booking known)
    (hfits : (x.kind.news x.booking).apply x.booking.data known = some x.booking.told)
    (hne : x.booking.userId ≠ x.booking.hrUserId)
    (hwrites : Writes s.world.bookings x.booking s'.world.bookings)
    (houtbox : s'.outbox = s.outbox ++ x.mails m s.world.now)
    (hgets : x.GetsToMails s.world.now) (hreaches : ∀ i ∈ x.booking.parties, m.Reaches i) :
    s'.Mirrored email := by
  obtain ⟨t, hreads, hknows⟩ := hm
  have hknown := hbefore.eq hs hreads hknows
  have hmails : x.mails m s.world.now = enqueueBookingEmails m x.kind x.booking := if_pos hgets
  -- both participants learn the booking anew, and everybody else knows what they knew
  refine ⟨fun address => if ∃ i ∈ x.booking.parties, address = email i then
    Function.update (t address) x.booking.id x.booking.told else t address, ?_, ?_⟩
  · intro address
    beta_reduce
    rw [houtbox, inboxOf_append]
    split_ifs with hparty
    · obtain ⟨i, hi, rfl⟩ := hparty
      obtain ⟨mail, hmail, hsaid⟩ := inboxOf_of_reaches x.kind hne hreaches i hi
      have hwas : t (email i) mail.context.bookingId = known := hsaid.bookingId ▸ hknown i hi
      rw [hmails, hmail, ← hsaid.bookingId]
      refine read_append_mail (hreads (email i)) hwas ?_
      rw [hsaid.told, hsaid.news]
      exact hfits
    · rw [Announcement.inboxOf_eq_nil fun i hi heq => hparty ⟨i, hi, heq⟩, List.append_nil]
      exact hreads address
  · intro e he i hi
    rcases (hwrites e).1 he with rfl | ⟨he, hid⟩
    · simp only [if_pos (⟨i, hi, rfl⟩ : ∃ j ∈ x.booking.parties, email i = email j),
        Function.update_self]
    · have heq := hknows e he i hi
      beta_reduce
      split_ifs
      · rwa [Function.update_of_ne hid]
      · exact heq

theorem not_mirrored_of_unannounced {x : Announcement} {known : Option Told} (hs : s.Issued)
    (hm : s.Mirrored email) (hbefore : KnownBefore s.world x.booking known)
    (hchange : known ≠ x.booking.told)
    (hwrites : Writes s.world.bookings x.booking s'.world.bookings)
    (houtbox : s'.outbox = s.outbox ++ x.mails m s.world.now)
    (hnot : ¬ (x.GetsToMails s.world.now ∧ ∀ i ∈ x.booking.parties, m.Reaches i)) :
    ¬ s'.Mirrored email := by
  rintro ⟨t', hreads', hknows'⟩
  obtain ⟨t, hreads, hknows⟩ := hm
  obtain ⟨i, hi, hnone⟩ : ∃ i ∈ x.booking.parties,
      inboxOf (email i) (x.mails m s.world.now) = [] := by
    by_cases hgets : x.GetsToMails s.world.now
    · rw [Announcement.mails, if_pos hgets]
      exact inboxOf_of_not_reaches fun hreaches => hnot ⟨hgets, hreaches⟩
    · rw [Announcement.mails, if_neg hgets]
      exact ⟨_, List.mem_cons_self, rfl⟩
  have hsame : t' (email i) = t (email i) := by
    have hread := hreads' (email i)
    rw [houtbox, inboxOf_append, hnone, List.append_nil, hreads (email i)] at hread
    exact (Option.some.inj hread).symm
  have hstored := hknows' x.booking ((hwrites _).2 (.inl rfl)) i hi
  rw [hsame, hbefore.eq hs hreads hknows i hi] at hstored
  exact hchange hstored

/-- **After a call** the mails are enough exactly when what it wrote was announced. -/
theorem PostEffect.mirrored_iff_delivers (h : PostEffect cal m s a s') (hs : s.Issued)
    (hm : s.Mirrored email) :
    s'.Mirrored email ↔ (PostAction.call m a).Delivers cal s := by
  cases h with
  | quiet h hstored hids houtbox =>
    refine iff_of_true ?_ fun x hx => by rw [h] at hx; cases hx
    obtain ⟨t, hreads, hknows⟩ := hm
    refine ⟨t, houtbox ▸ hreads, fun b hb i hi => ?_⟩
    obtain ⟨d, hd, hid, hparties, htold⟩ := hstored b hb
    rw [← hid, ← htold]
    exact hknows d hd i (hparties ▸ hi)
  | wrote x known h hfresh hbefore hfits hchange hne hwrites hids hid houtbox =>
    constructor
    · intro hm' y hy _
      obtain rfl : x = y := Option.some.inj (h.symm.trans hy)
      by_contra hnot
      exact not_mirrored_of_unannounced hs hm hbefore hchange hwrites houtbox hnot hm'
    · intro hdelivers
      obtain ⟨hgets, hreaches⟩ := hdelivers x h hfresh
      exact mirrored_of_announced hs hm hbefore hfits hne hwrites houtbox hgets hreaches

theorem PostEffect.issued (h : PostEffect cal m s a s') (hs : s.Issued) : s'.Issued := by
  cases h with
  | quiet h hstored hids houtbox =>
    refine ⟨fun mail hmail => hids (hs.mails mail (houtbox ▸ hmail)), fun b hb => ?_⟩
    obtain ⟨d, hd, hid, hparties, -⟩ := hstored b hb
    obtain ⟨hissued, hne⟩ := hs.bookings d hd
    obtain ⟨huser, hrest⟩ := List.cons.inj hparties
    exact ⟨hids (hid ▸ hissued), huser ▸ (List.cons.inj hrest).1 ▸ hne⟩
  | wrote x known h hfresh hbefore hfits hchange hne hwrites hids hid houtbox =>
    refine ⟨fun mail hmail => ?_, fun b hb => ?_⟩
    · rw [houtbox] at hmail
      rcases List.mem_append.1 hmail with hmail | hmail
      · exact hids (hs.mails mail hmail)
      · unfold Announcement.mails at hmail
        split_ifs at hmail with hgets
        · exact (says_of_mem hmail).bookingId ▸ hid
        · cases hmail
    · rcases (hwrites b).1 hb with rfl | ⟨hb, -⟩
      · exact ⟨hid, hne⟩
      · exact ⟨hids (hs.bookings b hb).1, (hs.bookings b hb).2⟩

/-! ### Reminders -/

theorem mem_reminderEmails {id : ObjectId} {w : World} {mail : BookingMail}
    (h : mail ∈ reminderEmails m id w) :
    ∃ b ∈ w.bookings, b.isActive ∧ (∃ i ∈ b.parties, mail.address = email i) ∧
      mail.context.bookingId = b.id ∧ mail.context.told = b.data ∧ mail.news = .reminder := by
  unfold reminderEmails at h
  split at h
  · rename_i b accounts hbooking haccounts
    obtain ⟨hb, -, hactive, -⟩ := reminderBooking_eq_some.1 hbooking
    refine ⟨b, hb, hactive, ?_⟩
    obtain ⟨reminder, hreminder, rfl⟩ := List.mem_map.1 (List.mem_filter.1 h).1
    unfold reminderMails at hreminder
    split at hreminder
    · rename_i client consultant hclient hconsultant
      have hto : client.email = email b.userId := by
        rw [accounts.email_eq client (List.mem_of_find?_eq_some hclient)]
        exact congrArg email (by simpa using List.find?_some hclient)
      have hto' : consultant.email = email b.hrUserId := by
        rw [accounts.email_eq consultant (List.mem_of_find?_eq_some hconsultant)]
        exact congrArg email (by simpa using List.find?_some hconsultant)
      rcases List.mem_cons.1 hreminder with rfl | hreminder
      · exact ⟨⟨b.userId, List.mem_cons_self, hto⟩, rfl, rfl, rfl⟩
      · obtain rfl := List.mem_singleton.1 hreminder
        exact ⟨⟨b.hrUserId, List.mem_cons_of_mem _ List.mem_cons_self, hto'⟩, rfl, rfl, rfl⟩
    · cases hreminder
  · cases h

theorem mirrored_remind (hm : s.Mirrored email) (id : ObjectId) :
    Post.Mirrored email ⟨s.world, s.outbox ++ reminderEmails m id s.world⟩ := by
  obtain ⟨t, hreads, hknows⟩ := hm
  refine ⟨t, fun address => ?_, hknows⟩
  have hread := hreads address
  rw [Replica.read_eq_some_iff] at hread ⊢
  intro id'
  rw [inboxOf_append, Replica.about_append]
  refine Replica.readFrom_append_eq_some.2 ⟨_, hread id', Replica.readFrom_of_forall ?_⟩
  intro mail hmail
  obtain ⟨hmail, hid⟩ := List.mem_filter.1 hmail
  obtain ⟨hmail, haddress⟩ := mem_inboxOf.1 hmail
  obtain ⟨b, hb, hactive, ⟨i, hi, hto⟩, hbooking, htold, hnews⟩ := mem_reminderEmails hmail
  have hkey : b.id = id' := hbooking.symm.trans (of_decide_eq_true hid)
  have hknown : t address id' = some mail.context.told := by
    rw [← hkey, ← haddress, hto, hknows b hb i hi, htold]
    exact Booking.told_of_active hactive
  change mail.news.apply mail.context.told (t address id') = _
  rw [hnews, hknown]
  exact if_pos rfl

/-! ### Runs -/

theorem issued_step {action : PostAction email} (hs : s.Issued)
    (h : (posts cal email).step s action = some s') : s'.Issued := by
  cases action with
  | call m a => exact (post_cases hs h).issued hs
  | remind m id =>
    obtain rfl := Option.some.inj h
    refine ⟨fun mail hmail => ?_, hs.bookings⟩
    rcases List.mem_append.1 hmail with hmail | hmail
    · exact hs.mails mail hmail
    · obtain ⟨b, hb, -, -, hid, -, -⟩ := mem_reminderEmails hmail
      exact hid ▸ (hs.bookings b hb).1

theorem mirrored_step_iff {action : PostAction email} (hs : s.Issued) (hm : s.Mirrored email)
    (h : (posts cal email).step s action = some s') :
    s'.Mirrored email ↔ action.Delivers cal s := by
  cases action with
  | call m a => exact (post_cases hs h).mirrored_iff_delivers hs hm
  | remind m id =>
    obtain rfl := Option.some.inj h
    exact iff_of_true (mirrored_remind hm id) trivial

theorem delivers_of_refused {action : PostAction email}
    (h : (posts cal email).step s action = none) : action.Delivers cal s := by
  have hafter : ∀ {α : Type} {o : Oracle} {call : Posting α}, call.after o s = none →
      ¬ o.Fresh s.world := by
    intro α o call hnone hfresh
    rw [Posting.after, if_pos hfresh] at hnone
    cases hnone
  -- a call is refused only when what it is given has been used before
  cases action with
  | remind m id => trivial
  | call m a =>
    intro x hx hfresh
    cases a with
    | createBooking o actor input =>
      have horacle : x.oracle = o := by
        rw [Posting.announces_createBooking] at hx
        split at hx
        · cases hx
        · obtain ⟨c, -, rfl⟩ := Option.map_eq_some_iff.1 hx
          rfl
      exact absurd (horacle ▸ hfresh) (hafter h)
    | cancelBooking o actor id reason =>
      have horacle : x.oracle = o := by
        rw [Posting.announces_cancelBooking] at hx
        split at hx
        · cases hx
        · obtain ⟨c, -, rfl⟩ := Option.map_eq_some_iff.1 hx
          rfl
      exact absurd (horacle ▸ hfresh) (hafter h)
    | rescheduleBooking o actor id input =>
      have horacle : x.oracle = o := by
        rw [Posting.announces_rescheduleBooking] at hx
        split at hx
        · cases hx
        · obtain ⟨c, -, rfl⟩ := Option.map_eq_some_iff.1 hx
          rfl
      exact absurd (horacle ▸ hfresh) (hafter h)
    | _ => cases hx

/-- **The mails tell everything.**  From a state without bookings and mails, the readers know in
every state of a run how all their bookings are stored, exactly when every booking that is written
is announced to both its participants. -/
theorem mirrored_iff (email : ObjectId → String) (cal : TimezoneName → Calendar) {s : Post}
    (hbookings : s.world.bookings = .empty) (houtbox : s.outbox = [])
    (as : List (PostAction email)) :
    (∀ bs s', bs <+: as → (posts cal email).run s bs = some s' → s'.Mirrored email) ↔
      (posts cal email).Meets (fun s action => action.Delivers cal s) s as := by
  have hissued : s.Issued := by
    refine ⟨fun mail hmail => ?_, fun b hb => ?_⟩
    · rw [houtbox] at hmail
      cases hmail
    · exact absurd (hbookings ▸ hb) (Collection.not_mem_empty b)
  have hmirrored : s.Mirrored email := by
    refine ⟨fun _ _ => none, fun address => by rw [houtbox]; rfl, fun b hb => ?_⟩
    exact absurd (hbookings ▸ hb) (Collection.not_mem_empty b)
  rw [Machine.forall_prefix_iff, and_iff_right hmirrored]
  refine Machine.meets_congr (I := fun s => s.Issued ∧ s.Mirrored email) ?_ ?_
    ⟨hissued, hmirrored⟩
  · rintro s action ⟨hs, hm⟩
    cases hstep : (posts cal email).step s action with
    | none => exact iff_of_true nofun (delivers_of_refused hstep)
    | some s' =>
      rw [← mirrored_step_iff hs hm hstep]
      exact ⟨fun h => h s' rfl, fun h _ heq => Option.some.inj heq ▸ h⟩
  · rintro s action s' ⟨hs, hm⟩ hdelivers hstep
    exact ⟨issued_step hs hstep, (mirrored_step_iff hs hm hstep).2 hdelivers⟩

end Readers

/-! ### A booking whose mails arrive -/

/-- The consultant's address and the client's. -/
def mondayEmail : ObjectId → String := fun id => if id = 1 then "consultant" else "client"

/-- Surroundings that lose no mail to consultant 1 and client 2. -/
def mondayMails : MailOracle mondayEmail where
  accounts := some
    ⟨[⟨1, "consultant", "Ada", "Noor"⟩, ⟨2, "client", "Ben", "Osei"⟩], by decide, by decide⟩
  lost := []

/-- No mail is queued over the Monday schedule. -/
def mondayPost : Post := ⟨mondayWorld, []⟩

/-- Client 2 books a Monday slot, the consultant moves it, both are reminded, and the client
cancels. -/
def movedAndCancelledWithMails : List (PostAction mondayEmail) :=
  [.call mondayMails (.createBooking (answering 1 1) ⟨2, .user⟩ (slotAt mondayNine)),
    .call mondayMails (.rescheduleBooking (answering 2 2) ⟨1, .hr⟩ 1
      ⟨addMinutes mondayNine 60, none⟩),
    .remind mondayMails 1,
    .call mondayMails (.cancelBooking (answering 3 3) ⟨2, .user⟩ 1 none)]

/-- The client and the consultant know of the booking in every state of the run. -/
theorem mirrored_iff_movedAndCancelled :
    ((posts utcCalendar mondayEmail).run mondayPost movedAndCancelledWithMails).isSome ∧
      ∀ bs s', bs <+: movedAndCancelledWithMails →
        (posts utcCalendar mondayEmail).run mondayPost bs = some s' → s'.Mirrored mondayEmail :=
  ⟨by decide +kernel, (mirrored_iff mondayEmail utcCalendar rfl rfl movedAndCancelledWithMails).2
    (by decide +kernel)⟩

end HrBooking
