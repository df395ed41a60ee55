import HrBooking.Mail.Template

/-!
# The mails of a booking

`enqueueBookingEmails` of `services/booking.service.ts`, the dispatches and the services that end in
it, and the mails of the reminder worker.  A request may get to its mails or not, each of the two
mails may be lost, and nobody is told.

* `BookingMail` : a mail that was queued, with what it is made from.
* `MailOracle` : the accounts that are found, and the mails that are lost.
* `enqueueBookingEmails`, `reminderEmails` : what is queued.
* `Posting` : a service call that may queue mails.
* `Posting.Refines` : without its mails it is the call it was.
-/

namespace HrBooking

/-! ### Mails -/

/-- `EmailKind`, with the extras that its mails are made from. -/
inductive EmailKind where
  | confirmation
  | cancellation (cancelledBy : CancelledBy)
  | reschedule (previousStartAt : ℤ)
  deriving DecidableEq

/-- What a mail says of a booking, beside its data. -/
inductive BookingNews where
  | confirmation
  | cancellation (cancelledBy : CancelledBy) (reason : Option String)
  | reschedule (previousStartAt : ℤ)
  | reminder
  deriving DecidableEq

/-- A mail about a booking : the address and what its text is made from. -/
structure BookingMail where
  address : String
  context : BookingContext
  news : BookingNews

/-- The template that the mail is made with. -/
def BookingMail.request (mail : BookingMail) : MailRequest :=
  match mail.news with
  | .confirmation => .bookingConfirmation mail.context
  | .cancellation cancelledBy reason => .bookingCancellation mail.context cancelledBy reason
  | .reschedule previousStartAt => .bookingReschedule mail.context previousStartAt
  | .reminder => .bookingReminder mail.context

/-- What the mails of a kind say. -/
def EmailKind.news (booking : Booking) : EmailKind → BookingNews
  | confirmation => .confirmation
  | cancellation cancelledBy => .cancellation cancelledBy booking.cancellationReason
  | reschedule previousStartAt => .reschedule previousStartAt

/-- The accounts that a query returns.  An account keeps its address, and no two accounts have the
same one. -/
structure Accounts (email : ObjectId → String) where
  users : List Recipient
  email_eq : ∀ u ∈ users, u.email = email u.id
  id_eq : ∀ u ∈ users, ∀ v ∈ users, u.email = v.email → u.id = v.id

/-- What the surroundings decide about mails. -/
structure MailOracle (email : ObjectId → String) where
  /-- What `User.find` returns, unless it fails. -/
  accounts : Option (Accounts email)
  /-- The addresses whose mails the queue does not take. -/
  lost : List String

section

variable {email : ObjectId → String} (m : MailOracle email)

/-- `enqueueEmail` of every mail; a failure is only logged. -/
def MailOracle.enqueue (mails : List BookingMail) : List BookingMail :=
  mails.filter fun mail => mail.address ∉ m.lost

/-- The mail to one participant. -/
def bookingMail (kind : EmailKind) (booking : Booking) (recipient other : Recipient)
    (timezone : TimezoneName) : BookingMail where
  address := recipient.email
  context := (reminderMail booking none recipient other timezone).context
  news := kind.news booking

/-- `enqueueBookingEmails` ; nothing is sent unless both participants are found. -/
def enqueueBookingEmails (kind : EmailKind) (booking : Booking) : List BookingMail :=
  match m.accounts with
  | none => []
  | some accounts =>
    match accounts.users.find? fun u => u.id = booking.userId,
      accounts.users.find? fun u => u.id = booking.hrUserId with
    | some client, some consultant =>
      m.enqueue [bookingMail kind booking client consultant booking.userTimezone,
        bookingMail kind booking consultant client booking.hrTimezone]
    | _, _ => []

/-- The participants of a booking. -/
def Booking.parties (booking : Booking) : List ObjectId := [booking.userId, booking.hrUserId]

/-- The account is found, and a mail to it is not lost. -/
def MailOracle.Reaches (i : ObjectId) : Prop :=
  ∃ accounts ∈ m.accounts, (∃ u ∈ accounts.users, u.id = i) ∧ email i ∉ m.lost

instance (i : ObjectId) : Decidable (m.Reaches i) := inferInstanceAs (Decidable (∃ _ ∈ _, _))

/-- The mails of a reminder job. -/
def reminderEmails (bookingId : ObjectId) (w : World) : List BookingMail :=
  match reminderBooking bookingId w, m.accounts with
  | some booking, some accounts =>
    m.enqueue ((reminderMails accounts.users (w.meetings.findByKey booking.id) booking).map
      fun mail => ⟨mail.address, mail.context, .reminder⟩)
  | _, _ => []

end

/-! ### Calls that queue mails -/

/-- The shared state and the mails that were queued, in their order. -/
structure Post where
  world : World
  outbox : List BookingMail

/-- A service call that may queue mails. -/
def Posting (α : Type) : Type := Post → Except AppError α × Post

namespace Posting

variable {α β : Type}

instance : Monad Posting where
  pure a := fun s => (.ok a, s)
  bind x f := fun s =>
    match x s with
    | (.ok a, s') => f a s'
    | (.error e, s') => (.error e, s')

theorem bind_apply (x : Posting α) (f : α → Posting β) (s : Post) :
    (x >>= f) s =
      match x s with
      | (.ok a, s') => f a s'
      | (.error e, s') => (.error e, s') := rfl

theorem bind_of_ok {x : Posting α} {f : α → Posting β} {s s' : Post} {a : α}
    (h : x s = (.ok a, s')) : (x >>= f) s = f a s' := by
  rw [bind_apply, h]

theorem bind_of_error {x : Posting α} {f : α → Posting β} {s s' : Post} {e : AppError}
    (h : x s = (.error e, s')) : (x >>= f) s = (.error e, s') := by
  rw [bind_apply, h]

/-- A call that queues none. -/
def call (x : Service α) : Posting α := fun s => ((x s.world).1, ⟨(x s.world).2, s.outbox⟩)

/-- Queue mails. -/
def queue (mails : List BookingMail) : Posting Unit := fun s =>
  (.ok (), ⟨s.world, s.outbox ++ mails⟩)

section Services

variable {email : ObjectId → String} (cal : TimezoneName → Calendar) (o : Oracle)
  (m : MailOracle email)

/-- `dispatchBookingCreated` -/
def dispatchBookingCreated (booking : Booking) : Posting Unit := do
  call (HrBooking.dispatchBookingCreated o booking)
  queue (enqueueBookingEmails m .confirmation booking)

/-- `dispatchBookingCancelled` -/
def dispatchBookingCancelled (booking : Booking) (cancelledBy : CancelledBy) : Posting Unit := do
  call (HrBooking.dispatchBookingCancelled o booking)
  queue (enqueueBookingEmails m (.cancellation cancelledBy) booking)

/-- `dispatchBookingRescheduled` -/
def dispatchBookingRescheduled (booking : Booking) (previousStartAt : ℤ) : Posting Unit := do
  call (HrBooking.dispatchBookingRescheduled o booking)
  queue (enqueueBookingEmails m (.reschedule previousStartAt) booking)

/-- `createBooking` -/
def createBooking (actor : Actor) (input : CreateBookingInput) : Posting Booking := do
  let args ← call (Service.check (createArgs cal o actor input))
  let booking ← call (insertBooking o args)
  dispatchBookingCreated o m booking
  return booking

/-- `cancelBooking` -/
def cancelBooking (actor : Actor) (bookingId : ObjectId) (reason : Option String) :
    Posting Booking := do
  let (booking, role, now) ← call (Service.check (cancelArgs actor bookingId))
  let cancelled := booking.cancel now role reason
  call (saveBooking booking cancelled)
  call (recordCancellation o actor role cancelled reason)
  dispatchBookingCancelled o m cancelled role
  call (Service.check (getBookingForActor actor booking.id))

/-- `rescheduleBooking` -/
def rescheduleBooking (actor : Actor) (bookingId : ObjectId) (input : RescheduleBookingInput) :
    Posting Booking := do
  let args ← call (Service.check (rescheduleArgs cal o actor bookingId input))
  let moved ← call (moveBooking args)
  dispatchBookingRescheduled o m moved args.booking.startAt
  call (Service.check (getBookingForActor actor moved.id))

end Services

/-! ### Without the mails -/

/-- The call answers as the service does and leaves the same shared state. -/
def Refines (x : Posting α) (y : Service α) : Prop :=
  ∀ s, (x s).1 = (y s.world).1 ∧ (x s).2.world = (y s.world).2

section Refines

variable {x : Posting α} {y : Service α} {f : α → Posting β} {g : α → Service β}

theorem refines_call (y : Service α) : (call y).Refines y := fun _ => ⟨rfl, rfl⟩

theorem refines_pure (a : α) : (pure a : Posting α).Refines (pure a) := fun _ => ⟨rfl, rfl⟩

theorem Refines.bind (hx : x.Refines y) (hf : ∀ a, (f a).Refines (g a)) :
    (x >>= f).Refines (y >>= g) := by
  intro s
  obtain ⟨hanswer, hworld⟩ := hx s
  rw [bind_apply, Service.bind_apply]
  rcases hxs : x s with ⟨e | a, s'⟩ <;> rcases hys : y s.world with ⟨e' | a', w'⟩ <;>
    rw [hxs, hys] at hanswer hworld <;> simp only at hanswer hworld <;> cases hanswer <;>
    subst hworld
  · exact ⟨rfl, rfl⟩
  · exact hf a s'

/-- Mails that are queued at the end of a call change nothing else. -/
theorem refines_bind_queue (y : Service Unit) (mails : List BookingMail) :
    (call y >>= fun _ => queue mails).Refines y := by
  intro s
  rw [bind_apply]
  rcases hys : y s.world with ⟨e | a, w'⟩ <;> simp only [call, queue, hys, and_self]

end Refines

section

variable {email : ObjectId → String} {cal : TimezoneName → Calendar} {o : Oracle}
  {m : MailOracle email}

theorem createBooking_refines (actor : Actor) (input : CreateBookingInput) :
    (createBooking cal o m actor input).Refines (HrBooking.createBooking cal o actor input) :=
  .bind (refines_call _) fun _ => .bind (refines_call _) fun _ =>
    .bind (refines_bind_queue _ _) fun _ => refines_pure _

theorem cancelBooking_refines (actor : Actor) (bookingId : ObjectId) (reason : Option String) :
    (cancelBooking o m actor bookingId reason).Refines
      (HrBooking.cancelBooking o actor bookingId reason) :=
  .bind (refines_call _) fun _ => .bind (refines_call _) fun _ => .bind (refines_call _) fun _ =>
    .bind (refines_bind_queue _ _) fun _ => refines_call _

theorem rescheduleBooking_refines (actor : Actor) (bookingId : ObjectId)
    (input : RescheduleBookingInput) :
    (rescheduleBooking cal o m actor bookingId input).Refines
      (HrBooking.rescheduleBooking cal o actor bookingId input) :=
  .bind (refines_call _) fun _ => .bind (refines_call _) fun _ =>
    .bind (refines_bind_queue _ _) fun _ => refines_call _

end

end Posting

end HrBooking
