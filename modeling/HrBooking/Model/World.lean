import HrBooking.Model.Booking
import Mathlib.Order.Defs.Unbundled

/-!
# The state the services share

A `World` is everything the services read and write: the clock, the collections, the queues, and
the provider's calendar with the calls made to it.  What a call cannot know in advance (fresh
identities, which of several matching documents a query returns, whether a queue or the provider
answers) is an `Oracle`.

* `World.SameStore` : nothing but the queues and the audit log has changed.
* `Service` : a service call, which may have written before it throws.
* `Service.Within` : what a call can do at most, whether it answers or throws.
* `findOne` : any one of the matching documents.
-/

namespace HrBooking

/-! ### Queues -/

/-- The kinds of meeting jobs. -/
inductive MeetingJobName where
  | create | sync | cancel
  deriving DecidableEq, Repr

/-- A job of the meeting queue. -/
structure MeetingJob where
  name : MeetingJobName
  bookingId : ObjectId
  /-- How often the job may still be tried. -/
  attemptsLeft : ℕ
  deriving DecidableEq, Repr

/-- `attempts` of the meeting queue. -/
def meetingAttempts : ℕ := 3

/-- A delayed reminder. -/
structure ReminderJob where
  jobId : String
  bookingId : ObjectId
  dueAt : ℤ
  deriving DecidableEq, Repr

/-- How long before the start a reminder is due, in milliseconds. -/
def reminderLeadMs : ℤ := 30 * 60 * 1000

/-- `reminderJobId` -/
def reminderJobId (bookingId : ObjectId) : String := "reminder-" ++ bookingId.text

/-- The audit entry of a cancellation by an admin. -/
structure AuditEntry where
  actorId : ObjectId
  actorRole : UserRole
  bookingId : ObjectId
  reason : Option String
  deriving DecidableEq, Repr

/-! ### The provider -/

/-- The identity of a calendar event. -/
abbrev EventId := ℕ

/-- An event in the consultant's calendar. -/
structure CalendarEvent where
  id : EventId
  bookingId : ObjectId
  startAt : ℤ
  endAt : ℤ
  deriving DecidableEq, Repr

/-- What a conference is created from. -/
structure CreateMeetingInput where
  bookingId : ObjectId
  hostUserId : ObjectId
  startAt : ℤ
  endAt : ℤ
  timeZone : TimezoneName
  deriving DecidableEq

/-- What a conference is moved by. -/
structure UpdateMeetingInput where
  hostUserId : ObjectId
  externalMeetingId : EventId
  externalCalendarId : String
  startAt : ℤ
  endAt : ℤ
  timeZone : TimezoneName
  deriving DecidableEq

/-- What a conference is removed by. -/
structure CancelMeetingInput where
  hostUserId : ObjectId
  externalMeetingId : EventId
  externalCalendarId : String
  deriving DecidableEq

/-- What the provider answers. -/
structure MeetingDetails where
  externalMeetingId : EventId
  externalCalendarId : String
  meetingUrl : Option String
  deriving DecidableEq

/-- A call to the provider with its outcome; a failure has a text. -/
inductive ProviderCall where
  | create (input : CreateMeetingInput) (outcome : Except String MeetingDetails)
  | update (input : UpdateMeetingInput) (outcome : Except String MeetingDetails)
  | cancel (input : CancelMeetingInput) (outcome : Except String Unit)

/-! ### The state -/

/-- The shared state. -/
structure World where
  now : ℤ
  profiles : Collection HRProfile
  availabilities : ObjectId → Option Availability
  bookings : Collection Booking
  meetings : Collection Meeting
  meetingQueue : List MeetingJob
  reminderQueue : List ReminderJob
  auditLog : List AuditEntry
  /-- The live events. -/
  events : List CalendarEvent
  /-- The calls made to the provider, in their order. -/
  providerLog : List ProviderCall
  /-- The identities given to documents. -/
  issuedIds : List ObjectId
  /-- The identities given to events. -/
  issuedEvents : List EventId

/-- Nothing but the queues and the audit log has changed. -/
structure World.SameStore (w w' : World) : Prop where
  now : w'.now = w.now
  profiles : w'.profiles = w.profiles
  availabilities : w'.availabilities = w.availabilities
  bookings : w'.bookings = w.bookings
  meetings : w'.meetings = w.meetings
  events : w'.events = w.events
  providerLog : w'.providerLog = w.providerLog
  issuedIds : w'.issuedIds = w.issuedIds
  issuedEvents : w'.issuedEvents = w.issuedEvents

namespace World.SameStore

theorem of_queues (w : World) (meetingQueue : List MeetingJob) (reminderQueue : List ReminderJob)
    (auditLog : List AuditEntry) :
    w.SameStore { w with meetingQueue, reminderQueue, auditLog } :=
  ⟨rfl, rfl, rfl, rfl, rfl, rfl, rfl, rfl, rfl⟩

theorem refl (w : World) : w.SameStore w := of_queues w _ _ _

theorem trans {w w' w'' : World} (h : w.SameStore w') (h' : w'.SameStore w'') :
    w.SameStore w'' where
  now := h'.now.trans h.now
  profiles := h'.profiles.trans h.profiles
  availabilities := h'.availabilities.trans h.availabilities
  bookings := h'.bookings.trans h.bookings
  meetings := h'.meetings.trans h.meetings
  events := h'.events.trans h.events
  providerLog := h'.providerLog.trans h.providerLog
  issuedIds := h'.issuedIds.trans h.issuedIds
  issuedEvents := h'.issuedEvents.trans h.issuedEvents

end World.SameStore

instance : Std.Refl World.SameStore := ⟨.refl⟩

instance : IsTrans World World.SameStore := ⟨fun _ _ _ => .trans⟩

/-- What no meeting handler touches: the clock, the bookings and the queue of its jobs; identities
are only added. -/
structure World.HandlerFrame (w w' : World) : Prop where
  now : w'.now = w.now
  bookings : w'.bookings = w.bookings
  meetingQueue : w'.meetingQueue = w.meetingQueue
  issuedIds : w.issuedIds ⊆ w'.issuedIds

theorem World.HandlerFrame.refl (w : World) : w.HandlerFrame w :=
  ⟨rfl, rfl, rfl, List.Subset.refl _⟩

instance : Std.Refl World.HandlerFrame := ⟨.refl⟩

instance : IsTrans World World.HandlerFrame := ⟨fun _ _ _ h h' =>
  ⟨h'.now.trans h.now, h'.bookings.trans h.bookings, h'.meetingQueue.trans h.meetingQueue,
    List.Subset.trans h.issuedIds h'.issuedIds⟩⟩

/-- What the surroundings decide in one call. -/
structure Oracle where
  /-- The identity a new document gets. -/
  newId : ObjectId
  /-- Which of the matching documents `findOne` returns. -/
  pick : ℕ
  /-- `meetingQueue.add` rejects. -/
  meetingQueueFails : Bool
  /-- `reminderQueue.add` rejects. -/
  reminderQueueFails : Bool
  /-- `reminderQueue.remove` rejects. -/
  reminderRemoveFails : Bool
  /-- The audit entry is lost. -/
  auditFails : Bool
  /-- The provider call fails, with a text. -/
  providerError : Option String
  /-- The identity a new event gets. -/
  newEvent : EventId
  /-- The calendar the consultant's account names. -/
  calendarId : String
  /-- The link the provider answers. -/
  meetingUrl : Option String

/-- The identities an oracle gives are new. -/
def Oracle.Fresh (o : Oracle) (w : World) : Prop :=
  o.newId ∉ w.issuedIds ∧ o.newEvent ∉ w.issuedEvents

instance (o : Oracle) (w : World) : Decidable (o.Fresh w) := inferInstanceAs (Decidable (_ ∧ _))

/-- No queue call fails. -/
def Oracle.QueuesAnswer (o : Oracle) : Prop :=
  o.meetingQueueFails = false ∧ o.reminderQueueFails = false

instance (o : Oracle) : Decidable o.QueuesAnswer := inferInstanceAs (Decidable (_ ∧ _))

/-- `findOne` : some document satisfying `p`, any one of them. -/
def findOne {D ι κ : Type} [Document D ι κ] (c : Collection D) (pick : ℕ) (p : D → Bool) :
    Option D :=
  let found := c.docs.filter p
  found[pick % found.length]?

theorem findOne_eq_some {D ι κ : Type} [Document D ι κ] {c : Collection D} {pick : ℕ}
    {p : D → Bool} {d : D} (h : findOne c pick p = some d) : d ∈ c ∧ p d = true :=
  List.mem_filter.1 (List.mem_of_getElem? h)

theorem findOne_eq_none {D ι κ : Type} [Document D ι κ] {c : Collection D} {pick : ℕ}
    {p : D → Bool} : findOne c pick p = none ↔ ∀ d ∈ c, p d = false := by
  simp only [findOne, List.getElem?_eq_none_iff]
  constructor
  · intro h d hd
    by_contra hp
    have hmem : d ∈ c.docs.filter p := List.mem_filter.2 ⟨hd, by simpa using hp⟩
    exact absurd (Nat.mod_lt pick (List.length_pos_of_mem hmem)) (not_lt.2 h)
  · intro h
    have hnil : c.docs.filter p = [] := List.filter_eq_nil_iff.2 fun d hd => by simp [h d hd]
    simp [hnil]

/-! ### Service calls -/

/-- A service call: it answers or throws, and may have written before it throws. -/
def Service (α : Type) : Type := World → Except AppError α × World

namespace Service

variable {α β : Type}

instance : Monad Service where
  pure a := fun w => (.ok a, w)
  bind x f := fun w =>
    match x w with
    | (.ok a, w') => f a w'
    | (.error e, w') => (.error e, w')

/-- Answer from the current state, without a write. -/
def read (f : World → α) : Service α := fun w => (.ok (f w), w)

/-- Answer or throw from the current state, without a write. -/
def check (f : World → Except AppError α) : Service α := fun w => (f w, w)

/-- Write. -/
def modify (f : World → World) : Service Unit := fun w => (.ok (), f w)

/-- Throw. -/
def throw (e : AppError) : Service α := fun w => (.error e, w)

theorem bind_apply (x : Service α) (f : α → Service β) (w : World) :
    (x >>= f) w =
      match x w with
      | (.ok a, w') => f a w'
      | (.error e, w') => (.error e, w') := rfl

theorem bind_of_ok {x : Service α} {f : α → Service β} {w w' : World} {a : α}
    (h : x w = (.ok a, w')) : (x >>= f) w = f a w' := by
  rw [bind_apply, h]

theorem bind_of_error {x : Service α} {f : α → Service β} {w w' : World} {e : AppError}
    (h : x w = (.error e, w')) : (x >>= f) w = (.error e, w') := by
  rw [bind_apply, h]

theorem read_bind (f : World → α) (g : α → Service β) (w : World) :
    (read f >>= g) w = g (f w) w := rfl

@[simp] theorem pure_apply (a : α) (w : World) : (pure a : Service α) w = (.ok a, w) := rfl

@[simp] theorem read_apply (f : World → α) (w : World) : read f w = (.ok (f w), w) := rfl

@[simp] theorem check_apply (f : World → Except AppError α) (w : World) :
    check f w = (f w, w) := rfl

@[simp] theorem modify_apply (f : World → World) (w : World) : modify f w = (.ok (), f w) := rfl

@[simp] theorem throw_apply (e : AppError) (w : World) :
    (throw e : Service α) w = (.error e, w) := rfl

/-- Whatever the state, the call leaves one that `P` relates to it. -/
def Within (P : World → World → Prop) (x : Service α) : Prop := ∀ w, P w (x w).2

section Within

variable {P Q : World → World → Prop}

theorem Within.mono {x : Service α} (hx : x.Within P) (h : ∀ w w', P w w' → Q w w') :
    x.Within Q := fun w => h _ _ (hx w)

theorem Within.bind [IsTrans World P] {x : Service α} {f : α → Service β} (hx : x.Within P)
    (hf : ∀ a, (f a).Within P) : (x >>= f).Within P := by
  intro w
  have h := hx w
  rw [bind_apply]
  rcases hxw : x w with ⟨_ | a, w'⟩
  · rwa [hxw] at h
  · rw [hxw] at h
    exact IsTrans.trans _ _ _ h (hf a w')

variable [Std.Refl P]

theorem within_pure (a : α) : (pure a : Service α).Within P := fun w => Std.Refl.refl w

theorem within_read (f : World → α) : (read f).Within P := fun w => Std.Refl.refl w

theorem within_check (f : World → Except AppError α) : (check f).Within P :=
  fun w => Std.Refl.refl w

end Within

end Service

end HrBooking
