import HrBooking.Backend.Record
import HrBooking.Profile.Review

/-!
# Bookings of suspended accounts

A request for a booking passes `loadUser` of `middlewares/auth.ts`, which refuses accounts that are
not active.  A suspension leaves the profile, the schedule and the bookings of the account as they
are, so the other party of a booking may be suspended.

* `loadUser`, `createBookingRequest`, `rescheduleBookingRequest` : requests as they reach the
  booking services.
* `market` : accounts, profiles, schedules and bookings, one call after another.
* `books_cases` : what a request does to the bookings.
* `requesters_active` : the client who books and the requester who moves are active.
* `not_parties_active` : the consultant who is booked may be suspended.
-/

namespace HrBooking

/-! ### Requests -/

/-- `loadUser` : the account of an access token, while it is active. -/
def loadUser (user : Actor) (p : Platform) : Except AppError Actor :=
  match p.users.findById user.id with
  | none => .error (.unauthorized "Account is no longer active.")
  | some found =>
    if found.status ≠ .active then .error (.unauthorized "Account is no longer active.")
    else .ok ⟨found.id, found.role⟩

/-- A call of a booking service. -/
def Platform.call {α : Type} (p : Platform) (x : Service α) : Answer α :=
  ((x p.world).1, { p with world := (x p.world).2 })

section

variable (cal : TimezoneName → Calendar) (o : Oracle)

/-- A request to create a booking. -/
def createBookingRequest (user : Actor) (input : CreateBookingInput) (p : Platform) :
    Answer Booking :=
  (p.answer (loadUser user p)).andThen fun actor p => p.call (createBooking cal o actor input)

/-- A request to move a booking. -/
def rescheduleBookingRequest (user : Actor) (bookingId : ObjectId) (input : RescheduleBookingInput)
    (p : Platform) : Answer Booking :=
  (p.answer (loadUser user p)).andThen fun actor p =>
    p.call (rescheduleBooking cal o actor bookingId input)

end

/-! ### The machine -/

/-- The accounts with the bookings, and the profiles with their content. -/
structure Market where
  platform : Platform
  activeSlugs : List String
  documents : Collection HRProfileDocument

/-- What the profile services see. -/
def Market.directory (m : Market) : Directory :=
  ⟨m.platform.world.now, m.activeSlugs, m.platform.users, m.documents⟩

/-- A profile service writes accounts and profiles; the booking services read a part of them. -/
def Market.withDirectory (m : Market) (d : Directory) : Market :=
  { m with
    platform :=
      { m.platform with
        users := d.users
        world :=
          { m.platform.world with
            profiles := d.profiles.map HRProfileDocument.toHRProfile (fun _ => rfl) fun _ => rfl } }
    documents := d.profiles }

/-- One call, with its surroundings. -/
inductive MarketAction where
  | suspendUser (userId : ObjectId)
  | reactivateUser (userId : ObjectId)
  | profile (call : ProfileCall)
  | updateAvailability (hrUserId : ObjectId) (config : SlotConfig)
  | createBooking (o : Oracle) (user : Actor) (input : CreateBookingInput)
  | rescheduleBooking (o : Oracle) (user : Actor) (bookingId : ObjectId)
      (input : RescheduleBookingInput)
  | advance (ms : ℕ)
  | offer (slugs : List String)

/-- One action; refused only when an identity is not new. -/
def MarketAction.exec (cal : TimezoneName → Calendar) (m : Market) : MarketAction → Option Market
  | suspendUser userId => some { m with platform := (HrBooking.suspendUser userId m.platform).2 }
  | reactivateUser userId =>
    some { m with platform := (HrBooking.reactivateUser userId m.platform).2 }
  | profile call =>
    if call.Fresh m.directory then some (m.withDirectory (call.answer m.directory).2) else none
  | updateAvailability hrUserId config =>
    some { m with platform := m.platform.onWorld (HrBooking.updateAvailability hrUserId config) }
  | createBooking o user input =>
    if o.Fresh m.platform.world then
      some { m with platform := (createBookingRequest cal o user input m.platform).2 }
    else none
  | rescheduleBooking o user bookingId input =>
    if o.Fresh m.platform.world then
      some { m with platform := (rescheduleBookingRequest cal o user bookingId input m.platform).2 }
    else none
  | advance ms => some { m with platform := m.platform.advance ms }
  | offer slugs => some { m with activeSlugs := slugs }

/-- Accounts, profiles, schedules and bookings as a machine. -/
def market (cal : TimezoneName → Calendar) : Machine Market MarketAction :=
  ⟨fun m a => a.exec cal m⟩

/-- The stored bookings. -/
def Market.bookings (m : Market) : Collection Booking := m.platform.world.bookings

/-- The account has the status. -/
def Market.IsUser (m : Market) (id : ObjectId) (status : UserStatus) : Prop :=
  ∃ u ∈ m.platform.users, u.id = id ∧ u.status = status

instance (m : Market) (id : ObjectId) (status : UserStatus) : Decidable (m.IsUser id status) :=
  inferInstanceAs (Decidable (∃ u ∈ m.platform.users, u.id = id ∧ u.status = status))

/-! ### What a request does to the bookings -/

section Requests

variable {cal : TimezoneName → Calendar} {o : Oracle} {p : Platform} {user actor : Actor}

theorem loadUser_eq_ok (h : loadUser user p = .ok actor) :
    ∃ u ∈ p.users, u.id = user.id ∧ u.status = .active ∧ actor = ⟨u.id, u.role⟩ := by
  unfold loadUser at h
  split at h
  · cases h
  · rename_i u hfind
    obtain ⟨hmem, hid⟩ := Collection.findById_eq_some.1 hfind
    split_ifs at h with hactive
    exact ⟨u, hmem, hid, not_not.1 hactive, (Except.ok.inj h).symm⟩

variable (cal) in
theorem createBookingRequest_cases (user : Actor) (input : CreateBookingInput) (p : Platform) :
    (createBookingRequest cal o user input p).2 = p ∨
      ∃ actor, loadUser user p = .ok actor ∧ (createBookingRequest cal o user input p).2 =
        { p with world := (createBooking cal o actor input p.world).2 } := by
  unfold createBookingRequest
  cases hload : loadUser user p with
  | error e => exact .inl rfl
  | ok actor => exact .inr ⟨actor, rfl, rfl⟩

variable (cal) in
theorem rescheduleBookingRequest_cases (user : Actor) (bookingId : ObjectId)
    (input : RescheduleBookingInput) (p : Platform) :
    (rescheduleBookingRequest cal o user bookingId input p).2 = p ∨
      ∃ actor, loadUser user p = .ok actor ∧
        (rescheduleBookingRequest cal o user bookingId input p).2 =
          { p with world := (rescheduleBooking cal o actor bookingId input p.world).2 } := by
  unfold rescheduleBookingRequest
  cases hload : loadUser user p with
  | error e => exact .inl rfl
  | ok actor => exact .inr ⟨actor, rfl, rfl⟩

end Requests

/-- What an action does to the bookings: nothing, or an active account creates one or moves one. -/
inductive Books (m : Market) (a : MarketAction) (m' : Market) : Prop
  | none (h : m'.bookings = m.bookings)
  | create (u : User) (hu : u ∈ m.platform.users) (hactive : u.status = .active) (b : Booking)
      (hclient : b.userId = u.id) (h : m.bookings.insert b = some m'.bookings)
  | move (o : Oracle) (user : Actor) (b : Booking) (input : RescheduleBookingInput)
      (ha : a = .rescheduleBooking o user b.id input) (u : User) (hu : u ∈ m.platform.users)
      (hid : u.id = user.id) (hactive : u.status = .active)
      (hrole : (assertParticipant ⟨u.id, u.role⟩ b).isOk = true) (hb : b ∈ m.bookings)
      (f : Booking → Booking) (hf : ∀ x, (f x).id = x.id)
      (h : m.bookings.update b.id f = some m'.bookings)

section Steps

variable {cal : TimezoneName → Calendar} {m m' : Market} {a : MarketAction}

theorem createBookingRequest_books {o : Oracle} (user : Actor) (input : CreateBookingInput) :
    Books m a { m with platform := (createBookingRequest cal o user input m.platform).2 } := by
  rcases createBookingRequest_cases cal (o := o) user input m.platform with
    heq | ⟨actor, hload, heq⟩
  · exact .none (congrArg (fun p => p.world.bookings) heq)
  · obtain ⟨u, hu, -, hactive, rfl⟩ := loadUser_eq_ok hload
    rcases createBooking_bookings cal (o := o) (w := m.platform.world) ⟨u.id, u.role⟩
      input with ⟨hsame, -⟩ | ⟨args, hargs, hins⟩
    · refine .none ?_
      show (createBookingRequest cal o user input m.platform).2.world.bookings = _
      rw [heq]
      exact hsame
    · obtain ⟨profile, -, hoffered, -, -⟩ := createArgs_eq_ok.1 hargs
      obtain ⟨-, rfl⟩ := offeredArgs_eq_ok.1 hoffered
      refine .create u hu hactive (newBooking o.newId _) rfl (hins.trans ?_)
      show _ = some (createBookingRequest cal o user input m.platform).2.world.bookings
      rw [heq]

theorem rescheduleBookingRequest_books {o : Oracle} {user : Actor} {bookingId : ObjectId}
    {input : RescheduleBookingInput} (ha : a = .rescheduleBooking o user bookingId input) :
    Books m a
      { m with
        platform := (rescheduleBookingRequest cal o user bookingId input m.platform).2 } := by
  rcases rescheduleBookingRequest_cases cal (o := o) user bookingId input m.platform with
    heq | ⟨actor, hload, heq⟩
  · exact .none (congrArg (fun p => p.world.bookings) heq)
  · obtain ⟨u, hu, hid, hactive, rfl⟩ := loadUser_eq_ok hload
    rcases rescheduleBooking_bookings cal (o := o) (w := m.platform.world)
      ⟨u.id, u.role⟩ bookingId input with ⟨hsame, -⟩ | ⟨args, hargs, hupd⟩
    · refine .none ?_
      show (rescheduleBookingRequest cal o user bookingId input m.platform).2.world.bookings = _
      rw [heq]
      exact hsame
    · obtain ⟨b, role, hb, rfl, hassert, hmove, -, -⟩ := rescheduleArgs_eq_ok.1 hargs
      obtain ⟨-, rfl⟩ := moveArgs_eq_ok.1 hmove
      have hrole : (assertParticipant ⟨u.id, u.role⟩ b).isOk = true := by
        rw [(assertReschedulable_eq_ok.1 hassert).1]
        rfl
      refine .move o user b input ha u hu hid hactive hrole hb (MoveArgs.apply _) (fun _ => rfl)
        (hupd.trans ?_)
      show _ = some (rescheduleBookingRequest cal o user b.id input m.platform).2.world.bookings
      rw [heq]

theorem suspendUser_bookings (userId : ObjectId) (p : Platform) :
    (suspendUser userId p).2.world.bookings = p.world.bookings := by
  rcases suspendUser_cases p userId with ⟨e, h⟩ | ⟨suspended, users, h, -⟩ <;> rw [h] <;> rfl

theorem reactivateUser_bookings (userId : ObjectId) (p : Platform) :
    (reactivateUser userId p).2.world.bookings = p.world.bookings := by
  obtain ⟨users, -, answer, h⟩ := reactivateUser_cases p userId
  rw [h]
  rfl

/-- **What an action does to the bookings.** -/
theorem books_cases (hstep : (market cal).step m a = some m') : Books m a m' := by
  cases a with
  | suspendUser userId =>
    cases hstep
    exact .none (suspendUser_bookings userId m.platform)
  | reactivateUser userId =>
    cases hstep
    exact .none (reactivateUser_bookings userId m.platform)
  | profile call =>
    obtain ⟨-, h⟩ := Option.ite_none_right_eq_some.1 hstep
    cases h
    exact .none rfl
  | updateAvailability | advance | offer =>
    cases hstep
    exact .none rfl
  | createBooking o user input =>
    obtain ⟨-, h⟩ := Option.ite_none_right_eq_some.1 hstep
    cases h
    exact createBookingRequest_books user input
  | rescheduleBooking o user bookingId input =>
    obtain ⟨-, h⟩ := Option.ite_none_right_eq_some.1 hstep
    cases h
    exact rescheduleBookingRequest_books rfl

end Steps

/-! ### Who is active -/

section Parties

variable {cal : TimezoneName → Calendar}

/-- The booking is created by the step. -/
def Creates (m m' : Market) (b : Booking) : Prop :=
  b ∈ m'.bookings ∧ ∀ b' ∈ m.bookings, b'.id ≠ b.id

/-- The booking is moved to a new time by the step. -/
def Moves (m m' : Market) (b : Booking) : Prop :=
  b ∈ m.bookings ∧ ∃ b' ∈ m'.bookings, b'.id = b.id ∧ b'.startAt ≠ b.startAt

/-- The action is a request to move the booking by an active account that is one of its parties or
an admin. -/
def MovedByActive (m : Market) (a : MarketAction) (b : Booking) : Prop :=
  ∃ o user input, a = .rescheduleBooking o user b.id input ∧
    ∃ u ∈ m.platform.users, u.id = user.id ∧ u.status = .active ∧
      (assertParticipant ⟨u.id, u.role⟩ b).isOk = true

/-- No booking is created for a suspended client, and none is moved by a suspended requester. -/
def RequesterActive (cal : TimezoneName → Calendar) (m : Market) (a : MarketAction) : Prop :=
  ∀ m', (market cal).step m a = some m' → ∀ b,
    (Creates m m' b → m.IsUser b.userId .active) ∧ (Moves m m' b → MovedByActive m a b)

/-- **Whoever books or moves a booking is active.** -/
theorem requesters_active (m : Market) (as : List MarketAction) :
    (market cal).Meets (RequesterActive cal) m as := by
  refine Machine.meets_of_forall (fun m a m' hstep b => ?_) m as
  have hstays : m'.bookings = m.bookings → ¬ Creates m m' b ∧ ¬ Moves m m' b := by
    intro hsame
    refine ⟨fun ⟨hb, hnew⟩ => hnew b (hsame ▸ hb) rfl, fun ⟨hb, b', hb', hid, hne⟩ => ?_⟩
    rw [hsame] at hb'
    obtain rfl : b' = b := Collection.eq_of_docId hb' hb hid
    exact hne rfl
  cases books_cases hstep with
  | none h => exact ⟨fun hc => absurd hc (hstays h).1, fun hm => absurd hm (hstays h).2⟩
  | create u hu hactive n hclient h =>
    refine ⟨fun ⟨hb, hnew⟩ => ?_, fun ⟨hb, b', hb', hid, hne⟩ => ?_⟩
    · rcases (Collection.mem_insert h).1 hb with hb | rfl
      · exact absurd rfl (hnew b hb)
      · exact ⟨u, hu, hclient.symm, hactive⟩
    · -- a stored booking stays as it is, and the new one has an identity of its own
      rcases (Collection.mem_insert h).1 hb' with hb' | rfl
      · obtain rfl : b' = b := Collection.eq_of_docId hb' hb hid
        exact absurd rfl hne
      · exact absurd hid.symm ((Collection.insert_eq_some.1 h).1 b hb).1
  | move o user d input ha u hu hid hactive hrole hd f hf h =>
    refine ⟨fun ⟨hb, hnew⟩ => ?_, fun ⟨hb, b', hb', hbid, hne⟩ => ?_⟩
    · rcases (Collection.mem_update h).1 hb with ⟨hb, -⟩ | ⟨x, hx, -, rfl⟩
      · exact absurd rfl (hnew b hb)
      · exact absurd (hf x).symm (hnew x hx)
    · rcases (Collection.mem_update h).1 hb' with ⟨hb', -⟩ | ⟨x, hx, hxid, rfl⟩
      · obtain rfl : b' = b := Collection.eq_of_docId hb' hb hbid
        exact absurd rfl hne
      · have hxd : x = d := Collection.eq_of_docId hx hd hxid
        have hbd : x = b := Collection.eq_of_docId hx hb ((hf x).symm.trans hbid)
        subst hxd hbd
        exact ⟨o, user, input, ha, u, hu, hid, hactive, hrole⟩

end Parties

/-! ### A suspended consultant -/

/-- Accounts 1 and 2; nothing is offered yet. -/
def openMarket : Market where
  platform := { clientPlatform with
    users := ⟨[⟨1, "one@example.com", "", "", "", .user, .active, true, 0, none⟩, client],
      by decide +kernel⟩ }
  activeSlugs := ["RECRUITMENT"]
  documents := .empty

/-- Account 1 becomes a consultant with hours on Mondays, and is suspended. -/
def suspendedConsultant : List MarketAction :=
  [.profile (.upsertProfile 1 5 (profileBody "HR")), .profile (.review (.submit 1)),
    .profile (.review (.approve reviewer 5)),
    .updateAvailability 1 (mondayConfig AvailabilityDefaults.slotDurationMinutes),
    .suspendUser 1]

/-- Client 2 books at nine. -/
def bookSuspended : MarketAction := .createBooking (answering 1 1) ⟨2, .user⟩ (slotAt mondayNine)

theorem suspendedConsultant_isSome :
    ((market utcCalendar).run openMarket suspendedConsultant).isSome = true := by
  decide +kernel

/-- The state after `suspendedConsultant`. -/
def suspendedMarket : Market :=
  ((market utcCalendar).run openMarket suspendedConsultant).get suspendedConsultant_isSome

theorem bookSuspended_isSome :
    ((market utcCalendar).step suspendedMarket bookSuspended).isSome = true := by
  decide +kernel

/-- **A suspended consultant can be booked.** -/
theorem not_parties_active :
    ¬ ∀ (cal : TimezoneName → Calendar) (m₀ m m' : Market) (as : List MarketAction)
      (a : MarketAction), m₀.bookings = Collection.empty → (market cal).run m₀ as = some m →
      (market cal).step m a = some m' → ∀ b, Creates m m' b ∨ Moves m m' b →
        ¬ m.IsUser b.userId .suspended ∧ ¬ m.IsUser b.hrUserId .suspended := by
  intro h
  have hnever := h utcCalendar openMarket suspendedMarket _ suspendedConsultant bookSuspended rfl
    (Option.some_get _).symm (Option.some_get bookSuspended_isSome).symm
  obtain ⟨b, hb, hconsultant⟩ : ∃ b ∈ (((market utcCalendar).step suspendedMarket
      bookSuspended).get bookSuspended_isSome).bookings,
      suspendedMarket.IsUser b.hrUserId .suspended := by
    decide +kernel
  have hnone : ∀ b' ∈ suspendedMarket.bookings, b'.id ≠ b.id := by
    have hempty : suspendedMarket.bookings.docs = [] := by decide +kernel
    intro b' hb'
    rw [Collection.mem_def, hempty] at hb'
    exact absurd hb' List.not_mem_nil
  exact (hnever b (.inl ⟨hb, hnone⟩)).2 hconsultant

end HrBooking
