import HrBooking.Backend.Record
import HrBooking.Serial.System

/-!
# The notice a client has to keep

A client may not cancel when less than `BOOKING_LIMITS.CANCEL_NOTICE_MINUTES` are left.  The rule
looks at the start the booking has at that moment, and a client may move a booking until it starts.

* `clientOf` : the client of one booking, asking for cancellations and reschedules.
* `KeepsNotice` : the booking is not moved out of the notice.
* `notice_kept_iff` : exactly then the client cannot cancel any more.
* `not_notice_kept` : a client who moves the booking first cancels it after all.
-/

namespace HrBooking

/-- What the client of a booking asks for. -/
inductive ClientOperation where
  | cancel (reason : Option String)
  | reschedule (input : RescheduleBookingInput)

/-- Time passes, and the client asks. -/
structure ClientAction where
  ms : ℕ
  o : Oracle
  operation : ClientOperation

/-- The state when the client asks. -/
def ClientAction.asks (a : ClientAction) (w : World) : World := { w with now := w.now + a.ms }

section

variable (cal : TimezoneName → Calendar) (client : Actor) (bookingId : ObjectId)

/-- One action of the client, however it is answered. -/
def ClientAction.exec (w : World) (a : ClientAction) : World :=
  match a.operation with
  | .cancel reason => (cancelBooking a.o client bookingId reason (a.asks w)).2
  | .reschedule input => (rescheduleBooking cal a.o client bookingId input (a.asks w)).2

/-- The client of one booking as a machine; nobody else does anything. -/
def clientOf : Machine World ClientAction := ⟨fun w a => some (a.exec cal client bookingId w)⟩

end

/-- Less than the notice is left. -/
def Booking.IsInsideNotice (b : Booking) (now : ℤ) : Prop :=
  b.startAt - now < BookingLimits.cancelNoticeMinutes * 60000

instance (b : Booking) (now : ℤ) : Decidable (b.IsInsideNotice now) :=
  inferInstanceAs (Decidable (_ < _))

/-- The client has cancelled the booking. -/
def Booking.IsCancelledByClient (b : Booking) : Prop :=
  b.status = .cancelled ∧ b.cancelledBy = some .user

instance (b : Booking) : Decidable b.IsCancelledByClient := inferInstanceAs (Decidable (_ ∧ _))

/-- The first of the client's operations comes when less than the notice is left. -/
def FirstInside (b : Booking) (w : World) (as : List ClientAction) : Prop :=
  ∀ a ∈ as.head?, b.IsInsideNotice (a.asks w).now

instance (b : Booking) (w : World) (as : List ClientAction) : Decidable (FirstInside b w as) :=
  inferInstanceAs (Decidable (∀ a ∈ as.head?, _))

/-- The booking may be moved to the instant: it is open, the instant is another one and is offered,
and both parties are free. -/
structure Booking.MayMove (cal : TimezoneName → Calendar) (w : World) (b : Booking) (startAt : ℤ) :
    Prop where
  isActive : b.isActive
  not_started : w.now < b.startAt
  count_lt : b.rescheduleCount < BookingLimits.rescheduleMax
  start_ne : startAt ≠ b.startAt
  offered :
    isOfferedSlot cal (getAvailabilityForHr w.availabilities b.hrUserId) startAt w.now = true
  clientFree : IsFree w.bookings (.user b.userId) startAt (addMinutes startAt
    (getAvailabilityForHr w.availabilities b.hrUserId).slotDurationMinutes) (some b.id)
  consultantFree : IsFree w.bookings (.hr b.hrUserId) startAt (addMinutes startAt
    (getAvailabilityForHr w.availabilities b.hrUserId).slotDurationMinutes) (some b.id)
  keyFree : ∀ b' ∈ w.bookings, b'.id ≠ b.id → b'.slotKey ≠ some (buildSlotKey b.hrUserId startAt)

/-- When less than the notice is left, the client does not ask for an instant that is at least the
notice away and that the booking may be moved to. -/
def KeepsNotice (cal : TimezoneName → Calendar) (bookingId : ObjectId) (w : World)
    (a : ClientAction) : Prop :=
  ∀ input, a.operation = .reschedule input → ∀ b ∈ w.bookings, b.id = bookingId →
    b.IsInsideNotice (a.asks w).now → b.MayMove cal (a.asks w) input.startAt →
      input.startAt - (a.asks w).now < BookingLimits.cancelNoticeMinutes * 60000

section Client

variable {cal : TimezoneName → Calendar} {client : Actor} {o : Oracle} {w w' : World} {b : Booking}

/-! ### What the operations do -/

theorem assertParticipant_client (hclient : b.userId = client.id) :
    assertParticipant client b = .ok .user := if_pos hclient

/-- A client may cancel an open booking exactly when the notice is left. -/
theorem assertCancellable_client (hclient : b.userId = client.id) (now : ℤ) (role : CancelledBy) :
    assertCancellable client b now = .ok role ↔
      role = .user ∧ b.isActive ∧ now < b.startAt ∧ ¬ b.IsInsideNotice now := by
  rw [assertCancellable_eq_ok, assertParticipant_client hclient, Except.ok.injEq]
  constructor
  · rintro ⟨rfl, hactive, hstart, hnotice⟩
    exact ⟨rfl, hactive, hstart, fun h => hnotice ⟨rfl, h⟩⟩
  · rintro ⟨rfl, hactive, hstart, hnotice⟩
    exact ⟨rfl, hactive, hstart, fun h => hnotice h.2⟩

theorem cancelBooking_inside (hb : b ∈ w.bookings) (hclient : b.userId = client.id)
    (hinside : b.IsInsideNotice w.now) (reason : Option String) :
    (cancelBooking o client b.id reason w).2 = w := by
  rcases cancelBooking_cases o w client b.id reason with
    ⟨⟨e, hrun⟩, -⟩ | ⟨booking, role, c, hargs, hmem, hid, -⟩
  · rw [hrun]
  · obtain rfl : booking = b := Collection.eq_of_docId hmem hb hid
    obtain ⟨_, hfind, hargs⟩ := bind_eq_ok.1 hargs
    obtain ⟨role', hrole, hargs⟩ := bind_eq_ok.1 hargs
    cases hargs
    exact absurd hinside ((assertCancellable_client hclient _ _).1 hrole).2.2.2

theorem cancelBooking_outside (hb : b ∈ w.bookings) (hclient : b.userId = client.id)
    (hactive : b.isActive) (hstart : w.now < b.startAt) (houtside : ¬ b.IsInsideNotice w.now)
    (reason : Option String) :
    b.cancel w.now .user reason ∈ (cancelBooking o client b.id reason w).2.bookings := by
  have hargs : cancelArgs client b.id w = .ok (b, .user, w.now) := by
    refine bind_eq_ok.2 ⟨b, findBooking_eq_ok.2 ⟨hb, rfl⟩, bind_eq_ok.2 ⟨.user, ?_, rfl⟩⟩
    exact (assertCancellable_client hclient _ _).2 ⟨rfl, hactive, hstart, houtside⟩
  have hself : ∀ d ∈ w.bookings, d.id = b.id →
      saveCancelled b (b.cancel w.now .user reason) d = b.cancel w.now .user reason := by
    intro d hd hid
    obtain rfl : d = b := Collection.eq_of_docId hd hb hid
    exact saveCancelled_self ..
  -- a booking without a slot key is not refused by the index
  obtain ⟨c, hc⟩ := Collection.update_isSome (c := w.bookings) (i := b.id)
    (f := saveCancelled b (b.cancel w.now .user reason))
    (fun d hd hid => by rw [hself d hd hid]; rfl)
    fun d hd hid k hk => by
      rw [hself d hd hid] at hk
      cases hk
  have hbookings : (cancelBooking o client b.id reason w).2.bookings = c := by
    rcases cancelBooking_cases o w client b.id reason with
      ⟨-, hrefused⟩ | ⟨booking, role, c', hargs', -, -, -, hupd, hrun⟩
    · rw [hrefused _ _ hargs] at hc
      cases hc
    · cases hargs.symm.trans hargs'
      obtain rfl : c = c' := Option.some.inj (hc.symm.trans hupd)
      rw [hrun]
      exact (Service.Within.bind (recordCancellation_within _ _ _ _) (fun _ =>
        .bind (dispatchBookingCancelled_within _) fun _ => Service.within_pure _) _).bookings
  rw [hbookings]
  exact (Collection.mem_update hc).2 (.inr ⟨b, hb, rfl, hself b hb rfl⟩)

/-- The move to an instant. -/
def Booking.moveArgsTo (w : World) (b : Booking) (input : RescheduleBookingInput) : MoveArgs :=
  let availability := getAvailabilityForHr w.availabilities b.hrUserId
  ⟨b, availability, input, input.startAt,
    addMinutes input.startAt availability.slotDurationMinutes⟩

theorem rescheduleArgs_client (hb : b ∈ w.bookings) (hclient : b.userId = client.id)
    {input : RescheduleBookingInput} {args : MoveArgs}
    (h : rescheduleArgs cal o client b.id input w = .ok args) : args = b.moveArgsTo w input := by
  obtain ⟨booking, role, hmem, hid, -, hmove, -, -⟩ := rescheduleArgs_eq_ok.1 h
  obtain rfl : booking = b := Collection.eq_of_docId hmem hb hid
  exact (moveArgs_eq_ok.1 hmove).2

/-- Once the update of a move is accepted, no other booking holds the new slot key. -/
theorem keyFree_of_update (args : MoveArgs) {c : Collection Booking}
    (hb : args.booking ∈ w.bookings)
    (hupd : w.bookings.update args.booking.id args.apply = some c) :
    ∀ b' ∈ w.bookings, b'.id ≠ args.booking.id →
      b'.slotKey ≠ some (buildSlotKey args.booking.hrUserId args.startAt) := by
  intro b' hb' hne hkey
  have hmoved : args.apply args.booking ∈ c :=
    (Collection.mem_update hupd).2 (.inr ⟨_, hb, rfl, rfl⟩)
  have hother : b' ∈ c := (Collection.mem_update hupd).2 (.inl ⟨hb', hne⟩)
  obtain rfl : b' = args.apply args.booking := Collection.eq_of_indexKey hother hmoved hkey rfl
  exact hne rfl

theorem mayMove_of_args (hb : b ∈ w.bookings) (hclient : b.userId = client.id)
    {input : RescheduleBookingInput} {c : Collection Booking}
    (hargs : rescheduleArgs cal o client b.id input w = .ok (b.moveArgsTo w input))
    (hupd : w.bookings.update b.id (b.moveArgsTo w input).apply = some c) :
    b.MayMove cal w input.startAt := by
  obtain ⟨booking, role, hmem, hid, hrole, hmove, hfree, hfree'⟩ := rescheduleArgs_eq_ok.1 hargs
  obtain rfl : booking = b := Collection.eq_of_docId hmem hb hid
  obtain ⟨-, hactive, hstart, hcount, hne⟩ := assertReschedulable_eq_ok.1 hrole
  exact ⟨hactive, hstart, hcount, hne, (moveArgs_eq_ok.1 hmove).1, hfree, hfree',
    keyFree_of_update (booking.moveArgsTo w input) hb hupd⟩

theorem args_of_mayMove (o : Oracle) (hb : b ∈ w.bookings) (hclient : b.userId = client.id)
    {input : RescheduleBookingInput} (h : b.MayMove cal w input.startAt) :
    rescheduleArgs cal o client b.id input w = .ok (b.moveArgsTo w input) ∧
      ∃ c, w.bookings.update b.id (b.moveArgsTo w input).apply = some c := by
  refine ⟨rescheduleArgs_eq_ok.2 ⟨b, .user, hb, rfl, assertReschedulable_eq_ok.2 ⟨?_, h.isActive,
    h.not_started, h.count_lt, h.start_ne⟩, moveArgs_eq_ok.2 ⟨h.offered, rfl⟩, h.clientFree,
    h.consultantFree⟩, Collection.update_isSome (fun _ _ hid => hid) ?_⟩
  · exact assertParticipant_client hclient
  · rintro d hd hid k ⟨⟩ e he hne
    exact h.keyFree e he hne

/-- **A move by the client** goes through exactly when it is allowed. -/
theorem rescheduleBooking_client (cal : TimezoneName → Calendar) (hb : b ∈ w.bookings)
    (hclient : b.userId = client.id) (input : RescheduleBookingInput) :
    ¬ b.MayMove cal w input.startAt ∧
        (rescheduleBooking cal o client b.id input w).2.bookings = w.bookings ∨
      b.MayMove cal w input.startAt ∧
        (b.moveArgsTo w input).apply b ∈
          (rescheduleBooking cal o client b.id input w).2.bookings := by
  rcases rescheduleBooking_bookings cal client b.id input with
    ⟨hsame, hrefused⟩ | ⟨args, hargs, hupd⟩
  · refine .inl ⟨fun h => ?_, hsame⟩
    obtain ⟨hargs, c, hc⟩ := args_of_mayMove o hb hclient h
    cases (hrefused _ hargs).symm.trans hc
  · obtain rfl := rescheduleArgs_client hb hclient hargs
    exact .inr ⟨mayMove_of_args hb hclient hargs hupd,
      (Collection.mem_update hupd).2 (.inr ⟨b, hb, rfl, rfl⟩)⟩

theorem ClientAction.exec_now (a : ClientAction) (cal : TimezoneName → Calendar) (client : Actor)
    (bookingId : ObjectId) (w : World) : (a.exec cal client bookingId w).now = (a.asks w).now := by
  unfold exec
  cases a.operation with
  | cancel reason =>
    obtain ⟨w₁, hwrite, hsame⟩ :=
      cancelBooking_writes (o := a.o) (w := a.asks w) client bookingId reason
    exact hsame.now.trans hwrite.now_eq
  | reschedule input =>
    obtain ⟨w₁, hwrite, hsame⟩ :=
      rescheduleBooking_writes cal (o := a.o) (w := a.asks w) client bookingId input
    exact hsame.now.trans hwrite.now_eq

/-! ### Runs -/

/-- **The invariant** : less than the notice is left, and the client has not cancelled. -/
structure TooLate (client : Actor) (bookingId : ObjectId) (w : World) (b : Booking) : Prop where
  mem : b ∈ w.bookings
  id_eq : b.id = bookingId
  userId_eq : b.userId = client.id
  open_ : ¬ b.IsCancelledByClient
  inside : b.IsInsideNotice w.now

/-- An operation that comes too late leaves it too late, when the booking is not moved out of the
notice. -/
theorem TooLate.step {a : ClientAction} (h : TooLate client b.id (a.asks w) b)
    (hkeeps : KeepsNotice cal b.id w a) :
    ∃ b', TooLate client b.id (a.exec cal client b.id w) b' := by
  have hnow := a.exec_now cal client b.id w
  unfold ClientAction.exec at hnow ⊢
  cases hop : a.operation with
  | cancel reason =>
    simp only
    rw [cancelBooking_inside h.mem h.userId_eq h.inside]
    exact ⟨b, h⟩
  | reschedule input =>
    simp only [hop] at hnow ⊢
    rcases rescheduleBooking_client cal (o := a.o) h.mem h.userId_eq input with
      ⟨-, hsame⟩ | ⟨hmay, hmoved⟩
    · refine ⟨b, hsame ▸ h.mem, rfl, h.userId_eq, h.open_, ?_⟩
      rw [hnow]
      exact h.inside
    · refine ⟨_, hmoved, rfl, h.userId_eq, h.open_, ?_⟩
      rw [hnow]
      exact hkeeps input hop b h.mem rfl h.inside hmay

/-- Time only passes, so it is still too late when the client asks. -/
theorem TooLate.asks {bookingId : ObjectId} (h : TooLate client bookingId w b) (a : ClientAction) :
    TooLate client bookingId (a.asks w) b :=
  ⟨h.mem, h.id_eq, h.userId_eq, h.open_, by
    have hinside := h.inside
    simp only [Booking.IsInsideNotice, ClientAction.asks] at hinside ⊢
    omega⟩

/-- **In every run** of the client that begins inside the notice, the client does not cancel the
booking as long as it is not moved out of the notice. -/
theorem TooLate.run {as : List ClientAction} {s : World} (hb : b ∈ w.bookings)
    (hclient : b.userId = client.id) (hopen : ¬ b.IsCancelledByClient) (hfirst : FirstInside b w as)
    (hkeeps : (clientOf cal client b.id).Meets (KeepsNotice cal b.id) w as)
    (hrun : (clientOf cal client b.id).run w as = some s) :
    ∃ b' ∈ s.bookings, b'.id = b.id ∧ ¬ b'.IsCancelledByClient := by
  cases as with
  | nil =>
    cases hrun
    exact ⟨b, hb, rfl, hopen⟩
  | cons a as =>
    obtain ⟨t, ht, hrun⟩ := Machine.run_cons.1 hrun
    have hlate : TooLate client b.id (a.asks w) b := ⟨hb, rfl, hclient, hopen, hfirst a rfl⟩
    cases ht
    have hinv : ∃ b', TooLate client b.id s b' := by
      refine Machine.run_invariant (I := fun s => ∃ b', TooLate client b.id s b')
        (fun w a w' hI hkeeps hstep => ?_) (hlate.step hkeeps.1) (hkeeps.2 _ rfl) hrun
      cases hstep
      obtain ⟨b', h⟩ := hI
      have hasks := h.asks a
      rw [← h.id_eq] at hkeeps hasks ⊢
      exact hasks.step hkeeps
    obtain ⟨b', h⟩ := hinv
    exact ⟨b', h.mem, h.id_eq, h.open_⟩

theorem cancels_of_not_keepsNotice {a : ClientAction} (hb : b ∈ w.bookings)
    (hclient : b.userId = client.id) (hnot : ¬ KeepsNotice cal b.id w a) :
    ∃ b' ∈ (ClientAction.exec cal client b.id (a.exec cal client b.id w)
      ⟨0, a.o, .cancel none⟩).bookings, b'.id = b.id ∧ b'.IsCancelledByClient := by
  simp only [KeepsNotice, not_forall] at hnot
  obtain ⟨input, hop, d, hd, hid, hinside, hmay, hout⟩ := hnot
  obtain rfl : d = b := Collection.eq_of_docId hd hb hid
  have hnow := a.exec_now cal client d.id w
  have hmoved : (d.moveArgsTo (a.asks w) input).apply d ∈ (a.exec cal client d.id w).bookings := by
    simp only [ClientAction.exec, hop]
    rcases rescheduleBooking_client cal (o := a.o) (w := a.asks w) hd hclient input with
      ⟨hnot, -⟩ | ⟨-, hmoved⟩
    · exact absurd hmay hnot
    · exact hmoved
  have hasks : (ClientAction.asks ⟨0, a.o, .cancel none⟩ (a.exec cal client d.id w)).now =
      (a.asks w).now := by simp [ClientAction.asks, hnow]
  have houtside : ¬ ((d.moveArgsTo (a.asks w) input).apply d).IsInsideNotice (a.asks w).now := hout
  have hstart : (a.asks w).now < ((d.moveArgsTo (a.asks w) input).apply d).startAt := by
    have hpos : (0 : ℤ) < BookingLimits.cancelNoticeMinutes * 60000 := by decide
    simp only [Booking.IsInsideNotice] at houtside
    omega
  rw [← hasks] at houtside hstart
  have hcancelled := cancelBooking_outside (o := a.o)
    (w := ClientAction.asks ⟨0, a.o, .cancel none⟩ (a.exec cal client d.id w)) hmoved hclient
    hmay.isActive hstart houtside none
  exact ⟨((d.moveArgsTo (a.asks w) input).apply d).cancel _ .user none, hcancelled, rfl, rfl, rfl⟩

/-- A run that moves the booking out of the notice can be continued so that the client cancels. -/
theorem exists_cancelled_of_not_meets {as : List ClientAction} (hb : b ∈ w.bookings)
    (hclient : b.userId = client.id) (hopen : ¬ b.IsCancelledByClient) (hfirst : FirstInside b w as)
    (hnot : ¬ (clientOf cal client b.id).Meets (KeepsNotice cal b.id) w as) :
    ∃ as' s, FirstInside b w as' ∧ (clientOf cal client b.id).run w as' = some s ∧
      ∃ b' ∈ s.bookings, b'.id = b.id ∧ b'.IsCancelledByClient := by
  induction as generalizing w b with
  | nil => exact absurd trivial hnot
  | cons a as ih =>
    by_cases hkeeps : KeepsNotice cal b.id w a
    · -- the first violation comes later
      have hlate : TooLate client b.id (a.asks w) b := ⟨hb, rfl, hclient, hopen, hfirst a rfl⟩
      obtain ⟨b₁, h₁⟩ := hlate.step hkeeps
      have hnot₁ : ¬ (clientOf cal client b₁.id).Meets (KeepsNotice cal b₁.id)
          (a.exec cal client b.id w) as := by
        rw [h₁.id_eq]
        intro hmeets
        refine hnot ⟨hkeeps, fun w' hw' => ?_⟩
        cases hw'
        exact hmeets
      obtain ⟨as', s, -, hrun, hcancelled⟩ := ih h₁.mem h₁.userId_eq h₁.open_
        (fun a' _ => (h₁.asks a').inside) hnot₁
      rw [h₁.id_eq] at hrun hcancelled
      refine ⟨a :: as', s, fun a' ha' => hfirst a' ha', ?_, hcancelled⟩
      exact Machine.run_cons.2 ⟨_, rfl, hrun⟩
    · exact ⟨[a, ⟨0, a.o, .cancel none⟩], _, fun a' ha' => hfirst a' ha', rfl,
        cancels_of_not_keepsNotice hb hclient hkeeps⟩

/-- **The notice of cancellation.**  When the first operation of the client comes inside the notice,
the client does not end up having cancelled the booking in any run that does not move it out of the
notice; and once some run moves it out, some run ends with the client having cancelled. -/
theorem notice_kept_iff (hb : b ∈ w.bookings) (hclient : b.userId = client.id)
    (hopen : ¬ b.IsCancelledByClient) :
    (∀ as s, FirstInside b w as →
      (clientOf cal client b.id).Meets (KeepsNotice cal b.id) w as →
      (clientOf cal client b.id).run w as = some s →
      ∀ b' ∈ s.bookings, b'.id = b.id → ¬ b'.IsCancelledByClient) ∧
    ((∃ as, FirstInside b w as ∧
        ¬ (clientOf cal client b.id).Meets (KeepsNotice cal b.id) w as) →
      ∃ as s, FirstInside b w as ∧ (clientOf cal client b.id).run w as = some s ∧
        ∃ b' ∈ s.bookings, b'.id = b.id ∧ b'.IsCancelledByClient) := by
  constructor
  · intro as s hfirst hkeeps hrun b' hb' hid
    obtain ⟨b₁, hb₁, hid₁, hopen₁⟩ := TooLate.run hb hclient hopen hfirst hkeeps hrun
    rw [Collection.eq_of_docId hb' hb₁ (hid.trans hid₁.symm)]
    exact hopen₁
  · rintro ⟨as, hfirst, hnot⟩
    exact exists_cancelled_of_not_meets hb hclient hopen hfirst hnot

end Client

/-- Client 2 has booked the first Monday at nine; it is twenty minutes to nine. -/
def twentyToNine : World :=
  { mondayWorld with
    now := mondayNine - 20 * 60000
    bookings := singleBooking (sampleBooking 7 mondayNine 60) }

theorem mem_twentyToNine : sampleBooking 7 mondayNine 60 ∈ twentyToNine.bookings :=
  List.mem_singleton_self _

/-- The client asks at once. -/
def asksFor (operation : ClientOperation) : ClientAction := ⟨0, answering 8 1, operation⟩

/-- The consultant takes bookings of half an hour at any notice. -/
def shortNotice : World :=
  { twentyToNine with
    availabilities := fun hrUserId => (mondayWorld.availabilities hrUserId).map fun availability =>
      { availability with
        slotDurationMinutes := AvailabilityDefaults.slotDurationMinutes
        minNoticeMinutes := 0 } }

/-- The client moves the booking by half an hour, which stays inside the notice, and asks to
cancel. -/
def movesInside : List ClientAction :=
  [asksFor (.reschedule ⟨addMinutes mondayNine 30, none⟩), asksFor (.cancel none)]

/-- The booking is moved, and not cancelled. -/
theorem notice_kept_iff_movedInside :
    let s := ((clientOf utcCalendar ⟨2, .user⟩ 7).run shortNotice movesInside).getD shortNotice
    s.bookings.docs.map Booking.startAt = [addMinutes mondayNine 30] ∧
      ∀ b' ∈ s.bookings, b'.id = 7 → ¬ b'.IsCancelledByClient := by
  have hmem : sampleBooking 7 mondayNine 60 ∈ shortNotice.bookings := mem_twentyToNine
  have hkeeps : (clientOf utcCalendar ⟨2, .user⟩ 7).Meets (KeepsNotice utcCalendar 7) shortNotice
      movesInside := by
    refine ⟨?_, fun _ _ => ⟨?_, fun _ _ => trivial⟩⟩
    · rintro input ⟨⟩ b - - - -
      decide
    · rintro input ⟨⟩
  exact ⟨by decide +kernel, (@notice_kept_iff utcCalendar ⟨2, .user⟩ _ _ hmem rfl (by decide)).1
    movesInside _ (by decide +kernel) hkeeps rfl⟩

/-- **A client evades the notice** by moving the booking to the next Monday and cancelling it
there. -/
theorem not_notice_kept :
    ¬ ∀ (cal : TimezoneName → Calendar) (client : Actor) (w : World) (b : Booking)
      (as : List ClientAction) (s : World), b ∈ w.bookings → b.userId = client.id →
      ¬ b.IsCancelledByClient → FirstInside b w as → (clientOf cal client b.id).run w as = some s →
      ∀ b' ∈ s.bookings, b'.id = b.id → ¬ b'.IsCancelledByClient := by
  intro h
  have hrun := h utcCalendar ⟨2, .user⟩ twentyToNine _
    [asksFor (.reschedule ⟨addMinutes mondayNine (7 * 24 * 60), none⟩), asksFor (.cancel none)] _
    mem_twentyToNine rfl (by decide) (by decide +kernel) rfl
  revert hrun
  decide +kernel

end HrBooking
