import HrBooking.Backend.Client
import HrBooking.Serial.Gate

/-!
# Whether anybody is in two consultations at once

A consultant may book another consultant, so an account can be the client of one booking and the
consultant of another.  Each overlap check looks at one of these two roles, for the client among the
bookings of clients and for the consultant among those of consultants.

* `NobodyTwice` : no two active bookings of one participant overlap.
* `StaysApart` : a booking that is made or moved meets none of the other role of its parties.
* `nobodyTwice_iff` : nobody is in two consultations in any state of a serial run exactly when every
  action stays apart.
* `not_nobodyTwice` : somebody can be.
-/

namespace HrBooking

/-- The account takes part in the consultation. -/
def Booking.Involves (userId : ObjectId) (booking : Booking) : Prop :=
  booking.userId = userId ∨ booking.hrUserId = userId

instance (userId : ObjectId) (booking : Booking) : Decidable (booking.Involves userId) :=
  inferInstanceAs (Decidable (_ ∨ _))

/-- Two active bookings that overlap. -/
def Booking.Coincides (b b' : Booking) : Prop :=
  b.isActive ∧ b'.isActive ∧ b.startAt < b'.endAt ∧ b'.startAt < b.endAt

instance (b b' : Booking) : Decidable (b.Coincides b') := inferInstanceAs (Decidable (_ ∧ _))

theorem Booking.Coincides.symm {b b' : Booking} (h : b.Coincides b') : b'.Coincides b :=
  ⟨h.2.1, h.1, h.2.2.2, h.2.2.1⟩

/-- No two active bookings of one participant overlap. -/
def NobodyTwice (w : World) : Prop :=
  ∀ b ∈ w.bookings, ∀ b' ∈ w.bookings, b ≠ b' → b.Coincides b' →
    ∀ userId, b.Involves userId → ¬ b'.Involves userId

theorem nobodyTwice_iff_parties {w : World} : NobodyTwice w ↔
    ∀ b ∈ w.bookings, ∀ b' ∈ w.bookings, b ≠ b' → b.Coincides b' →
      ¬ b'.Involves b.userId ∧ ¬ b'.Involves b.hrUserId := by
  refine forall₂_congr fun b _ => forall₂_congr fun b' _ => forall₂_congr fun _ _ => ?_
  constructor
  · intro h
    exact ⟨h b.userId (.inl rfl), h b.hrUserId (.inr rfl)⟩
  · rintro ⟨hclient, hconsultant⟩ userId (rfl | rfl)
    · exact hclient
    · exact hconsultant

instance (w : World) : Decidable (NobodyTwice w) := decidable_of_iff' _ nobodyTwice_iff_parties

/-- The client is free as a consultant, and the consultant as a client. -/
def IsFreeAcross (bookings : Collection Booking) (userId hrUserId : ObjectId) (startAt endAt : ℤ)
    (exclude : Option ObjectId) : Prop :=
  IsFree bookings (.hr userId) startAt endAt exclude ∧
    IsFree bookings (.user hrUserId) startAt endAt exclude

instance (bookings : Collection Booking) (userId hrUserId : ObjectId) (startAt endAt : ℤ)
    (exclude : Option ObjectId) :
    Decidable (IsFreeAcross bookings userId hrUserId startAt endAt exclude) :=
  inferInstanceAs (Decidable (_ ∧ _))

/-- The actor may move the booking, the consultant offers the time, and both are free. -/
def IsMovable (cal : TimezoneName → Calendar) (w : World) (actor : Actor) (booking : Booking)
    (input : RescheduleBookingInput) : Prop :=
  (assertReschedulable actor booking input w.now).isOk = true ∧
    let availability := getAvailabilityForHr w.availabilities booking.hrUserId
    let endAt := addMinutes input.startAt availability.slotDurationMinutes
    isOfferedSlot cal availability input.startAt w.now ∧
      IsFree w.bookings (.user booking.userId) input.startAt endAt (some booking.id) ∧
      IsFree w.bookings (.hr booking.hrUserId) input.startAt endAt (some booking.id)

instance (cal : TimezoneName → Calendar) (w : World) (actor : Actor) (booking : Booking)
    (input : RescheduleBookingInput) : Decidable (IsMovable cal w actor booking input) := by
  unfold IsMovable
  infer_instance

/-- A booking that is made or moved meets no booking of the other role of its parties. -/
def StaysApart (cal : TimezoneName → Calendar) (w : World) : SerialAction → Prop
  | .createBooking _ actor input =>
    IsBookable cal w actor input → ∀ profile ∈ w.profiles, profile.id = input.profileId →
      let availability := getAvailabilityForHr w.availabilities profile.userId
      IsFreeAcross w.bookings actor.id profile.userId input.startAt
        (addMinutes input.startAt availability.slotDurationMinutes) none
  | .rescheduleBooking _ actor bookingId input =>
    ∀ booking ∈ w.bookings, booking.id = bookingId → IsMovable cal w actor booking input →
      let availability := getAvailabilityForHr w.availabilities booking.hrUserId
      IsFreeAcross w.bookings booking.userId booking.hrUserId input.startAt
        (addMinutes input.startAt availability.slotDurationMinutes) (some bookingId)
  | _ => True

instance (cal : TimezoneName → Calendar) (w : World) (a : SerialAction) :
    Decidable (StaysApart cal w a) :=
  match a with
  | .createBooking _ actor input =>
    inferInstanceAs (Decidable (IsBookable cal w actor input → ∀ profile ∈ w.profiles, _ → _))
  | .rescheduleBooking _ actor bookingId input =>
    inferInstanceAs (Decidable (∀ booking ∈ w.bookings, booking.id = bookingId →
      IsMovable cal w actor booking input → _))
  | .cancelBooking .. | .retryBookingMeeting .. | .runJob .. | .updateAvailability ..
  | .setProfiles .. | .sweep | .advance .. => isTrue trivial

/-! ### What an action places -/

section Placed

variable {cal : TimezoneName → Calendar} {o : Oracle} {w w' : World} {actor : Actor}
  {a : SerialAction}

/-- What an action does to the active bookings: it places none, or one, which meets no booking of
the same role of its parties. -/
inductive Placed (cal : TimezoneName → Calendar) (w : World) (a : SerialAction) (w' : World) : Prop
  | none (h : ∀ b ∈ w'.bookings, b.isActive → b ∈ w.bookings) (hstays : StaysApart cal w a)
  | one (n : Booking) (hactive : n.isActive) (hlt : n.startAt < n.endAt)
      (h : ∀ b, b ∈ w'.bookings ↔ b = n ∨ b ∈ w.bookings ∧ b.id ≠ n.id)
      (hfree : ∀ owner : Owner, owner.Owns n →
        IsFree w.bookings owner n.startAt n.endAt (some n.id))
      (hstays : StaysApart cal w a ↔
        IsFreeAcross w.bookings n.userId n.hrUserId n.startAt n.endAt (some n.id))

theorem isFree_some_iff {c : Collection Booking} {owner : Owner} {startAt endAt : ℤ}
    {id : ObjectId} (h : ∀ b ∈ c, b.id ≠ id) :
    IsFree c owner startAt endAt (some id) ↔ IsFree c owner startAt endAt none := by
  refine ⟨fun hfree b hb hover => ?_, fun hfree => hfree.weaken _⟩
  exact absurd (Option.some.inj (hfree b hb hover)) (h b hb)

/-- A creation that goes through places its booking; any other places none. -/
theorem createBooking_placed (h : Kept w) (ho : o.Fresh w) (input : CreateBookingInput) :
    Placed cal w (.createBooking o actor input) (createBooking cal o actor input w).2 := by
  rcases createBooking_bookings cal (w := w) actor input with
    ⟨hsame, hrefused⟩ | ⟨args, hargs, hins⟩
  · refine .none (fun b hb _ => hsame ▸ hb) fun hbookable => ?_
    · obtain ⟨args, hargs⟩ := isBookable_iff.1 hbookable
      obtain ⟨c, hc⟩ := h.insert_isSome ho hargs
      exact absurd ((hrefused args hargs).symm.trans hc) nofun
  · have hbookable : IsBookable cal w actor input := isBookable_iff.2 ⟨args, hargs⟩
    obtain ⟨profile, hprofile, hoffered, hclient, hconsultant⟩ := createArgs_eq_ok.1 hargs
    have hsound := offeredArgs_sound hoffered
    obtain ⟨-, rfl⟩ := offeredArgs_eq_ok.1 hoffered
    obtain ⟨hmem, hid, -⟩ := bookableProfile_eq_ok.1 hprofile
    have hnew : ∀ b ∈ w.bookings, b.id ≠ o.newId := fun b hb =>
      ((Collection.insert_eq_some.1 hins).1 b hb).1
    refine .one (newBooking o.newId _) (newBooking_isActive o.newId _)
      (newBooking_wellFormed o.newId hsound).lt (fun b => ?_)
      (IsFree.both (hclient.weaken _) (hconsultant.weaken _)) ?_
    · rw [Collection.mem_insert hins, or_comm]
      exact or_congr_right ⟨fun hb => ⟨hb, hnew b hb⟩, fun hb => hb.1⟩
    · -- the profile is the only one of its identity
      refine Iff.trans ?_
        (and_congr (isFree_some_iff hnew) (isFree_some_iff hnew)).symm
      constructor
      · intro hstays
        exact hstays hbookable profile hmem hid
      · intro hfree _ profile' hmem' hid'
        obtain rfl := Collection.eq_of_docId hmem hmem' (hid.trans hid'.symm)
        exact hfree

/-- The checks of a reschedule pass exactly when the booking may be moved. -/
theorem isMovable_iff {booking : Booking} {input : RescheduleBookingInput}
    (hmem : booking ∈ w.bookings) : IsMovable cal w actor booking input ↔
      ∃ args, rescheduleArgs cal o actor booking.id input w = .ok args := by
  constructor
  · rintro ⟨hrole, hoffered, hclient, hconsultant⟩
    cases hassert : assertReschedulable actor booking input w.now with
    | error e =>
      rw [hassert] at hrole
      exact absurd hrole Bool.false_ne_true
    | ok role =>
      exact ⟨_, rescheduleArgs_eq_ok.2 ⟨booking, role, hmem, rfl, hassert,
        moveArgs_eq_ok.2 ⟨hoffered, rfl⟩, hclient, hconsultant⟩⟩
  · rintro ⟨args, hargs⟩
    obtain ⟨b, role, hb, hid, hassert, hmove, hclient, hconsultant⟩ := rescheduleArgs_eq_ok.1 hargs
    obtain rfl : b = booking := Collection.eq_of_docId hb hmem hid
    obtain ⟨hoffered, rfl⟩ := moveArgs_eq_ok.1 hmove
    refine ⟨?_, hoffered, hclient, hconsultant⟩
    rw [hassert]
    rfl

/-- A reschedule that goes through places its booking; any other places none. -/
theorem rescheduleBooking_placed (h : Kept w) (bookingId : ObjectId)
    (input : RescheduleBookingInput) :
    Placed cal w (.rescheduleBooking o actor bookingId input)
      (rescheduleBooking cal o actor bookingId input w).2 := by
  rcases rescheduleBooking_bookings cal (o := o) (w := w) actor bookingId input with
    ⟨hsame, hrefused⟩ | ⟨args, hargs, hupd⟩
  · refine .none (fun b hb _ => hsame ▸ hb) fun b hb hbid hmovable => ?_
    · subst hbid
      obtain ⟨args, hargs⟩ := (isMovable_iff (o := o) hb).1 hmovable
      obtain ⟨c, hc⟩ := h.move_isSome hargs
      exact absurd ((hrefused args hargs).symm.trans hc) (Option.some_ne_none c).symm
  · obtain ⟨b, role, hmem, hid, hrole, hmove, hclient, hconsultant⟩ := rescheduleArgs_eq_ok.1 hargs
    obtain ⟨-, hactive, -, -, hne⟩ := assertReschedulable_eq_ok.1 hrole
    obtain ⟨hsound, rfl⟩ := moveArgs_sound hmove hne
    refine .one (args.apply args.booking) hactive
      (args.apply_wellFormed hsound (h.wellFormed _ hmem) hactive rfl).lt (fun b' => ?_)
      (IsFree.both hclient hconsultant) ?_
    · rw [Collection.mem_update hupd, or_comm]
      refine or_congr_left ⟨?_, fun h => ⟨args.booking, hmem, rfl, h.symm⟩⟩
      rintro ⟨d, hd, hdid, rfl⟩
      obtain rfl : d = args.booking := Collection.eq_of_docId hd hmem hdid
      rfl
    · subst hid
      have hmovable : IsMovable cal w actor args.booking input :=
        (isMovable_iff hmem).2 ⟨args, hargs⟩
      have hacross : IsFreeAcross w.bookings args.booking.userId args.booking.hrUserId args.startAt
          args.endAt (some args.booking.id) ↔ IsFreeAcross w.bookings args.booking.userId
            args.booking.hrUserId input.startAt (addMinutes input.startAt
              (getAvailabilityForHr w.availabilities args.booking.hrUserId).slotDurationMinutes)
            (some args.booking.id) := by
        obtain ⟨-, heq⟩ := moveArgs_eq_ok.1 hmove
        rw [show args.startAt = input.startAt by rw [heq], show args.endAt = _ by rw [heq]]
      refine Iff.trans ⟨fun hstays => hstays args.booking hmem rfl hmovable, ?_⟩ hacross.symm
      intro hfree b' hmem' hid' _
      obtain rfl := Collection.eq_of_docId hmem' hmem hid'
      exact hfree

theorem mem_of_cancelBooking {id : ObjectId} {reason : Option String} {b : Booking}
    (hb : b ∈ (cancelBooking o actor id reason w).2.bookings) (hactive : b.isActive) :
    b ∈ w.bookings := by
  rcases cancelBooking_bookings (o := o) (w := w) actor id reason with
    hsame | ⟨booking, role, -, hopen, hupd⟩
  · rwa [hsame] at hb
  · rcases (Collection.mem_update hupd).1 hb with ⟨hb, -⟩ | ⟨d, -, -, rfl⟩
    · exact hb
    · refine absurd hactive (Booking.not_isActive_cancelled ?_)
      exact savePath_of_ne hopen.ne_cancelled.symm _

/-- **What an action places.** -/
theorem placed_of_step (h : Kept w) (hstep : (serial cal).step w a = some w') :
    Placed cal w a w' := by
  cases a with
  | createBooking o actor input =>
    obtain ⟨ho, rfl⟩ := Service.after_eq_some.1 hstep
    exact createBooking_placed h ho input
  | rescheduleBooking o actor id input =>
    obtain ⟨-, rfl⟩ := Service.after_eq_some.1 hstep
    exact rescheduleBooking_placed h id input
  | cancelBooking o actor id reason =>
    obtain ⟨-, rfl⟩ := Service.after_eq_some.1 hstep
    refine .none (fun b hb hactive => ?_) trivial
    exact mem_of_cancelBooking hb hactive
  | retryBookingMeeting o actor id =>
    obtain ⟨-, rfl⟩ := Service.after_eq_some.1 hstep
    refine .none (fun b hb _ => ?_) trivial
    rwa [(retryBookingMeeting_writes actor id w).frame.bookings] at hb
  | runJob o name id =>
    obtain ⟨-, rfl⟩ := Service.after_eq_some.1 hstep
    refine .none (fun b hb _ => ?_) trivial
    rwa [(name.handle_writes id w).frame.bookings] at hb
  | updateAvailability | setProfiles | advance =>
    cases hstep
    exact .none (fun b hb _ => hb) trivial
  | sweep =>
    cases hstep
    refine .none (fun b hb hactive => ?_) trivial
    rcases mem_lifecycleSweep hb with hb | ⟨d, -, -, rfl⟩
    · exact hb
    · exact absurd hactive d.complete_not_isActive

/-! ### One step -/

theorem Placed.nobodyTwice (h : Placed cal w a w') (hw : NobodyTwice w)
    (hstays : StaysApart cal w a) : NobodyTwice w' := by
  cases h with
  | none h =>
    intro b hb b' hb' hne hcoin
    exact hw b (h b hb hcoin.1) b' (h b' hb' hcoin.2.1) hne hcoin
  | one n hactive hlt h hfree hiff =>
    -- whoever shares a booking with `n` meets a check of their role in it
    have hnew : ∀ b ∈ w.bookings, b.id ≠ n.id → n.Coincides b → ∀ userId, n.Involves userId →
        ¬ b.Involves userId := by
      rintro b hb hne ⟨-, hb', hlt₁, hlt₂⟩ userId hn hinv
      have hmeets : ∀ owner : Owner, IsFree w.bookings owner n.startAt n.endAt (some n.id) →
          ¬ owner.Owns b := by
        intro owner howner howns
        exact hne (Option.some.inj (howner b hb ⟨howns, hb', hlt₂, hlt₁⟩))
      obtain ⟨hacross, hacross'⟩ := hiff.1 hstays
      rcases hn with rfl | rfl <;> rcases hinv with hinv | hinv
      · exact hmeets (.user n.userId) (hfree (.user n.userId) rfl) hinv
      · exact hmeets (.hr n.userId) hacross hinv
      · exact hmeets (.user n.hrUserId) hacross' hinv
      · exact hmeets (.hr n.hrUserId) (hfree (.hr n.hrUserId) rfl) hinv
    intro b hb b' hb' hne hcoin userId hinv hinv'
    rcases (h b).1 hb with rfl | ⟨hold, hid⟩ <;> rcases (h b').1 hb' with rfl | ⟨hold', hid'⟩
    · exact hne rfl
    · exact hnew b' hold' hid' hcoin userId hinv hinv'
    · exact hnew b hold hid hcoin.symm userId hinv' hinv
    · exact hw b hold b' hold' hne hcoin userId hinv hinv'

theorem Placed.staysApart (h : Placed cal w a w') (hw' : NobodyTwice w') : StaysApart cal w a := by
  cases h with
  | none _ hstays => exact hstays
  | one n hactive hlt h hfree hiff =>
    have hfree : ∀ (owner : Owner) userId, n.Involves userId →
        (∀ b, owner.Owns b → b.Involves userId) →
        IsFree w.bookings owner n.startAt n.endAt (some n.id) := by
      intro owner userId hn howner b hb ⟨howns, hb', hlt₁, hlt₂⟩
      by_contra hne
      have hid : b.id ≠ n.id := fun heq => hne (congrArg some heq)
      refine hw' n ((h n).2 (.inl rfl)) b ((h b).2 (.inr ⟨hb, hid⟩)) ?_
        ⟨hactive, hb', hlt₂, hlt₁⟩ userId hn (howner b howns)
      rintro rfl
      exact hid rfl
    refine hiff.2 ⟨hfree (.hr n.userId) n.userId (.inl rfl) fun b hb => .inr hb, ?_⟩
    exact hfree (.user n.hrUserId) n.hrUserId (.inr rfl) fun b hb => .inl hb

end Placed

/-! ### Runs -/

section Runs

variable {cal : TimezoneName → Calendar} {w₀ w : World} {as : List SerialAction}

/-- Every action of a run stays apart when nobody is twice in the states it passes. -/
theorem meets_of_nobodyTwice (h : Kept w₀) (hrun : (serial cal).run w₀ as = some w)
    (hnever : ∀ pre post w', as = pre ++ post → (serial cal).run w₀ pre = some w' →
      NobodyTwice w') : (serial cal).Meets (StaysApart cal) w₀ as := by
  refine Machine.meets_iff_forall_prefix.2 fun pre a post t hsplit hpre => ?_
  subst hsplit
  obtain ⟨t', ht', hpost⟩ := Machine.run_append.1 hrun
  obtain rfl : t = t' := Option.some.inj (hpre.symm.trans ht')
  obtain ⟨u, hstep, -⟩ := Machine.run_cons.1 hpost
  have ht : Kept t :=
    Machine.run_invariant' (fun _ _ _ hw hs => kept_step hw (serial_step_cases hs)) h hpre
  refine (placed_of_step ht hstep).staysApart ?_
  exact hnever (pre ++ [a]) post u (by simp) (Machine.run_concat.2 ⟨t, hpre, hstep⟩)

/-- **Nobody is in two consultations at once exactly as long as every action stays apart.** -/
theorem nobodyTwice_iff (hinit : w₀.bookings = Collection.empty)
    (hrun : (serial cal).run w₀ as = some w) :
    (∀ pre post w', as = pre ++ post → (serial cal).run w₀ pre = some w' → NobodyTwice w') ↔
      (serial cal).Meets (StaysApart cal) w₀ as := by
  constructor
  · intro hnever
    exact meets_of_nobodyTwice (kept_init hinit) hrun hnever
  · rintro hmeets pre post w' rfl hpre
    have hinv : Kept w' ∧ NobodyTwice w' := by
      refine Machine.run_invariant (I := fun w => Kept w ∧ NobodyTwice w) ?_ ?_ hmeets.of_append
        hpre
      · rintro s a s' ⟨hs, hnobody⟩ hG hstep
        exact ⟨kept_step hs (serial_step_cases hstep),
          (placed_of_step hs hstep).nobodyTwice hnobody hG⟩
      · refine ⟨kept_init hinit, fun b hb => absurd hb ?_⟩
        rw [hinit]
        exact Collection.not_mem_empty b
    exact hinv.2

end Runs

/-! ### A consultant who books a consultant -/

/-- The action creates, cancels or moves a booking. -/
def SerialAction.changesBooking : SerialAction → Bool
  | createBooking .. | cancelBooking .. | rescheduleBooking .. => true
  | _ => false

/-- Consultant 1 is booked at nine, and books consultant 4 at ten. -/
def bookedApart : List SerialAction :=
  [.createBooking (answering 1 1) ⟨2, .user⟩ (slotAt mondayNine),
    .createBooking (answering 2 2) ⟨1, .hr⟩
      { slotAt (addMinutes mondayNine 60) with profileId := 6 }]

theorem bookedApart_isSome :
    ((serial utcCalendar).run twoConsultants bookedApart).isSome = true := by
  decide +kernel

/-- The state after `bookedApart`. -/
def apartState : World :=
  ((serial utcCalendar).run twoConsultants bookedApart).get bookedApart_isSome

theorem bookedApart_eq : (serial utcCalendar).run twoConsultants bookedApart = some apartState :=
  (Option.some_get _).symm

/-- The consultant gives one consultation and takes the other. -/
theorem nobodyTwice_apart : apartState.bookings.docs.length = 2 ∧ NobodyTwice apartState :=
  ⟨by decide +kernel, (nobodyTwice_iff rfl bookedApart_eq).2 (by decide +kernel) bookedApart [] _
    (List.append_nil _).symm bookedApart_eq⟩

/-- Consultant 1 is booked at nine, and books consultant 4 at nine. -/
def bookedTwice : List SerialAction :=
  [.createBooking (answering 1 1) ⟨2, .user⟩ (slotAt mondayNine),
    .createBooking (answering 2 2) ⟨1, .hr⟩ { slotAt mondayNine with profileId := 6 }]

theorem bookedTwice_isSome :
    ((serial utcCalendar).run twoConsultants bookedTwice).isSome = true := by
  decide +kernel

/-- **Somebody can be in two consultations at once**, a consultant in one and a client in the
other. -/
theorem not_nobodyTwice :
    ¬ ∀ (cal : TimezoneName → Calendar) (w₀ w : World) (as : List SerialAction),
      w₀.bookings = Collection.empty → (∀ a ∈ as, a.changesBooking = true) →
      (serial cal).run w₀ as = some w → NobodyTwice w := by
  intro h
  have hnobody := h utcCalendar twoConsultants _ bookedTwice rfl (by decide)
    (Option.some_get bookedTwice_isSome).symm
  exact absurd hnobody (by decide +kernel)

end HrBooking
