import HrBooking.Backend.Record
import HrBooking.Serial.System

/-!
# The booking gate in serial runs

When the services run one after another, the overlap checks of creation and rescheduling are made
on the very collection that is written.  So no two active bookings of a consultant, and no two of
a client, ever overlap, however the schedules change in between; and the gate is complete: what the
checks let through, the unique index never refuses.

* `Kept` : the invariant; `kept_step` and `kept_run`.
* `serial_noDoubleBooking` : no double booking for either party.
* `IsBookable` and `createBooking_isOk_iff` : creation succeeds exactly when the time is offered and
  free.
-/

namespace HrBooking

/-- No two active bookings of a consultant or of a client overlap, and nobody books themselves. -/
def NoDoubleBooking (w : World) : Prop :=
  (∀ owner, DisjointFor owner w.bookings) ∧ ∀ b ∈ w.bookings, b.userId ≠ b.hrUserId

/-- **The invariant of serial runs.** -/
structure Kept (w : World) : Prop where
  wellFormed : ∀ b ∈ w.bookings, b.WellFormed
  /-- The identities of the stored bookings have been given out. -/
  issued : ∀ b ∈ w.bookings, b.id ∈ w.issuedIds
  noDoubleBooking : NoDoubleBooking w

/-! ### What an action changes -/

theorem mem_lifecycleSweep {w : World} {b : Booking} (h : b ∈ (lifecycleSweep w).bookings) :
    b ∈ w.bookings ∨ ∃ d ∈ w.bookings, isDue w.now d ∧ d.complete = b := by
  have hfold : ∀ (ids : List ObjectId) (c : Collection Booking),
      b ∈ ids.foldl (fun c id => completeBooking w.now id c) c →
        b ∈ c ∨ ∃ d ∈ c, isDue w.now d ∧ d.complete = b := by
    intro ids
    induction ids with
    | nil => exact fun c hb => .inl hb
    | cons id ids ih =>
      intro c hb
      rcases ih _ hb with hb | ⟨d, hd, hdue, rfl⟩
      · exact mem_completeBooking hb
      · -- a completed booking is not due again
        rcases mem_completeBooking hd with hd | ⟨d', -, -, rfl⟩
        · exact .inr ⟨d, hd, hdue, rfl⟩
        · exact absurd hdue.1 d'.complete_not_isActive
  exact hfold _ _ h

section Step

variable {w w₁ w' : World}

/-- What becomes of the active bookings: none is added or changed, or one is, and its interval was
free for both of its parties. -/
inductive ActiveChange (c c' : Collection Booking) : Prop
  | none (h : ∀ b ∈ c', b.isActive → b ∈ c)
  | one (n : Booking) (h : ∀ b ∈ c', b = n ∨ (b ∈ c ∧ b.id ≠ n.id))
      (hfree : ∀ owner : Owner, owner.Owns n → IsFree c owner n.startAt n.endAt (some n.id))

theorem IsFree.both {c : Collection Booking} {n : Booking} {startAt endAt : ℤ}
    {exclude : Option ObjectId} (hclient : IsFree c (.user n.userId) startAt endAt exclude)
    (hconsultant : IsFree c (.hr n.hrUserId) startAt endAt exclude) (owner : Owner)
    (h : owner.Owns n) : IsFree c owner startAt endAt exclude := by
  cases owner with
  | hr hrUserId =>
    obtain rfl : n.hrUserId = hrUserId := h
    exact hconsultant
  | user userId =>
    obtain rfl : n.userId = userId := h
    exact hclient

theorem IsFree.weaken {c : Collection Booking} {owner : Owner} {startAt endAt : ℤ}
    (h : IsFree c owner startAt endAt none) (exclude : Option ObjectId) :
    IsFree c owner startAt endAt exclude :=
  fun b hb hover => absurd (h b hb hover) nofun

theorem CallWrite.activeChange (h : CallWrite w w₁) : ActiveChange w.bookings w₁.bookings := by
  cases h with
  | none | refused => exact .none fun b hb _ => hb
  | insert id args _ _ hclient hconsultant hins =>
    refine .one (newBooking id args) (fun b hb => ?_)
      (IsFree.both (hclient.weaken _) (hconsultant.weaken _))
    rcases (Collection.mem_insert hins).1 hb with hb | rfl
    · exact .inr ⟨hb, ((Collection.insert_eq_some.1 hins).1 b hb).1⟩
    · exact .inl rfl
  | save b now role reason _ hactive hupd =>
    refine .none fun b' hb' ha => ?_
    rcases (Collection.mem_update hupd).1 hb' with ⟨hb', -⟩ | ⟨d, -, -, rfl⟩
    · exact hb'
    · refine absurd ha (Booking.not_isActive_cancelled ?_)
      exact savePath_of_ne hactive.ne_cancelled.symm _
  | move args _ hmem _ hclient hconsultant hupd =>
    refine .one (args.apply args.booking) (fun b hb => ?_) (IsFree.both hclient hconsultant)
    rcases (Collection.mem_update hupd).1 hb with ⟨hb, hne⟩ | ⟨d, hd, hdid, rfl⟩
    · exact .inr ⟨hb, hne⟩
    · obtain rfl : d = args.booking := Collection.eq_of_docId hd hmem hdid
      exact .inl rfl

theorem SerialStep.activeChange (h : SerialStep w w') : ActiveChange w.bookings w'.bookings := by
  cases h with
  | meeting hframe =>
    rw [hframe.bookings]
    exact .none fun b hb _ => hb
  | booking h =>
    cases h with
    | call hwrite hsame =>
      rw [hsame.bookings]
      exact hwrite.activeChange
    | surroundings => exact .none fun b hb _ => hb
    | sweep =>
      refine .none fun b hb ha => ?_
      rcases mem_lifecycleSweep hb with hb | ⟨d, -, -, rfl⟩
      · exact hb
      · exact absurd ha d.complete_not_isActive

/-! ### The invariant -/

theorem ActiveChange.disjointFor {c c' : Collection Booking} {owner : Owner}
    (h : ActiveChange c c') (hc : DisjointFor owner c) : DisjointFor owner c' := by
  cases h with
  | none h => exact hc.of_subset h
  | one n h hfree => exact hc.of_changed h (hfree owner)

theorem CallWrite.kept (h : CallWrite w w₁) (hw : Kept w) : Kept w₁ := by
  -- the bounds between bookings follow from the change of the active ones alone
  have hdisjoint : ∀ owner, DisjointFor owner w₁.bookings :=
    fun owner => h.activeChange.disjointFor (hw.noDoubleBooking.1 owner)
  obtain ⟨hwf, hissued, -, hself⟩ := hw
  cases h with
  | none => exact ⟨hwf, hissued, hdisjoint, hself⟩
  | refused => exact ⟨hwf, fun b hb => List.mem_cons_of_mem _ (hissued b hb), hdisjoint, hself⟩
  | insert id args hsound hne _ _ hins =>
    refine ⟨fun b hb => ?_, fun b hb => ?_, hdisjoint, fun b hb => ?_⟩ <;>
      rcases (Collection.mem_insert hins).1 hb with hb | rfl
    · exact hwf b hb
    · exact newBooking_wellFormed id hsound
    · exact List.mem_cons_of_mem _ (hissued b hb)
    · exact List.mem_cons_self
    · exact hself b hb
    · exact hne
  | save b now role reason hmem hactive hupd =>
    refine ⟨fun b' hb' => ?_, fun b' hb' => ?_, hdisjoint, fun b' hb' => ?_⟩ <;>
      rcases (Collection.mem_update hupd).1 hb' with ⟨hb', -⟩ | ⟨d, hd, -, rfl⟩
    · exact hwf b' hb'
    · exact saveCancelled_wellFormed (hwf b hmem) hactive (hwf d hd)
    · exact hissued b' hb'
    · exact hissued d hd
    · exact hself b' hb'
    · exact hself d hd
  | move args hsound hmem hactive _ _ hupd =>
    refine ⟨fun b hb => ?_, fun b hb => ?_, hdisjoint, fun b hb => ?_⟩ <;>
      rcases (Collection.mem_update hupd).1 hb with ⟨hb, -⟩ | ⟨d, hd, hdid, rfl⟩
    · exact hwf b hb
    · obtain rfl : d = args.booking := Collection.eq_of_docId hd hmem hdid
      exact args.apply_wellFormed hsound (hwf _ hd) hactive rfl
    · exact hissued b hb
    · exact hissued d hd
    · exact hself b hb
    · exact hself d hd

theorem Kept.of_eq (h : Kept w) (hbookings : w'.bookings = w.bookings)
    (hissued : w.issuedIds ⊆ w'.issuedIds) : Kept w' := by
  obtain ⟨hwf, hiss, hdisjoint, hself⟩ := h
  refine ⟨?_, ?_, ?_, ?_⟩ <;> rw [hbookings]
  · exact hwf
  · exact fun b hb => hissued (hiss b hb)
  · exact hdisjoint
  · exact hself

/-- **Every action keeps the invariant.** -/
theorem kept_step (h : Kept w) (hstep : SerialStep w w') : Kept w' := by
  have hdisjoint : ∀ owner, DisjointFor owner w'.bookings :=
    fun owner => hstep.activeChange.disjointFor (h.noDoubleBooking.1 owner)
  cases hstep with
  | meeting hframe => exact h.of_eq hframe.bookings hframe.issuedIds
  | booking hstep =>
    cases hstep with
    | call hwrite hsame =>
      exact (hwrite.kept h).of_eq hsame.bookings
        (by rw [hsame.issuedIds]; exact List.Subset.refl _)
    | surroundings => exact h.of_eq rfl (List.Subset.refl _)
    | sweep =>
      obtain ⟨hwf, hissued, -, hself⟩ := h
      refine ⟨fun b hb => ?_, fun b hb => ?_, hdisjoint, fun b hb => ?_⟩ <;>
        rcases mem_lifecycleSweep hb with hb | ⟨d, hd, hdue, rfl⟩
      · exact hwf b hb
      · exact d.complete_wellFormed (hwf d hd) hdue.1
      · exact hissued b hb
      · exact hissued d hd
      · exact hself b hb
      · exact hself d hd

end Step

section Run

variable {cal : TimezoneName → Calendar} {w₀ w : World} {as : List SerialAction}

theorem kept_init (h : w.bookings = Collection.empty) : Kept w := by
  have hnone : ∀ b, b ∉ w.bookings := by
    rw [h]
    exact Collection.not_mem_empty
  exact ⟨fun b hb => absurd hb (hnone b), fun b hb => absurd hb (hnone b),
    fun _ b hb => absurd hb (hnone b), fun b hb => absurd hb (hnone b)⟩

theorem kept_run (h : w₀.bookings = Collection.empty) (hrun : (serial cal).run w₀ as = some w) :
    Kept w :=
  Machine.run_invariant' (fun _ _ _ hw hstep => kept_step hw (serial_step_cases hstep))
    (kept_init h) hrun

/-- **No double booking in serial runs**, for consultants and for clients. -/
theorem serial_noDoubleBooking (h : w₀.bookings = Collection.empty)
    (hrun : (serial cal).run w₀ as = some w) : NoDoubleBooking w :=
  (kept_run h hrun).noDoubleBooking

end Run

/-! ### The gate -/

section Gate

variable {cal : TimezoneName → Calendar} {o : Oracle} {w w' : World} {actor : Actor}
  {input : CreateBookingInput}

/-- The consultant takes bookings, is not the actor and offers the time, and both are free. -/
def IsBookable (cal : TimezoneName → Calendar) (w : World) (actor : Actor)
    (input : CreateBookingInput) : Prop :=
  ∃ profile ∈ w.profiles, profile.id = input.profileId ∧ profile.status = .published ∧
    profile.isAvailable ∧ profile.userId ≠ actor.id ∧
    let availability := getAvailabilityForHr w.availabilities profile.userId
    let endAt := addMinutes input.startAt availability.slotDurationMinutes
    isOfferedSlot cal availability input.startAt w.now ∧
      IsFree w.bookings (.user actor.id) input.startAt endAt none ∧
      IsFree w.bookings (.hr profile.userId) input.startAt endAt none

instance : Decidable (IsBookable cal w actor input) := by
  unfold IsBookable
  infer_instance

/-- The checks of creation pass exactly when the time is bookable. -/
theorem isBookable_iff : IsBookable cal w actor input ↔
    ∃ args, createArgs cal o actor input w = .ok args := by
  constructor
  · rintro ⟨profile, hmem, hid, hstatus, havailable, hself, hoffered, hclient, hconsultant⟩
    refine ⟨_, createArgs_eq_ok.2 ⟨profile, ?_, offeredArgs_eq_ok.2 ⟨hoffered, rfl⟩, hclient,
      hconsultant⟩⟩
    exact bookableProfile_eq_ok.2 ⟨hmem, hid, hstatus, havailable, hself⟩
  · rintro ⟨args, hargs⟩
    obtain ⟨profile, hprofile, hoffered, hclient, hconsultant⟩ := createArgs_eq_ok.1 hargs
    obtain ⟨hslot, rfl⟩ := offeredArgs_eq_ok.1 hoffered
    obtain ⟨hmem, hid, hstatus, havailable, hself⟩ := bookableProfile_eq_ok.1 hprofile
    exact ⟨profile, hmem, hid, hstatus, havailable, hself, hslot, hclient, hconsultant⟩

/-- A stored booking with the slot key of a start is active and begins there, so an overlap check
from that start finds it. -/
theorem Kept.slotKey_ne {hrUserId : ObjectId} {startAt endAt : ℤ} {exclude : Option ObjectId}
    {b : Booking} (h : Kept w) (hlt : startAt < endAt)
    (hfree : IsFree w.bookings (.hr hrUserId) startAt endAt exclude) (hb : b ∈ w.bookings)
    (hne : some b.id ≠ exclude) : b.slotKey ≠ some (buildSlotKey hrUserId startAt) := by
  intro hkey
  have hwf := h.wellFormed b hb
  have hactive : b.isActive := hwf.slotKey_isSome.1 (Option.isSome_iff_exists.2 ⟨_, hkey⟩)
  have hsame : buildSlotKey b.hrUserId b.startAt = buildSlotKey hrUserId startAt :=
    Option.some.inj ((hwf.slotKey_of_active hactive).symm.trans hkey)
  obtain ⟨hhr, hstart⟩ := buildSlotKey_injective hsame
  refine hne (hfree b hb ⟨hhr, hactive, ?_, ?_⟩)
  · rw [hstart]
    exact hlt
  · rw [← hstart]
    exact hwf.lt

/-- **The unique index refuses nothing that passed the checks.** -/
theorem Kept.insert_isSome {args : InsertBookingArgs} (h : Kept w) (ho : o.Fresh w)
    (hargs : createArgs cal o actor input w = .ok args) :
    ∃ c, w.bookings.insert (newBooking o.newId args) = some c := by
  obtain ⟨profile, -, hoffered, -, hconsultant⟩ := createArgs_eq_ok.1 hargs
  have hlt := (newBooking_wellFormed o.newId (offeredArgs_sound hoffered)).lt
  refine Collection.insert_of_compatible fun b hb => ⟨?_, fun key hkey hkey' => ?_⟩
  · intro hid
    have hid : b.id = o.newId := hid
    exact ho.1 (hid ▸ h.issued b hb)
  · exact h.slotKey_ne hlt hconsultant hb (Option.some_ne_none _) (hkey.trans hkey'.symm)

theorem Kept.move_isSome {args : MoveArgs} {id : ObjectId} {input : RescheduleBookingInput}
    (h : Kept w) (hargs : rescheduleArgs cal o actor id input w = .ok args) :
    ∃ c, w.bookings.update args.booking.id args.apply = some c := by
  obtain ⟨booking, role, hmem, -, hrole, hmove, -, hconsultant⟩ := rescheduleArgs_eq_ok.1 hargs
  obtain ⟨-, hactive, -, -, hne⟩ := assertReschedulable_eq_ok.1 hrole
  obtain ⟨hsound, rfl⟩ := moveArgs_sound hmove hne
  have hlt : args.startAt < args.endAt :=
    (args.apply_wellFormed hsound (h.wellFormed _ hmem) hactive rfl).lt
  refine Collection.update_isSome (fun d _ hd => hd) fun d _ _ k hk e he hother => ?_
  rw [← hk]
  exact h.slotKey_ne hlt hconsultant he fun heq => hother (Option.some.inj heq)

/-- Creation succeeds exactly when its checks pass. -/
theorem Kept.createBooking_succeeds_iff (h : Kept w) (ho : o.Fresh w) (hqueues : o.QueuesAnswer) :
    (∃ booking, (createBooking cal o actor input w).1 = .ok booking) ↔
      ∃ args, createArgs cal o actor input w = .ok args := by
  cases hargs : createArgs cal o actor input w with
  | error e =>
    have hcheck : Service.check (createArgs cal o actor input) w = (.error e, w) := by
      rw [Service.check_apply, hargs]
    rw [createBooking, Service.bind_of_error hcheck]
    simp
  | ok args =>
    refine ⟨fun _ => ⟨args, rfl⟩, fun _ => ?_⟩
    have hcheck : Service.check (createArgs cal o actor input) w = (.ok args, w) := by
      rw [Service.check_apply, hargs]
    obtain ⟨c, hc⟩ := h.insert_isSome ho hargs
    obtain ⟨profile, -, -, -, hconsultant⟩ := createArgs_eq_ok.1 hargs
    have hins := insertBooking_of_free (o := o) hconsultant
    simp only [hc] at hins
    rw [createBooking, Service.bind_of_ok hcheck, Service.bind_of_ok hins, Service.bind_of_ok
      (Prod.ext (dispatchBookingCreated_eq_ok _ hqueues) rfl)]
    exact ⟨_, rfl⟩

/-- After the action the booking does not occupy its old interval any more. -/
def IsVacated (owner : Owner) (b : Booking) (bookings : Collection Booking) : Prop :=
  ∀ b' ∈ bookings, b'.id = b.id → ¬ b'.OverlapsWith owner b.startAt b.endAt

theorem Kept.isFree_of_vacated {owner : Owner} {b : Booking} (h : Kept w) (hstep : SerialStep w w')
    (hb : b ∈ w.bookings) (ha : b.isActive) (howns : owner.Owns b)
    (hvacated : IsVacated owner b w'.bookings) :
    IsFree w'.bookings owner b.startAt b.endAt none := by
  intro b' hb' hover
  have hne : b.id ≠ b'.id := fun hid => hvacated b' hb' hid.symm hover
  have hold : b' ∈ w.bookings → False := fun hmem =>
    h.noDoubleBooking.1 owner b hb b' hmem hne ⟨howns, ha, hover⟩
  cases hstep.activeChange with
  | none hsub => exact (hold (hsub b' hb' hover.2.1)).elim
  | one n hsub hfree =>
    rcases hsub b' hb' with rfl | ⟨hmem, -⟩
    · -- the changed booking was checked against `b`
      have hover' : b.OverlapsWith owner b'.startAt b'.endAt :=
        ⟨howns, ha, hover.2.2.2, hover.2.2.1⟩
      exact absurd (Option.some.inj (hfree owner hover.1 b hb hover')) hne
    · exact (hold hmem).elim

/-- **The gate is complete.**  In every state of a serial run creation succeeds exactly when the
time is bookable; the unique index refuses nothing that passed the checks; and the interval an
action vacates is free for both parties at once. -/
theorem createBooking_isOk_iff {w₀ : World} {as : List SerialAction}
    (hinit : w₀.bookings = Collection.empty) (hrun : (serial cal).run w₀ as = some w) :
    (∀ o actor input, o.Fresh w → o.QueuesAnswer →
      ((∃ booking, (createBooking cal o actor input w).1 = .ok booking) ↔
        IsBookable cal w actor input)) ∧
    (∀ o actor input args, o.Fresh w → createArgs cal o actor input w = .ok args →
      ∃ c, w.bookings.insert (newBooking o.newId args) = some c) ∧
    ∀ a w', (serial cal).step w a = some w' → ∀ b ∈ w.bookings, b.isActive →
      ∀ owner : Owner, owner.Owns b → IsVacated owner b w'.bookings →
        IsFree w'.bookings owner b.startAt b.endAt none := by
  have h := kept_run hinit hrun
  refine ⟨fun o actor input ho hqueues => ?_, fun o actor input args ho hargs => ?_, ?_⟩
  · rw [h.createBooking_succeeds_iff ho hqueues, isBookable_iff]
  · exact h.insert_isSome ho hargs
  · intro a w' hstep b hb ha owner howns hvacated
    exact h.isFree_of_vacated (serial_step_cases hstep) hb ha howns hvacated

end Gate

/-! ### A serial run on the Monday schedule -/

/-- Client 2 books nine o'clock, the slots become half hours, client 3 books ten, client 2 moves to
half past ten, client 3 cancels. -/
def serialMonday : List SerialAction :=
  [.createBooking (answering 1 1) ⟨2, .user⟩ (slotAt mondayNine),
    .updateAvailability 1 (mondayConfig AvailabilityDefaults.slotDurationMinutes),
    .createBooking (answering 2 2) ⟨3, .user⟩ (slotAt (addMinutes mondayNine 60)),
    .rescheduleBooking (answering 3 3) ⟨2, .user⟩ 1 ⟨addMinutes mondayNine 90, none⟩,
    .cancelBooking (answering 4 4) ⟨3, .user⟩ 2 none]

theorem serialMonday_isSome :
    ((serial utcCalendar).run mondayWorld serialMonday).isSome = true := by
  decide +kernel

/-- The state after `serialMonday`. -/
def mondayBooked : World :=
  ((serial utcCalendar).run mondayWorld serialMonday).get serialMonday_isSome

theorem serialMonday_eq : (serial utcCalendar).run mondayWorld serialMonday = some mondayBooked :=
  (Option.some_get _).symm

/-- Both bookings are stored, and neither is double booked. -/
theorem serial_noDoubleBooking_monday :
    mondayBooked.bookings.docs.length = 2 ∧ NoDoubleBooking mondayBooked :=
  ⟨by decide +kernel, serial_noDoubleBooking rfl serialMonday_eq⟩

/-- The vacated slot at ten can be booked again. -/
theorem createBooking_isOk_iff_monday :
    ∃ booking, (createBooking utcCalendar (answering 5 5) ⟨3, .user⟩
      (slotAt (addMinutes mondayNine 60)) mondayBooked).1 = .ok booking :=
  ((createBooking_isOk_iff rfl serialMonday_eq).1 _ _ _ (by decide +kernel) (by decide)).2
    (by decide +kernel)

end HrBooking
