import HrBooking.Backend.Race
import Mathlib.Data.Fintype.Basic

/-!
# Races for a client's time

Whether two active bookings of one client can overlap once no request is in flight.  A creation
checks the client before the insert, and the sweep after it looks at the consultant's bookings only,
so nothing resolves a clash of one client with two consultants.

* `Unsettled` : the request that inserted the booking has not let it stand yet.
* `SweepIsClear` : the booking that a sweep lets stand clashes with unsettled bookings only.
* `ClientSettled` : the invariant, one of two bookings that clash is unsettled.
* `clients_disjoint` : in every run whose sweeps meet the condition no clash is left in the end.
* `not_clients_disjoint` : without it, a client is booked twice.
-/

namespace HrBooking

/-- The party is about to sweep after the insert of the booking, or to withdraw it. -/
def Proc.isUnsettled (bookingId : ObjectId) : Proc → Bool
  | request (.sweep id _) | request (.withdraw id) => id = bookingId
  | _ => false

section Conditions

variable {R : Type}

/-- The request that inserted the booking has not let it stand yet. -/
def Unsettled (s : Backend R) (b : Booking) : Prop := ∃ r, (s.procs r).isUnsettled b.id = true

instance [Fintype R] (s : Backend R) (b : Booking) : Decidable (Unsettled s b) :=
  Fintype.decidableExistsFintype

/-- The sweep a party is going to make next: its booking, and what that was made from. -/
def Proc.sweeps : Proc → Option (ObjectId × InsertBookingArgs)
  | request (.sweep id args) => some (id, args)
  | _ => none

/-- When the sweep lets the booking stand, every other active booking of the client that overlaps
it is unsettled. -/
def Proc.SweepIsClear (userId : ObjectId) (s : Backend R) (o : Oracle) (p : Proc) : Prop :=
  ∀ x ∈ p.sweeps,
    (∀ conflict ∈ findOverlappingBooking s.world.bookings o.pick (.hr x.2.hrUserId) x.2.startAt
      x.2.endAt (some x.1), ¬ standsDown conflict (newBooking x.1 x.2)) →
    ∀ b ∈ s.world.bookings, b.id = x.1 → ∀ b' ∈ s.world.bookings, b'.id ≠ x.1 →
      Clash (.user userId) b b' → Unsettled s b'

instance [Fintype R] (userId : ObjectId) (s : Backend R) (o : Oracle) (p : Proc) :
    Decidable (p.SweepIsClear userId s o) := inferInstanceAs (Decidable (∀ x ∈ p.sweeps, _))

/-- The sweep of the step, if it is one, is clear. -/
def SweepIsClear (userId : ObjectId) (s : Backend R) (a : Action R) : Prop :=
  a.OnExec fun r o => (s.procs r).SweepIsClear userId s o

instance [Fintype R] (userId : ObjectId) (s : Backend R) (a : Action R) :
    Decidable (SweepIsClear userId s a) := inferInstanceAs (Decidable (a.OnExec _))

/-- **The invariant**: of two bookings of the client that clash, one is unsettled. -/
def ClientSettled (userId : ObjectId) (s : Backend R) : Prop :=
  ∀ b ∈ s.world.bookings, ∀ b' ∈ s.world.bookings, b.id ≠ b'.id → Clash (.user userId) b b' →
    Unsettled s b ∨ Unsettled s b'

end Conditions

/-! ### Steps -/

section Steps

variable {R : Type} [DecidableEq R] {cal : TimezoneName → Calendar} {userId : ObjectId}
  {s s' : Backend R} {a : Action R} {r : R} {o : Oracle} {w : World} {p : Proc} {b : Booking}

theorem active_of_step (hstep : BackendStep cal s a s')
    (hmoving : ∀ r, (s.procs r).isMoving = false) (hsaves : ∀ r, (s.procs r).SavesActive)
    (hb : b ∈ s'.world.bookings) (ha : b.isActive) :
    b ∈ s.world.bookings ∨ ∃ r o args, a = .exec r o ∧ s.procs r = .request (.insert b.id args) ∧
      ∀ b' ∈ s.world.bookings, b'.id ≠ b.id := by
  cases hstep.storedStep b hb with
  | kept hb => exact .inl hb
  | inserted hp hnew => exact .inr ⟨_, _, _, rfl, hp, hnew⟩
  | @saved r o actor loaded now role reason d hp hd hid =>
    have hs := hsaves r
    rw [hp] at hs
    exact absurd ha (not_isActive_saveCancelled hs)
  | @moved r _ _ _ _ _ hp =>
    have hm := hmoving r
    rw [hp] at hm
    cases hm
  | completed hd hdue => exact absurd ha (Booking.complete_not_isActive _)

/-- **A booking stays unsettled** until the sweep of its request lets it stand, or it is removed. -/
theorem unsettled_step (hstep : BackendStep cal s a s') (h : Unsettled s b)
    (hb : b ∈ s'.world.bookings) :
    Unsettled s' b ∨ ∃ r o args, a = .exec r o ∧ s.procs r = .request (.sweep b.id args) ∧
      ∀ conflict ∈ findOverlappingBooking s.world.bookings o.pick (.hr args.hrUserId) args.startAt
        args.endAt (some b.id), ¬ standsDown conflict (newBooking b.id args) := by
  obtain ⟨r', hr'⟩ := h
  cases hstep with
  | @launch _ r p w hidle =>
    have hne : r' ≠ r := by
      rintro rfl
      rw [hidle] at hr'
      cases hr'
    exact .inl ⟨r', by rwa [Backend.procs_put_of_ne hne]⟩
  | surroundings => exact .inl ⟨r', hr'⟩
  | @exec r o w p hproc =>
    by_cases hne : r' ≠ r
    · exact .inl ⟨r', by rwa [Backend.procs_put_of_ne hne]⟩
    · obtain rfl := not_not.1 hne
      have hself : (s.put r' w p).procs r' = p := Backend.procs_put_self
      have hb' : b ∈ w.bookings := hb
      generalize hp : s.procs r' = q at hproc hr'
      cases hproc with
      | @request _ stage out hexec =>
        cases stage with
        | sweep id args =>
          obtain rfl := of_decide_eq_true hr'
          obtain ⟨rfl, rfl | ⟨rfl, hstands⟩⟩ := sweep_cases hexec
          · exact .inl ⟨r', by rw [hself]; exact decide_eq_true rfl⟩
          · exact .inr ⟨r', o, args, rfl, hp, hstands⟩
        | withdraw id =>
          -- the booking is removed, so it is not stored any more
          obtain rfl := of_decide_eq_true hr'
          cases hexec
          exact absurd rfl (Collection.mem_delete_decide.1 hb').2
        | _ => cases hr'
      | handler | retryRefused | retryFound | retryAllowed | retryNotNeeded => cases hr'

theorem unsettled_of_insert {args : InsertBookingArgs}
    (hstep : BackendStep cal s (.exec r o) s') (hp : s.procs r = .request (.insert b.id args))
    (hb : b ∈ s'.world.bookings) (hnew : ∀ b' ∈ s.world.bookings, b'.id ≠ b.id) :
    Unsettled s' b := by
  cases hstep with
  | launch _ hstart => cases hstart
  | surroundings hsur => cases hsur
  | @exec _ _ w p hproc =>
    have hb' : b ∈ w.bookings := hb
    rw [hp] at hproc
    cases hproc with
    | request hexec =>
      simp only [RequestStage.exec] at hexec
      split at hexec
      · cases hexec
        exact absurd rfl (hnew b hb')
      · cases hexec
        refine ⟨r, ?_⟩
        rw [Backend.procs_put_self]
        exact decide_eq_true rfl

/-- **Every action whose sweep is clear keeps the invariant.** -/
theorem clientSettled_step (h : ClientSettled userId s) (hstep : BackendStep cal s a s')
    (hmoving : ∀ r, (s.procs r).isMoving = false) (hsaves : ∀ r, (s.procs r).SavesActive)
    (hclear : SweepIsClear userId s a) : ClientSettled userId s' := by
  -- a booking that was unsettled still is, or was let stand next to unsettled bookings only
  have hkeep : ∀ {b b'}, b ∈ s.world.bookings → b ∈ s'.world.bookings → b' ∈ s.world.bookings →
      b' ∈ s'.world.bookings → b.id ≠ b'.id → Clash (.user userId) b b' → Unsettled s b →
      Unsettled s' b ∨ Unsettled s' b' := by
    intro b b' hb hbs hb' hbs' hne hclash hun
    rcases unsettled_step hstep hun hbs with hun | ⟨r, o, args, rfl, hp, hstands⟩
    · exact .inl hun
    · simp only [SweepIsClear, Action.OnExec, hp, Proc.SweepIsClear] at hclear
      refine .inr ((unsettled_step hstep (hclear _ rfl hstands b hb rfl b' hb' hne.symm hclash)
        hbs').resolve_right ?_)
      rintro ⟨r', o', args', ha, hp', -⟩
      cases ha
      rw [hp] at hp'
      obtain ⟨hid, -⟩ : b.id = b'.id ∧ args = args' := by simpa using hp'
      exact hne hid
  intro b hb b' hb' hne hclash
  rcases active_of_step hstep hmoving hsaves hb hclash.2.1 with hold | ⟨r, o, args, rfl, hp, hnew⟩
  · rcases active_of_step hstep hmoving hsaves hb' hclash.2.2.2.1 with
      hold' | ⟨r, o, args, rfl, hp, hnew⟩
    · rcases h b hold b' hold' hne hclash with hun | hun
      · exact hkeep hold hb hold' hb' hne hclash hun
      · exact (hkeep hold' hb' hold hb hne.symm hclash.symm hun).symm
    · exact .inr (unsettled_of_insert hstep hp hb' hnew)
  · exact .inl (unsettled_of_insert hstep hp hb hnew)

/-! ### Runs -/

/-- **One client, any consultants.**  From a store in which the client's active bookings are
disjoint, every run without reschedules whose sweeps are clear leaves them disjoint when nothing is
in flight. -/
theorem clients_disjoint {as : List (Action R)} (h : DisjointFor (.user userId) w.bookings)
    (hclear : (backend R cal).Meets (fun s a => a.isReschedule = false ∧ SweepIsClear userId s a)
      (Backend.init R w) as)
    (hrun : (backend R cal).run (Backend.init R w) as = some s) (hq : s.Quiescent) :
    DisjointFor (.user userId) s.world.bookings := by
  have hinv : ClientSettled userId s ∧ (∀ r, (s.procs r).SavesActive) ∧
      ∀ r, (s.procs r).isMoving = false := by
    refine Machine.run_invariant (I := fun s => ClientSettled userId s ∧
      (∀ r, (s.procs r).SavesActive) ∧ ∀ r, (s.procs r).isMoving = false)
      (fun s a s' hI hG hstep => ?_) (s := Backend.init R w)
      ⟨?_, fun _ => trivial, fun _ => rfl⟩ hclear hrun
    · have hcases := backend_step_cases hstep
      exact ⟨clientSettled_step hI.1 hcases hI.2.2 hI.2.1 hG.2, forall_procs_step
        (fun _ _ _ _ _ hexec _ => savesActive_exec hexec) (fun _ _ _ _ => savesActive_start)
        hI.2.1 hcases, forall_procs_step (fun _ _ _ _ _ => isMoving_exec)
        (fun _ _ _ _ => isMoving_start hG.1) hI.2.2 hcases⟩
    · exact fun b hb b' hb' hne hclash => absurd hclash (h b hb b' hb' hne)
  have hnone : ∀ b, ¬ Unsettled s b := by
    rintro b ⟨r, hr⟩
    have hrest := hq r
    generalize s.procs r = q at hr hrest
    cases q with
    | idle | done => cases hr
    | request | retryRead | retryFind | handler => cases hrest
  intro b hb b' hb' hne hclash
  exact (hinv.1 b hb b' hb' hne hclash).elim (hnone b) (hnone b')

end Steps

/-! ### One client and two consultants -/

/-- Consultants 1 and 4 take hourly bookings on Mondays. -/
def twoConsultants : World :=
  { mondayWorld with
    profiles := ⟨[⟨5, 1, .published, true, 5000, .usd⟩, ⟨6, 4, .published, true, 8000, .usd⟩],
      by simp [Document.Compatible, Document.docId, Document.indexKey]⟩
    availabilities := fun hrUserId =>
      if hrUserId = 4 then mondayWorld.availabilities 1 else mondayWorld.availabilities hrUserId }

/-- Client 2 asks for a consultant's slot at an instant. -/
def bookWith (profileId : ObjectId) (startAt : ℤ) : Request :=
  .create ⟨2, .user⟩ { slotAt startAt with profileId }

/-- The run of a list of actions of two parties over the schedules of both consultants. -/
def twoConsultantsRun (as : List (Action Bool)) : Option (Backend Bool) :=
  (backend Bool utcCalendar).run (Backend.init Bool twoConsultants) as

/-- The client asks one consultant for nine o'clock; before the insert, the client books the other
one at ten. -/
def bookedBoth : List (Action Bool) :=
  serve false (bookWith 5 mondayNine) 1 5 ++
    serve true (bookWith 6 (addMinutes mondayNine 60)) 2 9 ++
      List.replicate 4 (.exec false (answering 1 1))

theorem bookedBoth_isSome : (twoConsultantsRun bookedBoth).isSome = true := by decide +kernel

/-- Consultations one after the other do not overlap. -/
theorem clients_disjoint_beside :
    DisjointFor (.user 2) ((twoConsultantsRun bookedBoth).get bookedBoth_isSome).world.bookings :=
  clients_disjoint (w := twoConsultants) (by decide +kernel) (by decide +kernel)
    (Option.some_get _).symm (by show ∀ r : Bool, _; decide +kernel)

/-- The action belongs to creations of the client. -/
def Action.createsFor {R : Type} (userId : ObjectId) : Action R → Bool
  | begin _ (.create actor _) => actor.id = userId
  | exec .. => true
  | _ => false

/-- The client asks both consultants for nine o'clock; both requests make their checks before either
of them inserts. -/
def bookedAtOnce : List (Action Bool) :=
  serve false (bookWith 5 mondayNine) 1 5 ++ serve true (bookWith 6 mondayNine) 2 9 ++
    List.replicate 4 (.exec false (answering 1 1))

theorem bookedAtOnce_isSome : (twoConsultantsRun bookedAtOnce).isSome = true := by decide +kernel

/-- **A client can be booked twice.**  The sweep after the insert looks at the consultant only. -/
theorem not_clients_disjoint :
    ¬ ∀ (R : Type) [DecidableEq R] (cal : TimezoneName → Calendar) (userId : ObjectId) (w : World)
      (as : List (Action R)) (s : Backend R), DisjointFor (.user userId) w.bookings →
      (∀ a ∈ as, a.createsFor userId = true) →
      (backend R cal).run (Backend.init R w) as = some s → s.Quiescent →
      DisjointFor (.user userId) s.world.bookings := by
  intro h
  have hdisjoint := h Bool utcCalendar 2 twoConsultants bookedAtOnce _ (by decide +kernel)
    (by decide) (Option.some_get bookedAtOnce_isSome).symm (by show ∀ r : Bool, _; decide +kernel)
  exact absurd hdisjoint (by decide +kernel)

end HrBooking
