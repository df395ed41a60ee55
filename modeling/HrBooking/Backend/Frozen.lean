import HrBooking.Backend.Cancellation
import HrBooking.Backend.Race

/-!
# Terminal bookings

Whether a booking that is over can change.  A reschedule and the lifecycle sweep write through a
filter on the stored status; a cancellation checks the status on the copy it has read and saves
without a filter, so what keeps a terminal booking as it is, is that every such save still finds it
active.

* `Booking.SameOutcome` : what must not change.
* `SavesLive` : the save of a cancellation finds the booking active.
* `stored_of_step` : only an active booking changes.
* `terminal_frozen` : in every run whose saves meet the condition, a terminal booking keeps its
  outcome and at most one cancellation succeeds.
* `not_terminal_frozen` : without the condition neither holds.
-/

namespace HrBooking

/-- The booking is cancelled or completed. -/
def Booking.isTerminal (b : Booking) : Prop := b.status = .cancelled ∨ b.status = .completed

instance (b : Booking) : Decidable b.isTerminal := inferInstanceAs (Decidable (_ ∨ _))

theorem Booking.isTerminal.not_isActive {b : Booking} (h : b.isTerminal) : ¬ b.isActive := by
  rw [isActive_iff]
  rcases h with h | h <;> simp [h]

/-- How a booking ended, and when it took place. -/
structure Booking.SameOutcome (b b' : Booking) : Prop where
  status : b'.status = b.status
  cancelledAt : b'.cancelledAt = b.cancelledAt
  cancelledBy : b'.cancelledBy = b.cancelledBy
  cancellationReason : b'.cancellationReason = b.cancellationReason
  startAt : b'.startAt = b.startAt
  endAt : b'.endAt = b.endAt

theorem Booking.SameOutcome.refl (b : Booking) : b.SameOutcome b := ⟨rfl, rfl, rfl, rfl, rfl, rfl⟩

/-! ### The condition on a step -/

/-- The copy a party is going to save next, cancelled. -/
def Proc.savesCancelled : Proc → Option Booking
  | request (.saveCancel _ loaded _ _ _) => some loaded
  | _ => none

/-- The command does not save a cancellation of the booking, or finds it active. -/
def Proc.SavesLive (bookingId : ObjectId) (w : World) (p : Proc) : Prop :=
  ∀ loaded ∈ p.savesCancelled, loaded.id = bookingId → ∀ b ∈ w.bookings, b.id = bookingId →
    b.isActive

instance (bookingId : ObjectId) (w : World) (p : Proc) : Decidable (p.SavesLive bookingId w) :=
  inferInstanceAs (Decidable (∀ loaded ∈ p.savesCancelled, _))

section Steps

variable {R : Type}

/-- The save of a cancellation of the booking finds it active. -/
def SavesLive (bookingId : ObjectId) (s : Backend R) (a : Action R) : Prop :=
  a.OnExec fun r _ => (s.procs r).SavesLive bookingId s.world

instance (bookingId : ObjectId) (s : Backend R) (a : Action R) :
    Decidable (SavesLive bookingId s a) := inferInstanceAs (Decidable (a.OnExec _))

/-- The action is the arrival of a creation. -/
def Action.beginsCreation : Action R → Bool
  | begin _ (.create ..) => true
  | _ => false

variable [DecidableEq R] {cal : TimezoneName → Calendar} {s s' : Backend R} {a : Action R}
  {bookingId : ObjectId}

omit [DecidableEq R] in
theorem isServing_creation_start {w w' : World} {r : R} {p : Proc} (ha : a.beginsCreation = false)
    (h : Starts w a r p w') : p.isServing .creation = false := by
  cases h with
  | request r request =>
    cases request with
    | create => cases ha
    | _ => rfl
  | retry | job => rfl

/-- **Only an active booking changes.**  When no creation is in flight and the save of a
cancellation finds the booking active, a booking that is stored after a step was stored before, and
is the same unless it was active. -/
theorem stored_of_step (hstep : BackendStep cal s a s')
    (hcreating : ∀ r, (s.procs r).isServing .creation = false) (hlive : SavesLive bookingId s a) :
    ∀ b' ∈ s'.world.bookings, b'.id = bookingId →
      ∃ b ∈ s.world.bookings, b.id = bookingId ∧ (b' = b ∨ b.isActive) := by
  intro b' hb' hid
  cases hstep.storedStep b' hb' with
  | kept hb => exact ⟨b', hb, hid, .inl rfl⟩
  | @inserted r o id args hp hnew =>
    have := hcreating r
    rw [hp] at this
    cases this
  | @saved r o actor loaded now role reason b hp hb hbid =>
    have hbooking : b.id = bookingId := hid
    simp only [SavesLive, Action.OnExec, hp, Proc.SavesLive] at hlive
    exact ⟨b, hb, hbooking, .inr (hlive _ rfl (hbid.symm.trans hbooking) b hb hbooking)⟩
  | moved _ hb _ hactive _ => exact ⟨_, hb, hid, .inr hactive⟩
  | completed hb hdue => exact ⟨_, hb, hid, .inr hdue.1⟩

end Steps

/-! ### Cancellations of the booking -/

/-- The party is going to cancel the booking, or was refused. -/
def Proc.CancelsLater (bookingId : ObjectId) : Proc → Prop
  | request (.readCancel _ id _) => id = bookingId
  | request (.saveCancel _ loaded _ _ _) => loaded.id = bookingId
  | done (some (.error _)) => True
  | _ => False

/-- The party has saved the cancellation of the booking and goes on, or has answered. -/
def Proc.HasCancelled (bookingId : ObjectId) : Proc → Prop
  | request (.audit _ booking _ _) | request (.queueCancel _ booking)
  | request (.forgetCancelled _ booking) => booking.id = bookingId
  | request (.reread _ id) => id = bookingId
  | done (some (.ok _)) => True
  | _ => False

section Cancellations

variable {cal : TimezoneName → Calendar} {o : Oracle} {w w' : World} {p p' : Proc}
  {bookingId : ObjectId}

/-- The party saves the cancellation of the booking in this command. -/
structure SavesCancel (bookingId : ObjectId) (w : World) (p : Proc) (w' : World) : Prop where
  saves : ∃ actor loaded now role reason,
    p = .request (.saveCancel actor loaded now role reason) ∧ loaded.id = bookingId ∧
      ∃ c, w.bookings.update loaded.id
          (saveCancelled loaded (loaded.cancel now role reason)) = some c ∧
        w' = { w with bookings := c }
  stored : ∃ b ∈ w.bookings, b.id = bookingId

/-- **How far a cancellation gets in one command**: it has cancelled only after its save. -/
theorem cancels_exec (h : ProcStep cal o w p w' p')
    (hp : p.CancelsLater bookingId ∨ p.HasCancelled bookingId) :
    p'.CancelsLater bookingId ∨ (p'.HasCancelled bookingId ∧
      (p.HasCancelled bookingId ∨ SavesCancel bookingId w p w')) := by
  cases h with
  | @request _ stage out hexec =>
    cases stage with
    -- the copy is read, and the request is still to save it
    | readCancel actor id reason =>
      have hid : id = bookingId := hp.elim (fun h => h) fun h => h.elim
      obtain rfl := (congrArg Prod.snd (Option.some.inj hexec)).symm
      refine andThen_induction (P := fun p => p.CancelsLater bookingId ∨ _)
        (fun _ => .inl trivial) ?_
      rintro ⟨booking, role, now⟩ hargs
      obtain ⟨_, hfind, hargs⟩ := bind_eq_ok.1 hargs
      obtain ⟨_, -, hargs⟩ := bind_eq_ok.1 hargs
      cases hargs
      exact .inl ((findBooking_eq_ok.1 hfind).2.trans hid)
    | saveCancel actor loaded now role reason =>
      have hid : loaded.id = bookingId := hp.elim (fun h => h) fun h => h.elim
      simp only [RequestStage.exec, calling] at hexec
      rcases saveBooking_cases (w := w) loaded (loaded.cancel now role reason) with
        ⟨e, hw⟩ | ⟨b, c, hb, hbid, hc, hw⟩
      · rw [hw] at hexec
        cases hexec
        exact .inl trivial
      · -- the save goes through: this is where the booking is cancelled
        rw [hw] at hexec
        cases hexec
        exact .inr ⟨hid, .inr ⟨⟨actor, loaded, now, role, reason, rfl, hid, c, hc, rfl⟩,
          b, hb, hbid.trans hid⟩⟩
    -- the stages after the save keep what the request has already done
    | audit actor booking | queueCancel actor booking | forgetCancelled actor booking =>
      have hid : booking.id = bookingId := hp.elim (fun h => h.elim) fun h => h
      obtain rfl := (congrArg Prod.snd (Option.some.inj hexec)).symm
      exact andThen_induction
        (P := fun p => p.CancelsLater bookingId ∨ (p.HasCancelled bookingId ∧ (_ ∨ _)))
        (fun _ => .inl trivial) fun _ _ => .inr ⟨hid, .inl hid⟩
    | reread actor id =>
      have hid : id = bookingId := hp.elim (fun h => h.elim) fun h => h
      cases hexec
      cases getBookingForActor actor id w with
      | error e => exact .inl trivial
      | ok booking => exact .inr ⟨trivial, .inl hid⟩
    | _ => exact (hp.elim (fun h => h) fun h => h).elim
  | handler | retryRefused | retryFound | retryAllowed | retryNotNeeded =>
    exact (hp.elim (fun h => h) fun h => h).elim

end Cancellations

/-! ### The invariant -/

section Invariant

variable {R : Type} [DecidableEq R] {cal : TimezoneName → Calendar} {s s' : Backend R}
  {a : Action R} {as : List (Action R)} {bookingId : ObjectId} {r r' : R}

/-- The party was asked to cancel the booking. -/
def Cancels (bookingId : ObjectId) (as : List (Action R)) (r : R) : Prop :=
  ∃ actor reason, .begin r (.cancel actor bookingId reason) ∈ as

/-- **The invariant** of the cancellations of a booking: one of them at most has saved it, and then
the booking is not active any more. -/
structure CancelledOnce (bookingId : ObjectId) (as : List (Action R)) (s : Backend R) : Prop where
  begun : Begun (fun request p => ∀ actor reason, request = .cancel actor bookingId reason →
    p.CancelsLater bookingId ∨ p.HasCancelled bookingId) as s
  creating : ∀ r, (s.procs r).isServing .creation = false
  saves : ∀ r, (s.procs r).SavesActive
  inactive : ∀ r, Cancels bookingId as r → (s.procs r).HasCancelled bookingId →
    ∀ b ∈ s.world.bookings, b.id = bookingId → ¬ b.isActive
  once : ∀ r r', Cancels bookingId as r → Cancels bookingId as r' →
    (s.procs r).HasCancelled bookingId → (s.procs r').HasCancelled bookingId → r = r'

omit [DecidableEq R] in
theorem cancelledOnce_init (w : World) :
    CancelledOnce bookingId ([] : List (Action R)) (Backend.init R w) where
  begun := by simp [Begun]
  creating _ := rfl
  saves _ := trivial
  inactive r h := by simp [Cancels] at h
  once r r' h := by simp [Cancels] at h

omit [DecidableEq R] in
theorem Starts.not_hasCancelled {w w' : World} {p : Proc} (h : Starts w a r p w') :
    ¬ p.HasCancelled bookingId := by
  cases h with
  | request r request => cases request <;> exact id
  | retry | job => exact id

/-- A party that has cancelled the booking after a step had done so before, or has saved it in this
step. -/
theorem CancelledOnce.hasCancelled_step (h : CancelledOnce bookingId as s)
    (hstep : BackendStep cal s a s') (hr : Cancels bookingId (as ++ [a]) r)
    (hhas : (s'.procs r).HasCancelled bookingId) :
    Cancels bookingId as r ∧ ((s.procs r).HasCancelled bookingId ∨
      ∃ o, a = .exec r o ∧ SavesCancel bookingId s.world (s.procs r) s'.world) := by
  obtain ⟨actor, reason, hmem⟩ := hr
  cases hstep.party r with
  | rests hproc hbegin _ =>
    refine ⟨⟨actor, reason, (List.mem_append.1 hmem).resolve_right fun hmem => ?_⟩,
      .inl (hproc ▸ hhas)⟩
    exact hbegin _ (List.mem_singleton.1 hmem).symm
  | starts _ hstart => exact absurd hhas hstart.not_hasCancelled
  | issues o ha hproc =>
    have hmem' : .begin r (.cancel actor bookingId reason) ∈ as := by
      subst ha
      simpa using hmem
    refine ⟨⟨actor, reason, hmem'⟩, ?_⟩
    generalize s'.procs r = p at hhas hproc
    have hlater : ¬ p.CancelsLater bookingId := by
      cases p with
      | request stage => cases stage <;> first | exact id | exact hhas.elim
      | done answer => rcases answer with _ | _ | _ <;> first | exact id | exact hhas.elim
      | _ => exact id
    rcases cancels_exec hproc ((h.begun r _ hmem').2 actor reason rfl) with hp | ⟨-, hp⟩
    · exact absurd hp hlater
    · exact hp.imp_right fun hp => ⟨o, ha, hp⟩

/-- **Every action whose save finds the booking active keeps the invariant.** -/
theorem CancelledOnce.step (h : CancelledOnce bookingId as s) (ha : a.beginsCreation = false)
    (hlive : SavesLive bookingId s a) (hstep : BackendStep cal s a s') :
    CancelledOnce bookingId (as ++ [a]) s' where
  begun := by
    refine h.begun.step (fun request => ?_) (fun request r o _ hproc hp actor reason he => ?_)
      hstep
    · rintro actor reason rfl
      exact .inl rfl
    · exact (cancels_exec hproc (hp actor reason he)).imp_right And.left
  creating := forall_procs_step (fun _ _ _ _ _ => isServing_exec
      (by decide : RequestKind.creation ≠ .rereading))
    (fun _ _ _ _ => isServing_creation_start ha) h.creating hstep
  saves := forall_procs_step (fun _ _ _ _ _ hexec _ => savesActive_exec hexec)
    (fun _ _ _ _ => savesActive_start) h.saves hstep
  inactive r hr hhas b' hb' hid := by
    obtain ⟨hr', hhas'⟩ := h.hasCancelled_step hstep hr hhas
    rcases hhas' with hhas' | ⟨o, rfl, hsave⟩
    · obtain ⟨b, hb, hbid, hb'⟩ := stored_of_step hstep h.creating hlive b' hb' hid
      have hinactive := h.inactive r hr' hhas' b hb hbid
      rcases hb' with rfl | hactive
      · exact hinactive
      · exact absurd hactive hinactive
    · -- the booking has just been saved as cancelled
      obtain ⟨actor, loaded, now, role, reason, hp, hloaded, c, hc, hw⟩ := hsave.saves
      have hsaves := h.saves r
      rw [hp] at hsaves
      rw [hw] at hb'
      rcases (Collection.mem_update hc).1 hb' with ⟨-, hne⟩ | ⟨d, -, -, rfl⟩
      · exact absurd (hid.trans hloaded.symm) hne
      · exact not_isActive_saveCancelled hsaves
  once r r' hr hr' hhas hhas' := by
    -- who saves now has found the booking active, so nobody had cancelled it before
    have hfirst : ∀ {r r' o}, SavesCancel bookingId s.world (s.procs r) s'.world →
        a = .exec r o → Cancels bookingId as r' → (s.procs r').HasCancelled bookingId → False := by
      rintro r r' o ⟨⟨actor, loaded, now, role, reason, hp, hloaded, -⟩, b, hb, hid⟩ rfl hr' hhas'
      simp only [SavesLive, Action.OnExec, hp, Proc.SavesLive] at hlive
      exact h.inactive r' hr' hhas' b hb hid (hlive _ rfl hloaded b hb hid)
    obtain ⟨hr, hhas⟩ := h.hasCancelled_step hstep hr hhas
    obtain ⟨hr', hhas'⟩ := h.hasCancelled_step hstep hr' hhas'
    rcases hhas with hhas | ⟨o, ha, hsave⟩ <;> rcases hhas' with hhas' | ⟨o', ha', hsave'⟩
    · exact h.once r r' hr hr' hhas hhas'
    · exact (hfirst hsave' ha' hr hhas).elim
    · exact (hfirst hsave ha hr' hhas').elim
    · rw [ha] at ha'
      cases ha'
      rfl

/-! ### Runs -/

/-- The party has answered a cancellation of the booking with success. -/
def CancelSucceeded (bookingId : ObjectId) (as : List (Action R)) (s : Backend R) (r : R) : Prop :=
  Cancels bookingId as r ∧ ∃ b, s.procs r = .done (some (.ok b))

/-- **Terminal bookings are frozen** in every run without creations in which every save of a
cancellation finds the booking active, whatever else is interleaved; and one cancellation of it
succeeds at most. -/
theorem terminal_frozen {w : World} {pre post : List (Action R)}
    (hlive : (backend R cal).Meets (fun s a => a.beginsCreation = false ∧ SavesLive bookingId s a)
      (Backend.init R w) (pre ++ post))
    (hpre : (backend R cal).run (Backend.init R w) pre = some s)
    (hpost : (backend R cal).run s post = some s') :
    (∀ b ∈ s.world.bookings, b.id = bookingId → b.isTerminal →
      ∀ b' ∈ s'.world.bookings, b'.id = bookingId → b.SameOutcome b') ∧
    ∀ r r', CancelSucceeded bookingId (pre ++ post) s' r →
      CancelSucceeded bookingId (pre ++ post) s' r' → r = r' := by
  have hstep : ∀ as a (t t' : Backend R), (backend R cal).run (Backend.init R w) as = some t →
      CancelledOnce bookingId as t → (a.beginsCreation = false ∧ SavesLive bookingId t a) →
      (backend R cal).step t a = some t' → CancelledOnce bookingId (as ++ [a]) t' :=
    fun as a t t' _ h hG hs => h.step hG.1 hG.2 (backend_step_cases hs)
  constructor
  · intro b hb hid hterm
    have hinit : CancelledOnce bookingId pre s :=
      Machine.run_history (cancelledOnce_init w) hstep hlive.of_append hpre
    -- from here on nothing writes the booking
    have hinv : (∀ r, (s'.procs r).isServing .creation = false) ∧
        ∀ b' ∈ s'.world.bookings, b'.id = bookingId → b' = b := by
      refine Machine.run_invariant
        (I := fun t => (∀ r, (t.procs r).isServing .creation = false) ∧
          ∀ b' ∈ t.world.bookings, b'.id = bookingId → b' = b)
        (fun t a t' hI hG hs => ?_)
        ⟨hinit.creating, fun b' hb' hid' => Collection.eq_of_docId hb' hb (hid'.trans hid.symm)⟩
        (hlive.append_right hpre) hpost
      have hcases := backend_step_cases hs
      refine ⟨forall_procs_step (fun _ _ _ _ _ => isServing_exec
        (by decide : RequestKind.creation ≠ .rereading))
        (fun _ _ _ _ => isServing_creation_start hG.1) hI.1 hcases, fun b' hb' hid' => ?_⟩
      obtain ⟨d, hd, hdid, hd'⟩ := stored_of_step hcases hI.1 hG.2 b' hb' hid'
      obtain rfl := hI.2 d hd hdid
      exact hd'.resolve_right hterm.not_isActive
    intro b' hb' hid'
    rw [hinv.2 b' hb' hid']
    exact .refl b
  · rintro r r' ⟨hr, b, hb⟩ ⟨hr', b', hb'⟩
    have hinv : CancelledOnce bookingId (pre ++ post) s' :=
      Machine.run_history (cancelledOnce_init w) hstep hlive (Machine.run_append.2 ⟨s, hpre, hpost⟩)
    exact hinv.once r r' hr hr' (by rw [hb]; trivial) (by rw [hb']; trivial)

end Invariant

/-! ### Cancellations on the Monday schedule -/

theorem booked_isSome : (mondayRun (serve (0 : ℕ) (bookAt mondayNine) 1 9)).isSome = true := by
  decide +kernel

/-- Client 2 holds booking 1 at nine o'clock. -/
def bookedWorld : World :=
  ((mondayRun (serve (0 : ℕ) (bookAt mondayNine) 1 9)).get booked_isSome).world

/-- The client of booking 1 asks to cancel it. -/
def cancelByClient : Request := .cancel ⟨2, .user⟩ 1 none

/-- The consultant of booking 1 asks to cancel it. -/
def cancelByConsultant : Request := .cancel ⟨1, .hr⟩ 1 (some "ill")

/-- The run of a list of actions of two parties over the booked slot. -/
def bookedRun (as : List (Action Bool)) : Option (Backend Bool) :=
  (backend Bool utcCalendar).run (Backend.init Bool bookedWorld) as

/-- The consultant's request to move the booking has made its checks when the client cancels. -/
def cancelledBesideMove : List (Action Bool) :=
  serve true (.reschedule ⟨1, .hr⟩ 1 ⟨addMinutes mondayNine 60, none⟩) 3 4 ++
    serve false cancelByClient 2 6

/-- Then the consultant's request comes to its write. -/
def movedTooLate : List (Action Bool) := [.exec true (answering 3 3)]

theorem cancelledBesideMove_isSome : (bookedRun cancelledBesideMove).isSome = true := by
  decide +kernel

/-- The state in which the client's request has ended. -/
def cancelledState : Backend Bool := (bookedRun cancelledBesideMove).get cancelledBesideMove_isSome

theorem cancelledBesideMove_eq : bookedRun cancelledBesideMove = some cancelledState :=
  (Option.some_get _).symm

theorem movedTooLate_isSome :
    ((backend Bool utcCalendar).run cancelledState movedTooLate).isSome = true := by
  decide +kernel

/-- The cancelled booking stays as the client has left it. -/
theorem terminal_frozen_beside :
    let s' := ((backend Bool utcCalendar).run cancelledState movedTooLate).get movedTooLate_isSome
    (∃ b ∈ cancelledState.world.bookings, b.id = 1 ∧ b.isTerminal) ∧
      ∀ b ∈ cancelledState.world.bookings, b.id = 1 → b.isTerminal →
        ∀ b' ∈ s'.world.bookings, b'.id = 1 → b.SameOutcome b' :=
  ⟨by decide +kernel, (terminal_frozen (w := bookedWorld) (by decide +kernel)
    cancelledBesideMove_eq (Option.some_get movedTooLate_isSome).symm).1⟩

/-- The action belongs to cancellations and reschedules of the booking, to the sweep, or to the
clock. -/
def Action.concerns {R : Type} (bookingId : ObjectId) : Action R → Bool
  | begin _ (.cancel _ id _) | begin _ (.reschedule _ id _) | complete id => id = bookingId
  | exec .. | advance _ => true
  | _ => false

/-- Both parties read the booking, and the client saves. -/
def cancelledOver : List (Action Bool) :=
  [.begin false cancelByClient, .begin true cancelByConsultant,
    .exec false (answering 2 2), .exec true (answering 3 3), .exec false (answering 2 2)]

/-- Then both go on to the end. -/
def cancelledOverThen : List (Action Bool) :=
  List.replicate 5 (.exec true (answering 3 3)) ++ List.replicate 4 (.exec false (answering 2 2))

theorem cancelledOver_isSome : (bookedRun cancelledOver).isSome = true := by decide +kernel

theorem cancelledOverThen_isSome :
    ((backend Bool utcCalendar).run ((bookedRun cancelledOver).get cancelledOver_isSome)
      cancelledOverThen).isSome = true := by
  decide +kernel

/-- **Terminal bookings are not frozen.**  The second save writes over the first: the consultant is
recorded, and both parties are told that they have cancelled the booking. -/
theorem not_terminal_frozen :
    ¬ ∀ (R : Type) [DecidableEq R] (cal : TimezoneName → Calendar) (bookingId : ObjectId)
      (w : World) (pre post : List (Action R)) (s s' : Backend R),
      (∀ a ∈ pre ++ post, a.concerns bookingId = true) →
      (backend R cal).run (Backend.init R w) pre = some s →
      (backend R cal).run s post = some s' →
      (∀ b ∈ s.world.bookings, b.id = bookingId → b.isTerminal →
        ∀ b' ∈ s'.world.bookings, b'.id = bookingId → b.SameOutcome b') ∧
      ∀ r r', CancelSucceeded bookingId (pre ++ post) s' r →
        CancelSucceeded bookingId (pre ++ post) s' r' → r = r' := by
  intro h
  have hfrozen := (h Bool utcCalendar 1 bookedWorld cancelledOver cancelledOverThen _ _
    (by decide) (Option.some_get cancelledOver_isSome).symm
    (Option.some_get cancelledOverThen_isSome).symm).1
  -- the stored booking names the client first and the consultant afterwards
  obtain ⟨b, hb, hid, hterm, hby⟩ :
      ∃ b ∈ ((bookedRun cancelledOver).get cancelledOver_isSome).world.bookings,
        b.id = 1 ∧ b.isTerminal ∧ b.cancelledBy = some .user := by
    decide +kernel
  obtain ⟨b', hb', hid', hby'⟩ : ∃ b' ∈ (((backend Bool utcCalendar).run
      ((bookedRun cancelledOver).get cancelledOver_isSome) cancelledOverThen).get
        cancelledOverThen_isSome).world.bookings, b'.id = 1 ∧ b'.cancelledBy = some .hr := by
    decide +kernel
  have hsame := (hfrozen b hb hid hterm b' hb' hid').cancelledBy
  rw [hby, hby'] at hsame
  cases hsame

end HrBooking
