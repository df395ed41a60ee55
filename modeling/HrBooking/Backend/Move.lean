import HrBooking.Backend.Frozen

/-!
# Moves of one booking

Whether reschedules of one booking that run together amount to reschedules one after another.  The
limit, the same-time check and the start a move leaves are taken from the copy that was read, while
the update asks for an active booking only; so the moves are in order as long as each of them still
finds the start it has read and the limit not reached.

* `reschedules` : moves one after another, on what a move looks at.
* `rescheduleBooking_times` : `rescheduleBooking` alone is one move.
* `MoveIsFresh` : a move that goes through finds the start it has read, below the limit.
* `reschedules_serializable` : in every run whose moves meet the condition, the requests that
  succeed are moves in some order.
* `not_reschedules_serializable` : without the condition they are not.
-/

namespace HrBooking

/-! ### One after another -/

/-- When a booking starts, when it started before its last move, and how often it was moved. -/
structure BookingTimes where
  startAt : ℤ
  previousStartAt : Option ℤ
  rescheduleCount : ℕ

/-- The times of a booking. -/
def Booking.times (b : Booking) : BookingTimes :=
  ⟨b.startAt, b.previousStartAt, b.rescheduleCount⟩

/-- Moves to one start after another, below the limit and never to the same start. -/
def reschedules : Machine BookingTimes ℤ where
  step times startAt :=
    if times.rescheduleCount < BookingLimits.rescheduleMax ∧ startAt ≠ times.startAt then
      some ⟨startAt, some times.startAt, times.rescheduleCount + 1⟩
    else none

section Reschedules

variable {times times' : BookingTimes} {startAt : ℤ}

theorem reschedules_step (hcount : times.rescheduleCount < BookingLimits.rescheduleMax)
    (hne : startAt ≠ times.startAt) :
    reschedules.step times startAt =
      some ⟨startAt, some times.startAt, times.rescheduleCount + 1⟩ := if_pos ⟨hcount, hne⟩

theorem reschedules_step_eq_some (h : reschedules.step times startAt = some times') :
    times.rescheduleCount < BookingLimits.rescheduleMax ∧ startAt ≠ times.startAt ∧
      times' = ⟨startAt, some times.startAt, times.rescheduleCount + 1⟩ := by
  simp only [reschedules] at h
  split_ifs at h with hmay
  exact ⟨hmay.1, hmay.2, (Option.some.inj h).symm⟩

theorem reschedules_count_le {startAts : List ℤ}
    (hcount : times.rescheduleCount ≤ BookingLimits.rescheduleMax)
    (hrun : reschedules.run times startAts = some times') :
    times'.rescheduleCount ≤ BookingLimits.rescheduleMax := by
  refine Machine.run_invariant'
    (I := fun times => times.rescheduleCount ≤ BookingLimits.rescheduleMax)
    (fun times startAt times' _ hstep => ?_) hcount hrun
  obtain ⟨hmay, -, rfl⟩ := reschedules_step_eq_some hstep
  exact hmay

end Reschedules

/-- **A reschedule that runs alone** is one move of its booking. -/
theorem rescheduleBooking_times {cal : TimezoneName → Calendar} {o : Oracle} {w w' : World}
    {actor : Actor} {id : ObjectId} {input : RescheduleBookingInput} {moved : Booking}
    (h : rescheduleBooking cal o actor id input w = (.ok moved, w')) :
    ∃ b ∈ w.bookings, b.id = id ∧ moved ∈ w'.bookings ∧ moved.id = id ∧
      reschedules.step b.times input.startAt = some moved.times := by
  rcases rescheduleBooking_cases cal o w actor id input with
    ⟨⟨e, hrun⟩, -⟩ | ⟨args, c, hargs, hmem, hid, -, hupd, hrun⟩
  · rw [hrun] at h
    cases h
  · obtain ⟨b, role, -, -, hrole, hmove, -, -⟩ := rescheduleArgs_eq_ok.1 hargs
    obtain ⟨-, -, -, hcount, hne⟩ := assertReschedulable_eq_ok.1 hrole
    have hmoved : args.apply args.booking ∈ c :=
      (Collection.mem_update hupd).2 (.inr ⟨args.booking, hmem, rfl, rfl⟩)
    have hsame := dispatchBookingRescheduled_within (o := o) (args.apply args.booking)
      { w with bookings := c }
    rw [hrun, Service.bind_apply] at h
    split at h
    · rename_i w₁ hdispatch
      rw [hdispatch] at hsame
      cases h
      obtain ⟨-, rfl⟩ := moveArgs_eq_ok.1 hmove
      refine ⟨b, hmem, hid, ?_, hid, reschedules_step hcount hne⟩
      rwa [show w'.bookings = c from hsame.bookings]
    · cases h

/-! ### The condition on a step -/

/-- The move a party is going to make next. -/
def Proc.moves : Proc → Option MoveArgs
  | request (.move _ args) => some args
  | _ => none

/-- The booking a party has moved and is going to queue the update of next. -/
def Proc.syncs : Proc → Option Booking
  | request (.queueSync _ booking) => some booking
  | _ => none

/-- The booking a party has moved and is going to queue the reminder of next. -/
def Proc.reminds : Proc → Option Booking
  | request (.remindMoved _ booking) => some booking
  | _ => none

/-- The command is no move of the booking that goes through, or finds the start it has read and the
limit not reached. -/
def Proc.MoveIsFresh (bookingId : ObjectId) (w : World) (p : Proc) : Prop :=
  ∀ args ∈ p.moves, args.booking.id = bookingId →
    ∀ b ∈ w.bookings, b.id = bookingId → b.isActive →
      (w.bookings.update args.booking.id args.apply).isSome →
        b.startAt = args.booking.startAt ∧ b.rescheduleCount < BookingLimits.rescheduleMax

/-- The queues answer a request that has moved the booking. -/
structure Proc.DispatchesMove (bookingId : ObjectId) (o : Oracle) (w : World) (p : Proc) :
    Prop where
  sync : ∀ booking ∈ p.syncs, booking.id = bookingId → o.meetingQueueFails = false
  remind : ∀ booking ∈ p.reminds, booking.id = bookingId →
    0 < booking.startAt - reminderLeadMs - w.now → o.reminderQueueFails = false

instance (bookingId : ObjectId) (w : World) (p : Proc) : Decidable (p.MoveIsFresh bookingId w) :=
  inferInstanceAs (Decidable (∀ args ∈ p.moves, _))

instance (bookingId : ObjectId) (o : Oracle) (w : World) (p : Proc) :
    Decidable (p.DispatchesMove bookingId o w) :=
  decidable_of_iff ((∀ booking ∈ p.syncs, booking.id = bookingId → o.meetingQueueFails = false) ∧
    ∀ booking ∈ p.reminds, booking.id = bookingId →
      0 < booking.startAt - reminderLeadMs - w.now → o.reminderQueueFails = false)
    ⟨fun h => ⟨h.1, h.2⟩, fun h => ⟨h.sync, h.remind⟩⟩

section Conditions

variable {R : Type}

/-- A move of the booking that goes through finds the start it has read and the limit not
reached. -/
def MoveIsFresh (bookingId : ObjectId) (s : Backend R) (a : Action R) : Prop :=
  a.OnExec fun r _ => (s.procs r).MoveIsFresh bookingId s.world

/-- The queues answer the requests that have moved the booking. -/
def DispatchesMove (bookingId : ObjectId) (s : Backend R) (a : Action R) : Prop :=
  a.OnExec fun r o => (s.procs r).DispatchesMove bookingId o s.world

/-- The action deletes the booking. -/
def Action.deletesBooking (bookingId : ObjectId) : Action R → Bool
  | deleteBooking id => id = bookingId
  | _ => false

/-- The moves of the booking are fresh and dispatched, and it is neither created in the run nor
deleted. -/
structure MovesInOrder (bookingId : ObjectId) (s : Backend R) (a : Action R) : Prop where
  fresh : MoveIsFresh bookingId s a
  dispatched : DispatchesMove bookingId s a
  noCreation : a.beginsCreation = false
  kept : a.deletesBooking bookingId = false

instance (bookingId : ObjectId) (s : Backend R) (a : Action R) :
    Decidable (MovesInOrder bookingId s a) :=
  have : Decidable (MoveIsFresh bookingId s a) := inferInstanceAs (Decidable (a.OnExec _))
  have : Decidable (DispatchesMove bookingId s a) := inferInstanceAs (Decidable (a.OnExec _))
  decidable_of_iff (MoveIsFresh bookingId s a ∧ DispatchesMove bookingId s a ∧
    a.beginsCreation = false ∧ a.deletesBooking bookingId = false)
    ⟨fun h => ⟨h.1, h.2.1, h.2.2.1, h.2.2.2⟩,
      fun h => ⟨h.fresh, h.dispatched, h.noCreation, h.kept⟩⟩

end Conditions

/-! ### Requests to move a booking -/

/-- The actor takes part in the booking, if this is the one the request is about. -/
def TakesPart (b₀ : Booking) (actor : Actor) (id : ObjectId) : Prop :=
  id = b₀.id → ∃ role, assertParticipant actor b₀ = .ok role

/-- The request is going to move its booking, or was refused. -/
def Proc.MovesLater (b₀ : Booking) (actor : Actor) (id : ObjectId)
    (input : RescheduleBookingInput) : Proc → Prop
  | request (.readMove a i inp) => a = actor ∧ i = id ∧ inp = input
  | request (.readMoveOffer a b inp) =>
    a = actor ∧ b.id = id ∧ inp = input ∧ inp.startAt ≠ b.startAt ∧ TakesPart b₀ actor id
  | request (.checkMoveClient a args) | request (.checkMoveConsultant a args)
  | request (.move a args) =>
    a = actor ∧ args.booking.id = id ∧ args.startAt = input.startAt ∧
      args.startAt ≠ args.booking.startAt ∧ TakesPart b₀ actor id
  | done (some (.error _)) => True
  | _ => False

/-- The request has moved its booking and goes on, or has answered. -/
def Proc.HasMoved (b₀ : Booking) (actor : Actor) (id : ObjectId) : Proc → Prop
  | request (.queueSync a b) | request (.forgetMoved a b) | request (.remindMoved a b) =>
    a = actor ∧ b.id = id ∧ TakesPart b₀ actor id
  | request (.reread a i) => a = actor ∧ i = id ∧ TakesPart b₀ actor id
  | done (some (.ok _)) => True
  | _ => False

/-- The booking is stored, with the client and the consultant it began with. -/
def StoredAs (b₀ : Booking) (w : World) : Prop :=
  ∃ b ∈ w.bookings, b.id = b₀.id ∧ b.userId = b₀.userId ∧ b.hrUserId = b₀.hrUserId

theorem assertParticipant_congr {actor : Actor} {b b' : Booking} (huser : b.userId = b'.userId)
    (hhr : b.hrUserId = b'.hrUserId) : assertParticipant actor b = assertParticipant actor b' := by
  unfold assertParticipant
  rw [huser, hhr]

/-- A move goes through: it finds the booking active, and the index accepts the new start. -/
structure GoesThrough (w : World) (args : MoveArgs) (stored : Booking) (c : Collection Booking) :
    Prop where
  mem : stored ∈ w.bookings
  id_eq : stored.id = args.booking.id
  active : stored.isActive
  written : w.bookings.update args.booking.id args.apply = some c

section Commands

variable {cal : TimezoneName → Calendar} {o : Oracle} {w w' : World} {p p' : Proc} {b₀ : Booking}
  {actor : Actor} {id : ObjectId} {input : RescheduleBookingInput}

/-- **How far a reschedule gets in one command**: it has moved its booking only after its move, and
once it has moved it, it is answered with success. -/
theorem moves_exec (hstored : StoredAs b₀ w) (hdispatch : p.DispatchesMove b₀.id o w)
    (h : ProcStep cal o w p w' p') (hp : p.MovesLater b₀ actor id input ∨ p.HasMoved b₀ actor id) :
    (p'.MovesLater b₀ actor id input ∧ (p.HasMoved b₀ actor id → id ≠ b₀.id)) ∨
      (p'.HasMoved b₀ actor id ∧ (p.HasMoved b₀ actor id ∨
        ∃ args, p = .request (.move actor args) ∧ args.booking.id = id ∧
          args.startAt = input.startAt ∧ args.startAt ≠ args.booking.startAt ∧
          ∃ stored c, GoesThrough w args stored c)) := by
  -- only the commands of a reschedule are on its way; every other party is neither before nor after
  cases h with
  | @request _ stage out hexec =>
    cases stage with
    | readMove a i inp =>
      obtain ⟨rfl, rfl, rfl⟩ := hp.resolve_right False.elim
      obtain rfl := (congrArg Prod.snd (Option.some.inj hexec)).symm
      refine .inl ⟨?_, False.elim⟩
      refine andThen_induction (fun _ => trivial) fun b hfind => ?_
      refine andThen_induction (fun _ => trivial) fun role hrole => ?_
      obtain ⟨hmem, hid⟩ := findBooking_eq_ok.1 hfind
      obtain ⟨hpart, -, -, -, hne⟩ := assertReschedulable_eq_ok.1 hrole
      refine ⟨rfl, hid, rfl, hne, fun hb₀ => ⟨role, ?_⟩⟩
      obtain ⟨d, hd, hdid, huser, hhr⟩ := hstored
      obtain rfl : b = d := Collection.eq_of_docId hmem hd (hid.trans (hb₀.trans hdid.symm))
      rwa [assertParticipant_congr huser hhr] at hpart
    | readMoveOffer a b inp =>
      obtain ⟨rfl, rfl, rfl, hne, hpart⟩ := hp.resolve_right False.elim
      obtain rfl := (congrArg Prod.snd (Option.some.inj hexec)).symm
      refine .inl ⟨?_, False.elim⟩
      refine andThen_induction (fun _ => trivial) fun args hargs => ?_
      obtain ⟨-, rfl⟩ := moveArgs_eq_ok.1 hargs
      exact ⟨rfl, rfl, rfl, hne, hpart⟩
    | checkMoveClient a args | checkMoveConsultant a args =>
      have hlater := hp.resolve_right False.elim
      obtain rfl := (congrArg Prod.snd (Option.some.inj hexec)).symm
      exact .inl ⟨andThen_induction (fun _ => trivial) fun _ _ => hlater, False.elim⟩
    | move a args =>
      obtain ⟨rfl, hid, hstart, hne, hpart⟩ := hp.resolve_right False.elim
      simp only [RequestStage.exec, calling] at hexec
      rcases moveBooking_cases (w := w) args with
        ⟨e, hw⟩ | ⟨stored, c, hmem, hsid, hactive, hc, hw⟩
      · rw [hw] at hexec
        cases hexec
        exact .inl ⟨trivial, False.elim⟩
      · -- the move goes through
        rw [hw] at hexec
        cases hexec
        exact .inr ⟨⟨rfl, hsid.trans hid, hpart⟩, .inr ⟨args, rfl, hid, hstart, hne,
          stored, c, hmem, hsid, hactive, hc⟩⟩
    | queueSync a b =>
      have hhas := hp.resolve_left False.elim
      obtain ⟨rfl, rfl, hpart⟩ := hhas
      simp only [RequestStage.exec, calling] at hexec
      rcases addMeetingJob_cases (o := o) (w := w) .sync b.id with ⟨hfails, hw⟩ | ⟨-, hw⟩
      · rw [hw] at hexec
        cases hexec
        refine .inl ⟨trivial, fun _ hid => ?_⟩
        rw [hdispatch.sync _ rfl hid] at hfails
        cases hfails
      · rw [hw] at hexec
        cases hexec
        exact .inr ⟨⟨rfl, rfl, hpart⟩, .inl ⟨rfl, rfl, hpart⟩⟩
    | forgetMoved a b =>
      have hhas := hp.resolve_left False.elim
      simp only [RequestStage.exec, calling, removeReminder] at hexec
      split_ifs at hexec <;>
      · cases hexec
        exact .inr ⟨hhas, .inl hhas⟩
    | remindMoved a b =>
      have hhas := hp.resolve_left False.elim
      obtain ⟨rfl, rfl, hpart⟩ := hhas
      simp only [RequestStage.exec, calling, scheduleReminder] at hexec
      split_ifs at hexec with hdue hfails <;> cases hexec
      · exact .inr ⟨⟨rfl, rfl, hpart⟩, .inl ⟨rfl, rfl, hpart⟩⟩
      · refine .inl ⟨trivial, fun _ hid => ?_⟩
        rw [hdispatch.remind _ rfl hid (not_le.1 hdue)] at hfails
        cases hfails
      · exact .inr ⟨⟨rfl, rfl, hpart⟩, .inl ⟨rfl, rfl, hpart⟩⟩
      · exact .inr ⟨⟨rfl, rfl, hpart⟩, .inl ⟨rfl, rfl, hpart⟩⟩
    -- the last command reads the moved booking for the answer, which must not fail
    | reread a i =>
      obtain ⟨rfl, rfl, hpart⟩ := hp.resolve_left False.elim
      cases hexec
      by_cases hid : i = b₀.id
      · -- the booking is still stored, and its participants are the same
        obtain ⟨role, hrole⟩ := hpart hid
        obtain ⟨d, hd, hdid, huser, hhr⟩ := hstored
        have hread := getBookingForActor_of_mem hd
          ((assertParticipant_congr huser hhr).trans hrole)
        rw [hdid, ← hid] at hread
        rw [hread]
        exact .inr ⟨trivial, .inl ⟨rfl, rfl, hpart⟩⟩
      · cases getBookingForActor a i w with
        | error e => exact .inl ⟨trivial, fun _ => hid⟩
        | ok b => exact .inr ⟨trivial, .inl ⟨rfl, rfl, hpart⟩⟩
    | _ => exact hp.elim False.elim False.elim
  | handler | retryRefused | retryFound | retryAllowed | retryNotNeeded =>
    exact hp.elim False.elim False.elim

end Commands

/-! ### The invariant -/

section Invariant

variable {R : Type} [DecidableEq R] {cal : TimezoneName → Calendar} {s s' : Backend R}
  {a : Action R} {as : List (Action R)} {b₀ : Booking} {r : R} {startAt : ℤ}

/-- The party was asked to move the booking to a start, and has moved it. -/
def HasMovedTo (b₀ : Booking) (as : List (Action R)) (s : Backend R) (r : R) (startAt : ℤ) : Prop :=
  ∃ actor input, .begin r (.reschedule actor b₀.id input) ∈ as ∧ input.startAt = startAt ∧
    (s.procs r).HasMoved b₀ actor b₀.id

/-- The party's move of the booking goes through in this action. -/
structure Moving (b₀ : Booking) (s : Backend R) (a : Action R) (r : R) (args : MoveArgs) :
    Prop where
  action : ∃ o, a = .exec r o
  proc : ∃ actor, s.procs r = .request (.move actor args)
  booking : args.booking.id = b₀.id
  changes : args.startAt ≠ args.booking.startAt
  goes : ∃ stored c, GoesThrough s.world args stored c

/-- **The invariant**: the parties that have moved the booking have done so one after another. -/
structure MovedInOrder (b₀ : Booking) (as : List (Action R)) (s : Backend R) : Prop where
  creating : ∀ r, (s.procs r).isServing .creation = false
  served : Served as s
  begun : Begun (fun request p => ∀ actor id input, request = .reschedule actor id input →
    p.MovesLater b₀ actor id input ∨ p.HasMoved b₀ actor id) as s
  stored : StoredAs b₀ s.world
  ordered : ∃ order : List (R × ℤ), (order.map Prod.fst).Nodup ∧
    (∀ r startAt, (r, startAt) ∈ order ↔ HasMovedTo b₀ as s r startAt) ∧
    ∀ b ∈ s.world.bookings, b.id = b₀.id →
      reschedules.run b₀.times (order.map Prod.snd) = some b.times

omit [DecidableEq R] in
theorem movedInOrder_init {w : World} (hb₀ : b₀ ∈ w.bookings) :
    MovedInOrder b₀ ([] : List (Action R)) (Backend.init R w) where
  creating _ := rfl
  served _ _ h := by cases h
  begun := by simp [Begun]
  stored := ⟨b₀, hb₀, rfl, rfl, rfl⟩
  ordered := by
    refine ⟨[], List.nodup_nil, fun r startAt => ?_, fun b hb hid => ?_⟩
    · simp [HasMovedTo]
    · rw [Collection.eq_of_docId hb hb₀ hid]
      rfl

theorem GoesThrough.exec {o : Oracle} {w w' : World} {actor : Actor} {args : MoveArgs} {p : Proc}
    {stored : Booking} {c : Collection Booking} (hgoes : GoesThrough w args stored c)
    (h : ProcStep cal o w (.request (.move actor args)) w' p) :
    w'.bookings = c ∧ p = .request (.queueSync actor (args.apply stored)) := by
  cases h with
  | request hexec =>
    simp only [RequestStage.exec, calling,
      moveBooking_of_active hgoes.mem hgoes.id_eq hgoes.active, hgoes.written] at hexec
    cases hexec
    exact ⟨rfl, rfl⟩

namespace Moving

variable {args args' : MoveArgs} {r' : R}

omit [DecidableEq R] in
/-- One party at most moves the booking in an action. -/
theorem unique (h : Moving b₀ s a r args) (h' : Moving b₀ s a r' args') :
    r = r' ∧ args = args' := by
  obtain ⟨o, rfl⟩ := h.action
  obtain ⟨o', ha⟩ := h'.action
  cases ha
  obtain ⟨actor, hp⟩ := h.proc
  obtain ⟨actor', hp'⟩ := h'.proc
  rw [hp] at hp'
  cases hp'
  exact ⟨rfl, rfl⟩

omit [DecidableEq R] in
theorem fresh (h : Moving b₀ s a r args) (hfresh : MoveIsFresh b₀.id s a) {stored : Booking}
    {c : Collection Booking} (hgoes : GoesThrough s.world args stored c) :
    stored.startAt = args.booking.startAt ∧
      stored.rescheduleCount < BookingLimits.rescheduleMax := by
  obtain ⟨o, rfl⟩ := h.action
  obtain ⟨actor, hp⟩ := h.proc
  simp only [MoveIsFresh, Action.OnExec, hp, Proc.MoveIsFresh] at hfresh
  exact hfresh _ rfl h.booking stored hgoes.mem (hgoes.id_eq.trans h.booking) hgoes.active
    (by rw [hgoes.written]; rfl)

/-- What the party does in the action. -/
theorem exec (h : Moving b₀ s a r args) (hstep : BackendStep cal s a s') {stored : Booking}
    {c : Collection Booking} (hgoes : GoesThrough s.world args stored c) :
    s'.world.bookings = c ∧
      ∃ actor, s.procs r = .request (.move actor args) ∧
        s'.procs r = .request (.queueSync actor (args.apply stored)) := by
  obtain ⟨o, rfl⟩ := h.action
  obtain ⟨actor, hp⟩ := h.proc
  cases hstep.party r with
  | rests _ _ hexec => exact absurd rfl (hexec o)
  | starts hidle _ =>
    rw [hp] at hidle
    cases hidle
  | issues o' _ hproc =>
    rw [hp] at hproc
    obtain ⟨hw, hp'⟩ := hgoes.exec hproc
    exact ⟨hw, actor, hp, hp'⟩

end Moving

omit [DecidableEq R] in
theorem Starts.not_hasMoved {w w' : World} {p : Proc} {actor : Actor} {id : ObjectId}
    (h : Starts w a r p w') : ¬ p.HasMoved b₀ actor id := by
  cases h with
  | request r request => cases request <;> exact False.elim
  | retry | job => exact False.elim

namespace MovedInOrder

theorem hasMovedTo_step (h : MovedInOrder b₀ as s) (hG : MovesInOrder b₀.id s a)
    (hstep : BackendStep cal s a s') (hhas : HasMovedTo b₀ (as ++ [a]) s' r startAt) :
    HasMovedTo b₀ as s r startAt ∨ ∃ args, Moving b₀ s a r args ∧ args.startAt = startAt := by
  obtain ⟨actor, input, hmem, hstart, hhas⟩ := hhas
  cases hstep.party r with
  | rests hproc hbegin _ =>
    refine .inl ⟨actor, input, (List.mem_append.1 hmem).resolve_right fun hmem => ?_, hstart,
      hproc ▸ hhas⟩
    exact hbegin _ (List.mem_singleton.1 hmem).symm
  | starts _ hs => exact absurd hhas hs.not_hasMoved
  | issues o ha hproc =>
    subst ha
    have hmem' : .begin r (.reschedule actor b₀.id input) ∈ as := by simpa using hmem
    have hQ := (h.begun r _ hmem').2 actor b₀.id input rfl
    generalize s'.procs r = p at hhas hproc
    rcases moves_exec h.stored hG.dispatched hproc hQ with
      ⟨hlater, -⟩ | ⟨-, hold | ⟨args, hp, hid, hto, hne, hgoes⟩⟩
    · -- no party both has moved its booking and is going to
      cases p with
      | request stage => cases stage <;> first | exact hhas.elim | exact hlater.elim
      | done answer => rcases answer with _ | _ | _ <;> first | exact hhas.elim | exact hlater.elim
      | _ => exact hhas.elim
    · exact .inl ⟨actor, input, hmem', hstart, hold⟩
    · exact .inr ⟨args, ⟨⟨o, rfl⟩, ⟨actor, hp⟩, hid, hne, hgoes⟩, hto.trans hstart⟩

theorem hasMovedTo_mono (h : MovedInOrder b₀ as s) (hG : MovesInOrder b₀.id s a)
    (hstep : BackendStep cal s a s') (hhas : HasMovedTo b₀ as s r startAt) :
    HasMovedTo b₀ (as ++ [a]) s' r startAt := by
  obtain ⟨actor, input, hmem, hstart, hhas⟩ := hhas
  refine ⟨actor, input, List.mem_append_left _ hmem, hstart, ?_⟩
  cases hstep.party r with
  | rests hproc => exact hproc ▸ hhas
  | starts hidle _ => exact absurd hidle (h.begun r _ hmem).1
  | issues o ha hproc =>
    subst ha
    have hp : (s.procs r).MovesLater b₀ actor b₀.id input ∨ (s.procs r).HasMoved b₀ actor b₀.id :=
      .inr hhas
    rcases moves_exec h.stored hG.dispatched hproc hp with
      ⟨-, hother⟩ | ⟨hhas', -⟩
    · exact absurd rfl (hother hhas)
    · exact hhas'

omit [DecidableEq R] in
theorem begun_of_move (h : MovedInOrder b₀ as s) {actor : Actor} {args : MoveArgs}
    (hp : s.procs r = .request (.move actor args)) :
    ∃ actor' id input, .begin r (.reschedule actor' id input) ∈ as ∧
      (Proc.request (.move actor args)).MovesLater b₀ actor' id input := by
  obtain ⟨request, hmem, hkind⟩ := h.served r _ hp nofun
  cases request with
  | create | cancel => cases hkind
  | reschedule actor' id input =>
    have hQ := (h.begun r _ hmem).2 actor' id input rfl
    rw [hp] at hQ
    exact ⟨actor', id, input, hmem, hQ.resolve_right False.elim⟩

/-- A party whose move goes through has moved the booking then, and had not before. -/
theorem hasMovedTo_moving {args : MoveArgs} (h : MovedInOrder b₀ as s)
    (hstep : BackendStep cal s a s') (hm : Moving b₀ s a r args) :
    HasMovedTo b₀ (as ++ [a]) s' r args.startAt ∧ ∀ startAt, ¬ HasMovedTo b₀ as s r startAt := by
  obtain ⟨stored, c, hgoes⟩ := hm.goes
  obtain ⟨-, actor, hp, hp'⟩ := hm.exec hstep hgoes
  constructor
  · obtain ⟨_, id, input, hmem, rfl, hid, hto, -, hpart⟩ := h.begun_of_move hp
    obtain rfl : id = b₀.id := hid.symm.trans hm.booking
    refine ⟨actor, input, List.mem_append_left _ hmem, hto.symm, ?_⟩
    rw [hp']
    exact ⟨rfl, hgoes.id_eq.trans hid, hpart⟩
  · rintro startAt ⟨actor', input, -, -, hhas⟩
    rw [hp] at hhas
    exact hhas

/-- What is stored of the booking after a step: it keeps its times and its participants, or a move
goes through and is applied. -/
theorem stored_step (h : MovedInOrder b₀ as s) (hstep : BackendStep cal s a s') {b' : Booking}
    (hb' : b' ∈ s'.world.bookings) (hid : b'.id = b₀.id) :
    ∃ b ∈ s.world.bookings, b.id = b₀.id ∧ b'.userId = b.userId ∧ b'.hrUserId = b.hrUserId ∧
      (b'.times = b.times ∨ ∃ r args, Moving b₀ s a r args) := by
  cases hstep.storedStep b' hb' with
  | kept hb => exact ⟨b', hb, hid, rfl, rfl, .inl rfl⟩
  | @inserted r _ _ _ hp =>
    have := h.creating r
    rw [hp] at this
    cases this
  | saved hp hb => exact ⟨_, hb, hid, rfl, rfl, .inl rfl⟩
  | @moved r o actor args b c hp hb hbid hactive hupd =>
    refine ⟨b, hb, hid, rfl, rfl, .inr ⟨r, args, ⟨o, rfl⟩, ⟨actor, hp⟩, hbid.symm.trans hid, ?_,
      b, c, hb, hbid, hactive, hupd⟩⟩
    obtain ⟨_, _, _, -, -, -, -, hne, -⟩ := h.begun_of_move hp
    exact hne
  | completed hb => exact ⟨_, hb, hid, rfl, rfl, .inl rfl⟩

/-- **Every action that meets the condition keeps the invariant.** -/
theorem step (h : MovedInOrder b₀ as s) (hG : MovesInOrder b₀.id s a)
    (hstep : BackendStep cal s a s') : MovedInOrder b₀ (as ++ [a]) s' where
  creating := forall_procs_step (fun _ _ _ _ _ => isServing_exec
      (by decide : RequestKind.creation ≠ .rereading))
    (fun _ _ _ _ => isServing_creation_start hG.noCreation) h.creating hstep
  served := h.served.step hstep
  begun := by
    refine h.begun.step (fun request => ?_) (fun request r o ha hproc hp actor id input he => ?_)
      hstep
    · rintro actor id input rfl
      exact .inl ⟨rfl, rfl, rfl⟩
    · subst ha
      exact (moves_exec h.stored hG.dispatched hproc (hp actor id input he)).imp And.left And.left
  stored := by
    obtain ⟨b, hb, hid, huser, hhr⟩ := h.stored
    have hkept : a ≠ .deleteBooking b.id := by
      rintro rfl
      have := hG.kept
      simp [Action.deletesBooking, hid] at this
    obtain ⟨b', hb', hid'⟩ := hstep.persists h.creating hkept hb
    obtain ⟨d, hd, hdid, huser', hhr', -⟩ := h.stored_step hstep hb' (hid'.trans hid)
    obtain rfl : b = d := Collection.eq_of_docId hb hd (hid.trans hdid.symm)
    exact ⟨b', hb', hid'.trans hid, huser'.trans huser, hhr'.trans hhr⟩
  -- the order grows by the party whose move is written, and is kept by every other step
  ordered := by
    obtain ⟨order, hnodup, hiff, hrun⟩ := h.ordered
    by_cases hmoving : ∃ r args, Moving b₀ s a r args
    · obtain ⟨r, args, hm⟩ := hmoving
      obtain ⟨hnew, hfirst⟩ := h.hasMovedTo_moving hstep hm
      refine ⟨order ++ [(r, args.startAt)], ?_, fun r' startAt => ?_, fun b' hb' hid => ?_⟩
      · rw [List.map_append, List.map_singleton, List.nodup_append]
        refine ⟨hnodup, List.nodup_singleton r, fun r₁ hr₁ r₂ hr₂ he => ?_⟩
        obtain ⟨⟨r', startAt⟩, hmem, rfl⟩ := List.mem_map.1 hr₁
        obtain rfl : r' = r := he.trans (List.mem_singleton.1 hr₂)
        exact hfirst startAt ((hiff _ _).1 hmem)
      · rw [List.mem_append, hiff, List.mem_singleton]
        constructor
        · rintro (hhas | he)
          · exact h.hasMovedTo_mono hG hstep hhas
          · obtain ⟨rfl, rfl⟩ := Prod.mk.inj he
            exact hnew
        · intro hhas
          refine (h.hasMovedTo_step hG hstep hhas).imp_right ?_
          rintro ⟨args', hm', rfl⟩
          obtain ⟨rfl, rfl⟩ := hm.unique hm'
          rfl
      · -- the move has found the start it had read, so it is the next one in the order
        obtain ⟨stored, c, hgoes⟩ := hm.goes
        obtain ⟨hstart, hcount⟩ := hm.fresh hG.fresh hgoes
        have hc : s'.world.bookings = c := (hm.exec hstep hgoes).1
        rw [hc] at hb'
        have hbid : stored.id = b₀.id := hgoes.id_eq.trans hm.booking
        have hb : b' = args.apply stored := by
          rcases (Collection.mem_update hgoes.written).1 hb' with ⟨-, hne⟩ | ⟨d, hd, hdid, rfl⟩
          · exact absurd (hid.trans hm.booking.symm) hne
          · rw [Collection.eq_of_docId hd hgoes.mem (hdid.trans hgoes.id_eq.symm)]
        rw [List.map_append, List.map_singleton, Machine.run_concat]
        refine ⟨stored.times, hrun stored hgoes.mem hbid, ?_⟩
        have hne : args.startAt ≠ stored.times.startAt := fun he => hm.changes (he.trans hstart)
        rw [reschedules_step hcount hne, hb]
        simp only [Booking.times, MoveArgs.apply, hstart]
    · refine ⟨order, hnodup, fun r startAt => ?_, fun b' hb' hid => ?_⟩
      · rw [hiff]
        refine ⟨h.hasMovedTo_mono hG hstep, fun hhas => ?_⟩
        refine (h.hasMovedTo_step hG hstep hhas).resolve_right ?_
        rintro ⟨args, hm, -⟩
        exact hmoving ⟨r, args, hm⟩
      · obtain ⟨b, hb, hbid, -, -, htimes⟩ := h.stored_step hstep hb' hid
        rw [htimes.resolve_right hmoving]
        exact hrun b hb hbid

end MovedInOrder

/-! ### Runs -/

/-- The party has answered a reschedule of the booking to a start with success. -/
def RescheduleSucceeded (bookingId : ObjectId) (as : List (Action R)) (s : Backend R) (r : R)
    (startAt : ℤ) : Prop :=
  ∃ actor input, .begin r (.reschedule actor bookingId input) ∈ as ∧ input.startAt = startAt ∧
    ∃ moved, s.procs r = .done (some (.ok moved))

/-- The requests that succeeded, one after another in some order, lead from one booking to
another. -/
def RescheduledSerially (b₀ : Booking) (as : List (Action R)) (s : Backend R) (b : Booking) :
    Prop :=
  ∃ order : List (R × ℤ), (order.map Prod.fst).Nodup ∧
    (∀ r startAt, (r, startAt) ∈ order ↔ RescheduleSucceeded b₀.id as s r startAt) ∧
    reschedules.run b₀.times (order.map Prod.snd) = some b.times

omit [DecidableEq R] in
/-- A request that is over has moved its booking exactly when it succeeded. -/
theorem hasMovedTo_iff_succeeded (hq : s.Quiescent) :
    HasMovedTo b₀ as s r startAt ↔ RescheduleSucceeded b₀.id as s r startAt := by
  have hrest := hq r
  refine exists_congr fun actor => exists_congr fun input => and_congr_right fun _ =>
    and_congr_right fun _ => ?_
  constructor
  · intro hhas
    cases hp : s.procs r with
    | done answer =>
      rw [hp] at hhas
      rcases answer with _ | _ | moved
      · exact hhas.elim
      · exact hhas.elim
      · exact ⟨moved, rfl⟩
    | idle =>
      rw [hp] at hhas
      exact hhas.elim
    | request | retryRead | retryFind | handler =>
      rw [hp] at hrest
      cases hrest
  · rintro ⟨moved, hp⟩
    rw [hp]
    trivial

/-- **Reschedules of one booking are serialisable** in every run, whatever else is interleaved,
whose moves of it are fresh and dispatched: its count stays within the limit, and when nothing is in
flight, the requests that succeeded have moved it one after another. -/
theorem reschedules_serializable {w : World} (hb₀ : b₀ ∈ w.bookings)
    (hcount : b₀.rescheduleCount ≤ BookingLimits.rescheduleMax)
    (hG : (backend R cal).Meets (MovesInOrder b₀.id) (Backend.init R w) as)
    (hrun : (backend R cal).run (Backend.init R w) as = some s) :
    ∃ b ∈ s.world.bookings, b.id = b₀.id ∧ b.rescheduleCount ≤ BookingLimits.rescheduleMax ∧
      (s.Quiescent → RescheduledSerially b₀ as s b) := by
  have hinv : MovedInOrder b₀ as s :=
    Machine.run_history (movedInOrder_init hb₀)
      (fun pre a t t' _ hI hG hs => hI.step hG (backend_step_cases hs)) hG hrun
  obtain ⟨b, hb, hid, -, -⟩ := hinv.stored
  obtain ⟨order, hnodup, hiff, hmoves⟩ := hinv.ordered
  have hwithin : b.times.rescheduleCount ≤ BookingLimits.rescheduleMax :=
    reschedules_count_le hcount (hmoves b hb hid)
  refine ⟨b, hb, hid, hwithin, fun hq => ⟨order, hnodup, fun r startAt => ?_, hmoves b hb hid⟩⟩
  rw [hiff, hasMovedTo_iff_succeeded hq]

end Invariant

/-! ### Reschedules on the Monday schedule -/

/-- Monday, 1970-01-12, nine o'clock. -/
def nextMondayNine : ℤ := addDays mondayNine 7

/-- The client of booking 1 asks to move it. -/
def moveByClient (startAt : ℤ) : Request := .reschedule ⟨2, .user⟩ 1 ⟨startAt, none⟩

/-- The consultant of booking 1 asks to move it. -/
def moveByConsultant (startAt : ℤ) : Request := .reschedule ⟨1, .hr⟩ 1 ⟨startAt, none⟩

theorem bookedAtNine_isSome : (bookedWorld.bookings.findById 1).isSome = true := by decide +kernel

/-- Booking 1, as it was made. -/
def bookedAtNine : Booking := (bookedWorld.bookings.findById 1).get bookedAtNine_isSome

/-- Both ask to move the booking; once the client has moved it to ten o'clock, the consultant reads
it and moves it to the next Monday, before the client's request is done. -/
def movedBesideMove : List (Action Bool) :=
  .begin true (moveByConsultant nextMondayNine) ::
    serve false (moveByClient (addMinutes mondayNine 60)) 2 6 ++
      List.replicate 4 (.exec true (answering 3 3)) ++
        List.replicate 3 (.exec false (answering 2 2)) ++
          List.replicate 5 (.exec true (answering 3 3))

theorem movedBesideMove_isSome : (bookedRun movedBesideMove).isSome = true := by decide +kernel

/-- The moves are in order. -/
theorem reschedules_serializable_beside :
    ∃ b ∈ ((bookedRun movedBesideMove).get movedBesideMove_isSome).world.bookings,
      b.id = bookedAtNine.id ∧ b.rescheduleCount ≤ BookingLimits.rescheduleMax ∧
      (((bookedRun movedBesideMove).get movedBesideMove_isSome).Quiescent →
        RescheduledSerially bookedAtNine movedBesideMove
          ((bookedRun movedBesideMove).get movedBesideMove_isSome) b) :=
  reschedules_serializable
    (Collection.findById_eq_some.1 (Option.some_get bookedAtNine_isSome).symm).1
    (by decide +kernel) (by decide +kernel) (Option.some_get movedBesideMove_isSome).symm

/-- The action belongs to reschedules of the booking, or time passes. -/
def Action.reschedules {R : Type} (bookingId : ObjectId) : Action R → Bool
  | begin _ (.reschedule _ id _) => id = bookingId
  | exec .. | advance _ => true
  | _ => false

/-- Both have moved the booking once. -/
def movedTwiceWorld : World := ((bookedRun movedBesideMove).get movedBesideMove_isSome).world

theorem movedTwice_isSome : (movedTwiceWorld.bookings.findById 1).isSome = true := by
  decide +kernel

/-- Booking 1 after two moves. -/
def movedTwice : Booking := (movedTwiceWorld.bookings.findById 1).get movedTwice_isSome

/-- Both ask to move it once more; the client reads and checks, the consultant moves it, and then
the client does. -/
def movedAtOnce : List (Action Bool) :=
  serve false (moveByClient mondayNine) 4 4 ++
    serve true (moveByConsultant (addMinutes mondayNine 60)) 5 9 ++
      List.replicate 5 (.exec false (answering 4 4))

theorem movedAtOnce_isSome :
    ((backend Bool utcCalendar).run (Backend.init Bool movedTwiceWorld) movedAtOnce).isSome =
      true := by
  decide +kernel

/-- **Reschedules of one booking are not serialisable.**  Both moves go through, and the booking has
been moved more often than the limit allows. -/
theorem not_reschedules_serializable :
    ¬ ∀ (R : Type) [DecidableEq R] (cal : TimezoneName → Calendar) (w : World) (b₀ : Booking)
      (as : List (Action R)) (s : Backend R), b₀ ∈ w.bookings →
      b₀.rescheduleCount ≤ BookingLimits.rescheduleMax → (∀ a ∈ as, a.reschedules b₀.id = true) →
      (backend R cal).run (Backend.init R w) as = some s →
      ∃ b ∈ s.world.bookings, b.id = b₀.id ∧ b.rescheduleCount ≤ BookingLimits.rescheduleMax ∧
        (s.Quiescent → RescheduledSerially b₀ as s b) := by
  intro h
  obtain ⟨b, hb, hid, hcount, -⟩ := h Bool utcCalendar movedTwiceWorld movedTwice movedAtOnce _
    (Collection.findById_eq_some.1 (Option.some_get movedTwice_isSome).symm).1
    (by decide +kernel) (by decide +kernel) (Option.some_get movedAtOnce_isSome).symm
  have hfour : ∀ b ∈ (((backend Bool utcCalendar).run (Backend.init Bool movedTwiceWorld)
      movedAtOnce).get movedAtOnce_isSome).world.bookings, b.id = movedTwice.id →
      b.rescheduleCount = 4 := by
    decide +kernel
  rw [hfour b hb hid] at hcount
  exact absurd hcount (by decide)

end HrBooking
