import HrBooking.Backend.Record

/-!
# Races for a consultant's time

Whether two active bookings of one consultant can overlap once no request is in flight.  Creation
inserts first and sweeps afterwards: of two bookings that clash, one is still going to find the
other and stand down, as long as the order of the identities agrees with the order of the inserts
and the query returns a booking with a smaller identity when there is one.  A move has no sweep.

* `Settled` : the invariant, every clash is going to be resolved by a party in flight.
* `InsertInOrder`, `SweepFindsSmaller`, `MoveIsClear` : what a step has to satisfy to keep it.
* `creations_disjoint` : creations whose steps satisfy the first two leave no clash.
* `requests_disjoint` : so do any requests whose steps satisfy all three.
* `not_creations_disjoint`, `not_requests_disjoint` : without the conditions both fail.
-/

namespace HrBooking

section Resolution

variable {R : Type}

/-- The booking is about to be withdrawn. -/
def WillWithdraw (s : Backend R) (b : Booking) : Prop :=
  ∃ r, s.procs r = .request (.withdraw b.id)

/-- The sweep of `b` is still to come, its query matches `b'`, and `b'` has the smaller identity. -/
def WillFind (s : Backend R) (b b' : Booking) : Prop :=
  ∃ r args, s.procs r = .request (.sweep b.id args) ∧
    b'.OverlapsWith (.hr args.hrUserId) args.startAt args.endAt ∧ b'.id.text < b.id.text

/-- The party that inserted `b` is going to remove it, on account of `b'` or at once. -/
def Resolves (s : Backend R) (b b' : Booking) : Prop := WillWithdraw s b ∨ WillFind s b b'

/-- **The invariant**: every clash is going to be resolved. -/
def Settled (hr : ObjectId) (s : Backend R) : Prop :=
  ∀ b ∈ s.world.bookings, ∀ b' ∈ s.world.bookings, b.id ≠ b'.id → Clash (.hr hr) b b' →
    Resolves s b b' ∨ Resolves s b' b

/-! ### The conditions on a step -/

/-- When a booking of the consultant is inserted, every active booking it overlaps has a smaller
identity, or has its own sweep still to come and will find the new one, or is being withdrawn. -/
def InsertInOrder (hr : ObjectId) (s : Backend R) (a : Action R) : Prop :=
  ∀ r o id args, a = .exec r o → s.procs r = .request (.insert id args) → args.hrUserId = hr →
    ∀ b ∈ s.world.bookings, b.OverlapsWith (.hr hr) args.startAt args.endAt →
      b.id.text < id.text ∨ Resolves s b (newBooking id args)

/-- When a sweep could match a booking with a smaller identity, the one it gets has one. -/
def SweepFindsSmaller (hr : ObjectId) (s : Backend R) (a : Action R) : Prop :=
  ∀ r o id args, a = .exec r o → s.procs r = .request (.sweep id args) → args.hrUserId = hr →
    (∃ b ∈ s.world.bookings, b.OverlapsWith (.hr hr) args.startAt args.endAt ∧ b.id ≠ id ∧
      b.id.text < id.text) →
    ∃ b, findOverlappingBooking s.world.bookings o.pick (.hr hr) args.startAt args.endAt
      (some id) = some b ∧ b.id.text < id.text

/-- When a booking of the consultant is moved, every other active booking its new interval
overlaps is being withdrawn, or one of the two has its sweep still to come and will stand down. -/
def MoveIsClear (hr : ObjectId) (s : Backend R) (a : Action R) : Prop :=
  ∀ r o actor args, a = .exec r o → s.procs r = .request (.move actor args) →
    ∀ moved ∈ s.world.bookings, moved.id = args.booking.id → moved.hrUserId = hr →
      ∀ b ∈ s.world.bookings, b.id ≠ moved.id →
        b.OverlapsWith (.hr hr) args.startAt args.endAt →
        Resolves s (args.apply moved) b ∨ Resolves s b (args.apply moved)

end Resolution

/-! ### Steps -/

section Steps

variable {R : Type} [DecidableEq R] {cal : TimezoneName → Calendar} {hr : ObjectId}
  {s s' : Backend R} {r : R} {o : Oracle} {w : World} {p : Proc} {b b' : Booking}

/-- The party is about to sweep or to withdraw. -/
def Proc.isPending : Proc → Bool
  | request (.sweep ..) | request (.withdraw ..) => true
  | _ => false

/-- A party that is not pending resolves nothing, so it may go on. -/
theorem Resolves.put (h : Resolves s b b') (hr : (s.procs r).isPending = false) :
    Resolves (s.put r w p) b b' := by
  -- a party that is pending is another one, and is left alone
  have hother : ∀ {r' q}, s.procs r' = q → q.isPending = true → (s.put r w p).procs r' = q := by
    rintro r' q rfl hq
    have hne : r' ≠ r := by
      rintro rfl
      rw [hr] at hq
      cases hq
    exact Backend.procs_put_of_ne hne
  rcases h with ⟨r', hr'⟩ | ⟨r', args, hr', h⟩
  · exact .inl ⟨r', hother hr' rfl⟩
  · exact .inr ⟨r', args, hother hr' rfl, h⟩

omit [DecidableEq R] in
/-- Clashes only disappear: the invariant is kept when active bookings are not changed and what
resolved a clash still does. -/
theorem Settled.of_subset (h : Settled hr s)
    (hsub : ∀ b ∈ s'.world.bookings, b.isActive → b ∈ s.world.bookings)
    (hres : ∀ b ∈ s'.world.bookings, ∀ b' ∈ s'.world.bookings, b.id ≠ b'.id → Clash (.hr hr) b b' →
      Resolves s b b' → Resolves s' b b') : Settled hr s' := by
  intro b hb b' hb' hne hclash
  rcases h b (hsub b hb hclash.2.1) b' (hsub b' hb' hclash.2.2.2.1) hne hclash with hr | hr
  · exact .inl (hres b hb b' hb' hne hclash hr)
  · exact .inr (hres b' hb' b hb hne.symm hclash.symm hr)

omit [DecidableEq R] in
theorem Settled.of_changed {n : Booking} (h : Settled hr s)
    (hsub : ∀ b ∈ s'.world.bookings, b = n ∨ (b ∈ s.world.bookings ∧ b.id ≠ n.id))
    (hold : ∀ b b', Resolves s b b' → Resolves s' b b')
    (hnew : ∀ b ∈ s.world.bookings, b.id ≠ n.id → Clash (.hr hr) n b →
      Resolves s' n b ∨ Resolves s' b n) : Settled hr s' := by
  intro b hb b' hb' hne hclash
  rcases hsub b hb with rfl | ⟨hb, hbn⟩ <;> rcases hsub b' hb' with rfl | ⟨hb', hbn'⟩
  · exact absurd rfl hne
  · exact hnew b' hb' hbn' hclash
  · exact (hnew b hb hbn hclash.symm).symm
  · exact (h b hb b' hb' hne hclash).imp (hold _ _) (hold _ _)

omit [DecidableEq R] in
/-- The sweep writes nothing; it goes on to withdraw, or what it found has no smaller identity. -/
theorem sweep_cases {id : ObjectId} {args : InsertBookingArgs} {out : RequestOutcome}
    (h : (RequestStage.sweep id args).exec cal o s.world = some (w, out)) :
    w = s.world ∧ (out = .next (.withdraw id) ∨
      out = .next (.queueCreate (newBooking id args)) ∧
        ∀ c, findOverlappingBooking s.world.bookings o.pick (.hr args.hrUserId) args.startAt
          args.endAt (some id) = some c → ¬ c.id.text < id.text) := by
  simp only [RequestStage.exec] at h
  split at h
  · rename_i conflict hfound
    split_ifs at h with hdown
    · cases h
      exact ⟨rfl, .inl rfl⟩
    · cases h
      refine ⟨rfl, .inr ⟨rfl, fun c hc => ?_⟩⟩
      cases hfound.symm.trans hc
      exact hdown
  · rename_i hnone
    cases h
    exact ⟨rfl, .inr ⟨rfl, fun c hc => by cases hnone.symm.trans hc⟩⟩

theorem Settled.sweep {id : ObjectId} {args : InsertBookingArgs} {out : RequestOutcome}
    (h : Settled hr s) (hp : s.procs r = .request (.sweep id args))
    (hexec : (RequestStage.sweep id args).exec cal o s.world = some (w, out))
    (hsmaller : SweepFindsSmaller hr s (.exec r o)) : Settled hr (s.put r w out.toProc) := by
  obtain ⟨rfl, hout⟩ := sweep_cases hexec
  refine h.of_subset (fun b hb _ => hb) fun b hb b' hb' hne hclash hres => ?_
  -- whatever another party was going to do, it still is
  have hother : ∀ {r' q}, r' ≠ r → s.procs r' = q →
      (s.put r s.world out.toProc).procs r' = q := by
    rintro r' q hr' rfl
    exact Backend.procs_put_of_ne hr'
  rcases hres with ⟨r', hr'⟩ | ⟨r', args', hr', hmatch, hlt⟩
  · refine .inl ⟨r', hother ?_ hr'⟩
    rintro rfl
    rw [hp] at hr'
    cases hr'
  · by_cases hrr : r' = r
    · subst hrr
      rw [hp] at hr'
      obtain ⟨rfl, rfl⟩ : id = b.id ∧ args = args' := by simpa using hr'
      rcases hout with rfl | ⟨-, hnone⟩
      · -- the party stands down: its next command withdraws the booking
        exact .inl ⟨r', Backend.procs_put_self⟩
      · -- the query had a smaller identity to return and returned none
        have hhr : args.hrUserId = hr := hmatch.1.symm.trans hclash.2.2.1
        obtain ⟨c, hc, hclt⟩ := hsmaller r' o _ args rfl hp hhr
          ⟨b', hb', hhr ▸ hmatch, hne.symm, hlt⟩
        rw [← hhr] at hc
        exact absurd hclt (hnone c hc)
    · exact .inr ⟨r', args', hother hrr hr', hmatch, hlt⟩

theorem Settled.withdraw {id : ObjectId} {out : RequestOutcome} (h : Settled hr s)
    (hp : s.procs r = .request (.withdraw id))
    (hexec : (RequestStage.withdraw id).exec cal o s.world = some (w, out)) :
    Settled hr (s.put r w out.toProc) := by
  cases hexec
  refine h.of_subset (fun b hb _ => (Collection.mem_delete.1 hb).1) fun b hb b' hb' _ _ hres => ?_
  have hid : b.id ≠ id := (Collection.mem_delete_decide.1 hb).2
  have hother : ∀ {r' q}, r' ≠ r → s.procs r' = q → ∀ w p, (s.put r w p).procs r' = q := by
    rintro r' q hr' rfl w p
    exact Backend.procs_put_of_ne hr'
  rcases hres with ⟨r', hr'⟩ | ⟨r', args, hr', hmatch⟩
  · refine .inl ⟨r', hother ?_ hr' _ _⟩
    rintro rfl
    rw [hp] at hr'
    obtain rfl : id = b.id := by simpa using hr'
    exact hid rfl
  · refine .inr ⟨r', args, hother ?_ hr' _ _, hmatch⟩
    rintro rfl
    rw [hp] at hr'
    cases hr'

theorem Settled.insert {id : ObjectId} {args : InsertBookingArgs} {c : Collection Booking}
    (h : Settled hr s) (hp : s.procs r = .request (.insert id args))
    (hins : s.world.bookings.insert (newBooking id args) = some c)
    (horder : InsertInOrder hr s (.exec r o)) :
    Settled hr (s.put r { s.world with bookings := c } (.request (.sweep id args))) := by
  have hq : (s.procs r).isPending = false := by rw [hp]; rfl
  refine h.of_changed (n := newBooking id args) (fun b hb => ?_) (fun _ _ hres => hres.put hq)
    fun b hb hne hclash => ?_
  · rcases (Collection.mem_insert hins).1 hb with hb | rfl
    · exact .inr ⟨hb, ((Collection.insert_eq_some.1 hins).1 b hb).1⟩
    · exact .inl rfl
  · -- the new booking's own sweep is still to come, and finds what has a smaller identity
    obtain ⟨hhr, -, hover⟩ := hclash
    rcases horder r o id args rfl hp hhr b hb hover with hlt | hres
    · refine .inl (.inr ⟨r, args, Backend.procs_put_self, ?_, hlt⟩)
      rw [show args.hrUserId = hr from hhr]
      exact hover
    · exact .inr (hres.put hq)

theorem Settled.move {actor : Actor} {args : MoveArgs} {stored : Booking} {c : Collection Booking}
    (h : Settled hr s) (hp : s.procs r = .request (.move actor args))
    (hmem : stored ∈ s.world.bookings) (hid : stored.id = args.booking.id)
    (hupd : s.world.bookings.update args.booking.id args.apply = some c)
    (hclear : MoveIsClear hr s (.exec r o)) :
    Settled hr (s.put r { s.world with bookings := c } p) := by
  have hq : (s.procs r).isPending = false := by rw [hp]; rfl
  refine h.of_changed (n := args.apply stored) (fun b hb => ?_) (fun _ _ hres => hres.put hq)
    fun b hb hne hclash => ?_
  · rcases (Collection.mem_update hupd).1 hb with ⟨hb, hne⟩ | ⟨d, hd, hdid, rfl⟩
    · exact .inr ⟨hb, fun he => hne (he.trans hid)⟩
    · obtain rfl : d = stored := Collection.eq_of_docId hd hmem (hdid.trans hid.symm)
      exact .inl rfl
  · exact (hclear r o actor args rfl hp stored hmem hid hclash.1 b hb hne hclash.2.2).imp
      (·.put hq) (·.put hq)

theorem Settled.request {stage : RequestStage} {out : RequestOutcome} (h : Settled hr s)
    (hp : s.procs r = .request stage) (hsaves : (s.procs r).SavesActive)
    (hexec : stage.exec cal o s.world = some (w, out))
    (horder : InsertInOrder hr s (.exec r o)) (hsmaller : SweepFindsSmaller hr s (.exec r o))
    (hclear : MoveIsClear hr s (.exec r o)) : Settled hr (s.put r w out.toProc) := by
  have hsame : (s.procs r).isPending = false → w.bookings = s.world.bookings →
      Settled hr (s.put r w out.toProc) := fun hq hw =>
    h.of_subset (fun b hb _ => hw ▸ hb) fun _ _ _ _ _ _ hres => hres.put hq
  by_cases hq : (s.procs r).isPending = false
  · cases RequestStage.effect_of_exec hexec with
    | quiet _ hquiet => exact hsame hq hquiet.bookings
    | construct => exact hsame hq rfl
    | write hw =>
      cases hw with
      | insert id args hins =>
        simp only [RequestStage.exec, hins] at hexec
        cases hexec
        exact h.insert hp hins horder
      | withdraw => rw [hp] at hq; cases hq
      | move actor args stored hmem hid _ hupd => exact h.move hp hmem hid hupd hclear
      | save actor loaded now role reason hupd =>
        -- a booking saved as cancelled clashes with nothing
        rw [hp] at hsaves
        refine h.of_subset (fun b hb ha => ?_) fun _ _ _ _ _ _ hres => hres.put hq
        rcases (Collection.mem_update hupd).1 hb with ⟨hb, -⟩ | ⟨d, -, -, rfl⟩
        · exact hb
        · exact absurd ha (not_isActive_saveCancelled hsaves)
  · -- the two stages that resolve clashes
    rw [hp] at hq
    cases stage with
    | sweep => exact h.sweep hp hexec hsmaller
    | withdraw => exact h.withdraw hp hexec
    | _ => exact absurd rfl hq

/-- The three conditions on a step. -/
def StepsClear (hr : ObjectId) (s : Backend R) (a : Action R) : Prop :=
  InsertInOrder hr s a ∧ SweepFindsSmaller hr s a ∧ MoveIsClear hr s a

/-- **Every action whose step meets the conditions keeps the invariant.** -/
theorem settled_step {a : Action R} (h : Settled hr s) (hsaves : ∀ r, (s.procs r).SavesActive)
    (hclear : StepsClear hr s a) (hstep : BackendStep cal s a s') : Settled hr s' := by
  cases hstep with
  | launch hidle hstart =>
    have hbookings : ∀ {w r p}, Starts s.world a r p w → w.bookings = s.world.bookings := by
      intro w r p hs
      cases hs <;> rfl
    refine h.of_subset (fun b hb _ => hbookings hstart ▸ hb) fun _ _ _ _ _ _ hres => ?_
    exact hres.put (by rw [hidle]; rfl)
  | @exec r o w p hproc =>
    have hsaves := hsaves r
    generalize hp : s.procs r = q at hproc
    have hsame : q.isPending = false → w.bookings = s.world.bookings →
        Settled hr (s.put r w p) := fun hq hw =>
      h.of_subset (fun b hb _ => hw ▸ hb) fun _ _ _ _ _ _ hres => hres.put (hp ▸ hq)
    cases hproc with
    | request hexec => exact h.request hp hsaves hexec hclear.1 hclear.2.1 hclear.2.2
    | @handler w₁ stage out origin hexec =>
      refine hsame rfl ?_
      rw [(origin.resume_sameStore w₁ out).bookings]
      exact (HandlerStage.frame_of_exec hexec).bookings
    | retryRefused | retryFound | retryAllowed | retryNotNeeded => exact hsame rfl rfl
  | surroundings hsur =>
    refine h.of_subset (fun b hb ha => ?_) fun _ _ _ _ _ _ hres => hres
    cases hsur with
    | advance | setProfiles | setAvailability | deleteMeeting => exact hb
    | complete id =>
      rcases mem_completeBooking hb with hb | ⟨d, -, -, rfl⟩
      · exact hb
      · exact absurd ha d.complete_not_isActive
    | deleteBooking id => exact (Collection.mem_delete.1 hb).1

/-! ### Runs -/

omit [DecidableEq R] in
theorem settled_init {w : World} (h : DisjointFor (.hr hr) w.bookings) :
    Settled hr (Backend.init R w) :=
  fun b hb b' hb' hne hclash => absurd hclash (h b hb b' hb' hne)

omit [DecidableEq R] in
theorem Settled.disjoint (h : Settled hr s) (hq : s.Quiescent) :
    DisjointFor (.hr hr) s.world.bookings := by
  have hnone : ∀ b b', ¬ Resolves s b b' := by
    rintro b b' (⟨r, hr⟩ | ⟨r, args, hr, -⟩) <;>
    · have := hq r
      rw [hr] at this
      cases this
  intro b hb b' hb' hne hclash
  exact (h b hb b' hb' hne hclash).elim (hnone b b') (hnone b' b)

/-- **Requests of every kind.**  From a store without clashes, every run whose steps meet the
three conditions leaves no clash when nothing is in flight. -/
theorem requests_disjoint {w : World} {as : List (Action R)} (h : DisjointFor (.hr hr) w.bookings)
    (hclear : (backend R cal).Meets (StepsClear hr) (Backend.init R w) as)
    (hrun : (backend R cal).run (Backend.init R w) as = some s) (hq : s.Quiescent) :
    DisjointFor (.hr hr) s.world.bookings := by
  have hinv : Settled hr s ∧ ∀ r, (s.procs r).SavesActive := by
    refine Machine.run_invariant (I := fun s => Settled hr s ∧ ∀ r, (s.procs r).SavesActive)
      (fun s a s' hI hG hstep => ?_) ⟨settled_init h, fun _ => trivial⟩ hclear hrun
    have hcases := backend_step_cases hstep
    exact ⟨settled_step hI.1 hI.2 hG hcases, forall_procs_step
      (fun _ _ _ _ _ hexec _ => savesActive_exec hexec) (fun _ _ _ _ => savesActive_start)
      hI.2 hcases⟩
  exact hinv.1.disjoint hq

/-- The party is rescheduling. -/
def Proc.isMoving : Proc → Bool
  | request stage => stage.kind = .rescheduling
  | _ => false

/-- The action starts a reschedule. -/
def Action.isReschedule : Action R → Bool
  | begin _ (.reschedule ..) => true
  | _ => false

theorem isMoving_eq (p : Proc) : p.isMoving = p.isServing .rescheduling := by
  cases p <;> rfl

theorem isMoving_exec {p' : Proc} {w w' : World} (h : ProcStep cal o w p w' p')
    (hp : p.isMoving = false) : p'.isMoving = false := by
  rw [isMoving_eq] at hp ⊢
  exact isServing_exec (by decide) h hp

omit [DecidableEq R] in
theorem isMoving_start {w w' : World} {a : Action R} (ha : a.isReschedule = false)
    (h : Starts w a r p w') : p.isMoving = false := by
  cases h with
  | request r request =>
    cases request with
    | reschedule => cases ha
    | _ => rfl
  | retry | job => rfl

/-- **Creations.**  From a store without clashes, every run without reschedules in which bookings
are inserted in the order of their identities and sweeps find the smaller ones leaves no clash
when nothing is in flight. -/
theorem creations_disjoint {w : World} {as : List (Action R)} (h : DisjointFor (.hr hr) w.bookings)
    (hclear : (backend R cal).Meets (fun s a => a.isReschedule = false ∧ InsertInOrder hr s a ∧
      SweepFindsSmaller hr s a) (Backend.init R w) as)
    (hrun : (backend R cal).run (Backend.init R w) as = some s) (hq : s.Quiescent) :
    DisjointFor (.hr hr) s.world.bookings := by
  have hinv : Settled hr s ∧ (∀ r, (s.procs r).SavesActive) ∧
      ∀ r, (s.procs r).isMoving = false := by
    refine Machine.run_invariant (I := fun s => Settled hr s ∧ (∀ r, (s.procs r).SavesActive) ∧
      ∀ r, (s.procs r).isMoving = false) (fun s a s' hI hG hstep => ?_)
      ⟨settled_init h, fun _ => trivial, fun _ => rfl⟩ hclear hrun
    have hcases := backend_step_cases hstep
    -- no party is at a move, so the third condition has nothing to say
    have hmove : MoveIsClear hr s a := by
      intro r o actor args _ hp
      have := hI.2.2 r
      rw [hp] at this
      cases this
    exact ⟨settled_step hI.1 hI.2.1 ⟨hG.2.1, hG.2.2, hmove⟩ hcases, forall_procs_step
      (fun _ _ _ _ _ hexec _ => savesActive_exec hexec) (fun _ _ _ _ => savesActive_start)
      hI.2.1 hcases, forall_procs_step (fun _ _ _ _ _ => isMoving_exec)
      (fun _ _ _ _ => isMoving_start hG.1) hI.2.2 hcases⟩
  exact hinv.1.disjoint hq

/-- A sufficient condition that can be evaluated: an insert meets only smaller identities, a sweep
only larger ones, and a move meets no other booking. -/
def Proc.IsAlone (w : World) : Proc → Prop
  | .request (.insert id args) =>
    ∀ b ∈ w.bookings, b.OverlapsWith (.hr args.hrUserId) args.startAt args.endAt →
      b.id.text < id.text
  | .request (.sweep id args) =>
    ∀ b ∈ w.bookings, b.OverlapsWith (.hr args.hrUserId) args.startAt args.endAt →
      b.id ≠ id → ¬ b.id.text < id.text
  | .request (.move _ args) =>
    ∀ b ∈ w.bookings, b.id ≠ args.booking.id →
      ¬ (b.startAt < args.endAt ∧ b.endAt > args.startAt)
  | _ => True

instance (w : World) (p : Proc) : Decidable (p.IsAlone w) := by
  unfold Proc.IsAlone
  split <;> infer_instance

/-- The steps whose command meets the condition. -/
def IsAlone (s : Backend R) (a : Action R) : Prop :=
  a.OnExec fun r _ => (s.procs r).IsAlone s.world

instance (s : Backend R) (a : Action R) : Decidable (IsAlone s a) :=
  inferInstanceAs (Decidable (a.OnExec _))

omit [DecidableEq R] in
theorem IsAlone.stepsClear {a : Action R} (h : IsAlone s a) : StepsClear hr s a := by
  refine ⟨?_, ?_, ?_⟩
  · rintro r o id args rfl hp rfl b hb hover
    simp only [IsAlone, Action.OnExec, hp, Proc.IsAlone] at h
    exact .inl (h b hb hover)
  · rintro r o id args rfl hp rfl ⟨b, hb, hover, hne, hlt⟩
    simp only [IsAlone, Action.OnExec, hp, Proc.IsAlone] at h
    exact absurd hlt (h b hb hover hne)
  · rintro r o actor args rfl hp moved - hid - b hb hne hover
    simp only [IsAlone, Action.OnExec, hp, Proc.IsAlone] at h
    exact absurd hover.2.2 (h b hb (hid ▸ hne))

end Steps

/-! ### Runs on the Monday schedule -/

/-- Client 3 asks for the consultant's slot at an instant. -/
def bookAtByOther (startAt : ℤ) : Request := .create ⟨3, .user⟩ (slotAt startAt)

/-- The consultant changes the length of the slots. -/
def resize (slotDurationMinutes : SlotDuration) : Action (Fin 3) :=
  .setAvailability 1 (mondayConfig slotDurationMinutes)

/-- Client 2 asks for nine o'clock; before the insert, client 3 books ten o'clock. -/
def bookedBeside : List (Action (Fin 3)) :=
  serve 0 (bookAt mondayNine) 1 5 ++ serve 1 (bookAtByOther (addMinutes mondayNine 60)) 2 9 ++
    List.replicate 4 (.exec 0 (answering 1 1))

theorem bookedBeside_isSome : (mondayRun bookedBeside).isSome = true := by decide +kernel

theorem bookedBeside_quiescent : ((mondayRun bookedBeside).get bookedBeside_isSome).Quiescent := by
  show ∀ r : Fin 3, _
  decide +kernel

theorem bookedBeside_alone :
    (backend (Fin 3) utcCalendar).Meets (fun s a => a.isReschedule = false ∧ IsAlone s a)
      (Backend.init (Fin 3) mondayWorld) bookedBeside := by
  decide +kernel

/-- Two bookings made at the same time do not overlap. -/
theorem creations_disjoint_beside :
    DisjointFor (.hr 1) ((mondayRun bookedBeside).get bookedBeside_isSome).world.bookings :=
  creations_disjoint (by decide : DisjointFor (.hr 1) mondayWorld.bookings)
    (bookedBeside_alone.mono fun _ _ h => ⟨h.1, h.2.stepsClear.1, h.2.stepsClear.2.1⟩)
    (Option.some_get _).symm bookedBeside_quiescent

/-- The action belongs to creations: a creation arrives or goes on, time passes, profiles and
schedules change. -/
def Action.isCreation {R : Type} : Action R → Bool
  | begin _ (.create ..) | exec .. | advance _ | setProfiles _ | setAvailability .. => true
  | _ => false

/-- Client 2 asks for nine o'clock in slots of an hour and gets an identity; the slots become half
hours, client 3 books half past nine; then the first booking is inserted. -/
def bookedOutOfOrder : List (Action (Fin 3)) :=
  serve 0 (bookAt mondayNine) 1 5 ++ resize AvailabilityDefaults.slotDurationMinutes ::
    serve 1 (bookAtByOther (addMinutes mondayNine 30)) 2 9 ++
      List.replicate 4 (.exec 0 (answering 1 1))

theorem bookedOutOfOrder_isSome : (mondayRun bookedOutOfOrder).isSome = true := by decide +kernel

theorem bookedOutOfOrder_quiescent :
    ((mondayRun bookedOutOfOrder).get bookedOutOfOrder_isSome).Quiescent := by
  show ∀ r : Fin 3, _
  decide +kernel

/-- **Creations can double book.**  The sweep of the later insert finds the booking with the larger
identity, whose own sweep is over, and both stay. -/
theorem not_creations_disjoint :
    ¬ ∀ (R : Type) [DecidableEq R] (cal : TimezoneName → Calendar) (hr : ObjectId) (w : World)
      (as : List (Action R)) (s : Backend R), DisjointFor (.hr hr) w.bookings →
      (∀ a ∈ as, a.isCreation = true) →
      (backend R cal).run (Backend.init R w) as = some s → s.Quiescent →
      DisjointFor (.hr hr) s.world.bookings := by
  intro h
  have hdisjoint := h (Fin 3) utcCalendar 1 mondayWorld bookedOutOfOrder _ (by decide)
    (by decide) (Option.some_get bookedOutOfOrder_isSome).symm bookedOutOfOrder_quiescent
  exact absurd hdisjoint (by decide +kernel)

/-- Client 2 books nine o'clock and asks to move it to ten o'clock; client 3 books a week later, and
then the first booking is moved. -/
def movedBeside : List (Action (Fin 3)) :=
  serve 0 (bookAt mondayNine) 1 9 ++
    serve 1 (.reschedule ⟨2, .user⟩ 1 ⟨addMinutes mondayNine 60, none⟩) 1 4 ++
      serve 2 (bookAtByOther (addDays mondayNine 7)) 2 9 ++
        List.replicate 5 (.exec 1 (answering 1 1))

theorem movedBeside_isSome : (mondayRun movedBeside).isSome = true := by decide +kernel

theorem movedBeside_quiescent :
    ((mondayRun movedBeside).get movedBeside_isSome).Quiescent := by
  show ∀ r : Fin 3, _
  decide +kernel

theorem movedBeside_alone :
    (backend (Fin 3) utcCalendar).Meets IsAlone (Backend.init (Fin 3) mondayWorld)
      movedBeside := by
  decide +kernel

/-- A booking that is moved while another one is made leaves no clash. -/
theorem requests_disjoint_movedBeside :
    DisjointFor (.hr 1) ((mondayRun movedBeside).get movedBeside_isSome).world.bookings :=
  requests_disjoint (by decide : DisjointFor (.hr 1) mondayWorld.bookings)
    (movedBeside_alone.mono fun _ _ h => h.stepsClear) (Option.some_get _).symm
    movedBeside_quiescent

/-- Client 2 has booked ten o'clock in slots of an hour and asks to move it to nine; the slots
become half hours, client 3 books half past nine; then the first booking is moved. -/
def movedOverInsert : List (Action (Fin 3)) :=
  serve 0 (bookAt (addMinutes mondayNine 60)) 1 9 ++
    serve 1 (.reschedule ⟨2, .user⟩ 1 ⟨mondayNine, none⟩) 1 4 ++
      resize AvailabilityDefaults.slotDurationMinutes ::
        serve 2 (bookAtByOther (addMinutes mondayNine 30)) 2 9 ++
          List.replicate 5 (.exec 1 (answering 1 1))

theorem movedOverInsert_isSome : (mondayRun movedOverInsert).isSome = true := by decide +kernel

theorem movedOverInsert_quiescent :
    ((mondayRun movedOverInsert).get movedOverInsert_isSome).Quiescent := by
  show ∀ r : Fin 3, _
  decide +kernel

/-- **A move can double book.**  Its checks are made before the write and nothing is checked after
it. -/
theorem not_requests_disjoint :
    ¬ ∀ (R : Type) [DecidableEq R] (cal : TimezoneName → Calendar) (hr : ObjectId) (w : World)
      (as : List (Action R)) (s : Backend R), DisjointFor (.hr hr) w.bookings →
      (∀ a ∈ as, a.isCreation = true ∨ a.isReschedule = true) →
      (backend R cal).run (Backend.init R w) as = some s → s.Quiescent →
      DisjointFor (.hr hr) s.world.bookings := by
  intro h
  have hdisjoint := h (Fin 3) utcCalendar 1 mondayWorld movedOverInsert _ (by decide)
    (by decide) (Option.some_get movedOverInsert_isSome).symm movedOverInsert_quiescent
  exact absurd hdisjoint (by decide +kernel)

end HrBooking
