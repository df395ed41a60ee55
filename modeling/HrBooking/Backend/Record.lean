import HrBooking.Backend.Effect
import HrBooking.Slot.Listing

/-!
# The booking record under concurrency

The invariant of the booking collection over every interleaving of requests, meeting handlers,
sweeps and deletions.  A request acts on copies it read some time ago; what makes its writes safe
are facts about the copies themselves (`RequestStage.Sound`) and the consultant of a booking, which
never changes and is fixed by the identity (`Owned`).

* `Recorded` : the invariant.
* `recorded_step` : every action preserves it.
* `stored_wellFormed` : every booking of every reachable state is well formed, and active bookings
  of one consultant start at different times.
-/

namespace HrBooking

/-- The booking's identity has been given out, for a booking of its consultant. -/
structure Owned (own : ObjectId → ObjectId) (issued : List ObjectId) (b : Booking) : Prop where
  own_eq : own b.id = b.hrUserId
  issued : b.id ∈ issued

/-- What holds of the copies a request has in memory. -/
def RequestStage.Sound (own : ObjectId → ObjectId) (issued : List ObjectId) : RequestStage → Prop
  | checkClient args | checkConsultant args | construct args => args.Sound
  | insert id args => args.Sound ∧ Owned own issued (newBooking id args)
  | saveCancel _ loaded _ _ _ => loaded.WellFormed ∧ loaded.isActive
  | readMoveOffer _ booking input =>
    Owned own issued booking ∧ input.startAt ≠ booking.startAt
  | checkMoveClient _ args | checkMoveConsultant _ args | move _ args =>
    args.Sound ∧ Owned own issued args.booking
  | _ => True

/-- What holds of the copies a party has in memory. -/
def Proc.Sound (own : ObjectId → ObjectId) (issued : List ObjectId) : Proc → Prop
  | request stage => stage.Sound own issued
  | _ => True

/-- The invariant of the stored bookings and of the copies in memory. -/
structure Recorded {R : Type} (s : Backend R) (own : ObjectId → ObjectId) : Prop where
  stored : ∀ b ∈ s.world.bookings, b.WellFormed ∧ Owned own s.world.issuedIds b
  held : ∀ r, (s.procs r).Sound own s.world.issuedIds

theorem Owned.mono {own own' : ObjectId → ObjectId} {issued issued' : List ObjectId} {b : Booking}
    (h : Owned own issued b) (hown : ∀ i ∈ issued, own' i = own i) (hissued : issued ⊆ issued') :
    Owned own' issued' b :=
  ⟨(hown _ h.issued).trans h.own_eq, hissued h.issued⟩

theorem Proc.Sound.mono {own own' : ObjectId → ObjectId} {issued issued' : List ObjectId}
    {p : Proc} (h : p.Sound own issued) (hown : ∀ i ∈ issued, own' i = own i)
    (hissued : issued ⊆ issued') : p.Sound own' issued' := by
  cases p with
  | request stage =>
    cases stage with
    | insert | checkMoveClient | checkMoveConsultant | move =>
      exact ⟨h.1, h.2.mono hown hissued⟩
    | readMoveOffer => exact ⟨h.1.mono hown hissued, h.2⟩
    | _ => exact h
  | _ => trivial

/-! ### Soundness of the next stage -/

section Outcome

variable {own : ObjectId → ObjectId} {issued : List ObjectId}

theorem andThen_sound {α : Type} {x : Except AppError α} {next : α → RequestOutcome}
    (h : ∀ a, x = .ok a → (next a).toProc.Sound own issued) :
    (RequestOutcome.andThen x next).toProc.Sound own issued := by
  cases x with
  | error e => trivial
  | ok a => exact h a rfl

end Outcome

section Exec

variable {cal : TimezoneName → Calendar} {o : Oracle} {w w' : World} {stage : RequestStage}
  {out : RequestOutcome} {own : ObjectId → ObjectId} {issued : List ObjectId}

/-- Every stage but the construction of a document leads to a sound one, when the stored bookings
are sound. -/
theorem RequestStage.sound_of_exec (hne : ∀ args, stage ≠ .construct args)
    (hstored : ∀ b ∈ w.bookings, b.WellFormed ∧ Owned own issued b)
    (hs : stage.Sound own issued) (h : stage.exec cal o w = some (w', out)) :
    out.toProc.Sound own issued := by
  cases stage with
  | construct args => exact absurd rfl (hne args)
  | reread | withdraw =>
    cases h
    trivial
  | readOffer actor input profile =>
    cases h
    exact andThen_sound fun args hargs => offeredArgs_sound hargs
  | checkClient args | checkConsultant args =>
    cases h
    exact andThen_sound fun _ _ => hs
  -- what follows the insert holds no copy the invariant speaks of
  | insert id args =>
    simp only [exec] at h
    split at h <;> cases h <;> trivial
  | sweep id args =>
    simp only [exec] at h
    split at h
    · split_ifs at h <;> cases h <;> trivial
    · cases h
      trivial
  | readProfile | remindCreated | queueCreate | queueCancel | queueSync | forgetCancelled
  | forgetMoved | remindMoved | audit | saveCancel | move =>
    cases h
    exact andThen_sound fun _ _ => trivial
  | readCancel actor bookingId reason =>
    cases h
    refine andThen_sound fun args hargs => ?_
    obtain ⟨b, hfind, hargs⟩ := bind_eq_ok.1 hargs
    obtain ⟨_, hrole, hargs⟩ := bind_eq_ok.1 hargs
    cases hargs
    exact ⟨(hstored _ (findBooking_eq_ok.1 hfind).1).1, (assertCancellable_eq_ok.1 hrole).2.1⟩
  | readMove actor bookingId input =>
    cases h
    refine andThen_sound fun booking hfind => andThen_sound fun role hrole => ?_
    exact ⟨(hstored _ (findBooking_eq_ok.1 hfind).1).2,
      (assertReschedulable_eq_ok.1 hrole).2.2.2.2⟩
  | readMoveOffer actor booking input =>
    cases h
    refine andThen_sound fun args hargs => ?_
    obtain ⟨hsound, rfl⟩ := moveArgs_sound hargs hs.2
    exact ⟨hsound, hs.1⟩
  | checkMoveClient actor args | checkMoveConsultant actor args =>
    cases h
    exact andThen_sound fun _ _ => hs

end Exec

/-! ### Soundness of the stored bookings -/

section Stored

variable {own : ObjectId → ObjectId} {issued : List ObjectId} {c c' : Collection Booking}
  {stage : RequestStage}

theorem BookingWrite.stored_sound (hc : ∀ b ∈ c, b.WellFormed ∧ Owned own issued b)
    (hs : stage.Sound own issued) (h : BookingWrite c stage c') :
    ∀ b ∈ c', b.WellFormed ∧ Owned own issued b := by
  intro b hb
  cases h with
  | insert id args hins =>
    rcases (Collection.mem_insert hins).1 hb with hb | rfl
    · exact hc b hb
    · exact ⟨newBooking_wellFormed id hs.1, hs.2⟩
  | withdraw id => exact hc b (Collection.mem_delete.1 hb).1
  | save actor loaded now role reason hupd =>
    rcases (Collection.mem_update hupd).1 hb with ⟨hb, -⟩ | ⟨d, hd, -, rfl⟩
    · exact hc b hb
    · exact ⟨saveCancelled_wellFormed hs.1 hs.2 (hc d hd).1, (hc d hd).2.own_eq,
        (hc d hd).2.issued⟩
  | move actor args stored hmem hid hactive hupd =>
    rcases (Collection.mem_update hupd).1 hb with ⟨hb, -⟩ | ⟨d, hd, hdid, rfl⟩
    · exact hc b hb
    · -- the stored booking belongs to the consultant of the copy: its identity says so
      obtain rfl : d = stored := Collection.eq_of_docId hd hmem (hdid.trans hid.symm)
      obtain ⟨hwf, hown⟩ := hc d hd
      have hhr : args.booking.hrUserId = d.hrUserId := by
        rw [← hs.2.own_eq, ← hown.own_eq, hid]
      exact ⟨args.apply_wellFormed hs.1 hwf hactive hhr, hown.own_eq, hown.issued⟩

theorem completeBooking_sound {now : ℤ} {id : ObjectId}
    (hc : ∀ b ∈ c, b.WellFormed ∧ Owned own issued b) :
    ∀ b ∈ completeBooking now id c, b.WellFormed ∧ Owned own issued b := by
  intro b hb
  rcases mem_completeBooking hb with hb | ⟨d, hd, hdue, rfl⟩
  · exact hc b hb
  · obtain ⟨hwf, hown⟩ := hc d hd
    exact ⟨d.complete_wellFormed hwf hdue.1, hown.own_eq, hown.issued⟩

end Stored

/-! ### The invariant -/

section Invariant

variable {R : Type} [DecidableEq R] {cal : TimezoneName → Calendar} {s s' : Backend R}
  {own : ObjectId → ObjectId}

theorem Recorded.put {w : World} {p : Proc} {r : R} {own' : ObjectId → ObjectId}
    (h : Recorded s own) (hown : ∀ i ∈ s.world.issuedIds, own' i = own i)
    (hissued : s.world.issuedIds ⊆ w.issuedIds)
    (hstored : ∀ b ∈ w.bookings, b.WellFormed ∧ Owned own' w.issuedIds b)
    (hp : p.Sound own' w.issuedIds) : Recorded (s.put r w p) own' where
  stored := hstored
  held r' := by
    by_cases hr : r' = r
    · subst hr
      simpa [Backend.put] using hp
    · simpa [Backend.put, hr] using (h.held r').mono hown hissued

theorem Origin.resume_sound {issued : List ObjectId} (origin : Origin) (w : World)
    (out : HandlerOutcome) : (origin.resume w out).2.Sound own issued :=
  resume_induction (P := fun p => p.Sound own issued) (fun _ _ => trivial) (fun _ => trivial)
    fun _ _ => trivial

/-- A command of a request preserves the invariant; a new document gets a new owner. -/
theorem Recorded.request_step {r : R} {o : Oracle} {stage : RequestStage} {w : World}
    {out : RequestOutcome} (h : Recorded s own) (hp : s.procs r = .request stage)
    (hexec : stage.exec cal o s.world = some (w, out)) :
    ∃ own', Recorded (s.put r w out.toProc) own' := by
  have hs : (Proc.request stage).Sound own s.world.issuedIds := hp ▸ h.held r
  by_cases hcon : ∃ args, stage = .construct args
  · -- the identity is new, so it can be given to the consultant of the request
    obtain ⟨args, rfl⟩ := hcon
    simp only [RequestStage.exec] at hexec
    split_ifs at hexec with hfresh
    cases hexec
    have hown : ∀ i ∈ s.world.issuedIds,
        Function.update own o.newId args.hrUserId i = own i := by
      intro i hi
      refine Function.update_of_ne ?_ _ _
      rintro rfl
      exact hfresh hi
    refine ⟨_, h.put hown (List.subset_cons_self _ _) (fun b hb => ?_) ?_⟩
    · exact ⟨(h.stored b hb).1, (h.stored b hb).2.mono hown (List.subset_cons_self _ _)⟩
    · exact ⟨hs, Function.update_self .., List.mem_cons_self⟩
  · have hne : ∀ args, stage ≠ .construct args := fun args he => hcon ⟨args, he⟩
    have hout := RequestStage.sound_of_exec hne h.stored hs hexec
    refine ⟨own, ?_⟩
    cases RequestStage.effect_of_exec hexec with
    | quiet _ hq =>
      refine h.put (fun _ _ => rfl) (by rw [hq.issuedIds]; exact List.Subset.refl _) ?_ ?_
      · rw [hq.bookings, hq.issuedIds]
        exact h.stored
      · rw [hq.issuedIds]
        exact hout
    | construct args => exact absurd rfl (hne args)
    | write hw =>
      exact h.put (fun _ _ => rfl) (List.Subset.refl _) (hw.stored_sound h.stored hs) hout

/-- **Every action preserves the invariant.** -/
theorem recorded_step {a : Action R} (h : Recorded s own)
    (hstep : (backend R cal).step s a = some s') : ∃ own', Recorded s' own' := by
  cases backend_step_cases hstep with
  | launch hidle hstart =>
    refine ⟨own, ?_⟩
    cases hstart with
    | request _ request =>
      refine h.put (fun _ _ => rfl) (List.Subset.refl _) h.stored ?_
      cases request <;> trivial
    | retry => exact h.put (fun _ _ => rfl) (List.Subset.refl _) h.stored trivial
    | job => exact h.put (fun _ _ => rfl) (List.Subset.refl _) h.stored trivial
  | @exec r o w p hproc =>
    generalize hp : s.procs r = q at hproc
    cases hproc with
    | request hexec => exact h.request_step hp hexec
    | @handler w₁ stage out origin hexec =>
      -- handlers write no booking and give out identities to records only
      have hframe := HandlerStage.frame_of_exec hexec
      have hsame := origin.resume_sameStore w₁ out
      refine ⟨own, h.put (fun _ _ => rfl) ?_ ?_ (origin.resume_sound _ _)⟩
      · rw [hsame.issuedIds]
        exact hframe.issuedIds
      · rw [hsame.bookings, hsame.issuedIds, hframe.bookings]
        exact fun b hb => ⟨(h.stored b hb).1,
          (h.stored b hb).2.mono (fun _ _ => rfl) hframe.issuedIds⟩
    | retryRefused | retryFound | retryAllowed | retryNotNeeded =>
      exact ⟨own, h.put (fun _ _ => rfl) (List.Subset.refl _) h.stored trivial⟩
  | surroundings hsur =>
    refine ⟨own, ?_⟩
    cases hsur with
    | advance | setProfiles | setAvailability | deleteMeeting => exact ⟨h.stored, h.held⟩
    | complete id => exact ⟨completeBooking_sound h.stored, h.held⟩
    | deleteBooking id => exact ⟨fun b hb => h.stored b (Collection.mem_delete.1 hb).1, h.held⟩

omit [DecidableEq R] in
theorem recorded_init {w : World} (h : w.bookings = Collection.empty) :
    Recorded (Backend.init R w) own where
  stored b hb := by
    have hb' : b ∈ w.bookings := hb
    rw [h] at hb'
    exact absurd hb' (Collection.not_mem_empty b)
  held _ := trivial

theorem recorded_run {w : World} (h : w.bookings = Collection.empty) {as : List (Action R)}
    (hrun : (backend R cal).run (Backend.init R w) as = some s) : ∃ own, Recorded s own :=
  Machine.run_invariant' (I := fun s => ∃ own, Recorded s own)
    (fun _ _ _ hI hstep => hI.elim fun _ h => recorded_step h hstep)
    ⟨fun _ => 0, recorded_init h⟩ hrun

/-- **The booking record.**  In every state reached from an empty collection, whatever is
interleaved, every stored booking is well formed, and two active bookings of one consultant that
start at the same time are one booking. -/
theorem stored_wellFormed {w : World} (h : w.bookings = Collection.empty) {as : List (Action R)}
    (hrun : (backend R cal).run (Backend.init R w) as = some s) :
    (∀ b ∈ s.world.bookings, b.WellFormed) ∧
      ∀ b ∈ s.world.bookings, ∀ b' ∈ s.world.bookings, b.isActive → b'.isActive →
        b.hrUserId = b'.hrUserId → b.startAt = b'.startAt → b = b' := by
  obtain ⟨own, hrec⟩ := recorded_run h hrun
  refine ⟨fun b hb => (hrec.stored b hb).1, fun b hb b' hb' ha ha' hhr hstart => ?_⟩
  exact eq_of_active_start hb hb' (hrec.stored b hb).1 (hrec.stored b' hb').1 ha ha' hhr hstart

end Invariant

/-! ### Copies that are about to be saved -/

section Saves

variable {cal : TimezoneName → Calendar} {o : Oracle} {w w' : World} {p p' : Proc}

/-- The copy a cancellation is about to save was active. -/
def Proc.SavesActive : Proc → Prop
  | request (.saveCancel _ loaded _ _ _) => loaded.isActive
  | _ => True

theorem savesActive_exec (h : ProcStep cal o w p w' p') :
    p'.SavesActive := by
  cases h with
  | @request _ stage out hexec =>
    cases out with
    | finished => trivial
    | next stage' =>
      cases stage' with
      | saveCancel => exact RequestStage.active_of_exec hexec
      | _ => trivial
  | handler origin =>
    exact origin.resume_induction (fun _ _ => trivial) (fun _ => trivial) fun _ _ => trivial
  | retryRefused | retryFound | retryAllowed | retryNotNeeded => trivial

theorem savesActive_start {R : Type} {a : Action R} {r : R} (h : Starts w a r p w') :
    p.SavesActive := by
  cases h with
  | request r request => cases request <;> trivial
  | retry | job => trivial

theorem not_isActive_saveCancelled {loaded stored : Booking} {now : ℤ} {role : CancelledBy}
    {reason : Option String} (h : loaded.isActive) :
    ¬ (saveCancelled loaded (loaded.cancel now role reason) stored).isActive :=
  Booking.not_isActive_cancelled (savePath_of_ne h.ne_cancelled.symm _)

end Saves

/-! ### A booking request -/

/-- Consultant 1 takes hourly bookings on Mondays; nothing is stored yet. -/
def mondayWorld : World where
  now := 0
  profiles := ⟨[⟨5, 1, .published, true, 5000, .usd⟩], List.pairwise_singleton _ _⟩
  availabilities hrUserId :=
    if hrUserId = 1 then some (mondayAvailability ⟨60, by decide⟩) else none
  bookings := .empty
  meetings := .empty
  meetingQueue := []
  reminderQueue := []
  auditLog := []
  events := []
  providerLog := []
  issuedIds := []
  issuedEvents := []

/-- Surroundings in which every service answers. -/
def answering (newId : ObjectId) (newEvent : EventId) : Oracle where
  newId := newId
  pick := 0
  meetingQueueFails := false
  reminderQueueFails := false
  reminderRemoveFails := false
  auditFails := false
  providerError := none
  newEvent := newEvent
  calendarId := "primary"
  meetingUrl := none

/-- What a client asks for: the consultant's slot at an instant. -/
def slotAt (startAt : ℤ) : CreateBookingInput := ⟨5, startAt, none, none, ⟨.googleMeet, by decide⟩⟩

/-- Client 2 asks for the slot at an instant. -/
def bookAt (startAt : ℤ) : Request := .create ⟨2, .user⟩ (slotAt startAt)

/-- All calendars are in universal time. -/
def utcCalendar : TimezoneName → Calendar := fun _ => Zone.utc.calendar

/-- A request by one of several parties, from its arrival through its commands. -/
def serve {R : Type} (r : R) (request : Request) (id : ObjectId) (commands : ℕ) :
    List (Action R) :=
  .begin r request :: List.replicate commands (.exec r (answering id id))

/-- The run of a list of actions over the Monday schedule. -/
def mondayRun {R : Type} [DecidableEq R] (as : List (Action R)) : Option (Backend R) :=
  (backend R utcCalendar).run (Backend.init R mondayWorld) as

/-- Client 2 books nine o'clock and asks to cancel; the consultant moves the booking to ten o'clock
before it is cancelled, and client 3 books the time that it has left. -/
def movedAndCancelled : List (Action ℕ) :=
  serve 0 (bookAt mondayNine) 1 9 ++ serve 1 (.cancel ⟨2, .user⟩ 1 none) 2 1 ++
    serve 2 (.reschedule ⟨1, .hr⟩ 1 ⟨addMinutes mondayNine 60, none⟩) 3 8 ++
      List.replicate 5 (.exec 1 (answering 2 2)) ++
        serve 3 (.create ⟨3, .user⟩ (slotAt (addMinutes mondayNine 60))) 4 6

theorem movedAndCancelled_isSome : (mondayRun movedAndCancelled).isSome = true := by
  decide +kernel

/-- Both bookings are well formed. -/
theorem stored_wellFormed_moved :
    let s := (mondayRun movedAndCancelled).get movedAndCancelled_isSome
    s.world.bookings.docs.map Booking.startAt =
        [addMinutes mondayNine 60, addMinutes mondayNine 60] ∧
      ∀ b ∈ s.world.bookings, b.WellFormed :=
  ⟨by decide +kernel, (stored_wellFormed rfl (Option.some_get movedAndCancelled_isSome).symm).1⟩

end HrBooking
