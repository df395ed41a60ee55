import HrBooking.Backend.Duplicate

/-!
# Whether a cancelled booking keeps an event

The jobs that create, move and cancel the conference of a booking run at the same time, each with a
copy of the record from some time ago, while the booking is cancelled underneath.  When all of them
are done the event is gone, as long as no status is written over a record that refers to an event in
the calendar, and no event is recorded on a cancelled booking after its cancellation has loaded the
record.

* `TearsDown` : the conditions on a step.
* `conference_removed` : in every run whose steps meet them, a cancelled booking at rest has a
  cancelled record, if any, and no event.
* `not_conference_removed` : without the conditions an event can stay.
-/

namespace HrBooking

section Runs

variable {R : Type} [DecidableEq R] {cal : TimezoneName → Calendar} {s s' : Backend R}
  {a : Action R} {bookingId : ObjectId}

/-- No provider call fails. -/
def ProviderAnswers (a : Action R) : Prop := a.OnExec fun _ o => o.providerError = none

instance (a : Action R) : Decidable (ProviderAnswers a) :=
  inferInstanceAs (Decidable (a.OnExec _))

/-- A status is written only over a record that refers to no event in the calendar; and an event is
recorded on a cancelled booking only while the cancellation of its conference is still to load the
record. -/
def WritesInTime (bookingId : ObjectId) (s : Backend R) (a : Action R) : Prop :=
  a.OnExec fun r _ =>
    OverwritesNone (s.world.conference bookingId) (s.roles bookingId) r ∧
      RecordsInTime (Cancelled bookingId s.world) (CancelDue bookingId s) (s.roles bookingId) r

instance [Fintype R] (bookingId : ObjectId) (s : Backend R) (a : Action R) :
    Decidable (WritesInTime bookingId s a) := inferInstanceAs (Decidable (a.OnExec _))

/-- The conditions on a step. -/
def TearsDown (bookingId : ObjectId) (s : Backend R) (a : Action R) : Prop :=
  QueuesCancel bookingId s a ∧ WritesInTime bookingId s a

instance [Fintype R] (bookingId : ObjectId) (s : Backend R) (a : Action R) :
    Decidable (TearsDown bookingId s a) := inferInstanceAs (Decidable (_ ∧ _))

/-- What holds in every run whose steps meet the conditions. -/
structure Closing (bookingId : ObjectId) (s : Backend R) : Prop where
  anchored : Anchored s
  coherent : Coherent (s.world.conference bookingId) (s.roles bookingId)
  removable : Removable (s.world.conference bookingId) (s.roles bookingId)
  willClose : Cancelled bookingId s.world →
    WillClose (CancelDue bookingId s) (s.world.conference bookingId) (s.roles bookingId)

theorem ConferenceStep.removable (h : ConferenceStep bookingId s a s')
    (hc : Coherent (s.world.conference bookingId) (s.roles bookingId))
    (hr : Removable (s.world.conference bookingId) (s.roles bookingId))
    (hanswers : ProviderAnswers a) (hwrites : WritesInTime bookingId s a) :
    Removable (s'.world.conference bookingId) (s'.roles bookingId) := by
  cases h with
  | command r o hroles hturn =>
    rw [hroles]
    exact hr.turn hc hturn (by rw [hanswers]; nofun) hwrites.1
  | start r hidle hroles hturn =>
    rw [hroles]
    refine hr.turn hc hturn id fun hover => ?_
    rw [hidle] at hover
    cases hover
  | unseen hroles hconference => rwa [hroles, hconference]

/-- A cancelled booking whose conference is going to be closed still has that before it. -/
theorem ConferenceStep.willClose (h : ConferenceStep bookingId s a s')
    (hr : Removable (s.world.conference bookingId) (s.roles bookingId))
    (hclose : WillClose (CancelDue bookingId s) (s.world.conference bookingId) (s.roles bookingId))
    (hcancelled : Cancelled bookingId s.world)
    (hdue : CancelDue bookingId s →
      CancelDue bookingId s' ∨ ∃ r, s'.roles bookingId r = .awaiting)
    (hanswers : ProviderAnswers a) (hwrites : WritesInTime bookingId s a) :
    WillClose (CancelDue bookingId s') (s'.world.conference bookingId) (s'.roles bookingId) := by
  have hstored : ¬ s.world.bookings.findById bookingId = none := by
    obtain ⟨b, hb, hid, -⟩ := hcancelled
    exact fun hnone => Collection.findById_eq_none.1 hnone b hb hid
  cases h with
  | command r o hroles hturn =>
    rw [hroles] at hdue ⊢
    exact hclose.turn hturn (by rw [hanswers]; nofun) hstored (hr.steady r) hdue
      fun howed _ => hwrites.2 howed hcancelled
  | start r hidle hroles hturn =>
    rw [hroles] at hdue ⊢
    refine hclose.turn hturn id id (hr.steady r) hdue fun howed => ?_
    rw [hidle] at howed
    cases howed
  | unseen hroles hconference =>
    rw [hroles] at hdue
    rw [hroles, hconference]
    rcases hclose with hq | hrest
    · rcases hdue hq with hq' | hawaiting
      · exact .inl hq'
      · exact .inr (.inl hawaiting)
    · exact .inr hrest

/-- **One step** of a run whose steps meet the conditions. -/
theorem closing_step (h : Closing bookingId s)
    (hguard : (ProviderAnswers a ∧ a.deletesMeeting = false) ∧ TearsDown bookingId s a)
    (hstep : BackendStep cal s a s') : Closing bookingId s' := by
  obtain ⟨⟨hanswers, hkeep⟩, hqueues, hwrites⟩ := hguard
  have hconf := conferenceStep_of_step h.anchored hkeep hstep bookingId
  refine ⟨anchored_step h.anchored hkeep hstep, hconf.coherent h.coherent,
    hconf.removable h.coherent h.removable hanswers hwrites, fun hcancelled => ?_⟩
  rcases cancelled_step hstep hcancelled with hcancelled' | hdue
  · exact hconf.willClose h.removable (h.willClose hcancelled') hcancelled'
      (cancelDue_step hstep hqueues) hanswers hwrites
  · exact .inl hdue

omit [DecidableEq R] in
theorem closing_init {w : World} (h : Unmet bookingId w) :
    Closing bookingId (Backend.init R w) where
  anchored := .init h.supported
  coherent := h.coherent
  removable := h.removable
  willClose _ := by
    refine .inr (.inr (.inr (.inr ?_)))
    rw [show (Backend.init R w).world = w from rfl, h.entry_eq]
    exact nofun

/-- The party works on the conference of the booking, or is going to queue its cancellation. -/
def Proc.worksOn (bookingId : ObjectId) : Proc → Bool
  | handler _ stage => stage.bookingId = bookingId
  | p => p.queuesCancel bookingId

/-- No meeting job of the booking is queued or running, nor is a retry, and no cancellation has
still to be queued. -/
def Backend.AtRestFor (s : Backend R) (bookingId : ObjectId) : Prop :=
  (∀ j ∈ s.world.meetingQueue, j.bookingId ≠ bookingId) ∧
    ∀ r, (s.procs r).worksOn bookingId = false

omit [DecidableEq R] in
theorem Backend.AtRestFor.not_cancelDue (h : s.AtRestFor bookingId) : ¬ CancelDue bookingId s := by
  rintro (⟨j, hj, -, hid⟩ | ⟨r, hr⟩)
  · exact h.1 j hj hid
  · have hrest := h.2 r
    generalize s.procs r = p at hr hrest
    cases p with
    | request => exact absurd (hr.symm.trans hrest) nofun
    | _ => cases hr

omit [DecidableEq R] in
theorem Backend.AtRestFor.roles_eq (h : s.AtRestFor bookingId) (r : R) :
    s.roles bookingId r = .bystander := by
  have hrest := h.2 r
  rw [Backend.roles]
  cases hp : s.procs r with
  | handler origin stage =>
    rw [hp] at hrest
    exact if_neg (of_decide_eq_false hrest)
  | _ => rfl

/-- **The conference is removed.**  Starting where no conference was asked for, in every run in
which the provider answers and no record is deleted, and whose steps meet the conditions: when the
booking is cancelled and at rest, its record, if any, is cancelled, and no event of it is in the
calendar. -/
theorem conference_removed {w : World} {as : List (Action R)} (h : Unmet bookingId w)
    (hmeets : (backend R cal).Meets
      (fun s a => (ProviderAnswers a ∧ a.deletesMeeting = false) ∧ TearsDown bookingId s a)
      (Backend.init R w) as)
    (hrun : (backend R cal).run (Backend.init R w) as = some s)
    (hcancelled : Cancelled bookingId s.world) (hrest : s.AtRestFor bookingId) :
    (∀ m ∈ s.world.meetings, m.bookingId = bookingId → m.status = .cancelled) ∧
      ∀ e ∈ s.world.events, e.bookingId ≠ bookingId := by
  have hclosing : Closing bookingId s :=
    Machine.run_invariant (I := Closing bookingId)
      (fun _ _ _ hI hG hstep => closing_step hI hG (backend_step_cases hstep)) (closing_init h)
      hmeets hrun
  obtain ⟨hentry, hlive⟩ := hclosing.removable.closed (hclosing.willClose hcancelled)
    hrest.not_cancelDue hrest.roles_eq
  constructor
  · intro m hm hid
    have hfind : s.world.meetings.findByKey bookingId = some m :=
      Collection.findByKey_eq_some.2 ⟨hm, congrArg some hid⟩
    refine hentry m.entry ?_
    simp only [World.conference, hfind, Option.map_some, Option.mem_some_iff]
  · intro e he hid
    have hmem : e.id ∈ (s.world.conference bookingId).live :=
      List.mem_map.2 ⟨e, List.mem_filter.2 ⟨he, decide_eq_true hid⟩, rfl⟩
    rw [hlive] at hmem
    cases hmem

end Runs

/-! ### Runs on the Monday schedule -/

/-- Client 2 cancels the booking. -/
def cancelFirst : Request := .cancel ⟨2, .user⟩ 1 none

/-- Client 2 books nine o'clock; while the create job makes the conference, the client cancels, and
the cancel job removes it. -/
def cancelledBeside : List (Action (Fin 4)) :=
  serve 0 (bookAt mondayNine) 1 9 ++ serve 2 cancelFirst 3 1 ++ work 1 2 2 ++
    List.replicate 5 (.exec 2 (answering 3 3)) ++ List.replicate 3 (.exec 1 (answering 2 2)) ++
      work 3 4 4

theorem cancelledBeside_isSome : (mondayRun cancelledBeside).isSome = true := by decide +kernel

theorem cancelledBeside_meets :
    (backend (Fin 4) utcCalendar).Meets
      (fun s a => (ProviderAnswers a ∧ a.deletesMeeting = false) ∧ TearsDown 1 s a)
      (Backend.init (Fin 4) mondayWorld) cancelledBeside := by
  decide +kernel

instance {n : ℕ} (s : Backend (Fin n)) (bookingId : ObjectId) :
    Decidable (s.AtRestFor bookingId) := inferInstanceAs (Decidable (_ ∧ _))

/-- At the end the record is cancelled and the calendar is empty. -/
theorem conference_removed_beside :
    let s := (mondayRun cancelledBeside).get cancelledBeside_isSome
    (s.world.meetings.docs.length = 1 ∧ s.world.issuedEvents.length = 1) ∧
      (∀ m ∈ s.world.meetings, m.bookingId = 1 → m.status = .cancelled) ∧
      ∀ e ∈ s.world.events, e.bookingId ≠ 1 :=
  ⟨by decide +kernel, conference_removed (mondayWorld_unmet 1) cancelledBeside_meets
    (Option.some_get cancelledBeside_isSome).symm (by decide +kernel) (by decide +kernel)⟩

/-- Client 2 books nine o'clock and the create job reads the booking; the client cancels and the
cancel job finds no record; then the create job goes on. -/
def cancelledBeforeRecord : List (Action (Fin 4)) :=
  serve 0 (bookAt mondayNine) 1 9 ++ work 1 2 1 ++ serve 2 cancelFirst 3 6 ++ work 3 4 2 ++
    List.replicate 4 (.exec 1 (answering 2 2))

theorem cancelledBeforeRecord_isSome : (mondayRun cancelledBeforeRecord).isSome = true := by
  decide +kernel

/-- **A cancelled booking can keep an event.**  The create job does not look at the status of the
booking, and nobody cancels after it. -/
theorem not_conference_removed :
    ¬ ∀ (R : Type) [DecidableEq R] (cal : TimezoneName → Calendar) (bookingId : ObjectId)
      (w : World) (as : List (Action R)) (s : Backend R), Unmet bookingId w →
      (∀ a ∈ as, ProviderAnswers a ∧ a.deletesMeeting = false) →
      (backend R cal).run (Backend.init R w) as = some s → s.Quiescent →
      Cancelled bookingId s.world → s.AtRestFor bookingId →
      (∀ m ∈ s.world.meetings, m.bookingId = bookingId → m.status = .cancelled) ∧
        ∀ e ∈ s.world.events, e.bookingId ≠ bookingId := by
  intro h
  have hremoved := h (Fin 4) utcCalendar 1 mondayWorld cancelledBeforeRecord _
    (mondayWorld_unmet 1) (by decide) (Option.some_get cancelledBeforeRecord_isSome).symm
    (by show ∀ r : Fin 4, _; decide +kernel) (by decide +kernel) (by decide +kernel)
  exact absurd hremoved.2 (by decide +kernel)

end HrBooking
