import HrBooking.Backend.Cancellation
import Mathlib.Data.Fintype.Option

/-!
# Whether a booking gets a second event

A booking that stays active gets its conference from the create job, from the jobs of its
reschedules and from its participants' retries.  The provider gives every event a new identity, so
there is one event as long as nobody creates one while the record refers to an event, whatever its
status, or while another party has created one that it has not recorded.

* `CreatesOnlyEvent` : the condition on a step.
* `events_unique` : in every run whose steps meet it there is at most one event, and a created
  record names it.
* `not_events_unique` : without the condition there can be two.
-/

namespace HrBooking

section Runs

variable {R : Type} [DecidableEq R] {cal : TimezoneName → Calendar} {s s' : Backend R}
  {a : Action R} {bookingId : ObjectId}

/-- When a party creates an event for the booking, the record refers to none and no other party has
created one that it has not recorded yet. -/
def CreatesOnlyEvent (bookingId : ObjectId) (s : Backend R) (a : Action R) : Prop :=
  a.OnExec fun r o =>
    o.providerError = none →
      CreatesAlone (s.world.conference bookingId) (s.roles bookingId) r

instance [Fintype R] (bookingId : ObjectId) (s : Backend R) (a : Action R) :
    Decidable (CreatesOnlyEvent bookingId s a) := inferInstanceAs (Decidable (a.OnExec _))

/-- The steps of a run on a booking that stays active, with its record. -/
def KeepsActive (bookingId : ObjectId) (s : Backend R) (a : Action R) : Prop :=
  StaysActive bookingId s.world ∧ a.deletesMeeting = false

instance (bookingId : ObjectId) (s : Backend R) (a : Action R) :
    Decidable (KeepsActive bookingId s a) := inferInstanceAs (Decidable (_ ∧ _))

/-- What holds in every run on a booking that stays active, whose events are created one at a
time. -/
structure Single (bookingId : ObjectId) (s : Backend R) : Prop where
  anchored : Anchored s
  saves : ∀ r, (s.procs r).SavesActive
  uncancelled : StaysActive bookingId s.world → Uncancelled bookingId s
  coherent : Coherent (s.world.conference bookingId) (s.roles bookingId)
  oneEvent : OneEvent (s.world.conference bookingId) (s.roles bookingId)

omit [DecidableEq R] in
theorem not_startsCancel (h : ¬ CancelDue bookingId s) : ¬ StartsCancel bookingId s a := by
  intro hstarts
  cases a with
  | startJob _ index =>
    obtain ⟨j, hj, hcancel⟩ := hstarts
    exact h (.inl ⟨j, List.mem_of_getElem? hj, hcancel⟩)
  | _ => exact hstarts

omit [DecidableEq R] in
theorem startsNothing {r : R} (hidle : s.roles bookingId r = .bystander) :
    CreatesAlone (s.world.conference bookingId) (s.roles bookingId) r := by
  intro hcreates
  rw [hidle] at hcreates
  cases hcreates

theorem ConferenceStep.oneEvent (h : ConferenceStep bookingId s a s')
    (hc : Coherent (s.world.conference bookingId) (s.roles bookingId))
    (hone : OneEvent (s.world.conference bookingId) (s.roles bookingId))
    (hdue : ¬ CancelDue bookingId s) (hcreates : CreatesOnlyEvent bookingId s a) :
    OneEvent (s'.world.conference bookingId) (s'.roles bookingId) := by
  cases h with
  | command r o hroles hturn =>
    rw [hroles]
    refine hone.turn hc hturn id fun hanswers => hcreates ?_
    rwa [Option.not_isSome_iff_eq_none] at hanswers
  | start r hidle hroles hturn =>
    rw [hroles]
    exact hone.turn hc hturn (not_startsCancel hdue) fun _ => startsNothing hidle
  | unseen hroles hconference => rwa [hroles, hconference]

/-- **One step** of a run on a booking that stays active. -/
theorem single_step (h : Single bookingId s)
    (hguard : KeepsActive bookingId s a ∧ CreatesOnlyEvent bookingId s a)
    (hstep : BackendStep cal s a s') : Single bookingId s' := by
  obtain ⟨⟨hactive, hkeep⟩, hcreates⟩ := hguard
  have hun := h.uncancelled hactive
  have hconf := conferenceStep_of_step h.anchored hkeep hstep bookingId
  exact {
    anchored := anchored_step h.anchored hkeep hstep
    saves := forall_procs_step (fun _ _ _ _ _ hexec _ => savesActive_exec hexec)
      (fun _ _ _ _ => savesActive_start) h.saves hstep
    uncancelled := uncancelled_step hun h.saves hstep
    coherent := hconf.coherent h.coherent
    oneEvent := hconf.oneEvent h.coherent h.oneEvent hun.due hcreates }

omit [DecidableEq R] in
theorem single_init {w : World} (h : Unmet bookingId w)
    (hqueue : ∀ j ∈ w.meetingQueue, ¬ (j.name = .cancel ∧ j.bookingId = bookingId)) :
    Single bookingId (Backend.init R w) where
  anchored := .init h.supported
  saves _ := trivial
  uncancelled _ := by
    refine ⟨?_, fun _ _ _ => nofun⟩
    rintro (⟨j, hj, hcancel⟩ | ⟨r, hr⟩)
    · exact hqueue j hj hcancel
    · cases hr
  coherent := h.coherent
  oneEvent := h.oneEvent

/-- **One event.**  Starting where no conference was asked for, in every state of a run on a
booking that stays active there is at most one event for it and a created record names it, if every
step that creates an event creates the only one. -/
theorem events_unique {w : World} {as : List (Action R)} (h : Unmet bookingId w)
    (hqueue : ∀ j ∈ w.meetingQueue, ¬ (j.name = .cancel ∧ j.bookingId = bookingId))
    (hmeets : (backend R cal).Meets
      (fun s a => KeepsActive bookingId s a ∧ CreatesOnlyEvent bookingId s a)
      (Backend.init R w) as)
    (hrun : (backend R cal).run (Backend.init R w) as = some s) :
    (s.world.events.filter fun e => e.bookingId = bookingId).length ≤ 1 ∧
      ∀ m ∈ s.world.meetings, m.bookingId = bookingId → m.status = .created →
        ∀ e ∈ s.world.events, e.bookingId = bookingId → m.externalMeetingId = some e.id := by
  have hsingle : Single bookingId s :=
    Machine.run_invariant (I := Single bookingId)
      (fun _ _ _ hI hG hstep => single_step hI hG (backend_step_cases hstep)) (single_init h hqueue)
      hmeets hrun
  obtain ⟨hlength, hnamed⟩ := hsingle.oneEvent.unique hsingle.coherent
  refine ⟨by simpa [World.conference] using hlength, fun m hm hid hcreated e he heid => ?_⟩
  have hentry : (s.world.conference bookingId).entry = some m.entry := by
    have hfind : s.world.meetings.findByKey bookingId = some m :=
      Collection.findByKey_eq_some.2 ⟨hm, congrArg some hid⟩
    simp only [World.conference, hfind, Option.map_some]
  refine hnamed m.entry hentry hcreated e.id ?_
  exact List.mem_map.2 ⟨e, List.mem_filter.2 ⟨he, decide_eq_true heid⟩, rfl⟩

end Runs

/-! ### Runs on the Monday schedule -/

/-- A party takes the first job of the queue and issues its commands. -/
def work {R : Type} (r : R) (id : ObjectId) (commands : ℕ) : List (Action R) :=
  .startJob r 0 :: List.replicate commands (.exec r (answering id id))

/-- Client 2 books nine o'clock; the client asks for the conference again when the create job has
made the event, and goes on after the job has recorded it. -/
def bookedWithConference : List (Action (Option Bool)) :=
  serve none (bookAt mondayNine) 1 9 ++ work (some false) 2 4 ++
    .beginRetry (some true) ⟨2, .user⟩ 1 :: .exec (some false) (answering 2 2) ::
      List.replicate 2 (.exec (some true) (answering 3 3))

theorem bookedWithConference_isSome : (mondayRun bookedWithConference).isSome = true := by
  decide +kernel

theorem bookedWithConference_meets :
    (backend (Option Bool) utcCalendar).Meets
      (fun s a => KeepsActive 1 s a ∧ CreatesOnlyEvent 1 s a)
      (Backend.init (Option Bool) mondayWorld) bookedWithConference := by
  decide +kernel

theorem mondayWorld_unmet (bookingId : ObjectId) : Unmet bookingId mondayWorld :=
  ⟨fun _ => nofun, fun _ => nofun, fun _ => nofun⟩

/-- The booking has one event. -/
theorem events_unique_retried :
    let s := (mondayRun bookedWithConference).get bookedWithConference_isSome
    s.world.events.length = 1 ∧
      (s.world.events.filter fun e => e.bookingId = 1).length ≤ 1 := by
  refine ⟨by decide +kernel, ?_⟩
  exact (events_unique (mondayWorld_unmet 1) (fun _ => nofun) bookedWithConference_meets
    (Option.some_get bookedWithConference_isSome).symm).1

/-- Client 2 books nine o'clock; the create job has inserted the record when the client asks for the
conference again, and both create an event. -/
def bookedAndRetried : List (Action ℕ) :=
  serve 0 (bookAt mondayNine) 1 9 ++ work 1 2 3 ++
    .beginRetry 2 ⟨2, .user⟩ 1 :: List.replicate 5 (.exec 2 (answering 3 1)) ++
      [.exec 1 (answering 2 2)]

theorem bookedAndRetried_isSome : (mondayRun bookedAndRetried).isSome = true := by decide +kernel

theorem bookedAndRetried_keepsActive :
    (backend ℕ utcCalendar).Meets (KeepsActive 1) (Backend.init ℕ mondayWorld)
      bookedAndRetried := by
  decide +kernel

/-- **A booking can get two events.**  The create job and a retry hold the record as it was before
either of them has created an event. -/
theorem not_events_unique :
    ¬ ∀ (R : Type) [DecidableEq R] (cal : TimezoneName → Calendar) (bookingId : ObjectId)
      (w : World) (as : List (Action R)) (s : Backend R), Unmet bookingId w →
      (∀ j ∈ w.meetingQueue, ¬ (j.name = .cancel ∧ j.bookingId = bookingId)) →
      (backend R cal).Meets (KeepsActive bookingId) (Backend.init R w) as →
      (backend R cal).run (Backend.init R w) as = some s → StaysActive bookingId s.world →
      (s.world.events.filter fun e => e.bookingId = bookingId).length ≤ 1 := by
  intro h
  have hunique := h ℕ utcCalendar 1 mondayWorld bookedAndRetried _ (mondayWorld_unmet 1)
    (fun _ => nofun) bookedAndRetried_keepsActive (Option.some_get bookedAndRetried_isSome).symm
    (by decide +kernel)
  exact absurd hunique (by decide +kernel)

end HrBooking
