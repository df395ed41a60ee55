import HrBooking.Backend.Record
import HrBooking.Backend.Turn

/-!
# The backend refines the conference protocol

Every action of the backend, of whatever party and for whatever booking, is one turn of the protocol
for the conference of a given booking, or does not concern it.

* `Backend.roles` : what every party is about to do with the conference.
* `Anchored`, `anchored_step` : the records that parties hold are stored, in every run without
  deletions of records.
* `ConferenceStep`, `conferenceStep_of_step` : an action is a turn or nothing.
* `Unmet` : a state in which no conference was ever asked for.
-/

namespace HrBooking

/-- What a party is about to do with the conference of one booking. -/
def Proc.role (bookingId : ObjectId) : Proc → Role
  | handler _ stage => stage.roleFor bookingId
  | _ => .bystander

/-- The roles of all parties. -/
def Backend.roles {R : Type} (s : Backend R) (bookingId : ObjectId) (r : R) : Role :=
  (s.procs r).role bookingId

/-- What holds of the copies a party has in memory. -/
def Proc.Anchored (c : Collection Meeting) : Proc → Prop
  | handler _ stage => stage.Anchored c
  | _ => True

theorem Proc.Anchored.mono {c c' : Collection Meeting} {p : Proc} (h : p.Anchored c)
    (hc : KeepsMeetings c c') : p.Anchored c' := by
  cases p with
  | handler => exact HandlerStage.Anchored.mono h hc
  | _ => trivial

/-! ### Actions -/

/-- Every stored booking has a provider with an adapter, and the records parties hold are stored. -/
structure Anchored {R : Type} (s : Backend R) : Prop where
  supported : ∀ b ∈ s.world.bookings, isSupportedMeetingProvider b.meetingProvider
  held : ∀ r, (s.procs r).Anchored s.world.meetings

section Actions

variable {R : Type} [DecidableEq R] {cal : TimezoneName → Calendar} {s s' : Backend R}
  {a : Action R}

/-- The action deletes a meeting record. -/
def Action.deletesMeeting : Action R → Bool
  | deleteMeeting _ => true
  | _ => false

/-- The worker takes a cancellation of the booking. -/
def StartsCancel (bookingId : ObjectId) (s : Backend R) : Action R → Prop
  | .startJob _ index =>
    ∃ j, s.world.meetingQueue[index]? = some j ∧ j.name = .cancel ∧ j.bookingId = bookingId
  | _ => False

omit [DecidableEq R] in
theorem Anchored.init {w : World}
    (h : ∀ b ∈ w.bookings, isSupportedMeetingProvider b.meetingProvider) :
    Anchored (Backend.init R w) := ⟨h, fun _ => trivial⟩

theorem Anchored.put {r : R} {w : World} {p : Proc} (h : Anchored s)
    (hsup : ∀ b ∈ w.bookings, isSupportedMeetingProvider b.meetingProvider)
    (hkeeps : KeepsMeetings s.world.meetings w.meetings) (hp : p.Anchored w.meetings) :
    Anchored (s.put r w p) := by
  refine ⟨hsup, fun r' => ?_⟩
  by_cases hr : r' = r
  · subst hr
    simpa [Backend.put] using hp
  · simpa [Backend.put, hr] using (h.held r').mono hkeeps

/-- A request stores no booking without an adapter: the body of a creation names a provider that
has one, and no other write changes the provider. -/
theorem BookingWrite.supported {c c' : Collection Booking} {stage : RequestStage}
    (hc : ∀ b ∈ c, isSupportedMeetingProvider b.meetingProvider) (h : BookingWrite c stage c') :
    ∀ b ∈ c', isSupportedMeetingProvider b.meetingProvider := by
  intro b hb
  cases h with
  | insert id args hins =>
    rcases (Collection.mem_insert hins).1 hb with hb | rfl
    · exact hc b hb
    · exact args.input.meetingProvider.2
  | withdraw => exact hc b (Collection.mem_delete.1 hb).1
  | save _ _ _ _ _ hupd | move _ _ _ _ _ _ hupd =>
    rcases (Collection.mem_update hupd).1 hb with ⟨hb, -⟩ | ⟨d, hd, -, rfl⟩
    · exact hc b hb
    · exact hc d hd

/-- **The parties keep hold of stored records.** -/
theorem anchored_step (h : Anchored s) (hkeep : a.deletesMeeting = false)
    (hstep : BackendStep cal s a s') : Anchored s' := by
  cases hstep with
  | launch _ hstart =>
    cases hstart with
    | request | retry => exact h.put h.supported (.refl _) trivial
    | job _ _ j =>
      refine h.put h.supported (.refl _) ?_
      cases hname : j.name <;> trivial
  | @exec r o w p hproc =>
    have hheld := h.held r
    generalize s.procs r = q at hproc hheld
    cases hproc with
    | @request _ stage out hexec =>
      have hp : ∀ c, out.toProc.Anchored c := fun _ => by cases out <;> trivial
      cases RequestStage.effect_of_exec hexec with
      | quiet _ hq =>
        exact h.put (by rw [hq.bookings]; exact h.supported) (by rw [hq.meetings]; exact .refl _)
          (hp _)
      | construct => exact h.put h.supported (.refl _) (hp _)
      | write hw => exact h.put (hw.supported h.supported) (.refl _) (hp _)
    | @handler w₁ stage out origin hexec =>
      obtain ⟨-, hkeeps, hanchored⟩ :=
        HandlerStage.commandEffect_of_exec h.supported hheld hexec
      have hsame := origin.resume_sameStore w₁ out
      -- a handler writes through the abstract ledger, and what comes after it writes nothing
      refine h.put ?_ (by rwa [hsame.meetings]) ?_
      · rw [hsame.bookings, (HandlerStage.frame_of_exec hexec).bookings]
        exact h.supported
      · rw [hsame.meetings]
        refine origin.resume_induction (P := fun p => p.Anchored w₁.meetings) ?_
          (fun _ => trivial) fun _ _ => trivial
        rintro next rfl
        exact hanchored
    | retryRefused | retryFound | retryAllowed | retryNotNeeded =>
      exact h.put h.supported (.refl _) trivial
  | surroundings hsur =>
    cases hsur with
    | advance | setProfiles | setAvailability => exact ⟨h.supported, h.held⟩
    | complete id =>
      refine ⟨fun b hb => ?_, h.held⟩
      rcases mem_completeBooking hb with hb | ⟨d, hd, -, rfl⟩
      · exact h.supported b hb
      · exact h.supported d hd
    | deleteBooking => exact ⟨fun b hb => h.supported b (Collection.mem_delete.1 hb).1, h.held⟩
    | deleteMeeting => cases hkeep

/-- What an action is for the conference of one booking: a command of a party, the beginning of one,
or nothing. -/
inductive ConferenceStep (bookingId : ObjectId) (s : Backend R) : Action R → Backend R → Prop
  | command {s' : Backend R} (r : R) (o : Oracle)
      (hroles : s'.roles bookingId =
        Function.update (s.roles bookingId) r (s'.roles bookingId r))
      (hturn : Turn (o.providerError.isSome = true) (s.world.bookings.findById bookingId = none)
        False (s.world.conference bookingId) (s.roles bookingId r) (s'.world.conference bookingId)
        (s'.roles bookingId r)) : ConferenceStep bookingId s (.exec r o) s'
  | start {a : Action R} {s' : Backend R} (r : R) (hidle : s.roles bookingId r = .bystander)
      (hroles : s'.roles bookingId =
        Function.update (s.roles bookingId) r (s'.roles bookingId r))
      (hturn : Turn False False (StartsCancel bookingId s a) (s.world.conference bookingId)
        (s.roles bookingId r) (s'.world.conference bookingId) (s'.roles bookingId r)) :
      ConferenceStep bookingId s a s'
  | unseen {a : Action R} {s' : Backend R} (hroles : s'.roles bookingId = s.roles bookingId)
      (hconference : s'.world.conference bookingId = s.world.conference bookingId) :
      ConferenceStep bookingId s a s'

theorem Backend.roles_put (s : Backend R) (r : R) (w : World) (p : Proc) (bookingId : ObjectId) :
    (s.put r w p).roles bookingId =
      Function.update (s.roles bookingId) r ((s.put r w p).roles bookingId r) := by
  funext r'
  by_cases hr : r' = r
  · subst hr
    rw [Function.update_self]
  · rw [Function.update_of_ne hr]
    simp only [roles, procs_put_of_ne hr]

theorem Backend.roles_put_self (s : Backend R) (r : R) (w : World) (p : Proc)
    (bookingId : ObjectId) : (s.put r w p).roles bookingId r = p.role bookingId := by
  simp only [roles, procs_put_self]

/-- **Every action is a turn or nothing** for the conference of a booking. -/
theorem conferenceStep_of_step (h : Anchored s) (hkeep : a.deletesMeeting = false)
    (hstep : BackendStep cal s a s') (bookingId : ObjectId) : ConferenceStep bookingId s a s' := by
  cases hstep with
  | @launch _ r p w hidle hstart =>
    -- of the parties that start, only a cancel job is more than a bystander
    have hrole : s.roles bookingId r = .bystander := by
      rw [Backend.roles, hidle]
      rfl
    refine .start r hrole (s.roles_put r w p bookingId) ?_
    rw [hrole, Backend.roles_put_self]
    cases hstart with
    | request | retry => exact .stay _
    | job _ index j hj =>
      cases hname : j.name with
      | create | sync =>
        rw [Proc.role, HandlerStage.roleFor_of_bystander rfl]
        exact .stay _
      | cancel =>
        by_cases hid : j.bookingId = bookingId
        · have hself : (Proc.handler (.job j) (MeetingJobName.start j.bookingId .cancel)).role
              bookingId = .awaiting := if_pos hid
          rw [hself]
          exact .start ⟨j, hj, hname, hid⟩
        · have hother : (Proc.handler (.job j) (MeetingJobName.start j.bookingId .cancel)).role
              bookingId = .bystander := if_neg hid
          rw [hother]
          exact .stay _
  | @exec r o w p hproc =>
    have hheld := h.held r
    refine .command r o (s.roles_put r w p bookingId) ?_
    rw [Backend.roles_put_self, Backend.roles]
    generalize s.procs r = q at hproc hheld
    cases hproc with
    | @request _ stage out hexec =>
      -- a request touches neither records nor events
      have hout : out.toProc.role bookingId = .bystander := by cases out <;> rfl
      rw [hout]
      have hsame : w.conference bookingId = s.world.conference bookingId := by
        cases RequestStage.effect_of_exec hexec with
        | quiet _ hq => exact World.conference_congr hq.meetings hq.events hq.issuedEvents
        | construct | write => rfl
      show Turn _ _ _ _ .bystander (w.conference bookingId) _
      rw [hsame]
      exact .stay _
    | @handler w₁ stage out origin hexec =>
      have hturn := (HandlerStage.commandEffect_of_exec h.supported hheld hexec).turn bookingId
      have hsame := origin.resume_sameStore w₁ out
      -- what follows the command (a retry's read, a job that is queued again) is no turn of its own
      have hrole : (origin.resume w₁ out).2.role bookingId = out.roleFor bookingId := by
        cases out with
        | next => rfl
        | finished | thrown =>
          exact origin.resume_induction (P := fun p => p.role bookingId = .bystander)
            (fun _ => nofun) (fun _ => rfl) fun _ _ => rfl
      have hconf : (origin.resume w₁ out).1.conference bookingId = w₁.conference bookingId :=
        World.conference_congr hsame.meetings hsame.events hsame.issuedEvents
      show Turn _ _ _ _ _ ((origin.resume w₁ out).1.conference bookingId) _
      rw [hrole, hconf]
      exact hturn
    | retryRefused | retryFound | retryNotNeeded => exact .stay _
    | retryAllowed =>
      rw [show (Proc.handler _ (HandlerStage.ensureRead _)).role bookingId = .bystander from
        HandlerStage.roleFor_of_bystander rfl]
      exact .stay _
  | surroundings hsur =>
    refine .unseen rfl ?_
    cases hsur with
    | deleteMeeting => cases hkeep
    | _ => rfl

theorem ConferenceStep.coherent {bookingId : ObjectId} (h : ConferenceStep bookingId s a s')
    (hc : Coherent (s.world.conference bookingId) (s.roles bookingId)) :
    Coherent (s'.world.conference bookingId) (s'.roles bookingId) := by
  cases h with
  | command r o hroles hturn =>
    rw [hroles]
    exact hc.turn hturn
  | start r hidle hroles hturn =>
    rw [hroles]
    exact hc.turn hturn
  | unseen hroles hconference => rwa [hroles, hconference]

end Actions

/-! ### The beginning -/

/-- No conference was asked for yet: the booking has no record and no event. -/
structure Unmet (bookingId : ObjectId) (w : World) : Prop where
  supported : ∀ b ∈ w.bookings, isSupportedMeetingProvider b.meetingProvider
  record : ∀ m ∈ w.meetings, m.bookingId ≠ bookingId
  events : ∀ e ∈ w.events, e.bookingId ≠ bookingId

section Unmet

variable {w : World} {bookingId : ObjectId}

theorem Unmet.entry_eq (h : Unmet bookingId w) : (w.conference bookingId).entry = none := by
  have hnone : w.meetings.findByKey bookingId = none :=
    Collection.findByKey_eq_none.2 fun m hm hkey => h.record m hm (Option.some.inj hkey)
  simp only [World.conference, hnone, Option.map_none]

theorem Unmet.live_eq (h : Unmet bookingId w) : (w.conference bookingId).live = [] := by
  have hnil : (w.events.filter fun e => e.bookingId = bookingId) = [] :=
    List.filter_eq_nil_iff.2 fun e he => by simpa using h.events e he
  simp only [World.conference, hnil, List.map_nil]

theorem Unmet.coherent {R : Type} (h : Unmet bookingId w) :
    Coherent (w.conference bookingId) ((Backend.init R w).roles bookingId) where
  entry := by
    rw [h.entry_eq]
    exact nofun
  role _ := trivial
  live := by
    rw [h.live_eq]
    exact ⟨.nil, List.nil_subset _⟩

theorem Unmet.oneEvent {R : Type} (h : Unmet bookingId w) :
    OneEvent (w.conference bookingId) ((Backend.init R w).roles bookingId) where
  kept _ := rfl
  named := by
    rw [h.live_eq]
    exact nofun
  alone _ _ := nofun

theorem Unmet.removable {R : Type} (h : Unmet bookingId w) :
    Removable (w.conference bookingId) ((Backend.init R w).roles bookingId) where
  held := by
    rw [h.live_eq]
    exact nofun
  steady _ _ := nofun

end Unmet

end HrBooking
