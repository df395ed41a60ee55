import HrBooking.Backend.Record

/-!
# Who wins a race of creations

Requests to create bookings with one consultant race from the point where their checks have passed:
each inserts its booking, sweeps for a conflict and withdraws its own booking when the conflict it
found has the smaller identity.  The identities need not follow the order of the inserts, and a
sweep may find any conflict.

* `RaceFor` : the start of a race; no stored booking is in the way of a request.
* `Stands` : what a racing party holds about the stored bookings.
* `Passes` : what a command leaves to the other parties; a booking that is removed leaves one with a
  smaller identity behind.
* `race_has_winner` : once a booking is inserted, one stays inserted, and a booking whose creation
  was answered is still stored.
-/

namespace HrBooking

section Race

variable {R : Type}

/-- The parties are the requests whose checks have passed, and no stored booking overlaps one of
them. -/
structure RaceFor (hr : ObjectId) (s : Backend R) : Prop where
  ready : ∀ r, s.procs r = .idle ∨ ∃ args, s.procs r = .request (.construct args)
  hrUserId_eq : ∀ r args, s.procs r = .request (.construct args) → args.hrUserId = hr
  free : ∀ r args, s.procs r = .request (.construct args) →
    IsFree s.world.bookings (.hr hr) args.startAt args.endAt none

/-- Parties issue commands, the worker takes jobs, and the surroundings leave the bookings alone. -/
def Action.InRace : Action R → Prop
  | begin .. | beginRetry .. | complete _ | deleteBooking _ => False
  | _ => True

instance : ∀ a : Action R, Decidable a.InRace
  | .begin .. | .beginRetry .. | .complete _ | .deleteBooking _ => .isFalse id
  | .startJob .. | .exec .. | .advance _ | .setProfiles _ | .setAvailability ..
  | .deleteMeeting _ => .isTrue trivial

/-- The request is one of the race. -/
def Races (s₀ : Backend R) (args : InsertBookingArgs) : Prop :=
  ∃ r, s₀.procs r = .request (.construct args)

/-- The identity was not taken before the race. -/
def IsNew (s₀ : Backend R) (id : ObjectId) : Prop := ∀ b ∈ s₀.world.bookings, b.id ≠ id

/-- The booking was inserted in the race. -/
def Entered (s₀ : Backend R) (b : Booking) : Prop :=
  IsNew s₀ b.id ∧ ∃ id args, Races s₀ args ∧ b = newBooking id args

/-- An inserted booking with a smaller identity is stored. -/
def Outranked (s₀ : Backend R) (w : World) (id : ObjectId) : Prop :=
  ∃ b ∈ w.bookings, Entered s₀ b ∧ b.id.text < id.text

/-- The identity was given to the party. -/
def Given (holder : ObjectId → Option R) (w : World) (r : R) (id : ObjectId) : Prop :=
  id ∈ w.issuedIds ∧ holder id = some r

/-- What a racing party holds.  One that is about to withdraw is outranked, one that has not stood
down has its booking stored. -/
def Stands (s₀ : Backend R) (holder : ObjectId → Option R) (w : World) (r : R) : Proc → Prop
  | .request (.construct args) => Races s₀ args
  | .request (.insert id args) => Races s₀ args ∧ Given holder w r id
  | .request (.sweep id args) =>
    Races s₀ args ∧ Given holder w r id ∧ newBooking id args ∈ w.bookings ∧ IsNew s₀ id
  | .request (.withdraw id) => Given holder w r id ∧ Outranked s₀ w id ∧ IsNew s₀ id
  | .request (.queueCreate b) | .request (.remindCreated b) | .done (some (.ok b)) =>
    Given holder w r b.id ∧ b ∈ w.bookings
  | .request _ | .retryRead .. | .retryFind .. | .handler (.retry ..) _ => False
  | .idle | .handler (.job _) _ | .done none | .done (some (.error _)) => True

/-- **The invariant** of a race. -/
structure Racing (s₀ : Backend R) (holder : ObjectId → Option R) (s : Backend R) : Prop where
  kept : ∀ b ∈ s₀.world.bookings, b ∈ s.world.bookings
  stored : ∀ b ∈ s.world.bookings, b ∈ s₀.world.bookings ∨ Entered s₀ b
  held : ∀ r, Stands s₀ holder s.world r (s.procs r)

/-! ### What a command leaves to the others -/

/-- An inserted booking that is removed leaves one with a smaller identity behind. -/
def Survives (s₀ : Backend R) (w w' : World) : Prop :=
  ∀ b ∈ w.bookings, Entered s₀ b →
    ∃ b' ∈ w'.bookings, Entered s₀ b' ∧ (b' = b ∨ b'.id.text < b.id.text)

/-- What a change of the shared state leaves to a party. -/
structure Passes (holder holder' : ObjectId → Option R) (w w' : World) (r : R) : Prop where
  issued : ∀ i ∈ w.issuedIds, i ∈ w'.issuedIds ∧ holder' i = holder i
  own : ∀ b ∈ w.bookings, Given holder w r b.id → b ∈ w'.bookings

variable {s₀ s s' : Backend R} {holder holder' : ObjectId → Option R} {w w' : World} {r : R}
  {p : Proc}

theorem Survives.of_subset (hsub : ∀ b ∈ w.bookings, b ∈ w'.bookings) : Survives s₀ w w' :=
  fun b hb hentered => ⟨b, hsub b hb, hentered, .inl rfl⟩

theorem Survives.outranked (h : Survives s₀ w w') {id : ObjectId} (hid : Outranked s₀ w id) :
    Outranked s₀ w' id := by
  obtain ⟨b, hb, hentered, hlt⟩ := hid
  obtain ⟨b', hb', hentered', rfl | hlt'⟩ := h b hb hentered
  · exact ⟨b', hb', hentered', hlt⟩
  · exact ⟨b', hb', hentered', String.lt_trans hlt' hlt⟩

theorem Passes.given (h : Passes holder holder' w w' r) {id : ObjectId}
    (hid : Given holder w r id) : Given holder' w' r id :=
  ⟨(h.issued id hid.1).1, (h.issued id hid.1).2.trans hid.2⟩

theorem Stands.pass (hp : Stands s₀ holder w r p) (h : Passes holder holder' w w' r)
    (hsurvives : Survives s₀ w w') : Stands s₀ holder' w' r p := by
  -- the parties that have not stood down
  have hkept : ∀ {b}, Given holder w r b.id ∧ b ∈ w.bookings →
      Given holder' w' r b.id ∧ b ∈ w'.bookings :=
    fun ⟨hid, hb⟩ => ⟨h.given hid, h.own _ hb hid⟩
  cases p with
  | idle => trivial
  | retryRead => exact hp
  | retryFind => exact hp
  | handler origin =>
    cases origin with
    | job => trivial
    | retry => exact hp
  | done answer =>
    cases answer with
    | none => trivial
    | some answer =>
      cases answer with
      | error e => trivial
      | ok b => exact hkept hp
  | request stage =>
    cases stage with
    | construct args => exact hp
    | insert id args => exact ⟨hp.1, h.given hp.2⟩
    | sweep id args => exact ⟨hp.1, h.given hp.2.1, h.own _ hp.2.2.1 hp.2.1, hp.2.2.2⟩
    | withdraw id => exact ⟨h.given hp.1, hsurvives.outranked hp.2.1, hp.2.2⟩
    | queueCreate b => exact hkept hp
    | remindCreated b => exact hkept hp
    | _ => exact hp

/-! ### Steps -/

variable [DecidableEq R] {cal : TimezoneName → Calendar} {o : Oracle} {hr : ObjectId}

/-- The race goes on: the invariant is kept, for what the identities were given to by now. -/
def GoesOn (s₀ s s' : Backend R) : Prop :=
  (∃ holder, Racing s₀ holder s') ∧ Survives s₀ s.world s'.world

theorem Racing.put (h : Racing s₀ holder s) (holder' : ObjectId → Option R)
    (hkept : ∀ b ∈ s₀.world.bookings, b ∈ w.bookings)
    (hstored : ∀ b ∈ w.bookings, b ∈ s.world.bookings ∨ Entered s₀ b)
    (hpass : ∀ r', r' ≠ r → Passes holder holder' s.world w r')
    (hsurvives : Survives s₀ s.world w) (hp : Stands s₀ holder' w r p) :
    GoesOn s₀ s (s.put r w p) := by
  refine ⟨⟨holder', hkept, fun b hb => (hstored b hb).elim (h.stored b) .inr, fun r' => ?_⟩,
    hsurvives⟩
  by_cases hr : r' = r
  · subst hr
    rw [Backend.procs_put_self]
    exact hp
  · rw [Backend.procs_put_of_ne hr]
    exact (h.held r').pass (hpass r' hr) hsurvives

theorem Racing.put_of_subset (h : Racing s₀ holder s) (holder' : ObjectId → Option R)
    (hsub : ∀ b ∈ s.world.bookings, b ∈ w.bookings)
    (hstored : ∀ b ∈ w.bookings, b ∈ s.world.bookings ∨ Entered s₀ b)
    (hissued : ∀ i ∈ s.world.issuedIds, i ∈ w.issuedIds ∧ holder' i = holder i)
    (hp : Stands s₀ holder' w r p) : GoesOn s₀ s (s.put r w p) :=
  h.put holder' (fun b hb => hsub b (h.kept b hb)) hstored
    (fun _ _ => ⟨hissued, fun b hb _ => hsub b hb⟩) (.of_subset hsub) hp

theorem Racing.put_of_eq (h : Racing s₀ holder s) (hbookings : w.bookings = s.world.bookings)
    (hissued : s.world.issuedIds ⊆ w.issuedIds) (hp : Stands s₀ holder w r p) :
    GoesOn s₀ s (s.put r w p) := by
  refine h.put_of_subset holder ?_ ?_ (fun i hi => ⟨hissued hi, rfl⟩) hp
  · rw [hbookings]
    exact fun b hb => hb
  · rw [hbookings]
    exact fun b hb => .inl hb

theorem Racing.construct {args : InsertBookingArgs} (h : Racing s₀ holder s)
    (hargs : Races s₀ args) (hfresh : o.newId ∉ s.world.issuedIds) :
    GoesOn s₀ s (s.put r { s.world with issuedIds := o.newId :: s.world.issuedIds }
      (.request (.insert o.newId args))) := by
  refine h.put_of_subset (Function.update holder o.newId (some r)) (fun b hb => hb)
    (fun b hb => .inl hb) (fun i hi => ⟨List.mem_cons_of_mem _ hi, ?_⟩) ?_
  · have hne : i ≠ o.newId := by
      rintro rfl
      exact hfresh hi
    exact Function.update_of_ne hne ..
  · exact ⟨hargs, List.mem_cons_self, Function.update_self ..⟩

theorem Racing.insert {id : ObjectId} {args : InsertBookingArgs} {c : Collection Booking}
    (h : Racing s₀ holder s) (hargs : Races s₀ args) (hid : Given holder s.world r id)
    (hins : s.world.bookings.insert (newBooking id args) = some c) :
    GoesOn s₀ s (s.put r { s.world with bookings := c } (.request (.sweep id args))) := by
  have hmem : ∀ {b}, b ∈ c ↔ b ∈ s.world.bookings ∨ b = newBooking id args :=
    Collection.mem_insert hins
  have hnew : IsNew s₀ id := fun b hb => ((Collection.insert_eq_some.1 hins).1 b (h.kept b hb)).1
  refine h.put_of_subset holder (fun b hb => hmem.2 (.inl hb)) (fun b hb => ?_)
    (fun i hi => ⟨hi, rfl⟩) ⟨hargs, hid, hmem.2 (.inr rfl), hnew⟩
  rcases hmem.1 hb with hb | rfl
  · exact .inl hb
  · exact .inr ⟨hnew, id, args, hargs, rfl⟩

omit [DecidableEq R] in
theorem Racing.entered_of_found {id : ObjectId} {args : InsertBookingArgs} {conflict : Booking}
    (h : Racing s₀ holder s) (hrace : RaceFor hr s₀) (hargs : Races s₀ args)
    (hfound : findOverlappingBooking s.world.bookings o.pick (.hr args.hrUserId) args.startAt
      args.endAt (some id) = some conflict) :
    conflict ∈ s.world.bookings ∧ Entered s₀ conflict := by
  obtain ⟨r, hr₀⟩ := hargs
  obtain ⟨hmem, hmatch⟩ := findOne_eq_some hfound
  obtain ⟨hover, -⟩ := of_decide_eq_true hmatch
  refine ⟨hmem, (h.stored conflict hmem).resolve_left fun hold => ?_⟩
  rw [hrace.hrUserId_eq r args hr₀] at hover
  exact absurd (hrace.free r args hr₀ conflict hold hover) nofun

/-- A party stands down only when its booking is outranked, and keeps it otherwise. -/
theorem Racing.sweep {id : ObjectId} {args : InsertBookingArgs} {out : RequestOutcome}
    (h : Racing s₀ holder s) (hrace : RaceFor hr s₀) (hargs : Races s₀ args)
    (hid : Given holder s.world r id) (hmem : newBooking id args ∈ s.world.bookings)
    (hnew : IsNew s₀ id) (hexec : (RequestStage.sweep id args).exec cal o s.world = some (w, out)) :
    GoesOn s₀ s (s.put r w out.toProc) := by
  simp only [RequestStage.exec] at hexec
  split at hexec
  · rename_i conflict hfound
    split_ifs at hexec with hdown
    · cases hexec
      obtain ⟨hconflict, hentered⟩ := h.entered_of_found hrace hargs hfound
      exact h.put_of_eq rfl (List.Subset.refl _) ⟨hid, ⟨conflict, hconflict, hentered, hdown⟩, hnew⟩
    · cases hexec
      exact h.put_of_eq rfl (List.Subset.refl _) ⟨hid, hmem⟩
  · cases hexec
    exact h.put_of_eq rfl (List.Subset.refl _) ⟨hid, hmem⟩

theorem Racing.withdraw {id : ObjectId} (h : Racing s₀ holder s) (hid : Given holder s.world r id)
    (hout : Outranked s₀ s.world id) (hnew : IsNew s₀ id) :
    GoesOn s₀ s (s.put r
      { s.world with bookings := s.world.bookings.delete fun b => b.id = id }
      (.done (some (.error .slotTaken)))) := by
  have hmem : ∀ {b}, b ∈ s.world.bookings.delete (fun b => b.id = id) ↔
      b ∈ s.world.bookings ∧ b.id ≠ id := Collection.mem_delete_decide
  refine h.put holder (fun b hb => hmem.2 ⟨h.kept b hb, hnew b hb⟩)
    (fun b hb => .inl (hmem.1 hb).1) (fun r' hr => ⟨fun i hi => ⟨hi, rfl⟩, fun b hb hb' => ?_⟩)
    (fun b hb hentered => ?_) trivial
  · -- the identity was given to one party
    refine hmem.2 ⟨hb, fun he => hr ?_⟩
    exact Option.some.inj (hb'.2.symm.trans (he ▸ hid.2))
  · by_cases he : b.id = id
    · obtain ⟨b', hb', hentered', hlt⟩ := hout
      refine ⟨b', hmem.2 ⟨hb', fun he' => ?_⟩, hentered', .inr (he ▸ hlt)⟩
      exact String.lt_irrefl _ (he' ▸ hlt)
    · exact ⟨b, hmem.2 ⟨hb, he⟩, hentered, .inl rfl⟩

theorem Racing.calling {α : Type} {call : Service α} {next : α → RequestOutcome} {b : Booking}
    (h : Racing s₀ holder s) (hb : Given holder s.world r b.id ∧ b ∈ s.world.bookings)
    (hcall : s.world.SameStore (call s.world).2)
    (hnext : ∀ a w, Given holder w r b.id ∧ b ∈ w.bookings →
      Stands s₀ holder w r (next a).toProc) :
    GoesOn s₀ s
      (s.put r (call s.world).2 (RequestOutcome.andThen (call s.world).1 next).toProc) := by
  refine h.put_of_eq hcall.bookings (by rw [hcall.issuedIds]; exact List.Subset.refl _) ?_
  cases (call s.world).1 with
  | error e => trivial
  | ok a =>
    refine hnext a _ ?_
    rw [hcall.bookings, Given, hcall.issuedIds]
    exact hb

theorem Racing.request {stage : RequestStage} {out : RequestOutcome} (h : Racing s₀ holder s)
    (hrace : RaceFor hr s₀) (hp : s.procs r = .request stage)
    (hexec : stage.exec cal o s.world = some (w, out)) : GoesOn s₀ s (s.put r w out.toProc) := by
  have hheld := h.held r
  rw [hp] at hheld
  cases stage with
  | construct args =>
    simp only [RequestStage.exec] at hexec
    split_ifs at hexec with hfresh
    cases hexec
    exact h.construct hheld hfresh
  | insert id args =>
    simp only [RequestStage.exec] at hexec
    split at hexec
    · cases hexec
      exact h.put_of_eq rfl (List.Subset.refl _) trivial
    · rename_i c hins
      cases hexec
      exact h.insert hheld.1 hheld.2 hins
  | sweep id args => exact h.sweep hrace hheld.1 hheld.2.1 hheld.2.2.1 hheld.2.2.2 hexec
  | withdraw id =>
    cases hexec
    exact h.withdraw hheld.1 hheld.2.1 hheld.2.2
  | queueCreate b =>
    cases hexec
    exact h.calling hheld (addMeetingJob_within _ _ _) fun _ _ hb => hb
  | remindCreated b =>
    cases hexec
    exact h.calling hheld (scheduleReminder_within _ _ _) fun _ _ hb => hb
  | _ => exact hheld.elim

/-- **Every action of a race** lets it go on. -/
theorem racing_step {a : Action R} (h : Racing s₀ holder s) (hrace : RaceFor hr s₀)
    (ha : a.InRace) (hstep : (backend R cal).step s a = some s') : GoesOn s₀ s s' := by
  cases backend_step_cases hstep with
  | launch hidle hstart =>
    cases hstart with
    | request => exact ha.elim
    | retry => exact ha.elim
    | job => exact h.put_of_eq rfl (List.Subset.refl _) trivial
  | @exec r o w p hproc =>
    have hheld := h.held r
    generalize hp : s.procs r = q at hproc hheld
    cases hproc with
    | request hexec => exact h.request hrace hp hexec
    | @handler w₁ stage out origin hexec =>
      cases origin with
      | retry => exact hheld.elim
      | job job =>
        have hframe := HandlerStage.frame_of_exec hexec
        -- what goes on around the requests leaves the bookings and the issued ids alone
        have hsame := (Origin.job job).resume_sameStore w₁ out
        refine h.put_of_eq (hsame.bookings.trans hframe.bookings) ?_ ?_
        · rw [hsame.issuedIds]
          exact hframe.issuedIds
        · cases out with
          | next | finished => trivial
          | thrown e =>
            simp only [Origin.resume, Origin.fail]
            split_ifs <;> trivial
    | retryRefused | retryFound | retryAllowed | retryNotNeeded => exact hheld.elim
  | surroundings hsur =>
    have hsame : ∀ {w}, w.bookings = s.world.bookings → w.issuedIds = s.world.issuedIds →
        GoesOn s₀ s { s with world := w } := by
      intro w hbookings hissued
      have hsurvives : Survives s₀ s.world w := .of_subset fun b hb => hbookings ▸ hb
      have hpass : ∀ r, Passes holder holder s.world w r := fun r =>
        ⟨fun i hi => ⟨hissued ▸ hi, rfl⟩, fun b hb _ => hbookings ▸ hb⟩
      exact ⟨⟨holder, fun b hb => hbookings ▸ h.kept b hb, fun b hb => h.stored b (hbookings ▸ hb),
        fun r => (h.held r).pass (hpass r) hsurvives⟩, hsurvives⟩
    cases hsur with
    | advance | setProfiles | setAvailability | deleteMeeting => exact hsame rfl rfl
    | complete => exact ha.elim
    | deleteBooking => exact ha.elim

/-! ### Runs -/

omit [DecidableEq R] in
theorem racing_init (hrace : RaceFor hr s₀) : Racing s₀ (fun _ => none) s₀ where
  kept _ hb := hb
  stored _ hb := .inl hb
  held r := by
    rcases hrace.ready r with hr | ⟨args, hr⟩
    · rw [hr]
      trivial
    · rw [hr]
      exact ⟨r, hr⟩

theorem racing_run (hrace : RaceFor hr s₀) {as : List (Action R)} (has : ∀ a ∈ as, a.InRace)
    (hrun : (backend R cal).run s₀ as = some s) : ∃ holder, Racing s₀ holder s :=
  Machine.run_invariant (I := fun s => ∃ holder, Racing s₀ holder s)
    (fun _ _ _ hI ha hstep => hI.elim fun _ h => (racing_step h hrace ha hstep).1)
    ⟨_, racing_init hrace⟩ (Machine.meets_of_forall_mem has) hrun

/-- **A race has a winner.**  However the commands of any number of creations are interleaved, once
a booking is inserted some booking of the race stays stored, and at every time a booking whose
creation was answered is still stored as it was answered, and so is every earlier booking. -/
theorem race_has_winner (hrace : RaceFor hr s₀) {as bs : List (Action R)} {s₁ : Backend R}
    (has : ∀ a ∈ as ++ bs, a.InRace) (hrun₁ : (backend R cal).run s₀ as = some s₁)
    (hrun : (backend R cal).run s₁ bs = some s) :
    ((∃ b ∈ s₁.world.bookings, b ∉ s₀.world.bookings) → ∃ b ∈ s.world.bookings, Entered s₀ b) ∧
      (∀ r b, s.procs r = .done (some (.ok b)) → b ∈ s.world.bookings) ∧
      ∀ b ∈ s₀.world.bookings, b ∈ s.world.bookings := by
  obtain ⟨holder₁, h₁⟩ := racing_run hrace (fun a ha => has a (List.mem_append_left _ ha)) hrun₁
  obtain ⟨holder, h⟩ := racing_run hrace has (Machine.run_append.2 ⟨s₁, hrun₁, hrun⟩)
  refine ⟨?_, fun r b hr => ?_, h.kept⟩
  · rintro ⟨b, hb, hnew⟩
    -- the identities of the inserted bookings that are stored get no larger
    have hinv : (∃ holder, Racing s₀ holder s) ∧ ∃ b ∈ s.world.bookings, Entered s₀ b :=
      Machine.run_invariant
        (I := fun s => (∃ holder, Racing s₀ holder s) ∧ ∃ b ∈ s.world.bookings, Entered s₀ b)
        (fun s a s' hI ha hstep => by
          obtain ⟨⟨holder, h⟩, b, hb, hentered⟩ := hI
          have hgoes := racing_step h hrace ha hstep
          obtain ⟨b', hb', hentered', -⟩ := hgoes.2 b hb hentered
          exact ⟨hgoes.1, b', hb', hentered'⟩)
        ⟨⟨holder₁, h₁⟩, b, hb, (h₁.stored b hb).resolve_left hnew⟩
        (Machine.meets_of_forall_mem fun a ha => has a (List.mem_append_right _ ha)) hrun
    exact hinv.2
  · have hheld := h.held r
    rw [hr] at hheld
    exact hheld.2

end Race

/-- Two clients ask consultant 1 for overlapping hours. -/
def rivalArgs (r : Bool) : InsertBookingArgs :=
  let startAt := if r then addMinutes mondayNine 30 else mondayNine
  ⟨⟨if r then 3 else 2, .user⟩, mondayAvailability ⟨60, hour_mem_slotDurations⟩, 5, 1, startAt,
    addMinutes startAt 60, slotAt startAt, 5000, .usd⟩

/-- The checks of both have passed. -/
def rivals : Backend Bool := ⟨mondayWorld, fun r => .request (.construct (rivalArgs r))⟩

theorem rivals_raceFor : RaceFor 1 rivals where
  ready r := .inr ⟨_, rfl⟩
  hrUserId_eq r args h := by
    cases h
    rfl
  free _ _ _ b hb := absurd hb (Collection.not_mem_empty b)

/-- The larger identity is inserted first, and then the smaller one. -/
def rivalInserts : List (Action Bool) :=
  [.exec true (answering 2 2), .exec false (answering 1 1), .exec true (answering 2 2),
    .exec false (answering 1 1)]

/-- Both sweep; the larger identity stands down. -/
def rivalSweeps : List (Action Bool) :=
  List.replicate 2 (.exec true (answering 2 2)) ++ List.replicate 3 (.exec false (answering 1 1))

theorem rivalInserts_isSome :
    ((backend Bool utcCalendar).run rivals rivalInserts).isSome = true := by
  decide +kernel

/-- Both bookings are stored. -/
def rivalBookings : Backend Bool :=
  ((backend Bool utcCalendar).run rivals rivalInserts).get rivalInserts_isSome

theorem rivalSweeps_isSome :
    ((backend Bool utcCalendar).run rivalBookings rivalSweeps).isSome = true := by
  decide +kernel

/-- The creation with the smaller identity wins, although it was inserted last. -/
theorem race_has_winner_rivals :
    (∃ b ∈ (((backend Bool utcCalendar).run rivalBookings rivalSweeps).get
      rivalSweeps_isSome).world.bookings, Entered rivals b) ∧
      newBooking 1 (rivalArgs false) ∈ (((backend Bool utcCalendar).run rivalBookings
        rivalSweeps).get rivalSweeps_isSome).world.bookings := by
  have hwinner := race_has_winner rivals_raceFor (by decide)
    (Option.some_get rivalInserts_isSome).symm (Option.some_get rivalSweeps_isSome).symm
  have hinserted : newBooking 1 (rivalArgs false) ∈ rivalBookings.world.bookings :=
    (Collection.findById_eq_some (i := 1).1 (by decide +kernel)).1
  exact ⟨hwinner.1 ⟨_, hinserted, Collection.not_mem_empty _⟩, hwinner.2.1 false _ rfl⟩

end HrBooking
