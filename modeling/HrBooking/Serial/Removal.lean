import HrBooking.Meeting.Account
import HrBooking.Serial.Gate

/-!
# Whether a cancellation reaches every event

Serial runs on one booking: its conference is created, moved and asked for again while the provider
fails now and then, and at the end it is cancelled.  The cancellation asks to delete the event the
meeting record refers to, so it reaches every event ever created exactly when no reference was given
up before.  A reference is given up by a failed update, which marks the meeting as failed.

* `Tracked` : what holds of the account in every run.
* `conference_step` : an action keeps the account, or is an update that fails.
* `cancel_reaches_every_event_iff` : the cancellation reaches every event exactly when no update
  failed.
* `not_cancel_reaches_every_event` : after a failed update it does not.
-/

namespace HrBooking

/-- If the action calls a meeting service, it does so for the booking. -/
def SerialAction.Concerns (id : ObjectId) : SerialAction → Prop
  | retryBookingMeeting _ _ bookingId | runJob _ _ bookingId => bookingId = id
  | _ => True

instance (id : ObjectId) (a : SerialAction) : Decidable (a.Concerns id) := by
  cases a <;> unfold SerialAction.Concerns <;> infer_instance

/-- The action is the job of a reschedule, and its update fails. -/
def LosesEvent (id : ObjectId) (w : World) : SerialAction → Prop
  | .runJob o .sync bookingId => bookingId = id ∧ FailsToMove o id w
  | _ => False

instance (id : ObjectId) (w : World) (a : SerialAction) : Decidable (LosesEvent id w a) := by
  unfold LosesEvent FailsToMove
  split <;> infer_instance

/-- No conference was ever asked for. -/
structure Untouched (id : ObjectId) (w : World) : Prop where
  meeting : w.meetings.findByKey id = none
  created : (w.ledger id).created = []
  removed_issued : ∀ e ∈ (w.ledger id).removed, e ∈ w.issuedEvents

/-- What holds of the account in every run, failed updates or not. -/
structure Tracked (id : ObjectId) (w : World) : Prop where
  created_issued : ∀ e ∈ (w.ledger id).created, e ∈ w.issuedEvents
  removed_issued : ∀ e ∈ (w.ledger id).removed, e ∈ w.issuedEvents
  consistent : (w.ledger id).Consistent
  refers : RefersSupported id w

section Step

variable {cal : TimezoneName → Calendar} {id : ObjectId} {w w' : World} {a : SerialAction}

/-- Stored bookings stay stored, with their provider. -/
def KeepsProviders (c c' : Collection Booking) : Prop :=
  ∀ b ∈ c, ∃ b' ∈ c', b'.id = b.id ∧ b'.meetingProvider = b.meetingProvider

theorem KeepsProviders.of_eq {c c' : Collection Booking} (h : c' = c) : KeepsProviders c c' :=
  fun b hb => ⟨b, h ▸ hb, rfl, rfl⟩

theorem KeepsProviders.of_update {c c' : Collection Booking} {i : ObjectId} {f : Booking → Booking}
    (h : c.update i f = some c')
    (hf : ∀ b, (f b).id = b.id ∧ (f b).meetingProvider = b.meetingProvider) :
    KeepsProviders c c' := by
  intro b hb
  by_cases hid : b.id = i
  · exact ⟨f b, (Collection.mem_update h).2 (.inr ⟨b, hb, hid, rfl⟩), hf b⟩
  · exact ⟨b, (Collection.mem_update h).2 (.inl ⟨hb, hid⟩), rfl, rfl⟩

theorem completeBooking_keepsProviders (now : ℤ) (i : ObjectId) (c : Collection Booking) :
    KeepsProviders c (completeBooking now i c) := by
  unfold completeBooking
  cases h : c.update i fun b => if isDue now b then b.complete else b with
  | none => exact .of_eq rfl
  | some c' =>
    refine .of_update h fun b => ?_
    split_ifs <;> exact ⟨rfl, rfl⟩

theorem lifecycleSweep_keepsProviders (w : World) :
    KeepsProviders w.bookings (lifecycleSweep w).bookings := by
  unfold lifecycleSweep
  simp only
  induction w.bookings.docs.map Booking.id generalizing w with
  | nil => exact .of_eq rfl
  | cons i ids ih =>
    intro b hb
    obtain ⟨b₁, hb₁, hid₁, hp₁⟩ := completeBooking_keepsProviders w.now i w.bookings b hb
    obtain ⟨b₂, hb₂, hid₂, hp₂⟩ :=
      ih { w with bookings := completeBooking w.now i w.bookings } b₁ hb₁
    exact ⟨b₂, hb₂, hid₂.trans hid₁, hp₂.trans hp₁⟩

theorem BookingStep.keepsProviders (h : BookingStep w w') :
    KeepsProviders w.bookings w'.bookings := by
  cases h with
  | surroundings => exact .of_eq rfl
  | sweep => exact lifecycleSweep_keepsProviders w
  | call hwrite hsame =>
    rw [hsame.bookings]
    cases hwrite with
    | none | refused => exact .of_eq rfl
    | insert _ _ _ _ _ _ hins =>
      exact fun b hb => ⟨b, (Collection.mem_insert hins).2 (.inl hb), rfl, rfl⟩
    | save _ _ _ _ _ _ hupd => exact .of_update hupd fun _ => ⟨rfl, rfl⟩
    | move _ _ _ _ _ _ hupd => exact .of_update hupd fun _ => ⟨rfl, rfl⟩

theorem BookingStep.accounted (h : BookingStep w w') : Accounted id w w' := by
  cases h with
  | surroundings | sweep => exact .same rfl rfl
  | call hwrite hsame =>
    refine .same ?_ ?_
    · rw [World.ledger, hsame.meetings, hsame.providerLog]
      cases hwrite <;> rfl
    · rw [hsame.issuedEvents]
      cases hwrite <;> rfl

/-! ### One action -/

theorem Accounted.step (h : Accounted id w w') (ht : Tracked id w) :
    Ledger.Step (w.ledger id) (w'.ledger id) := by
  cases h with
  | same hledger =>
    rw [hledger]
    exact .stay
  | create e hnone hnew hledger =>
    rw [hledger]
    exact .create e (fun he => hnew (ht.created_issued e he))
      (fun he => hnew (ht.removed_issued e he)) hnone
  | remove e hcurrent hledger =>
    rw [hledger]
    exact .remove e hcurrent

theorem RefersSupported.of_keepsProviders (h : RefersSupported id w)
    (hk : KeepsProviders w.bookings w'.bookings)
    (hcurrent : (w'.ledger id).current.isSome → (w.ledger id).current.isSome) :
    RefersSupported id w' := by
  intro hsome
  obtain ⟨b, hb, hid, hsup⟩ := h (hcurrent hsome)
  obtain ⟨b', hb', hid', hp⟩ := hk b hb
  exact ⟨b', hb', hid'.trans hid, hp ▸ hsup⟩

theorem Accounted.tracked (h : Accounted id w w') (ht : Tracked id w)
    (hk : KeepsProviders w.bookings w'.bookings) : Tracked id w' := by
  have hconsistent := (h.step ht).consistent ht.consistent
  cases h with
  | same hledger hissued =>
    have hrefers : RefersSupported id w' :=
      ht.refers.of_keepsProviders hk (by rw [hledger]; exact fun h => h)
    refine ⟨?_, ?_, hconsistent, hrefers⟩ <;> rw [hledger, hissued]
    · exact ht.created_issued
    · exact ht.removed_issued
  -- the booking that has the event made is one whose provider is supported
  | create e _ _ hledger hissued hsup =>
    refine ⟨?_, ?_, hconsistent, ?_⟩
    · rw [hledger, hissued]
      intro e' he'
      rcases List.mem_append.1 he' with he' | he'
      · exact List.mem_cons_of_mem _ (ht.created_issued e' he')
      · rw [List.mem_singleton.1 he']
        exact List.mem_cons_self
    · rw [hledger, hissued]
      exact fun e' he' => List.mem_cons_of_mem _ (ht.removed_issued e' he')
    · obtain ⟨b, hb, hid, hsup⟩ := hsup
      obtain ⟨b', hb', hid', hp⟩ := hk b hb
      exact fun _ => ⟨b', hb', hid'.trans hid, hp ▸ hsup⟩
  | remove e hcurrent hledger hissued =>
    refine ⟨?_, ?_, hconsistent, ?_⟩
    · rw [hledger, hissued]
      exact ht.created_issued
    · rw [hledger, hissued]
      intro e' he'
      rcases List.mem_append.1 he' with he' | he'
      · exact ht.removed_issued e' he'
      · rw [List.mem_singleton.1 he']
        exact ht.created_issued e (ht.consistent e hcurrent).1
    · intro hsome
      rw [hledger] at hsome
      cases hsome

theorem Tracked.of_drop (ht : Tracked id w) (hledger : w'.ledger id = (w.ledger id).drop)
    (hissued : w'.issuedEvents = w.issuedEvents) : Tracked id w' := by
  refine ⟨?_, ?_, ?_, ?_⟩
  · rw [hledger, hissued]
    exact ht.created_issued
  · rw [hledger, hissued]
    exact ht.removed_issued
  · rw [hledger]
    exact Ledger.consistent_drop _
  · intro hsome
    rw [hledger] at hsome
    cases hsome

/-- **One action.**  It keeps the account, or it is an update that fails and gives up the reference
to an event. -/
theorem conference_step (ha : a.Concerns id) (ht : Tracked id w)
    (hstep : (serial cal).step w a = some w') :
    Tracked id w' ∧
      (¬ LosesEvent id w a → Ledger.Step (w.ledger id) (w'.ledger id)) ∧
      (LosesEvent id w a →
        w'.ledger id = (w.ledger id).drop ∧ ∃ e, (w.ledger id).current = some e) := by
  -- every call but a move that fails accounts for what it does to the event
  have hkeep : Accounted id w w' → KeepsProviders w.bookings w'.bookings → ¬ LosesEvent id w a →
      Tracked id w' ∧ (¬ LosesEvent id w a → Ledger.Step (w.ledger id) (w'.ledger id)) ∧
        (LosesEvent id w a →
          w'.ledger id = (w.ledger id).drop ∧ ∃ e, (w.ledger id).current = some e) :=
    fun h hk hloses => ⟨h.tracked ht hk, fun _ => h.step ht, fun h' => absurd h' hloses⟩
  cases hcall : a.isMeetingCall with
  | false =>
    have hbooking := booking_step_cases hcall hstep
    refine hkeep hbooking.accounted hbooking.keepsProviders fun hloses => ?_
    cases a <;> first | exact hloses | cases hcall
  | true =>
    cases a with
    | retryBookingMeeting o actor bookingId =>
      obtain ⟨ho, rfl⟩ := Service.after_eq_some.1 hstep
      obtain rfl : bookingId = id := ha
      exact hkeep (retryBookingMeeting_accounted ho.2 actor)
        (.of_eq (retryBookingMeeting_writes actor _ w).frame.bookings) fun hloses => hloses
    | runJob o name bookingId =>
      obtain ⟨ho, rfl⟩ := Service.after_eq_some.1 hstep
      obtain rfl : bookingId = id := ha
      have hk : KeepsProviders w.bookings (name.handle o bookingId w).2.bookings :=
        .of_eq (name.handle_writes bookingId w).frame.bookings
      cases name with
      | create => exact hkeep (ensureMeetingForBooking_accounted ho.2) hk fun hloses => hloses
      | cancel =>
        exact hkeep (cancelMeetingForBooking_accounted ht.refers).1 hk fun hloses => hloses
      | sync =>
        obtain ⟨hkeeps, hdrops⟩ := syncMeetingTimes_cases ho.2 ht.refers
        -- a failed move clears the reference and leaves the event at the provider
        by_cases hfails : FailsToMove o bookingId w
        · obtain ⟨hledger, hissued⟩ := hdrops hfails
          refine ⟨ht.of_drop hledger hissued, fun h => absurd ⟨rfl, hfails⟩ h, fun _ => ?_⟩
          obtain ⟨-, m, hm, hmove⟩ := hfails
          obtain ⟨target, htarget⟩ := Option.isSome_iff_exists.1 hmove
          refine ⟨hledger, target.1, ?_⟩
          simp only [World.ledger, Option.mem_def.1 hm, Option.bind_some,
            Meeting.current_of_movable htarget]
        · exact hkeep (hkeeps hfails) hk fun hloses => hfails hloses.2
    | _ => cases hcall

end Step

/-! ### Runs -/

section Run

variable {cal : TimezoneName → Calendar} {id : ObjectId} {w₀ w : World} {as : List SerialAction}

theorem Untouched.tracked (h : Untouched id w₀) : Tracked id w₀ := by
  have hnone : (w₀.ledger id).current = none := by simp only [World.ledger, h.meeting]; rfl
  refine ⟨?_, h.removed_issued, ?_, ?_⟩
  · rw [h.created]
    exact fun e he => absurd he List.not_mem_nil
  · intro e he
    rw [hnone] at he
    cases he
  · intro hsome
    rw [hnone] at hsome
    cases hsome

theorem tracked_run (ht : Tracked id w₀) (ha : ∀ a ∈ as, a.Concerns id)
    (hrun : (serial cal).run w₀ as = some w) : Tracked id w :=
  Machine.run_invariant (fun _ _ _ ht ha hstep => (conference_step ha ht hstep).1) ht
    (Machine.meets_of_forall_mem ha) hrun

theorem complete_run (ht : Tracked id w₀) (hc : (w₀.ledger id).Complete)
    (ha : ∀ a ∈ as, a.Concerns id)
    (hmeets : (serial cal).Meets (fun w a => ¬ LosesEvent id w a) w₀ as)
    (hrun : (serial cal).run w₀ as = some w) : (w.ledger id).Complete := by
  have hinv : Tracked id w ∧ (w.ledger id).Complete :=
    Machine.run_invariant (I := fun w => Tracked id w ∧ (w.ledger id).Complete)
      (fun _ _ _ hI hG hstep =>
        have hconf := conference_step hG.1 hI.1 hstep
        ⟨hconf.1, (hconf.2.1 hG.2).complete hI.2⟩)
      ⟨ht, hc⟩ ((Machine.meets_of_forall_mem ha).and hmeets) hrun
  exact hinv.2

theorem lost_run {e : EventId} (ht : Tracked id w₀) (hl : (w₀.ledger id).Lost e)
    (ha : ∀ a ∈ as, a.Concerns id) (hrun : (serial cal).run w₀ as = some w) :
    (w.ledger id).Lost e := by
  have hinv : Tracked id w ∧ (w.ledger id).Lost e := by
    refine Machine.run_invariant (I := fun w => Tracked id w ∧ (w.ledger id).Lost e)
      (fun w a w' hI hG hstep => ?_) ⟨ht, hl⟩ (Machine.meets_of_forall_mem ha) hrun
    obtain ⟨ht', hkeeps, hloses⟩ := conference_step hG hI.1 hstep
    refine ⟨ht', ?_⟩
    by_cases h : LosesEvent id w a
    · rw [(hloses h).1]
      exact hI.2.drop
    · exact (hkeeps h).lost hI.2
  exact hinv.2

/-- **A cancellation reaches every event exactly when no update has failed.**  After any serial run
on a booking, the deletion of every event ever created for it has been asked for once its conference
is cancelled, if and only if no job of a reschedule met a provider failure while the meeting was
created. -/
theorem cancel_reaches_every_event_iff {o : Oracle} (h : Untouched id w₀)
    (ha : ∀ a ∈ as, a.Concerns id) (hrun : (serial cal).run w₀ as = some w) :
    (∀ e ∈ ((cancelMeetingForBooking o id w).2.ledger id).created,
      e ∈ ((cancelMeetingForBooking o id w).2.ledger id).removed) ↔
      (serial cal).Meets (fun w a => ¬ LosesEvent id w a) w₀ as := by
  have ht := tracked_run h.tracked ha hrun
  obtain ⟨haccounted, hnone⟩ := cancelMeetingForBooking_accounted (o := o) ht.refers
  have hcancel := haccounted.step ht
  rw [← Ledger.complete_iff hnone]
  constructor
  · intro hcomplete
    rw [Machine.meets_iff_forall_prefix]
    rintro pre a post t rfl hpre hloses
    -- the update that fails loses its event, and a lost event is never deleted
    obtain ⟨t', hpre', hrest⟩ := Machine.run_append.1 hrun
    obtain rfl : t = t' := Option.some.inj (hpre.symm.trans hpre')
    obtain ⟨t₁, hstep, hpost⟩ := Machine.run_cons.1 hrest
    have htt := tracked_run h.tracked (fun b hb => ha b (List.mem_append_left _ hb)) hpre
    obtain ⟨ht₁, -, hdrops⟩ := conference_step (ha a (by simp)) htt hstep
    obtain ⟨hledger, e, he⟩ := hdrops hloses
    have hlost : (t₁.ledger id).Lost e := by
      rw [hledger]
      exact htt.consistent.lost_drop he
    obtain ⟨hcreated, hremoved, hcurrent⟩ :=
      hcancel.lost (lost_run ht₁ hlost (fun b hb => ha b (by simp [hb])) hpost)
    exact (hcomplete e hcreated).elim hremoved hcurrent
  · intro hmeets
    have hnothing : (w₀.ledger id).Complete := by
      intro e he
      rw [h.created] at he
      cases he
    exact hcancel.complete (complete_run h.tracked hnothing ha hmeets hrun)

end Run

/-! ### Runs on the Monday schedule -/

/-- Surroundings in which the provider does not answer. -/
def failing (newId : ObjectId) (newEvent : EventId) : Oracle :=
  { answering newId newEvent with providerError := some "unavailable" }

/-- Client 2 books nine o'clock, the conference is created, the booking is moved to ten, and the
job of the reschedule runs. -/
def conferenceRun (moving : Oracle) : List SerialAction :=
  [.createBooking (answering 1 1) ⟨2, .user⟩ (slotAt mondayNine),
    .runJob (answering 2 1) .create 1,
    .rescheduleBooking (answering 3 2) ⟨2, .user⟩ 1 ⟨addMinutes mondayNine 60, none⟩,
    .runJob moving .sync 1]

theorem conferenceRun_isSome :
    ((serial utcCalendar).run mondayWorld (conferenceRun (answering 4 2))).isSome = true := by
  decide +kernel

/-- The conference was created and moved, and its one event is deleted. -/
theorem cancel_reaches_every_event_moved :
    let w := ((serial utcCalendar).run mondayWorld (conferenceRun (answering 4 2))).get
      conferenceRun_isSome
    ∀ e ∈ ((cancelMeetingForBooking (answering 5 2) 1 w).2.ledger 1).created,
      e ∈ ((cancelMeetingForBooking (answering 5 2) 1 w).2.ledger 1).removed :=
  (cancel_reaches_every_event_iff (o := answering 5 2)
    (⟨rfl, rfl, fun e he => absurd he List.not_mem_nil⟩ : Untouched 1 mondayWorld) (by decide)
    (Option.some_get _).symm).2 (by decide +kernel)

/-- The update fails, and a participant asks for the conference again. -/
def retriedRun : List SerialAction :=
  conferenceRun (failing 4 2) ++ [.retryBookingMeeting (answering 5 2) ⟨2, .user⟩ 1]

theorem retriedRun_isSome : ((serial utcCalendar).run mondayWorld retriedRun).isSome = true := by
  decide +kernel

/-- **A cancellation can miss an event.**  After the failed update the retry creates a second event,
and the first one is never deleted. -/
theorem not_cancel_reaches_every_event :
    ¬ ∀ (cal : TimezoneName → Calendar) (id : ObjectId) (w₀ w : World) (as : List SerialAction)
      (o : Oracle), Untouched id w₀ → (∀ a ∈ as, a.Concerns id) →
      (serial cal).run w₀ as = some w →
      ∀ e ∈ ((cancelMeetingForBooking o id w).2.ledger id).created,
        e ∈ ((cancelMeetingForBooking o id w).2.ledger id).removed := by
  intro h
  have hremoved := h utcCalendar 1 mondayWorld _ retriedRun (answering 6 3)
    ⟨rfl, rfl, fun e he => absurd he List.not_mem_nil⟩ (by decide)
    (Option.some_get retriedRun_isSome).symm
  exact absurd hremoved (by decide +kernel)

end HrBooking
