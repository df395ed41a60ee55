import HrBooking.Backend.Refine
import Mathlib.Data.Fintype.Basic

/-!
# Cancellations under way

From the save that cancels a booking to the job that cancels its conference: the request audits,
then puts the job on the queue, then a party of the worker takes it.  In between the cancellation is
due.

* `CancelDue` : a cancellation of the booking's conference is due.
* `cancelled_step` : a booking that becomes cancelled has one due.
* `cancelDue_step` : it stays due until a party begins with it.
* `Uncancelled`, `uncancelled_step` : as long as the booking is active, there is none.
-/

namespace HrBooking

/-- The party has cancelled the booking and is going to queue the cancellation of the conference. -/
def Proc.queuesCancel (bookingId : ObjectId) : Proc → Bool
  | request (.audit _ booking _ _) | request (.queueCancel _ booking) => booking.id = bookingId
  | _ => false

/-- The cancellation of the conference is queued, or going to be. -/
def CancelDue {R : Type} (bookingId : ObjectId) (s : Backend R) : Prop :=
  (∃ j ∈ s.world.meetingQueue, j.name = .cancel ∧ j.bookingId = bookingId) ∨
    ∃ r, (s.procs r).queuesCancel bookingId = true

instance {R : Type} [Fintype R] (bookingId : ObjectId) (s : Backend R) :
    Decidable (CancelDue bookingId s) := inferInstanceAs (Decidable (_ ∨ _))

/-- The booking is stored and cancelled. -/
def Cancelled (bookingId : ObjectId) (w : World) : Prop :=
  ∃ b ∈ w.bookings, b.id = bookingId ∧ b.status = .cancelled

instance (bookingId : ObjectId) (w : World) : Decidable (Cancelled bookingId w) :=
  inferInstanceAs (Decidable (∃ b ∈ w.bookings, _))

/-- The booking, where it is stored, is active. -/
def StaysActive (bookingId : ObjectId) (w : World) : Prop :=
  ∀ b ∈ w.bookings, b.id = bookingId → b.isActive

instance (bookingId : ObjectId) (w : World) : Decidable (StaysActive bookingId w) :=
  inferInstanceAs (Decidable (∀ b ∈ w.bookings, _))

/-! ### The stages of a cancellation -/

section Stages

variable {cal : TimezoneName → Calendar} {o : Oracle} {w w' : World} {stage : RequestStage}
  {out : RequestOutcome} {actor : Actor} {booking : Booking} {role : CancelledBy}
  {reason : Option String}

theorem RequestStage.audit_of_exec
    (h : stage.exec cal o w = some (w', .next (.audit actor booking role reason))) :
    ∃ loaded now stored c, stage = .saveCancel actor loaded now role reason ∧
      booking = loaded.cancel now role reason ∧ stored ∈ w.bookings ∧ stored.id = loaded.id ∧
      w.bookings.update loaded.id (saveCancelled loaded booking) = some c ∧
      w' = { w with bookings := c } := by
  have hkind : stage.kind = .cancellation := ((kind_of_exec h).resolve_right nofun).symm
  cases stage with
  | saveCancel actor' loaded now role' reason' =>
    simp only [exec, calling] at h
    rcases saveBooking_cases (w := w) loaded (loaded.cancel now role' reason') with
      ⟨e, hw⟩ | ⟨stored, c, hmem, hid, hc, hw⟩
    · rw [hw] at h
      cases h
    · rw [hw] at h
      cases h
      exact ⟨loaded, now, stored, c, rfl, rfl, hmem, hid, hc, rfl⟩
  | readCancel | audit | queueCancel | forgetCancelled =>
    obtain ⟨_, -, hnext⟩ := andThen_eq_next (congrArg Prod.snd (Option.some.inj h))
    cases hnext
  | _ => cases hkind

theorem RequestStage.queueCancel_of_exec
    (h : stage.exec cal o w = some (w', .next (.queueCancel actor booking))) :
    ∃ role reason, stage = .audit actor booking role reason := by
  have hkind : stage.kind = .cancellation := ((kind_of_exec h).resolve_right nofun).symm
  cases stage with
  | audit actor' booking' role reason =>
    obtain ⟨_, -, hnext⟩ := andThen_eq_next (congrArg Prod.snd (Option.some.inj h))
    cases hnext
    exact ⟨role, reason, rfl⟩
  | readCancel | saveCancel | queueCancel | forgetCancelled =>
    obtain ⟨_, -, hnext⟩ := andThen_eq_next (congrArg Prod.snd (Option.some.inj h))
    cases hnext
  | _ => cases hkind

theorem RequestStage.exec_audit
    (h : (RequestStage.audit actor booking role reason).exec cal o w = some (w', out)) :
    out = .next (.queueCancel actor booking) := by
  simp only [exec, calling, recordCancellation] at h
  split_ifs at h <;> cases h <;> rfl

theorem RequestStage.exec_queueCancel (ho : o.meetingQueueFails = false)
    (h : (RequestStage.queueCancel actor booking).exec cal o w = some (w', out)) :
    w'.meetingQueue = w.meetingQueue ++ [⟨.cancel, booking.id, meetingAttempts⟩] := by
  simp only [exec, calling] at h
  rcases addMeetingJob_cases (o := o) (w := w) .cancel booking.id with ⟨hf, -⟩ | ⟨-, hw⟩
  · rw [ho] at hf
    cases hf
  · rw [hw] at h
    cases h
    rfl

end Stages

/-! ### Due cancellations -/

section Steps

variable {R : Type} [DecidableEq R] {cal : TimezoneName → Calendar} {s s' : Backend R}
  {a : Action R} {bookingId : ObjectId}

/-- The command does not queue a cancellation of the booking, or the queue takes it. -/
def Proc.QueuesCancel (bookingId : ObjectId) (o : Oracle) : Proc → Prop
  | .request (.queueCancel _ booking) => booking.id = bookingId → o.meetingQueueFails = false
  | _ => True

instance (bookingId : ObjectId) (o : Oracle) (p : Proc) :
    Decidable (p.QueuesCancel bookingId o) := by
  unfold Proc.QueuesCancel
  split <;> infer_instance

/-- The action is not the queueing of a cancellation of the booking that fails. -/
def QueuesCancel (bookingId : ObjectId) (s : Backend R) (a : Action R) : Prop :=
  a.OnExec fun r o => (s.procs r).QueuesCancel bookingId o

instance (bookingId : ObjectId) (s : Backend R) (a : Action R) :
    Decidable (QueuesCancel bookingId s a) := inferInstanceAs (Decidable (a.OnExec _))

/-- A booking becomes cancelled in the save of a request that then queues the cancellation of the
conference. -/
theorem cancelled_step (hstep : BackendStep cal s a s') (h : Cancelled bookingId s'.world) :
    Cancelled bookingId s.world ∨ CancelDue bookingId s' := by
  obtain ⟨b, hb, hid, hstatus⟩ := h
  cases hstep.storedStep b hb with
  | kept hold => exact .inl ⟨b, hold, hid, hstatus⟩
  | inserted => exact absurd hstatus (newBooking_isActive _ _).ne_cancelled
  -- a move writes no status
  | moved _ _ _ hactive => exact absurd hstatus hactive.ne_cancelled
  | completed => cases hstatus
  | @saved r o actor loaded now role reason d hp hd hdid =>
    cases hstep with
    | launch _ hstart => cases hstart
    | surroundings hsur => cases hsur
    | @exec _ _ w p hproc =>
      rw [hp] at hproc
      cases hproc with
      | request hexec =>
        simp only [RequestStage.exec, calling] at hexec
        rcases saveBooking_cases (w := s.world) loaded (loaded.cancel now role reason) with
          ⟨e, hw⟩ | ⟨_, c, _, _, -, hw⟩ <;> rw [hw] at hexec <;> cases hexec
        · exact .inl ⟨_, hb, hid, hstatus⟩
        · -- the save went through, so the request is about to audit
          refine .inr (.inr ⟨r, ?_⟩)
          rw [Backend.procs_put_self]
          exact decide_eq_true (hdid.symm.trans hid)

theorem ProcStep.queue_subset {o : Oracle} {w w' : World} {p p' : Proc}
    (h : ProcStep cal o w p w' p') : w.meetingQueue ⊆ w'.meetingQueue := by
  cases h with
  | request hexec =>
    rcases RequestStage.queue_of_exec hexec with hqueue | ⟨j, -, hqueue⟩
    · exact hqueue ▸ List.Subset.refl _
    · exact hqueue ▸ List.subset_append_left _ _
  | @handler w₁ stage out origin hexec =>
    rw [← (HandlerStage.frame_of_exec hexec).meetingQueue]
    rcases origin.resume_queue w₁ out with hqueue | ⟨j, -, hqueue⟩
    · exact hqueue ▸ List.Subset.refl _
    · exact hqueue ▸ List.subset_append_left _ _
  | retryRefused | retryFound | retryAllowed | retryNotNeeded => exact List.Subset.refl _

/-- **A cancellation that is due** stays due until a party begins with it, unless it cannot be
queued. -/
theorem cancelDue_step (hstep : BackendStep cal s a s') (hqueues : QueuesCancel bookingId s a)
    (h : CancelDue bookingId s) :
    CancelDue bookingId s' ∨ ∃ r, s'.roles bookingId r = .awaiting := by
  cases hstep with
  | @launch _ r p w hidle hstart =>
    rcases h with ⟨j, hj, hname, hid⟩ | ⟨r', hr'⟩
    · cases hstart with
      | request | retry => exact .inl (.inl ⟨j, hj, hname, hid⟩)
      | job _ index k hk =>
        obtain ⟨n, hn⟩ := List.mem_iff_getElem?.1 hj
        by_cases hni : n = index
        · -- this is the job that is taken
          subst hni
          obtain rfl : k = j := Option.some.inj (hk.symm.trans hn)
          refine .inr ⟨r, ?_⟩
          rw [Backend.roles_put_self, hname]
          exact if_pos hid
        · exact .inl (.inl ⟨j, List.mem_eraseIdx_iff_getElem?.2 ⟨n, hni, hn⟩, hname, hid⟩)
    · -- the party about to queue is not idle, so it is not the one that starts
      refine .inl (.inr ⟨r', ?_⟩)
      rwa [Backend.procs_put_of_ne]
      rintro rfl
      rw [hidle] at hr'
      cases hr'
  | @exec r o w p hproc =>
    refine .inl ?_
    rcases h with ⟨j, hj, hname, hid⟩ | ⟨r', hr'⟩
    · exact .inl ⟨j, hproc.queue_subset hj, hname, hid⟩
    · by_cases hrr : r' = r
      · subst hrr
        simp only [QueuesCancel, Action.OnExec, Proc.QueuesCancel] at hqueues
        generalize s.procs r' = q at hproc hr' hqueues
        -- it audits and is about to queue, or it queues: the job is the last of the queue
        cases hproc with
        | @request _ stage out hexec =>
          cases stage with
          | audit actor booking role reason =>
            refine .inr ⟨r', ?_⟩
            rw [Backend.procs_put_self, RequestStage.exec_audit hexec]
            exact hr'
          | queueCancel actor booking =>
            have hid := of_decide_eq_true hr'
            have hqueue := RequestStage.exec_queueCancel (hqueues hid) hexec
            refine .inl ⟨⟨.cancel, booking.id, meetingAttempts⟩, ?_, rfl, hid⟩
            show _ ∈ w.meetingQueue
            rw [hqueue]
            exact List.mem_append_right _ List.mem_cons_self
          | _ => cases hr'
        | handler | retryRefused | retryFound | retryAllowed | retryNotNeeded => cases hr'
      · exact .inr ⟨r', by rwa [Backend.procs_put_of_ne hrr]⟩
  | surroundings hsur =>
    refine .inl (h.imp ?_ id)
    cases hsur <;> exact id

/-- The party is not a job that cancels the conference. -/
def Proc.KeepsConference (bookingId : ObjectId) (p : Proc) : Prop :=
  ∀ j stage, p = .handler (.job j) stage → ¬ (j.name = .cancel ∧ j.bookingId = bookingId)

/-- A request queues the cancellation of a conference only after a save that has left the booking
cancelled. -/
theorem RequestStage.not_staysActive_of_exec {o : Oracle} {w w' : World} {stage : RequestStage}
    {out : RequestOutcome} (h : stage.exec cal o w = some (w', out))
    (hstage : (Proc.request stage).queuesCancel bookingId = false)
    (hsaves : (Proc.request stage).SavesActive) (hout : out.toProc.queuesCancel bookingId = true) :
    ¬ StaysActive bookingId w' := by
  cases out with
  | finished => cases hout
  | next stage' =>
    cases stage' with
    | audit actor booking role reason =>
      obtain ⟨loaded, now, stored, c, rfl, rfl, hmem, hid, hc, rfl⟩ := audit_of_exec h
      intro hactive
      have hsaved : saveCancelled loaded (loaded.cancel now role reason) stored ∈ c :=
        (Collection.mem_update hc).2 (.inr ⟨stored, hmem, hid, rfl⟩)
      exact not_isActive_saveCancelled hsaves
        (hactive _ hsaved (hid.trans (of_decide_eq_true hout)))
    | queueCancel actor booking =>
      obtain ⟨role, reason, rfl⟩ := queueCancel_of_exec h
      exact absurd (hstage.symm.trans hout) nofun
    | _ => cases hout

/-- The jobs a command puts on the queue cancel no conference, unless its party was about to or is
such a job itself. -/
theorem ProcStep.mem_queue {o : Oracle} {w w' : World} {p p' : Proc} {j : MeetingJob}
    (h : ProcStep cal o w p w' p') (hdue : p.queuesCancel bookingId = false)
    (hkeeps : p.KeepsConference bookingId) (hj : j ∈ w'.meetingQueue)
    (hcancel : j.name = .cancel ∧ j.bookingId = bookingId) : j ∈ w.meetingQueue := by
  cases h with
  | @request _ stage out hexec =>
    rcases RequestStage.queue_of_exec hexec with hqueue | ⟨j', hj', hqueue⟩
    · rwa [hqueue] at hj
    · rw [hqueue] at hj
      rcases List.mem_append.1 hj with hj | hj
      · exact hj
      · obtain rfl := List.mem_singleton.1 hj
        cases stage with
        | queueCancel actor booking =>
          cases hj'
          exact absurd hcancel.2 (of_decide_eq_false hdue)
        | queueCreate | queueSync =>
          cases hj'
          cases hcancel.1
        | _ => cases hj'
  | @handler w₁ stage out origin hexec =>
    have hframe := (HandlerStage.frame_of_exec hexec).meetingQueue
    rcases origin.resume_queue w₁ out with hqueue | ⟨j', rfl, hqueue⟩
    · rwa [hqueue, hframe] at hj
    · rw [hqueue, hframe] at hj
      rcases List.mem_append.1 hj with hj | hj
      · exact hj
      · -- a job that is queued again is the job of this party
        obtain rfl := List.mem_singleton.1 hj
        exact absurd hcancel (hkeeps j' stage rfl)
  | retryRefused | retryFound | retryAllowed | retryNotNeeded => exact hj

theorem ProcStep.keepsConference {o : Oracle} {w w' : World} {p p' : Proc}
    (h : ProcStep cal o w p w' p') (hkeeps : p.KeepsConference bookingId) :
    p'.KeepsConference bookingId := by
  cases h with
  | @request _ stage out =>
    cases out <;> exact fun _ _ => nofun
  | @handler w₁ stage out origin =>
    refine origin.resume_induction (P := fun p => p.KeepsConference bookingId)
      (fun next _ j stage' heq => ?_) (fun _ _ _ => nofun) fun _ _ _ _ => nofun
    cases heq
    exact hkeeps j stage rfl
  | retryRefused | retryFound | retryAllowed | retryNotNeeded => exact fun _ _ => nofun

/-- No cancellation of the booking's conference is due or running. -/
structure Uncancelled (bookingId : ObjectId) (s : Backend R) : Prop where
  due : ¬ CancelDue bookingId s
  jobs : ∀ r, (s.procs r).KeepsConference bookingId

theorem Uncancelled.put {r : R} {w : World} {p : Proc} (h : Uncancelled bookingId s)
    (hqueue : ∀ j ∈ w.meetingQueue, j.name = .cancel ∧ j.bookingId = bookingId →
      j ∈ s.world.meetingQueue)
    (hp : p.queuesCancel bookingId = false) (hkeeps : p.KeepsConference bookingId) :
    Uncancelled bookingId (s.put r w p) := by
  refine ⟨?_, fun r' => ?_⟩
  · rintro (⟨j, hj, hcancel⟩ | ⟨r', hr'⟩)
    · exact h.due (.inl ⟨j, hqueue j hj hcancel, hcancel⟩)
    · by_cases hrr : r' = r
      · subst hrr
        rw [Backend.procs_put_self, hp] at hr'
        cases hr'
      · rw [Backend.procs_put_of_ne hrr] at hr'
        exact h.due (.inr ⟨r', hr'⟩)
  · by_cases hrr : r' = r
    · subst hrr
      rwa [Backend.procs_put_self]
    · rw [Backend.procs_put_of_ne hrr]
      exact h.jobs r'

/-- **While the booking is active**, no cancellation of its conference comes under way. -/
theorem uncancelled_step (h : Uncancelled bookingId s) (hsaves : ∀ r, (s.procs r).SavesActive)
    (hstep : BackendStep cal s a s') (hactive : StaysActive bookingId s'.world) :
    Uncancelled bookingId s' := by
  cases hstep with
  | launch _ hstart =>
    cases hstart with
    | request _ request =>
      refine h.put (fun _ hj _ => hj) ?_ fun _ _ => nofun
      cases request <;> rfl
    | retry => exact h.put (fun _ hj _ => hj) rfl fun _ _ => nofun
    | job _ index j hj =>
      refine h.put (fun _ hj _ => List.mem_of_mem_eraseIdx hj) rfl fun j' stage heq hcancel => ?_
      cases heq
      exact h.due (.inl ⟨j, List.mem_of_getElem? hj, hcancel⟩)
  | @exec r o w p hproc =>
    have hdue : (s.procs r).queuesCancel bookingId = false := by
      by_contra hr
      exact h.due (.inr ⟨r, by simpa using hr⟩)
    refine h.put (fun j hj hcancel => hproc.mem_queue hdue (h.jobs r) hj hcancel) ?_
      (hproc.keepsConference (h.jobs r))
    have hsaves := hsaves r
    generalize s.procs r = q at hproc hdue hsaves
    -- a party that begins to cancel has just saved, and the booking would not be active
    by_contra hp
    cases hproc with
    | request hexec =>
      exact RequestStage.not_staysActive_of_exec hexec hdue hsaves (by simpa using hp) hactive
    | handler origin =>
      refine absurd ?_ hp
      exact origin.resume_induction (P := fun p => p.queuesCancel bookingId = false)
        (fun _ _ => rfl) (fun _ => rfl) fun _ _ => rfl
    | retryRefused | retryFound | retryAllowed | retryNotNeeded => exact hp rfl
  | surroundings hsur =>
    refine ⟨fun hd => h.due (hd.imp ?_ id), h.jobs⟩
    cases hsur <;> exact id

end Steps

end HrBooking
