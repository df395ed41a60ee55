import HrBooking.Backend.System
import HrBooking.Serial.System
import Mathlib.Logic.Relation

/-!
# Calls that run alone

A request or a handler whose commands are issued one after another, in the same surroundings and
with nothing in between, ends as the service call does, with the same answer and in the same state.
So the machine whose steps are commands contains the one whose steps are calls.

* `RequestOutcome.EndsAs`, `HandlerOutcome.EndsAs` : the commands that are left end as a call does.
* `Request.endsAs`, `MeetingJobName.endsAs` : the commands of a request, and of a job.
* `Proc.Reaches` : what a party gets to with nothing in between.
* `request_alone`, `retry_alone`, `job_alone` : the same as runs of the backend.
* `serial_run_backend` : every serial run without jobs is a run of the backend.
-/

namespace HrBooking

namespace Service

variable {α β γ : Type}

/-- An answer that was found without the state. -/
def lift (x : Except AppError α) : Service α := fun w => (x, w)

theorem check_bind (f : World → Except AppError α) (k : α → Service β) (w : World) :
    (check f >>= k) w = (lift (f w) >>= k) w := rfl

theorem lift_bind (x : Except AppError α) (y : α → Except AppError β) (k : β → Service γ)
    (w : World) : (lift (x >>= y) >>= k) w = (lift x >>= fun a => lift (y a) >>= k) w := by
  cases x <;> rfl

theorem lift_pure (a : α) (k : α → Service β) (w : World) : (lift (pure a) >>= k) w = k a w := rfl

theorem bind_assoc (x : Service α) (f : α → Service β) (g : β → Service γ) (w : World) :
    ((x >>= f) >>= g) w = (x >>= fun a => f a >>= g) w := by
  simp only [bind_apply]
  rcases x w with ⟨_ | a, w'⟩ <;> rfl

end Service

/-! ### Requests -/

namespace RequestOutcome

/-- A request issues a command. -/
def Goes (cal : TimezoneName → Calendar) (o : Oracle) (x y : World × RequestOutcome) : Prop :=
  ∃ stage, x.2 = .next stage ∧ stage.exec cal o x.1 = some y

/-- The commands that are left of a request end as a call does. -/
def EndsAs (cal : TimezoneName → Calendar) (o : Oracle) (w : World) (out : RequestOutcome)
    (r : Except AppError Booking × World) : Prop :=
  Relation.ReflTransGen (Goes cal o) (w, out) (r.2, finished r.1)

namespace EndsAs

variable {cal : TimezoneName → Calendar} {o : Oracle} {w : World} {stage : RequestStage}
  {r : Except AppError Booking × World} {α : Type}

theorem done (a : Except AppError Booking) : (finished a).EndsAs cal o w (a, w) :=
  Relation.ReflTransGen.refl

theorem step {v : World} {x : RequestOutcome} (h : stage.exec cal o w = some (v, x))
    (hout : x.EndsAs cal o v r) : (next stage).EndsAs cal o w r :=
  .head ⟨stage, rfl, h⟩ hout

theorem andThen {x : Except AppError α} {f : α → RequestOutcome} {k : α → Service Booking}
    (hk : ∀ a, x = .ok a → (f a).EndsAs cal o w (k a w)) :
    (RequestOutcome.andThen x f).EndsAs cal o w ((Service.lift x >>= k) w) := by
  cases x with
  | error e => exact .done _
  | ok a => exact hk a rfl

theorem reading {x : Except AppError α} {f : α → RequestOutcome} {k : α → Service Booking}
    (h : stage.exec cal o w = HrBooking.reading w (.andThen x f))
    (hk : ∀ a, x = .ok a → (f a).EndsAs cal o w (k a w)) :
    (next stage).EndsAs cal o w ((Service.lift x >>= k) w) :=
  .step h (.andThen hk)

theorem calling {call : Service α} {f : α → RequestOutcome} {k : α → Service Booking}
    (h : stage.exec cal o w = HrBooking.calling call w f)
    (hk : ∀ a w', call w = (.ok a, w') → (f a).EndsAs cal o w' (k a w')) :
    (next stage).EndsAs cal o w ((call >>= k) w) := by
  refine .step h ?_
  rw [Service.bind_apply]
  rcases hcall : call w with ⟨_ | a, w'⟩
  · exact .done _
  · exact hk a w' hcall

end EndsAs

end RequestOutcome

section Requests

open RequestOutcome

variable {cal : TimezoneName → Calendar} {o : Oracle} {w : World}

theorem insertBooking_endsAs (hnew : o.newId ∉ w.issuedIds) (args : InsertBookingArgs) :
    (next (.construct args)).EndsAs cal o w
      ((insertBooking o args >>= fun booking =>
        dispatchBookingCreated o booking >>= fun _ => pure booking) w) := by
  have hdispatch : ∀ (booking : Booking) (w : World), (next (.queueCreate booking)).EndsAs cal o w
      ((dispatchBookingCreated o booking >>= fun _ => pure booking) w) := by
    intro booking w
    rw [dispatchBookingCreated, Service.bind_assoc]
    exact .calling rfl fun _ _ _ => .calling rfl fun _ _ _ => .done _
  refine .step (if_neg hnew) ?_
  rw [Service.bind_apply, insertBooking]
  simp only
  cases hins : w.bookings.insert (newBooking o.newId args) with
  | none =>
    simp only
    refine .step ?_ (.done _)
    simp only [RequestStage.exec, hins]
    rfl
  | some c =>
    simp only
    refine .step (v := { w with issuedIds := o.newId :: w.issuedIds, bookings := c })
      (x := next (.sweep o.newId args)) (by simp only [RequestStage.exec, hins]) ?_
    -- the sweep looks over the collection the insert has left
    have hid : (newBooking o.newId args).id = o.newId := rfl
    simp only [hid]
    cases hfound : findOverlappingBooking c o.pick (.hr args.hrUserId) args.startAt args.endAt
        (some o.newId) with
    | none =>
      refine .step (x := next (.queueCreate (newBooking o.newId args))) ?_ (hdispatch _ _)
      simp only [RequestStage.exec, hfound]
      rfl
    | some conflict =>
      by_cases hdown : standsDown conflict (newBooking o.newId args)
      · simp only [if_pos hdown]
        refine .step (x := next (.withdraw o.newId))
          (v := { w with issuedIds := o.newId :: w.issuedIds, bookings := c }) ?_
          (.step rfl (.done _))
        simp only [RequestStage.exec, hfound, if_pos hdown]
        rfl
      · simp only [if_neg hdown]
        refine .step (x := next (.queueCreate (newBooking o.newId args))) ?_ (hdispatch _ _)
        simp only [RequestStage.exec, hfound, if_neg hdown]
        rfl

/-- **A creation that runs alone** is `createBooking`. -/
theorem createBooking_endsAs (hnew : o.newId ∉ w.issuedIds) (actor : Actor)
    (input : CreateBookingInput) :
    (next (.readProfile actor input)).EndsAs cal o w (createBooking cal o actor input w) := by
  rw [createBooking, Service.check_bind, createArgs, Service.lift_bind]
  refine .reading rfl fun profile _ => ?_
  simp only
  rw [Service.lift_bind]
  refine .reading rfl fun args hargs => ?_
  obtain ⟨-, rfl⟩ := offeredArgs_eq_ok.1 hargs
  rw [Service.lift_bind]
  refine .reading rfl fun _ _ => ?_
  rw [Service.lift_bind]
  refine .reading rfl fun _ _ => ?_
  exact insertBooking_endsAs hnew _

/-- **A cancellation that runs alone** is `cancelBooking`. -/
theorem cancelBooking_endsAs (actor : Actor) (bookingId : ObjectId) (reason : Option String) :
    (next (.readCancel actor bookingId reason)).EndsAs cal o w
      (cancelBooking o actor bookingId reason w) := by
  rw [cancelBooking, Service.check_bind]
  refine .reading rfl ?_
  rintro ⟨booking, role, now⟩ -
  refine .calling rfl fun _ w₁ _ => .calling rfl fun _ w₂ _ => ?_
  rw [dispatchBookingCancelled, Service.bind_assoc]
  exact .calling rfl fun _ _ _ => .calling rfl fun _ _ _ => .step rfl (.done _)

/-- **A reschedule that runs alone** is `rescheduleBooking`. -/
theorem rescheduleBooking_endsAs (actor : Actor) (bookingId : ObjectId)
    (input : RescheduleBookingInput) :
    (next (.readMove actor bookingId input)).EndsAs cal o w
      (rescheduleBooking cal o actor bookingId input w) := by
  rw [rescheduleBooking, Service.check_bind, rescheduleArgs, Service.lift_bind]
  refine .reading rfl fun booking _ => ?_
  rw [Service.lift_bind]
  refine .andThen fun _ _ => ?_
  simp only
  rw [Service.lift_bind]
  refine .reading rfl fun args hargs => ?_
  obtain ⟨-, rfl⟩ := moveArgs_eq_ok.1 hargs
  rw [Service.lift_bind]
  refine .reading rfl fun _ _ => ?_
  rw [Service.lift_bind]
  refine .reading rfl fun _ _ => ?_
  rw [Service.lift_pure]
  refine .calling rfl fun moved w₁ _ => ?_
  rw [dispatchBookingRescheduled, Service.bind_assoc]
  refine .calling rfl fun _ w₂ _ => ?_
  rw [Service.bind_assoc]
  exact .calling rfl fun _ _ _ => .calling rfl fun _ _ _ => .step rfl (.done _)

/-- The service call a request is. -/
def Request.call (cal : TimezoneName → Calendar) (o : Oracle) : Request → Service Booking
  | create actor input => createBooking cal o actor input
  | cancel actor bookingId reason => cancelBooking o actor bookingId reason
  | reschedule actor bookingId input => rescheduleBooking cal o actor bookingId input

/-- **A request that runs alone** is its service call. -/
theorem Request.endsAs (request : Request) (cal : TimezoneName → Calendar)
    (hnew : o.newId ∉ w.issuedIds) :
    (next request.start).EndsAs cal o w (request.call cal o w) := by
  cases request with
  | create actor input => exact createBooking_endsAs hnew actor input
  | cancel actor bookingId reason => exact cancelBooking_endsAs actor bookingId reason
  | reschedule actor bookingId input => exact rescheduleBooking_endsAs actor bookingId input

end Requests

/-! ### Handlers -/

namespace HandlerOutcome

/-- A handler issues a command. -/
def Goes (o : Oracle) (x y : World × HandlerOutcome) : Prop :=
  ∃ stage, x.2 = .next stage ∧ stage.exec o x.1 = some y

/-- How a handler ends when the call it stands for answers or throws. -/
def ofAnswer {α : Type} : Except AppError α → HandlerOutcome
  | .ok _ => finished
  | .error e => thrown e

/-- The commands that are left of a handler end as a call does. -/
def EndsAs {α : Type} (o : Oracle) (w : World) (out : HandlerOutcome)
    (r : Except AppError α × World) : Prop :=
  Relation.ReflTransGen (Goes o) (w, out) (r.2, ofAnswer r.1)

namespace EndsAs

variable {o : Oracle} {w : World} {stage : HandlerStage} {α β : Type}
  {r : Except AppError α × World}

theorem done (a : α) : finished.EndsAs o w (.ok a, w) := Relation.ReflTransGen.refl

theorem step {v : World} {x : HandlerOutcome} (h : stage.exec o w = some (v, x))
    (hout : x.EndsAs o v r) : (next stage).EndsAs o w r :=
  .head ⟨stage, rfl, h⟩ hout

theorem saving {held : HeldMeeting} {onSaved : HandlerOutcome} {k : Unit → Service β}
    (h : stage.exec o w = HrBooking.saving held w onSaved thrown)
    (hk : ∀ w', saveMeeting held w = (.ok (), w') → onSaved.EndsAs o w' (k () w')) :
    (next stage).EndsAs o w ((saveMeeting held >>= k) w) := by
  rw [Service.bind_apply]
  rcases hsave : saveMeeting held w with ⟨e | _, w'⟩
  · refine .step (x := thrown e) ?_ Relation.ReflTransGen.refl
    simp only [h, HrBooking.saving, hsave]
  · refine .step (x := onSaved) ?_ (hk w' hsave)
    simp only [h, HrBooking.saving, hsave]

end EndsAs

end HandlerOutcome

section Handlers

open HandlerOutcome

variable {o : Oracle} {w : World}

theorem recordFailure_endsAs (held : HeldMeeting) (message : String) :
    (next (.saveFailed held message)).EndsAs o w (recordFailure held message w) :=
  .saving rfl fun _ _ => .done _

theorem saveOrRecord_endsAs (held : HeldMeeting) (stage : MeetingDetails → HandlerStage)
    (mark : Meeting → MeetingDetails → Meeting)
    (hstage : ∀ details w, (stage details).exec o w =
      saving (held.modify fun m => mark m details) w finished fun e =>
        next (.saveFailed (held.modify fun m => mark m details) e.message))
    (answer : Except String MeetingDetails) :
    HandlerOutcome.EndsAs o w
      (match answer with
        | .ok details => next (stage details)
        | .error message => next (.saveFailed held message))
      (saveOrRecord held answer mark w) := by
  cases answer with
  | error message => exact recordFailure_endsAs held message
  | ok details =>
    simp only [saveOrRecord]
    rcases hsave : saveMeeting (held.modify fun m => mark m details) w with ⟨e | _, w'⟩
    · refine .step (x := next (.saveFailed (held.modify fun m => mark m details) e.message)) ?_
        (recordFailure_endsAs _ _)
      simp only [hstage, saving, hsave]
    · refine .step (x := finished) ?_ (.done _)
      simp only [hstage, saving, hsave]

theorem ensureHeld_endsAs (hnew : o.newEvent ∉ w.issuedEvents) (booking : Booking)
    (held : HeldMeeting) : (ensureWith booking held).EndsAs o w (ensureHeld o booking held w) := by
  unfold ensureWith ensureHeld
  split_ifs with hcreated hsup
  · exact .done _
  · -- the provider is called, and what it answers is saved or recorded
    have hsave := saveOrRecord_endsAs (o := o) (w := (callCreate o (createInput booking) w).2)
      held (.saveCreated held) Meeting.markCreated (fun _ _ => rfl)
      (callCreate o (createInput booking) w).1
    refine .step ?_ hsave
    simp only [HandlerStage.exec, if_neg hnew]
    rcases callCreate o (createInput booking) w with ⟨_ | details, w'⟩ <;> rfl
  · exact recordFailure_endsAs _ _

/-- **A creation job that runs alone** is `ensureMeetingForBooking`. -/
theorem ensureMeetingForBooking_endsAs (ho : o.Fresh w) (bookingId : ObjectId) :
    (next (.ensureRead bookingId)).EndsAs o w (ensureMeetingForBooking o bookingId w) := by
  unfold ensureMeetingForBooking
  rw [Service.read_bind]
  cases hfind : w.bookings.findById bookingId with
  | none =>
    refine .step (x := finished) ?_ (.done _)
    simp only [HandlerStage.exec, hfind]
  | some booking =>
    refine .step (v := w) (x := next (.ensureFind booking)) ?_ ?_
    · simp only [HandlerStage.exec, hfind]
    simp only [Service.bind_apply, upsertMeetingRecord]
    cases hmeeting : w.meetings.findByKey booking.id with
    | some existing =>
      refine .step ?_ (ensureHeld_endsAs ho.2 booking _)
      simp only [HandlerStage.exec, hmeeting]
    | none =>
      refine .step (v := w) (x := next (.ensureInsert booking)) ?_ ?_
      · simp only [HandlerStage.exec, hmeeting]
      simp only
      cases hins : w.meetings.insert (newMeeting o.newId booking) with
      | none =>
        refine .step (x := thrown .internal) ?_ Relation.ReflTransGen.refl
        simp only [HandlerStage.exec, if_neg ho.1, hins]
      | some c =>
        refine .step ?_ (ensureHeld_endsAs
          (w := { w with issuedIds := o.newId :: w.issuedIds, meetings := c }) ho.2 booking _)
        simp only [HandlerStage.exec, if_neg ho.1, hins]

/-- **A synchronisation job that runs alone** is `syncMeetingTimes`. -/
theorem syncMeetingTimes_endsAs (ho : o.Fresh w) (bookingId : ObjectId) :
    (next (.syncRead bookingId)).EndsAs o w (syncMeetingTimes o bookingId w) := by
  unfold syncMeetingTimes
  rw [Service.read_bind]
  cases hfind : w.bookings.findById bookingId with
  | none =>
    refine .step (x := finished) ?_ (.done _)
    simp only [HandlerStage.exec, hfind]
  | some booking =>
    obtain ⟨-, rfl⟩ := Collection.findById_eq_some.1 hfind
    refine .step (v := w) (x := next (.syncFind booking)) ?_ ?_
    · simp only [HandlerStage.exec, hfind]
    simp only
    rw [Service.read_bind]
    cases hmeeting : w.meetings.findByKey booking.id with
    | none =>
      refine .step (v := w) (x := next (.ensureRead booking.id)) ?_
        (ensureMeetingForBooking_endsAs ho booking.id)
      simp only [HandlerStage.exec, hmeeting]
    | some meeting =>
      obtain ⟨-, hkey⟩ := Collection.findByKey_eq_some.1 hmeeting
      have hbooking : meeting.bookingId = booking.id := Option.some.inj hkey
      let held := (HeldMeeting.ofStored meeting).modify fun m => m.retime booking
      refine .step (v := w) (x := syncWith booking held) ?_ ?_
      · simp only [HandlerStage.exec, hmeeting]
        rfl
      show (syncWith booking held).EndsAs o w (syncHeld o booking held w)
      unfold syncWith syncHeld
      cases held.doc.movable with
      | none =>
        refine .saving rfl fun w' hsave => ?_
        -- the save writes the record only, so the identities are as fresh as before
        have hw' : o.Fresh w' := by
          rcases saveMeeting_cases (w := w) held with ⟨e, hs⟩ | ⟨c, -, hs⟩
          · rw [hs] at hsave
            cases hsave
          · rw [hs] at hsave
            cases hsave
            exact ho
        have hid : held.doc.bookingId = booking.id := hbooking
        rw [hid]
        exact ensureMeetingForBooking_endsAs hw' booking.id
      | some target =>
        have hsave := saveOrRecord_endsAs (o := o)
          (w := (callUpdate o booking.meetingProvider (updateInput booking target) w).2)
          held (.saveMoved held) Meeting.markMoved (fun _ _ => rfl)
          (callUpdate o booking.meetingProvider (updateInput booking target) w).1
        refine .step ?_ hsave
        simp only [HandlerStage.exec]
        rcases callUpdate o booking.meetingProvider (updateInput booking target) w with
          ⟨_ | details, w'⟩ <;> rfl

/-- **A cancellation job that runs alone** is `cancelMeetingForBooking`. -/
theorem cancelMeetingForBooking_endsAs (bookingId : ObjectId) :
    (next (.cancelRead bookingId)).EndsAs o w (cancelMeetingForBooking o bookingId w) := by
  unfold cancelMeetingForBooking
  rw [Service.read_bind, Service.read_bind]
  refine .step rfl ?_
  cases hfind : w.bookings.findById bookingId with
  | none =>
    refine .step (x := finished) ?_ (.done _)
    simp only [HandlerStage.exec]
  | some booking =>
    cases hmeeting : w.meetings.findByKey bookingId with
    | none =>
      refine .step (x := finished) ?_ (.done _)
      simp only [HandlerStage.exec, hmeeting]
    | some meeting =>
      refine .step (v := w) (x := cancelWith booking meeting) ?_ ?_
      · simp only [HandlerStage.exec, hmeeting]
      show (cancelWith booking meeting).EndsAs o w (cancelHeld o booking (.ofStored meeting) w)
      unfold cancelWith cancelHeld
      simp only [HeldMeeting.ofStored]
      cases meeting.removable with
      | none => exact .saving rfl fun _ _ => .done _
      | some target => exact .step rfl (.saving rfl fun _ _ => .done _)

/-- **A job that runs alone** is its handler's call. -/
theorem MeetingJobName.endsAs (name : MeetingJobName) (ho : o.Fresh w) (bookingId : ObjectId) :
    (next (name.start bookingId)).EndsAs o w (name.handle o bookingId w) := by
  cases name with
  | create => exact ensureMeetingForBooking_endsAs ho bookingId
  | sync => exact syncMeetingTimes_endsAs ho bookingId
  | cancel => exact cancelMeetingForBooking_endsAs bookingId

end Handlers

/-! ### Parties -/

/-- A party that issues its commands with nothing in between gets from one state to another. -/
def Proc.Reaches (cal : TimezoneName → Calendar) (o : Oracle) :
    World × Proc → World × Proc → Prop :=
  Relation.ReflTransGen fun x y => x.2.exec cal o x.1 = some y

section Parties

variable {cal : TimezoneName → Calendar} {o : Oracle} {w : World}

theorem RequestOutcome.EndsAs.reaches {out : RequestOutcome}
    {answer : Except AppError Booking × World} (h : out.EndsAs cal o w answer) :
    Proc.Reaches cal o (w, out.toProc) (answer.2, .done (some answer.1)) := by
  refine Relation.ReflTransGen.lift (fun x : World × RequestOutcome => (x.1, x.2.toProc)) ?_ _ _ h
  rintro ⟨w, _⟩ ⟨w', out'⟩ ⟨stage, rfl, hexec⟩
  exact congrArg (Option.map fun r : World × RequestOutcome => (r.1, r.2.toProc)) hexec

theorem HandlerOutcome.EndsAs.reaches {α : Type} {out : HandlerOutcome}
    {answer : Except AppError α × World} (h : out.EndsAs o w answer)
    (cal : TimezoneName → Calendar) (origin : Origin) :
    Proc.Reaches cal o (origin.resume w out) (origin.resume answer.2 (.ofAnswer answer.1)) := by
  refine Relation.ReflTransGen.lift (fun x : World × HandlerOutcome => origin.resume x.1 x.2)
    ?_ _ _ h
  rintro ⟨w, _⟩ ⟨w', out'⟩ ⟨stage, rfl, hexec⟩
  exact congrArg (Option.map fun r : World × HandlerOutcome => origin.resume r.1 r.2) hexec

/-- **A retry that runs alone** is `retryBookingMeeting`. -/
theorem retryBookingMeeting_reaches (cal : TimezoneName → Calendar) (ho : o.Fresh w)
    (actor : Actor) (bookingId : ObjectId) :
    Proc.Reaches cal o (w, .retryRead actor bookingId)
      ((retryBookingMeeting o actor bookingId w).2,
        .done (some (retryBookingMeeting o actor bookingId w).1)) := by
  -- a refusal ends the call at once
  have hrefused : ∀ {e}, retryArgs actor bookingId w = .error e →
      retryBookingMeeting o actor bookingId w = (.error e, w) := fun h =>
    Service.bind_of_error (by rw [Service.check_apply, h])
  cases hfind : findBooking w.bookings bookingId with
  | error e =>
    rw [hrefused (e := e) (by simp only [retryArgs, hfind]; rfl)]
    exact .single (by simp only [Proc.exec, hfind])
  | ok booking =>
    have hargs : retryArgs actor bookingId w = (do
        let _ ← assertParticipant actor booking
        if ¬ isRetryable (w.meetings.findByKey booking.id) booking w.now then
          .error (.conflict "This meeting does not need to be created again.")
        else .ok booking) := by
      simp only [retryArgs, hfind]
      rfl
    cases hrole : assertParticipant actor booking with
    | error e =>
      rw [hrefused (e := e) (by rw [hargs, hrole]; rfl)]
      exact .single (by simp only [Proc.exec, hfind, hrole])
    | ok role =>
      rw [hrole] at hargs
      refine .head (b := (w, .retryFind actor booking)) (by simp only [Proc.exec, hfind, hrole]) ?_
      by_cases hretry : isRetryable (w.meetings.findByKey booking.id) booking w.now
      · have hok : retryArgs actor bookingId w = .ok booking :=
          hargs.trans (if_neg (not_not.2 hretry))
        refine .head (b := (w, .handler (.retry actor booking.id) (.ensureRead booking.id)))
          (by simp only [Proc.exec, if_pos hretry]) ?_
        have hensure := (ensureMeetingForBooking_endsAs ho booking.id).reaches cal
          (.retry actor booking.id)
        rw [retryBookingMeeting, Service.bind_of_ok (by rw [Service.check_apply, hok]),
          Service.bind_apply]
        rcases hcall : ensureMeetingForBooking o booking.id w with ⟨e | meeting, w'⟩
        · rw [hcall] at hensure
          exact hensure
        · -- the booking is read again at the end
          rw [hcall] at hensure
          exact hensure.tail rfl
      · rw [hrefused (hargs.trans (if_pos hretry))]
        exact .single (by simp only [Proc.exec, if_neg hretry])

end Parties

/-! ### Runs of the backend -/

section Runs

variable {R : Type} [DecidableEq R] {cal : TimezoneName → Calendar} {o : Oracle} {r : R}

theorem Backend.put_put (s : Backend R) (r : R) (w w' : World) (p p' : Proc) :
    (s.put r w p).put r w' p' = s.put r w' p' := by
  simp only [Backend.put, Function.update_idem]

theorem Proc.Reaches.run {x y : World × Proc} (h : Proc.Reaches cal o x y) (s : Backend R) :
    ∃ n, (backend R cal).run (s.put r x.1 x.2) (List.replicate n (.exec r o)) =
      some (s.put r y.1 y.2) := by
  induction h using Relation.ReflTransGen.head_induction_on with
  | refl => exact ⟨0, rfl⟩
  | @head x z hxz _ ih =>
    obtain ⟨n, hn⟩ := ih
    have hp : (s.put r x.1 x.2).procs r = x.2 := Backend.procs_put_self
    have hstep : (backend R cal).step (s.put r x.1 x.2) (.exec r o) =
        some (s.put r z.1 z.2) := by
      show (((s.put r x.1 x.2).procs r).exec cal o x.1).map _ = _
      rw [hp, hxz, Option.map_some, Backend.put_put]
    exact ⟨n + 1, by rw [List.replicate_succ]; exact Machine.run_cons.2 ⟨_, hstep, hn⟩⟩

/-- **A request that runs alone** in the backend is its service call. -/
theorem request_alone (cal : TimezoneName → Calendar) {s : Backend R} (hidle : s.procs r = .idle)
    (hnew : o.newId ∉ s.world.issuedIds) (request : Request) :
    ∃ n, (backend R cal).run s (.begin r request :: List.replicate n (.exec r o)) =
      some (s.put r (request.call cal o s.world).2
        (.done (some (request.call cal o s.world).1))) := by
  obtain ⟨n, hn⟩ := (request.endsAs cal hnew).reaches.run (r := r) s
  refine ⟨n, Machine.run_cons.2 ⟨_, ?_, hn⟩⟩
  simp only [backend, Backend.step, Backend.launch, hidle]
  rfl

/-- **A retry that runs alone** in the backend is its service call. -/
theorem retry_alone (cal : TimezoneName → Calendar) {s : Backend R} (hidle : s.procs r = .idle)
    (ho : o.Fresh s.world) (actor : Actor) (bookingId : ObjectId) :
    ∃ n, (backend R cal).run s (.beginRetry r actor bookingId :: List.replicate n (.exec r o)) =
      some (s.put r (retryBookingMeeting o actor bookingId s.world).2
        (.done (some (retryBookingMeeting o actor bookingId s.world).1))) := by
  obtain ⟨n, hn⟩ :=
    (retryBookingMeeting_reaches cal ho actor bookingId).run (r := r) s
  refine ⟨n, Machine.run_cons.2 ⟨_, ?_, hn⟩⟩
  simp only [backend, Backend.step, Backend.launch, hidle]

/-- **A job that runs alone** in the backend is its handler's call; a call that throws is queued
again. -/
theorem job_alone {s : Backend R} (hidle : s.procs r = .idle) (ho : o.Fresh s.world) {index : ℕ}
    {j : MeetingJob} (hj : s.world.meetingQueue[index]? = some j) :
    let taken := { s.world with meetingQueue := s.world.meetingQueue.eraseIdx index }
    let answer := j.name.handle o j.bookingId taken
    ∃ n, (backend R cal).run s (.startJob r index :: List.replicate n (.exec r o)) =
      some (s.put r ((Origin.job j).resume answer.2 (.ofAnswer answer.1)).1
        ((Origin.job j).resume answer.2 (.ofAnswer answer.1)).2) := by
  intro taken answer
  have hfresh : o.Fresh taken := ho
  obtain ⟨n, hn⟩ :=
    ((j.name.endsAs hfresh j.bookingId).reaches cal (.job j)).run (r := r) s
  refine ⟨n, Machine.run_cons.2 ⟨_, ?_, hn⟩⟩
  simp only [backend, Backend.step, hj, Backend.launch, hidle]
  rfl

end Runs

/-! ### Serial runs -/

section Serial

variable {cal : TimezoneName → Calendar} {w w' : World}

/-- The action is a job of the meeting worker. -/
def SerialAction.isJob : SerialAction → Bool
  | runJob .. => true
  | _ => false

/-- Nothing is in flight, and the parties from `k` on have not been used. -/
def Backend.Spare (k : ℕ) (s : Backend ℕ) : Prop :=
  s.Quiescent ∧ ∀ r, k ≤ r → s.procs r = .idle

theorem Backend.Spare.put {k : ℕ} {s : Backend ℕ} (h : s.Spare k) (w : World)
    (answer : Option (Except AppError Booking)) : (s.put k w (.done answer)).Spare (k + 1) := by
  constructor
  · intro r
    by_cases hr : r = k
    · subst hr
      simp [Backend.put, Proc.isAtRest]
    · simpa [Backend.put, hr] using h.1 r
  · intro r hr
    have hne : r ≠ k := by omega
    simpa [Backend.put, hne] using h.2 r (by omega)

/-- The lifecycle sweep is one update after another. -/
theorem run_complete (s : Backend ℕ) (ids : List ObjectId) :
    (backend ℕ cal).run s (ids.map .complete) =
      some { s with world := { s.world with
        bookings := ids.foldl (fun bookings id => completeBooking s.world.now id bookings)
          s.world.bookings } } := by
  induction ids generalizing s with
  | nil => rfl
  | cons id ids ih =>
    rw [List.map_cons]
    exact Machine.run_cons.2 ⟨_, rfl, ih _⟩

/-- **A serial action without a job** is a run of the backend. -/
theorem serial_step_backend {a : SerialAction} (ha : a.isJob = false) {k : ℕ} {s : Backend ℕ}
    (hs : s.Spare k) (h : (serial cal).step s.world a = some w') :
    ∃ bs s', (backend ℕ cal).run s bs = some s' ∧ s'.world = w' ∧ s'.Spare (k + 1) := by
  have hidle : s.procs k = .idle := hs.2 k le_rfl
  have hsame : ∀ w, ({ s with world := w } : Backend ℕ).Spare (k + 1) := fun w =>
    ⟨hs.1, fun r hr => hs.2 r (by omega)⟩
  cases a with
  | createBooking o actor input =>
    obtain ⟨ho, rfl⟩ := Service.after_eq_some.1 h
    -- the request is taken by a process that has never run, and goes to its end undisturbed
    obtain ⟨n, hn⟩ := request_alone cal hidle ho.1 (.create actor input)
    exact ⟨_, _, hn, rfl, hs.put _ _⟩
  | cancelBooking o actor bookingId reason =>
    obtain ⟨ho, rfl⟩ := Service.after_eq_some.1 h
    obtain ⟨n, hn⟩ := request_alone cal hidle ho.1 (.cancel actor bookingId reason)
    exact ⟨_, _, hn, rfl, hs.put _ _⟩
  | rescheduleBooking o actor bookingId input =>
    obtain ⟨ho, rfl⟩ := Service.after_eq_some.1 h
    obtain ⟨n, hn⟩ := request_alone cal hidle ho.1 (.reschedule actor bookingId input)
    exact ⟨_, _, hn, rfl, hs.put _ _⟩
  | retryBookingMeeting o actor bookingId =>
    obtain ⟨ho, rfl⟩ := Service.after_eq_some.1 h
    obtain ⟨n, hn⟩ := retry_alone cal hidle ho actor bookingId
    exact ⟨_, _, hn, rfl, hs.put _ _⟩
  | runJob => cases ha
  | updateAvailability hrUserId config =>
    cases h
    exact ⟨[.setAvailability hrUserId config], _, rfl, rfl, hsame _⟩
  | setProfiles profiles =>
    cases h
    exact ⟨[.setProfiles profiles], _, rfl, rfl, hsame _⟩
  | sweep =>
    cases h
    exact ⟨_, _, run_complete s _, rfl, hsame _⟩
  | advance ms =>
    cases h
    exact ⟨[.advance ms], _, rfl, rfl, hsame _⟩

/-- **Serial runs are interleavings.**  What a serial run without jobs reaches, the backend reaches
with nothing left in flight. -/
theorem serial_run_backend {as : List SerialAction} (hjobs : ∀ a ∈ as, a.isJob = false)
    (hrun : (serial cal).run w as = some w') :
    ∃ bs s, (backend ℕ cal).run (Backend.init ℕ w) bs = some s ∧ s.world = w' ∧ s.Quiescent := by
  suffices h : ∀ (k : ℕ) (s : Backend ℕ), s.Spare k → s.world = w →
      ∃ bs s', (backend ℕ cal).run s bs = some s' ∧ s'.world = w' ∧ s'.Quiescent from
    h 0 (Backend.init ℕ w) ⟨Backend.quiescent_init w, fun _ _ => rfl⟩ rfl
  intro k s hs hw
  induction as generalizing w k s with
  | nil => exact ⟨[], s, rfl, hw.trans (Option.some.inj hrun), hs.1⟩
  | cons a as ih =>
    obtain ⟨w₁, hstep, hrest⟩ := Machine.run_cons.1 hrun
    subst hw
    obtain ⟨bs, s₁, hbs, hw₁, hs₁⟩ :=
      serial_step_backend (hjobs a List.mem_cons_self) hs hstep
    obtain ⟨bs', s', hbs', hw', hq⟩ :=
      ih (fun b hb => hjobs b (List.mem_cons_of_mem _ hb)) hrest (k + 1) s₁ hs₁ hw₁
    exact ⟨bs ++ bs', s', Machine.run_append.2 ⟨s₁, hbs, hbs'⟩, hw', hq⟩

end Serial

end HrBooking
