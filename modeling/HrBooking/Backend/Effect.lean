import HrBooking.Backend.System
import HrBooking.Booking.Record

/-!
# What a command can do

Inversion of the machine: everything a command can do to the stored documents and to the
identities given out.  Invariants are derived from these lemmas and do not unfold the machine
again.

* `RequestEffect`, `RequestStage.effect_of_exec` : a command of a booking request.
* `HandlerStage.frame_of_exec` : what a command of a meeting handler leaves alone.
* `RequestStage.queue_of_exec` : what a command of a request adds to the meeting queue.
* `ProcStep`, `BackendStep` : a command of a party, and an action.
* `PartyStep` : what an action is for one party.
* `Begun`, `Served` : the parties that have begun with a request.
* `StoredStep` : where a booking that is stored after an action comes from.
-/

namespace HrBooking

/-- The writes of a request to the bookings, with the stage that makes each of them. -/
inductive BookingWrite (c : Collection Booking) : RequestStage → Collection Booking → Prop
  | insert {c' : Collection Booking} (id : ObjectId) (args : InsertBookingArgs)
      (h : c.insert (newBooking id args) = some c') : BookingWrite c (.insert id args) c'
  | withdraw (id : ObjectId) : BookingWrite c (.withdraw id) (c.delete fun b => b.id = id)
  | save {c' : Collection Booking} (actor : Actor) (loaded : Booking) (now : ℤ)
      (role : CancelledBy) (reason : Option String)
      (h : c.update loaded.id (saveCancelled loaded (loaded.cancel now role reason)) = some c') :
      BookingWrite c (.saveCancel actor loaded now role reason) c'
  | move {c' : Collection Booking} (actor : Actor) (args : MoveArgs) (stored : Booking)
      (hmem : stored ∈ c) (hid : stored.id = args.booking.id) (hactive : stored.isActive)
      (h : c.update args.booking.id args.apply = some c') : BookingWrite c (.move actor args) c'

/-- What a command of a request does to the shared state. -/
inductive RequestEffect (o : Oracle) (w : World) : RequestStage → World → Prop
  | quiet {w' : World} (stage : RequestStage) (h : w.SameStore w') : RequestEffect o w stage w'
  | construct (args : InsertBookingArgs) (h : o.newId ∉ w.issuedIds) :
      RequestEffect o w (.construct args) { w with issuedIds := o.newId :: w.issuedIds }
  | write {stage : RequestStage} {c : Collection Booking} (h : BookingWrite w.bookings stage c) :
      RequestEffect o w stage { w with bookings := c }

/-! ### Commands of requests -/

section Commands

variable {cal : TimezoneName → Calendar} {o : Oracle} {w w' : World} {stage : RequestStage}
  {out : RequestOutcome}

/-- **The effect of a command** of a booking request. -/
theorem RequestStage.effect_of_exec (h : stage.exec cal o w = some (w', out)) :
    RequestEffect o w stage w' := by
  cases stage with
  | construct args =>
    simp only [exec] at h
    split_ifs at h with hfresh
    cases h
    exact .construct args hfresh
  | insert id args =>
    simp only [exec] at h
    cases hins : w.bookings.insert (newBooking id args) with
    | none =>
      simp only [hins] at h
      cases h
      exact .quiet _ (.refl w)
    | some c =>
      simp only [hins] at h
      cases h
      exact .write (.insert id args hins)
  | sweep id args =>
    simp only [exec] at h
    split at h
    · split_ifs at h <;> cases h <;> exact .quiet _ (.refl w)
    · cases h
      exact .quiet _ (.refl w)
  | withdraw id =>
    cases h
    exact .write (.withdraw id)
  | queueCreate b | queueCancel _ b | queueSync _ b =>
    cases h
    exact .quiet _ (addMeetingJob_within _ _ w)
  | remindCreated b | remindMoved _ b =>
    cases h
    exact .quiet _ (scheduleReminder_within _ _ w)
  | forgetCancelled _ b | forgetMoved _ b =>
    cases h
    exact .quiet _ (removeReminder_within _ w)
  | audit actor b role reason =>
    cases h
    exact .quiet _ (recordCancellation_within _ _ _ _ w)
  | saveCancel actor loaded now role reason =>
    cases h
    rcases saveBooking_cases (w := w) loaded (loaded.cancel now role reason) with
      ⟨e, hw⟩ | ⟨-, c, -, -, hc, hw⟩
    · rw [hw]
      exact .quiet _ (.refl w)
    · rw [hw]
      exact .write (.save actor loaded now role reason hc)
  | move actor args =>
    cases h
    rcases moveBooking_cases (w := w) args with ⟨e, hw⟩ | ⟨stored, c, hmem, hid, ha, hc, hw⟩
    · rw [hw]
      exact .quiet _ (.refl w)
    · rw [hw]
      exact .write (.move actor args stored hmem hid ha hc)
  -- the reads
  | readProfile | readOffer | checkClient | checkConsultant | readCancel | readMove
  | readMoveOffer | checkMoveClient | checkMoveConsultant | reread =>
    cases h
    exact .quiet _ (.refl w)

theorem andThen_eq_next {α : Type} {x : Except AppError α} {f : α → RequestOutcome}
    {stage : RequestStage} (h : RequestOutcome.andThen x f = .next stage) :
    ∃ a, x = .ok a ∧ f a = .next stage := by
  cases x with
  | error e => cases h
  | ok a => exact ⟨a, rfl, h⟩

/-- What a party is after a check of its request: the request is refused, or goes on. -/
theorem andThen_induction {α : Type} {P : Proc → Prop} {x : Except AppError α}
    {f : α → RequestOutcome} (herror : ∀ e, P (.done (some (.error e))))
    (hok : ∀ a, x = .ok a → P (f a).toProc) : P (RequestOutcome.andThen x f).toProc := by
  cases x with
  | error e => exact herror e
  | ok a => exact hok a rfl

/-- The services a request can be in. -/
inductive RequestKind where
  | creation | cancellation | rescheduling | rereading
  deriving DecidableEq

/-- The service a stage belongs to. -/
def RequestStage.kind : RequestStage → RequestKind
  | readProfile .. | readOffer .. | checkClient .. | checkConsultant .. | construct .. | insert ..
  | sweep .. | withdraw .. | queueCreate .. | remindCreated .. => .creation
  | readCancel .. | saveCancel .. | audit .. | queueCancel .. | forgetCancelled .. => .cancellation
  | readMove .. | readMoveOffer .. | checkMoveClient .. | checkMoveConsultant .. | move ..
  | queueSync .. | forgetMoved .. | remindMoved .. => .rescheduling
  | reread .. => .rereading

theorem RequestStage.kind_of_exec {stage' : RequestStage}
    (h : stage.exec cal o w = some (w', .next stage')) :
    stage'.kind = stage.kind ∨ stage'.kind = .rereading := by
  cases stage with
  | construct args =>
    simp only [exec] at h
    split_ifs at h
    cases h
    exact .inl rfl
  | insert id args =>
    simp only [exec] at h
    split at h <;> cases h
    exact .inl rfl
  | sweep id args =>
    simp only [exec] at h
    split at h
    · split_ifs at h <;> cases h <;> exact .inl rfl
    · cases h
      exact .inl rfl
  | withdraw | reread => cases h
  | readMove actor bookingId input =>
    obtain ⟨_, -, hnext⟩ := andThen_eq_next (congrArg Prod.snd (Option.some.inj h))
    obtain ⟨_, -, hnext⟩ := andThen_eq_next hnext
    cases hnext
    exact .inl rfl
  -- the last command of a creation answers; the other two services end with a read
  | remindCreated =>
    obtain ⟨_, -, hnext⟩ := andThen_eq_next (congrArg Prod.snd (Option.some.inj h))
    cases hnext
  | forgetCancelled | remindMoved =>
    obtain ⟨_, -, hnext⟩ := andThen_eq_next (congrArg Prod.snd (Option.some.inj h))
    cases hnext
    exact .inr rfl
  | _ =>
    obtain ⟨_, -, hnext⟩ := andThen_eq_next (congrArg Prod.snd (Option.some.inj h))
    cases hnext
    exact .inl rfl

/-- The job a command puts on the meeting queue, if the queue answers. -/
def RequestStage.job : RequestStage → Option MeetingJob
  | queueCreate booking => some ⟨.create, booking.id, meetingAttempts⟩
  | queueCancel _ booking => some ⟨.cancel, booking.id, meetingAttempts⟩
  | queueSync _ booking => some ⟨.sync, booking.id, meetingAttempts⟩
  | _ => none

theorem RequestStage.queue_of_exec (h : stage.exec cal o w = some (w', out)) :
    w'.meetingQueue = w.meetingQueue ∨
      ∃ j ∈ stage.job, w'.meetingQueue = w.meetingQueue ++ [j] := by
  cases stage with
  | construct args =>
    simp only [exec] at h
    split_ifs at h
    cases h
    exact .inl rfl
  | insert id args =>
    simp only [exec] at h
    split at h <;> cases h <;> exact .inl rfl
  | sweep id args =>
    simp only [exec] at h
    split at h
    · split_ifs at h <;> cases h <;> exact .inl rfl
    · cases h
      exact .inl rfl
  | withdraw id =>
    cases h
    exact .inl rfl
  -- the only commands that queue a job
  | queueCreate b | queueCancel _ b | queueSync _ b =>
    cases h
    rcases addMeetingJob_cases (o := o) (w := w) _ b.id with ⟨-, hw⟩ | ⟨-, hw⟩
    · exact .inl (by rw [hw])
    · exact .inr ⟨_, rfl, by rw [hw]⟩
  | remindCreated b | remindMoved _ b =>
    cases h
    unfold scheduleReminder
    split_ifs <;> exact .inl rfl
  | forgetCancelled _ b | forgetMoved _ b =>
    cases h
    unfold removeReminder
    split_ifs <;> exact .inl rfl
  | audit actor b role reason =>
    cases h
    unfold recordCancellation
    split_ifs <;> exact .inl rfl
  | saveCancel actor loaded now role reason =>
    cases h
    rcases saveBooking_cases (w := w) loaded (loaded.cancel now role reason) with
      ⟨e, hw⟩ | ⟨-, c, -, -, -, hw⟩
    · exact .inl (by rw [hw])
    · exact .inl (by rw [hw])
  | move actor args =>
    cases h
    rcases moveBooking_cases (w := w) args with ⟨e, hw⟩ | ⟨stored, c, -, -, -, -, hw⟩
    · exact .inl (by rw [hw])
    · exact .inl (by rw [hw])
  | readProfile | readOffer | checkClient | checkConsultant | readCancel | readMove
  | readMoveOffer | checkMoveClient | checkMoveConsultant | reread =>
    cases h
    exact .inl rfl

theorem RequestStage.active_of_exec {actor : Actor} {loaded : Booking} {now : ℤ}
    {role : CancelledBy} {reason : Option String}
    (h : stage.exec cal o w = some (w', .next (.saveCancel actor loaded now role reason))) :
    loaded.isActive := by
  -- only a stage of the cancellation leads to the save, and of these only the read does
  have hkind : stage.kind = .cancellation :=
    ((kind_of_exec h).resolve_right nofun).symm
  cases stage with
  | readCancel =>
    obtain ⟨⟨booking, role, now⟩, hargs, hnext⟩ :=
      andThen_eq_next (congrArg Prod.snd (Option.some.inj h))
    obtain ⟨_, -, hargs⟩ := bind_eq_ok.1 hargs
    obtain ⟨_, hrole, hargs⟩ := bind_eq_ok.1 hargs
    cases hargs
    cases hnext
    exact (assertCancellable_eq_ok.1 hrole).2.1
  | saveCancel | audit | queueCancel | forgetCancelled =>
    obtain ⟨_, -, hnext⟩ := andThen_eq_next (congrArg Prod.snd (Option.some.inj h))
    cases hnext
  | _ => cases hkind

end Commands

/-! ### Commands of handlers -/

section Handlers

variable {o : Oracle} {w w' : World} {stage : HandlerStage} {out : HandlerOutcome}

theorem frame_of_saving {held : HeldMeeting} {onSaved : HandlerOutcome}
    {onError : AppError → HandlerOutcome} (h : saving held w onSaved onError = some (w', out)) :
    w.HandlerFrame w' := by
  have hframe := saveMeeting_frame held w
  unfold saving at h
  split at h <;>
  · rename_i hsave
    cases h
    rwa [hsave] at hframe

/-- **The frame of a handler's command.** -/
theorem HandlerStage.frame_of_exec (h : stage.exec o w = some (w', out)) : w.HandlerFrame w' := by
  -- a handler writes the record and the calendar, never a booking or a queue
  cases stage with
  | ensureRead | syncRead =>
    simp only [exec] at h
    split at h <;> cases h <;> exact .refl w
  | ensureFind booking | syncFind booking =>
    simp only [exec] at h
    split at h <;> cases h <;> exact .refl w
  | ensureInsert booking =>
    simp only [exec] at h
    split_ifs at h
    split at h <;> cases h <;> exact ⟨rfl, rfl, rfl, List.subset_cons_self _ _⟩
  | callCreate booking held =>
    have hframe := (callCreate_write (o := o) (createInput booking) w).frame
    simp only [exec] at h
    split_ifs at h
    split at h <;>
    · rename_i hcall
      cases h
      rwa [hcall] at hframe
  | callUpdate booking held target =>
    have hframe :=
      (callUpdate_write (o := o) booking.meetingProvider (updateInput booking target) w).frame
    simp only [exec] at h
    split at h <;>
    · rename_i hcall
      cases h
      rwa [hcall] at hframe
  | saveCreated | saveFailed | saveTimes | saveMoved | saveCancelled => exact frame_of_saving h
  | cancelRead =>
    cases h
    exact .refl w
  | cancelFind bookingId booking =>
    simp only [exec] at h
    split at h <;> cases h <;> exact .refl w
  | callCancel booking held target =>
    cases h
    exact (callCancel_write _ _ w).frame

end Handlers

/-! ### Commands of parties -/

section Parties

variable {cal : TimezoneName → Calendar} {o : Oracle} {w w' : World} {p p' : Proc}

/-- What a command of a party is: one of a request, one of a handler, or a read of a retry. -/
inductive ProcStep (cal : TimezoneName → Calendar) (o : Oracle) (w : World) :
    Proc → World → Proc → Prop
  | request {w' : World} {stage : RequestStage} {out : RequestOutcome}
      (h : stage.exec cal o w = some (w', out)) : ProcStep cal o w (.request stage) w' out.toProc
  | handler {w' : World} {stage : HandlerStage} {out : HandlerOutcome} (origin : Origin)
      (h : stage.exec o w = some (w', out)) :
      ProcStep cal o w (.handler origin stage) (origin.resume w' out).1 (origin.resume w' out).2
  | retryRefused (actor : Actor) (bookingId : ObjectId) (e : AppError) :
      ProcStep cal o w (.retryRead actor bookingId) w (.done (some (.error e)))
  | retryFound (actor : Actor) {booking : Booking} (h : booking ∈ w.bookings) :
      ProcStep cal o w (.retryRead actor booking.id) w (.retryFind actor booking)
  | retryAllowed (actor : Actor) {booking : Booking}
      (h : isRetryable (w.meetings.findByKey booking.id) booking w.now) :
      ProcStep cal o w (.retryFind actor booking) w
        (.handler (.retry actor booking.id) (.ensureRead booking.id))
  | retryNotNeeded (actor : Actor) (booking : Booking) (e : AppError) :
      ProcStep cal o w (.retryFind actor booking) w (.done (some (.error e)))

theorem Proc.step_of_exec (h : p.exec cal o w = some (w', p')) : ProcStep cal o w p w' p' := by
  cases p with
  | idle => cases h
  | done => cases h
  | request stage =>
    obtain ⟨⟨w₁, out⟩, hexec, heq⟩ := Option.map_eq_some_iff.1 h
    cases heq
    exact .request hexec
  | handler origin stage =>
    -- the state is the handler's, but for a failed job that is queued again
    obtain ⟨⟨w₁, out⟩, hexec, heq⟩ := Option.map_eq_some_iff.1 h
    have hw : w' = (origin.resume w₁ out).1 := (congrArg Prod.fst heq).symm
    have hp : p' = (origin.resume w₁ out).2 := (congrArg Prod.snd heq).symm
    rw [hw, hp]
    exact .handler origin hexec
  | retryRead actor bookingId =>
    simp only [exec, findBooking] at h
    cases hfind : w.bookings.findById bookingId with
    | none =>
      simp only [hfind] at h
      cases h
      exact .retryRefused ..
    | some booking =>
      obtain ⟨hmem, rfl⟩ := Collection.findById_eq_some.1 hfind
      simp only [hfind] at h
      cases hpart : assertParticipant actor booking with
      | error e =>
        simp only [hpart] at h
        cases h
        exact .retryRefused ..
      | ok role =>
        simp only [hpart] at h
        cases h
        exact .retryFound actor hmem
  | retryFind actor booking =>
    simp only [exec] at h
    split_ifs at h with hretry
    · cases h
      exact .retryAllowed actor hretry
    · cases h
      exact .retryNotNeeded ..

theorem Origin.resume_sameStore (origin : Origin) (w : World) (out : HandlerOutcome) :
    w.SameStore (origin.resume w out).1 := by
  cases out with
  | next | finished => exact .refl w
  | thrown e =>
    cases origin with
    | retry => exact .refl w
    | job j =>
      simp only [resume, fail]
      split_ifs <;> exact .of_queues _ _ _ _

/-- What a party is after a command of a handler: the handler goes on, the party is done, or it
reads its booking again. -/
theorem Origin.resume_induction {P : Proc → Prop} {origin : Origin} {out : HandlerOutcome}
    (hnext : ∀ stage, out = .next stage → P (.handler origin stage))
    (hdone : ∀ answer, P (.done answer))
    (hreread : ∀ actor bookingId, P (.request (.reread actor bookingId))) :
    P (origin.resume w out).2 := by
  cases out with
  | next stage => exact hnext stage rfl
  | finished =>
    cases origin with
    | job => exact hdone none
    | retry => exact hreread _ _
  | thrown e =>
    cases origin with
    | retry => exact hdone _
    | job j =>
      simp only [resume, fail]
      split_ifs <;> exact hdone none

theorem Origin.resume_queue (origin : Origin) (w : World) (out : HandlerOutcome) :
    (origin.resume w out).1.meetingQueue = w.meetingQueue ∨
      ∃ j, origin = .job j ∧ (origin.resume w out).1.meetingQueue =
        w.meetingQueue ++ [{ j with attemptsLeft := j.attemptsLeft - 1 }] := by
  cases out with
  | next | finished => exact .inl rfl
  | thrown e =>
    cases origin with
    | retry => exact .inl rfl
    | job j =>
      simp only [resume, fail]
      split_ifs
      · exact .inl rfl
      · exact .inr ⟨j, rfl, rfl⟩

end Parties

/-! ### Actions -/

section Actions

variable {R : Type} [DecidableEq R] {cal : TimezoneName → Calendar} {s s' : Backend R}
  {a : Action R}

/-- The parties an action can start. -/
inductive Starts (w : World) : Action R → R → Proc → World → Prop
  | request (r : R) (request : Request) :
      Starts w (.begin r request) r (.request request.start) w
  | retry (r : R) (actor : Actor) (bookingId : ObjectId) :
      Starts w (.beginRetry r actor bookingId) r (.retryRead actor bookingId) w
  | job (r : R) (index : ℕ) (j : MeetingJob) (h : w.meetingQueue[index]? = some j) :
      Starts w (.startJob r index) r (.handler (.job j) (j.name.start j.bookingId))
        { w with meetingQueue := w.meetingQueue.eraseIdx index }

/-- The writes of the surroundings. -/
inductive Surroundings (w : World) : Action R → World → Prop
  | advance (ms : ℕ) : Surroundings w (.advance ms) { w with now := w.now + ms }
  | setProfiles (profiles : Collection HRProfile) :
      Surroundings w (.setProfiles profiles) { w with profiles }
  | setAvailability (hrUserId : ObjectId) (config : SlotConfig) :
      Surroundings w (.setAvailability hrUserId config) (updateAvailability hrUserId config w)
  | complete (bookingId : ObjectId) :
      Surroundings w (.complete bookingId)
        { w with bookings := completeBooking w.now bookingId w.bookings }
  | deleteBooking (bookingId : ObjectId) :
      Surroundings w (.deleteBooking bookingId)
        { w with bookings := w.bookings.delete fun b => b.id = bookingId }
  | deleteMeeting (bookingId : ObjectId) :
      Surroundings w (.deleteMeeting bookingId)
        { w with meetings := w.meetings.delete fun m => m.bookingId = bookingId }

/-- What an action does: it starts an idle party, runs a command of one party, or is a write of
the surroundings. -/
inductive BackendStep (cal : TimezoneName → Calendar) (s : Backend R) :
    Action R → Backend R → Prop
  | launch {a : Action R} {r : R} {p : Proc} {w : World} (hidle : s.procs r = .idle)
      (h : Starts s.world a r p w) : BackendStep cal s a (s.put r w p)
  | exec {r : R} {o : Oracle} {w : World} {p : Proc}
      (h : ProcStep cal o s.world (s.procs r) w p) : BackendStep cal s (.exec r o) (s.put r w p)
  | surroundings {a : Action R} {w : World} (h : Surroundings s.world a w) :
      BackendStep cal s a { s with world := w }

/-- What an action is for one party: the party rests, starts, or issues its next command. -/
inductive PartyStep (cal : TimezoneName → Calendar) (s : Backend R) (a : Action R) (s' : Backend R)
    (r : R) : Prop
  | rests (hproc : s'.procs r = s.procs r) (hbegin : ∀ request, a ≠ .begin r request)
      (hexec : ∀ o, a ≠ .exec r o)
  | starts (hidle : s.procs r = .idle) (h : Starts s.world a r (s'.procs r) s'.world)
  | issues (o : Oracle) (ha : a = .exec r o)
      (h : ProcStep cal o s.world (s.procs r) s'.world (s'.procs r))

theorem BackendStep.party (h : BackendStep cal s a s') (r : R) : PartyStep cal s a s' r := by
  cases h with
  | @launch _ r' p w hidle hstart =>
    by_cases hr : r = r'
    · subst hr
      exact .starts hidle (by rwa [Backend.procs_put_self])
    · refine .rests (Backend.procs_put_of_ne hr) ?_ ?_
      · rintro request rfl
        cases hstart
        exact hr rfl
      · rintro o rfl
        cases hstart
  | @exec r' o w p hproc =>
    by_cases hr : r = r'
    · subst hr
      exact .issues o rfl (by rwa [Backend.procs_put_self])
    · refine .rests (Backend.procs_put_of_ne hr) (fun _ => nofun) fun _ ha => ?_
      cases ha
      exact hr rfl
  | surroundings hsur =>
    refine .rests rfl ?_ ?_
    · rintro request rfl
      cases hsur
    · rintro o rfl
      cases hsur

/-- A property of single parties that commands preserve is preserved by every action that starts a
party with it, if any. -/
theorem forall_procs_step {P : Proc → Prop}
    (hexec : ∀ o w p w' p', ProcStep cal o w p w' p' → P p → P p')
    (hstart : ∀ w r p w', Starts w a r p w' → P p) (h : ∀ r, P (s.procs r))
    (hstep : BackendStep cal s a s') (r : R) : P (s'.procs r) := by
  cases hstep.party r with
  | rests hproc => exact hproc ▸ h r
  | starts _ hs => exact hstart _ _ _ _ hs
  | issues _ _ hp => exact hexec _ _ _ _ _ hp (h r)

/-- The party serves a request of a given kind. -/
def Proc.isServing (kind : RequestKind) : Proc → Bool
  | request stage => stage.kind = kind
  | _ => false

theorem isServing_exec {kind : RequestKind} (hkind : kind ≠ .rereading) {o : Oracle} {w w' : World}
    {p p' : Proc} (h : ProcStep cal o w p w' p') (hp : p.isServing kind = false) :
    p'.isServing kind = false := by
  cases h with
  | @request _ stage out hexec =>
    cases out with
    | finished => rfl
    | next stage' =>
      simp only [Proc.isServing, RequestOutcome.toProc, decide_eq_false_iff_not] at hp ⊢
      rcases RequestStage.kind_of_exec hexec with hk | hk
      · rwa [hk]
      · rw [hk]
        exact hkind.symm
  | handler origin =>
    refine origin.resume_induction (P := fun p => p.isServing kind = false) (fun _ _ => rfl)
      (fun _ => rfl) fun _ _ => ?_
    exact decide_eq_false hkind.symm
  | retryRefused | retryFound | retryAllowed | retryNotNeeded => rfl

theorem ProcStep.ne_idle {o : Oracle} {w w' : World} {p p' : Proc} (h : ProcStep cal o w p w' p') :
    p' ≠ .idle := by
  cases h with
  | @request _ _ out => cases out <;> simp [RequestOutcome.toProc]
  | handler origin =>
    exact origin.resume_induction (P := fun p => p ≠ .idle) (by simp) (by simp) (by simp)
  | retryRefused | retryFound | retryAllowed | retryNotNeeded => simp

/-- What holds of every party that has begun with a request, in terms of that request. -/
def Begun (Q : Request → Proc → Prop) (as : List (Action R)) (s : Backend R) : Prop :=
  ∀ r request, .begin r request ∈ as → s.procs r ≠ .idle ∧ Q request (s.procs r)

/-- A property of parties and their requests that holds at the start of a request and that
commands preserve holds of every party that has begun. -/
theorem Begun.step {Q : Request → Proc → Prop} {as : List (Action R)}
    (hstart : ∀ request, Q request (.request request.start))
    (hexec : ∀ request r o, a = .exec r o →
      ProcStep cal o s.world (s.procs r) s'.world (s'.procs r) → Q request (s.procs r) →
        Q request (s'.procs r))
    (h : Begun Q as s) (hstep : BackendStep cal s a s') : Begun Q (as ++ [a]) s' := by
  intro r request hmem
  rcases List.mem_append.1 hmem with hmem | hmem
  · obtain ⟨hne, hQ⟩ := h r request hmem
    cases hstep.party r with
    | rests hproc => exact hproc ▸ ⟨hne, hQ⟩
    | starts hidle _ => exact absurd hidle hne
    | issues o ha hp => exact ⟨hp.ne_idle, hexec request r o ha hp hQ⟩
  · obtain rfl := List.mem_singleton.1 hmem
    cases hstep.party r with
    | rests _ hbegin _ => exact absurd rfl (hbegin request)
    | starts _ hs =>
      generalize s'.procs r = p, s'.world = w at hs
      cases hs
      exact ⟨nofun, hstart request⟩
    | issues _ ha _ => cases ha

/-- A party that serves a request, other than reading a booking again, has begun with a request of
that kind. -/
def Served (as : List (Action R)) (s : Backend R) : Prop :=
  ∀ r stage, s.procs r = .request stage → stage.kind ≠ .rereading →
    ∃ request, .begin r request ∈ as ∧ request.start.kind = stage.kind

theorem Served.step {as : List (Action R)} (h : Served as s) (hstep : BackendStep cal s a s') :
    Served (as ++ [a]) s' := by
  intro r stage hp hkind
  have hold : s.procs r = .request stage →
      ∃ request, .begin r request ∈ as ++ [a] ∧ request.start.kind = stage.kind := fun hp =>
    (h r stage hp hkind).imp fun _ h => ⟨List.mem_append_left _ h.1, h.2⟩
  cases hstep.party r with
  | rests hproc => exact hold (hproc ▸ hp)
  | starts _ hs =>
    rw [hp] at hs
    generalize s'.world = w at hs
    cases hs
    exact ⟨_, List.mem_append_right _ List.mem_cons_self, rfl⟩
  | issues o _ hproc =>
    generalize hq : s.procs r = q at hproc
    generalize s'.procs r = p, s'.world = w at hp hproc
    -- a stage comes from a stage of its kind; a handler and a retry lead to none but a read
    cases hproc with
    | @request _ stage₀ out hexec =>
      cases out with
      | finished => cases hp
      | next stage' =>
        cases hp
        have hkind' := (RequestStage.kind_of_exec hexec).resolve_right hkind
        rw [hkind'] at hkind ⊢
        exact (h r stage₀ hq hkind).imp fun _ h => ⟨List.mem_append_left _ h.1, h.2⟩
    | handler origin =>
      refine absurd hp (origin.resume_induction (P := fun p => p ≠ .request stage) (by simp)
        (by simp) fun actor bookingId he => ?_)
      cases he
      exact hkind rfl
    | retryRefused | retryFound | retryAllowed | retryNotNeeded => cases hp

theorem Backend.launch_eq_some {r : R} {w : World} {p : Proc} (h : s.launch r w p = some s') :
    s.procs r = .idle ∧ s' = s.put r w p := by
  unfold launch at h
  split at h
  · rename_i hidle
    exact ⟨hidle, (Option.some.inj h).symm⟩
  · cases h

/-- **The effect of an action.** -/
theorem backend_step_cases (h : (backend R cal).step s a = some s') :
    BackendStep cal s a s' := by
  cases a with
  | begin r request =>
    obtain ⟨hidle, rfl⟩ := Backend.launch_eq_some h
    exact .launch hidle (.request r request)
  | beginRetry r actor bookingId =>
    obtain ⟨hidle, rfl⟩ := Backend.launch_eq_some h
    exact .launch hidle (.retry r actor bookingId)
  | startJob r index =>
    simp only [backend, Backend.step] at h
    split at h
    · cases h
    · rename_i j hj
      obtain ⟨hidle, rfl⟩ := Backend.launch_eq_some h
      exact .launch hidle (.job r index j hj)
  | exec r o =>
    obtain ⟨⟨w, p⟩, hexec, rfl⟩ := Option.map_eq_some_iff.1 h
    exact .exec (Proc.step_of_exec hexec)
  | advance ms => cases h; exact .surroundings (.advance ms)
  | setProfiles profiles => cases h; exact .surroundings (.setProfiles profiles)
  | setAvailability hrUserId config => cases h; exact .surroundings (.setAvailability _ _)
  | complete bookingId => cases h; exact .surroundings (.complete bookingId)
  | deleteBooking bookingId => cases h; exact .surroundings (.deleteBooking bookingId)
  | deleteMeeting bookingId => cases h; exact .surroundings (.deleteMeeting bookingId)

/-! ### Stored bookings -/

theorem mem_completeBooking {c : Collection Booking} {now : ℤ} {id : ObjectId} {b : Booking}
    (h : b ∈ completeBooking now id c) : b ∈ c ∨ ∃ d ∈ c, isDue now d ∧ d.complete = b := by
  unfold completeBooking at h
  cases hupd : c.update id fun b => if isDue now b then b.complete else b with
  | none => exact .inl (by simpa [hupd] using h)
  | some c' =>
    rw [hupd, Option.getD_some] at h
    rcases (Collection.mem_update hupd).1 h with ⟨hb, -⟩ | ⟨d, hd, -, hdb⟩
    · exact .inl hb
    · split_ifs at hdb with hdue
      · exact .inr ⟨d, hd, hdue, hdb⟩
      · exact .inl (hdb ▸ hd)

/-- Where a booking that is stored after an action comes from: it was stored before, or a command
has just inserted, saved or moved it, or the sweep has completed it. -/
inductive StoredStep (s : Backend R) : Action R → Booking → Prop
  | kept {a : Action R} {b : Booking} (h : b ∈ s.world.bookings) : StoredStep s a b
  | inserted {r : R} {o : Oracle} {id : ObjectId} {args : InsertBookingArgs}
      (hp : s.procs r = .request (.insert id args))
      (hnew : ∀ b ∈ s.world.bookings, b.id ≠ id) : StoredStep s (.exec r o) (newBooking id args)
  | saved {r : R} {o : Oracle} {actor : Actor} {loaded : Booking} {now : ℤ} {role : CancelledBy}
      {reason : Option String} {b : Booking}
      (hp : s.procs r = .request (.saveCancel actor loaded now role reason))
      (hb : b ∈ s.world.bookings) (hid : b.id = loaded.id) :
      StoredStep s (.exec r o) (saveCancelled loaded (loaded.cancel now role reason) b)
  | moved {r : R} {o : Oracle} {actor : Actor} {args : MoveArgs} {b : Booking}
      {c : Collection Booking} (hp : s.procs r = .request (.move actor args))
      (hb : b ∈ s.world.bookings) (hid : b.id = args.booking.id) (hactive : b.isActive)
      (hupd : s.world.bookings.update args.booking.id args.apply = some c) :
      StoredStep s (.exec r o) (args.apply b)
  | completed {id : ObjectId} {b : Booking} (hb : b ∈ s.world.bookings)
      (hdue : isDue s.world.now b) : StoredStep s (.complete id) b.complete

omit [DecidableEq R] in
theorem BookingWrite.storedStep {r : R} {o : Oracle} {stage : RequestStage}
    {c : Collection Booking} (hp : s.procs r = .request stage)
    (h : BookingWrite s.world.bookings stage c) : ∀ b ∈ c, StoredStep s (.exec r o) b := by
  intro b hb
  cases h with
  | insert id args hins =>
    rcases (Collection.mem_insert hins).1 hb with hb | rfl
    · exact .kept hb
    · exact .inserted hp fun b hb => ((Collection.insert_eq_some.1 hins).1 b hb).1
  | withdraw id => exact .kept (Collection.mem_delete.1 hb).1
  | save actor loaded now role reason hupd =>
    rcases (Collection.mem_update hupd).1 hb with ⟨hb, -⟩ | ⟨d, hd, hid, rfl⟩
    · exact .kept hb
    · exact .saved hp hd hid
  | move actor args stored hmem hid hactive hupd =>
    rcases (Collection.mem_update hupd).1 hb with ⟨hb, -⟩ | ⟨d, hd, hdid, rfl⟩
    · exact .kept hb
    · obtain rfl : d = stored := Collection.eq_of_docId hd hmem (hdid.trans hid.symm)
      exact .moved hp hd hdid hactive hupd

/-- **What happens to a stored booking** in an action. -/
theorem BackendStep.storedStep (h : BackendStep cal s a s') :
    ∀ b ∈ s'.world.bookings, StoredStep s a b := by
  intro b hb
  cases h with
  | launch _ hstart =>
    refine .kept ?_
    cases hstart <;> exact hb
  | @exec r o w p hproc =>
    have hb' : b ∈ w.bookings := hb
    generalize hp : s.procs r = q at hproc
    cases hproc with
    | request hexec =>
      cases RequestStage.effect_of_exec hexec with
      | quiet _ hquiet => exact .kept (hquiet.bookings ▸ hb')
      | construct => exact .kept hb'
      | write hw => exact hw.storedStep hp b hb'
    | @handler w₁ stage out origin hexec =>
      refine .kept ?_
      rwa [(origin.resume_sameStore w₁ out).bookings,
        (HandlerStage.frame_of_exec hexec).bookings] at hb'
    | retryRefused | retryFound | retryAllowed | retryNotNeeded => exact .kept hb'
  | surroundings hsur =>
    cases hsur with
    | advance | setProfiles | setAvailability | deleteMeeting => exact .kept hb
    | complete id =>
      rcases mem_completeBooking hb with hb | ⟨d, hd, hdue, rfl⟩
      · exact .kept hb
      · exact .completed hd hdue
    | deleteBooking id => exact .kept (Collection.mem_delete.1 hb).1

theorem BackendStep.persists {b : Booking} (h : BackendStep cal s a s')
    (hcreating : ∀ r, (s.procs r).isServing .creation = false) (ha : a ≠ .deleteBooking b.id)
    (hb : b ∈ s.world.bookings) : ∃ b' ∈ s'.world.bookings, b'.id = b.id := by
  -- the writes that update a booking keep its identity
  have hupdate : ∀ {c : Collection Booking} {id : ObjectId} {f : Booking → Booking},
      s.world.bookings.update id f = some c → (f b).id = b.id → ∃ b' ∈ c, b'.id = b.id := by
    intro c id f hc hf
    by_cases hid : b.id = id
    · exact ⟨f b, (Collection.mem_update hc).2 (.inr ⟨b, hb, hid, rfl⟩), hf⟩
    · exact ⟨b, (Collection.mem_update hc).2 (.inl ⟨hb, hid⟩), rfl⟩
  cases h with
  | launch _ hstart =>
    refine ⟨b, ?_, rfl⟩
    cases hstart <;> exact hb
  | @exec r o w p hproc =>
    show ∃ b' ∈ w.bookings, b'.id = b.id
    have hcreating := hcreating r
    generalize s.procs r = q at hproc hcreating
    cases hproc with
    | request hexec =>
      cases RequestStage.effect_of_exec hexec with
      | quiet _ hquiet => exact ⟨b, hquiet.bookings ▸ hb, rfl⟩
      | construct => exact ⟨b, hb, rfl⟩
      | write hw =>
        cases hw with
        -- a creation that stands down would take its own booking away
        | insert | withdraw => cases hcreating
        | save actor loaded now role reason hupd => exact hupdate hupd rfl
        | move actor args stored hmem hid hactive hupd => exact hupdate hupd rfl
    | @handler w₁ stage out origin hexec =>
      refine ⟨b, ?_, rfl⟩
      rwa [(origin.resume_sameStore w₁ out).bookings, (HandlerStage.frame_of_exec hexec).bookings]
    | retryRefused | retryFound | retryAllowed | retryNotNeeded => exact ⟨b, hb, rfl⟩
  | surroundings hsur =>
    cases hsur with
    | advance | setProfiles | setAvailability | deleteMeeting => exact ⟨b, hb, rfl⟩
    | complete id =>
      show ∃ b' ∈ completeBooking s.world.now id s.world.bookings, b'.id = b.id
      unfold completeBooking
      cases hupd : s.world.bookings.update id
          fun b => if isDue s.world.now b then b.complete else b with
      | none => exact ⟨b, hb, rfl⟩
      | some c => exact hupdate hupd (by split_ifs <;> rfl)
    | deleteBooking id =>
      refine ⟨b, Collection.mem_delete_decide.2 ⟨hb, ?_⟩, rfl⟩
      rintro rfl
      exact ha rfl

end Actions

end HrBooking
