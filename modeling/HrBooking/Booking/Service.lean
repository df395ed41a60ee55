import HrBooking.Booking.Rules

/-!
# The booking services

`createBooking`, `cancelBooking` and `rescheduleBooking` of `services/booking.service.ts`, the
schedule update of `services/availability.service.ts` and the sweep of `jobs/lifecycle.job.ts`,
each as one call on the shared state.  The e-mails at the end of a request never fail it and write
nothing the services read; they are left out.
-/

namespace HrBooking

/-! ### Queues -/

/-- `meetingQueue.add` -/
def addMeetingJob (o : Oracle) (name : MeetingJobName) (bookingId : ObjectId) : Service Unit :=
  fun w =>
    if o.meetingQueueFails then (.error .internal, w)
    else
      (.ok (),
        { w with meetingQueue := w.meetingQueue ++ [⟨name, bookingId, meetingAttempts⟩] })

/-- `scheduleReminder` ; a job whose identity is already queued is not added again. -/
def scheduleReminder (o : Oracle) (bookingId : ObjectId) (startAt : ℤ) : Service Unit := fun w =>
  if startAt - reminderLeadMs - w.now ≤ 0 then (.ok (), w)
  else if o.reminderQueueFails then (.error .internal, w)
  else if ∃ job ∈ w.reminderQueue, job.jobId = reminderJobId bookingId then (.ok (), w)
  else
    (.ok (),
      { w with
        reminderQueue := w.reminderQueue ++
          [⟨reminderJobId bookingId, bookingId, startAt - reminderLeadMs⟩] })

/-- `removeReminder` ; a failure is swallowed. -/
def removeReminder (o : Oracle) (bookingId : ObjectId) : Service Unit := fun w =>
  if o.reminderRemoveFails then (.ok (), w)
  else
    (.ok (),
      { w with
        reminderQueue := w.reminderQueue.filter fun job => job.jobId ≠ reminderJobId bookingId })

/-- `dispatchBookingCreated` -/
def dispatchBookingCreated (o : Oracle) (booking : Booking) : Service Unit := do
  addMeetingJob o .create booking.id
  scheduleReminder o booking.id booking.startAt

/-- `dispatchBookingCancelled` -/
def dispatchBookingCancelled (o : Oracle) (booking : Booking) : Service Unit := do
  addMeetingJob o .cancel booking.id
  removeReminder o booking.id

/-- `dispatchBookingRescheduled` -/
def dispatchBookingRescheduled (o : Oracle) (booking : Booking) : Service Unit := do
  addMeetingJob o .sync booking.id
  removeReminder o booking.id
  scheduleReminder o booking.id booking.startAt

/-! ### Reads -/

/-- `Booking.findById`, answered with an error when there is none. -/
def findBooking (bookings : Collection Booking) (bookingId : ObjectId) : Except AppError Booking :=
  match bookings.findById bookingId with
  | none => .error (.notFound "Booking not found.")
  | some booking => .ok booking

theorem findBooking_eq_ok {bookings : Collection Booking} {bookingId : ObjectId}
    {booking : Booking} :
    findBooking bookings bookingId = .ok booking ↔ booking ∈ bookings ∧ booking.id = bookingId := by
  unfold findBooking
  refine Iff.trans ?_ Collection.findById_eq_some
  cases bookings.findById bookingId <;> simp

/-- `getBookingForActor` -/
def getBookingForActor (actor : Actor) (bookingId : ObjectId) (w : World) :
    Except AppError Booking := do
  let booking ← findBooking w.bookings bookingId
  let _ ← assertParticipant actor booking
  return booking

/-! ### Creation -/

section

variable (cal : TimezoneName → Calendar) (o : Oracle)

/-- The checks of `createBooking`. -/
def createArgs (actor : Actor) (input : CreateBookingInput) (w : World) :
    Except AppError InsertBookingArgs := do
  let profile ← bookableProfile w.profiles actor input
  let availability := getAvailabilityForHr w.availabilities profile.userId
  let args ← offeredArgs cal availability w.now actor profile input
  assertClientIsFree w.bookings o.pick actor.id args.startAt args.endAt none
  assertConsultantIsFree w.bookings o.pick args.hrUserId args.startAt args.endAt none
  return args

/-- `insertBooking` : the insert, the sweep after it, and the new booking's standing down. -/
def insertBooking (args : InsertBookingArgs) : Service Booking := fun w =>
  let booking := newBooking o.newId args
  let w := { w with issuedIds := o.newId :: w.issuedIds }
  match w.bookings.insert booking with
  | none => (.error .slotTaken, w)
  | some bookings =>
    match findOverlappingBooking bookings o.pick (.hr args.hrUserId) args.startAt args.endAt
        (some booking.id) with
    | none => (.ok booking, { w with bookings })
    | some conflict =>
      if standsDown conflict booking then
        (.error .slotTaken, { w with bookings := bookings.delete fun b => b.id = booking.id })
      else (.ok booking, { w with bookings })

/-- `createBooking` -/
def createBooking (actor : Actor) (input : CreateBookingInput) : Service Booking := do
  let args ← Service.check (createArgs cal o actor input)
  let booking ← insertBooking o args
  dispatchBookingCreated o booking
  return booking

/-! ### Cancellation -/

/-- `booking.save()` of `cancelBooking` ; a document that is gone cannot be saved. -/
def saveBooking (loaded current : Booking) : Service Unit := fun w =>
  match w.bookings.findById loaded.id with
  | none => (.error .internal, w)
  | some _ =>
    match w.bookings.update loaded.id (saveCancelled loaded current) with
    | none => (.error .internal, w)
    | some bookings => (.ok (), { w with bookings })

/-- `recordAuditLog` of `cancelBooking` ; a failure is swallowed. -/
def recordCancellation (actor : Actor) (role : CancelledBy) (booking : Booking)
    (reason : Option String) : Service Unit := fun w =>
  if role ≠ .admin ∨ o.auditFails then (.ok (), w)
  else (.ok (), { w with auditLog := w.auditLog ++ [⟨actor.id, actor.role, booking.id, reason⟩] })

/-- The booking, the actor's role and the time of a cancellation that may go ahead. -/
def cancelArgs (actor : Actor) (bookingId : ObjectId) (w : World) :
    Except AppError (Booking × CancelledBy × ℤ) := do
  let booking ← findBooking w.bookings bookingId
  let role ← assertCancellable actor booking w.now
  return (booking, role, w.now)

/-- `cancelBooking` -/
def cancelBooking (actor : Actor) (bookingId : ObjectId) (reason : Option String) :
    Service Booking := do
  let (booking, role, now) ← Service.check (cancelArgs actor bookingId)
  let cancelled := booking.cancel now role reason
  saveBooking booking cancelled
  recordCancellation o actor role cancelled reason
  dispatchBookingCancelled o cancelled
  Service.check (getBookingForActor actor booking.id)

/-! ### Rescheduling -/

/-- The checks of `rescheduleBooking`. -/
def rescheduleArgs (actor : Actor) (bookingId : ObjectId) (input : RescheduleBookingInput)
    (w : World) : Except AppError MoveArgs := do
  let booking ← findBooking w.bookings bookingId
  let _ ← assertReschedulable actor booking input w.now
  let availability := getAvailabilityForHr w.availabilities booking.hrUserId
  let args ← moveArgs cal availability w.now booking input
  assertClientIsFree w.bookings o.pick booking.userId args.startAt args.endAt (some booking.id)
  assertConsultantIsFree w.bookings o.pick booking.hrUserId args.startAt args.endAt
    (some booking.id)
  return args

/-- `findOneAndUpdate` of `rescheduleBooking` : only a booking that is still active is moved. -/
def moveBooking (args : MoveArgs) : Service Booking := fun w =>
  match w.bookings.findById args.booking.id with
  | none => (.error (.conflict "This booking can no longer be rescheduled."), w)
  | some stored =>
    if ¬ stored.isActive then
      (.error (.conflict "This booking can no longer be rescheduled."), w)
    else
      match w.bookings.update args.booking.id args.apply with
      | none => (.error .slotTaken, w)
      | some bookings => (.ok (args.apply stored), { w with bookings })

/-- `rescheduleBooking` -/
def rescheduleBooking (actor : Actor) (bookingId : ObjectId) (input : RescheduleBookingInput) :
    Service Booking := do
  let args ← Service.check (rescheduleArgs cal o actor bookingId input)
  let moved ← moveBooking args
  dispatchBookingRescheduled o moved
  Service.check (getBookingForActor actor moved.id)

end

/-! ### Schedules and the sweep -/

/-- `updateAvailability` with a schedule the validator accepted. -/
def updateAvailability (hrUserId : ObjectId) (config : SlotConfig) (w : World) : World :=
  { w with
    availabilities := fun id =>
      if id = hrUserId then some { config with hrUserId } else w.availabilities id }

/-- The sweep's update of one document. -/
def completeBooking (now : ℤ) (bookingId : ObjectId) (bookings : Collection Booking) :
    Collection Booking :=
  (bookings.update bookingId fun b => if isDue now b then b.complete else b).getD bookings

/-- `updateMany` of the lifecycle sweep, document by document. -/
def lifecycleSweep (w : World) : World :=
  { w with
    bookings := (w.bookings.docs.map Booking.id).foldl
      (fun bookings id => completeBooking w.now id bookings) w.bookings }

/-! ### What the checks ask for -/

section Checks

variable {cal : TimezoneName → Calendar} {o : Oracle} {w : World}

theorem createArgs_eq_ok {actor : Actor} {input : CreateBookingInput} {args : InsertBookingArgs} :
    createArgs cal o actor input w = .ok args ↔
      ∃ profile, bookableProfile w.profiles actor input = .ok profile ∧
        offeredArgs cal (getAvailabilityForHr w.availabilities profile.userId) w.now actor profile
          input = .ok args ∧
        IsFree w.bookings (.user actor.id) args.startAt args.endAt none ∧
        IsFree w.bookings (.hr args.hrUserId) args.startAt args.endAt none := by
  simp only [createArgs, bind_eq_ok]
  constructor
  · rintro ⟨profile, hprofile, args', hoffered, ⟨⟩, hclient, ⟨⟩, hconsultant, hargs⟩
    cases hargs
    exact ⟨profile, hprofile, hoffered, assertClientIsFree_eq_ok.1 hclient,
      assertConsultantIsFree_eq_ok.1 hconsultant⟩
  · rintro ⟨profile, hprofile, hoffered, hclient, hconsultant⟩
    exact ⟨profile, hprofile, args, hoffered, (), assertClientIsFree_eq_ok.2 hclient, (),
      assertConsultantIsFree_eq_ok.2 hconsultant, rfl⟩

theorem rescheduleArgs_eq_ok {actor : Actor} {id : ObjectId} {input : RescheduleBookingInput}
    {args : MoveArgs} :
    rescheduleArgs cal o actor id input w = .ok args ↔
      ∃ booking role, booking ∈ w.bookings ∧ booking.id = id ∧
        assertReschedulable actor booking input w.now = .ok role ∧
        moveArgs cal (getAvailabilityForHr w.availabilities booking.hrUserId) w.now booking input =
          .ok args ∧
        IsFree w.bookings (.user booking.userId) args.startAt args.endAt (some booking.id) ∧
        IsFree w.bookings (.hr booking.hrUserId) args.startAt args.endAt (some booking.id) := by
  simp only [rescheduleArgs, bind_eq_ok]
  constructor
  · rintro ⟨booking, hfind, role, hrole, args', hmove, ⟨⟩, hclient, ⟨⟩, hconsultant, hargs⟩
    cases hargs
    obtain ⟨hmem, hid⟩ := findBooking_eq_ok.1 hfind
    exact ⟨booking, role, hmem, hid, hrole, hmove, assertClientIsFree_eq_ok.1 hclient,
      assertConsultantIsFree_eq_ok.1 hconsultant⟩
  · rintro ⟨booking, role, hmem, hid, hrole, hmove, hclient, hconsultant⟩
    exact ⟨booking, findBooking_eq_ok.2 ⟨hmem, hid⟩, role, hrole, args, hmove, (),
      assertClientIsFree_eq_ok.2 hclient, (), assertConsultantIsFree_eq_ok.2 hconsultant, rfl⟩

theorem insertBooking_of_free {args : InsertBookingArgs}
    (hfree : IsFree w.bookings (.hr args.hrUserId) args.startAt args.endAt none) :
    insertBooking o args w =
      match w.bookings.insert (newBooking o.newId args) with
      | none => (.error .slotTaken, { w with issuedIds := o.newId :: w.issuedIds })
      | some bookings => (.ok (newBooking o.newId args),
          { w with issuedIds := o.newId :: w.issuedIds, bookings }) := by
  unfold insertBooking
  cases hins : w.bookings.insert (newBooking o.newId args) with
  | none => simp only [hins]
  | some c =>
    -- the sweep looks at the old bookings only, and the check has found none
    have hnone : findOverlappingBooking c o.pick (.hr args.hrUserId) args.startAt args.endAt
        (some (newBooking o.newId args).id) = none := by
      refine (findOverlappingBooking_eq_none _).2 fun b hb hover => ?_
      rcases (Collection.mem_insert hins).1 hb with hb | rfl
      · exact absurd (hfree b hb hover) nofun
      · rfl
    simp only [hins, hnone]

end Checks

/-! ### What the calls write -/

section Calls

variable {o : Oracle} {w : World}

theorem addMeetingJob_within (name : MeetingJobName) (id : ObjectId) :
    (addMeetingJob o name id).Within World.SameStore := by
  intro w
  unfold addMeetingJob
  split_ifs <;> exact .of_queues _ _ _ _

theorem scheduleReminder_within (id : ObjectId) (t : ℤ) :
    (scheduleReminder o id t).Within World.SameStore := by
  intro w
  unfold scheduleReminder
  split_ifs <;> exact .of_queues _ _ _ _

theorem removeReminder_within (id : ObjectId) :
    (removeReminder o id).Within World.SameStore := by
  intro w
  unfold removeReminder
  split_ifs <;> exact .of_queues _ _ _ _

theorem recordCancellation_within (actor : Actor) (role : CancelledBy) (b : Booking)
    (reason : Option String) :
    (recordCancellation o actor role b reason).Within World.SameStore := by
  intro w
  unfold recordCancellation
  split_ifs <;> exact .of_queues _ _ _ _

theorem dispatchBookingCreated_within (b : Booking) :
    (dispatchBookingCreated o b).Within World.SameStore :=
  .bind (addMeetingJob_within _ _) fun _ => scheduleReminder_within _ _

theorem dispatchBookingCancelled_within (b : Booking) :
    (dispatchBookingCancelled o b).Within World.SameStore :=
  .bind (addMeetingJob_within _ _) fun _ => removeReminder_within _

theorem dispatchBookingRescheduled_within (b : Booking) :
    (dispatchBookingRescheduled o b).Within World.SameStore :=
  .bind (addMeetingJob_within _ _) fun _ => .bind (removeReminder_within _)
    fun _ => scheduleReminder_within _ _

theorem dispatchBookingCreated_eq_ok (b : Booking) (h : o.QueuesAnswer) :
    (dispatchBookingCreated o b w).1 = .ok () := by
  have hmeeting : addMeetingJob o .create b.id w = (.ok (), _) := if_neg (by simp [h.1])
  rw [dispatchBookingCreated, Service.bind_of_ok hmeeting]
  unfold scheduleReminder
  split_ifs with hdue hfails
  · rfl
  · exact absurd hfails (by simp [h.2])
  · rfl
  · rfl

theorem addMeetingJob_cases (name : MeetingJobName) (id : ObjectId) :
    (o.meetingQueueFails = true ∧ addMeetingJob o name id w = (.error .internal, w)) ∨
      (o.meetingQueueFails = false ∧ addMeetingJob o name id w =
        (.ok (), { w with meetingQueue := w.meetingQueue ++ [⟨name, id, meetingAttempts⟩] })) := by
  unfold addMeetingJob
  cases o.meetingQueueFails <;> simp

theorem scheduleReminder_cases (id : ObjectId) (t : ℤ) :
    ((0 < t - reminderLeadMs - w.now ∧ o.reminderQueueFails = true) ∧
        scheduleReminder o id t w = (.error .internal, w)) ∨
      (¬ (0 < t - reminderLeadMs - w.now ∧ o.reminderQueueFails = true) ∧
        ∃ reminderQueue, scheduleReminder o id t w = (.ok (), { w with reminderQueue })) := by
  unfold scheduleReminder
  by_cases hdue : t - reminderLeadMs - w.now ≤ 0
  · exact .inr ⟨fun h => absurd h.1 (not_lt.2 hdue), w.reminderQueue, if_pos hdue⟩
  · rw [if_neg hdue]
    cases hfails : o.reminderQueueFails with
    | true => exact .inl ⟨⟨not_le.1 hdue, rfl⟩, rfl⟩
    | false =>
      refine .inr ⟨fun h => Bool.noConfusion h.2, ?_⟩
      rw [if_neg Bool.false_ne_true]
      split_ifs
      · exact ⟨w.reminderQueue, rfl⟩
      · exact ⟨_, rfl⟩

theorem scheduleReminder_eq_ok_iff (id : ObjectId) (t : ℤ) :
    (scheduleReminder o id t w).1 = .ok () ↔
      (0 < t - reminderLeadMs - w.now → o.reminderQueueFails = false) := by
  rcases scheduleReminder_cases (o := o) (w := w) id t with
    ⟨⟨hdue, hfails⟩, hschedule⟩ | ⟨hnot, queue, hschedule⟩
  · rw [hschedule, hfails]
    exact iff_of_false nofun fun h => absurd (h hdue) nofun
  · rw [hschedule]
    exact iff_of_true rfl fun hdue => Bool.eq_false_iff.2 fun h => hnot ⟨hdue, h⟩

theorem removeReminder_eq_ok (id : ObjectId) :
    ∃ reminderQueue, removeReminder o id w = (.ok (), { w with reminderQueue }) := by
  unfold removeReminder
  split_ifs
  · exact ⟨w.reminderQueue, rfl⟩
  · exact ⟨_, rfl⟩

theorem recordCancellation_eq_ok (actor : Actor) (role : CancelledBy) (b : Booking)
    (reason : Option String) :
    ∃ auditLog, recordCancellation o actor role b reason w = (.ok (), { w with auditLog }) := by
  unfold recordCancellation
  split_ifs
  · exact ⟨w.auditLog, rfl⟩
  · exact ⟨_, rfl⟩

theorem saveBooking_cases (loaded current : Booking) :
    (∃ e, saveBooking loaded current w = (.error e, w)) ∨
      ∃ stored c, stored ∈ w.bookings ∧ stored.id = loaded.id ∧
        w.bookings.update loaded.id (saveCancelled loaded current) = some c ∧
        saveBooking loaded current w = (.ok (), { w with bookings := c }) := by
  unfold saveBooking
  cases hfind : w.bookings.findById loaded.id with
  | none => exact .inl ⟨_, rfl⟩
  | some stored =>
    obtain ⟨hmem, hid⟩ := Collection.findById_eq_some.1 hfind
    cases h : w.bookings.update loaded.id (saveCancelled loaded current) with
    | none => exact .inl ⟨_, rfl⟩
    | some c => exact .inr ⟨stored, c, hmem, hid, rfl, rfl⟩

theorem moveBooking_cases (args : MoveArgs) :
    (∃ e, moveBooking args w = (.error e, w)) ∨
      ∃ stored c, stored ∈ w.bookings ∧ stored.id = args.booking.id ∧ stored.isActive ∧
        w.bookings.update args.booking.id args.apply = some c ∧
        moveBooking args w = (.ok (args.apply stored), { w with bookings := c }) := by
  unfold moveBooking
  cases hfind : w.bookings.findById args.booking.id with
  | none => exact .inl ⟨_, rfl⟩
  | some stored =>
    obtain ⟨hmem, hid⟩ := Collection.findById_eq_some.1 hfind
    by_cases ha : stored.isActive
    · simp only [ha, not_true_eq_false, if_false]
      cases h : w.bookings.update args.booking.id args.apply with
      | none => exact .inl ⟨_, rfl⟩
      | some c => exact .inr ⟨stored, c, hmem, hid, ha, rfl, rfl⟩
    · exact .inl ⟨_, if_pos ha⟩

/-- A stored booking is saved unless the index refuses it. -/
theorem saveBooking_of_mem {loaded stored : Booking} (hmem : stored ∈ w.bookings)
    (hid : stored.id = loaded.id) (current : Booking) :
    saveBooking loaded current w =
      match w.bookings.update loaded.id (saveCancelled loaded current) with
      | none => (.error .internal, w)
      | some bookings => (.ok (), { w with bookings }) := by
  have hfind : w.bookings.findById loaded.id = some stored :=
    Collection.findById_eq_some.2 ⟨hmem, hid⟩
  simp only [saveBooking, hfind]

/-- An active booking is moved unless the index refuses it. -/
theorem moveBooking_of_active {args : MoveArgs} {stored : Booking} (hmem : stored ∈ w.bookings)
    (hid : stored.id = args.booking.id) (hactive : stored.isActive) :
    moveBooking args w =
      match w.bookings.update args.booking.id args.apply with
      | none => (.error .slotTaken, w)
      | some bookings => (.ok (args.apply stored), { w with bookings }) := by
  have hfind : w.bookings.findById args.booking.id = some stored :=
    Collection.findById_eq_some.2 ⟨hmem, hid⟩
  simp only [moveBooking, hfind, hactive, not_true_eq_false, if_false]

end Calls

/-! ### What the services do -/

section Services

variable {cal : TimezoneName → Calendar} {o : Oracle} {w : World}

theorem getBookingForActor_of_mem {actor : Actor} {b : Booking} {role : CancelledBy}
    (hb : b ∈ w.bookings) (hrole : assertParticipant actor b = .ok role) :
    getBookingForActor actor b.id w = .ok b := by
  have hfind : findBooking w.bookings b.id = .ok b := findBooking_eq_ok.2 ⟨hb, rfl⟩
  simp only [getBookingForActor, hfind]
  show (assertParticipant actor b >>= fun _ => pure b) = _
  rw [hrole]
  rfl

theorem bind_getBookingForActor {call : Service Unit} {actor : Actor} {b : Booking}
    {role : CancelledBy} (hcall : call.Within World.SameStore) (hb : b ∈ w.bookings)
    (hrole : assertParticipant actor b = .ok role) :
    (call >>= fun _ => Service.check (getBookingForActor actor b.id)) w =
      (call >>= fun _ => pure b) w := by
  have hsame := hcall w
  simp only [Service.bind_apply]
  rcases hw : call w with ⟨e | _, w'⟩
  · rfl
  · rw [hw] at hsame
    have hb' : b ∈ w'.bookings := hsame.bookings ▸ hb
    simp only [Service.check_apply, getBookingForActor_of_mem hb' hrole, Service.pure_apply]

variable (cal o w)

/-- **A creation** is refused by its checks or the index, or inserts the booking and goes on to its
dispatches. -/
theorem createBooking_cases (actor : Actor) (input : CreateBookingInput) :
    ((∃ e w₁, createBooking cal o actor input w = (.error e, w₁) ∧
        (w₁ = w ∨ w₁ = { w with issuedIds := o.newId :: w.issuedIds })) ∧
        ∀ args, createArgs cal o actor input w = .ok args →
          w.bookings.insert (newBooking o.newId args) = none) ∨
      ∃ args c, createArgs cal o actor input w = .ok args ∧
        w.bookings.insert (newBooking o.newId args) = some c ∧
        createBooking cal o actor input w =
          (dispatchBookingCreated o (newBooking o.newId args) >>=
            fun _ => pure (newBooking o.newId args))
            { w with issuedIds := o.newId :: w.issuedIds, bookings := c } := by
  unfold createBooking
  cases hargs : createArgs cal o actor input w with
  | error e =>
    exact .inl ⟨⟨e, w, Service.bind_of_error (by rw [Service.check_apply, hargs]), .inl rfl⟩,
      fun _ h => by cases h⟩
  | ok args =>
    rw [Service.bind_of_ok (by rw [Service.check_apply, hargs])]
    obtain ⟨profile, -, hoffered, -, hconsultant⟩ := createArgs_eq_ok.1 hargs
    have hins := insertBooking_of_free (o := o) hconsultant
    split at hins
    · rename_i hnone
      refine .inl ⟨⟨_, _, Service.bind_of_error hins, .inr rfl⟩, fun _ h => ?_⟩
      cases h
      exact hnone
    · rename_i c hc
      exact .inr ⟨args, c, rfl, hc, Service.bind_of_ok hins⟩

/-- **A cancellation** is refused by its checks or the index, or saves the booking and goes on to
its dispatches. -/
theorem cancelBooking_cases (actor : Actor) (id : ObjectId) (reason : Option String) :
    ((∃ e, cancelBooking o actor id reason w = (.error e, w)) ∧
        ∀ booking role, cancelArgs actor id w = .ok (booking, role, w.now) →
          w.bookings.update booking.id
            (saveCancelled booking (booking.cancel w.now role reason)) = none) ∨
      ∃ booking role c, cancelArgs actor id w = .ok (booking, role, w.now) ∧
        booking ∈ w.bookings ∧ booking.id = id ∧ booking.isActive ∧
        w.bookings.update booking.id
          (saveCancelled booking (booking.cancel w.now role reason)) = some c ∧
        cancelBooking o actor id reason w =
          (recordCancellation o actor role (booking.cancel w.now role reason) reason >>= fun _ =>
            dispatchBookingCancelled o (booking.cancel w.now role reason) >>= fun _ =>
              pure (booking.cancel w.now role reason)) { w with bookings := c } := by
  unfold cancelBooking
  cases hargs : cancelArgs actor id w with
  | error e =>
    exact .inl ⟨⟨e, Service.bind_of_error (by rw [Service.check_apply, hargs])⟩,
      fun _ _ h => by cases h⟩
  | ok args =>
    rw [Service.bind_of_ok (by rw [Service.check_apply, hargs])]
    obtain ⟨booking, hfind, hargs⟩ := bind_eq_ok.1 hargs
    obtain ⟨role, hrole, hargs⟩ := bind_eq_ok.1 hargs
    cases hargs
    obtain ⟨hmem, hid⟩ := findBooking_eq_ok.1 hfind
    obtain ⟨hpart, hactive, -, -⟩ := assertCancellable_eq_ok.1 hrole
    have hsave := saveBooking_of_mem hmem rfl (booking.cancel w.now role reason)
    cases hupd : w.bookings.update booking.id
        (saveCancelled booking (booking.cancel w.now role reason)) with
    | none =>
      rw [hupd] at hsave
      refine .inl ⟨⟨_, Service.bind_of_error hsave⟩, fun _ _ h => ?_⟩
      cases h
      exact hupd
    | some c =>
      rw [hupd] at hsave
      refine .inr ⟨booking, role, c, rfl, hmem, hid, hactive, hupd, ?_⟩
      -- the stored document is the one that was read, so all of the held one is written
      have hsaved : booking.cancel w.now role reason ∈ c :=
        (Collection.mem_update hupd).2 (.inr ⟨booking, hmem, rfl, saveCancelled_self ..⟩)
      simp only
      rw [Service.bind_of_ok hsave, Service.bind_apply, Service.bind_apply]
      have hsame := recordCancellation_within (o := o) actor role
        (booking.cancel w.now role reason) reason { w with bookings := c }
      rcases hrecord : recordCancellation o actor role (booking.cancel w.now role reason) reason
        { w with bookings := c } with ⟨e | _, w₁⟩
      · rfl
      · rw [hrecord] at hsame
        have hsaved' : booking.cancel w.now role reason ∈ w₁.bookings := by
          rwa [show w₁.bookings = c from hsame.bookings]
        exact bind_getBookingForActor (dispatchBookingCancelled_within _) hsaved' hpart

/-- **A reschedule** is refused by its checks or the index, or moves the booking and goes on to its
dispatches. -/
theorem rescheduleBooking_cases (actor : Actor) (id : ObjectId) (input : RescheduleBookingInput) :
    ((∃ e, rescheduleBooking cal o actor id input w = (.error e, w)) ∧
        ∀ args, rescheduleArgs cal o actor id input w = .ok args →
          w.bookings.update args.booking.id args.apply = none) ∨
      ∃ args c, rescheduleArgs cal o actor id input w = .ok args ∧
        args.booking ∈ w.bookings ∧ args.booking.id = id ∧ args.booking.isActive ∧
        w.bookings.update args.booking.id args.apply = some c ∧
        rescheduleBooking cal o actor id input w =
          (dispatchBookingRescheduled o (args.apply args.booking) >>= fun _ =>
            pure (args.apply args.booking)) { w with bookings := c } := by
  unfold rescheduleBooking
  cases hargs : rescheduleArgs cal o actor id input w with
  | error e =>
    exact .inl ⟨⟨e, Service.bind_of_error (by rw [Service.check_apply, hargs])⟩,
      fun _ h => by cases h⟩
  | ok args =>
    rw [Service.bind_of_ok (by rw [Service.check_apply, hargs])]
    obtain ⟨booking, role, hmem, hid, hrole, hmove, -, -⟩ := rescheduleArgs_eq_ok.1 hargs
    obtain ⟨hpart, hactive, -, -, -⟩ := assertReschedulable_eq_ok.1 hrole
    obtain rfl : args.booking = booking := by
      obtain ⟨-, rfl⟩ := moveArgs_eq_ok.1 hmove
      rfl
    have hmoving := moveBooking_of_active hmem rfl hactive
    cases hupd : w.bookings.update args.booking.id args.apply with
    | none =>
      rw [hupd] at hmoving
      refine .inl ⟨⟨_, Service.bind_of_error hmoving⟩, fun _ h => ?_⟩
      cases h
      exact hupd
    | some c =>
      rw [hupd] at hmoving
      refine .inr ⟨args, c, rfl, hmem, hid, hactive, hupd, ?_⟩
      rw [Service.bind_of_ok hmoving]
      have hmoved : args.apply args.booking ∈ c :=
        (Collection.mem_update hupd).2 (.inr ⟨args.booking, hmem, rfl, rfl⟩)
      exact bind_getBookingForActor (dispatchBookingRescheduled_within _) hmoved hpart

/-! ### What the services leave of the bookings -/

variable {cal o w}

variable (cal) in
theorem createBooking_bookings (actor : Actor) (input : CreateBookingInput) :
    ((createBooking cal o actor input w).2.bookings = w.bookings ∧
        ∀ args, createArgs cal o actor input w = .ok args →
          w.bookings.insert (newBooking o.newId args) = none) ∨
      ∃ args, createArgs cal o actor input w = .ok args ∧
        w.bookings.insert (newBooking o.newId args) =
          some (createBooking cal o actor input w).2.bookings := by
  rcases createBooking_cases cal o w actor input with
    ⟨⟨e, w₁, hrun, hw₁⟩, hrefused⟩ | ⟨args, c, hargs, hins, hrun⟩
  · refine .inl ⟨?_, hrefused⟩
    rw [hrun]
    rcases hw₁ with rfl | rfl <;> rfl
  · refine .inr ⟨args, hargs, ?_⟩
    have hbookings : (createBooking cal o actor input w).2.bookings = c := by
      rw [hrun]
      exact (Service.Within.bind (dispatchBookingCreated_within _)
        (fun _ => Service.within_pure _) _).bookings
    rw [hbookings]
    exact hins

theorem cancelBooking_bookings (actor : Actor) (id : ObjectId) (reason : Option String) :
    (cancelBooking o actor id reason w).2.bookings = w.bookings ∨
      ∃ booking role, booking ∈ w.bookings ∧ booking.isActive ∧
        w.bookings.update booking.id
          (saveCancelled booking (booking.cancel w.now role reason)) =
          some (cancelBooking o actor id reason w).2.bookings := by
  rcases cancelBooking_cases o w actor id reason with
    ⟨⟨e, hrun⟩, -⟩ | ⟨booking, role, c, -, hmem, -, hactive, hupd, hrun⟩
  · exact .inl (by rw [hrun])
  · refine .inr ⟨booking, role, hmem, hactive, ?_⟩
    have hbookings : (cancelBooking o actor id reason w).2.bookings = c := by
      rw [hrun]
      exact (Service.Within.bind (recordCancellation_within _ _ _ _) (fun _ =>
        .bind (dispatchBookingCancelled_within _) fun _ => Service.within_pure _) _).bookings
    rw [hbookings]
    exact hupd

variable (cal) in
theorem rescheduleBooking_bookings (actor : Actor) (id : ObjectId)
    (input : RescheduleBookingInput) :
    ((rescheduleBooking cal o actor id input w).2.bookings = w.bookings ∧
        ∀ args, rescheduleArgs cal o actor id input w = .ok args →
          w.bookings.update args.booking.id args.apply = none) ∨
      ∃ args, rescheduleArgs cal o actor id input w = .ok args ∧
        w.bookings.update args.booking.id args.apply =
          some (rescheduleBooking cal o actor id input w).2.bookings := by
  rcases rescheduleBooking_cases cal o w actor id input with
    ⟨⟨e, hrun⟩, hrefused⟩ | ⟨args, c, hargs, -, -, -, hupd, hrun⟩
  · exact .inl ⟨by rw [hrun], hrefused⟩
  · refine .inr ⟨args, hargs, ?_⟩
    have hbookings : (rescheduleBooking cal o actor id input w).2.bookings = c := by
      rw [hrun]
      exact (Service.Within.bind (dispatchBookingRescheduled_within _)
        (fun _ => Service.within_pure _) _).bookings
    rw [hbookings]
    exact hupd

end Services

end HrBooking
