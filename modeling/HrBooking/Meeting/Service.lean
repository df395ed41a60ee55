import HrBooking.Booking.Service
import HrBooking.Meeting.Rules
import Mathlib.Logic.Relation

/-!
# The meeting services

`ensureMeetingForBooking`, `syncMeetingTimes` and `cancelMeetingForBooking` of
`services/meeting.service.ts` and `retryBookingMeeting`, each as one call on the shared state.  A
failure of the provider is recorded on the meeting and does not make the call throw.

* `World.MeetingWrite` : one write of these services; what each write keeps, a call keeps.
-/

namespace HrBooking

section

variable (o : Oracle)

/-- `meeting.save()` ; a document that is gone cannot be saved. -/
def saveMeeting (held : HeldMeeting) : Service Unit := fun w =>
  match w.meetings.findById held.loaded.id with
  | none => (.error .internal, w)
  | some _ =>
    match w.meetings.update held.loaded.id held.save with
    | none => (.error .internal, w)
    | some meetings => (.ok (), { w with meetings })

/-- `recordFailure` -/
def recordFailure (held : HeldMeeting) (message : String) : Service (Option Meeting) := do
  let failed := held.modify fun m => m.markFailed message
  saveMeeting failed
  return some failed.doc

/-- `try { ...; await meeting.save(); return meeting } catch (err) { return recordFailure(...) }`
from the answer of the provider on. -/
def saveOrRecord (held : HeldMeeting) (answer : Except String MeetingDetails)
    (mark : Meeting → MeetingDetails → Meeting) : Service (Option Meeting) := fun w =>
  match answer with
  | .error message => recordFailure held message w
  | .ok details =>
    let marked := held.modify fun m => mark m details
    match saveMeeting marked w with
    | (.ok (), w') => (.ok (some marked.doc), w')
    | (.error e, w') => recordFailure marked e.message w'

/-- `upsertMeetingRecord` -/
def upsertMeetingRecord (booking : Booking) : Service HeldMeeting := fun w =>
  match w.meetings.findByKey booking.id with
  | some existing =>
    (.ok ((HeldMeeting.ofStored existing).modify fun m => m.follow booking), w)
  | none =>
    let meeting := newMeeting o.newId booking
    let w := { w with issuedIds := o.newId :: w.issuedIds }
    match w.meetings.insert meeting with
    | none => (.error .internal, w)
    | some meetings => (.ok (.ofStored meeting), { w with meetings })

/-- A provider call, as a service call. -/
def providerCall (call : World → Except String MeetingDetails × World) :
    Service (Except String MeetingDetails) := fun w => (.ok (call w).1, (call w).2)

/-- `ensureMeetingForBooking` with the record it holds. -/
def ensureHeld (booking : Booking) (held : HeldMeeting) : Service (Option Meeting) := do
  if held.doc.isCreated then return some held.doc
  else if ¬ isSupportedMeetingProvider booking.meetingProvider then
    recordFailure held (notSupportedText booking.meetingProvider)
  else
    let answer ← providerCall (callCreate o (createInput booking))
    saveOrRecord held answer Meeting.markCreated

/-- `ensureMeetingForBooking` -/
def ensureMeetingForBooking (bookingId : ObjectId) : Service (Option Meeting) := do
  match ← Service.read fun w => w.bookings.findById bookingId with
  | none => return none
  | some booking =>
    let held ← upsertMeetingRecord o booking
    ensureHeld o booking held

/-- `syncMeetingTimes` with the record it holds. -/
def syncHeld (booking : Booking) (held : HeldMeeting) : Service (Option Meeting) := do
  match held.doc.movable with
  | none =>
    saveMeeting held
    ensureMeetingForBooking o booking.id
  | some target =>
    let answer ← providerCall (callUpdate o booking.meetingProvider (updateInput booking target))
    saveOrRecord held answer Meeting.markMoved

/-- `syncMeetingTimes` -/
def syncMeetingTimes (bookingId : ObjectId) : Service (Option Meeting) := do
  match ← Service.read fun w => w.bookings.findById bookingId with
  | none => return none
  | some booking =>
    match ← Service.read fun w => w.meetings.findByKey booking.id with
    | none => ensureMeetingForBooking o bookingId
    | some meeting =>
      syncHeld o booking ((HeldMeeting.ofStored meeting).modify fun m => m.retime booking)

/-- `cancelMeetingForBooking` with the record it holds. -/
def cancelHeld (booking : Booking) (held : HeldMeeting) : Service (Option Meeting) := do
  match held.doc.removable with
  | none => pure ()
  | some target =>
    Service.modify (callCancel o booking.meetingProvider (cancelInput booking target))
  let cancelled := held.modify Meeting.markCancelled
  saveMeeting cancelled
  return some cancelled.doc

/-- `cancelMeetingForBooking` -/
def cancelMeetingForBooking (bookingId : ObjectId) : Service (Option Meeting) := do
  let booking ← Service.read fun w => w.bookings.findById bookingId
  let meeting ← Service.read fun w => w.meetings.findByKey bookingId
  match booking, meeting with
  | some booking, some meeting => cancelHeld o booking (.ofStored meeting)
  | _, _ => return none

/-- The booking of a retry, when its conference may be asked for again. -/
def retryArgs (actor : Actor) (bookingId : ObjectId) (w : World) : Except AppError Booking := do
  let booking ← findBooking w.bookings bookingId
  let _ ← assertParticipant actor booking
  if ¬ isRetryable (w.meetings.findByKey booking.id) booking w.now then
    .error (.conflict "This meeting does not need to be created again.")
  else .ok booking

/-- `retryBookingMeeting` -/
def retryBookingMeeting (actor : Actor) (bookingId : ObjectId) : Service Booking := do
  let booking ← Service.check (retryArgs actor bookingId)
  let _ ← ensureMeetingForBooking o booking.id
  Service.check (getBookingForActor actor booking.id)

end

/-! ### What the calls write -/

theorem saveMeeting_cases (held : HeldMeeting) {w : World} :
    (∃ e, saveMeeting held w = (.error e, w)) ∨
      ∃ c, w.meetings.update held.loaded.id held.save = some c ∧
        saveMeeting held w = (.ok (), { w with meetings := c }) := by
  unfold saveMeeting
  cases w.meetings.findById held.loaded.id with
  | none => exact .inl ⟨_, rfl⟩
  | some _ =>
    cases h : w.meetings.update held.loaded.id held.save with
    | none => exact .inl ⟨_, rfl⟩
    | some c => exact .inr ⟨c, rfl, rfl⟩

/-- One write of a meeting service. -/
inductive World.MeetingWrite (o : Oracle) (w : World) : World → Prop
  /-- a record is saved -/
  | save {held : HeldMeeting} {c : Collection Meeting}
      (h : w.meetings.update held.loaded.id held.save = some c) :
      MeetingWrite o w { w with meetings := c }
  /-- the record of a stored booking is created -/
  | create {booking : Booking} {c : Collection Meeting} (hbooking : booking ∈ w.bookings)
      (h : w.meetings.insert (newMeeting o.newId booking) = some c) :
      MeetingWrite o w { w with meetings := c, issuedIds := o.newId :: w.issuedIds }
  /-- an identity is given to a record that is not created -/
  | take : MeetingWrite o w { w with issuedIds := o.newId :: w.issuedIds }
  /-- the provider is called -/
  | call (events : List CalendarEvent) (providerLog : List ProviderCall)
      (issuedEvents : List EventId) :
      MeetingWrite o w { w with events, providerLog, issuedEvents }

/-- What a call of a meeting service writes. -/
def World.MeetingWrites (o : Oracle) : World → World → Prop :=
  Relation.ReflTransGen (World.MeetingWrite o)

section Frame

variable {o : Oracle}

instance : Std.Refl (World.MeetingWrites o) := ⟨fun _ => Relation.ReflTransGen.refl⟩

instance : IsTrans World (World.MeetingWrites o) := ⟨fun _ _ _ => Relation.ReflTransGen.trans⟩

/-- **What every write keeps, a call keeps.** -/
theorem World.MeetingWrites.keeps {R : World → World → Prop} [Std.Refl R] [IsTrans World R]
    {w w' : World} (h : World.MeetingWrites o w w')
    (hR : ∀ w w', World.MeetingWrite o w w' → R w w') : R w w' := by
  rw [← Relation.reflTransGen_eq_self (r := R)]
  exact Relation.ReflTransGen.mono hR _ _ h

theorem saveMeeting_writes (held : HeldMeeting) :
    (saveMeeting held).Within (World.MeetingWrites o) := by
  intro w
  rcases saveMeeting_cases (w := w) held with ⟨e, hs⟩ | ⟨c, hupdate, hs⟩
  · rw [hs]
    exact Relation.ReflTransGen.refl
  · rw [hs]
    exact Relation.ReflTransGen.single (.save hupdate)

theorem recordFailure_writes (held : HeldMeeting) (message : String) :
    (recordFailure held message).Within (World.MeetingWrites o) :=
  .bind (saveMeeting_writes _) fun _ => Service.within_pure _

theorem saveOrRecord_writes (held : HeldMeeting) (answer : Except String MeetingDetails)
    (mark : Meeting → MeetingDetails → Meeting) :
    (saveOrRecord held answer mark).Within (World.MeetingWrites o) := by
  intro w
  cases answer with
  | error message => exact recordFailure_writes held message w
  | ok details =>
    have hsave := saveMeeting_writes (o := o) (held.modify fun m => mark m details) w
    simp only [saveOrRecord]
    generalize saveMeeting (held.modify fun m => mark m details) w = answer at hsave ⊢
    obtain ⟨e | u, w'⟩ := answer
    · exact Relation.ReflTransGen.trans hsave (recordFailure_writes _ _ w')
    · exact hsave

theorem upsertMeetingRecord_writes {booking : Booking} {w : World}
    (hbooking : booking ∈ w.bookings) :
    World.MeetingWrites o w (upsertMeetingRecord o booking w).2 := by
  unfold upsertMeetingRecord
  cases w.meetings.findByKey booking.id with
  | some existing => exact Relation.ReflTransGen.refl
  | none =>
    simp only
    cases hins : w.meetings.insert (newMeeting o.newId booking) with
    | none => exact Relation.ReflTransGen.single .take
    | some c => exact Relation.ReflTransGen.single (.create hbooking hins)

theorem callCreate_write (input : CreateMeetingInput) (w : World) :
    World.MeetingWrite o w (callCreate o input w).2 := by
  unfold callCreate
  cases o.providerError <;> exact .call _ _ _

theorem callUpdate_write (provider : MeetingProvider) (input : UpdateMeetingInput) (w : World) :
    World.MeetingWrite o w (callUpdate o provider input w).2 := by
  unfold callUpdate
  split_ifs
  · cases o.providerError <;> exact .call _ _ _
  · exact .call _ _ _

theorem callCancel_write (provider : MeetingProvider) (input : CancelMeetingInput) (w : World) :
    World.MeetingWrite o w (callCancel o provider input w) := by
  unfold callCancel
  split_ifs
  · cases o.providerError <;> exact .call _ _ _
  · exact .call _ _ _

theorem ensureHeld_writes (booking : Booking) (held : HeldMeeting) :
    (ensureHeld o booking held).Within (World.MeetingWrites o) := by
  unfold ensureHeld
  split_ifs
  · exact Service.within_pure _
  · exact .bind (fun w => Relation.ReflTransGen.single (callCreate_write _ w)) fun _ =>
      saveOrRecord_writes _ _ _
  · exact recordFailure_writes _ _

theorem ensureMeetingForBooking_writes (bookingId : ObjectId) :
    (ensureMeetingForBooking o bookingId).Within (World.MeetingWrites o) := by
  intro w
  unfold ensureMeetingForBooking
  rw [Service.read_bind]
  cases hfind : w.bookings.findById bookingId with
  | none => exact Relation.ReflTransGen.refl
  | some booking =>
    have hupsert := upsertMeetingRecord_writes (o := o) (Collection.findById_eq_some.1 hfind).1
    simp only
    rw [Service.bind_apply]
    generalize upsertMeetingRecord o booking w = answer at hupsert ⊢
    obtain ⟨e | held, w'⟩ := answer
    · exact hupsert
    · exact Relation.ReflTransGen.trans hupsert (ensureHeld_writes booking held w')

theorem syncHeld_writes (booking : Booking) (held : HeldMeeting) :
    (syncHeld o booking held).Within (World.MeetingWrites o) := by
  unfold syncHeld
  split
  · exact .bind (saveMeeting_writes _) fun _ => ensureMeetingForBooking_writes _
  · exact .bind (fun w => Relation.ReflTransGen.single (callUpdate_write _ _ w)) fun _ =>
      saveOrRecord_writes _ _ _

theorem syncMeetingTimes_writes (bookingId : ObjectId) :
    (syncMeetingTimes o bookingId).Within (World.MeetingWrites o) := by
  refine .bind (Service.within_read _) fun booking => ?_
  cases booking with
  | none => exact Service.within_pure _
  | some booking =>
    refine .bind (Service.within_read _) fun meeting => ?_
    cases meeting with
    | none => exact ensureMeetingForBooking_writes _
    | some meeting => exact syncHeld_writes booking _

theorem cancelHeld_writes (booking : Booking) (held : HeldMeeting) :
    (cancelHeld o booking held).Within (World.MeetingWrites o) := by
  have hsave : (do
      saveMeeting (held.modify Meeting.markCancelled)
      return some (held.modify Meeting.markCancelled).doc).Within (World.MeetingWrites o) :=
    .bind (saveMeeting_writes _) fun _ => Service.within_pure _
  simp only [cancelHeld]
  split
  · exact hsave
  · exact .bind (fun w => Relation.ReflTransGen.single (callCancel_write _ _ w)) fun _ => hsave

theorem cancelMeetingForBooking_writes (bookingId : ObjectId) :
    (cancelMeetingForBooking o bookingId).Within (World.MeetingWrites o) := by
  refine .bind (Service.within_read _) fun booking =>
    .bind (Service.within_read _) fun meeting => ?_
  split
  · exact cancelHeld_writes _ _
  · exact Service.within_pure _

theorem retryBookingMeeting_writes (actor : Actor) (bookingId : ObjectId) :
    (retryBookingMeeting o actor bookingId).Within (World.MeetingWrites o) :=
  .bind (Service.within_check _) fun _ => .bind (ensureMeetingForBooking_writes _)
    fun _ => Service.within_check _

theorem World.MeetingWrite.frame {w w' : World} (h : World.MeetingWrite o w w') :
    w.HandlerFrame w' := by
  cases h with
  | save | call => exact ⟨rfl, rfl, rfl, List.Subset.refl _⟩
  | create | take => exact ⟨rfl, rfl, rfl, List.subset_cons_self _ _⟩

theorem World.MeetingWrites.frame {w w' : World} (h : World.MeetingWrites o w w') :
    w.HandlerFrame w' :=
  h.keeps fun _ _ h => h.frame

theorem saveMeeting_frame (held : HeldMeeting) (w : World) :
    w.HandlerFrame (saveMeeting held w).2 := by
  rcases saveMeeting_cases (w := w) held with ⟨e, hs⟩ | ⟨c, -, hs⟩
  · rw [hs]
    exact .refl w
  · rw [hs]
    exact ⟨rfl, rfl, rfl, List.Subset.refl _⟩

end Frame

end HrBooking
