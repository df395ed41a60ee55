import HrBooking.Machine.Ledger
import HrBooking.Meeting.Service

/-!
# The events of a booking

The calls made to the provider, read as a ledger: the events created for a booking, the events whose
deletion was asked for, and the one event the meeting record still refers to.  Each meeting service,
run alone, keeps the account, except for one path: a failed update marks the meeting as failed,
and a failed meeting does not refer to its event any more.

* `World.ledger` : the ledger.
* `Accounted` : a change of the state that keeps the account.
* `ensureMeetingForBooking_accounted`, `cancelMeetingForBooking_accounted` : the services keep it.
* `syncMeetingTimes_cases` : the service that keeps it or takes the other path.
-/

namespace HrBooking

/-- The event a successful creation for the booking returned. -/
def ProviderCall.createdFor (bookingId : ObjectId) : ProviderCall → Option EventId
  | create input (.ok details) =>
    if input.bookingId = bookingId then some details.externalMeetingId else none
  | _ => none

/-- The event whose deletion was asked for, whatever the answer. -/
def ProviderCall.removal : ProviderCall → Option EventId
  | cancel input _ => some input.externalMeetingId
  | _ => none

/-- The event a cancellation would ask to delete. -/
def Meeting.current (meeting : Meeting) : Option EventId :=
  if meeting.status = .created then meeting.externalMeetingId else none

/-- The events of a booking. -/
def World.ledger (w : World) (bookingId : ObjectId) : Ledger EventId where
  created := w.providerLog.filterMap (·.createdFor bookingId)
  removed := w.providerLog.filterMap (·.removal)
  current := (w.meetings.findByKey bookingId).bind Meeting.current

section Meetings

variable {m : Meeting} {b : Booking}

theorem Meeting.isCreated_iff : m.isCreated ↔ m.current.isSome := by
  unfold isCreated current
  split_ifs with h <;> simp [h]

theorem Meeting.removable_eq :
    m.removable = m.current.map fun e => (e, m.externalCalendarId.getD "primary") := by
  unfold removable current
  cases hs : m.status <;> cases he : m.externalMeetingId <;> simp

theorem Meeting.current_of_movable {target : EventId × String} (h : m.movable = some target) :
    m.current = some target.1 := by
  unfold movable at h
  split at h
  · rename_i hs he hc
    split_ifs at h
    cases h
    simp [current, hs, he]
  · cases h

@[simp] theorem Meeting.current_follow : (m.follow b).current = m.current := rfl

@[simp] theorem Meeting.current_retime : (m.retime b).current = m.current := rfl

@[simp] theorem Meeting.current_markCreated (details : MeetingDetails) :
    (m.markCreated details).current = some details.externalMeetingId := rfl

@[simp] theorem Meeting.current_markMoved (details : MeetingDetails) :
    (m.markMoved details).current = m.current := rfl

@[simp] theorem Meeting.current_markFailed (message : String) :
    (m.markFailed message).current = none := rfl

@[simp] theorem Meeting.current_markCancelled : m.markCancelled.current = none := rfl

end Meetings

/-! ### Saving a copy that is still the stored one -/

/-- The held document was loaded from the stored one and still has its identity and its booking. -/
structure HeldMeeting.Fits (held : HeldMeeting) (w : World) (bookingId : ObjectId) : Prop where
  mem : held.loaded ∈ w.meetings
  id_eq : held.doc.id = held.loaded.id
  loaded_key : held.loaded.bookingId = bookingId
  key_eq : held.doc.bookingId = bookingId

section Fits

variable {held : HeldMeeting} {w : World} {id : ObjectId}

theorem World.ledger_eq {l : Ledger EventId} {m : Meeting} (hm : m ∈ w.meetings)
    (hkey : m.bookingId = id) (hcreated : w.providerLog.filterMap (·.createdFor id) = l.created)
    (hremoved : w.providerLog.filterMap (·.removal) = l.removed)
    (hcurrent : m.current = l.current) : w.ledger id = l := by
  have hfind : w.meetings.findByKey id = some m :=
    Collection.findByKey_eq_some.2 ⟨hm, congrArg some hkey⟩
  cases l
  simp only [ledger, hfind, Option.bind_some, hcreated, hremoved, hcurrent]

theorem HeldMeeting.Fits.ledger_current (h : held.Fits w id) :
    (w.ledger id).current = held.loaded.current := by
  have hfind : w.meetings.findByKey id = some held.loaded :=
    Collection.findByKey_eq_some.2 ⟨h.mem, congrArg some h.loaded_key⟩
  simp only [World.ledger, hfind, Option.bind_some]

theorem HeldMeeting.Fits.of_meetings {w' : World} (h : held.Fits w id)
    (hm : w'.meetings = w.meetings) : held.Fits w' id :=
  ⟨hm ▸ h.mem, h.id_eq, h.loaded_key, h.key_eq⟩

theorem HeldMeeting.Fits.modify (h : held.Fits w id) {f : Meeting → Meeting}
    (hid : ∀ m, (f m).id = m.id) (hkey : ∀ m, (f m).bookingId = m.bookingId) :
    (held.modify f).Fits w id :=
  ⟨h.mem, (hid _).trans h.id_eq, h.loaded_key, (hkey _).trans h.key_eq⟩

theorem HeldMeeting.save_loaded (h : held.Fits w id) : held.save held.loaded = held.doc := by
  obtain ⟨-, hid, hloaded, hkey⟩ := h
  have hkey' := hkey.trans hloaded.symm
  rcases held with ⟨loaded, doc⟩
  cases doc
  simp only at hid hkey'
  simp [save, hid, hkey']

theorem saveMeeting_of_fits (h : held.Fits w id) :
    ∃ c, saveMeeting held w = (.ok (), { w with meetings := c }) ∧ held.doc ∈ c := by
  -- the document saved over is the loaded one, and its booking is its own
  obtain ⟨c, hc, hmem⟩ := Collection.update_of_mem (f := held.save) h.mem rfl rfl
  change w.meetings.update held.loaded.id held.save = some c at hc
  refine ⟨c, ?_, (hmem _).2 (.inr (HeldMeeting.save_loaded h).symm)⟩
  have hfind : w.meetings.findById held.loaded.id = some held.loaded :=
    Collection.findById_of_mem h.mem
  simp only [saveMeeting, hfind, hc]

/-- A save changes what is referred to and nothing else of the account. -/
theorem saveMeeting_ledger (h : held.Fits w id) :
    ∃ c, saveMeeting held w = (.ok (), { w with meetings := c }) ∧ held.doc ∈ c ∧
      World.ledger { w with meetings := c } id =
        { w.ledger id with current := held.doc.current } := by
  obtain ⟨c, hsave, hmem⟩ := saveMeeting_of_fits h
  exact ⟨c, hsave, hmem, World.ledger_eq hmem h.key_eq rfl rfl rfl⟩

theorem recordFailure_ledger (h : held.Fits w id) (message : String) :
    ((recordFailure held message w).2.ledger id = (w.ledger id).drop) ∧
      (recordFailure held message w).2.issuedEvents = w.issuedEvents := by
  have hfits : (held.modify fun m => m.markFailed message).Fits w id :=
    h.modify (fun _ => rfl) fun _ => rfl
  obtain ⟨c, hsave, -, hledger⟩ := saveMeeting_ledger hfits
  rw [recordFailure, Service.bind_of_ok hsave]
  exact ⟨hledger, rfl⟩

theorem saveOrRecord_ledger (h : held.Fits w id) (details : MeetingDetails)
    (mark : Meeting → MeetingDetails → Meeting) (hid : ∀ m d, (mark m d).id = m.id)
    (hkey : ∀ m d, (mark m d).bookingId = m.bookingId) :
    (saveOrRecord held (.ok details) mark w).2.ledger id =
        { w.ledger id with current := (mark held.doc details).current } ∧
      (saveOrRecord held (.ok details) mark w).2.issuedEvents = w.issuedEvents := by
  have hfits : (held.modify fun m => mark m details).Fits w id :=
    h.modify (fun m => hid m details) fun m => hkey m details
  obtain ⟨c, hsave, -, hledger⟩ := saveMeeting_ledger hfits
  simp only [saveOrRecord, hsave]
  exact ⟨hledger, trivial⟩

end Fits

/-! ### The services -/

/-- The account of a booking's events is kept: it is the same, or a new event was created for a
booking whose provider has an adapter, or the deletion of the current event was asked for. -/
inductive Accounted (id : ObjectId) (w w' : World) : Prop
  | same (hledger : w'.ledger id = w.ledger id) (hissued : w'.issuedEvents = w.issuedEvents)
  | create (e : EventId) (hnone : (w.ledger id).current = none) (hnew : e ∉ w.issuedEvents)
      (hledger : w'.ledger id =
        { w.ledger id with created := (w.ledger id).created ++ [e], current := some e })
      (hissued : w'.issuedEvents = e :: w.issuedEvents)
      (hsupported : ∃ b ∈ w.bookings, b.id = id ∧ isSupportedMeetingProvider b.meetingProvider)
  | remove (e : EventId) (hcurrent : (w.ledger id).current = some e)
      (hledger : w'.ledger id =
        { w.ledger id with removed := (w.ledger id).removed ++ [e], current := none })
      (hissued : w'.issuedEvents = w.issuedEvents)

theorem Ledger.drop_of_none {E : Type} {l : Ledger E} (h : l.current = none) : l.drop = l := by
  cases l
  simp only [Ledger.drop] at h ⊢
  rw [h]

/-! ### The provider calls -/

section Calls

variable {o : Oracle} {w : World} {id : ObjectId}

/-- What of the state a provider call leaves alone, and what it does to the account. -/
structure CallEffect (id : ObjectId) (w w' : World) (l : Ledger EventId) : Prop where
  bookings : w'.bookings = w.bookings
  meetings : w'.meetings = w.meetings
  ledger : w'.ledger id = l

theorem callCreate_of_error (id : ObjectId) (input : CreateMeetingInput) {message : String}
    (h : o.providerError = some message) :
    ∃ w', callCreate o input w = (.error message, w') ∧ CallEffect id w w' (w.ledger id) ∧
      w'.issuedEvents = w.issuedEvents := by
  simp only [callCreate, h]
  refine ⟨_, rfl, ⟨rfl, rfl, ?_⟩, rfl⟩
  simp [World.ledger, ProviderCall.createdFor, ProviderCall.removal]

theorem callCreate_of_ok (input : CreateMeetingInput) (hid : input.bookingId = id)
    (h : o.providerError = none) :
    ∃ details w', callCreate o input w = (.ok details, w') ∧
      details.externalMeetingId = o.newEvent ∧
      CallEffect id w w' { w.ledger id with created := (w.ledger id).created ++ [o.newEvent] } ∧
      w'.issuedEvents = o.newEvent :: w.issuedEvents := by
  simp only [callCreate, h]
  refine ⟨_, _, rfl, rfl, ⟨rfl, rfl, ?_⟩, rfl⟩
  simp [World.ledger, ProviderCall.createdFor, ProviderCall.removal, hid]

/-- An update never changes the account; it succeeds when the provider has an adapter and
answers. -/
theorem callUpdate_cases (id : ObjectId) (provider : MeetingProvider) (input : UpdateMeetingInput) :
    ∃ answer w', callUpdate o provider input w = (answer, w') ∧
      CallEffect id w w' (w.ledger id) ∧ w'.issuedEvents = w.issuedEvents ∧
      ((∃ details, answer = .ok details) ↔
        isSupportedMeetingProvider provider ∧ o.providerError = none) := by
  unfold callUpdate
  by_cases hsup : isSupportedMeetingProvider provider
  · rw [if_neg (not_not.2 hsup)]
    cases h : o.providerError with
    | some message =>
      refine ⟨_, _, rfl, ⟨rfl, rfl, ?_⟩, rfl, by simp⟩
      simp [World.ledger, ProviderCall.createdFor, ProviderCall.removal]
    | none =>
      refine ⟨_, _, rfl, ⟨rfl, rfl, ?_⟩, rfl, by simp [hsup]⟩
      simp [World.ledger, ProviderCall.createdFor, ProviderCall.removal]
  · rw [if_pos hsup]
    exact ⟨_, _, rfl, ⟨rfl, rfl, rfl⟩, rfl, by simp [hsup]⟩

theorem callCancel_effect (id : ObjectId) {provider : MeetingProvider} (input : CancelMeetingInput)
    (hsup : isSupportedMeetingProvider provider) :
    CallEffect id w (callCancel o provider input w)
        { w.ledger id with removed := (w.ledger id).removed ++ [input.externalMeetingId] } ∧
      (callCancel o provider input w).issuedEvents = w.issuedEvents := by
  unfold callCancel
  rw [if_neg (not_not.2 hsup)]
  cases o.providerError <;> refine ⟨⟨rfl, rfl, ?_⟩, rfl⟩ <;>
    simp [World.ledger, ProviderCall.createdFor, ProviderCall.removal]

end Calls

/-! ### The services -/

section Services

variable {o : Oracle} {w w' : World} {id : ObjectId} {b : Booking} {held : HeldMeeting}

theorem recordFailure_accounted (h : held.Fits w id) (hnone : (w.ledger id).current = none)
    (message : String) : Accounted id w (recordFailure held message w).2 := by
  obtain ⟨hledger, hissued⟩ := recordFailure_ledger h message
  exact .same (hledger.trans (Ledger.drop_of_none hnone)) hissued

/-- From the record on, `ensureMeetingForBooking` creates an event only when the record refers to
none. -/
theorem ensureHeld_accounted (ho : o.newEvent ∉ w.issuedEvents) (hb : b ∈ w.bookings)
    (hid : b.id = id) (h : held.Fits w id) (hcurrent : held.doc.current = held.loaded.current) :
    Accounted id w (ensureHeld o b held w).2 := by
  unfold ensureHeld
  by_cases hcreated : held.doc.isCreated
  · rw [if_pos hcreated]
    exact .same rfl rfl
  have hnone : (w.ledger id).current = none := by
    rw [h.ledger_current, ← hcurrent]
    rwa [Meeting.isCreated_iff, Option.not_isSome_iff_eq_none] at hcreated
  rw [if_neg hcreated]
  by_cases hsup : isSupportedMeetingProvider b.meetingProvider
  · rw [if_neg (not_not.2 hsup)]
    cases hp : o.providerError with
    | some message =>
      -- the failed call is logged and the record marked as failed; it referred to nothing before
      obtain ⟨w₁, hcall, heffect, hissued⟩ :=
        callCreate_of_error (w := w) id (createInput b) hp
      rw [Service.bind_of_ok (by rw [providerCall, hcall])]
      have hfail := recordFailure_ledger (h.of_meetings heffect.meetings) message
      refine .same (hfail.1.trans ?_) (hfail.2.trans hissued)
      rw [heffect.ledger, Ledger.drop_of_none hnone]
    | none =>
      obtain ⟨details, w₁, hcall, hevent, heffect, hissued⟩ :=
        callCreate_of_ok (w := w) (createInput b) hid hp
      rw [Service.bind_of_ok (by rw [providerCall, hcall])]
      have hsave := saveOrRecord_ledger (h.of_meetings heffect.meetings) details
        Meeting.markCreated (fun _ _ => rfl) fun _ _ => rfl
      refine .create o.newEvent hnone ho (hsave.1.trans ?_) (hsave.2.trans hissued)
        ⟨b, hb, hid, hsup⟩
      rw [heffect.ledger, Meeting.current_markCreated, hevent]
  · rw [if_pos hsup]
    exact recordFailure_accounted h hnone _

theorem Accounted.of_ledger {w₁ : World} (h : Accounted id w₁ w')
    (hledger : w₁.ledger id = w.ledger id) (hissued : w₁.issuedEvents = w.issuedEvents)
    (hbookings : w₁.bookings = w.bookings) : Accounted id w w' := by
  cases h with
  | same hl hi => exact .same (hl.trans hledger) (hi.trans hissued)
  | create e hnone hnew hl hi hsup =>
    rw [hledger] at hnone hl
    rw [hissued] at hnew hi
    rw [hbookings] at hsup
    exact .create e hnone hnew hl hi hsup
  | remove e hcurrent hl hi =>
    rw [hledger] at hcurrent hl
    exact .remove e hcurrent hl (hi.trans hissued)

theorem upsertMeetingRecord_cases (hid : b.id = id) :
    ∃ answer w', upsertMeetingRecord o b w = (answer, w') ∧ w'.ledger id = w.ledger id ∧
      w'.issuedEvents = w.issuedEvents ∧ w'.bookings = w.bookings ∧
      ∀ held, answer = .ok held →
        held.Fits w' id ∧ held.doc.current = held.loaded.current := by
  subst hid
  unfold upsertMeetingRecord
  cases hfind : w.meetings.findByKey b.id with
  | some existing =>
    obtain ⟨hmem, hkey⟩ := Collection.findByKey_eq_some.1 hfind
    refine ⟨_, _, rfl, rfl, rfl, rfl, ?_⟩
    rintro held ⟨⟩
    exact ⟨⟨hmem, rfl, Option.some.inj hkey, Option.some.inj hkey⟩, rfl⟩
  | none =>
    simp only
    cases hins : w.meetings.insert (newMeeting o.newId b) with
    | none => exact ⟨_, _, rfl, rfl, rfl, rfl, fun _ => nofun⟩
    | some c =>
      have hmem : newMeeting o.newId b ∈ c := (Collection.mem_insert hins).2 (.inr rfl)
      refine ⟨_, { w with issuedIds := o.newId :: w.issuedIds, meetings := c }, rfl, ?_, rfl, rfl,
        ?_⟩
      · -- there was no record before, and the new one refers to no event
        have hnone : (w.ledger b.id).current = none := by simp only [World.ledger, hfind]; rfl
        exact World.ledger_eq hmem rfl rfl rfl hnone.symm
      · rintro held ⟨⟩
        exact ⟨⟨hmem, rfl, rfl, rfl⟩, rfl⟩

theorem ensureMeetingForBooking_accounted (ho : o.newEvent ∉ w.issuedEvents) :
    Accounted id w (ensureMeetingForBooking o id w).2 := by
  unfold ensureMeetingForBooking
  rw [Service.read_bind]
  cases hfind : w.bookings.findById id with
  | none => exact .same rfl rfl
  | some b =>
    obtain ⟨hb, hid⟩ := Collection.findById_eq_some.1 hfind
    obtain ⟨answer, w₁, hrun, hledger, hissued, hbookings, hheld⟩ :=
      upsertMeetingRecord_cases (o := o) (w := w) hid
    cases answer with
    | error e =>
      simp only
      rw [Service.bind_of_error hrun]
      exact .same hledger hissued
    | ok held =>
      obtain ⟨hfits, hcurrent⟩ := hheld held rfl
      simp only
      rw [Service.bind_of_ok hrun]
      exact (ensureHeld_accounted (hissued ▸ ho) (hbookings ▸ hb) hid hfits hcurrent).of_ledger
        hledger hissued hbookings

theorem retryBookingMeeting_accounted (ho : o.newEvent ∉ w.issuedEvents) (actor : Actor) :
    Accounted id w (retryBookingMeeting o actor id w).2 := by
  unfold retryBookingMeeting
  cases hargs : retryArgs actor id w with
  | error e =>
    rw [Service.bind_of_error (by rw [Service.check_apply, hargs])]
    exact .same rfl rfl
  | ok b =>
    rw [Service.bind_of_ok (by rw [Service.check_apply, hargs])]
    obtain ⟨booking, hfind, hargs'⟩ := bind_eq_ok.1 hargs
    obtain ⟨role, -, hargs'⟩ := bind_eq_ok.1 hargs'
    split_ifs at hargs'
    cases hargs'
    obtain rfl : b.id = id := (findBooking_eq_ok.1 hfind).2
    have hensure : Accounted b.id w (ensureMeetingForBooking o b.id w).2 :=
      ensureMeetingForBooking_accounted ho
    rw [Service.bind_apply]
    rcases hrun : ensureMeetingForBooking o b.id w with ⟨_ | m, w'⟩
    · rwa [hrun] at hensure
    · rwa [hrun] at hensure

/-- The record that refers to an event belongs to a booking whose provider has an adapter. -/
def RefersSupported (id : ObjectId) (w : World) : Prop :=
  (w.ledger id).current.isSome →
    ∃ b ∈ w.bookings, b.id = id ∧ isSupportedMeetingProvider b.meetingProvider

theorem RefersSupported.supported (h : RefersSupported id w) (hb : b ∈ w.bookings) (hid : b.id = id)
    (hcurrent : (w.ledger id).current.isSome) : isSupportedMeetingProvider b.meetingProvider := by
  obtain ⟨b', hb', hid', hsup⟩ := h hcurrent
  obtain rfl : b' = b := Collection.eq_of_docId hb' hb (hid'.trans hid.symm)
  exact hsup

/-- The provider does not answer, and the record refers to an event that a reschedule moves. -/
def FailsToMove (o : Oracle) (id : ObjectId) (w : World) : Prop :=
  o.providerError.isSome ∧ ∃ m ∈ w.meetings.findByKey id, m.movable.isSome

/-- From the record on, `syncMeetingTimes` keeps the account, or a failed update gives up the
reference. -/
theorem syncHeld_cases (ho : o.newEvent ∉ w.issuedEvents) (hid : b.id = id)
    (h : held.Fits w id) (hcurrent : held.doc.current = held.loaded.current)
    (hsup : isSupportedMeetingProvider b.meetingProvider ∨ held.doc.movable = none) :
    (o.providerError = none ∨ held.doc.movable = none →
      Accounted id w (syncHeld o b held w).2) ∧
    (o.providerError.isSome → held.doc.movable.isSome →
      (syncHeld o b held w).2.ledger id = (w.ledger id).drop ∧
        (syncHeld o b held w).2.issuedEvents = w.issuedEvents) := by
  unfold syncHeld
  cases hmove : held.doc.movable with
  | none =>
    refine ⟨fun _ => ?_, fun _ => nofun⟩
    -- there is nothing to move: the record is saved as it is and the event is ensured
    obtain ⟨c, hsave, -, hledger⟩ := saveMeeting_ledger h
    simp only
    rw [Service.bind_of_ok hsave, hid]
    refine (ensureMeetingForBooking_accounted (w := { w with meetings := c }) ho).of_ledger
      (hledger.trans ?_) rfl rfl
    rw [hcurrent, ← h.ledger_current]
  | some target =>
    have hsupported := hsup.resolve_right (by simp [hmove])
    obtain ⟨answer, w₁, hcall, heffect, hissued, hok⟩ := callUpdate_cases (o := o) (w := w) id
      b.meetingProvider (updateInput b target)
    have hfits := h.of_meetings heffect.meetings
    simp only
    rw [Service.bind_of_ok (by rw [providerCall, hcall])]
    cases answer with
    | ok details =>
      have hnone := (hok.1 ⟨details, rfl⟩).2
      refine ⟨fun _ => ?_, fun hsome => by simp [hnone] at hsome⟩
      have hsave := saveOrRecord_ledger hfits details Meeting.markMoved (fun _ _ => rfl)
        fun _ _ => rfl
      refine .same (hsave.1.trans ?_) (hsave.2.trans hissued)
      rw [heffect.ledger, Meeting.current_markMoved, hcurrent, ← h.ledger_current]
    | error message =>
      -- the provider refuses, and the record of the failure drops the event
      have hsome : o.providerError ≠ none := fun hnone => by
        obtain ⟨details, hd⟩ := hok.2 ⟨hsupported, hnone⟩
        cases hd
      refine ⟨fun hnone => by simp [hsome] at hnone, fun _ _ => ?_⟩
      have hfail := recordFailure_ledger hfits message
      rw [heffect.ledger] at hfail
      exact ⟨hfail.1, hfail.2.trans hissued⟩

/-- Unless the update of an event fails, `syncMeetingTimes` keeps the account; if it fails, the
reference is given up. -/
theorem syncMeetingTimes_cases (ho : o.newEvent ∉ w.issuedEvents) (hrefers : RefersSupported id w) :
    (¬ FailsToMove o id w → Accounted id w (syncMeetingTimes o id w).2) ∧
    (FailsToMove o id w →
      (syncMeetingTimes o id w).2.ledger id = (w.ledger id).drop ∧
        (syncMeetingTimes o id w).2.issuedEvents = w.issuedEvents) := by
  have hrefer : ∀ m, w.meetings.findByKey id = some m → m.movable.isSome →
      (w.ledger id).current.isSome := by
    intro m hm hmove
    obtain ⟨target, ht⟩ := Option.isSome_iff_exists.1 hmove
    simp only [World.ledger, hm, Option.bind_some, Meeting.current_of_movable ht,
      Option.isSome_some]
  unfold syncMeetingTimes FailsToMove
  rw [Service.read_bind]
  cases hfind : w.bookings.findById id with
  | none =>
    refine ⟨fun _ => .same rfl rfl, ?_⟩
    rintro ⟨-, m, hm, hmove⟩
    -- the record would belong to a booking
    obtain ⟨b, hb, hid, -⟩ := hrefers (hrefer m hm hmove)
    exact absurd hid (Collection.findById_eq_none.1 hfind b hb)
  | some b =>
    obtain ⟨hb, hid⟩ := Collection.findById_eq_some.1 hfind
    obtain rfl : b.id = id := hid
    simp only
    rw [Service.read_bind]
    cases hmeeting : w.meetings.findByKey b.id with
    | none =>
      refine ⟨fun _ => ensureMeetingForBooking_accounted ho, ?_⟩
      rintro ⟨-, m, hm, -⟩
      cases hm
    | some m =>
      obtain ⟨hmem, hkey⟩ := Collection.findByKey_eq_some.1 hmeeting
      have hfits : ((HeldMeeting.ofStored m).modify fun m => m.retime b).Fits w b.id :=
        ⟨hmem, rfl, Option.some.inj hkey, Option.some.inj hkey⟩
      have hsup : isSupportedMeetingProvider b.meetingProvider ∨ m.movable = none := by
        by_cases hmove : m.movable = none
        · exact .inr hmove
        · exact .inl (hrefers.supported hb rfl
            (hrefer m hmeeting (Option.isSome_iff_ne_none.2 hmove)))
      obtain ⟨hkeeps, hdrops⟩ := syncHeld_cases ho rfl hfits rfl hsup
      refine ⟨fun hmoves => hkeeps ?_, ?_⟩
      · by_cases hp : o.providerError = none
        · exact .inl hp
        · refine .inr ?_
          by_contra hmove
          exact hmoves ⟨Option.isSome_iff_ne_none.2 hp, m, rfl, Option.isSome_iff_ne_none.2 hmove⟩
      · rintro ⟨hp, m', ⟨⟩, hmove⟩
        exact hdrops hp hmove

theorem cancelHeld_accounted (h : held.Fits w id)
    (hcurrent : held.doc.current = held.loaded.current)
    (hsup : held.doc.current.isSome → isSupportedMeetingProvider b.meetingProvider) :
    Accounted id w (cancelHeld o b held w).2 ∧
      ((cancelHeld o b held w).2.ledger id).current = none := by
  have hfits : (held.modify Meeting.markCancelled).Fits w id := h.modify (fun _ => rfl) fun _ => rfl
  have hledger_current : (w.ledger id).current = held.doc.current :=
    h.ledger_current.trans hcurrent.symm
  simp only [cancelHeld, Meeting.removable_eq]
  cases he : held.doc.current with
  | none =>
    obtain ⟨c, hsave, -, hledger⟩ := saveMeeting_ledger hfits
    simp only [Option.map_none]
    rw [Service.bind_of_ok hsave]
    refine ⟨.same (hledger.trans ?_) rfl, congrArg Ledger.current hledger⟩
    exact Ledger.drop_of_none (hledger_current.trans he)
  | some e =>
    obtain ⟨heffect, hissued⟩ := callCancel_effect (o := o) (w := w) id
      (cancelInput b (e, held.doc.externalCalendarId.getD "primary"))
      (hsup (by rw [he]; rfl))
    obtain ⟨c, hsave, -, hledger⟩ := saveMeeting_ledger (hfits.of_meetings heffect.meetings)
    simp only [Option.map_some]
    rw [Service.bind_of_ok (Service.modify_apply _ _), Service.bind_of_ok hsave]
    refine ⟨.remove e (hledger_current.trans he) (hledger.trans ?_) hissued,
      congrArg Ledger.current hledger⟩
    rw [heffect.ledger]
    rfl

theorem cancelMeetingForBooking_accounted (hrefers : RefersSupported id w) :
    Accounted id w (cancelMeetingForBooking o id w).2 ∧
      ((cancelMeetingForBooking o id w).2.ledger id).current = none := by
  unfold cancelMeetingForBooking
  rw [Service.read_bind, Service.read_bind]
  have hstays : (w.ledger id).current = none →
      Accounted id w w ∧ (w.ledger id).current = none := fun h => ⟨.same rfl rfl, h⟩
  cases hmeeting : w.meetings.findByKey id with
  | none =>
    have hnone : (w.ledger id).current = none := by simp only [World.ledger, hmeeting]; rfl
    cases w.bookings.findById id <;> exact hstays hnone
  | some m =>
    obtain ⟨hmem, hkey⟩ := Collection.findByKey_eq_some.1 hmeeting
    have hfits : (HeldMeeting.ofStored m).Fits w id :=
      ⟨hmem, rfl, Option.some.inj hkey, Option.some.inj hkey⟩
    cases hfind : w.bookings.findById id with
    | none =>
      refine hstays ?_
      by_contra hne
      obtain ⟨b, hb, hid, -⟩ := hrefers (Option.isSome_iff_ne_none.2 hne)
      exact Collection.findById_eq_none.1 hfind b hb hid
    | some b =>
      refine cancelHeld_accounted hfits rfl fun hsome => ?_
      obtain ⟨hb, hid⟩ := Collection.findById_eq_some.1 hfind
      exact hrefers.supported hb hid (by rwa [hfits.ledger_current])

end Services

end HrBooking
