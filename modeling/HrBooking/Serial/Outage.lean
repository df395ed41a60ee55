import HrBooking.Backend.Record
import HrBooking.Machine.Count
import HrBooking.Meeting.Account
import HrBooking.Serial.System

/-!
# What a failing provider leaves behind

A failure of the provider is recorded on the meeting and never thrown.  The three services run one
after another on the conference of one booking, each call of the provider answers or fails, and
anything else may happen between the calls except to the record of the booking.

* `Meeting.Coherent` : the fields of a record agree, and it counts the failures.
* `MeetingJobName.Fails` : the call asks for a creation or a move, and that fails or is refused.
* `MeetingJobName.handle_ends` : a call answers and leaves a coherent record.
* `failures_recorded` : so does every call of every run.
-/

namespace HrBooking

/-! ### Texts -/

theorem utf16Length_takeUnits (n : ℕ) (l : List Char) :
    utf16Length (String.ofList (takeUnits n l)) ≤ n := by
  rw [utf16Length, String.toList_ofList]
  induction l generalizing n with
  | nil => simp [takeUnits]
  | cons c l ih =>
    rw [takeUnits]
    split_ifs with hshort hfits hfits
    · have hrest := ih (n - 1)
      simp only [List.map_cons, List.sum_cons, if_pos hshort]
      omega
    · exact Nat.zero_le n
    · have hrest := ih (n - 2)
      simp only [List.map_cons, List.sum_cons, if_neg hshort]
      omega
    · exact Nat.zero_le n

/-! ### Records -/

/-- The fields of a record agree with each other, and it counts `n` failures. -/
structure Meeting.Coherent (n : ℕ) (m : Meeting) : Prop where
  lastError_iff : m.lastError.isSome ↔ m.status = .failed
  lastError_short : ∀ text ∈ m.lastError, utf16Length text ≤ errorMaxLength
  named : m.status = .created → m.externalMeetingId.isSome
  attempts_eq : m.attempts = n

/-- The record of a booking, if there is one, is coherent and counts `n` failures; without one there
were none. -/
def CountsFailures (n : ℕ) : Option Meeting → Prop
  | none => n = 0
  | some m => m.Coherent n

namespace Meeting.Coherent

variable {n : ℕ} {m : Meeting} {b : Booking}

theorem of_new (id : ObjectId) : (newMeeting id b).Coherent 0 :=
  ⟨by simp [newMeeting], nofun, nofun, rfl⟩

theorem follow (h : m.Coherent n) : (m.follow b).Coherent n :=
  ⟨h.lastError_iff, h.lastError_short, h.named, h.attempts_eq⟩

theorem retime (h : m.Coherent n) : (m.retime b).Coherent n :=
  ⟨h.lastError_iff, h.lastError_short, h.named, h.attempts_eq⟩

theorem markCreated (h : m.Coherent n) (details : MeetingDetails) :
    (m.markCreated details).Coherent n :=
  ⟨by simp [Meeting.markCreated], nofun, fun _ => rfl, h.attempts_eq⟩

theorem markMoved (h : m.Coherent n) (hcreated : m.status = .created) (details : MeetingDetails) :
    (m.markMoved details).Coherent n :=
  ⟨by simp [Meeting.markMoved, hcreated], nofun, h.named, h.attempts_eq⟩

theorem markCancelled (h : m.Coherent n) : m.markCancelled.Coherent n :=
  ⟨by simp [Meeting.markCancelled], nofun, nofun, h.attempts_eq⟩

theorem markFailed (h : m.Coherent n) (message : String) :
    (m.markFailed message).Coherent (n + 1) := by
  refine ⟨by simp [Meeting.markFailed], ?_, nofun, congrArg (· + 1) h.attempts_eq⟩
  rintro text ⟨⟩
  exact utf16Length_takeUnits _ _

end Meeting.Coherent

/-! ### One call -/

/-- The call has answered, and leaves a record with `n` failures. -/
structure Ends (id : ObjectId) (n : ℕ) (answer : Except AppError (Option Meeting) × World) :
    Prop where
  answers : ∃ m, answer.1 = .ok m
  recorded : CountsFailures n (answer.2.meetings.findByKey id)

/-- The provider has no adapter, or does not answer. -/
def Refuses (o : Oracle) (b : Booking) : Prop :=
  ¬ isSupportedMeetingProvider b.meetingProvider ∨ o.providerError.isSome

instance (o : Oracle) (b : Booking) : Decidable (Refuses o b) :=
  inferInstanceAs (Decidable (_ ∨ _))

/-- The call asks the provider to create or to move the conference. -/
def MeetingJobName.Asks (meeting : Option Meeting) : MeetingJobName → Prop
  | create => ∀ m ∈ meeting, ¬ m.isCreated
  | sync => ∀ m ∈ meeting, m.movable.isSome ∨ ¬ m.isCreated
  | cancel => False

instance (meeting : Option Meeting) : ∀ name : MeetingJobName, Decidable (name.Asks meeting)
  | .create => inferInstanceAs (Decidable (∀ m ∈ meeting, _))
  | .sync => inferInstanceAs (Decidable (∀ m ∈ meeting, _))
  | .cancel => .isFalse id

/-- The call asks for a creation or a move, and that fails or is refused. -/
def MeetingJobName.Fails (name : MeetingJobName) (o : Oracle) (id : ObjectId) (w : World) : Prop :=
  ∃ b ∈ w.bookings.findById id, name.Asks (w.meetings.findByKey id) ∧ Refuses o b

instance (name : MeetingJobName) (o : Oracle) (id : ObjectId) (w : World) :
    Decidable (name.Fails o id w) :=
  inferInstanceAs (Decidable (∃ b ∈ w.bookings.findById id, _))

/-- No record has the identity a new one would get. -/
def Oracle.NamesNew (o : Oracle) (w : World) : Prop := ∀ m ∈ w.meetings, m.id ≠ o.newId

instance (o : Oracle) (w : World) : Decidable (o.NamesNew w) :=
  inferInstanceAs (Decidable (∀ m ∈ w.meetings, _))

section

variable {o : Oracle} {id : ObjectId} {n : ℕ} {w : World} {b : Booking} {held : HeldMeeting}

theorem HeldMeeting.Fits.findByKey (h : held.Fits w id) :
    w.meetings.findByKey id = some held.loaded :=
  Collection.findByKey_eq_some.2 ⟨h.mem, congrArg some h.loaded_key⟩

theorem saveMeeting_stores (h : held.Fits w id) :
    ∃ w', saveMeeting held w = (.ok (), w') ∧ w'.bookings = w.bookings ∧
      w'.meetings.findByKey id = some held.doc := by
  obtain ⟨c, hsave, hmem⟩ := saveMeeting_of_fits h
  exact ⟨_, hsave, rfl, Collection.findByKey_eq_some.2 ⟨hmem, congrArg some h.key_eq⟩⟩

theorem recordFailure_ends (h : held.Fits w id) (hdoc : held.doc.Coherent n) (message : String) :
    Ends id (n + 1) (recordFailure held message w) := by
  have hfits : (held.modify fun m => m.markFailed message).Fits w id :=
    h.modify (fun _ => rfl) fun _ => rfl
  obtain ⟨w', hsave, -, hfind⟩ := saveMeeting_stores hfits
  rw [recordFailure, Service.bind_of_ok hsave]
  refine ⟨⟨_, rfl⟩, ?_⟩
  rw [Service.pure_apply, hfind]
  exact hdoc.markFailed message

theorem saveOrRecord_ends (h : held.Fits w id) (details : MeetingDetails)
    (mark : Meeting → MeetingDetails → Meeting) (hid : ∀ m d, (mark m d).id = m.id)
    (hkey : ∀ m d, (mark m d).bookingId = m.bookingId)
    (hdoc : (mark held.doc details).Coherent n) :
    Ends id n (saveOrRecord held (.ok details) mark w) := by
  have hfits : (held.modify fun m => mark m details).Fits w id :=
    h.modify (fun m => hid m details) fun m => hkey m details
  obtain ⟨w', hsave, -, hfind⟩ := saveMeeting_stores hfits
  simp only [saveOrRecord, hsave]
  refine ⟨⟨_, rfl⟩, ?_⟩
  rw [hfind]
  exact hdoc

theorem upsertMeetingRecord_coherent
    (hnew : w.meetings.findByKey b.id = none → o.NamesNew w)
    (h : CountsFailures n (w.meetings.findByKey b.id)) :
    ∃ held w', upsertMeetingRecord o b w = (.ok held, w') ∧ held.Fits w' b.id ∧
      held.loaded.Coherent n ∧ held.doc.Coherent n ∧
      (¬ held.doc.isCreated ↔ MeetingJobName.create.Asks (w.meetings.findByKey b.id)) := by
  unfold upsertMeetingRecord
  cases hfind : w.meetings.findByKey b.id with
  | some existing =>
    rw [hfind] at h
    obtain ⟨hmem, hkey⟩ := Collection.findByKey_eq_some.1 hfind
    refine ⟨_, w, rfl, ⟨hmem, rfl, Option.some.inj hkey, Option.some.inj hkey⟩, h,
      Meeting.Coherent.follow h, ?_⟩
    simp [MeetingJobName.Asks, HeldMeeting.modify, HeldMeeting.ofStored, Meeting.follow,
      Meeting.isCreated]
  | none =>
    rw [hfind] at h
    obtain rfl : n = 0 := h
    -- no record has the identity or the booking of the new one
    obtain ⟨c, hins⟩ := Collection.insert_of_compatible (c := w.meetings)
      (d := newMeeting o.newId b) fun e he => ⟨hnew hfind e he, fun k hk hk' =>
        Collection.findByKey_eq_none.1 hfind e he (hk.trans hk'.symm)⟩
    have hmem : newMeeting o.newId b ∈ c := (Collection.mem_insert hins).2 (.inr rfl)
    simp only [hins]
    refine ⟨_, _, rfl, ⟨hmem, rfl, rfl, rfl⟩, .of_new _, .of_new _, ?_⟩
    simp [MeetingJobName.Asks, HeldMeeting.ofStored, newMeeting, Meeting.isCreated]

theorem ensureHeld_ends (h : held.Fits w id) (hloaded : held.loaded.Coherent n)
    (hdoc : held.doc.Coherent n) :
    Ends id (n + if ¬ held.doc.isCreated ∧ Refuses o b then 1 else 0) (ensureHeld o b held w) := by
  unfold ensureHeld
  by_cases hcreated : held.doc.isCreated
  · -- nothing is saved
    rw [if_pos hcreated, if_neg fun hf => hf.1 hcreated]
    refine ⟨⟨_, rfl⟩, ?_⟩
    rw [Service.pure_apply, h.findByKey]
    exact hloaded
  rw [if_neg hcreated]
  by_cases hsup : isSupportedMeetingProvider b.meetingProvider
  · rw [if_neg (not_not.2 hsup)]
    cases hp : o.providerError with
    | some message =>
      obtain ⟨w₁, hcall, heffect, -⟩ := callCreate_of_error (w := w) id (createInput b) hp
      rw [Service.bind_of_ok (by rw [providerCall, hcall]),
        if_pos ⟨hcreated, .inr (by rw [hp]; rfl)⟩]
      exact recordFailure_ends (h.of_meetings heffect.meetings) hdoc message
    | none =>
      obtain ⟨details, w₁, hcall, -, heffect, -⟩ :=
        callCreate_of_ok (w := w) (createInput b) rfl hp
      rw [Service.bind_of_ok (by rw [providerCall, hcall]),
        if_neg fun hf => hf.2.elim (fun hno => hno hsup) (by simp [hp])]
      exact saveOrRecord_ends (h.of_meetings heffect.meetings) details _ (fun _ _ => rfl)
        (fun _ _ => rfl) (hdoc.markCreated details)
  · rw [if_pos hsup, if_pos ⟨hcreated, .inl hsup⟩]
    exact recordFailure_ends h hdoc _

theorem MeetingJobName.fails_iff {name : MeetingJobName} (hb : w.bookings.findById id = some b) :
    name.Fails o id w ↔ name.Asks (w.meetings.findByKey id) ∧ Refuses o b := by
  simp [Fails, hb]

theorem MeetingJobName.not_fails {name : MeetingJobName} (hb : w.bookings.findById id = none) :
    ¬ name.Fails o id w := by
  simp [Fails, hb]

theorem ensureMeetingForBooking_ends
    (hnew : w.meetings.findByKey id = none → o.NamesNew w)
    (h : CountsFailures n (w.meetings.findByKey id)) :
    Ends id (n + if MeetingJobName.create.Fails o id w then 1 else 0)
      (ensureMeetingForBooking o id w) := by
  unfold ensureMeetingForBooking
  rw [Service.read_bind]
  cases hfind : w.bookings.findById id with
  | none =>
    rw [if_neg (MeetingJobName.not_fails hfind)]
    exact ⟨⟨_, rfl⟩, h⟩
  | some b =>
    obtain rfl : b.id = id := (Collection.findById_eq_some.1 hfind).2
    obtain ⟨held, w₁, hrun, hfits, hloaded, hdoc, hasks⟩ := upsertMeetingRecord_coherent hnew h
    simp only [MeetingJobName.fails_iff hfind, ← hasks]
    rw [Service.bind_of_ok hrun]
    exact ensureHeld_ends hfits hloaded hdoc

theorem Meeting.status_of_movable {m : Meeting} (h : m.movable.isSome) : m.status = .created := by
  unfold movable at h
  split at h
  · assumption
  · cases h

theorem syncHeld_ends (hb : w.bookings.findById b.id = some b) (h : held.Fits w b.id)
    (hdoc : held.doc.Coherent n) :
    Ends b.id (n + if (held.doc.movable.isSome ∨ ¬ held.doc.isCreated) ∧ Refuses o b then 1 else 0)
      (syncHeld o b held w) := by
  unfold syncHeld
  cases hmove : held.doc.movable with
  | none =>
    obtain ⟨w₁, hsave, hbookings, hfind⟩ := saveMeeting_stores h
    simp only
    rw [Service.bind_of_ok hsave]
    have hensure : Ends b.id (n + if MeetingJobName.create.Fails o b.id w₁ then 1 else 0)
        (ensureMeetingForBooking o b.id w₁) :=
      ensureMeetingForBooking_ends (by simp [hfind]) (by rw [hfind]; exact hdoc)
    have hfails : MeetingJobName.create.Fails o b.id w₁ ↔
        MeetingJobName.create.Asks (w₁.meetings.findByKey b.id) ∧ Refuses o b :=
      MeetingJobName.fails_iff (hbookings ▸ hb)
    simpa [hfails, hfind, MeetingJobName.Asks] using hensure
  | some target =>
    have hcreated := Meeting.status_of_movable (m := held.doc) (by rw [hmove]; rfl)
    obtain ⟨answer, w₁, hcall, heffect, -, hok⟩ := callUpdate_cases (o := o) (w := w) b.id
      b.meetingProvider (updateInput b target)
    have hfits := h.of_meetings heffect.meetings
    simp only
    rw [Service.bind_of_ok (by rw [providerCall, hcall])]
    cases answer with
    | ok details =>
      obtain ⟨hsup, hp⟩ := hok.1 ⟨details, rfl⟩
      rw [if_neg fun hf => hf.2.elim (fun hno => hno hsup) (by simp [hp])]
      exact saveOrRecord_ends hfits details _ (fun _ _ => rfl) (fun _ _ => rfl)
        (hdoc.markMoved hcreated details)
    | error message =>
      have hrefuses : Refuses o b := by
        by_contra hno
        obtain ⟨hsup, hp⟩ := not_or.1 hno
        obtain ⟨details, hd⟩ := hok.2 ⟨not_not.1 hsup, by simpa using hp⟩
        cases hd
      rw [if_pos ⟨.inl rfl, hrefuses⟩]
      exact recordFailure_ends hfits hdoc message

theorem syncMeetingTimes_ends (hnew : w.meetings.findByKey id = none → o.NamesNew w)
    (h : CountsFailures n (w.meetings.findByKey id)) :
    Ends id (n + if MeetingJobName.sync.Fails o id w then 1 else 0) (syncMeetingTimes o id w) := by
  unfold syncMeetingTimes
  rw [Service.read_bind]
  cases hfind : w.bookings.findById id with
  | none =>
    rw [if_neg (MeetingJobName.not_fails hfind)]
    exact ⟨⟨_, rfl⟩, h⟩
  | some b =>
    obtain rfl : b.id = id := (Collection.findById_eq_some.1 hfind).2
    simp only
    rw [Service.read_bind]
    cases hmeeting : w.meetings.findByKey b.id with
    | none =>
      have hensure := ensureMeetingForBooking_ends hnew h
      simpa [MeetingJobName.fails_iff hfind, hmeeting, MeetingJobName.Asks] using hensure
    | some m =>
      rw [hmeeting] at h
      obtain ⟨hmem, hkey⟩ := Collection.findByKey_eq_some.1 hmeeting
      have hfits : ((HeldMeeting.ofStored m).modify fun m => m.retime b).Fits w b.id :=
        ⟨hmem, rfl, Option.some.inj hkey, Option.some.inj hkey⟩
      have hsync := syncHeld_ends (o := o) hfind hfits (Meeting.Coherent.retime h)
      have hasks : MeetingJobName.sync.Asks (some m) ↔ m.movable.isSome ∨ ¬ m.isCreated := by
        simp [MeetingJobName.Asks]
      simp only [MeetingJobName.fails_iff hfind, hmeeting, hasks]
      exact hsync

theorem callCancel_meetings (provider : MeetingProvider) (input : CancelMeetingInput) :
    (callCancel o provider input w).meetings = w.meetings := by
  unfold callCancel
  split_ifs
  · cases o.providerError <;> rfl
  · rfl

/-- From the record on, a cancellation is recorded whatever the provider answers. -/
theorem cancelHeld_ends (h : held.Fits w id) (hdoc : held.doc.Coherent n) :
    Ends id n (cancelHeld o b held w) := by
  have hfits : (held.modify Meeting.markCancelled).Fits w id := h.modify (fun _ => rfl) fun _ => rfl
  have hends : ∀ w₁ : World, w₁.meetings = w.meetings →
      ∃ w₂, saveMeeting (held.modify Meeting.markCancelled) w₁ = (.ok (), w₂) ∧
        CountsFailures n (w₂.meetings.findByKey id) := by
    intro w₁ hw₁
    obtain ⟨w₂, hsave, -, hfind⟩ := saveMeeting_stores (hfits.of_meetings hw₁)
    refine ⟨w₂, hsave, ?_⟩
    rw [hfind]
    exact hdoc.markCancelled
  simp only [cancelHeld]
  cases held.doc.removable with
  | none =>
    obtain ⟨w₂, hsave, hrecorded⟩ := hends w rfl
    simp only
    rw [Service.bind_of_ok hsave]
    exact ⟨⟨_, rfl⟩, hrecorded⟩
  | some target =>
    obtain ⟨w₂, hsave, hrecorded⟩ := hends _ (callCancel_meetings b.meetingProvider _)
    simp only
    rw [Service.bind_of_ok (Service.modify_apply _ _), Service.bind_of_ok hsave]
    exact ⟨⟨_, rfl⟩, hrecorded⟩

theorem cancelMeetingForBooking_ends (h : CountsFailures n (w.meetings.findByKey id)) :
    Ends id n (cancelMeetingForBooking o id w) := by
  unfold cancelMeetingForBooking
  rw [Service.read_bind, Service.read_bind]
  have hstays : Ends id n ((pure none : Service (Option Meeting)) w) := ⟨⟨_, rfl⟩, h⟩
  cases hmeeting : w.meetings.findByKey id with
  | none => cases w.bookings.findById id <;> exact hstays
  | some m =>
    cases w.bookings.findById id with
    | none => exact hstays
    | some b =>
      obtain ⟨hmem, hkey⟩ := Collection.findByKey_eq_some.1 hmeeting
      rw [hmeeting] at h
      exact cancelHeld_ends ⟨hmem, rfl, Option.some.inj hkey, Option.some.inj hkey⟩ h

/-- **One call** answers, and leaves a coherent record that counts the failure. -/
theorem MeetingJobName.handle_ends (name : MeetingJobName) (hnew : o.NamesNew w)
    (h : CountsFailures n (w.meetings.findByKey id)) :
    Ends id (n + if name.Fails o id w then 1 else 0) (name.handle o id w) := by
  cases name with
  | create => exact ensureMeetingForBooking_ends (fun _ => hnew) h
  | sync => exact syncMeetingTimes_ends (fun _ => hnew) h
  | cancel =>
    rw [if_neg fun hf => hf.elim fun b hb => hb.2.1]
    exact cancelMeetingForBooking_ends h

end

/-! ### Runs -/

/-- A call on the conference of one booking, or anything else. -/
inductive ConferenceAction where
  | call (name : MeetingJobName) (o : Oracle)
  | surroundings (w : World)

section

variable (id : ObjectId)

/-- One action: a new record gets a new identity, and the surroundings leave the record of the
booking alone. -/
def ConferenceAction.exec (w : World) : ConferenceAction → Option World
  | call name o => if o.NamesNew w then some (name.handle o id w).2 else none
  | surroundings w' =>
    if w'.meetings.findByKey id = w.meetings.findByKey id then some w' else none

/-- Calls on the conference of one booking, one after another. -/
def conferenceCalls : Machine World ConferenceAction := ⟨fun w a => a.exec id w⟩

/-- The action is a call that fails. -/
def ConferenceAction.IsFailure (w : World) : ConferenceAction → Prop
  | call name o => name.Fails o id w
  | surroundings _ => False

instance (w : World) : ∀ a : ConferenceAction, Decidable (a.IsFailure id w)
  | .call name o => inferInstanceAs (Decidable (name.Fails o id w))
  | .surroundings _ => .isFalse not_false

variable {id} {n : ℕ} {w w' : World} {a : ConferenceAction} {as : List ConferenceAction}

/-- **One action** keeps the record coherent and the count true. -/
theorem countsFailures_step (h : CountsFailures n (w.meetings.findByKey id))
    (hstep : (conferenceCalls id).step w a = some w') :
    CountsFailures (n + if a.IsFailure id w then 1 else 0) (w'.meetings.findByKey id) := by
  cases a with
  | call name o =>
    simp only [conferenceCalls, ConferenceAction.exec, Option.ite_none_right_eq_some] at hstep
    obtain ⟨hnew, hw'⟩ := hstep
    cases hw'
    exact (name.handle_ends hnew h).recorded
  | surroundings =>
    simp only [conferenceCalls, ConferenceAction.exec, Option.ite_none_right_eq_some] at hstep
    obtain ⟨hsame, hw'⟩ := hstep
    cases hw'
    rw [hsame, if_neg (by exact not_false)]
    exact h

/-- **Failures of the provider are recorded, never thrown.**  In every state of a run that starts
without a record, the record of the booking is coherent and counts the failures so far, and the
next call answers and leaves the bookings as they are. -/
theorem failures_recorded (hnone : w.meetings.findByKey id = none)
    (hrun : (conferenceCalls id).run w as = some w') :
    CountsFailures ((conferenceCalls id).count (fun w a => a.IsFailure id w) w as)
        (w'.meetings.findByKey id) ∧
      ∀ (name : MeetingJobName) (o : Oracle), o.NamesNew w' →
        (∃ m, (name.handle o id w').1 = .ok m) ∧
          (name.handle o id w').2.bookings = w'.bookings := by
  have hrecorded := Machine.run_count (I := fun n w => CountsFailures n (w.meetings.findByKey id))
    (G := fun _ _ => True) (P := fun w a => a.IsFailure id w)
    (fun n w a w' h _ hstep => countsFailures_step h hstep) (n := 0) (by rw [hnone]; rfl)
    (Machine.meets_of_forall (fun _ _ => trivial) w as) hrun
  rw [Nat.zero_add] at hrecorded
  refine ⟨hrecorded, fun name o hnew => ⟨(name.handle_ends hnew hrecorded).answers, ?_⟩⟩
  exact (name.handle_writes id w').frame.bookings

end

/-! ### An outage -/

/-- Client 2 has booked the first Monday at nine. -/
def bookedOnly : World :=
  { mondayWorld with bookings := singleBooking (sampleBooking 7 mondayNine 60) }

/-- The creation fails and is tried again, the move fails, and the booking is cancelled. -/
def outage : List ConferenceAction :=
  [.call .create { answering 1 1 with providerError := some "unavailable" },
    .call .create (answering 2 1),
    .call .sync { answering 3 2 with providerError := some "unavailable" },
    .call .cancel (answering 4 2)]

theorem outage_isSome : ((conferenceCalls 7).run bookedOnly outage).isSome = true := by
  decide +kernel

/-- The record counts both failures. -/
theorem failures_recorded_outage :
    CountsFailures 2 ((((conferenceCalls 7).run bookedOnly outage).get
      outage_isSome).meetings.findByKey 7) := by
  have hcount : (conferenceCalls 7).count (fun w a => a.IsFailure 7 w) bookedOnly outage =
      2 := by decide +kernel
  have hrecorded := (failures_recorded (w := bookedOnly) rfl
    (Option.some_get outage_isSome).symm).1
  rwa [hcount] at hrecorded

end HrBooking
