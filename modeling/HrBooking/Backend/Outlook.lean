import HrBooking.Backend.Handler
import HrBooking.Meeting.Mirror

/-!
# What a job in flight will leave

A job in flight acts on a copy of the booking that may be out of date.  As long as nothing else
works on the meeting of the booking, what the job leaves in the calendar is decided by the copy it
holds, and by the booking as it is now where the job has yet to read it.

* `Oracle.Answers` : no provider or queue call fails.
* `HandlerStage.Leaves` : the appointment as the stage requires it, and what the job will leave.
* `HandlerStage.leaves_exec` : a command keeps it.
-/

namespace HrBooking

/-- No provider or queue call fails, and the consultant's account names a calendar. -/
structure Oracle.Answers (o : Oracle) : Prop where
  provider : o.providerError = none
  queues : o.QueuesAnswer
  calendar : o.calendarId ≠ ""

theorem Oracle.answers_iff {o : Oracle} :
    o.Answers ↔ o.providerError = none ∧ o.QueuesAnswer ∧ o.calendarId ≠ "" :=
  ⟨fun h => ⟨h.provider, h.queues, h.calendar⟩, fun ⟨hp, hq, hc⟩ => ⟨hp, hq, hc⟩⟩

instance (o : Oracle) : Decidable o.Answers := decidable_of_iff _ Oracle.answers_iff.symm

/-- The held document is a copy of the record of the booking, changed or not. -/
structure HeldMeeting.Copies (held : HeldMeeting) (bookingId : ObjectId) (a : Appointment) :
    Prop where
  loaded : a.meeting = some held.loaded
  id_eq : held.doc.id = held.loaded.id
  key_eq : held.doc.bookingId = bookingId

/-- The copy of a booking that a job holds. -/
structure Booking.Serves (booking : Booking) (bookingId : ObjectId) : Prop where
  id_eq : booking.id = bookingId
  supported : isSupportedMeetingProvider booking.meetingProvider

/-- What a synchronisation leaves that has read the booking as `old` : it reads it again when there
is no event to move. -/
def Mirror.resync (old now : Booking) : Mirror → Mirror
  | held _ _ => held old.startAt old.endAt
  | _ => held now.startAt now.endAt

theorem Mirror.resync_self (now : Booking) (v : Mirror) :
    v.resync now now = MeetingJobName.sync.leave now v := by
  cases v <;> rfl

/-- What a job in flight will leave of an appointment, when the booking is `now`. -/
inductive HandlerStage.Leaves (id : ObjectId) (now : Booking) (a : Appointment) :
    HandlerStage → Mirror → Prop
  | ensureRead {v : Mirror} (h : a.Shows id v) :
      Leaves id now a (.ensureRead id) (MeetingJobName.create.leave now v)
  | ensureFind {b : Booking} {v : Mirror} (hb : b.Serves id) (h : a.Shows id v) :
      Leaves id now a (.ensureFind b) (MeetingJobName.create.leave b v)
  | ensureInsert {b : Booking} (hb : b.Serves id) (h : a.Shows id .absent) :
      Leaves id now a (.ensureInsert b) (.held b.startAt b.endAt)
  | callCreate {b : Booking} {held : HeldMeeting} (hb : b.Serves id) (hheld : held.Copies id a)
      (hs : held.doc.startTime = b.startAt) (he : held.doc.endTime = b.endAt)
      (hnone : a.events = []) :
      Leaves id now a (.callCreate b held) (.held b.startAt b.endAt)
  | saveCreated {held : HeldMeeting} {details : MeetingDetails} (hheld : held.Copies id a)
      (hcalendar : details.externalCalendarId ≠ "")
      (hone : a.events = [⟨details.externalMeetingId, id, held.doc.startTime, held.doc.endTime⟩]) :
      Leaves id now a (.saveCreated held details) (.held held.doc.startTime held.doc.endTime)
  | syncRead {v : Mirror} (h : a.Shows id v) :
      Leaves id now a (.syncRead id) (MeetingJobName.sync.leave now v)
  | syncFind {b : Booking} {v : Mirror} (hb : b.Serves id) (h : a.Shows id v) :
      Leaves id now a (.syncFind b) (v.resync b now)
  | saveTimes {held : HeldMeeting} (hheld : held.Copies id a)
      (hcancelled : held.doc.status = .cancelled) (hnone : a.events = []) :
      Leaves id now a (.saveTimes held) (.held now.startAt now.endAt)
  | callUpdate {b : Booking} {held : HeldMeeting} {target : EventId × String} {s t : ℤ}
      (hb : b.Serves id) (hheld : held.Copies id a) (hnames : held.doc.Names target)
      (hs : held.doc.startTime = b.startAt) (he : held.doc.endTime = b.endAt)
      (hone : a.events = [⟨target.1, id, s, t⟩]) :
      Leaves id now a (.callUpdate b held target) (.held b.startAt b.endAt)
  | saveMoved {held : HeldMeeting} {details : MeetingDetails} {target : EventId × String}
      (hheld : held.Copies id a) (hnames : held.doc.Names target)
      (hone : a.events = [⟨target.1, id, held.doc.startTime, held.doc.endTime⟩]) :
      Leaves id now a (.saveMoved held details) (.held held.doc.startTime held.doc.endTime)
  | cancelRead {v : Mirror} (h : a.Shows id v) :
      Leaves id now a (.cancelRead id) (MeetingJobName.cancel.leave now v)
  | cancelFind {b : Booking} {v : Mirror} (hb : b.Serves id) (h : a.Shows id v) :
      Leaves id now a (.cancelFind id (some b)) (MeetingJobName.cancel.leave now v)
  | callCancel {b : Booking} {held : HeldMeeting} {target : EventId × String} {s t : ℤ}
      (hb : b.Serves id) (hheld : held.Copies id a) (hone : a.events = [⟨target.1, id, s, t⟩]) :
      Leaves id now a (.callCancel b held target) .removed
  | saveCancelled {held : HeldMeeting} (hheld : held.Copies id a) (hnone : a.events = []) :
      Leaves id now a (.saveCancelled held) .removed

/-- What is left when a command of a job has been issued. -/
def HandlerOutcome.Leaves (id : ObjectId) (now : Booking) (a : Appointment) (v : Mirror) :
    HandlerOutcome → Prop
  | next stage => stage.Leaves id now a v
  | finished => a.Shows id v
  | thrown _ => False

section Copies

variable {held : HeldMeeting} {id : ObjectId} {w : World} {a : Appointment}

theorem HeldMeeting.Copies.fits (h : held.Copies id (w.appointment id)) : held.Fits w id := by
  obtain ⟨hmem, hkey⟩ := Collection.findByKey_eq_some.1 h.loaded
  exact ⟨hmem, h.id_eq, Option.some.inj hkey, h.key_eq⟩

theorem HeldMeeting.Copies.of_meeting (h : held.Copies id a) {a' : Appointment}
    (hm : a'.meeting = a.meeting) : held.Copies id a' :=
  ⟨hm.trans h.loaded, h.id_eq, h.key_eq⟩

theorem HeldMeeting.copies_ofStored {m : Meeting} (h : a.meeting = some m)
    (hkey : m.bookingId = id) : (ofStored m).Copies id a :=
  ⟨h, rfl, hkey⟩

theorem HeldMeeting.Copies.modify (h : held.Copies id a) {f : Meeting → Meeting}
    (hid : ∀ m, (f m).id = m.id) (hkey : ∀ m, (f m).bookingId = m.bookingId) :
    (held.modify f).Copies id a :=
  ⟨h.loaded, (hid _).trans h.id_eq, (hkey _).trans h.key_eq⟩

theorem HeldMeeting.Copies.saving (h : held.Copies id (w.appointment id)) (htidy : w.Tidy)
    (onSaved : HandlerOutcome) (onError : AppError → HandlerOutcome) {r : World × HandlerOutcome}
    (hexec : saving held w onSaved onError = some r) :
    r.2 = onSaved ∧ w.Touches id r.1 ⟨some held.doc, (w.appointment id).events⟩ := by
  obtain ⟨w', hsave, htouches⟩ := saveMeeting_touches htidy h.fits
  simp only [HrBooking.saving, hsave, Option.some.injEq] at hexec
  subst hexec
  exact ⟨rfl, htouches⟩

end Copies

section Exec

variable {o : Oracle} {w w' : World} {id : ObjectId} {now b : Booking} {a : Appointment}
  {v : Mirror} {stage : HandlerStage} {out : HandlerOutcome}

theorem leaves_of_read (htidy : w.Tidy)
    (h : out.Leaves id now (w.appointment id) v) :
    ∃ a, w.Touches id w a ∧ out.Leaves id now a v :=
  ⟨_, .refl htidy, h⟩

theorem ensureWith_leaves (hb : b.Serves id) {m : Meeting} (hm : a.meeting = some m)
    (hkey : m.bookingId = id) (h : a.Shows id v) :
    (ensureWith b ((HeldMeeting.ofStored m).modify fun m => m.follow b)).Leaves id now a
      (MeetingJobName.create.leave b v) := by
  unfold ensureWith
  cases h with
  | absent => cases hm
  | held hnames =>
    cases hm
    have hcreated : ((HeldMeeting.ofStored m).modify fun m => m.follow b).doc.isCreated :=
      hnames.isCreated
    rw [if_pos hcreated]
    exact .held hnames
  | removed hcancelled =>
    cases hm
    have hcreated : ¬ ((HeldMeeting.ofStored m).modify fun m => m.follow b).doc.isCreated :=
      Meeting.not_isCreated_of_cancelled hcancelled
    rw [if_neg hcreated, if_neg (not_not.2 hb.supported)]
    exact .callCreate hb ((HeldMeeting.copies_ofStored rfl hkey).modify (fun _ => rfl) fun _ => rfl)
      rfl rfl rfl

theorem syncWith_leaves (hb : b.Serves id) {m : Meeting} (hm : a.meeting = some m)
    (hkey : m.bookingId = id) (h : a.Shows id v) :
    (syncWith b ((HeldMeeting.ofStored m).modify fun m => m.retime b)).Leaves id now a
      (v.resync b now) := by
  have hcopies : ((HeldMeeting.ofStored m).modify fun m => m.retime b).Copies id a :=
    (HeldMeeting.copies_ofStored hm hkey).modify (fun _ => rfl) fun _ => rfl
  unfold syncWith
  cases h with
  | absent => cases hm
  | @held _ target hnames =>
    cases hm
    have hmoves : (Meeting.retime m b).movable = some target := hnames.retime.movable
    simp only [HeldMeeting.modify, HeldMeeting.ofStored, hmoves]
    exact .callUpdate hb hcopies hnames.retime rfl rfl rfl
  | removed hcancelled =>
    cases hm
    have hstays : (Meeting.retime m b).movable = none := Meeting.movable_of_cancelled hcancelled
    simp only [HeldMeeting.modify, HeldMeeting.ofStored, hstays]
    exact .saveTimes hcopies hcancelled rfl

theorem cancelWith_leaves (hb : b.Serves id) {m : Meeting} (hm : a.meeting = some m)
    (hkey : m.bookingId = id) (h : a.Shows id v) :
    (cancelWith b m).Leaves id now a (MeetingJobName.cancel.leave now v) := by
  have hcopies : (HeldMeeting.ofStored m).Copies id a := HeldMeeting.copies_ofStored hm hkey
  unfold cancelWith
  cases h with
  | absent => cases hm
  | held hnames =>
    cases hm
    simp only [hnames.removable]
    exact .callCancel hb hcopies rfl
  | removed hcancelled =>
    cases hm
    simp only [Meeting.removable_of_cancelled hcancelled]
    exact .saveCancelled hcopies rfl

/-- The record is absent exactly from an absent appointment. -/
theorem Appointment.Shows.eq_absent (h : a.Shows id v) (hm : a.meeting = none) : v = .absent := by
  cases h with
  | absent => rfl
  | held | removed => cases hm

theorem ensureInsert_leaves (htidy : w.Tidy) (hb : b.Serves id)
    (h : (w.appointment id).Shows id .absent)
    (hexec : (HandlerStage.ensureInsert b).exec o w = some (w', out)) :
    ∃ a, w.Touches id w' a ∧ out.Leaves id now a (.held b.startAt b.endAt) := by
  obtain rfl := hb.id_eq
  have hmeeting : w.meetings.findByKey b.id = none ∧ (w.appointment b.id).events = [] := by
    generalize ha : w.appointment b.id = a at h
    cases h
    exact ⟨congrArg Appointment.meeting ha, rfl⟩
  simp only [HandlerStage.exec] at hexec
  split_ifs at hexec with hnew
  obtain ⟨c, hins, htouches⟩ := insertMeeting_touches htidy hnew hmeeting.1
  simp only [hins] at hexec
  cases hexec
  refine ⟨_, htouches, ?_⟩
  have hcreated : ¬ (HeldMeeting.ofStored (newMeeting o.newId b)).doc.isCreated :=
    newMeeting_not_isCreated o.newId
  unfold ensureWith
  rw [if_neg hcreated, if_neg (not_not.2 hb.supported)]
  exact .callCreate hb (HeldMeeting.copies_ofStored rfl rfl) rfl rfl hmeeting.2

theorem callCreate_leaves {held : HeldMeeting} (ho : o.Answers) (htidy : w.Tidy) (hb : b.Serves id)
    (hheld : held.Copies id (w.appointment id)) (hs : held.doc.startTime = b.startAt)
    (he : held.doc.endTime = b.endAt) (hnone : (w.appointment id).events = [])
    (hexec : (HandlerStage.callCreate b held).exec o w = some (w', out)) :
    ∃ a, w.Touches id w' a ∧ out.Leaves id now a (.held b.startAt b.endAt) := by
  obtain rfl := hb.id_eq
  simp only [HandlerStage.exec] at hexec
  split_ifs at hexec with hnew
  obtain ⟨w₁, hcall, htouches⟩ := callCreate_touches htidy ho.provider hnew (createInput b)
  simp only [hcall] at hexec
  cases hexec
  refine ⟨_, htouches, ?_⟩
  rw [← hs, ← he]
  refine .saveCreated (hheld.of_meeting rfl) ho.calendar ?_
  rw [hs, he]
  exact congrArg (List.cons _) hnone

theorem callUpdate_leaves {held : HeldMeeting} {target : EventId × String} {s t : ℤ}
    (ho : o.Answers) (htidy : w.Tidy) (hb : b.Serves id)
    (hheld : held.Copies id (w.appointment id)) (hnames : held.doc.Names target)
    (hs : held.doc.startTime = b.startAt) (he : held.doc.endTime = b.endAt)
    (hone : (w.appointment id).events = [⟨target.1, id, s, t⟩])
    (hexec : (HandlerStage.callUpdate b held target).exec o w = some (w', out)) :
    ∃ a, w.Touches id w' a ∧ out.Leaves id now a (.held b.startAt b.endAt) := by
  simp only [HandlerStage.exec] at hexec
  obtain ⟨w₁, hcall, htouches⟩ :=
    callUpdate_touches htidy ho.provider hb.supported (updateInput b target) hone
  simp only [hcall] at hexec
  cases hexec
  refine ⟨_, htouches, ?_⟩
  rw [← hs, ← he]
  refine .saveMoved (hheld.of_meeting rfl) hnames ?_
  rw [hs, he]
  rfl

/-- **A command of a job in flight** touches the booking's appointment only, and what the job is
going to leave stays what it was. -/
theorem HandlerStage.leaves_exec (ho : o.Answers) (htidy : w.Tidy)
    (hfind : w.bookings.findById id = some now) (hnow : now.Serves id)
    (h : stage.Leaves id now (w.appointment id) v) (hexec : stage.exec o w = some (w', out)) :
    ∃ a, w.Touches id w' a ∧ out.Leaves id now a v := by
  have hkey : ∀ {m}, w.meetings.findByKey id = some m → m.bookingId = id := fun hm =>
    Option.some.inj (Collection.findByKey_eq_some.1 hm).2
  -- reading the record settles how the handler goes on; the provider call and the save then
  -- change the calendar and the record of this booking only
  cases h with
  | ensureRead hv =>
    simp only [exec, hfind] at hexec
    cases hexec
    exact leaves_of_read htidy (.ensureFind hnow hv)
  | syncRead hv =>
    simp only [exec, hfind] at hexec
    cases hexec
    refine leaves_of_read htidy ?_
    rw [← Mirror.resync_self]
    exact .syncFind hnow hv
  | cancelRead hv =>
    simp only [exec, hfind] at hexec
    cases hexec
    exact leaves_of_read htidy (.cancelFind hnow hv)
  | ensureFind hb hv =>
    obtain rfl := hb.id_eq
    simp only [exec] at hexec
    split at hexec
    · rename_i hm
      cases hexec
      obtain rfl := hv.eq_absent hm
      exact leaves_of_read htidy (.ensureInsert hb hv)
    · rename_i m hm
      cases hexec
      exact leaves_of_read htidy (ensureWith_leaves hb hm (hkey hm) hv)
  | syncFind hb hv =>
    obtain rfl := hb.id_eq
    simp only [exec] at hexec
    split at hexec
    · rename_i hm
      cases hexec
      obtain rfl := hv.eq_absent hm
      exact leaves_of_read htidy (.ensureRead hv)
    · rename_i m hm
      cases hexec
      exact leaves_of_read htidy (syncWith_leaves hb hm (hkey hm) hv)
  | cancelFind hb hv =>
    simp only [exec] at hexec
    split at hexec
    · rename_i m hbooking hm
      cases hexec
      cases hbooking
      exact leaves_of_read htidy (cancelWith_leaves hb hm (hkey hm) hv)
    · rename_i hnone
      cases hexec
      cases hm : w.meetings.findByKey id with
      | none =>
        obtain rfl := hv.eq_absent hm
        exact leaves_of_read htidy hv
      | some m => exact absurd hm (hnone _ m rfl)
  | ensureInsert hb hv => exact ensureInsert_leaves htidy hb hv hexec
  | callCreate hb hheld hs he hnone =>
    exact callCreate_leaves ho htidy hb hheld hs he hnone hexec
  | callUpdate hb hheld hnames hs he hone =>
    exact callUpdate_leaves ho htidy hb hheld hnames hs he hone hexec
  | @callCancel b held target s t hb hheld hone =>
    cases hexec
    have htouches :=
      callCancel_touches htidy ho.provider hb.supported (cancelInput b target) hone
    exact ⟨_, htouches, .saveCancelled (hheld.of_meeting rfl) rfl⟩
  | @saveCreated held details hheld hcalendar hone =>
    have hcopies : (held.modify fun m => m.markCreated details).Copies id (w.appointment id) :=
      hheld.modify (fun _ => rfl) fun _ => rfl
    obtain ⟨rfl, htouches⟩ := hcopies.saving htidy _ _ hexec
    refine ⟨_, htouches, ?_⟩
    rw [hone]
    exact .held (Meeting.names_markCreated hcalendar)
  | @saveMoved held details target hheld hnames hone =>
    have hcopies : (held.modify fun m => m.markMoved details).Copies id (w.appointment id) :=
      hheld.modify (fun _ => rfl) fun _ => rfl
    obtain ⟨rfl, htouches⟩ := hcopies.saving htidy _ _ hexec
    refine ⟨_, htouches, ?_⟩
    rw [hone]
    exact .held (hnames.markMoved details)
  | @saveTimes held hheld hcancelled hnone =>
    obtain ⟨rfl, htouches⟩ := hheld.saving htidy _ _ hexec
    refine ⟨_, htouches, ?_⟩
    rw [hnone, hheld.key_eq]
    exact .ensureRead (.removed hcancelled)
  | @saveCancelled held hheld hnone =>
    have hcopies : (held.modify Meeting.markCancelled).Copies id (w.appointment id) :=
      hheld.modify (fun _ => rfl) fun _ => rfl
    obtain ⟨rfl, htouches⟩ := hcopies.saving htidy _ _ hexec
    refine ⟨_, htouches, ?_⟩
    rw [hnone]
    exact .removed rfl

end Exec

end HrBooking
