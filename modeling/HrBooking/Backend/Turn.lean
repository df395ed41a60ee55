import HrBooking.Backend.Handler
import HrBooking.Meeting.Account
import HrBooking.Meeting.Conference

/-!
# Commands of handlers as turns

What the shared state looks like from one booking: its meeting record and its events.  Seen so, each
command of a meeting handler is one turn of the conference protocol for the booking it works on, and
does not concern the others.

* `World.conference`, `HandlerStage.roleFor` : the view of one booking.
* `HandlerStage.Anchored` : the record a handler holds is stored, and neither its status nor its
  event was changed in memory.
* `CommandEffect`, `HandlerStage.commandEffect_of_exec` : a command of a handler is a turn.
-/

namespace HrBooking

/-! ### The view of one booking -/

/-- What of a record the conference sees. -/
def Meeting.entry (meeting : Meeting) : Entry := ⟨meeting.status, meeting.externalMeetingId⟩

/-- The record and the events of a booking. -/
def World.conference (w : World) (bookingId : ObjectId) : Conference where
  entry := (w.meetings.findByKey bookingId).map Meeting.entry
  live := (w.events.filter fun e => e.bookingId = bookingId).map (·.id)
  issued := w.issuedEvents

/-- The booking a handler works on. -/
def HandlerStage.bookingId : HandlerStage → ObjectId
  | ensureRead bookingId | syncRead bookingId | cancelRead bookingId | cancelFind bookingId _ =>
    bookingId
  | ensureFind booking | ensureInsert booking | syncFind booking => booking.id
  | callCreate _ held | saveCreated held _ | saveFailed held _ | saveTimes held
  | callUpdate _ held _ | saveMoved held _ | callCancel _ held _ | saveCancelled held =>
    held.loaded.bookingId

/-- What a handler is about to do with the conference it works on. -/
def HandlerStage.role : HandlerStage → Role
  | callCreate _ held => .creating held.loaded.entry
  | saveCreated held details => .recording held.loaded.entry details.externalMeetingId
  | saveFailed held _ => .failing held.loaded.entry
  | cancelRead _ | cancelFind _ (some _) => .awaiting
  | callCancel _ held target => .removing held.loaded.entry target.1
  | saveCancelled held => .closing held.loaded.entry
  | _ => .bystander

/-- What a handler is about to do with the conference of one booking. -/
def HandlerStage.roleFor (bookingId : ObjectId) (stage : HandlerStage) : Role :=
  if stage.bookingId = bookingId then stage.role else .bystander

/-- The role of the stage that follows, if any. -/
def HandlerOutcome.role : HandlerOutcome → Role
  | next stage => stage.role
  | finished | thrown _ => .bystander

/-- The role of the stage that follows, if any, in the conference of one booking. -/
def HandlerOutcome.roleFor (bookingId : ObjectId) : HandlerOutcome → Role
  | next stage => stage.roleFor bookingId
  | finished | thrown _ => .bystander

/-! ### Records in memory -/

/-- A record with the same identity and booking is stored. -/
def HeldMeeting.Stored (c : Collection Meeting) (held : HeldMeeting) : Prop :=
  ∃ m ∈ c, m.id = held.loaded.id ∧ m.bookingId = held.loaded.bookingId

/-- The held record is stored, and its status and its event were not changed in memory. -/
structure HeldMeeting.Anchored (c : Collection Meeting) (held : HeldMeeting) : Prop where
  stored : held.Stored c
  entry : held.doc.entry = held.loaded.entry

/-- What holds of the copies a handler has in memory. -/
def HandlerStage.Anchored (c : Collection Meeting) : HandlerStage → Prop
  | ensureFind booking | ensureInsert booking | syncFind booking | cancelFind _ (some booking) =>
    isSupportedMeetingProvider booking.meetingProvider
  | callCreate booking held => booking.id = held.loaded.bookingId ∧ held.Anchored c
  | callUpdate booking held _ | callCancel booking held _ =>
    isSupportedMeetingProvider booking.meetingProvider ∧ held.Anchored c
  | saveCreated held _ | saveFailed held _ | saveTimes held | saveMoved held _
  | saveCancelled held => held.Anchored c
  | _ => True

/-- What holds of the stage that follows, if any. -/
def HandlerOutcome.Anchored (c : Collection Meeting) : HandlerOutcome → Prop
  | next stage => stage.Anchored c
  | _ => True

/-- No record is deleted or given to another booking. -/
def KeepsMeetings (c c' : Collection Meeting) : Prop :=
  ∀ m ∈ c, ∃ m' ∈ c', m'.id = m.id ∧ m'.bookingId = m.bookingId

section Anchored

variable {c c' : Collection Meeting} {held : HeldMeeting}

theorem KeepsMeetings.refl (c : Collection Meeting) : KeepsMeetings c c :=
  fun m hm => ⟨m, hm, rfl, rfl⟩

theorem HeldMeeting.Stored.mono (h : held.Stored c) (hc : KeepsMeetings c c') : held.Stored c' := by
  obtain ⟨m, hm, hid, hkey⟩ := h
  obtain ⟨m', hm', hid', hkey'⟩ := hc m hm
  exact ⟨m', hm', hid'.trans hid, hkey'.trans hkey⟩

theorem HeldMeeting.Anchored.mono (h : held.Anchored c) (hc : KeepsMeetings c c') :
    held.Anchored c' := ⟨h.stored.mono hc, h.entry⟩

theorem HeldMeeting.anchored_ofStored {m : Meeting} (hm : m ∈ c) : (ofStored m).Anchored c :=
  ⟨⟨m, hm, rfl, rfl⟩, rfl⟩

theorem HandlerStage.Anchored.mono {stage : HandlerStage} (h : stage.Anchored c)
    (hc : KeepsMeetings c c') : stage.Anchored c' := by
  cases stage with
  | callCreate | callUpdate | callCancel => exact ⟨h.1, h.2.mono hc⟩
  | saveCreated | saveFailed | saveTimes | saveMoved | saveCancelled =>
    exact HeldMeeting.Anchored.mono h hc
  | cancelFind _ booking =>
    cases booking with
    | none => trivial
    | some => exact h
  | _ => exact h

end Anchored

/-! ### Events -/

section Events

variable (w : World) {bookingId : ObjectId}

theorem World.live_create (input : CreateMeetingInput) (e : EventId) (bookingId : ObjectId) :
    ((⟨e, input.bookingId, input.startAt, input.endAt⟩ :: w.events).filter
        fun x => x.bookingId = bookingId).map CalendarEvent.id =
      if input.bookingId = bookingId then e :: (w.conference bookingId).live
      else (w.conference bookingId).live := by
  rw [List.filter_cons]
  split_ifs <;> simp_all [conference]

theorem World.live_update (input : UpdateMeetingInput) :
    ((w.events.map fun e =>
        if e.id = input.externalMeetingId then
          { e with startAt := input.startAt, endAt := input.endAt }
        else e).filter fun x => x.bookingId = bookingId).map CalendarEvent.id =
      (w.conference bookingId).live := by
  have hid : ∀ e : CalendarEvent, (if e.id = input.externalMeetingId then
      { e with startAt := input.startAt, endAt := input.endAt } else e).id = e.id := by
    intro e
    split_ifs <;> rfl
  have hkey : ∀ e : CalendarEvent, (if e.id = input.externalMeetingId then
      { e with startAt := input.startAt, endAt := input.endAt } else e).bookingId =
        e.bookingId := by
    intro e
    split_ifs <;> rfl
  simp [List.filter_map, Function.comp_def, hid, hkey, conference]

theorem World.live_remove (e : EventId) :
    ((w.events.filter fun x => x.id ≠ e).filter fun x => x.bookingId = bookingId).map
        CalendarEvent.id =
      (w.conference bookingId).live.filter (· ≠ e) := by
  rw [conference, List.filter_map, List.filter_comm]
  rfl

end Events

/-! ### Saves -/

section Saves

variable {w w' : World} {held : HeldMeeting} {onSaved out : HandlerOutcome}
  {onError : AppError → HandlerOutcome}

theorem World.conference_congr {bookingId : ObjectId} (hmeetings : w'.meetings = w.meetings)
    (hevents : w'.events = w.events) (hissued : w'.issuedEvents = w.issuedEvents) :
    w'.conference bookingId = w.conference bookingId := by
  simp only [conference, hmeetings, hevents, hissued]

/-- **A save** of a record that is stored is accepted: the modified paths are written to the record
of its booking, and no other conference changes. -/
theorem saving_effect (hstored : held.Stored w.meetings)
    (h : saving held w onSaved onError = some (w', out)) :
    out = onSaved ∧ KeepsMeetings w.meetings w'.meetings ∧
      (∀ bookingId, held.loaded.bookingId ≠ bookingId →
        w'.conference bookingId = w.conference bookingId) ∧
      ∃ s, (w.conference held.loaded.bookingId).entry = some s ∧
        w'.conference held.loaded.bookingId =
          { w.conference held.loaded.bookingId with
            entry := some ⟨savePath held.loaded.status held.doc.status s.status,
              savePath held.loaded.externalMeetingId held.doc.externalMeetingId s.event⟩ } := by
  obtain ⟨m, hm, hid, hkey⟩ := hstored
  obtain ⟨c, hc, -⟩ := Collection.update_of_mem (f := held.save) hm rfl rfl
  rw [show Document.docId m = held.loaded.id from hid] at hc
  have hfind : w.meetings.findById held.loaded.id = some m :=
    Collection.findById_eq_some.2 ⟨hm, hid⟩
  have hsave : saveMeeting held w = (.ok (), { w with meetings := c }) := by
    simp only [saveMeeting, hfind, hc]
  -- the save writes over one record, under its key
  have hkeeps : KeepsMeetings w.meetings c := by
    intro d hd
    by_cases hdid : d.id = held.loaded.id
    · exact ⟨held.save d, (Collection.mem_update hc).2 (.inr ⟨d, hd, hdid, rfl⟩), rfl, rfl⟩
    · exact ⟨d, (Collection.mem_update hc).2 (.inl ⟨hd, hdid⟩), rfl, rfl⟩
  have hfound := Collection.findByKey_update hc hm hid (f := held.save) rfl
  simp only [saving, hsave, Option.some.injEq, Prod.mk.injEq] at h
  obtain ⟨rfl, rfl⟩ := h
  refine ⟨rfl, hkeeps, fun bookingId hne => ?_, m.entry, ?_, ?_⟩
  · have hne' : Document.indexKey m ≠ some bookingId := fun he =>
      hne (hkey.symm.trans (Option.some.inj he))
    simp only [World.conference, hfound, if_neg hne']
  · have hm' : w.meetings.findByKey held.loaded.bookingId = some m :=
      Collection.findByKey_eq_some.2 ⟨hm, congrArg some hkey⟩
    simp only [World.conference, hm', Option.map_some]
  · have hkey' : Document.indexKey m = some held.loaded.bookingId := congrArg some hkey
    simp only [World.conference, hfound, if_pos hkey', Option.map_some]
    rfl

end Saves

/-! ### Commands of handlers -/

section Roles

variable {stage : HandlerStage} {bookingId : ObjectId}

@[simp] theorem HandlerStage.roleFor_self : stage.roleFor stage.bookingId = stage.role := if_pos rfl

theorem HandlerStage.roleFor_of_ne (h : stage.bookingId ≠ bookingId) :
    stage.roleFor bookingId = .bystander := if_neg h

theorem HandlerStage.roleFor_of_bystander (h : stage.role = .bystander) :
    stage.roleFor bookingId = .bystander := by
  rw [roleFor, h, ite_self]

theorem HandlerOutcome.roleFor_of_bystander {out : HandlerOutcome} (h : out.role = .bystander) :
    out.roleFor bookingId = .bystander := by
  cases out with
  | next => exact HandlerStage.roleFor_of_bystander h
  | finished | thrown => rfl

end Roles

/-- A command of a handler: a turn of every conference, which deletes no record and leaves the
handler with copies that are stored. -/
structure CommandEffect (o : Oracle) (w : World) (stage : HandlerStage) (w' : World)
    (out : HandlerOutcome) : Prop where
  turn : ∀ bookingId, Turn (o.providerError.isSome = true)
    (w.bookings.findById bookingId = none) False (w.conference bookingId) (stage.roleFor bookingId)
    (w'.conference bookingId) (out.roleFor bookingId)
  keeps : KeepsMeetings w.meetings w'.meetings
  anchored : out.Anchored w'.meetings

section Commands

variable {o : Oracle} {w w' : World} {stage : HandlerStage} {out : HandlerOutcome}
  {booking : Booking} {held : HeldMeeting} {c c' : Conference}

/-- A command that changes neither records nor events, of a stage that is about to do nothing to
the conference and before one that is not either. -/
theorem CommandEffect.quiet (hw : w'.meetings = w.meetings)
    (hconference : ∀ bookingId, w'.conference bookingId = w.conference bookingId)
    (hstage : stage.role = .bystander) (hout : out.role = .bystander)
    (hanchored : out.Anchored w.meetings) : CommandEffect o w stage w' out := by
  refine ⟨fun bookingId => ?_, by rw [hw]; exact .refl _, by rwa [hw]⟩
  rw [HandlerStage.roleFor_of_bystander hstage, HandlerOutcome.roleFor_of_bystander hout,
    hconference]
  exact .stay _

/-- A command that leads to another stage for the same booking: a turn there, and the other
conferences only lose events. -/
theorem CommandEffect.of_self {next : HandlerStage} (hnext : next.bookingId = stage.bookingId)
    (hself : ∀ bookingId, stage.bookingId = bookingId →
      Turn (o.providerError.isSome = true) (w.bookings.findById bookingId = none) False
        (w.conference bookingId) stage.role (w'.conference bookingId) next.role)
    (hother : ∀ bookingId, stage.bookingId ≠ bookingId →
      Turn (o.providerError.isSome = true) (w.bookings.findById bookingId = none) False
        (w.conference bookingId) .bystander (w'.conference bookingId) .bystander)
    (hkeeps : KeepsMeetings w.meetings w'.meetings) (hanchored : next.Anchored w'.meetings) :
    CommandEffect o w stage w' (.next next) := by
  refine ⟨fun bookingId => ?_, hkeeps, hanchored⟩
  rw [HandlerOutcome.roleFor]
  by_cases hi : stage.bookingId = bookingId
  · rw [HandlerStage.roleFor, HandlerStage.roleFor, if_pos hi, if_pos (hnext.trans hi)]
    exact hself bookingId hi
  · rw [HandlerStage.roleFor_of_ne hi, HandlerStage.roleFor_of_ne fun h => hi (hnext.symm.trans h)]
    exact hother bookingId hi

theorem ensureWith_cases (hsup : isSupportedMeetingProvider booking.meetingProvider)
    (h : held.doc.entry = held.loaded.entry) :
    ensureWith booking held = .finished ∨
      (held.loaded.entry.current = none ∧
        ensureWith booking held = .next (.callCreate booking held)) := by
  unfold ensureWith
  by_cases hcreated : held.doc.isCreated
  · exact .inl (if_pos hcreated)
  · refine .inr ⟨?_, by rw [if_neg hcreated, if_neg (not_not.2 hsup)]⟩
    rw [Meeting.isCreated_iff, Option.not_isSome_iff_eq_none] at hcreated
    rw [← h]
    exact hcreated

theorem CommandEffect.of_saving {onSaved : HandlerOutcome} {onError : AppError → HandlerOutcome}
    (hstored : held.Stored w.meetings) (h : saving held w onSaved onError = some (w', out))
    (hid : stage.bookingId = held.loaded.bookingId)
    (hself : ∀ c s, c.entry = some s → Turn (o.providerError.isSome = true)
      (w.bookings.findById held.loaded.bookingId = none) False c stage.role
      { c with entry := some ⟨savePath held.loaded.status held.doc.status s.status,
        savePath held.loaded.externalMeetingId held.doc.externalMeetingId s.event⟩ } .bystander)
    (hsaved : onSaved.role = .bystander) (hanchored : ∀ c, onSaved.Anchored c) :
    CommandEffect o w stage w' out := by
  obtain ⟨rfl, hkeeps, hother, s, hs, hw⟩ := saving_effect hstored h
  refine ⟨fun bookingId => ?_, hkeeps, hanchored _⟩
  rw [HandlerOutcome.roleFor_of_bystander hsaved]
  by_cases hi : stage.bookingId = bookingId
  · rw [HandlerStage.roleFor, if_pos hi]
    obtain rfl : held.loaded.bookingId = bookingId := hid.symm.trans hi
    rw [hw]
    exact hself _ s hs
  · rw [HandlerStage.roleFor_of_ne hi, hother bookingId fun h => hi (hid.trans h)]
    exact .stay _

theorem ensureFind_turn (hsup : isSupportedMeetingProvider booking.meetingProvider)
    (h : (HandlerStage.ensureFind booking).exec o w = some (w', out)) :
    CommandEffect o w (.ensureFind booking) w' out := by
  simp only [HandlerStage.exec] at h
  cases hfind : w.meetings.findByKey booking.id with
  | none =>
    simp only [hfind] at h
    cases h
    exact .quiet rfl (fun _ => rfl) rfl rfl hsup
  | some m =>
    obtain ⟨hm, hkey⟩ := Collection.findByKey_eq_some.1 hfind
    have hid : m.bookingId = booking.id := Option.some.inj hkey
    have hheld : ((HeldMeeting.ofStored m).modify fun m => m.follow booking).Anchored
        w.meetings := ⟨⟨m, hm, rfl, rfl⟩, rfl⟩
    -- following the booking changes times and provider, so the copy refers to what the record does
    simp only [hfind] at h
    rcases ensureWith_cases hsup hheld.entry with hw | ⟨hnone, hw⟩
    · rw [hw] at h
      cases h
      exact .quiet rfl (fun _ => rfl) rfl rfl trivial
    · rw [hw] at h
      cases h
      refine .of_self hid (fun i hi => .load ?_ hnone) (fun _ _ => .stay _) (.refl _)
        ⟨hid.symm, hheld⟩
      obtain rfl : booking.id = i := hi
      simp only [World.conference, hfind]
      rfl

theorem ensureInsert_turn (hsup : isSupportedMeetingProvider booking.meetingProvider)
    (h : (HandlerStage.ensureInsert booking).exec o w = some (w', out)) :
    CommandEffect o w (.ensureInsert booking) w' out := by
  simp only [HandlerStage.exec] at h
  split_ifs at h
  cases hins : w.meetings.insert (newMeeting o.newId booking) with
  | none =>
    simp only [hins] at h
    cases h
    exact .quiet rfl (fun _ => rfl) rfl rfl trivial
  | some c =>
    have hmem : newMeeting o.newId booking ∈ c := (Collection.mem_insert hins).2 (.inr rfl)
    have hkeeps : KeepsMeetings w.meetings c := fun m hm =>
      ⟨m, (Collection.mem_insert hins).2 (.inl hm), rfl, rfl⟩
    -- the record is pending, so an event is created next
    have hw : ensureWith booking (.ofStored (newMeeting o.newId booking)) =
        .next (.callCreate booking (.ofStored (newMeeting o.newId booking))) := by
      have hpending : ¬ (newMeeting o.newId booking).isCreated := fun hc => by cases hc.1
      exact (if_neg hpending).trans (if_neg (not_not.2 hsup))
    simp only [hins, hw] at h
    cases h
    have hfound : ∀ i, World.conference
        { w with issuedIds := o.newId :: w.issuedIds, meetings := c } i =
          if booking.id = i then { w.conference i with entry := some ⟨.pending, none⟩ }
          else w.conference i := by
      intro i
      have hkey : Document.indexKey (newMeeting o.newId booking) = some booking.id := rfl
      simp only [World.conference, Collection.findByKey_insert hins, hkey, Option.some.injEq]
      split_ifs <;> rfl
    refine .of_self rfl (fun i hi => ?_) (fun i hi => ?_) hkeeps
      ⟨rfl, HeldMeeting.anchored_ofStored hmem⟩
    · obtain rfl : booking.id = i := hi
      have hnone : w.meetings.findByKey booking.id = none :=
        Collection.findByKey_eq_none.2 fun e he hek =>
          ((Collection.insert_eq_some.1 hins).1 e he).2 _ hek rfl
      rw [hfound, if_pos rfl]
      refine .insert ?_
      simp only [World.conference, hnone, Option.map_none]
    · have hne : booking.id ≠ i := hi
      rw [hfound, if_neg hne]
      exact .stay _

theorem callCreate_turn (hid : booking.id = held.loaded.bookingId)
    (hheld : held.Anchored w.meetings)
    (h : (HandlerStage.callCreate booking held).exec o w = some (w', out)) :
    CommandEffect o w (.callCreate booking held) w' out := by
  simp only [HandlerStage.exec, HrBooking.callCreate] at h
  split_ifs at h with hnew
  cases ho : o.providerError with
  | some message =>
    simp only [ho] at h
    cases h
    exact .of_self rfl (fun i _ => .createFails (by rw [ho]; rfl)) (fun i _ => .stay _) (.refl _)
      hheld
  | none =>
    simp only [ho] at h
    cases h
    refine .of_self rfl (fun i hi => ?_) (fun i hi => ?_) (.refl _) hheld
    · -- the conference of the booking gets the new event
      have hid' : (createInput booking).bookingId = i := hid.trans hi
      have hlive := w.live_create (createInput booking) o.newEvent i
      rw [if_pos hid'] at hlive
      rw [World.conference, World.conference, hlive]
      exact .create (by simp [ho]) hnew
    · -- every other conference only sees its identity given out
      have hne : ¬ (createInput booking).bookingId = i := fun he => hi (hid.symm.trans he)
      have hlive := w.live_create (createInput booking) o.newEvent i
      rw [if_neg hne] at hlive
      rw [World.conference, World.conference, hlive]
      exact .pass rfl (List.Sublist.refl _) (List.subset_cons_self _ _)

theorem callUpdate_turn {target : EventId × String}
    (hsup : isSupportedMeetingProvider booking.meetingProvider) (hheld : held.Anchored w.meetings)
    (h : (HandlerStage.callUpdate booking held target).exec o w = some (w', out)) :
    CommandEffect o w (.callUpdate booking held target) w' out := by
  simp only [HandlerStage.exec, HrBooking.callUpdate, if_neg (not_not.2 hsup)] at h
  cases ho : o.providerError with
  | some message =>
    simp only [ho] at h
    cases h
    exact .of_self rfl (fun i _ => .moveFails _ (by rw [ho]; rfl)) (fun i _ => .stay _) (.refl _)
      hheld
  | none =>
    simp only [ho] at h
    cases h
    refine .quiet rfl (fun i => ?_) rfl rfl hheld
    simp only [World.conference, World.live_update]

theorem callCancel_turn {target : EventId × String}
    (hsup : isSupportedMeetingProvider booking.meetingProvider) (hheld : held.Anchored w.meetings)
    (h : (HandlerStage.callCancel booking held target).exec o w = some (w', out)) :
    CommandEffect o w (.callCancel booking held target) w' out := by
  simp only [HandlerStage.exec, HrBooking.callCancel, if_neg (not_not.2 hsup)] at h
  cases ho : o.providerError with
  | some message =>
    simp only [ho] at h
    cases h
    exact .of_self rfl (fun i _ => .removeFails (by rw [ho]; rfl)) (fun i _ => .stay _) (.refl _)
      hheld
  | none =>
    simp only [ho] at h
    cases h
    refine .of_self rfl (fun i hi => ?_) (fun i hi => ?_) (.refl _) hheld
    · -- the event of the record is deleted from the calendar
      rw [World.conference, World.conference, w.live_remove]
      exact .remove
    · -- an event of the same identity under another booking would go with it
      exact .pass rfl ((List.filter_sublist.filter _).map _) (List.Subset.refl _)

theorem syncFind_turn (hsup : isSupportedMeetingProvider booking.meetingProvider)
    (h : (HandlerStage.syncFind booking).exec o w = some (w', out)) :
    CommandEffect o w (.syncFind booking) w' out := by
  simp only [HandlerStage.exec] at h
  cases hfind : w.meetings.findByKey booking.id with
  | none =>
    simp only [hfind] at h
    cases h
    exact .quiet rfl (fun _ => rfl) rfl rfl trivial
  | some m =>
    have hm := (Collection.findByKey_eq_some.1 hfind).1
    have hheld : ((HeldMeeting.ofStored m).modify fun m => m.retime booking).Anchored
        w.meetings := ⟨⟨m, hm, rfl, rfl⟩, rfl⟩
    simp only [hfind, syncWith] at h
    split at h <;> cases h
    · exact .quiet rfl (fun _ => rfl) rfl rfl hheld
    · exact .quiet rfl (fun _ => rfl) rfl rfl ⟨hsup, hheld⟩

theorem cancelRead_turn {bookingId : ObjectId}
    (hsup : ∀ b ∈ w.bookings, isSupportedMeetingProvider b.meetingProvider)
    (h : (HandlerStage.cancelRead bookingId).exec o w = some (w', out)) :
    CommandEffect o w (.cancelRead bookingId) w' out := by
  cases h
  refine .of_self rfl (fun i hi => ?_) (fun _ _ => .stay _) (.refl _) ?_
  · obtain rfl : bookingId = i := hi
    cases hfind : w.bookings.findById bookingId with
    | none => exact .skip (.inl rfl)
    | some booking => exact .wait
  · cases hfind : w.bookings.findById bookingId with
    | none => trivial
    | some booking => exact hsup booking (Collection.findById_eq_some.1 hfind).1

theorem cancelFind_turn {bookingId : ObjectId} {found : Option Booking}
    (hanchored : (HandlerStage.cancelFind bookingId found).Anchored w.meetings)
    (h : (HandlerStage.cancelFind bookingId found).exec o w = some (w', out)) :
    CommandEffect o w (.cancelFind bookingId found) w' out := by
  simp only [HandlerStage.exec] at h
  cases found with
  | none =>
    cases h
    exact .quiet rfl (fun _ => rfl) rfl rfl trivial
  | some booking =>
    cases hfind : w.meetings.findByKey bookingId with
    | none =>
      simp only [hfind] at h
      cases h
      -- without a record the handler returns, and the cancellation has done nothing
      refine ⟨fun i => ?_, .refl _, trivial⟩
      rw [HandlerOutcome.roleFor]
      by_cases hi : bookingId = i
      · subst hi
        rw [show (HandlerStage.cancelFind bookingId (some booking)).roleFor bookingId =
          .awaiting from if_pos rfl]
        refine .skip (.inr ?_)
        simp only [World.conference, hfind, Option.map_none]
      · rw [show (HandlerStage.cancelFind bookingId (some booking)).roleFor i = .bystander from
          if_neg hi]
        exact .stay _
    | some m =>
      obtain ⟨hm, hkey⟩ := Collection.findByKey_eq_some.1 hfind
      have hid : m.bookingId = bookingId := Option.some.inj hkey
      have hheld := HeldMeeting.anchored_ofStored hm
      have hentry : (w.conference bookingId).entry = some m.entry := by
        simp only [World.conference, hfind, Option.map_some]
      simp only [hfind, cancelWith, Meeting.removable_eq] at h
      cases hcurrent : m.current with
      | none =>
        simp only [hcurrent, Option.map_none] at h
        cases h
        refine .of_self hid (fun i hi => ?_) (fun _ _ => .stay _) (.refl _) hheld
        obtain rfl : bookingId = i := hi
        exact .reachNone hentry hcurrent
      | some e =>
        simp only [hcurrent, Option.map_some] at h
        cases h
        refine .of_self hid (fun i hi => ?_) (fun _ _ => .stay _) (.refl _) ⟨hanchored, hheld⟩
        obtain rfl : bookingId = i := hi
        exact .reach hentry hcurrent

theorem HeldMeeting.Anchored.saved_entry {c : Collection Meeting} (h : held.Anchored c)
    (status : MeetingStatus) (s : Entry) :
    (⟨savePath held.loaded.status status s.status, savePath held.loaded.externalMeetingId
        held.doc.externalMeetingId s.event⟩ : Entry) =
      ⟨savePath held.loaded.status status s.status, s.event⟩ := by
  rw [show held.doc.externalMeetingId = held.loaded.externalMeetingId from
    congrArg Entry.event h.entry, savePath_self]

theorem HeldMeeting.Anchored.saved_same {c : Collection Meeting} (h : held.Anchored c) (s : Entry) :
    (⟨savePath held.loaded.status held.doc.status s.status, savePath held.loaded.externalMeetingId
        held.doc.externalMeetingId s.event⟩ : Entry) = s := by
  rw [h.saved_entry, show held.doc.status = held.loaded.status from
    congrArg Entry.status h.entry, savePath_self]

/-- **A command of a handler is a turn** of the conference it works on. -/
theorem HandlerStage.commandEffect_of_exec
    (hsup : ∀ b ∈ w.bookings, isSupportedMeetingProvider b.meetingProvider)
    (hanchored : stage.Anchored w.meetings) (h : stage.exec o w = some (w', out)) :
    CommandEffect o w stage w' out := by
  -- every command of a handler is a turn of its party on the conference
  cases stage with
  | ensureRead j | syncRead j =>
    simp only [exec] at h
    split at h
    · cases h
      exact .quiet rfl (fun _ => rfl) rfl rfl trivial
    · rename_i b hb
      cases h
      exact .quiet rfl (fun _ => rfl) rfl rfl (hsup b (Collection.findById_eq_some.1 hb).1)
  | ensureFind => exact ensureFind_turn hanchored h
  | ensureInsert => exact ensureInsert_turn hanchored h
  | callCreate => exact callCreate_turn hanchored.1 hanchored.2 h
  | syncFind => exact syncFind_turn hanchored h
  | callUpdate => exact callUpdate_turn hanchored.1 hanchored.2 h
  | cancelRead => exact cancelRead_turn hsup h
  | cancelFind => exact cancelFind_turn hanchored h
  | callCancel => exact callCancel_turn hanchored.1 hanchored.2 h
  | saveCreated held details =>
    have hmarked : (held.modify fun m => m.markCreated details).Stored w.meetings :=
      hanchored.stored
    exact .of_saving hmarked h rfl (fun c s hs => .record hs) rfl fun _ => trivial
  | saveFailed held message =>
    have hmarked : (held.modify fun m => m.markFailed message).Stored w.meetings :=
      hanchored.stored
    refine .of_saving hmarked h rfl (fun c s hs => ?_) rfl fun _ => trivial
    have hentry := hanchored.saved_entry .failed s
    exact hentry ▸ .fail hs
  | saveCancelled held =>
    have hmarked : (held.modify Meeting.markCancelled).Stored w.meetings := hanchored.stored
    refine .of_saving hmarked h rfl (fun c s hs => ?_) rfl fun _ => trivial
    have hentry := hanchored.saved_entry .cancelled s
    exact hentry ▸ .close hs
  | saveTimes held =>
    refine .of_saving hanchored.stored h rfl (fun c s hs => ?_) rfl fun _ => trivial
    rw [hanchored.saved_same, ← hs]
    exact .stay c
  | saveMoved held details =>
    have hmoved : (held.modify fun m => m.markMoved details).Anchored w.meetings :=
      ⟨hanchored.stored, hanchored.entry⟩
    refine .of_saving hmoved.stored h rfl (fun c s hs => ?_) rfl fun _ => trivial
    rw [hmoved.saved_same, ← hs]
    exact .stay c

end Commands

end HrBooking
