import HrBooking.Account.Cascade
import HrBooking.Backend.Record

/-!
# Whether a deletion tears the conferences down

A cancel job that comes too late finds nothing to cancel.  Until the deletion removes the meeting
records, every event is named by a record; after it, every event has to be in the hands of a handler
that can still remove it.

* `Standing` : what holds of the store until the records are removed.
* `CascadeProc.Removes` : a handler that is going to remove an event.
* `conferences_removed` : in every run in which the jobs have read what the deletion removes, no
  event of a booking is left.
* `not_conferences_removed` : an event can be left.
-/

namespace HrBooking

open CascadeProc

/-! ### Until the records are removed -/

section Before

variable {cipher : Aead} {env : Env} {i : CascadeInput} {p p' : CascadeStore} {q q' : CascadeProc}
  {bookingIds : List ObjectId} {userId : ObjectId}

/-- The record of a booking names the event. -/
def NamesEvent (p : CascadeStore) (bookingId : ObjectId) (event : EventId) : Prop :=
  ∀ m ∈ p.world.meetings, m.bookingId = bookingId → m.externalMeetingId = some event

/-- The held record is still the one of its booking, and its event was not changed in memory. -/
structure HeldMeeting.Belongs (p : CascadeStore) (held : HeldMeeting) : Prop where
  booking : ∀ m ∈ p.world.meetings, m.id = held.loaded.id → m.bookingId = held.loaded.bookingId
  event : held.doc.externalMeetingId = held.loaded.externalMeetingId

/-- What holds of the copies a handler has in memory, as long as no record was removed. -/
def HandlerStage.Ready (cipher : Aead) (bookingIds : List ObjectId) (p : CascadeStore) :
    HandlerStage → Prop
  | cancelFind id found => id ∈ bookingIds → ∀ booking ∈ found, booking.Usable cipher p
  | callCancel booking held target =>
    held.Belongs p ∧ (held.loaded.bookingId ∈ bookingIds →
      booking.Usable cipher p ∧ NamesEvent p held.loaded.bookingId target.1)
  | saveCancelled held =>
    held.Belongs p ∧ (held.loaded.bookingId ∈ bookingIds →
      ∀ e ∈ p.world.events, e.bookingId ≠ held.loaded.bookingId)
  | _ => True

/-- What holds of the copies a deletion has in memory, as long as no record was removed. -/
def DeletionStage.Ready (bookingIds : List ObjectId) (userId : ObjectId) : DeletionStage → Prop
  | findUser _ id => id = userId
  | findActive _ user | cancelling _ user _ _ | findBookings user => user.id = userId
  | deleteMeetings _ ids => bookingIds ⊆ ids
  | _ => True

/-- What holds of the copies a party has in memory, as long as no record was removed. -/
def CascadeProc.Ready (cipher : Aead) (bookingIds : List ObjectId) (userId : ObjectId)
    (p : CascadeStore) : CascadeProc → Prop
  | deleting stage => stage.Ready bookingIds userId
  | handling _ stage => stage.Ready cipher bookingIds p
  | accessing _ booking held target stage =>
    held.Belongs p ∧ (held.loaded.bookingId ∈ bookingIds →
      isSupportedMeetingProvider booking.meetingProvider ∧ stage.Refreshes p booking.hrUserId ∧
        NamesEvent p held.loaded.bookingId target.1)
  | removing _ booking held target =>
    held.Belongs p ∧ (held.loaded.bookingId ∈ bookingIds →
      isSupportedMeetingProvider booking.meetingProvider ∧
        NamesEvent p held.loaded.bookingId target.1)
  | _ => True

/-- What holds of the store as long as no record was removed. -/
structure Standing (cipher : Aead) (bookingIds : List ObjectId) (userId : ObjectId)
    (p : CascadeStore) : Prop where
  /-- A live event is the one that the record of its booking names. -/
  recorded : ∀ e ∈ p.world.events, e.bookingId ∈ bookingIds →
    ∃ m ∈ p.world.meetings, m.bookingId = e.bookingId ∧ m.status = .created ∧
      m.externalMeetingId = some e.id
  owned : ∀ id ∈ bookingIds, ∃ b ∈ p.world.bookings, b.id = id ∧
    (b.userId = userId ∨ b.hrUserId = userId)
  usable : ∀ b ∈ p.world.bookings, b.id ∈ bookingIds → b.Usable cipher p

/-- The records and the connections are those of before, and no event was added. -/
structure CascadeStore.Stable (p p' : CascadeStore) : Prop where
  meetings : ∀ m ∈ p'.world.meetings, ∃ m₀ ∈ p.world.meetings, m₀.id = m.id ∧
    m₀.bookingId = m.bookingId ∧ m₀.externalMeetingId = m.externalMeetingId
  events : ∀ e ∈ p'.world.events, e ∈ p.world.events
  connections : p.KeepsConnections p'

theorem CascadeProc.Ready.mono (h : q.Ready cipher bookingIds userId p) (hstable : p.Stable p') :
    q.Ready cipher bookingIds userId p' := by
  -- what a handler holds of a record stays true while the record is there
  have hbelongs : ∀ {held : HeldMeeting}, held.Belongs p → held.Belongs p' := by
    intro held hheld
    refine ⟨fun m hm hid => ?_, hheld.event⟩
    obtain ⟨m₀, hm₀, hid₀, hbooking, -⟩ := hstable.meetings m hm
    exact hbooking.symm.trans (hheld.booking m₀ hm₀ (hid₀.trans hid))
  have hnames : ∀ {id : ObjectId} {e : EventId}, NamesEvent p id e → NamesEvent p' id e := by
    intro id e hn m hm hid
    obtain ⟨m₀, hm₀, -, hbooking, hevent⟩ := hstable.meetings m hm
    exact hevent.symm.trans (hn m₀ hm₀ (hbooking.trans hid))
  cases q with
  | accessing job booking held target stage =>
    exact ⟨hbelongs h.1, fun hid => ⟨(h.2 hid).1, (h.2 hid).2.1.mono hstable.connections,
      hnames (h.2 hid).2.2⟩⟩
  | removing job booking held target =>
    exact ⟨hbelongs h.1, fun hid => ⟨(h.2 hid).1, hnames (h.2 hid).2⟩⟩
  | handling job stage =>
    cases stage with
    | cancelFind id found =>
      exact fun hid booking hb => (h hid booking hb).mono hstable.connections
    | callCancel booking held target =>
      exact ⟨hbelongs h.1, fun hid =>
        ⟨(h.2 hid).1.mono hstable.connections, hnames (h.2 hid).2⟩⟩
    | saveCancelled held =>
      exact ⟨hbelongs h.1, fun hid e he => h.2 hid e (hstable.events e he)⟩
    | _ => trivial
  | _ => exact h

theorem CascadeStore.Stable.refl (p : CascadeStore) : p.Stable p :=
  ⟨fun m hm => ⟨m, hm, rfl, rfl, rfl⟩, fun _ he => he, .of_eq rfl⟩

theorem CascadeStore.Stable.of_keeps {connections : Collection OAuth.Connection}
    (hkeeps : p.KeepsConnections { p with connections }) : p.Stable { p with connections } :=
  ⟨fun m hm => ⟨m, hm, rfl, rfl, rfl⟩, fun _ he => he, hkeeps⟩

theorem HeldMeeting.belongs_ofStored {m : Meeting} (hm : m ∈ p.world.meetings) :
    (ofStored m).Belongs p :=
  ⟨fun _ hm' hid => congrArg Meeting.bookingId (Collection.eq_of_docId hm' hm hid), rfl⟩

theorem eq_of_bookingId {m m' : Meeting} (hm : m ∈ p.world.meetings) (hm' : m' ∈ p.world.meetings)
    (h : m'.bookingId = m.bookingId) : m' = m :=
  Collection.eq_of_indexKey hm' hm (congrArg some h) rfl

/-- The call to the calendar only takes events away: the one it is about, if the provider has an
adapter and answers. -/
theorem callCancel_removes (o : Oracle) (provider : MeetingProvider) (input : CancelMeetingInput)
    (w : World) :
    (callCancel o provider input w).meetings = w.meetings ∧
      ∀ e ∈ (callCancel o provider input w).events, e ∈ w.events ∧
        (isSupportedMeetingProvider provider → o.providerError = none →
          e.id ≠ input.externalMeetingId) := by
  unfold callCancel
  split_ifs with hsupported
  · cases hanswers : o.providerError with
    | some message => exact ⟨rfl, fun e he => ⟨he, fun _ h => by cases h⟩⟩
    | none =>
      refine ⟨rfl, fun e he => ?_⟩
      obtain ⟨he, hne⟩ := List.mem_filter.1 he
      exact ⟨he, fun _ _ => of_decide_eq_true hne⟩
  · exact ⟨rfl, fun e he => ⟨he, fun h => absurd h hsupported⟩⟩

/-- **A command of a handler**, as long as no record was removed. -/
theorem HandlerEffect.standing (h : Standing cipher bookingIds userId p)
    (hready : q.Ready cipher bookingIds userId p) (hanswers : i.oracle.providerError = none)
    (hanswered : q.IsAnswered env i p.world.now) (heffect : HandlerEffect cipher env i p q p' q') :
    p.Stable p' ∧ Standing cipher bookingIds userId p' ∧ q'.Ready cipher bookingIds userId p' := by
  have hchanged : ∀ {connections}, p.KeepsConnections { p with connections } →
      Standing cipher bookingIds userId { p with connections } := fun hkeeps =>
    ⟨h.recorded, h.owned, fun b hb hid => (h.usable b hb hid).mono hkeeps⟩
  cases heffect with
  | @read job id =>
    refine ⟨.refl p, h, fun hid booking hb => ?_⟩
    obtain ⟨hstored, hbooking⟩ := Collection.findById_eq_some.1 hb
    exact h.usable booking hstored (by rw [show booking.id = id from hbooking]; exact hid)
  | absent => exact ⟨.refl p, h, trivial⟩
  | close hm hremovable =>
    refine ⟨.refl p, h, HeldMeeting.belongs_ofStored hm, fun hid e he hbooking => ?_⟩
    -- a live event would be named by the record
    obtain ⟨m', hm', hbooking', hstatus, hevent⟩ :=
      h.recorded e he (by rw [hbooking]; exact hid)
    obtain rfl := eq_of_bookingId hm hm' (hbooking'.trans hbooking)
    simp only [Meeting.removable, hstatus, hevent] at hremovable
    cases hremovable
  | @reach job booking m target hm hremovable =>
    refine ⟨.refl p, h, HeldMeeting.belongs_ofStored hm, fun hid =>
      ⟨hready hid booking rfl, fun m' hm' hbooking => ?_⟩⟩
    rw [eq_of_bookingId hm hm' hbooking]
    unfold Meeting.removable at hremovable
    split at hremovable
    · rename_i hevent
      cases hremovable
      exact hevent
    · cases hremovable
  | lookUp hsupported =>
    exact ⟨.refl p, h, hready.1, fun hid => ⟨hsupported, (hready.2 hid).2⟩⟩
  | find _ hfound =>
    exact ⟨.refl p, h, hready.1, fun hid =>
      ⟨(hready.2 hid).1.1, hfound (hready.2 hid).1, (hready.2 hid).2⟩⟩
  | giveUp husable =>
    exact ⟨.refl p, h, hready.1, fun hid => absurd (hready.2 hid).1 husable⟩
  | ask _ hasked =>
    exact ⟨.refl p, h, hready.1, fun hid =>
      ⟨(hready.2 hid).1, hasked hanswered (hready.2 hid).2.1, (hready.2 hid).2.2⟩⟩
  | accessed hkeeps =>
    exact ⟨.of_keeps hkeeps, hchanged hkeeps, ⟨hready.1.booking, hready.1.event⟩, fun hid =>
      ⟨(hready.2 hid).1, (hready.2 hid).2.2⟩⟩
  | refused hkeeps hrefused =>
    exact ⟨.of_keeps hkeeps, hchanged hkeeps, ⟨hready.1.booking, hready.1.event⟩, fun hid =>
      absurd (hready.2 hid).2.1 hrefused⟩
  | @remove job booking held target =>
    obtain ⟨hmeetings, hevents⟩ := callCancel_removes i.oracle booking.meetingProvider
      (cancelInput booking target) p.world
    have hbookings := (callCancel_write (o := i.oracle) booking.meetingProvider
      (cancelInput booking target) p.world).frame.bookings
    refine ⟨⟨fun m hm => ⟨m, hmeetings ▸ hm, rfl, rfl, rfl⟩, fun e he => (hevents e he).1,
        .of_eq rfl⟩,
      ⟨fun e he hid => ?_, ?_, ?_⟩, ⟨?_, hready.1.event⟩, fun hid e he hbooking => ?_⟩
    · obtain ⟨m, hm, hrest⟩ := h.recorded e (hevents e he).1 hid
      exact ⟨m, hmeetings.symm ▸ hm, hrest⟩
    · exact hbookings.symm ▸ h.owned
    · exact hbookings.symm ▸ h.usable
    · exact fun m hm => hready.1.booking m (hmeetings ▸ hm)
    · -- the event of the booking is the one that was removed
      obtain ⟨hsupported, hnames⟩ := hready.2 hid
      obtain ⟨m, hm, hbooking', -, hevent⟩ :=
        h.recorded e (hevents e he).1 (by rw [hbooking]; exact hid)
      have hsame := hnames m hm (hbooking'.trans hbooking)
      exact (hevents e he).2 hsupported hanswers
        (Option.some.inj (hevent.symm.trans hsame))
  | @save job held _ hsaves =>
    have hfields : ∀ m ∈ p'.world.meetings, ∃ m₀ ∈ p.world.meetings, m₀.id = m.id ∧
        m₀.bookingId = m.bookingId ∧ m₀.externalMeetingId = m.externalMeetingId := by
      intro m hm
      rcases hsaves.written m hm with hm | ⟨m₀, hm₀, rfl⟩
      · exact ⟨m, hm, rfl, rfl, rfl⟩
      · refine ⟨m₀, hm₀, rfl, rfl, ?_⟩
        show m₀.externalMeetingId = savePath held.loaded.externalMeetingId
          held.doc.externalMeetingId m₀.externalMeetingId
        rw [hready.1.event, savePath_self]
    refine ⟨⟨hfields, fun e he => hsaves.events ▸ he, .of_eq hsaves.connections⟩,
      ⟨fun e he hid => ?_, ?_, ?_⟩, trivial⟩
    · rw [hsaves.events] at he
      obtain ⟨m, hm, hbooking, hrest⟩ := h.recorded e he hid
      by_cases hheld : m.id = held.loaded.id
      · -- the record that is written over has no live event
        have hsame := (hready.1.booking m hm hheld).symm.trans hbooking
        exact absurd hsame.symm (hready.2 (by rw [hsame]; exact hid) e he)
      · exact ⟨m, hsaves.kept m hm hheld, hbooking, hrest⟩
    · rw [hsaves.bookings]
      exact h.owned
    · rw [hsaves.bookings]
      exact fun b hb hid => (h.usable b hb hid).mono (.of_eq hsaves.connections)

theorem KeepsConferences.standing (hkeeps : KeepsConferences p.world p'.world)
    (hconnections : p'.connections = p.connections) (h : Standing cipher bookingIds userId p) :
    p.Stable p' ∧ Standing cipher bookingIds userId p' := by
  refine ⟨⟨fun m hm => ⟨m, hkeeps.meetings ▸ hm, rfl, rfl, rfl⟩, fun e he => hkeeps.events ▸ he,
    .of_eq hconnections⟩, ⟨fun e he hid => ?_, fun id hid => ?_, fun b hb hid => ?_⟩⟩
  · obtain ⟨m, hm, hrest⟩ := h.recorded e (hkeeps.events ▸ he) hid
    exact ⟨m, hkeeps.meetings.symm ▸ hm, hrest⟩
  · obtain ⟨b, hb, rfl, hparty⟩ := h.owned id hid
    obtain ⟨b', hb', hid', huser, hhr⟩ := hkeeps.kept b hb
    exact ⟨b', hb', hid', hparty.imp (fun h => huser.trans h) fun h => hhr.trans h⟩
  · obtain ⟨b', hb', hid', -, hhr, hprovider⟩ := hkeeps.bookings b hb
    have husable := (h.usable b' hb' (by rw [← hid']; exact hid)).mono (.of_eq hconnections)
    rw [Booking.Usable, hprovider, hhr]
    exact husable

/-- The deletion has not removed the meeting records. -/
def CascadeProc.keepsRecords : CascadeProc → Bool
  | deleting stage =>
    match stage with
    | .findUser .. | .findActive .. | .cancelling .. | .findBookings _ | .deleteMeetings .. => true
    | _ => false
  | deleted (.error _) => true
  | _ => false

theorem CascadeProc.keepsRecords_of_hasReturned (h : q.hasReturned = true) :
    q.keepsRecords = false := by
  cases q with
  | deleted answer =>
    cases answer with
    | ok => rfl
    | error => cases h
  | _ => cases h

theorem CascadeProc.cancelNext_ready {actor : Actor} {user : User} (huser : user.id = userId) :
    ∀ ids : List ObjectId, (cancelNext actor user ids).Ready cipher bookingIds userId p ∧
      (cancelNext actor user ids).keepsRecords = true
  | [] => ⟨huser, rfl⟩
  | _ :: _ => ⟨huser, rfl⟩

/-- **A command of the deletion** before it removes the meeting records. -/
theorem DeletionStage.standing {o : Oracle} {stage : DeletionStage}
    (h : Standing cipher bookingIds userId p) (hready : stage.Ready bookingIds userId)
    (hcancels : (deleting stage).Cancels) (hkeeps : (deleting stage).keepsRecords = true)
    (hne : ∀ user ids, stage ≠ .deleteMeetings user ids)
    (hexec : stage.exec env o p = some (p', q')) :
    p.Stable p' ∧ Standing cipher bookingIds userId p' ∧ q'.Ready cipher bookingIds userId p' ∧
      q'.keepsRecords = true := by
  -- until the records are deleted, the deletion only reads and cancels bookings
  cases stage with
  | findUser actor id =>
    simp only [exec] at hexec
    split at hexec
    · cases hexec
      exact ⟨.refl p, h, trivial, rfl⟩
    · rename_i user hdeletable
      cases hexec
      refine ⟨.refl p, h, ?_, rfl⟩
      have hid : user.id = id :=
        (Collection.findById_eq_some.1 (deletable_eq_ok.1 hdeletable).1).2
      exact hid.trans hready
  | findActive actor user =>
    cases hexec
    exact ⟨.refl p, h, cancelNext_ready hready _⟩
  | cancelling actor user stage rest =>
    obtain ⟨r, hr, hafter⟩ := Option.map_eq_some_iff.1 hexec
    cases hafter
    have hworld : KeepsConferences p.world (p.onWorld fun _ => r.1).world :=
      RequestStage.Cancels.keeps hcancels hr
    obtain ⟨hstable, hstanding⟩ := hworld.standing rfl h
    refine ⟨hstable, hstanding, ?_⟩
    cases r.2 with
    | next => exact ⟨hready, rfl⟩
    | finished => exact cancelNext_ready hready rest
  | findBookings user =>
    cases hexec
    refine ⟨.refl p, h, fun id hid => ?_, rfl⟩
    obtain ⟨b, hb, rfl, hparty⟩ := h.owned id hid
    have huser : user.id = userId := hready
    exact List.mem_map.2 ⟨b, List.mem_filter.2 ⟨hb, by simpa [huser] using hparty⟩, rfl⟩
  | deleteMeetings user ids => exact absurd rfl (hne user ids)
  | _ => cases hkeeps

end Before

/-! ### After the records were removed -/

section After

variable {cipher : Aead} {env : Env} {i : CascadeInput} {p p' : CascadeStore} {q q' : CascadeProc}
  {bookingIds : List ObjectId}

/-- The party is going to remove the event, and will succeed. -/
def CascadeProc.Removes (cipher : Aead) (bookingIds : List ObjectId) (p : CascadeStore)
    (event : EventId) : CascadeProc → Prop
  | handling _ (.callCancel booking held target) =>
    held.loaded.bookingId ∈ bookingIds ∧ booking.Usable cipher p ∧ target.1 = event
  | accessing _ booking held target stage =>
    held.loaded.bookingId ∈ bookingIds ∧ isSupportedMeetingProvider booking.meetingProvider ∧
      stage.Refreshes p booking.hrUserId ∧ target.1 = event
  | removing _ booking _ target =>
    isSupportedMeetingProvider booking.meetingProvider ∧ target.1 = event
  | _ => False

/-- No record of the bookings is stored. -/
def NoRecord (bookingIds : List ObjectId) (p : CascadeStore) : Prop :=
  ∀ m ∈ p.world.meetings, m.bookingId ∉ bookingIds

/-- **A command of a handler** after the records were removed: events that stay are still going to
be removed. -/
theorem HandlerEffect.removes (h : NoRecord bookingIds p) (hanswers : i.oracle.providerError = none)
    (hanswered : q.IsAnswered env i p.world.now) (heffect : HandlerEffect cipher env i p q p' q') :
    NoRecord bookingIds p' ∧ p.KeepsConnections p' ∧
      ∀ e ∈ p'.world.events, e ∈ p.world.events ∧
        (q.Removes cipher bookingIds p e.id → q'.Removes cipher bookingIds p' e.id) := by
  -- a handler that is going to remove the event gets nearer to it, or removes it
  cases heffect with
  | read | absent | close | reach => exact ⟨h, .of_eq rfl, fun e he => ⟨he, False.elim⟩⟩
  | lookUp hsupported =>
    exact ⟨h, .of_eq rfl, fun e he => ⟨he, fun hr => ⟨hsupported, hr.2.2⟩⟩⟩
  | find _ hfound =>
    exact ⟨h, .of_eq rfl, fun e he => ⟨he, fun hr => ⟨hr.1, hr.2.1.1, hfound hr.2.1, hr.2.2⟩⟩⟩
  | giveUp husable => exact ⟨h, .of_eq rfl, fun e he => ⟨he, fun hr => absurd hr.2.1 husable⟩⟩
  | ask _ hasked =>
    exact ⟨h, .of_eq rfl, fun e he => ⟨he, fun hr =>
      ⟨hr.1, hr.2.1, hasked hanswered hr.2.2.1, hr.2.2.2⟩⟩⟩
  | accessed hkeeps => exact ⟨h, hkeeps, fun e he => ⟨he, fun hr => ⟨hr.2.1, hr.2.2.2⟩⟩⟩
  | refused hkeeps hrefused =>
    exact ⟨h, hkeeps, fun e he => ⟨he, fun hr => absurd hr.2.2.1 hrefused⟩⟩
  | @remove job booking held target =>
    obtain ⟨hmeetings, hevents⟩ := callCancel_removes i.oracle booking.meetingProvider
      (cancelInput booking target) p.world
    refine ⟨fun m hm => h m (hmeetings ▸ hm), .of_eq rfl,
      fun e he => ⟨(hevents e he).1, fun hr => ?_⟩⟩
    exact absurd hr.2.symm ((hevents e he).2 hr.1 hanswers)
  | @save job held _ hsaves =>
    refine ⟨fun m hm => ?_, .of_eq hsaves.connections,
      fun e he => ⟨hsaves.events ▸ he, False.elim⟩⟩
    rcases hsaves.written m hm with hm | ⟨m₀, hm₀, rfl⟩
    · exact h m hm
    · exact h m₀ hm₀

theorem CascadeProc.Removes.mono {event : EventId} (h : q.Removes cipher bookingIds p event)
    (hkeeps : p.KeepsConnections p') : q.Removes cipher bookingIds p' event := by
  cases q with
  | handling job stage =>
    cases stage with
    | callCancel => exact ⟨h.1, h.2.1.mono hkeeps, h.2.2⟩
    | _ => exact h
  | accessing => exact ⟨h.1, h.2.1, h.2.2.1.mono hkeeps, h.2.2.2⟩
  | _ => exact h

/-- **A command of the deletion** after it has removed the records. -/
theorem DeletionStage.removes {o : Oracle} {stage : DeletionStage}
    (hkeeps : (deleting stage).keepsRecords = false)
    (hexec : stage.exec env o p = some (p', q')) :
    q'.keepsRecords = false ∧ p'.world.meetings = p.world.meetings ∧
      p'.world.events = p.world.events ∧ p'.world.meetingQueue = p.world.meetingQueue ∧
      (p'.connections = p.connections ∨
        ∃ user, stage = .deleteConnection user ∧ p' = p.deleteConnection user.id) := by
  cases stage with
  | findUser | findActive | cancelling | findBookings | deleteMeetings => cases hkeeps
  | deleteTokens user =>
    cases hexec
    refine ⟨?_, rfl, rfl, rfl, .inl rfl⟩
    split_ifs
    · rfl
    · rfl
  | deleteConnection user =>
    cases hexec
    exact ⟨rfl, rfl, rfl, rfl, .inr ⟨user, rfl, rfl⟩⟩
  | _ =>
    cases hexec
    exact ⟨rfl, rfl, rfl, rfl, .inl rfl⟩

theorem CascadeProc.Removes.deleteConnection {event : EventId} {userId : ObjectId}
    (h : q.Removes cipher bookingIds p event)
    (hneeds : ∀ bookingId ∈ bookingIds, q.needsConnection ≠ some (bookingId, userId)) :
    q.Removes cipher bookingIds (p.deleteConnection userId) event := by
  have hstays : ∀ {id hrUserId : ObjectId}, id ∈ bookingIds →
      q.needsConnection = some (id, hrUserId) → ∀ account ∈ p.connections,
        account.userId = hrUserId → account ∈ (p.deleteConnection userId).connections := by
    intro id hrUserId hid hneed account hstored haccount
    refine Collection.mem_delete_decide.2 ⟨hstored, fun huser => hneeds id hid ?_⟩
    rw [hneed, ← haccount, huser]
  cases q with
  | handling job stage =>
    cases stage with
    | callCancel booking held target =>
      obtain ⟨hid, ⟨hsupported, account, hstored, haccount, hreadable⟩, hevent⟩ := h
      exact ⟨hid, ⟨hsupported, account, hstays hid rfl account hstored haccount, haccount,
        hreadable⟩, hevent⟩
    | _ => exact h
  | accessing job booking held target stage =>
    obtain ⟨hid, hsupported, hrefreshes, hevent⟩ := h
    refine ⟨hid, hsupported, ?_, hevent⟩
    cases stage with
    | refresh account | saveRefreshed account =>
      obtain ⟨stored, hstored, hsame, huser⟩ := hrefreshes
      exact ⟨stored, hstays hid rfl stored hstored huser, hsame, huser⟩
    | _ => exact hrefreshes
  | _ => exact h

end After

/-! ### Runs -/

section Runs

variable {R : Type} {cipher : Aead} {env : Env} {r₀ : R}
  {s s' : Cascade R} {a : CascadeAction R} {bookingIds : List ObjectId} {userId : ObjectId}

/-- The party deletes the account. -/
def CascadeProc.isDeletion : CascadeProc → Bool
  | deleting _ | deleted _ => true
  | _ => false

/-- One party deletes the account, the others cancel conferences. -/
structure OneDeletion (r₀ : R) (s : Cascade R) : Prop where
  queue : OnlyCancels s.shared
  cancels : ∀ r, (s.procs r).Cancels
  deletion : ∀ r, (s.procs r).isDeletion = true ↔ r = r₀

theorem CascadeProc.cancelNext_kind (actor : Actor) (user : User) :
    ∀ ids : List ObjectId, (cancelNext actor user ids).isDeletion = true ∧
      (cancelNext actor user ids).Cancels
  | [] => ⟨rfl, trivial⟩
  | _ :: _ => ⟨rfl, .inl rfl⟩

theorem DeletionStage.kind_of_exec {o : Oracle} {p p' : CascadeStore} {q' : CascadeProc}
    {stage : DeletionStage} (hcancels : (deleting stage).Cancels) (hqueue : OnlyCancels p)
    (hexec : stage.exec env o p = some (p', q')) :
    q'.isDeletion = true ∧ q'.Cancels ∧ OnlyCancels p' := by
  -- the loop over the bookings is left when none remains
  cases stage with
  | findUser actor id =>
    simp only [exec] at hexec
    split at hexec <;> cases hexec <;> exact ⟨rfl, trivial, hqueue⟩
  | findActive actor user =>
    cases hexec
    obtain ⟨hkind, hcancels'⟩ := cancelNext_kind actor user
      ((p.world.activeBookingsOf user.id).map Booking.id)
    exact ⟨hkind, hcancels', hqueue⟩
  | cancelling actor user stage rest =>
    obtain ⟨⟨w, out⟩, hr, hafter⟩ := Option.map_eq_some_iff.1 hexec
    cases hafter
    have hqueue' : OnlyCancels (p.onWorld fun _ => w) := fun j hj =>
      ((RequestStage.Cancels.keeps hcancels hr).queue j hj).elim (hqueue j) id
    cases out with
    | next stage' =>
      refine ⟨rfl, ?_, hqueue'⟩
      rcases RequestStage.kind_of_exec hr with hkind | hkind
      · exact hcancels.imp (fun h => hkind.trans h) fun h => hkind.trans h
      · exact .inr hkind
    | finished =>
      obtain ⟨hkind, hcancels'⟩ := cancelNext_kind actor user rest
      exact ⟨hkind, hcancels', hqueue'⟩
  | deleteTokens user =>
    cases hexec
    refine ⟨rfl, ?_, hqueue⟩
    split_ifs
    · exact trivial
    · exact trivial
  | _ =>
    cases hexec
    exact ⟨rfl, trivial, hqueue⟩

theorem HandlerEffect.kind {i : CascadeInput} {p p' : CascadeStore} {q q' : CascadeProc}
    (hcancels : q.Cancels) (hqueue : OnlyCancels p)
    (heffect : HandlerEffect cipher env i p q p' q') :
    q'.isDeletion = false ∧ q'.Cancels ∧ OnlyCancels p' := by
  cases heffect with
  | absent => exact ⟨rfl, trivial, hqueue⟩
  | read | close | reach | giveUp => exact ⟨rfl, ⟨hcancels.1, trivial⟩, hqueue⟩
  | refused => exact ⟨rfl, ⟨hcancels.1, trivial⟩, hqueue⟩
  | find haccesses | ask haccesses => exact ⟨rfl, ⟨hcancels.1, haccesses⟩, hqueue⟩
  | lookUp | accessed => exact ⟨rfl, hcancels.1, hqueue⟩
  | @remove job booking held target =>
    refine ⟨rfl, ⟨hcancels, trivial⟩, ?_⟩
    have hframe := (callCancel_write (o := i.oracle) booking.meetingProvider
      (cancelInput booking target) p.world).frame
    rw [OnlyCancels, CascadeStore.onWorld, hframe.meetingQueue]
    exact hqueue
  | save hsaves => exact ⟨rfl, trivial, fun j hj => (hsaves.queue j hj).elim (hqueue j) id⟩

theorem OneDeletion.deletes_eq_none (h : OneDeletion r₀ s) {r : R} (hr : r ≠ r₀) :
    (s.procs r).deletes = none := by
  have hkind := mt (h.deletion r).1 hr
  cases hproc : s.procs r with
  | deleting => exact absurd (by rw [hproc]; rfl) hkind
  | _ => rfl

/-- The commands of a cascade: the deletion goes on, or a handler does. -/
theorem OneDeletion.exec_cases (h : OneDeletion r₀ s) {r : R} {i : CascadeInput}
    {p' : CascadeStore} {q' : CascadeProc}
    (hexec : (s.procs r).exec cipher env i s.shared = some (p', q')) :
    (r = r₀ ∧ ∃ stage, s.procs r = deleting stage ∧
        stage.exec env i.oracle s.shared = some (p', q')) ∨
      r ≠ r₀ ∧ HandlerEffect cipher env i s.shared (s.procs r) p' q' := by
  by_cases hr : r = r₀
  · have hkind := (h.deletion r).2 hr
    cases hproc : s.procs r with
    | deleting stage =>
      rw [hproc] at hexec
      exact .inl ⟨hr, stage, rfl, hexec⟩
    | deleted =>
      rw [hproc] at hexec
      cases hexec
    | _ =>
      rw [hproc] at hkind
      cases hkind
  · exact .inr ⟨hr, handler_cases (h.cancels r) (h.deletes_eq_none hr) hexec⟩

theorem OneDeletion.start_cases (h : OneDeletion r₀ s) {index : ℕ} {p' : CascadeStore}
    {q' : CascadeProc} (hstart : (cascade cipher env).start index s.shared = some (p', q')) :
    OnlyCancels p' ∧ p'.connections = s.shared.connections ∧
      p'.world.meetings = s.shared.world.meetings ∧ p'.world.events = s.shared.world.events ∧
      p'.world.bookings = s.shared.world.bookings ∧
      ∃ job id, job.name = .cancel ∧ q' = handling job (.cancelRead id) := by
  simp only [cascade] at hstart
  split at hstart
  · cases hstart
  · rename_i job hjob
    cases hstart
    have hname := h.queue job (List.mem_of_getElem? hjob)
    refine ⟨fun j hj => h.queue j (List.mem_of_mem_eraseIdx hj), rfl, rfl, rfl, rfl, job,
      job.bookingId, hname, ?_⟩
    rw [hname]
    rfl

theorem OneDeletion.ne_of_isIdle (h : OneDeletion r₀ s) {r : R}
    (hidle : (cascade cipher env).isIdle (s.procs r) = true) : r ≠ r₀ := by
  intro hr
  have hkind := (h.deletion r).2 hr
  cases hproc : s.procs r with
  | idle =>
    rw [hproc] at hkind
    cases hkind
  | _ =>
    rw [hproc] at hidle
    cases hidle

/-- What holds of the conferences in every run whose steps meet the condition. -/
structure TearsDownAll (cipher : Aead) (bookingIds : List ObjectId) (userId : ObjectId) (r₀ : R)
    (s : Cascade R) : Prop where
  before : (s.procs r₀).keepsRecords = true →
    Standing cipher bookingIds userId s.shared ∧
      ∀ r, (s.procs r).Ready cipher bookingIds userId s.shared
  after : (s.procs r₀).keepsRecords = false →
    NoRecord bookingIds s.shared ∧ ∀ e ∈ s.shared.world.events, e.bookingId ∈ bookingIds →
      ∃ r, (s.procs r).Removes cipher bookingIds s.shared e.id

theorem CascadeProc.Ready.removes_of_hasRead {p : CascadeStore} {q : CascadeProc} {m : Meeting}
    {e : CalendarEvent} (hready : q.Ready cipher bookingIds userId p)
    (hread : q.hasRead = some m.bookingId) (hm : m ∈ p.world.meetings)
    (hid : m.bookingId ∈ bookingIds) (hevent : m.externalMeetingId = some e.id)
    (he : e ∈ p.world.events) (hbooking : e.bookingId = m.bookingId) :
    q.Removes cipher bookingIds p e.id := by
  -- the record names the event, so this is the event that the handler is after
  have hheld : ∀ {held : HeldMeeting} {target : EventId × String},
      held.loaded.bookingId = m.bookingId → NamesEvent p held.loaded.bookingId target.1 →
      target.1 = e.id := by
    intro held target hsame hnames
    exact Option.some.inj ((hnames m hm hsame.symm).symm.trans hevent)
  cases q with
  | accessing job booking held target stage =>
    have hsame : held.loaded.bookingId = m.bookingId := Option.some.inj hread
    have hid' : held.loaded.bookingId ∈ bookingIds := by rw [hsame]; exact hid
    obtain ⟨hsupported, hrefreshes, hnames⟩ := hready.2 hid'
    exact ⟨hid', hsupported, hrefreshes, hheld hsame hnames⟩
  | removing job booking held target =>
    have hsame : held.loaded.bookingId = m.bookingId := Option.some.inj hread
    obtain ⟨hsupported, hnames⟩ := hready.2 (by rw [hsame]; exact hid)
    exact ⟨hsupported, hheld hsame hnames⟩
  | handling job stage =>
    cases stage with
    | callCancel booking held target =>
      have hsame : held.loaded.bookingId = m.bookingId := Option.some.inj hread
      have hid' : held.loaded.bookingId ∈ bookingIds := by rw [hsame]; exact hid
      obtain ⟨husable, hnames⟩ := hready.2 hid'
      exact ⟨hid', husable, hheld hsame hnames⟩
    | saveCancelled held =>
      have hsame : held.loaded.bookingId = m.bookingId := Option.some.inj hread
      exact absurd (hbooking.trans hsame.symm) (hready.2 (by rw [hsame]; exact hid) e he)
    | _ => cases hread
  | _ => cases hread

theorem TearsDownAll.kept (h : TearsDownAll cipher bookingIds userId r₀ s) {p' : CascadeStore}
    (hkeeps : KeepsConferences s.shared.world p'.world)
    (hconnections : p'.connections = s.shared.connections) :
    TearsDownAll cipher bookingIds userId r₀ ⟨p', s.procs⟩ := by
  refine ⟨fun hbefore => ?_, fun hafter => ?_⟩
  · obtain ⟨hstanding, hall⟩ := h.before hbefore
    obtain ⟨hstable, hstanding'⟩ := hkeeps.standing hconnections hstanding
    exact ⟨hstanding', fun r => (hall r).mono hstable⟩
  · obtain ⟨hnone, hall⟩ := h.after hafter
    refine ⟨fun m hm => hnone m (hkeeps.meetings ▸ hm), fun e he hid => ?_⟩
    obtain ⟨r, hr⟩ := hall e (hkeeps.events ▸ he) hid
    exact ⟨r, hr.mono (.of_eq hconnections)⟩

/-! ### Every action -/

variable [DecidableEq R]

theorem OneDeletion.put (h : OneDeletion r₀ s) {r : R} {p' : CascadeStore} {q' : CascadeProc}
    (hkind : q'.isDeletion = true ↔ r = r₀) (hcancels : q'.Cancels) (hqueue : OnlyCancels p') :
    OneDeletion r₀ (s.put r p' q') := by
  refine ⟨hqueue, Parties.forall_put hcancels fun r' _ => h.cancels r', fun r' => ?_⟩
  by_cases hr : r' = r
  · rw [hr, Parties.put_procs_self]
    exact hkind
  · rw [Parties.put_procs_of_ne hr]
    exact h.deletion r'

theorem oneDeletion_step (h : OneDeletion r₀ s) (hstep : Program.Step (cascade cipher env) s a s') :
    OneDeletion r₀ s' := by
  cases hstep with
  | @start r index p' q' hidle hstart =>
    obtain ⟨hqueue, -, -, -, -, job, id, hname, rfl⟩ := h.start_cases hstart
    exact h.put ⟨fun hkind => absurd hkind Bool.false_ne_true,
      fun hr => absurd hr (h.ne_of_isIdle hidle)⟩ ⟨hname, trivial⟩ hqueue
  | @exec r o p' q' hexec =>
    rcases h.exec_cases hexec with ⟨hr, stage, hproc, hstage⟩ | ⟨hr, heffect⟩
    · obtain ⟨hkind, hcancels, hqueue⟩ :=
        DeletionStage.kind_of_exec (hproc ▸ h.cancels r) h.queue hstage
      exact h.put (iff_of_true hkind hr) hcancels hqueue
    · obtain ⟨hkind, hcancels, hqueue⟩ := heffect.kind (h.cancels r) h.queue
      exact h.put (iff_of_false (by rw [hkind]; exact Bool.false_ne_true) hr) hcancels hqueue
  | surroundings hsur =>
    cases hsur
    exact ⟨h.queue, h.cancels, h.deletion⟩

theorem TearsDownAll.put_idle (h : TearsDownAll cipher bookingIds userId r₀ s) {r : R} (hr : r ≠ r₀)
    (hidle : s.procs r = .idle) (job : MeetingJob) (id : ObjectId) :
    TearsDownAll cipher bookingIds userId r₀
      (s.put r s.shared (handling job (.cancelRead id))) := by
  have hr₀ : (s.put r s.shared (handling job (.cancelRead id))).procs r₀ = s.procs r₀ :=
    Parties.put_procs_of_ne hr.symm
  refine ⟨fun hbefore => ?_, fun hafter => ?_⟩
  · rw [hr₀] at hbefore
    obtain ⟨hstanding, hall⟩ := h.before hbefore
    exact ⟨hstanding, Parties.forall_put trivial fun r' _ => hall r'⟩
  · rw [hr₀] at hafter
    obtain ⟨hnone, hall⟩ := h.after hafter
    refine ⟨hnone, fun e he hid => ?_⟩
    obtain ⟨r', hr'⟩ := hall e he hid
    have hne : r' ≠ r := by
      rintro rfl
      rw [hidle] at hr'
      exact hr'
    exact ⟨r', by rw [Parties.put_procs_of_ne hne]; exact hr'⟩

theorem TearsDownAll.put_handler (h : TearsDownAll cipher bookingIds userId r₀ s) {r : R}
    (hr : r ≠ r₀) {i : CascadeInput} {p' : CascadeStore} {q' : CascadeProc}
    (hanswers : i.oracle.providerError = none)
    (hanswered : (s.procs r).IsAnswered env i s.shared.world.now)
    (heffect : HandlerEffect cipher env i s.shared (s.procs r) p' q') :
    TearsDownAll cipher bookingIds userId r₀ (s.put r p' q') := by
  have hr₀ : (s.put r p' q').procs r₀ = s.procs r₀ := Parties.put_procs_of_ne hr.symm
  refine ⟨fun hbefore => ?_, fun hafter => ?_⟩
  · rw [hr₀] at hbefore
    obtain ⟨hstanding, hall⟩ := h.before hbefore
    obtain ⟨hstable, hstanding', hready⟩ :=
      heffect.standing hstanding (hall r) hanswers hanswered
    exact ⟨hstanding', Parties.forall_put hready fun r' _ => (hall r').mono hstable⟩
  · rw [hr₀] at hafter
    obtain ⟨hnone, hall⟩ := h.after hafter
    obtain ⟨hnone', hkeeps, hevents⟩ := heffect.removes hnone hanswers hanswered
    refine ⟨hnone', fun e he hid => ?_⟩
    obtain ⟨hstored, hself⟩ := hevents e he
    obtain ⟨r', hr'⟩ := hall e hstored hid
    by_cases heq : r' = r
    · exact ⟨r, by rw [Parties.put_procs_self]; exact hself (heq ▸ hr')⟩
    · exact ⟨r', by rw [Parties.put_procs_of_ne heq]; exact hr'.mono hkeeps⟩

/-- The deletion removes the records: every event that stays is going to be removed. -/
theorem TearsDownAll.put_deleteMeetings (h : TearsDownAll cipher bookingIds userId r₀ s)
    {user : User} {ids : List ObjectId} (hproc : s.procs r₀ = deleting (.deleteMeetings user ids))
    (hreads : (DeletionStage.deleteMeetings user ids).InTime bookingIds s) :
    TearsDownAll cipher bookingIds userId r₀
      (s.put r₀ (s.shared.onWorld (World.deleteMeetings ids))
        (deleting (.deleteBookings user ids))) := by
  obtain ⟨hstanding, hall⟩ := h.before (by rw [hproc]; rfl)
  have hids : bookingIds ⊆ ids := by
    have hready := hall r₀
    rw [hproc] at hready
    exact hready
  refine ⟨fun hbefore => ?_, fun _ => ⟨fun m hm hid => ?_, fun e he hid => ?_⟩⟩
  · rw [Parties.put_procs_self] at hbefore
    cases hbefore
  · exact absurd (hids hid) (Collection.mem_delete_decide.1 hm).2
  · -- the record of an event that is left can be removed, so a handler has read it in time
    obtain ⟨m, hm, hbooking, hstatus, hevent⟩ := hstanding.recorded e he hid
    have hidm : m.bookingId ∈ bookingIds := by rw [hbooking]; exact hid
    have hremovable : m.removable.isSome = true := by
      simp only [Meeting.removable, hstatus, hevent]
      rfl
    obtain ⟨r, hr⟩ := hreads m hm hidm hremovable
    have hready := hall r
    have hne : r ≠ r₀ := by
      rintro rfl
      rw [hproc] at hr
      cases hr
    refine ⟨r, ?_⟩
    rw [Parties.put_procs_of_ne hne]
    exact (hready.removes_of_hasRead hr hm hidm hevent he hbooking.symm).mono (.of_eq rfl)

theorem TearsDownAll.put_deletion (h : TearsDownAll cipher bookingIds userId r₀ s)
    {stage : DeletionStage} (hproc : s.procs r₀ = deleting stage)
    (hkeeps : (deleting stage).keepsRecords = false) (hreads : stage.InTime bookingIds s)
    {o : Oracle} {p' : CascadeStore} {q' : CascadeProc}
    (hexec : stage.exec env o s.shared = some (p', q')) :
    TearsDownAll cipher bookingIds userId r₀ (s.put r₀ p' q') := by
  obtain ⟨hkeeps', hmeetings, hevents, -, hconnections⟩ := DeletionStage.removes hkeeps hexec
  obtain ⟨hnone, hall⟩ := h.after (by rw [hproc]; exact hkeeps)
  refine ⟨fun hbefore => ?_, fun _ => ⟨fun m hm => hnone m (hmeetings ▸ hm), fun e he hid => ?_⟩⟩
  · rw [Parties.put_procs_self, hkeeps'] at hbefore
    cases hbefore
  · obtain ⟨r, hr⟩ := hall e (hevents ▸ he) hid
    have hne : r ≠ r₀ := by
      rintro rfl
      rw [hproc] at hr
      exact hr
    refine ⟨r, ?_⟩
    rw [Parties.put_procs_of_ne hne]
    rcases hconnections with hconnections | ⟨user, rfl, rfl⟩
    · exact hr.mono (.of_eq hconnections)
    · exact hr.deleteConnection fun bookingId hbooking => hreads bookingId hbooking r

/-- **One action** of a run in which the jobs have read what the deletion removes. -/
theorem tearsDownAll_step (h : TearsDownAll cipher bookingIds userId r₀ s) (hone : OneDeletion r₀ s)
    (hanswers : GoogleAnswers env s a) (hreads : ReadsInTime bookingIds s a)
    (hstep : Program.Step (cascade cipher env) s a s') :
    TearsDownAll cipher bookingIds userId r₀ s' := by
  cases hstep with
  | @start r index p' q' hidle hstart =>
    have hr := hone.ne_of_isIdle hidle
    obtain ⟨hqueue, hconnections, hmeetings, hevents, hbookings, job, id, hname, rfl⟩ :=
      hone.start_cases hstart
    have hproc : s.procs r = .idle := by
      cases hproc : s.procs r with
      | idle => rfl
      | _ =>
        rw [hproc] at hidle
        cases hidle
    exact (h.kept (.of_eq hmeetings hevents hbookings fun j hj => .inr (hqueue j hj))
      hconnections).put_idle hr hproc job id
  | @exec r o p' q' hexec =>
    -- the deletion on its way to the records, at the records and behind them, or a handler
    rcases hone.exec_cases hexec with ⟨rfl, stage, hproc, hstage⟩ | ⟨hr, heffect⟩
    · have hintime : stage.InTime bookingIds s := hreads stage (by rw [hproc]; rfl)
      cases hkeeps : (deleting stage).keepsRecords with
      | false => exact h.put_deletion hproc hkeeps hintime hstage
      | true =>
        by_cases hdelete : ∃ user ids, stage = .deleteMeetings user ids
        · obtain ⟨user, ids, rfl⟩ := hdelete
          cases hstage
          exact h.put_deleteMeetings hproc hintime
        · push Not at hdelete
          obtain ⟨hstanding, hall⟩ := h.before (by rw [hproc]; exact hkeeps)
          have hready : (deleting stage).Ready cipher bookingIds userId s.shared := hproc ▸ hall r
          obtain ⟨hstable, hstanding', hready', hkeeps'⟩ := DeletionStage.standing hstanding
            hready (hproc ▸ hone.cancels r) hkeeps hdelete hstage
          refine ⟨fun _ => ⟨hstanding', Parties.forall_put hready' fun r' _ =>
            (hall r').mono hstable⟩, fun hafter => ?_⟩
          rw [Parties.put_procs_self, hkeeps'] at hafter
          cases hafter
    · exact h.put_handler hr hanswers.1 hanswers.2 heffect
  | surroundings hsur =>
    cases hsur
    exact h.kept (.of_eq rfl rfl rfl fun j hj => .inl hj) rfl

/-- The active bookings of the account lie ahead and have conferences that were created: a record
names the only event of the booking, and there is a way into the calendar of the consultant.
Nothing but cancellations is queued. -/
structure Conferring (cipher : Aead) (userId : ObjectId) (p : CascadeStore) : Prop where
  ahead : ∀ b ∈ p.world.activeBookingsOf userId, p.world.now < b.startAt
  recorded : ∀ b ∈ p.world.activeBookingsOf userId, ∃ m ∈ p.world.meetings,
    m.bookingId = b.id ∧ m.status = .created ∧ m.externalMeetingId.isSome = true ∧
      ∀ e ∈ p.world.events, e.bookingId = b.id → m.externalMeetingId = some e.id
  usable : ∀ b ∈ p.world.activeBookingsOf userId, b.Usable cipher p
  queue : OnlyCancels p

omit [DecidableEq R] in
theorem Conferring.standing {p : CascadeStore} (h : Conferring cipher userId p) :
    Standing cipher ((p.world.activeBookingsOf userId).map Booking.id) userId p := by
  refine ⟨fun e he hid => ?_, fun id hid => ?_, fun b hb hid => ?_⟩
  · obtain ⟨b, hb, hbooking⟩ := List.mem_map.1 hid
    obtain ⟨m, hm, hm', hstatus, -, hevent⟩ := h.recorded b hb
    exact ⟨m, hm, hm'.trans hbooking, hstatus, hevent e he hbooking.symm⟩
  · obtain ⟨b, hb, rfl⟩ := List.mem_map.1 hid
    obtain ⟨hb, hparty⟩ := List.mem_filter.1 hb
    exact ⟨b, hb, rfl, (of_decide_eq_true hparty).1⟩
  · obtain ⟨b', hb', hsame⟩ := List.mem_map.1 hid
    have hstored : b' ∈ p.world.bookings := (List.mem_filter.1 hb').1
    obtain rfl : b' = b := Collection.eq_of_docId hstored hb hsame
    exact h.usable b' hb'

theorem Cascade.init_procs_of_ne {actor : Actor} {p : CascadeStore} {r : R} (h : r ≠ r₀) :
    (Cascade.init r₀ actor userId p).procs r = .idle := by
  simp only [Cascade.init, Function.update_of_ne h]

theorem Cascade.init_procs_self {actor : Actor} {p : CascadeStore} :
    (Cascade.init r₀ actor userId p).procs r₀ = deleting (.findUser actor userId) := by
  simp only [Cascade.init, Function.update_self]

theorem Conferring.init {actor : Actor} {p : CascadeStore} (h : Conferring cipher userId p) :
    OneDeletion r₀ (Cascade.init r₀ actor userId p) ∧
      TearsDownAll cipher ((p.world.activeBookingsOf userId).map Booking.id) userId r₀
        (Cascade.init r₀ actor userId p) := by
  have hprocs : ∀ {Q : CascadeProc → Prop}, Q .idle → Q (deleting (.findUser actor userId)) →
      ∀ r, Q ((Cascade.init r₀ actor userId p).procs r) := by
    intro Q hidle hdeleting r
    by_cases hr : r = r₀
    · rw [hr, Cascade.init_procs_self]
      exact hdeleting
    · rw [Cascade.init_procs_of_ne hr]
      exact hidle
  refine ⟨⟨h.queue, hprocs (Q := CascadeProc.Cancels) trivial trivial, fun r => ?_⟩,
    fun _ => ⟨h.standing, hprocs (Q := fun q => q.Ready cipher _ userId p) trivial rfl⟩,
    fun hafter => ?_⟩
  · by_cases hr : r = r₀
    · rw [hr, Cascade.init_procs_self]
      exact iff_of_true rfl rfl
    · rw [Cascade.init_procs_of_ne hr]
      exact iff_of_false Bool.false_ne_true hr
  · rw [Cascade.init_procs_self] at hafter
    cases hafter

/-- **The conferences are removed.**  Starting where the active bookings of an account have
conferences, in every run in which Google answers and in which the jobs have read what the deletion
removes: when the deletion has returned and no handler is in flight, no event of these bookings is
in a calendar. -/
theorem conferences_removed (r₀ : R) {actor : Actor} {p : CascadeStore}
    {as : List (CascadeAction R)} (h : Conferring cipher userId p)
    (hanswers : ((cascade cipher env).machine R).Meets (GoogleAnswers env)
      (Cascade.init r₀ actor userId p) as)
    (hreads : ((cascade cipher env).machine R).Meets
      (ReadsInTime ((p.world.activeBookingsOf userId).map Booking.id))
      (Cascade.init r₀ actor userId p) as)
    (hrun : ((cascade cipher env).machine R).run (Cascade.init r₀ actor userId p) as = some s)
    (hreturned : (s.procs r₀).hasReturned = true)
    (hrest : ∀ r, (s.procs r).isAtRest = true) :
    ∀ b ∈ p.world.activeBookingsOf userId, ∀ e ∈ s.shared.world.events, e.bookingId ≠ b.id := by
  obtain ⟨-, htears⟩ := Machine.run_invariant
    (I := fun t : Cascade R => OneDeletion r₀ t ∧
      TearsDownAll cipher ((p.world.activeBookingsOf userId).map Booking.id) userId r₀ t)
    (fun t a t' hI hG hstep => ⟨oneDeletion_step hI.1 (Program.step_cases hstep),
      tearsDownAll_step hI.2 hI.1 hG.1 hG.2 (Program.step_cases hstep)⟩)
    h.init (hanswers.and hreads) hrun
  obtain ⟨-, hall⟩ := htears.after (CascadeProc.keepsRecords_of_hasReturned hreturned)
  intro b hb e he hbooking
  -- an event that is left has a handler in flight, and there is none
  obtain ⟨r, hr⟩ := hall e he (List.mem_map.2 ⟨b, hb, hbooking.symm⟩)
  have hrest' := hrest r
  cases hproc : s.procs r with
  | handling | accessing | removing =>
    rw [hproc] at hrest'
    cases hrest'
  | _ =>
    rw [hproc] at hr
    exact hr

end Runs

/-! ### The deletion of a client -/

/-- Client 2 has a consultation with consultant 1. -/
def consultation : Booking where
  id := 1
  userId := 2
  hrUserId := 1
  hrProfileId := 5
  startAt := mondayNine
  endAt := mondayNine + 3600000
  durationMinutes := 60
  hrTimezone := utc
  userTimezone := utc
  status := .confirmed
  priceCents := 5000
  currency := .usd
  meetingProvider := .googleMeet
  notes := none
  slotKey := some (buildSlotKey 1 mondayNine)
  cancelledAt := none
  cancelledBy := none
  cancellationReason := none
  previousStartAt := none
  rescheduleCount := 0

/-- The conference of the consultation. -/
def conference : Meeting :=
  ⟨3, 1, .googleMeet, .created, some 7, some "primary", none, mondayNine, mondayNine + 3600000,
    none, 0⟩

/-- Consultant 1. -/
def adviser : User := { client with id := 1, email := "ben@example.com", role := .hr }

theorem google_ne_empty : "google" ≠ "" := by decide

/-- The consultant's calendar connection; the access token has expired. -/
def expiredConnection : OAuth.Connection :=
  ⟨⟨4, 1, "primary"⟩, ⟨"google", google_ne_empty⟩, none,
    OAuth.encrypted markingCipher zeroIv "refresh", none, some 0, [], none⟩

/-- The consultation is booked and its conference is created. -/
def consultingStore : CascadeStore where
  world := { emptyWorld with
    bookings := ⟨[consultation], List.pairwise_singleton _ _⟩
    meetings := ⟨[conference], List.pairwise_singleton _ _⟩
    events := [⟨7, 1, mondayNine, mondayNine + 3600000⟩] }
  users := ⟨[client, adviser], by decide⟩
  refreshTokens := .empty
  connections := ⟨[expiredConnection], List.pairwise_singleton _ _⟩

theorem consultingStore_conferring (userId : ObjectId) :
    Conferring markingCipher userId consultingStore := by
  have hactive : ∀ b ∈ consultingStore.world.activeBookingsOf userId, b = consultation :=
    fun b hb => List.mem_singleton.1 (List.mem_filter.1 hb).1
  refine ⟨fun b hb => ?_, fun b hb => ?_, fun b hb => ?_, fun j hj => nomatch hj⟩
  · rw [hactive b hb]
    decide
  · rw [hactive b hb]
    refine ⟨conference, List.mem_singleton_self _, rfl, rfl, rfl, fun e he _ => ?_⟩
    rw [List.mem_singleton.1 he]
    rfl
  · rw [hactive b hb]
    decide +kernel

/-- Google is configured. -/
def configuredEnv : Env := ⟨utcCalendar, sampleCrypto, true⟩

/-- An admin's deletion, a handler, and another one for the job that is queued again. -/
inductive DeletionParty where
  | deletion
  | worker
  | again
  deriving DecidableEq

instance : Fintype DeletionParty :=
  ⟨{.deletion, .worker, .again}, fun r => by cases r <;> decide⟩

/-- The run of a list of actions of an admin's deletion of an account and of the worker. -/
def deletionRun (userId : ObjectId) (as : List (CascadeAction DeletionParty)) :
    Option (Cascade DeletionParty) :=
  ((cascade markingCipher configuredEnv).machine DeletionParty).run
    (Cascade.init .deletion ⟨9, .admin⟩ userId consultingStore) as

/-- A party issues commands, which are all answered. -/
def commands (r : DeletionParty) (n : ℕ) : List (CascadeAction DeletionParty) :=
  List.replicate n (.exec r ⟨answering 20 20, fun _ => some (OAuth.grant "access" none), zeroIv⟩)

/-- The consultant is deleted.  The worker has read the record before the deletion removes it, and
has refreshed the access token before the deletion removes the connection; the job is taken again
because the record is gone when it is saved. -/
def deletedBeside : List (CascadeAction DeletionParty) :=
  commands .deletion 8 ++ .start .worker 0 :: commands .worker 2 ++ commands .deletion 4 ++
    commands .worker 3 ++ commands .deletion 2 ++ commands .worker 1 ++ commands .deletion 2 ++
    commands .worker 1 ++ .start .again 0 :: commands .again 2

theorem deletedBeside_isSome : (deletionRun 1 deletedBeside).isSome = true := by decide +kernel

/-- The event of the consultation is removed. -/
theorem conferences_removed_beside :
    let s := (deletionRun 1 deletedBeside).get deletedBeside_isSome
    ∀ b ∈ consultingStore.world.activeBookingsOf 1, ∀ e ∈ s.shared.world.events,
      e.bookingId ≠ b.id := by
  intro s
  have hrun : ((cascade markingCipher configuredEnv).machine DeletionParty).run
      (Cascade.init .deletion ⟨9, .admin⟩ 1 consultingStore) deletedBeside = some s :=
    (Option.some_get deletedBeside_isSome).symm
  exact conferences_removed .deletion (consultingStore_conferring 1) (by decide +kernel)
    (by decide +kernel) hrun (by decide +kernel) (by decide +kernel)

/-- The deletion of the client has returned before the worker takes the job. -/
def deletedFirst : List (CascadeAction DeletionParty) :=
  commands .deletion 13 ++ .start .worker 0 :: commands .worker 2

theorem deletedFirst_isSome : (deletionRun 2 deletedFirst).isSome = true := by decide +kernel

/-- **An event can be left.**  The job finds neither the booking nor the record that names the
event. -/
theorem not_conferences_removed :
    ¬ ∀ (R : Type) [DecidableEq R] (cipher : Aead) (env : Env) (r₀ : R) (actor : Actor)
      (userId : ObjectId) (p : CascadeStore) (as : List (CascadeAction R)) (s : Cascade R),
      Conferring cipher userId p →
      ((cascade cipher env).machine R).Meets (GoogleAnswers env)
        (Cascade.init r₀ actor userId p) as →
      ((cascade cipher env).machine R).run (Cascade.init r₀ actor userId p) as = some s →
      (s.procs r₀).hasReturned = true → s.shared.world.meetingQueue = [] →
      (∀ r, (s.procs r).isAtRest = true) →
      ∀ b ∈ p.world.activeBookingsOf userId, ∀ e ∈ s.shared.world.events,
        e.bookingId ≠ b.id := by
  intro h
  have hremoved := h DeletionParty markingCipher configuredEnv .deletion ⟨9, .admin⟩ 2
    consultingStore deletedFirst _ (consultingStore_conferring 2) (by decide +kernel)
    (Option.some_get deletedFirst_isSome).symm (by decide +kernel) (by decide +kernel)
    (by decide +kernel)
  exact absurd hremoved (by decide +kernel)

end HrBooking
