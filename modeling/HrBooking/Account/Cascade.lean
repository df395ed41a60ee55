import HrBooking.Account.Deletion
import HrBooking.Backend.Effect
import HrBooking.OAuth.Race

/-!
# A deletion beside the meeting worker

`deleteUser` of `services/admin-user.service.ts`, one database command after another, while the
meeting worker runs the cancel jobs that it queues.  The jobs read the booking, the meeting record
and the calendar connection that the deletion goes on to remove, and save a refreshed access token
into the connection.

* `DeletionStage` : the next command of a deletion in flight.
* `CascadeStore.access` : a command of the call for the calendar.
* `cascade` : one deletion and any number of handlers over one store.
* `ReadsInTime` : the jobs have read what the deletion removes.
* `KeepsConferences` : what cancelling a booking leaves alone.
* `HandlerEffect`, `handler_cases` : what a command of a handler does that cancels a conference.
-/

namespace HrBooking

/-- The next command of a deletion in flight. -/
inductive DeletionStage where
  /-- `User.findById` -/
  | findUser (actor : Actor) (userId : ObjectId)
  /-- `Booking.find` of the active bookings -/
  | findActive (actor : Actor) (user : User)
  /-- a command of `cancelBooking`, with the bookings that are still to be cancelled -/
  | cancelling (actor : Actor) (user : User) (stage : RequestStage) (rest : List ObjectId)
  /-- `Booking.find` of all bookings -/
  | findBookings (user : User)
  /-- `Meeting.deleteMany` -/
  | deleteMeetings (user : User) (bookingIds : List ObjectId)
  /-- `Booking.deleteMany` -/
  | deleteBookings (user : User) (bookingIds : List ObjectId)
  /-- `RefreshToken.deleteMany` -/
  | deleteTokens (user : User)
  /-- `Availability.deleteMany` -/
  | deleteAvailability (user : User)
  /-- `OAuthAccount.deleteMany` -/
  | deleteConnection (user : User)
  /-- `HRProfile.deleteMany` -/
  | deleteProfile (user : User)
  /-- `User.deleteOne` -/
  | deleteAccount (user : User)

/-- A deletion, or a handler of the meeting worker. -/
inductive CascadeProc where
  | idle
  | deleting (stage : DeletionStage)
  | deleted (answer : Except AppError DeletedUserSummary)
  | handling (job : MeetingJob) (stage : HandlerStage)
  /-- a command of `getGoogleAccess` after the connection of the consultant was found -/
  | accessing (job : MeetingJob) (booking : Booking) (held : HeldMeeting)
      (target : EventId × String) (stage : OAuth.Stage)
  /-- `deleteEvent` of the calendar, with the credentials of the consultant -/
  | removing (job : MeetingJob) (booking : Booking) (held : HeldMeeting)
      (target : EventId × String)
  | handled

/-- What a deletion and the worker share; the connections have their credentials. -/
structure CascadeStore where
  world : World
  users : Collection User
  refreshTokens : Collection RefreshToken
  connections : Collection OAuth.Connection

namespace CascadeStore

/-- A command on the part of the state that the booking services use. -/
def onWorld (f : World → World) (p : CascadeStore) : CascadeStore := { p with world := f p.world }

/-- Time passes. -/
def advance (ms : ℕ) (p : CascadeStore) : CascadeStore :=
  p.onWorld fun w => { w with now := w.now + ms }

/-- `RefreshToken.deleteMany` -/
def deleteTokens (userId : ObjectId) (p : CascadeStore) : CascadeStore :=
  { p with refreshTokens := p.refreshTokens.delete fun token => token.userId = userId }

/-- `OAuthAccount.deleteMany` -/
def deleteConnection (userId : ObjectId) (p : CascadeStore) : CascadeStore :=
  { p with connections := p.connections.delete fun account => account.userId = userId }

/-- `User.deleteOne` -/
def deleteAccount (userId : ObjectId) (p : CascadeStore) : CascadeStore :=
  { p with users := p.users.delete fun user => user.id = userId }

end CascadeStore

/-- What is decided while a command runs. -/
structure CascadeInput where
  oracle : Oracle
  /-- What Google answers to a refresh token. -/
  refresh : String → Option (OAuth.HttpResponse OAuth.TokenBody)
  iv : Iv

/-- Books in which nobody is entered. -/
def OAuth.emptyBooks : OAuth.GoogleBooks := ⟨fun _ => none, fun _ => ∅⟩

/-- The handlers ask Google for nothing but access tokens. -/
def CascadeInput.google (i : CascadeInput) : OAuth.GoogleAnswers :=
  ⟨fun _ => none, i.refresh, fun _ => none⟩

theorem CascadeInput.google_honours (i : CascadeInput) : OAuth.emptyBooks.Honours i.google where
  exchange _ _ _ _ _ h := nomatch h
  refresh _ _ _ _ _ _ _ _ _ := rfl
  userinfo_sub _ _ _ _ h := nomatch h
  userinfo_email _ _ _ _ _ h := nomatch h

/-- What is decided while a command of `getGoogleAccess` runs. -/
def CascadeInput.access (i : CascadeInput) (now : ℤ) : OAuth.Input OAuth.emptyBooks :=
  ⟨⟨i.google, i.google_honours⟩, now, i.oracle.newId, (i.iv, i.iv)⟩

namespace CascadeProc

/-- The loop over the bookings that are cancelled. -/
def cancelNext (actor : Actor) (user : User) : List ObjectId → CascadeProc
  | [] => deleting (.findBookings user)
  | id :: rest =>
    deleting (.cancelling actor user (.readCancel actor id (some deletionReason)) rest)

/-- The deletion after a command of a cancellation; a failure is only logged. -/
def afterCancel (actor : Actor) (user : User) (rest : List ObjectId) :
    RequestOutcome → CascadeProc
  | .next stage => deleting (.cancelling actor user stage rest)
  | .finished _ => cancelNext actor user rest

/-- The worker after a command of a handler: a job whose handler throws is queued again as long as
attempts are left. -/
def afterCommand (job : MeetingJob) (p : CascadeStore) :
    HandlerOutcome → CascadeStore × CascadeProc
  | .next stage => (p, handling job stage)
  | .finished => (p, handled)
  | .thrown _ =>
    if job.attemptsLeft ≤ 1 then (p, handled)
    else
      (p.onWorld fun w => { w with
        meetingQueue := w.meetingQueue ++ [{ job with attemptsLeft := job.attemptsLeft - 1 }] },
        handled)

/-- The handler after a command of `getGoogleAccess`; a failure is only logged. -/
def afterAccess (job : MeetingJob) (booking : Booking) (held : HeldMeeting)
    (target : EventId × String) : OAuth.OAuthProc → CascadeProc
  | .running stage => accessing job booking held target stage
  | .granted _ _ => removing job booking held target
  | _ => handling job (.saveCancelled held)

end CascadeProc

open CascadeProc

section

variable (cipher : Aead) (env : Env)

/-- Issue the next command of a deletion. -/
def DeletionStage.exec (o : Oracle) (p : CascadeStore) :
    DeletionStage → Option (CascadeStore × CascadeProc)
  | findUser actor userId =>
    match deletable (p.users.findById userId) with
    | .error e => some (p, deleted (.error e))
    | .ok user => some (p, deleting (.findActive actor user))
  | findActive actor user =>
    some (p, cancelNext actor user ((p.world.activeBookingsOf user.id).map Booking.id))
  | cancelling actor user stage rest =>
    (stage.exec env.calendar o p.world).map fun r =>
      (p.onWorld fun _ => r.1, afterCancel actor user rest r.2)
  | findBookings user =>
    some (p, deleting (.deleteMeetings user ((p.world.bookingsOf user.id).map Booking.id)))
  | deleteMeetings user bookingIds =>
    some (p.onWorld (World.deleteMeetings bookingIds), deleting (.deleteBookings user bookingIds))
  | deleteBookings user bookingIds =>
    some (p.onWorld (World.deleteBookings bookingIds), deleting (.deleteTokens user))
  | deleteTokens user =>
    some (p.deleteTokens user.id,
      deleting (if user.role = .hr then .deleteAvailability user else .deleteAccount user))
  | deleteAvailability user =>
    some (p.onWorld (World.deleteAvailability user.id), deleting (.deleteConnection user))
  | deleteConnection user => some (p.deleteConnection user.id, deleting (.deleteProfile user))
  | deleteProfile user =>
    some (p.onWorld (World.deleteProfile user.id), deleting (.deleteAccount user))
  | deleteAccount user =>
    some (p.deleteAccount user.id, deleted (.ok ⟨user.email, user.firstName, user.lastName⟩))

/-- Issue the next command of `getGoogleAccess` for the consultant of a booking. -/
def CascadeStore.access (i : CascadeInput) (p : CascadeStore) (job : MeetingJob)
    (booking : Booking) (held : HeldMeeting) (target : EventId × String) (stage : OAuth.Stage) :
    CascadeStore × CascadeProc :=
  let accessed := stage.exec OAuth.emptyBooks cipher env (i.access p.world.now) p.connections
  ({ p with connections := accessed.1 }, afterAccess job booking held target accessed.2)

/-- Issue the next command of a party.  Before it removes an event, a handler gets access to the
calendar of the consultant; without access the call fails, which is only logged. -/
def CascadeProc.exec (i : CascadeInput) (p : CascadeStore) :
    CascadeProc → Option (CascadeStore × CascadeProc)
  | deleting stage => stage.exec env i.oracle p
  | handling job (.callCancel booking held target) =>
    if isSupportedMeetingProvider booking.meetingProvider then
      some (p.access cipher env i job booking held target (.findAccount booking.hrUserId))
    else some (p, handling job (.saveCancelled held))
  | handling job stage =>
    (stage.exec i.oracle p.world).map fun r => afterCommand job (p.onWorld fun _ => r.1) r.2
  | accessing job booking held target stage =>
    some (p.access cipher env i job booking held target stage)
  | removing job booking held target =>
    some (p.onWorld (callCancel i.oracle booking.meetingProvider (cancelInput booking target)),
      handling job (.saveCancelled held))
  | _ => none

/-- One deletion and any number of handlers over one store, while time passes. -/
def cascade : Program CascadeStore CascadeProc ℕ CascadeInput ℕ where
  isIdle
    | idle => true
    | _ => false
  start index p :=
    match p.world.meetingQueue[index]? with
    | none => none
    | some job =>
      some (p.onWorld fun w => { w with meetingQueue := w.meetingQueue.eraseIdx index },
        handling job (job.name.start job.bookingId))
  exec i p q := q.exec cipher env i p
  surroundings ms p := some (p.advance ms)

end

/-- The state of the deletion. -/
abbrev Cascade (R : Type) := Parties R CascadeStore CascadeProc

/-- An action of the deletion or of the worker. -/
abbrev CascadeAction (R : Type) := PartyAction R ℕ CascadeInput ℕ

/-- One party is going to delete the account, the others are idle. -/
def Cascade.init {R : Type} [DecidableEq R] (r₀ : R) (actor : Actor) (userId : ObjectId)
    (p : CascadeStore) : Cascade R :=
  ⟨p, Function.update (fun _ => .idle) r₀ (.deleting (.findUser actor userId))⟩

/-! ### Conditions -/

namespace CascadeProc

/-- The party is not in flight. -/
def isAtRest : CascadeProc → Bool
  | idle | deleted _ | handled => true
  | _ => false

/-- The deletion has returned. -/
def hasReturned : CascadeProc → Bool
  | deleted (.ok _) => true
  | _ => false

/-- The next command of the deletion. -/
def deletes : CascadeProc → Option DeletionStage
  | deleting stage => some stage
  | _ => none

/-- The booking whose meeting record a cancellation has read. -/
def hasRead : CascadeProc → Option ObjectId
  | handling _ (.callCancel _ held _) | handling _ (.saveCancelled held) =>
    some held.loaded.bookingId
  | accessing _ _ held _ _ | removing _ _ held _ => some held.loaded.bookingId
  | _ => none

/-- The booking whose cancellation still needs the calendar connection of its consultant, to find it
or to save a refreshed access token into it, with the consultant. -/
def needsConnection : CascadeProc → Option (ObjectId × ObjectId)
  | handling _ (.callCancel booking held _) | accessing _ booking held _ _ =>
    some (held.loaded.bookingId, booking.hrUserId)
  | _ => none

/-- Google gives the access token that the party is about to ask for. -/
def IsAnswered (env : Env) (i : CascadeInput) (now : ℤ) : CascadeProc → Prop
  | accessing _ _ _ _ (.refresh _ refreshToken) =>
    (OAuth.refreshAccessToken env i.google now refreshToken).isOk = true
  | _ => True

instance (env : Env) (i : CascadeInput) (now : ℤ) (q : CascadeProc) :
    Decidable (q.IsAnswered env i now) := by
  unfold IsAnswered
  split <;> infer_instance

end CascadeProc

section Conditions

variable {R : Type}

/-- Google answers, the token endpoint and the calendar. -/
def GoogleAnswers (env : Env) (s : Cascade R) (a : CascadeAction R) : Prop :=
  a.OnExec fun r i =>
    i.oracle.providerError = none ∧ (s.procs r).IsAnswered env i s.shared.world.now

instance (env : Env) (s : Cascade R) (a : CascadeAction R) : Decidable (GoogleAnswers env s a) :=
  inferInstanceAs (Decidable (a.OnExec _))

/-- What the jobs have read before a command of the deletion removes it: a record with a conference
has been read by a cancellation, and no cancellation still needs the connection. -/
def DeletionStage.InTime (bookingIds : List ObjectId) (s : Cascade R) : DeletionStage → Prop
  | deleteMeetings _ _ =>
    ∀ m ∈ s.shared.world.meetings, m.bookingId ∈ bookingIds → m.removable.isSome = true →
      ∃ r, (s.procs r).hasRead = some m.bookingId
  | deleteConnection user =>
    ∀ bookingId ∈ bookingIds, ∀ r, (s.procs r).needsConnection ≠ some (bookingId, user.id)
  | _ => True

/-- The deletion removes what the jobs have read. -/
def ReadsInTime (bookingIds : List ObjectId) (s : Cascade R) (a : CascadeAction R) : Prop :=
  a.OnExec fun r _ => ∀ stage ∈ (s.procs r).deletes, stage.InTime bookingIds s

instance [Fintype R] (bookingIds : List ObjectId) (s : Cascade R) (stage : DeletionStage) :
    Decidable (stage.InTime bookingIds s) := by
  unfold DeletionStage.InTime
  split <;> infer_instance

instance [Fintype R] (bookingIds : List ObjectId) (s : Cascade R) (a : CascadeAction R) :
    Decidable (ReadsInTime bookingIds s a) := inferInstanceAs (Decidable (a.OnExec _))

end Conditions

/-! ### Cancellations only -/

/-- The command belongs to the cancellation of a booking. -/
def RequestStage.Cancels (stage : RequestStage) : Prop :=
  stage.kind = .cancellation ∨ stage.kind = .rereading

/-- The command belongs to the cancellation of a conference. -/
def HandlerStage.Cancels : HandlerStage → Prop
  | cancelRead _ | cancelFind .. | callCancel .. | saveCancelled _ => True
  | _ => False

/-- The command belongs to a call for the calendar that has found a connection. -/
def OAuth.Stage.Accesses : OAuth.Stage → Prop
  | refresh .. | saveRefreshed .. | saveError .. => True
  | _ => False

/-- A party of a deletion cancels bookings and conferences only. -/
def CascadeProc.Cancels : CascadeProc → Prop
  | deleting (.cancelling _ _ stage _) => stage.Cancels
  | handling job stage => job.name = .cancel ∧ stage.Cancels
  | accessing job _ _ _ stage => job.name = .cancel ∧ stage.Accesses
  | removing job _ _ _ => job.name = .cancel
  | _ => True

/-- Only cancellations of conferences are queued. -/
def OnlyCancels (p : CascadeStore) : Prop := ∀ j ∈ p.world.meetingQueue, j.name = .cancel

instance (p : CascadeStore) : Decidable (OnlyCancels p) :=
  inferInstanceAs (Decidable (∀ j ∈ p.world.meetingQueue, _))

section Kinds

variable {cal : TimezoneName → Calendar} {o : Oracle} {w w' : World}

/-- What a command of the cancellation of a booking leaves alone. -/
structure KeepsConferences (w w' : World) : Prop where
  meetings : w'.meetings = w.meetings
  events : w'.events = w.events
  bookings : ∀ b ∈ w'.bookings, ∃ b' ∈ w.bookings, b.id = b'.id ∧ b.userId = b'.userId ∧
    b.hrUserId = b'.hrUserId ∧ b.meetingProvider = b'.meetingProvider
  kept : ∀ b ∈ w.bookings, ∃ b' ∈ w'.bookings, b'.id = b.id ∧ b'.userId = b.userId ∧
    b'.hrUserId = b.hrUserId
  queue : ∀ j ∈ w'.meetingQueue, j ∈ w.meetingQueue ∨ j.name = .cancel

theorem KeepsConferences.of_eq (hmeetings : w'.meetings = w.meetings)
    (hevents : w'.events = w.events) (hbookings : w'.bookings = w.bookings)
    (hqueue : ∀ j ∈ w'.meetingQueue, j ∈ w.meetingQueue ∨ j.name = .cancel) :
    KeepsConferences w w' := by
  refine ⟨hmeetings, hevents, fun b hb => ⟨b, hbookings ▸ hb, rfl, rfl, rfl, rfl⟩,
    fun b hb => ⟨b, hbookings.symm ▸ hb, rfl, rfl, rfl⟩, hqueue⟩

/-- **A command of the cancellation of a booking.** -/
theorem RequestStage.Cancels.keeps {stage : RequestStage} {out : RequestOutcome}
    (hcancels : stage.Cancels) (h : stage.exec cal o w = some (w', out)) :
    KeepsConferences w w' := by
  have hqueue : ∀ j ∈ w'.meetingQueue, j ∈ w.meetingQueue ∨ j.name = .cancel := by
    intro j hj
    rcases RequestStage.queue_of_exec h with heq | ⟨j', hj', heq⟩
    · exact .inl (heq ▸ hj)
    · rw [heq, List.mem_append, List.mem_singleton] at hj
      rcases hj with hj | rfl
      · exact .inl hj
      · refine .inr ?_
        cases stage with
        | queueCancel =>
          cases hj'
          rfl
        | queueCreate | queueSync => exact hcancels.elim nofun nofun
        | _ => cases hj'
  cases RequestStage.effect_of_exec h with
  | quiet _ hsame => exact .of_eq hsame.meetings hsame.events hsame.bookings hqueue
  | construct => exact .of_eq rfl rfl rfl hqueue
  | write hw =>
    cases hw with
    | save actor loaded now role reason hupd =>
      refine ⟨rfl, rfl, fun b hb => ?_, fun b hb => ?_, hqueue⟩
      · rcases (Collection.mem_update hupd).1 hb with ⟨hb, -⟩ | ⟨d, hd, -, rfl⟩
        · exact ⟨b, hb, rfl, rfl, rfl, rfl⟩
        · exact ⟨d, hd, rfl, rfl, rfl, rfl⟩
      · by_cases hid : Document.docId b = loaded.id
        · exact ⟨_, (Collection.mem_update hupd).2 (.inr ⟨b, hb, hid, rfl⟩), rfl, rfl, rfl⟩
        · exact ⟨b, (Collection.mem_update hupd).2 (.inl ⟨hb, hid⟩), rfl, rfl, rfl⟩
    | insert | withdraw | move => exact hcancels.elim nofun nofun

theorem CascadeProc.afterCommand_cases {job : MeetingJob} (p : CascadeStore)
    (out : HandlerOutcome) (hjob : job.name = .cancel) :
    (afterCommand job p out).1.connections = p.connections ∧
      KeepsConferences p.world (afterCommand job p out).1.world ∧
      (afterCommand job p out).1.world.bookings = p.world.bookings ∧
      (afterCommand job p out).2 =
        match out with
        | .next stage => handling job stage
        | _ => handled := by
  have hsame : KeepsConferences p.world p.world := .of_eq rfl rfl rfl fun _ hj => .inl hj
  cases out with
  | next | finished => exact ⟨rfl, hsame, rfl, rfl⟩
  | thrown e =>
    unfold afterCommand
    split_ifs with hlast
    · exact ⟨rfl, hsame, rfl, rfl⟩
    · refine ⟨rfl, .of_eq rfl rfl rfl fun j hj => ?_, rfl, rfl⟩
      rcases List.mem_append.1 hj with hj | hj
      · exact .inl hj
      · rw [List.mem_singleton.1 hj]
        exact .inr hjob

end Kinds

/-! ### Connections -/

section Connections

variable {cipher : Aead} {p p' : CascadeStore} {booking : Booking} {userId : ObjectId}

/-- The consultant has connected a calendar, and the stored refresh token can be read. -/
def CascadeStore.Connected (cipher : Aead) (p : CascadeStore) (userId : ObjectId) : Prop :=
  ∃ account ∈ p.connections, account.userId = userId ∧
    (OAuth.present (OAuth.safeDecrypt cipher (some account.refreshToken))).isSome = true

instance (cipher : Aead) (p : CascadeStore) (userId : ObjectId) :
    Decidable (p.Connected cipher userId) :=
  inferInstanceAs (Decidable (∃ account ∈ p.connections, _))

/-- The conference of the booking can be removed: its provider has an adapter, and there is a way
into the calendar of its consultant. -/
def Booking.Usable (cipher : Aead) (p : CascadeStore) (booking : Booking) : Prop :=
  isSupportedMeetingProvider booking.meetingProvider ∧ p.Connected cipher booking.hrUserId

instance (cipher : Aead) (p : CascadeStore) (booking : Booking) :
    Decidable (booking.Usable cipher p) :=
  inferInstanceAs (Decidable (_ ∧ _))

/-- No connection is lost, and each keeps its user and its refresh token. -/
def CascadeStore.KeepsConnections (p p' : CascadeStore) : Prop :=
  ∀ account ∈ p.connections, ∃ account' ∈ p'.connections, account'.id = account.id ∧
    account'.userId = account.userId ∧ account'.refreshToken = account.refreshToken

/-- The call for the calendar has found a connection of the consultant that is still stored, and
gets a new access token. -/
def OAuth.Stage.Refreshes (p : CascadeStore) (userId : ObjectId) : OAuth.Stage → Prop
  | refresh account _ | saveRefreshed account _ =>
    ∃ stored ∈ p.connections, stored.id = account.id ∧ stored.userId = userId
  | _ => False

theorem CascadeStore.KeepsConnections.of_eq (h : p'.connections = p.connections) :
    p.KeepsConnections p' :=
  fun account haccount => ⟨account, h.symm ▸ haccount, rfl, rfl, rfl⟩

theorem Booking.Usable.mono (h : booking.Usable cipher p) (hkeeps : p.KeepsConnections p') :
    booking.Usable cipher p' := by
  obtain ⟨hsupported, account, haccount, huser, hreadable⟩ := h
  obtain ⟨account', haccount', -, huser', hrefresh⟩ := hkeeps account haccount
  exact ⟨hsupported, account', haccount', huser'.trans huser, hrefresh.symm ▸ hreadable⟩

theorem OAuth.Stage.Refreshes.mono {stage : OAuth.Stage} (h : stage.Refreshes p userId)
    (hkeeps : p.KeepsConnections p') : stage.Refreshes p' userId := by
  cases stage with
  | refresh | saveRefreshed =>
    obtain ⟨stored, hstored, hid, huser⟩ := h
    obtain ⟨stored', hstored', hid', huser', -⟩ := hkeeps stored hstored
    exact ⟨stored', hstored', hid'.trans hid, huser'.trans huser⟩
  | _ => exact h

theorem keepsConnections_saveHeld (p : CascadeStore) (account current : OAuth.Connection) :
    p.KeepsConnections
      { p with connections := OAuth.saveHeld p.connections account current } := by
  cases hfound : p.connections.findById account.id with
  | none => exact .of_eq (OAuth.saveHeld_of_gone hfound)
  | some stored =>
    intro d hd
    by_cases hid : d.id = stored.id
    · have hsame : d = stored :=
        Collection.eq_of_docId hd (Collection.findById_eq_some.1 hfound).1 hid
      exact ⟨_, (OAuth.mem_saveHeld hfound).2 (.inr rfl), by rw [hsame]; rfl, by rw [hsame]; rfl,
        by rw [hsame]; rfl⟩
    · exact ⟨d, (OAuth.mem_saveHeld hfound).2 (.inl ⟨hd, hid⟩), rfl, rfl, rfl⟩

end Connections

/-! ### Commands of handlers -/

section Handlers

/-- The cancellation of a conference is saved over the records that are still stored. -/
structure SavesRecord (held : HeldMeeting) (p p' : CascadeStore) : Prop where
  connections : p'.connections = p.connections
  events : p'.world.events = p.world.events
  bookings : p'.world.bookings = p.world.bookings
  queue : ∀ j ∈ p'.world.meetingQueue, j ∈ p.world.meetingQueue ∨ j.name = .cancel
  written : ∀ m ∈ p'.world.meetings, m ∈ p.world.meetings ∨ ∃ m₀ ∈ p.world.meetings,
    (held.modify Meeting.markCancelled).save m₀ = m
  kept : ∀ m ∈ p.world.meetings, m.id ≠ held.loaded.id → m ∈ p'.world.meetings

/-- What a command of a handler does that cancels a conference. -/
inductive HandlerEffect (cipher : Aead) (env : Env) (i : CascadeInput) (p : CascadeStore) :
    CascadeProc → CascadeStore → CascadeProc → Prop
  | read {job : MeetingJob} {id : ObjectId} :
      HandlerEffect cipher env i p (handling job (.cancelRead id)) p
        (handling job (.cancelFind id (p.world.bookings.findById id)))
  | absent {job : MeetingJob} {id : ObjectId} {found : Option Booking}
      (h : found = none ∨ ∀ m ∈ p.world.meetings, m.bookingId ≠ id) :
      HandlerEffect cipher env i p (handling job (.cancelFind id found)) p handled
  | close {job : MeetingJob} {booking : Booking} {m : Meeting} (hm : m ∈ p.world.meetings)
      (h : m.removable = none) :
      HandlerEffect cipher env i p (handling job (.cancelFind m.bookingId (some booking))) p
        (handling job (.saveCancelled (.ofStored m)))
  | reach {job : MeetingJob} {booking : Booking} {m : Meeting} {target : EventId × String}
      (hm : m ∈ p.world.meetings) (h : m.removable = some target) :
      HandlerEffect cipher env i p (handling job (.cancelFind m.bookingId (some booking))) p
        (handling job (.callCancel booking (.ofStored m) target))
  | lookUp {job : MeetingJob} {booking : Booking} {held : HeldMeeting}
      {target : EventId × String} (h : isSupportedMeetingProvider booking.meetingProvider) :
      HandlerEffect cipher env i p (handling job (.callCancel booking held target)) p
        (removing job booking held target)
  | find {job : MeetingJob} {booking : Booking} {held : HeldMeeting}
      {target : EventId × String} {stage : OAuth.Stage} (haccesses : stage.Accesses)
      (h : booking.Usable cipher p → stage.Refreshes p booking.hrUserId) :
      HandlerEffect cipher env i p (handling job (.callCancel booking held target)) p
        (accessing job booking held target stage)
  | giveUp {job : MeetingJob} {booking : Booking} {held : HeldMeeting}
      {target : EventId × String} (h : ¬ booking.Usable cipher p) :
      HandlerEffect cipher env i p (handling job (.callCancel booking held target)) p
        (handling job (.saveCancelled held))
  | ask {job : MeetingJob} {booking : Booking} {held : HeldMeeting}
      {target : EventId × String} {stage stage' : OAuth.Stage} (haccesses : stage'.Accesses)
      (h : (accessing job booking held target stage).IsAnswered env i p.world.now →
        stage.Refreshes p booking.hrUserId → stage'.Refreshes p booking.hrUserId) :
      HandlerEffect cipher env i p (accessing job booking held target stage) p
        (accessing job booking held target stage')
  | accessed {job : MeetingJob} {booking : Booking} {held : HeldMeeting}
      {target : EventId × String} {stage : OAuth.Stage}
      {connections : Collection OAuth.Connection}
      (hkeeps : p.KeepsConnections { p with connections }) :
      HandlerEffect cipher env i p (accessing job booking held target stage)
        { p with connections } (removing job booking held target)
  | refused {job : MeetingJob} {booking : Booking} {held : HeldMeeting}
      {target : EventId × String} {stage : OAuth.Stage}
      {connections : Collection OAuth.Connection}
      (hkeeps : p.KeepsConnections { p with connections })
      (h : ¬ stage.Refreshes p booking.hrUserId) :
      HandlerEffect cipher env i p (accessing job booking held target stage)
        { p with connections } (handling job (.saveCancelled held))
  | remove {job : MeetingJob} {booking : Booking} {held : HeldMeeting}
      {target : EventId × String} :
      HandlerEffect cipher env i p (removing job booking held target)
        (p.onWorld (callCancel i.oracle booking.meetingProvider (cancelInput booking target)))
        (handling job (.saveCancelled held))
  | save {job : MeetingJob} {held : HeldMeeting} {p' : CascadeStore} (h : SavesRecord held p p') :
      HandlerEffect cipher env i p (handling job (.saveCancelled held)) p' handled

variable {cipher : Aead} {env : Env} {i : CascadeInput} {p p' : CascadeStore}
  {q q' : CascadeProc} {job : MeetingJob} {booking : Booking} {held : HeldMeeting}
  {target : EventId × String}

theorem CascadeProc.exec_handling {stage : HandlerStage}
    (h : ∀ booking held target, stage ≠ .callCancel booking held target) :
    (handling job stage).exec cipher env i p =
      (stage.exec i.oracle p.world).map fun r =>
        afterCommand job (p.onWorld fun _ => r.1) r.2 := by
  cases stage with
  | callCancel booking held target => exact absurd rfl (h booking held target)
  | _ => rfl

theorem savesRecord_of_exec (hjob : job.name = .cancel)
    (h : (handling job (.saveCancelled held)).exec cipher env i p = some (p', q')) :
    SavesRecord held p p' ∧ q' = handled := by
  have hexec : (saving (held.modify Meeting.markCancelled) p.world .finished .thrown).map (fun r =>
      afterCommand job (p.onWorld fun _ => r.1) r.2) = some (p', q') := h
  unfold saving at hexec
  rcases saveMeeting_cases (w := p.world) (held.modify Meeting.markCancelled) with
    ⟨e, hsave⟩ | ⟨c, hupdate, hsave⟩
  · -- the record is gone: the handler throws
    simp only [hsave, Option.map_some, Option.some.injEq] at hexec
    have hcases := afterCommand_cases (p.onWorld fun _ => p.world) (.thrown e) hjob
    rw [hexec] at hcases
    obtain ⟨hconnections, hkeeps, hbookings, hq⟩ := hcases
    refine ⟨⟨hconnections, hkeeps.events, hbookings, hkeeps.queue, ?_, ?_⟩, hq⟩
    · exact fun m hm => .inl (hkeeps.meetings ▸ hm)
    · exact fun m hm _ => hkeeps.meetings.symm ▸ hm
  · simp only [hsave, Option.map_some, Option.some.injEq, afterCommand] at hexec
    cases hexec
    refine ⟨⟨rfl, rfl, rfl, fun j hj => .inl hj, fun m hm => ?_, fun m hm hne => ?_⟩, rfl⟩
    · rcases (Collection.mem_update hupdate).1 hm with ⟨hm, -⟩ | ⟨m₀, hm₀, -, rfl⟩
      · exact .inl hm
      · exact .inr ⟨m₀, hm₀, rfl⟩
    · exact (Collection.mem_update hupdate).2 (.inl ⟨hm, hne⟩)

theorem handlerEffect_callCancel
    (h : (handling job (.callCancel booking held target)).exec cipher env i p = some (p', q')) :
    HandlerEffect cipher env i p (handling job (.callCancel booking held target)) p' q' := by
  simp only [CascadeProc.exec] at h
  split_ifs at h with hsupported
  · simp only [CascadeStore.access, OAuth.Stage.exec] at h
    split at h
    · rename_i hnone
      cases h
      refine .giveUp fun husable => ?_
      -- a connection of the consultant would have been found
      obtain ⟨-, account, haccount, huser, -⟩ := husable
      exact Collection.findByKey_eq_none.1 hnone account haccount (congrArg some huser)
    · rename_i account hfound
      obtain ⟨haccount, huser⟩ := OAuth.mem_of_findByKey hfound
      split at h
      · cases h
        exact .lookUp hsupported
      · split at h
        · rename_i hunreadable
          cases h
          refine .find trivial fun husable => ?_
          obtain ⟨-, account', haccount', huser', hreadable⟩ := husable
          obtain rfl : account' = account :=
            Collection.eq_of_indexKey haccount' haccount (congrArg some (huser'.trans huser.symm))
              rfl
          rw [hunreadable] at hreadable
          cases hreadable
        · cases h
          exact .find trivial fun _ => ⟨account, haccount, rfl, huser⟩
  · cases h
    exact .giveUp fun husable => hsupported husable.1

theorem handlerEffect_accessing {stage : OAuth.Stage} (haccesses : stage.Accesses)
    (h : (accessing job booking held target stage).exec cipher env i p = some (p', q')) :
    HandlerEffect cipher env i p (accessing job booking held target stage) p' q' := by
  simp only [CascadeProc.exec, Option.some.injEq] at h
  -- the token that Google gives is saved, unless the connection has gone meanwhile
  cases stage with
  | refresh account refreshToken =>
    simp only [CascadeStore.access, OAuth.Stage.exec] at h
    split at h
    · cases h
      exact .ask trivial fun _ hrefreshes => hrefreshes
    · rename_i failure hrefused
      cases h
      refine .ask trivial fun hanswered => ?_
      have hfailed : OAuth.refreshAccessToken env i.google p.world.now refreshToken =
          .error failure := hrefused
      rw [IsAnswered, hfailed] at hanswered
      cases hanswered
  | saveRefreshed account tokens =>
    simp only [CascadeStore.access, OAuth.Stage.exec] at h
    split at h
    · cases h
      exact .accessed (keepsConnections_saveHeld p _ _)
    · rename_i hgone
      cases h
      refine .refused (.of_eq rfl) ?_
      rintro ⟨stored, hstored, hid, -⟩
      exact Collection.findById_eq_none.1 hgone stored hstored hid
  | saveError account message error =>
    simp only [CascadeStore.access, OAuth.Stage.exec] at h
    cases h
    exact .refused (keepsConnections_saveHeld p _ _) id
  | _ => exact absurd haccesses id

/-- **A command of a handler** that cancels a conference. -/
theorem handler_cases (hcancels : q.Cancels) (hdeletes : q.deletes = none)
    (h : q.exec cipher env i p = some (p', q')) : HandlerEffect cipher env i p q p' q' := by
  -- a handler that cancels a conference, command by command
  cases q with
  | idle | deleted | handled => cases h
  | deleting => cases hdeletes
  | accessing job booking held target stage => exact handlerEffect_accessing hcancels.2 h
  | removing job booking held target =>
    cases h
    exact .remove
  | handling job stage =>
    cases stage with
    | cancelRead id =>
      cases h
      exact .read
    | cancelFind id found =>
      rw [exec_handling (by intro _ _ _ h; cases h)] at h
      cases found with
      | none =>
        cases h
        exact .absent (.inl rfl)
      | some booking =>
        simp only [HandlerStage.exec] at h
        cases hfind : p.world.meetings.findByKey id with
        | none =>
          rw [hfind] at h
          cases h
          exact .absent (.inr fun m hm hid =>
            Collection.findByKey_eq_none.1 hfind m hm (congrArg some hid))
        | some m =>
          obtain ⟨hm, hid⟩ := Collection.findByKey_eq_some.1 hfind
          obtain rfl : m.bookingId = id := Option.some.inj hid
          rw [hfind] at h
          simp only [cancelWith] at h
          cases hremovable : m.removable with
          | none =>
            rw [hremovable] at h
            cases h
            exact .close hm hremovable
          | some target =>
            rw [hremovable] at h
            cases h
            exact .reach hm hremovable
    | callCancel booking held target => exact handlerEffect_callCancel h
    | saveCancelled held =>
      obtain ⟨hsaves, rfl⟩ := savesRecord_of_exec hcancels.1 h
      exact .save hsaves
    | _ => exact absurd hcancels.2 id

end Handlers

end HrBooking
