import HrBooking.Backend.Handler
import HrBooking.Backend.Request
import HrBooking.Machine.Basic

/-!
# The backend under concurrency

Any number of parties share one `World`: booking requests, retries of participants and jobs of the
meeting worker.  An action starts a party, lets one party issue its next command, or is a write of
the surroundings (the clock, profiles and schedules, the lifecycle sweep's update of one document,
the deletions of an account).

* `Proc` : a party.
* `backend` : the machine; its runs are the interleavings.
* `Quiescent` : nothing is in flight.
-/

namespace HrBooking

/-- What a meeting handler runs for. -/
inductive Origin where
  /-- a job of the meeting worker -/
  | job (job : MeetingJob)
  /-- a retry asked for by a participant -/
  | retry (actor : Actor) (bookingId : ObjectId)

/-- A party. -/
inductive Proc where
  | idle
  | request (stage : RequestStage)
  /-- `Booking.findById` of `retryBookingMeeting` -/
  | retryRead (actor : Actor) (bookingId : ObjectId)
  /-- `Meeting.findOne` of `retryBookingMeeting` -/
  | retryFind (actor : Actor) (booking : Booking)
  | handler (origin : Origin) (stage : HandlerStage)
  /-- a request is answered; a job has no answer -/
  | done (answer : Option (Except AppError Booking))

/-- The party is not in flight. -/
def Proc.isAtRest : Proc → Bool
  | idle | done _ => true
  | _ => false

/-- The party after a command of its request. -/
def RequestOutcome.toProc : RequestOutcome → Proc
  | next stage => .request stage
  | finished answer => .done (some answer)

/-- A handler has returned. -/
def Origin.finish : Origin → Proc
  | job _ => .done none
  | retry actor bookingId => .request (.reread actor bookingId)

/-- A handler has thrown: a job is queued again as long as attempts are left. -/
def Origin.fail (e : AppError) (w : World) : Origin → World × Proc
  | job j =>
    if j.attemptsLeft ≤ 1 then (w, .done none)
    else
      ({ w with
          meetingQueue := w.meetingQueue ++ [{ j with attemptsLeft := j.attemptsLeft - 1 }] },
        .done none)
  | retry _ _ => (w, .done (some (.error e)))

/-- The state and the party after a command of a handler. -/
def Origin.resume (origin : Origin) (w : World) : HandlerOutcome → World × Proc
  | .next stage => (w, .handler origin stage)
  | .finished => (w, origin.finish)
  | .thrown e => origin.fail e w

/-- A party issues its next command. -/
def Proc.exec (cal : TimezoneName → Calendar) (o : Oracle) (w : World) :
    Proc → Option (World × Proc)
  | idle => none
  | request stage => (stage.exec cal o w).map fun r => (r.1, r.2.toProc)
  | retryRead actor bookingId =>
    match findBooking w.bookings bookingId with
    | .error e => some (w, .done (some (.error e)))
    | .ok booking =>
      match assertParticipant actor booking with
      | .error e => some (w, .done (some (.error e)))
      | .ok _ => some (w, .retryFind actor booking)
  | retryFind actor booking =>
    if isRetryable (w.meetings.findByKey booking.id) booking w.now then
      some (w, .handler (.retry actor booking.id) (.ensureRead booking.id))
    else
      some (w, .done (some (.error
        (.conflict "This meeting does not need to be created again."))))
  | handler origin stage => (stage.exec o w).map fun r => origin.resume r.1 r.2
  | done _ => none

/-- The shared state and the parties. -/
structure Backend (R : Type) where
  world : World
  procs : R → Proc

/-- The actions of the backend. -/
inductive Action (R : Type) where
  /-- a request arrives -/
  | begin (r : R) (request : Request)
  /-- a participant asks for a conference again -/
  | beginRetry (r : R) (actor : Actor) (bookingId : ObjectId)
  /-- the worker takes a job of the meeting queue -/
  | startJob (r : R) (index : ℕ)
  /-- a party issues its next command -/
  | exec (r : R) (o : Oracle)
  /-- time passes -/
  | advance (ms : ℕ)
  /-- profiles change -/
  | setProfiles (profiles : Collection HRProfile)
  /-- a consultant changes the schedule -/
  | setAvailability (hrUserId : ObjectId) (config : SlotConfig)
  /-- the lifecycle sweep updates one booking -/
  | complete (bookingId : ObjectId)
  /-- an account's deletion removes one booking -/
  | deleteBooking (bookingId : ObjectId)
  /-- an account's deletion removes the meeting of one booking -/
  | deleteMeeting (bookingId : ObjectId)

section

variable {R : Type}

/-- A condition on the commands of the parties; every other action meets it. -/
def Action.OnExec (P : R → Oracle → Prop) : Action R → Prop
  | exec r o => P r o
  | _ => True

instance (P : R → Oracle → Prop) [∀ r o, Decidable (P r o)] (a : Action R) :
    Decidable (a.OnExec P) := by
  unfold Action.OnExec
  split <;> infer_instance

variable [DecidableEq R]

/-- Replace the state and one party. -/
def Backend.put (s : Backend R) (r : R) (w : World) (p : Proc) : Backend R :=
  ⟨w, Function.update s.procs r p⟩

theorem Backend.procs_put_of_ne {s : Backend R} {r r' : R} {w : World} {p : Proc} (h : r' ≠ r) :
    (s.put r w p).procs r' = s.procs r' := Function.update_of_ne h ..

theorem Backend.procs_put_self {s : Backend R} {r : R} {w : World} {p : Proc} :
    (s.put r w p).procs r = p := Function.update_self ..

/-- Start a party that is idle. -/
def Backend.launch (s : Backend R) (r : R) (w : World) (p : Proc) : Option (Backend R) :=
  match s.procs r with
  | .idle => some (s.put r w p)
  | _ => none

/-- One action. -/
def Backend.step (cal : TimezoneName → Calendar) (s : Backend R) : Action R → Option (Backend R)
  | .begin r request => s.launch r s.world (.request request.start)
  | .beginRetry r actor bookingId => s.launch r s.world (.retryRead actor bookingId)
  | .startJob r index =>
    match s.world.meetingQueue[index]? with
    | none => none
    | some job =>
      s.launch r { s.world with meetingQueue := s.world.meetingQueue.eraseIdx index }
        (.handler (.job job) (job.name.start job.bookingId))
  | .exec r o => ((s.procs r).exec cal o s.world).map fun q => s.put r q.1 q.2
  | .advance ms => some { s with world := { s.world with now := s.world.now + ms } }
  | .setProfiles profiles => some { s with world := { s.world with profiles } }
  | .setAvailability hrUserId config =>
    some { s with world := updateAvailability hrUserId config s.world }
  | .complete bookingId =>
    some { s with
      world := { s.world with
        bookings := completeBooking s.world.now bookingId s.world.bookings } }
  | .deleteBooking bookingId =>
    some { s with
      world := { s.world with bookings := s.world.bookings.delete fun b => b.id = bookingId } }
  | .deleteMeeting bookingId =>
    some { s with
      world := { s.world with
        meetings := s.world.meetings.delete fun m => m.bookingId = bookingId } }

/-- The backend as a machine. -/
def backend (R : Type) [DecidableEq R] (cal : TimezoneName → Calendar) :
    Machine (Backend R) (Action R) := ⟨Backend.step cal⟩

/-- No party is in flight. -/
def Backend.Quiescent (s : Backend R) : Prop := ∀ r, (s.procs r).isAtRest = true

/-- All parties are idle over a given state. -/
def Backend.init (R : Type) (w : World) : Backend R := ⟨w, fun _ => .idle⟩

omit [DecidableEq R] in
theorem Backend.quiescent_init (w : World) : (Backend.init R w).Quiescent := fun _ => rfl

end

end HrBooking
