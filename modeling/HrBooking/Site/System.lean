import HrBooking.Serial.System
import HrBooking.Site.Service

/-!
# Runs of the site

Every request of the site that writes, one after another, with the jobs of the meeting worker and
the lifecycle sweep between them.  A request passes the middlewares of its route before it reaches a
service.

* `authorize` : `loadUser` and `requireRole`.
* `AdminRequest`, `AdminRequest.answer` : the requests of the admin routes, and the cancellation of
  a booking.
* `SiteAction` : a request, a job or a change of the surroundings.
* `site` : the machine; an action is refused only when its surroundings offer what is taken.
-/

namespace HrBooking

/-! ### Middlewares -/

/-- `loadUser` and `requireRole`. -/
def authorize (roles : List UserRole) (user : Actor) (p : Platform) : Except AppError Actor :=
  match loadUser user p with
  | .error e => .error e
  | .ok actor =>
    if actor.role ∈ roles then .ok actor
    else .error (.forbidden "You do not have permission to perform this action.")

/-- The roles of the admin routes. -/
def adminRoles : List UserRole := [.admin, .superAdmin]

/-! ### Requests by admins -/

/-- A request of an admin. -/
inductive AdminRequest where
  | suspendUser (userId : ObjectId) (reason : BoundedText 3 300)
  | reactivateUser (userId : ObjectId)
  /-- with the surroundings of the cancellation of each booking -/
  | deleteUser (o : ObjectId → Oracle) (userId : ObjectId)
  | approveProfile (profileId : ObjectId)
  | rejectProfile (profileId : ObjectId) (reason : RejectionReason)
  | cancelBooking (bookingId : ObjectId) (reason : Option String)
  | resolveReport (reportId : ObjectId) (input : Site.ResolveReportInput)
  | createSpecialization (input : Site.CreateSpecializationInput)
  | updateSpecialization (id : ObjectId) (input : Site.UpdateSpecializationInput)
  | deleteSpecialization (id : ObjectId)

/-- The service that a request reaches. -/
def AdminRequest.serve (o : Oracle) (actor : Actor) (s : Site) : AdminRequest → Reply Unit
  | suspendUser userId reason => (s.suspendUser o.auditFails actor userId reason).done
  | reactivateUser userId => (s.reactivateUser o.auditFails actor userId).done
  | deleteUser o' userId => (s.deleteUser o.auditFails actor o' userId).done
  | approveProfile profileId => (s.approveProfile o.auditFails actor profileId).done
  | rejectProfile profileId reason =>
    (s.rejectProfile o.auditFails actor profileId reason).done
  | cancelBooking bookingId reason =>
    (s.call fun p => p.call (HrBooking.cancelBooking o actor bookingId reason)).done
  | resolveReport reportId input => (s.resolveReport o.auditFails actor reportId input).done
  | createSpecialization input => (s.createSpecialization o.newId input).done
  | updateSpecialization id input => (s.updateSpecialization id input).done
  | deleteSpecialization id => s.deleteSpecialization id

/-- A request with the middlewares of its route; anybody may ask for the cancellation of a
booking. -/
def AdminRequest.answer (o : Oracle) (user : Actor) (s : Site) (request : AdminRequest) :
    Reply Unit :=
  match request with
  | cancelBooking bookingId reason =>
    (s.reply (loadUser user s.platform)).andThen fun actor s =>
      (cancelBooking bookingId reason).serve o actor s
  | request =>
    (s.reply (authorize adminRoles user s.platform)).andThen fun actor s =>
      request.serve o actor s

/-! ### The machine -/

/-- One request, or what happens between requests. -/
inductive SiteAction where
  /-- a service of the sessions, the TTL index of the sessions, or the clock -/
  | session (a : AccountAction)
  | register (newId : ObjectId) (salt : ℕ) (input : RegisterInput)
  | registerHr (newId profileId : ObjectId) (salt : ℕ) (input : RegisterHrInput)
  | upsertProfile (user : Actor) (newId : ObjectId) (input : UpsertProfileBody)
  | submitProfile (user : Actor)
  | withdrawProfile (user : Actor)
  | setAvailability (user : Actor) (isAvailable : Bool)
  | getAvailability (user : Actor)
  | updateAvailability (user : Actor) (config : SlotConfig)
  | createBooking (o : Oracle) (user : Actor) (input : CreateBookingInput)
  | rescheduleBooking (o : Oracle) (user : Actor) (bookingId : ObjectId)
      (input : RescheduleBookingInput)
  | retryBookingMeeting (o : Oracle) (user : Actor) (bookingId : ObjectId)
  /-- a job of the meeting worker -/
  | runJob (o : Oracle) (name : MeetingJobName) (bookingId : ObjectId)
  /-- the lifecycle sweep -/
  | sweep
  | createReport (user : Actor) (newId : ObjectId) (input : Site.CreateReportInput)
  | connectGoogle (user : Actor)
  | googleCallback (newId : ObjectId) (google : Except String Site.GoogleTokens)
      (state : OAuthState)
  | disconnectGoogle (user : Actor)
  | admin (o : Oracle) (user : Actor) (request : AdminRequest)

/-- The services of the sessions; those of the accounts are requests of an admin. -/
def AccountAction.isSession : AccountAction → Bool
  | suspendUser _ | reactivateUser _ | deleteUser .. => false
  | _ => true

/-- The identities that the surroundings offer, when none of them is taken. -/
def Site.offering (s : Site) (ids : List ObjectId) (next : Site) : Option Site :=
  if ids.Nodup ∧ ∀ id ∈ ids, id ∉ s.platform.world.issuedIds then some (next.issue ids) else none

namespace Site

/-- A request of an account that is active. -/
def asUser {α : Type} (s : Site) (user : Actor) (call : Actor → Site → Reply α) : Reply α :=
  (s.reply (loadUser user s.platform)).andThen call

/-- A request of a consultant. -/
def asConsultant {α : Type} (s : Site) (user : Actor) (call : Actor → Site → Reply α) : Reply α :=
  (s.reply (authorize [.hr] user s.platform)).andThen call

/-- A call of a booking service for an active account. -/
def bookingRequest {α : Type} (s : Site) (o : Oracle) (user : Actor) (x : Actor → Service α) :
    Option Site :=
  if o.Fresh s.platform.world then
    some (s.asUser user fun actor s => s.call fun p => p.call (x actor)).2
  else none

/-- A write of the schedule of the consultant who asks. -/
def scheduleRequest (s : Site) (user : Actor) (f : ObjectId → World → World) : Site :=
  (s.asConsultant user fun actor s =>
    ({ s with platform := s.platform.onWorld (f actor.id) } : Site).reply (.ok ())).2

end Site

section

variable (env : Env)

/-- One action. -/
def SiteAction.exec (s : Site) : SiteAction → Option Site
  | session a =>
    if a.isSession then
      (a.exec env.crypto s.platform).map fun platform => { s with platform }
    else none
  | register newId salt input =>
    s.offering [newId] (s.call (HrBooking.register env.crypto newId salt input)).2
  | registerHr newId profileId salt input =>
    s.offering [newId, profileId]
      (s.onDirectory (HrBooking.registerHr env.crypto newId profileId salt input)).2
  | upsertProfile user newId input =>
    s.offering [newId] (s.asUser user fun actor s =>
      s.onDirectory (HrBooking.upsertProfile actor.id newId input)).2
  | submitProfile user =>
    some (s.asConsultant user fun actor s =>
      s.onDirectory (HrBooking.submitProfileForReview actor.id)).2
  | withdrawProfile user =>
    some (s.asConsultant user fun actor s =>
      s.onDirectory (HrBooking.withdrawProfile actor.id)).2
  | setAvailability user isAvailable =>
    some (s.asConsultant user fun actor s =>
      s.onDirectory (HrBooking.setAvailability actor.id isAvailable)).2
  | getAvailability user => some (s.scheduleRequest user getOrCreateAvailability)
  | updateAvailability user config =>
    some (s.scheduleRequest user fun id => HrBooking.updateAvailability id config)
  | createBooking o user input =>
    s.bookingRequest o user fun actor => HrBooking.createBooking env.calendar o actor input
  | rescheduleBooking o user bookingId input =>
    s.bookingRequest o user fun actor =>
      HrBooking.rescheduleBooking env.calendar o actor bookingId input
  | retryBookingMeeting o user bookingId =>
    s.bookingRequest o user fun actor => HrBooking.retryBookingMeeting o actor bookingId
  | runJob o name bookingId =>
    if o.Fresh s.platform.world then
      some (s.call fun p => p.call (name.handle o bookingId)).2
    else none
  | sweep => some { s with platform := s.platform.onWorld lifecycleSweep }
  | createReport user newId input =>
    s.offering [newId] (s.asUser user fun actor s => s.createReport newId actor.id input).2
  | connectGoogle user =>
    some (s.asConsultant user fun actor s => s.buildGoogleConnectUrl env actor.id).2
  | googleCallback newId google state =>
    s.offering [newId] (s.completeGoogleConnection env newId google state).2
  | disconnectGoogle user =>
    some (s.asConsultant user fun actor s => s.disconnectGoogle actor.id).2
  | admin o user request => s.offering [o.newId] (request.answer o user s).2

/-- The site as a machine. -/
def site : Machine Site SiteAction := ⟨fun s a => a.exec env s⟩

end

end HrBooking
