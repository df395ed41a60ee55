import HrBooking.Site.Record

/-!
# The services of reports, specializations and administration

`services/report.service.ts`, `services/specialization.service.ts`, `services/oauth.service.ts`,
`registerHr` of `services/auth.service.ts` and what the audit log gains by the services of
`services/admin-user.service.ts` and `services/hr-profile.service.ts`, each as one call on the site.
-/

namespace HrBooking

/-! ### Registration -/

/-- The validated body of a consultant's registration. -/
structure RegisterHrInput extends RegisterInput where
  profileImageUrl : Option String
  headline : String
  bio : String
  specializations : List String
  yearsOfExperience : ℕ
  companyName : String
  hourlyRateCents : ℕ
  currency : Currency
  languages : List String
  city : Option String
  country : Option String
  workHistory : List WorkHistoryEntry

/-- What the profile of a new consultant is created from. -/
def RegisterHrInput.profile (input : RegisterHrInput) : UpsertProfileBody where
  headline := input.headline
  bio := input.bio
  specializations := input.specializations
  yearsOfExperience := input.yearsOfExperience
  companyName := some input.companyName
  hourlyRateCents := input.hourlyRateCents
  currency := input.currency
  languages := input.languages
  city := input.city
  country := input.country
  profileImageUrl := input.profileImageUrl
  certifications := none
  workHistory := some input.workHistory

section

variable (cr : Crypto)

/-- The document of a new consultant's account. -/
def newConsultant (newId : ObjectId) (salt : ℕ) (input : RegisterHrInput) : User :=
  { newUser cr newId salt input.toRegisterInput with role := .hr, isEmailVerified := true }

/-- `registerHr` ; when the profile is not created, the account is deleted again. -/
def registerHr (newId profileId : ObjectId) (salt : ℕ) (input : RegisterHrInput)
    (d : Directory) : Except AppError User × Directory :=
  match d.users.findByKey (toLowerCase input.email) with
  | some _ => (.error (.conflict "An account with this email already exists."), d)
  | none =>
    if ∀ slug ∈ input.specializations, slug ∈ d.activeSlugs then
      match d.users.insert (newConsultant cr newId salt input) with
      | none => (.error .internal, d)
      | some users =>
        match d.profiles.insert (.draft profileId newId input.profile) with
        | none => (.error .internal, { d with users := users.delete fun user => user.id = newId })
        | some profiles => (.ok (newConsultant cr newId salt input), { d with users, profiles })
    else
      (.error (.validation "One or more specializations are invalid or no longer offered."), d)

end

/-! ### Schedules -/

/-- `getOrCreateAvailability` -/
def getOrCreateAvailability (hrUserId : ObjectId) (w : World) : World :=
  match w.availabilities hrUserId with
  | some _ => w
  | none =>
    { w with
      availabilities := Function.update w.availabilities hrUserId (some (.default hrUserId)) }

namespace Site

/-! ### Reports -/

/-- The validated body of a report. -/
structure CreateReportInput where
  hrProfileId : ObjectId
  reason : ReportReason
  details : Option (BoundedText 0 500)

/-- The document of a new report. -/
def newReport (newId actorId : ObjectId) (profile : HRProfileDocument) (input : CreateReportInput) :
    Report where
  id := newId
  reporterId := actorId
  hrProfileId := input.hrProfileId
  hrUserId := profile.userId
  reason := input.reason
  details := input.details
  status := .pending
  resolvedBy := none
  resolvedAt := none
  resolutionNotes := none

/-- The checks of `createReport`. -/
def reportable (actorId : ObjectId) (input : CreateReportInput) (s : Site) :
    Except AppError HRProfileDocument :=
  match s.documents.findById input.hrProfileId with
  | none => .error (.notFound "Profile not found.")
  | some profile =>
    if profile.userId = actorId then
      .error (.badRequest "You cannot report your own profile.")
    else if ∃ r ∈ s.reports, r.reporterId = actorId ∧ r.hrProfileId = input.hrProfileId ∧
        r.status = .pending then
      .error (.conflict "You already have a pending report for this profile.")
    else .ok profile

/-- `createReport` -/
def createReport (newId actorId : ObjectId) (input : CreateReportInput) (s : Site) :
    Reply Report :=
  (s.reply (reportable actorId input s)).andThen fun profile s =>
    match s.reports.insert (newReport newId actorId profile input) with
    | none => s.reply (.error .internal)
    | some reports =>
      ({ s with reports } : Site).reply (.ok (newReport newId actorId profile input))

/-- How a report is resolved. -/
inductive Resolution where
  | dismissed | actioned
  deriving DecidableEq

/-- The status of a report that is resolved so. -/
def Resolution.status : Resolution → ReportStatus
  | dismissed => .dismissed
  | actioned => .actioned

/-- The status, as the audit log has it. -/
def Resolution.text : Resolution → String
  | dismissed => "DISMISSED"
  | actioned => "ACTIONED"

/-- The validated body of a resolution. -/
structure ResolveReportInput where
  status : Resolution
  notes : Option (BoundedText 0 500)

/-- The assignments of `resolveReport`. -/
def resolved (actorId : ObjectId) (now : ℤ) (input : ResolveReportInput) (report : Report) :
    Report :=
  { report with
    status := input.status.status
    resolvedBy := some actorId
    resolvedAt := some now
    resolutionNotes := input.notes }

/-- `report.save()` : only modified paths are written. -/
def saveOverReport (loaded current stored : Report) : Report :=
  { stored with
    status := savePath loaded.status current.status stored.status
    resolvedBy := savePath loaded.resolvedBy current.resolvedBy stored.resolvedBy
    resolvedAt := savePath loaded.resolvedAt current.resolvedAt stored.resolvedAt
    resolutionNotes :=
      savePath loaded.resolutionNotes current.resolutionNotes stored.resolutionNotes }

/-- The checks of `resolveReport`. -/
def resolvable (found : Option Report) : Except AppError Report :=
  match found with
  | none => .error (.notFound "Report not found.")
  | some report =>
    if report.status ≠ .pending then
      .error (.conflict "This report has already been resolved.")
    else .ok report

/-- `resolveReport` -/
def resolveReport (auditFails : Bool) (actor : Actor) (reportId : ObjectId)
    (input : ResolveReportInput) (s : Site) : Reply Report :=
  Reply.recorded
    ((s.reply (resolvable (s.reports.findById reportId))).andThen fun report s =>
      let current := resolved actor.id s.platform.world.now input report
      (s.reply (s.reports.save report.id (saveOverReport report current))).andThen
        fun reports s => ({ s with reports } : Site).reply (.ok current))
    auditFails fun report =>
      ⟨actor.id, actor.role, .reportResolved, .report, report.id,
        [("status", input.status.text), ("hrProfileId", report.hrProfileId.text)]⟩

/-! ### Specializations -/

/-- `toUpperCase` on a slug, which has ASCII characters only. -/
def toUpperCase (slug : String) : String := String.ofList (slug.toList.map Char.toUpper)

/-- The validated body of a new specialization. -/
structure CreateSpecializationInput where
  slug : String
  name : BoundedText 2 60
  description : Option (BoundedText 0 300)

/-- The document of a new specialization; the schema stores the slug in upper case. -/
def newSpecialization (newId : ObjectId) (input : CreateSpecializationInput) : Specialization where
  id := newId
  slug := toUpperCase input.slug
  name := input.name
  description := input.description
  isActive := true

/-- `createSpecialization` -/
def createSpecialization (newId : ObjectId) (input : CreateSpecializationInput) (s : Site) :
    Reply Specialization :=
  match s.specializations.findByKey (toUpperCase input.slug) with
  | some _ => s.reply (.error (.conflict "A specialization with this slug already exists."))
  | none =>
    match s.specializations.insert (newSpecialization newId input) with
    | none => s.reply (.error .internal)
    | some specializations =>
      ({ s with specializations } : Site).reply (.ok (newSpecialization newId input))

/-- The validated body of an update; a field may be left out. -/
structure UpdateSpecializationInput where
  name : Option (BoundedText 2 60)
  description : Option (BoundedText 0 300)
  isActive : Option Bool

/-- The assignments of `updateSpecialization`. -/
def updated (input : UpdateSpecializationInput) (specialization : Specialization) :
    Specialization :=
  { specialization with
    name := input.name.getD specialization.name
    description := input.description.or specialization.description
    isActive := input.isActive.getD specialization.isActive }

/-- `specialization.save()` : only modified paths are written. -/
def saveOverSpecialization (loaded current stored : Specialization) : Specialization :=
  { stored with
    name := savePath loaded.name current.name stored.name
    description := savePath loaded.description current.description stored.description
    isActive := savePath loaded.isActive current.isActive stored.isActive }

/-- `Specialization.findById`, answered with an error when there is none. -/
def findSpecialization (id : ObjectId) (s : Site) : Except AppError Specialization :=
  match s.specializations.findById id with
  | none => .error (.notFound "Specialization not found.")
  | some specialization => .ok specialization

/-- `updateSpecialization` -/
def updateSpecialization (id : ObjectId) (input : UpdateSpecializationInput) (s : Site) :
    Reply Specialization :=
  (s.reply (findSpecialization id s)).andThen fun specialization s =>
    let current := updated input specialization
    (s.reply (s.specializations.save specialization.id
      (saveOverSpecialization specialization current))).andThen fun specializations s =>
        ({ s with specializations } : Site).reply (.ok current)

/-- The number of profiles that name the slug. -/
def inUse (slug : String) (s : Site) : ℕ :=
  (s.documents.docs.filter fun profile => slug ∈ profile.specializations).length

/-- What a specialization in use is answered with. -/
def inUseText (n : ℕ) : String :=
  toString n ++
    " HR profile(s) still use this specialization. Deactivate it instead of deleting."

/-- `deleteSpecialization` -/
def deleteSpecialization (id : ObjectId) (s : Site) : Reply Unit :=
  (s.reply (findSpecialization id s)).andThen fun specialization s =>
    if 0 < s.inUse specialization.slug then
      s.reply (.error (.conflict (inUseText (s.inUse specialization.slug))))
    else
      ({ s with
        specializations :=
          s.specializations.delete fun d => d.id = specialization.id } : Site).reply (.ok ())

/-! ### Calendar connections -/

/-- `GOOGLE_OAUTH.STATE_TTL`, in seconds. -/
def stateTtlSeconds : ℤ := 10 * 60

/-- `signGenericToken` of the state, in whole seconds. -/
def signState (userId : ObjectId) (now : ℤ) : OAuthState := ⟨userId, now / 1000 + stateTtlSeconds⟩

/-- `verifyGenericToken` : the state has been signed here and has not expired. -/
def Verifies (state : OAuthState) (s : Site) : Prop :=
  state ∈ s.states ∧ s.platform.world.now / 1000 < state.exp

instance (state : OAuthState) (s : Site) : Decidable (Verifies state s) :=
  inferInstanceAs (Decidable (_ ∧ _))

/-- What is answered without the credentials of the integration. -/
def notConfiguredText : String := "Google integration is not configured on this server."

section

variable (env : Env)

/-- `buildGoogleConnectUrl` -/
def buildGoogleConnectUrl (userId : ObjectId) (s : Site) : Reply OAuthState :=
  if env.isGoogleConfigured then
    let state := signState userId s.platform.world.now
    ({ s with states := state :: s.states } : Site).reply (.ok state)
  else s.reply (.error (.integrationUnavailable notConfiguredText))

/-- What Google answers to the exchange of a code, as far as it decides what is stored. -/
structure GoogleTokens where
  refreshToken : Option String
  deriving DecidableEq

/-- Why a connection is not completed. -/
structure OAuthConnectionError where
  reason : String
  message : String
  deriving DecidableEq

/-- The connection is stored with a refresh token: Google has given one, or there is one from
before, since a stored connection has one. -/
def HasRefreshToken (tokens : GoogleTokens) (existing : Option OAuthAccount) : Prop :=
  (tokens.refreshToken.filter fun token => token ≠ "").isSome ∨ existing.isSome

instance (tokens : GoogleTokens) (existing : Option OAuthAccount) :
    Decidable (HasRefreshToken tokens existing) := inferInstanceAs (Decidable (_ ∨ _))

/-- The answer when no refresh token is left. -/
def missingRefreshToken : OAuthConnectionError where
  reason := "missing_refresh_token"
  message := "Google did not return a refresh token. Remove the app from your Google account " ++
    "permissions and try again."

/-- `findOneAndUpdate` with `upsert` of the connection. -/
def upsertConnection (newId userId : ObjectId) (s : Site) :
    Except OAuthConnectionError OAuthAccount × Site :=
  match s.platform.oauthAccounts.findByKey userId with
  | some account => (.ok account, s)
  | none =>
    match s.platform.oauthAccounts.insert ⟨newId, userId, "primary"⟩ with
    | none => (.error ⟨"unexpected_error", AppError.internal.message⟩, s)
    | some oauthAccounts =>
      (.ok ⟨newId, userId, "primary"⟩, { s with platform := { s.platform with oauthAccounts } })

/-- `completeGoogleConnection`, with what Google answers; an error of Google has a text. -/
def completeGoogleConnection (newId : ObjectId) (google : Except String GoogleTokens)
    (state : OAuthState) (s : Site) : Except OAuthConnectionError OAuthAccount × Site :=
  if Verifies state s then
    if env.isGoogleConfigured then
      match google with
      | .error message => (.error ⟨"google_error", message⟩, s)
      | .ok tokens =>
        if HasRefreshToken tokens (s.platform.oauthAccounts.findByKey state.userId) then
          upsertConnection newId state.userId s
        else (.error missingRefreshToken, s)
    else (.error ⟨"google_error", notConfiguredText⟩, s)
  else (.error ⟨"invalid_state", "The authorisation request expired."⟩, s)

end

/-- `disconnectGoogle` -/
def disconnectGoogle (userId : ObjectId) (s : Site) : Reply Unit :=
  match s.platform.oauthAccounts.findByKey userId with
  | none => s.reply (.error (.notFound "No Google account is connected."))
  | some account =>
    ({ s with
      platform := { s.platform with
        oauthAccounts :=
          s.platform.oauthAccounts.delete fun d => d.id = account.id } } : Site).reply (.ok ())

/-! ### Administration -/

section

variable (auditFails : Bool) (actor : Actor)

/-- `suspendUser`, with its entry. -/
def suspendUser (userId : ObjectId) (reason : BoundedText 3 300) (s : Site) : Reply User :=
  (s.call (HrBooking.suspendUser userId)).recorded auditFails fun user =>
    ⟨actor.id, actor.role, .userSuspended, .user, user.id, [("reason", reason.val)]⟩

/-- `reactivateUser`, with its entry. -/
def reactivateUser (userId : ObjectId) (s : Site) : Reply User :=
  (s.call (HrBooking.reactivateUser userId)).recorded auditFails fun user =>
    ⟨actor.id, actor.role, .userReactivated, .user, user.id, []⟩

/-- `Report.deleteMany` -/
def deleteReports (userId : ObjectId) (s : Site) : Site :=
  { s with reports := s.reports.delete fun r => r.reporterId = userId ∨ r.hrUserId = userId }

/-- `HRProfile.deleteMany` of the content. -/
def deleteDocument (userId : ObjectId) (s : Site) : Site :=
  { s with documents := s.documents.delete fun profile => profile.userId = userId }

/-- `deleteUser`, with the reports, the content of the profile and the entry. -/
def deleteUser (o : ObjectId → Oracle) (userId : ObjectId) (s : Site) :
    Reply DeletedUserSummary :=
  let isConsultant := decide (s.HasConsultant userId)
  Reply.recorded
    ((s.call (HrBooking.deleteUser o actor userId)).andThen fun summary s =>
      let s := s.deleteReports userId
      (if isConsultant then s.deleteDocument userId else s).reply (.ok summary))
    auditFails fun summary =>
      ⟨actor.id, actor.role, .userDeleted, .user, userId, [("email", summary.email)]⟩

/-- `approveProfile`, with its entry. -/
def approveProfile (profileId : ObjectId) (s : Site) : Reply HRProfileDocument :=
  (s.onDirectory (HrBooking.approveProfile actor profileId)).recorded auditFails fun profile =>
    ⟨actor.id, actor.role, .hrProfileApproved, .hrProfile, profile.id, []⟩

/-- `rejectProfile`, with its entry. -/
def rejectProfile (profileId : ObjectId) (reason : RejectionReason) (s : Site) :
    Reply HRProfileDocument :=
  (s.onDirectory (HrBooking.rejectProfile actor profileId reason)).recorded auditFails
    fun profile =>
      ⟨actor.id, actor.role, .hrProfileRejected, .hrProfile, profile.id, [("reason", reason.val)]⟩

end

end Site

end HrBooking
