import HrBooking.Booking.Rules
import HrBooking.Profile.Onboarding

/-!
# The whole profile and its review

The `HRProfile` document with the content that a consultant writes and an admin reviews, and what
the operations of `services/hr-profile.service.ts` do to a document between loading and saving it.

* `HRProfileDocument` : the document; a booking reads its part `HRProfile`.
* `HRProfileDocument.assign` : the edit of `upsertProfile`.
* `ReviewRequest.revise` : submit, withdraw, approve and reject; each is allowed from some statuses
  and leads to one.
* `HRProfileDocument.saveOver` : a save writes the modified paths.
-/

namespace HrBooking

/-! ### Documents -/

/-- A certification of a consultant. -/
structure Certification where
  name : String
  issuer : Option String
  year : Option ℕ
  deriving DecidableEq

/-- A position a consultant held. -/
structure WorkHistoryEntry where
  company : String
  role : String
  startYear : ℕ
  endYear : Option ℕ
  description : Option String
  deriving DecidableEq

/-- The stored profile. -/
structure HRProfileDocument extends HRProfile where
  headline : String
  bio : String
  specializations : List String
  yearsOfExperience : ℕ
  companyName : Option String
  languages : List String
  city : Option String
  country : Option String
  profileImageUrl : Option String
  certifications : List Certification
  workHistory : List WorkHistoryEntry
  rejectionReason : Option String
  reviewedBy : Option ObjectId
  reviewedAt : Option ℤ
  deriving DecidableEq

/-- The index on `userId` is unique. -/
instance : Document HRProfileDocument ObjectId ObjectId :=
  ⟨fun profile => profile.id, fun profile => some profile.userId⟩

/-- The whole validated body of an upsert; an optional field may be left out. -/
structure UpsertProfileBody extends UpsertProfileInput where
  headline : String
  bio : String
  yearsOfExperience : ℕ
  companyName : Option String
  languages : List String
  city : Option String
  country : Option String
  profileImageUrl : Option String
  certifications : Option (List Certification)
  workHistory : Option (List WorkHistoryEntry)

/-- The reason of a rejection, as the schema bounds it. -/
abbrev RejectionReason := {s : String // 3 ≤ utf16Length s ∧ utf16Length s ≤ 500}

/-- What is reviewed of a profile. -/
structure ReviewedContent where
  headline : String
  bio : String
  specializations : List String
  yearsOfExperience : ℕ
  hourlyRateCents : ℕ
  certifications : List Certification
  workHistory : List WorkHistoryEntry
  deriving DecidableEq

namespace HRProfileDocument

/-- What is reviewed of the stored profile. -/
def content (profile : HRProfileDocument) : ReviewedContent where
  headline := profile.headline
  bio := profile.bio
  specializations := profile.specializations
  yearsOfExperience := profile.yearsOfExperience
  hourlyRateCents := profile.hourlyRateCents
  certifications := profile.certifications
  workHistory := profile.workHistory

/-- `Object.assign(existing, input)` : a field that is left out stays as it is. -/
def assign (existing : HRProfileDocument) (input : UpsertProfileBody) : HRProfileDocument :=
  { existing with
    headline := input.headline
    bio := input.bio
    specializations := input.specializations
    yearsOfExperience := input.yearsOfExperience
    companyName := input.companyName.or existing.companyName
    hourlyRateCents := input.hourlyRateCents
    currency := input.currency
    languages := input.languages
    city := input.city.or existing.city
    country := input.country.or existing.country
    profileImageUrl := input.profileImageUrl.or existing.profileImageUrl
    certifications := input.certifications.getD existing.certifications
    workHistory := input.workHistory.getD existing.workHistory }

theorem assign_toHRProfile (existing : HRProfileDocument) (input : UpsertProfileBody) :
    (existing.assign input).toHRProfile = existing.toHRProfile.assign input.toUpsertProfileInput :=
  rfl

/-- The document of a first profile. -/
def draft (id userId : ObjectId) (input : UpsertProfileBody) : HRProfileDocument where
  toHRProfile := draftProfile id userId input.toUpsertProfileInput
  headline := input.headline
  bio := input.bio
  specializations := input.specializations
  yearsOfExperience := input.yearsOfExperience
  companyName := input.companyName
  languages := input.languages
  city := input.city
  country := input.country
  profileImageUrl := input.profileImageUrl
  certifications := input.certifications.getD []
  workHistory := input.workHistory.getD []
  rejectionReason := none
  reviewedBy := none
  reviewedAt := none

/-- `profile.save()` : only modified paths are written. -/
def saveOver (loaded current stored : HRProfileDocument) : HRProfileDocument :=
  { stored with
    headline := savePath loaded.headline current.headline stored.headline
    bio := savePath loaded.bio current.bio stored.bio
    specializations :=
      savePath loaded.specializations current.specializations stored.specializations
    yearsOfExperience :=
      savePath loaded.yearsOfExperience current.yearsOfExperience stored.yearsOfExperience
    companyName := savePath loaded.companyName current.companyName stored.companyName
    hourlyRateCents :=
      savePath loaded.hourlyRateCents current.hourlyRateCents stored.hourlyRateCents
    currency := savePath loaded.currency current.currency stored.currency
    languages := savePath loaded.languages current.languages stored.languages
    city := savePath loaded.city current.city stored.city
    country := savePath loaded.country current.country stored.country
    profileImageUrl :=
      savePath loaded.profileImageUrl current.profileImageUrl stored.profileImageUrl
    certifications := savePath loaded.certifications current.certifications stored.certifications
    workHistory := savePath loaded.workHistory current.workHistory stored.workHistory
    status := savePath loaded.status current.status stored.status
    rejectionReason :=
      savePath loaded.rejectionReason current.rejectionReason stored.rejectionReason
    reviewedBy := savePath loaded.reviewedBy current.reviewedBy stored.reviewedBy
    reviewedAt := savePath loaded.reviewedAt current.reviewedAt stored.reviewedAt
    isAvailable := savePath loaded.isAvailable current.isAvailable stored.isAvailable }

variable {loaded current : HRProfileDocument}

theorem saveOver_self (hid : current.id = loaded.id) (howner : current.userId = loaded.userId) :
    loaded.saveOver current loaded = current := by
  unfold saveOver
  simp only [savePath_loaded, ← hid, ← howner]

end HRProfileDocument

/-! ### Review -/

/-- A request that changes the status of a profile. -/
inductive ReviewRequest where
  | submit (userId : ObjectId)
  | withdraw (userId : ObjectId)
  | approve (actor : Actor) (profileId : ObjectId)
  | reject (actor : Actor) (profileId : ObjectId) (reason : RejectionReason)

namespace ReviewRequest

/-- The statuses a request is allowed from. -/
def allowedFrom : ReviewRequest → List ProfileStatus
  | submit _ => [.draft, .rejected]
  | withdraw _ => [.pendingReview, .published]
  | approve .. => [.pendingReview]
  | reject .. => [.pendingReview, .published]

/-- The status a request leads to. -/
def target : ReviewRequest → ProfileStatus
  | submit _ => .pendingReview
  | withdraw _ => .draft
  | approve .. => .published
  | reject .. => .rejected

/-- The answer to a request that is not allowed. -/
def refusal : ReviewRequest → String
  | submit _ => "Only a draft or rejected profile can be submitted for review."
  | withdraw _ => "This profile cannot be withdrawn from its current state."
  | approve .. => "Only a profile pending review can be approved."
  | reject .. => "Only a pending or published profile can be rejected."

/-- `HRProfile.findOne` by the consultant, or `HRProfile.findById` by an admin. -/
def find? (profiles : Collection HRProfileDocument) : ReviewRequest → Option HRProfileDocument
  | submit userId | withdraw userId => profiles.findByKey userId
  | approve _ profileId | reject _ profileId _ => profiles.findById profileId

/-- The assignments to the loaded profile. -/
def assign (now : ℤ) (profile : HRProfileDocument) : ReviewRequest → HRProfileDocument
  | submit _ => { profile with status := .pendingReview, rejectionReason := none }
  | withdraw _ => { profile with status := .draft }
  | approve actor _ =>
    { profile with
      status := .published
      rejectionReason := none
      reviewedBy := some actor.id
      reviewedAt := some now }
  | reject actor _ reason =>
    { profile with
      status := .rejected
      rejectionReason := some reason
      reviewedBy := some actor.id
      reviewedAt := some now }

/-- The check and the assignments. -/
def revise (request : ReviewRequest) (now : ℤ) (profile : HRProfileDocument) :
    Except AppError HRProfileDocument :=
  if profile.status ∈ request.allowedFrom then .ok (request.assign now profile)
  else .error (.conflict request.refusal)

variable {request : ReviewRequest} {now : ℤ} {profile revised : HRProfileDocument}

theorem revise_eq_ok : request.revise now profile = .ok revised ↔
    profile.status ∈ request.allowedFrom ∧ revised = request.assign now profile := by
  unfold revise
  split_ifs with h
  · simp [h, eq_comm]
  · simp [h]

@[simp] theorem assign_id : (request.assign now profile).id = profile.id := by
  cases request <;> rfl

@[simp] theorem assign_userId : (request.assign now profile).userId = profile.userId := by
  cases request <;> rfl

@[simp] theorem assign_status : (request.assign now profile).status = request.target := by
  cases request <;> rfl

@[simp] theorem assign_content : (request.assign now profile).content = profile.content := by
  cases request <;> rfl

theorem target_notMem_allowedFrom : request.target ∉ request.allowedFrom := by
  cases request <;> simp [target, allowedFrom]

theorem find?_mem {profiles : Collection HRProfileDocument}
    (h : request.find? profiles = some profile) : profile ∈ profiles := by
  cases request with
  | submit | withdraw => exact (Collection.findByKey_eq_some.1 h).1
  | approve | reject => exact (Collection.findById_eq_some.1 h).1

end ReviewRequest

end HrBooking
