import HrBooking.Machine.Since
import HrBooking.Profile.Document

/-!
# Serial reviews

The profile services of `services/hr-profile.service.ts`, each as one call on the accounts and the
profiles.

* `Directory` : the state of the profile services.
* `ProfileCall` : a call with its answer; `profileCall_cases` says what it does.
* `reviews` : calls one after another, while time passes and the specializations on offer change.
* `profile_step` : what a step does to one profile, from which the invariants are derived.
* `review_invariants` : reason, reviewer and entry into publication agree with the status.
-/

namespace HrBooking

/-- The state of the profile services. -/
structure Directory where
  now : ℤ
  /-- The slugs of the specializations on offer. -/
  activeSlugs : List String
  users : Collection User
  profiles : Collection HRProfileDocument

/-! ### The services -/

/-- `profile.save()` ; a document that is gone cannot be saved. -/
def saveProfile (loaded current : HRProfileDocument) (d : Directory) :
    Except AppError HRProfileDocument × Directory :=
  match d.profiles.findById loaded.id with
  | none => (.error .internal, d)
  | some _ =>
    match d.profiles.update loaded.id (loaded.saveOver current) with
    | none => (.error .internal, d)
    | some profiles => (.ok current, { d with profiles })

/-- Load a profile, change it and save it. -/
def editProfile (found : Option HRProfileDocument)
    (edit : HRProfileDocument → Except AppError HRProfileDocument) (d : Directory) :
    Except AppError HRProfileDocument × Directory :=
  match found with
  | none => (.error (.notFound "Profile not found."), d)
  | some profile =>
    match edit profile with
    | .error e => (.error e, d)
    | .ok current => saveProfile profile current d

/-- A request that changes the status; e-mails and the audit log are left out. -/
def review (request : ReviewRequest) (d : Directory) :
    Except AppError HRProfileDocument × Directory :=
  editProfile (request.find? d.profiles) (request.revise d.now) d

/-- `submitProfileForReview` -/
def submitProfileForReview (userId : ObjectId) := review (.submit userId)

/-- `withdrawProfile` -/
def withdrawProfile (userId : ObjectId) := review (.withdraw userId)

/-- `approveProfile` -/
def approveProfile (actor : Actor) (profileId : ObjectId) := review (.approve actor profileId)

/-- `rejectProfile` -/
def rejectProfile (actor : Actor) (profileId : ObjectId) (reason : RejectionReason) :=
  review (.reject actor profileId reason)

/-- `setAvailability` -/
def setAvailability (userId : ObjectId) (isAvailable : Bool) (d : Directory) :
    Except AppError HRProfileDocument × Directory :=
  editProfile (d.profiles.findByKey userId) (fun profile => .ok { profile with isAvailable }) d

/-- `user.save()` of a role. -/
def Directory.saveRole (d : Directory) (user : User) (role : UserRole) : Directory :=
  { d with users := (d.users.update user.id fun u => u.withRole role).getD d.users }

/-- The first profile of an account, with the role; when the profile is not created, a role that was
written is taken back. -/
def createProfile (user : User) (newId : ObjectId) (input : UpsertProfileBody) (d : Directory) :
    Except AppError HRProfileDocument × Directory :=
  let upgraded := user.role ≠ .hr
  let d := if upgraded then d.saveRole user .hr else d
  match d.profiles.insert (.draft newId user.id input) with
  | none => (.error .internal, if upgraded then d.saveRole user .user else d)
  | some profiles => (.ok (.draft newId user.id input), { d with profiles })

/-- `upsertProfile` -/
def upsertProfile (userId newId : ObjectId) (input : UpsertProfileBody) (d : Directory) :
    Except AppError HRProfileDocument × Directory :=
  if ∀ slug ∈ input.specializations, slug ∈ d.activeSlugs then
    match d.profiles.findByKey userId with
    | some existing => saveProfile existing (existing.assign input) d
    | none =>
      match d.users.findById userId with
      | none => (.error (.notFound "Account not found."), d)
      | some user => createProfile user newId input d
  else (.error (.validation "One or more specializations are invalid or no longer offered."), d)

/-! ### Calls -/

/-- A call of a profile service. -/
inductive ProfileCall where
  | upsertProfile (userId newId : ObjectId) (input : UpsertProfileBody)
  | review (request : ReviewRequest)
  | setAvailability (userId : ObjectId) (isAvailable : Bool)

/-- What a call answers and the state it leaves. -/
def ProfileCall.answer (d : Directory) :
    ProfileCall → Except AppError HRProfileDocument × Directory
  | upsertProfile userId newId input => HrBooking.upsertProfile userId newId input d
  | review request => HrBooking.review request d
  | setAvailability userId isAvailable => HrBooking.setAvailability userId isAvailable d

/-- What a call makes of a profile that it finds. -/
inductive Revises (d : Directory) (p : HRProfileDocument) : ProfileCall → HRProfileDocument → Prop
  | upsert (newId : ObjectId) (input : UpsertProfileBody)
      (hslugs : ∀ slug ∈ input.specializations, slug ∈ d.activeSlugs) :
      Revises d p (.upsertProfile p.userId newId input) (p.assign input)
  | review (request : ReviewRequest) (hfind : request.find? d.profiles = some p)
      (hallowed : p.status ∈ request.allowedFrom) :
      Revises d p (.review request) (request.assign d.now p)
  | setAvailability (isAvailable : Bool) :
      Revises d p (.setAvailability p.userId isAvailable) { p with isAvailable }

/-- What a call does to the profiles: nothing, or it creates a draft, or it revises one. -/
inductive ProfileEffect (d : Directory) (call : ProfileCall) :
    Except AppError HRProfileDocument × Directory → Prop
  | refused {e : AppError} {d' : Directory} (h : d'.profiles = d.profiles) (hnow : d'.now = d.now) :
      ProfileEffect d call (.error e, d')
  | created {userId newId : ObjectId} {input : UpsertProfileBody} {d' : Directory}
      (hcall : call = .upsertProfile userId newId input) (hnow : d'.now = d.now)
      (h : d.profiles.insert (.draft newId userId input) = some d'.profiles) :
      ProfileEffect d call (.ok (.draft newId userId input), d')
  | revised {p p' : HRProfileDocument} {d' : Directory} (hp : p ∈ d.profiles)
      (hcall : Revises d p call p') (hnow : d'.now = d.now)
      (h : ∀ q, q ∈ d'.profiles ↔ q ∈ d.profiles ∧ q.id ≠ p.id ∨ q = p') :
      ProfileEffect d call (.ok p', d')

section Effect

variable {d : Directory} {p p' : HRProfileDocument}

/-- A stored profile is saved: the held document takes its place. -/
theorem saveProfile_of_mem (hp : p ∈ d.profiles) (hid : p'.id = p.id)
    (howner : p'.userId = p.userId) :
    ∃ profiles, saveProfile p p' d = (.ok p', { d with profiles }) ∧
      ∀ q, q ∈ profiles ↔ q ∈ d.profiles ∧ q.id ≠ p.id ∨ q = p' := by
  have hself := HRProfileDocument.saveOver_self hid howner
  obtain ⟨profiles, hupd, hmem⟩ := Collection.update_of_mem (f := p.saveOver p') hp rfl rfl
  rw [hself] at hmem
  have hfind : d.profiles.findById p.id = some p := Collection.findById_of_mem hp
  refine ⟨profiles, ?_, hmem⟩
  have hupd : d.profiles.update p.id (p.saveOver p') = some profiles := hupd
  simp only [saveProfile, hfind, hupd]

theorem saveProfile_effect {call : ProfileCall} (hp : p ∈ d.profiles) (hid : p'.id = p.id)
    (howner : p'.userId = p.userId) (hcall : Revises d p call p') :
    ProfileEffect d call (saveProfile p p' d) := by
  obtain ⟨profiles, hsave, hmem⟩ := saveProfile_of_mem hp hid howner
  rw [hsave]
  exact .revised hp hcall rfl hmem

theorem createProfile_effect (user : User) (newId : ObjectId) (input : UpsertProfileBody) :
    ProfileEffect d (.upsertProfile user.id newId input) (createProfile user newId input d) := by
  have hframe : ∀ (x y : Directory) (upgraded : Prop) [Decidable upgraded],
      x.profiles = d.profiles ∧ x.now = d.now → y.profiles = d.profiles ∧ y.now = d.now →
        (if upgraded then x else y).profiles = d.profiles ∧
          (if upgraded then x else y).now = d.now := by
    intro x y upgraded _ hx hy
    split_ifs
    · exact hx
    · exact hy
  have hrole := hframe (d.saveRole user .hr) d (user.role ≠ .hr) ⟨rfl, rfl⟩ ⟨rfl, rfl⟩
  unfold createProfile
  simp only
  generalize (if user.role ≠ .hr then d.saveRole user .hr else d) = d₁ at hrole
  cases hins : d₁.profiles.insert (.draft newId user.id input) with
  | none =>
    have hback := hframe (d₁.saveRole user .user) d₁ (user.role ≠ .hr) hrole hrole
    exact .refused hback.1 hback.2
  | some profiles =>
    refine .created rfl hrole.2 ?_
    rw [← hrole.1]
    exact hins

/-- **What a call does.** -/
theorem profileCall_cases (d : Directory) (call : ProfileCall) :
    ProfileEffect d call (call.answer d) := by
  cases call with
  | upsertProfile userId newId input =>
    simp only [ProfileCall.answer, HrBooking.upsertProfile]
    split_ifs with hslugs
    · cases hfind : d.profiles.findByKey userId with
      | some existing =>
        obtain ⟨hmem, hkey⟩ := Collection.findByKey_eq_some.1 hfind
        obtain rfl : existing.userId = userId := Option.some.inj hkey
        exact saveProfile_effect hmem rfl rfl (.upsert newId input hslugs)
      | none =>
        cases hfound : d.users.findById userId with
        | none => exact .refused rfl rfl
        | some user =>
          obtain ⟨-, rfl⟩ := Collection.findById_eq_some.1 hfound
          exact createProfile_effect user newId input
    · exact .refused rfl rfl
  | review request =>
    simp only [ProfileCall.answer, HrBooking.review, editProfile]
    cases hfind : request.find? d.profiles with
    | none => exact .refused rfl rfl
    | some profile =>
      simp only
      cases hrevise : request.revise d.now profile with
      | error e => exact .refused rfl rfl
      | ok current =>
        obtain ⟨hallowed, rfl⟩ := ReviewRequest.revise_eq_ok.1 hrevise
        exact saveProfile_effect (ReviewRequest.find?_mem hfind) ReviewRequest.assign_id
          ReviewRequest.assign_userId (.review request hfind hallowed)
  | setAvailability userId isAvailable =>
    simp only [ProfileCall.answer, HrBooking.setAvailability, editProfile]
    cases hfind : d.profiles.findByKey userId with
    | none => exact .refused rfl rfl
    | some profile =>
      obtain ⟨hmem, hkey⟩ := Collection.findByKey_eq_some.1 hfind
      obtain rfl : profile.userId = userId := Option.some.inj hkey
      exact saveProfile_effect hmem rfl rfl (.setAvailability isAvailable)

end Effect

/-! ### Runs -/

/-- A call, or a change of the surroundings. -/
inductive ProfileAction where
  | call (call : ProfileCall)
  | advance (ms : ℕ)
  | offer (slugs : List String)

/-- The identity of a new profile is not taken. -/
def ProfileCall.Fresh (d : Directory) : ProfileCall → Prop
  | upsertProfile _ newId _ => ∀ p ∈ d.profiles, p.id ≠ newId
  | _ => True

instance (d : Directory) (call : ProfileCall) : Decidable (call.Fresh d) := by
  unfold ProfileCall.Fresh
  split <;> infer_instance

/-- One action. -/
def ProfileAction.exec (d : Directory) : ProfileAction → Option Directory
  | .call c => if c.Fresh d then some (c.answer d).2 else none
  | .advance ms => some { d with now := d.now + ms }
  | .offer slugs => some { d with activeSlugs := slugs }

/-- Profile services, one after another. -/
def reviews : Machine Directory ProfileAction := ⟨fun d a => a.exec d⟩

/-- A profile as it is created. -/
structure HRProfileDocument.IsNew (p : HRProfileDocument) : Prop where
  status : p.status = .draft
  rejectionReason : p.rejectionReason = none

/-- Where a profile comes from: it was there, it has been created, or a call has revised it. -/
inductive ProfileStep (d : Directory) (a : ProfileAction) (p' : HRProfileDocument) : Prop
  | kept (h : p' ∈ d.profiles)
  | created (h : p'.IsNew) (hfresh : ∀ p ∈ d.profiles, p.id ≠ p'.id)
  | revised (p : HRProfileDocument) (hp : p ∈ d.profiles) (call : ProfileCall) (ha : a = .call call)
      (h : Revises d p call p')

section Step

variable {d d' : Directory} {a : ProfileAction} {p p' : HRProfileDocument}

/-- **What a step does to a profile.** -/
theorem profile_step (hstep : reviews.step d a = some d') (hp' : p' ∈ d'.profiles) :
    ProfileStep d a p' := by
  cases a with
  | advance | offer =>
    cases hstep
    exact .kept hp'
  | call call =>
    obtain ⟨hfresh, heq⟩ := Option.ite_none_right_eq_some.1 hstep
    obtain rfl : (call.answer d).2 = d' := Option.some.inj heq
    have heffect := profileCall_cases d call
    generalize call.answer d = answer at heffect hp'
    cases heffect with
    | refused h =>
      rw [h] at hp'
      exact .kept hp'
    | created hcall _ h =>
      subst hcall
      rcases (Collection.mem_insert h).1 hp' with hp' | rfl
      · exact .kept hp'
      · exact .created ⟨rfl, rfl⟩ hfresh
    | revised hp hcall _ h =>
      rcases (h p').1 hp' with ⟨hp', -⟩ | rfl
      · exact .kept hp'
      · exact .revised _ hp call rfl hcall

theorem profiles_of_error {call : ProfileCall} {e : AppError} (h : (call.answer d).1 = .error e) :
    (call.answer d).2.profiles = d.profiles := by
  have heffect := profileCall_cases d call
  generalize call.answer d = answer at heffect h ⊢
  cases heffect with
  | refused hprofiles => exact hprofiles
  | created | revised => cases h

theorem Revises.id_eq {call : ProfileCall} (h : Revises d p call p') : p'.id = p.id := by
  cases h with
  | upsert | setAvailability => rfl
  | review request => exact ReviewRequest.assign_id

end Step

/-! ### Review -/

/-- Who decides with the request. -/
def ReviewRequest.decider : ReviewRequest → Option ObjectId
  | approve actor _ | reject actor _ _ => some actor.id
  | _ => none

/-- The request is made and goes through on the profile. -/
def IsGranted (id : ObjectId) (request : ReviewRequest) (d : Directory) (a : ProfileAction) :
    Prop :=
  a = .call (.review request) ∧
    ∃ p ∈ d.profiles, p.id = id ∧ request.find? d.profiles = some p ∧
      p.status ∈ request.allowedFrom

/-- The profile is submitted for review. -/
def Submits (id : ObjectId) (d : Directory) (a : ProfileAction) : Prop :=
  ∃ userId, IsGranted id (.submit userId) d a

/-- An admin brings the profile into the status, at a time. -/
def Decides (id : ObjectId) (status : ProfileStatus) (admin : ObjectId) (time : ℤ) (d : Directory)
    (a : ProfileAction) : Prop :=
  ∃ request, IsGranted id request d a ∧ request.target = status ∧
    request.decider = some admin ∧ d.now = time

/-- The profile has the status. -/
def HasStatus (id : ObjectId) (status : ProfileStatus) (d : Directory) : Prop :=
  ∃ p ∈ d.profiles, p.id = id ∧ p.status = status

/-- **What the history of a profile has to do with its status.** -/
structure Reviewed (d₀ : Directory) (as : List ProfileAction) (p : HRProfileDocument) : Prop where
  reason_iff : p.rejectionReason.isSome ↔ p.status = .rejected
  /-- Whoever decided last is the reviewer. -/
  decided : p.status = .published ∨ p.status = .rejected →
    ∃ admin time, p.reviewedBy = some admin ∧ p.reviewedAt = some time ∧
      reviews.Since (Decides p.id p.status admin time) (fun d _ => HasStatus p.id p.status d) d₀ as
  submitted : p.status = .pendingReview →
    reviews.Since (Submits p.id) (fun d _ => HasStatus p.id .pendingReview d) d₀ as

section Run

variable {d₀ d d' : Directory} {as : List ProfileAction} {a : ProfileAction}
  {p p' : HRProfileDocument}

theorem HRProfileDocument.IsNew.reviewed (h : p.IsNew) : Reviewed d₀ as p where
  reason_iff := by simp [h.status, h.rejectionReason]
  decided hstatus := by simp [h.status] at hstatus
  submitted hstatus := by simp [h.status] at hstatus

theorem Reviewed.keep (h : Reviewed d₀ as p) (hrun : reviews.run d₀ as = some d)
    (hstep : reviews.step d a = some d') (hp : p ∈ d.profiles) (hid : p'.id = p.id)
    (hstatus : p'.status = p.status) (hreason : p'.rejectionReason = p.rejectionReason)
    (hby : p'.reviewedBy = p.reviewedBy) (hat : p'.reviewedAt = p.reviewedAt) :
    Reviewed d₀ (as ++ [a]) p' := by
  have hhas : ∀ status, p.status = status → HasStatus p.id status d :=
    fun status hs => ⟨p, hp, rfl, hs⟩
  refine ⟨by rw [hreason, hstatus, h.reason_iff], fun hs => ?_, fun hs => ?_⟩
  · rw [hstatus] at hs
    obtain ⟨admin, time, hadmin, htime, hsince⟩ := h.decided hs
    refine ⟨admin, time, hby.trans hadmin, hat.trans htime, ?_⟩
    rw [hid, hstatus]
    exact (Machine.since_concat hrun hstep).2 (.inr ⟨hsince, hhas _ rfl⟩)
  · rw [hstatus] at hs
    rw [hid]
    exact (Machine.since_concat hrun hstep).2 (.inr ⟨h.submitted hs, hhas _ hs⟩)

theorem reviewed_assign {request : ReviewRequest} (h : Reviewed d₀ as p)
    (hrun : reviews.run d₀ as = some d)
    (hstep : reviews.step d (.call (.review request)) = some d')
    (hthrough : IsGranted p.id request d (.call (.review request)))
    (hallowed : p.status ∈ request.allowedFrom) :
    Reviewed d₀ (as ++ [.call (.review request)]) (request.assign d.now p) := by
  have hdecides : ∀ admin, request.decider = some admin →
      reviews.Since (Decides p.id request.target admin d.now)
        (fun d _ => HasStatus p.id request.target d) d₀ (as ++ [.call (.review request)]) :=
    fun admin hadmin =>
      (Machine.since_concat hrun hstep).2 (.inl ⟨request, hthrough, rfl, hadmin, rfl⟩)
  cases request with
  | submit userId =>
    refine ⟨by simp [ReviewRequest.assign], fun hs => by simp [ReviewRequest.assign] at hs, ?_⟩
    exact fun _ => (Machine.since_concat hrun hstep).2 (.inl ⟨userId, hthrough⟩)
  | withdraw userId =>
    -- nothing that may be withdrawn carries a reason
    have hnone : p.rejectionReason.isSome = false := by
      rw [Bool.eq_false_iff, ne_eq, h.reason_iff]
      rintro hs
      simp [ReviewRequest.allowedFrom, hs] at hallowed
    refine ⟨by simp [ReviewRequest.assign, hnone], fun hs => ?_, fun hs => ?_⟩ <;>
      simp [ReviewRequest.assign] at hs
  | approve actor profileId =>
    refine ⟨by simp [ReviewRequest.assign], fun _ => ?_, fun hs => ?_⟩
    · exact ⟨actor.id, d.now, rfl, rfl, hdecides actor.id rfl⟩
    · simp [ReviewRequest.assign] at hs
  | reject actor profileId reason =>
    refine ⟨by simp [ReviewRequest.assign], fun _ => ?_, fun hs => ?_⟩
    · exact ⟨actor.id, d.now, rfl, rfl, hdecides actor.id rfl⟩
    · simp [ReviewRequest.assign] at hs

theorem reviewed_step (h : ∀ p ∈ d.profiles, Reviewed d₀ as p) (hrun : reviews.run d₀ as = some d)
    (hstep : reviews.step d a = some d') : ∀ p ∈ d'.profiles, Reviewed d₀ (as ++ [a]) p := by
  intro p' hp'
  cases profile_step hstep hp' with
  | kept hp => exact (h p' hp).keep hrun hstep hp rfl rfl rfl rfl rfl
  | created hnew _ => exact hnew.reviewed
  | revised p hp call ha hrev =>
    subst ha
    cases hrev with
    | upsert | setAvailability => exact (h p hp).keep hrun hstep hp rfl rfl rfl rfl rfl
    | review request hfind hallowed =>
      exact reviewed_assign (h p hp) hrun hstep ⟨rfl, p, hp, rfl, hfind, hallowed⟩ hallowed

theorem publishes_cases (h : ∀ p ∈ d.profiles, Reviewed d₀ as p)
    (hstep : reviews.step d a = some d') (hp' : p' ∈ d'.profiles) (hstatus : p'.status = .published)
    (hbefore : ¬ HasStatus p'.id .published d) :
    ∃ actor, a = .call (.review (.approve actor p'.id)) ∧ HasStatus p'.id .pendingReview d ∧
      reviews.Since (Submits p'.id) (fun d _ => HasStatus p'.id .pendingReview d) d₀ as := by
  cases profile_step hstep hp' with
  | kept hp => exact absurd ⟨p', hp, rfl, hstatus⟩ hbefore
  | created hnew _ => exact absurd (hstatus.symm.trans hnew.status) (by decide)
  | revised p hp call ha hrev =>
    subst ha
    cases hrev with
    | upsert | setAvailability => exact absurd ⟨p, hp, rfl, hstatus⟩ hbefore
    | review request hfind hallowed =>
      rw [ReviewRequest.assign_status] at hstatus
      rw [ReviewRequest.assign_id]
      cases request with
      | submit | withdraw | reject => cases hstatus
      | approve actor profileId =>
        obtain ⟨-, rfl⟩ := Collection.findById_eq_some.1 hfind
        have hpending : p.status = .pendingReview := List.mem_singleton.1 hallowed
        exact ⟨actor, rfl, ⟨p, hp, rfl, hpending⟩, (h p hp).submitted hpending⟩

theorem reviewed_run (hinit : ∀ p ∈ d₀.profiles, p.IsNew) (hrun : reviews.run d₀ as = some d) :
    ∀ p ∈ d.profiles, Reviewed d₀ as p :=
  Machine.run_history (I := fun as d => ∀ p ∈ d.profiles, Reviewed d₀ as p)
    (G := fun _ _ => True) (fun p hp => (hinit p hp).reviewed)
    (fun _ _ _ _ hrun h _ hstep => reviewed_step h hrun hstep)
    (Machine.meets_of_forall (fun _ _ => trivial) d₀ as) hrun

/-- **The review state machine.**  In every state of a serial run a reason is present exactly when
the profile is rejected; a published or rejected profile names who brought it there, and when; only
the approval of a profile that has been pending since its submission publishes it; and a call that
throws changes no profile. -/
theorem review_invariants (hinit : ∀ p ∈ d₀.profiles, p.IsNew)
    (hrun : reviews.run d₀ as = some d) :
    (∀ p ∈ d.profiles, (p.rejectionReason.isSome ↔ p.status = .rejected) ∧
      (p.status = .published ∨ p.status = .rejected →
        ∃ admin time, p.reviewedBy = some admin ∧ p.reviewedAt = some time ∧
          reviews.Since (Decides p.id p.status admin time) (fun d _ => HasStatus p.id p.status d)
            d₀ as)) ∧
    (∀ a d', reviews.step d a = some d' → ∀ p' ∈ d'.profiles, p'.status = .published →
      ¬ HasStatus p'.id .published d →
        ∃ actor, a = .call (.review (.approve actor p'.id)) ∧ HasStatus p'.id .pendingReview d ∧
          reviews.Since (Submits p'.id) (fun d _ => HasStatus p'.id .pendingReview d) d₀ as) ∧
    ∀ (call : ProfileCall) (e : AppError), (call.answer d).1 = .error e →
      (call.answer d).2.profiles = d.profiles := by
  have hall := reviewed_run hinit hrun
  refine ⟨fun p hp => ⟨(hall p hp).reason_iff, (hall p hp).decided⟩, ?_, ?_⟩
  · intro a d' hstep p' hp' hstatus hbefore
    exact publishes_cases hall hstep hp' hstatus hbefore
  · intro call e herror
    exact profiles_of_error herror

end Run

/-! ### A profile that is rejected and published -/

/-- The body of a profile. -/
def profileBody (headline : String) : UpsertProfileBody where
  specializations := ["RECRUITMENT"]
  hourlyRateCents := 5000
  currency := .usd
  headline := headline
  bio := "Ten years of hiring."
  yearsOfExperience := 10
  companyName := none
  languages := ["English"]
  city := none
  country := none
  profileImageUrl := none
  certifications := none
  workHistory := none

/-- Account 1 has no profile yet. -/
def emptyDirectory : Directory where
  now := 0
  activeSlugs := ["RECRUITMENT"]
  users := ⟨[⟨1, "one@example.com", "", "", "", .user, .active, true, 0, none⟩],
    List.pairwise_singleton _ _⟩
  profiles := .empty

/-- The admin who reviews. -/
def reviewer : Actor := ⟨9, .admin⟩

/-- The profile is created, submitted, rejected, edited, submitted again and approved. -/
def reviewedTwice : List ProfileAction :=
  [.call (.upsertProfile 1 5 (profileBody "HR")), .call (.review (.submit 1)), .advance 1000,
    .call (.review (.reject reviewer 5 ⟨"Too short.", by decide +kernel⟩)),
    .call (.upsertProfile 1 6 (profileBody "HR consultant")), .call (.review (.submit 1)),
    .advance 1000, .call (.review (.approve reviewer 5))]

theorem reviewedTwice_isSome : (reviews.run emptyDirectory reviewedTwice).isSome = true := by
  decide +kernel

/-- The state after `reviewedTwice`. -/
def publishedDirectory : Directory :=
  (reviews.run emptyDirectory reviewedTwice).get reviewedTwice_isSome

theorem reviewedTwice_eq : reviews.run emptyDirectory reviewedTwice = some publishedDirectory :=
  (Option.some_get _).symm

/-- The profile is published, and its first rejection has left no reason. -/
theorem review_invariants_published :
    HasStatus 5 .published publishedDirectory ∧
      ∀ p ∈ publishedDirectory.profiles, p.rejectionReason.isSome ↔ p.status = .rejected := by
  refine ⟨by unfold HasStatus; decide +kernel, fun p hp => ?_⟩
  exact ((review_invariants (fun q hq => absurd hq (Collection.not_mem_empty q))
    reviewedTwice_eq).1 p hp).1

end HrBooking
