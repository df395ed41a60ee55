import HrBooking.Profile.Review

/-!
# Whether only reviewed content is public

An admin approves what was submitted, and `upsertProfile` edits a profile in any status.  So an edit
after the submission is approved unseen, and an edit after the approval is public at once.

* `PublishedAs` : the profile was approved after a submission with this content, and has been public
  since.
* `EditsInDraft` : what is reviewed is edited only while the profile is a draft or rejected.
* `published_reviewed` : then what is public has been reviewed.
* `not_published_reviewed` : otherwise it need not have been.
-/

namespace HrBooking

/-- The profile has the content. -/
def HasContent (id : ObjectId) (content : ReviewedContent) (d : Directory) : Prop :=
  ∃ p ∈ d.profiles, p.id = id ∧ p.content = content

instance (id : ObjectId) (content : ReviewedContent) (d : Directory) :
    Decidable (HasContent id content d) :=
  inferInstanceAs (Decidable (∃ p ∈ d.profiles, p.id = id ∧ p.content = content))

/-- The last submission of the profile was one with the content. -/
def SubmittedAs (d₀ : Directory) (as : List ProfileAction) (id : ObjectId)
    (content : ReviewedContent) : Prop :=
  reviews.Since (fun d a => Submits id d a ∧ HasContent id content d)
    (fun d a => ¬ Submits id d a) d₀ as

/-- The profile was approved, its last submission before being one with the content, and has been
published ever since. -/
def PublishedAs (d₀ : Directory) (as : List ProfileAction) (id : ObjectId)
    (content : ReviewedContent) : Prop :=
  ∃ pre actor post d d', as = pre ++ .call (.review (.approve actor id)) :: post ∧
    reviews.run d₀ pre = some d ∧ HasStatus id .pendingReview d ∧ SubmittedAs d₀ pre id content ∧
    reviews.step d (.call (.review (.approve actor id))) = some d' ∧
    reviews.Meets (fun d _ => HasStatus id .published d) d' post

/-- What is reviewed is edited only while the profile is a draft or rejected. -/
def EditsInDraft (d : Directory) : ProfileAction → Prop
  | .call (.upsertProfile userId _ input) =>
    (∀ slug ∈ input.specializations, slug ∈ d.activeSlugs) → ∀ p ∈ d.profiles,
      p.userId = userId → (p.assign input).content ≠ p.content →
        p.status = .draft ∨ p.status = .rejected
  | _ => True

instance (d : Directory) (a : ProfileAction) : Decidable (EditsInDraft d a) := by
  unfold EditsInDraft
  split <;> infer_instance

/-- **What the history of a profile has to do with its content.** -/
structure ContentReviewed (d₀ : Directory) (as : List ProfileAction) (p : HRProfileDocument) :
    Prop where
  submitted : p.status = .pendingReview → SubmittedAs d₀ as p.id p.content
  published : p.status = .published → PublishedAs d₀ as p.id p.content

section Run

variable {d₀ d d' : Directory} {as : List ProfileAction} {a : ProfileAction}
  {p p' : HRProfileDocument} {id : ObjectId} {content : ReviewedContent}

theorem Submits.status (h : Submits p.id d a) (hp : p ∈ d.profiles) :
    p.status = .draft ∨ p.status = .rejected := by
  obtain ⟨userId, -, q, hq, hid, -, hallowed⟩ := h
  obtain rfl : q = p := Collection.eq_of_docId hq hp hid
  simpa [ReviewRequest.allowedFrom] using hallowed

theorem PublishedAs.concat (h : PublishedAs d₀ as id content) (hrun : reviews.run d₀ as = some d)
    (hstatus : HasStatus id .published d) : PublishedAs d₀ (as ++ [a]) id content := by
  obtain ⟨pre, actor, post, t, u, rfl, hpre, hpending, hsubmitted, hstep, hpost⟩ := h
  obtain ⟨t', ht', htail⟩ := Machine.run_append.1 hrun
  obtain rfl : t = t' := Option.some.inj (hpre.symm.trans ht')
  obtain ⟨u', hu', htail⟩ := Machine.run_cons.1 htail
  obtain rfl : u = u' := Option.some.inj (hstep.symm.trans hu')
  exact ⟨pre, actor, post ++ [a], t, u, by simp, hpre, hpending, hsubmitted, hstep,
    (Machine.meets_concat htail).2 ⟨hpost, hstatus⟩⟩

theorem HRProfileDocument.IsNew.contentReviewed (h : p.IsNew) : ContentReviewed d₀ as p where
  submitted hstatus := by simp [h.status] at hstatus
  published hstatus := by simp [h.status] at hstatus

theorem ContentReviewed.keep (h : ContentReviewed d₀ as p) (hrun : reviews.run d₀ as = some d)
    (hstep : reviews.step d a = some d') (hp : p ∈ d.profiles) (hid : p'.id = p.id)
    (hstatus : p'.status = p.status)
    (hcontent : p.status = .pendingReview ∨ p.status = .published → p'.content = p.content) :
    ContentReviewed d₀ (as ++ [a]) p' := by
  refine ⟨fun hs => ?_, fun hs => ?_⟩ <;> rw [hstatus] at hs
  · rw [hid, hcontent (.inl hs)]
    refine (Machine.since_concat hrun hstep).2 (.inr ⟨h.submitted hs, fun hsubmits => ?_⟩)
    simpa [hs] using hsubmits.status hp
  · rw [hid, hcontent (.inr hs)]
    exact (h.published hs).concat hrun ⟨p, hp, rfl, hs⟩

theorem contentReviewed_assign {request : ReviewRequest} (h : ContentReviewed d₀ as p)
    (hrun : reviews.run d₀ as = some d)
    (hstep : reviews.step d (.call (.review request)) = some d') (hp : p ∈ d.profiles)
    (hfind : request.find? d.profiles = some p) (hallowed : p.status ∈ request.allowedFrom) :
    ContentReviewed d₀ (as ++ [.call (.review request)]) (request.assign d.now p) := by
  refine ⟨fun hs => ?_, fun hs => ?_⟩ <;>
    rw [ReviewRequest.assign_status] at hs <;>
    rw [ReviewRequest.assign_id, ReviewRequest.assign_content]
  · cases request with
    | withdraw | approve | reject => cases hs
    | submit userId =>
      refine (Machine.since_concat hrun hstep).2 (.inl ⟨⟨userId, rfl, p, hp, rfl, ?_⟩, ?_⟩)
      · exact ⟨hfind, hallowed⟩
      · exact ⟨p, hp, rfl, rfl⟩
  · cases request with
    | submit | withdraw | reject => cases hs
    | approve actor profileId =>
      obtain ⟨-, rfl⟩ := Collection.findById_eq_some.1 hfind
      have hpending : p.status = .pendingReview := List.mem_singleton.1 hallowed
      exact ⟨as, actor, [], d, d', rfl, hrun, ⟨p, hp, rfl, hpending⟩, h.submitted hpending, hstep,
        trivial⟩

theorem contentReviewed_step (h : ∀ p ∈ d.profiles, ContentReviewed d₀ as p)
    (hrun : reviews.run d₀ as = some d) (hedit : EditsInDraft d a)
    (hstep : reviews.step d a = some d') :
    ∀ p ∈ d'.profiles, ContentReviewed d₀ (as ++ [a]) p := by
  intro p' hp'
  cases profile_step hstep hp' with
  | kept hp => exact (h p' hp).keep hrun hstep hp rfl rfl fun _ => rfl
  | created hnew _ => exact hnew.contentReviewed
  | revised p hp call ha hrev =>
    subst ha
    cases hrev with
    | upsert newId input hslugs =>
      refine (h p hp).keep hrun hstep hp rfl rfl fun hs => ?_
      by_contra hne
      rcases hedit hslugs p hp rfl hne with hdraft | hrejected
      · simp [hdraft] at hs
      · simp [hrejected] at hs
    | setAvailability => exact (h p hp).keep hrun hstep hp rfl rfl fun _ => rfl
    | review request hfind hallowed =>
      exact contentReviewed_assign (h p hp) hrun hstep hp hfind hallowed

/-- **Only reviewed content is public** as long as it is edited in drafts and rejected profiles
only. -/
theorem published_reviewed (hinit : ∀ p ∈ d₀.profiles, p.IsNew)
    (hedit : reviews.Meets EditsInDraft d₀ as) (hrun : reviews.run d₀ as = some d) :
    ∀ p ∈ d.profiles, p.status = .published → PublishedAs d₀ as p.id p.content := by
  have hall := Machine.run_history (I := fun as d => ∀ p ∈ d.profiles, ContentReviewed d₀ as p)
    (fun p hp => (hinit p hp).contentReviewed)
    (fun _ _ _ _ hrun h hedit hstep => contentReviewed_step h hrun hedit hstep) hedit hrun
  intro p hp hstatus
  exact (hall p hp).published hstatus

end Run

/-! ### A published profile that is edited -/

/-- The profile is submitted and approved as it was written. -/
theorem published_reviewed_twice :
    HasContent 5 (HRProfileDocument.draft 5 1 (profileBody "HR consultant")).content
        publishedDirectory ∧
      ∀ p ∈ publishedDirectory.profiles, p.status = .published →
        PublishedAs emptyDirectory reviewedTwice p.id p.content :=
  ⟨by decide +kernel, published_reviewed (fun p hp => absurd hp (Collection.not_mem_empty p))
    (by decide +kernel) reviewedTwice_eq⟩

/-- The published profile is edited. -/
def editedAfterwards : List ProfileAction :=
  reviewedTwice ++ [.call (.upsertProfile 1 7 (profileBody "Fortune teller"))]

theorem editedAfterwards_isSome : (reviews.run emptyDirectory editedAfterwards).isSome = true := by
  decide +kernel

/-- The state after `editedAfterwards`. -/
def editedDirectory : Directory :=
  (reviews.run emptyDirectory editedAfterwards).get editedAfterwards_isSome

/-- What the consultant writes in the end. -/
def editedContent : ReviewedContent :=
  (HRProfileDocument.draft 5 1 (profileBody "Fortune teller")).content

/-- The edit is public, and nobody has seen it before. -/
theorem editedDirectory_public :
    (∃ p ∈ editedDirectory.profiles, p.id = 5 ∧ p.status = .published ∧
      p.content = editedContent) ∧
      reviews.Meets (fun d _ => ¬ HasContent 5 editedContent d) emptyDirectory editedAfterwards :=
  ⟨by decide +kernel, by decide +kernel⟩

/-- **What is public need not have been reviewed.** -/
theorem not_published_reviewed :
    ¬ ∀ (d₀ : Directory) (as : List ProfileAction) (d : Directory),
      (∀ p ∈ d₀.profiles, p.IsNew) → reviews.run d₀ as = some d →
      ∀ p ∈ d.profiles, p.status = .published → PublishedAs d₀ as p.id p.content := by
  intro h
  obtain ⟨⟨p, hp, hid, hstatus, hcontent⟩, hunseen⟩ := editedDirectory_public
  have hpublished := h emptyDirectory editedAfterwards editedDirectory
    (fun p hp => absurd hp (Collection.not_mem_empty p)) (Option.some_get _).symm p hp hstatus
  rw [hid, hcontent] at hpublished
  obtain ⟨pre, actor, post, d, d', hsplit, -, -, hsubmitted, -⟩ := hpublished
  rw [hsplit] at hunseen
  exact hsubmitted.not_meets (fun d a hP hG => hG hP.2) hunseen.of_append

end HrBooking
