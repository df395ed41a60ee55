import HrBooking.Profile.Review

/-!
# Reviews at the same time

A request of a review checks the status of the profile that it has loaded, and saves what it has
changed later.  Between the two commands other requests save, so the status that is written may not
follow from the status that is stored.

* `ReviewStage` : the next command of a request in flight.
* `reviewing` : any number of requests over one directory.
* `Lawful` : a step changes a status as its request allows, and leaves a reason on rejected profiles
  only.
* `CommitsInTime` : the stored status still allows the request when it is saved.
* `lawful_iff` : all steps of a run are lawful exactly when all commits are in time.
* `not_lawful` : they need not be.
-/

namespace HrBooking

/-- The next command of a review in flight. -/
inductive ReviewStage where
  /-- `HRProfile.findOne` or `HRProfile.findById` -/
  | find (request : ReviewRequest)
  /-- `profile.save()` -/
  | save (request : ReviewRequest) (loaded current : HRProfileDocument)

/-- A party that reviews a profile. -/
inductive ReviewProc where
  | idle
  | running (stage : ReviewStage)
  | done (answer : Except AppError HRProfileDocument)

open ReviewProc in
/-- Issue the next command of a review; it may be rejected. -/
def ReviewStage.exec (fails : Bool) (d : Directory) : ReviewStage → Directory × ReviewProc
  | find request =>
    if fails then (d, done (.error .internal))
    else
      match request.find? d.profiles with
      | none => (d, done (.error (.notFound "Profile not found.")))
      | some profile =>
        match request.revise d.now profile with
        | .error e => (d, done (.error e))
        | .ok current => (d, running (.save request profile current))
  | save _ loaded current =>
    if fails then (d, done (.error .internal))
    else
      let answer := saveProfile loaded current d
      (answer.2, done answer.1)

/-- A party issues its next command. -/
def ReviewProc.exec (fails : Bool) (d : Directory) : ReviewProc → Option (Directory × ReviewProc)
  | running stage => some (stage.exec fails d)
  | _ => none

/-- Requests of a review, while time passes. -/
def reviewing : Program Directory ReviewProc ReviewRequest Bool ℕ where
  isIdle
    | .idle => true
    | _ => false
  start request d := some (d, .running (.find request))
  exec := ReviewProc.exec
  surroundings ms d := some { d with now := d.now + ms }

/-- The actions of reviews by several parties. -/
abbrev ReviewAction (R : Type) := PartyAction R ReviewRequest Bool ℕ

/-- The directory, and parties that have not started. -/
def Reviewing.init (R : Type) (d : Directory) : Parties R Directory ReviewProc :=
  ⟨d, fun _ => .idle⟩

/-! ### What is lawful, and when -/

/-- Exactly the rejected profile carries a reason. -/
def HRProfileDocument.ReasonAgrees (p : HRProfileDocument) : Prop :=
  p.rejectionReason.isSome ↔ p.status = .rejected

instance (p : HRProfileDocument) : Decidable p.ReasonAgrees := inferInstanceAs (Decidable (_ ↔ _))

/-- A reason is present on rejected profiles only. -/
def ReasonOnlyRejected (d : Directory) : Prop :=
  ∀ p ∈ d.profiles, p.rejectionReason.isSome → p.status = .rejected

instance (d : Directory) : Decidable (ReasonOnlyRejected d) :=
  inferInstanceAs (Decidable (∀ p ∈ d.profiles, _ → _))

section

variable {R : Type} [DecidableEq R]

/-- The request that an action saves. -/
def committing (s : Parties R Directory ReviewProc) : ReviewAction R → Option ReviewRequest
  | .exec r _ =>
    match s.procs r with
    | .running (.save request _ _) => some request
    | _ => none
  | _ => none

/-- A status changes only as a request that is saved allows from the stored status. -/
def ChangesAllowed (s : Parties R Directory ReviewProc) (a : ReviewAction R)
    (s' : Parties R Directory ReviewProc) : Prop :=
  ∀ p ∈ s.shared.profiles, ∀ p' ∈ s'.shared.profiles, p'.id = p.id → p'.status ≠ p.status →
    ∃ request ∈ committing s a, p.status ∈ request.allowedFrom ∧ p'.status = request.target

instance (s : Parties R Directory ReviewProc) (a : ReviewAction R)
    (s' : Parties R Directory ReviewProc) : Decidable (ChangesAllowed s a s') :=
  inferInstanceAs (Decidable (∀ p ∈ s.shared.profiles, ∀ p' ∈ s'.shared.profiles, _ → _))

/-- The step changes a status as its request allows, and leaves reasons on rejected profiles
only. -/
def Lawful (s : Parties R Directory ReviewProc) (a : ReviewAction R) : Prop :=
  match (reviewing.machine R).step s a with
  | none => True
  | some s' => ChangesAllowed s a s' ∧ ReasonOnlyRejected s'.shared

instance (s : Parties R Directory ReviewProc) (a : ReviewAction R) : Decidable (Lawful s a) := by
  unfold Lawful
  split <;> infer_instance

/-- The stored status allows the request, or is the one that it leads to; and a submission that
finds a rejected profile has loaded a rejected one. -/
def ReviewStage.InTime (d : Directory) : ReviewStage → Prop
  | find _ => True
  | save request loaded _ =>
    ∀ p ∈ d.profiles, p.id = loaded.id →
      (p.status ∈ request.allowedFrom ∨ p.status = request.target) ∧
        (p.status = .rejected → request.target = .pendingReview → loaded.status = .rejected)

instance (d : Directory) (stage : ReviewStage) : Decidable (stage.InTime d) := by
  unfold ReviewStage.InTime
  split <;> infer_instance

/-- **Every save is in time.** -/
def CommitsInTime (s : Parties R Directory ReviewProc) : ReviewAction R → Prop
  | .exec r false =>
    match s.procs r with
    | .running stage => stage.InTime s.shared
    | _ => True
  | _ => True

instance (s : Parties R Directory ReviewProc) (a : ReviewAction R) :
    Decidable (CommitsInTime s a) := by
  unfold CommitsInTime
  split
  · split <;> infer_instance
  · infer_instance

end

/-! ### Commands -/

/-- What a party holds comes from a profile that allowed its request. -/
def ReviewProc.Sound : ReviewProc → Prop
  | running (.save request loaded current) =>
    loaded.status ∈ request.allowedFrom ∧ (∃ now, current = request.assign now loaded) ∧
      loaded.ReasonAgrees
  | _ => True

/-- What a command does: it leaves the profiles alone, or it saves one over the stored one. -/
inductive ReviewEffect (fails : Bool) (d : Directory) :
    ReviewStage → Directory × ReviewProc → Prop
  | frame {stage : ReviewStage} {q : ReviewProc} (hsound : (∀ p ∈ d.profiles, p.ReasonAgrees) →
      q.Sound) (hstage : fails = false → stage.InTime d) : ReviewEffect fails d stage (d, q)
  | refused {stage : ReviewStage} {answer : Except AppError HRProfileDocument}
      (h : fails = true) : ReviewEffect fails d stage (d, .done answer)
  | save {request : ReviewRequest} {loaded current p : HRProfileDocument} {d' : Directory}
      (hfails : fails = false) (hp : p ∈ d.profiles) (hid : p.id = loaded.id)
      (hnow : d'.now = d.now)
      (h : ∀ x, x ∈ d'.profiles ↔ x ∈ d.profiles ∧ x.id ≠ p.id ∨ x = loaded.saveOver current p) :
      ReviewEffect fails d (.save request loaded current) (d', .done (.ok current))

section Commands

variable {fails : Bool} {d : Directory} {loaded current p : HRProfileDocument}
  {request : ReviewRequest}

/-- **What a command does.** -/
theorem review_cases (fails : Bool) (d : Directory) (stage : ReviewStage) :
    ReviewEffect fails d stage (stage.exec fails d) := by
  cases fails with
  | true => cases stage <;> exact .refused rfl
  | false =>
    cases stage with
    | find request =>
      simp only [ReviewStage.exec, Bool.false_eq_true, if_false]
      cases hfind : request.find? d.profiles with
      | none => exact .frame (fun _ => trivial) fun _ => trivial
      | some profile =>
        simp only
        cases hrevise : request.revise d.now profile with
        | error e => exact .frame (fun _ => trivial) fun _ => trivial
        | ok current =>
          obtain ⟨hallowed, rfl⟩ := ReviewRequest.revise_eq_ok.1 hrevise
          refine .frame (fun h => ?_) fun _ => trivial
          exact ⟨hallowed, ⟨d.now, rfl⟩, h profile (ReviewRequest.find?_mem hfind)⟩
    | save request loaded current =>
      simp only [ReviewStage.exec, Bool.false_eq_true, if_false]
      cases hfind : d.profiles.findById loaded.id with
      | none =>
        -- the profile is gone
        have hgone : saveProfile loaded current d = (.error .internal, d) := by
          simp only [saveProfile, hfind]
        rw [hgone]
        refine .frame (fun _ => trivial) fun _ p hp hid => ?_
        exact absurd hid (Collection.findById_eq_none.1 hfind p hp)
      | some p =>
        obtain ⟨hp, hid⟩ := Collection.findById_eq_some.1 hfind
        obtain ⟨profiles, hupd, hmem⟩ :=
          Collection.update_of_mem (f := loaded.saveOver current) hp rfl rfl
        have hupd : d.profiles.update loaded.id (loaded.saveOver current) = some profiles := by
          rw [← hid]
          exact hupd
        have hsaved : saveProfile loaded current d = (.ok current, { d with profiles }) := by
          simp only [saveProfile, hfind, hupd]
        rw [hsaved]
        exact .save rfl hp hid rfl hmem

theorem saveOver_status (hallowed : loaded.status ∈ request.allowedFrom) (now : ℤ) :
    (loaded.saveOver (request.assign now loaded) p).status = request.target := by
  have hne : (request.assign now loaded).status ≠ loaded.status := by
    rw [ReviewRequest.assign_status]
    rintro heq
    exact ReviewRequest.target_notMem_allowedFrom (heq ▸ hallowed)
  exact (savePath_of_ne hne p.status).trans ReviewRequest.assign_status

theorem saveOver_reason_of_eq (h : current.rejectionReason = loaded.rejectionReason) :
    (loaded.saveOver current p).rejectionReason = p.rejectionReason := by
  show savePath _ _ _ = _
  rw [h, savePath_self]

theorem saveOver_reason_of_ne (h : current.rejectionReason ≠ loaded.rejectionReason) :
    (loaded.saveOver current p).rejectionReason = current.rejectionReason :=
  savePath_of_ne h _

theorem HRProfileDocument.ReasonAgrees.eq_none (h : p.ReasonAgrees) (hs : p.status ≠ .rejected) :
    p.rejectionReason = none := by
  rw [← Option.not_isSome_iff_eq_none]
  exact fun hsome => hs (h.1 hsome)

theorem saveOver_reasonAgrees (hallowed : loaded.status ∈ request.allowedFrom)
    (hloaded : loaded.ReasonAgrees) (hp : p.ReasonAgrees)
    (hstatus : p.status ∈ request.allowedFrom ∨ p.status = request.target)
    (hsubmit : p.status = .rejected → request.target = .pendingReview →
      loaded.status = .rejected) (now : ℤ) :
    (loaded.saveOver (request.assign now loaded) p).ReasonAgrees := by
  unfold HRProfileDocument.ReasonAgrees
  rw [saveOver_status hallowed]
  -- a reason is written by a rejection and erased by a submission after one; what the save does
  -- not touch is of the stored status
  cases request with
  | submit userId =>
    have hassign : ((ReviewRequest.submit userId).assign now loaded).rejectionReason = none := rfl
    by_cases hrejected : loaded.status = .rejected
    · have hsome : loaded.rejectionReason.isSome := hloaded.2 hrejected
      have hne : none ≠ loaded.rejectionReason := by
        rintro heq
        simp [← heq] at hsome
      rw [saveOver_reason_of_ne (hassign.trans_ne hne), hassign]
      simp [ReviewRequest.target]
    · have hnone : p.rejectionReason = none :=
        hp.eq_none fun hs => hrejected (hsubmit hs rfl)
      rw [saveOver_reason_of_eq (hassign.trans (hloaded.eq_none hrejected).symm), hnone]
      simp [ReviewRequest.target]
  | withdraw userId =>
    have hassign : ((ReviewRequest.withdraw userId).assign now loaded).rejectionReason =
      loaded.rejectionReason := rfl
    have hnone : p.rejectionReason = none := hp.eq_none fun hs => by
      simp [ReviewRequest.allowedFrom, ReviewRequest.target, hs] at hstatus
    rw [saveOver_reason_of_eq hassign, hnone]
    simp [ReviewRequest.target]
  | approve actor profileId =>
    have hassign : ((ReviewRequest.approve actor profileId).assign now loaded).rejectionReason =
      none := rfl
    have hpending : loaded.status = .pendingReview := List.mem_singleton.1 hallowed
    have hloaded : loaded.rejectionReason = none := hloaded.eq_none (by simp [hpending])
    have hnone : p.rejectionReason = none := hp.eq_none fun hs => by
      simp [ReviewRequest.allowedFrom, ReviewRequest.target, hs] at hstatus
    rw [saveOver_reason_of_eq (hassign.trans hloaded.symm), hnone]
    simp [ReviewRequest.target]
  | reject actor profileId reason =>
    have hassign : ((ReviewRequest.reject actor profileId reason).assign now
      loaded).rejectionReason = some reason.val := rfl
    have hloaded : loaded.rejectionReason = none := hloaded.eq_none fun hs => by
      simp [ReviewRequest.allowedFrom, hs] at hallowed
    rw [saveOver_reason_of_ne (by simp [hassign, hloaded]), hassign]
    simp [ReviewRequest.target]

theorem loaded_rejected_of_reason (hloaded : loaded.ReasonAgrees) (hp : p.ReasonAgrees) (now : ℤ)
    (h : (loaded.saveOver (request.assign now loaded) p).rejectionReason.isSome →
      request.target = .rejected)
    (hrejected : p.status = .rejected) (htarget : request.target = .pendingReview) :
    loaded.status = .rejected := by
  cases request with
  | withdraw | approve | reject => cases htarget
  | submit userId =>
    by_contra hdraft
    have hassign : ((ReviewRequest.submit userId).assign now loaded).rejectionReason =
      loaded.rejectionReason := (hloaded.eq_none hdraft).symm
    rw [saveOver_reason_of_eq hassign] at h
    exact absurd (h (hp.2 hrejected)) (by simp [ReviewRequest.target])

end Commands

/-! ### Steps -/

/-- **The invariant.** -/
structure ReviewSound {R : Type} (s : Parties R Directory ReviewProc) : Prop where
  reasons : ∀ p ∈ s.shared.profiles, p.ReasonAgrees
  procs : ∀ r, (s.procs r).Sound

section Steps

variable {R : Type} {s s' : Parties R Directory ReviewProc} {a : ReviewAction R}

theorem lawful_of_eq (hs : ReviewSound s) (h : s'.shared.profiles = s.shared.profiles) :
    ChangesAllowed s a s' ∧ ReasonOnlyRejected s'.shared := by
  refine ⟨fun p hp p' hp' hid hne => ?_, fun p hp hreason => ?_⟩
  · rw [h] at hp'
    obtain rfl : p' = p := Collection.eq_of_docId hp' hp hid
    exact absurd rfl hne
  · rw [h] at hp
    exact (hs.reasons p hp).1 hreason

theorem ReviewSound.of_eq (hs : ReviewSound s) (h : s'.shared.profiles = s.shared.profiles)
    (hprocs : ∀ r, (s'.procs r).Sound) : ReviewSound s' := by
  refine ⟨?_, hprocs⟩
  rw [h]
  exact hs.reasons

/-- A save is lawful exactly when it is in time, and then keeps the reasons right. -/
theorem save_lawful_iff {d' : Directory} {r : R} {request : ReviewRequest}
    {loaded current p : HRProfileDocument} (hs : ReviewSound s)
    (hr : s.procs r = .running (.save request loaded current)) (hp : p ∈ s.shared.profiles)
    (hid : p.id = loaded.id)
    (h : ∀ x, x ∈ d'.profiles ↔
      x ∈ s.shared.profiles ∧ x.id ≠ p.id ∨ x = loaded.saveOver current p)
    (hs' : s'.shared = d') :
    (ChangesAllowed s (.exec r false) s' ∧ ReasonOnlyRejected s'.shared ↔
      (ReviewStage.save request loaded current).InTime s.shared) ∧
      ((ReviewStage.save request loaded current).InTime s.shared →
        ∀ x ∈ d'.profiles, x.ReasonAgrees) := by
  have hsound := hs.procs r
  rw [hr] at hsound
  obtain ⟨hallowed, ⟨now, rfl⟩, hloaded⟩ := hsound
  have hstatus := saveOver_status (p := p) hallowed now
  have hagrees := hs.reasons p hp
  -- in time, the stored profile has a status from which the request may go on
  have hintime : (ReviewStage.save request loaded (request.assign now loaded)).InTime s.shared →
      ∀ x ∈ d'.profiles, x.ReasonAgrees := by
    intro hin x hx
    rcases (h x).1 hx with ⟨hx, -⟩ | rfl
    · exact hs.reasons x hx
    · obtain ⟨hfrom, hsubmit⟩ := hin p hp hid
      exact saveOver_reasonAgrees hallowed hloaded hagrees hfrom hsubmit now
  have hcommits : committing s (.exec r false) = some request := by
    simp only [committing, hr]
  subst hs'
  refine ⟨⟨?_, fun hin => ⟨?_, fun x hx => (hintime hin x hx).1⟩⟩, hintime⟩
  · -- a save that changes the status has to start from an allowed one, and one that does not
    -- has reached its target before
    rintro ⟨hchanges, hreasons⟩ q hq hqid
    obtain rfl : q = p := Collection.eq_of_docId hq hp (hqid.trans hid.symm)
    have hmem := (h (loaded.saveOver (request.assign now loaded) q)).2 (.inr rfl)
    refine ⟨?_, loaded_rejected_of_reason hloaded hagrees now fun hsome => ?_⟩
    · by_cases heq : q.status = request.target
      · exact .inr heq
      · obtain ⟨request', hmem', hfrom, -⟩ := hchanges q hq _ hmem rfl (by
          rw [hstatus]
          exact fun h => heq h.symm)
        obtain rfl := Option.some.inj (hcommits.symm.trans hmem')
        exact .inl hfrom
    · rw [← hstatus]
      exact hreasons _ hmem hsome
  · intro q hq q' hq' hqid hne
    rcases (h q').1 hq' with ⟨hq', -⟩ | rfl
    · obtain rfl : q' = q := Collection.eq_of_docId hq' hq hqid
      exact absurd rfl hne
    · obtain rfl : q = p := Collection.eq_of_docId hq hp hqid.symm
      refine ⟨request, hcommits, (hin q hq hid).1.resolve_right fun heq => ?_, hstatus⟩
      exact hne (hstatus.trans heq.symm)

variable [DecidableEq R]

/-- **A step** is lawful exactly when it commits in time, and then keeps the invariant. -/
theorem step_lawful_iff (hs : ReviewSound s) (hstep : (reviewing.machine R).step s a = some s') :
    (ChangesAllowed s a s' ∧ ReasonOnlyRejected s'.shared ↔ CommitsInTime s a) ∧
      (CommitsInTime s a → ReviewSound s') := by
  -- only a save that goes through changes a profile
  cases Program.step_cases hstep with
  | surroundings h =>
    cases h
    exact ⟨iff_of_true (lawful_of_eq hs rfl) trivial, fun _ => hs.of_eq rfl hs.procs⟩
  | start hidle h =>
    cases h
    exact ⟨iff_of_true (lawful_of_eq hs rfl) trivial, fun _ => hs.of_eq rfl
      (Parties.forall_put (Q := ReviewProc.Sound) trivial fun r' _ => hs.procs r')⟩
  | @exec r fails d' q h =>
    cases hr : s.procs r with
    | idle | done =>
      rw [hr] at h
      cases h
    | running stage =>
      rw [hr] at h
      have heffect := review_cases fails s.shared stage
      rw [Option.some.inj h] at heffect
      have hothers : q.Sound → ∀ r', ((s.put r d' q).procs r').Sound := fun hq =>
        Parties.forall_put hq fun r' _ => hs.procs r'
      cases heffect with
      | frame hsound hstage =>
        refine ⟨iff_of_true (lawful_of_eq hs rfl) ?_, fun _ => hs.of_eq rfl
          (hothers (hsound hs.reasons))⟩
        cases fails with
        | true => trivial
        | false => simpa only [CommitsInTime, hr] using hstage rfl
      | refused hfails =>
        subst hfails
        exact ⟨iff_of_true (lawful_of_eq hs rfl) trivial, fun _ => hs.of_eq rfl (hothers trivial)⟩
      | save hfails hp hid hnow hmem =>
        subst hfails
        obtain ⟨hiff, hreasons⟩ := save_lawful_iff hs hr hp hid hmem
          (show (s.put r d' _).shared = d' from rfl)
        simp only [CommitsInTime, hr]
        exact ⟨hiff, fun hin => ⟨hreasons hin, hothers trivial⟩⟩

theorem commitsInTime_of_none (hstep : (reviewing.machine R).step s a = none) :
    CommitsInTime s a := by
  unfold CommitsInTime
  split
  · rename_i r
    split
    · rename_i stage hr
      -- a request in flight is never refused
      simp [Program.machine, Program.step, reviewing, hr, ReviewProc.exec] at hstep
    · trivial
  · trivial

/-- **Concurrent reviews are lawful exactly as long as every save is in time.** -/
theorem lawful_iff {d : Directory} (hinit : ∀ p ∈ d.profiles, p.ReasonAgrees)
    (as : List (ReviewAction R)) :
    (reviewing.machine R).Meets Lawful (Reviewing.init R d) as ↔
      (reviewing.machine R).Meets CommitsInTime (Reviewing.init R d) as := by
  refine Machine.meets_congr (I := ReviewSound) (fun s a hs => ?_) (fun s a s' hs hin hstep => ?_)
    ⟨hinit, fun _ => trivial⟩
  · unfold Lawful
    split
    · rename_i hstep
      exact iff_of_true trivial (commitsInTime_of_none hstep)
    · rename_i s' hstep
      exact (step_lawful_iff hs hstep).1
  · exact (step_lawful_iff hs hstep).2 hin

end Steps

/-! ### A withdrawal during an approval -/

/-- Account 1 has a profile that waits for its review. -/
def pendingDirectory : Directory :=
  { emptyDirectory with
    profiles := ⟨[{ HRProfileDocument.draft 5 1 (profileBody "HR") with status := .pendingReview }],
      List.pairwise_singleton _ _⟩ }

/-- A request from its arrival through its commands. -/
def reviewTurn (r : Bool) (request : ReviewRequest) : List (ReviewAction Bool) :=
  [.start r request, .exec r false, .exec r false]

/-- Two approvals load the profile before either of them saves. -/
def approvedTwice : List (ReviewAction Bool) :=
  [.start false (.approve reviewer 5), .exec false false] ++
    reviewTurn true (.approve reviewer 5) ++ [.exec false false]

/-- The slower approval finds what it leads to. -/
theorem lawful_approvedTwice :
    (reviewing.machine Bool).Meets Lawful (Reviewing.init Bool pendingDirectory) approvedTwice :=
  (lawful_iff (by decide +kernel) approvedTwice).2 (by decide +kernel)

/-- The profile is withdrawn while an approval has loaded it. -/
def approvedLate : List (ReviewAction Bool) :=
  [.start false (.approve reviewer 5), .exec false false] ++ reviewTurn true (.withdraw 1) ++
    [.exec false false]

/-- **A withdrawn profile can be published by a slower approval.** -/
theorem not_lawful :
    ¬ ∀ (R : Type) [DecidableEq R] (d : Directory) (as : List (ReviewAction R)),
      (∀ p ∈ d.profiles, p.ReasonAgrees) →
      (reviewing.machine R).Meets Lawful (Reviewing.init R d) as := by
  intro h
  have hlawful := h Bool pendingDirectory approvedLate (by decide +kernel)
  exact absurd hlawful (by decide +kernel)

end HrBooking
