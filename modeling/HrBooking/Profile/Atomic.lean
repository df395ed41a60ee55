import HrBooking.Profile.Review

/-!
# A failed upsert

`upsertProfile` writes the role of an account and then its first profile, and takes the role back
when the profile is not created.  The role it goes back to is always `USER`, and the route lets
every account in.

* `UpsertWrite` : the write that the database rejects.
* `upsertProfileUnder` : `upsertProfile` with at most one such write; the rollback goes through.
* `upsertProfile_atomic_iff` : a failure leaves no trace, and only clients are upgraded, exactly
  when no admin is given a profile.
* `not_upsertProfile_atomic` : a failure turns an admin into a client.
-/

namespace HrBooking

/-- A write of `upsertProfile`. -/
inductive UpsertWrite where
  /-- `existing.save()` -/
  | saveExisting
  /-- `user.save()` of the role -/
  | saveRole
  /-- `HRProfile.create` -/
  | create
  deriving DecidableEq

section

variable (failing : Option UpsertWrite)

/-- The first profile of an account, when a write may be rejected; the answer says whether the role
was written. -/
def createProfileUnder (user : User) (newId : ObjectId) (input : UpsertProfileBody)
    (d : Directory) : Except AppError (HRProfileDocument × Bool) × Directory :=
  let upgraded := user.role ≠ .hr
  if upgraded ∧ failing = some .saveRole then (.error .internal, d)
  else
    let d := if upgraded then d.saveRole user .hr else d
    let created :=
      if failing = some .create then none else d.profiles.insert (.draft newId user.id input)
    match created with
    | none => (.error .internal, if upgraded then d.saveRole user .user else d)
    | some profiles => (.ok (.draft newId user.id input, upgraded), { d with profiles })

/-- `upsertProfile`, when a write may be rejected. -/
def upsertProfileUnder (userId newId : ObjectId) (input : UpsertProfileBody) (d : Directory) :
    Except AppError (HRProfileDocument × Bool) × Directory :=
  if ∀ slug ∈ input.specializations, slug ∈ d.activeSlugs then
    match d.profiles.findByKey userId with
    | some existing =>
      if failing = some .saveExisting then (.error .internal, d)
      else
        let (answer, d) := saveProfile existing (existing.assign input) d
        (answer.map fun profile => (profile, false), d)
    | none =>
      match d.users.findById userId with
      | none => (.error (.notFound "Account not found."), d)
      | some user => createProfileUnder failing user newId input d
  else (.error (.validation "One or more specializations are invalid or no longer offered."), d)

end

/-- The role of an account. -/
def Directory.roleOf (d : Directory) (userId : ObjectId) : Option UserRole :=
  (d.users.findById userId).map User.role

/-- When the call throws, role and profiles are as they were; when it returns, the role is as it was
or a client became a consultant. -/
def IsAtomicFor {α : Type} (userId : ObjectId) (d : Directory)
    (answer : Except AppError α × Directory) : Prop :=
  match answer with
  | (.error _, d') => d'.roleOf userId = d.roleOf userId ∧ d'.profiles = d.profiles
  | (.ok _, d') =>
    d'.roleOf userId = d.roleOf userId ∨
      d.roleOf userId = some .user ∧ d'.roleOf userId = some .hr

/-- An admin without a profile asks for one with specializations on offer, and the role is
written. -/
def UpgradesAdmin (failing : Option UpsertWrite) (userId : ObjectId) (input : UpsertProfileBody)
    (d : Directory) : Prop :=
  (∀ slug ∈ input.specializations, slug ∈ d.activeSlugs) ∧ d.profiles.findByKey userId = none ∧
    (d.roleOf userId = some .admin ∨ d.roleOf userId = some .superAdmin) ∧
    failing ≠ some .saveRole

section Atomic

variable {failing : Option UpsertWrite} {userId newId : ObjectId} {input : UpsertProfileBody}
  {d : Directory} {user : User}

theorem upsertProfileUnder_none (userId newId : ObjectId) (input : UpsertProfileBody)
    (d : Directory) :
    ((upsertProfileUnder none userId newId input d).1.map Prod.fst,
      (upsertProfileUnder none userId newId input d).2) = upsertProfile userId newId input d := by
  by_cases hslugs : ∀ slug ∈ input.specializations, slug ∈ d.activeSlugs
  · simp only [upsertProfileUnder, upsertProfile, if_pos hslugs]
    cases d.profiles.findByKey userId with
    | some existing =>
      simp only [reduceCtorEq, if_false]
      generalize saveProfile existing (existing.assign input) d = answer
      obtain ⟨e | profile, d'⟩ := answer <;> rfl
    | none =>
      cases d.users.findById userId with
      | none => rfl
      | some user =>
        simp only [createProfileUnder, createProfile, reduceCtorEq, and_false, if_false]
        generalize (if user.role ≠ .hr then d.saveRole user .hr else d) = d₁
        cases d₁.profiles.insert (.draft newId user.id input) <;> rfl
  · simp only [upsertProfileUnder, upsertProfile, if_neg hslugs]
    rfl

theorem roleOf_eq_some {role : UserRole} :
    d.roleOf userId = some role ↔ ∃ u, d.users.findById userId = some u ∧ u.role = role :=
  Option.map_eq_some_iff

theorem roleOf_saveRole (hfind : (d.roleOf user.id).isSome = true) (role : UserRole) :
    (d.saveRole user role).roleOf user.id = some role := by
  obtain ⟨_, hrole⟩ := Option.isSome_iff_exists.1 hfind
  obtain ⟨stored, hstored, -⟩ := roleOf_eq_some.1 hrole
  obtain ⟨hmem, hid⟩ := Collection.findById_eq_some.1 hstored
  obtain ⟨users, hupdate, -⟩ :=
    Collection.update_of_mem (f := fun u : User => u.withRole role) hmem rfl rfl
  rw [hid] at hupdate
  rw [Directory.saveRole, hupdate, Directory.roleOf, Option.getD_some,
    Collection.findById_update hupdate (fun _ => rfl), hstored, Option.map_some, if_pos rfl]
  rfl

theorem saveExistingUnder_atomic (existing : HRProfileDocument) :
    IsAtomicFor userId d
      (if failing = some .saveExisting then (.error .internal, d)
      else
        ((saveProfile existing (existing.assign input) d).1.map fun profile => (profile, false),
          (saveProfile existing (existing.assign input) d).2)) := by
  split_ifs
  · exact ⟨rfl, rfl⟩
  · unfold saveProfile
    cases d.profiles.findById existing.id with
    | none => exact ⟨rfl, rfl⟩
    | some _ =>
      simp only
      cases d.profiles.update existing.id (existing.saveOver (existing.assign input)) with
      | none => exact ⟨rfl, rfl⟩
      | some profiles => exact .inl rfl

/-- An account that is no consultant is given its first profile: when the role is written, the call
leaves no trace or upgrades a client exactly when the account is a client's. -/
theorem createProfileUnder_atomic_iff (hfind : d.users.findById user.id = some user)
    (hrole : user.role ≠ .hr) (hfailing : failing ≠ some .saveRole) :
    IsAtomicFor user.id d (createProfileUnder failing user newId input d) ↔ user.role = .user := by
  have hroleOf : d.roleOf user.id = some user.role := roleOf_eq_some.2 ⟨user, hfind, rfl⟩
  have hsaved : (d.saveRole user .hr).roleOf user.id = some .hr :=
    roleOf_saveRole (by rw [hroleOf]; rfl) _
  simp only [createProfileUnder, hfailing, and_false, if_false, hrole, ne_eq, not_false_eq_true,
    if_true]
  generalize (if failing = some .create then none
    else (d.saveRole user .hr).profiles.insert (.draft newId user.id input)) = created
  cases created with
  | none =>
    simp only [IsAtomicFor]
    rw [roleOf_saveRole (by rw [hsaved]; rfl), hroleOf, Option.some.injEq, eq_comm]
    exact and_iff_left rfl
  | some profiles =>
    simp only [IsAtomicFor]
    rw [show Directory.roleOf { d.saveRole user .hr with profiles } user.id = some .hr from hsaved,
      hroleOf, Option.some.injEq, Option.some.injEq]
    exact ⟨fun h => h.elim (fun he => absurd he.symm hrole) And.left, fun h => .inr ⟨h, rfl⟩⟩

/-- A consultant's role is never written. -/
theorem createProfileUnder_atomic (hrole : user.role = .hr) (userId : ObjectId) :
    IsAtomicFor userId d (createProfileUnder failing user newId input d) := by
  simp only [createProfileUnder, hrole, ne_eq, not_true_eq_false, false_and, if_false]
  generalize (if failing = some .create then none
    else d.profiles.insert (.draft newId user.id input)) = created
  cases created with
  | none => exact ⟨rfl, rfl⟩
  | some profiles => exact .inl rfl

/-- **A failed upsert** leaves no trace, and a role that changes is a client's, exactly when the
call does not write the role of an admin. -/
theorem upsertProfile_atomic_iff (failing : Option UpsertWrite) (userId newId : ObjectId)
    (input : UpsertProfileBody) (d : Directory) :
    IsAtomicFor userId d (upsertProfileUnder failing userId newId input d) ↔
      ¬ UpgradesAdmin failing userId input d := by
  by_cases hslugs : ∀ slug ∈ input.specializations, slug ∈ d.activeSlugs
  · simp only [upsertProfileUnder, if_pos hslugs]
    cases hexisting : d.profiles.findByKey userId with
    | some existing =>
      -- an existing profile is saved in one write, and the role is left alone
      have hnot : ¬ UpgradesAdmin failing userId input d := fun h => by
        cases hexisting.symm.trans h.2.1
      exact iff_of_true (saveExistingUnder_atomic ..) hnot
    | none =>
      cases hfind : d.users.findById userId with
      | none =>
        refine iff_of_true ⟨rfl, rfl⟩ fun h => ?_
        have hroleOf : d.roleOf userId = none := by rw [Directory.roleOf, hfind, Option.map_none]
        rw [UpgradesAdmin, hroleOf] at h
        exact h.2.2.1.elim none_ne none_ne
      | some user =>
        obtain rfl : user.id = userId := (Collection.findById_eq_some.1 hfind).2
        have hroleOf : d.roleOf user.id = some user.role := roleOf_eq_some.2 ⟨user, hfind, rfl⟩
        have hupgrades : UpgradesAdmin failing user.id input d ↔
            (user.role = .admin ∨ user.role = .superAdmin) ∧ failing ≠ some .saveRole := by
          simp only [UpgradesAdmin, hroleOf, Option.some.injEq]
          exact ⟨fun h => h.2.2, fun h => ⟨hslugs, hexisting, h⟩⟩
        simp only [hupgrades]
        by_cases hrole : user.role = .hr
        · exact iff_of_true (createProfileUnder_atomic hrole _) (by simp [hrole])
        · by_cases hfailing : failing = some .saveRole
          · refine iff_of_true ?_ fun h => h.2 hfailing
            simp only [createProfileUnder, ne_eq, hrole, hfailing, not_false_eq_true, and_self,
              if_true]
            exact ⟨rfl, rfl⟩
          · -- the rollback writes the role of a plain user, whatever the role was
            rw [createProfileUnder_atomic_iff hfind hrole hfailing]
            cases hr : user.role <;> simp_all
  · simp only [upsertProfileUnder, if_neg hslugs]
    exact iff_of_true ⟨rfl, rfl⟩ fun h => hslugs h.1

end Atomic

/-- Account 9 is an admin without a profile. -/
def adminDirectory : Directory :=
  { emptyDirectory with
    users := ⟨[⟨9, "admin@example.com", "", "", "", .admin, .active, true, 0, none⟩],
      List.pairwise_singleton _ _⟩ }

/-- **A failed upsert leaves a trace**: the admin whose profile could not be created is a client. -/
theorem not_upsertProfile_atomic :
    ¬ ∀ (failing : Option UpsertWrite) (userId newId : ObjectId) (input : UpsertProfileBody)
      (d : Directory), IsAtomicFor userId d (upsertProfileUnder failing userId newId input d) := by
  intro h
  have hrole := (h (some .create) 9 5 (profileBody "HR") adminDirectory).1
  exact absurd hrole (by decide +kernel)

end HrBooking
