import HrBooking.Account.Session
import HrBooking.Machine.Parties

/-!
# Whether the HR role and the HR profile stay together

`upsertProfile` of `services/hr-profile.service.ts`, one database command after another.  The first
profile of an account comes with the role, in two writes; when the second write fails the first one
is taken back.  The index on the profiles lets one of several first requests win, and a loser that
has written the role takes back what the winner needs.

* `UpsertStage` : the next command of a request in flight.
* `onboarding` : any number of requests over one store.
* `UpsertEffect` : what a command does to the roles and the profiles.
* `CreatesFirst` : a request that has written the role creates the profile while there is none.
* `role_iff_profile_iff` : role and profile end together exactly when all requests do so.
* `not_role_iff_profile` : they can end apart.
-/

namespace HrBooking

/-- The validated body of an upsert, as far as a modelled service reads what it writes. -/
structure UpsertProfileInput where
  specializations : List String
  hourlyRateCents : ℕ
  currency : Currency

/-- What an upsert answers. -/
structure UpsertProfileResult where
  profile : HRProfile
  upgraded : Bool

/-- The next command of an upsert in flight. -/
inductive UpsertStage where
  /-- `Specialization.find` of `assertActiveSpecializations` -/
  | checkSpecializations (userId : ObjectId) (input : UpsertProfileInput)
  /-- `HRProfile.findOne` -/
  | findProfile (userId : ObjectId) (input : UpsertProfileInput)
  /-- `existing.save()` -/
  | saveProfile (existing : HRProfile) (input : UpsertProfileInput)
  /-- `User.findById` -/
  | findUser (userId : ObjectId) (input : UpsertProfileInput)
  /-- `user.save()` of the role -/
  | saveRole (user : User) (input : UpsertProfileInput)
  /-- `HRProfile.create` -/
  | createProfile (user : User) (input : UpsertProfileInput) (upgraded : Bool)
  /-- `user.save()` of the rollback, with the error that is thrown after it -/
  | rollback (user : User) (e : AppError)

/-- A party that upserts a profile. -/
inductive UpsertProc where
  | idle
  | running (stage : UpsertStage)
  | done (answer : Except AppError UpsertProfileResult)

/-- What the surroundings decide for a command of an upsert. -/
structure UpsertReply where
  /-- The identity a new document gets. -/
  newId : ObjectId
  /-- The slugs of the specializations on offer. -/
  activeSlugs : List String
  /-- The database rejects the command. -/
  fails : Bool

/-- `Object.assign(existing, input)` -/
def HRProfile.assign (existing : HRProfile) (input : UpsertProfileInput) : HRProfile :=
  { existing with hourlyRateCents := input.hourlyRateCents, currency := input.currency }

/-- `existing.save()` : only modified paths are written. -/
def HRProfile.saveOver (loaded current stored : HRProfile) : HRProfile :=
  { stored with
    hourlyRateCents :=
      savePath loaded.hourlyRateCents current.hourlyRateCents stored.hourlyRateCents
    currency := savePath loaded.currency current.currency stored.currency }

/-- The document of a first profile. -/
def draftProfile (id userId : ObjectId) (input : UpsertProfileInput) : HRProfile :=
  ⟨id, userId, .draft, true, input.hourlyRateCents, input.currency⟩

/-- `user.role = role` -/
def User.withRole (user : User) (role : UserRole) : User := { user with role }

open UpsertProc in
/-- Issue the next command of an upsert; refused only when the surroundings offer an identity that
is taken. -/
def UpsertStage.exec (i : UpsertReply) (p : Platform) : UpsertStage → Option (Platform × UpsertProc)
  | checkSpecializations userId input =>
    if i.fails then some (p, done (.error .internal))
    else if ∀ slug ∈ input.specializations, slug ∈ i.activeSlugs then
      some (p, running (.findProfile userId input))
    else some (p, done (.error
      (.validation "One or more specializations are invalid or no longer offered.")))
  | findProfile userId input =>
    if i.fails then some (p, done (.error .internal))
    else
      match p.world.profiles.findByKey userId with
      | some existing => some (p, running (.saveProfile existing input))
      | none => some (p, running (.findUser userId input))
  | saveProfile existing input =>
    if i.fails then some (p, done (.error .internal))
    else
      match p.world.profiles.findById existing.id with
      | none => some (p, done (.error .internal))
      | some _ =>
        match p.world.profiles.update existing.id
            (existing.saveOver (existing.assign input)) with
        | none => some (p, done (.error .internal))
        | some profiles =>
          some (p.onWorld fun w => { w with profiles },
            done (.ok ⟨existing.assign input, false⟩))
  | findUser userId input =>
    if i.fails then some (p, done (.error .internal))
    else
      match p.users.findById userId with
      | none => some (p, done (.error (.notFound "Account not found.")))
      | some user =>
        if user.role ≠ .hr then some (p, running (.saveRole user input))
        else some (p, running (.createProfile user input false))
  | saveRole user input =>
    if i.fails then some (p, done (.error .internal))
    else
      match saveUser user (user.withRole .hr) p with
      | (.error e, p') => some (p', done (.error e))
      | (.ok (), p') => some (p', running (.createProfile (user.withRole .hr) input true))
  | createProfile user input upgraded =>
    if p.world.profiles.findById i.newId ≠ none then none
    else
      let failed :=
        if upgraded then running (.rollback user .internal) else done (.error .internal)
      if i.fails then some (p, failed)
      else
        match p.world.profiles.insert (draftProfile i.newId user.id input) with
        | none => some (p, failed)
        | some profiles =>
          some (p.onWorld fun w => { w with profiles },
            done (.ok ⟨draftProfile i.newId user.id input, upgraded⟩))
  | rollback user e =>
    -- a failure of the rollback is only logged
    if i.fails then some (p, done (.error e))
    else some ((saveUser user (user.withRole .user) p).2, done (.error e))

/-- Any number of upserts over one store, while time passes. -/
def onboarding :
    Program Platform UpsertProc (ObjectId × UpsertProfileInput) UpsertReply ℕ where
  isIdle
    | .idle => true
    | _ => false
  start request p := some (p, .running (.checkSpecializations request.1 request.2))
  exec i p
    | .running stage => stage.exec i p
    | _ => none
  surroundings ms p := some (p.advance ms)

/-- The state of the upserts. -/
abbrev Onboarding (R : Type) := Parties R Platform UpsertProc

/-- An action of the upserts. -/
abbrev OnboardingAction (R : Type) :=
  PartyAction R (ObjectId × UpsertProfileInput) UpsertReply ℕ

namespace UpsertProc

/-- The request is not in flight. -/
def isAtRest : UpsertProc → Bool
  | running _ => false
  | _ => true

/-- The account a request creates a profile for next, and whether it has written the role. -/
def creates : UpsertProc → Option (ObjectId × Bool)
  | running (.createProfile user _ upgraded) => some (user.id, upgraded)
  | _ => none

/-- The account a request takes the role back from next. -/
def rollsBack : UpsertProc → Option ObjectId
  | running (.rollback user _) => some user.id
  | _ => none

theorem rollsBack_of_creates {q : UpsertProc} {x : ObjectId × Bool} (h : q.creates = some x) :
    q.rollsBack = none := by
  cases q with
  | idle | done => rfl
  | running stage =>
    cases stage with
    | rollback => cases h
    | _ => rfl

/-- A request at rest neither creates a profile nor takes a role back. -/
theorem atRest {q : UpsertProc} (h : q.isAtRest = true) :
    q.creates = none ∧ q.rollsBack = none := by
  cases q with
  | idle | done => exact ⟨rfl, rfl⟩
  | running => exact absurd h Bool.false_ne_true

end UpsertProc

/-- The next command of the request is a write. -/
def UpsertProc.writes : UpsertProc → Bool
  | running (.saveProfile ..) | running (.saveRole ..) => true
  | running (.createProfile ..) | running (.rollback ..) => true
  | _ => false

/-- The role of an account. -/
def Platform.roleOf (p : Platform) (userId : ObjectId) : Option UserRole :=
  (p.users.findById userId).map User.role

/-- The account has a profile. -/
def Platform.HasProfile (p : Platform) (userId : ObjectId) : Prop :=
  (p.world.profiles.findByKey userId).isSome = true

instance (p : Platform) (userId : ObjectId) : Decidable (p.HasProfile userId) :=
  inferInstanceAs (Decidable (_ = true))

/-- The account has the role exactly when it has a profile. -/
def Together (userId : ObjectId) (p : Platform) : Prop :=
  p.roleOf userId = some .hr ↔ p.HasProfile userId

instance (userId : ObjectId) (p : Platform) : Decidable (Together userId p) :=
  inferInstanceAs (Decidable (_ ↔ _))

section Conditions

variable {R : Type}

/-- No request is in flight. -/
def Onboarding.Quiescent (s : Onboarding R) : Prop := ∀ r, (s.procs r).isAtRest = true

/-- No write is rejected, the index apart. -/
def NoWriteFails (s : Onboarding R) (a : OnboardingAction R) : Prop :=
  a.OnExec fun r i => (s.procs r).writes = true → i.fails = false

instance (s : Onboarding R) (a : OnboardingAction R) : Decidable (NoWriteFails s a) :=
  inferInstanceAs (Decidable (a.OnExec _))

/-- A request that has written the role of the account creates the profile while there is none. -/
def CreatesFirst (userId : ObjectId) (s : Onboarding R) (a : OnboardingAction R) : Prop :=
  a.OnExec fun r _ => (s.procs r).creates = some (userId, true) → ¬ s.shared.HasProfile userId

instance (userId : ObjectId) (s : Onboarding R) (a : OnboardingAction R) :
    Decidable (CreatesFirst userId s a) := inferInstanceAs (Decidable (a.OnExec _))

end Conditions

/-! ### What a command does -/

namespace UpsertStage

/-- A request that writes the role has read another one, and one that takes it back has written
it. -/
def RoleSet : UpsertStage → Prop
  | saveRole user _ => user.role ≠ .hr
  | createProfile user _ upgraded => upgraded = true → user.role = .hr
  | rollback user _ => user.role = .hr
  | _ => True

end UpsertStage

/-- The role that a request goes on with was read or written by it. -/
def UpsertProc.RoleSet : UpsertProc → Prop
  | running stage => stage.RoleSet
  | _ => True

section Effects

variable {userId : ObjectId} {i : UpsertReply} {p p' : Platform} {stage : UpsertStage}
  {q : UpsertProc}

/-- Saving an account writes its role when the role was changed, and no profile; an account that is
gone is not saved. -/
theorem saveUser_role_cases (loaded current : User) (p : Platform) :
    (p.roleOf loaded.id = none ∧ saveUser loaded current p = p.answer (.error .internal)) ∨
      ∃ role p', p.roleOf loaded.id = some role ∧
        saveUser loaded current p = (.ok (), p') ∧ p'.world = p.world ∧
        ∀ userId, p'.roleOf userId =
          if userId = loaded.id then some (savePath loaded.role current.role role)
          else p.roleOf userId := by
  unfold saveUser
  cases hfind : p.users.findById loaded.id with
  | none => exact .inl ⟨by rw [Platform.roleOf, hfind, Option.map_none], rfl⟩
  | some stored =>
    obtain ⟨hstored, hid⟩ := Collection.findById_eq_some.1 hfind
    obtain ⟨users, hupdate, -⟩ :=
      Collection.update_of_mem (f := loaded.saveOver current) hstored rfl rfl
    have hupdate' : p.users.update loaded.id (loaded.saveOver current) = some users :=
      hid ▸ hupdate
    refine .inr ⟨stored.role, { p with users }, by rw [Platform.roleOf, hfind, Option.map_some],
      by simp only [hupdate'], rfl, fun userId => ?_⟩
    have hfind' := Collection.findById_update hupdate' (fun _ => rfl) userId
    simp only [Platform.roleOf, hfind', Option.map_map]
    split_ifs with huser
    · rw [huser, hfind]
      rfl
    · rfl

/-- What a command of a request does to the role and the profile of an account. -/
inductive UpsertEffect (userId : ObjectId) (p : Platform) (q : UpsertProc) (p' : Platform)
    (q' : UpsertProc) : Prop
  /-- Neither of them changes; a request that finds the role goes on without taking it back. -/
  | quiet (hrole : p'.roleOf userId = p.roleOf userId)
      (hprofile : p'.HasProfile userId ↔ p.HasProfile userId)
      (hcreates : ∀ upgraded, q.creates ≠ some (userId, upgraded))
      (hrollsBack : q.rollsBack ≠ some userId)
      (hnext : ∀ upgraded, q'.creates = some (userId, upgraded) →
        p.roleOf userId = some .hr)
      (hnext' : q'.rollsBack ≠ some userId)
  /-- The role is written. -/
  | upgraded (hrole : p'.roleOf userId = some .hr)
      (hprofile : p'.HasProfile userId ↔ p.HasProfile userId)
      (hcreates : ∀ upgraded, q.creates ≠ some (userId, upgraded))
      (hrollsBack : q.rollsBack ≠ some userId)
      (hnext : q'.creates = some (userId, true))
      (hnext' : q'.rollsBack ≠ some userId)
  /-- The profile is created. -/
  | created {upgraded : Bool}
      (hcreates : q.creates = some (userId, upgraded)) (hnone : ¬ p.HasProfile userId)
      (hrole : p'.roleOf userId = p.roleOf userId) (hprofile : p'.HasProfile userId)
      (hnext : q'.creates = none) (hnext' : q'.rollsBack = none)
  /-- The index refuses the profile; only a request that has written the role takes it back. -/
  | refused {upgraded : Bool}
      (hcreates : q.creates = some (userId, upgraded)) (hprofile : p.HasProfile userId)
      (hkept : p' = p) (hnext : q'.creates = none)
      (hnext' : q'.rollsBack = if upgraded then some userId else none)
  /-- The role is taken back. -/
  | rolledBack (hrollsBack : q.rollsBack = some userId)
      (hrole : p'.roleOf userId ≠ some .hr)
      (hprofile : p'.HasProfile userId ↔ p.HasProfile userId)
      (hnext : q'.creates = none) (hnext' : q'.rollsBack = none)

theorem hasProfile_update {existing current : HRProfile} {profiles : Collection HRProfile}
    (h : p.world.profiles.update existing.id (existing.saveOver current) = some profiles) :
    (p.onWorld fun w => { w with profiles }).HasProfile userId ↔ p.HasProfile userId := by
  have hkey : ∀ d : HRProfile, Document.indexKey (existing.saveOver current d) =
    Document.indexKey d := fun _ => rfl
  simp only [Platform.HasProfile, Platform.onWorld, Option.isSome_iff_exists,
    Collection.findByKey_eq_some, Collection.mem_update h]
  constructor
  · rintro ⟨d, ⟨hd, -⟩ | ⟨e, he, -, rfl⟩, huser⟩
    · exact ⟨d, hd, huser⟩
    · exact ⟨e, he, (hkey e).symm.trans huser⟩
  · rintro ⟨d, hd, huser⟩
    by_cases hid : Document.docId d = existing.id
    · exact ⟨_, .inr ⟨d, hd, hid, rfl⟩, (hkey d).trans huser⟩
    · exact ⟨d, .inl ⟨hd, hid⟩, huser⟩

variable {newId user : ObjectId} {input : UpsertProfileInput}

theorem hasProfile_of_refused (hnew : p.world.profiles.findById newId = none)
    (h : p.world.profiles.insert (draftProfile newId user input) = none) : p.HasProfile user := by
  obtain ⟨d, hd, hincompatible⟩ := Collection.insert_eq_none.1 h
  simp only [Document.Compatible, not_and, not_forall] at hincompatible
  obtain ⟨key, hkey, hd'⟩ := hincompatible (Collection.findById_eq_none.1 hnew d hd)
  obtain rfl : user = key := Option.some.inj (not_not.1 hd')
  exact Option.isSome_iff_exists.2 ⟨d, Collection.findByKey_eq_some.2 ⟨hd, hkey⟩⟩

theorem hasProfile_insert {profiles : Collection HRProfile}
    (h : p.world.profiles.insert (draftProfile newId user input) = some profiles) :
    ¬ p.HasProfile user ∧
      ∀ userId, (p.onWorld fun w => { w with profiles }).HasProfile userId ↔
        user = userId ∨ p.HasProfile userId := by
  constructor
  · intro hhas
    obtain ⟨d, hd⟩ := Option.isSome_iff_exists.1 hhas
    obtain ⟨hd, hkey⟩ := Collection.findByKey_eq_some.1 hd
    exact ((Collection.insert_eq_some.1 h).1 d hd).2 user hkey rfl
  · intro userId
    have hkey : Document.indexKey (draftProfile newId user input) = some user := rfl
    simp only [Platform.HasProfile, Platform.onWorld, Collection.findByKey_insert h, hkey,
      Option.some.injEq]
    split_ifs with huser
    · simp [huser]
    · simp [huser]

theorem UpsertEffect.between {q q' : UpsertProc} (hcreates : q.creates = none)
    (hrollsBack : q.rollsBack = none) (hcreates' : q'.creates = none)
    (hrollsBack' : q'.rollsBack = none) (hrole : p'.roleOf userId = p.roleOf userId)
    (hprofile : p'.HasProfile userId ↔ p.HasProfile userId) : UpsertEffect userId p q p' q' :=
  .quiet hrole hprofile (by simp [hcreates]) (by simp [hrollsBack]) (by simp [hcreates'])
    (by simp [hrollsBack'])

theorem none_ne {α : Type} {x : α} : none ≠ some x := (Option.some_ne_none x).symm

/-- A request that finds the role of the account goes on to the profile without taking the role
back. -/
theorem UpsertEffect.findUser {user : ObjectId} {input : UpsertProfileInput}
    (h : (UpsertStage.findUser user input).exec i p = some (p', q)) :
    UpsertEffect userId p (.running (.findUser user input)) p' q := by
  simp only [UpsertStage.exec] at h
  split_ifs at h
  · cases h
    exact .between rfl rfl rfl rfl rfl .rfl
  · split at h
    · cases h
      exact .between rfl rfl rfl rfl rfl .rfl
    · rename_i found hfind
      split_ifs at h with hrole
      · cases h
        exact .between rfl rfl rfl rfl rfl .rfl
      · cases h
        refine .quiet rfl .rfl (fun _ => none_ne) none_ne (fun upgraded hnext => ?_) none_ne
        have hid : found.id = user := (Collection.findById_eq_some.1 hfind).2
        have huser : found.id = userId := congrArg Prod.fst (Option.some.inj hnext)
        rw [Platform.roleOf, ← huser, hid, hfind]
        exact congrArg some (not_not.1 hrole)

/-- The role of the account that the request is for is written, and no other one. -/
theorem UpsertEffect.saveRole {user : User} {input : UpsertProfileInput} (hfails : i.fails = false)
    (hset : user.role ≠ .hr) (h : (UpsertStage.saveRole user input).exec i p = some (p', q)) :
    UpsertEffect userId p (.running (.saveRole user input)) p' q := by
  simp only [UpsertStage.exec, hfails, Bool.false_eq_true, if_false] at h
  rcases saveUser_role_cases user (user.withRole .hr) p with
    ⟨-, hsave⟩ | ⟨role, p₁, hrole, hsave, hworld, hroles⟩
  · rw [hsave] at h
    cases h
    exact .between rfl rfl rfl rfl rfl .rfl
  · rw [hsave] at h
    cases h
    have hprofile : p'.HasProfile userId ↔ p.HasProfile userId := by
      rw [Platform.HasProfile, hworld, Platform.HasProfile]
    by_cases huser : userId = user.id
    · refine .upgraded ?_ hprofile (fun _ => none_ne) none_ne (by rw [huser]; rfl) none_ne
      rw [hroles, if_pos huser]
      exact congrArg some (savePath_of_ne (Ne.symm hset) role)
    · refine .quiet (by rw [hroles, if_neg huser]) hprofile (fun _ => none_ne) none_ne ?_ none_ne
      intro upgraded hnext
      exact absurd (congrArg Prod.fst (Option.some.inj hnext)).symm huser

/-- A request whose profile is refused ends, after it has taken back the role it wrote. -/
theorem UpsertEffect.ofRefused {user : User} {upgraded : Bool} {e : AppError}
    (hnew : p.world.profiles.findById newId = none)
    (hrefused : p.world.profiles.insert (draftProfile newId user.id input) = none) :
    UpsertEffect userId p (.running (.createProfile user input upgraded)) p
      (if upgraded then .running (.rollback user e) else .done (.error e)) := by
  have hcreates : (if upgraded then UpsertProc.running (.rollback user e)
      else .done (.error e)).creates = none := by
    cases upgraded <;> rfl
  have hrollsBack : (if upgraded then UpsertProc.running (.rollback user e)
      else .done (.error e)).rollsBack = if upgraded then some user.id else none := by
    cases upgraded <;> rfl
  by_cases huser : user.id = userId
  · subst huser
    exact .refused rfl (hasProfile_of_refused hnew hrefused) rfl hcreates hrollsBack
  · refine .quiet rfl .rfl (fun _ h => huser (congrArg Prod.fst (Option.some.inj h))) none_ne
      (fun _ h => absurd (hcreates.symm.trans h) none_ne) ?_
    rw [hrollsBack]
    split_ifs
    · exact fun h => huser (Option.some.inj h)
    · exact none_ne

/-- The profile is created unless the index refuses it. -/
theorem UpsertEffect.createProfile {user : User} {upgraded : Bool} (hfails : i.fails = false)
    (h : (UpsertStage.createProfile user input upgraded).exec i p = some (p', q)) :
    UpsertEffect userId p (.running (.createProfile user input upgraded)) p' q := by
  simp only [UpsertStage.exec, hfails, Bool.false_eq_true, if_false] at h
  obtain ⟨hnew, h⟩ := Option.ite_none_left_eq_some.1 h
  split at h
  · rename_i hrefused
    obtain ⟨rfl, rfl⟩ := Prod.mk.inj (Option.some.inj h)
    exact .ofRefused (not_not.1 hnew) hrefused
  · rename_i profiles hinsert
    cases h
    obtain ⟨hfirst, hprofile⟩ := hasProfile_insert hinsert
    by_cases huser : user.id = userId
    · subst huser
      exact .created rfl hfirst rfl ((hprofile user.id).2 (.inl rfl)) rfl rfl
    · exact .quiet rfl ((hprofile userId).trans (or_iff_right huser))
        (fun _ h => huser (congrArg Prod.fst (Option.some.inj h))) none_ne
        (fun _ h => absurd h none_ne) none_ne

/-- The rollback writes another role than the one the request has written, or the account is
gone. -/
theorem UpsertEffect.rollback {user : User} {e : AppError} (hfails : i.fails = false)
    (hset : user.role = .hr) (h : (UpsertStage.rollback user e).exec i p = some (p', q)) :
    UpsertEffect userId p (.running (.rollback user e)) p' q := by
  simp only [UpsertStage.exec, hfails, Bool.false_eq_true, if_false] at h
  obtain ⟨rfl, rfl⟩ := Prod.mk.inj (Option.some.inj h)
  rcases saveUser_role_cases user (user.withRole .user) p with
    ⟨hgone, hsave⟩ | ⟨role, p₁, hrole, hsave, hworld, hroles⟩
  · rw [hsave]
    by_cases huser : userId = user.id
    · refine .rolledBack (by rw [huser]; rfl) ?_ .rfl rfl rfl
      rw [huser]
      exact hgone ▸ none_ne
    · exact .quiet rfl .rfl (fun _ => none_ne) (fun h => huser (Option.some.inj h).symm)
        (fun _ h => absurd h none_ne) none_ne
  · rw [hsave]
    have hprofile : p₁.HasProfile userId ↔ p.HasProfile userId := by
      rw [Platform.HasProfile, hworld, Platform.HasProfile]
    by_cases huser : userId = user.id
    · refine .rolledBack (by rw [huser]; rfl) ?_ hprofile rfl rfl
      have hchanged : UserRole.user ≠ user.role := by rw [hset]; decide
      rw [hroles, if_pos huser, User.withRole, savePath_of_ne hchanged]
      decide
    · exact .quiet (by rw [hroles, if_neg huser]) hprofile (fun _ => none_ne)
        (fun h => huser (Option.some.inj h).symm) (fun _ h => absurd h none_ne) none_ne

/-- **A command of a request** has one of the effects, unless it is a write that is rejected. -/
theorem upsert_cases (hfails : (UpsertProc.running stage).writes = true → i.fails = false)
    (hset : stage.RoleSet) (h : stage.exec i p = some (p', q)) :
    UpsertEffect userId p (.running stage) p' q := by
  -- only the last four commands touch a role or create a profile
  cases stage with
  | checkSpecializations user input =>
    simp only [UpsertStage.exec] at h
    split_ifs at h
    · cases h
      exact .between rfl rfl rfl rfl rfl .rfl
    · cases h
      exact .between rfl rfl rfl rfl rfl .rfl
    · cases h
      exact .between rfl rfl rfl rfl rfl .rfl
  | findProfile user input =>
    simp only [UpsertStage.exec] at h
    split_ifs at h
    · cases h
      exact .between rfl rfl rfl rfl rfl .rfl
    · split at h
      · cases h
        exact .between rfl rfl rfl rfl rfl .rfl
      · cases h
        exact .between rfl rfl rfl rfl rfl .rfl
  | saveProfile existing input =>
    simp only [UpsertStage.exec, hfails rfl, Bool.false_eq_true, if_false] at h
    split at h
    · cases h
      exact .between rfl rfl rfl rfl rfl .rfl
    · split at h
      · cases h
        exact .between rfl rfl rfl rfl rfl .rfl
      · rename_i profiles hupdate
        cases h
        exact .between rfl rfl rfl rfl rfl (hasProfile_update hupdate)
  | findUser user input => exact UpsertEffect.findUser h
  | saveRole user input => exact UpsertEffect.saveRole (hfails rfl) hset h
  | createProfile user input upgraded => exact UpsertEffect.createProfile (hfails rfl) h
  | rollback user e => exact UpsertEffect.rollback (hfails rfl) hset h

end Effects

/-! ### Runs -/

/-- No request has started. -/
def Onboarding.init (R : Type) (p : Platform) : Onboarding R := ⟨p, fun _ => .idle⟩

section Runs

variable {R : Type} [DecidableEq R] {userId : ObjectId} {s s' : Onboarding R}
  {a : OnboardingAction R}

omit [DecidableEq R] in
theorem UpsertStage.roleSet_exec {i : UpsertReply} {p p' : Platform} {stage : UpsertStage}
    {q : UpsertProc} (hset : stage.RoleSet) (h : stage.exec i p = some (p', q)) : q.RoleSet := by
  -- the flag is set by the branch that sets the role, and is handed on unchanged
  cases stage with
  | checkSpecializations user input =>
    simp only [UpsertStage.exec] at h
    split_ifs at h <;> cases h <;> exact trivial
  | findProfile user input =>
    simp only [UpsertStage.exec] at h
    split_ifs at h
    · cases h
      exact trivial
    · split at h <;> cases h <;> exact trivial
  | saveProfile existing input =>
    simp only [UpsertStage.exec] at h
    split_ifs at h
    · cases h
      exact trivial
    · split at h
      · cases h
        exact trivial
      · split at h <;> cases h <;> exact trivial
  | findUser user input =>
    simp only [UpsertStage.exec] at h
    split_ifs at h
    · cases h
      exact trivial
    · split at h
      · cases h
        exact trivial
      · split_ifs at h with hrole
        · cases h
          exact hrole
        · cases h
          exact fun hupgraded => absurd hupgraded Bool.false_ne_true
  | saveRole user input =>
    simp only [UpsertStage.exec] at h
    split_ifs at h
    · cases h
      exact trivial
    · split at h
      · cases h
        exact trivial
      · cases h
        exact fun _ => rfl
  | createProfile user input upgraded =>
    have hfailed : UpsertProc.RoleSet
        (if upgraded then .running (.rollback user .internal) else .done (.error .internal)) := by
      split_ifs with hupgraded
      · exact hset hupgraded
      · exact trivial
    simp only [UpsertStage.exec] at h
    obtain ⟨-, h⟩ := Option.ite_none_left_eq_some.1 h
    by_cases hfails : i.fails = true
    · rw [if_pos hfails] at h
      exact (Prod.mk.inj (Option.some.inj h)).2 ▸ hfailed
    · rw [if_neg hfails] at h
      split at h
      · exact (Prod.mk.inj (Option.some.inj h)).2 ▸ hfailed
      · cases h
        exact trivial
  | rollback user e =>
    simp only [UpsertStage.exec] at h
    split_ifs at h <;> cases h <;> exact trivial

theorem roleSet_step (h : ∀ r, (s.procs r).RoleSet) (hstep : Program.Step onboarding s a s') :
    ∀ r, (s'.procs r).RoleSet := by
  refine hstep.forall_procs h (fun job w p _ hstart => ?_) fun i p w p' hset hexec => ?_
  · cases hstart
    exact trivial
  · cases p with
    | idle | done => cases hexec
    | running stage => exact UpsertStage.roleSet_exec hset hexec

/-- **One action** is a command with one of the effects, or it changes nothing that matters. -/
theorem onboarding_step_cases (hset : ∀ r, (s.procs r).RoleSet) (hfails : NoWriteFails s a)
    (hstep : Program.Step onboarding s a s') (userId : ObjectId) :
    (∃ r i q, a = .exec r i ∧ s' = s.put r s'.shared q ∧
      UpsertEffect userId s.shared (s.procs r) s'.shared q) ∨
    s'.shared.roleOf userId = s.shared.roleOf userId ∧
      (s'.shared.HasProfile userId ↔ s.shared.HasProfile userId) ∧
      ∀ r, (s'.procs r).creates = (s.procs r).creates ∧
        (s'.procs r).rollsBack = (s.procs r).rollsBack := by
  cases hstep with
  | @start r job w p hidle hstart =>
    have hproc : s.procs r = .idle := by
      cases hr : s.procs r with
      | idle => rfl
      | _ =>
        rw [hr] at hidle
        exact absurd hidle Bool.false_ne_true
    cases hstart
    refine .inr ⟨rfl, .rfl, fun r' => ?_⟩
    by_cases hr : r' = r
    · rw [hr, Parties.put_procs_self, hproc]
      exact ⟨rfl, rfl⟩
    · rw [Parties.put_procs_of_ne hr]
      exact ⟨rfl, rfl⟩
  | @exec r i w p hexec =>
    refine .inl ⟨r, i, p, rfl, rfl, ?_⟩
    have hsetr := hset r
    have hfailsr : (s.procs r).writes = true → i.fails = false := hfails
    cases hr : s.procs r with
    | idle | done =>
      rw [hr] at hexec
      cases hexec
    | running stage =>
      rw [hr] at hexec hsetr hfailsr
      exact upsert_cases hfailsr hsetr hexec
  | surroundings h =>
    cases h
    exact .inr ⟨rfl, .rfl, fun _ => ⟨rfl, rfl⟩⟩

/-- Role and profile of an account while no upgraded request creates a second profile. -/
structure RoleWithProfile (userId : ObjectId) (s : Onboarding R) : Prop where
  nobodyRollsBack : ∀ r, (s.procs r).rollsBack ≠ some userId
  role_of_profile : s.shared.HasProfile userId → s.shared.roleOf userId = some .hr
  role_of_creates : ∀ r upgraded, (s.procs r).creates = some (userId, upgraded) →
    s.shared.roleOf userId = some .hr
  profile_of_role : s.shared.roleOf userId = some .hr →
    s.shared.HasProfile userId ∨ ∃ r, (s.procs r).creates = some (userId, true)

/-- A profile whose account has lost the role, or is about to lose it. -/
def Stranded (userId : ObjectId) (s : Onboarding R) : Prop :=
  s.shared.HasProfile userId ∧
    (s.shared.roleOf userId ≠ some .hr ∨
      ∃ r, (s.procs r).creates = some (userId, true) ∨ (s.procs r).rollsBack = some userId)

/-- **One action** of a run in which the condition is met. -/
theorem roleWithProfile_step (h : RoleWithProfile userId s) (hset : ∀ r, (s.procs r).RoleSet)
    (hfails : NoWriteFails s a) (hfirst : CreatesFirst userId s a)
    (hstep : Program.Step onboarding s a s') : RoleWithProfile userId s' := by
  rcases onboarding_step_cases hset hfails hstep userId with
    ⟨r, i, q, rfl, hput, heffect⟩ | ⟨hrole, hprofile, hprocs⟩
  · have hself : s'.procs r = q := by rw [hput, Parties.put_procs_self]
    have hothers : ∀ r', r' ≠ r → s'.procs r' = s.procs r' := fun r' hr => by
      rw [hput, Parties.put_procs_of_ne hr]
    -- no request is ever about to take the role back
    have hnobody : q.rollsBack ≠ some userId → ∀ r', (s'.procs r').rollsBack ≠ some userId := by
      intro hq r'
      by_cases hr : r' = r
      · rw [hr, hself]
        exact hq
      · rw [hothers r' hr]
        exact h.nobodyRollsBack r'
    cases heffect with
    | quiet hrole hprofile hcreates hrollsBack hnext hnext' =>
      rw [← hrole] at hnext
      refine ⟨hnobody hnext', fun hhas => ?_, fun r' upgraded hr' => ?_, fun hhr => ?_⟩
      · exact hrole.trans (h.role_of_profile (hprofile.1 hhas))
      · by_cases hr : r' = r
        · exact hnext upgraded (hself ▸ hr ▸ hr')
        · exact hrole.trans (h.role_of_creates r' upgraded (hothers r' hr ▸ hr'))
      · rcases h.profile_of_role (hrole.symm.trans hhr) with hhas | ⟨r', hr'⟩
        · exact .inl (hprofile.2 hhas)
        · refine .inr ⟨r', ?_⟩
          rw [hothers r' fun hr => hcreates true (hr ▸ hr')]
          exact hr'
    | upgraded hrole hprofile hcreates hrollsBack hnext hnext' =>
      exact ⟨hnobody hnext', fun _ => hrole, fun _ _ _ => hrole,
        fun _ => .inr ⟨r, hself ▸ hnext⟩⟩
    | created hcreates hnone hrole hprofile hnext hnext' =>
      have hhr : s'.shared.roleOf userId = some .hr := hrole.trans (h.role_of_creates r _ hcreates)
      exact ⟨hnobody (by rw [hnext']; exact (Option.some_ne_none _).symm),
        fun _ => hhr, fun _ _ _ => hhr, fun _ => .inl hprofile⟩
    | @refused upgraded hcreates hprofile hkept hnext hnext' =>
      -- a creation that finds a profile has not changed the role, or it would not be the first
      have hupgraded : upgraded = false := by
        by_contra hne
        rw [Bool.not_eq_false] at hne
        exact hfirst (hne ▸ hcreates) hprofile
      rw [hupgraded] at hnext'
      have hhr : s'.shared.roleOf userId = some .hr := hkept ▸ h.role_of_profile hprofile
      exact ⟨hnobody (by rw [hnext']; exact (Option.some_ne_none _).symm),
        fun _ => hhr, fun _ _ _ => hhr, fun _ => .inl (hkept ▸ hprofile)⟩
    | rolledBack hrollsBack => exact absurd hrollsBack (h.nobodyRollsBack r)
  · refine ⟨fun r => ?_, fun hhas => ?_, fun r upgraded hr => ?_, fun hhr => ?_⟩
    · rw [(hprocs r).2]
      exact h.nobodyRollsBack r
    · exact hrole.trans (h.role_of_profile (hprofile.1 hhas))
    · exact hrole.trans (h.role_of_creates r upgraded ((hprocs r).1.symm.trans hr))
    · rcases h.profile_of_role (hrole.symm.trans hhr) with hhas | ⟨r, hr⟩
      · exact .inl (hprofile.2 hhas)
      · exact .inr ⟨r, (hprocs r).1.trans hr⟩

/-- **One action** never brings a stranded profile back. -/
theorem stranded_step (h : Stranded userId s) (hset : ∀ r, (s.procs r).RoleSet)
    (hfails : NoWriteFails s a) (hstep : Program.Step onboarding s a s') : Stranded userId s' := by
  obtain ⟨hhas, hlost⟩ := h
  rcases onboarding_step_cases hset hfails hstep userId with
    ⟨r, i, q, rfl, hput, heffect⟩ | ⟨hrole, hprofile, hprocs⟩
  · -- the one request that moves decides; the others are where they were
    have hself : s'.procs r = q := by rw [hput, Parties.put_procs_self]
    have hothers : ∀ r', r' ≠ r → s'.procs r' = s.procs r' := fun r' hr => by
      rw [hput, Parties.put_procs_of_ne hr]
    cases heffect with
    | quiet hrole hprofile hcreates hrollsBack =>
      refine ⟨hprofile.2 hhas, hlost.imp (fun hne => hrole ▸ hne) ?_⟩
      rintro ⟨r', hr'⟩
      have hr : r' ≠ r := by
        rintro rfl
        exact hr'.elim (hcreates true) hrollsBack
      exact ⟨r', (hothers r' hr).symm ▸ hr'⟩
    | upgraded _ hprofile _ _ hnext =>
      exact ⟨hprofile.2 hhas, .inr ⟨r, .inl (hself ▸ hnext)⟩⟩
    | created _ hnone => exact absurd hhas hnone
    | @refused upgraded hcreates _ hkept hnext hnext' =>
      refine ⟨hkept ▸ hhas, hlost.imp (fun hne => hkept ▸ hne) ?_⟩
      rintro ⟨r', hr'⟩
      by_cases hr : r' = r
      · -- the request that was about to create takes the role back next
        obtain rfl : upgraded = true := by
          rw [hr] at hr'
          rcases hr' with hr' | hr'
          · exact congrArg Prod.snd (Option.some.inj (hcreates.symm.trans hr'))
          · rw [UpsertProc.rollsBack_of_creates hcreates] at hr'
            exact absurd hr'.symm (Option.some_ne_none _)
        exact ⟨r, .inr (by rw [hself, hnext', if_pos rfl])⟩
      · exact ⟨r', (hothers r' hr).symm ▸ hr'⟩
    | rolledBack _ hrole hprofile => exact ⟨hprofile.2 hhas, .inl hrole⟩
  · refine ⟨hprofile.2 hhas, hlost.imp (fun hne => hrole ▸ hne) ?_⟩
    rintro ⟨r, hr⟩
    exact ⟨r, hr.imp (fun hr => (hprocs r).1.trans hr) fun hr => (hprocs r).2.trans hr⟩

omit [DecidableEq R] in
theorem stranded_of_not_createsFirst (hfirst : ¬ CreatesFirst userId s a) :
    Stranded userId s := by
  cases a with
  | start | surroundings => exact absurd trivial hfirst
  | exec r i =>
    simp only [CreatesFirst, PartyAction.OnExec, Classical.not_imp, not_not] at hfirst
    exact ⟨hfirst.2, .inr ⟨r, .inl hfirst.1⟩⟩

omit [DecidableEq R] in
theorem RoleWithProfile.together (h : RoleWithProfile userId s) (hquiescent : s.Quiescent) :
    Together userId s.shared := by
  refine ⟨fun hhr => (h.profile_of_role hhr).resolve_right ?_, h.role_of_profile⟩
  rintro ⟨r, hr⟩
  exact absurd hr (by rw [(UpsertProc.atRest (hquiescent r)).1]; exact (Option.some_ne_none _).symm)

omit [DecidableEq R] in
theorem Stranded.not_together (h : Stranded userId s) (hquiescent : s.Quiescent) :
    ¬ Together userId s.shared := by
  obtain ⟨hhas, hlost⟩ := h
  intro htogether
  rcases hlost with hrole | ⟨r, hr⟩
  · exact hrole (htogether.2 hhas)
  · obtain ⟨hcreates, hrollsBack⟩ := UpsertProc.atRest (hquiescent r)
    rw [hcreates, hrollsBack] at hr
    exact hr.elim (Option.some_ne_none _).symm (Option.some_ne_none _).symm

/-- **Role and profile end together exactly when a request that has written the role always creates
the profile while there is none.** -/
theorem role_iff_profile_iff {p : Platform} {as : List (OnboardingAction R)}
    (htogether : Together userId p)
    (hfails : (onboarding.machine R).Meets NoWriteFails (Onboarding.init R p) as)
    (hrun : (onboarding.machine R).run (Onboarding.init R p) as = some s)
    (hquiescent : s.Quiescent) :
    Together userId s.shared ↔
      (onboarding.machine R).Meets (CreatesFirst userId) (Onboarding.init R p) as := by
  have hinit : ∀ r, ((Onboarding.init R p).procs r).RoleSet := fun _ => trivial
  constructor
  · intro hend
    -- a step that breaks the condition leaves the user stranded, and the rest of the run keeps that
    refine Machine.meets_iff_forall_prefix.2 fun pre a post t hsplit hpre => ?_
    by_contra hfirst
    subst hsplit
    obtain ⟨t₀, ht₀, hrest⟩ := Machine.run_append.1 hrun
    obtain rfl : t = t₀ := Option.some.inj (hpre.symm.trans ht₀)
    have hset : ∀ r, (t.procs r).RoleSet := Machine.run_invariant'
      (I := fun t : Onboarding R => ∀ r, (t.procs r).RoleSet)
      (fun _ _ _ h hstep => roleSet_step h (Program.step_cases hstep)) hinit hpre
    obtain ⟨-, hstranded⟩ := Machine.run_invariant
      (I := fun t : Onboarding R => (∀ r, (t.procs r).RoleSet) ∧ Stranded userId t)
      (fun _ _ _ h hG hstep => ⟨roleSet_step h.1 (Program.step_cases hstep),
        stranded_step h.2 h.1 hG (Program.step_cases hstep)⟩)
      ⟨hset, stranded_of_not_createsFirst hfirst⟩ (hfails.append_right hpre) hrest
    exact hstranded.not_together hquiescent hend
  · intro hfirst
    have hbegin : RoleWithProfile userId (Onboarding.init R p) :=
      ⟨fun _ => (Option.some_ne_none _).symm, htogether.2,
        fun _ _ h => absurd h.symm (Option.some_ne_none _), fun hhr => .inl (htogether.1 hhr)⟩
    obtain ⟨-, hinv⟩ := Machine.run_invariant
      (I := fun t : Onboarding R => (∀ r, (t.procs r).RoleSet) ∧ RoleWithProfile userId t)
      (fun _ _ _ h hG hstep => ⟨roleSet_step h.1 (Program.step_cases hstep),
        roleWithProfile_step h.2 h.1 hG.1 hG.2 (Program.step_cases hstep)⟩)
      ⟨hinit, hbegin⟩ (hfails.and hfirst) hrun
    exact hinv.together hquiescent

end Runs

/-! ### Two first upserts of one account -/

/-- What client 2 offers as a consultant. -/
def firstOffer : UpsertProfileInput := ⟨["recruitment"], 7500, .usd⟩

/-- The run of a list of actions of two upserts of client 2. -/
def onboardingRun (as : List (OnboardingAction Bool)) : Option (Onboarding Bool) :=
  (onboarding.machine Bool).run (Onboarding.init Bool clientPlatform) as

/-- A request issues commands, and its documents get one identity. -/
def proceed (r : Bool) (newId : ObjectId) (commands : ℕ) : List (OnboardingAction Bool) :=
  List.replicate commands (.exec r ⟨newId, ["recruitment"], false⟩)

/-- Both requests arrive. -/
def bothArrive : List (OnboardingAction Bool) :=
  [.start false (2, firstOffer), .start true (2, firstOffer)]

/-- Both check the specializations, and the second upsert looks for a profile after the first one
has created it. -/
def onboardedBeside : List (OnboardingAction Bool) :=
  bothArrive ++ proceed false 10 1 ++ proceed true 11 1 ++ proceed false 10 4 ++ proceed true 11 2

theorem onboardedBeside_isSome : (onboardingRun onboardedBeside).isSome = true := by
  decide +kernel

theorem onboardedBeside_quiescent :
    ((onboardingRun onboardedBeside).get onboardedBeside_isSome).Quiescent := by
  have h : ∀ r : Bool, (((onboardingRun onboardedBeside).get onboardedBeside_isSome).procs
      r).isAtRest = true := by decide +kernel
  exact h

/-- Both requests succeed, and the account has role and profile. -/
theorem role_iff_profile_beside :
    Together 2 ((onboardingRun onboardedBeside).get onboardedBeside_isSome).shared :=
  (role_iff_profile_iff (R := Bool) (p := clientPlatform) (by decide +kernel) (by decide +kernel)
    (Option.some_get onboardedBeside_isSome).symm onboardedBeside_quiescent).2 (by decide +kernel)

/-- The second upsert finds the role that the first one has just written, and creates the
profile. -/
def onboardedAtOnce : List (OnboardingAction Bool) :=
  bothArrive ++ proceed false 10 4 ++ proceed true 11 4 ++ proceed false 10 2

theorem onboardedAtOnce_isSome : (onboardingRun onboardedAtOnce).isSome = true := by
  decide +kernel

theorem onboardedAtOnce_quiescent :
    ((onboardingRun onboardedAtOnce).get onboardedAtOnce_isSome).Quiescent := by
  have h : ∀ r : Bool, (((onboardingRun onboardedAtOnce).get onboardedAtOnce_isSome).procs
      r).isAtRest = true := by decide +kernel
  exact h

/-- **Role and profile can end apart.**  The rollback of the loser takes back the role that the
winner relies on. -/
theorem not_role_iff_profile :
    ¬ ∀ (R : Type) [DecidableEq R] (userId : ObjectId) (p : Platform)
      (as : List (OnboardingAction R)) (s : Onboarding R), Together userId p →
      (onboarding.machine R).Meets NoWriteFails (Onboarding.init R p) as →
      (onboarding.machine R).run (Onboarding.init R p) as = some s →
      s.Quiescent → Together userId s.shared := by
  intro h
  have hend := h Bool 2 clientPlatform onboardedAtOnce _ (by decide +kernel) (by decide +kernel)
    (Option.some_get onboardedAtOnce_isSome).symm onboardedAtOnce_quiescent
  exact absurd hend (by decide +kernel)

end HrBooking
