import HrBooking.Account.History
import Mathlib.Logic.Equiv.Nat

/-!
# What becomes of an account

`register` and `forgotPassword` of `services/auth.service.ts` beside the account services, one call
after another, as long as no account is deleted.

* `register`, `forgotPassword` : a new account, and a link to reset the password.
* `AccountAction.onUser` : what an account service makes of each account.
* `users_step` : the accounts after an action are the images of those before.
* `credentials` : the machine; it remembers the links that were mailed.
* `Credible` : its invariant.
-/

namespace HrBooking

/-! ### Registration -/

/-- The validated body of a registration. -/
structure RegisterInput where
  email : String
  password : String
  firstName : String
  lastName : String

section

variable (cr : Crypto)

/-- The document of a new account. -/
def newUser (newId : ObjectId) (salt : ℕ) (input : RegisterInput) : User where
  id := newId
  email := toLowerCase input.email
  password := cr.hashPassword input.password salt
  firstName := input.firstName
  lastName := input.lastName
  role := .user
  status := .active
  isEmailVerified := false
  failedLoginAttempts := 0
  lockedUntil := none

/-- `register` -/
def register (newId : ObjectId) (salt : ℕ) (input : RegisterInput) (p : Platform) : Answer User :=
  match p.users.findByKey (toLowerCase input.email) with
  | some _ => p.answer (.error (.conflict "An account with this email already exists."))
  | none =>
    match p.users.insert (newUser cr newId salt input) with
    | none => p.answer (.error .internal)
    | some users => ({ p with users } : Platform).answer (.ok (newUser cr newId salt input))

end

/-- The links to reset a password, which nothing stores. -/
structure Links where
  /-- `signGenericToken` for an account, in a second. -/
  sign : ObjectId → ℤ → String
  /-- How long a link is valid, in seconds. -/
  expiresIn : ℤ

/-- Verification accepts exactly the links that were signed and have not expired. -/
structure Links.VerifiedBy (links : Links) (cr : Crypto) : Prop where
  signed : ∀ userId issuedAt now, cr.verifyResetToken (links.sign userId issuedAt) now =
    if now / 1000 < issuedAt + links.expiresIn then some userId else none
  only : ∀ link now userId, cr.verifyResetToken link now = some userId →
    ∃ issuedAt, link = links.sign userId issuedAt

/-- `forgotPassword` : the link that is mailed, if the address is known. -/
def forgotPassword (links : Links) (email : String) (p : Platform) : Option String :=
  (p.users.findByKey (toLowerCase email)).map fun user =>
    links.sign user.id (p.world.now / 1000)

/-! ### Accounts -/

/-- The account after its password has been verified. -/
def User.afterVerification (user : User) (now : ℤ) (valid : Bool) : User :=
  if valid then user.resetFailedAttempts else user.incrementFailedAttempts now

@[simp] theorem afterVerification_id (user : User) (now : ℤ) (valid : Bool) :
    (user.afterVerification now valid).id = user.id := by
  unfold User.afterVerification User.incrementFailedAttempts
  split_ifs <;> rfl

@[simp] theorem afterVerification_password (user : User) (now : ℤ) (valid : Bool) :
    (user.afterVerification now valid).password = user.password := by
  unfold User.afterVerification User.incrementFailedAttempts
  split_ifs <;> rfl

/-- A login verifies the password of the account. -/
def AccountAction.Verifies (p : Platform) (user : User) : AccountAction → Prop
  | login _ input _ => user.email = toLowerCase input.email ∧ user.Admitted p.world.now
  | _ => False

instance (p : Platform) (user : User) (a : AccountAction) : Decidable (a.Verifies p user) := by
  unfold AccountAction.Verifies
  split <;> infer_instance

/-- What an account service makes of an account. -/
def AccountAction.onUser (cr : Crypto) (p : Platform) (a : AccountAction) (user : User) : User :=
  match a with
  | login d input device =>
    if (login d input device).Verifies p user then
      user.afterVerification p.world.now (cr.verifyPassword input.password user.password)
    else user
  | resetPassword salt link newPassword =>
    if cr.verifyResetToken link p.world.now = some user.id then
      { user with password := cr.hashPassword newPassword salt }
    else user
  | suspendUser userId => if userId = user.id ∧ user.isAdmin = false then user.suspend else user
  | reactivateUser userId =>
    if userId = user.id ∧ user.status = .suspended then user.reactivate else user
  | _ => user

/-- The action deletes an account. -/
def AccountAction.deletes : AccountAction → Bool
  | deleteUser .. => true
  | _ => false

section Users

variable {cr : Crypto} {p p' : Platform} {user : User} {d : Draw} {device : DeviceContext}

theorem andThen_keeps {α β : Type} {q : Platform → Prop} {x : Answer α}
    {f : α → Platform → Answer β} (hx : q x.2) (hf : ∀ a p, q p → q (f a p).2) :
    q (x.andThen f).2 := by
  obtain ⟨_ | a, p⟩ := x
  · exact hx
  · exact hf a p hx

@[simp] theorem answer_ok_andThen {α β : Type} (a : α) (f : α → Platform → Answer β)
    (p : Platform) : (p.answer (.ok a)).andThen f = f a p := rfl

@[simp] theorem answer_error_andThen {α β : Type} (e : AppError) (f : α → Platform → Answer β)
    (p : Platform) : (p.answer (.error e)).andThen f = p.answer (.error e) := rfl

/-- The accounts stay as they are, and no time passes. -/
def Keeps (p p' : Platform) : Prop := p'.users = p.users ∧ p'.world.now = p.world.now

theorem createRefreshToken_keeps (userId : ObjectId) (p : Platform) :
    Keeps p (createRefreshToken cr d userId device p).2 := by
  unfold createRefreshToken
  split_ifs
  · split <;> exact ⟨rfl, rfl⟩
  · exact ⟨rfl, rfl⟩

theorem saveRevoked_keeps (previous : RefreshToken) (now : ℤ) (tokenHash : String)
    (p : Platform) : Keeps p (saveRevoked previous now tokenHash p).2 := by
  unfold saveRevoked
  split
  · exact ⟨rfl, rfl⟩
  · split <;> exact ⟨rfl, rfl⟩

theorem Keeps.trans {p p' p'' : Platform} (h : Keeps p p') (h' : Keeps p' p'') : Keeps p p'' :=
  ⟨h'.1.trans h.1, h'.2.trans h.2⟩

theorem issueTokens_keeps (user : User) (previous : Option RefreshToken) (p : Platform) :
    Keeps p (issueTokens cr d user device previous p).2 := by
  refine andThen_keeps (q := Keeps p) (createRefreshToken_keeps user.id p) fun _ p' hp' => ?_
  cases previous with
  | none => exact hp'
  | some s =>
    have hsaved := hp'.trans (saveRevoked_keeps s p'.world.now
      (cr.hashRefreshToken d.rawRefreshToken) p')
    exact andThen_keeps (q := Keeps p) hsaved fun _ _ hq => hq

/-- The accounts after a write are the images of those before. -/
def Rewrites (f : User → User) (users users' : Collection User) : Prop :=
  ∀ x, x ∈ users' ↔ ∃ u ∈ users, f u = x

theorem rewrites_of_eq {f : User → User} {users users' : Collection User} (heq : users' = users)
    (hf : ∀ u ∈ users, f u = u) : Rewrites f users users' := by
  intro x
  rw [heq]
  constructor
  · exact fun hx => ⟨x, hx, hf x hx⟩
  · rintro ⟨u, hu, rfl⟩
    rwa [hf u hu]

theorem saveUser_rewrites {v : User} {f : User → User} (huser : user ∈ p.users)
    (hv : user.saveOver v user = v) (hf : f user = v)
    (hothers : ∀ u ∈ p.users, u.id ≠ user.id → f u = u) :
    ∃ users, saveUser user v p = (.ok (), { p with users }) ∧ Rewrites f p.users users := by
  obtain ⟨users, hsave, hmem⟩ := saveUser_of_mem v huser
  refine ⟨users, hsave, fun x => ?_⟩
  rw [hmem, hv]
  constructor
  · rintro (⟨hx, hid⟩ | rfl)
    · exact ⟨x, hx, hothers x hx hid⟩
    · exact ⟨user, huser, hf⟩
  · rintro ⟨u, hu, rfl⟩
    by_cases hid : u.id = user.id
    · obtain rfl : u = user := Collection.eq_of_docId hu huser hid
      exact .inr hf
    · rw [hothers u hu hid]
      exact .inl ⟨hu, hid⟩

theorem saveOver_eq {current : User} (h : { user with
    password := current.password, role := current.role, status := current.status,
    failedLoginAttempts := current.failedLoginAttempts,
    lockedUntil := current.lockedUntil } = current) : user.saveOver current user = current := by
  unfold User.saveOver
  simp only [savePath_loaded]
  exact h

theorem saveOver_afterVerification (user : User) (now : ℤ) (valid : Bool) :
    user.saveOver (user.afterVerification now valid) user = user.afterVerification now valid := by
  refine saveOver_eq ?_
  unfold User.afterVerification User.incrementFailedAttempts
  split_ifs <;> rfl

theorem resetFailedAttempts_eq_self
    (h : ¬ (0 < user.failedLoginAttempts ∨ user.lockedUntil.isSome)) :
    user.resetFailedAttempts = user := by
  obtain ⟨hfailed, hlocked⟩ := not_or.1 h
  have hzero : user.failedLoginAttempts = 0 := Nat.eq_zero_of_not_pos hfailed
  have hnone : user.lockedUntil = none := Option.not_isSome_iff_eq_none.1 hlocked
  unfold User.resetFailedAttempts
  rw [← hzero, ← hnone]

theorem login_rewrites {f : User → User} {input : LoginInput}
    (hadmitted : admitted p.world.now (p.users.findByKey (toLowerCase input.email)) = .ok user)
    (huser : user ∈ p.users)
    (hf : f user = user.afterVerification p.world.now
      (cr.verifyPassword input.password user.password))
    (hothers : ∀ u ∈ p.users, u.id ≠ user.id → f u = u) :
    Rewrites f p.users (login cr d input device p).2.users := by
  unfold login
  rw [hadmitted, answer_ok_andThen]
  by_cases hpassword : cr.verifyPassword input.password user.password = false
  · rw [hpassword] at hf
    obtain ⟨users, hsave, hrewrites⟩ :=
      saveUser_rewrites huser (saveOver_afterVerification _ _ _) hf hothers
    rw [if_pos hpassword]
    refine andThen_keeps (q := fun p' => Rewrites f p.users p'.users) ?_ fun _ _ h => h
    exact (congrArg (fun a : Answer Unit => a.2.users) hsave).symm ▸ hrewrites
  · rw [Bool.eq_true_of_not_eq_false hpassword] at hf
    have hgo : ∀ (_ : Unit) (q : Platform), Rewrites f p.users q.users → Rewrites f p.users
        (if user.isEmailVerified then issueTokens cr d user.resetFailedAttempts device none q
        else q.answer (.error (.unauthorized
          "Please verify your email address before logging in."))).2.users := by
      intro _ q hq
      split_ifs
      · rw [(issueTokens_keeps user.resetFailedAttempts none q).1]
        exact hq
      · exact hq
    rw [if_neg hpassword]
    refine andThen_keeps (q := fun p' => Rewrites f p.users p'.users) ?_ hgo
    by_cases hfailed : 0 < user.failedLoginAttempts ∨ user.lockedUntil.isSome
    · obtain ⟨users, hsave, hrewrites⟩ :=
        saveUser_rewrites huser (saveOver_afterVerification _ _ _) hf hothers
      rw [if_pos hfailed]
      exact (congrArg (fun a : Answer Unit => a.2.users) hsave).symm ▸ hrewrites
    · -- nothing is saved: the counter was clear, so the rewriting is the identity
      have hself : f user = user := hf.trans (resetFailedAttempts_eq_self hfailed)
      rw [if_neg hfailed]
      refine rewrites_of_eq rfl fun u hu => ?_
      by_cases hid : u.id = user.id
      · obtain rfl : u = user := Collection.eq_of_docId hu huser hid
        exact hself
      · exact hothers u hu hid

theorem login_users (input : LoginInput) :
    Rewrites ((AccountAction.login d input device).onUser cr p) p.users
      (login cr d input device p).2.users := by
  cases hadmitted : admitted p.world.now (p.users.findByKey (toLowerCase input.email)) with
  | error e =>
    have hrefused : (login cr d input device p).2.users = p.users := by
      unfold login
      rw [hadmitted]
      rfl
    refine rewrites_of_eq hrefused fun u hu => if_neg ?_
    rintro ⟨hemail, hok⟩
    have hfind : p.users.findByKey (toLowerCase input.email) = some u :=
      Collection.findByKey_eq_some.2 ⟨hu, congrArg some hemail⟩
    have hpassed := admitted_eq_ok.2 ⟨hfind, hok⟩
    cases hadmitted.symm.trans hpassed
  | ok user =>
    obtain ⟨hfind, hok⟩ := admitted_eq_ok.1 hadmitted
    obtain ⟨hmem, hemail⟩ := Collection.findByKey_eq_some.1 hfind
    refine login_rewrites hadmitted hmem (if_pos ⟨Option.some.inj hemail, hok⟩) ?_
    refine fun u hu hid => if_neg fun hu' => hid ?_
    exact congrArg User.id (Collection.eq_of_indexKey hu hmem (congrArg some hu'.1) hemail)

/-- A session is continued or refused; the accounts stay. -/
theorem refresh_keeps (presented : Option String) :
    Keeps p (refresh cr d presented device p).2 := by
  rcases refresh_cases cr d p presented device with
    ⟨e, hrun⟩ | ⟨stored, -, -, e, hrun⟩ | ⟨-, stored, user, -, -, -, -, -, -, -, -, hrun⟩
  · rw [hrun]
    exact ⟨rfl, rfl⟩
  · rw [hrun]
    exact ⟨rfl, rfl⟩
  · rw [hrun]
    exact issueTokens_keeps user (some stored) p

theorem logout_keeps (presented : Option String) : Keeps p (logout cr presented p).2 := by
  unfold logout
  split <;> exact ⟨rfl, rfl⟩

theorem resetPassword_users (salt : ℕ) (link newPassword : String) :
    Rewrites ((AccountAction.resetPassword salt link newPassword).onUser cr p) p.users
      (resetPassword cr salt link newPassword p).2.users := by
  unfold resetPassword resetTarget
  cases hfind : (cr.verifyResetToken link p.world.now).bind p.users.findById with
  | none =>
    refine rewrites_of_eq rfl fun u hu => if_neg fun hid => ?_
    have hfound : p.users.findById u.id = some u := Collection.findById_of_mem hu
    rw [hid, Option.bind_some, hfound] at hfind
    cases hfind
  | some user =>
    obtain ⟨id, hid, hfind⟩ := Option.bind_eq_some_iff.1 hfind
    obtain ⟨hmem, hdoc⟩ := Collection.findById_eq_some.1 hfind
    obtain rfl : user.id = id := hdoc
    obtain ⟨users, hsave, hrewrites⟩ := saveUser_rewrites
      (f := (AccountAction.resetPassword salt link newPassword).onUser cr p)
      (v := { user with password := cr.hashPassword newPassword salt }) hmem
      (saveOver_eq rfl) (if_pos hid) fun u _ hne => if_neg fun hu =>
        hne (Option.some.inj (hu.symm.trans hid))
    simp only [answer_ok_andThen, hsave]
    exact hrewrites

theorem suspendUser_users (userId : ObjectId) :
    Rewrites ((AccountAction.suspendUser userId).onUser cr p) p.users
      (suspendUser userId p).2.users := by
  unfold suspendUser
  cases hsuspendable : suspendable (p.users.findById userId) with
  | error e =>
    refine rewrites_of_eq rfl fun u hu => ?_
    -- an account that is suspended stays as it is
    refine ite_eq_right_iff.2 ?_
    rintro ⟨rfl, hadmin⟩
    by_cases hsuspended : u.status = .suspended
    · unfold User.suspend
      rw [← hsuspended]
    · have hfound : p.users.findById u.id = some u := Collection.findById_of_mem hu
      cases hsuspendable.symm.trans (suspendable_eq_ok.2 ⟨hfound, hadmin, hsuspended⟩)
  | ok user =>
    obtain ⟨hfind, hadmin, -⟩ := suspendable_eq_ok.1 hsuspendable
    obtain ⟨hmem, hid⟩ := Collection.findById_eq_some.1 hfind
    obtain rfl : user.id = userId := hid
    obtain ⟨users, hsave, hrewrites⟩ := saveUser_rewrites
      (f := (AccountAction.suspendUser user.id).onUser cr p) hmem
      (v := user.suspend) (saveOver_eq rfl) (if_pos ⟨rfl, hadmin⟩)
      fun u _ hne => if_neg fun hu => hne hu.1.symm
    simp only [answer_ok_andThen, hsave]
    exact hrewrites

theorem reactivateUser_users (userId : ObjectId) :
    Rewrites ((AccountAction.reactivateUser userId).onUser cr p) p.users
      (reactivateUser userId p).2.users := by
  unfold reactivateUser
  cases hreactivable : reactivable (p.users.findById userId) with
  | error e =>
    refine rewrites_of_eq rfl fun u hu => if_neg ?_
    rintro ⟨rfl, hsuspended⟩
    have hfound : p.users.findById u.id = some u := Collection.findById_of_mem hu
    cases hreactivable.symm.trans (reactivable_eq_ok.2 ⟨hfound, hsuspended⟩)
  | ok user =>
    obtain ⟨hfind, hsuspended⟩ := reactivable_eq_ok.1 hreactivable
    obtain ⟨hmem, hid⟩ := Collection.findById_eq_some.1 hfind
    obtain rfl : user.id = userId := hid
    obtain ⟨users, hsave, hrewrites⟩ := saveUser_rewrites
      (f := (AccountAction.reactivateUser user.id).onUser cr p) hmem
      (v := user.reactivate) (saveOver_eq rfl) (if_pos ⟨rfl, hsuspended⟩)
      fun u _ hne => if_neg fun hu => hne hu.1.symm
    simp only [answer_ok_andThen, hsave]
    exact hrewrites

/-- **One step**: unless it deletes an account, the accounts after it are the images of those
before. -/
theorem users_step {a : AccountAction} {p' : Platform} (hdeletes : a.deletes = false)
    (hstep : (accounts cr).step p a = some p') : Rewrites (a.onUser cr p) p.users p'.users := by
  cases a with
  | login d input device =>
    obtain ⟨-, hp'⟩ := Option.ite_none_right_eq_some.1 hstep
    exact Option.some.inj hp' ▸ login_users input
  | refresh d presented device =>
    obtain ⟨-, hp'⟩ := Option.ite_none_right_eq_some.1 hstep
    exact rewrites_of_eq (Option.some.inj hp' ▸ (refresh_keeps presented).1) fun _ _ => rfl
  | logout presented =>
    exact rewrites_of_eq (Option.some.inj hstep ▸ (logout_keeps presented).1) fun _ _ => rfl
  | resetPassword salt link newPassword =>
    exact Option.some.inj hstep ▸ resetPassword_users salt link newPassword
  | suspendUser userId => exact Option.some.inj hstep ▸ suspendUser_users userId
  | reactivateUser userId => exact Option.some.inj hstep ▸ reactivateUser_users userId
  | deleteUser o actor userId => cases hdeletes
  | expire id => exact rewrites_of_eq (Option.some.inj hstep ▸ rfl) fun _ _ => rfl
  | advance ms => exact rewrites_of_eq (Option.some.inj hstep ▸ rfl) fun _ _ => rfl

theorem saveUser_now (loaded current : User) (p : Platform) :
    (saveUser loaded current p).2.world.now = p.world.now := by
  unfold saveUser
  split
  · rfl
  · split <;> rfl

theorem login_now (input : LoginInput) :
    (login cr d input device p).2.world.now = p.world.now := by
  refine andThen_keeps (q := fun p' => p'.world.now = p.world.now) rfl fun user q hq => ?_
  by_cases hpassword : cr.verifyPassword input.password user.password = false
  · rw [if_pos hpassword]
    exact andThen_keeps (q := fun p' => p'.world.now = p.world.now)
      ((saveUser_now _ _ q).trans hq) fun _ _ h => h
  · rw [if_neg hpassword]
    refine andThen_keeps (q := fun p' => p'.world.now = p.world.now) ?_ fun _ p' hp' => ?_
    · split_ifs
      · exact (saveUser_now _ _ q).trans hq
      · exact hq
    · split_ifs
      · exact (issueTokens_keeps _ _ p').2.trans hp'
      · exact hp'

/-- **One step** does not go back in time. -/
theorem now_step {a : AccountAction} {p' : Platform} (hdeletes : a.deletes = false)
    (hstep : (accounts cr).step p a = some p') : p.world.now ≤ p'.world.now := by
  cases a with
  | login d input device =>
    obtain ⟨-, hp'⟩ := Option.ite_none_right_eq_some.1 hstep
    exact Option.some.inj hp' ▸ (login_now input).ge
  | refresh d presented device =>
    obtain ⟨-, hp'⟩ := Option.ite_none_right_eq_some.1 hstep
    exact Option.some.inj hp' ▸ (refresh_keeps presented).2.ge
  | logout presented => exact Option.some.inj hstep ▸ (logout_keeps presented).2.ge
  | resetPassword salt link newPassword =>
    obtain rfl := (Option.some.inj hstep).symm
    rcases resetPassword_cases cr p salt link newPassword with
      ⟨e, hrun⟩ | ⟨user, -, -, users, -, hrun⟩
    · rw [hrun]
      exact le_rfl
    · rw [hrun]
      exact le_rfl
  | suspendUser userId =>
    obtain rfl := (Option.some.inj hstep).symm
    rcases suspendUser_cases p userId with ⟨e, hrun⟩ | ⟨suspended, users, hrun, -⟩
    · rw [hrun]
      exact le_rfl
    · rw [hrun]
      exact le_rfl
  | reactivateUser userId =>
    obtain rfl := (Option.some.inj hstep).symm
    obtain ⟨users, -, answer, hrun⟩ := reactivateUser_cases p userId
    rw [hrun]
    exact le_rfl
  | deleteUser o actor userId => cases hdeletes
  | expire id => exact Option.some.inj hstep ▸ le_rfl
  | advance ms =>
    exact Option.some.inj hstep ▸ Int.le_add_of_nonneg_right (Int.natCast_nonneg ms)

end Users

/-! ### The machine -/

/-- The state of the account services and the links that were mailed. -/
structure Mailroom where
  platform : Platform
  mailed : List String

/-- One call of an account service or of those for visitors. -/
inductive CredentialAction where
  | register (newId : ObjectId) (salt : ℕ) (input : RegisterInput)
  | forgotPassword (email : String)
  | account (a : AccountAction)

section

variable (cr : Crypto) (links : Links)

/-- One action; the deletion of an account is not among them. -/
def CredentialAction.exec (s : Mailroom) : CredentialAction → Option Mailroom
  | register newId salt input =>
    some { s with platform := (HrBooking.register cr newId salt input s.platform).2 }
  | forgotPassword email =>
    some { s with mailed := (HrBooking.forgotPassword links email s.platform).toList ++ s.mailed }
  | account a =>
    if a.deletes then none else (a.exec cr s.platform).map fun platform => { s with platform }

/-- The account services with registration and the links as a machine. -/
def credentials : Machine Mailroom CredentialAction := ⟨fun s a => a.exec cr links s⟩

/-- **The invariant**: the sessions are sound, and a link was mailed for a stored account. -/
structure Credible (s : Mailroom) : Prop where
  sound : Sound cr s.platform
  mailed : ∀ link ∈ s.mailed, ∃ u ∈ s.platform.users, ∃ issuedAt, link = links.sign u.id issuedAt

end

section Machine

variable {cr : Crypto} {links : Links} {s s' : Mailroom} {a : CredentialAction}

theorem register_cases (cr : Crypto) (newId : ObjectId) (salt : ℕ) (input : RegisterInput)
    (p : Platform) :
    ∃ users, (register cr newId salt input p).2 = { p with users } ∧
      (∀ u ∈ p.users, u ∈ users) ∧
      ∀ u ∈ users, u ∈ p.users ∨ u = newUser cr newId salt input := by
  unfold register
  split
  · exact ⟨p.users, rfl, fun _ hu => hu, fun _ hu => .inl hu⟩
  · split
    · exact ⟨p.users, rfl, fun _ hu => hu, fun _ hu => .inl hu⟩
    · rename_i hinsert
      exact ⟨_, rfl, fun _ hu => (Collection.mem_insert hinsert).2 (.inl hu),
        fun _ hu => (Collection.mem_insert hinsert).1 hu⟩

/-- **What an action does**: it is one of the account services, or accounts or links are added. -/
theorem credential_step_cases (hstep : (credentials cr links).step s a = some s') :
    (∃ b, a = .account b ∧ b.deletes = false ∧
      (accounts cr).step s.platform b = some s'.platform ∧ s'.mailed = s.mailed) ∨
    ((∀ b, a ≠ .account b) ∧
      ∃ users, s'.platform = { s.platform with users } ∧
        (∀ u ∈ s.platform.users, u ∈ users) ∧
        (∀ u ∈ users, u ∈ s.platform.users ∨
          ∃ newId salt input, u = newUser cr newId salt input) ∧
        ∀ link ∈ s'.mailed, link ∈ s.mailed ∨
          ∃ u ∈ s.platform.users, ∃ issuedAt, link = links.sign u.id issuedAt) := by
  cases a with
  | register newId salt input =>
    obtain ⟨users, hrun, hkeeps, hnew⟩ := register_cases cr newId salt input s.platform
    obtain rfl := (Option.some.inj hstep).symm
    exact .inr ⟨fun b hb => (by cases hb), users, hrun, hkeeps,
      fun u hu => (hnew u hu).imp_right fun h => ⟨newId, salt, input, h⟩,
      fun _ hlink => .inl hlink⟩
  | forgotPassword email =>
    obtain rfl := (Option.some.inj hstep).symm
    refine .inr ⟨fun b hb => (by cases hb), s.platform.users, rfl, fun _ hu => hu,
      fun _ hu => .inl hu, fun link hlink => ?_⟩
    rcases List.mem_append.1 hlink with hnew | hold
    · obtain ⟨user, hfind, rfl⟩ := Option.map_eq_some_iff.1 (Option.mem_toList.1 hnew)
      exact .inr ⟨user, (Collection.findByKey_eq_some.1 hfind).1, _, rfl⟩
    · exact .inl hold
  | account b =>
    obtain ⟨hdeletes, hstep⟩ := Option.ite_none_left_eq_some.1 hstep
    obtain ⟨platform, hplatform, rfl⟩ := Option.map_eq_some_iff.1 hstep
    exact .inl ⟨b, rfl, Bool.eq_false_iff.2 hdeletes, hplatform, rfl⟩

theorem onUser_id (cr : Crypto) (p : Platform) (a : AccountAction) (user : User) :
    (a.onUser cr p user).id = user.id := by
  unfold AccountAction.onUser
  split
  · split_ifs
    · exact afterVerification_id user _ _
    · rfl
  · split_ifs <;> rfl
  · split_ifs <;> rfl
  · split_ifs <;> rfl
  · rfl

theorem exists_user_step (hstep : (credentials cr links).step s a = some s') {user : User}
    (huser : user ∈ s.platform.users) : ∃ u ∈ s'.platform.users, u.id = user.id := by
  rcases credential_step_cases hstep with
    ⟨b, -, hdeletes, hb, -⟩ | ⟨-, users, hplatform, hkeeps, -, -⟩
  · exact ⟨b.onUser cr s.platform user, (users_step hdeletes hb _).2 ⟨user, huser, rfl⟩,
      onUser_id cr s.platform b user⟩
  · rw [hplatform]
    exact ⟨user, hkeeps user huser, rfl⟩

/-- **One step** keeps the invariant. -/
theorem credible_step (hinj : Function.Injective cr.hashRefreshToken) (h : Credible cr links s)
    (hstep : (credentials cr links).step s a = some s') : Credible cr links s' := by
  have hmailed : ∀ link ∈ s'.mailed, ∃ u ∈ s.platform.users, ∃ issuedAt,
      link = links.sign u.id issuedAt := by
    intro link hlink
    rcases credential_step_cases hstep with ⟨b, -, -, -, hsame⟩ | ⟨-, users, -, -, -, hnew⟩
    · exact h.mailed link (hsame ▸ hlink)
    · exact (hnew link hlink).elim (h.mailed link) id
  constructor
  · rcases credential_step_cases hstep with
      ⟨b, -, -, hb, -⟩ | ⟨-, users, hplatform, hkeeps, -⟩
    · exact sound_step h.sound hinj hb
    · rw [hplatform]
      refine ⟨h.sound.drawn, h.sound.ids, fun t ht => ?_⟩
      obtain ⟨u, hu, hactive⟩ := h.sound.active t ht
      exact ⟨u, hkeeps u hu, hactive⟩
  · intro link hlink
    obtain ⟨user, huser, issuedAt, rfl⟩ := hmailed link hlink
    obtain ⟨u, hu, hid⟩ := exists_user_step hstep huser
    exact ⟨u, hu, issuedAt, by rw [hid]⟩

end Machine

/-! ### Links that are tallies -/

/-- A link is the account and the second it was signed in, as tallies. -/
def tallyLinks : Links where
  sign userId issuedAt := String.ofList
    (List.replicate userId 'a' ++ List.replicate (Equiv.intEquivNat issuedAt) 'b')
  expiresIn := 60 * 60

/-- The account and the second that are tallied. -/
def readTally (link : String) : ObjectId × ℤ :=
  (link.toList.count 'a', Equiv.intEquivNat.symm (link.toList.count 'b'))

def tallyCrypto : Crypto :=
  { sampleCrypto with
    verifyResetToken := fun link now =>
      if link = tallyLinks.sign (readTally link).1 (readTally link).2 ∧
          now / 1000 < (readTally link).2 + tallyLinks.expiresIn then
        some (readTally link).1
      else none }

theorem readTally_sign (userId : ObjectId) (issuedAt : ℤ) :
    readTally (tallyLinks.sign userId issuedAt) = (userId, issuedAt) := by
  simp [readTally, tallyLinks, List.count_replicate]

theorem tallyLinks_verifiedBy : tallyLinks.VerifiedBy tallyCrypto where
  signed userId issuedAt now := by
    simp [tallyCrypto, readTally_sign]
  only link now userId h := by
    obtain ⟨⟨hlink, -⟩, h⟩ := Option.ite_none_right_eq_some.1 h
    cases h
    exact ⟨_, hlink⟩

theorem tallyCrypto_password (q q' : String) (salt : ℕ) :
    tallyCrypto.verifyPassword q (tallyCrypto.hashPassword q' salt) = true ↔ q = q' := by
  simp [tallyCrypto, sampleCrypto, eq_comm]

/-- Nothing was mailed to client 2 yet. -/
def clientRoom : Mailroom := ⟨clientPlatform, []⟩

end HrBooking
