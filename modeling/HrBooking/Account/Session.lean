import HrBooking.Account.Record
import Mathlib.Logic.Equiv.Basic

/-!
# Sessions

`login`, `refresh`, `logout` and `resetPassword` of `services/auth.service.ts` and `suspendUser` and
`reactivateUser` of `services/admin-user.service.ts`, each as one call on the shared state.

* `issueTokens` : a new session, in place of the one it continues.
* `issueTokens_cases` : it stores the session, or the device does not fit.
* `login_cases`, `refresh_cases`, `resetPassword_cases`, `suspendUser_cases`,
  `reactivateUser_cases` : what each call does to the accounts and the sessions.
* `refresh_of_open` : an open session of an active account is continued.
-/

namespace HrBooking

/-- What a service answers and the state it leaves; it may have written before it throws. -/
abbrev Answer (α : Type) := Except AppError α × Platform

/-- Go on after a call that answers. -/
def Answer.andThen {α β : Type} (x : Answer α) (f : α → Platform → Answer β) : Answer β :=
  match x with
  | (.ok a, p) => f a p
  | (.error e, p) => (.error e, p)

/-- Answer without a write, or refuse. -/
def Platform.answer {α : Type} (p : Platform) (x : Except AppError α) : Answer α := (x, p)

/-- `toLowerCase` on an address, which has ASCII characters only. -/
def toLowerCase (email : String) : String := String.ofList (email.toList.map Char.toLower)

/-- A password and an e-mail address, as they are typed in. -/
structure LoginInput where
  email : String
  password : String

/-- What a client gets. -/
structure AuthResult where
  user : User
  accessToken : String
  refreshToken : String

/-! ### Writes -/

/-- `user.save()` : only modified paths are written. -/
def User.saveOver (loaded current stored : User) : User :=
  { stored with
    password := savePath loaded.password current.password stored.password
    role := savePath loaded.role current.role stored.role
    status := savePath loaded.status current.status stored.status
    failedLoginAttempts :=
      savePath loaded.failedLoginAttempts current.failedLoginAttempts stored.failedLoginAttempts
    lockedUntil := savePath loaded.lockedUntil current.lockedUntil stored.lockedUntil }

/-- `user.save()` ; a document that is gone cannot be saved. -/
def saveUser (loaded current : User) (p : Platform) : Answer Unit :=
  match p.users.findById loaded.id with
  | none => p.answer (.error .internal)
  | some _ =>
    match p.users.update loaded.id (loaded.saveOver current) with
    | none => p.answer (.error .internal)
    | some users => (.ok (), { p with users })

/-- `previous.save()` after the revocation. -/
def saveRevoked (previous : RefreshToken) (now : ℤ) (tokenHash : String) (p : Platform) :
    Answer Unit :=
  match p.refreshTokens.findById previous.id with
  | none => p.answer (.error .internal)
  | some _ =>
    match p.refreshTokens.update previous.id fun stored => stored.revoke now tokenHash with
    | none => p.answer (.error .internal)
    | some refreshTokens => (.ok (), { p with refreshTokens })

/-- The document of a new session. -/
def newRefreshToken (cr : Crypto) (d : Draw) (userId : ObjectId) (device : DeviceContext)
    (now : ℤ) : RefreshToken where
  id := d.newId
  userId := userId
  tokenHash := cr.hashRefreshToken d.rawRefreshToken
  expiresAt := now + refreshTokenTtlMs
  revokedAt := none
  replacedByTokenHash := none
  userAgent := device.userAgent
  ip := device.ip

/-- The random token is drawn and the document gets its identity. -/
def Platform.draw (p : Platform) (d : Draw) : Platform :=
  { p with
    world := { p.world with issuedIds := d.newId :: p.world.issuedIds }
    drawnTokens := d.rawRefreshToken :: p.drawnTokens }

/-- `RefreshToken.create` : the schema is checked, then the document is inserted. -/
def createRefreshToken (cr : Crypto) (d : Draw) (userId : ObjectId) (device : DeviceContext)
    (p : Platform) : Answer Unit :=
  if device.Fits then
    match p.refreshTokens.insert (newRefreshToken cr d userId device p.world.now) with
    | none => (p.draw d).answer (.error .internal)
    | some refreshTokens => (.ok (), { p.draw d with refreshTokens })
  else (p.draw d).answer (.error .internal)

/-! ### Calls -/

section

variable (cr : Crypto) (d : Draw)

/-- What the client gets for a new session. -/
def authResult (user : User) (now : ℤ) : AuthResult where
  user := user
  accessToken := cr.signAccessToken user.id user.role now
  refreshToken := d.rawRefreshToken

/-- `issueTokens` -/
def issueTokens (user : User) (device : DeviceContext) (previous : Option RefreshToken)
    (p : Platform) : Answer AuthResult :=
  (createRefreshToken cr d user.id device p).andThen fun _ p' =>
    match previous with
    | none => p'.answer (.ok (authResult cr d user p.world.now))
    | some previous =>
      (saveRevoked previous p'.world.now (cr.hashRefreshToken d.rawRefreshToken) p').andThen
        fun _ p'' => p''.answer (.ok (authResult cr d user p.world.now))

/-- `incrementFailedAttempts`, before the save. -/
def User.incrementFailedAttempts (user : User) (now : ℤ) : User :=
  if AuthLimits.maxFailedAttempts ≤ user.failedLoginAttempts + 1 then
    { user with failedLoginAttempts := 0, lockedUntil := some (now + AuthLimits.lockoutMs) }
  else { user with failedLoginAttempts := user.failedLoginAttempts + 1 }

/-- `resetFailedAttempts`, before the save. -/
def User.resetFailedAttempts (user : User) : User :=
  { user with failedLoginAttempts := 0, lockedUntil := none }

/-- The check of `login` on the account that was found. -/
def admitted (now : ℤ) (found : Option User) : Except AppError User :=
  match found with
  | none => .error (.unauthorized "Invalid email or password.")
  | some user =>
    if user.status ≠ .active then .error (.forbidden "This account has been suspended.")
    else if ∃ lockedUntil ∈ user.lockedUntil, now < lockedUntil then
      .error (.unauthorized "Too many failed attempts. Try again later.")
    else .ok user

/-- A login goes on to the password: the account is active and not locked. -/
def User.Admitted (now : ℤ) (user : User) : Prop :=
  user.status = .active ∧ ∀ lockedUntil ∈ user.lockedUntil, lockedUntil ≤ now

instance (now : ℤ) (user : User) : Decidable (user.Admitted now) :=
  inferInstanceAs (Decidable (_ ∧ _))

/-- `login` -/
def login (input : LoginInput) (device : DeviceContext) (p : Platform) : Answer AuthResult :=
  (p.answer (admitted p.world.now (p.users.findByKey (toLowerCase input.email)))).andThen
    fun user p =>
      if cr.verifyPassword input.password user.password = false then
        (saveUser user (user.incrementFailedAttempts p.world.now) p).andThen fun _ p =>
          p.answer (.error (.unauthorized "Invalid email or password."))
      else
        -- without failed attempts and without a lock nothing is saved
        (if 0 < user.failedLoginAttempts ∨ user.lockedUntil.isSome then
          saveUser user user.resetFailedAttempts p
        else p.answer (.ok ())).andThen fun _ p =>
          if user.isEmailVerified then issueTokens cr d user.resetFailedAttempts device none p
          else p.answer
            (.error (.unauthorized "Please verify your email address before logging in."))

/-- The check of `refresh` on the record that was found. -/
def unrevoked (found : Option RefreshToken) : Except AppError RefreshToken :=
  match found with
  | none => .error (.unauthorized "Invalid or revoked refresh token.")
  | some stored =>
    if stored.revokedAt.isSome then .error (.unauthorized "Invalid or revoked refresh token.")
    else .ok stored

/-- The check of `refresh` on the account that was found. -/
def stillActive (found : Option User) : Except AppError User :=
  match found with
  | none => .error (.unauthorized "Account no longer active.")
  | some user =>
    if user.status ≠ .active then .error (.unauthorized "Account no longer active.") else .ok user

/-- `RefreshToken.deleteOne` of a record that has expired. -/
def Platform.removeToken (p : Platform) (id : ObjectId) : Platform :=
  { p with refreshTokens := p.refreshTokens.delete fun t => t.id = id }

/-- `RefreshToken.deleteMany` of one account. -/
def Platform.removeTokensOf (p : Platform) (userId : ObjectId) : Platform :=
  { p with refreshTokens := p.refreshTokens.delete fun t => t.userId = userId }

/-- The token a client presents; an empty one counts as none. -/
def presentedToken (refreshToken : Option String) : Option String :=
  refreshToken.filter fun token => token ≠ ""

/-- `refresh` -/
def refresh (refreshToken : Option String) (device : DeviceContext) (p : Platform) :
    Answer AuthResult :=
  match presentedToken refreshToken with
  | none => p.answer (.error (.unauthorized "Missing refresh token."))
  | some token =>
    (p.answer (unrevoked (p.refreshTokens.findByKey (cr.hashRefreshToken token)))).andThen
      fun stored p =>
        if stored.expiresAt < p.world.now then
          (p.removeToken stored.id).answer (.error (.unauthorized "Refresh token has expired."))
        else
          (p.answer (stillActive (p.users.findById stored.userId))).andThen fun user p =>
            issueTokens cr d user device (some stored) p

/-- `logout` -/
def logout (refreshToken : Option String) (p : Platform) : Answer Unit :=
  match presentedToken refreshToken with
  | none => p.answer (.ok ())
  | some token =>
    let p := { p with
      refreshTokens :=
        p.refreshTokens.delete fun t => t.tokenHash = cr.hashRefreshToken token }
    p.answer (.ok ())

/-- The account a link to reset a password is for. -/
def resetTarget (token : String) (p : Platform) : Except AppError User :=
  match (cr.verifyResetToken token p.world.now).bind p.users.findById with
  | none => .error (.unauthorized "The reset link is invalid or has expired.")
  | some user => .ok user

/-- `resetPassword` -/
def resetPassword (salt : ℕ) (token newPassword : String) (p : Platform) : Answer Unit :=
  (p.answer (resetTarget cr token p)).andThen fun user p =>
    (saveUser user { user with password := cr.hashPassword newPassword salt } p).andThen
      fun _ p => (p.removeTokensOf user.id).answer (.ok ())

end

/-- The checks of `suspendUser`. -/
def suspendable (found : Option User) : Except AppError User :=
  match found with
  | none => .error (.notFound "User not found.")
  | some user =>
    if user.isAdmin then .error (.badRequest "Admin accounts cannot be suspended here.")
    else if user.status = .suspended then
      .error (.conflict "This account is already suspended.")
    else .ok user

/-- `suspendUser`, before the save. -/
def User.suspend (user : User) : User := { user with status := .suspended }

/-- `suspendUser` -/
def suspendUser (userId : ObjectId) (p : Platform) : Answer User :=
  (p.answer (suspendable (p.users.findById userId))).andThen fun user p =>
    (saveUser user user.suspend p).andThen fun _ p =>
      (p.removeTokensOf user.id).answer (.ok user.suspend)

/-- The checks of `reactivateUser`. -/
def reactivable (found : Option User) : Except AppError User :=
  match found with
  | none => .error (.notFound "User not found.")
  | some user =>
    if user.status ≠ .suspended then .error (.conflict "This account is not suspended.")
    else .ok user

/-- `reactivateUser`, before the save. -/
def User.reactivate (user : User) : User :=
  { user with status := .active, failedLoginAttempts := 0, lockedUntil := none }

/-- `reactivateUser` -/
def reactivateUser (userId : ObjectId) (p : Platform) : Answer User :=
  (p.answer (reactivable (p.users.findById userId))).andThen fun user p =>
    (saveUser user user.reactivate p).andThen fun _ p => p.answer (.ok user.reactivate)

/-! ### What the calls write -/

section Cases

variable {cr : Crypto} {d : Draw} {p : Platform} {user : User} {device : DeviceContext}

/-- A stored account is saved over, whatever was loaded of it. -/
theorem saveUser_of_stored {loaded u : User} (current : User) (hu : u ∈ p.users)
    (hid : u.id = loaded.id) :
    ∃ users, saveUser loaded current p = (.ok (), { p with users }) ∧
      ∀ x, x ∈ users ↔ (x ∈ p.users ∧ x.id ≠ u.id) ∨ x = loaded.saveOver current u := by
  obtain ⟨users, hupdate, hmem⟩ :=
    Collection.update_of_mem (f := loaded.saveOver current) hu rfl rfl
  have hfind : p.users.findById loaded.id = some u := Collection.findById_eq_some.2 ⟨hu, hid⟩
  have hupdate' : p.users.update loaded.id (loaded.saveOver current) = some users := hid ▸ hupdate
  exact ⟨users, by simp only [saveUser, hfind, hupdate'], hmem⟩

/-- A stored account can be saved, and nothing else is written. -/
theorem saveUser_of_mem (current : User) (h : user ∈ p.users) :
    ∃ users, saveUser user current p = (.ok (), { p with users }) ∧
      ∀ u, u ∈ users ↔ (u ∈ p.users ∧ u.id ≠ user.id) ∨ u = user.saveOver current user :=
  saveUser_of_stored current h rfl

theorem createRefreshToken_now (cr : Crypto) (d : Draw) (userId : ObjectId)
    (device : DeviceContext) (p : Platform) :
    (createRefreshToken cr d userId device p).2.world.now = p.world.now := by
  unfold createRefreshToken
  split_ifs
  · split <;> rfl
  · rfl

/-- A new session is stored, unless its device does not fit. -/
theorem createRefreshToken_cases (device : DeviceContext) (userId : ObjectId)
    (hnew : ∀ t ∈ p.refreshTokens,
      t.id ≠ d.newId ∧ t.tokenHash ≠ cr.hashRefreshToken d.rawRefreshToken) :
    (¬ device.Fits ∧ createRefreshToken cr d userId device p =
      (p.draw d).answer (.error .internal)) ∨
    (device.Fits ∧ ∃ c, p.refreshTokens.insert
        (newRefreshToken cr d userId device p.world.now) = some c ∧
      createRefreshToken cr d userId device p =
        (.ok (), { p.draw d with refreshTokens := c })) := by
  unfold createRefreshToken
  split_ifs with hfits
  · refine .inr ⟨hfits, ?_⟩
    obtain ⟨c, hc⟩ := Collection.insert_of_compatible (c := p.refreshTokens)
      (d := newRefreshToken cr d userId device p.world.now) fun t ht => by
        refine ⟨(hnew t ht).1, fun k hk hk' => (hnew t ht).2 ?_⟩
        exact Option.some.inj (hk.trans hk'.symm)
    exact ⟨c, hc, by rw [hc]⟩
  · exact .inl ⟨hfits, rfl⟩

/-- **What `issueTokens` does** with a fresh token, when the session it continues is stored: the new
session is stored and the old one revoked, unless the device does not fit. -/
theorem issueTokens_cases (user : User) (device : DeviceContext)
    (previous : Option RefreshToken) (hprevious : ∀ t ∈ previous, t ∈ p.refreshTokens)
    (hnew : ∀ t ∈ p.refreshTokens,
      t.id ≠ d.newId ∧ t.tokenHash ≠ cr.hashRefreshToken d.rawRefreshToken) :
    (¬ device.Fits ∧ issueTokens cr d user device previous p =
      (p.draw d).answer (.error .internal)) ∨
    (device.Fits ∧ ∃ c, issueTokens cr d user device previous p =
        ({ p.draw d with refreshTokens := c } : Platform).answer
          (.ok (authResult cr d user p.world.now)) ∧
      ∀ t, t ∈ c ↔ t = newRefreshToken cr d user.id device p.world.now ∨
        (t ∈ p.refreshTokens ∧ ∀ s ∈ previous, t.id ≠ s.id) ∨
        ∃ s ∈ previous,
          t = s.revoke p.world.now (cr.hashRefreshToken d.rawRefreshToken)) := by
  unfold issueTokens
  rcases createRefreshToken_cases device user.id hnew with
    ⟨hfits, hcreate⟩ | ⟨hfits, c, hins, hcreate⟩
  · rw [hcreate]
    exact .inl ⟨hfits, rfl⟩
  · rw [hcreate]
    refine .inr ⟨hfits, ?_⟩
    -- a login has no session before it; a refresh revokes the one it was called with
    cases previous with
    | none =>
      refine ⟨c, rfl, fun t => ?_⟩
      rw [Collection.mem_insert hins]
      simp [or_comm]
    | some previous =>
      have hold : previous ∈ p.refreshTokens := hprevious previous rfl
      have hstored : previous ∈ c := (Collection.mem_insert hins).2 (.inl hold)
      have hfind : c.findById previous.id = some previous := Collection.findById_of_mem hstored
      obtain ⟨c', hupdate, hmem⟩ := Collection.update_of_mem
        (f := fun s : RefreshToken =>
          s.revoke p.world.now (cr.hashRefreshToken d.rawRefreshToken)) hstored rfl rfl
      have hupdate' : c.update previous.id (fun s =>
        s.revoke p.world.now (cr.hashRefreshToken d.rawRefreshToken)) = some c' := hupdate
      refine ⟨c', ?_, fun t => ?_⟩
      · simp only [Answer.andThen, saveRevoked, Platform.draw, hfind, hupdate']
      · rw [hmem, Collection.mem_insert hins]
        have hne : d.newId ≠ previous.id := (hnew previous hold).1.symm
        constructor
        · rintro (⟨ht | rfl, hid⟩ | rfl)
          · exact .inr (.inl ⟨ht, fun s hs => Option.some.inj hs ▸ hid⟩)
          · exact .inl rfl
          · exact .inr (.inr ⟨previous, rfl, rfl⟩)
        · rintro (rfl | ⟨ht, hid⟩ | ⟨s, hs, rfl⟩)
          · exact .inl ⟨.inr rfl, hne⟩
          · exact .inl ⟨.inl ht, hid previous rfl⟩
          · exact .inr (by rw [Option.some.inj hs])

/-- Every active account stays stored and active. -/
def KeepsActiveUsers (users users' : Collection User) : Prop :=
  ∀ u ∈ users, u.status = .active → ∃ u' ∈ users', u'.id = u.id ∧ u'.status = .active

theorem KeepsActiveUsers.refl (users : Collection User) : KeepsActiveUsers users users :=
  fun u hu hactive => ⟨u, hu, rfl, hactive⟩

theorem saveUser_keeps (current : User) (h : user ∈ p.users)
    (hstatus : user.status = .active → current.status = .active) :
    ∃ users, saveUser user current p = (.ok (), { p with users }) ∧
      KeepsActiveUsers p.users users ∧
      (current.status = .active → ∃ u ∈ users, u.id = user.id ∧ u.status = .active) := by
  obtain ⟨users, hsave, hmem⟩ := saveUser_of_mem current h
  have hsaved : (user.saveOver current user).status = current.status := savePath_loaded _ _
  refine ⟨users, hsave, fun u hu hactive => ?_, fun hcurrent => ?_⟩
  · by_cases hid : u.id = user.id
    · obtain rfl : u = user := Collection.eq_of_docId hu h hid
      exact ⟨_, (hmem _).2 (.inr rfl), rfl, hsaved.trans (hstatus hactive)⟩
    · exact ⟨u, (hmem u).2 (.inl ⟨hu, hid⟩), rfl, hactive⟩
  · exact ⟨_, (hmem _).2 (.inr rfl), rfl, hsaved.trans hcurrent⟩

theorem admitted_eq_ok {now : ℤ} {found : Option User} :
    admitted now found = .ok user ↔ found = some user ∧ user.Admitted now := by
  unfold admitted User.Admitted
  cases found with
  | none => simp
  | some u =>
    simp only [Option.some.injEq]
    split_ifs with hstatus hlocked
    · refine iff_of_false nofun ?_
      rintro ⟨rfl, hactive, -⟩
      exact hstatus hactive
    · refine iff_of_false nofun ?_
      rintro ⟨rfl, -, hfree⟩
      obtain ⟨lockedUntil, hmem, hlt⟩ := hlocked
      exact absurd hlt (not_lt.2 (hfree lockedUntil hmem))
    · constructor
      · intro h
        cases h
        exact ⟨rfl, not_not.1 hstatus, fun t ht => not_lt.1 fun hlt => hlocked ⟨t, ht, hlt⟩⟩
      · rintro ⟨rfl, -⟩
        rfl

/-- **A login** is refused, with an account possibly saved, or opens a session of an active
account. -/
theorem login_cases (cr : Crypto) (d : Draw) (p : Platform) (input : LoginInput)
    (device : DeviceContext) :
    ∃ users, KeepsActiveUsers p.users users ∧
      ((∃ e, login cr d input device p = ({ p with users } : Platform).answer (.error e)) ∨
        ∃ user : User, (∃ u ∈ users, u.id = user.id ∧ u.status = .active) ∧
          login cr d input device p = issueTokens cr d user device none { p with users }) := by
  unfold login
  cases hadmitted : admitted p.world.now (p.users.findByKey (toLowerCase input.email)) with
  | error e => exact ⟨p.users, .refl _, .inl ⟨e, rfl⟩⟩
  | ok user =>
    obtain ⟨hfind, hactive, -⟩ := admitted_eq_ok.1 hadmitted
    have hmem : user ∈ p.users := (Collection.findByKey_eq_some.1 hfind).1
    simp only [Platform.answer, Answer.andThen]
    -- a wrong password, a counter to reset with and without a verified address, and none to reset
    split_ifs with hpassword hfailed hverified hverified
    · have hstatus : (user.incrementFailedAttempts p.world.now).status = user.status := by
        unfold User.incrementFailedAttempts
        split_ifs <;> rfl
      obtain ⟨users, hsave, hkeeps, -⟩ := saveUser_keeps _ hmem fun h => hstatus.trans h
      rw [hsave]
      exact ⟨users, hkeeps, .inl ⟨_, rfl⟩⟩
    · obtain ⟨users, hsave, hkeeps, hstored⟩ :=
        saveUser_keeps user.resetFailedAttempts hmem fun h => h
      rw [hsave]
      exact ⟨users, hkeeps, .inr ⟨user.resetFailedAttempts, hstored hactive, rfl⟩⟩
    · obtain ⟨users, hsave, hkeeps, -⟩ :=
        saveUser_keeps user.resetFailedAttempts hmem fun h => h
      rw [hsave]
      exact ⟨users, hkeeps, .inl ⟨_, rfl⟩⟩
    · exact ⟨p.users, .refl _, .inr ⟨user.resetFailedAttempts, ⟨user, hmem, rfl, hactive⟩, rfl⟩⟩
    · exact ⟨p.users, .refl _, .inl ⟨_, rfl⟩⟩

theorem unrevoked_eq_ok {found : Option RefreshToken} {stored : RefreshToken} :
    unrevoked found = .ok stored ↔ found = some stored ∧ stored.revokedAt = none := by
  unfold unrevoked
  cases found with
  | none => simp
  | some t =>
    simp only [Option.some.injEq]
    split_ifs with hrevoked
    · refine iff_of_false (by simp) ?_
      rintro ⟨rfl, hnone⟩
      simp [hnone] at hrevoked
    · rw [Except.ok.injEq]
      refine ⟨?_, fun h => h.1⟩
      rintro rfl
      exact ⟨rfl, by simpa using hrevoked⟩

theorem stillActive_eq_ok {found : Option User} :
    stillActive found = .ok user ↔ found = some user ∧ user.status = .active := by
  unfold stillActive
  cases found with
  | none => simp
  | some u =>
    simp only [Option.some.injEq]
    split_ifs with hactive
    · refine iff_of_false (by simp) ?_
      rintro ⟨rfl, h⟩
      exact hactive h
    · rw [Except.ok.injEq]
      refine ⟨?_, fun h => h.1⟩
      rintro rfl
      exact ⟨rfl, not_not.1 hactive⟩

theorem presentedToken_eq_some {presented : Option String} {token : String} :
    presentedToken presented = some token ↔ presented = some token ∧ token ≠ "" := by
  simp [presentedToken, Option.filter_eq_some_iff]

/-- **A refresh** is refused, possibly with the removal of a record that has expired, or goes on to
issue tokens in place of an open session of an active account. -/
theorem refresh_cases (cr : Crypto) (d : Draw) (p : Platform) (presented : Option String)
    (device : DeviceContext) :
    (∃ e, refresh cr d presented device p = p.answer (.error e)) ∨
      (∃ stored ∈ p.refreshTokens, stored.expiresAt < p.world.now ∧
        ∃ e, refresh cr d presented device p = (p.removeToken stored.id).answer (.error e)) ∨
      ∃ token stored user, presented = some token ∧ stored ∈ p.refreshTokens ∧
        stored.tokenHash = cr.hashRefreshToken token ∧ stored.revokedAt = none ∧
        p.world.now ≤ stored.expiresAt ∧ user ∈ p.users ∧ user.id = stored.userId ∧
        user.status = .active ∧
        refresh cr d presented device p = issueTokens cr d user device (some stored) p := by
  unfold refresh
  cases htoken : presentedToken presented with
  | none => exact .inl ⟨_, rfl⟩
  | some token =>
    simp only
    cases hopen : unrevoked (p.refreshTokens.findByKey (cr.hashRefreshToken token)) with
    | error e => exact .inl ⟨e, rfl⟩
    | ok stored =>
      obtain ⟨hfind, hunrevoked⟩ := unrevoked_eq_ok.1 hopen
      obtain ⟨hmem, hhash⟩ := Collection.findByKey_eq_some.1 hfind
      simp only [Platform.answer, Answer.andThen]
      split_ifs with hexpired
      · exact .inr (.inl ⟨stored, hmem, hexpired, _, rfl⟩)
      · cases huser : stillActive (p.users.findById stored.userId) with
        | error e => exact .inl ⟨e, rfl⟩
        | ok user =>
          obtain ⟨hfound, hactive⟩ := stillActive_eq_ok.1 huser
          obtain ⟨huserMem, hid⟩ := Collection.findById_eq_some.1 hfound
          exact .inr (.inr ⟨token, stored, user, (presentedToken_eq_some.1 htoken).1, hmem,
            Option.some.inj hhash, hunrevoked, not_lt.1 hexpired, huserMem, hid, hactive, rfl⟩)

theorem refresh_of_open {token : String} {stored : RefreshToken} (htoken : token ≠ "")
    (hmem : stored ∈ p.refreshTokens) (hhash : stored.tokenHash = cr.hashRefreshToken token)
    (hopen : stored.revokedAt = none) (hexpires : p.world.now ≤ stored.expiresAt)
    (huser : user ∈ p.users) (hid : user.id = stored.userId) (hactive : user.status = .active) :
    refresh cr d (some token) device p = issueTokens cr d user device (some stored) p := by
  have hpresented : presentedToken (some token) = some token :=
    presentedToken_eq_some.2 ⟨rfl, htoken⟩
  have hfind : p.refreshTokens.findByKey (cr.hashRefreshToken token) = some stored :=
    Collection.findByKey_eq_some.2 ⟨hmem, congrArg some hhash⟩
  have hunrevoked : unrevoked (some stored) = .ok stored := unrevoked_eq_ok.2 ⟨rfl, hopen⟩
  have hfound : p.users.findById stored.userId = some user :=
    Collection.findById_eq_some.2 ⟨huser, hid⟩
  have hstill : stillActive (some user) = .ok user := stillActive_eq_ok.2 ⟨rfl, hactive⟩
  unfold refresh
  rw [hpresented]
  simp only [Platform.answer, Answer.andThen, hfind, hunrevoked, if_neg (not_lt.2 hexpires),
    hfound, hstill]

/-- **A reset of the password** is refused without a write, or ends the sessions of the account. -/
theorem resetPassword_cases (cr : Crypto) (p : Platform) (salt : ℕ) (token newPassword : String) :
    (∃ e, resetPassword cr salt token newPassword p = p.answer (.error e)) ∨
      ∃ user ∈ p.users, cr.verifyResetToken token p.world.now = some user.id ∧
        ∃ users, KeepsActiveUsers p.users users ∧ resetPassword cr salt token newPassword p =
          (({ p with users } : Platform).removeTokensOf user.id).answer (.ok ()) := by
  unfold resetPassword resetTarget
  cases hfind : (cr.verifyResetToken token p.world.now).bind p.users.findById with
  | none => exact .inl ⟨_, rfl⟩
  | some user =>
    obtain ⟨id, hid, hfind⟩ := Option.bind_eq_some_iff.1 hfind
    obtain ⟨hmem, rfl⟩ := Collection.findById_eq_some.1 hfind
    obtain ⟨users, hsave, hkeeps, -⟩ := saveUser_keeps
      { user with password := cr.hashPassword newPassword salt } hmem fun h => h
    refine .inr ⟨user, hmem, hid, users, hkeeps, ?_⟩
    simp only [Platform.answer, Answer.andThen, hsave]

theorem suspendable_eq_ok {found : Option User} :
    suspendable found = .ok user ↔
      found = some user ∧ user.isAdmin = false ∧ user.status ≠ .suspended := by
  unfold suspendable
  cases found with
  | none => simp
  | some u =>
    simp only [Option.some.injEq]
    split_ifs with hadmin hsuspended
    · refine iff_of_false (fun h => by cases h) ?_
      rintro ⟨rfl, hnot, -⟩
      cases hadmin.symm.trans hnot
    · refine iff_of_false (fun h => by cases h) ?_
      rintro ⟨rfl, -, hnot⟩
      exact hnot hsuspended
    · rw [Except.ok.injEq]
      refine ⟨?_, fun h => h.1⟩
      rintro rfl
      exact ⟨rfl, Bool.eq_false_iff.2 hadmin, hsuspended⟩

/-- **A suspension** is refused without a write, or ends the sessions of the account; the other
accounts stay as they are. -/
theorem suspendUser_cases (p : Platform) (userId : ObjectId) :
    (∃ e, suspendUser userId p = p.answer (.error e)) ∨
      ∃ suspended users, suspendUser userId p =
          (({ p with users } : Platform).removeTokensOf userId).answer (.ok suspended) ∧
        ∀ u ∈ p.users, u.id ≠ userId → u ∈ users := by
  unfold suspendUser
  cases hsuspendable : suspendable (p.users.findById userId) with
  | error e => exact .inl ⟨e, rfl⟩
  | ok user =>
    obtain ⟨hmem, hid⟩ := Collection.findById_eq_some.1 (suspendable_eq_ok.1 hsuspendable).1
    obtain rfl : user.id = userId := hid
    obtain ⟨users, hsave, husers⟩ := saveUser_of_mem user.suspend hmem
    refine .inr ⟨user.suspend, users, ?_,
      fun u hu hne => (husers u).2 (.inl ⟨hu, hne⟩)⟩
    simp only [Platform.answer, Answer.andThen, hsave]

theorem reactivable_eq_ok {found : Option User} :
    reactivable found = .ok user ↔ found = some user ∧ user.status = .suspended := by
  unfold reactivable
  cases found with
  | none => simp
  | some u =>
    simp only [Option.some.injEq]
    split_ifs with hsuspended
    · refine iff_of_false (fun h => by cases h) ?_
      rintro ⟨rfl, h⟩
      exact hsuspended h
    · rw [Except.ok.injEq]
      refine ⟨?_, fun h => h.1⟩
      rintro rfl
      exact ⟨rfl, not_not.1 hsuspended⟩

/-- **A reactivation** touches no session. -/
theorem reactivateUser_cases (p : Platform) (userId : ObjectId) :
    ∃ users, KeepsActiveUsers p.users users ∧ ∃ answer,
      reactivateUser userId p = ({ p with users } : Platform).answer answer := by
  unfold reactivateUser
  cases hreactivable : reactivable (p.users.findById userId) with
  | error e => exact ⟨p.users, .refl _, .error e, rfl⟩
  | ok user =>
    have hmem : user ∈ p.users :=
      (Collection.findById_eq_some.1 (reactivable_eq_ok.1 hreactivable).1).1
    obtain ⟨users, hsave, hkeeps, -⟩ :=
      saveUser_keeps user.reactivate hmem fun _ => rfl
    refine ⟨users, hkeeps, .ok user.reactivate, ?_⟩
    simp only [Platform.answer, Answer.andThen, hsave]

end Cases

/-! ### A client with two devices -/

def firstToken : String := "KpIaXLCY-OZIfzmwEo70Y4myrPLXm99_bdDVL31BYGkBv1KMKJesj30s_gTmXQA9"
def secondToken : String := "AsLkPcs5MJehIhRlgSpOmx4egPFukrMT_Uzoxe5bgnKhfNjNwc5jV4SU6rpznG96"
def thirdToken : String := "Xs8Y-HL3021uQgoyV62pR6g31b0SMqpgEEvd8CC142FVaoJqKeXml9HDvoUHpL6G"

/-- The three tokens are sent to their SHA-256 digests; nothing else that occurs is moved. -/
def sampleDigest : Equiv.Perm String :=
  ((Equiv.swap firstToken
      "9008f10e6e4abf85896adf30fcf845db2c983c99ce2afdc4fab5f32ad8b16512").trans
    (Equiv.swap secondToken
      "50eb613a3cad85e23168e9e48a5e4c8c79995978ce9f2dbb7e29406c4ab1a48d")).trans
    (Equiv.swap thirdToken
      "0f2953bc377eb37997b4bf53d51e03fef0eea8d621d064f1edfe3635730acb95")

def sampleCrypto : Crypto where
  hashRefreshToken := sampleDigest
  hashPassword password _ := "argon2id " ++ password
  verifyPassword password hashed := hashed = "argon2id " ++ password
  signAccessToken id _ _ := id.text
  verifyResetToken _ _ := none

/-- Nothing is offered and nothing is booked. -/
def emptyWorld : World where
  now := 0
  profiles := .empty
  availabilities _ := none
  bookings := .empty
  meetings := .empty
  meetingQueue := []
  reminderQueue := []
  auditLog := []
  events := []
  providerLog := []
  issuedIds := []
  issuedEvents := []

/-- The account of client 2. -/
def client : User :=
  ⟨2, "client@example.com", "argon2id consult2026", "Cleo", "Lient", .user, .active, true, 0, none⟩

/-- Client 2 has no session yet. -/
def clientPlatform : Platform where
  world := emptyWorld
  users := ⟨[client], List.pairwise_singleton _ _⟩
  refreshTokens := .empty
  oauthAccounts := .empty
  drawnTokens := []

def phone : DeviceContext := ⟨some "203.0.113.7", some "Mozilla/5.0"⟩

/-- A browser whose description has 501 characters. -/
def wordyBrowser : DeviceContext :=
  ⟨some "203.0.113.7", some (String.ofList (List.replicate 501 'M'))⟩

theorem wordyBrowser_not_fits : ¬ wordyBrowser.Fits := by
  rintro ⟨huserAgent, -⟩
  have hlength := huserAgent _ rfl
  rw [utf16Length, String.toList_ofList, List.map_replicate, List.sum_replicate_nat] at hlength
  exact absurd hlength (by decide)

end HrBooking
