import HrBooking.Site.Reference
import HrBooking.Token.Service

/-!
# Who gets in

The accounts under `register`, `registerHr`, `login`, `refresh`, `verifyEmail`, `forgotPassword` and
the consent URL, with a ledger of the tokens that the server signs.  Everything else that services
make of accounts and sessions is left open.

* `verifyEmail` : the service.
* `front` : the machine.
* `Front.Unforged` : a token that is presented has been signed by the server, or is none.
* `Front.Sound` : its invariant.
* `verified_by_link` : an address is verified by a link that was mailed to it.
* `guardRoute_iff` : requests are let through for accounts that have logged in.
* `admitted_verified_iff` : they are let through for verified accounts only, when the two secrets
  differ.
-/

namespace HrBooking

/-! ### Verification of addresses -/

section

variable (jwt : SignatureScheme String TokenClaims String) (env : TokenEnv)

/-- The account that a link to verify an address is for. -/
def verifyTarget (token : String) (p : Platform) : Except AppError User :=
  match (verifyGenericToken jwt env token .verifyEmail p.world.now).bind fun payload =>
      p.users.findById payload.sub with
  | none => .error (.unauthorized "The verification link is invalid or has expired.")
  | some user => .ok user

/-- The assignment of `verifyEmail`. -/
def User.verify (user : User) : User := { user with isEmailVerified := true }

/-- `verifyEmail` -/
def verifyEmail (token : String) (p : Platform) : Answer User :=
  (p.answer (verifyTarget jwt env token p)).andThen fun user p =>
    if user.isEmailVerified then p.answer (.ok user)
    else
      match p.users.update user.id User.verify with
      | none => p.answer (.error .internal)
      | some users => (.ok user.verify, { p with users })

end

/-- The account that is sent another link when it logs in: all is well but for its address. -/
def unverifiedLogin (cr : Crypto) (input : LoginInput) (p : Platform) : Option User :=
  (p.users.findByKey (toLowerCase input.email)).filter fun user =>
    user.Admitted p.world.now ∧ cr.verifyPassword input.password user.password = true ∧
      user.isEmailVerified = false

/-! ### The machine -/

/-- A token that the server has signed, and the address it was mailed to. -/
structure Issued where
  claims : TokenClaims
  mailedTo : Option String
  deriving DecidableEq

/-- The accounts, and the tokens that were signed. -/
structure Front where
  platform : Platform
  issued : List Issued

/-- One call, or what happens between calls. -/
inductive FrontAction where
  | register (newId : ObjectId) (salt : ℕ) (input : RegisterInput)
  /-- the account of a consultant; the profile is stored elsewhere -/
  | registerHr (newId : ObjectId) (salt : ℕ) (input : RegisterHrInput)
  | login (d : Draw) (input : LoginInput) (device : DeviceContext)
  | refresh (d : Draw) (refreshToken : Option String) (device : DeviceContext)
  | verifyEmail (token : String)
  | forgotPassword (email : String)
  | connectGoogle (userId : ObjectId)
  /-- other services change or remove accounts and sessions -/
  | others (users : Collection User) (refreshTokens : Collection RefreshToken)
  | advance (ms : ℕ)

/-- Other services add no account, no session, and verify no address. -/
structure Platform.ChangedByOthers (p : Platform) (users : Collection User)
    (refreshTokens : Collection RefreshToken) : Prop where
  users : ∀ u' ∈ users, ∃ u ∈ p.users,
    u.id = u'.id ∧ u.email = u'.email ∧ u.isEmailVerified = u'.isEmailVerified
  sessions : ∀ t' ∈ refreshTokens, ∃ t ∈ p.refreshTokens, t.userId = t'.userId

instance (p : Platform) (users : Collection User) (refreshTokens : Collection RefreshToken) :
    Decidable (p.ChangedByOthers users refreshTokens) :=
  decidable_of_iff
    ((∀ u' ∈ users, ∃ u ∈ p.users,
        u.id = u'.id ∧ u.email = u'.email ∧ u.isEmailVerified = u'.isEmailVerified) ∧
      ∀ t' ∈ refreshTokens, ∃ t ∈ p.refreshTokens, t.userId = t'.userId)
    ⟨fun h => ⟨h.1, h.2⟩, fun h => ⟨h.users, h.sessions⟩⟩

/-- An identity is given to a document. -/
def Platform.issueId (p : Platform) (id : ObjectId) : Platform :=
  p.onWorld fun w => { w with issuedIds := id :: w.issuedIds }

namespace Front

/-- The ledger gains a token. -/
def sign (s : Front) (payload : TokenPayload) (address : Option String) : Front :=
  { s with issued := ⟨⟨payload, s.platform.world.now / 1000⟩, address⟩ :: s.issued }

/-- A link is mailed to an account. -/
def mail (s : Front) (type : TokenType) (user : User) : Front :=
  s.sign (.generic user.id type) (some user.email)

end Front

section

variable (jwt : SignatureScheme String TokenClaims String) (env : TokenEnv) (cr : Crypto)

/-- The document of a new consultant is stored, unless the address is taken. -/
def createConsultant (newId : ObjectId) (salt : ℕ) (input : RegisterHrInput) (p : Platform) :
    Platform :=
  match p.users.findByKey (toLowerCase input.email) with
  | some _ => p
  | none =>
    match p.users.insert (newConsultant cr newId salt input) with
    | none => p
    | some users => { p with users }

/-- One action; refused only when what is drawn is not new, or others do what they do not. -/
def FrontAction.exec (s : Front) : FrontAction → Option Front
  | register newId salt input =>
    if newId ∉ s.platform.world.issuedIds then
      let answer := HrBooking.register (tokenCrypto jwt env cr) newId salt input
        (s.platform.issueId newId)
      let s := { s with platform := answer.2 }
      match answer.1 with
      | .error _ => some s
      | .ok user => some (s.mail .verifyEmail user)
    else none
  | registerHr newId salt input =>
    if newId ∉ s.platform.world.issuedIds then
      some { s with
        platform := createConsultant (tokenCrypto jwt env cr) newId salt input
          (s.platform.issueId newId) }
    else none
  | login d input device =>
    if d.Fresh s.platform then
      let answer := HrBooking.login (tokenCrypto jwt env cr) d input device s.platform
      let left := { s with platform := answer.2 }
      match answer.1 with
      | .ok r => some (left.sign (.access r.user.id r.user.role) none)
      | .error _ =>
        match unverifiedLogin (tokenCrypto jwt env cr) input s.platform with
        | some user => some (left.mail .verifyEmail user)
        | none => some left
    else none
  | refresh d refreshToken device =>
    if d.Fresh s.platform then
      let answer := HrBooking.refresh (tokenCrypto jwt env cr) d refreshToken device s.platform
      let left := { s with platform := answer.2 }
      match answer.1 with
      | .ok r => some (left.sign (.access r.user.id r.user.role) none)
      | .error _ => some left
    else none
  | verifyEmail token =>
    some { s with platform := (HrBooking.verifyEmail jwt env token s.platform).2 }
  | forgotPassword email =>
    match s.platform.users.findByKey (toLowerCase email) with
    | none => some s
    | some user => some (s.mail .resetPassword user)
  | connectGoogle userId => some (s.sign (.generic userId .oauthState) none)
  | others users refreshTokens =>
    if s.platform.ChangedByOthers users refreshTokens then
      some { s with platform := { s.platform with users, refreshTokens } }
    else none
  | advance ms => some { s with platform := s.platform.advance ms }

/-- The accounts and the ledger as a machine. -/
def front : Machine Front FrontAction := ⟨fun s a => a.exec jwt env cr s⟩

/-- What the ledger has. -/
def Front.HasIssued (s : Front) (secret : String) (claims : TokenClaims) : Prop :=
  secret = env.getSecret claims.payload.type ∧ ∃ e ∈ s.issued, e.claims = claims

/-- A token that is presented has been signed by the server, or it is recognised as nothing. -/
def Front.Unforged (s : Front) (token : String) : Prop := jwt.Unforged (s.HasIssued env) token

/-- Nobody forges the link that is presented. -/
def FrontAction.Unforged (s : Front) : FrontAction → Prop
  | verifyEmail token => s.Unforged jwt env token
  | _ => True

end

/-- **The invariant.**  Links to verify an address were mailed to it, and sessions and access tokens
are of verified accounts. -/
structure Front.Sound (s : Front) : Prop where
  users : ∀ u ∈ s.platform.users, u.id ∈ s.platform.world.issuedIds
  ids : ∀ e ∈ s.issued, (e.claims.payload.type = .verifyEmail ∨ e.claims.payload.type = .access) →
    e.claims.payload.sub ∈ s.platform.world.issuedIds
  links : ∀ e ∈ s.issued, e.claims.payload.type = .verifyEmail →
    ∀ u ∈ s.platform.users, u.id = e.claims.payload.sub → e.mailedTo = some u.email
  access : ∀ e ∈ s.issued, e.claims.payload.type = .access →
    ∀ u ∈ s.platform.users, u.id = e.claims.payload.sub → u.isEmailVerified = true
  sessionIds : ∀ t ∈ s.platform.refreshTokens, t.userId ∈ s.platform.world.issuedIds
  sessions : ∀ t ∈ s.platform.refreshTokens, ∀ u ∈ s.platform.users, u.id = t.userId →
    u.isEmailVerified = true

/-! ### What the account services answer -/

section

variable {cr : Crypto} {d : Draw} {p : Platform} {user : User} {device : DeviceContext}

theorem issueTokens_eq_ok {previous : Option RefreshToken} {r : AuthResult}
    (h : (issueTokens cr d user device previous p).1 = .ok r) :
    r = authResult cr d user p.world.now := by
  unfold issueTokens Answer.andThen at h
  split at h
  · cases previous with
    | none =>
      cases h
      rfl
    | some s =>
      simp only at h
      split at h
      · cases h
        rfl
      · cases h
  · cases h

/-- Who has a session, or may open one. -/
def MayEnter (p : Platform) (userId : ObjectId) : Prop :=
  (∃ t ∈ p.refreshTokens, t.userId = userId) ∨
    ∃ u ∈ p.users, u.isEmailVerified = true ∧ u.id = userId

theorem onlySessions_refl (p : Platform) : OnlySessions (MayEnter p) p p :=
  ⟨.refl _, rfl, fun t ht => .inl ⟨t, ht, rfl⟩⟩

theorem login_mayEnter (input : LoginInput) :
    OnlySessions (MayEnter p) p (login cr d input device p).2 :=
  login_sessions (fun u hu hverified => .inr ⟨u, hu, hverified, rfl⟩) input (onlySessions_refl p)

theorem refresh_mayEnter (presented : Option String) :
    OnlySessions (MayEnter p) p (refresh cr d presented device p).2 :=
  refresh_sessions presented (onlySessions_refl p)

/-- **Whoever logs in** has a verified address, and gets a token that is signed now. -/
theorem login_eq_ok {input : LoginInput} {r : AuthResult}
    (h : (login cr d input device p).1 = .ok r) :
    (∃ u ∈ p.users, u.isEmailVerified = true ∧ u.id = r.user.id) ∧
      r.accessToken = cr.signAccessToken r.user.id r.user.role p.world.now := by
  unfold login at h
  cases hadmitted : admitted p.world.now (p.users.findByKey (toLowerCase input.email)) with
  | error e =>
    rw [hadmitted] at h
    cases h
  | ok user =>
    obtain ⟨hfind, -⟩ := admitted_eq_ok.1 hadmitted
    obtain ⟨hmem, -⟩ := Collection.findByKey_eq_some.1 hfind
    rw [hadmitted, answer_ok_andThen] at h
    -- what is left of the call, from any state that is reached by then
    have hissued : ∀ p' : Platform, p'.world.now = p.world.now →
        (if user.isEmailVerified then issueTokens cr d user.resetFailedAttempts device none p'
          else p'.answer (.error (.unauthorized
            "Please verify your email address before logging in."))).1 = .ok r →
        (∃ u ∈ p.users, u.isEmailVerified = true ∧ u.id = r.user.id) ∧
          r.accessToken = cr.signAccessToken r.user.id r.user.role p.world.now := by
      intro p' hnow h
      split_ifs at h with hemail
      · rw [issueTokens_eq_ok h, hnow]
        exact ⟨⟨user, hmem, hemail, rfl⟩, rfl⟩
      · cases h
    by_cases hpassword : cr.verifyPassword input.password user.password = false
    · rw [if_pos hpassword] at h
      unfold Answer.andThen at h
      split at h
      · cases h
      · cases h
    · rw [if_neg hpassword] at h
      by_cases hfailed : 0 < user.failedLoginAttempts ∨ user.lockedUntil.isSome
      · have hnow := saveUser_now user user.resetFailedAttempts p
        rw [if_pos hfailed] at h
        unfold Answer.andThen at h
        split at h
        · rename_i hsave
          rw [hsave] at hnow
          exact hissued _ hnow h
        · cases h
      · rw [if_neg hfailed] at h
        exact hissued p rfl h

/-- **Whoever refreshes** has a session, and gets a token that is signed now. -/
theorem refresh_eq_ok {presented : Option String} {r : AuthResult}
    (h : (refresh cr d presented device p).1 = .ok r) :
    (∃ t ∈ p.refreshTokens, t.userId = r.user.id) ∧
      r.accessToken = cr.signAccessToken r.user.id r.user.role p.world.now := by
  rcases refresh_cases cr d p presented device with
    ⟨e, hrun⟩ | ⟨stored, -, -, e, hrun⟩ |
      ⟨-, stored, user, -, hstored, -, -, -, -, hid, -, hrun⟩
  · rw [hrun] at h
    cases h
  · rw [hrun] at h
    cases h
  · rw [hrun] at h
    rw [issueTokens_eq_ok h]
    exact ⟨⟨stored, hstored, hid.symm⟩, rfl⟩

theorem register_answers (cr : Crypto) (newId : ObjectId) (salt : ℕ) (input : RegisterInput)
    (p : Platform) :
    (∃ e, register cr newId salt input p = p.answer (.error e)) ∨
      ∃ users, p.users.insert (newUser cr newId salt input) = some users ∧
        register cr newId salt input p =
          ({ p with users } : Platform).answer (.ok (newUser cr newId salt input)) := by
  unfold register
  split
  · exact .inl ⟨_, rfl⟩
  · split
    · exact .inl ⟨_, rfl⟩
    · rename_i users hinsert
      exact .inr ⟨users, hinsert, rfl⟩

theorem onUser_email (cr : Crypto) (p : Platform) (a : AccountAction) (user : User) :
    (a.onUser cr p user).email = user.email ∧
      (a.onUser cr p user).isEmailVerified = user.isEmailVerified := by
  unfold AccountAction.onUser
  split
  · split_ifs
    · unfold User.afterVerification User.incrementFailedAttempts User.resetFailedAttempts
      split_ifs <;> exact ⟨rfl, rfl⟩
    · exact ⟨rfl, rfl⟩
  · split_ifs <;> exact ⟨rfl, rfl⟩
  · split_ifs <;> exact ⟨rfl, rfl⟩
  · split_ifs <;> exact ⟨rfl, rfl⟩
  · exact ⟨rfl, rfl⟩

/-- **The other account services** are among what is left open. -/
theorem changedByOthers_of_step {a : AccountAction} {p' : Platform}
    (hdeletes : a.deletes = false)
    (hsessions : ∀ t' ∈ p'.refreshTokens, ∃ t ∈ p.refreshTokens, t.userId = t'.userId)
    (hstep : (accounts cr).step p a = some p') :
    p.ChangedByOthers p'.users p'.refreshTokens := by
  refine ⟨fun u' hu' => ?_, hsessions⟩
  obtain ⟨u, hu, rfl⟩ := (users_step hdeletes hstep u').1 hu'
  obtain ⟨hemail, hverified⟩ := onUser_email cr p a u
  exact ⟨u, hu, (onUser_id cr p a u).symm, hemail.symm, hverified.symm⟩

end

/-! ### What an action does -/

section

variable (jwt : SignatureScheme String TokenClaims String) (env : TokenEnv) (cr : Crypto)

/-- The action verifies the address of the account. -/
def FrontAction.VerifiesAddress (userId : ObjectId) (s : Front) : FrontAction → Prop
  | verifyEmail token =>
    verifyGenericToken jwt env token .verifyEmail s.platform.world.now =
      some (.generic userId .verifyEmail)
  | _ => False

/-- The action creates the account of a consultant. -/
def FrontAction.RegistersHr (userId : ObjectId) : FrontAction → Prop
  | registerHr newId _ _ => newId = userId
  | _ => False

/-- The action answers with an access token for the account. -/
def FrontAction.HandsOut (token : String) (userId : ObjectId) (s : Front) : FrontAction → Prop
  | login d input device =>
    ∃ r, (HrBooking.login (tokenCrypto jwt env cr) d input device s.platform).1 = .ok r ∧
      r.accessToken = token ∧ r.user.id = userId
  | refresh d presented device =>
    ∃ r, (HrBooking.refresh (tokenCrypto jwt env cr) d presented device s.platform).1 = .ok r ∧
      r.accessToken = token ∧ r.user.id = userId
  | _ => False

/-- Where an entry of the ledger is from. -/
inductive Issued.From (s : Front) (a : FrontAction) (s' : Front) (e : Issued) : Prop where
  | before (h : e ∈ s.issued)
  | mailed (u : User) (hu : u ∈ s'.platform.users) (type : TokenType) (htype : type ≠ .access)
      (hpayload : e.claims.payload = .generic u.id type) (haddress : e.mailedTo = some u.email)
  | state (userId : ObjectId) (hpayload : e.claims.payload = .generic userId .oauthState)
  | session (userId : ObjectId) (role : UserRole) (hmay : MayEnter s.platform userId)
      (hclaims : e.claims = ⟨.access userId role, s.platform.world.now / 1000⟩)
      (hanswer : a.HandsOut jwt env cr (jwt.sign env.jwtAccessSecret e.claims) userId s)

/-- Where an account is from. -/
inductive User.From (s : Front) (a : FrontAction) (s' : Front) (u' : User) : Prop where
  | before (u : User) (hu : u ∈ s.platform.users) (hid : u.id = u'.id) (hemail : u.email = u'.email)
      (hkept : u.isEmailVerified = true → u'.isEmailVerified = true)
      (hverified : u'.isEmailVerified = true →
        u.isEmailVerified = true ∨ a.VerifiesAddress jwt env u'.id s)
  | new (hfresh : u'.id ∉ s.platform.world.issuedIds)
      (hissued : u'.id ∈ s'.platform.world.issuedIds)
      (hverified : u'.isEmailVerified = true → a.RegistersHr u'.id)

/-- What an action does to accounts, sessions and the ledger. -/
structure Front.Effect (s : Front) (a : FrontAction) (s' : Front) : Prop where
  ids : s.platform.world.issuedIds ⊆ s'.platform.world.issuedIds
  users : ∀ u' ∈ s'.platform.users, u'.From jwt env s a s'
  kept : ∀ e ∈ s.issued, e ∈ s'.issued
  sessions : ∀ t ∈ s'.platform.refreshTokens, MayEnter s.platform t.userId
  issued : ∀ e ∈ s'.issued, e.From jwt env cr s a s'

variable {jwt env cr} {s s' : Front} {a : FrontAction}

/-- An account that stays as it is. -/
theorem from_before {u : User} (hu : u ∈ s.platform.users) : u.From jwt env s a s' :=
  .before u hu rfl rfl id .inl

/-- A link or a state that is signed, and nothing else. -/
theorem effect_sign {e : Issued} (hs' : s' = { s with issued := e :: s.issued })
    (he : e.From jwt env cr s a s') : s.Effect jwt env cr a s' where
  ids := by rw [hs']; exact List.Subset.refl _
  users u hu := from_before (by rw [hs'] at hu; exact hu)
  kept e' he' := by rw [hs']; exact List.mem_cons_of_mem _ he'
  sessions t ht := .inl ⟨t, by rw [hs'] at ht; exact ht, rfl⟩
  issued e' he' := by
    rw [hs'] at he'
    rcases List.mem_cons.1 he' with rfl | he'
    · exact he
    · exact .before he'

theorem effect_register {newId : ObjectId} {salt : ℕ} {input : RegisterInput}
    (hstep : (FrontAction.register newId salt input).exec jwt env cr s = some s') :
    s.Effect jwt env cr (.register newId salt input) s' := by
  obtain ⟨hfresh, hstep⟩ := Option.ite_none_right_eq_some.1 hstep
  have hids : s.platform.world.issuedIds ⊆ (s.platform.issueId newId).world.issuedIds :=
    List.subset_cons_self _ _
  have hsame : s.Effect jwt env cr (.register newId salt input)
      { s with platform := s.platform.issueId newId } :=
    ⟨hids, fun u hu => from_before hu, fun e he => he, fun t ht => .inl ⟨t, ht, rfl⟩,
      fun e he => .before he⟩
  rcases register_answers (tokenCrypto jwt env cr) newId salt input (s.platform.issueId newId) with
    ⟨e, hrun⟩ | ⟨users, hinsert, hrun⟩
  · rw [hrun] at hstep
    cases hstep
    exact hsame
  · rw [hrun] at hstep
    cases hstep
    have hmem : ∀ u, u ∈ users ↔ u ∈ s.platform.users ∨
        u = newUser (tokenCrypto jwt env cr) newId salt input := fun u =>
      Collection.mem_insert hinsert
    refine ⟨hids, fun u hu => ?_, fun e he => List.mem_cons_of_mem _ he,
      fun t ht => .inl ⟨t, ht, rfl⟩, fun e he => ?_⟩
    · rcases (hmem u).1 hu with hu | rfl
      · exact from_before hu
      · exact .new hfresh List.mem_cons_self fun h => nomatch h
    · rcases List.mem_cons.1 he with rfl | he
      · exact .mailed _ ((hmem _).2 (.inr rfl)) .verifyEmail (by decide) rfl rfl
      · exact .before he

theorem effect_registerHr {newId : ObjectId} {salt : ℕ} {input : RegisterHrInput}
    (hstep : (FrontAction.registerHr newId salt input).exec jwt env cr s = some s') :
    s.Effect jwt env cr (.registerHr newId salt input) s' := by
  obtain ⟨hfresh, hstep⟩ := Option.ite_none_right_eq_some.1 hstep
  cases hstep
  have hids : s.platform.world.issuedIds ⊆ (s.platform.issueId newId).world.issuedIds :=
    List.subset_cons_self _ _
  unfold createConsultant
  split
  · exact ⟨hids, fun u hu => from_before hu, fun e he => he, fun t ht => .inl ⟨t, ht, rfl⟩,
      fun e he => .before he⟩
  · split
    · exact ⟨hids, fun u hu => from_before hu, fun e he => he, fun t ht => .inl ⟨t, ht, rfl⟩,
        fun e he => .before he⟩
    · rename_i users hinsert
      refine ⟨hids, fun u hu => ?_, fun e he => he, fun t ht => .inl ⟨t, ht, rfl⟩,
        fun e he => .before he⟩
      rcases (Collection.mem_insert hinsert).1 hu with hu | rfl
      · exact from_before hu
      · exact .new hfresh List.mem_cons_self fun _ => rfl

/-- The accounts are rewritten as an account service does it, and sessions are opened for whom they
may. -/
theorem effect_of_account {b : AccountAction} {p' : Platform}
    (husers : Rewrites (b.onUser (tokenCrypto jwt env cr) s.platform) s.platform.users p'.users)
    (hsessions : OnlySessions (MayEnter s.platform) s.platform p') {issued : List Issued}
    (hkept : ∀ e ∈ s.issued, e ∈ issued)
    (hissued : ∀ e ∈ issued, e.From jwt env cr s a ⟨p', issued⟩) :
    s.Effect jwt env cr a ⟨p', issued⟩ := by
  refine ⟨hsessions.world.issuedIds, fun u' hu' => ?_, hkept, hsessions.refreshTokens, hissued⟩
  obtain ⟨u, hu, rfl⟩ := (husers u').1 hu'
  obtain ⟨hemail, hverified⟩ := onUser_email (tokenCrypto jwt env cr) s.platform b u
  exact .before u hu (onUser_id _ _ _ u).symm hemail.symm hverified.trans fun h =>
    .inl (hverified.symm.trans h)

theorem effect_login {d : Draw} {input : LoginInput} {device : DeviceContext}
    (hstep : (FrontAction.login d input device).exec jwt env cr s = some s') :
    s.Effect jwt env cr (.login d input device) s' := by
  obtain ⟨-, hstep⟩ := Option.ite_none_right_eq_some.1 hstep
  have husers : Rewrites ((AccountAction.login d input device).onUser (tokenCrypto jwt env cr)
      s.platform) s.platform.users
      (HrBooking.login (tokenCrypto jwt env cr) d input device s.platform).2.users :=
    login_users input
  have hsessions : OnlySessions (MayEnter s.platform) s.platform
      (HrBooking.login (tokenCrypto jwt env cr) d input device s.platform).2 :=
    login_mayEnter input
  have hnow : (HrBooking.login (tokenCrypto jwt env cr) d input device s.platform).2.world.now =
      s.platform.world.now := login_now input
  cases hlogin : (HrBooking.login (tokenCrypto jwt env cr) d input device s.platform).1 with
  -- a session is signed
  | ok r =>
    rw [hlogin] at hstep
    cases hstep
    obtain ⟨hverified, hsigned⟩ := login_eq_ok hlogin
    have hiat := congrArg (· / 1000) hnow
    refine effect_of_account husers hsessions (fun e he => List.mem_cons_of_mem _ he) fun e he => ?_
    rcases List.mem_cons.1 he with rfl | he
    · refine .session r.user.id r.user.role (.inr hverified) ?_ ⟨r, hlogin, ?_, rfl⟩
      · exact congrArg (TokenClaims.mk _) hiat
      · exact hsigned.trans (congrArg (fun second =>
          jwt.sign env.jwtAccessSecret ⟨.access r.user.id r.user.role, second⟩) hiat.symm)
    · exact .before he
  | error e =>
    rw [hlogin] at hstep
    dsimp only at hstep
    -- a refused call may still have mailed a link, to an account that it has found
    cases hunverified : unverifiedLogin (tokenCrypto jwt env cr) input s.platform with
    | none =>
      rw [hunverified] at hstep
      cases hstep
      exact effect_of_account husers hsessions (fun e he => he) fun e he => .before he
    | some user =>
      rw [hunverified] at hstep
      cases hstep
      refine effect_of_account husers hsessions (fun e he => List.mem_cons_of_mem _ he)
        fun e he => ?_
      rcases List.mem_cons.1 he with rfl | he
      · obtain ⟨hfound, -⟩ := Option.filter_eq_some_iff.1 hunverified
        have hmem := (Collection.findByKey_eq_some.1 hfound).1
        let b : AccountAction := .login d input device
        have himage : b.onUser (tokenCrypto jwt env cr) s.platform user ∈
            (HrBooking.login (tokenCrypto jwt env cr) d input device s.platform).2.users :=
          (husers _).2 ⟨user, hmem, rfl⟩
        refine .mailed _ himage .verifyEmail (by decide) ?_ ?_
        · rw [onUser_id]
        · rw [(onUser_email _ _ _ user).1]
      · exact .before he

theorem effect_refresh {d : Draw} {presented : Option String} {device : DeviceContext}
    (hstep : (FrontAction.refresh d presented device).exec jwt env cr s = some s') :
    s.Effect jwt env cr (.refresh d presented device) s' := by
  obtain ⟨-, hstep⟩ := Option.ite_none_right_eq_some.1 hstep
  obtain ⟨hsame, hnow⟩ : Keeps s.platform
      (HrBooking.refresh (tokenCrypto jwt env cr) d presented device s.platform).2 :=
    refresh_keeps presented
  have husers : Rewrites ((AccountAction.refresh d presented device).onUser
      (tokenCrypto jwt env cr) s.platform) s.platform.users
      (HrBooking.refresh (tokenCrypto jwt env cr) d presented device s.platform).2.users :=
    rewrites_of_eq hsame fun _ _ => rfl
  have hsessions : OnlySessions (MayEnter s.platform) s.platform
      (HrBooking.refresh (tokenCrypto jwt env cr) d presented device s.platform).2 :=
    refresh_mayEnter presented
  cases hrefresh : (HrBooking.refresh (tokenCrypto jwt env cr) d presented device
      s.platform).1 with
  | error e =>
    rw [hrefresh] at hstep
    cases hstep
    exact effect_of_account husers hsessions (fun e he => he) fun e he => .before he
  | ok r =>
    rw [hrefresh] at hstep
    cases hstep
    obtain ⟨hsession, hsigned⟩ := refresh_eq_ok hrefresh
    have hiat := congrArg (· / 1000) hnow
    refine effect_of_account husers hsessions (fun e he => List.mem_cons_of_mem _ he) fun e he => ?_
    rcases List.mem_cons.1 he with rfl | he
    · refine .session r.user.id r.user.role (.inl hsession) ?_ ⟨r, hrefresh, ?_, rfl⟩
      · exact congrArg (TokenClaims.mk _) hiat
      · exact hsigned.trans (congrArg (fun second =>
          jwt.sign env.jwtAccessSecret ⟨.access r.user.id r.user.role, second⟩) hiat.symm)
    · exact .before he

theorem effect_verifyEmail {token : String}
    (hstep : (FrontAction.verifyEmail token).exec jwt env cr s = some s') :
    s.Effect jwt env cr (.verifyEmail token) s' := by
  cases hstep
  have hsame : s.Effect jwt env cr (.verifyEmail token) s :=
    ⟨List.Subset.refl _, fun u hu => from_before hu, fun e he => he,
      fun t ht => .inl ⟨t, ht, rfl⟩, fun e he => .before he⟩
  unfold HrBooking.verifyEmail
  cases htarget : verifyTarget jwt env token s.platform with
  | error e => exact hsame
  | ok user =>
    rw [answer_ok_andThen]
    split_ifs
    · exact hsame
    · cases hupdate : s.platform.users.update user.id User.verify with
      | none => exact hsame
      | some users =>
        refine ⟨List.Subset.refl _, fun u' hu' => ?_, fun e he => he,
          fun t ht => .inl ⟨t, ht, rfl⟩, fun e he => .before he⟩
        rcases (Collection.mem_update hupdate).1 hu' with ⟨hu, -⟩ | ⟨u, hu, hid, rfl⟩
        · exact from_before hu
        · refine .before u hu rfl rfl (fun _ => rfl) fun _ => .inr ?_
          unfold verifyTarget at htarget
          split at htarget
          · cases htarget
          · rename_i found hfound
            cases htarget
            obtain ⟨payload, hverify, hfind⟩ := Option.bind_eq_some_iff.1 hfound
            obtain ⟨-, hsub⟩ := Collection.findById_eq_some.1 hfind
            -- the link has been verified as one of its type, for the account that is written
            have hpayload : payload = .generic u.id .verifyEmail := by
              obtain ⟨htype, -⟩ := verifyGenericToken_eq_some.1 hverify
              cases payload with
              | access sub role => cases htype
              | generic sub type =>
                obtain rfl : type = .verifyEmail := htype
                exact congrArg (TokenPayload.generic · .verifyEmail) (hsub.symm.trans hid.symm)
            rw [hpayload] at hverify
            exact hverify

/-- **What an action does.** -/
theorem front_effect (hstep : (front jwt env cr).step s a = some s') :
    s.Effect jwt env cr a s' := by
  -- who is stored, what is signed and who gets in, call by call
  cases a with
  | register newId salt input => exact effect_register hstep
  | registerHr newId salt input => exact effect_registerHr hstep
  | login d input device => exact effect_login hstep
  | refresh d presented device => exact effect_refresh hstep
  | verifyEmail token => exact effect_verifyEmail hstep
  | forgotPassword email =>
    change (match s.platform.users.findByKey (toLowerCase email) with
      | none => some s
      | some user => some (s.mail .resetPassword user)) = some s' at hstep
    cases hfound : s.platform.users.findByKey (toLowerCase email) with
    | none =>
      rw [hfound] at hstep
      cases hstep
      exact ⟨List.Subset.refl _, fun u hu => from_before hu, fun e he => he,
        fun t ht => .inl ⟨t, ht, rfl⟩, fun e he => .before he⟩
    | some user =>
      rw [hfound] at hstep
      cases hstep
      have hmem := (Collection.findByKey_eq_some.1 hfound).1
      exact effect_sign rfl (.mailed user hmem .resetPassword (by decide) rfl rfl)
  | connectGoogle userId =>
    cases hstep
    exact effect_sign rfl (.state userId rfl)
  | others users refreshTokens =>
    obtain ⟨hothers, hstep⟩ := Option.ite_none_right_eq_some.1 hstep
    cases hstep
    refine ⟨List.Subset.refl _, fun u' hu' => ?_, fun e he => he,
      fun t ht => .inl (hothers.sessions t ht), fun e he => .before he⟩
    obtain ⟨u, hu, hid, hemail, hverified⟩ := hothers.users u' hu'
    exact .before u hu hid hemail (fun h => hverified ▸ h) fun h => .inl (hverified.trans h)
  | advance ms =>
    cases hstep
    exact ⟨List.Subset.refl _, fun u hu => from_before hu, fun e he => he,
      fun t ht => .inl ⟨t, ht, rfl⟩, fun e he => .before he⟩

/-! ### The invariant -/

namespace Front.Sound

theorem mayEnter_issued (h : s.Sound) {userId : ObjectId} (hmay : MayEnter s.platform userId) :
    userId ∈ s.platform.world.issuedIds := by
  rcases hmay with ⟨t, ht, rfl⟩ | ⟨u, hu, -, rfl⟩
  · exact h.sessionIds t ht
  · exact h.users u hu

theorem verified_of_mayEnter (h : s.Sound) (heffect : s.Effect jwt env cr a s') {userId : ObjectId}
    (hmay : MayEnter s.platform userId) {u' : User} (hu' : u' ∈ s'.platform.users)
    (hid : u'.id = userId) : u'.isEmailVerified = true := by
  cases heffect.users u' hu' with
  | new hfresh _ _ => exact absurd (hid ▸ h.mayEnter_issued hmay) hfresh
  | before u hu huid hemail hkept hverified =>
    refine hkept ?_
    rcases hmay with ⟨t, ht, htid⟩ | ⟨u₀, hu₀, hverified₀, hid₀⟩
    · exact h.sessions t ht u hu (huid.trans (hid.trans htid.symm))
    · obtain rfl : u = u₀ := Collection.eq_of_docId hu hu₀ (huid.trans (hid.trans hid₀.symm))
      exact hverified₀

/-- **One step.** -/
theorem step (h : s.Sound) (heffect : s.Effect jwt env cr a s') : s'.Sound := by
  have husers : ∀ u ∈ s'.platform.users, u.id ∈ s'.platform.world.issuedIds := by
    intro u' hu'
    cases heffect.users u' hu' with
    | before u hu hid _ _ _ => exact hid ▸ heffect.ids (h.users u hu)
    | new _ hissued _ => exact hissued
  refine ⟨husers, ?_, ?_, ?_, ?_, ?_⟩
  · intro e he htype
    cases heffect.issued e he with
    | before hold => exact heffect.ids (h.ids e hold htype)
    | mailed u hu type _ hpayload _ =>
      rw [hpayload]
      exact husers u hu
    | state userId hpayload =>
      rw [hpayload] at htype
      rcases htype with htype | htype <;> cases htype
    | session userId role hmay hclaims _ =>
      rw [hclaims]
      exact heffect.ids (h.mayEnter_issued hmay)
  · intro e he htype u' hu' hid
    cases heffect.issued e he with
    -- an account of this identity has been there before, and keeps its address
    | before hold =>
      cases heffect.users u' hu' with
      | before u hu huid hemail _ _ => exact hemail ▸ h.links e hold htype u hu (huid.trans hid)
      | new hfresh _ _ => exact absurd (hid ▸ h.ids e hold (.inl htype)) hfresh
    | mailed u hu type _ hpayload haddress =>
      rw [hpayload] at hid
      obtain rfl : u' = u := Collection.eq_of_docId hu' hu hid
      exact haddress
    | state userId hpayload =>
      rw [hpayload] at htype
      cases htype
    | session userId role _ hclaims _ =>
      rw [hclaims] at htype
      cases htype
  · intro e he htype u' hu' hid
    cases heffect.issued e he with
    | before hold =>
      cases heffect.users u' hu' with
      | before u hu huid _ hkept _ => exact hkept (h.access e hold htype u hu (huid.trans hid))
      | new hfresh _ _ => exact absurd (hid ▸ h.ids e hold (.inr htype)) hfresh
    | mailed u hu type hne hpayload _ =>
      rw [hpayload] at htype
      exact absurd htype hne
    | state userId hpayload =>
      rw [hpayload] at htype
      cases htype
    | session userId role hmay hclaims _ =>
      rw [hclaims] at hid
      exact h.verified_of_mayEnter heffect hmay hu' hid
  · exact fun t ht => heffect.ids (h.mayEnter_issued (heffect.sessions t ht))
  · exact fun t ht u' hu' hid => h.verified_of_mayEnter heffect (heffect.sessions t ht) hu' hid

end Front.Sound

theorem front_sound {as : List FrontAction} (h : s.Sound)
    (hrun : (front jwt env cr).run s as = some s') : s'.Sound :=
  Machine.run_invariant' (I := Front.Sound) (fun _ _ _ h hstep => h.step (front_effect hstep))
    h hrun

/-! ### Verified addresses -/

/-- In the run a link to verify the address of the account was mailed to this address and presented
before it expired. -/
def LinkPresented (jwt : SignatureScheme String TokenClaims String) (env : TokenEnv) (cr : Crypto)
    (s : Front) (as : List FrontAction) (userId : ObjectId) (address : String) : Prop :=
  ∃ pre token post t, as = pre ++ .verifyEmail token :: post ∧
    (front jwt env cr).run s pre = some t ∧
    ∃ e ∈ t.issued, e.mailedTo = some address ∧ e.claims.payload = .generic userId .verifyEmail ∧
      jwt.sign env.jwtRefreshSecret e.claims = token ∧ env.Live e.claims t.platform.world.now

theorem LinkPresented.append {as : List FrontAction} {userId : ObjectId} {address : String}
    (h : LinkPresented jwt env cr s as userId address) (bs : List FrontAction) :
    LinkPresented jwt env cr s (as ++ bs) userId address := by
  obtain ⟨pre, token, post, t, rfl, hrest⟩ := h
  exact ⟨pre, token, post ++ bs, t, by simp, hrest⟩

/-- **An address is verified by its owner.**  An account whose address is verified was verified at
the start, or is a consultant's by registration, or a link that was mailed to its address has been
presented in time. -/
theorem verified_by_link {as : List FrontAction} (h : s.Sound)
    (hforged : (front jwt env cr).Meets (fun s a => a.Unforged jwt env s) s as)
    (hrun : (front jwt env cr).run s as = some s') {u : User} (hu : u ∈ s'.platform.users)
    (hverified : u.isEmailVerified = true) :
    (∃ u₀ ∈ s.platform.users, u₀.id = u.id ∧ u₀.isEmailVerified = true) ∨
      (∃ a ∈ as, a.RegistersHr u.id) ∨ LinkPresented jwt env cr s as u.id u.email := by
  let Vouched (as : List FrontAction) (u : User) : Prop :=
    (∃ u₀ ∈ s.platform.users, u₀.id = u.id ∧ u₀.isEmailVerified = true) ∨
      (∃ a ∈ as, a.RegistersHr u.id) ∨ LinkPresented jwt env cr s as u.id u.email
  suffices hall : ∀ u ∈ s'.platform.users, u.isEmailVerified = true → Vouched as u from
    hall u hu hverified
  refine Machine.run_history
    (I := fun as t => ∀ u ∈ t.platform.users, u.isEmailVerified = true → Vouched as u)
    (fun u hu hverified => .inl ⟨u, hu, rfl, hverified⟩) ?_ hforged hrun
  -- the last action has verified the address, or the account was vouched for before
  intro pre a t t' hpre ih hunforged hstep u' hu' hverified'
  have heffect := front_effect hstep
  have hlast : a ∈ pre ++ [a] := List.mem_append_right _ List.mem_cons_self
  cases heffect.users u' hu' with
  | new _ _ hregisters => exact .inr (.inl ⟨a, hlast, hregisters hverified'⟩)
  | before u hu hid hemail _ hverified =>
    rcases hverified hverified' with hbefore | hnow
    · rcases ih u hu hbefore with ⟨u₀, hu₀, hid₀, hverified₀⟩ | ⟨b, hb, hregisters⟩ | hlink
      · exact .inl ⟨u₀, hu₀, hid₀.trans hid, hverified₀⟩
      · exact .inr (.inl ⟨b, List.mem_append_left _ hb, hid ▸ hregisters⟩)
      · exact .inr (.inr (hid ▸ hemail ▸ hlink.append [a]))
    · cases a with
      | verifyEmail token =>
        obtain ⟨-, iat, hsign, hlive⟩ := verifyGenericToken_eq_some.1 hnow
        -- nobody has forged the link, so the ledger knows the address it was mailed to
        obtain ⟨-, e, he, hclaims⟩ := hunforged _ _ (jwt.verify_eq_some.2 hsign)
        have hpayload : e.claims.payload = .generic u'.id .verifyEmail :=
          congrArg TokenClaims.payload hclaims
        have haddress : e.mailedTo = some u.email := by
          refine (front_sound h hpre).links e he ?_ u hu ?_
          · rw [hpayload]
            rfl
          · rw [hpayload]
            exact hid
        refine .inr (.inr ⟨pre, token, [], t, rfl, hpre, e, he, hemail ▸ haddress, hpayload,
          ?_, ?_⟩)
        · rw [hclaims]
          exact hsign
        · rw [hclaims]
          exact hlive
      | _ => exact hnow.elim

/-- A client who registers. -/
def newcomer : RegisterInput := ⟨"new@example.com", "consult2026", "Nina", "Ewcomer"⟩

/-- Nobody is registered, and nothing is signed. -/
def emptyFront : Front := ⟨⟨emptyWorld, .empty, .empty, .empty, []⟩, []⟩

theorem emptyFront_sound : emptyFront.Sound where
  users u hu := absurd hu (Collection.not_mem_empty u)
  ids _ he := absurd he List.not_mem_nil
  links _ he := absurd he List.not_mem_nil
  access _ he := absurd he List.not_mem_nil
  sessionIds t ht := absurd ht (Collection.not_mem_empty t)
  sessions t ht := absurd ht (Collection.not_mem_empty t)

/-- The newcomer registers and presents the link. -/
def linkFollowed : List FrontAction :=
  [.register 1 0 newcomer,
    .verifyEmail (signGenericToken tallyJwt defaultTokenEnv 1 .verifyEmail 0)]

theorem linkFollowed_isSome :
    ((front tallyJwt defaultTokenEnv sampleCrypto).run emptyFront linkFollowed).isSome = true := rfl

theorem verified_by_link_followed :
    (∃ u₀ ∈ emptyFront.platform.users, u₀.id = 1 ∧ u₀.isEmailVerified = true) ∨
      (∃ a ∈ linkFollowed, a.RegistersHr 1) ∨
        LinkPresented tallyJwt defaultTokenEnv sampleCrypto emptyFront linkFollowed 1
          "new@example.com" := by
  let user : User := { newUser (tokenCrypto tallyJwt defaultTokenEnv sampleCrypto) 1 0 newcomer with
    isEmailVerified := true }
  have hemail : user.email = "new@example.com" := by decide +kernel
  have hmem : user ∈ (((front tallyJwt defaultTokenEnv sampleCrypto).run emptyFront
      linkFollowed).get linkFollowed_isSome).platform.users :=
    Collection.mem_def.2 (by decide +kernel)
  rw [← hemail]
  have hforged : (front tallyJwt defaultTokenEnv sampleCrypto).Meets
      (fun s a => a.Unforged tallyJwt defaultTokenEnv s) emptyFront linkFollowed := by
    refine ⟨trivial, ?_⟩
    rintro t ⟨⟩
    exact ⟨tallyJwt.unforged_sign ⟨rfl, _, List.mem_cons_self, rfl⟩, fun _ _ => trivial⟩
  exact verified_by_link emptyFront_sound hforged (Option.some_get linkFollowed_isSome).symm hmem
    rfl

/-! ### Requests -/

/-- In the run the token has been handed out to a client of the account, and it has not expired. -/
def HandedOut (jwt : SignatureScheme String TokenClaims String) (env : TokenEnv) (cr : Crypto)
    (s : Front) (as : List FrontAction) (token : String) (userId : ObjectId) (now : ℤ) : Prop :=
  ∃ pre a post t, as = pre ++ a :: post ∧ (front jwt env cr).run s pre = some t ∧
    a.HandsOut jwt env cr token userId t ∧
    now / 1000 < t.platform.world.now / 1000 + env.jwtAccessExpiresIn

theorem FrontAction.HandsOut.sign {token : String} {userId : ObjectId}
    (h : a.HandsOut jwt env cr token userId s) :
    ∃ role, token = jwt.sign env.jwtAccessSecret
      ⟨.access userId role, s.platform.world.now / 1000⟩ := by
  cases a with
  | login d input device =>
    obtain ⟨r, hr, rfl, rfl⟩ := h
    exact ⟨r.user.role, (login_eq_ok hr).2⟩
  | refresh d presented device =>
    obtain ⟨r, hr, rfl, rfl⟩ := h
    exact ⟨r.user.role, (refresh_eq_ok hr).2⟩
  | _ => exact h.elim

theorem handsOut_of_issued {as : List FrontAction} (hissued : s.issued = [])
    (hrun : (front jwt env cr).run s as = some s') :
    ∀ e ∈ s'.issued, e.claims.payload.type = .access →
      ∃ pre a post t, as = pre ++ a :: post ∧ (front jwt env cr).run s pre = some t ∧
        a.HandsOut jwt env cr (jwt.sign env.jwtAccessSecret e.claims) e.claims.payload.sub t ∧
        e.claims.iat = t.platform.world.now / 1000 := by
  refine Machine.run_history (G := fun _ _ => True)
    (I := fun as t' => ∀ e ∈ t'.issued, e.claims.payload.type = .access →
      ∃ pre a post t, as = pre ++ a :: post ∧ (front jwt env cr).run s pre = some t ∧
        a.HandsOut jwt env cr (jwt.sign env.jwtAccessSecret e.claims) e.claims.payload.sub t ∧
        e.claims.iat = t.platform.world.now / 1000) ?_ ?_
    (Machine.meets_of_forall (fun _ _ => trivial) s as) hrun
  · intro e he
    rw [hissued] at he
    cases he
  · intro pre a t t' hpre ih _ hstep e he htype
    cases (front_effect hstep).issued e he with
    | before hold =>
      obtain ⟨pre', b, post, t₀, rfl, hrest⟩ := ih e hold htype
      exact ⟨pre', b, post ++ [a], t₀, by simp, hrest⟩
    | mailed u _ type hne hpayload _ =>
      rw [hpayload] at htype
      exact absurd htype hne
    | state userId hpayload =>
      rw [hpayload] at htype
      cases htype
    | session userId role _ hclaims hanswer =>
      refine ⟨pre, a, [], t, rfl, hpre, ?_, ?_⟩
      · rw [hclaims] at hanswer ⊢
        exact hanswer
      · rw [hclaims]

/-- What is signed under the secret of the access tokens is an access token, when no other token is
signed under it. -/
theorem type_of_unforged (hsecret : env.jwtAccessSecret ≠ env.jwtRefreshSecret)
    {claims : TokenClaims} (h : s.HasIssued env env.jwtAccessSecret claims) :
    claims.payload.type = .access := by
  have hsame := h.1
  cases htype : claims.payload.type with
  | access => rfl
  | _ =>
    rw [htype] at hsame
    exact absurd hsame hsecret

/-- **A request is let through** exactly when its token has been handed out by a login or a refresh
of an account, not too long ago, and the account is active and has one of the roles now. -/
theorem guardRoute_iff {as : List FrontAction} (hissued : s.issued = [])
    (hsecret : env.jwtAccessSecret ≠ env.jwtRefreshSecret)
    (hrun : (front jwt env cr).run s as = some s') {roles : List UserRole}
    {request : RequestCredentials} {actor : Actor}
    (hforged : ∀ token ∈ request.token, s'.Unforged jwt env token) :
    guardRoute jwt env roles request s'.platform = .ok actor ↔
      ∃ token, presentedToken request.token = some token ∧
        HandedOut jwt env cr s as token actor.id s'.platform.world.now ∧
        ∃ u ∈ s'.platform.users, u.status = .active ∧ u.role ∈ roles ∧ actor = ⟨u.id, u.role⟩ := by
  rw [guardRoute_eq_ok]
  refine exists_congr fun token => and_congr_right fun htoken => ?_
  constructor
  · rintro ⟨payload, iat, hsign, hlive, u, hu, hid, hactive, hrole, rfl⟩
    have hclaims := hforged token (Option.filter_eq_some_iff.1 htoken).1 _ _
      (jwt.verify_eq_some.2 hsign)
    have htype : payload.type = .access := type_of_unforged hsecret hclaims
    obtain ⟨-, e, he, heq⟩ := hclaims
    obtain ⟨pre, a, post, t, hsplit, hpre, hanswer, hiat⟩ :=
      handsOut_of_issued hissued hrun e he (heq ▸ htype)
    rw [heq] at hanswer hiat
    refine ⟨⟨pre, a, post, t, hsplit, hpre, ?_, ?_⟩, u, hu, hactive, hrole, rfl⟩
    · rw [hsign] at hanswer
      exact hid ▸ hanswer
    · rw [TokenEnv.Live, TokenEnv.exp, htype] at hlive
      exact hiat ▸ hlive
  · rintro ⟨⟨pre, a, post, t, -, -, hanswer, hlive⟩, u, hu, hactive, hrole, rfl⟩
    obtain ⟨role, hsign⟩ := hanswer.sign
    exact ⟨.access u.id role, _, hsign.symm, hlive, u, hu, rfl, hactive, hrole, rfl⟩

/-- The client logs in. -/
def clientLogin : List FrontAction :=
  [.login ⟨10, firstToken⟩ ⟨"client@example.com", "consult2026"⟩ phone]

theorem clientLogin_isSome :
    ((front tallyJwt defaultTokenEnv sampleCrypto).run ⟨clientPlatform, []⟩
      clientLogin).isSome = true := by
  decide +kernel

/-- The request that follows. -/
def clientRequest : RequestCredentials :=
  ⟨some (signAccessToken tallyJwt defaultTokenEnv 2 .user 0), none⟩

theorem clientLogin_works :
    let s' := ((front tallyJwt defaultTokenEnv sampleCrypto).run ⟨clientPlatform, []⟩
      clientLogin).get clientLogin_isSome
    s'.issued = [⟨⟨.access 2 .user, 0⟩, none⟩] ∧
      guardRoute tallyJwt defaultTokenEnv [.user] clientRequest s'.platform = .ok ⟨2, .user⟩ := by
  decide +kernel

theorem guardRoute_iff_client :
    let s' := ((front tallyJwt defaultTokenEnv sampleCrypto).run ⟨clientPlatform, []⟩
      clientLogin).get clientLogin_isSome
    ∃ token, presentedToken clientRequest.token = some token ∧
      HandedOut tallyJwt defaultTokenEnv sampleCrypto ⟨clientPlatform, []⟩ clientLogin token 2
        s'.platform.world.now ∧
      ∃ u ∈ s'.platform.users, u.status = .active ∧ u.role ∈ [.user] ∧
        (⟨2, .user⟩ : Actor) = ⟨u.id, u.role⟩ := by
  intro s'
  obtain ⟨hissued, hadmit⟩ := clientLogin_works
  refine (guardRoute_iff rfl (by decide) (Option.some_get clientLogin_isSome).symm ?_).1 hadmit
  rintro token ⟨⟩
  exact tallyJwt.unforged_sign ⟨rfl, _, hissued ▸ List.mem_cons_self, rfl⟩

/-- **Verified accounts only** are let through, in every run, exactly when access tokens have a
secret of their own; else the link that is mailed to verify an address lets its account in. -/
theorem admitted_verified_iff (jwt : SignatureScheme String TokenClaims String) (env : TokenEnv)
    (htexts : ∀ secret claims, jwt.sign secret claims ≠ "")
    (hexpires : 0 < env.jwtVerifyEmailExpiresIn) :
    (∀ cr s as s' roles request actor, s.Sound → (front jwt env cr).run s as = some s' →
      (∀ token ∈ request.token, s'.Unforged jwt env token) →
        guardRoute jwt env roles request s'.platform = .ok actor →
          ∃ u ∈ s'.platform.users, u.id = actor.id ∧ u.isEmailVerified = true) ↔
      env.jwtAccessSecret ≠ env.jwtRefreshSecret := by
  constructor
  · -- with one secret, the link to verify an address passes for an access token
    intro h hsame
    let cr := tokenCrypto jwt env sampleCrypto
    let user := newUser cr 1 0 newcomer
    let token := jwt.sign env.jwtRefreshSecret ⟨.generic 1 .verifyEmail, 0⟩
    let s' : Front :=
      ⟨{ emptyFront.platform.issueId 1 with users := ⟨[user], List.pairwise_singleton _ _⟩ },
        [⟨⟨.generic 1 .verifyEmail, 0⟩, some user.email⟩]⟩
    have hrun : (front jwt env sampleCrypto).run emptyFront [.register 1 0 newcomer] = some s' :=
      rfl
    have hissued : s'.HasIssued env env.jwtRefreshSecret ⟨.generic 1 .verifyEmail, 0⟩ :=
      ⟨rfl, _, List.mem_cons_self, rfl⟩
    have hmem : user ∈ s'.platform.users := List.mem_cons_self
    have hadmit : guardRoute jwt env [.user] ⟨some token, none⟩ s'.platform = .ok ⟨1, .user⟩ := by
      rw [guardRoute_eq_ok]
      refine ⟨token, Option.filter_eq_some_iff.2 ⟨rfl, by simpa using htexts _ _⟩,
        .generic 1 .verifyEmail, 0, by rw [hsame], ?_, user, hmem, rfl, rfl, List.mem_cons_self,
        rfl⟩
      change (0 : ℤ) / 1000 < 0 + env.jwtVerifyEmailExpiresIn
      simpa using hexpires
    obtain ⟨u, hu, -, hverified⟩ := h sampleCrypto emptyFront _ s' [.user] ⟨some token, none⟩
      ⟨1, .user⟩ emptyFront_sound hrun (fun t ht => Option.some.inj ht ▸ jwt.unforged_sign hissued)
      hadmit
    obtain rfl : u = user := List.mem_singleton.1 hu
    cases hverified
  · intro hsecret cr s as s' roles request actor hsound hrun hforged hadmit
    obtain ⟨token, htoken, payload, iat, hsign, -, u, hu, hid, -, -, rfl⟩ :=
      guardRoute_eq_ok.1 hadmit
    have hclaims := hforged token (Option.filter_eq_some_iff.1 htoken).1 _ _
      (jwt.verify_eq_some.2 hsign)
    have htype : payload.type = .access := type_of_unforged hsecret hclaims
    obtain ⟨-, e, he, heq⟩ := hclaims
    have haccess := (front_sound hsound hrun).access e he (heq ▸ htype) u hu
    exact ⟨u, hu, rfl, haccess (heq ▸ hid)⟩

/-- With one secret for both. -/
theorem link_admits :
    let env : TokenEnv :=
      { defaultTokenEnv with jwtAccessSecret := defaultTokenEnv.jwtRefreshSecret }
    ¬ ∀ cr s as s' roles request actor, s.Sound → (front tallyJwt env cr).run s as = some s' →
      (∀ token ∈ request.token, s'.Unforged tallyJwt env token) →
        guardRoute tallyJwt env roles request s'.platform = .ok actor →
          ∃ u ∈ s'.platform.users, u.id = actor.id ∧ u.isEmailVerified = true :=
  fun h => (admitted_verified_iff tallyJwt _ tallyJwt_sign_ne (by decide)).1 h rfl

end

end HrBooking
