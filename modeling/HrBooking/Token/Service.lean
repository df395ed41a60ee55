import HrBooking.Site.System
import HrBooking.Slot.Schema
import HrBooking.Token.Scheme

/-!
# Tokens and the middlewares that read them

`utils/tokens.ts` and `middlewares/auth.ts`.  Access tokens are signed under one secret and every
other token under a second one; a link is checked for its type, an access token is not.

* `TokenEnv` : the secrets and lifetimes of `config/env.ts`.
* `signAccessToken`, `signGenericToken`, `verifyAccessToken`, `verifyGenericToken` : the tokens.
* `verifyGenericToken_eq_some`, `verifyAccessToken_eq_some` : what each of them accepts.
* `resetLinks_verifiedBy` : the links to reset a password are as the account services have them.
* `guardRoute` : `authenticate`, `loadUser` and `requireRole`, one after the other.
* `guardRoute_eq_ok` : whom they let through.
-/

namespace HrBooking

/-! ### Tokens -/

/-- `TOKEN_TYPES` -/
inductive TokenType where
  | access | refresh | verifyEmail | resetPassword | oauthState
  deriving DecidableEq, Repr

/-- `AccessTokenPayload` and `GenericTokenPayload` -/
inductive TokenPayload where
  | access (sub : ObjectId) (role : UserRole)
  | generic (sub : ObjectId) (type : TokenType)
  deriving DecidableEq

namespace TokenPayload

def sub : TokenPayload → ObjectId
  | access sub _ => sub
  | generic sub _ => sub

def type : TokenPayload → TokenType
  | access _ _ => .access
  | generic _ type => type

/-- Only an access token has a role. -/
def role : TokenPayload → Option UserRole
  | access _ role => some role
  | generic _ _ => none

end TokenPayload

/-- What is signed: the payload and the second it is signed in. -/
structure TokenClaims where
  payload : TokenPayload
  iat : ℤ
  deriving DecidableEq

/-- The secrets, and the lifetimes in seconds. -/
structure TokenEnv where
  jwtAccessSecret : String
  jwtRefreshSecret : String
  jwtAccessExpiresIn : ℤ
  jwtRefreshExpiresIn : ℤ
  jwtVerifyEmailExpiresIn : ℤ
  jwtResetPasswordExpiresIn : ℤ

namespace TokenEnv

variable (env : TokenEnv)

/-- `getSecret` -/
def getSecret : TokenType → String
  | .access => env.jwtAccessSecret
  | _ => env.jwtRefreshSecret

/-- `getExpiresIn` -/
def getExpiresIn : TokenType → ℤ
  | .access => env.jwtAccessExpiresIn
  | .verifyEmail => env.jwtVerifyEmailExpiresIn
  | .resetPassword => env.jwtResetPasswordExpiresIn
  | .oauthState => Site.stateTtlSeconds
  | .refresh => env.jwtRefreshExpiresIn

/-- The second in which the token expires. -/
def exp (claims : TokenClaims) : ℤ := claims.iat + env.getExpiresIn claims.payload.type

/-- The token has expired. -/
def Live (claims : TokenClaims) (now : ℤ) : Prop := now / 1000 < env.exp claims

instance (claims : TokenClaims) (now : ℤ) : Decidable (env.Live claims now) :=
  inferInstanceAs (Decidable (_ < _))

end TokenEnv

section

variable (jwt : SignatureScheme String TokenClaims String) (env : TokenEnv)

/-- `signAccessToken` -/
def signAccessToken (userId : ObjectId) (role : UserRole) (now : ℤ) : String :=
  jwt.sign env.jwtAccessSecret ⟨.access userId role, now / 1000⟩

/-- `signGenericToken` -/
def signGenericToken (userId : ObjectId) (type : TokenType) (now : ℤ) : String :=
  jwt.sign (env.getSecret type) ⟨.generic userId type, now / 1000⟩

/-- `jwt.verify` -/
def jwtVerify (token secret : String) (now : ℤ) : Option TokenPayload :=
  ((jwt.verify secret token).filter fun claims => env.Live claims now).map TokenClaims.payload

/-- `verifyAccessToken` -/
def verifyAccessToken (token : String) (now : ℤ) : Option TokenPayload :=
  jwtVerify jwt env token env.jwtAccessSecret now

/-- `verifyGenericToken` -/
def verifyGenericToken (token : String) (type : TokenType) (now : ℤ) : Option TokenPayload :=
  (jwtVerify jwt env token (env.getSecret type) now).filter fun payload => payload.type = type

/-! ### Middlewares -/

/-- The credentials that a request carries. -/
structure RequestCredentials where
  /-- The cookie of the access token. -/
  cookie : Option String
  /-- The `Authorization` header. -/
  authorization : Option String

/-- `extractBearerToken` -/
def extractBearerToken (request : RequestCredentials) : Option String :=
  match request.authorization with
  | none => none
  | some header =>
    if "Bearer ".toList <+: header.toList then
      some (jsTrim (String.ofList (header.toList.drop 7)))
    else none

/-- The token of a request; an empty cookie counts as a token here, and as none later. -/
def RequestCredentials.token (request : RequestCredentials) : Option String :=
  request.cookie.or (extractBearerToken request)

/-- `AuthUser`, as `authenticate` sets it. -/
structure AuthUser where
  id : ObjectId
  role : Option UserRole
  deriving DecidableEq

/-- `authenticate` -/
def authenticate (request : RequestCredentials) (now : ℤ) : Except AppError AuthUser :=
  match presentedToken request.token with
  | none => .error (.unauthorized "Authentication is required.")
  | some token =>
    match verifyAccessToken jwt env token now with
    | none => .error (.unauthorized "Access token is invalid or expired.")
    | some payload => .ok ⟨payload.sub, payload.role⟩

/-- `authenticate`, `loadUser` and `requireRole`; a route without `requireRole` admits every
role. -/
def guardRoute (roles : List UserRole) (request : RequestCredentials) (p : Platform) :
    Except AppError Actor :=
  match authenticate jwt env request p.world.now with
  | .error e => .error e
  -- `loadUser` replaces the role, whatever it is.
  | .ok user => authorize roles ⟨user.id, user.role.getD .user⟩ p

end

/-! ### What is accepted -/

section

variable {jwt : SignatureScheme String TokenClaims String} {env : TokenEnv} {token : String}
  {now : ℤ} {payload : TokenPayload} {type : TokenType}

theorem jwtVerify_eq_some {secret : String} :
    jwtVerify jwt env token secret now = some payload ↔
      ∃ iat, jwt.sign secret ⟨payload, iat⟩ = token ∧ env.Live ⟨payload, iat⟩ now := by
  unfold jwtVerify
  rw [Option.map_eq_some_iff]
  constructor
  · rintro ⟨⟨payload, iat⟩, hfilter, rfl⟩
    obtain ⟨hverify, hlive⟩ := Option.filter_eq_some_iff.1 hfilter
    exact ⟨iat, jwt.verify_eq_some.1 hverify, by simpa using hlive⟩
  · rintro ⟨iat, hsign, hlive⟩
    refine ⟨⟨payload, iat⟩,
      Option.filter_eq_some_iff.2 ⟨jwt.verify_eq_some.2 hsign, ?_⟩, rfl⟩
    simpa using hlive

theorem verifyAccessToken_eq_some :
    verifyAccessToken jwt env token now = some payload ↔
      ∃ iat, jwt.sign env.jwtAccessSecret ⟨payload, iat⟩ = token ∧
        env.Live ⟨payload, iat⟩ now :=
  jwtVerify_eq_some

theorem verifyGenericToken_eq_some :
    verifyGenericToken jwt env token type now = some payload ↔
      payload.type = type ∧ ∃ iat, jwt.sign (env.getSecret type) ⟨payload, iat⟩ = token ∧
        env.Live ⟨payload, iat⟩ now := by
  unfold verifyGenericToken
  rw [Option.filter_eq_some_iff, jwtVerify_eq_some, and_comm, decide_eq_true_eq]

/-- **A signed link** is accepted as a link of its type, for its account, until it expires, and as
no other link at any time. -/
theorem verifyGenericToken_sign {type' : TokenType} {userId : ObjectId} {issuedAt : ℤ} :
    verifyGenericToken jwt env (signGenericToken jwt env userId type' issuedAt) type now =
        some payload ↔
      type = type' ∧ payload = .generic userId type' ∧
        now / 1000 < issuedAt / 1000 + env.getExpiresIn type' := by
  rw [verifyGenericToken_eq_some, signGenericToken]
  constructor
  · rintro ⟨rfl, iat, hsign, hlive⟩
    obtain ⟨rfl, rfl⟩ := TokenClaims.mk.inj (jwt.claims_unique hsign)
    exact ⟨rfl, rfl, hlive⟩
  · rintro ⟨rfl, rfl, hlive⟩
    exact ⟨rfl, issuedAt / 1000, rfl, hlive⟩

/-! ### As the account services have it -/

variable (jwt env) in
/-- The libraries, with these tokens. -/
def tokenCrypto (cr : Crypto) : Crypto :=
  { cr with
    signAccessToken := signAccessToken jwt env
    verifyResetToken := fun token now =>
      (verifyGenericToken jwt env token .resetPassword now).map TokenPayload.sub }

variable (jwt env) in
/-- The links to reset a password. -/
def resetLinks : Links where
  sign userId issuedAt :=
    jwt.sign env.jwtRefreshSecret ⟨.generic userId .resetPassword, issuedAt⟩
  expiresIn := env.jwtResetPasswordExpiresIn

theorem resetLinks_verifiedBy (jwt : SignatureScheme String TokenClaims String) (env : TokenEnv)
    (cr : Crypto) : (resetLinks jwt env).VerifiedBy (tokenCrypto jwt env cr) where
  signed userId issuedAt now := by
    have hread : ∀ payload, verifyGenericToken jwt env
        ((resetLinks jwt env).sign userId issuedAt) .resetPassword now = some payload ↔
          payload = .generic userId .resetPassword ∧
            now / 1000 < issuedAt + (resetLinks jwt env).expiresIn := by
      intro payload
      rw [verifyGenericToken_eq_some]
      constructor
      · rintro ⟨-, iat, hsign, hlive⟩
        obtain ⟨rfl, rfl⟩ := TokenClaims.mk.inj (jwt.claims_unique hsign)
        exact ⟨rfl, hlive⟩
      · rintro ⟨rfl, hlive⟩
        exact ⟨rfl, issuedAt, rfl, hlive⟩
    unfold tokenCrypto
    dsimp only
    split_ifs with hlive
    · rw [(hread _).2 ⟨rfl, hlive⟩]
      rfl
    · rw [Option.map_eq_none_iff, Option.eq_none_iff_forall_not_mem]
      exact fun payload hpayload => hlive ((hread payload).1 hpayload).2
  only link now userId h := by
    obtain ⟨payload, hverify, rfl⟩ := Option.map_eq_some_iff.1 h
    obtain ⟨htype, iat, hsign, -⟩ := verifyGenericToken_eq_some.1 hverify
    cases payload with
    | access sub role => cases htype
    | generic sub type =>
      obtain rfl : type = .resetPassword := htype
      exact ⟨iat, hsign.symm⟩

/-! ### Who is let through -/

theorem authorize_eq_ok_iff {roles : List UserRole} {user actor : Actor} {p : Platform} :
    authorize roles user p = .ok actor ↔
      ∃ u ∈ p.users, u.id = user.id ∧ u.status = .active ∧ u.role ∈ roles ∧
        actor = ⟨u.id, u.role⟩ := by
  unfold authorize loadUser
  cases hfound : p.users.findById user.id with
  | none =>
    refine iff_of_false (fun h => by cases h) ?_
    rintro ⟨u, hu, hid, -⟩
    exact Collection.findById_eq_none.1 hfound u hu hid
  | some found =>
    obtain ⟨hmem, hid⟩ := Collection.findById_eq_some.1 hfound
    have honly : ∀ u ∈ p.users, u.id = user.id → u = found := fun u hu huid =>
      Collection.eq_of_docId hu hmem (huid.trans hid.symm)
    dsimp only
    split_ifs with hactive
    · refine iff_of_false (fun h => by cases h) ?_
      rintro ⟨u, hu, huid, hstatus, -⟩
      exact hactive (honly u hu huid ▸ hstatus)
    · rw [ne_eq, not_not] at hactive
      dsimp only
      split_ifs with hrole
      · rw [Except.ok.injEq]
        constructor
        · rintro rfl
          exact ⟨found, hmem, hid, hactive, hrole, rfl⟩
        · rintro ⟨u, hu, huid, -, -, rfl⟩
          rw [honly u hu huid]
      · refine iff_of_false (fun h => by cases h) ?_
        rintro ⟨u, hu, huid, -, hin, -⟩
        exact hrole (honly u hu huid ▸ hin)

/-- **A request is let through** when it carries something signed under the secret of the access
tokens that has not expired, for an account that is active and has one of the roles now. -/
theorem guardRoute_eq_ok {roles : List UserRole} {request : RequestCredentials} {p : Platform}
    {actor : Actor} :
    guardRoute jwt env roles request p = .ok actor ↔
      ∃ token, presentedToken request.token = some token ∧
        ∃ payload iat, jwt.sign env.jwtAccessSecret ⟨payload, iat⟩ = token ∧
          env.Live ⟨payload, iat⟩ p.world.now ∧
          ∃ u ∈ p.users, u.id = payload.sub ∧ u.status = .active ∧ u.role ∈ roles ∧
            actor = ⟨u.id, u.role⟩ := by
  unfold guardRoute authenticate
  cases htoken : presentedToken request.token with
  | none => exact iff_of_false (fun h => by cases h) fun ⟨_, h, _⟩ => by cases h
  | some token =>
    simp only [Option.some.injEq, exists_eq_left']
    cases hverify : verifyAccessToken jwt env token p.world.now with
    | none =>
      refine iff_of_false (fun h => by cases h) ?_
      rintro ⟨payload, iat, hsign, hlive, -⟩
      rw [verifyAccessToken_eq_some.2 ⟨iat, hsign, hlive⟩] at hverify
      cases hverify
    | some payload =>
      dsimp only
      rw [authorize_eq_ok_iff]
      constructor
      · intro huser
        obtain ⟨iat, hsign, hlive⟩ := verifyAccessToken_eq_some.1 hverify
        exact ⟨payload, iat, hsign, hlive, huser⟩
      · rintro ⟨payload', iat, hsign, hlive, huser⟩
        rw [verifyAccessToken_eq_some.2 ⟨iat, hsign, hlive⟩, Option.some.injEq] at hverify
        rw [← hverify]
        exact huser

end

/-! ### Tokens that are tallies -/

/-- A payload as a number of strokes. -/
def TokenPayload.strokes : TokenPayload → ℕ
  | access _ .user => 0
  | access _ .hr => 1
  | access _ .admin => 2
  | access _ .superAdmin => 3
  | generic _ .access => 4
  | generic _ .refresh => 5
  | generic _ .verifyEmail => 6
  | generic _ .resetPassword => 7
  | generic _ .oauthState => 8

/-- The payload of an account with so many strokes. -/
def TokenPayload.ofStrokes (sub : ObjectId) : ℕ → TokenPayload
  | 0 => access sub .user
  | 1 => access sub .hr
  | 2 => access sub .admin
  | 3 => access sub .superAdmin
  | 4 => generic sub .access
  | 5 => generic sub .refresh
  | 6 => generic sub .verifyEmail
  | 7 => generic sub .resetPassword
  | _ => generic sub .oauthState

theorem TokenPayload.ofStrokes_strokes (payload : TokenPayload) :
    .ofStrokes payload.sub payload.strokes = payload := by
  rcases payload with ⟨sub, _ | _ | _ | _⟩ | ⟨sub, _ | _ | _ | _ | _⟩ <;> rfl

/-- The strokes of the claims. -/
def TokenClaims.tally (claims : TokenClaims) : List Char :=
  List.replicate claims.payload.sub 'a' ++ List.replicate claims.payload.strokes 'b' ++
    List.replicate (Equiv.intEquivNat claims.iat) 'c'

/-- The claims of some strokes. -/
def TokenClaims.ofTally (tally : List Char) : TokenClaims :=
  ⟨.ofStrokes (tally.count 'a') (tally.count 'b'), Equiv.intEquivNat.symm (tally.count 'c')⟩

theorem TokenClaims.ofTally_tally (claims : TokenClaims) : .ofTally claims.tally = claims := by
  have hcounts : claims.tally.count 'a' = claims.payload.sub ∧
      claims.tally.count 'b' = claims.payload.strokes ∧
      claims.tally.count 'c' = Equiv.intEquivNat claims.iat := by
    simp [tally, List.count_replicate]
  rw [ofTally, hcounts.1, hcounts.2.1, hcounts.2.2, TokenPayload.ofStrokes_strokes,
    Equiv.symm_apply_apply]

theorem TokenClaims.dot_notMem_tally (claims : TokenClaims) : '.' ∉ claims.tally := by
  simp [tally, List.mem_replicate]

/-- The tally of the claims, and the secret after a dot. -/
def tallyToken (secret : String) (claims : TokenClaims) : String :=
  String.ofList (claims.tally ++ '.' :: secret.toList)

def readTallyToken (token : String) : String × TokenClaims :=
  (String.ofList (token.toList.dropWhile (· ≠ '.')).tail,
    .ofTally (token.toList.takeWhile (· ≠ '.')))

theorem readTallyToken_tallyToken (secret : String) (claims : TokenClaims) :
    readTallyToken (tallyToken secret claims) = (secret, claims) := by
  have hstrokes : ∀ c ∈ claims.tally, decide (c ≠ '.') = true := fun c hc =>
    decide_eq_true fun h => claims.dot_notMem_tally (h ▸ hc)
  have htake : (claims.tally ++ '.' :: secret.toList).takeWhile (· ≠ '.') = claims.tally := by
    rw [List.takeWhile_append_of_pos hstrokes]
    simp
  have hdrop : (claims.tally ++ '.' :: secret.toList).dropWhile (· ≠ '.') =
      '.' :: secret.toList := by
    rw [List.dropWhile_append_of_pos hstrokes]
    simp
  rw [readTallyToken, tallyToken, String.toList_ofList, htake, hdrop, List.tail_cons,
    String.ofList_toList, claims.ofTally_tally]

def tallyJwt : SignatureScheme String TokenClaims String :=
  .ofLeftInverse tallyToken readTallyToken readTallyToken_tallyToken

theorem tallyJwt_sign_ne (secret : String) (claims : TokenClaims) :
    tallyJwt.sign secret claims ≠ "" := by
  intro h
  have hlist := congrArg String.toList h
  change (String.ofList (claims.tally ++ '.' :: secret.toList)).toList = _ at hlist
  rw [String.toList_ofList] at hlist
  exact absurd hlist (by simp)

/-- The defaults of the environment. -/
def defaultTokenEnv : TokenEnv where
  jwtAccessSecret := "dev-access-secret-change-me"
  jwtRefreshSecret := "dev-refresh-secret-change-me"
  jwtAccessExpiresIn := 15 * 60
  jwtRefreshExpiresIn := 7 * 24 * 60 * 60
  jwtVerifyEmailExpiresIn := 24 * 60 * 60
  jwtResetPasswordExpiresIn := 60 * 60

end HrBooking
