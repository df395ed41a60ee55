import HrBooking.Model.World

/-!
# Accounts and their sessions

The documents of the `User`, `RefreshToken` and `OAuthAccount` collections, and the state that the
account services share with the booking services.

* `RefreshToken` : the record of a session; the token itself is with the client, the record has its
  hash under a unique index.
* `DeviceContext.Fits` : what the schema asks of the device of a session.
* `Platform` : the state of the account services.
* `Crypto` : the libraries that hash and sign.
-/

namespace HrBooking

/-! ### Documents -/

/-- An account. -/
structure User where
  id : ObjectId
  email : String
  /-- The hash of the password. -/
  password : String
  firstName : String
  lastName : String
  role : UserRole
  status : UserStatus
  isEmailVerified : Bool
  failedLoginAttempts : ℕ
  lockedUntil : Option ℤ
  deriving DecidableEq

/-- The index on `email` is unique. -/
instance : Document User ObjectId String := ⟨User.id, fun user => some user.email⟩

/-- An admin's account. -/
def User.isAdmin (user : User) : Bool := user.role = .admin || user.role = .superAdmin

/-- A session. -/
structure RefreshToken where
  id : ObjectId
  userId : ObjectId
  tokenHash : String
  expiresAt : ℤ
  revokedAt : Option ℤ
  replacedByTokenHash : Option String
  userAgent : Option String
  ip : Option String
  deriving DecidableEq

/-- The index on `tokenHash` is unique. -/
instance : Document RefreshToken ObjectId String :=
  ⟨RefreshToken.id, fun token => some token.tokenHash⟩

/-- How long a session lasts, in milliseconds. -/
def refreshTokenTtlMs : ℤ := 7 * 24 * 60 * 60 * 1000

/-- `previous.revokedAt = new Date()` and the link to the next session. -/
def RefreshToken.revoke (token : RefreshToken) (now : ℤ) (tokenHash : String) : RefreshToken :=
  { token with revokedAt := some now, replacedByTokenHash := some tokenHash }

/-- A calendar connection of a consultant. -/
structure OAuthAccount where
  id : ObjectId
  userId : ObjectId
  calendarId : String
  deriving DecidableEq

/-- The index on `userId` and the provider is unique, and there is one provider. -/
instance : Document OAuthAccount ObjectId ObjectId :=
  ⟨OAuthAccount.id, fun account => some account.userId⟩

/-- The device a session is opened from. -/
structure DeviceContext where
  ip : Option String
  userAgent : Option String
  deriving DecidableEq

/-- The schema bounds what is stored of a device. -/
def DeviceContext.Fits (device : DeviceContext) : Prop :=
  (∀ userAgent ∈ device.userAgent, utf16Length userAgent ≤ 500) ∧
    ∀ ip ∈ device.ip, utf16Length ip ≤ 100

instance (device : DeviceContext) : Decidable device.Fits :=
  inferInstanceAs (Decidable (_ ∧ _))

/-! ### The state -/

/-- The state of the account services. -/
structure Platform where
  world : World
  users : Collection User
  refreshTokens : Collection RefreshToken
  oauthAccounts : Collection OAuthAccount
  /-- The random tokens that were drawn. -/
  drawnTokens : List String

/-- A command on the part of the state that the booking services use. -/
def Platform.onWorld (f : World → World) (p : Platform) : Platform := { p with world := f p.world }

/-- Time passes. -/
def Platform.advance (ms : ℕ) (p : Platform) : Platform :=
  p.onWorld fun w => { w with now := w.now + ms }

/-- What is hashed and signed by libraries. -/
structure Crypto where
  hashRefreshToken : String → String
  /-- The hash of a password under a salt. -/
  hashPassword : String → ℕ → String
  verifyPassword : String → String → Bool
  signAccessToken : ObjectId → UserRole → ℤ → String
  /-- The account that a link to reset a password is for, while the link is valid. -/
  verifyResetToken : String → ℤ → Option ObjectId

/-- What is drawn for a new session. -/
structure Draw where
  /-- The identity of the document. -/
  newId : ObjectId
  /-- The random bytes of the token, in base64url. -/
  rawRefreshToken : String

/-- What is drawn is new; a random token has 64 characters. -/
structure Draw.Fresh (d : Draw) (p : Platform) : Prop where
  newId : d.newId ∉ p.world.issuedIds
  rawRefreshToken : d.rawRefreshToken ∉ p.drawnTokens
  length : d.rawRefreshToken.length = 64

instance (d : Draw) (p : Platform) : Decidable (d.Fresh p) :=
  decidable_of_iff
    (d.newId ∉ p.world.issuedIds ∧ d.rawRefreshToken ∉ p.drawnTokens ∧
      d.rawRefreshToken.length = 64)
    ⟨fun h => ⟨h.1, h.2.1, h.2.2⟩, fun h => ⟨h.newId, h.rawRefreshToken, h.length⟩⟩

end HrBooking
