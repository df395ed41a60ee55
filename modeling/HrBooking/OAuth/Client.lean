import HrBooking.Site.Service
import HrBooking.Slot.Schema

/-!
# The token endpoint

`integrations/google/google-oauth.client.ts`: what Google answers over HTTP, and what is read from
it.  The answers are what they are; whose tokens they carry is a matter of Google's books, which the
server does not see.

* `requestTokens`, `exchangeCode`, `refreshAccessToken`, `fetchIdentity` : what is read.
* `GoogleBooks` : whom tokens and addresses belong to.
* `GoogleBooks.Honours` : the answers of one moment go by the books.
* `GoogleBooks.owner_of_exchanged`, `GoogleBooks.owner_of_refreshed` and
  `GoogleBooks.owner_of_identity` : what follows for what is read.
-/

namespace HrBooking

/-- A text that is not empty. -/
abbrev RequiredText := {text : String // text ≠ ""}

namespace OAuth

/-! ### Over HTTP -/

/-- A response; a body that is no JSON is none. -/
structure HttpResponse (β : Type) where
  ok : Bool
  status : ℕ
  body : Option β

/-- The body of an answer of the token endpoint. -/
structure TokenBody where
  accessToken : Option String
  refreshToken : Option String
  /-- In seconds. -/
  expiresIn : Option ℤ
  scope : Option String
  error : Option String
  errorDescription : Option String

/-- The body of an answer of the user-info endpoint. -/
structure IdentityBody where
  sub : Option String
  email : Option String

/-- What Google answers at one moment; a request may also not be answered. -/
structure GoogleAnswers where
  /-- To a code. -/
  exchange : String → Option (HttpResponse TokenBody)
  /-- To a refresh token. -/
  refresh : String → Option (HttpResponse TokenBody)
  /-- To an access token, at the user-info endpoint. -/
  userinfo : String → Option (HttpResponse IdentityBody)

/-! ### What is read -/

/-- `GoogleApiError` -/
structure GoogleApiError where
  message : String
  status : ℕ
  deriving DecidableEq

/-- What a request to Google throws: its own error, or that of the network or of the JSON. -/
inductive GoogleFailure where
  | api (error : GoogleApiError)
  | other
  deriving DecidableEq

/-- What the token endpoint has given. -/
structure GoogleTokens where
  accessToken : RequiredText
  refreshToken : Option String
  expiresAt : ℤ
  scopes : List String

/-- Whose Google account it is. -/
structure GoogleIdentity where
  sub : RequiredText
  email : Option String

/-- `GOOGLE_OAUTH.SCOPES` -/
def scopes : List String := ["openid", "email", "https://www.googleapis.com/auth/calendar.events"]

/-- A value that JavaScript takes for true. -/
def present (text : Option String) : Option RequiredText :=
  text.bind fun text => if h : text ≠ "" then some ⟨text, h⟩ else none

section

variable (env : Env) (google : GoogleAnswers) (now : ℤ)

/-- `requestTokens`, with the answer of the endpoint. -/
def requestTokens (answer : Option (HttpResponse TokenBody)) :
    Except GoogleFailure GoogleTokens :=
  if env.isGoogleConfigured then
    match answer with
    | none => .error .other
    | some res =>
      match res.ok, present (res.body.bind TokenBody.accessToken) with
      | true, some accessToken =>
        .ok
          { accessToken
            refreshToken := res.body.bind TokenBody.refreshToken
            expiresAt := now + (res.body.bind TokenBody.expiresIn).getD 3600 * 1000
            scopes :=
              match present (res.body.bind TokenBody.scope) with
              | some scope => scope.val.splitOn " "
              | none => scopes }
      | _, _ =>
        .error <| .api
          ⟨((res.body.bind TokenBody.errorDescription).or (res.body.bind TokenBody.error)).getD
            "Google rejected the token request.", res.status⟩
  else .error (.api ⟨Site.notConfiguredText, 503⟩)

/-- `exchangeCode` -/
def exchangeCode (code : String) : Except GoogleFailure GoogleTokens :=
  requestTokens env now (google.exchange code)

/-- `refreshAccessToken` -/
def refreshAccessToken (refreshToken : String) : Except GoogleFailure GoogleTokens :=
  requestTokens env now (google.refresh refreshToken)

/-- `fetchIdentity` -/
def fetchIdentity (accessToken : String) : Except GoogleFailure GoogleIdentity :=
  match google.userinfo accessToken with
  | none => .error .other
  | some res =>
    if res.ok then
      match res.body with
      | none => .error .other
      | some body =>
        match present body.sub with
        | some sub => .ok ⟨sub, body.email⟩
        | none => .error (.api ⟨"Google did not return an account identifier.", 502⟩)
    else .error (.api ⟨"Could not read the Google account profile.", res.status⟩)

end

@[simp] theorem present_eq_some {text : Option String} {required : RequiredText} :
    present text = some required ↔ text = some required.val := by
  unfold present
  constructor
  · intro h
    obtain ⟨s, rfl, hs⟩ := Option.bind_eq_some_iff.1 h
    split_ifs at hs
    cases hs
    rfl
  · rintro rfl
    exact dif_pos required.property

theorem requestTokens_eq_ok {env : Env} {now : ℤ} {answer : Option (HttpResponse TokenBody)}
    {tokens : GoogleTokens} (h : requestTokens env now answer = .ok tokens) :
    ∃ res body, answer = some res ∧ res.ok = true ∧ res.body = some body ∧
      body.accessToken = some tokens.accessToken.val ∧ body.refreshToken = tokens.refreshToken := by
  unfold requestTokens at h
  split_ifs at h
  cases answer with
  | none => cases h
  | some res =>
    dsimp only at h
    split at h
    · rename_i accessToken hok haccess
      obtain ⟨body, hbody, hgiven⟩ := Option.bind_eq_some_iff.1 (present_eq_some.1 haccess)
      cases h
      refine ⟨res, body, rfl, hok, hbody, hgiven, ?_⟩
      rw [hbody]
      rfl
    · cases h

theorem fetchIdentity_eq_ok {google : GoogleAnswers} {accessToken : String}
    {identity : GoogleIdentity} (h : fetchIdentity google accessToken = .ok identity) :
    ∃ res body, google.userinfo accessToken = some res ∧ res.ok = true ∧ res.body = some body ∧
      body.sub = some identity.sub.val ∧ body.email = identity.email := by
  unfold fetchIdentity at h
  split at h
  · cases h
  · rename_i res hres
    split_ifs at h with hok
    split at h
    · cases h
    · rename_i body hbody
      split at h
      · rename_i sub hsub
        cases h
        exact ⟨res, body, hres, hok, hbody, present_eq_some.1 hsub, rfl⟩
      · cases h

/-! ### Google's books -/

/-- `trim` and `lowercase` of a stored address. -/
def storedEmail (email : String) : String := toLowerCase (jsTrim email)

/-- Whom tokens and addresses belong to, by account identifiers. -/
structure GoogleBooks where
  /-- The account that a token has been issued for. -/
  owner : String → Option String
  /-- The addresses of an account. -/
  addresses : String → Set String

/-- The answers of one moment go by the books: what one exchange gives is issued for one account, a
refreshed token for the account of the refresh token, and the user-info endpoint tells of the
account of the access token. -/
structure GoogleBooks.Honours (books : GoogleBooks) (google : GoogleAnswers) : Prop where
  exchange : ∀ code res body access refresh, google.exchange code = some res → res.ok = true →
    res.body = some body → body.accessToken = some access → body.refreshToken = some refresh →
      access ≠ "" → refresh ≠ "" → books.owner refresh = books.owner access
  refresh : ∀ token res body access, google.refresh token = some res → res.ok = true →
    res.body = some body → body.accessToken = some access →
      access ≠ "" → books.owner access = books.owner token
  userinfo_sub : ∀ access res body sub, google.userinfo access = some res → res.ok = true →
    res.body = some body → body.sub = some sub → sub ≠ "" → books.owner access = some sub
  userinfo_email : ∀ access res body sub email, google.userinfo access = some res →
    res.ok = true → res.body = some body → body.sub = some sub → body.email = some email →
      sub ≠ "" → storedEmail email ∈ books.addresses sub

namespace GoogleBooks

variable {books : GoogleBooks} {google : GoogleAnswers} {env : Env} {now : ℤ}

theorem owner_of_exchanged (h : books.Honours google) {code : String} {tokens : GoogleTokens}
    (hread : exchangeCode env google now code = .ok tokens) {refresh : RequiredText}
    (hrefresh : present tokens.refreshToken = some refresh) :
    books.owner refresh = books.owner tokens.accessToken := by
  obtain ⟨res, body, hres, hok, hbody, haccess, hgiven⟩ := requestTokens_eq_ok hread
  rw [present_eq_some, ← hgiven] at hrefresh
  exact h.exchange code res body _ _ hres hok hbody haccess hrefresh tokens.accessToken.property
    refresh.property

theorem owner_of_refreshed (h : books.Honours google) {token : String} {tokens : GoogleTokens}
    (hread : refreshAccessToken env google now token = .ok tokens) :
    books.owner tokens.accessToken = books.owner token := by
  obtain ⟨res, body, hres, hok, hbody, haccess, -⟩ := requestTokens_eq_ok hread
  exact h.refresh token res body _ hres hok hbody haccess tokens.accessToken.property

theorem owner_of_identity (h : books.Honours google) {access : String} {identity : GoogleIdentity}
    (hread : fetchIdentity google access = .ok identity) :
    books.owner access = some identity.sub.val ∧
      ∀ email ∈ identity.email, storedEmail email ∈ books.addresses identity.sub := by
  obtain ⟨res, body, hres, hok, hbody, hsub, hemail⟩ := fetchIdentity_eq_ok hread
  refine ⟨h.userinfo_sub access res body _ hres hok hbody hsub identity.sub.property, ?_⟩
  intro email hgiven
  rw [← hemail] at hgiven
  exact h.userinfo_email access res body _ email hres hok hbody hsub hgiven identity.sub.property

end GoogleBooks

end OAuth

end HrBooking
