import HrBooking.Account.Secret
import HrBooking.OAuth.Client

/-!
# The connection service

`services/oauth.service.ts` on whole documents, with the credentials they keep.

* `Connection` : the document of the `OAuthAccount` collection.
* `completeGoogleConnection`, `disconnectGoogle`, `getGoogleAccess` : the services.
* `completeGoogleConnection_cases`, `mem_of_mem_disconnectGoogle`, `getGoogleAccess_cases` : what
  each of them can do.
* `completeGoogleConnection_site`, `disconnectGoogle_site`, `getGoogleAccess_site` : seen from the
  rest of the system, they are the services on the documents without credentials.
-/

namespace HrBooking

namespace OAuth

/-- The stored credentials of a consultant. -/
structure Connection extends OAuthAccount where
  providerAccountId : RequiredText
  accountEmail : Option String
  /-- A sealed text. -/
  refreshToken : RequiredText
  /-- A sealed text. -/
  accessToken : Option String
  accessTokenExpiresAt : Option ℤ
  scopes : List String
  lastError : Option String
  deriving DecidableEq

/-- The index on `userId` and the provider is unique, and there is one provider. -/
instance : Document Connection ObjectId ObjectId :=
  ⟨fun account => account.id, fun account => some account.userId⟩

/-- What a caller of the calendar gets. -/
structure GoogleAccess where
  accessToken : String
  calendarId : String
  deriving DecidableEq

/-- The characters that fit into so many code units; of a pair that is cut its replacement is
stored. -/
def cutUnits : ℕ → List Char → List Char
  | 0, _ => []
  | _, [] => []
  | 1, c :: _ => if c.toNat < 0x10000 then [c] else ['\uFFFD']
  | n + 2, c :: rest =>
    c :: if c.toNat < 0x10000 then cutUnits (n + 1) rest else cutUnits n rest

/-- `message.slice(0, 300)` -/
def errorText (message : String) : String := String.ofList (cutUnits 300 message.toList)

/-- `GOOGLE_OAUTH.TOKEN_EXPIRY_SKEW_MS` -/
def tokenExpirySkewMs : ℤ := 60000

/-- `account.save()` after a change of some fields. -/
def save (connections : Collection Connection) (account : Connection)
    (change : Connection → Connection) : Collection Connection :=
  (connections.update account.id change).getD connections

/-- The failure, as the callback reports it. -/
def GoogleFailure.reported : GoogleFailure → Site.OAuthConnectionError
  | .api error => ⟨"google_error", error.message⟩
  | .other => ⟨"unexpected_error", AppError.internal.message⟩

/-- The text of a failed refresh. -/
def GoogleFailure.message : GoogleFailure → String
  | .api error => error.message
  | .other => "Google refused to refresh the access token."

/-- The answers of `getGoogleAccess` when there are no credentials to use. -/
def notConnected : Site.OAuthConnectionError :=
  ⟨"not_connected", "The consultant has not connected a Google account."⟩

def unreadableCredentials : Site.OAuthConnectionError :=
  ⟨"unreadable_credentials", "Stored Google credentials could not be read. Reconnect the account."⟩

section

variable (cipher : Aead)

/-- `safeDecrypt` -/
def safeDecrypt (value : Option String) : Option String :=
  (present value).bind fun value => (decryptSecret cipher value).toOption

theorem encryptSecret_ne_empty (iv : Iv) (plaintext : String) :
    encryptSecret cipher iv plaintext ≠ "" := by
  intro h
  have hlength := congrArg (fun payload => (Base64.decode payload).length) h
  rw [encryptSecret, Base64.decode_encode, Aead.length_sealed] at hlength
  exact Nat.not_succ_le_zero _ ((Nat.le_add_right _ _).trans hlength.le)

/-- `encryptSecret`, whose result is not empty. -/
def encrypted (iv : Iv) (plaintext : String) : RequiredText :=
  ⟨encryptSecret cipher iv plaintext, encryptSecret_ne_empty cipher iv plaintext⟩

/-- The refresh token to store: the one given, or the one there is. -/
def keptRefreshToken (iv : Iv) (tokens : GoogleTokens) (existing : Option Connection) :
    Option RequiredText :=
  match present tokens.refreshToken with
  | some token => some (encrypted cipher iv token)
  | none => existing.map Connection.refreshToken

/-- What `$set` and `$unset` write; an undefined value is left out of an update. -/
def reconnected (iv : Iv) (identity : GoogleIdentity) (refreshToken : RequiredText)
    (tokens : GoogleTokens) (account : Connection) : Connection :=
  { account with
    providerAccountId := identity.sub
    accountEmail := (identity.email.map storedEmail).or account.accountEmail
    refreshToken
    accessToken := some (encryptSecret cipher iv tokens.accessToken)
    accessTokenExpiresAt := some tokens.expiresAt
    scopes := tokens.scopes
    lastError := none }

/-- The document that an upsert inserts. -/
def connected (newId userId : ObjectId) (iv : Iv) (identity : GoogleIdentity)
    (refreshToken : RequiredText) (tokens : GoogleTokens) : Connection :=
  reconnected cipher iv identity refreshToken tokens
    ⟨⟨newId, userId, "primary"⟩, identity.sub, none, refreshToken, none, none, [], none⟩

/-- `OAuthAccount.findOneAndUpdate` with `upsert`. -/
def upsertConnection (newId userId : ObjectId) (iv : Iv) (identity : GoogleIdentity)
    (refreshToken : RequiredText) (tokens : GoogleTokens) (connections : Collection Connection) :
    Except Site.OAuthConnectionError Connection × Collection Connection :=
  match connections.findByKey userId with
  | some account =>
    (.ok (reconnected cipher iv identity refreshToken tokens account),
      save connections account (reconnected cipher iv identity refreshToken tokens))
  | none =>
    let account := connected cipher newId userId iv identity refreshToken tokens
    match connections.insert account with
    | none => (.error ⟨"unexpected_error", AppError.internal.message⟩, connections)
    | some connections => (.ok account, connections)

variable (env : Env)

/-- `completeGoogleConnection`, by the user the state has been signed for. -/
def completeGoogleConnection (newId : ObjectId) (ivs : Iv × Iv) (google : GoogleAnswers)
    (now : ℤ) (code : String) (verified : Option ObjectId) (connections : Collection Connection) :
    Except Site.OAuthConnectionError Connection × Collection Connection :=
  match verified with
  | none => (.error ⟨"invalid_state", "The authorisation request expired."⟩, connections)
  | some userId =>
    match exchangeCode env google now code with
    | .error failure => (.error failure.reported, connections)
    | .ok tokens =>
      match fetchIdentity google tokens.accessToken with
      | .error failure => (.error failure.reported, connections)
      | .ok identity =>
        match keptRefreshToken cipher ivs.1 tokens (connections.findByKey userId) with
        | none => (.error Site.missingRefreshToken, connections)
        | some refreshToken =>
          upsertConnection cipher newId userId ivs.2 identity refreshToken tokens connections

/-- `disconnectGoogle`, with the token that Google is asked to revoke. -/
def disconnectGoogle (userId : ObjectId) (connections : Collection Connection) :
    Except AppError String × Collection Connection :=
  match connections.findByKey userId with
  | none => (.error (.notFound "No Google account is connected."), connections)
  | some account =>
    (.ok ((safeDecrypt cipher (some account.refreshToken)).getD ""),
      connections.delete fun d => d.id = account.id)

/-- The stored access token, while it is still valid. -/
def usableToken (now : ℤ) (account : Connection) : Option RequiredText :=
  match account.accessTokenExpiresAt with
  | none => none
  | some expiresAt =>
    if expiresAt - tokenExpirySkewMs > now then present (safeDecrypt cipher account.accessToken)
    else none

/-- `recordAccountError` -/
def recordAccountError (connections : Collection Connection) (account : Connection)
    (message : String) : Collection Connection :=
  save connections account fun account => { account with lastError := some (errorText message) }

/-- What a refresh writes. -/
def refreshed (iv : Iv) (tokens : GoogleTokens) (account : Connection) : Connection :=
  { account with
    accessToken := some (encryptSecret cipher iv tokens.accessToken)
    accessTokenExpiresAt := some tokens.expiresAt
    lastError := none }

/-- `getGoogleAccess` -/
def getGoogleAccess (iv : Iv) (google : GoogleAnswers) (now : ℤ) (userId : ObjectId)
    (connections : Collection Connection) :
    Except Site.OAuthConnectionError GoogleAccess × Collection Connection :=
  match connections.findByKey userId with
  | none => (.error notConnected, connections)
  | some account =>
    match usableToken cipher now account with
    | some token => (.ok ⟨token, account.calendarId⟩, connections)
    | none =>
      match present (safeDecrypt cipher (some account.refreshToken)) with
      | none =>
        (.error unreadableCredentials,
          recordAccountError connections account "Stored Google credentials could not be read.")
      | some refreshToken =>
        match refreshAccessToken env google now refreshToken with
        | .ok tokens =>
          (.ok ⟨tokens.accessToken, account.calendarId⟩,
            save connections account (refreshed cipher iv tokens))
        | .error failure =>
          (.error ⟨"refresh_failed", failure.message⟩,
            recordAccountError connections account failure.message)

end

/-! ### What the services do -/

section

variable {cipher : Aead} {env : Env} {google : GoogleAnswers} {now : ℤ}
  {connections : Collection Connection} {account : Connection} {userId : ObjectId}

theorem mem_of_findByKey (h : connections.findByKey userId = some account) :
    account ∈ connections ∧ account.userId = userId := by
  obtain ⟨hmem, hkey⟩ := Collection.findByKey_eq_some.1 h
  exact ⟨hmem, Option.some.inj hkey⟩

theorem mem_save (h : account ∈ connections) {change : Connection → Connection}
    (hkeeps : (change account).toOAuthAccount = account.toOAuthAccount) {e : Connection} :
    e ∈ save connections account change ↔
      (e ∈ connections ∧ e.id ≠ account.id) ∨ e = change account := by
  obtain ⟨saved, hsaved, hmem⟩ := Collection.update_of_mem (f := change) h
    (congrArg OAuthAccount.id hkeeps) (congrArg (some <| OAuthAccount.userId ·) hkeeps)
  rw [save, show connections.update account.id change = some saved from hsaved]
  exact hmem e

theorem safeDecrypt_encryptSecret (iv : Iv) (token : RequiredText) :
    safeDecrypt cipher (some (encryptSecret cipher iv token)) = some token.val := by
  have hpresent : present (some (encryptSecret cipher iv token)) =
      some (encrypted cipher iv token) := present_eq_some.2 rfl
  rw [safeDecrypt, hpresent, Option.bind_some]
  simp only [encrypted, decryptSecret_encryptSecret cipher iv token.property]
  rfl

theorem eq_of_safeDecrypt {iv : Iv} {token : RequiredText} {read : String}
    (h : safeDecrypt cipher (some (encryptSecret cipher iv token)) = some read) :
    token.val = read := by
  rw [safeDecrypt_encryptSecret, Option.some.injEq] at h
  exact h

/-- A callback gets as far as writing over the connection of a consultant. -/
structure Reconnects (env : Env) (google : GoogleAnswers) (now : ℤ) (code : String)
    (verified : Option ObjectId) (connections : Collection Connection) (tokens : GoogleTokens)
    (identity : GoogleIdentity) (account : Connection) : Prop where
  exchanged : exchangeCode env google now code = .ok tokens
  identified : fetchIdentity google tokens.accessToken = .ok identity
  found : ∃ userId, verified = some userId ∧ connections.findByKey userId = some account

/-- The refresh token that such a callback stores. -/
def storedRefreshToken (cipher : Aead) (iv : Iv) (tokens : GoogleTokens) (account : Connection) :
    RequiredText :=
  match present tokens.refreshToken with
  | some token => encrypted cipher iv token
  | none => account.refreshToken

theorem keptRefreshToken_some (iv : Iv) (tokens : GoogleTokens) :
    keptRefreshToken cipher iv tokens (some account) =
      some (storedRefreshToken cipher iv tokens account) := by
  unfold keptRefreshToken storedRefreshToken
  split
  · rfl
  · rfl

section

variable {newId : ObjectId} {ivs : Iv × Iv} {code : String} {verified : Option ObjectId}
  {tokens : GoogleTokens} {identity : GoogleIdentity}

theorem completeGoogleConnection_of_reconnects
    (h : Reconnects env google now code verified connections tokens identity account) :
    (completeGoogleConnection cipher env newId ivs google now code verified connections).2 =
      save connections account (reconnected cipher ivs.2 identity
        (storedRefreshToken cipher ivs.1 tokens account) tokens) := by
  obtain ⟨hexchanged, hidentified, userId, rfl, hfound⟩ := h
  simp only [completeGoogleConnection, hexchanged, hidentified, hfound, keptRefreshToken_some,
    upsertConnection]

variable (cipher env newId ivs google now code verified connections) in
theorem completeGoogleConnection_cases :
    (completeGoogleConnection cipher env newId ivs google now code verified connections).2 =
        connections ∨
      (∃ tokens identity account,
        Reconnects env google now code verified connections tokens identity account) ∨
      ∃ userId tokens identity token, exchangeCode env google now code = .ok tokens ∧
        fetchIdentity google tokens.accessToken = .ok identity ∧
        present tokens.refreshToken = some token ∧
        connections.insert (connected cipher newId userId ivs.2 identity
            (encrypted cipher ivs.1 token) tokens) =
          some (completeGoogleConnection cipher env newId ivs google now code verified
            connections).2 := by
  unfold completeGoogleConnection
  cases verified with
  | none => exact .inl rfl
  | some userId =>
    cases hexchanged : exchangeCode env google now code with
    | error failure => exact .inl rfl
    | ok tokens =>
      cases hidentified : fetchIdentity google tokens.accessToken with
      | error failure => exact .inl (by simp only [hidentified])
      | ok identity =>
        cases hfound : connections.findByKey userId with
        | some account =>
          exact .inr (.inl ⟨tokens, identity, account, hexchanged, hidentified, userId, rfl,
            hfound⟩)
        | none =>
          cases hgiven : present tokens.refreshToken with
          | none =>
            exact .inl (by
              simp only [hidentified, keptRefreshToken, hgiven, hfound, Option.map_none])
          | some token =>
            cases hinsert : connections.insert (connected cipher newId userId ivs.2 identity
                (encrypted cipher ivs.1 token) tokens) with
            | none =>
              exact .inl (by
                simp only [hidentified, keptRefreshToken, hgiven, upsertConnection, hfound,
                  hinsert])
            | some inserted =>
              refine .inr (.inr ⟨userId, tokens, identity, token, rfl, hidentified, hgiven, ?_⟩)
              simp only [hidentified, keptRefreshToken, hgiven, upsertConnection, hfound, hinsert]

end

theorem mem_of_mem_disconnectGoogle {e : Connection}
    (h : e ∈ (disconnectGoogle cipher userId connections).2) : e ∈ connections := by
  unfold disconnectGoogle at h
  split at h
  · exact h
  · exact (Collection.mem_delete.1 h).1

variable (cipher env google now userId connections) in
/-- What `getGoogleAccess` can do: nothing, record an error, or refresh. -/
theorem getGoogleAccess_cases (iv : Iv) :
    (getGoogleAccess cipher env iv google now userId connections).2 = connections ∨
      ∃ account, connections.findByKey userId = some account ∧
        ((∃ message, (getGoogleAccess cipher env iv google now userId connections).2 =
            recordAccountError connections account message) ∨
          ∃ token tokens, safeDecrypt cipher (some account.refreshToken) = some token ∧
            refreshAccessToken env google now token = .ok tokens ∧
            (getGoogleAccess cipher env iv google now userId connections).2 =
              save connections account (refreshed cipher iv tokens)) := by
  unfold getGoogleAccess
  cases hfound : connections.findByKey userId with
  | none => exact .inl rfl
  | some account =>
    cases husable : usableToken cipher now account with
    | some token => exact .inl (by simp only [husable])
    | none =>
      refine .inr ⟨account, rfl, ?_⟩
      cases hreadable : present (safeDecrypt cipher (some account.refreshToken)) with
      | none =>
        exact .inl ⟨"Stored Google credentials could not be read.",
          by simp only [husable, hreadable]⟩
      | some token =>
        cases hrefreshed : refreshAccessToken env google now token with
        | error failure =>
          exact .inl ⟨failure.message, by simp only [husable, hreadable, hrefreshed]⟩
        | ok tokens =>
          refine .inr ⟨token, tokens, present_eq_some.1 hreadable, hrefreshed, ?_⟩
          simp only [husable, hreadable, hrefreshed]

theorem getGoogleAccess_eq_ok {iv : Iv} {access : GoogleAccess}
    (h : (getGoogleAccess cipher env iv google now userId connections).1 = .ok access) :
    ∃ account, connections.findByKey userId = some account ∧
      (safeDecrypt cipher account.accessToken = some access.accessToken ∨
        ∃ token tokens, safeDecrypt cipher (some account.refreshToken) = some token ∧
          refreshAccessToken env google now token = .ok tokens ∧
          access.accessToken = tokens.accessToken) := by
  unfold getGoogleAccess at h
  split at h
  · cases h
  · rename_i account hfound
    refine ⟨account, hfound, ?_⟩
    split at h
    · rename_i token husable
      cases h
      unfold usableToken at husable
      split at husable
      · cases husable
      · split_ifs at husable
        exact .inl (present_eq_some.1 husable)
    · split at h
      · cases h
      · rename_i token hreadable
        split at h
        · rename_i tokens hrefreshed
          cases h
          exact .inr ⟨token, tokens, present_eq_some.1 hreadable, hrefreshed, rfl⟩
        · cases h

/-! ### Seen from the rest of the system -/

/-- The documents without their credentials. -/
def accountsOf (connections : Collection Connection) : Collection OAuthAccount :=
  connections.map Connection.toOAuthAccount (fun _ => rfl) (fun _ => rfl)

/-- The user of a state that verifies. -/
def verified (state : OAuthState) (s : Site) : Option ObjectId :=
  if Site.Verifies state s then some state.userId else none

/-- The system with these connections. -/
def withConnections (s : Site) (connections : Collection Connection) : Site :=
  { s with platform := { s.platform with oauthAccounts := accountsOf connections } }

theorem oauthAccounts_of_eq {s : Site} (hs : s = withConnections s connections) :
    s.platform.oauthAccounts = accountsOf connections := by
  rw [hs]
  rfl

theorem accountsOf_save {change : Connection → Connection}
    (hkeeps : ∀ d, (change d).toOAuthAccount = d.toOAuthAccount) :
    accountsOf (save connections account change) = accountsOf connections := by
  unfold save
  cases hupdate : connections.update account.id change with
  | none => rfl
  | some saved => exact Collection.map_update hupdate hkeeps

theorem accountsOf_findByKey :
    (accountsOf connections).findByKey userId =
      (connections.findByKey userId).map Connection.toOAuthAccount :=
  Collection.findByKey_map

/-- What the rest of the system is told of an exchange. -/
def toldOf (google : GoogleAnswers) (env : Env) (now : ℤ) (code : String) :
    Except String Site.GoogleTokens :=
  match exchangeCode env google now code with
  | .error failure => .error failure.reported.message
  | .ok tokens =>
    match fetchIdentity google tokens.accessToken with
    | .error failure => .error failure.reported.message
    | .ok _ => .ok ⟨tokens.refreshToken⟩

theorem isSome_filter_iff {text : Option String} :
    (text.filter fun text => text ≠ "").isSome = true ↔ (present text).isSome = true := by
  cases text with
  | none => rfl
  | some text =>
    by_cases h : text = ""
    · simp [present, h]
    · simp [present, h]

theorem hasRefreshToken_iff {iv : Iv} {tokens : GoogleTokens} :
    Site.HasRefreshToken ⟨tokens.refreshToken⟩ ((accountsOf connections).findByKey userId) ↔
      (keptRefreshToken cipher iv tokens (connections.findByKey userId)).isSome = true := by
  unfold Site.HasRefreshToken keptRefreshToken
  rw [isSome_filter_iff, accountsOf_findByKey, Option.isSome_map]
  cases present tokens.refreshToken with
  | none => simp
  | some token => simp

theorem upsertConnection_site {s : Site} (hs : s = withConnections s connections)
    {newId : ObjectId} {iv : Iv} {identity : GoogleIdentity} {refreshToken : RequiredText}
    {tokens : GoogleTokens} :
    (Site.upsertConnection newId userId s).2 =
      withConnections s (upsertConnection cipher newId userId iv identity refreshToken tokens
        connections).2 := by
  have haccounts := oauthAccounts_of_eq hs
  have hinsert : s.platform.oauthAccounts.insert ⟨newId, userId, "primary"⟩ =
      (connections.insert (connected cipher newId userId iv identity refreshToken tokens)).map
        accountsOf := by
    rw [haccounts]
    exact Collection.insert_map (d := connected cipher newId userId iv identity refreshToken tokens)
  unfold Site.upsertConnection upsertConnection
  rw [hinsert, haccounts, accountsOf_findByKey]
  cases connections.findByKey userId with
  | some account =>
    have hsaved : accountsOf (save connections account
        (reconnected cipher iv identity refreshToken tokens)) = accountsOf connections :=
      accountsOf_save fun _ => rfl
    simp only [Option.map_some, withConnections, hsaved]
    exact hs
  | none =>
    simp only [Option.map_none]
    cases connections.insert (connected cipher newId userId iv identity refreshToken tokens) with
    | none => exact hs
    | some inserted => rfl

/-- **The callback** seen from the rest of the system is the one on documents without
credentials. -/
theorem completeGoogleConnection_site {newId : ObjectId} {ivs : Iv × Iv} {code : String}
    {state : OAuthState} {s : Site} (hs : s = withConnections s connections) :
    (Site.completeGoogleConnection env newId (toldOf google env now code) state s).2 =
      withConnections s (completeGoogleConnection cipher env newId ivs google now code
        (verified state s) connections).2 := by
  have haccounts := oauthAccounts_of_eq hs
  unfold Site.completeGoogleConnection completeGoogleConnection verified toldOf
  split_ifs with hverifies hconfigured
  · dsimp only
    cases exchangeCode env google now code with
    | error failure => exact hs
    | ok tokens =>
      dsimp only
      cases fetchIdentity google tokens.accessToken with
      | error failure => exact hs
      | ok identity =>
        have hkept : Site.HasRefreshToken ⟨tokens.refreshToken⟩
              ((accountsOf connections).findByKey state.userId) ↔
            (keptRefreshToken cipher ivs.1 tokens
              (connections.findByKey state.userId)).isSome = true := hasRefreshToken_iff
        dsimp only
        rw [haccounts]
        cases hrefresh : keptRefreshToken cipher ivs.1 tokens
            (connections.findByKey state.userId) with
        | none =>
          rw [if_neg fun h => by simpa [hrefresh] using hkept.1 h]
          exact hs
        | some refreshToken =>
          rw [if_pos (hkept.2 (by rw [hrefresh]; rfl))]
          exact upsertConnection_site hs
  · have hrefused : exchangeCode env google now code =
        .error (.api ⟨Site.notConfiguredText, 503⟩) := if_neg hconfigured
    rw [hrefused]
    exact hs
  · exact hs

/-- **The disconnection** seen from the rest of the system. -/
theorem disconnectGoogle_site {s : Site} (hs : s = withConnections s connections) :
    (Site.disconnectGoogle userId s).2 =
      withConnections s (disconnectGoogle cipher userId connections).2 := by
  have haccounts := oauthAccounts_of_eq hs
  unfold Site.disconnectGoogle disconnectGoogle
  rw [haccounts, accountsOf_findByKey]
  cases connections.findByKey userId with
  | none => exact hs
  | some account =>
    have hdeleted : (accountsOf connections).delete (fun d => d.id = account.id) =
        accountsOf (connections.delete fun d => d.id = account.id) := Collection.delete_map
    simp only [Option.map_some, hdeleted]
    rfl

theorem getGoogleAccess_site (iv : Iv) :
    accountsOf (getGoogleAccess cipher env iv google now userId connections).2 =
      accountsOf connections := by
  obtain hsame | ⟨account, -, ⟨message, hrecorded⟩ | ⟨token, tokens, -, -, hsaved⟩⟩ :=
    getGoogleAccess_cases cipher env google now connections userId iv
  · rw [hsame]
  · rw [hrecorded, recordAccountError]
    exact accountsOf_save fun _ => rfl
  · rw [hsaved]
    exact accountsOf_save fun _ => rfl

end

end OAuth

end HrBooking
