import HrBooking.Machine.Parties
import HrBooking.OAuth.Identity

/-!
# Connections used at the same time

Callbacks, disconnections and calls for the calendar run at the same time, one command after
another.  A refresh asks Google between the command that reads the connection and the one that saves
what Google gave; a callback may write another account into the connection meanwhile.

* `Stage` : the next command of a request in flight.
* `racing` : any number of requests over one store.
* `completeGoogleConnection_alone`, `disconnectGoogle_alone`, `getGoogleAccess_alone` : a request
  that runs alone does what the call does.
* `Unmixed` : every stored token, and every token given out, is of the account that goes with it.
* `Stage.Fits` : what a write must find.
* `unmixed_iff` : the interleavings in which nothing is ever mixed.
* `credentials_kept` : without a callback, credentials stay as they are until they are removed.
-/

namespace HrBooking

theorem Collection.update_congr {D ι κ : Type*} [Document D ι κ] [DecidableEq ι] [DecidableEq κ]
    {c : Collection D} {i : ι} {f g : D → D} (h : ∀ d ∈ c, Document.docId d = i → f d = g d) :
    c.update i f = c.update i g := by
  have hmap : Collection.mapAt c.docs i f = Collection.mapAt c.docs i g := by
    refine List.map_congr_left fun d hd => ?_
    split_ifs with hid
    · exact h d hd hid
    · rfl
  simp only [Collection.update, hmap]

namespace OAuth

/-- `account.save()`: the paths that have been changed since the document was read. -/
def Connection.saveOver (loaded current stored : Connection) : Connection :=
  { stored with
    accessToken := savePath loaded.accessToken current.accessToken stored.accessToken
    accessTokenExpiresAt :=
      savePath loaded.accessTokenExpiresAt current.accessTokenExpiresAt stored.accessTokenExpiresAt
    lastError := savePath loaded.lastError current.lastError stored.lastError }

/-- `account.save()` of a held document. -/
def saveHeld (connections : Collection Connection) (loaded current : Connection) :
    Collection Connection :=
  save connections loaded (loaded.saveOver current)

/-- What `recordAccountError` writes. -/
def failing (message : String) (account : Connection) : Connection :=
  { account with lastError := some (errorText message) }

/-- The next command of a request in flight. -/
inductive Stage where
  /-- `exchangeCode` -/
  | exchange (userId : ObjectId) (code : String)
  /-- `fetchIdentity` -/
  | identify (userId : ObjectId) (tokens : GoogleTokens)
  /-- `OAuthAccount.findOne` of a callback -/
  | findExisting (userId : ObjectId) (tokens : GoogleTokens) (identity : GoogleIdentity)
  /-- `OAuthAccount.findOneAndUpdate` -/
  | upsert (userId : ObjectId) (tokens : GoogleTokens) (identity : GoogleIdentity)
      (existing : Option Connection) (refreshToken : RequiredText)
  /-- `OAuthAccount.findOne` of a disconnection -/
  | findConnected (userId : ObjectId)
  /-- `account.deleteOne()`, after the revocation -/
  | delete (account : Connection)
  /-- `OAuthAccount.findOne` of `getGoogleAccess` -/
  | findAccount (userId : ObjectId)
  /-- `refreshAccessToken` -/
  | refresh (account : Connection) (refreshToken : RequiredText)
  /-- `account.save()` of what Google gave -/
  | saveRefreshed (account : Connection) (tokens : GoogleTokens)
  /-- `account.save()` of `recordAccountError` -/
  | saveError (account : Connection) (message : String) (error : Site.OAuthConnectionError)

/-- A party that makes a request. -/
inductive OAuthProc where
  | idle
  | running (stage : Stage)
  | connected (account : Connection)
  | disconnected (answer : Except AppError String)
  /-- `getGoogleAccess` has returned, after it has read this document. -/
  | granted (account : Connection) (access : GoogleAccess)
  | refused (error : Site.OAuthConnectionError)

/-- A request; a callback has the user its state is signed for. -/
inductive Job where
  | completeGoogleConnection (code : String) (verified : Option ObjectId)
  | disconnectGoogle (userId : ObjectId)
  | getGoogleAccess (userId : ObjectId)

/-- What a request begins with. -/
def Job.begin : Job → OAuthProc
  | completeGoogleConnection _ none =>
    .refused ⟨"invalid_state", "The authorisation request expired."⟩
  | completeGoogleConnection code (some userId) => .running (.exchange userId code)
  | disconnectGoogle userId => .running (.findConnected userId)
  | getGoogleAccess userId => .running (.findAccount userId)

/-- What is decided while a command runs. -/
structure Input (books : GoogleBooks) where
  google : {google // books.Honours google}
  now : ℤ
  newId : ObjectId
  ivs : Iv × Iv

section

variable (books : GoogleBooks) (cipher : Aead) (env : Env)

/-- Issue the next command. -/
def Stage.exec (i : Input books) (connections : Collection Connection) :
    Stage → Collection Connection × OAuthProc
  | exchange userId code =>
    match exchangeCode env i.google i.now code with
    | .error failure => (connections, .refused failure.reported)
    | .ok tokens => (connections, .running (.identify userId tokens))
  | identify userId tokens =>
    match fetchIdentity i.google tokens.accessToken with
    | .error failure => (connections, .refused failure.reported)
    | .ok identity => (connections, .running (.findExisting userId tokens identity))
  | findExisting userId tokens identity =>
    match keptRefreshToken cipher i.ivs.1 tokens (connections.findByKey userId) with
    | none => (connections, .refused Site.missingRefreshToken)
    | some refreshToken =>
      (connections, .running
        (.upsert userId tokens identity (connections.findByKey userId) refreshToken))
  | upsert userId tokens identity _ refreshToken =>
    let upserted :=
      upsertConnection cipher i.newId userId i.ivs.2 identity refreshToken tokens connections
    match upserted.1 with
    | .error error => (upserted.2, .refused error)
    | .ok account => (upserted.2, .connected account)
  | findConnected userId =>
    match connections.findByKey userId with
    | none => (connections, .disconnected (.error (.notFound "No Google account is connected.")))
    | some account => (connections, .running (.delete account))
  | delete account =>
    (connections.delete fun d => d.id = account.id,
      .disconnected (.ok ((safeDecrypt cipher (some account.refreshToken)).getD "")))
  | findAccount userId =>
    match connections.findByKey userId with
    | none => (connections, .refused notConnected)
    | some account =>
      match usableToken cipher i.now account with
      | some token => (connections, .granted account ⟨token, account.calendarId⟩)
      | none =>
        match present (safeDecrypt cipher (some account.refreshToken)) with
        | none =>
          (connections, .running (.saveError account "Stored Google credentials could not be read."
            unreadableCredentials))
        | some refreshToken => (connections, .running (.refresh account refreshToken))
  | refresh account refreshToken =>
    match refreshAccessToken env i.google i.now refreshToken with
    | .ok tokens => (connections, .running (.saveRefreshed account tokens))
    | .error failure =>
      (connections, .running
        (.saveError account failure.message ⟨"refresh_failed", failure.message⟩))
  | saveRefreshed account tokens =>
    match connections.findById account.id with
    | some _ =>
      (saveHeld connections account (refreshed cipher i.ivs.1 tokens account),
        .granted account ⟨tokens.accessToken, account.calendarId⟩)
    -- The document is gone, so the error that this is cannot be recorded either.
    | none => (connections, .refused ⟨"refresh_failed", GoogleFailure.other.message⟩)
  | saveError account message error =>
    (saveHeld connections account (failing message account), .refused error)

/-- Any number of requests over one store, while accounts are deleted with their connections. -/
def racing : Program (Collection Connection) OAuthProc Job (Input books) ObjectId where
  isIdle
    | .idle => true
    | _ => false
  start job connections := some (connections, job.begin)
  exec i connections
    | .running stage => some (stage.exec books cipher env i connections)
    | _ => none
  surroundings userId connections := some (connections.delete fun d => d.userId = userId)

end

variable {books : GoogleBooks} {cipher : Aead} {env : Env} {i : Input books}
  {connections : Collection Connection} {account : Connection} {tokens : GoogleTokens}
  {identity : GoogleIdentity} {userId : ObjectId}

/-! ### One request alone -/

/-- How a callback ends. -/
def OAuthProc.connecting : Except Site.OAuthConnectionError Connection → OAuthProc
  | .ok account => .connected account
  | .error error => .refused error

/-- What `getGoogleAccess` has answered. -/
def OAuthProc.access : OAuthProc → Option (Except Site.OAuthConnectionError GoogleAccess)
  | .granted _ access => some (.ok access)
  | .refused error => some (.error error)
  | _ => none

theorem alone_running {stage : Stage} {z : Collection Connection × OAuthProc}
    (h : (racing books cipher env).Alone i (stage.exec books cipher env i connections) z) :
    (racing books cipher env).Alone i (connections, .running stage) z :=
  .head rfl h

theorem saveHeld_of_mem (h : account ∈ connections) (change : Connection → Connection)
    (hchange : account.saveOver (change account) account = change account) :
    saveHeld connections account (change account) = save connections account change := by
  have hupdate : connections.update account.id (account.saveOver (change account)) =
      connections.update account.id change := by
    refine Collection.update_congr fun d hd hid => ?_
    obtain rfl : d = account := Collection.eq_of_docId hd h hid
    exact hchange
  simp only [saveHeld, save, hupdate]

/-- **A callback that runs alone** does what the call does. -/
theorem completeGoogleConnection_alone (i : Input books) (code : String)
    (verified : Option ObjectId) (connections : Collection Connection) :
    (racing books cipher env).Alone i
      (connections, (Job.completeGoogleConnection code verified).begin)
      ((completeGoogleConnection cipher env i.newId i.ivs i.google i.now code verified
          connections).2,
        .connecting (completeGoogleConnection cipher env i.newId i.ivs i.google i.now code verified
          connections).1) := by
  -- one command for each question to Google and to the database, as far as the call gets
  cases verified with
  | none => exact .refl
  | some userId =>
    refine alone_running ?_
    unfold completeGoogleConnection
    cases hexchanged : exchangeCode env i.google i.now code with
    | error failure =>
      simp only [Stage.exec, hexchanged]
      exact .refl
    | ok tokens =>
      simp only [Stage.exec, hexchanged]
      refine alone_running ?_
      cases hidentified : fetchIdentity i.google tokens.accessToken with
      | error failure =>
        simp only [Stage.exec, hidentified]
        exact .refl
      | ok identity =>
        simp only [Stage.exec, hidentified]
        refine alone_running ?_
        cases hkept : keptRefreshToken cipher i.ivs.1 tokens (connections.findByKey userId) with
        | none =>
          simp only [Stage.exec, hkept]
          exact .refl
        | some refreshToken =>
          simp only [Stage.exec, hkept]
          refine alone_running ?_
          simp only [Stage.exec]
          cases (upsertConnection cipher i.newId userId i.ivs.2 identity refreshToken tokens
            connections).1 with
          | error error => exact .refl
          | ok account => exact .refl

/-- **A disconnection that runs alone** does what the call does. -/
theorem disconnectGoogle_alone (i : Input books) (userId : ObjectId)
    (connections : Collection Connection) :
    (racing books cipher env).Alone i (connections, (Job.disconnectGoogle userId).begin)
      ((disconnectGoogle cipher userId connections).2,
        .disconnected (disconnectGoogle cipher userId connections).1) := by
  refine alone_running ?_
  unfold disconnectGoogle
  cases hfound : connections.findByKey userId with
  | none =>
    simp only [Stage.exec, hfound]
    exact .refl
  | some account =>
    simp only [Stage.exec, hfound]
    exact alone_running .refl

/-- **A call for the calendar that runs alone** does what the call does. -/
theorem getGoogleAccess_alone (i : Input books) (userId : ObjectId)
    (connections : Collection Connection) :
    ∃ p, (racing books cipher env).Alone i (connections, (Job.getGoogleAccess userId).begin)
        ((getGoogleAccess cipher env i.ivs.1 i.google i.now userId connections).2, p) ∧
      p.access =
        some (getGoogleAccess cipher env i.ivs.1 i.google i.now userId connections).1 := by
  generalize hcall : getGoogleAccess cipher env i.ivs.1 i.google i.now userId connections = called
  cases hfound : connections.findByKey userId with
  | none =>
    simp only [getGoogleAccess, hfound] at hcall
    subst hcall
    refine ⟨.refused notConnected, alone_running ?_, rfl⟩
    simp only [Stage.exec, hfound]
    exact .refl
  | some account =>
    have hmem := (mem_of_findByKey hfound).1
    cases husable : usableToken cipher i.now account with
    | some token =>
      simp only [getGoogleAccess, hfound, husable] at hcall
      subst hcall
      refine ⟨.granted account ⟨token, account.calendarId⟩, alone_running ?_, rfl⟩
      simp only [Stage.exec, hfound, husable]
      exact .refl
    | none =>
      -- the document has been read just now, so what is saved over it is what the call stores
      have herror : ∀ message, saveHeld connections account (failing message account) =
          recordAccountError connections account message := fun message =>
        saveHeld_of_mem hmem (failing message) (by simp [failing, Connection.saveOver])
      cases hreadable : present (safeDecrypt cipher (some account.refreshToken)) with
      | none =>
        simp only [getGoogleAccess, hfound, husable, hreadable] at hcall
        subst hcall
        refine ⟨.refused unreadableCredentials, alone_running ?_, rfl⟩
        simp only [Stage.exec, hfound, husable, hreadable]
        refine alone_running ?_
        simp only [Stage.exec, herror]
        exact .refl
      | some refreshToken =>
        cases hrefreshed : refreshAccessToken env i.google i.now refreshToken with
        | error failure =>
          simp only [getGoogleAccess, hfound, husable, hreadable, hrefreshed] at hcall
          subst hcall
          refine ⟨.refused ⟨"refresh_failed", failure.message⟩, alone_running ?_, rfl⟩
          simp only [Stage.exec, hfound, husable, hreadable]
          refine alone_running ?_
          simp only [Stage.exec, hrefreshed]
          refine alone_running ?_
          simp only [Stage.exec, herror]
          exact .refl
        | ok tokens =>
          have hstored : connections.findById account.id = some account :=
            Collection.findById_of_mem hmem
          have hsaved := saveHeld_of_mem hmem (refreshed cipher i.ivs.1 tokens)
            (by simp [refreshed, Connection.saveOver])
          simp only [getGoogleAccess, hfound, husable, hreadable, hrefreshed] at hcall
          subst hcall
          refine ⟨.granted account ⟨tokens.accessToken, account.calendarId⟩, alone_running ?_, rfl⟩
          simp only [Stage.exec, hfound, husable, hreadable]
          refine alone_running ?_
          simp only [Stage.exec, hrefreshed]
          refine alone_running ?_
          simp only [Stage.exec, hstored, hsaved]
          exact .refl

/-! ### Whose tokens they are -/

/-- What a callback has been given is of the account that it has been told. -/
structure GoogleBooks.Brings (books : GoogleBooks) (tokens : GoogleTokens)
    (identity : GoogleIdentity) : Prop where
  access : books.owner tokens.accessToken = some identity.sub.val
  refresh : ∀ refresh, present tokens.refreshToken = some refresh →
    books.owner refresh = some identity.sub.val
  email : ∀ email ∈ identity.email, storedEmail email ∈ books.addresses identity.sub

/-- What a callback must find to write: a refresh token that it keeps is of its account, and so is
an address that it leaves. -/
structure GoogleBooks.Fits (books : GoogleBooks) (tokens : GoogleTokens)
    (identity : GoogleIdentity) (existing stored : Option Connection) : Prop where
  refresh : present tokens.refreshToken = none →
    ∀ account ∈ existing, account.providerAccountId = identity.sub
  email : identity.email = none →
    ∀ account ∈ stored, ∀ email ∈ account.accountEmail, email ∈ books.addresses identity.sub

section

variable (books cipher)

/-- What a request in flight holds. -/
def Stage.Holds : Stage → Prop
  | identify _ tokens => ∀ refresh, present tokens.refreshToken = some refresh →
      books.owner refresh = books.owner tokens.accessToken
  | findExisting _ tokens identity => books.Brings tokens identity
  | upsert _ tokens identity existing refreshToken =>
    books.Brings tokens identity ∧
      (∀ account ∈ existing, account.Consistent books cipher) ∧
      ∃ iv, keptRefreshToken cipher iv tokens existing = some refreshToken
  | refresh account refreshToken =>
    books.owner refreshToken = some account.providerAccountId.val
  | saveRefreshed account tokens =>
    books.owner tokens.accessToken = some account.providerAccountId.val
  | _ => True

/-- What a party holds; a token that it has been given is of the account it has read of. -/
def OAuthProc.Holds : OAuthProc → Prop
  | running stage => stage.Holds books cipher
  | granted account access => books.owner access.accessToken = some account.providerAccountId.val
  | _ => True

/-- What a write must find stored: nothing of another account than the one the request has read
of. -/
def Stage.Fits (i : Input books) (connections : Collection Connection) : Stage → Prop
  | upsert userId tokens identity existing refreshToken =>
    ∀ account, (upsertConnection cipher i.newId userId i.ivs.2 identity refreshToken tokens
        connections).1 = .ok account →
      books.Fits tokens identity existing (connections.findByKey userId)
  | saveRefreshed account tokens =>
    ∀ stored, connections.findById account.id = some stored →
      some (encryptSecret cipher i.ivs.1 tokens.accessToken) ≠ account.accessToken →
        stored.providerAccountId = account.providerAccountId
  | _ => True

/-- Every stored token is of the account that is stored with it, and every token that has been given
out of the account that has been read with it. -/
structure Unmixed {R : Type} (s : Parties R (Collection Connection) OAuthProc) : Prop where
  stored : ∀ account ∈ s.shared, account.Consistent books cipher
  given : ∀ r account access, s.procs r = .granted account access →
    books.owner access.accessToken = some account.providerAccountId.val

end

/-- The refresh token that a callback keeps is of its account exactly when what it has read is. -/
theorem readable_iff (hbrings : books.Brings tokens identity) {existing : Option Connection}
    (hexisting : ∀ account ∈ existing, account.Consistent books cipher) {iv : Iv}
    {refreshToken : RequiredText} (hkept : keptRefreshToken cipher iv tokens existing =
      some refreshToken) :
    (∃ token, safeDecrypt cipher (some refreshToken.val) = some token ∧
        books.owner token = some identity.sub.val) ↔
      (present tokens.refreshToken = none →
        ∀ account ∈ existing, account.providerAccountId = identity.sub) := by
  unfold keptRefreshToken at hkept
  cases hgiven : present tokens.refreshToken with
  | some refresh =>
    rw [hgiven, Option.some.injEq] at hkept
    subst hkept
    have hread : safeDecrypt cipher (some (encrypted cipher iv refresh).val) = some refresh.val :=
      safeDecrypt_encryptSecret iv refresh
    exact ⟨fun _ hnone => (by cases hnone), fun _ => ⟨refresh, hread, hbrings.refresh _ hgiven⟩⟩
  | none =>
    rw [hgiven] at hkept
    obtain ⟨account, rfl, rfl⟩ := Option.map_eq_some_iff.1 hkept
    have haccount := hexisting account rfl
    constructor
    · rintro ⟨token, hread, howner⟩ - account' ⟨⟩
      rw [haccount.owner_of_safeDecrypt hread, Option.some.injEq] at howner
      exact Subtype.ext howner
    · intro hsame
      rw [← hsame rfl account rfl]
      exact haccount.ofOne.refresh

/-- **What a callback writes** is of one account exactly when the refresh token is of its account
and an address that it leaves as well. -/
theorem consistent_reconnected_iff (hbrings : books.Brings tokens identity) {iv : Iv}
    {refreshToken : RequiredText} :
    (reconnected cipher iv identity refreshToken tokens account).Consistent books cipher ↔
      (∃ token, safeDecrypt cipher (some refreshToken.val) = some token ∧
        books.owner token = some identity.sub.val) ∧
      (identity.email = none →
        ∀ email ∈ account.accountEmail, email ∈ books.addresses identity.sub) := by
  constructor
  · rintro ⟨⟨hrefresh, hemail⟩, -⟩
    refine ⟨hrefresh, fun hnone email hstored => hemail email ?_⟩
    simp only [reconnected, hnone, Option.map_none, Option.none_or]
    exact hstored
  · rintro ⟨hrefresh, hemail⟩
    refine ⟨⟨hrefresh, fun email hstored => ?_⟩, fun token hread => ?_⟩
    · cases hgiven : identity.email with
      | some address =>
        simp only [reconnected, hgiven, Option.map_some, Option.some_or, Option.mem_some_iff]
          at hstored
        rw [← hstored]
        exact hbrings.email address hgiven
      | none =>
        simp only [reconnected, hgiven, Option.map_none, Option.none_or] at hstored
        exact hemail hgiven email hstored
    · rw [← eq_of_safeDecrypt hread]
      exact hbrings.access

theorem consistent_connected_iff (hbrings : books.Brings tokens identity) {iv : Iv}
    {refreshToken : RequiredText} {newId : ObjectId} :
    (connected cipher newId userId iv identity refreshToken tokens).Consistent books cipher ↔
      ∃ token, safeDecrypt cipher (some refreshToken.val) = some token ∧
        books.owner token = some identity.sub.val := by
  rw [connected, consistent_reconnected_iff hbrings, and_iff_left]
  intro _ email hemail
  cases hemail

theorem mem_saveHeld {stored current : Connection}
    (h : connections.findById account.id = some stored) {e : Connection} :
    e ∈ saveHeld connections account current ↔
      (e ∈ connections ∧ e.id ≠ stored.id) ∨ e = account.saveOver current stored := by
  obtain ⟨hmem, hid⟩ := Collection.findById_eq_some.1 h
  have hid : stored.id = account.id := hid
  have hsame : saveHeld connections account current =
      save connections stored (account.saveOver current) := by
    simp only [saveHeld, save, hid]
  rw [hsame]
  exact mem_save hmem rfl

theorem saveHeld_of_gone {current : Connection} (h : connections.findById account.id = none) :
    saveHeld connections account current = connections := by
  have hnone : ∀ d ∈ connections.docs, Document.docId d ≠ account.id :=
    Collection.findById_eq_none.1 h
  have hdocs : Collection.mapAt connections.docs account.id (account.saveOver current) =
      connections.docs := by
    refine (List.map_congr_left fun d hd => ?_).trans (List.map_id _)
    exact if_neg (hnone d hd)
  unfold saveHeld save
  cases hupdate : connections.update account.id (account.saveOver current) with
  | none => rfl
  | some saved => exact Collection.eq_of_docs ((Collection.update_eq_some hupdate).trans hdocs)

/-- All are consistent after one has been replaced exactly when the new one is. -/
theorem forall_consistent_iff {saved : Collection Connection} {old new : Connection}
    (h : ∀ e ∈ connections, e.Consistent books cipher)
    (hmem : ∀ e, e ∈ saved ↔ (e ∈ connections ∧ e.id ≠ old.id) ∨ e = new) :
    (∀ e ∈ saved, e.Consistent books cipher) ↔ new.Consistent books cipher := by
  constructor
  · exact fun hall => hall new ((hmem new).2 (.inr rfl))
  · intro hnew e he
    rcases (hmem e).1 he with ⟨he, -⟩ | rfl
    · exact h e he
    · exact hnew

/-- **An upsert** keeps the connections consistent exactly when it fits. -/
theorem consistent_upsert_iff (h : ∀ e ∈ connections, e.Consistent books cipher)
    {existing : Option Connection} {refreshToken : RequiredText}
    (hholds : (Stage.upsert userId tokens identity existing refreshToken).Holds books cipher) :
    (∀ e ∈ (upsertConnection cipher i.newId userId i.ivs.2 identity refreshToken tokens
        connections).2, e.Consistent books cipher) ↔
      (Stage.upsert userId tokens identity existing refreshToken).Fits books cipher i
        connections := by
  obtain ⟨hbrings, hexisting, iv, hkept⟩ := hholds
  have hreadable := readable_iff hbrings hexisting hkept
  simp only [Stage.Fits]
  unfold upsertConnection
  -- an upsert writes over the stored connection, or inserts one
  cases hfound : connections.findByKey userId with
  | some account =>
    have hmem := (mem_of_findByKey hfound).1
    rw [forall_consistent_iff h fun e => mem_save hmem rfl, consistent_reconnected_iff hbrings,
      hreadable]
    constructor
    · rintro ⟨hrefresh, hemail⟩ - -
      refine ⟨hrefresh, ?_⟩
      rintro hnone account' ⟨⟩
      exact hemail hnone
    · intro hfits
      obtain ⟨hrefresh, hemail⟩ := hfits _ rfl
      exact ⟨hrefresh, fun hnone => hemail hnone account rfl⟩
  | none =>
    cases hinsert : connections.insert
        (connected cipher i.newId userId i.ivs.2 identity refreshToken tokens) with
    | none =>
      simp only [hinsert]
      -- an insertion that is refused writes nothing
      exact ⟨fun _ _ herror => (by cases herror), fun _ => h⟩
    | some inserted =>
      simp only [hinsert]
      have hnew : (∀ e ∈ inserted, e.Consistent books cipher) ↔
          (connected cipher i.newId userId i.ivs.2 identity refreshToken tokens).Consistent books
            cipher := by
        constructor
        · exact fun hall => hall _ ((Collection.mem_insert hinsert).2 (.inr rfl))
        · intro hnew e he
          rcases (Collection.mem_insert hinsert).1 he with he | rfl
          · exact h e he
          · exact hnew
      rw [hnew, consistent_connected_iff hbrings, hreadable]
      constructor
      · exact fun hrefresh _ _ => ⟨hrefresh, fun _ account haccount => by cases haccount⟩
      · exact fun hfits => (hfits _ rfl).refresh

/-- **A refresh** keeps the connections consistent exactly when it fits. -/
theorem consistent_saveRefreshed_iff (h : ∀ e ∈ connections, e.Consistent books cipher)
    (hholds : (Stage.saveRefreshed account tokens).Holds books cipher) :
    (∀ e ∈ ((Stage.saveRefreshed account tokens).exec books cipher env i connections).1,
        e.Consistent books cipher) ↔
      (Stage.saveRefreshed account tokens).Fits books cipher i connections := by
  simp only [Stage.exec, Stage.Fits]
  have howner : books.owner tokens.accessToken = some account.providerAccountId.val := hholds
  cases hfound : connections.findById account.id with
  | none => exact ⟨fun _ _ hstored => (by cases hstored), fun _ => h⟩
  | some stored =>
    obtain ⟨hmem, -⟩ := Collection.findById_eq_some.1 hfound
    obtain ⟨hone, haccess⟩ := h stored hmem
    rw [forall_consistent_iff h fun e => mem_saveHeld hfound]
    simp only [Option.some.injEq, forall_eq']
    -- a token that is stored already is no modified path, so it is not saved
    by_cases hsame : some (encryptSecret cipher i.ivs.1 tokens.accessToken) = account.accessToken
    · refine ⟨fun _ hne => absurd hsame hne, fun _ => ⟨⟨hone.refresh, hone.email⟩, ?_⟩⟩
      intro token hread
      refine haccess token ?_
      rwa [show (account.saveOver (refreshed cipher i.ivs.1 tokens account) stored).accessToken =
        stored.accessToken from if_pos hsame] at hread
    · have hwritten : (account.saveOver (refreshed cipher i.ivs.1 tokens account)
          stored).accessToken = some (encryptSecret cipher i.ivs.1 tokens.accessToken) :=
        if_neg hsame
      constructor
      · rintro ⟨-, hnew⟩ -
        have hstored := hnew _ (by rw [hwritten]; exact safeDecrypt_encryptSecret _ _)
        rw [howner] at hstored
        exact (Subtype.ext (Option.some.inj hstored)).symm
      · intro hfits
        refine ⟨⟨hone.refresh, hone.email⟩, fun token hread => ?_⟩
        rw [hwritten] at hread
        rw [← eq_of_safeDecrypt hread, howner, ← hfits hsame]
        rfl

theorem consistent_saveError (h : ∀ e ∈ connections, e.Consistent books cipher)
    (message : String) :
    ∀ e ∈ saveHeld connections account (failing message account), e.Consistent books cipher := by
  cases hfound : connections.findById account.id with
  | none =>
    rw [saveHeld_of_gone hfound]
    exact h
  | some stored =>
    obtain ⟨⟨hrefresh, hemail⟩, haccess⟩ := h stored (Collection.findById_eq_some.1 hfound).1
    refine (forall_consistent_iff h fun e => mem_saveHeld hfound).2
      ⟨⟨hrefresh, hemail⟩, fun token hread => haccess token ?_⟩
    simpa only [Connection.saveOver, failing, savePath_self] using hread

/-- The command may write. -/
def Stage.writes : Stage → Bool
  | upsert .. | delete .. | saveRefreshed .. | saveError .. => true
  | _ => false

theorem exec_of_reads {stage : Stage} (h : stage.writes = false) :
    (stage.exec books cipher env i connections).1 = connections := by
  cases stage with
  | exchange userId code => simp only [Stage.exec]; split <;> rfl
  | identify userId tokens => simp only [Stage.exec]; split <;> rfl
  | findExisting userId tokens identity => simp only [Stage.exec]; split <;> rfl
  | findConnected userId => simp only [Stage.exec]; split <;> rfl
  | findAccount userId =>
    simp only [Stage.exec]
    split
    · rfl
    · split
      · rfl
      · split <;> rfl
  | refresh account refreshToken => simp only [Stage.exec]; split <;> rfl
  | upsert userId tokens identity existing refreshToken => cases h
  | delete account => cases h
  | saveRefreshed account tokens => cases h
  | saveError account message error => cases h

theorem exec_upsert {existing : Option Connection} {refreshToken : RequiredText} :
    ((Stage.upsert userId tokens identity existing refreshToken).exec books cipher env i
        connections).1 =
      (upsertConnection cipher i.newId userId i.ivs.2 identity refreshToken tokens
        connections).2 := by
  simp only [Stage.exec]
  split <;> rfl

theorem exec_saveRefreshed :
    ((Stage.saveRefreshed account tokens).exec books cipher env i connections).1 =
      saveHeld connections account (refreshed cipher i.ivs.1 tokens account) := by
  simp only [Stage.exec]
  split
  · rfl
  · rename_i hgone
    exact (saveHeld_of_gone hgone).symm

/-- **A command** keeps the connections consistent exactly when it fits. -/
theorem consistent_exec_iff (h : ∀ e ∈ connections, e.Consistent books cipher) {stage : Stage}
    (hholds : stage.Holds books cipher) :
    (∀ e ∈ (stage.exec books cipher env i connections).1, e.Consistent books cipher) ↔
      stage.Fits books cipher i connections := by
  cases stage with
  | upsert userId tokens identity existing refreshToken =>
    rw [exec_upsert]
    exact consistent_upsert_iff h hholds
  | saveRefreshed account tokens => exact consistent_saveRefreshed_iff h hholds
  | delete account => exact ⟨fun _ => trivial, fun _ e he => h e (Collection.mem_delete.1 he).1⟩
  | saveError account message error =>
    exact ⟨fun _ => trivial, fun _ => consistent_saveError h message⟩
  | exchange | identify | findExisting | findConnected | findAccount | refresh =>
    rw [exec_of_reads rfl]
    exact ⟨fun _ => trivial, fun _ => h⟩

theorem holds_exec (h : ∀ e ∈ connections, e.Consistent books cipher) {stage : Stage}
    (hholds : stage.Holds books cipher) :
    (stage.exec books cipher env i connections).2.Holds books cipher := by
  -- what a command holds is what Google has answered, or what it has read of a consistent store
  cases stage with
  | exchange userId code =>
    simp only [Stage.exec]
    split
    · trivial
    · rename_i tokens hexchanged
      exact fun refresh hgiven =>
        GoogleBooks.owner_of_exchanged i.google.property hexchanged hgiven
  | identify userId tokens =>
    simp only [Stage.exec]
    split
    · trivial
    · rename_i identity hidentified
      obtain ⟨haccess, hemail⟩ := GoogleBooks.owner_of_identity i.google.property hidentified
      exact ⟨haccess, fun refresh hgiven => (hholds refresh hgiven).trans haccess, hemail⟩
  | findExisting userId tokens identity =>
    simp only [Stage.exec]
    split
    · trivial
    · rename_i refreshToken hkept
      exact ⟨hholds, fun account haccount => h account (mem_of_findByKey haccount).1, i.ivs.1,
        hkept⟩
  | upsert userId tokens identity existing refreshToken =>
    simp only [Stage.exec]
    split
    · trivial
    · trivial
  | findConnected userId =>
    simp only [Stage.exec]
    split
    · trivial
    · trivial
  | delete account => trivial
  | findAccount userId =>
    simp only [Stage.exec]
    split
    · trivial
    · rename_i account hfound
      have hconsistent := h account (mem_of_findByKey hfound).1
      split
      · rename_i token husable
        unfold usableToken at husable
        split at husable
        · cases husable
        · split_ifs at husable
          exact hconsistent.access _ (present_eq_some.1 husable)
      · split
        · trivial
        · rename_i refreshToken hreadable
          exact hconsistent.owner_of_safeDecrypt (present_eq_some.1 hreadable)
  | refresh account refreshToken =>
    simp only [Stage.exec]
    split
    · rename_i tokens hrefreshed
      exact (GoogleBooks.owner_of_refreshed i.google.property hrefreshed).trans hholds
    · trivial
  | saveRefreshed account tokens =>
    simp only [Stage.exec]
    split
    · exact hholds
    · trivial
  | saveError account message error => trivial

/-! ### Interleavings -/

section

variable {R : Type} [DecidableEq R]

/-- The stored connections are consistent, and every party holds what is of one account. -/
structure Sound (books : GoogleBooks) (cipher : Aead)
    (s : Parties R (Collection Connection) OAuthProc) : Prop where
  stored : ∀ account ∈ s.shared, account.Consistent books cipher
  procs : ∀ r, (s.procs r).Holds books cipher

/-- The command that a party issues fits what is stored. -/
def FitsStep (books : GoogleBooks) (cipher : Aead)
    (s : Parties R (Collection Connection) OAuthProc) :
    PartyAction R Job (Input books) ObjectId → Prop
  | .exec r i => ∀ stage, s.procs r = .running stage → stage.Fits books cipher i s.shared
  | _ => True

variable {s s' : Parties R (Collection Connection) OAuthProc}
  {a : PartyAction R Job (Input books) ObjectId}

omit [DecidableEq R] in
theorem Sound.unmixed (h : Sound books cipher s) : Unmixed books cipher s := by
  refine ⟨h.stored, fun r account access hgranted => ?_⟩
  have hholds := h.procs r
  rw [hgranted] at hholds
  exact hholds

theorem Job.holds_begin (job : Job) : job.begin.Holds books cipher := by
  cases job with
  | completeGoogleConnection code verified => cases verified <;> trivial
  | disconnectGoogle userId => trivial
  | getGoogleAccess userId => trivial

/-- **One action** leaves nothing mixed exactly when it fits; then all stays sound. -/
theorem Sound.step (h : Sound books cipher s)
    (hstep : ((racing books cipher env).machine R).step s a = some s') :
    (Unmixed books cipher s' ↔ FitsStep books cipher s a) ∧
      (FitsStep books cipher s a → Sound books cipher s') := by
  have hsound : (∀ e ∈ s'.shared, e.Consistent books cipher) →
      (∀ r, (s'.procs r).Holds books cipher) → Sound books cipher s' := fun hstored hprocs =>
    ⟨hstored, hprocs⟩
  -- only a command writes what has to fit; a start and a deletion of an account write nothing new
  cases Program.step_cases hstep with
  | @start r job w p hidle hs =>
    cases hs
    have h' : Sound books cipher (s.put r s.shared job.begin) :=
      ⟨h.stored, Parties.forall_put job.holds_begin fun r' _ => h.procs r'⟩
    exact ⟨iff_of_true h'.unmixed trivial, fun _ => h'⟩
  | @exec r i w p hs =>
    obtain ⟨stage, hproc, hexec⟩ : ∃ stage, s.procs r = .running stage ∧
        stage.exec books cipher env i s.shared = (w, p) := by
      cases hproc : s.procs r with
      | running stage =>
        rw [hproc] at hs
        exact ⟨stage, rfl, Option.some.inj hs⟩
      | idle | connected | disconnected | granted | refused =>
        rw [hproc] at hs
        cases hs
    have hholds : stage.Holds books cipher := by
      have := h.procs r
      rwa [hproc] at this
    have hstored : (∀ e ∈ (stage.exec books cipher env i s.shared).1, e.Consistent books cipher) ↔
        stage.Fits books cipher i s.shared := consistent_exec_iff h.stored hholds
    have hleft : (stage.exec books cipher env i s.shared).2.Holds books cipher :=
      holds_exec h.stored hholds
    rw [hexec] at hstored hleft
    have hprocs : ∀ r', ((s.put r w p).procs r').Holds books cipher :=
      Parties.forall_put hleft fun r' _ => h.procs r'
    have hfits : FitsStep books cipher s (.exec r i) ↔ stage.Fits books cipher i s.shared := by
      constructor
      · exact fun hfits => hfits stage hproc
      · intro hfits stage' hproc'
        rw [hproc] at hproc'
        cases hproc'
        exact hfits
    rw [hfits, ← hstored]
    exact ⟨⟨fun hunmixed => hunmixed.stored, fun hnew => (hsound hnew hprocs).unmixed⟩,
      fun hnew => hsound hnew hprocs⟩
  | @surroundings userId w hs =>
    cases hs
    have h' : Sound books cipher ⟨s.shared.delete fun d => d.userId = userId, s.procs⟩ :=
      ⟨fun e he => h.stored e (Collection.mem_delete.1 he).1, h.procs⟩
    exact ⟨iff_of_true h'.unmixed trivial, fun _ => h'⟩

/-- **Nothing is ever mixed** in an interleaving exactly when every write fits what is stored when
it is made. -/
theorem unmixed_iff (books : GoogleBooks) (cipher : Aead) (env : Env)
    (as : List (PartyAction R Job (Input books) ObjectId)) :
    (∀ bs s, bs <+: as →
        ((racing books cipher env).machine R).run ⟨.empty, fun _ => .idle⟩ bs = some s →
          Unmixed books cipher s) ↔
      ((racing books cipher env).machine R).Meets (FitsStep books cipher)
        ⟨.empty, fun _ => .idle⟩ as := by
  have hinit : Sound books cipher
      (⟨.empty, fun _ => .idle⟩ : Parties R (Collection Connection) OAuthProc) :=
    ⟨fun account haccount => absurd haccount (Collection.not_mem_empty account), fun _ => trivial⟩
  rw [Machine.forall_prefix_iff, and_iff_right hinit.unmixed]
  refine Machine.meets_congr (I := Sound books cipher) ?_ ?_ hinit
  · intro s a h
    constructor
    · intro hnext
      cases hstep : ((racing books cipher env).machine R).step s a with
      | some s' => exact (h.step hstep).1.1 (hnext s' hstep)
      | none =>
        -- A refused action runs no stage.
        cases a with
        | start r job => trivial
        | surroundings userId => trivial
        | exec r i =>
          intro stage hproc
          have hexec : (racing books cipher env).exec i s.shared (s.procs r) =
              some (stage.exec books cipher env i s.shared) := by rw [hproc]; rfl
          change ((racing books cipher env).exec i s.shared (s.procs r)).map _ = none at hstep
          rw [hexec] at hstep
          cases hstep
    · exact fun hfits s' hstep => (h.step hstep).1.2 hfits
  · exact fun s a s' h hfits hstep => (h.step hstep).2 hfits

/-! ### What outlasts a refresh -/

/-- A connection but for what is written outside a callback. -/
def Connection.credentials (account : Connection) : Connection :=
  { account with accessToken := none, accessTokenExpiresAt := none, lastError := none }

/-- The credentials that are stored for a consultant. -/
def credentialsOf (connections : Collection Connection) (userId : ObjectId) : Option Connection :=
  (connections.findByKey userId).map Connection.credentials

/-- The command is the upsert of a callback of the consultant. -/
def Stage.IsUpsertOf (userId : ObjectId) : Stage → Prop
  | upsert userId' .. => userId' = userId
  | _ => False

/-- No callback of the consultant writes in this action. -/
def NoUpsertOf (userId : ObjectId) (s : Parties R (Collection Connection) OAuthProc) :
    PartyAction R Job (Input books) ObjectId → Prop
  | .exec r _ => ∀ stage, s.procs r = .running stage → ¬ stage.IsUpsertOf userId
  | _ => True

instance (stage : Stage) : Decidable (stage.IsUpsertOf userId) := by
  cases stage <;> unfold Stage.IsUpsertOf <;> infer_instance

instance (s : Parties R (Collection Connection) OAuthProc)
    (a : PartyAction R Job (Input books) ObjectId) : Decidable (NoUpsertOf userId s a) :=
  match a with
  | .exec r _ =>
    match h : s.procs r with
    | .running stage => decidable_of_iff (¬ stage.IsUpsertOf userId) (by simp [NoUpsertOf, h])
    | .idle | .connected _ | .disconnected _ | .granted .. | .refused _ =>
      isTrue (by simp [NoUpsertOf, h])
  | .start .. | .surroundings _ => isTrue trivial

/-- The credentials are the same, or there are none any more. -/
def KeepsCredentials (userId : ObjectId) (before after : Collection Connection) : Prop :=
  credentialsOf after userId = credentialsOf before userId ∨ credentialsOf after userId = none

theorem keepsCredentials_delete (p : Connection → Bool) :
    KeepsCredentials userId connections (connections.delete p) := by
  unfold KeepsCredentials credentialsOf
  cases hfound : (connections.delete p).findByKey userId with
  | none => exact .inr rfl
  | some account =>
    obtain ⟨hmem, hkey⟩ := Collection.findByKey_eq_some.1 hfound
    have hsame : connections.findByKey userId = some account :=
      Collection.findByKey_eq_some.2 ⟨(Collection.mem_delete.1 hmem).1, hkey⟩
    rw [hsame]
    exact .inl rfl

theorem keepsCredentials_saveHeld (current : Connection) :
    KeepsCredentials userId connections (saveHeld connections account current) := by
  cases hfound : connections.findById account.id with
  | none =>
    rw [saveHeld_of_gone hfound]
    exact .inl rfl
  | some stored =>
    obtain ⟨hmem, hid⟩ := Collection.findById_eq_some.1 hfound
    unfold saveHeld save
    cases hupdate : connections.update account.id (account.saveOver current) with
    | none => exact .inl rfl
    | some saved =>
      refine .inl ?_
      rw [Option.getD_some, credentialsOf, credentialsOf,
        Collection.findByKey_update hupdate hmem hid rfl userId]
      split_ifs with hkey
      · have hsame : connections.findByKey userId = some stored :=
          Collection.findByKey_eq_some.2 ⟨hmem, hkey⟩
        rw [hsame]
        rfl
      · rfl

theorem keepsCredentials_upsert {userId' newId : ObjectId} (hne : userId' ≠ userId) {iv : Iv}
    {refreshToken : RequiredText} :
    KeepsCredentials userId connections
      (upsertConnection cipher newId userId' iv identity refreshToken tokens connections).2 := by
  have hkey : some userId' ≠ some userId := fun h => hne (Option.some.inj h)
  refine .inl (congrArg (Option.map Connection.credentials) ?_)
  unfold upsertConnection
  cases hfound : connections.findByKey userId' with
  | some account =>
    obtain ⟨hmem, huser⟩ := mem_of_findByKey hfound
    simp only [save]
    cases hupdate : connections.update account.id
        (reconnected cipher iv identity refreshToken tokens) with
    | none => rfl
    | some saved =>
      rw [Option.getD_some, Collection.findByKey_update hupdate hmem rfl rfl userId]
      rw [← huser] at hkey
      exact if_neg hkey
  | none =>
    cases hinsert : connections.insert
        (connected cipher newId userId' iv identity refreshToken tokens) with
    | none => simp only [hinsert]
    | some inserted =>
      simp only [hinsert]
      rw [Collection.findByKey_insert hinsert]
      exact if_neg hkey

theorem keepsCredentials_exec {stage : Stage} (h : ¬ stage.IsUpsertOf userId) :
    KeepsCredentials userId connections (stage.exec books cipher env i connections).1 := by
  cases stage with
  | upsert userId' tokens identity existing refreshToken =>
    rw [exec_upsert]
    exact keepsCredentials_upsert h
  | saveRefreshed account tokens =>
    rw [exec_saveRefreshed]
    exact keepsCredentials_saveHeld _
  | delete account => exact keepsCredentials_delete _
  | saveError account message error => exact keepsCredentials_saveHeld _
  | exchange | identify | findExisting | findConnected | findAccount | refresh =>
    rw [exec_of_reads rfl]
    exact .inl rfl

theorem keepsCredentials_step (h : NoUpsertOf userId s a)
    (hstep : ((racing books cipher env).machine R).step s a = some s') :
    KeepsCredentials userId s.shared s'.shared := by
  cases Program.step_cases hstep with
  | start _ hs => cases hs; exact .inl rfl
  | surroundings hs => cases hs; exact keepsCredentials_delete _
  | @exec r i w p hs =>
    cases hproc : s.procs r with
    | running stage =>
      rw [hproc] at hs
      have hexec : stage.exec books cipher env i s.shared = (w, p) := Option.some.inj hs
      have hkeeps : KeepsCredentials userId s.shared
          (stage.exec books cipher env i s.shared).1 := keepsCredentials_exec (h stage hproc)
      rwa [hexec] at hkeeps
    | _ => rw [hproc] at hs; cases hs

/-- **Credentials outlast everything but a callback of their consultant.**  Requests that have read
an older state take nothing of them back, and once they are removed they stay removed. -/
theorem credentials_kept {as : List (PartyAction R Job (Input books) ObjectId)}
    (hcalls : ((racing books cipher env).machine R).Meets (NoUpsertOf userId) s as)
    (hrun : ((racing books cipher env).machine R).run s as = some s') :
    credentialsOf s'.shared userId = credentialsOf s.shared userId ∨
      credentialsOf s'.shared userId = none := by
  refine Machine.run_invariant (I := fun t => KeepsCredentials userId s.shared t.shared) ?_
    (.inl rfl) hcalls hrun
  intro t a t' ht ha hstep
  rcases keepsCredentials_step ha hstep with hsame | hnone
  · rcases ht with ht | ht
    · exact .inl (hsame.trans ht)
    · exact .inr (hsame.trans ht)
  · exact .inr hnone

end

/-- Consultant 1 is connected, and no access token is stored. -/
def storedConnection : Connection :=
  ⟨⟨30, 1, "primary"⟩, ⟨"first", by decide⟩, none, encrypted markingCipher zeroIv "r1", none, none,
    [], none⟩

/-- The connection and requests by two parties. -/
def storedOnce : Parties Bool (Collection Connection) OAuthProc :=
  ⟨⟨[storedConnection], List.pairwise_singleton _ _⟩, fun _ => .idle⟩

/-- A request for calendar access has read the connection and is refused by Google; before it
records the error, the consultant disconnects. -/
def disconnectedBeside : List (PartyAction Bool Job (Input twoAccounts) ObjectId) :=
  let i : Input twoAccounts := ⟨⟨secondTime, twoAccounts_honours⟩, 0, 31, zeroIv, zeroIv⟩
  [.start false (.getGoogleAccess 1), .exec false i, .exec false i,
    .start true (.disconnectGoogle 1), .exec true i, .exec true i, .exec false i]

/-- The error brings no credentials back. -/
theorem credentials_removed_beside :
    let env : Env := ⟨utcCalendar, sampleCrypto, true⟩
    let run := ((racing twoAccounts markingCipher env).machine Bool).run storedOnce
      disconnectedBeside
    run.isSome = true ∧ ∀ s' ∈ run, credentialsOf s'.shared 1 = credentialsOf storedOnce.shared 1 ∨
      credentialsOf s'.shared 1 = none :=
  ⟨by decide +kernel, fun _ hrun => credentials_kept (by decide +kernel) hrun⟩

end OAuth

end HrBooking
