import HrBooking.Machine.Basic
import HrBooking.OAuth.Service

/-!
# One identity a connection

Whether the refresh token of a stored connection has been issued for the account whose identifier
and address are stored with it.  A callback without a refresh token keeps the stored one and writes
the new identifier over the old; one without an address keeps the old address.

* `Connection.OfOne` : a stored connection is of one Google account.
* `NeverMixed` : so are all of them, and `getGoogleAccess` gives tokens of theirs.
* `Call`, `machine` : the calls, in any order.
* `GoogleBooks.Suits` : what a callback must bring for a connection it writes over.
* `neverMixed_iff` : the runs in which no connection is ever mixed.
* `not_neverMixed` : a second account, without a refresh token.
-/

namespace HrBooking.OAuth

section

variable (books : GoogleBooks) (cipher : Aead) (env : Env)

/-- The refresh token, the identifier and the address are of one Google account. -/
structure Connection.OfOne (account : Connection) : Prop where
  refresh : ∃ token, safeDecrypt cipher (some account.refreshToken) = some token ∧
    books.owner token = some account.providerAccountId.val
  email : ∀ email ∈ account.accountEmail, email ∈ books.addresses account.providerAccountId

/-- The stored connections are of one account each, and the tokens that are given out are of that
account. -/
structure NeverMixed (connections : Collection Connection) : Prop where
  stored : ∀ account ∈ connections, account.OfOne books cipher
  access : ∀ userId iv google now access, books.Honours google →
    (getGoogleAccess cipher env iv google now userId connections).1 = .ok access →
      ∃ account ∈ connections, account.userId = userId ∧
        books.owner access.accessToken = some account.providerAccountId.val

/-- A call, with what it draws and what Google answers at the moment. -/
inductive Call where
  | completeGoogleConnection (newId : ObjectId) (ivs : Iv × Iv)
      (google : {google // books.Honours google}) (now : ℤ) (code : String)
      (verified : Option ObjectId)
  | disconnectGoogle (userId : ObjectId)
  | getGoogleAccess (iv : Iv) (google : {google // books.Honours google}) (now : ℤ)
      (userId : ObjectId)

/-- What is stored after a call. -/
def Call.next (connections : Collection Connection) : Call books → Collection Connection
  | completeGoogleConnection newId ivs google now code verified =>
    (OAuth.completeGoogleConnection cipher env newId ivs google now code verified connections).2
  | disconnectGoogle userId => (OAuth.disconnectGoogle cipher userId connections).2
  | getGoogleAccess iv google now userId =>
    (OAuth.getGoogleAccess cipher env iv google now userId connections).2

/-- The connections under calls. -/
def machine : Machine (Collection Connection) (Call books) where
  step connections call := some (call.next books cipher env connections)

/-- What a callback brings goes with a connection it writes over: without a refresh token it is for
the stored account, and without an address the stored one is of its account. -/
structure GoogleBooks.Suits (tokens : GoogleTokens) (identity : GoogleIdentity)
    (account : Connection) : Prop where
  refresh : present tokens.refreshToken = none → account.providerAccountId = identity.sub
  email : identity.email = none →
    ∀ email ∈ account.accountEmail, email ∈ books.addresses identity.sub

/-- Every connection that the call writes over suits it. -/
def Call.Suits (connections : Collection Connection) : Call books → Prop
  | completeGoogleConnection _ _ google now code verified =>
    ∀ tokens identity account,
      Reconnects env google now code verified connections tokens identity account →
        books.Suits tokens identity account
  | _ => True

/-- What the calls keep: the access token is of the account too. -/
structure Connection.Consistent (account : Connection) : Prop where
  ofOne : account.OfOne books cipher
  access : ∀ token, safeDecrypt cipher account.accessToken = some token →
    books.owner token = some account.providerAccountId.val

end

variable {books : GoogleBooks} {cipher : Aead} {env : Env} {google : GoogleAnswers} {now : ℤ}
  {connections : Collection Connection} {account : Connection} {tokens : GoogleTokens}
  {identity : GoogleIdentity}

/-! ### One connection -/

theorem Connection.Consistent.owner_of_safeDecrypt (h : account.Consistent books cipher)
    {token : String} (hread : safeDecrypt cipher (some account.refreshToken) = some token) :
    books.owner token = some account.providerAccountId.val := by
  obtain ⟨stored, hstored, howner⟩ := h.ofOne.refresh
  rw [hread, Option.some.injEq] at hstored
  rw [hstored]
  exact howner

theorem access_reconnected (honours : books.Honours google)
    (hidentified : fetchIdentity google tokens.accessToken = .ok identity) {iv : Iv}
    {refreshToken : RequiredText} {token : String}
    (hread : safeDecrypt cipher
      (reconnected cipher iv identity refreshToken tokens account).accessToken = some token) :
    books.owner token = some identity.sub.val := by
  rw [← eq_of_safeDecrypt hread]
  exact (GoogleBooks.owner_of_identity honours hidentified).1

theorem refresh_of_present (honours : books.Honours google) {code : String}
    (hexchanged : exchangeCode env google now code = .ok tokens)
    (hidentified : fetchIdentity google tokens.accessToken = .ok identity) {iv : Iv}
    {refresh : RequiredText} (hgiven : present tokens.refreshToken = some refresh) :
    ∃ token, safeDecrypt cipher (some (encrypted cipher iv refresh)) = some token ∧
      books.owner token = some identity.sub.val := by
  refine ⟨refresh, safeDecrypt_encryptSecret iv refresh, ?_⟩
  rw [GoogleBooks.owner_of_exchanged honours hexchanged hgiven]
  exact (GoogleBooks.owner_of_identity honours hidentified).1

/-- **A connection written over** is of one account exactly when what is brought suits it. -/
theorem ofOne_reconnected_iff (honours : books.Honours google) {code : String}
    (hexchanged : exchangeCode env google now code = .ok tokens)
    (hidentified : fetchIdentity google tokens.accessToken = .ok identity)
    (haccount : account.Consistent books cipher) {ivs : Iv × Iv} :
    (reconnected cipher ivs.2 identity (storedRefreshToken cipher ivs.1 tokens account) tokens
      account).OfOne books cipher ↔ books.Suits tokens identity account := by
  have hemails := (GoogleBooks.owner_of_identity honours hidentified).2
  constructor
  · rintro ⟨⟨token, hread, howner⟩, hemail⟩
    refine ⟨fun hnone => ?_, fun hnone email hstored => hemail email ?_⟩
    · simp only [reconnected, storedRefreshToken, hnone] at hread howner
      rw [haccount.owner_of_safeDecrypt hread, Option.some.injEq] at howner
      exact Subtype.ext howner
    · simp only [reconnected, hnone, Option.map_none, Option.none_or]
      exact hstored
  · rintro ⟨hrefresh, hemail⟩
    refine ⟨?_, fun email hstored => ?_⟩
    · cases hgiven : present tokens.refreshToken with
      | some refresh =>
        simp only [reconnected, storedRefreshToken, hgiven]
        exact refresh_of_present honours hexchanged hidentified hgiven
      | none =>
        simp only [reconnected, storedRefreshToken, hgiven]
        rw [← hrefresh hgiven]
        exact haccount.ofOne.refresh
    · cases hgiven : identity.email with
      | some address =>
        simp only [reconnected, hgiven, Option.map_some, Option.some_or, Option.mem_some_iff]
          at hstored
        rw [← hstored]
        exact hemails address hgiven
      | none =>
        simp only [reconnected, hgiven, Option.map_none, Option.none_or] at hstored
        exact hemail hgiven email hstored

theorem consistent_connected (honours : books.Honours google) {code : String}
    (hexchanged : exchangeCode env google now code = .ok tokens)
    (hidentified : fetchIdentity google tokens.accessToken = .ok identity) {ivs : Iv × Iv}
    {refresh : RequiredText} (hgiven : present tokens.refreshToken = some refresh)
    {newId userId : ObjectId} :
    (connected cipher newId userId ivs.2 identity (encrypted cipher ivs.1 refresh)
      tokens).Consistent books cipher := by
  refine ⟨⟨refresh_of_present honours hexchanged hidentified hgiven, fun email hemail => ?_⟩,
    fun token hread => access_reconnected honours hidentified hread⟩
  rw [connected, reconnected, Option.or_none, Option.mem_map] at hemail
  obtain ⟨address, haddress, rfl⟩ := hemail
  exact (GoogleBooks.owner_of_identity honours hidentified).2 address haddress

theorem consistent_refreshed (honours : books.Honours google)
    (haccount : account.Consistent books cipher) {token : String}
    (hread : safeDecrypt cipher (some account.refreshToken) = some token)
    (hrefreshed : refreshAccessToken env google now token = .ok tokens) (iv : Iv) :
    (refreshed cipher iv tokens account).Consistent books cipher := by
  refine ⟨⟨haccount.ofOne.refresh, haccount.ofOne.email⟩, fun access haccess => ?_⟩
  rw [← eq_of_safeDecrypt haccess, GoogleBooks.owner_of_refreshed honours hrefreshed]
  exact haccount.owner_of_safeDecrypt hread

/-! ### All of them -/

theorem neverMixed_of_consistent (h : ∀ account ∈ connections, account.Consistent books cipher) :
    NeverMixed books cipher env connections := by
  refine ⟨fun account haccount => (h account haccount).ofOne, ?_⟩
  intro userId iv google now access honours haccess
  obtain ⟨account, hfound, hstored | ⟨token, tokens, hread, hrefreshed, htoken⟩⟩ :=
    getGoogleAccess_eq_ok haccess
  · obtain ⟨hmem, huser⟩ := mem_of_findByKey hfound
    exact ⟨account, hmem, huser, (h account hmem).access _ hstored⟩
  · obtain ⟨hmem, huser⟩ := mem_of_findByKey hfound
    refine ⟨account, hmem, huser, ?_⟩
    rw [htoken, GoogleBooks.owner_of_refreshed honours hrefreshed]
    exact (h account hmem).owner_of_safeDecrypt hread

theorem consistent_save (h : ∀ account ∈ connections, account.Consistent books cipher)
    (haccount : account ∈ connections) {change : Connection → Connection}
    (hkeeps : (change account).toOAuthAccount = account.toOAuthAccount)
    (hchanged : (change account).Consistent books cipher) :
    ∀ e ∈ save connections account change, e.Consistent books cipher := by
  intro e he
  rcases (mem_save haccount hkeeps).1 he with ⟨he, -⟩ | rfl
  · exact h e he
  · exact hchanged

theorem Call.consistent_next (h : ∀ account ∈ connections, account.Consistent books cipher)
    {call : Call books} (hsuits : call.Suits books env connections) :
    ∀ account ∈ call.next books cipher env connections, account.Consistent books cipher := by
  cases call with
  | completeGoogleConnection newId ivs google now code verified =>
    rw [next]
    obtain hsame | ⟨tokens, identity, account, hrec⟩ |
        ⟨userId, tokens, identity, refresh, hexchanged, hidentified, hgiven, hinsert⟩ :=
      completeGoogleConnection_cases cipher env google.val now connections newId ivs code verified
    · rw [hsame]
      exact h
    · rw [completeGoogleConnection_of_reconnects hrec]
      obtain ⟨userId, -, hfound⟩ := hrec.found
      have hmem := (mem_of_findByKey hfound).1
      refine consistent_save h hmem rfl ⟨?_, fun token hread =>
        access_reconnected google.property hrec.identified hread⟩
      exact (ofOne_reconnected_iff google.property hrec.exchanged hrec.identified
        (h account hmem)).2 (hsuits tokens identity account hrec)
    · intro e he
      rcases (Collection.mem_insert hinsert).1 he with he | rfl
      · exact h e he
      · exact consistent_connected google.property hexchanged hidentified hgiven
  | disconnectGoogle userId => exact fun e he => h e (mem_of_mem_disconnectGoogle he)
  | getGoogleAccess iv google now userId =>
    rw [next]
    obtain hsame | ⟨account, hfound, ⟨message, hrecorded⟩ | ⟨token, tokens, hread, hnew, hsaved⟩⟩ :=
      getGoogleAccess_cases cipher env google.val now connections userId iv
    · rw [hsame]
      exact h
    · have hmem := (mem_of_findByKey hfound).1
      rw [hrecorded]
      obtain ⟨⟨hrefresh, hemail⟩, haccess⟩ := h account hmem
      exact consistent_save h hmem rfl ⟨⟨hrefresh, hemail⟩, haccess⟩
    · have hmem := (mem_of_findByKey hfound).1
      rw [hsaved]
      exact consistent_save h hmem rfl
        (consistent_refreshed google.property (h account hmem) hread hnew iv)

theorem Call.suits_of_neverMixed (h : ∀ account ∈ connections, account.Consistent books cipher)
    {call : Call books}
    (hnext : NeverMixed books cipher env (call.next books cipher env connections)) :
    call.Suits books env connections := by
  cases call with
  | completeGoogleConnection newId ivs google now code verified =>
    intro tokens identity account hrec
    obtain ⟨userId, -, hfound⟩ := hrec.found
    have hmem := (mem_of_findByKey hfound).1
    rw [next, completeGoogleConnection_of_reconnects hrec] at hnext
    have hwritten := hnext.stored _ ((mem_save hmem rfl).2 (.inr rfl))
    exact (ofOne_reconnected_iff google.property hrec.exchanged hrec.identified
      (h account hmem)).1 hwritten
  | disconnectGoogle userId => trivial
  | getGoogleAccess iv google now userId => trivial

/-! ### Runs -/

/-- **Nothing is ever mixed** in a run exactly when every callback that writes over a connection
suits it. -/
theorem neverMixed_iff (books : GoogleBooks) (cipher : Aead) (env : Env)
    (calls : List (Call books)) :
    (∀ before connections, before <+: calls →
        (machine books cipher env).run .empty before = some connections →
          NeverMixed books cipher env connections) ↔
      (machine books cipher env).Meets (fun connections call => call.Suits books env connections)
        .empty calls := by
  have hempty : ∀ account ∈ (.empty : Collection Connection), account.Consistent books cipher :=
    fun account haccount => absurd haccount (Collection.not_mem_empty account)
  rw [Machine.forall_prefix_iff, and_iff_right (neverMixed_of_consistent hempty)]
  refine Machine.meets_congr (I := fun connections => ∀ account ∈ connections,
    Connection.Consistent books cipher account) ?_ ?_ hempty
  · intro connections call h
    constructor
    · exact fun hnext => Call.suits_of_neverMixed h (hnext _ rfl)
    · rintro hsuits next hstep
      rw [← Option.some.inj hstep]
      exact neverMixed_of_consistent (Call.consistent_next h hsuits)
  · intro connections call next h hsuits hstep
    rw [← Option.some.inj hstep]
    exact Call.consistent_next h hsuits

/-! ### A second account -/

/-- What the token endpoint answers when all is well. -/
def grant (access : String) (refresh : Option String) : HttpResponse TokenBody :=
  ⟨true, 200, some ⟨some access, refresh, some 3599, none, none, none⟩⟩

/-- The tokens `a1` and `r1` are of the account `first`, and `a2` is of the account `second`. -/
def twoAccounts : GoogleBooks where
  owner token := if token = "a2" then some "second" else some "first"
  addresses sub := {sub ++ "@gmail.com"}

/-- The first account is granted a refresh token, the second, which has been here before, is not. -/
def secondTime : GoogleAnswers where
  exchange code := some (if code = "c1" then grant "a1" (some "r1") else grant "a2" none)
  refresh _ := none
  userinfo access :=
    let sub := if access = "a2" then "second" else "first"
    some ⟨true, 200, some ⟨some sub, some (sub ++ "@gmail.com")⟩⟩

theorem twoAccounts_honours : twoAccounts.Honours secondTime where
  exchange code res body access refresh hres _ hbody haccess hrefresh _ _ := by
    simp only [secondTime, Option.some.injEq] at hres
    subst hres
    by_cases hcode : code = "c1"
    · simp only [hcode, if_true, grant, Option.some.injEq] at hbody
      subst hbody
      cases haccess
      cases hrefresh
      decide
    · simp only [hcode, if_false, grant, Option.some.injEq] at hbody
      subst hbody
      cases hrefresh
  refresh token res body access hres := nomatch hres
  userinfo_sub access res body sub hres _ hbody hsub _ := by
    simp only [secondTime, Option.some.injEq] at hres
    subst hres
    cases hbody
    cases hsub
    simp only [twoAccounts]
    split_ifs <;> rfl
  userinfo_email access res body sub email hres _ hbody hsub hemail _ := by
    simp only [secondTime, Option.some.injEq] at hres
    subst hres
    cases hbody
    cases hsub
    cases hemail
    simp only [twoAccounts, Set.mem_singleton_iff]
    split_ifs <;> decide +kernel

/-- The consultant connects the first account and then the second. -/
def connectTwice : List (Call twoAccounts) :=
  let ivs : Iv × Iv := (⟨List.replicate 12 0, rfl⟩, ⟨List.replicate 12 1, rfl⟩)
  let google := ⟨secondTime, twoAccounts_honours⟩
  [.completeGoogleConnection 30 ivs google 0 "c1" (some 1),
    .completeGoogleConnection 31 ivs google 0 "c2" (some 1)]

/-- What is stored then: the second account, with the refresh token of the first. -/
theorem not_neverMixed :
    ¬ ∀ (books : GoogleBooks) (cipher : Aead) (env : Env) (calls : List (Call books))
      (connections : Collection Connection),
      (machine books cipher env).run .empty calls = some connections →
        NeverMixed books cipher env connections := by
  intro h
  let env : Env := ⟨utcCalendar, sampleCrypto, true⟩
  let stored := ((machine twoAccounts markingCipher env).run .empty connectTwice).getD .empty
  have hmixed := h twoAccounts markingCipher env connectTwice stored rfl
  have hfound : (stored.findByKey 1).map (fun account =>
      (account.providerAccountId.val, safeDecrypt markingCipher (some account.refreshToken))) =
      some ("second", some "r1") := by
    decide +kernel
  obtain ⟨account, haccount, hfields⟩ := Option.map_eq_some_iff.1 hfound
  obtain ⟨hsub, hread⟩ := Prod.mk.inj hfields
  obtain ⟨token, htoken, howner⟩ := (hmixed.stored account (mem_of_findByKey haccount).1).refresh
  rw [hread, Option.some.injEq] at htoken
  rw [← htoken, hsub] at howner
  revert howner
  decide

end HrBooking.OAuth
