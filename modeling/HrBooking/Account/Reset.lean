import HrBooking.Account.Credentials

/-!
# What a reset of the password ends

After a reset every other password is refused, until a later reset sets it, and every refresh token
that was issued to the account before is refused for good.  The links are stored nowhere: each link
that was mailed before, the one just used included, works again until it expires.

* `ConfinedTo` : the sessions of a token; a token that was drawn is not issued again.
* `Shut` : a password is not the one of the account.
* `resetPassword_ok_iff` : a link works when it is for a stored account and has not expired.
* `reset_ends` : what a reset ends in any run.
-/

namespace HrBooking

section

variable (cr : Crypto)

/-- The action hands the token out to a client of the account. -/
def CredentialAction.Issues (token : String) (userId : ObjectId) (s : Mailroom) :
    CredentialAction → Prop
  | account a => a.Issues cr token userId s.platform
  | _ => False

/-- The action resets the password of the account to this one. -/
def CredentialAction.SetsPassword (password : String) (userId : ObjectId) (s : Mailroom) :
    CredentialAction → Prop
  | account (.resetPassword _ link newPassword) =>
    newPassword = password ∧ cr.verifyResetToken link s.platform.world.now = some userId
  | _ => False

/-- The token was drawn, and its sessions are of accounts that satisfy `q`. -/
def ConfinedTo (q : ObjectId → Prop) (token : String) (p : Platform) : Prop :=
  token ∈ p.drawnTokens ∧
    ∀ t ∈ p.refreshTokens, t.tokenHash = cr.hashRefreshToken token → q t.userId

/-- The account is stored, and the password is not the one of the account. -/
def Shut (password : String) (userId : ObjectId) (s : Mailroom) : Prop :=
  ∃ u ∈ s.platform.users, u.id = userId ∧ cr.verifyPassword password u.password = false

end

/-! ### Refresh tokens -/

section Tokens

variable {cr : Crypto} {d : Draw} {p p' : Platform} {user : User} {device : DeviceContext}
  {q : ObjectId → Prop} {token : String} {userId : ObjectId}

theorem issueTokens_token {previous : Option RefreshToken} {r : AuthResult}
    (h : (issueTokens cr d user device previous p).1 = .ok r) :
    r.refreshToken = d.rawRefreshToken := by
  unfold issueTokens Answer.andThen at h
  split at h
  · cases previous with
    | none =>
      cases h
      rfl
    | some s =>
      simp only at h
      split at h
      · cases h
        rfl
      · cases h
  · cases h

theorem issues_fresh {a : AccountAction} (hstep : (accounts cr).step p a = some p')
    (hissues : a.Issues cr token userId p) : token ∉ p.drawnTokens := by
  cases a with
  | login d input device =>
    obtain ⟨hd, -⟩ := Option.ite_none_right_eq_some.1 hstep
    obtain ⟨r, hr, rfl, -⟩ := hissues
    obtain ⟨users, -, ⟨e, hrun⟩ | ⟨user, -, hrun⟩⟩ := login_cases cr d p input device
    · rw [hrun] at hr
      cases hr
    · rw [hrun] at hr
      exact issueTokens_token hr ▸ hd.rawRefreshToken
  | refresh d presented device =>
    obtain ⟨hd, -⟩ := Option.ite_none_right_eq_some.1 hstep
    obtain ⟨r, hr, rfl, -⟩ := hissues
    rcases refresh_cases cr d p presented device with
      ⟨e, hrun⟩ | ⟨stored, -, -, e, hrun⟩ | ⟨-, stored, user, -, -, -, -, -, -, -, -, hrun⟩
    · rw [hrun] at hr
      cases hr
    · rw [hrun] at hr
      cases hr
    · rw [hrun] at hr
      exact issueTokens_token hr ▸ hd.rawRefreshToken
  | _ => exact hissues.elim

theorem confinedTo_step {a : AccountAction} (h : Sound cr p)
    (hinj : Function.Injective cr.hashRefreshToken) (hconfined : ConfinedTo cr q token p)
    (hstep : (accounts cr).step p a = some p') : ConfinedTo cr q token p' := by
  obtain ⟨hdrawn, hq⟩ := hconfined
  obtain ⟨hgrows, ⟨removed, hclose⟩ | ⟨new, fresh, previous, hopen⟩⟩ :=
    account_step_cases h hinj hstep
  · refine ⟨hgrows.drawnTokens hdrawn, fun t ht => hq t ?_⟩
    rw [hclose.tokens, Collection.mem_delete] at ht
    exact ht.1
  · refine ⟨hgrows.drawnTokens hdrawn, fun t ht hhash => ?_⟩
    rcases (hopen.tokens t).1 ht with rfl | ⟨hold, -⟩ | ⟨s, hs, rfl⟩
    · -- the new session is of a token that was not drawn
      obtain rfl : fresh = token := hinj (hopen.hash.symm.trans hhash)
      exact absurd hdrawn (issues_fresh hstep ((hopen.issues fresh t.userId).2 ⟨rfl, rfl⟩))
    · exact hq t hold hhash
    · exact hq s (hopen.continues s hs) hhash

theorem confinedTo_of_issues {a : AccountAction} (h : Sound cr p)
    (hinj : Function.Injective cr.hashRefreshToken) (hstep : (accounts cr).step p a = some p')
    (hissues : a.Issues cr token userId p) : ConfinedTo cr (fun id => id = userId) token p' := by
  have hfresh := issues_fresh hstep hissues
  have hnone : ∀ t ∈ p.refreshTokens, t.tokenHash ≠ cr.hashRefreshToken token := by
    intro t ht hhash
    obtain ⟨drawn, hdrawn, -, hdrawnHash⟩ := h.drawn t ht
    exact hfresh (hinj (hdrawnHash.symm.trans hhash) ▸ hdrawn)
  obtain ⟨-, ⟨removed, hclose⟩ | ⟨new, fresh, previous, hopen⟩⟩ := account_step_cases h hinj hstep
  · exact absurd hissues (hclose.issues token userId)
  · obtain ⟨rfl, rfl⟩ := (hopen.issues token userId).1 hissues
    refine ⟨hopen.drawn.1, fun t ht hhash => ?_⟩
    rcases (hopen.tokens t).1 ht with rfl | ⟨hold, -⟩ | ⟨s, hs, rfl⟩
    · rfl
    · exact absurd hhash (hnone t hold)
    · exact absurd hhash (hnone s (hopen.continues s hs))

theorem not_accepts_of_confinedTo (h : ConfinedTo cr (fun _ => False) token p) :
    ¬ Accepts cr d token device p := by
  intro haccepts
  unfold Accepts at haccepts
  rcases refresh_cases cr d p (some token) device with
    ⟨e, hrun⟩ | ⟨stored, -, -, e, hrun⟩ | ⟨token', stored, -, htoken, hstored, hhash, -⟩
  · rw [hrun] at haccepts
    cases haccepts
  · rw [hrun] at haccepts
    cases haccepts
  · obtain rfl : token = token' := Option.some.inj htoken
    exact h.2 stored hstored hhash

end Tokens

/-! ### Passwords and links -/

section Passwords

variable {cr : Crypto} {links : Links} {p : Platform} {user : User}

theorem onUser_password (cr : Crypto) (p : Platform) (a : AccountAction) (user : User) :
    (a.onUser cr p user).password = user.password ∨
      ∃ salt link newPassword, a = .resetPassword salt link newPassword ∧
        cr.verifyResetToken link p.world.now = some user.id ∧
        (a.onUser cr p user).password = cr.hashPassword newPassword salt := by
  cases a with
  | login d input device =>
    left
    simp only [AccountAction.onUser]
    split_ifs
    · exact afterVerification_password user _ _
    · rfl
  | resetPassword salt link newPassword =>
    by_cases hlink : cr.verifyResetToken link p.world.now = some user.id
    · exact .inr ⟨salt, link, newPassword, rfl, hlink,
        congrArg User.password (if_pos hlink)⟩
    · exact .inl (congrArg User.password (if_neg hlink))
  | suspendUser userId =>
    left
    simp only [AccountAction.onUser]
    split_ifs <;> rfl
  | reactivateUser userId =>
    left
    simp only [AccountAction.onUser]
    split_ifs <;> rfl
  | _ => exact .inl rfl

theorem login_of_wrong {d : Draw} {input : LoginInput} {device : DeviceContext}
    (huser : user ∈ p.users) (hemail : toLowerCase input.email = user.email)
    (hwrong : cr.verifyPassword input.password user.password = false) :
    (login cr d input device p).1.isOk = false := by
  unfold login
  cases hadmitted : admitted p.world.now (p.users.findByKey (toLowerCase input.email)) with
  | error e => rfl
  | ok u =>
    obtain ⟨hu, hkey⟩ := Collection.findByKey_eq_some.1 (admitted_eq_ok.1 hadmitted).1
    obtain rfl : u = user := Collection.eq_of_indexKey hu huser hkey (congrArg some hemail.symm)
    obtain ⟨users, hsave, -⟩ := saveUser_of_mem (u.incrementFailedAttempts p.world.now) huser
    rw [answer_ok_andThen, if_pos hwrong, hsave]
    rfl

theorem resetPassword_ok_iff {salt : ℕ} {link newPassword : String} :
    (resetPassword cr salt link newPassword p).1 = .ok () ↔
      ∃ u ∈ p.users, cr.verifyResetToken link p.world.now = some u.id := by
  constructor
  · intro hok
    rcases resetPassword_cases cr p salt link newPassword with
      ⟨e, hrun⟩ | ⟨u, hu, hlink, -⟩
    · rw [hrun] at hok
      cases hok
    · exact ⟨u, hu, hlink⟩
  · rintro ⟨u, hu, hlink⟩
    have hfind : p.users.findById u.id = some u := Collection.findById_of_mem hu
    have htarget : resetTarget cr link p = .ok u := by
      unfold resetTarget
      rw [hlink, Option.bind_some, hfind]
    obtain ⟨users, hsave, -⟩ :=
      saveUser_of_mem { u with password := cr.hashPassword newPassword salt } hu
    unfold resetPassword
    rw [htarget, answer_ok_andThen, hsave]
    rfl

theorem signed_works_iff (hlinks : links.VerifiedBy cr) (huser : user ∈ p.users) {salt : ℕ}
    {newPassword : String} {issuedAt : ℤ} :
    (resetPassword cr salt (links.sign user.id issuedAt) newPassword p).1 = .ok () ↔
      p.world.now / 1000 < issuedAt + links.expiresIn := by
  rw [resetPassword_ok_iff, hlinks.signed]
  split_ifs with hnow
  · exact iff_of_true ⟨user, huser, rfl⟩ hnow
  · refine iff_of_false ?_ hnow
    rintro ⟨u, -, h⟩
    cases h

end Passwords

/-! ### Runs -/

section Runs

variable {cr : Crypto} {links : Links} {s t t₁ t' : Mailroom} {a : CredentialAction}
  {before after : List CredentialAction} {token password : String} {userId : ObjectId}

/-- **One step**: a password that is not the one of the account, and is not set, is not. -/
theorem shut_step (hpassword : ∀ q q' salt,
      cr.verifyPassword q (cr.hashPassword q' salt) = true ↔ q = q')
    (h : Shut cr password userId s) (ha : ¬ a.SetsPassword cr password userId s)
    (hstep : (credentials cr links).step s a = some s') : Shut cr password userId s' := by
  obtain ⟨user, huser, rfl, hshut⟩ := h
  rcases credential_step_cases hstep with
    ⟨b, rfl, hdeletes, hb, -⟩ | ⟨-, users, hplatform, hkeeps, -⟩
  · refine ⟨b.onUser cr s.platform user, (users_step hdeletes hb _).2 ⟨user, huser, rfl⟩,
      onUser_id cr s.platform b user, ?_⟩
    rcases onUser_password cr s.platform b user with
      hsame | ⟨salt, link, newPassword, rfl, hlink, hnew⟩
    · rw [hsame]
      exact hshut
    · rw [hnew, Bool.eq_false_iff]
      intro hverify
      exact ha ⟨((hpassword _ _ _).1 hverify).symm, hlink⟩
  · rw [Shut, hplatform]
    exact ⟨user, hkeeps user huser, rfl, hshut⟩

/-- **One step** of the sessions of a token that was drawn. -/
theorem confinedTo_credential_step {q : ObjectId → Prop}
    (hinj : Function.Injective cr.hashRefreshToken) (h : Credible cr links s)
    (hconfined : ConfinedTo cr q token s.platform)
    (hstep : (credentials cr links).step s a = some s') : ConfinedTo cr q token s'.platform := by
  rcases credential_step_cases hstep with ⟨b, -, -, hb, -⟩ | ⟨-, users, hplatform, -, -⟩
  · exact confinedTo_step h.sound hinj hconfined hb
  · rw [hplatform]
    exact hconfined

theorem credible_run (hinj : Function.Injective cr.hashRefreshToken) {as : List CredentialAction}
    (h : Credible cr links s) (hrun : (credentials cr links).run s as = some t) :
    Credible cr links t :=
  Machine.run_invariant' (I := Credible cr links) (fun _ _ _ hI => credible_step hinj hI) h hrun

theorem confinedTo_run {q : ObjectId → Prop} (hinj : Function.Injective cr.hashRefreshToken)
    {as : List CredentialAction} (h : Credible cr links s)
    (hconfined : ConfinedTo cr q token s.platform)
    (hrun : (credentials cr links).run s as = some t) : ConfinedTo cr q token t.platform :=
  (Machine.run_invariant'
    (I := fun s => Credible cr links s ∧ ConfinedTo cr q token s.platform)
    (fun _ _ _ hI hstep => ⟨credible_step hinj hI.1 hstep,
      confinedTo_credential_step hinj hI.1 hI.2 hstep⟩) ⟨h, hconfined⟩ hrun).2

theorem confinedTo_of_issued (hinj : Function.Injective cr.hashRefreshToken)
    (h : Credible cr links s) (hrun : (credentials cr links).run s before = some t)
    (hissued : (credentials cr links).Since (fun s a => a.Issues cr token userId s)
      (fun _ _ => True) s before) : ConfinedTo cr (fun id => id = userId) token t.platform := by
  obtain ⟨pre, b, post, u, v, rfl, hpre, hissues, hb, -⟩ := hissued
  obtain ⟨u', hu', hpost⟩ := Machine.run_append.1 hrun
  obtain rfl : u = u' := Option.some.inj (hpre.symm.trans hu')
  obtain ⟨v', hv', hpost⟩ := Machine.run_cons.1 hpost
  obtain rfl : v = v' := Option.some.inj (hb.symm.trans hv')
  have hu : Credible cr links u := credible_run hinj h hpre
  refine confinedTo_run hinj (credible_step hinj hu hb) ?_ hpost
  rcases credential_step_cases hb with ⟨c, rfl, -, hc, -⟩ | ⟨hnot, -⟩
  · exact confinedTo_of_issues hu.sound hinj hc hissues
  · cases b with
    | account c => exact absurd rfl (hnot c)
    | _ => exact hissues.elim

theorem confinedTo_reset {salt : ℕ} {link newPassword : String}
    (hconfined : ConfinedTo cr (fun id => id = userId) token t.platform)
    (hlink : cr.verifyResetToken link t.platform.world.now = some userId)
    (hok : (resetPassword cr salt link newPassword t.platform).1 = .ok ())
    (hreset : (credentials cr links).step t (.account (.resetPassword salt link newPassword)) =
      some t₁) : ConfinedTo cr (fun _ => False) token t₁.platform := by
  obtain rfl := (Option.some.inj hreset).symm
  rcases resetPassword_cases cr t.platform salt link newPassword with
    ⟨e, hrun⟩ | ⟨user, -, huser, users, -, hrun⟩
  · rw [hrun] at hok
    cases hok
  · obtain rfl : user.id = userId := Option.some.inj (huser.symm.trans hlink)
    rw [hrun]
    refine ⟨hconfined.1, fun t ht hhash => ?_⟩
    obtain ⟨hold, hkept⟩ := Collection.mem_delete_decide.1 ht
    exact hkept (hconfined.2 t hold hhash)

/-- **What a reset ends.**  After any run of the account services from a state without sessions, a
reset of the password succeeds for an account.  However the services go on, a password other than
the new one is refused as long as no later reset of the account sets it, and a refresh token that
was issued to the account before the reset is refused.  The links are not ended: each one that was
mailed before and the one just used work again exactly until they expire. -/
theorem reset_ends (hinj : Function.Injective cr.hashRefreshToken)
    (hpassword : ∀ q q' salt, cr.verifyPassword q (cr.hashPassword q' salt) = true ↔ q = q')
    (hlinks : links.VerifiedBy cr) (hnone : ∀ t, t ∉ s.platform.refreshTokens)
    (hmailed : s.mailed = []) (hbefore : (credentials cr links).run s before = some t)
    {salt : ℕ} {link newPassword : String}
    (hlink : cr.verifyResetToken link t.platform.world.now = some userId)
    (hok : (resetPassword cr salt link newPassword t.platform).1 = .ok ())
    (hreset : (credentials cr links).step t (.account (.resetPassword salt link newPassword)) =
      some t₁)
    (hafter : (credentials cr links).run t₁ after = some t') :
    (∀ password, password ≠ newPassword →
      (credentials cr links).Meets (fun s a => ¬ a.SetsPassword cr password userId s) t₁ after →
      ∃ u ∈ t'.platform.users, u.id = userId ∧ ∀ d input device,
        toLowerCase input.email = u.email → input.password = password →
          (login cr d input device t'.platform).1.isOk = false) ∧
    (∀ token, (credentials cr links).Since (fun s a => a.Issues cr token userId s)
        (fun _ _ => True) s before →
      ∀ d device, ¬ Accepts cr d token device t'.platform) ∧
    ∀ old ∈ link :: t.mailed, ∃ userId issuedAt, old = links.sign userId issuedAt ∧
      ∀ salt newPassword, (resetPassword cr salt old newPassword t'.platform).1 = .ok () ↔
        t'.platform.world.now / 1000 < issuedAt + links.expiresIn := by
  -- nothing is stored or mailed at the start, so all that is signed later is accounted for
  have hs : Credible cr links s := by
    refine ⟨⟨fun t ht => absurd ht (hnone t), fun t ht => absurd ht (hnone t),
      fun t ht => absurd ht (hnone t)⟩, fun link hlink => ?_⟩
    rw [hmailed] at hlink
    cases hlink
  have ht : Credible cr links t := credible_run hinj hs hbefore
  have ht₁ : Credible cr links t₁ := credible_step hinj ht hreset
  obtain ⟨user, huser, huserLink⟩ := resetPassword_ok_iff.1 hok
  obtain rfl : user.id = userId := Option.some.inj (huserLink.symm.trans hlink)
  refine ⟨fun password hne hmeets => ?_, fun token hissued d device => ?_, fun old hold => ?_⟩
  · -- after the reset the password is wrong, and stays so until somebody sets it again
    have hreset_users : Rewrites ((AccountAction.resetPassword salt link newPassword).onUser cr
        t.platform) t.platform.users t₁.platform.users := by
      obtain rfl := (Option.some.inj hreset).symm
      exact resetPassword_users salt link newPassword
    have hshut : Shut cr password user.id t₁ := by
      refine ⟨{ user with password := cr.hashPassword newPassword salt },
        (hreset_users _).2 ⟨user, huser, if_pos hlink⟩, rfl, ?_⟩
      rw [Bool.eq_false_iff]
      exact fun hverify => hne ((hpassword _ _ _).1 hverify)
    obtain ⟨u, hu, hid, hwrong⟩ := Machine.run_invariant
      (fun _ _ _ hI hG hstep => shut_step hpassword hI hG hstep) hshut hmeets hafter
    refine ⟨u, hu, hid, ?_⟩
    rintro d input device hemail rfl
    exact login_of_wrong hu hemail hwrong
  · -- the tokens of the account are gone, and none of them is ever issued a second time
    have hconfined := confinedTo_of_issued hinj hs hbefore hissued
    have hgone := confinedTo_reset hconfined hlink hok hreset
    exact not_accepts_of_confinedTo (confinedTo_run hinj ht₁ hgone hafter)
  · -- the account of the link is stored for good
    have hfor : ∃ u ∈ t.platform.users, ∃ issuedAt, old = links.sign u.id issuedAt := by
      rcases List.mem_cons.1 hold with rfl | hold
      · obtain ⟨issuedAt, hsigned⟩ := hlinks.only _ _ _ hlink
        exact ⟨user, huser, issuedAt, hsigned⟩
      · exact ht.mailed old hold
    obtain ⟨u, hu, issuedAt, rfl⟩ := hfor
    have hstored : ∃ u' ∈ t'.platform.users, u'.id = u.id := by
      refine Machine.run_invariant' (I := fun s => ∃ u' ∈ s.platform.users, u'.id = u.id)
        ?_ (exists_user_step hreset hu) hafter
      rintro s a s' ⟨u', hu', hid⟩ hstep
      exact hid ▸ exists_user_step hstep hu'
    obtain ⟨u', hu', hid⟩ := hstored
    refine ⟨u.id, issuedAt, rfl, fun salt newPassword => ?_⟩
    rw [← hid]
    exact signed_works_iff hlinks hu'

end Runs

/-! ### A link that is used twice -/

/-- The client logs in, and somebody asks for a link. -/
def forgotten : List CredentialAction :=
  [.account (.login ⟨10, firstToken⟩ ⟨"client@example.com", "consult2026"⟩ phone),
    .forgotPassword "client@example.com"]

/-- The link is used. -/
def renewal : AccountAction := .resetPassword 1 (tallyLinks.sign 2 0) "renewed2026"

theorem forgotten_isSome :
    ((credentials tallyCrypto tallyLinks).run clientRoom forgotten).isSome = true := by
  decide +kernel

def forgottenRoom : Mailroom :=
  ((credentials tallyCrypto tallyLinks).run clientRoom forgotten).get forgotten_isSome

theorem renewal_works :
    ((credentials tallyCrypto tallyLinks).step forgottenRoom (.account renewal)).isSome = true ∧
      (resetPassword tallyCrypto 1 (tallyLinks.sign 2 0) "renewed2026" forgottenRoom.platform).1 =
        .ok () ∧
      tallyCrypto.verifyResetToken (tallyLinks.sign 2 0) forgottenRoom.platform.world.now =
        some 2 := by
  decide +kernel

theorem renewal_isSome :
    ((credentials tallyCrypto tallyLinks).step forgottenRoom (.account renewal)).isSome = true :=
  renewal_works.1

def renewedRoom : Mailroom :=
  ((credentials tallyCrypto tallyLinks).step forgottenRoom (.account renewal)).get renewal_isSome

/-- The session is closed, the old password is refused, and the link works again. -/
theorem reset_ends_renewed :
    (∃ u ∈ renewedRoom.platform.users, u.id = 2 ∧ ∀ d input device,
      toLowerCase input.email = u.email → input.password = "consult2026" →
        (login tallyCrypto d input device renewedRoom.platform).1.isOk = false) ∧
    ¬ Accepts tallyCrypto ⟨11, secondToken⟩ firstToken phone renewedRoom.platform ∧
    ∃ userId issuedAt, tallyLinks.sign 2 0 = tallyLinks.sign userId issuedAt ∧
      ∀ salt newPassword, (resetPassword tallyCrypto salt (tallyLinks.sign 2 0) newPassword
          renewedRoom.platform).1 = .ok () ↔
        renewedRoom.platform.world.now / 1000 < issuedAt + tallyLinks.expiresIn := by
  obtain ⟨-, hok, hlink⟩ := renewal_works
  obtain ⟨hpasswords, htokens, hmailed⟩ := reset_ends (s := clientRoom) sampleDigest.injective
    tallyCrypto_password tallyLinks_verifiedBy Collection.not_mem_empty rfl
    (Option.some_get forgotten_isSome).symm hlink hok (Option.some_get renewal_isSome).symm
    (Machine.run_nil renewedRoom)
  have hissued : (credentials tallyCrypto tallyLinks).Since
      (fun s a => a.Issues tallyCrypto firstToken 2 s) (fun _ _ => True) clientRoom forgotten :=
    ⟨[], _, _, _, _, rfl, rfl, ⟨_, rfl, rfl, rfl⟩, rfl,
      Machine.meets_of_forall (fun _ _ => trivial) _ _⟩
  exact ⟨hpasswords "consult2026" (by decide) trivial, htokens firstToken hissued _ _,
    hmailed _ List.mem_cons_self⟩

/-- **A link is good for more than one reset.**  Client 2 uses a link, and it works once more. -/
theorem not_reset_ends_links :
    ¬ ∀ (cr : Crypto) (links : Links) (s t t₁ t' : Mailroom) (before after : List CredentialAction)
      (userId : ObjectId) (salt : ℕ) (link newPassword : String),
      Function.Injective cr.hashRefreshToken →
      (∀ q q' salt, cr.verifyPassword q (cr.hashPassword q' salt) = true ↔ q = q') →
      links.VerifiedBy cr → (∀ t, t ∉ s.platform.refreshTokens) → s.mailed = [] →
      (credentials cr links).run s before = some t →
      cr.verifyResetToken link t.platform.world.now = some userId →
      (resetPassword cr salt link newPassword t.platform).1 = .ok () →
      (credentials cr links).step t (.account (.resetPassword salt link newPassword)) = some t₁ →
      (credentials cr links).run t₁ after = some t' →
      ∀ old ∈ link :: t.mailed, ∀ salt newPassword,
        cr.verifyResetToken old t.platform.world.now = some userId →
        (resetPassword cr salt old newPassword t'.platform).1.isOk = false := by
  intro h
  obtain ⟨-, hok, hlink⟩ := renewal_works
  have hrefused := h tallyCrypto tallyLinks clientRoom forgottenRoom renewedRoom renewedRoom
    forgotten [] 2 1 (tallyLinks.sign 2 0) "renewed2026" sampleDigest.injective
    tallyCrypto_password tallyLinks_verifiedBy Collection.not_mem_empty rfl
    (Option.some_get forgotten_isSome).symm hlink hok (Option.some_get renewal_isSome).symm
    rfl _ List.mem_cons_self 2 "stolen2026" hlink
  revert hrefused
  decide +kernel

end HrBooking
