import HrBooking.Account.Deletion
import HrBooking.Machine.Since

/-!
# Which refresh tokens are accepted

The account services one after another, on any number of accounts and devices.  A token is accepted
when it was handed out within the lifetime of a session and nothing has ended the session since: no
refresh with the token, no logout, no reset of the password, no suspension and no deletion of the
account.  The schema of the sessions refuses a device it cannot store, whatever the token.

* `accounts` : the machine of the account services.
* `AccountAction.Issues`, `AccountAction.Ends` : the steps that hand a token out and that end its
  session.
* `Held` : the record of an open session.
* `Sound` : the invariant of the stored sessions.
* `refresh_accepts_iff` : a token is accepted exactly when its history says so.
-/

namespace HrBooking

/-- One call of an account service, with its surroundings. -/
inductive AccountAction where
  | login (d : Draw) (input : LoginInput) (device : DeviceContext)
  | refresh (d : Draw) (refreshToken : Option String) (device : DeviceContext)
  | logout (refreshToken : Option String)
  | resetPassword (salt : ℕ) (token newPassword : String)
  | suspendUser (userId : ObjectId)
  | reactivateUser (userId : ObjectId)
  | deleteUser (o : ObjectId → Oracle) (actor : Actor) (userId : ObjectId)
  /-- the TTL index removes a session that has expired -/
  | expire (id : ObjectId)
  /-- time passes -/
  | advance (ms : ℕ)

section

variable (cr : Crypto)

/-- One action; refused only when what is drawn is not new. -/
def AccountAction.exec (p : Platform) : AccountAction → Option Platform
  | login d input device =>
    if d.Fresh p then some (HrBooking.login cr d input device p).2 else none
  | refresh d refreshToken device =>
    if d.Fresh p then some (HrBooking.refresh cr d refreshToken device p).2 else none
  | logout refreshToken => some (HrBooking.logout cr refreshToken p).2
  | resetPassword salt token newPassword =>
    some (HrBooking.resetPassword cr salt token newPassword p).2
  | suspendUser userId => some (HrBooking.suspendUser userId p).2
  | reactivateUser userId => some (HrBooking.reactivateUser userId p).2
  | deleteUser o actor userId => some (HrBooking.deleteUser o actor userId p).2
  | expire id =>
    some { p with
      refreshTokens := p.refreshTokens.delete fun t => t.id = id ∧ t.expiresAt < p.world.now }
  | advance ms => some (p.advance ms)

/-- The account services as a machine. -/
def accounts : Machine Platform AccountAction := ⟨fun p a => a.exec cr p⟩

/-- The action hands the token out to a client of the account. -/
def AccountAction.Issues (token : String) (userId : ObjectId) (p : Platform) :
    AccountAction → Prop
  | login d input device =>
    ∃ r, (HrBooking.login cr d input device p).1 = .ok r ∧ r.refreshToken = token ∧
      r.user.id = userId
  | refresh d presented device =>
    ∃ r, (HrBooking.refresh cr d presented device p).1 = .ok r ∧ r.refreshToken = token ∧
      r.user.id = userId
  | _ => False

/-- The action ends the session of a token of the account: the token is redeemed or logged out, or
the password is reset, or the account is suspended or deleted. -/
def AccountAction.Ends (token : String) (userId : ObjectId) (p : Platform) :
    AccountAction → Prop
  | refresh d presented device =>
    presented = some token ∧ ∃ r, (HrBooking.refresh cr d presented device p).1 = .ok r
  | logout presented => presented = some token
  | resetPassword salt link newPassword =>
    cr.verifyResetToken link p.world.now = some userId ∧
      (HrBooking.resetPassword cr salt link newPassword p).1 = .ok ()
  | suspendUser id => id = userId ∧ ∃ u, (HrBooking.suspendUser id p).1 = .ok u
  | deleteUser o actor id => id = userId ∧ ∃ s, (HrBooking.deleteUser o actor id p).1 = .ok s
  | _ => False

/-- In the history the token was handed out to some account, at most a lifetime before `now`, and
no step since has ended its session. -/
def LiveByHistory (token : String) (p : Platform) (as : List AccountAction) (now : ℤ) : Prop :=
  ∃ userId issuedAt, now ≤ issuedAt + refreshTokenTtlMs ∧
    (accounts cr).Since (fun p a => p.world.now = issuedAt ∧ a.Issues cr token userId p)
      (fun p a => ¬ a.Ends cr token userId p) p as

/-- The open session of a token that an account was given at an instant. -/
def Held (token : String) (userId : ObjectId) (issuedAt : ℤ) (p : Platform) : Prop :=
  ∃ t ∈ p.refreshTokens, t.tokenHash = cr.hashRefreshToken token ∧ t.userId = userId ∧
    t.expiresAt = issuedAt + refreshTokenTtlMs ∧ t.revokedAt = none

/-- **The invariant**: a stored session is of a token that was drawn and of an active account. -/
structure Sound (p : Platform) : Prop where
  drawn : ∀ t ∈ p.refreshTokens, ∃ token ∈ p.drawnTokens,
    token.length = 64 ∧ t.tokenHash = cr.hashRefreshToken token
  ids : ∀ t ∈ p.refreshTokens, t.id ∈ p.world.issuedIds
  active : ∀ t ∈ p.refreshTokens, ∃ u ∈ p.users, u.id = t.userId ∧ u.status = .active

/-! ### What an action does to the sessions -/

/-- No session is opened, and those that satisfy `q` are removed. -/
structure Closes (p : Platform) (a : AccountAction) (p' : Platform) (q : RefreshToken → Bool) :
    Prop where
  tokens : p'.refreshTokens = p.refreshTokens.delete q
  active : ∀ u ∈ p.users, u.status = .active → (∃ t ∈ p.refreshTokens, t.userId = u.id ∧
    q t = false) → ∃ u' ∈ p'.users, u'.id = u.id ∧ u'.status = .active
  issues : ∀ token userId, ¬ a.Issues cr token userId p
  ends : ∀ t ∈ p.refreshTokens, t.revokedAt = none → p'.world.now ≤ t.expiresAt →
    ∀ token, t.tokenHash = cr.hashRefreshToken token →
      (q t = true ↔ a.Ends cr token t.userId p)

/-- A session is opened, in place of the one it continues. -/
structure Opens (p : Platform) (a : AccountAction) (p' : Platform) (new : RefreshToken)
    (token : String) (previous : Option RefreshToken) : Prop where
  tokens : ∀ t, t ∈ p'.refreshTokens ↔ t = new ∨
    (t ∈ p.refreshTokens ∧ ∀ s ∈ previous, t.id ≠ s.id) ∨
      ∃ s ∈ previous, t = s.revoke p.world.now new.tokenHash
  continues : ∀ s ∈ previous, s ∈ p.refreshTokens
  hash : new.tokenHash = cr.hashRefreshToken token
  expiresAt : new.expiresAt = p.world.now + refreshTokenTtlMs
  revokedAt : new.revokedAt = none
  drawn : token ∈ p'.drawnTokens ∧ token.length = 64
  issuedId : new.id ∈ p'.world.issuedIds
  user : ∃ u ∈ p'.users, u.id = new.userId ∧ u.status = .active
  keeps : KeepsActiveUsers p.users p'.users
  issues : ∀ token' userId, a.Issues cr token' userId p ↔ token' = token ∧ userId = new.userId
  ends : ∀ t ∈ p.refreshTokens, ∀ token', t.tokenHash = cr.hashRefreshToken token' →
    ((∃ s ∈ previous, t.id = s.id) ↔ a.Ends cr token' t.userId p)

/-- What was drawn stays drawn, and time does not go back. -/
structure Grows (p p' : Platform) : Prop where
  now : p.world.now ≤ p'.world.now
  issuedIds : p.world.issuedIds ⊆ p'.world.issuedIds
  drawnTokens : p.drawnTokens ⊆ p'.drawnTokens

end

section Actions

variable {cr : Crypto} {p p' : Platform} {a : AccountAction} {d : Draw} {device : DeviceContext}

theorem grows_of_eq (hnow : p'.world.now = p.world.now)
    (hids : p'.world.issuedIds = p.world.issuedIds) (hdrawn : p'.drawnTokens = p.drawnTokens) :
    Grows p p' where
  now := hnow.ge
  issuedIds := hids ▸ List.Subset.refl _
  drawnTokens := hdrawn ▸ List.Subset.refl _

theorem delete_nothing (c : Collection RefreshToken) : c.delete (fun _ => false) = c := by
  simp [Collection.delete]

theorem closes_nothing (htokens : p'.refreshTokens = p.refreshTokens)
    (hkeeps : KeepsActiveUsers p.users p'.users)
    (hissues : ∀ token userId, ¬ a.Issues cr token userId p)
    (hends : ∀ token userId, ¬ a.Ends cr token userId p) : Closes cr p a p' fun _ => false where
  tokens := by rw [htokens, delete_nothing]
  active u hu hactive _ := hkeeps u hu hactive
  issues := hissues
  ends t _ _ _ token _ := iff_of_false Bool.false_ne_true (hends token t.userId)

theorem closes_account (userId : ObjectId)
    (htokens : p'.refreshTokens = p.refreshTokens.delete fun t => t.userId = userId)
    (hkeeps : ∀ u ∈ p.users, u.id ≠ userId → u.status = .active →
      ∃ u' ∈ p'.users, u'.id = u.id ∧ u'.status = .active)
    (hissues : ∀ token id, ¬ a.Issues cr token id p)
    (hends : ∀ token id, id = userId ↔ a.Ends cr token id p) :
    Closes cr p a p' fun t => t.userId = userId where
  tokens := htokens
  active u hu hactive := by
    rintro ⟨t, -, hid, hkept⟩
    exact hkeeps u hu (hid ▸ of_decide_eq_false hkept) hactive
  issues := hissues
  ends t _ _ _ token _ := decide_eq_true_iff.trans (hends token t.userId)

theorem Sound.fresh (h : Sound cr p) (hinj : Function.Injective cr.hashRefreshToken)
    (hd : d.Fresh p) :
    ∀ t ∈ p.refreshTokens,
      t.id ≠ d.newId ∧ t.tokenHash ≠ cr.hashRefreshToken d.rawRefreshToken := by
  intro t ht
  refine ⟨fun hid => hd.newId (hid ▸ h.ids t ht), fun hhash => ?_⟩
  obtain ⟨token, htoken, -, htokenHash⟩ := h.drawn t ht
  exact hd.rawRefreshToken (hinj (htokenHash.symm.trans hhash) ▸ htoken)

/-- What an action does that issues tokens on accounts that stay active: it closes nothing or opens
a session, as the device fits. -/
theorem issueTokens_step {users : Collection User} {user : User} (previous : Option RefreshToken)
    (h : Sound cr p) (hinj : Function.Injective cr.hashRefreshToken) (hd : d.Fresh p)
    (hkeeps : KeepsActiveUsers p.users users)
    (huser : ∃ u ∈ users, u.id = user.id ∧ u.status = .active)
    (hprevious : ∀ s ∈ previous, s ∈ p.refreshTokens)
    (hp' : p' = (issueTokens cr d user device previous { p with users }).2)
    (hissues : ∀ token userId, a.Issues cr token userId p ↔
      ∃ r, (issueTokens cr d user device previous { p with users }).1 = .ok r ∧
        r.refreshToken = token ∧ r.user.id = userId)
    (hends : ∀ token userId, a.Ends cr token userId p →
      ∃ r, (issueTokens cr d user device previous { p with users }).1 = .ok r)
    (hendsOf : ∀ r, (issueTokens cr d user device previous { p with users }).1 = .ok r →
      ∀ t ∈ p.refreshTokens, ∀ token, t.tokenHash = cr.hashRefreshToken token →
        ((∃ s ∈ previous, t.id = s.id) ↔ a.Ends cr token t.userId p)) :
    Grows p p' ∧ ((∃ q, Closes cr p a p' q) ∨
      ∃ new token previous, Opens cr p a p' new token previous) := by
  subst hp'
  -- a device that does not fit ends the call; otherwise a session begins, and the previous one
  -- is revoked
  rcases issueTokens_cases (p := { p with users }) user device previous hprevious
    (h.fresh hinj hd) with
    ⟨-, hrun⟩ | ⟨-, c, hrun, hmem⟩
  · rw [hrun] at hissues hends ⊢
    refine ⟨⟨le_rfl, List.subset_cons_self _ _, List.subset_cons_self _ _⟩, .inl ⟨_,
      closes_nothing rfl hkeeps (fun token userId hi => ?_) fun token userId he => ?_⟩⟩
    · obtain ⟨r, hr, -⟩ := (hissues token userId).1 hi
      cases hr
    · obtain ⟨r, hr⟩ := hends token userId he
      cases hr
  · rw [hrun] at hissues hendsOf ⊢
    refine ⟨⟨le_rfl, List.subset_cons_self _ _, List.subset_cons_self _ _⟩, .inr
      ⟨newRefreshToken cr d user.id device p.world.now, d.rawRefreshToken, previous, ?_⟩⟩
    exact {
      tokens := hmem
      continues := hprevious
      hash := rfl
      expiresAt := rfl
      revokedAt := rfl
      drawn := ⟨List.mem_cons_self, hd.length⟩
      issuedId := List.mem_cons_self
      user := huser
      keeps := hkeeps
      issues := fun token userId => by
        rw [hissues]
        constructor
        · rintro ⟨r, hr, rfl, rfl⟩
          cases hr
          exact ⟨rfl, rfl⟩
        · rintro ⟨rfl, rfl⟩
          exact ⟨_, rfl, rfl, rfl⟩
      ends := hendsOf _ rfl }

theorem Sound.token_ne {t : RefreshToken} {token : String} (h : Sound cr p)
    (hinj : Function.Injective cr.hashRefreshToken) (ht : t ∈ p.refreshTokens)
    (htoken : t.tokenHash = cr.hashRefreshToken token) : token ≠ "" := by
  rintro rfl
  obtain ⟨token, -, hlength, hhash⟩ := h.drawn t ht
  obtain rfl : "" = token := hinj (htoken.symm.trans hhash)
  cases hlength

theorem login_step (h : Sound cr p) (hinj : Function.Injective cr.hashRefreshToken)
    (hd : d.Fresh p) (input : LoginInput) (hp' : p' = (login cr d input device p).2) :
    Grows p p' ∧ ((∃ q, Closes cr p (.login d input device) p' q) ∨
      ∃ new token previous, Opens cr p (.login d input device) p' new token previous) := by
  obtain ⟨users, hkeeps, ⟨e, hrun⟩ | ⟨user, huser, hrun⟩⟩ :=
    login_cases cr d p input device
  · rw [hrun] at hp'
    subst hp'
    refine ⟨grows_of_eq rfl rfl rfl, .inl ⟨_, closes_nothing rfl hkeeps ?_ fun _ _ => id⟩⟩
    rintro token userId ⟨r, hr, -⟩
    rw [hrun] at hr
    cases hr
  · refine issueTokens_step none h hinj hd hkeeps huser (fun _ => nofun)
      (hp'.trans (congrArg Prod.snd hrun)) (fun token userId => ?_) (fun _ _ => nofun)
      fun _ _ t _ token _ => ?_
    · simp only [AccountAction.Issues, hrun]
    · simp [AccountAction.Ends]

theorem refresh_step (h : Sound cr p) (hinj : Function.Injective cr.hashRefreshToken)
    (hd : d.Fresh p) (presented : Option String)
    (hp' : p' = (refresh cr d presented device p).2) :
    Grows p p' ∧ ((∃ q, Closes cr p (.refresh d presented device) p' q) ∨
      ∃ new token previous, Opens cr p (.refresh d presented device) p' new token previous) := by
  rcases refresh_cases cr d p presented device with
    ⟨e, hrun⟩ | ⟨stored, hstored, hexpired, e, hrun⟩ |
    ⟨token, stored, user, rfl, hstored, hhash, -, -, huser, -, hactive, hrun⟩
  · rw [hrun] at hp'
    subst hp'
    refine ⟨grows_of_eq rfl rfl rfl, .inl ⟨_, closes_nothing rfl (.refl _) ?_ ?_⟩⟩
    · rintro token userId ⟨r, hr, -⟩
      rw [hrun] at hr
      cases hr
    · rintro token userId ⟨-, r, hr⟩
      rw [hrun] at hr
      cases hr
  · rw [hrun] at hp'
    subst hp'
    refine ⟨grows_of_eq rfl rfl rfl, .inl ⟨fun t => t.id = stored.id, rfl,
      fun u hu hactive _ => ⟨u, hu, rfl, hactive⟩, ?_, fun t ht _ hexpires token _ => ?_⟩⟩
    · rintro token userId ⟨r, hr, -⟩
      rw [hrun] at hr
      cases hr
    · -- the record that is removed has expired
      refine iff_of_false (fun hremoved => ?_) ?_
      · obtain rfl : t = stored := Collection.eq_of_docId ht hstored (of_decide_eq_true hremoved)
        exact absurd hexpires (not_le.2 hexpired)
      · rintro ⟨-, r, hr⟩
        rw [hrun] at hr
        cases hr
  · -- the presented session goes on under a new token, and no other session ends
    refine issueTokens_step (some stored) h hinj hd (.refl p.users) ⟨user, huser, rfl, hactive⟩
      (fun s hs => Option.some.inj hs ▸ hstored)
      (hp'.trans (congrArg Prod.snd hrun)) (fun token' userId => ?_) ?_ ?_
    · simp only [AccountAction.Issues, hrun]
    · rintro token' userId ⟨-, r, hr⟩
      exact ⟨r, hrun ▸ hr⟩
    · intro r hr t ht token' htoken'
      simp only [AccountAction.Ends, Option.some.injEq, Option.mem_some_iff, exists_eq_left']
      constructor
      · intro hid
        obtain rfl : t = stored := Collection.eq_of_docId ht hstored hid
        exact ⟨hinj (hhash.symm.trans htoken'), r, hrun ▸ hr⟩
      · rintro ⟨rfl, -⟩
        exact congrArg RefreshToken.id (Collection.eq_of_indexKey ht hstored
          (congrArg some htoken') (congrArg some hhash))

theorem logout_step (presented : Option String) (hp' : p' = (logout cr presented p).2)
    (h : Sound cr p) (hinj : Function.Injective cr.hashRefreshToken) :
    Grows p p' ∧ ∃ q, Closes cr p (.logout presented) p' q := by
  subst hp'
  unfold logout
  cases hpresented : presentedToken presented with
  | none =>
    -- only the empty token counts as none, and no session has it
    refine ⟨grows_of_eq rfl rfl rfl, fun _ => false, (delete_nothing _).symm,
      fun u hu hactive _ => ⟨u, hu, rfl, hactive⟩, fun _ _ => id,
      fun t ht _ _ token htoken => iff_of_false Bool.false_ne_true ?_⟩
    rintro rfl
    rw [presentedToken_eq_some.2 ⟨rfl, h.token_ne hinj ht htoken⟩] at hpresented
    cases hpresented
  | some token =>
    obtain ⟨rfl, -⟩ := presentedToken_eq_some.1 hpresented
    refine ⟨grows_of_eq rfl rfl rfl, fun t => t.tokenHash = cr.hashRefreshToken token, rfl,
      fun u hu hactive _ => ⟨u, hu, rfl, hactive⟩, fun _ _ => id, fun t _ _ _ token' htoken' => ?_⟩
    simp only [AccountAction.Ends, Option.some.injEq, decide_eq_true_eq, htoken']
    constructor
    · intro hhash
      exact (hinj hhash).symm
    · rintro rfl
      rfl

theorem resetPassword_step (salt : ℕ) (link newPassword : String)
    (hp' : p' = (resetPassword cr salt link newPassword p).2) :
    Grows p p' ∧ ∃ q, Closes cr p (.resetPassword salt link newPassword) p' q := by
  subst hp'
  rcases resetPassword_cases cr p salt link newPassword with
    ⟨e, hrun⟩ | ⟨user, huser, hlink, users, hkeeps, hrun⟩
  · rw [hrun]
    refine ⟨grows_of_eq rfl rfl rfl, _, closes_nothing rfl (.refl _) (fun _ _ => id) ?_⟩
    rintro token userId ⟨-, hr⟩
    rw [hrun] at hr
    cases hr
  · rw [hrun]
    refine ⟨grows_of_eq rfl rfl rfl, _, closes_account user.id rfl
      (fun u hu _ => hkeeps u hu) (fun _ _ => id) fun token id => ?_⟩
    simp only [AccountAction.Ends, hrun, hlink, Option.some.injEq]
    constructor
    · rintro rfl
      exact ⟨rfl, rfl⟩
    · rintro ⟨hid, -⟩
      exact hid.symm

theorem suspendUser_step (userId : ObjectId) (hp' : p' = (suspendUser userId p).2) :
    Grows p p' ∧ ∃ q, Closes cr p (.suspendUser userId) p' q := by
  subst hp'
  rcases suspendUser_cases p userId with ⟨e, hrun⟩ | ⟨suspended, users, hrun, hothers⟩
  · rw [hrun]
    refine ⟨grows_of_eq rfl rfl rfl, _, closes_nothing rfl (.refl _) (fun _ _ => id) ?_⟩
    rintro token id ⟨-, u, hu⟩
    rw [hrun] at hu
    cases hu
  · rw [hrun]
    refine ⟨grows_of_eq rfl rfl rfl, _, closes_account userId rfl
      (fun u hu hne hactive => ⟨u, hothers u hu hne, rfl, hactive⟩) (fun _ _ => id)
      fun token id => ?_⟩
    simp only [AccountAction.Ends, hrun]
    constructor
    · rintro rfl
      exact ⟨rfl, suspended, rfl⟩
    · rintro ⟨hid, -⟩
      exact hid.symm

theorem deleteUser_step (o : ObjectId → Oracle) (actor : Actor) (userId : ObjectId)
    (hp' : p' = (deleteUser o actor userId p).2) :
    Grows p p' ∧ ∃ q, Closes cr p (.deleteUser o actor userId) p' q := by
  subst hp'
  rcases deleteUser_cases o actor userId p with
    ⟨e, hrun⟩ | ⟨summary, p', hrun, husers, htokens, hnow, hids, hdrawn⟩
  · rw [hrun]
    refine ⟨grows_of_eq rfl rfl rfl, _, closes_nothing rfl (.refl _) (fun _ _ => id) ?_⟩
    rintro token id ⟨-, s, hs⟩
    rw [hrun] at hs
    cases hs
  · rw [hrun]
    refine ⟨grows_of_eq hnow hids hdrawn, _, closes_account userId htokens
      (fun u hu hne hactive => ⟨u, ?_, rfl, hactive⟩) (fun _ _ => id) fun token id => ?_⟩
    · show u ∈ p'.users
      rw [husers]
      exact Collection.mem_delete_decide.2 ⟨hu, hne⟩
    · simp only [AccountAction.Ends, hrun]
      constructor
      · rintro rfl
        exact ⟨rfl, summary, rfl⟩
      · rintro ⟨hid, -⟩
        exact hid.symm

/-- **What an action does**: it closes sessions, or opens one in place of the one it continues. -/
theorem account_step_cases (h : Sound cr p) (hinj : Function.Injective cr.hashRefreshToken)
    (hstep : (accounts cr).step p a = some p') :
    Grows p p' ∧ ((∃ q, Closes cr p a p' q) ∨
      ∃ new token previous, Opens cr p a p' new token previous) := by
  -- only a login and a refresh begin a session
  cases a with
  | login d input device =>
    obtain ⟨hd, hp'⟩ := Option.ite_none_right_eq_some.1 hstep
    exact login_step h hinj hd input (Option.some.inj hp').symm
  | refresh d presented device =>
    obtain ⟨hd, hp'⟩ := Option.ite_none_right_eq_some.1 hstep
    exact refresh_step h hinj hd presented (Option.some.inj hp').symm
  | logout presented =>
    exact (logout_step presented (Option.some.inj hstep).symm h hinj).imp_right .inl
  | resetPassword salt link newPassword =>
    exact (resetPassword_step salt link newPassword (Option.some.inj hstep).symm).imp_right .inl
  | suspendUser userId =>
    exact (suspendUser_step userId (Option.some.inj hstep).symm).imp_right .inl
  | reactivateUser userId =>
    obtain ⟨users, hkeeps, answer, hrun⟩ := reactivateUser_cases p userId
    obtain rfl := (Option.some.inj hstep).symm.trans (congrArg Prod.snd hrun)
    exact ⟨grows_of_eq rfl rfl rfl,
      .inl ⟨_, closes_nothing rfl hkeeps (fun _ _ => id) fun _ _ => id⟩⟩
  | deleteUser o actor userId =>
    exact (deleteUser_step o actor userId (Option.some.inj hstep).symm).imp_right .inl
  | expire tokenId =>
    obtain rfl := (Option.some.inj hstep).symm
    refine ⟨grows_of_eq rfl rfl rfl, .inl ⟨_, rfl, fun u hu hactive _ => ⟨u, hu, rfl, hactive⟩,
      fun _ _ => id, fun t _ _ hexpires token _ => ?_⟩⟩
    refine iff_of_false (fun hremoved => ?_) id
    exact absurd hexpires (not_le.2 (of_decide_eq_true hremoved).2)
  | advance ms =>
    obtain rfl := (Option.some.inj hstep).symm
    refine ⟨⟨Int.le_add_of_nonneg_right (Int.natCast_nonneg ms), List.Subset.refl _,
      List.Subset.refl _⟩, .inl ⟨_, closes_nothing rfl (.refl _) (fun _ _ => id) fun _ _ => id⟩⟩

/-! ### Steps -/

/-- **One step** keeps the invariant. -/
theorem sound_step (h : Sound cr p) (hinj : Function.Injective cr.hashRefreshToken)
    (hstep : (accounts cr).step p a = some p') : Sound cr p' := by
  obtain ⟨hgrows, ⟨q, hclose⟩ | ⟨new, token, previous, hopen⟩⟩ := account_step_cases h hinj hstep
  · -- sessions are only removed
    have hmem : ∀ t, t ∈ p'.refreshTokens ↔ t ∈ p.refreshTokens ∧ q t = false := by
      intro t
      rw [hclose.tokens, Collection.mem_delete]
    refine ⟨fun t ht => ?_, fun t ht => ?_, fun t ht => ?_⟩
    · obtain ⟨token, htoken, hhash⟩ := h.drawn t ((hmem t).1 ht).1
      exact ⟨token, hgrows.drawnTokens htoken, hhash⟩
    · exact hgrows.issuedIds (h.ids t ((hmem t).1 ht).1)
    · obtain ⟨hold, hkept⟩ := (hmem t).1 ht
      obtain ⟨u, hu, hid, hactive⟩ := h.active t hold
      obtain ⟨u', hu', hid', hactive'⟩ := hclose.active u hu hactive ⟨t, hold, hid.symm, hkept⟩
      exact ⟨u', hu', hid'.trans hid, hactive'⟩
  · -- a stored session is the new one, or a stored one before, possibly revoked
    have hcases : ∀ t ∈ p'.refreshTokens, t = new ∨ ∃ s ∈ p.refreshTokens,
        t.id = s.id ∧ t.tokenHash = s.tokenHash ∧ t.userId = s.userId := by
      intro t ht
      rcases (hopen.tokens t).1 ht with rfl | ⟨hold, -⟩ | ⟨s, hs, rfl⟩
      · exact .inl rfl
      · exact .inr ⟨t, hold, rfl, rfl, rfl⟩
      · exact .inr ⟨s, hopen.continues s hs, rfl, rfl, rfl⟩
    refine ⟨fun t ht => ?_, fun t ht => ?_, fun t ht => ?_⟩
    · rcases hcases t ht with rfl | ⟨s, hs, -, hhash, -⟩
      · exact ⟨token, hopen.drawn.1, hopen.drawn.2, hopen.hash⟩
      · obtain ⟨token', htoken', hhash'⟩ := h.drawn s hs
        exact ⟨token', hgrows.drawnTokens htoken', hhash ▸ hhash'⟩
    · rcases hcases t ht with rfl | ⟨s, hs, hid, -, -⟩
      · exact hopen.issuedId
      · exact hid ▸ hgrows.issuedIds (h.ids s hs)
    · rcases hcases t ht with rfl | ⟨s, hs, -, -, huser⟩
      · exact hopen.user
      · obtain ⟨u, hu, hid, hactive⟩ := h.active s hs
        obtain ⟨u', hu', hid', hactive'⟩ := hopen.keeps u hu hactive
        exact ⟨u', hu', hid'.trans (hid.trans huser.symm), hactive'⟩

/-- **One step** of a token's history: its session is open after a step exactly when the step opens
it, or it was open and the step does not end it. -/
theorem held_step {token : String} {userId : ObjectId} {issuedAt : ℤ} (h : Sound cr p)
    (hinj : Function.Injective cr.hashRefreshToken) (hstep : (accounts cr).step p a = some p')
    (hexpires : p'.world.now ≤ issuedAt + refreshTokenTtlMs) :
    Held cr token userId issuedAt p' ↔
      (p.world.now = issuedAt ∧ a.Issues cr token userId p) ∨
        Held cr token userId issuedAt p ∧ ¬ a.Ends cr token userId p := by
  obtain ⟨hgrows, ⟨q, hclose⟩ | ⟨new, fresh, previous, hopen⟩⟩ := account_step_cases h hinj hstep
  · -- sessions are only removed
    have hmem : ∀ t, t ∈ p'.refreshTokens ↔ t ∈ p.refreshTokens ∧ q t = false := by
      intro t
      rw [hclose.tokens, Collection.mem_delete]
    constructor
    · rintro ⟨t, ht, hhash, rfl, ht', hrevoked⟩
      obtain ⟨hold, hkept⟩ := (hmem t).1 ht
      refine .inr ⟨⟨t, hold, hhash, rfl, ht', hrevoked⟩, fun hends => ?_⟩
      have hq := (hclose.ends t hold hrevoked (ht'.symm ▸ hexpires) token hhash).2 hends
      exact absurd (hkept.symm.trans hq) Bool.false_ne_true
    · rintro (⟨-, hissues⟩ | ⟨⟨t, hold, hhash, rfl, ht', hrevoked⟩, hends⟩)
      · exact absurd hissues (hclose.issues token userId)
      · refine ⟨t, (hmem t).2 ⟨hold, ?_⟩, hhash, rfl, ht', hrevoked⟩
        have hiff := hclose.ends t hold hrevoked (ht'.symm ▸ hexpires) token hhash
        exact Bool.eq_false_iff.2 fun hq => hends (hiff.1 hq)
  · -- a session begins; the token is the new one, or it was held before
    constructor
    · rintro ⟨t, ht, hhash, rfl, ht', hrevoked⟩
      rcases (hopen.tokens t).1 ht with rfl | ⟨hold, hother⟩ | ⟨s, -, rfl⟩
      · have htoken : token = fresh := hinj (hhash.symm.trans hopen.hash)
        exact .inl ⟨by have := hopen.expiresAt; omega,
          (hopen.issues token t.userId).2 ⟨htoken, rfl⟩⟩
      · refine .inr ⟨⟨t, hold, hhash, rfl, ht', hrevoked⟩, fun hends => ?_⟩
        obtain ⟨s, hs, hid⟩ := (hopen.ends t hold token hhash).2 hends
        exact hother s hs hid
      · cases hrevoked
    · rintro (⟨rfl, hissues⟩ | ⟨⟨t, hold, hhash, rfl, ht', hrevoked⟩, hends⟩)
      · obtain ⟨rfl, rfl⟩ := (hopen.issues token userId).1 hissues
        exact ⟨new, (hopen.tokens new).2 (.inl rfl), hopen.hash, rfl, hopen.expiresAt,
          hopen.revokedAt⟩
      · refine ⟨t, (hopen.tokens t).2 (.inr (.inl ⟨hold, fun s hs hid => ?_⟩)), hhash, rfl, ht',
          hrevoked⟩
        exact hends ((hopen.ends t hold token hhash).1 ⟨s, hs, hid⟩)

theorem sound_run {as : List AccountAction} (hinj : Function.Injective cr.hashRefreshToken)
    (hnone : ∀ t, t ∉ p.refreshTokens) (hrun : (accounts cr).run p as = some p') : Sound cr p' :=
  Machine.run_invariant' (I := Sound cr) (fun _ _ _ hI hstep => sound_step hI hinj hstep)
    ⟨fun t ht => absurd ht (hnone t), fun t ht => absurd ht (hnone t),
      fun t ht => absurd ht (hnone t)⟩ hrun

/-! ### Acceptance -/

/-- The token is accepted from the device. -/
def Accepts (cr : Crypto) (d : Draw) (token : String) (device : DeviceContext) (p : Platform) :
    Prop := (refresh cr d (some token) device p).1.isOk = true

instance (cr : Crypto) (d : Draw) (token : String) (device : DeviceContext) (p : Platform) :
    Decidable (Accepts cr d token device p) := inferInstanceAs (Decidable (_ = true))

theorem accepts_iff_held {token : String} (h : Sound cr p)
    (hinj : Function.Injective cr.hashRefreshToken) (hd : d.Fresh p) :
    Accepts cr d token device p ↔ device.Fits ∧ ∃ userId issuedAt,
      p.world.now ≤ issuedAt + refreshTokenTtlMs ∧ Held cr token userId issuedAt p := by
  -- what is left of a refresh fails for the device alone
  have hissue : ∀ {stored : RefreshToken} {user : User}, stored ∈ p.refreshTokens →
      ((issueTokens cr d user device (some stored) p).1.isOk = true ↔ device.Fits) := by
    intro stored user hstored
    rcases issueTokens_cases user device (some stored)
      (fun s hs => Option.some.inj hs ▸ hstored) (h.fresh hinj hd) with
      ⟨hfits, hrun⟩ | ⟨hfits, c, hrun, -⟩
    · rw [hrun]
      exact iff_of_false Bool.false_ne_true hfits
    · rw [hrun]
      exact iff_of_true rfl hfits
  constructor
  · intro haccepts
    rcases refresh_cases cr d p (some token) device with
      ⟨e, hrun⟩ | ⟨stored, -, -, e, hrun⟩ |
      ⟨token', stored, user, htoken, hstored, hhash, hopen, hexpires, huser, hid, -, hrun⟩
    · rw [Accepts, hrun] at haccepts
      cases haccepts
    · rw [Accepts, hrun] at haccepts
      cases haccepts
    · obtain rfl : token = token' := Option.some.inj htoken
      rw [Accepts, hrun] at haccepts
      refine ⟨(hissue hstored).1 haccepts, stored.userId, stored.expiresAt - refreshTokenTtlMs,
        by omega, stored, hstored, hhash, rfl, by omega, hopen⟩
  · rintro ⟨hfits, userId, issuedAt, hexpires, stored, hstored, hhash, rfl, hexpiresAt, hopen⟩
    obtain ⟨user, huser, hid, hactive⟩ := h.active stored hstored
    rw [Accepts, refresh_of_open (h.token_ne hinj hstored hhash) hstored hhash hopen
      (hexpiresAt ▸ hexpires) huser hid hactive]
    exact (hissue hstored).2 hfits

theorem accepts_iff_since {as : List AccountAction}
    (hinj : Function.Injective cr.hashRefreshToken) (hnone : ∀ t, t ∉ p.refreshTokens)
    (hrun : (accounts cr).run p as = some p') (hd : d.Fresh p') (token : String)
    (device : DeviceContext) :
    Accepts cr d token device p' ↔ device.Fits ∧ LiveByHistory cr token p as p'.world.now := by
  rw [accepts_iff_held (sound_run hinj hnone hrun) hinj hd]
  refine and_congr_right fun _ => exists_congr fun userId => exists_congr fun issuedAt =>
    and_congr_right fun hexpires => ?_
  refine Machine.run_since (J := Sound cr)
    (C := fun p => p.world.now ≤ issuedAt + refreshTokenTtlMs) (fun t a t' hJ hstep => ?_)
    (fun ⟨t, ht, _⟩ => hnone t ht) (sound_run hinj hnone (Machine.run_nil p)) hrun hexpires
  refine ⟨sound_step hJ hinj hstep, fun hC => ⟨?_, held_step hJ hinj hstep hC⟩⟩
  exact (account_step_cases hJ hinj hstep).1.now.trans hC

theorem refresh_now (h : Sound cr p) (hinj : Function.Injective cr.hashRefreshToken)
    (hd : d.Fresh p) (presented : Option String) (device : DeviceContext) :
    (refresh cr d presented device p).2.world.now = p.world.now := by
  rcases refresh_cases cr d p presented device with
    ⟨e, hrun⟩ | ⟨stored, -, -, e, hrun⟩ | ⟨-, stored, user, -, hstored, -, -, -, -, -, -, hrun⟩
  · rw [hrun]
    rfl
  · rw [hrun]
    rfl
  · rcases issueTokens_cases user device (some stored)
      (fun s hs => Option.some.inj hs ▸ hstored) (h.fresh hinj hd) with
      ⟨-, hissue⟩ | ⟨-, c, hissue, -⟩
    · rw [hrun, hissue]
      rfl
    · rw [hrun, hissue]
      rfl

theorem accepts_of_refused {token : String} (h : Sound cr p)
    (hinj : Function.Injective cr.hashRefreshToken) (hd : d.Fresh p)
    (hrefused : ¬ Accepts cr d token device p) {next : Draw} (token' : String)
    (device' : DeviceContext) (hnext : next.Fresh (refresh cr d (some token) device p).2) :
    Accepts cr next token' device' (refresh cr d (some token) device p).2 ↔
      Accepts cr next token' device' p := by
  have hstep : (accounts cr).step p (.refresh d (some token) device) =
      some (refresh cr d (some token) device p).2 := if_pos hd
  have hgrows := (account_step_cases h hinj hstep).1
  have hnever : ¬ ∃ r, (refresh cr d (some token) device p).1 = .ok r := by
    rintro ⟨r, hr⟩
    exact hrefused (by rw [Accepts, hr]; rfl)
  have hfresh : next.Fresh p := ⟨fun hid => hnext.newId (hgrows.issuedIds hid),
    fun htoken => hnext.rawRefreshToken (hgrows.drawnTokens htoken), hnext.length⟩
  have hnow := refresh_now h hinj hd (some token) device
  rw [accepts_iff_held (sound_step h hinj hstep) hinj hnext, accepts_iff_held h hinj hfresh, hnow]
  refine and_congr_right fun _ => exists_congr fun userId => exists_congr fun issuedAt =>
    and_congr_right fun hexpires => ?_
  rw [held_step h hinj hstep (hnow ▸ hexpires)]
  constructor
  · rintro (⟨-, r, hr, -⟩ | ⟨hheld, -⟩)
    · exact absurd ⟨r, hr⟩ hnever
    · exact hheld
  · exact fun hheld => .inr ⟨hheld, fun hends => hnever hends.2⟩

/-- **Which tokens are accepted.**  In every serial history from a state without sessions, a token
is accepted from a device exactly when the device fits, the token was handed out at most a lifetime
ago, and no step since has ended its session; and a refresh that is refused changes the acceptance
of no token. -/
theorem refresh_accepts_iff {as : List AccountAction}
    (hinj : Function.Injective cr.hashRefreshToken) (hnone : ∀ t, t ∉ p.refreshTokens)
    (hrun : (accounts cr).run p as = some p') (hd : d.Fresh p') (token : String)
    (device : DeviceContext) :
    (Accepts cr d token device p' ↔ device.Fits ∧ LiveByHistory cr token p as p'.world.now) ∧
    (¬ Accepts cr d token device p' → ∀ next token' device',
      Draw.Fresh next (refresh cr d (some token) device p').2 →
        (Accepts cr next token' device' (refresh cr d (some token) device p').2 ↔
          Accepts cr next token' device' p')) :=
  ⟨accepts_iff_since hinj hnone hrun hd token device, fun hrefused _ token' device' hnext =>
    accepts_of_refused (sound_run hinj hnone hrun) hinj hd hrefused token' device' hnext⟩

end Actions

/-! ### Histories of one client -/

/-- The client logs in, and the phone refreshes a day later. -/
def refreshedOnce : List AccountAction :=
  [.login ⟨10, firstToken⟩ ⟨"Client@example.com", "consult2026"⟩ phone,
    .advance (24 * 60 * 60 * 1000),
    .refresh ⟨11, secondToken⟩ (some firstToken) phone]

theorem refreshedOnce_isSome :
    ((accounts sampleCrypto).run clientPlatform refreshedOnce).isSome = true := by
  decide +kernel

theorem refreshedOnce_works :
    let p := ((accounts sampleCrypto).run clientPlatform refreshedOnce).get refreshedOnce_isSome
    Draw.Fresh ⟨12, thirdToken⟩ p ∧ ¬ Accepts sampleCrypto ⟨12, thirdToken⟩ firstToken phone p ∧
      Accepts sampleCrypto ⟨12, thirdToken⟩ secondToken phone p := by
  decide +kernel

/-- Only the second token is accepted then. -/
theorem refresh_accepts_iff_refreshed :
    let p := ((accounts sampleCrypto).run clientPlatform refreshedOnce).get refreshedOnce_isSome
    ¬ Accepts sampleCrypto ⟨12, thirdToken⟩ firstToken phone p ∧
      LiveByHistory sampleCrypto secondToken clientPlatform refreshedOnce p.world.now :=
  have ⟨hfresh, hfirst, hsecond⟩ := refreshedOnce_works
  ⟨hfirst, ((refresh_accepts_iff sampleDigest.injective Collection.not_mem_empty
    (Option.some_get refreshedOnce_isSome).symm hfresh secondToken phone).1.1 hsecond).2⟩

/-- The client logs in. -/
def loggedIn : List AccountAction :=
  [.login ⟨10, firstToken⟩ ⟨"client@example.com", "consult2026"⟩ phone]

theorem loggedIn_isSome :
    ((accounts sampleCrypto).run clientPlatform loggedIn).isSome = true := by
  decide +kernel

theorem loggedIn_works :
    let p := ((accounts sampleCrypto).run clientPlatform loggedIn).get loggedIn_isSome
    Draw.Fresh ⟨11, secondToken⟩ p ∧
      Accepts sampleCrypto ⟨11, secondToken⟩ firstToken phone p := by
  decide +kernel

/-- **Not every device is served.**  A browser with a long description presents the token of a login
and is refused. -/
theorem not_refresh_accepts_iff :
    ¬ ∀ (cr : Crypto) (p p' : Platform) (as : List AccountAction) (d : Draw) (token : String)
      (device : DeviceContext), Function.Injective cr.hashRefreshToken →
      (∀ t, t ∉ p.refreshTokens) → (accounts cr).run p as = some p' → d.Fresh p' →
      (Accepts cr d token device p' ↔ LiveByHistory cr token p as p'.world.now) ∧
      (¬ Accepts cr d token device p' → ∀ next token' device', token' ≠ token →
        Draw.Fresh next (refresh cr d (some token) device p').2 →
          (Accepts cr next token' device' (refresh cr d (some token) device p').2 ↔
            Accepts cr next token' device' p')) := by
  intro h
  have hrun := (Option.some_get loggedIn_isSome).symm
  obtain ⟨hfresh, hphone⟩ := loggedIn_works
  have hiff := accepts_iff_since sampleDigest.injective Collection.not_mem_empty hrun hfresh
    firstToken
  have hlive := ((hiff phone).1 hphone).2
  have haccepts := (h sampleCrypto clientPlatform _ loggedIn _ firstToken wordyBrowser
    sampleDigest.injective Collection.not_mem_empty hrun hfresh).1.2 hlive
  exact wordyBrowser_not_fits ((hiff wordyBrowser).1 haccepts).1

end HrBooking
