import HrBooking.Account.Session
import HrBooking.Machine.Parties

/-!
# How often a refresh token is redeemed

Refreshes that present the same token run at the same time, one database command after another.  The
record is read once, at the beginning, and revoked at the end without another look at it, so two
refreshes that have both read it both open a session.

* `RefreshStage` : the next command of a refresh in flight.
* `rotation` : any number of refreshes over one store.
* `refresh_alone` : a refresh that runs alone does what the call does.
* `InsertsAlone` : a session is inserted while the presented one is not revoked and no other refresh
  is about to revoke it.
* `redeemed_once_iff` : the token is redeemed at most once exactly when every insert is alone.
* `not_redeemed_once` : it can be redeemed twice.
-/

namespace HrBooking

/-- The next command of a refresh in flight. -/
inductive RefreshStage where
  /-- `RefreshToken.findOne` -/
  | findToken (token : String) (device : DeviceContext)
  /-- `RefreshToken.deleteOne` of a record that has expired -/
  | dropExpired (stored : RefreshToken)
  /-- `User.findById` -/
  | findUser (stored : RefreshToken) (device : DeviceContext)
  /-- `RefreshToken.create` -/
  | insert (user : User) (stored : RefreshToken) (device : DeviceContext)
  /-- `previous.save()` of the revocation, with what is going to be answered -/
  | save (result : AuthResult) (stored : RefreshToken) (now : ℤ) (tokenHash : String)

/-- A party that refreshes. -/
inductive RefreshProc where
  | idle
  | running (stage : RefreshStage)
  | done (answer : Except AppError AuthResult)

namespace RefreshProc

/-- Go on, or end with an error. -/
def andThen {α : Type} (p : Platform) (x : Except AppError α) (next : α → RefreshStage) :
    Platform × RefreshProc :=
  match x with
  | .ok a => (p, running (next a))
  | .error e => (p, done (.error e))

end RefreshProc

open RefreshProc

/-- Issue the next command of a refresh. -/
def RefreshStage.exec (cr : Crypto) (d : Draw) (p : Platform) :
    RefreshStage → Platform × RefreshProc
  | findToken token device =>
    andThen p (unrevoked (p.refreshTokens.findByKey (cr.hashRefreshToken token))) fun stored =>
      if stored.expiresAt < p.world.now then .dropExpired stored else .findUser stored device
  | dropExpired stored =>
    (p.removeToken stored.id, done (.error (.unauthorized "Refresh token has expired.")))
  | findUser stored device =>
    andThen p (stillActive (p.users.findById stored.userId)) fun user =>
      .insert user stored device
  | insert user stored device =>
    let created := createRefreshToken cr d user.id device p
    andThen created.2 created.1 fun _ =>
      .save (authResult cr d user p.world.now) stored p.world.now
        (cr.hashRefreshToken d.rawRefreshToken)
  | save result stored now tokenHash =>
    let saved := saveRevoked stored now tokenHash p
    (saved.2, done (saved.1.map fun _ => result))

/-- A refresh as it arrives: the token that is presented, and the device. -/
abbrev RefreshRequest := Option String × DeviceContext

/-- Any number of refreshes over one store, while time passes. -/
def rotation (cr : Crypto) : Program Platform RefreshProc RefreshRequest Draw ℕ where
  isIdle
    | idle => true
    | _ => false
  start request p :=
    match presentedToken request.1 with
    | none => some (p, done (.error (.unauthorized "Missing refresh token.")))
    | some token => some (p, running (.findToken token request.2))
  exec d p
    | running stage => some (stage.exec cr d p)
    | _ => none
  surroundings ms p := some (p.advance ms)

/-- The state of the refreshes. -/
abbrev Rotation (R : Type) := Parties R Platform RefreshProc

/-- An action of the refreshes. -/
abbrev RotationAction (R : Type) := PartyAction R RefreshRequest Draw ℕ

namespace RefreshProc

/-- The refresh is not in flight. -/
def isAtRest : RefreshProc → Bool
  | running _ => false
  | _ => true

/-- The refresh has opened a session and not yet revoked the one that was presented. -/
def isSaving : RefreshProc → Bool
  | running (.save ..) => true
  | _ => false

/-- The refresh has returned tokens. -/
def hasReturned : RefreshProc → Bool
  | done (.ok _) => true
  | _ => false

/-- The insert a refresh is going to make. -/
def inserts : RefreshProc → Option (ObjectId × DeviceContext)
  | running (.insert user _ device) => some (user.id, device)
  | _ => none

end RefreshProc

/-- **A refresh that runs alone** does what the call does. -/
theorem refresh_alone (cr : Crypto) (d : Draw) (token : String) (device : DeviceContext)
    (p : Platform) (htoken : token ≠ "") :
    (rotation cr).Alone d (p, running (.findToken token device))
      ((refresh cr d (some token) device p).2, done (refresh cr d (some token) device p).1) := by
  have hpresented : presentedToken (some token) = some token :=
    presentedToken_eq_some.2 ⟨rfl, htoken⟩
  have hexec : ∀ (p : Platform) (stage : RefreshStage) (y : Platform × RefreshProc),
      stage.exec cr d p = y → (rotation cr).exec d p (running stage) = some y :=
    fun _ _ _ h => congrArg some h
  unfold refresh
  rw [hpresented]
  simp only [Platform.answer]
  -- each branch of the call is as many commands of the request
  cases hfound : unrevoked (p.refreshTokens.findByKey (cr.hashRefreshToken token)) with
  | error e =>
    refine .single (hexec _ _ _ ?_)
    simp only [RefreshStage.exec, hfound, RefreshProc.andThen, Answer.andThen]
  | ok stored =>
    simp only [Answer.andThen]
    split_ifs with hexpired
    · refine .head (b := (p, running (.dropExpired stored))) (hexec _ _ _ ?_)
        (.single (hexec _ _ _ rfl))
      simp only [RefreshStage.exec, hfound, RefreshProc.andThen, if_pos hexpired]
    · refine .head (b := (p, running (.findUser stored device))) (hexec _ _ _ ?_) ?_
      · simp only [RefreshStage.exec, hfound, RefreshProc.andThen, if_neg hexpired]
      cases huser : stillActive (p.users.findById stored.userId) with
      | error e =>
        refine .single (hexec _ _ _ ?_)
        simp only [RefreshStage.exec, huser, RefreshProc.andThen]
      | ok user =>
        refine .head (b := (p, running (.insert user stored device))) (hexec _ _ _ ?_) ?_
        · simp only [RefreshStage.exec, huser, RefreshProc.andThen]
        simp only [issueTokens]
        cases hcreate : createRefreshToken cr d user.id device p with
        | mk answer p' =>
          cases answer with
          | error e =>
            refine .single (hexec _ _ _ ?_)
            simp only [RefreshStage.exec, hcreate, RefreshProc.andThen, Answer.andThen]
          | ok =>
            -- the record is revoked at the time that is read before the insertion, which takes none
            have hnow : p'.world.now = p.world.now := by
              rw [← createRefreshToken_now cr d user.id device p, hcreate]
            refine .head (b := (p', running (.save (authResult cr d user p.world.now) stored
              p.world.now (cr.hashRefreshToken d.rawRefreshToken)))) (hexec _ _ _ ?_)
              (.single (hexec _ _ _ ?_))
            · simp only [RefreshStage.exec, hcreate, RefreshProc.andThen]
            · simp only [RefreshStage.exec, Answer.andThen, hnow]
              cases saveRevoked stored p.world.now (cr.hashRefreshToken d.rawRefreshToken) p' with
              | mk saved p'' => cases saved <;> rfl

section Conditions

variable {R : Type}

/-- No refresh is in flight. -/
def Rotation.Quiescent (s : Rotation R) : Prop := ∀ r, (s.procs r).isAtRest = true

/-- The session of the token is not revoked. -/
def NotRevoked (tokenHash : String) (p : Platform) : Prop :=
  ∀ t ∈ p.refreshTokens, t.tokenHash = tokenHash → t.revokedAt = none

instance (tokenHash : String) (p : Platform) : Decidable (NotRevoked tokenHash p) :=
  inferInstanceAs (Decidable (∀ t ∈ p.refreshTokens.docs, _))

/-- The session of the token has not expired. -/
def Unexpired (tokenHash : String) (p : Platform) : Prop :=
  ∀ t ∈ p.refreshTokens, t.tokenHash = tokenHash → p.world.now ≤ t.expiresAt

instance (tokenHash : String) (p : Platform) : Decidable (Unexpired tokenHash p) :=
  inferInstanceAs (Decidable (∀ t ∈ p.refreshTokens.docs, _))

/-- The steps of refreshes that present one valid token. -/
def PresentsValid (cr : Crypto) (token : String) (s : Rotation R) (a : RotationAction R) : Prop :=
  a.OnStart (fun request => request.1 = some token) ∧
    Unexpired (cr.hashRefreshToken token) s.shared

instance (cr : Crypto) (token : String) (s : Rotation R) (a : RotationAction R) :
    Decidable (PresentsValid cr token s a) := inferInstanceAs (Decidable (_ ∧ _))

/-- When a session is inserted, the presented one is not revoked and no other refresh is about to
revoke it. -/
def InsertsAlone (cr : Crypto) (token : String) (s : Rotation R) (a : RotationAction R) : Prop :=
  a.OnExec fun r d => ∀ x ∈ (s.procs r).inserts, x.2.Fits →
    (s.shared.refreshTokens.insert
      (newRefreshToken cr d x.1 x.2 s.shared.world.now)).isSome = true →
    NotRevoked (cr.hashRefreshToken token) s.shared ∧ s.Nobody isSaving

instance [Fintype R] (cr : Crypto) (token : String) (s : Rotation R) (a : RotationAction R) :
    Decidable (InsertsAlone cr token s a) := inferInstanceAs (Decidable (a.OnExec _))

/-- The sessions opened since `p`, without those that were revoked. -/
def descendants (p p' : Platform) : List RefreshToken :=
  p'.refreshTokens.docs.filter fun t =>
    t.revokedAt = none ∧ p.refreshTokens.findByKey t.tokenHash = none

/-- The token is valid: its session is stored, not revoked and not expired. -/
def ValidToken (cr : Crypto) (token : String) (p : Platform) : Prop :=
  token ≠ "" ∧ ∃ t ∈ p.refreshTokens, t.tokenHash = cr.hashRefreshToken token ∧
    t.revokedAt = none ∧ p.world.now ≤ t.expiresAt ∧
    ∃ u ∈ p.users, u.id = t.userId ∧ u.status = .active

end Conditions

/-! ### What an action does -/

/-- What a refresh holds of the session it continues. -/
def RefreshProc.Holds (token : String) (tokenId : ObjectId) : RefreshProc → Prop
  | running (.findToken token' _) => token' = token
  | running (.dropExpired _) => False
  | running (.findUser stored _) | running (.insert _ stored _) => stored.id = tokenId
  | running (.save _ stored _ _) => stored.id = tokenId
  | _ => True

section Steps

variable {R : Type} [DecidableEq R] {cr : Crypto} {token : String} {p : Platform}
  {tokenId : ObjectId} {s s' : Rotation R} {a : RotationAction R}

/-- The presented session is stored, every refresh in flight is of it, and no session that was
stored at the beginning is gone. -/
structure Rotating (cr : Crypto) (token : String) (tokenId : ObjectId) (p : Platform)
    (s : Rotation R) : Prop where
  procs : ∀ r, (s.procs r).Holds token tokenId
  stored : ∃ t ∈ s.shared.refreshTokens, t.id = tokenId ∧
    t.tokenHash = cr.hashRefreshToken token
  presented : ∃ t ∈ p.refreshTokens, t.tokenHash = cr.hashRefreshToken token
  kept : ∀ t ∈ p.refreshTokens, ∃ t' ∈ s.shared.refreshTokens, t'.tokenHash = t.tokenHash

/-- What an action does to the sessions. -/
inductive RotationStep (cr : Crypto) (tokenId : ObjectId) (s : Rotation R) :
    RotationAction R → Rotation R → Prop
  | quiet {a : RotationAction R} {s' : Rotation R}
      (htokens : s'.shared.refreshTokens = s.shared.refreshTokens)
      (hsaving : ∀ r, (s'.procs r).isSaving = (s.procs r).isSaving)
      (hreturned : ∀ r, (s'.procs r).hasReturned = (s.procs r).hasReturned) :
      RotationStep cr tokenId s a s'
  | inserted {r : R} {d : Draw} {userId : ObjectId} {device : DeviceContext} {w : Platform}
      {p : RefreshProc} (hinserts : (s.procs r).inserts = some (userId, device))
      (hfits : device.Fits) (hins : s.shared.refreshTokens.insert
        (newRefreshToken cr d userId device s.shared.world.now) = some w.refreshTokens)
      (hp : p.isSaving = true) : RotationStep cr tokenId s (.exec r d) (s.put r w p)
  | saved {r : R} {d : Draw} {now : ℤ} {tokenHash : String} {w : Platform} {p : RefreshProc}
      (hsaving : (s.procs r).isSaving = true)
      (hupd : s.shared.refreshTokens.update tokenId (fun t => t.revoke now tokenHash) =
        some w.refreshTokens)
      (hp : p.isSaving = false) : RotationStep cr tokenId s (.exec r d) (s.put r w p)

theorem RotationStep.of_quiet {r : R} {w : Platform} {q : RefreshProc}
    (htokens : w.refreshTokens = s.shared.refreshTokens)
    (hsaving : q.isSaving = (s.procs r).isSaving)
    (hreturned : q.hasReturned = (s.procs r).hasReturned) :
    RotationStep cr tokenId s a (s.put r w q) := by
  refine .quiet htokens (fun r' => ?_) fun r' => ?_
  · by_cases h : r' = r
    · rw [h, Parties.put_procs_self, hsaving]
    · rw [Parties.put_procs_of_ne h]
  · by_cases h : r' = r
    · rw [h, Parties.put_procs_self, hreturned]
    · rw [Parties.put_procs_of_ne h]

omit [DecidableEq R] in
theorem Rotating.id_eq (h : Rotating cr token tokenId p s) {t : RefreshToken}
    (ht : t ∈ s.shared.refreshTokens) (hhash : t.tokenHash = cr.hashRefreshToken token) :
    t.id = tokenId := by
  obtain ⟨t', ht', hid, hhash'⟩ := h.stored
  obtain rfl : t = t' := Collection.eq_of_indexKey ht ht' (congrArg some hhash)
    (congrArg some hhash')
  exact hid

/-- **A command** of a refresh. -/
theorem rotation_exec_cases {r : R} {d : Draw} {w : Platform} {q : RefreshProc}
    (h : Rotating cr token tokenId p s)
    (hunexpired : Unexpired (cr.hashRefreshToken token) s.shared)
    (he : (rotation cr).exec d s.shared (s.procs r) = some (w, q)) :
    RotationStep cr tokenId s (.exec r d) (s.put r w q) ∧ q.Holds token tokenId := by
  have hholds := h.procs r
  cases hproc : s.procs r with
  | idle | done =>
    rw [hproc] at he
    cases he
  | running stage =>
    rw [hproc] at he hholds
    have hexec : stage.exec cr d s.shared = (w, q) := Option.some.inj he
    -- a command that writes no token changes nothing that is counted
    have hquiet : ∀ {q' : RefreshProc}, q'.isSaving = false → q'.hasReturned = false →
        (running stage).isSaving = false → ∀ {w' : Platform},
        w'.refreshTokens = s.shared.refreshTokens →
        RotationStep cr tokenId s (.exec r d) (s.put r w' q') := by
      intro q' hsaving hreturned hstage w' htokens
      exact .of_quiet htokens (hsaving.trans (by rw [hproc, hstage]))
        (hreturned.trans (by rw [hproc]; rfl))
    cases stage with
    | findToken token' device =>
      obtain rfl : token' = token := hholds
      simp only [RefreshStage.exec] at hexec
      cases hfound : unrevoked
          (s.shared.refreshTokens.findByKey (cr.hashRefreshToken token')) with
      | error e =>
        rw [hfound] at hexec
        cases hexec
        exact ⟨hquiet rfl rfl rfl rfl, trivial⟩
      | ok stored =>
        obtain ⟨hfind, -⟩ := unrevoked_eq_ok.1 hfound
        obtain ⟨hmem, hhash⟩ := Collection.findByKey_eq_some.1 hfind
        have hexpires := hunexpired stored hmem (Option.some.inj hhash)
        simp only [hfound, RefreshProc.andThen, if_neg (not_lt.2 hexpires)] at hexec
        cases hexec
        exact ⟨hquiet rfl rfl rfl rfl, h.id_eq hmem (Option.some.inj hhash)⟩
    | dropExpired stored => cases hholds
    | findUser stored device =>
      simp only [RefreshStage.exec] at hexec
      cases hfound : stillActive (s.shared.users.findById stored.userId) with
      | error e =>
        rw [hfound] at hexec
        cases hexec
        exact ⟨hquiet rfl rfl rfl rfl, trivial⟩
      | ok user =>
        rw [hfound] at hexec
        cases hexec
        exact ⟨hquiet rfl rfl rfl rfl, hholds⟩
    | insert user stored device =>
      simp only [RefreshStage.exec, createRefreshToken] at hexec
      split_ifs at hexec with hfits
      · cases hins : s.shared.refreshTokens.insert
            (newRefreshToken cr d user.id device s.shared.world.now) with
        | none =>
          rw [hins] at hexec
          cases hexec
          exact ⟨hquiet rfl rfl rfl rfl, trivial⟩
        | some c =>
          rw [hins] at hexec
          cases hexec
          exact ⟨.inserted (by rw [hproc]; rfl) hfits hins rfl, hholds⟩
      · cases hexec
        exact ⟨hquiet rfl rfl rfl rfl, trivial⟩
    | save result stored now tokenHash =>
      -- the presented token is still stored, so its save goes through
      obtain ⟨t, ht, hid, -⟩ := h.stored
      have hstored : stored.id = t.id := Eq.trans hholds hid.symm
      obtain ⟨c, hupd, -⟩ := Collection.update_of_mem
        (f := fun t : RefreshToken => t.revoke now tokenHash) ht rfl rfl
      have hfind : s.shared.refreshTokens.findById t.id = some t := Collection.findById_of_mem ht
      have hupd' : s.shared.refreshTokens.update t.id (fun t => t.revoke now tokenHash) = some c :=
        hupd
      simp only [RefreshStage.exec, saveRevoked, hstored, hfind, hupd'] at hexec
      cases hexec
      exact ⟨.saved (by rw [hproc]; rfl) (hid ▸ hupd') rfl, trivial⟩

theorem rotation_step_cases (h : Rotating cr token tokenId p s)
    (hpresents : PresentsValid cr token s a) (hstep : Program.Step (rotation cr) s a s') :
    RotationStep cr tokenId s a s' ∧ ∀ r, (s'.procs r).Holds token tokenId := by
  obtain ⟨hstart, hunexpired⟩ := hpresents
  cases hstep with
  | @start r request w q hidle hs =>
    have hrest : (s.procs r).isSaving = false ∧ (s.procs r).hasReturned = false := by
      cases hq : s.procs r with
      | idle => exact ⟨rfl, rfl⟩
      | running | done =>
        rw [hq] at hidle
        cases hidle
    obtain ⟨presented, device⟩ := request
    obtain rfl : presented = some token := hstart
    cases hpresented : presentedToken (some token) with
    | none =>
      simp only [rotation, hpresented] at hs
      cases hs
      exact ⟨.of_quiet rfl hrest.1.symm hrest.2.symm, Parties.forall_put trivial fun r' _ =>
        h.procs r'⟩
    | some token' =>
      obtain ⟨htoken, -⟩ := presentedToken_eq_some.1 hpresented
      simp only [rotation, hpresented] at hs
      cases hs
      exact ⟨.of_quiet rfl hrest.1.symm hrest.2.symm,
        Parties.forall_put (Option.some.inj htoken).symm fun r' _ => h.procs r'⟩
  | surroundings hs =>
    obtain rfl := Option.some.inj hs
    exact ⟨.quiet rfl (fun _ => rfl) fun _ => rfl, h.procs⟩
  | @exec r d w q he =>
    obtain ⟨hcases, hholds⟩ := rotation_exec_cases h hunexpired he
    exact ⟨hcases, Parties.forall_put hholds fun r' _ => h.procs r'⟩

theorem rotating_step (h : Rotating cr token tokenId p s)
    (hpresents : PresentsValid cr token s a) (hstep : Program.Step (rotation cr) s a s') :
    Rotating cr token tokenId p s' := by
  obtain ⟨hcases, hprocs⟩ := rotation_step_cases h hpresents hstep
  have hkeeps : ∀ t ∈ s.shared.refreshTokens, ∃ t' ∈ s'.shared.refreshTokens,
      t'.id = t.id ∧ t'.tokenHash = t.tokenHash := by
    intro t ht
    cases hcases with
    | quiet htokens =>
      rw [htokens]
      exact ⟨t, ht, rfl, rfl⟩
    | inserted _ _ hins => exact ⟨t, (Collection.mem_insert hins).2 (.inl ht), rfl, rfl⟩
    | @saved r d now tokenHash w q hsaving hupd =>
      by_cases hid : t.id = tokenId
      · exact ⟨t.revoke now tokenHash, (Collection.mem_update hupd).2 (.inr ⟨t, ht, hid, rfl⟩),
          rfl, rfl⟩
      · exact ⟨t, (Collection.mem_update hupd).2 (.inl ⟨ht, hid⟩), rfl, rfl⟩
  refine ⟨hprocs, ?_, h.presented, fun t ht => ?_⟩
  · obtain ⟨t, ht, hid, hhash⟩ := h.stored
    obtain ⟨t', ht', hid', hhash'⟩ := hkeeps t ht
    exact ⟨t', ht', hid'.trans hid, hhash'.trans hhash⟩
  · obtain ⟨t₁, ht₁, hhash₁⟩ := h.kept t ht
    obtain ⟨t₂, ht₂, -, hhash₂⟩ := hkeeps t₁ ht₁
    exact ⟨t₂, ht₂, hhash₂.trans hhash₁⟩

omit [DecidableEq R] in
theorem Rotating.descendants_insert (h : Rotating cr token tokenId p s) {d : Draw}
    {userId : ObjectId} {device : DeviceContext} {w : Platform}
    (hins : s.shared.refreshTokens.insert
      (newRefreshToken cr d userId device s.shared.world.now) = some w.refreshTokens) :
    descendants p w = descendants p s.shared ++
      [newRefreshToken cr d userId device s.shared.world.now] := by
  have hnew : p.refreshTokens.findByKey (cr.hashRefreshToken d.rawRefreshToken) = none := by
    refine Collection.findByKey_eq_none.2 fun t ht hhash => ?_
    obtain ⟨t', ht', hhash'⟩ := h.kept t ht
    exact ((Collection.insert_eq_some.1 hins).1 t' ht').2 _ ((congrArg some hhash').trans hhash) rfl
  simp only [descendants, (Collection.insert_eq_some.1 hins).2, List.filter_append]
  congr 1
  simp [newRefreshToken, hnew]

omit [DecidableEq R] in
theorem Rotating.descendants_save (h : Rotating cr token tokenId p s) {now : ℤ}
    {tokenHash : String} {w : Platform}
    (hupd : s.shared.refreshTokens.update tokenId (fun t => t.revoke now tokenHash) =
      some w.refreshTokens) :
    descendants p w = descendants p s.shared := by
  simp only [descendants, Collection.update_eq_some hupd]
  refine Collection.filter_mapAt fun t ht hid => ?_
  obtain ⟨t', ht', hid', hhash'⟩ := h.stored
  obtain rfl : t = t' := Collection.eq_of_docId ht ht' (Eq.trans hid hid'.symm)
  obtain ⟨t₀, ht₀, hhash₀⟩ := h.presented
  have hfind : p.refreshTokens.findByKey t.tokenHash = some t₀ :=
    Collection.findByKey_eq_some.2 ⟨ht₀, congrArg some (hhash₀.trans hhash'.symm)⟩
  exact ⟨by simp [hfind], by simp [RefreshToken.revoke]⟩

/-- The refresh has opened a session. -/
def RefreshProc.hasOpened (q : RefreshProc) : Bool := q.isSaving || q.hasReturned

/-- **The invariant of lonely inserts**: there is one descendant at most and one refresh that opened
it; and none of either while the presented session is not revoked and no refresh is about to revoke
it. -/
structure Once (cr : Crypto) (token : String) (p : Platform) (s : Rotation R) : Prop where
  one : (descendants p s.shared).length ≤ 1
  opened : s.AtMostOne hasOpened
  none : NotRevoked (cr.hashRefreshToken token) s.shared → s.Nobody isSaving →
    descendants p s.shared = [] ∧ s.Nobody hasOpened

/-- **One lonely step.** -/
theorem once_step (h : Rotating cr token tokenId p s) (honce : Once cr token p s)
    (halone : InsertsAlone cr token s a) (hcases : RotationStep cr tokenId s a s') :
    Once cr token p s' := by
  cases hcases with
  | quiet htokens hsaving hreturned =>
    have hdesc : descendants p s'.shared = descendants p s.shared := by
      simp only [descendants, htokens]
    have hopened : ∀ r, (s'.procs r).hasOpened = (s.procs r).hasOpened := fun r => by
      simp only [hasOpened, hsaving, hreturned]
    refine ⟨hdesc ▸ honce.one, fun r r' hr hr' => ?_, fun hopen hnobody => ?_⟩
    · exact honce.opened r r' (hopened r ▸ hr) (hopened r' ▸ hr')
    · rw [NotRevoked, htokens] at hopen
      obtain ⟨hnil, hnone⟩ := honce.none hopen fun r => hsaving r ▸ hnobody r
      exact ⟨hdesc.trans hnil, fun r => (hopened r).trans (hnone r)⟩
  | @inserted r d userId device w q hinserts hfits hins hq =>
    obtain ⟨hopen, hnobody⟩ := halone (userId, device) hinserts hfits (by rw [hins]; rfl)
    obtain ⟨hnil, hnone⟩ := honce.none hopen hnobody
    refine ⟨?_, honce.opened.put fun _ => .inr hnone, fun _ hnobody' => ?_⟩
    · rw [Parties.put_shared, h.descendants_insert hins, hnil]
      exact le_rfl
    · have hr := hnobody' r
      rw [Parties.put_procs_self, hq] at hr
      cases hr
  | @saved r d now tokenHash w q hsaving hupd hq =>
    have hopened : (s.procs r).hasOpened = true := by simp [hasOpened, hsaving]
    refine ⟨?_, honce.opened.put fun _ => .inl hopened, fun hopen _ => ?_⟩
    · rw [Parties.put_shared, h.descendants_save hupd]
      exact honce.one
    · -- the presented session is revoked now
      obtain ⟨t, ht, hid, hhash⟩ := h.stored
      have hrevoked := hopen (t.revoke now tokenHash)
        ((Collection.mem_update hupd).2 (.inr ⟨t, ht, hid, rfl⟩)) hhash
      cases hrevoked

/-- Once the presented session is revoked or about to be revoked, it has a descendant. -/
def HasDescended (cr : Crypto) (token : String) (p : Platform) (s : Rotation R) : Prop :=
  ¬ (NotRevoked (cr.hashRefreshToken token) s.shared ∧ s.Nobody isSaving) →
    1 ≤ (descendants p s.shared).length

/-- **One step** of any run: a descendant stays, and a revocation comes from a refresh that has
opened one. -/
theorem hasDescended_step (h : Rotating cr token tokenId p s) (hdesc : HasDescended cr token p s)
    (hcases : RotationStep cr tokenId s a s') :
    HasDescended cr token p s' ∧
      (descendants p s.shared).length ≤ (descendants p s'.shared).length := by
  cases hcases with
  | quiet htokens hsaving =>
    have heq : descendants p s'.shared = descendants p s.shared := by
      simp only [descendants, htokens]
    refine ⟨fun hseen => ?_, by rw [heq]⟩
    rw [heq]
    refine hdesc fun hopen => hseen ⟨?_, fun r => (hsaving r).trans (hopen.2 r)⟩
    rw [NotRevoked, htokens]
    exact hopen.1
  | inserted _ _ hins =>
    have hlength := congrArg List.length (h.descendants_insert hins)
    rw [List.length_append, List.length_singleton] at hlength
    exact ⟨fun _ => by rw [Parties.put_shared, hlength]; omega,
      by rw [Parties.put_shared, hlength]; omega⟩
  | @saved r d now tokenHash w q hsaving hupd hq =>
    have hseen : 1 ≤ (descendants p s.shared).length :=
      hdesc fun hopen => Bool.false_ne_true ((hopen.2 r).symm.trans hsaving)
    rw [HasDescended, Parties.put_shared, h.descendants_save hupd]
    exact ⟨fun _ => hseen, le_rfl⟩

theorem two_le_of_not_insertsAlone (h : Rotating cr token tokenId p s)
    (hdesc : HasDescended cr token p s) (hinserts : ¬ InsertsAlone cr token s a)
    (hstep : Program.Step (rotation cr) s a s') :
    2 ≤ (descendants p s'.shared).length := by
  cases hstep with
  | start => exact absurd trivial hinserts
  | surroundings => exact absurd trivial hinserts
  | @exec r d w q he =>
    simp only [InsertsAlone, PartyAction.OnExec, not_forall] at hinserts
    obtain ⟨⟨userId, device⟩, hx, hfits, hins, hseen⟩ := hinserts
    obtain ⟨c, hc⟩ := Option.isSome_iff_exists.1 hins
    have hw : w.refreshTokens = c := by
      cases hproc : s.procs r with
      | idle | done =>
        rw [hproc] at hx
        cases hx
      | running stage =>
        rw [hproc] at he hx
        have hexec : stage.exec cr d s.shared = (w, q) := Option.some.inj he
        cases stage with
        | insert user stored device' =>
          cases hx
          simp only [RefreshStage.exec, createRefreshToken, if_pos hfits, hc] at hexec
          cases hexec
          rfl
        | _ => cases hx
    have hlength := congrArg List.length (h.descendants_insert (w := w) (hw ▸ hc))
    rw [List.length_append, List.length_singleton] at hlength
    have hone := hdesc hseen
    rw [Parties.put_shared, hlength]
    omega

/-! ### Runs -/

/-- No refresh has started. -/
def Rotation.init (R : Type) (p : Platform) : Rotation R := ⟨p, fun _ => .idle⟩

omit [DecidableEq R] in
/-- The invariants hold at the beginning, whatever refreshes present the token. -/
theorem ValidToken.init (h : ValidToken cr token p) :
    ∃ tokenId, Rotating cr token tokenId p (Rotation.init R p) ∧
      Once cr token p (Rotation.init R p) ∧ HasDescended cr token p (Rotation.init R p) := by
  obtain ⟨-, t, ht, hhash, hopen, -⟩ := h
  have hnil : descendants p p = [] := by
    refine List.filter_eq_nil_iff.2 fun t' ht' => ?_
    have hfind : p.refreshTokens.findByKey t'.tokenHash = some t' :=
      Collection.findByKey_eq_some.2 ⟨ht', rfl⟩
    simp [hfind]
  have hnotRevoked : NotRevoked (cr.hashRefreshToken token) p := by
    intro t' ht' hhash'
    rw [Collection.eq_of_indexKey ht' ht (congrArg some hhash') (congrArg some hhash), hopen]
  refine ⟨t.id, ⟨fun _ => trivial, ⟨t, ht, rfl, hhash⟩, ⟨t, ht, hhash⟩, fun t' ht' =>
    ⟨t', ht', rfl⟩⟩,
    ⟨?_, fun _ _ hr => absurd hr Bool.false_ne_true, fun _ _ => ⟨hnil, fun _ => rfl⟩⟩,
    fun hseen => absurd ⟨hnotRevoked, fun _ => rfl⟩ hseen⟩
  show (descendants p p).length ≤ 1
  rw [hnil]
  exact Nat.zero_le 1

theorem rotating_run {as : List (RotationAction R)} (h : Rotating cr token tokenId p s)
    (hdesc : HasDescended cr token p s)
    (hpresents : ((rotation cr).machine R).Meets (PresentsValid cr token) s as)
    (hrun : ((rotation cr).machine R).run s as = some s') :
    Rotating cr token tokenId p s' ∧ HasDescended cr token p s' ∧
      (descendants p s.shared).length ≤ (descendants p s'.shared).length := by
  refine Machine.run_invariant (I := fun t => Rotating cr token tokenId p t ∧
    HasDescended cr token p t ∧ (descendants p s.shared).length ≤ (descendants p t.shared).length)
    (fun t a t' hI hG hstep => ?_) ⟨h, hdesc, le_rfl⟩ hpresents hrun
  have hcases := Program.step_cases hstep
  obtain ⟨hdesc', hle⟩ := hasDescended_step hI.1 hI.2.1 (rotation_step_cases hI.1 hG hcases).1
  exact ⟨rotating_step hI.1 hG hcases, hdesc', hI.2.2.trans hle⟩

/-- **A token is redeemed once exactly when every insert is alone.**  In every run of refreshes that
present one valid token, at most one of them has returned tokens and the token has at most one
descendant that is not revoked, if and only if every insert is made while the presented session is
not revoked and no other refresh is about to revoke it. -/
theorem redeemed_once_iff {as : List (RotationAction R)} (h : ValidToken cr token p)
    (hpresents : ((rotation cr).machine R).Meets (PresentsValid cr token) (Rotation.init R p) as)
    (hrun : ((rotation cr).machine R).run (Rotation.init R p) as = some s) :
    (s.AtMostOne hasReturned ∧ (descendants p s.shared).length ≤ 1) ↔
      ((rotation cr).machine R).Meets (InsertsAlone cr token) (Rotation.init R p) as := by
  obtain ⟨tokenId, hrotating, honce, hdesc⟩ := h.init (R := R)
  constructor
  · rintro ⟨-, hone⟩
    -- one insertion beside another leaves two descendants, and no later step takes one back
    refine Machine.meets_iff_forall_prefix.2 fun pre a post t hsplit hpre => ?_
    by_contra hinserts
    subst hsplit
    obtain ⟨t₀, ht₀, hrest⟩ := Machine.run_append.1 hrun
    obtain rfl : t = t₀ := Option.some.inj (hpre.symm.trans ht₀)
    obtain ⟨t', hstep, hpost⟩ := Machine.run_cons.1 hrest
    obtain ⟨hmeets, hmeets'⟩ := hpresents.append_right hpre
    obtain ⟨hrot, hseen, -⟩ := rotating_run hrotating hdesc hpresents.of_append hpre
    have hcases := Program.step_cases hstep
    have htwo := two_le_of_not_insertsAlone hrot hseen hinserts hcases
    have hseen' := (hasDescended_step hrot hseen (rotation_step_cases hrot hmeets hcases).1).1
    have hle := (rotating_run (rotating_step hrot hmeets hcases) hseen' (hmeets' t' hstep)
      hpost).2.2
    omega
  · intro halone
    have hinv : Rotating cr token tokenId p s ∧ Once cr token p s := by
      refine Machine.run_invariant (I := fun t => Rotating cr token tokenId p t ∧
        Once cr token p t) (fun t a t' hI hG hstep => ?_) ⟨hrotating, honce⟩
        (hpresents.and halone) hrun
      have hcases := Program.step_cases hstep
      exact ⟨rotating_step hI.1 hG.1 hcases,
        once_step hI.1 hI.2 hG.2 (rotation_step_cases hI.1 hG.1 hcases).1⟩
    refine ⟨fun r r' hr hr' => hinv.2.opened r r' ?_ ?_, hinv.2.one⟩
    · simp [hasOpened, hr]
    · simp [hasOpened, hr']

end Steps

/-! ### Refreshes of one phone -/

/-- The session that client 2 has opened on the phone. -/
def phoneSession : RefreshToken where
  id := 10
  userId := 2
  tokenHash := sampleDigest firstToken
  expiresAt := refreshTokenTtlMs
  revokedAt := none
  replacedByTokenHash := none
  userAgent := phone.userAgent
  ip := phone.ip

/-- Client 2 has opened a session on the phone. -/
def phonePlatform : Platform :=
  { clientPlatform.draw ⟨10, firstToken⟩ with
    refreshTokens := ⟨[phoneSession], List.pairwise_singleton _ _⟩ }

theorem phonePlatform_valid : ValidToken sampleCrypto firstToken phonePlatform :=
  ⟨by decide, phoneSession, List.mem_singleton.2 rfl, rfl, rfl, by decide, client,
    List.mem_singleton.2 rfl, rfl, rfl⟩

/-- The run of a list of actions of two refreshes of the phone. -/
def phoneRun (as : List (RotationAction Bool)) : Option (Rotation Bool) :=
  ((rotation sampleCrypto).machine Bool).run (Rotation.init Bool phonePlatform) as

/-- A refresh presents the token and issues commands. -/
def redeem (r : Bool) (d : Draw) (commands : ℕ) : List (RotationAction Bool) :=
  .start r (some firstToken, phone) :: List.replicate commands (.exec r d)

/-- The token is presented twice, and the second refresh looks for the session after the first one
has revoked it. -/
def redeemedBeside : List (RotationAction Bool) :=
  .start true (some firstToken, phone) :: redeem false ⟨11, secondToken⟩ 4 ++
    [.exec true ⟨12, thirdToken⟩]

theorem redeemedBeside_isSome : (phoneRun redeemedBeside).isSome = true := by decide +kernel

/-- The second refresh is refused. -/
theorem redeemed_once_beside :
    let s := (phoneRun redeemedBeside).get redeemedBeside_isSome
    (s.procs true).isAtRest = true ∧ s.AtMostOne RefreshProc.hasReturned ∧
      (descendants phonePlatform s.shared).length ≤ 1 :=
  ⟨by decide +kernel, (redeemed_once_iff (R := Bool) phonePlatform_valid (by decide +kernel)
    (Option.some_get redeemedBeside_isSome).symm).2 (by decide +kernel)⟩

/-- Two refreshes read the record before either of them opens a session. -/
def redeemedAtOnce : List (RotationAction Bool) :=
  redeem false ⟨11, secondToken⟩ 2 ++ redeem true ⟨12, thirdToken⟩ 4 ++
    List.replicate 2 (.exec false ⟨11, secondToken⟩)

theorem redeemedAtOnce_isSome : (phoneRun redeemedAtOnce).isSome = true := by decide +kernel

/-- **A token can be redeemed twice.**  The record is not looked at again before the insert. -/
theorem not_redeemed_once :
    ¬ ∀ (R : Type) [DecidableEq R] (cr : Crypto) (token : String) (p : Platform)
      (as : List (RotationAction R)) (s : Rotation R), ValidToken cr token p →
      ((rotation cr).machine R).Meets (PresentsValid cr token) (Rotation.init R p) as →
      ((rotation cr).machine R).run (Rotation.init R p) as = some s →
      s.AtMostOne RefreshProc.hasReturned ∧
        (s.Quiescent → (descendants p s.shared).length ≤ 1) := by
  intro h
  have honce := h Bool sampleCrypto firstToken phonePlatform redeemedAtOnce _ phonePlatform_valid
    (by decide +kernel) (Option.some_get redeemedAtOnce_isSome).symm
  exact absurd honce.1 (by decide +kernel)

end HrBooking
