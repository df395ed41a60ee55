import HrBooking.Account.Credentials
import HrBooking.Machine.Count

/-!
# How often a password can be guessed

The account services one after another.  Five wrong passwords lock the account for a while and set
the counter back, and the lock runs out by itself; a right password or a reactivation clears both.

* `Guarded` : the counter, the lock or the clock answers for the wrong passwords so far.
* `guarded_step` : one step, without a right password and without a reactivation.
* `lockout_bounds` : the counter stays below the limit, no password is verified under a lock, and
  six wrong passwords in a row take as long as a lock.
-/

namespace HrBooking

section

variable (cr : Crypto)

/-- The action is a login that gets as far as the password of the account, with this outcome. -/
def CredentialAction.VerifiesPassword (userId : ObjectId) (valid : Bool) (s : Mailroom) :
    CredentialAction → Prop
  | account (.login _ input _) =>
    ∃ user ∈ (admitted s.platform.world.now
        (s.platform.users.findByKey (toLowerCase input.email))).toOption,
      user.id = userId ∧ cr.verifyPassword input.password user.password = valid
  | _ => False

instance (userId : ObjectId) (valid : Bool) (s : Mailroom) (a : CredentialAction) :
    Decidable (a.VerifiesPassword cr userId valid s) := by
  unfold CredentialAction.VerifiesPassword
  split <;> infer_instance

/-- An admin reactivates the account. -/
def CredentialAction.Reactivates (userId : ObjectId) (s : Mailroom) : CredentialAction → Prop
  | account (.reactivateUser id) => id = userId ∧ (reactivateUser id s.platform).1.isOk = true
  | _ => False

instance (userId : ObjectId) (s : Mailroom) (a : CredentialAction) :
    Decidable (a.Reactivates userId s) := by
  unfold CredentialAction.Reactivates
  split <;> infer_instance

end

/-- `n` wrong passwords are counted, or the account is locked until `T` at least, or `T` is over. -/
def Guarded (T : ℤ) (userId : ObjectId) (n : ℕ) (s : Mailroom) : Prop :=
  ∃ u ∈ s.platform.users, u.id = userId ∧
    (n ≤ u.failedLoginAttempts ∨ (∃ lockedUntil ∈ u.lockedUntil, T ≤ lockedUntil) ∨
      T ≤ s.platform.world.now)

section Steps

variable {cr : Crypto} {links : Links} {s s' : Mailroom} {a : CredentialAction} {user : User}

theorem verifiesPassword_iff {b : AccountAction} (huser : user ∈ s.platform.users)
    {valid : Bool} :
    (CredentialAction.account b).VerifiesPassword cr user.id valid s ↔
      b.Verifies s.platform user ∧ ∃ d input device, b = .login d input device ∧
        cr.verifyPassword input.password user.password = valid := by
  cases b with
  | login d input device =>
    constructor
    · rintro ⟨u, hu, hid, hvalid⟩
      have hadmitted : admitted s.platform.world.now
          (s.platform.users.findByKey (toLowerCase input.email)) = .ok u := by
        cases hcase : admitted s.platform.world.now
            (s.platform.users.findByKey (toLowerCase input.email)) with
        | error e =>
          rw [hcase] at hu
          cases hu
        | ok v =>
          rw [hcase] at hu
          rw [Option.some.inj hu]
      obtain ⟨hfind, hok⟩ := admitted_eq_ok.1 hadmitted
      obtain ⟨hmem, hkey⟩ := Collection.findByKey_eq_some.1 hfind
      obtain rfl : u = user := Collection.eq_of_docId hmem huser hid
      exact ⟨⟨Option.some.inj hkey, hok⟩, d, input, device, rfl, hvalid⟩
    · rintro ⟨⟨hemail, hok⟩, d', input', device', heq, hvalid⟩
      cases heq
      have hfind : s.platform.users.findByKey (toLowerCase input.email) = some user :=
        Collection.findByKey_eq_some.2 ⟨huser, congrArg some hemail⟩
      have hadmitted := admitted_eq_ok.2 ⟨hfind, hok⟩
      refine ⟨user, ?_, rfl, hvalid⟩
      rw [hadmitted]
      rfl
  | _ => exact ⟨fun h => h.elim, fun h => h.1.elim⟩

theorem reactivates_of_suspended (huser : user ∈ s.platform.users)
    (hsuspended : user.status = .suspended) :
    (CredentialAction.account (.reactivateUser user.id)).Reactivates user.id s := by
  have hfind : s.platform.users.findById user.id = some user := Collection.findById_of_mem huser
  obtain ⟨users, hsave, -⟩ := saveUser_of_mem user.reactivate huser
  refine ⟨rfl, ?_⟩
  unfold reactivateUser
  rw [reactivable_eq_ok.2 ⟨hfind, hsuspended⟩, answer_ok_andThen, hsave]
  rfl

/-- A login with a wrong password counts it or locks the account; any other action that neither
verifies the right one nor reactivates the account leaves the counter and the lock. -/
theorem onUser_lock {b : AccountAction} (huser : user ∈ s.platform.users)
    (hright : ¬ (CredentialAction.account b).VerifiesPassword cr user.id true s)
    (hreactivates : ¬ (CredentialAction.account b).Reactivates user.id s) :
    ((CredentialAction.account b).VerifiesPassword cr user.id false s ∧
        user.Admitted s.platform.world.now ∧
        b.onUser cr s.platform user = user.incrementFailedAttempts s.platform.world.now) ∨
      (¬ (CredentialAction.account b).VerifiesPassword cr user.id false s ∧
        (b.onUser cr s.platform user).failedLoginAttempts = user.failedLoginAttempts ∧
        (b.onUser cr s.platform user).lockedUntil = user.lockedUntil) := by
  cases b with
  | login d input device =>
    -- a sign-in that reaches the password counts one failure more; any other is no attempt
    by_cases hverifies : (AccountAction.login d input device).Verifies s.platform user
    · have hwrong : cr.verifyPassword input.password user.password = false := by
        rw [← Bool.not_eq_true]
        exact fun hvalid => hright
          ((verifiesPassword_iff huser).2 ⟨hverifies, d, input, device, rfl, hvalid⟩)
      refine .inl ⟨(verifiesPassword_iff huser).2 ⟨hverifies, d, input, device, rfl, hwrong⟩,
        hverifies.2, ?_⟩
      simp only [AccountAction.onUser, if_pos hverifies, hwrong, User.afterVerification]
      rfl
    · refine .inr ⟨fun h => hverifies ((verifiesPassword_iff huser).1 h).1, ?_⟩
      simp only [AccountAction.onUser, if_neg hverifies, and_self]
  | reactivateUser userId =>
    refine .inr ⟨id, ?_⟩
    have hnot : ¬ (userId = user.id ∧ user.status = .suspended) := by
      rintro ⟨rfl, hsuspended⟩
      exact hreactivates (reactivates_of_suspended huser hsuspended)
    simp only [AccountAction.onUser, if_neg hnot, and_self]
  | resetPassword salt link newPassword =>
    refine .inr ⟨id, ?_⟩
    simp only [AccountAction.onUser]
    split_ifs <;> exact ⟨rfl, rfl⟩
  | suspendUser userId =>
    refine .inr ⟨id, ?_⟩
    simp only [AccountAction.onUser]
    split_ifs <;> exact ⟨rfl, rfl⟩
  | _ => exact .inr ⟨id, rfl, rfl⟩

/-- **One step** of the guard. -/
theorem guarded_step {T : ℤ} {userId : ObjectId} {n : ℕ} (h : Guarded T userId n s)
    (hT : T ≤ s.platform.world.now + AuthLimits.lockoutMs)
    (ha : ¬ a.VerifiesPassword cr userId true s ∧ ¬ a.Reactivates userId s)
    (hstep : (credentials cr links).step s a = some s') :
    Guarded T userId (n + if a.VerifiesPassword cr userId false s then 1 else 0) s' := by
  obtain ⟨user, huser, rfl, hguard⟩ := h
  rcases credential_step_cases hstep with
    ⟨b, rfl, hdeletes, hb, -⟩ | ⟨hnot, users, hplatform, hkeeps, -, -⟩
  · refine ⟨b.onUser cr s.platform user, (users_step hdeletes hb _).2 ⟨user, huser, rfl⟩,
      onUser_id cr s.platform b user, ?_⟩
    have hnow := now_step hdeletes hb
    rcases onUser_lock huser ha.1 ha.2 with ⟨hwrong, hadmitted, heq⟩ | ⟨hnone, hfailed, hlocked⟩
    · rw [if_pos hwrong, heq]
      unfold User.incrementFailedAttempts
      rcases hguard with hn | ⟨lockedUntil, hmem, hle⟩ | hover
      · split_ifs
        · exact .inr (.inl ⟨_, rfl, hT⟩)
        · exact .inl (Nat.succ_le_succ hn)
      · -- the account is not locked any more
        exact .inr (.inr (hle.trans ((hadmitted.2 lockedUntil hmem).trans hnow)))
      · exact .inr (.inr (hover.trans hnow))
    · rw [if_neg hnone, hfailed, hlocked]
      exact hguard.imp_right (Or.imp_right fun hover => hover.trans hnow)
  · have hnone : ¬ a.VerifiesPassword cr user.id false s := by
      cases a with
      | account b => exact absurd rfl (hnot b)
      | _ => exact id
    rw [if_neg hnone, Guarded, hplatform]
    exact ⟨user, hkeeps user huser, rfl, hguard⟩

/-- The counter of every account is below the limit. -/
def BelowLimit (s : Mailroom) : Prop :=
  ∀ u ∈ s.platform.users, u.failedLoginAttempts < AuthLimits.maxFailedAttempts

instance (s : Mailroom) : Decidable (BelowLimit s) :=
  inferInstanceAs (Decidable (∀ u ∈ s.platform.users, _))

theorem onUser_belowLimit (cr : Crypto) (p : Platform) (b : AccountAction)
    (h : user.failedLoginAttempts < AuthLimits.maxFailedAttempts) :
    (b.onUser cr p user).failedLoginAttempts < AuthLimits.maxFailedAttempts := by
  have hzero : 0 < AuthLimits.maxFailedAttempts := by decide
  unfold AccountAction.onUser User.afterVerification User.incrementFailedAttempts
  split
  · split_ifs with hverifies hvalid hlimit
    · exact hzero
    · exact hzero
    · exact not_le.1 hlimit
    · exact h
  · split_ifs <;> exact h
  · split_ifs <;> exact h
  · split_ifs
    · exact hzero
    · exact h
  · exact h

/-- **One step** keeps the counters below the limit. -/
theorem belowLimit_step (h : BelowLimit s)
    (hstep : (credentials cr links).step s a = some s') : BelowLimit s' := by
  intro x hx
  rcases credential_step_cases hstep with
    ⟨b, -, hdeletes, hb, -⟩ | ⟨-, users, hplatform, -, hnew, -⟩
  · obtain ⟨u, hu, rfl⟩ := (users_step hdeletes hb x).1 hx
    exact onUser_belowLimit cr s.platform b (h u hu)
  · rw [hplatform] at hx
    rcases hnew x hx with hu | ⟨newId, salt, input, rfl⟩
    · exact h x hu
    · show 0 < AuthLimits.maxFailedAttempts
      decide

theorem credential_now_step (hstep : (credentials cr links).step s a = some s') :
    s.platform.world.now ≤ s'.platform.world.now := by
  rcases credential_step_cases hstep with
    ⟨b, -, hdeletes, hb, -⟩ | ⟨-, users, hplatform, -, -, -⟩
  · exact now_step hdeletes hb
  · rw [hplatform]

theorem not_verifiesPassword_of_locked {lockedUntil : ℤ} (huser : user ∈ s.platform.users)
    (hlocked : lockedUntil ∈ user.lockedUntil) (hnow : s.platform.world.now < lockedUntil)
    (valid : Bool) : ¬ a.VerifiesPassword cr user.id valid s := by
  intro hverifies
  cases a with
  | account b =>
    have hadmitted : user.Admitted s.platform.world.now := by
      obtain ⟨hb, d, input, device, rfl, -⟩ := (verifiesPassword_iff huser).1 hverifies
      exact hb.2
    exact absurd (hadmitted.2 lockedUntil hlocked) (not_le.2 hnow)
  | _ => exact hverifies

end Steps

/-! ### Runs -/

section Runs

variable {cr : Crypto} {links : Links} {s t t' : Mailroom} {before as : List CredentialAction}
  {user : User}

/-- **A guess has its price.**  In any run of the account services from counters below the limit:
the counters stay below it; while an account is locked no login gets as far as its password; and as
many wrong passwords as the limit and one more, without a right one and without a reactivation of
the account between them, take as long as a lock lasts. -/
theorem lockout_bounds (h₀ : BelowLimit s) (hbefore : (credentials cr links).run s before = some t)
    (huser : user ∈ t.platform.users) :
    user.failedLoginAttempts < AuthLimits.maxFailedAttempts ∧
    (∀ lockedUntil ∈ user.lockedUntil, t.platform.world.now < lockedUntil →
      ∀ (a : CredentialAction) (valid : Bool), ¬ a.VerifiesPassword cr user.id valid t) ∧
    ∀ as t' (b : CredentialAction), (credentials cr links).run t as = some t' →
      (credentials cr links).Meets (fun s a => ¬ a.VerifiesPassword cr user.id true s ∧
        ¬ a.Reactivates user.id s) t as →
      AuthLimits.maxFailedAttempts ≤ (credentials cr links).count
        (fun s a => a.VerifiesPassword cr user.id false s) t as →
      b.VerifiesPassword cr user.id false t' →
      t.platform.world.now + AuthLimits.lockoutMs ≤ t'.platform.world.now := by
  have hbelow : BelowLimit t :=
    Machine.run_invariant' (I := BelowLimit) (fun _ _ _ => belowLimit_step) h₀ hbefore
  refine ⟨hbelow user huser, fun lockedUntil hlocked hnow a valid =>
    not_verifiesPassword_of_locked huser hlocked hnow valid,
    fun as t' b hrun hquiet hcount hb => ?_⟩
  have hbelow' : BelowLimit t' :=
    Machine.run_invariant' (I := BelowLimit) (fun _ _ _ => belowLimit_step) hbelow hrun
  -- the counter holds every failure so far, until a lock is set that lasts to the bound
  obtain ⟨-, u, hu, hid, hguard⟩ := Machine.run_count
    (P := fun s a => a.VerifiesPassword cr user.id false s)
    (I := fun n s => t.platform.world.now ≤ s.platform.world.now ∧
      Guarded (t.platform.world.now + AuthLimits.lockoutMs) user.id n s)
    (fun n s a s' hI hG hstep => ⟨hI.1.trans (credential_now_step hstep),
      guarded_step hI.2 (Int.add_le_add_right hI.1 _) hG hstep⟩)
    ⟨le_rfl, user, huser, rfl, .inl (Nat.zero_le _)⟩ hquiet hrun
  rcases hguard with hn | ⟨lockedUntil, hlocked, hle⟩ | hover
  · have hfew := hbelow' u hu
    omega
  · by_contra hlt
    rw [← hid] at hb
    exact not_verifiesPassword_of_locked hu hlocked (lt_of_lt_of_le (not_le.1 hlt) hle) false hb
  · exact hover

end Runs

/-! ### Six wrong passwords -/

/-- Somebody tries a password that client 2 does not have. -/
def wrongLogin : CredentialAction :=
  .account (.login ⟨10, firstToken⟩ ⟨"client@example.com", "guess2026"⟩ phone)

/-- Five of them, and a quarter of an hour. -/
def fiveGuesses : List CredentialAction :=
  [wrongLogin, wrongLogin, wrongLogin, wrongLogin, wrongLogin,
    .account (.advance AuthLimits.lockoutMs)]

theorem fiveGuesses_isSome :
    ((credentials tallyCrypto tallyLinks).run clientRoom fiveGuesses).isSome = true := by
  decide +kernel

/-- A sixth one is verified when the quarter of an hour is over. -/
theorem lockout_bounds_fiveGuesses :
    clientRoom.platform.world.now + AuthLimits.lockoutMs ≤
      (((credentials tallyCrypto tallyLinks).run clientRoom fiveGuesses).get
        fiveGuesses_isSome).platform.world.now :=
  (lockout_bounds (by decide +kernel) (Machine.run_nil clientRoom)
    (show client ∈ clientRoom.platform.users from List.mem_singleton_self client)).2.2
    fiveGuesses _ wrongLogin (Option.some_get fiveGuesses_isSome).symm (by decide +kernel)
    (by decide +kernel) (by decide +kernel)

end HrBooking
