import HrBooking.Account.Lockout
import HrBooking.Machine.Parties
import Mathlib.Data.Finset.Card

/-!
# Passwords that are guessed at the same time

Logins of one account run at the same time, one command after another.  A login loads the account,
verifies the password for a while, and then saves the counter it has loaded plus one, whatever is
stored by then; so two logins that have loaded the same counter count as one.

* `LoginStage` : the next command of a login in flight.
* `guessing` : any number of logins over one store.
* `login_alone` : a login that runs alone does what the call does.
* `SavesInTime` : a save finds the counter that the login has loaded.
* `locked_of_inTime` : five wrong passwords lock the account when every save is in time.
* `not_locked` : they need not.
-/

namespace HrBooking

/-- The next command of a login in flight. -/
inductive LoginStage where
  /-- `User.findOne` -/
  | findUser (input : LoginInput) (device : DeviceContext)
  /-- `verifyPassword`, which takes a while -/
  | verify (user : User) (input : LoginInput) (device : DeviceContext)
  /-- `user.save()` of `incrementFailedAttempts` -/
  | saveFailed (loaded current : User)
  /-- `user.save()` of `resetFailedAttempts` -/
  | saveReset (loaded : User) (device : DeviceContext)
  /-- `RefreshToken.create` -/
  | insert (user : User) (device : DeviceContext)

/-- A party that logs in. -/
inductive LoginProc where
  | idle
  | running (stage : LoginStage)
  | done (answer : Except AppError AuthResult)

namespace LoginProc

/-- Go on, or end with an error. -/
def andThen {α : Type} (p : Platform) (x : Except AppError α) (next : α → LoginProc) :
    Platform × LoginProc :=
  match x with
  | .ok a => (p, next a)
  | .error e => (p, done (.error e))

/-- What is left when the password was right and the counter is reset. -/
def entering (user : User) (device : DeviceContext) : LoginProc :=
  if user.isEmailVerified then running (.insert user.resetFailedAttempts device)
  else done (.error (.unauthorized "Please verify your email address before logging in."))

/-- The login has returned or thrown. -/
def isDone : LoginProc → Bool
  | done _ => true
  | _ => false

end LoginProc

open LoginProc

/-- Issue the next command of a login. -/
def LoginStage.exec (cr : Crypto) (d : Draw) (p : Platform) : LoginStage → Platform × LoginProc
  | findUser input device =>
    andThen p (admitted p.world.now (p.users.findByKey (toLowerCase input.email))) fun user =>
      running (.verify user input device)
  | verify user input device =>
    if cr.verifyPassword input.password user.password = false then
      (p, running (.saveFailed user (user.incrementFailedAttempts p.world.now)))
    else if 0 < user.failedLoginAttempts ∨ user.lockedUntil.isSome then
      (p, running (.saveReset user device))
    else (p, entering user device)
  | saveFailed loaded current =>
    let saved := saveUser loaded current p
    andThen saved.2 saved.1 fun _ => done (.error (.unauthorized "Invalid email or password."))
  | saveReset loaded device =>
    let saved := saveUser loaded loaded.resetFailedAttempts p
    andThen saved.2 saved.1 fun _ => entering loaded device
  | insert user device =>
    let created := createRefreshToken cr d user.id device p
    andThen created.2 created.1 fun _ => done (.ok (authResult cr d user p.world.now))

/-- Any number of logins over one store, while time passes. -/
def guessing (cr : Crypto) :
    Program Platform LoginProc (LoginInput × DeviceContext) Draw ℕ where
  isIdle
    | idle => true
    | _ => false
  start request p := some (p, running (.findUser request.1 request.2))
  exec d p
    | running stage => some (stage.exec cr d p)
    | _ => none
  surroundings ms p := some (p.advance ms)

/-- The state of the logins. -/
abbrev Guessing (R : Type) := Parties R Platform LoginProc

/-- An action of the logins. -/
abbrev GuessingAction (R : Type) := PartyAction R (LoginInput × DeviceContext) Draw ℕ

section Alone

variable {cr : Crypto} {d : Draw} {p : Platform}

theorem alone_andThen {α : Type} {stage : LoginStage} {x : Answer α} {next : α → LoginProc}
    {f : α → Platform → Answer AuthResult}
    (hstage : stage.exec cr d p = LoginProc.andThen x.2 x.1 next)
    (hnext : ∀ a q, (guessing cr).Alone d (q, next a) ((f a q).2, done (f a q).1)) :
    (guessing cr).Alone d (p, running stage) ((x.andThen f).2, done (x.andThen f).1) := by
  have hexec : (guessing cr).exec d p (running stage) = some (LoginProc.andThen x.2 x.1 next) :=
    congrArg some hstage
  obtain ⟨e | a, q⟩ := x
  · exact .single hexec
  · exact .head hexec (hnext a q)

theorem alone_entering (user : User) (device : DeviceContext) (x : Answer AuthResult)
    (hx : x = if user.isEmailVerified then issueTokens cr d user.resetFailedAttempts device none p
      else p.answer
        (.error (.unauthorized "Please verify your email address before logging in."))) :
    (guessing cr).Alone d (p, entering user device) (x.2, done x.1) := by
  subst hx
  unfold entering
  split_ifs
  · exact alone_andThen rfl fun _ _ => .refl
  · exact .refl

/-- **A login that runs alone** does what the call does. -/
theorem login_alone (cr : Crypto) (d : Draw) (input : LoginInput) (device : DeviceContext)
    (p : Platform) :
    (guessing cr).Alone d (p, running (.findUser input device))
      ((login cr d input device p).2, done (login cr d input device p).1) := by
  refine alone_andThen (x := p.answer _) rfl fun user q => ?_
  have hverify : (guessing cr).exec d q (running (.verify user input device)) =
      some ((LoginStage.verify user input device).exec cr d q) := rfl
  refine .head hverify ?_
  simp only [LoginStage.exec]
  by_cases hpassword : cr.verifyPassword input.password user.password = false
  · rw [if_pos hpassword, if_pos hpassword]
    exact alone_andThen rfl fun _ _ => .refl
  · rw [if_neg hpassword, if_neg hpassword]
    by_cases hfailed : 0 < user.failedLoginAttempts ∨ user.lockedUntil.isSome
    · rw [if_pos hfailed, if_pos hfailed]
      exact alone_andThen rfl fun _ _ => alone_entering user device _ rfl
    · rw [if_neg hfailed, if_neg hfailed]
      exact alone_entering user device _ rfl

end Alone

/-! ### Conditions -/

/-- The account a save of the counter is of, as it was loaded. -/
def LoginProc.counts : LoginProc → Option User
  | running (.saveFailed loaded _) => some loaded
  | _ => none

section Conditions

variable {R : Type}

/-- The logins are with wrong passwords of the account. -/
def GuessesWrong (cr : Crypto) (user : User) (a : GuessingAction R) : Prop :=
  a.OnStart fun request => toLowerCase request.1.email = user.email ∧
    cr.verifyPassword request.1.password user.password = false

instance (cr : Crypto) (user : User) (a : GuessingAction R) :
    Decidable (GuessesWrong cr user a) := inferInstanceAs (Decidable (a.OnStart _))

/-- A save of the counter finds the one that the login has loaded. -/
def SavesInTime (s : Guessing R) (a : GuessingAction R) : Prop :=
  a.OnExec fun r _ => ∀ loaded ∈ (s.procs r).counts, ∀ u ∈ s.shared.users, u.id = loaded.id →
    u.failedLoginAttempts = loaded.failedLoginAttempts

instance (s : Guessing R) (a : GuessingAction R) : Decidable (SavesInTime s a) :=
  inferInstanceAs (Decidable (a.OnExec _))

/-- The lock of the account is in the future, or it was set since. -/
def LockedSince (user : User) (p : Platform) : Prop :=
  ∃ u ∈ p.users, u.id = user.id ∧ ∃ lockedUntil ∈ u.lockedUntil,
    p.world.now < lockedUntil ∨ user.lockedUntil ≠ some lockedUntil

instance (user : User) (p : Platform) : Decidable (LockedSince user p) :=
  inferInstanceAs (Decidable (∃ u ∈ p.users, _))

end Conditions

/-! ### What a login holds and saves -/

section Saves

variable {loaded u : User} {p : Platform}

theorem saveOver_increment {now : ℤ} (hfree : ∀ lockedUntil ∈ loaded.lockedUntil, lockedUntil ≤ now)
    (u : User) : loaded.saveOver (loaded.incrementFailedAttempts now) u =
      if AuthLimits.maxFailedAttempts ≤ loaded.failedLoginAttempts + 1 then
        { u with failedLoginAttempts := 0, lockedUntil := some (now + AuthLimits.lockoutMs) }
      else { u with failedLoginAttempts := loaded.failedLoginAttempts + 1 } := by
  unfold User.saveOver User.incrementFailedAttempts
  split_ifs with hlimit
  · have hfailed : 0 ≠ loaded.failedLoginAttempts := by
      unfold AuthLimits.maxFailedAttempts at hlimit
      omega
    have hlocked : some (now + (AuthLimits.lockoutMs : ℤ)) ≠ loaded.lockedUntil := by
      intro heq
      have hle := hfree _ heq.symm
      unfold AuthLimits.lockoutMs at hle
      omega
    simp only [savePath_self, savePath_of_ne hfailed, savePath_of_ne hlocked]
  · have hfailed : loaded.failedLoginAttempts + 1 ≠ loaded.failedLoginAttempts := by omega
    simp only [savePath_self, savePath_of_ne hfailed]

/-- What a login with a wrong password holds of the account, when it has started after `since`. -/
def LoginProc.Guesses (cr : Crypto) (user : User) (since now : ℤ) : LoginProc → Prop
  | running (.findUser input _) => toLowerCase input.email = user.email ∧
    cr.verifyPassword input.password user.password = false
  | running (.verify u input _) => u.id = user.id ∧
    (∀ lockedUntil ∈ u.lockedUntil, lockedUntil ≤ now) ∧
    cr.verifyPassword input.password u.password = false
  | running (.saveFailed loaded current) => loaded.id = user.id ∧ ∃ failedAt, since ≤ failedAt ∧
    (∀ lockedUntil ∈ loaded.lockedUntil, lockedUntil ≤ failedAt) ∧
    current = loaded.incrementFailedAttempts failedAt
  | running (.saveReset ..) | running (.insert ..) => False
  | _ => True

theorem LoginProc.Guesses.mono {cr : Crypto} {user : User} {since now now' : ℤ} {q : LoginProc}
    (h : q.Guesses cr user since now) (hle : now ≤ now') : q.Guesses cr user since now' := by
  cases q with
  | running stage =>
    cases stage with
    | verify u input device => exact ⟨h.1, fun t ht => (h.2.1 t ht).trans hle, h.2.2⟩
    | _ => exact h
  | _ => exact h

end Saves

section Steps

variable {R : Type} [DecidableEq R] {cr : Crypto} {user u : User} {since : ℤ}
  {s s' : Guessing R} {a : GuessingAction R}

/-- The failed logins that are done are counted, and there is no lock. -/
structure Counted (u : User) (since : ℤ) (s : Guessing R) : Prop where
  free : ∀ lockedUntil ∈ u.lockedUntil, lockedUntil ≤ since
  done : ∀ rs : Finset R, (∀ r ∈ rs, (s.procs r).isDone = true) →
    rs.card ≤ u.failedLoginAttempts ∧ rs.card < AuthLimits.maxFailedAttempts

/-- The account is the one that is guessed; its failed logins are counted or it was locked. -/
structure Tallied (user : User) (since : ℤ) (s : Guessing R) (u : User) : Prop where
  mem : u ∈ s.shared.users
  id : u.id = user.id
  email : u.email = user.email
  password : u.password = user.password
  active : u.status = .active
  counted : Counted u since s ∨
    ∃ lockedUntil ∈ u.lockedUntil, since + AuthLimits.lockoutMs ≤ lockedUntil

/-- **The invariant** of logins with wrong passwords. -/
structure Guessed (cr : Crypto) (user : User) (since : ℤ) (s : Guessing R) : Prop where
  now : since ≤ s.shared.world.now
  procs : ∀ r, (s.procs r).Guesses cr user since s.shared.world.now
  account : ∃ u, Tallied user since s u

theorem Counted.put {r : R} {w : Platform} {q : LoginProc} (h : Counted u since s)
    (hq : q.isDone = false) : Counted u since (s.put r w q) := by
  refine ⟨h.free, fun rs hrs => h.done rs fun r' hr' => ?_⟩
  have hdone := hrs r' hr'
  by_cases heq : r' = r
  · rw [heq, Parties.put_procs_self, hq] at hdone
    cases hdone
  · rwa [Parties.put_procs_of_ne heq] at hdone

theorem Guessed.put {r : R} {q : LoginProc} (h : Guessed cr user since s)
    (hq : q.Guesses cr user since s.shared.world.now)
    (hdone : q.isDone = true → ∀ u, Tallied user since s u → ¬ Counted u since s) :
    Guessed cr user since (s.put r s.shared q) := by
  refine ⟨h.now, Parties.forall_put hq fun r' _ => h.procs r', ?_⟩
  obtain ⟨u, hu⟩ := h.account
  refine ⟨u, hu.mem, hu.id, hu.email, hu.password, hu.active, ?_⟩
  rcases hu.counted with hcounted | hlocked
  · cases hq' : q.isDone with
    | false => exact .inl (hcounted.put hq')
    | true => exact absurd hcounted (hdone hq' u hu)
  · exact .inr hlocked

/-- **A save in time** counts the failed login, or locks the account. -/
theorem guessed_save {r : R} {d : Draw} {loaded current : User} (h : Guessed cr user since s)
    (hguesses : (running (.saveFailed loaded current)).Guesses cr user since s.shared.world.now)
    (hinTime : ∀ u ∈ s.shared.users, u.id = loaded.id →
      u.failedLoginAttempts = loaded.failedLoginAttempts) {w : Platform} {q : LoginProc}
    (he : (LoginStage.saveFailed loaded current).exec cr d s.shared = (w, q)) :
    Guessed cr user since (s.put r w q) := by
  obtain ⟨hid, failedAt, hsince, hfree, rfl⟩ := hguesses
  obtain ⟨u, hu⟩ := h.account
  have hstored : u.id = loaded.id := hu.id.trans hid.symm
  obtain ⟨users, hsave, hmem⟩ :=
    saveUser_of_stored (loaded.incrementFailedAttempts failedAt) hu.mem hstored
  simp only [LoginStage.exec, hsave, LoginProc.andThen] at he
  obtain ⟨rfl, rfl⟩ := Prod.mk.inj he
  have hmem' := (hmem _).2 (.inr rfl)
  rw [saveOver_increment hfree] at hmem'
  refine ⟨h.now, Parties.forall_put trivial fun r' _ => h.procs r', _, hmem', ?_, ?_, ?_, ?_, ?_⟩
  · split_ifs <;> exact hu.id
  · split_ifs <;> exact hu.email
  · split_ifs <;> exact hu.password
  · split_ifs <;> exact hu.active
  · split_ifs with hlimit
    · exact .inr ⟨_, rfl, Int.add_le_add_right hsince _⟩
    · rcases hu.counted with hcounted | hlocked
      · refine .inl ⟨hcounted.free, fun rs hrs => ?_⟩
        -- the login that is done now was not before
        have hothers := hcounted.done (rs.erase r) fun r' hr' => by
          have hdone := hrs r' (Finset.mem_of_mem_erase hr')
          rwa [Parties.put_procs_of_ne (Finset.ne_of_mem_erase hr')] at hdone
        have hcard : rs.card - 1 ≤ (rs.erase r).card := Finset.pred_card_le_card_erase
        have hloaded := hinTime u hu.mem hstored
        show rs.card ≤ loaded.failedLoginAttempts + 1 ∧ rs.card < AuthLimits.maxFailedAttempts
        omega
      · exact .inr hlocked

/-- **One command** of a login. -/
theorem guessed_exec {r : R} {d : Draw} (h : Guessed cr user since s)
    (hinTime : SavesInTime s (.exec r d)) {w : Platform} {q : LoginProc}
    (he : (guessing cr).exec d s.shared (s.procs r) = some (w, q)) :
    Guessed cr user since (s.put r w q) := by
  have hguesses := h.procs r
  cases hproc : s.procs r with
  | idle | done =>
    rw [hproc] at he
    cases he
  | running stage =>
    rw [hproc] at he hguesses
    have hexec : stage.exec cr d s.shared = (w, q) := Option.some.inj he
    cases stage with
    | findUser input device =>
      obtain ⟨hemail, hwrong⟩ := hguesses
      simp only [LoginStage.exec] at hexec
      cases hadmitted : admitted s.shared.world.now
          (s.shared.users.findByKey (toLowerCase input.email)) with
      | error e =>
        rw [hadmitted] at hexec
        cases hexec
        refine h.put trivial fun _ u hu hcounted => ?_
        -- an active account without a lock is admitted
        have hfind : s.shared.users.findByKey (toLowerCase input.email) = some u :=
          Collection.findByKey_eq_some.2 ⟨hu.mem, congrArg some (hu.email.trans hemail.symm)⟩
        have hok := admitted_eq_ok.2 ⟨hfind, hu.active, fun t ht =>
          (hcounted.free t ht).trans h.now⟩
        cases hadmitted.symm.trans hok
      | ok u' =>
        rw [hadmitted] at hexec
        cases hexec
        obtain ⟨hfind, hok⟩ := admitted_eq_ok.1 hadmitted
        obtain ⟨hmem, hkey⟩ := Collection.findByKey_eq_some.1 hfind
        obtain ⟨u, hu⟩ := h.account
        obtain rfl : u' = u := Collection.eq_of_indexKey hmem hu.mem hkey
          (congrArg some (hu.email.trans hemail.symm))
        exact h.put ⟨hu.id, hok.2, hu.password ▸ hwrong⟩
          fun hdone => absurd hdone Bool.false_ne_true
    | verify u input device =>
      obtain ⟨hid, hok, hwrong⟩ := hguesses
      simp only [LoginStage.exec, if_pos hwrong] at hexec
      cases hexec
      exact h.put ⟨hid, _, h.now, hok, rfl⟩ fun hdone => absurd hdone Bool.false_ne_true
    | saveFailed loaded current =>
      refine guessed_save h hguesses (hinTime loaded ?_) hexec
      rw [hproc]
      rfl
    | saveReset loaded device => cases hguesses
    | insert user device => cases hguesses

/-- **One step** of logins with wrong passwords, when a save is in time. -/
theorem guessed_step (h : Guessed cr user since s) (hwrong : GuessesWrong cr user a)
    (hinTime : SavesInTime s a) (hstep : ((guessing cr).machine R).step s a = some s') :
    Guessed cr user since s' := by
  cases Program.step_cases hstep with
  | start hidle hs =>
    cases hs
    exact h.put hwrong fun hdone => absurd hdone Bool.false_ne_true
  | exec he => exact guessed_exec h hinTime he
  | @surroundings ms w hw =>
    cases hw
    have hnow : s.shared.world.now ≤ s.shared.world.now + ms :=
      Int.le_add_of_nonneg_right (Int.natCast_nonneg ms)
    refine ⟨h.now.trans hnow, fun r => (h.procs r).mono hnow, ?_⟩
    obtain ⟨u, hu⟩ := h.account
    exact ⟨u, hu.mem, hu.id, hu.email, hu.password, hu.active, hu.counted.imp_left fun hc =>
      ⟨hc.free, hc.done⟩⟩

/-! ### Runs -/

/-- No login has started. -/
def Guessing.init (R : Type) (p : Platform) : Guessing R := ⟨p, fun _ => .idle⟩

omit [DecidableEq R] in
/-- The invariant holds at the beginning, whatever logins guess. -/
theorem guessed_init {p : Platform} (huser : user ∈ p.users)
    (hadmitted : user.Admitted p.world.now) :
    Guessed cr user p.world.now (Guessing.init R p) := by
  refine ⟨le_rfl, fun _ => trivial, user, huser, rfl, rfl, rfl, hadmitted.1,
    .inl ⟨hadmitted.2, fun rs hrs => ?_⟩⟩
  have hnone : rs = ∅ := Finset.eq_empty_of_forall_notMem fun r hr =>
    absurd (hrs r hr) Bool.false_ne_true
  rw [hnone, Finset.card_empty]
  exact ⟨Nat.zero_le _, by decide⟩

/-- **Counted guesses lock the account.**  An active account is not locked, and any number of logins
with wrong passwords of it run in any interleaving in which every save of the counter finds the
counter that its login has loaded.  When as many logins as the limit have finished, the lock is in
the future or was set during the run. -/
theorem locked_of_inTime {p : Platform} {as : List (GuessingAction R)} {rs : Finset R}
    (huser : user ∈ p.users) (hadmitted : user.Admitted p.world.now)
    (hwrong : ((guessing cr).machine R).Meets (fun _ a => GuessesWrong cr user a)
      (Guessing.init R p) as)
    (hinTime : ((guessing cr).machine R).Meets SavesInTime (Guessing.init R p) as)
    (hrun : ((guessing cr).machine R).run (Guessing.init R p) as = some s)
    (hdone : ∀ r ∈ rs, (s.procs r).isDone = true) (hk : AuthLimits.maxFailedAttempts ≤ rs.card) :
    LockedSince user s.shared := by
  have hguessed : Guessed cr user p.world.now s := Machine.run_invariant
    (fun _ _ _ hI hG hstep => guessed_step hI hG.1 hG.2 hstep) (guessed_init huser hadmitted)
    (hwrong.and hinTime) hrun
  obtain ⟨u, hu⟩ := hguessed.account
  rcases hu.counted with hcounted | ⟨lockedUntil, hmem, hle⟩
  · exact absurd (hcounted.done rs hdone).2 (not_lt.2 hk)
  · refine ⟨u, hu.mem, hu.id, lockedUntil, hmem, .inr fun heq => ?_⟩
    have hfree := hadmitted.2 lockedUntil heq
    unfold AuthLimits.lockoutMs at hle
    omega

end Steps

/-! ### Five guesses of one password -/

/-- The run of a list of actions of logins of client 2. -/
def guessRun (as : List (GuessingAction ℕ)) : Option (Guessing ℕ) :=
  ((guessing sampleCrypto).machine ℕ).run (Guessing.init ℕ clientPlatform) as

/-- A login with a wrong password arrives. -/
def guess (r : ℕ) : GuessingAction ℕ := .start r (⟨"client@example.com", "guess2026"⟩, phone)

/-- A login issues a command. -/
def nextCommand (r : ℕ) : GuessingAction ℕ := .exec r ⟨10, firstToken⟩

/-- Five logins arrive, and each loads the account after the one before has saved. -/
def guessedBeside : List (GuessingAction ℕ) :=
  (List.range 5).map guess ++ (List.range 5).flatMap fun r => List.replicate 3 (nextCommand r)

theorem guessedBeside_isSome : (guessRun guessedBeside).isSome = true := by decide +kernel

/-- They lock the account. -/
theorem locked_of_inTime_beside :
    LockedSince client ((guessRun guessedBeside).get guessedBeside_isSome).shared :=
  locked_of_inTime (List.mem_singleton_self client) (by decide +kernel) (by decide +kernel)
    (by decide +kernel) (Option.some_get guessedBeside_isSome).symm (by decide +kernel)
    (show AuthLimits.maxFailedAttempts ≤ (Finset.range 5).card by decide)

/-- Five logins load the account before any of them saves. -/
def guessedAtOnce : List (GuessingAction ℕ) :=
  (List.range 5).map guess ++ (List.range 5).map nextCommand ++ (List.range 5).map nextCommand ++
    (List.range 5).map nextCommand

theorem guessedAtOnce_isSome : (guessRun guessedAtOnce).isSome = true := by decide +kernel

/-- **Guesses at the same time count as one.**  The counter is 1 after five of them, and the account
is not locked. -/
theorem not_locked :
    ¬ ∀ (R : Type) [DecidableEq R] (cr : Crypto) (user : User) (p : Platform)
      (as : List (GuessingAction R)) (s : Guessing R) (rs : Finset R), user ∈ p.users →
      user.Admitted p.world.now →
      ((guessing cr).machine R).Meets (fun _ a => GuessesWrong cr user a) (Guessing.init R p) as →
      ((guessing cr).machine R).run (Guessing.init R p) as = some s →
      s.shared.world.now < p.world.now + AuthLimits.lockoutMs →
      (∀ r ∈ rs, (s.procs r).isDone = true) → AuthLimits.maxFailedAttempts ≤ rs.card →
      LockedSince user s.shared := by
  intro h
  have hlocked := h ℕ sampleCrypto client clientPlatform guessedAtOnce _ (Finset.range 5)
    (List.mem_singleton_self client) (by decide +kernel) (by decide +kernel)
    (Option.some_get guessedAtOnce_isSome).symm (by decide +kernel) (by decide +kernel) (by decide)
  exact absurd hlocked (by decide +kernel)

end HrBooking
