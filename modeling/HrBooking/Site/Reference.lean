import HrBooking.Serial.Gate
import HrBooking.Serial.Removal
import HrBooking.Site.System

/-!
# References between documents

Bookings, sessions, reports, schedules, calendar connections and profiles name an account by its
identity, and a meeting record names a booking.  Nothing in the database checks that what is named
exists; it is up to the services.

* `World.Refers` : the accounts named satisfy a predicate, and those of a consultant's own documents
  a stronger one.
* `World.KeepsRefs` : a call names nobody new; the booking services and the meeting handlers do so.
* `OnlySessions`, `UsersGrow` : what the account services write.
* `RemovedFrom.refers` : the deletion of an account removes what names it.
* `Directory.Grows` : what the profile services write.
-/

namespace HrBooking

/-! ### What refers -/

/-- The accounts that bookings, schedules and profiles name: `E` holds of all of them, and `H` of
the owners of schedules and profiles. -/
structure World.Refers (E H : ObjectId → Prop) (w : World) : Prop where
  bookings : ∀ b ∈ w.bookings, E b.userId ∧ E b.hrUserId
  meetings : ∀ m ∈ w.meetings, ∃ b ∈ w.bookings, b.id = m.bookingId
  availabilities : ∀ i, ∀ availability ∈ w.availabilities i, availability.hrUserId = i ∧ H i
  profiles : ∀ profile ∈ w.profiles, H profile.userId

/-- A call names nobody new. -/
structure World.KeepsRefs (w w' : World) : Prop where
  kept : ∀ b ∈ w.bookings, ∃ b' ∈ w'.bookings, b'.id = b.id
  origin : ∀ b' ∈ w'.bookings, ∃ b ∈ w.bookings,
    b.id = b'.id ∧ b.userId = b'.userId ∧ b.hrUserId = b'.hrUserId
  meetings : ∀ m' ∈ w'.meetings,
    (∃ m ∈ w.meetings, m.bookingId = m'.bookingId) ∨ ∃ b ∈ w.bookings, b.id = m'.bookingId
  availabilities : w'.availabilities = w.availabilities
  profiles : w'.profiles = w.profiles
  issuedIds : w.issuedIds ⊆ w'.issuedIds

section Worlds

variable {E H E' H' : ObjectId → Prop} {w w' w'' : World}

theorem World.Refers.mono (h : w.Refers E H) (hE : ∀ i, E i → E' i) (hH : ∀ i, H i → H' i) :
    w.Refers E' H' where
  bookings b hb := ⟨hE _ (h.bookings b hb).1, hE _ (h.bookings b hb).2⟩
  meetings := h.meetings
  availabilities i a ha := ⟨(h.availabilities i a ha).1, hH _ (h.availabilities i a ha).2⟩
  profiles p hp := hH _ (h.profiles p hp)

theorem World.KeepsRefs.of_bookings
    (hkept : ∀ b ∈ w.bookings, ∃ b' ∈ w'.bookings, b'.id = b.id)
    (horigin : ∀ b' ∈ w'.bookings, ∃ b ∈ w.bookings,
      b.id = b'.id ∧ b.userId = b'.userId ∧ b.hrUserId = b'.hrUserId)
    (hmeetings : w'.meetings = w.meetings) (havailabilities : w'.availabilities = w.availabilities)
    (hprofiles : w'.profiles = w.profiles) (hissued : w.issuedIds ⊆ w'.issuedIds) :
    w.KeepsRefs w' :=
  ⟨hkept, horigin, fun m hm => .inl ⟨m, hmeetings ▸ hm, rfl⟩, havailabilities, hprofiles, hissued⟩

theorem World.KeepsRefs.of_eq (hbookings : w'.bookings = w.bookings)
    (hmeetings : w'.meetings = w.meetings) (havailabilities : w'.availabilities = w.availabilities)
    (hprofiles : w'.profiles = w.profiles) (hissued : w.issuedIds ⊆ w'.issuedIds) :
    w.KeepsRefs w' :=
  .of_bookings (fun b hb => ⟨b, hbookings ▸ hb, rfl⟩)
    (fun b hb => ⟨b, hbookings ▸ hb, rfl, rfl, rfl⟩) hmeetings havailabilities hprofiles hissued

theorem World.KeepsRefs.refl (w : World) : w.KeepsRefs w :=
  .of_eq rfl rfl rfl rfl (List.Subset.refl _)

theorem World.KeepsRefs.trans (h : w.KeepsRefs w') (h' : w'.KeepsRefs w'') : w.KeepsRefs w'' where
  kept b hb := by
    obtain ⟨b', hb', hid⟩ := h.kept b hb
    obtain ⟨b'', hb'', hid'⟩ := h'.kept b' hb'
    exact ⟨b'', hb'', hid'.trans hid⟩
  origin b hb := by
    obtain ⟨b', hb', hid', huser', hhr'⟩ := h'.origin b hb
    obtain ⟨b'', hb'', hid, huser, hhr⟩ := h.origin b' hb'
    exact ⟨b'', hb'', hid.trans hid', huser.trans huser', hhr.trans hhr'⟩
  meetings m hm := by
    rcases h'.meetings m hm with ⟨m', hm', hid'⟩ | ⟨b', hb', hid'⟩
    · rcases h.meetings m' hm' with ⟨m'', hm'', hid⟩ | ⟨b, hb, hid⟩
      · exact .inl ⟨m'', hm'', hid.trans hid'⟩
      · exact .inr ⟨b, hb, hid.trans hid'⟩
    · obtain ⟨b, hb, hid, -, -⟩ := h.origin b' hb'
      exact .inr ⟨b, hb, hid.trans hid'⟩
  availabilities := h'.availabilities.trans h.availabilities
  profiles := h'.profiles.trans h.profiles
  issuedIds := List.Subset.trans h.issuedIds h'.issuedIds

instance : Std.Refl World.KeepsRefs := ⟨.refl⟩

instance : IsTrans World World.KeepsRefs := ⟨fun _ _ _ => .trans⟩

/-- Who is named stays right when nobody new is named. -/
theorem World.KeepsRefs.refers (h : w.KeepsRefs w') (hrefers : w.Refers E H) : w'.Refers E H where
  bookings b hb := by
    obtain ⟨b₀, hb₀, -, huser, hhr⟩ := h.origin b hb
    exact ⟨huser ▸ (hrefers.bookings b₀ hb₀).1, hhr ▸ (hrefers.bookings b₀ hb₀).2⟩
  meetings m hm := by
    obtain ⟨b, hb, hid⟩ : ∃ b ∈ w.bookings, b.id = m.bookingId := by
      rcases h.meetings m hm with ⟨m₀, hm₀, hid₀⟩ | hnew
      · exact hid₀ ▸ hrefers.meetings m₀ hm₀
      · exact hnew
    obtain ⟨b', hb', hid'⟩ := h.kept b hb
    exact ⟨b', hb', hid'.trans hid⟩
  availabilities := h.availabilities ▸ hrefers.availabilities
  profiles := h.profiles ▸ hrefers.profiles

theorem World.SameStore.keepsRefs (h : w.SameStore w') : w.KeepsRefs w' :=
  .of_eq h.bookings h.meetings h.availabilities h.profiles
    (h.issuedIds ▸ List.Subset.refl _)

theorem keepsRefs_of_update {c : Collection Booking} {i : ObjectId} {f : Booking → Booking}
    (h : w.bookings.update i f = some c)
    (hf : ∀ b, (f b).id = b.id ∧ (f b).userId = b.userId ∧ (f b).hrUserId = b.hrUserId) :
    w.KeepsRefs { w with bookings := c } := by
  refine .of_bookings (fun b hb => ?_) (fun b hb => ?_) rfl rfl rfl (List.Subset.refl _)
  · by_cases hid : b.id = i
    · exact ⟨f b, (Collection.mem_update h).2 (.inr ⟨b, hb, hid, rfl⟩), (hf b).1⟩
    · exact ⟨b, (Collection.mem_update h).2 (.inl ⟨hb, hid⟩), rfl⟩
  · rcases (Collection.mem_update h).1 hb with ⟨hb, -⟩ | ⟨d, hd, -, rfl⟩
    · exact ⟨b, hb, rfl, rfl, rfl⟩
    · exact ⟨d, hd, (hf d).1.symm, (hf d).2.1.symm, (hf d).2.2.symm⟩

end Worlds

/-! ### The booking services -/

section Bookings

variable {E H : ObjectId → Prop} {w : World} {o : Oracle}

theorem cancelBooking_keepsRefs (o : Oracle) (actor : Actor) (id : ObjectId)
    (reason : Option String) : (cancelBooking o actor id reason).Within World.KeepsRefs := by
  intro w
  rcases cancelBooking_cases o w actor id reason with
    ⟨⟨e, hrun⟩, -⟩ | ⟨booking, role, c, -, -, -, -, hupd, hrun⟩
  · rw [hrun]
    exact .refl w
  · rw [hrun]
    have hsave : w.KeepsRefs { w with bookings := c } :=
      keepsRefs_of_update hupd fun _ => ⟨rfl, rfl, rfl⟩
    refine hsave.trans (World.SameStore.keepsRefs ?_)
    exact Service.Within.bind (recordCancellation_within _ _ _ _)
      (fun _ => .bind (dispatchBookingCancelled_within _) fun _ => Service.within_pure _) _

theorem rescheduleBooking_keepsRefs (cal : TimezoneName → Calendar) (o : Oracle) (actor : Actor)
    (id : ObjectId) (input : RescheduleBookingInput) :
    (rescheduleBooking cal o actor id input).Within World.KeepsRefs := by
  intro w
  rcases rescheduleBooking_cases cal o w actor id input with
    ⟨⟨e, hrun⟩, -⟩ | ⟨args, c, -, -, -, -, hupd, hrun⟩
  · rw [hrun]
    exact .refl w
  · rw [hrun]
    have hmove : w.KeepsRefs { w with bookings := c } :=
      keepsRefs_of_update hupd fun _ => ⟨rfl, rfl, rfl⟩
    refine hmove.trans (World.SameStore.keepsRefs ?_)
    exact Service.Within.bind (dispatchBookingRescheduled_within _)
      (fun _ => Service.within_pure _) _

theorem createBooking_refers (cal : TimezoneName → Calendar) (o : Oracle) {actor : Actor}
    (input : CreateBookingInput) (hactor : E actor.id) (hEH : ∀ i, H i → E i)
    (h : w.Refers E H) :
    (createBooking cal o actor input w).2.Refers E H ∧
      w.issuedIds ⊆ (createBooking cal o actor input w).2.issuedIds := by
  rcases createBooking_cases cal o w actor input with
    ⟨⟨e, w₁, hrun, rfl | rfl⟩, -⟩ | ⟨args, c, hargs, hins, hrun⟩
  · rw [hrun]
    exact ⟨h, List.Subset.refl _⟩
  · rw [hrun]
    exact ⟨⟨h.bookings, h.meetings, h.availabilities, h.profiles⟩, List.subset_cons_self _ _⟩
  · obtain ⟨profile, hprofile, hoffered, -, -⟩ := createArgs_eq_ok.1 hargs
    obtain ⟨-, rfl⟩ := offeredArgs_eq_ok.1 hoffered
    have howner : H profile.userId :=
      h.profiles profile (bookableProfile_eq_ok.1 hprofile).1
    have hinserted : ({ w with issuedIds := o.newId :: w.issuedIds, bookings := c } : World).Refers
        E H := by
      refine ⟨fun b hb => ?_, fun m hm => ?_, h.availabilities, h.profiles⟩
      · rcases (Collection.mem_insert hins).1 hb with hb | rfl
        · exact h.bookings b hb
        · exact ⟨hactor, hEH _ howner⟩
      · obtain ⟨b, hb, hid⟩ := h.meetings m hm
        exact ⟨b, (Collection.mem_insert hins).2 (.inl hb), hid⟩
    have hdispatched : ∀ w', World.SameStore
        { w with issuedIds := o.newId :: w.issuedIds, bookings := c } w' →
        w'.Refers E H ∧ w.issuedIds ⊆ w'.issuedIds := fun w' hsame =>
      ⟨hsame.keepsRefs.refers hinserted, hsame.issuedIds ▸ List.subset_cons_self _ _⟩
    rw [hrun]
    exact hdispatched _ (Service.Within.bind (dispatchBookingCreated_within _)
      (fun _ => Service.within_pure _) _)

theorem lifecycleSweep_keepsRefs (w : World) : w.KeepsRefs (lifecycleSweep w) := by
  refine .of_bookings (fun b hb => ?_) (fun b hb => ?_) rfl rfl rfl (List.Subset.refl _)
  · obtain ⟨b', hb', hid, -⟩ := lifecycleSweep_keepsProviders w b hb
    exact ⟨b', hb', hid⟩
  · rcases mem_lifecycleSweep hb with hb | ⟨d, hd, -, rfl⟩
    · exact ⟨b, hb, rfl, rfl, rfl⟩
    · exact ⟨d, hd, rfl, rfl, rfl⟩

theorem updateAvailability_refers {hrUserId : ObjectId} (config : SlotConfig) (hhr : H hrUserId)
    (h : w.Refers E H) : (updateAvailability hrUserId config w).Refers E H := by
  refine ⟨h.bookings, h.meetings, fun i availability ha => ?_, h.profiles⟩
  have ha : availability ∈
    if i = hrUserId then some { config with hrUserId } else w.availabilities i := ha
  split_ifs at ha with hi
  · obtain rfl := Option.some.inj ha
    exact ⟨hi.symm, hi ▸ hhr⟩
  · exact h.availabilities i availability ha

theorem getOrCreateAvailability_refers {hrUserId : ObjectId} (hhr : H hrUserId)
    (h : w.Refers E H) : (getOrCreateAvailability hrUserId w).Refers E H := by
  unfold getOrCreateAvailability
  split
  · exact h
  · refine ⟨h.bookings, h.meetings, fun i availability ha => ?_, h.profiles⟩
    by_cases hi : i = hrUserId
    · subst hi
      simp only [Function.update_self] at ha
      obtain rfl := Option.some.inj ha
      exact ⟨rfl, hhr⟩
    · simp only [Function.update_of_ne hi] at ha
      exact h.availabilities i availability ha

theorem getOrCreateAvailability_issuedIds (hrUserId : ObjectId) (w : World) :
    (getOrCreateAvailability hrUserId w).issuedIds = w.issuedIds := by
  unfold getOrCreateAvailability
  split <;> rfl

end Bookings

/-! ### The meeting services -/

/-- **No write of a meeting service names anybody new**: a new record is of a stored booking. -/
theorem World.MeetingWrite.keepsRefs {o : Oracle} {w w' : World}
    (h : World.MeetingWrite o w w') : w.KeepsRefs w' := by
  cases h with
  | call | take => exact .of_eq rfl rfl rfl rfl (by simp)
  | save hupdate =>
    refine ⟨fun b hb => ⟨b, hb, rfl⟩, fun b hb => ⟨b, hb, rfl, rfl, rfl⟩, fun m hm => .inl ?_,
      rfl, rfl, List.Subset.refl _⟩
    rcases (Collection.mem_update hupdate).1 hm with ⟨hm, -⟩ | ⟨m₀, hm₀, -, rfl⟩
    · exact ⟨m, hm, rfl⟩
    · exact ⟨m₀, hm₀, rfl⟩
  | create hbooking hins =>
    rename_i booking c
    refine ⟨fun b hb => ⟨b, hb, rfl⟩, fun b hb => ⟨b, hb, rfl, rfl, rfl⟩, fun m hm => ?_,
      rfl, rfl, List.subset_cons_self _ _⟩
    rcases (Collection.mem_insert hins).1 hm with hm | rfl
    · exact .inl ⟨m, hm, rfl⟩
    · exact .inr ⟨booking, hbooking, rfl⟩

theorem World.MeetingWrites.keepsRefs {o : Oracle} {w w' : World}
    (h : World.MeetingWrites o w w') : w.KeepsRefs w' :=
  h.keeps fun _ _ h => h.keepsRefs

/-! ### The account services -/

/-- Only accounts and sessions are written, and the sessions are of accounts that `E` holds of. -/
structure OnlySessions (E : ObjectId → Prop) (p p' : Platform) : Prop where
  world : p.world.KeepsRefs p'.world
  oauthAccounts : p'.oauthAccounts = p.oauthAccounts
  refreshTokens : ∀ t ∈ p'.refreshTokens, E t.userId

/-- No account is removed, none stops being a consultant's, and the new ones have the identities
`ids`. -/
structure UsersGrow (ids : List ObjectId) (users users' : Collection User) : Prop where
  kept : ∀ u ∈ users, ∃ u' ∈ users', u'.id = u.id ∧ (u.role = .hr → u'.role = .hr)
  origin : ∀ u' ∈ users', u'.id ∈ ids ∨ ∃ u ∈ users, u.id = u'.id

section Accounts

variable {E : ObjectId → Prop} {cr : Crypto} {d : Draw} {device : DeviceContext}
  {p q : Platform}

theorem createRefreshToken_sessions {userId : ObjectId} (hid : E userId)
    (h : OnlySessions E p q) :
    OnlySessions E p (createRefreshToken cr d userId device q).2 := by
  have hworld : p.world.KeepsRefs (q.draw d).world :=
    h.world.trans (.of_eq rfl rfl rfl rfl (List.subset_cons_self _ _))
  unfold createRefreshToken
  split_ifs
  · split
    · exact ⟨hworld, h.oauthAccounts, h.refreshTokens⟩
    · rename_i hins
      refine ⟨hworld, h.oauthAccounts, fun t ht => ?_⟩
      rcases (Collection.mem_insert hins).1 ht with ht | rfl
      · exact h.refreshTokens t ht
      · exact hid
  · exact ⟨hworld, h.oauthAccounts, h.refreshTokens⟩

theorem saveRevoked_sessions (previous : RefreshToken) (now : ℤ) (tokenHash : String)
    (h : OnlySessions E p q) : OnlySessions E p (saveRevoked previous now tokenHash q).2 := by
  unfold saveRevoked
  split
  · exact h
  · split
    · exact h
    · rename_i hupdate
      refine ⟨h.world, h.oauthAccounts, fun t ht => ?_⟩
      rcases (Collection.mem_update hupdate).1 ht with ⟨ht, -⟩ | ⟨stored, hstored, -, rfl⟩
      · exact h.refreshTokens t ht
      · exact h.refreshTokens stored hstored

theorem saveUser_sessions (loaded current : User) (h : OnlySessions E p q) :
    OnlySessions E p (saveUser loaded current q).2 := by
  unfold saveUser
  split
  · exact h
  · split
    · exact h
    · exact ⟨h.world, h.oauthAccounts, h.refreshTokens⟩

theorem removeTokensOf_sessions (userId : ObjectId) (h : OnlySessions E p q) :
    OnlySessions E p (q.removeTokensOf userId) :=
  ⟨h.world, h.oauthAccounts, fun t ht => h.refreshTokens t (Collection.mem_delete.1 ht).1⟩

theorem issueTokens_sessions (user : User) (hid : E user.id) (previous : Option RefreshToken)
    (h : OnlySessions E p q) : OnlySessions E p (issueTokens cr d user device previous q).2 := by
  refine andThen_keeps (q := OnlySessions E p) (createRefreshToken_sessions hid h) fun _ q hq => ?_
  cases previous with
  | none => exact hq
  | some previous =>
    exact andThen_keeps (q := OnlySessions E p) (saveRevoked_sessions _ _ _ hq) fun _ _ hq => hq

theorem login_sessions (hE : ∀ u ∈ p.users, u.isEmailVerified = true → E u.id)
    (input : LoginInput) (h : OnlySessions E p p) :
    OnlySessions E p (login cr d input device p).2 := by
  unfold login
  cases hadmitted : admitted p.world.now (p.users.findByKey (toLowerCase input.email)) with
  | error e => exact h
  | ok user =>
    obtain ⟨hmem, -⟩ := Collection.findByKey_eq_some.1 (admitted_eq_ok.1 hadmitted).1
    have hgo : ∀ (_ : Unit) (q : Platform), OnlySessions E p q → OnlySessions E p
        (if user.isEmailVerified then issueTokens cr d user.resetFailedAttempts device none q
        else q.answer (.error (.unauthorized
          "Please verify your email address before logging in."))).2 := by
      intro _ q hq
      split_ifs with hverified
      · exact issueTokens_sessions user.resetFailedAttempts (hE user hmem hverified) none hq
      · exact hq
    rw [answer_ok_andThen]
    by_cases hpassword : cr.verifyPassword input.password user.password = false
    · rw [if_pos hpassword]
      exact andThen_keeps (q := OnlySessions E p) (saveUser_sessions _ _ h) fun _ _ hq => hq
    · rw [if_neg hpassword]
      refine andThen_keeps (q := OnlySessions E p) ?_ hgo
      split_ifs
      · exact saveUser_sessions _ _ h
      · exact h

theorem refresh_sessions (presented : Option String) (h : OnlySessions E p p) :
    OnlySessions E p (refresh cr d presented device p).2 := by
  rcases refresh_cases cr d p presented device with
    ⟨e, hrun⟩ | ⟨stored, -, -, e, hrun⟩ |
      ⟨-, stored, user, -, hstored, -, -, -, -, hid, -, hrun⟩
  · rw [hrun]
    exact h
  · rw [hrun]
    exact ⟨h.world, h.oauthAccounts,
      fun t ht => h.refreshTokens t (Collection.mem_delete.1 ht).1⟩
  · rw [hrun]
    exact issueTokens_sessions user (hid ▸ h.refreshTokens stored hstored) (some stored) h

/-- **No account service names anybody new**: unless it deletes an account, it writes accounts and
sessions only, and a new session is of a stored account. -/
theorem account_step_sessions {a : AccountAction} {p' : Platform} (hdeletes : a.deletes = false)
    (hstep : (accounts cr).step p a = some p') (hE : ∀ u ∈ p.users, E u.id)
    (htokens : ∀ t ∈ p.refreshTokens, E t.userId) : OnlySessions E p p' := by
  have h : OnlySessions E p p := ⟨.refl _, rfl, htokens⟩
  cases a with
  | login d input device =>
    obtain ⟨-, hp'⟩ := Option.ite_none_right_eq_some.1 hstep
    exact Option.some.inj hp' ▸ login_sessions (fun u hu _ => hE u hu) input h
  | refresh d presented device =>
    obtain ⟨-, hp'⟩ := Option.ite_none_right_eq_some.1 hstep
    exact Option.some.inj hp' ▸ refresh_sessions presented h
  | logout presented =>
    obtain rfl := (Option.some.inj hstep).symm
    unfold logout
    split
    · exact h
    · exact ⟨h.world, rfl, fun t ht => h.refreshTokens t (Collection.mem_delete.1 ht).1⟩
  | resetPassword salt link newPassword =>
    refine Option.some.inj hstep ▸ andThen_keeps (q := OnlySessions E p) h fun user q hq => ?_
    exact andThen_keeps (q := OnlySessions E p) (saveUser_sessions _ _ hq) fun _ _ hq =>
      removeTokensOf_sessions _ hq
  | suspendUser userId =>
    refine Option.some.inj hstep ▸ andThen_keeps (q := OnlySessions E p) h fun user q hq => ?_
    exact andThen_keeps (q := OnlySessions E p) (saveUser_sessions _ _ hq) fun _ _ hq =>
      removeTokensOf_sessions _ hq
  | reactivateUser userId =>
    refine Option.some.inj hstep ▸ andThen_keeps (q := OnlySessions E p) h fun user q hq => ?_
    exact andThen_keeps (q := OnlySessions E p) (saveUser_sessions _ _ hq) fun _ _ hq => hq
  | deleteUser o actor userId => cases hdeletes
  | expire id =>
    exact Option.some.inj hstep ▸
      ⟨h.world, rfl, fun t ht => h.refreshTokens t (Collection.mem_delete.1 ht).1⟩
  | advance ms =>
    exact Option.some.inj hstep ▸
      ⟨.of_eq rfl rfl rfl rfl (List.Subset.refl _), rfl, h.refreshTokens⟩

theorem onUser_role (cr : Crypto) (p : Platform) (a : AccountAction) (user : User) :
    (a.onUser cr p user).role = user.role := by
  unfold AccountAction.onUser
  split
  · split_ifs
    · unfold User.afterVerification User.incrementFailedAttempts User.resetFailedAttempts
      split_ifs <;> rfl
    · rfl
  · split_ifs <;> rfl
  · split_ifs <;> rfl
  · split_ifs <;> rfl
  · rfl

theorem UsersGrow.refl (users : Collection User) : UsersGrow [] users users :=
  ⟨fun u hu => ⟨u, hu, rfl, id⟩, fun u hu => .inr ⟨u, hu, rfl⟩⟩

theorem account_step_users {a : AccountAction} {p' : Platform} (hdeletes : a.deletes = false)
    (hstep : (accounts cr).step p a = some p') : UsersGrow [] p.users p'.users where
  kept u hu := ⟨a.onUser cr p u, (users_step hdeletes hstep _).2 ⟨u, hu, rfl⟩, onUser_id cr p a u,
    fun hrole => (onUser_role cr p a u).trans hrole⟩
  origin u' hu' := by
    obtain ⟨u, hu, rfl⟩ := (users_step hdeletes hstep _).1 hu'
    exact .inr ⟨u, hu, (onUser_id cr p a u).symm⟩

theorem UsersGrow.mono {ids ids' : List ObjectId} {users users' : Collection User}
    (h : UsersGrow ids users users') (hids : ids ⊆ ids') : UsersGrow ids' users users' :=
  ⟨h.kept, fun u hu => (h.origin u hu).imp_left (@hids u.id)⟩

theorem UsersGrow.of_insert {users users' : Collection User} {new : User}
    (h : users.insert new = some users') : UsersGrow [new.id] users users' where
  kept u hu := ⟨u, (Collection.mem_insert h).2 (.inl hu), rfl, id⟩
  origin u' hu' := by
    rcases (Collection.mem_insert h).1 hu' with hu' | rfl
    · exact .inr ⟨u', hu', rfl⟩
    · exact .inl (List.mem_singleton_self _)

end Accounts

/-! ### The deletion of an account -/

section Deletion

variable {E H : ObjectId → Prop} {user : User} {p p' : Platform} {w : World}

theorem cancelAll_keepsRefs (o : ObjectId → Oracle) (actor : Actor) (bookings : List Booking)
    (w : World) : w.KeepsRefs (cancelAll o actor bookings w) := by
  induction bookings generalizing w with
  | nil => exact .refl w
  | cons b bookings ih =>
    have hcancel := cancelBooking_keepsRefs (o b.id) actor b.id (some deletionReason) w
    exact hcancel.trans (ih _)

/-- **What is left names other accounts**; an account that is no consultant's has nothing that only
consultants have. -/
theorem RemovedFrom.refers (h : RemovedFrom user p w p') (hw : w.Refers E H)
    (hH : user.role ≠ .hr → ¬ H user.id) :
    p'.world.Refers (fun i => E i ∧ i ≠ user.id) fun i => H i ∧ i ≠ user.id := by
  have hother : user.role ≠ .hr → ∀ i, H i → i ≠ user.id := by
    rintro hrole i hi rfl
    exact hH hrole hi
  constructor
  · intro b hb
    obtain ⟨hb, huser, hhr⟩ := h.mem_bookings.1 hb
    exact ⟨⟨(hw.bookings b hb).1, huser⟩, ⟨(hw.bookings b hb).2, hhr⟩⟩
  · intro m hm
    obtain ⟨hm, hstays⟩ := h.mem_meetings.1 hm
    obtain ⟨b, hb, hid⟩ := hw.meetings m hm
    exact ⟨b, hstays b hb hid, hid⟩
  · intro i availability ha
    rw [h.availabilities] at ha
    split_ifs at ha with hrole
    · by_cases hi : i = user.id
      · rw [hi, Function.update_self] at ha
        cases ha
      · rw [Function.update_of_ne hi] at ha
        have hold := hw.availabilities i availability ha
        exact ⟨hold.1, hold.2, hi⟩
    · have hold := hw.availabilities i availability ha
      exact ⟨hold.1, hold.2, hother hrole i hold.2⟩
  · intro profile hprofile
    rw [h.profiles] at hprofile
    split_ifs at hprofile with hrole
    · obtain ⟨hprofile, hid⟩ := Collection.mem_delete_decide.1 hprofile
      exact ⟨hw.profiles profile hprofile, hid⟩
    · have howner := hw.profiles profile hprofile
      exact ⟨howner, hother hrole _ howner⟩

end Deletion

/-! ### The profile services -/

/-- A profile stays with its owner or is a stored consultant's, and its reviewer stays or satisfies
`R`. -/
structure Directory.Grows (ids : List ObjectId) (R : ObjectId → Prop) (d d' : Directory) :
    Prop where
  users : UsersGrow ids d.users d'.users
  owners : ∀ p' ∈ d'.profiles, (∃ p ∈ d.profiles, p.userId = p'.userId) ∨
    ∃ u ∈ d'.users, u.id = p'.userId ∧ u.role = .hr
  reviewers : ∀ p' ∈ d'.profiles, ∀ i ∈ p'.reviewedBy, (∃ p ∈ d.profiles, i ∈ p.reviewedBy) ∨ R i

section Profiles

variable {R : ObjectId → Prop} {d : Directory}

theorem Directory.Grows.refl (R : ObjectId → Prop) (d : Directory) : d.Grows [] R d where
  users := .refl _
  owners p hp := .inl ⟨p, hp, rfl⟩
  reviewers p hp _ hi := .inl ⟨p, hp, hi⟩

theorem Directory.Grows.mono {ids ids' : List ObjectId} {d' : Directory} (h : d.Grows ids R d')
    (hids : ids ⊆ ids') : d.Grows ids' R d' :=
  ⟨h.users.mono hids, h.owners, h.reviewers⟩

theorem saveProfile_grows {p p' : HRProfileDocument} (hp : p ∈ d.profiles) (hid : p'.id = p.id)
    (howner : p'.userId = p.userId) (hreviewer : ∀ i ∈ p'.reviewedBy, i ∈ p.reviewedBy ∨ R i) :
    d.Grows [] R (saveProfile p p' d).2 := by
  obtain ⟨profiles, hsave, hmem⟩ := saveProfile_of_mem hp hid howner
  rw [hsave]
  refine ⟨.refl _, fun q hq => .inl ?_, fun q hq i hi => ?_⟩
  · rcases (hmem q).1 hq with ⟨hq, -⟩ | rfl
    · exact ⟨q, hq, rfl⟩
    · exact ⟨p, hp, howner.symm⟩
  · rcases (hmem q).1 hq with ⟨hq, -⟩ | rfl
    · exact .inl ⟨q, hq, hi⟩
    · exact (hreviewer i hi).imp_left fun hi => ⟨p, hp, hi⟩

/-- The account that reviews with a request. -/
def ReviewRequest.IsBy (i : ObjectId) : ReviewRequest → Prop
  | submit _ | withdraw _ => False
  | approve actor _ | reject actor _ _ => i = actor.id

theorem review_grows (request : ReviewRequest) (hR : ∀ i, request.IsBy i → R i) :
    d.Grows [] R (review request d).2 := by
  unfold review editProfile
  cases hfind : request.find? d.profiles with
  | none => exact .refl R d
  | some p =>
    simp only
    cases hrevise : request.revise d.now p with
    | error e => exact .refl R d
    | ok current =>
      obtain ⟨-, rfl⟩ := ReviewRequest.revise_eq_ok.1 hrevise
      refine saveProfile_grows (ReviewRequest.find?_mem hfind) ReviewRequest.assign_id
        ReviewRequest.assign_userId fun i hi => ?_
      cases request with
      | submit | withdraw => exact .inl hi
      | approve | reject => exact .inr (hR i (Option.some.inj hi).symm)

theorem setAvailability_grows (userId : ObjectId) (isAvailable : Bool) :
    d.Grows [] R (setAvailability userId isAvailable d).2 := by
  unfold setAvailability editProfile
  cases hfind : d.profiles.findByKey userId with
  | none => exact .refl R d
  | some p =>
    exact saveProfile_grows (Collection.findByKey_eq_some.1 hfind).1 rfl rfl fun _ hi => .inl hi

theorem saveRole_of_mem {user : User} (huser : user ∈ d.users) (role : UserRole) :
    ∃ users, d.saveRole user role = { d with users } ∧
      ∀ u, u ∈ users ↔ (u ∈ d.users ∧ u.id ≠ user.id) ∨ u = user.withRole role := by
  obtain ⟨users, hupdate, husers⟩ :=
    Collection.update_of_mem (f := fun u : User => u.withRole role) huser rfl rfl
  have hupdate : d.users.update user.id (fun u => u.withRole role) = some users := hupdate
  exact ⟨users, by simp only [Directory.saveRole, hupdate, Option.getD_some], husers⟩

theorem Directory.Grows.of_insert {ids : List ObjectId} {d' : Directory} {newId : ObjectId}
    {user : User} {input : UpsertProfileBody} (husers : UsersGrow ids d.users d'.users)
    (huser : user ∈ d'.users) (hrole : user.role = .hr)
    (h : d.profiles.insert (.draft newId user.id input) = some d'.profiles) :
    d.Grows ids R d' where
  users := husers
  owners p hp := by
    rcases (Collection.mem_insert h).1 hp with hp | rfl
    · exact .inl ⟨p, hp, rfl⟩
    · exact .inr ⟨user, huser, rfl, hrole⟩
  reviewers p hp i hi := by
    rcases (Collection.mem_insert h).1 hp with hp | rfl
    · exact .inl ⟨p, hp, hi⟩
    · cases hi

/-- The account is a consultant's when its profile is created; a role that was taken back was no
consultant's. -/
theorem createProfile_grows {user : User} (huser : user ∈ d.users) (newId : ObjectId)
    (input : UpsertProfileBody) : d.Grows [] R (createProfile user newId input d).2 := by
  by_cases hrole : user.role = .hr
  · simp only [createProfile, hrole, ne_eq, not_true, if_false]
    cases hins : d.profiles.insert (.draft newId user.id input) with
    | none => exact .refl R d
    | some profiles => exact .of_insert (.refl _) huser hrole hins
  · obtain ⟨users, hsave, husers⟩ := saveRole_of_mem huser .hr
    simp only [createProfile, ne_eq, hrole, not_false_eq_true, if_true, hsave]
    have hself : user.withRole .hr ∈ users := (husers _).2 (.inr rfl)
    have hgrow : ∀ (users' : Collection User) (role : UserRole),
        (∀ u, u ∈ users' ↔ (u ∈ d.users ∧ u.id ≠ user.id) ∨ u = user.withRole role) →
          UsersGrow [] d.users users' := by
      intro users' role husers'
      refine ⟨fun u hu => ?_, fun u' hu' => .inr ?_⟩
      · by_cases hid : u.id = user.id
        · obtain rfl : u = user := Collection.eq_of_docId hu huser hid
          exact ⟨u.withRole role, (husers' _).2 (.inr rfl), rfl, fun h => absurd h hrole⟩
        · exact ⟨u, (husers' u).2 (.inl ⟨hu, hid⟩), rfl, id⟩
      · rcases (husers' u').1 hu' with ⟨hu', -⟩ | rfl
        · exact ⟨u', hu', rfl⟩
        · exact ⟨user, huser, rfl⟩
    cases hins : d.profiles.insert (.draft newId user.id input) with
    | some profiles => exact .of_insert (hgrow users .hr husers) hself rfl hins
    | none =>
      -- the document that is saved back is the one with the new role
      obtain ⟨users', hback, husers'⟩ := saveRole_of_mem (d := { d with users }) hself .user
      have hback : ({ d with users } : Directory).saveRole user .user =
        { d with users := users' } := hback
      rw [hback]
      refine ⟨hgrow users' .user fun u => (husers' u).trans ?_,
        fun p hp => .inl ⟨p, hp, rfl⟩, fun p hp i hi => .inl ⟨p, hp, hi⟩⟩
      refine or_congr_left ⟨fun h => ?_, fun h => ⟨(husers u).2 (.inl h), h.2⟩⟩
      rcases (husers u).1 h.1 with hu | rfl
      · exact hu
      · exact absurd rfl h.2

theorem upsertProfile_grows (userId newId : ObjectId) (input : UpsertProfileBody) :
    d.Grows [] R (upsertProfile userId newId input d).2 := by
  unfold upsertProfile
  split_ifs
  · cases hfind : d.profiles.findByKey userId with
    | some existing =>
      exact saveProfile_grows (Collection.findByKey_eq_some.1 hfind).1 rfl rfl fun _ hi => .inl hi
    | none =>
      simp only
      cases hfound : d.users.findById userId with
      | none => exact .refl R d
      | some user =>
        exact createProfile_grows (Collection.findById_eq_some.1 hfound).1 newId input
  · exact .refl R d

/-- A new consultant has the first of the identities; when the profile is not created, the account
is removed again. -/
theorem registerHr_grows (cr : Crypto) (newId profileId : ObjectId) (salt : ℕ)
    (input : RegisterHrInput) :
    d.Grows [newId, profileId] R (registerHr cr newId profileId salt input d).2 := by
  have hsame : d.Grows [newId, profileId] R d := (Directory.Grows.refl R d).mono (by simp)
  unfold registerHr
  split
  · exact hsame
  · split_ifs
    · cases hins : d.users.insert (newConsultant cr newId salt input) with
      | none => exact hsame
      | some users =>
        have hadded : UsersGrow [newId] d.users users := .of_insert hins
        simp only
        cases hcreate : d.profiles.insert (.draft profileId newId input.profile) with
        | some profiles =>
          exact .of_insert (hadded.mono (by simp)) ((Collection.mem_insert hins).2 (.inr rfl)) rfl
            hcreate
        | none =>
          refine ⟨⟨fun u hu => ⟨u, Collection.mem_delete_decide.2 ⟨?_, ?_⟩, rfl, id⟩,
            fun u hu => ?_⟩, fun p hp => .inl ⟨p, hp, rfl⟩, fun p hp i hi => .inl ⟨p, hp, hi⟩⟩
          · exact (Collection.mem_insert hins).2 (.inl hu)
          · exact ((Collection.insert_eq_some.1 hins).1 u hu).1
          · exact (hadded.mono (by simp)).origin u (Collection.mem_delete.1 hu).1
    · exact hsame

end Profiles

end HrBooking
