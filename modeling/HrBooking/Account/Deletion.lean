import HrBooking.Account.Session
import HrBooking.Booking.Service

/-!
# Deleting an account

`deleteUser` of `services/admin-user.service.ts` as one call on the shared state: the active
bookings are cancelled through the normal cancellation, then everything that belongs to the account
is removed.

* `deleteUser_cases` : it is refused, or nothing of the account is left.
* `RemovedFrom`, `deleteUser_of_mem` : what is left of each collection.
-/

namespace HrBooking

/-! ### Commands -/

/-- The bookings an account takes part in. -/
def World.bookingsOf (userId : ObjectId) (w : World) : List Booking :=
  w.bookings.docs.filter fun b => b.userId = userId ∨ b.hrUserId = userId

/-- Those of them that still occupy a slot. -/
def World.activeBookingsOf (userId : ObjectId) (w : World) : List Booking :=
  w.bookings.docs.filter fun b => (b.userId = userId ∨ b.hrUserId = userId) ∧ b.isActive

/-- `Meeting.deleteMany` -/
def World.deleteMeetings (bookingIds : List ObjectId) (w : World) : World :=
  { w with meetings := w.meetings.delete fun m => m.bookingId ∈ bookingIds }

/-- `Booking.deleteMany` -/
def World.deleteBookings (bookingIds : List ObjectId) (w : World) : World :=
  { w with bookings := w.bookings.delete fun b => b.id ∈ bookingIds }

/-- `Availability.deleteMany` -/
def World.deleteAvailability (hrUserId : ObjectId) (w : World) : World :=
  { w with availabilities := Function.update w.availabilities hrUserId none }

/-- `HRProfile.deleteMany` -/
def World.deleteProfile (userId : ObjectId) (w : World) : World :=
  { w with profiles := w.profiles.delete fun profile => profile.userId = userId }

/-- `OAuthAccount.deleteMany` -/
def Platform.deleteConnection (userId : ObjectId) (p : Platform) : Platform :=
  { p with oauthAccounts := p.oauthAccounts.delete fun account => account.userId = userId }

/-- `User.deleteOne` -/
def Platform.deleteAccount (userId : ObjectId) (p : Platform) : Platform :=
  { p with users := p.users.delete fun user => user.id = userId }

/-! ### The call -/

/-- The checks of `deleteUser`. -/
def deletable (found : Option User) : Except AppError User :=
  match found with
  | none => .error (.notFound "User not found.")
  | some user =>
    if user.isAdmin then .error (.badRequest "Admin accounts cannot be deleted here.")
    else .ok user

/-- The reason the counterpart of a deleted account is given. -/
def deletionReason : String := "The other party's account was deleted."

/-- What is left of a deleted account. -/
structure DeletedUserSummary where
  email : String
  firstName : String
  lastName : String

/-- The active bookings of the account are cancelled, one after the other; a cancellation that fails
is only logged. -/
def cancelAll (o : ObjectId → Oracle) (actor : Actor) (bookings : List Booking) (w : World) :
    World :=
  bookings.foldl (fun w b => (cancelBooking (o b.id) actor b.id (some deletionReason) w).2) w

/-- `deleteUser` -/
def deleteUser (o : ObjectId → Oracle) (actor : Actor) (userId : ObjectId) (p : Platform) :
    Answer DeletedUserSummary :=
  (p.answer (deletable (p.users.findById userId))).andThen fun user p =>
    let p := p.onWorld (cancelAll o actor (p.world.activeBookingsOf user.id))
    let bookingIds := (p.world.bookingsOf user.id).map Booking.id
    let p := p.onWorld (World.deleteMeetings bookingIds)
    let p := p.onWorld (World.deleteBookings bookingIds)
    let p := p.removeTokensOf user.id
    let p :=
      if user.role = .hr then
        ((p.onWorld (World.deleteAvailability user.id)).deleteConnection user.id).onWorld
          (World.deleteProfile user.id)
      else p
    (p.deleteAccount user.id).answer (.ok ⟨user.email, user.firstName, user.lastName⟩)

/-! ### What the call writes -/

theorem deletable_eq_ok {found : Option User} {user : User} :
    deletable found = .ok user ↔ found = some user ∧ user.isAdmin = false := by
  unfold deletable
  cases found with
  | none => simp
  | some u =>
    simp only [Option.some.injEq]
    split_ifs with hadmin
    · refine iff_of_false (fun h => by cases h) ?_
      rintro ⟨rfl, hnot⟩
      cases hadmin.symm.trans hnot
    · rw [Except.ok.injEq]
      refine ⟨?_, And.left⟩
      rintro rfl
      exact ⟨rfl, Bool.eq_false_iff.2 hadmin⟩

theorem deleteUser_refused (o : ObjectId → Oracle) (actor : Actor) {userId : ObjectId}
    {p : Platform} (h : ¬ ∃ u ∈ p.users, u.id = userId ∧ u.isAdmin = false) :
    ∃ e, deleteUser o actor userId p = p.answer (.error e) := by
  unfold deleteUser
  cases hdel : deletable (p.users.findById userId) with
  | error e => exact ⟨e, rfl⟩
  | ok user =>
    obtain ⟨hfind, hadmin⟩ := deletable_eq_ok.1 hdel
    obtain ⟨huser, hid⟩ := Collection.findById_eq_some.1 hfind
    exact absurd ⟨user, huser, hid, hadmin⟩ h

theorem cancelBooking_frame (o : Oracle) (actor : Actor) (id : ObjectId)
    (reason : Option String) (w : World) :
    (cancelBooking o actor id reason w).2.now = w.now ∧
      (cancelBooking o actor id reason w).2.issuedIds = w.issuedIds := by
  rcases cancelBooking_cases o w actor id reason with
    ⟨⟨e, hrun⟩, -⟩ | ⟨booking, role, c, -, -, -, -, -, hrun⟩
  · rw [hrun]
    exact ⟨rfl, rfl⟩
  · rw [hrun]
    have hsame := Service.Within.bind (recordCancellation_within (o := o) actor role
      (booking.cancel w.now role reason) reason) (fun _ => Service.Within.bind
        (dispatchBookingCancelled_within (o := o) (booking.cancel w.now role reason))
        fun _ => Service.within_pure (booking.cancel w.now role reason)) { w with bookings := c }
    exact ⟨hsame.now, hsame.issuedIds⟩

theorem cancelAll_frame (o : ObjectId → Oracle) (actor : Actor) (bookings : List Booking)
    (w : World) :
    (cancelAll o actor bookings w).now = w.now ∧
      (cancelAll o actor bookings w).issuedIds = w.issuedIds := by
  induction bookings generalizing w with
  | nil => exact ⟨rfl, rfl⟩
  | cons b bookings ih =>
    have hhead := cancelBooking_frame (o b.id) actor b.id (some deletionReason) w
    have htail := ih (cancelBooking (o b.id) actor b.id (some deletionReason) w).2
    exact ⟨htail.1.trans hhead.1, htail.2.trans hhead.2⟩

/-- **A deletion** is refused without a write, or removes the account and its sessions; time does
not pass and no document is made. -/
theorem deleteUser_cases (o : ObjectId → Oracle) (actor : Actor) (userId : ObjectId)
    (p : Platform) :
    (∃ e, deleteUser o actor userId p = p.answer (.error e)) ∨
      ∃ (summary : DeletedUserSummary) (p' : Platform),
        deleteUser o actor userId p = p'.answer (.ok summary) ∧
        p'.users = p.users.delete (fun user => user.id = userId) ∧
        p'.refreshTokens = p.refreshTokens.delete (fun t => t.userId = userId) ∧
        p'.world.now = p.world.now ∧ p'.world.issuedIds = p.world.issuedIds ∧
        p'.drawnTokens = p.drawnTokens := by
  unfold deleteUser
  cases hfind : p.users.findById userId with
  | none => exact .inl ⟨_, rfl⟩
  | some user =>
    obtain ⟨-, rfl⟩ := Collection.findById_eq_some.1 hfind
    cases hadmin : user.isAdmin with
    | true => exact .inl ⟨_, by simp only [deletable, hadmin]; rfl⟩
    | false =>
      have hdel : deletable (some user) = .ok user := deletable_eq_ok.2 ⟨rfl, hadmin⟩
      rw [hdel]
      have hframe := cancelAll_frame o actor
        (p.world.activeBookingsOf user.id) p.world
      refine .inr ⟨_, _, rfl, ?_⟩
      split_ifs
      · exact ⟨rfl, rfl, hframe.1, hframe.2, rfl⟩
      · exact ⟨rfl, rfl, hframe.1, hframe.2, rfl⟩

/-- What is left of each collection when the account is deleted, after its active bookings have been
cancelled in `w`. -/
structure RemovedFrom (user : User) (p : Platform) (w : World) (p' : Platform) : Prop where
  users : p'.users = p.users.delete fun u => u.id = user.id
  refreshTokens : p'.refreshTokens = p.refreshTokens.delete fun t => t.userId = user.id
  oauthAccounts : p'.oauthAccounts =
    if user.role = .hr then p.oauthAccounts.delete fun account => account.userId = user.id
    else p.oauthAccounts
  bookings : p'.world.bookings =
    w.bookings.delete fun b => b.id ∈ (w.bookingsOf user.id).map Booking.id
  meetings : p'.world.meetings =
    w.meetings.delete fun m => m.bookingId ∈ (w.bookingsOf user.id).map Booking.id
  availabilities : p'.world.availabilities =
    if user.role = .hr then Function.update w.availabilities user.id none else w.availabilities
  profiles : p'.world.profiles =
    if user.role = .hr then w.profiles.delete fun profile => profile.userId = user.id
    else w.profiles
  auditLog : p'.world.auditLog = w.auditLog
  issuedIds : p'.world.issuedIds = w.issuedIds

section Removed

variable {user : User} {p p' : Platform} {w : World}

theorem RemovedFrom.mem_users (h : RemovedFrom user p w p') {u : User} :
    u ∈ p'.users ↔ u ∈ p.users ∧ u.id ≠ user.id := by
  rw [h.users, Collection.mem_delete_decide]

theorem RemovedFrom.mem_refreshTokens (h : RemovedFrom user p w p') {t : RefreshToken} :
    t ∈ p'.refreshTokens ↔ t ∈ p.refreshTokens ∧ t.userId ≠ user.id := by
  rw [h.refreshTokens, Collection.mem_delete_decide]

theorem RemovedFrom.mem_oauthAccounts (h : RemovedFrom user p w p') {account : OAuthAccount} :
    account ∈ p'.oauthAccounts ↔
      account ∈ p.oauthAccounts ∧ (user.role = .hr → account.userId ≠ user.id) := by
  rw [h.oauthAccounts]
  split_ifs with hrole
  · simp only [Collection.mem_delete_decide, hrole, forall_const]
  · exact ⟨fun haccount => ⟨haccount, fun h => absurd h hrole⟩, And.left⟩

theorem RemovedFrom.mem_bookings (h : RemovedFrom user p w p') {b : Booking} :
    b ∈ p'.world.bookings ↔ b ∈ w.bookings ∧ b.userId ≠ user.id ∧ b.hrUserId ≠ user.id := by
  rw [h.bookings, Collection.mem_delete_decide]
  refine and_congr_right fun hb => ⟨fun hid => ?_, fun hparty hid => ?_⟩
  · refine not_or.1 fun hparty => hid (List.mem_map_of_mem ?_)
    exact List.mem_filter.2 ⟨hb, decide_eq_true hparty⟩
  · obtain ⟨c, hc, hcb⟩ := List.mem_map.1 hid
    obtain ⟨hc, hcparty⟩ := List.mem_filter.1 hc
    obtain rfl : c = b := Collection.eq_of_docId hc hb hcb
    exact (of_decide_eq_true hcparty).elim hparty.1 hparty.2

theorem RemovedFrom.mem_meetings (h : RemovedFrom user p w p') {m : Meeting} :
    m ∈ p'.world.meetings ↔
      m ∈ w.meetings ∧ ∀ b ∈ w.bookings, b.id = m.bookingId → b ∈ p'.world.bookings := by
  rw [h.meetings, h.bookings, Collection.mem_delete_decide]
  refine and_congr_right fun _ => ⟨fun hid b hb hbid => ?_, fun hstays hid => ?_⟩
  · exact Collection.mem_delete_decide.2 ⟨hb, hbid ▸ hid⟩
  · obtain ⟨b, hb, hbid⟩ := List.mem_map.1 hid
    have hleft := hstays b (List.mem_filter.1 hb).1 hbid
    exact (Collection.mem_delete_decide.1 hleft).2 (List.mem_map_of_mem hb)

end Removed

/-- **The deletion of an account** that is stored and no admin's. -/
theorem deleteUser_of_mem (o : ObjectId → Oracle) (actor : Actor) {user : User} {p : Platform}
    (huser : user ∈ p.users) (hadmin : user.isAdmin = false) :
    ∃ p', deleteUser o actor user.id p =
        p'.answer (.ok ⟨user.email, user.firstName, user.lastName⟩) ∧
      RemovedFrom user p (cancelAll o actor (p.world.activeBookingsOf user.id) p.world) p' := by
  have hfind : p.users.findById user.id = some user := Collection.findById_of_mem huser
  have hdel : deletable (some user) = .ok user := deletable_eq_ok.2 ⟨rfl, hadmin⟩
  unfold deleteUser
  rw [hfind, hdel]
  refine ⟨_, rfl, ?_⟩
  split_ifs with hrole
  · exact ⟨rfl, rfl, (if_pos hrole).symm, rfl, rfl, (if_pos hrole).symm, (if_pos hrole).symm,
      rfl, rfl⟩
  · exact ⟨rfl, rfl, (if_neg hrole).symm, rfl, rfl, (if_neg hrole).symm, (if_neg hrole).symm,
      rfl, rfl⟩

end HrBooking
