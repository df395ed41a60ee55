import HrBooking.Site.System

/-!
# The audit trail

What a request of an admin should leave in the audit log, and what it does leave.  A deletion of an
account cancels bookings on its way, and each of these cancellations has an entry of its own.

* `Site.Gains` : the entries that the log gains, in any order.
* `AdminRequest.keys` : the entries that a request should leave.
* `Audited` : an answered request leaves its entries, any other one leaves none.
* `cancelAll_trail` : the entries of the cancellations on the way.
* `audited_iff` : a request is audited unless it changes the specializations, or cancels a booking
  while the meeting queue rejects the job.
* `audit_complete_iff` : the same for whole runs.
* `not_audit_complete` : a new specialization leaves no entry.
-/

namespace HrBooking

/-! ### Entries -/

/-- The actor, the action and the resource of an entry. -/
def AuditRecord.key (r : AuditRecord) : ObjectId × AuditAction × ObjectId :=
  (r.actorId, r.action, r.resourceId)

/-- The log has gained entries with exactly these keys. -/
def Site.Gains (s s' : Site) (keys : List (ObjectId × AuditAction × ObjectId)) : Prop :=
  ∃ new, s'.auditLog.Perm (s.auditLog ++ new) ∧ (new.map AuditRecord.key).Perm keys

/-- A call that answers leaves entries with these keys; one that throws leaves none, unless its
error is excused. -/
def Reply.Logs {α : Type} (x : Reply α) (excused : AppError → Prop) (s : Site)
    (keys : List (ObjectId × AuditAction × ObjectId)) : Prop :=
  match x with
  | (.ok _, s') => s.Gains s' keys
  | (.error e, s') => excused e ∨ s.Gains s' []

/-! ### What is asked of a request -/

/-- The action that a request is. -/
def AdminRequest.action : AdminRequest → AuditAction
  | suspendUser .. => .userSuspended
  | reactivateUser _ => .userReactivated
  | deleteUser .. => .userDeleted
  | approveProfile _ => .hrProfileApproved
  | rejectProfile .. => .hrProfileRejected
  | cancelBooking .. => .bookingCancelled
  | resolveReport .. => .reportResolved
  | createSpecialization _ => .specializationCreated
  | updateSpecialization .. => .specializationUpdated
  | deleteSpecialization _ => .specializationDeleted

/-- The resource that a request is about. -/
def AdminRequest.resource (o : Oracle) : AdminRequest → ObjectId
  | suspendUser id _ | reactivateUser id | deleteUser _ id | approveProfile id
  | rejectProfile id _ | cancelBooking id _ | resolveReport id _ | updateSpecialization id _
  | deleteSpecialization id => id
  | createSpecialization _ => o.newId

/-- The booking has been cancelled. -/
def World.HasCancelled (w : World) (bookingId : ObjectId) : Prop :=
  ∃ b ∈ w.bookings, b.id = bookingId ∧ b.status = .cancelled

instance (w : World) (bookingId : ObjectId) : Decidable (w.HasCancelled bookingId) :=
  inferInstanceAs (Decidable (∃ b ∈ w.bookings, _))

/-- The bookings among them that are cancelled one after the other. -/
def cancelledOnTheWay (o : ObjectId → Oracle) (actor : Actor) (bookings : List Booking)
    (w : World) : List ObjectId :=
  (bookings.map Booking.id).filter fun id => (cancelAll o actor bookings w).HasCancelled id

/-- The entries that a request should leave: its own, and those of the cancellations that the
deletion of an account makes on its way. -/
def AdminRequest.keys (o : Oracle) (actor : Actor) (w : World) (request : AdminRequest) :
    List (ObjectId × AuditAction × ObjectId) :=
  (actor.id, request.action, request.resource o) ::
    match request with
    | deleteUser o' userId =>
      (cancelledOnTheWay o' actor (w.activeBookingsOf userId) w).map fun id =>
        (actor.id, .bookingCancelled, id)
    | _ => []

/-- An active admin asks; `actor` is who the middleware loads. -/
def IsByAdmin (user actor : Actor) (s : Site) : Prop :=
  loadUser user s.platform = .ok actor ∧ actor.role ∈ adminRoles

/-- **What the audit trail should have of a request by an admin.** -/
def Audited (excused : AppError → Prop) (s : Site) : SiteAction → Prop
  | .admin o user request =>
    ∀ actor, IsByAdmin user actor s →
      (request.answer o user s).Logs excused s (request.keys o actor s.platform.world)
  | _ => True

/-- No audit write of the request fails. -/
def AdminRequest.AuditAnswers (o : Oracle) (request : AdminRequest) : Prop :=
  o.auditFails = false ∧
    match request with
    | deleteUser o' _ => ∀ id, (o' id).auditFails = false
    | _ => True

/-- The actor takes no part in the bookings that the request is about. -/
def AdminRequest.IsOutside (user : Actor) (w : World) : AdminRequest → Prop
  | cancelBooking id _ => ∀ b ∈ w.bookings, b.id = id → user.IsStrangerTo b
  | deleteUser _ userId => ∀ b ∈ w.activeBookingsOf userId, user.IsStrangerTo b
  | _ => True

/-- No audit write fails, and the admin takes no part in the bookings concerned. -/
def InScope (s : Site) : SiteAction → Prop
  | .admin o user request =>
    request.AuditAnswers o ∧ request.IsOutside user s.platform.world
  | _ => True

/-! ### When the trail has gaps -/

/-- The request changes the specializations. -/
def AdminRequest.ChangesSpecializations (o : Oracle) (s : Site) : AdminRequest → Prop
  | createSpecialization input =>
    ∀ d ∈ s.specializations, d.id ≠ o.newId ∧ d.slug ≠ Site.toUpperCase input.slug
  | updateSpecialization id _ => ∃ d ∈ s.specializations, d.id = id
  | deleteSpecialization id => ∃ d ∈ s.specializations, d.id = id ∧ s.inUse d.slug = 0
  | _ => False

/-- The request cancels a booking, and the meeting queue rejects the job. -/
def AdminRequest.CancelsWithoutJob (o : Oracle) (actor : Actor) (w : World) :
    AdminRequest → Prop
  | cancelBooking id _ =>
    o.meetingQueueFails = true ∧ (cancelArgs actor id w).isOk = true
  | _ => False

/-- An admin changes the specializations. -/
def Forgets (s : Site) : SiteAction → Prop
  | .admin o user request => ∃ actor, IsByAdmin user actor s ∧ request.ChangesSpecializations o s
  | _ => False

/-- An admin cancels a booking, and the meeting queue rejects the job. -/
def Strands (s : Site) : SiteAction → Prop
  | .admin o user request =>
    ∃ actor, IsByAdmin user actor s ∧ request.CancelsWithoutJob o actor s.platform.world
  | _ => False

/-! ### Gains -/

section Gains

variable {s s' : Site} {keys : List (ObjectId × AuditAction × ObjectId)}

theorem gains_nil (h : s'.auditLog = s.auditLog) : s.Gains s' [] :=
  ⟨[], by rw [h, List.append_nil], .nil⟩

theorem Site.Gains.length_eq (h : s.Gains s' keys) :
    s'.auditLog.length = s.auditLog.length + keys.length := by
  obtain ⟨new, hlog, hkeys⟩ := h
  rw [hlog.length_eq, List.length_append, ← hkeys.length_eq, List.length_map]

theorem Site.Gains.record (h : s.Gains s' keys) (r : AuditRecord) :
    s.Gains (s'.recordAuditLog false r) (r.key :: keys) := by
  obtain ⟨new, hlog, hkeys⟩ := h
  refine ⟨r :: new, ?_, hkeys.cons _⟩
  have hnew : (s'.recordAuditLog false r).auditLog = s'.auditLog ++ [r] := by
    simp only [Site.auditLog, Site.recordAuditLog, Bool.false_eq_true, if_false,
      List.append_assoc]
  rw [hnew]
  calc
    (s'.auditLog ++ [r]).Perm (s.auditLog ++ new ++ [r]) := hlog.append_right _
    _ = s.auditLog ++ (new ++ [r]) := List.append_assoc ..
    (_ : List AuditRecord).Perm (s.auditLog ++ r :: new) :=
      (List.perm_append_singleton r new).append_left _

theorem gains_of_auditLog {new : List AuditEntry} (hrecords : s'.records = s.records)
    (hlog : s'.platform.world.auditLog = s.platform.world.auditLog ++ new) :
    s.Gains s' (new.map fun entry => entry.toRecord.key) := by
  refine ⟨new.map AuditEntry.toRecord, ?_, by rw [List.map_map]; rfl⟩
  simp only [Site.auditLog, hrecords, hlog, List.map_append, List.append_assoc]
  exact List.perm_append_comm.append_left _

end Gains

/-! ### Cancellations -/

section Cancellation

variable {o : Oracle} {w : World} {actor : Actor} {b : Booking}

theorem assertParticipant_admin (hadmin : actor.role ∈ adminRoles)
    (hstranger : actor.IsStrangerTo b) : assertParticipant actor b = .ok .admin := by
  have hrole : actor.role = .admin ∨ actor.role = .superAdmin := by
    simpa [adminRoles] using hadmin
  rw [assertParticipant, if_neg hstranger.1, if_neg hstranger.2, if_pos hrole]

/-- A cancelled booking leaves the index, so nothing keeps it from being saved. -/
theorem update_saveCancelled_isSome (hb : b ∈ w.bookings) (now : ℤ) (role : CancelledBy)
    (reason : Option String) :
    ∃ c, w.bookings.update b.id (saveCancelled b (b.cancel now role reason)) = some c := by
  refine Collection.update_isSome (fun d hd hid => hid) fun d hd hid k hk => ?_
  obtain rfl : d = b := Collection.eq_of_docId hd hb hid
  rw [saveCancelled_self] at hk
  cases hk

/-- The dispatches of a cancellation write no entry; they fail with the meeting queue. -/
theorem dispatchBookingCancelled_trail (b : Booking) (w : World) :
    ((dispatchBookingCancelled o b >>= fun _ => pure b) w).2.bookings = w.bookings ∧
      ((dispatchBookingCancelled o b >>= fun _ => pure b) w).2.auditLog = w.auditLog ∧
      ((dispatchBookingCancelled o b >>= fun _ => pure b) w).1 =
        if o.meetingQueueFails then .error .internal else .ok b := by
  unfold dispatchBookingCancelled
  rcases addMeetingJob_cases (o := o) (w := w) .cancel b.id with ⟨hfails, hw⟩ | ⟨hanswers, hw⟩
  · rw [Service.bind_of_error (Service.bind_of_error hw), hfails]
    exact ⟨rfl, rfl, rfl⟩
  · obtain ⟨q, hq⟩ := removeReminder_eq_ok (o := o) (w := { w with
      meetingQueue := w.meetingQueue ++ [⟨.cancel, b.id, meetingAttempts⟩] }) b.id
    rw [Service.bind_of_ok ((Service.bind_of_ok hw).trans hq), hanswers]
    exact ⟨rfl, rfl, rfl⟩

/-- What a cancellation by an admin leaves when it goes through. -/
structure CancelsAs (o : Oracle) (actor : Actor) (b : Booking) (reason : Option String) (w : World)
    (answer : Except AppError Booking × World) : Prop where
  mem : b ∈ w.bookings
  bookings : ∀ x, x ∈ answer.2.bookings ↔
    (x ∈ w.bookings ∧ x.id ≠ b.id) ∨ x = b.cancel w.now .admin reason
  auditLog : answer.2.auditLog = w.auditLog ++ [⟨actor.id, actor.role, b.id, reason⟩]
  answered : answer.1 =
    if o.meetingQueueFails then .error .internal else .ok (b.cancel w.now .admin reason)

/-- **A cancellation by an admin** is refused by its checks, or goes through with its entry. -/
theorem cancelBooking_trail {id : ObjectId} (hadmin : actor.role ∈ adminRoles)
    (haudit : o.auditFails = false)
    (houtside : ∀ b ∈ w.bookings, b.id = id → actor.IsStrangerTo b) (reason : Option String) :
    ((cancelArgs actor id w).isOk = false ∧
        ∃ e, cancelBooking o actor id reason w = (.error e, w)) ∨
      ((cancelArgs actor id w).isOk = true ∧
        ∃ b, b.id = id ∧ CancelsAs o actor b reason w (cancelBooking o actor id reason w)) := by
  rcases cancelBooking_cases o w actor id reason with
    ⟨hrefused, hnone⟩ | ⟨b, role, c, hargs, hb, rfl, -, hupd, hrun⟩
  · refine .inl ⟨?_, hrefused⟩
    cases hargs : cancelArgs actor id w with
    | error e => rfl
    | ok args =>
      -- the checks pass, and then the booking is saved
      obtain ⟨b, hfind, hrest⟩ := bind_eq_ok.1 hargs
      obtain ⟨role, -, hrest⟩ := bind_eq_ok.1 hrest
      cases hrest
      obtain ⟨hb, -⟩ := findBooking_eq_ok.1 hfind
      obtain ⟨c, hc⟩ := update_saveCancelled_isSome hb w.now role reason
      cases (hnone b role hargs).symm.trans hc
  · refine .inr ⟨by rw [hargs]; rfl, b, rfl, ?_⟩
    obtain ⟨_, hfind, hrest⟩ := bind_eq_ok.1 hargs
    obtain ⟨role', hrole, hrest⟩ := bind_eq_ok.1 hrest
    cases hrest
    have hparticipant := (assertCancellable_eq_ok.1 hrole).1
    rw [assertParticipant_admin hadmin (houtside b hb rfl)] at hparticipant
    obtain rfl : CancelledBy.admin = role := Except.ok.inj hparticipant
    have hentry : recordCancellation o actor .admin (b.cancel w.now .admin reason) reason
        { w with bookings := c } =
          (.ok (), { w with
            bookings := c
            auditLog := w.auditLog ++ [⟨actor.id, actor.role, b.id, reason⟩] }) :=
      if_neg (by simp [haudit])
    have hmem : ∀ x, x ∈ c ↔
        (x ∈ w.bookings ∧ x.id ≠ b.id) ∨ x = b.cancel w.now .admin reason := by
      intro x
      rw [Collection.mem_update hupd]
      refine or_congr_right ⟨?_, ?_⟩
      · rintro ⟨d, hd, hid, rfl⟩
        obtain rfl : d = b := Collection.eq_of_docId hd hb hid
        exact saveCancelled_self ..
      · rintro rfl
        exact ⟨b, hb, rfl, saveCancelled_self ..⟩
    rw [hrun, Service.bind_of_ok hentry]
    obtain ⟨hbookings, hlog, hanswer⟩ := dispatchBookingCancelled_trail (o := o)
      (b.cancel w.now .admin reason) { w with
        bookings := c
        auditLog := w.auditLog ++ [⟨actor.id, actor.role, b.id, reason⟩] }
    exact ⟨hb, fun x => by rw [hbookings]; exact hmem x, hlog, hanswer⟩

end Cancellation

/-! ### Cancellations on the way -/

section OnTheWay

variable {o : ObjectId → Oracle} {w : World} {actor : Actor} {b : Booking}

/-- One of them: the booking stays active without an entry, or is cancelled with one. -/
theorem cancelOne_trail (hadmin : actor.role ∈ adminRoles)
    (haudit : ∀ id, (o id).auditFails = false) (hb : b ∈ w.bookings) (hactive : b.isActive)
    (hstranger : actor.IsStrangerTo b) :
    let w₁ := (cancelBooking (o b.id) actor b.id (some deletionReason) w).2
    (∀ x, x.id ≠ b.id → (x ∈ w₁.bookings ↔ x ∈ w.bookings)) ∧
      ∃ d ∈ w₁.bookings, d.id = b.id ∧
        ((d.status ≠ .cancelled ∧ w₁.auditLog = w.auditLog) ∨
          (d.status = .cancelled ∧ w₁.auditLog =
            w.auditLog ++ [⟨actor.id, actor.role, b.id, some deletionReason⟩])) := by
  have houtside : ∀ d ∈ w.bookings, d.id = b.id → actor.IsStrangerTo d := by
    intro d hd hid
    obtain rfl : d = b := Collection.eq_of_docId hd hb hid
    exact hstranger
  rcases cancelBooking_trail hadmin (haudit b.id) houtside (some deletionReason) with
    ⟨-, e, hrun⟩ | ⟨-, d, hid, hcancels⟩
  · rw [hrun]
    exact ⟨fun _ _ => Iff.rfl, b, hb, rfl, .inl ⟨hactive.ne_cancelled, rfl⟩⟩
  · obtain rfl : d = b := Collection.eq_of_docId hcancels.mem hb hid
    refine ⟨fun x hx => ?_, _, (hcancels.bookings _).2 (.inr rfl), rfl,
      .inr ⟨rfl, hcancels.auditLog⟩⟩
    rw [hcancels.bookings]
    constructor
    · rintro (⟨hxw, -⟩ | rfl)
      · exact hxw
      · exact absurd rfl hx
    · exact fun hxw => .inl ⟨hxw, hx⟩

/-- **The entries of the cancellations on the way**: one for each booking that is cancelled. -/
theorem cancelAll_trail (hadmin : actor.role ∈ adminRoles)
    (haudit : ∀ id, (o id).auditFails = false) {bookings : List Booking}
    (hstored : ∀ b ∈ bookings, b ∈ w.bookings ∧ b.isActive ∧ actor.IsStrangerTo b)
    (hnodup : (bookings.map Booking.id).Nodup) :
    (∀ x, x.id ∉ bookings.map Booking.id →
        (x ∈ (cancelAll o actor bookings w).bookings ↔ x ∈ w.bookings)) ∧
      ∃ new, (cancelAll o actor bookings w).auditLog = w.auditLog ++ new ∧
        new.map (fun entry => entry.toRecord.key) =
          (cancelledOnTheWay o actor bookings w).map fun id =>
            (actor.id, .bookingCancelled, id) := by
  induction bookings generalizing w with
  | nil => exact ⟨fun _ _ => Iff.rfl, [], (List.append_nil _).symm, rfl⟩
  | cons b bookings ih =>
    obtain ⟨hnotMem, hnodup⟩ := List.nodup_cons.1 hnodup
    obtain ⟨hb, hactive, hstranger⟩ := hstored b List.mem_cons_self
    obtain ⟨hframe, d, hd, hid, hcancel⟩ := cancelOne_trail hadmin haudit hb hactive hstranger
    have hrest : ∀ b' ∈ bookings,
        b' ∈ (cancelBooking (o b.id) actor b.id (some deletionReason) w).2.bookings ∧
          b'.isActive ∧ actor.IsStrangerTo b' := by
      intro b' hb'
      obtain ⟨hmem, hrest⟩ := hstored b' (List.mem_cons_of_mem _ hb')
      refine ⟨(hframe b' fun h => hnotMem ?_).2 hmem, hrest⟩
      exact List.mem_map.2 ⟨b', hb', h⟩
    obtain ⟨hframe', new, hlog, hkeys⟩ := ih hrest hnodup
    -- the later cancellations leave the first booking as the first one has left it
    have hlast : d ∈ (cancelAll o actor (b :: bookings) w).bookings :=
      (hframe' d (hid ▸ hnotMem)).2 hd
    have hfirst : (cancelAll o actor (b :: bookings) w).HasCancelled b.id ↔
        d.status = .cancelled := by
      constructor
      · rintro ⟨d', hd', hid', hstatus⟩
        obtain rfl : d' = d := Collection.eq_of_docId hd' hlast (hid'.trans hid.symm)
        exact hstatus
      · exact fun hstatus => ⟨d, hlast, hid, hstatus⟩
    refine ⟨fun x hx => ?_, ?_⟩
    · rw [List.map_cons, List.mem_cons, not_or] at hx
      exact (hframe' x hx.2).trans (hframe x hx.1)
    · have hfilter : cancelledOnTheWay o actor (b :: bookings) w =
          if d.status = .cancelled then b.id :: cancelledOnTheWay o actor bookings
            (cancelBooking (o b.id) actor b.id (some deletionReason) w).2
          else cancelledOnTheWay o actor bookings
            (cancelBooking (o b.id) actor b.id (some deletionReason) w).2 := by
        simp only [cancelledOnTheWay, List.map_cons, List.filter_cons, decide_eq_true_eq, hfirst]
        rfl
      rw [hfilter]
      rcases hcancel with ⟨hstatus, hsame⟩ | ⟨hstatus, hentry⟩
      · rw [if_neg hstatus]
        exact ⟨new, hsame ▸ hlog, hkeys⟩
      · rw [if_pos hstatus]
        refine ⟨⟨actor.id, actor.role, b.id, some deletionReason⟩ :: new, ?_, ?_⟩
        · rw [hentry, List.append_assoc] at hlog
          exact hlog
        · rw [List.map_cons, hkeys, List.map_cons]
          rfl

end OnTheWay

/-! ### Requests -/

section Requests

variable {s : Site} {o : Oracle} {user actor : Actor} {excused : AppError → Prop}
  {k : ObjectId × AuditAction × ObjectId} {keys : List (ObjectId × AuditAction × ObjectId)}

theorem done_logs {α : Type} {x : Reply α} :
    x.done.Logs excused s keys ↔ x.Logs excused s keys := by
  obtain ⟨_ | a, s'⟩ := x <;> rfl

theorem recorded_logs {α : Type} {x : Reply α} {record : α → AuditRecord}
    (herror : ∀ e, x.1 = .error e → x.2.auditLog = s.auditLog)
    (hok : ∀ a, x.1 = .ok a → s.Gains x.2 keys ∧ (record a).key = k) :
    (x.recorded false record).Logs excused s (k :: keys) := by
  obtain ⟨e | a, s'⟩ := x
  · exact .inr (gains_nil (herror e rfl))
  · obtain ⟨hgains, rfl⟩ := hok a rfl
    exact hgains.record (record a)

theorem logs_iff_of_silent {α : Type} {x : Reply α} {P : Prop} (h : x.2.auditLog = s.auditLog)
    (hok : x.1.isOk = true ↔ P) : x.Logs excused s (k :: keys) ↔ ¬ P := by
  obtain ⟨e | a, s'⟩ := x
  · exact iff_of_true (.inr (gains_nil h)) fun hp => Bool.noConfusion (hok.2 hp)
  · refine iff_of_false (fun hgains => ?_) (not_not.2 (hok.1 rfl))
    have hlength := Site.Gains.length_eq hgains
    rw [show s'.auditLog = s.auditLog from h, List.length_cons] at hlength
    omega

theorem saveUser_world (loaded current : User) (p : Platform) :
    (saveUser loaded current p).2.world = p.world := by
  unfold saveUser
  split
  · rfl
  · split <;> rfl

theorem saved_answer (found : Except AppError User) (f : User → User)
    (g : User → Platform → Platform) (hg : ∀ u p, (g u p).world = p.world) (p : Platform) :
    let x := (p.answer found).andThen fun u p =>
      (saveUser u (f u) p).andThen fun _ p => (g u p).answer (.ok (f u))
    x.2.world = p.world ∧ ∀ v, x.1 = .ok v → ∃ u, found = .ok u ∧ v = f u := by
  cases found with
  | error e => exact ⟨rfl, fun v hv => by cases hv⟩
  | ok u =>
    have hsave := saveUser_world u (f u) p
    simp only [answer_ok_andThen]
    generalize saveUser u (f u) p = x at hsave ⊢
    obtain ⟨e | _, p'⟩ := x
    · exact ⟨hsave, fun v hv => by cases hv⟩
    · exact ⟨(hg u p').trans hsave, fun v hv => ⟨u, rfl, (Except.ok.inj hv).symm⟩⟩

theorem call_recorded_logs {α : Type} {x : Platform → Answer α} {record : α → AuditRecord}
    (hworld : (x s.platform).2.world = s.platform.world)
    (hkey : ∀ a, (x s.platform).1 = .ok a → (record a).key = k) :
    ((s.call x).recorded false record).Logs excused s [k] := by
  have hlog : (s.call x).2.auditLog = s.auditLog := by
    simp only [Site.auditLog, Site.call, hworld]
  exact recorded_logs (fun _ _ => hlog) fun a ha => ⟨gains_nil hlog, hkey a ha⟩

theorem suspendUser_logs (userId : ObjectId) (reason : BoundedText 3 300) :
    (s.suspendUser false actor userId reason).Logs excused s
      [(actor.id, .userSuspended, userId)] := by
  obtain ⟨hworld, hanswer⟩ := saved_answer (suspendable (s.platform.users.findById userId))
    User.suspend (fun u p => p.removeTokensOf u.id) (fun _ _ => rfl) s.platform
  refine call_recorded_logs hworld fun v hv => ?_
  obtain ⟨u, hfound, rfl⟩ := hanswer v hv
  have hid := (Collection.findById_eq_some.1 (suspendable_eq_ok.1 hfound).1).2
  exact congrArg (fun id => (actor.id, AuditAction.userSuspended, id)) hid

theorem reactivateUser_logs (userId : ObjectId) :
    (s.reactivateUser false actor userId).Logs excused s
      [(actor.id, .userReactivated, userId)] := by
  obtain ⟨hworld, hanswer⟩ := saved_answer (reactivable (s.platform.users.findById userId))
    User.reactivate (fun _ p => p) (fun _ _ => rfl) s.platform
  refine call_recorded_logs hworld fun v hv => ?_
  obtain ⟨u, hfound, rfl⟩ := hanswer v hv
  have hid := (Collection.findById_eq_some.1 (reactivable_eq_ok.1 hfound).1).2
  exact congrArg (fun id => (actor.id, AuditAction.userReactivated, id)) hid

theorem review_id {d : Directory} (request : ReviewRequest) {profileId : ObjectId}
    (hfind : request.find? d.profiles = d.profiles.findById profileId) {p : HRProfileDocument}
    (h : (review request d).1 = .ok p) : p.id = profileId := by
  have heffect := profileCall_cases d (.review request)
  change ProfileEffect d _ (review request d) at heffect
  rcases hreview : review request d with ⟨_ | p', d'⟩
  · rw [hreview] at h
    cases h
  · rw [hreview] at h heffect
    obtain rfl : p' = p := Except.ok.inj h
    cases heffect with
    | created hcall => cases hcall
    | revised hp hrevises =>
      cases hrevises with
      | review _ hfound =>
        rw [ReviewRequest.assign_id]
        exact (Collection.findById_eq_some.1 (hfind.symm.trans hfound)).2

theorem approveProfile_logs (profileId : ObjectId) :
    (s.approveProfile false actor profileId).Logs excused s
      [(actor.id, .hrProfileApproved, profileId)] := by
  refine recorded_logs (fun _ _ => rfl) fun profile h => ⟨gains_nil rfl, ?_⟩
  have hid := review_id (.approve actor profileId) rfl h
  exact congrArg (fun id => (actor.id, AuditAction.hrProfileApproved, id)) hid

theorem rejectProfile_logs (profileId : ObjectId) (reason : RejectionReason) :
    (s.rejectProfile false actor profileId reason).Logs excused s
      [(actor.id, .hrProfileRejected, profileId)] := by
  refine recorded_logs (fun _ _ => rfl) fun profile h => ⟨gains_nil rfl, ?_⟩
  have hid := review_id (.reject actor profileId reason) rfl h
  exact congrArg (fun id => (actor.id, AuditAction.hrProfileRejected, id)) hid

theorem resolvable_eq_ok {found : Option Report} {report : Report}
    (h : Site.resolvable found = .ok report) : found = some report := by
  unfold Site.resolvable at h
  cases found with
  | none => cases h
  | some r =>
    simp only at h
    split_ifs at h
    rw [Except.ok.inj h]

theorem resolveReport_logs (reportId : ObjectId) (input : Site.ResolveReportInput) :
    (s.resolveReport false actor reportId input).Logs excused s
      [(actor.id, .reportResolved, reportId)] := by
  unfold Site.resolveReport
  cases hfound : Site.resolvable (s.reports.findById reportId) with
  | error e => exact .inr (gains_nil rfl)
  | ok report =>
    obtain ⟨-, hid⟩ := Collection.findById_eq_some.1 (resolvable_eq_ok hfound)
    obtain rfl : report.id = reportId := hid
    simp only [reply_ok_andThen]
    cases s.reports.save report.id (Site.saveOverReport report
        (Site.resolved actor.id s.platform.world.now input report)) with
    | error e => exact .inr (gains_nil rfl)
    | ok reports => exact (gains_nil rfl).record _

theorem call_deleteUser_cases (s : Site) (o' : ObjectId → Oracle) (actor : Actor)
    (userId : ObjectId) :
    ((¬ ∃ u ∈ s.platform.users, u.id = userId ∧ u.isAdmin = false) ∧
      ∃ e, s.call (HrBooking.deleteUser o' actor userId) = s.reply (.error e)) ∨
    ∃ user ∈ s.platform.users, user.id = userId ∧ user.isAdmin = false ∧
      ∃ p' summary, s.call (HrBooking.deleteUser o' actor userId) =
          ({ s with platform := p' } : Site).reply (.ok summary) ∧
        RemovedFrom user s.platform (cancelAll o' actor
          (s.platform.world.activeBookingsOf user.id) s.platform.world) p' := by
  by_cases hdel : ∃ u ∈ s.platform.users, u.id = userId ∧ u.isAdmin = false
  · obtain ⟨user, huser, rfl, hadmin⟩ := hdel
    obtain ⟨p', hrun, hleft⟩ := deleteUser_of_mem o' actor huser hadmin
    have hcall : s.call (HrBooking.deleteUser o' actor user.id) =
        ({ s with platform := p' } : Site).reply
          (.ok ⟨user.email, user.firstName, user.lastName⟩) := by
      simp only [Site.call, hrun]
      rfl
    exact .inr ⟨user, huser, rfl, hadmin, p', _, hcall, hleft⟩
  · obtain ⟨e, hrun⟩ := deleteUser_refused o' actor hdel
    refine .inl ⟨hdel, e, ?_⟩
    simp only [Site.call, hrun]
    rfl

theorem deleteUser_logs (hadmin : actor.role ∈ adminRoles) {o' : ObjectId → Oracle}
    (haudit : ∀ id, (o' id).auditFails = false) {userId : ObjectId}
    (houtside : ∀ b ∈ s.platform.world.activeBookingsOf userId, actor.IsStrangerTo b) :
    (s.deleteUser false actor o' userId).Logs excused s
      ((actor.id, .userDeleted, userId) ::
        (cancelledOnTheWay o' actor (s.platform.world.activeBookingsOf userId)
          s.platform.world).map fun id => (actor.id, .bookingCancelled, id)) := by
  rcases call_deleteUser_cases s o' actor userId with
    ⟨-, e, hcall⟩ | ⟨user, huser, rfl, -, p', summary, hcall, hleft⟩
  · simp only [Site.deleteUser, hcall, reply_error_andThen]
    exact .inr (gains_nil rfl)
  · have hactive : ∀ b ∈ s.platform.world.activeBookingsOf user.id,
        b ∈ s.platform.world.bookings ∧ b.isActive ∧ actor.IsStrangerTo b := by
      intro b hb
      have hfilter := List.mem_filter.1 hb
      exact ⟨hfilter.1, (of_decide_eq_true hfilter.2).2, houtside b hb⟩
    have hnodup : ((s.platform.world.activeBookingsOf user.id).map Booking.id).Nodup :=
      List.pairwise_map.2 ((s.platform.world.bookings.compatible.filter _).imp fun h => h.1)
    obtain ⟨-, new, hlog, hkeys⟩ := cancelAll_trail hadmin haudit hactive hnodup
    simp only [Site.deleteUser, hcall, reply_ok_andThen]
    refine Site.Gains.record ?_ _
    rw [← hkeys]
    refine gains_of_auditLog ?_ ?_
    · split_ifs <;> rfl
    · refine Eq.trans ?_ (hleft.auditLog.trans hlog)
      split_ifs <;> rfl

/-- A cancellation is audited unless the meeting queue rejects the job after the booking has been
saved. -/
theorem cancelBooking_logs_iff (hadmin : actor.role ∈ adminRoles) (haudit : o.auditFails = false)
    {id : ObjectId}
    (houtside : ∀ b ∈ s.platform.world.bookings, b.id = id → actor.IsStrangerTo b)
    (reason : Option String) :
    (s.call fun p => p.call (cancelBooking o actor id reason)).Logs excused s
        [(actor.id, .bookingCancelled, id)] ↔
      (excused .internal ∨ ¬ (o.meetingQueueFails = true ∧
        (cancelArgs actor id s.platform.world).isOk = true)) := by
  rcases cancelBooking_trail hadmin haudit houtside reason with
    ⟨hargs, e, hrun⟩ | ⟨hargs, b, rfl, hcancels⟩
  · refine iff_of_true ?_ (.inr fun h => by simp [hargs] at h)
    simp only [Site.call, Platform.call, hrun]
    exact .inr (gains_nil rfl)
  · have hanswer := hcancels.answered
    have hlog := hcancels.auditLog
    simp only [Site.call, Platform.call]
    generalize cancelBooking o actor b.id reason s.platform.world = answer at hanswer hlog ⊢
    obtain ⟨x, w'⟩ := answer
    subst hanswer
    have hgains : s.Gains { s with platform := { s.platform with world := w' } } _ :=
      gains_of_auditLog rfl hlog
    cases hfails : o.meetingQueueFails with
    | false => exact iff_of_true hgains (.inr fun h => Bool.noConfusion h.1)
    | true =>
      simp only [hargs, and_self, not_true_eq_false, or_false]
      refine or_iff_left fun hnone => ?_
      have hlength := hgains.length_eq.symm.trans (Site.Gains.length_eq hnone)
      simp at hlength

/-! ### Specializations -/

theorem createSpecialization_isOk (newId : ObjectId) (input : Site.CreateSpecializationInput) :
    (s.createSpecialization newId input).1.isOk = true ↔
      ∀ d ∈ s.specializations, d.id ≠ newId ∧ d.slug ≠ Site.toUpperCase input.slug := by
  unfold Site.createSpecialization
  cases hfind : s.specializations.findByKey (Site.toUpperCase input.slug) with
  | some d =>
    obtain ⟨hd, hslug⟩ := Collection.findByKey_eq_some.1 hfind
    refine iff_of_false (fun h => by cases h) fun h => ?_
    exact (h d hd).2 (Option.some.inj hslug)
  | none =>
    have hslug := Collection.findByKey_eq_none.1 hfind
    cases hins : s.specializations.insert (Site.newSpecialization newId input) with
    | none =>
      refine iff_of_false (fun h => by cases h) fun h => ?_
      obtain ⟨d, hd, hnot⟩ := Collection.insert_eq_none.1 hins
      refine hnot ⟨(h d hd).1, fun k hk hk' => (h d hd).2 ?_⟩
      exact Option.some.inj (hk.trans hk'.symm)
    | some c =>
      refine iff_of_true rfl fun d hd => ⟨?_, fun h => hslug d hd (congrArg some h)⟩
      exact ((Collection.insert_eq_some.1 hins).1 d hd).1

theorem findSpecialization_cases (id : ObjectId) (s : Site) :
    ((∃ e, Site.findSpecialization id s = .error e) ∧ ∀ d ∈ s.specializations, d.id ≠ id) ∨
      ∃ d ∈ s.specializations, d.id = id ∧ Site.findSpecialization id s = .ok d := by
  unfold Site.findSpecialization
  cases hfind : s.specializations.findById id with
  | none => exact .inl ⟨⟨_, rfl⟩, Collection.findById_eq_none.1 hfind⟩
  | some d =>
    obtain ⟨hd, hid⟩ := Collection.findById_eq_some.1 hfind
    exact .inr ⟨d, hd, hid, rfl⟩

theorem updateSpecialization_isOk (id : ObjectId) (input : Site.UpdateSpecializationInput) :
    (s.updateSpecialization id input).1.isOk = true ↔ ∃ d ∈ s.specializations, d.id = id := by
  unfold Site.updateSpecialization
  rcases findSpecialization_cases id s with ⟨⟨e, hfound⟩, hnone⟩ | ⟨d, hd, rfl, hfound⟩
  · rw [hfound]
    refine iff_of_false (fun h => by cases h) ?_
    rintro ⟨d, hd, hid⟩
    exact hnone d hd hid
  · obtain ⟨c, hsave, -⟩ := Collection.save_of_mem
      (f := Site.saveOverSpecialization d (Site.updated input d)) hd rfl rfl
    have hsave : s.specializations.save d.id
      (Site.saveOverSpecialization d (Site.updated input d)) = .ok c := hsave
    rw [hfound]
    simp only [reply_ok_andThen, hsave]
    exact iff_of_true rfl ⟨d, hd, rfl⟩

theorem deleteSpecialization_isOk (id : ObjectId) :
    (s.deleteSpecialization id).1.isOk = true ↔
      ∃ d ∈ s.specializations, d.id = id ∧ s.inUse d.slug = 0 := by
  unfold Site.deleteSpecialization
  rcases findSpecialization_cases id s with ⟨⟨e, hfound⟩, hnone⟩ | ⟨d, hd, rfl, hfound⟩
  · rw [hfound]
    refine iff_of_false (fun h => by cases h) ?_
    rintro ⟨d, hd, hid, -⟩
    exact hnone d hd hid
  · rw [hfound]
    simp only [reply_ok_andThen]
    split_ifs with hused
    · refine iff_of_false (fun h => by cases h) ?_
      rintro ⟨d', hd', hid, hfree⟩
      obtain rfl : d' = d := Collection.eq_of_docId hd' hd hid
      exact absurd hfree (Nat.pos_iff_ne_zero.1 hused)
    · exact iff_of_true rfl ⟨d, hd, rfl, Nat.eq_zero_of_not_pos hused⟩

/-- The specializations are written, and nothing else. -/
theorem createSpecialization_site (newId : ObjectId) (input : Site.CreateSpecializationInput) :
    ∃ specializations, (s.createSpecialization newId input).2 = { s with specializations } := by
  unfold Site.createSpecialization
  split
  · exact ⟨s.specializations, rfl⟩
  · split
    · exact ⟨s.specializations, rfl⟩
    · exact ⟨_, rfl⟩

theorem updateSpecialization_site (id : ObjectId) (input : Site.UpdateSpecializationInput) :
    ∃ specializations, (s.updateSpecialization id input).2 = { s with specializations } := by
  unfold Site.updateSpecialization
  cases Site.findSpecialization id s with
  | error e => exact ⟨s.specializations, rfl⟩
  | ok d =>
    simp only [reply_ok_andThen]
    cases s.specializations.save d.id (Site.saveOverSpecialization d (Site.updated input d)) with
    | error e => exact ⟨s.specializations, rfl⟩
    | ok specializations => exact ⟨specializations, rfl⟩

theorem deleteSpecialization_site (id : ObjectId) :
    ∃ specializations, (s.deleteSpecialization id).2 = { s with specializations } := by
  unfold Site.deleteSpecialization
  cases Site.findSpecialization id s with
  | error e => exact ⟨s.specializations, rfl⟩
  | ok d =>
    simp only [reply_ok_andThen]
    split_ifs
    · exact ⟨s.specializations, rfl⟩
    · exact ⟨_, rfl⟩

/-! ### The trail of a request -/

/-- **What a service leaves in the log**, one case for each request. -/
theorem serve_logs_iff {request : AdminRequest} (hadmin : actor.role ∈ adminRoles)
    (haudit : request.AuditAnswers o) (houtside : request.IsOutside actor s.platform.world) :
    (request.serve o actor s).Logs excused s (request.keys o actor s.platform.world) ↔
      ¬ request.ChangesSpecializations o s ∧
        (excused .internal ∨ ¬ request.CancelsWithoutJob o actor s.platform.world) := by
  have hown : ∀ {x : Reply Unit} {keys}, x.Logs excused s keys →
      (x.Logs excused s keys ↔ ¬ False ∧ (excused .internal ∨ ¬ False)) :=
    fun h => iff_of_true h ⟨id, .inr id⟩
  have hspecialization : ∀ {P : Prop}, ¬ P ↔ ¬ P ∧ (excused .internal ∨ ¬ False) :=
    ⟨fun h => ⟨h, .inr id⟩, And.left⟩
  have hfails : o.auditFails = false := haudit.1
  -- the requests on specializations write no entry at all; a cancellation may lose its entry
  cases request with
  | suspendUser userId reason =>
    refine hown (done_logs.2 ?_)
    rw [hfails]
    exact suspendUser_logs userId reason
  | reactivateUser userId =>
    refine hown (done_logs.2 ?_)
    rw [hfails]
    exact reactivateUser_logs userId
  | deleteUser o' userId =>
    refine hown (done_logs.2 ?_)
    rw [hfails]
    exact deleteUser_logs hadmin haudit.2 houtside
  | approveProfile profileId =>
    refine hown (done_logs.2 ?_)
    rw [hfails]
    exact approveProfile_logs profileId
  | rejectProfile profileId reason =>
    refine hown (done_logs.2 ?_)
    rw [hfails]
    exact rejectProfile_logs profileId reason
  | cancelBooking bookingId reason =>
    refine (done_logs.trans (cancelBooking_logs_iff hadmin hfails houtside reason)).trans ?_
    exact ⟨fun h => ⟨id, h⟩, And.right⟩
  | resolveReport reportId input =>
    refine hown (done_logs.2 ?_)
    rw [hfails]
    exact resolveReport_logs reportId input
  | createSpecialization input =>
    obtain ⟨specializations, hsite⟩ := createSpecialization_site (s := s) o.newId input
    have hsilent : (s.createSpecialization o.newId input).2.auditLog = s.auditLog := hsite ▸ rfl
    refine Iff.trans (done_logs.trans ?_) hspecialization
    exact logs_iff_of_silent hsilent (createSpecialization_isOk o.newId input)
  | updateSpecialization id input =>
    obtain ⟨specializations, hsite⟩ := updateSpecialization_site (s := s) id input
    have hsilent : (s.updateSpecialization id input).2.auditLog = s.auditLog := hsite ▸ rfl
    refine Iff.trans (done_logs.trans ?_) hspecialization
    exact logs_iff_of_silent hsilent (updateSpecialization_isOk id input)
  | deleteSpecialization id =>
    obtain ⟨specializations, hsite⟩ := deleteSpecialization_site (s := s) id
    have hsilent : (s.deleteSpecialization id).2.auditLog = s.auditLog := hsite ▸ rfl
    refine Iff.trans ?_ hspecialization
    exact logs_iff_of_silent hsilent (deleteSpecialization_isOk id)

theorem answer_of_admin {request : AdminRequest} (h : IsByAdmin user actor s) :
    request.answer o user s = request.serve o actor s := by
  have hauthorize : authorize adminRoles user s.platform = .ok actor := by
    simp only [authorize, h.1, if_pos h.2]
  cases request with
  | cancelBooking =>
    simp only [AdminRequest.answer, h.1]
    rfl
  | _ =>
    simp only [AdminRequest.answer, hauthorize]
    rfl

theorem IsByAdmin.id_eq (h : IsByAdmin user actor s) : actor.id = user.id := by
  obtain ⟨u, -, hid, -, rfl⟩ := loadUser_eq_ok h.1
  exact hid

theorem AdminRequest.IsOutside.of_id_eq {request : AdminRequest} {w : World}
    (h : request.IsOutside user w) (hid : actor.id = user.id) : request.IsOutside actor w := by
  cases request with
  | cancelBooking id reason =>
    exact fun b hb hbid => by simpa [Actor.IsStrangerTo, hid] using h b hb hbid
  | deleteUser o userId => exact fun b hb => by simpa [Actor.IsStrangerTo, hid] using h b hb
  | _ => trivial

/-- **The trail of one request**, whichever errors are excused. -/
theorem audited_iff {a : SiteAction} (hscope : InScope s a) :
    Audited excused s a ↔ ¬ Forgets s a ∧ (excused .internal ∨ ¬ Strands s a) := by
  cases a with
  | admin o user request =>
    have hserve : ∀ actor, IsByAdmin user actor s →
        ((request.answer o user s).Logs excused s (request.keys o actor s.platform.world) ↔
          ¬ request.ChangesSpecializations o s ∧
            (excused .internal ∨ ¬ request.CancelsWithoutJob o actor s.platform.world)) := by
      intro actor hactor
      rw [answer_of_admin hactor]
      exact serve_logs_iff hactor.2 hscope.1 (hscope.2.of_id_eq hactor.id_eq)
    constructor
    · intro h
      constructor
      · rintro ⟨actor, hactor, hchanges⟩
        exact ((hserve actor hactor).1 (h actor hactor)).1 hchanges
      · by_cases hexcused : excused .internal
        · exact .inl hexcused
        · refine .inr ?_
          rintro ⟨actor, hactor, hcancels⟩
          exact ((hserve actor hactor).1 (h actor hactor)).2.elim hexcused fun h => h hcancels
    · rintro ⟨hforgets, hstrands⟩ actor hactor
      refine (hserve actor hactor).2 ⟨fun hchanges => hforgets ⟨actor, hactor, hchanges⟩, ?_⟩
      exact hstrands.imp_right fun h hcancels => h ⟨actor, hactor, hcancels⟩
  | _ => exact iff_of_true trivial ⟨id, .inr id⟩

end Requests

/-! ### Runs -/

/-- **When the audit trail is complete.**  In every run in which no audit write fails and no admin
takes part in the bookings concerned, every answered request leaves exactly its entries and every
other one leaves none, if and only if no admin changes the specializations, and none cancels a
booking while the meeting queue rejects the job; the latter does not matter when the error it is
answered with does not count as a refusal. -/
theorem audit_complete_iff (env : Env) (excused : AppError → Prop) {s : Site}
    {as : List SiteAction} (hscope : (site env).Meets InScope s as) :
    (site env).Meets (Audited excused) s as ↔
      (site env).Meets (fun s a => ¬ Forgets s a ∧ (excused .internal ∨ ¬ Strands s a)) s as :=
  ⟨fun h => (hscope.and h).mono fun _ _ h => (audited_iff h.1).1 h.2,
    fun h => (hscope.and h).mono fun _ _ h => (audited_iff h.1).2 h.2⟩

/-- Admin 9, consultant 1 and client 2 with one booking. -/
def staffedSite : Site where
  platform :=
    { bookedPlatform (singleBooking (sampleBooking 7 mondayNine 30)) with
      users := ⟨[⟨9, "admin@example.com", "", "", "", .admin, .active, true, 0, none⟩,
        ⟨1, "one@example.com", "", "", "", .hr, .active, true, 0, none⟩, client],
        by decide +kernel⟩ }
  documents := .empty
  reports := .empty
  specializations := .empty
  records := []
  states := []

/-- Google is not configured. -/
def plainEnv : Env := ⟨utcCalendar, sampleCrypto, false⟩

/-- The consultant's account is deleted, with the booking. -/
def dismissConsultant : SiteAction :=
  .admin (answering 20 1) reviewer (.deleteUser (fun _ => answering 21 1) 1)

/-- The deletion of an account leaves its entry and that of the cancellation on the way. -/
theorem audit_complete_iff_dismiss :
    (site plainEnv).Meets (Audited fun _ => False) staffedSite [dismissConsultant] ∧
      AdminRequest.keys (answering 20 1) reviewer staffedSite.platform.world
          (.deleteUser (fun _ => answering 21 1) 1) =
        [(9, .userDeleted, 1), (9, .bookingCancelled, 7)] := by
  refine ⟨(audit_complete_iff plainEnv _ ?_).2 ?_, by decide +kernel⟩
  · refine ⟨⟨⟨rfl, fun _ => rfl⟩, ?_⟩, fun _ _ => trivial⟩
    show ∀ b ∈ staffedSite.platform.world.activeBookingsOf 1, reviewer.IsStrangerTo b
    decide +kernel
  · exact ⟨⟨fun h => h.elim fun _ h => h.2, .inr fun h => h.elim fun _ h => h.2⟩,
      fun _ _ => trivial⟩

/-- A specialization is added. -/
def addSpecialization : SiteAction :=
  .admin (answering 20 1) reviewer
    (.createSpecialization ⟨"PAYROLL", ⟨"Payroll", by decide +kernel⟩, none⟩)

/-- **A new specialization leaves no entry**, whatever is asked of requests that fail. -/
theorem not_audit_complete :
    ¬ ∀ (env : Env) (s : Site) (as : List SiteAction), (site env).Meets InScope s as →
      (site env).Meets (Audited fun _ => True) s as := by
  intro h
  have hscope : InScope staffedSite addSpecialization := ⟨⟨rfl, trivial⟩, trivial⟩
  have haudited := (h plainEnv staffedSite [addSpecialization] ⟨hscope, fun _ _ => trivial⟩).1
  refine ((audited_iff hscope).1 haudited).1 ⟨reviewer, ⟨rfl, by decide⟩, fun d hd => ?_⟩
  exact absurd hd (Collection.not_mem_empty d)

end HrBooking
