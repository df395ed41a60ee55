import HrBooking.Booking.Rules
import HrBooking.Slot.Listing
import HrBooking.Store.Paging

/-!
# The tabs of a booking list

`listBookings` of `services/booking.service.ts`.  The filter of a tab is built from its scope, and
the status asked for is then written over the status of the scope.

* `bookingFilter`, `listBookings` : the filter of a request, and the page that is answered.
* `tabsPartition_iff` : exactly when the upcoming and the past bookings part the list.
* `not_tabsPartition` : a cancelled booking of tomorrow, asked for by its status.
-/

namespace HrBooking

open Paging

/-! ### Requests -/

/-- The tab asked for. -/
inductive ListScope where
  | upcoming | past | all
  deriving DecidableEq, Repr

/-- The side whose bookings are asked for. -/
inductive ScopeRole where
  | user | hr
  deriving DecidableEq, Repr

/-- The validated query of a list, with the defaults of `listBookingsQuerySchema`. -/
structure ListBookingsQuery where
  page : {n : ℕ // 1 ≤ n} := ⟨1, le_rfl⟩
  limit : {n : ℕ // 1 ≤ n ∧ n ≤ BookingLimits.pageSizeMax} :=
    ⟨BookingLimits.pageSizeDefault, by decide⟩
  role : Option ScopeRole := none
  scope : ListScope := .all
  status : Option BookingStatus := none
  deriving DecidableEq

/-- `TERMINAL_STATUSES` -/
def terminalStatuses : List BookingStatus := [.cancelled, .completed, .noShow]

/-- `resolveScopeRole` -/
def resolveScopeRole (actor : Actor) (requested : Option ScopeRole) : Except AppError ScopeRole :=
  match requested with
  | none => .ok (if actor.role = .hr then .hr else .user)
  | some role =>
    if role = .hr ∧ actor.role ≠ .hr then
      .error (.forbidden "Only consultants can list bookings made with them.")
    else .ok role

/-! ### Filters -/

/-- A filter of the booking collection; a condition that is not set holds of every booking. -/
structure BookingFilter where
  owner : Owner
  /-- The bound of `$gte`. -/
  startAt : Option ℤ := none
  /-- The list of `$in`, or the one status. -/
  status : Option (List BookingStatus) := none
  /-- The two branches of `$or`: the bound of `$lt`, and the list of `$in`. -/
  or : Option (ℤ × List BookingStatus) := none

/-- The database finds the booking. -/
def BookingFilter.Matches (filter : BookingFilter) (b : Booking) : Prop :=
  filter.owner.Owns b ∧ (∀ t ∈ filter.startAt, t ≤ b.startAt) ∧
    (∀ l ∈ filter.status, b.status ∈ l) ∧ ∀ p ∈ filter.or, b.startAt < p.1 ∨ b.status ∈ p.2

instance (filter : BookingFilter) : DecidablePred filter.Matches :=
  fun _ => inferInstanceAs (Decidable (_ ∧ _ ∧ _ ∧ _))

/-- Whose bookings are listed. -/
def listedOwner (actor : Actor) (requested : Option ScopeRole) : Except AppError Owner := do
  let role ← resolveScopeRole actor requested
  return if role = .hr then .hr actor.id else .user actor.id

/-- The conditions of a scope. -/
def ListScope.filter (owner : Owner) (now : ℤ) : ListScope → BookingFilter
  | upcoming => { owner, startAt := some now, status := some activeBookingStatuses }
  | past => { owner, or := some (now, terminalStatuses) }
  | all => { owner }

/-- The filter of a request. -/
def bookingFilter (actor : Actor) (query : ListBookingsQuery) (now : ℤ) :
    Except AppError BookingFilter := do
  let owner ← listedOwner actor query.role
  let filter := query.scope.filter owner now
  return { filter with status := (query.status.map fun status => [status]).or filter.status }

/-- The earliest booking comes first among the upcoming ones, and the latest everywhere else. -/
def ListScope.sortKey (scope : ListScope) (b : Booking) : ℤ :=
  if scope = .upcoming then b.startAt else -b.startAt

/-- The page answered to a request; `sort` is the order in which the database answers. -/
def listBookings (bookings : Collection Booking)
    (sort : (Booking → ℤ) → List Booking → List Booking) (actor : Actor)
    (query : ListBookingsQuery) (now : ℤ) : Except AppError (Page Booking) := do
  let filter ← bookingFilter actor query now
  let found := bookings.docs.filter filter.Matches
  return paginate query.limit query.page found.length (sort query.scope.sortKey found)

/-! ### The bookings of a tab -/

section

variable (bookings : Collection Booking) (actor : Actor) (query : ListBookingsQuery) (now : ℤ)

/-- The filter of the request finds the booking when the scope is this one. -/
def IsOnTab (scope : ListScope) (b : Booking) : Prop :=
  ∃ filter, bookingFilter actor { query with scope } now = .ok filter ∧ filter.Matches b

/-- Every booking that is listed at all is either upcoming or past, and none is both. -/
structure TabsPartition : Prop where
  covers : ∀ b ∈ bookings,
    IsOnTab actor query now .all b ↔
      IsOnTab actor query now .upcoming b ∨ IsOnTab actor query now .past b
  disjoint : ∀ b ∈ bookings,
    ¬ (IsOnTab actor query now .upcoming b ∧ IsOnTab actor query now .past b)

end

section

variable {bookings : Collection Booking} {actor : Actor} {query : ListBookingsQuery} {now : ℤ}
  {owner : Owner} {b : Booking}

/-- What a scope asks of a booking; a status that is asked for lifts the status of the scope. -/
def ListScope.Covers (now : ℤ) (status : Option BookingStatus) (b : Booking) : ListScope → Prop
  | upcoming => now ≤ b.startAt ∧ (status = none → b.isActive)
  | past => b.startAt < now ∨ b.status ∈ terminalStatuses
  | all => True

theorem bookingFilter_eq_ok {filter : BookingFilter} :
    bookingFilter actor query now = .ok filter ↔
      ∃ owner, listedOwner actor query.role = .ok owner ∧ filter =
        { query.scope.filter owner now with
          status := (query.status.map fun status => [status]).or
            (query.scope.filter owner now).status } := by
  unfold bookingFilter
  rw [bind_eq_ok]
  refine exists_congr fun owner => and_congr_right fun _ => ?_
  exact ⟨fun h => (Except.ok.inj h).symm, fun h => congrArg Except.ok h.symm⟩

/-- A booking is on a tab when it is of the side asked for, of the status asked for, and covered
by the scope. -/
theorem isOnTab_iff {scope : ListScope} :
    IsOnTab actor query now scope b ↔
      ∃ owner, listedOwner actor query.role = .ok owner ∧ owner.Owns b ∧
        (∀ status ∈ query.status, b.status = status) ∧ scope.Covers now query.status b := by
  have hmatches : ∀ owner, BookingFilter.Matches { scope.filter owner now with
      status := (query.status.map fun status => [status]).or (scope.filter owner now).status } b ↔
        owner.Owns b ∧ (∀ status ∈ query.status, b.status = status) ∧
          scope.Covers now query.status b := by
    intro owner
    cases hstatus : query.status <;> cases scope <;>
      simp [BookingFilter.Matches, ListScope.filter, ListScope.Covers, Booking.isActive, and_comm]
  simp only [IsOnTab, bookingFilter_eq_ok]
  constructor
  · rintro ⟨_, ⟨owner, howner, rfl⟩, hb⟩
    exact ⟨owner, howner, (hmatches owner).1 hb⟩
  · rintro ⟨owner, howner, hb⟩
    exact ⟨_, ⟨owner, howner, rfl⟩, (hmatches owner).2 hb⟩

theorem mem_terminalStatuses_iff : b.status ∈ terminalStatuses ↔ ¬ b.isActive := by
  rw [Booking.isActive_iff]
  cases b.status <;> simp [terminalStatuses]

/-- **The tabs of a list.**  The upcoming and the past bookings part the list exactly when no
booking of a terminal status that is asked for has its start still to come. -/
theorem tabsPartition_iff (bookings : Collection Booking) (actor : Actor)
    (query : ListBookingsQuery) (now : ℤ) :
    TabsPartition bookings actor query now ↔
      ∀ owner, listedOwner actor query.role = .ok owner →
        ∀ status ∈ query.status, status ∈ terminalStatuses →
          ∀ b ∈ bookings, owner.Owns b → b.status = status → b.startAt < now := by
  constructor
  · rintro h owner howner status hstatus hterminal b hb howns rfl
    by_contra hlt
    have hasked : ∀ s ∈ query.status, b.status = s := fun s hs =>
      Option.some_injective _ (hstatus.symm.trans hs)
    have hnone : query.status ≠ none := by
      rintro heq
      cases heq.symm.trans hstatus
    refine h.disjoint b hb ⟨isOnTab_iff.2 ⟨owner, howner, howns, hasked, not_lt.1 hlt, ?_⟩,
      isOnTab_iff.2 ⟨owner, howner, howns, hasked, .inr hterminal⟩⟩
    exact fun heq => absurd heq hnone
  · intro h
    constructor
    · intro b hb
      simp only [isOnTab_iff, ← exists_or, ← and_or_left, ListScope.Covers]
      refine exists_congr fun owner => and_congr_right fun howner => and_congr_right fun howns =>
        and_congr_right fun hasked => ?_
      rw [true_iff, mem_terminalStatuses_iff]
      -- a booking to come that the upcoming tab leaves out has no status asked for
      rcases lt_or_ge b.startAt now with hlt | hle
      · exact .inr (.inl hlt)
      · by_cases hactive : b.isActive
        · exact .inl ⟨hle, fun _ => hactive⟩
        · exact .inr (.inr hactive)
    · rintro b hb ⟨hupcoming, hpast⟩
      obtain ⟨owner, howner, howns, hasked, hle, hactive⟩ := isOnTab_iff.1 hupcoming
      obtain ⟨_, _, _, _, hlt | hterminal⟩ := isOnTab_iff.1 hpast
      · exact absurd hlt (not_lt.2 hle)
      · cases hstatus : query.status with
        | none => exact mem_terminalStatuses_iff.1 hterminal (hactive hstatus)
        | some status =>
          obtain rfl := hasked status hstatus
          exact absurd (h owner howner _ hstatus hterminal b hb howns rfl) (not_lt.2 hle)

end

/-- A consultation of tomorrow that its client has called off. -/
def calledOff (now : ℤ) : Booking :=
  { sampleBooking 7 (addDays now 1) 30 with
    status := .cancelled
    slotKey := none
    cancelledAt := some now
    cancelledBy := some .user }

/-- Asked for by its status, the cancelled booking is on both tabs. -/
theorem not_tabsPartition :
    ¬ ∀ (bookings : Collection Booking) (actor : Actor) (query : ListBookingsQuery) (now : ℤ),
      TabsPartition bookings actor query now := by
  intro h
  have hparts := h (singleBooking (calledOff 0)) ⟨(calledOff 0).userId, .user⟩
    { status := some .cancelled } 0
  refine hparts.disjoint (calledOff 0) (List.mem_singleton_self _) ⟨?_, ?_⟩
  · exact ⟨_, rfl, by decide⟩
  · exact ⟨_, rfl, by decide⟩

/-! ### The pages of a tab -/

/-- **The pages of a tab** show its bookings and no others, in whatever order the database answers
those of one start. -/
theorem exists_page_iff {bookings : Collection Booking} {actor : Actor} {query : ListBookingsQuery}
    {now : ℤ} {b : Booking} {sort : (Booking → ℤ) → List Booking → List Booking}
    (hsort : ∀ key l, (sort key l).Perm l) :
    (∃ page result, listBookings bookings sort actor { query with page } now = .ok result ∧
        b ∈ result.data) ↔
      b ∈ bookings ∧ IsOnTab actor query now query.scope b := by
  have hfilter : ∀ page, bookingFilter actor { query with page } now =
      bookingFilter actor query now := fun _ => rfl
  simp only [listBookings, hfilter, IsOnTab]
  cases hq : bookingFilter actor query now with
  | error e => simp [bind, Except.bind]
  | ok filter =>
    have hfound := hsort query.scope.sortKey (bookings.docs.filter filter.Matches)
    simp only [bind_eq_ok, Except.ok.injEq, exists_eq_left', pure, Except.pure]
    constructor
    · rintro ⟨page, hb⟩
      have hb := hfound.mem_iff.1 (List.mem_of_mem_drop (List.mem_of_mem_take hb))
      obtain ⟨hb, hmatches⟩ := List.mem_filter.1 hb
      exact ⟨hb, of_decide_eq_true hmatches⟩
    · rintro ⟨hb, hmatches⟩
      have hb := hfound.mem_iff.2 (List.mem_filter.2 ⟨hb, decide_eq_true hmatches⟩)
      rw [← flatMap_slice query.limit.property.1 (sort _ _), List.mem_flatMap] at hb
      obtain ⟨k, hk, hb⟩ := hb
      rw [List.mem_range, hfound.length_eq] at hk
      refine ⟨⟨k + 1, Nat.succ_pos k⟩, ?_⟩
      rwa [paginate_of_le (Nat.succ_le_of_lt hk)]

end HrBooking
