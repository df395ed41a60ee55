import HrBooking.Model.World

/-!
# Overlap checks

`findOverlappingBooking` of `services/booking.service.ts` and the two checks built on it.

* `Booking.OverlapsWith` : an active booking of an owner meets an interval.
* `assertConsultantIsFree_eq_ok`, `assertClientIsFree_eq_ok` : the checks pass exactly when no
  booking does.
* `DisjointFor` : no two active bookings of an owner overlap.
-/

namespace HrBooking

/-- Whose bookings are searched. -/
inductive Owner where
  | hr (hrUserId : ObjectId)
  | user (userId : ObjectId)
  deriving DecidableEq, Repr

/-- The booking is one of the owner's. -/
def Owner.Owns : Owner → Booking → Prop
  | hr hrUserId, booking => booking.hrUserId = hrUserId
  | user userId, booking => booking.userId = userId

instance (owner : Owner) (booking : Booking) : Decidable (owner.Owns booking) := by
  cases owner <;> exact inferInstanceAs (Decidable (_ = _))

/-- The filter of `findOverlappingBooking`: active bookings of the owner that meet an interval. -/
def Booking.OverlapsWith (owner : Owner) (startAt endAt : ℤ) (booking : Booking) : Prop :=
  owner.Owns booking ∧ booking.isActive ∧ booking.startAt < endAt ∧ booking.endAt > startAt

instance (owner : Owner) (startAt endAt : ℤ) (booking : Booking) :
    Decidable (booking.OverlapsWith owner startAt endAt) :=
  inferInstanceAs (Decidable (_ ∧ _))

/-- Some active booking of the owner, other than the excluded one, that meets an interval. -/
def findOverlappingBooking (bookings : Collection Booking) (pick : ℕ) (owner : Owner)
    (startAt endAt : ℤ) (excludeBookingId : Option ObjectId) : Option Booking :=
  findOne bookings pick fun booking =>
    booking.OverlapsWith owner startAt endAt ∧ some booking.id ≠ excludeBookingId

/-- `assertConsultantIsFree` -/
def assertConsultantIsFree (bookings : Collection Booking) (pick : ℕ) (hrUserId : ObjectId)
    (startAt endAt : ℤ) (excludeBookingId : Option ObjectId) : Except AppError Unit :=
  match findOverlappingBooking bookings pick (.hr hrUserId) startAt endAt excludeBookingId with
  | some _ => .error .slotTaken
  | none => .ok ()

/-- `assertClientIsFree` -/
def assertClientIsFree (bookings : Collection Booking) (pick : ℕ) (userId : ObjectId)
    (startAt endAt : ℤ) (excludeBookingId : Option ObjectId) : Except AppError Unit :=
  match findOverlappingBooking bookings pick (.user userId) startAt endAt excludeBookingId with
  | some _ => .error (.conflict "You already have a consultation booked at that time.")
  | none => .ok ()

/-- No active booking of the owner, other than the excluded one, meets the interval. -/
def IsFree (bookings : Collection Booking) (owner : Owner) (startAt endAt : ℤ)
    (excludeBookingId : Option ObjectId) : Prop :=
  ∀ booking ∈ bookings, booking.OverlapsWith owner startAt endAt →
    some booking.id = excludeBookingId

instance (bookings : Collection Booking) (owner : Owner) (startAt endAt : ℤ)
    (excludeBookingId : Option ObjectId) :
    Decidable (IsFree bookings owner startAt endAt excludeBookingId) :=
  inferInstanceAs (Decidable (∀ booking ∈ bookings, _ → _))

section

variable {bookings : Collection Booking} {pick : ℕ} {owner : Owner} {startAt endAt : ℤ}
  {excludeBookingId : Option ObjectId}

theorem findOverlappingBooking_eq_none (pick : ℕ) :
    findOverlappingBooking bookings pick owner startAt endAt excludeBookingId = none ↔
      IsFree bookings owner startAt endAt excludeBookingId := by
  rw [findOverlappingBooking, findOne_eq_none]
  refine forall₂_congr fun booking _ => ?_
  rw [decide_eq_false_iff_not, not_and, not_not]

theorem assertConsultantIsFree_eq_ok {hrUserId : ObjectId} :
    assertConsultantIsFree bookings pick hrUserId startAt endAt excludeBookingId = .ok () ↔
      IsFree bookings (.hr hrUserId) startAt endAt excludeBookingId := by
  unfold assertConsultantIsFree
  rw [← findOverlappingBooking_eq_none pick]
  split <;> simp_all

theorem assertClientIsFree_eq_ok {userId : ObjectId} :
    assertClientIsFree bookings pick userId startAt endAt excludeBookingId = .ok () ↔
      IsFree bookings (.user userId) startAt endAt excludeBookingId := by
  unfold assertClientIsFree
  rw [← findOverlappingBooking_eq_none pick]
  split <;> simp_all

end

/-! ### Clashes -/

/-- Two active bookings of the owner that overlap. -/
def Clash (owner : Owner) (b b' : Booking) : Prop :=
  owner.Owns b ∧ b.isActive ∧ b'.OverlapsWith owner b.startAt b.endAt

instance (owner : Owner) (b b' : Booking) : Decidable (Clash owner b b') :=
  inferInstanceAs (Decidable (_ ∧ _))

theorem Clash.symm {owner : Owner} {b b' : Booking} (h : Clash owner b b') : Clash owner b' b :=
  ⟨h.2.2.1, h.2.2.2.1, h.1, h.2.1, h.2.2.2.2.2, h.2.2.2.2.1⟩

/-- No two active bookings of the owner overlap. -/
def DisjointFor (owner : Owner) (bookings : Collection Booking) : Prop :=
  ∀ b ∈ bookings, ∀ b' ∈ bookings, b.id ≠ b'.id → ¬ Clash owner b b'

instance (owner : Owner) (bookings : Collection Booking) :
    Decidable (DisjointFor owner bookings) :=
  inferInstanceAs (Decidable (∀ b ∈ bookings, ∀ b' ∈ bookings, _ → _))

section

variable {owner : Owner} {c c' : Collection Booking}

theorem DisjointFor.of_subset (h : DisjointFor owner c)
    (hsub : ∀ b ∈ c', b.isActive → b ∈ c) : DisjointFor owner c' := by
  intro b hb b' hb' hne hclash
  exact h b (hsub b hb hclash.2.1) b' (hsub b' hb' hclash.2.2.2.1) hne hclash

theorem DisjointFor.of_changed {n : Booking} (h : DisjointFor owner c)
    (hsub : ∀ b ∈ c', b = n ∨ (b ∈ c ∧ b.id ≠ n.id))
    (hfree : owner.Owns n → IsFree c owner n.startAt n.endAt (some n.id)) :
    DisjointFor owner c' := by
  have hnew : ∀ b ∈ c, b.id ≠ n.id → ¬ Clash owner n b := by
    intro b hb hne hclash
    exact hne (Option.some.inj (hfree hclash.1 b hb hclash.2.2))
  intro b hb b' hb' hne hclash
  rcases hsub b hb with rfl | ⟨hb, hbn⟩ <;> rcases hsub b' hb' with rfl | ⟨hb', hbn'⟩
  · exact hne rfl
  · exact hnew b' hb' hbn' hclash
  · exact hnew b hb hbn hclash.symm
  · exact h b hb b' hb' hne hclash

end

end HrBooking
