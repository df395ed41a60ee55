import HrBooking.Serial.Failure
import HrBooking.Serial.Gate
import Mathlib.Algebra.Order.Round
import Mathlib.Data.Rat.Floor

/-!
# The fee of a booking

The fee is computed once, from the consultant's hourly rate and the length of the slot when the
booking is made.  A reschedule takes the length of the slots as they are then and leaves the fee as
it was; so the fee matches the length as long as no reschedule finds slots of another fee.

* `prorate_eq_round` : the fee is the prorated rate, half a cent rounded up.
* `FeeChange` : what an action does to fee and length.
* `fees_match` : in every run whose reschedules keep the fee, the fee of every booking matches.
* `not_fees_match` : without the condition it does not.
-/

namespace HrBooking

theorem prorate_eq_round (hourlyRateCents durationMinutes : ℕ) :
    (prorate hourlyRateCents durationMinutes : ℤ) =
      round ((hourlyRateCents * durationMinutes : ℚ) / 60) := by
  have hhalf : (hourlyRateCents * durationMinutes : ℚ) / 60 + 1 / 2 =
      ((2 * (hourlyRateCents * durationMinutes) + 60 : ℕ) : ℚ) / (120 : ℕ) := by
    push_cast
    ring
  rw [round_eq, hhalf, Rat.floor_natCast_div_natCast, prorate]
  rfl

section Created

variable (cal : TimezoneName → Calendar) (w₀ : World)

/-- A booking was created in a run, for the fee of a profile. -/
def CreatedFrom (as : List SerialAction) (id : ObjectId) (profile : HRProfile) : Prop :=
  ∃ pre post o actor input w b c, as = pre ++ .createBooking o actor input :: post ∧
    (serial cal).run w₀ pre = some w ∧ (Request.create actor input).Writes cal o w b c ∧
    b.id = id ∧ bookableProfile w.profiles actor input = .ok profile

/-- The fee of every booking made in the run is the prorated rate at its creation, for the length it
has now. -/
def FeesMatch (as : List SerialAction) (w : World) : Prop :=
  ∀ b ∈ w.bookings, (∀ b₀ ∈ w₀.bookings, b₀.id ≠ b.id) →
    ∃ profile, CreatedFrom cal w₀ as b.id profile ∧
      (b.priceCents : ℤ) = round ((profile.hourlyRateCents * b.durationMinutes : ℚ) / 60) ∧
      b.currency = profile.currency

/-- The move a reschedule is allowed to make. -/
def SerialAction.moves (w : World) : SerialAction → Option MoveArgs
  | .rescheduleBooking o actor id input => (rescheduleArgs cal o actor id input w).toOption
  | _ => none

/-- A reschedule that goes through finds slots of a length that costs as much, at the rate the
booking was made for. -/
def KeepsFee (pre : List SerialAction) (a : SerialAction) : Prop :=
  ∀ w args c profile, (serial cal).run w₀ pre = some w → args ∈ a.moves cal w →
    w.bookings.update args.booking.id args.apply = some c →
    CreatedFrom cal w₀ pre args.booking.id profile →
      prorate profile.hourlyRateCents args.availability.slotDurationMinutes =
        prorate profile.hourlyRateCents args.booking.durationMinutes

/-- A reschedule that is allowed finds the slots as long as the booking. -/
def KeepsLength (w : World) (a : SerialAction) : Prop :=
  ∀ args ∈ a.moves cal w, args.availability.slotDurationMinutes = args.booking.durationMinutes

instance (w : World) (a : SerialAction) : Decidable (KeepsLength cal w a) :=
  inferInstanceAs (Decidable (∀ args ∈ a.moves cal w, _))

variable {cal w₀}

theorem CreatedFrom.append {as : List SerialAction} {id : ObjectId} {profile : HRProfile}
    (h : CreatedFrom cal w₀ as id profile) (a : SerialAction) :
    CreatedFrom cal w₀ (as ++ [a]) id profile := by
  obtain ⟨pre, post, o, actor, input, w, b, c, rfl, hrest⟩ := h
  exact ⟨pre, post ++ [a], o, actor, input, w, b, c, by simp, hrest⟩

end Created

/-! ### What an action does -/

section Step

variable {cal : TimezoneName → Calendar} {w w' : World} {a : SerialAction} {b : Booking}

/-- Nothing that a fee depends on has changed. -/
structure SameFee (b b' : Booking) : Prop where
  id : b'.id = b.id
  priceCents : b'.priceCents = b.priceCents
  currency : b'.currency = b.currency
  durationMinutes : b'.durationMinutes = b.durationMinutes

theorem SameFee.refl (b : Booking) : SameFee b b := ⟨rfl, rfl, rfl, rfl⟩

/-- Where the fee of a booking that is stored after an action comes from. -/
inductive FeeChange (cal : TimezoneName → Calendar) (w : World) :
    SerialAction → Booking → Prop
  | kept {a : SerialAction} {b b' : Booking} (hb : b ∈ w.bookings) (h : SameFee b b') :
      FeeChange cal w a b'
  | created {o : Oracle} {actor : Actor} {input : CreateBookingInput} {b : Booking}
      {c : Collection Booking} (h : (Request.create actor input).Writes cal o w b c) :
      FeeChange cal w (.createBooking o actor input) b
  | moved {o : Oracle} {actor : Actor} {id : ObjectId} {input : RescheduleBookingInput}
      {args : MoveArgs} {c : Collection Booking} (hb : args.booking ∈ w.bookings)
      (hargs : rescheduleArgs cal o actor id input w = .ok args)
      (hupd : w.bookings.update args.booking.id args.apply = some c) :
      FeeChange cal w (.rescheduleBooking o actor id input) (args.apply args.booking)

/-- **What an action does to a fee.** -/
theorem feeChange_of_step (h : (serial cal).step w a = some w') (hb : b ∈ w'.bookings) :
    FeeChange cal w a b := by
  have hkept : w'.bookings = w.bookings → FeeChange cal w a b := fun hsame =>
    .kept (hsame ▸ hb) (.refl b)
  -- a creation sets the fee, a move keeps it, and nothing else writes it
  cases a with
  | createBooking o actor input =>
    obtain ⟨-, rfl⟩ := Service.after_eq_some.1 h
    rcases (Request.create actor input).bookings_cases cal o w with hsame | ⟨new, hwrites⟩
    · exact hkept hsame
    · obtain ⟨args, hargs, rfl, hins⟩ := id hwrites
      rcases (Collection.mem_insert hins).1 hb with hb | rfl
      · exact .kept hb (.refl b)
      · exact .created hwrites
  | cancelBooking o actor bookingId reason =>
    obtain ⟨-, rfl⟩ := Service.after_eq_some.1 h
    rcases (Request.cancel actor bookingId reason).bookings_cases cal o w with
      hsame | ⟨_, booking, role, hargs, rfl, hupd⟩
    · exact hkept hsame
    · rcases (Collection.mem_update hupd).1 hb with ⟨hb, -⟩ | ⟨d, hd, -, rfl⟩
      · exact .kept hb (.refl b)
      · exact .kept hd ⟨rfl, rfl, rfl, rfl⟩
  | rescheduleBooking o actor bookingId input =>
    obtain ⟨-, rfl⟩ := Service.after_eq_some.1 h
    rcases (Request.reschedule actor bookingId input).bookings_cases cal o w with
      hsame | ⟨_, args, hargs, rfl, hupd⟩
    · exact hkept hsame
    · rcases (Collection.mem_update hupd).1 hb with ⟨hb, -⟩ | ⟨d, hd, hid, rfl⟩
      · exact .kept hb (.refl b)
      · obtain ⟨booking, role, hmem, -, -, hmove, -, -⟩ := rescheduleArgs_eq_ok.1 hargs
        -- the booking that was read is the one that is stored
        obtain rfl : args.booking = d := by
          obtain ⟨-, rfl⟩ := moveArgs_eq_ok.1 hmove
          exact Collection.eq_of_docId hmem hd hid.symm
        exact .moved hd hargs hupd
  | retryBookingMeeting o actor bookingId =>
    obtain ⟨-, rfl⟩ := Service.after_eq_some.1 h
    exact hkept (retryBookingMeeting_writes actor bookingId w).frame.bookings
  | runJob o name bookingId =>
    obtain ⟨-, rfl⟩ := Service.after_eq_some.1 h
    exact hkept (name.handle_writes bookingId w).frame.bookings
  | updateAvailability | setProfiles | advance =>
    cases h
    exact hkept rfl
  | sweep =>
    cases h
    rcases mem_lifecycleSweep hb with hb | ⟨d, hd, -, rfl⟩
    · exact .kept hb (.refl b)
    · exact .kept hd ⟨rfl, rfl, rfl, rfl⟩

end Step

/-! ### Runs -/

section Runs

variable {cal : TimezoneName → Calendar} {w₀ w w' : World} {as : List SerialAction}
  {a : SerialAction}

/-- **Every action that keeps the fee of the booking it moves keeps the invariant.** -/
theorem FeesMatch.step (h : FeesMatch cal w₀ as w) (hrun : (serial cal).run w₀ as = some w)
    (hkeeps : KeepsFee cal w₀ as a) (hstep : (serial cal).step w a = some w') :
    FeesMatch cal w₀ (as ++ [a]) w' := by
  intro b' hb' hnew
  cases feeChange_of_step hstep hb' with
  | @kept _ b _ hb hsame =>
    rw [hsame.id] at hnew ⊢
    obtain ⟨profile, hfrom, hfee, hcurrency⟩ := h b hb hnew
    refine ⟨profile, hfrom.append a, ?_, hsame.currency.trans hcurrency⟩
    rw [hsame.priceCents, hsame.durationMinutes, hfee]
  | @created o actor input b' c hwrites =>
    obtain ⟨args, hargs, rfl, -⟩ := id hwrites
    obtain ⟨profile, hprofile, hoffered, -, -⟩ := createArgs_eq_ok.1 hargs
    obtain ⟨-, rfl⟩ := offeredArgs_eq_ok.1 hoffered
    exact ⟨profile, ⟨as, [], o, actor, input, w, _, c, rfl, hrun, hwrites, rfl, hprofile⟩,
      prorate_eq_round _ _, rfl⟩
  | @moved o actor bookingId input args c hb hargs hupd =>
    obtain ⟨profile, hfrom, hfee, hcurrency⟩ := h args.booking hb hnew
    refine ⟨profile, hfrom.append _, ?_, hcurrency⟩
    -- the slots it has found cost as much as those it was in
    have hsame := hkeeps w args c profile hrun (by rw [SerialAction.moves, hargs]; rfl) hupd hfrom
    rw [← prorate_eq_round, ← hsame] at hfee
    exact hfee.trans (prorate_eq_round _ _)

/-- **The fee matches the length** of every booking made in a serial run (of the booking services,
meeting calls, changes of schedules and of profiles, sweeps and time) whose reschedules keep the
fee. -/
theorem fees_match (hkeeps : ∀ pre a post, as = pre ++ a :: post → KeepsFee cal w₀ pre a)
    (hrun : (serial cal).run w₀ as = some w) : FeesMatch cal w₀ as w := by
  refine Machine.run_history (I := fun pre t =>
    (∀ pre' a post, pre = pre' ++ a :: post → KeepsFee cal w₀ pre' a) → FeesMatch cal w₀ pre t)
    (G := fun _ _ => True) ?_ (fun pre a t t' ht hI _ hstep hk => ?_)
    (Machine.meets_of_forall (fun _ _ => trivial) _ _) hrun hkeeps
  · exact fun _ b hb hnew => absurd rfl (hnew b hb)
  · have hpre : ∀ pre' a' post, pre = pre' ++ a' :: post → KeepsFee cal w₀ pre' a' :=
      fun pre' a' post hsplit => hk pre' a' (post ++ [a]) (by rw [hsplit]; simp)
    exact (hI hpre).step ht (hk pre a [] rfl) hstep

/-- Slots of one length cost the same, whatever the rate was. -/
theorem keepsFee_of_keepsLength (h : (serial cal).Meets (KeepsLength cal) w₀ as) :
    ∀ pre a post, as = pre ++ a :: post → KeepsFee cal w₀ pre a := by
  intro pre a post hsplit w args c profile hrun hargs _ _
  rw [Machine.meets_iff_forall_prefix.1 h pre a post w hsplit hrun args hargs]

end Runs

/-! ### Fees on the Monday schedule -/

/-- Consultant 1 asks for a higher rate. -/
def raisedRate : SerialAction :=
  .setProfiles ⟨[⟨5, 1, .published, true, 8000, .usd⟩], List.pairwise_singleton _ _⟩

/-- Client 2 books nine o'clock, the rate rises, and the booking is moved to ten. -/
def raisedMonday : List SerialAction :=
  [.createBooking (answering 1 1) ⟨2, .user⟩ (slotAt mondayNine), raisedRate,
    .rescheduleBooking (answering 2 2) ⟨2, .user⟩ 1 ⟨addMinutes mondayNine 60, none⟩]

theorem raisedMonday_isSome :
    ((serial utcCalendar).run mondayWorld raisedMonday).isSome = true := by
  decide +kernel

/-- The fee stays the one of the rate at the creation. -/
theorem fees_match_raised : FeesMatch utcCalendar mondayWorld raisedMonday
    (((serial utcCalendar).run mondayWorld raisedMonday).get raisedMonday_isSome) :=
  fees_match (keepsFee_of_keepsLength (by decide +kernel)) (Option.some_get _).symm

/-- The action is a call of a booking service, or changes a schedule or the profiles, or time
passes. -/
def SerialAction.isBookingCall : SerialAction → Bool
  | createBooking .. | cancelBooking .. | rescheduleBooking .. | updateAvailability ..
  | setProfiles .. | advance .. => true
  | _ => false

/-- Client 2 books an hour at nine o'clock, the slots become half hours, and the booking is moved to
half past ten. -/
def shortenedMonday : List SerialAction :=
  [.createBooking (answering 1 1) ⟨2, .user⟩ (slotAt mondayNine),
    .updateAvailability 1 (mondayConfig AvailabilityDefaults.slotDurationMinutes),
    .rescheduleBooking (answering 2 2) ⟨2, .user⟩ 1 ⟨addMinutes mondayNine 90, none⟩]

theorem shortenedMonday_isSome :
    ((serial utcCalendar).run mondayWorld shortenedMonday).isSome = true := by
  decide +kernel

/-- **The fee does not follow the length**: the client pays for an hour and gets half of it. -/
theorem not_fees_match :
    ¬ ∀ (cal : TimezoneName → Calendar) (w₀ : World) (as : List SerialAction) (w : World),
      (∀ a ∈ as, a.isBookingCall = true) → (serial cal).run w₀ as = some w →
      FeesMatch cal w₀ as w := by
  intro h
  have hmatch := h utcCalendar mondayWorld shortenedMonday _ (by decide)
    (Option.some_get shortenedMonday_isSome).symm
  obtain ⟨b, hb, hid, hprice, hlength⟩ : ∃ b ∈ (((serial utcCalendar).run mondayWorld
      shortenedMonday).get shortenedMonday_isSome).bookings,
      b.id = 1 ∧ b.priceCents = 5000 ∧ b.durationMinutes = 30 := by
    decide +kernel
  obtain ⟨profile, ⟨pre, post, o, actor, input, w, -, -, hsplit, hrun, -, -, hprofile⟩, hfee, -⟩ :=
    hmatch b hb fun b₀ hb₀ => absurd hb₀ (Collection.not_mem_empty b₀)
  -- the booking is made in the first action, where the only profile asks for 5000
  cases pre with
  | cons a pre =>
    have hmem : SerialAction.createBooking o actor input ∈ shortenedMonday.tail := by
      rw [hsplit]
      simp
    simp [shortenedMonday] at hmem
  | nil =>
    obtain rfl : mondayWorld = w := Option.some.inj hrun
    have hrate : profile.hourlyRateCents = 5000 := by
      have hmem := (bookableProfile_eq_ok.1 hprofile).1
      obtain rfl := List.mem_singleton.1 hmem
      rfl
    rw [hprice, hlength, hrate, ← prorate_eq_round] at hfee
    exact absurd hfee (by decide)

end HrBooking
