import Mathlib.Data.Nat.Notation

/-!
# Constants

The enumerations, limits and defaults of `config/constants.ts`, and the request errors of
`utils/http-errors.ts` with the status, code and default text each of them carries.
-/

namespace HrBooking

/-! ### Enumerations -/

/-- Roles of an account. -/
inductive UserRole where
  | user | hr | admin | superAdmin
  deriving DecidableEq, Repr

/-- States of an account. -/
inductive UserStatus where
  | active | suspended
  deriving DecidableEq, Repr

/-- Review states of a consultant's profile. -/
inductive ProfileStatus where
  | draft | pendingReview | published | rejected
  deriving DecidableEq, Repr

/-- Currencies a consultant can charge in. -/
inductive Currency where
  | usd | eur | gbp | bdt | inr | cad | aud
  deriving DecidableEq, Repr

/-- Conference providers a stored booking may name. -/
inductive MeetingProvider where
  | googleMeet | zoom
  deriving DecidableEq, Repr

/-- A provider as it is stored and printed. -/
def MeetingProvider.text : MeetingProvider → String
  | googleMeet => "GOOGLE_MEET"
  | zoom => "ZOOM"

/-- Providers with a working adapter. -/
def supportedMeetingProviders : List MeetingProvider := [.googleMeet]

/-- States of a meeting record. -/
inductive MeetingStatus where
  | pending | created | failed | cancelled
  deriving DecidableEq, Repr

/-- States of a booking. -/
inductive BookingStatus where
  | pending | confirmed | cancelled | completed | noShow
  deriving DecidableEq, Repr

/-- Statuses that still occupy a slot. -/
def activeBookingStatuses : List BookingStatus := [.pending, .confirmed]

/-- Who cancelled a booking. -/
inductive CancelledBy where
  | user | hr | admin | system
  deriving DecidableEq, Repr

/-! ### Limits and defaults -/

/-- The slot lengths a consultant can choose, in minutes. -/
def slotDurations : List ℕ := [15, 30, 45, 60, 90]

/-- The slot lengths as a type. -/
abbrev SlotDuration := {n : ℕ // n ∈ slotDurations}

namespace AvailabilityDefaults

def timezone : String := "UTC"
def slotDurationMinutes : SlotDuration := ⟨30, by decide⟩
def bufferMinutes : ℕ := 0
def minNoticeMinutes : ℕ := 120
def maxAdvanceDays : ℕ := 60

end AvailabilityDefaults

namespace AvailabilityLimits

def intervalsPerDayMax : ℕ := 4
def blockedDatesMax : ℕ := 90
def bufferMinutesMax : ℕ := 60
def minNoticeMinutesMax : ℕ := 14 * 24 * 60
def maxAdvanceDaysMin : ℕ := 1
def maxAdvanceDaysMax : ℕ := 180
def slotRangeDaysMax : ℕ := 31
def blockReasonMax : ℕ := 120

end AvailabilityLimits

namespace ProfileLimits

def hourlyRateCentsMax : ℕ := 1000000

end ProfileLimits

namespace BookingLimits

def cancelNoticeMinutes : ℕ := 60
def rescheduleMax : ℕ := 3
def pageSizeMax : ℕ := 50
def pageSizeDefault : ℕ := 10

end BookingLimits

namespace AuthLimits

def maxFailedAttempts : ℕ := 5
def lockoutMs : ℕ := 15 * 60 * 1000

end AuthLimits

/-! ### Request errors -/

/-- An error answered to a request. -/
structure AppError where
  statusCode : ℕ
  code : String
  message : String
  deriving DecidableEq, Repr

namespace AppError

def badRequest (message : String) : AppError := ⟨400, "BAD_REQUEST", message⟩
def unauthorized (message : String) : AppError := ⟨401, "UNAUTHORIZED", message⟩
def forbidden (message : String) : AppError := ⟨403, "FORBIDDEN", message⟩
def notFound (message : String) : AppError := ⟨404, "NOT_FOUND", message⟩
def conflict (message : String) : AppError := ⟨409, "CONFLICT", message⟩
def validation (message : String) : AppError := ⟨400, "VALIDATION_ERROR", message⟩

def slotUnavailable (message : String) : AppError := ⟨409, "SLOT_ALREADY_BOOKED", message⟩

/-- `SlotUnavailableError` without a text of its own. -/
def slotTaken : AppError := slotUnavailable "This appointment slot is no longer available."

/-- An error that is no `AppError`; its text stays in the log. -/
def internal : AppError :=
  ⟨500, "INTERNAL_SERVER_ERROR", "Internal server error."⟩

end AppError

theorem bind_eq_ok {ε α β : Type} {x : Except ε α} {f : α → Except ε β} {b : β} :
    x >>= f = .ok b ↔ ∃ a, x = .ok a ∧ f a = .ok b := by
  cases x with
  | error e => exact iff_of_false (fun h => nomatch h) fun ⟨_, h, _⟩ => nomatch h
  | ok a =>
    constructor
    · exact fun h => ⟨a, rfl, h⟩
    · rintro ⟨_, ⟨⟩, h⟩
      exact h

theorem SlotDuration.pos (d : SlotDuration) : 15 ≤ d.val := by
  have hd := d.property
  simp only [slotDurations, List.mem_cons, List.not_mem_nil, or_false] at hd
  omega

theorem SlotDuration.le (d : SlotDuration) : d.val ≤ 90 := by
  have hd := d.property
  simp only [slotDurations, List.mem_cons, List.not_mem_nil, or_false] at hd
  omega

end HrBooking
