import HrBooking.Model.Datetime

/-!
# Availability records

A consultant's schedule as the database holds it.  What the schema of the collection checks at
every save (a slot length from the list, `HH:mm` clock times, a weekday below seven, a time zone
that is not empty) is carried by the types of the fields.
-/

namespace HrBooking

/-- The name of a time zone. -/
abbrev TimezoneName := {s : String // s ≠ ""}

/-- The length of a text as JavaScript counts it, in UTF-16 code units. -/
def utf16Length (s : String) : ℕ := (s.toList.map fun c => if c.toNat < 0x10000 then 1 else 2).sum

/-- A working interval of a day. -/
structure WorkingInterval where
  start : Time
  stop : Time
  deriving DecidableEq

/-- The working intervals of one weekday, 0 for Sunday. -/
structure WorkingDay where
  weekday : Fin 7
  intervals : List WorkingInterval
  deriving DecidableEq

/-- A blocked date, as a whole or between two clock times. -/
structure BlockedDate where
  date : String
  startTime : Option Time
  endTime : Option Time
  reason : Option String
  deriving DecidableEq

/-- What the slot generator reads of a schedule. -/
structure SlotConfig where
  timezone : TimezoneName
  slotDurationMinutes : SlotDuration
  bufferMinutes : ℕ
  minNoticeMinutes : ℕ
  maxAdvanceDays : ℕ
  weeklyHours : List WorkingDay
  blockedDates : List BlockedDate
  deriving DecidableEq

/-- The stored schedule of a consultant. -/
structure Availability extends SlotConfig where
  hrUserId : ObjectId
  deriving DecidableEq

/-- `new Availability({ hrUserId })` : the schema's defaults. -/
def Availability.default (hrUserId : ObjectId) : Availability where
  timezone := ⟨AvailabilityDefaults.timezone, by decide⟩
  slotDurationMinutes := AvailabilityDefaults.slotDurationMinutes
  bufferMinutes := AvailabilityDefaults.bufferMinutes
  minNoticeMinutes := AvailabilityDefaults.minNoticeMinutes
  maxAdvanceDays := AvailabilityDefaults.maxAdvanceDays
  weeklyHours := []
  blockedDates := []
  hrUserId := hrUserId

end HrBooking
