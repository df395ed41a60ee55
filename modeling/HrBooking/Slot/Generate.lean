import HrBooking.Model.Availability
import Mathlib.Data.List.Sort
import Mathlib.Logic.Function.Basic

/-!
# Slot generation

`generateSlots` of `services/slot.service.ts`.  Its three nested loops over dates, working
intervals and offsets are three folds over one accumulator, the set of the instants already
taken together with the slots found so far.

* `visitOffset`, `visitInterval`, `visitDate` : the bodies of the loops.
* `generateSlots` : the slots of a range, sorted.
* `isOfferedSlot` : the check of one instant, which generates the slots of one minute.
-/

namespace HrBooking

/-- A bookable interval. -/
structure Slot where
  startAt : ℤ
  endAt : ℤ
  deriving DecidableEq, Repr

/-- What slots are asked for: a range, the current time and the intervals already taken. -/
structure GenerateSlotsOptions where
  rangeStart : ℤ
  rangeEnd : ℤ
  now : ℤ
  busy : List Slot

/-- The slots found so far, and the instants they start at. -/
structure Found where
  seen : List ℤ
  slots : List Slot

/-- `intervalsByWeekday` : the last entry of a weekday counts. -/
def intervalsByWeekday (weeklyHours : List WorkingDay) : ℕ → Option (List WorkingInterval) :=
  weeklyHours.foldl (fun m day => Function.update m day.weekday (some day.intervals))
    fun _ => none

/-- `blocksByDate` : the blocks of every date, in their order. -/
def blocksByDate (blockedDates : List BlockedDate) : String → List BlockedDate :=
  blockedDates.foldl (fun m block => Function.update m block.date (m block.date ++ [block]))
    fun _ => []

/-- A block without both of its clock times takes the whole day. -/
def BlockedDate.isFullDay (block : BlockedDate) : Bool :=
  block.startTime.isNone || block.endTime.isNone

/-- Some block meets the minutes from `startMinutes` to `endMinutes`. -/
def isBlocked (blocks : List BlockedDate) (startMinutes endMinutes : ℕ) : Bool :=
  blocks.any fun block =>
    match block.startTime, block.endTime with
    | some blockStart, some blockEnd =>
      startMinutes < timeToMinutes blockEnd.val && endMinutes > timeToMinutes blockStart.val
    | _, _ => true

/-- The offsets of one interval: `offset`, `offset + step`, ... as long as a slot still fits. -/
def slotOffsets (duration step stop : ℕ) : ℕ → ℕ → List ℕ
  | 0, _ => []
  | fuel + 1, offset =>
    if offset + duration ≤ stop then
      offset :: slotOffsets duration step stop fuel (offset + step)
    else []

section Loops

variable (cal : Calendar) (config : SlotConfig) (opts : GenerateSlotsOptions)

/-- The first instant a slot may start at. -/
def earliest : ℤ := max opts.rangeStart (addMinutes opts.now config.minNoticeMinutes)

/-- The instant before which a slot must start. -/
def latest : ℤ := min opts.rangeEnd (addDays opts.now config.maxAdvanceDays)

/-- The minutes from one slot to the next. -/
def slotStep : ℕ := config.slotDurationMinutes.val + config.bufferMinutes

/-- The body of the loop over offsets. -/
def visitOffset (dateKey : String) (blocks : List BlockedDate) (acc : Found) (offset : ℕ) :
    Found :=
  if isBlocked blocks offset (offset + config.slotDurationMinutes.val) then acc
  else
    match cal.wallTimeToUtc dateKey offset with
    | none => acc
    | some startAt =>
      let endAt := addMinutes startAt config.slotDurationMinutes.val
      if startAt < earliest config opts ∨ startAt ≥ latest config opts then acc
      else if startAt ∈ acc.seen then acc
      else if ∃ b ∈ opts.busy, overlaps startAt endAt b.startAt b.endAt then acc
      else ⟨startAt :: acc.seen, acc.slots ++ [⟨startAt, endAt⟩]⟩

/-- The body of the loop over working intervals. -/
def visitInterval (dateKey : String) (blocks : List BlockedDate) (acc : Found)
    (interval : WorkingInterval) : Found :=
  let intervalStart := timeToMinutes interval.start.val
  let intervalEnd := timeToMinutes interval.stop.val
  -- a step is a minute at least, so this many steps pass the end of the interval
  (slotOffsets config.slotDurationMinutes.val (slotStep config) intervalEnd (intervalEnd + 1)
    intervalStart).foldl (visitOffset cal config opts dateKey blocks) acc

/-- The body of the loop over dates. -/
def visitDate (acc : Found) (dateKey : String) : Found :=
  match (cal.weekdayOfDateKey dateKey).bind (intervalsByWeekday config.weeklyHours) with
  | none => acc
  | some intervals =>
    if intervals.isEmpty then acc
    else
      let blocks := blocksByDate config.blockedDates dateKey
      if blocks.any BlockedDate.isFullDay then acc
      else intervals.foldl (visitInterval cal config opts dateKey blocks) acc

/-- The slots of a range, in the order of their starts. -/
def generateSlots : List Slot :=
  if earliest config opts ≥ latest config opts then []
  else
    ((cal.dateKeysBetween (earliest config opts) (latest config opts)).foldl
      (visitDate cal config opts) ⟨[], []⟩).slots.insertionSort fun a b => a.startAt ≤ b.startAt

end Loops

/-- The instant is a slot the consultant offers. -/
def isOfferedSlot (cal : TimezoneName → Calendar) (availability : Availability) (startAt now : ℤ) :
    Bool :=
  (generateSlots (cal availability.timezone) availability.toSlotConfig
    { rangeStart := startAt, rangeEnd := addMinutes startAt 1, now := now, busy := [] }).any
    fun slot => slot.startAt = startAt

end HrBooking
