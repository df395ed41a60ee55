import HrBooking.Model.Availability
import Mathlib.Data.List.Pairwise
import Mathlib.Data.List.Sort
import Mathlib.Order.CompletePartialOrder
import Mathlib.Order.Interval.Set.Disjoint

/-!
# The schedule validator

`updateAvailabilitySchema` of `validators/availability.validator.ts`: a request body is read into
a `SlotConfig` or refused with the field path and, where the source gives one, the text of the
first check that fails.  An issue without a text carries the validation library's own.

* `updateAvailabilitySchema` : the whole body.
* `hasOverlappingIntervals` : the neighbour check of the intervals of a day.
* `hasOverlappingIntervals_eq_false_iff` : it decides whether any two of them share a minute.
* `updateAvailabilitySchema_weekdays` : an accepted schedule names every weekday at most once.
* `updateAvailabilitySchema_intervals` : the intervals of its days do not overlap.
-/

namespace HrBooking

/-! ### Bodies and issues -/

/-- The kinds of failed checks. -/
inductive IssueCode where
  | invalidType | invalidFormat | tooSmall | tooBig | custom
  deriving DecidableEq, Repr

/-- A failed check: its kind, the path of the field and the text of the source. -/
structure Issue where
  code : IssueCode
  path : List String
  message : Option String
  deriving DecidableEq, Repr

/-- A working interval as it is received. -/
structure IntervalBody where
  start : String
  stop : String

/-- A working day as it is received; numbers are read after their coercion. -/
structure WorkingDayBody where
  weekday : ℚ
  intervals : List IntervalBody

/-- A blocked date as it is received. -/
structure BlockedDateBody where
  date : String
  startTime : Option String
  endTime : Option String
  reason : Option String

/-- A schedule as it is received. -/
structure AvailabilityBody where
  timezone : String
  slotDurationMinutes : Option ℚ
  bufferMinutes : Option ℚ
  minNoticeMinutes : Option ℚ
  maxAdvanceDays : Option ℚ
  weeklyHours : Option (List WorkingDayBody)
  blockedDates : Option (List BlockedDateBody)

/-! ### Field schemas -/

/-- Refuse with an issue unless a check passes. -/
def require (check : Prop) [Decidable check] (code : IssueCode) (path : List String)
    (message : Option String) : Except Issue Unit :=
  if check then .ok () else .error ⟨code, path, message⟩

/-- `z.coerce.number().int().min(lo).max(hi)` -/
def intSchema (lo hi : ℕ) (path : List String) (value : ℚ) : Except Issue ℕ := do
  require (value.den = 1) .invalidType path none
  require (lo ≤ value.num) .tooSmall path none
  require (value.num ≤ hi) .tooBig path none
  return value.num.toNat

/-- A field with a default value. -/
def withDefault {α β : Type} (schema : α → Except Issue β) (default : β) : Option α → Except Issue β
  | none => .ok default
  | some value => schema value

/-- The elements of an array, each under its own path. -/
def arraySchema {α β : Type} (schema : List String → α → Except Issue β) (path : List String)
    (values : List α) : Except Issue (List β) :=
  values.zipIdx.mapM fun p => schema (path ++ [toString p.2]) p.1

/-- `timeSchema` -/
def timeSchema (path : List String) (value : String) : Except Issue Time :=
  if h : timePattern value then .ok ⟨value, h⟩
  else .error ⟨.invalidFormat, path, some "Times must use the 24-hour HH:mm format"⟩

/-- White space and line terminators, which `trim` removes. -/
def isTrimmed (c : Char) : Bool :=
  c.toNat ∈ [0x9, 0xA, 0xB, 0xC, 0xD, 0x20, 0xA0, 0x1680, 0x2028, 0x2029, 0x202F, 0x205F, 0x3000,
    0xFEFF] || (0x2000 ≤ c.toNat && c.toNat ≤ 0x200A)

/-- `String.prototype.trim` -/
def jsTrim (s : String) : String :=
  String.ofList ((s.toList.dropWhile isTrimmed).reverse.dropWhile isTrimmed).reverse

/-- `timezoneSchema`; which names are time zones is known to the date library. -/
def timezoneSchema (isValidTimezone : String → Bool) (path : List String) (value : String) :
    Except Issue TimezoneName :=
  let name := jsTrim value
  if h : name ≠ "" then do
    require (utf16Length name ≤ 64) .tooBig path none
    require (isValidTimezone name) .custom path (some "Unknown IANA timezone")
    return ⟨name, h⟩
  else .error ⟨.tooSmall, path, none⟩

/-- `/^\d{4}-\d{2}-\d{2}$/` -/
def datePattern (s : String) : Bool :=
  match s.toList with
  | [y₁, y₂, y₃, y₄, d₁, m₁, m₂, d₂, a₁, a₂] =>
    [y₁, y₂, y₃, y₄, m₁, m₂, a₁, a₂].all Char.isDigit && d₁ = '-' && d₂ = '-'
  | _ => false

/-- `Date.parse` reads the key: the month and the day of the month are in range. -/
def isCalendarDate (s : String) : Bool :=
  let month := numeralValue 10 ((s.toList.drop 5).take 2)
  let day := numeralValue 10 (s.toList.drop 8)
  1 ≤ month && month ≤ 12 && 1 ≤ day && day ≤ 31

/-- `dateKeySchema` -/
def dateKeySchema (path : List String) (value : String) : Except Issue String := do
  require (datePattern value) .invalidFormat path (some "Dates must use the YYYY-MM-DD format")
  require (isCalendarDate value) .custom path (some "Invalid calendar date")
  return value

/-! ### Composite schemas -/

/-- `intervalSchema` -/
def intervalSchema (path : List String) (body : IntervalBody) : Except Issue WorkingInterval := do
  let start ← timeSchema (path ++ ["start"]) body.start
  let stop ← timeSchema (path ++ ["end"]) body.stop
  require (timeToMinutes stop.val > timeToMinutes start.val) .custom path
    (some "An interval must end after it starts")
  return ⟨start, stop⟩

/-- Some interval starts before the end of the one before it in the order of the starts. -/
def hasOverlappingIntervals (intervals : List WorkingInterval) : Bool :=
  let sorted := intervals.insertionSort fun a b =>
    timeToMinutes a.start.val ≤ timeToMinutes b.start.val
  (sorted.zip sorted.tail).any fun p =>
    timeToMinutes p.2.start.val < timeToMinutes p.1.stop.val

/-- `workingDaySchema` -/
def workingDaySchema (path : List String) (body : WorkingDayBody) : Except Issue WorkingDay := do
  let weekday ← intSchema 0 6 (path ++ ["weekday"]) body.weekday
  require (body.intervals.length ≤ AvailabilityLimits.intervalsPerDayMax) .tooBig
    (path ++ ["intervals"]) none
  let intervals ← arraySchema intervalSchema (path ++ ["intervals"]) body.intervals
  require (hasOverlappingIntervals intervals = false) .custom path
    (some "Working intervals must not overlap")
  return ⟨Fin.ofNat 7 weekday, intervals⟩

/-- `blockedDateSchema` -/
def blockedDateSchema (path : List String) (body : BlockedDateBody) : Except Issue BlockedDate := do
  let date ← dateKeySchema (path ++ ["date"]) body.date
  let startTime ← body.startTime.mapM (timeSchema (path ++ ["startTime"]))
  let endTime ← body.endTime.mapM (timeSchema (path ++ ["endTime"]))
  let reason := body.reason.map jsTrim
  require (∀ r ∈ reason, utf16Length r ≤ AvailabilityLimits.blockReasonMax) .tooBig
    (path ++ ["reason"]) none
  require (startTime.isSome = endTime.isSome) .custom path
    (some "Provide both a start and an end time, or neither for a full-day block")
  require (∀ s ∈ startTime, ∀ e ∈ endTime, timeToMinutes e.val > timeToMinutes s.val) .custom path
    (some "A blocked range must end after it starts")
  return ⟨date, startTime, endTime, reason⟩

/-- The slot length is one of the list. -/
def slotDurationSchema (path : List String) (value : ℚ) : Except Issue SlotDuration := do
  require (value.den = 1) .invalidType path none
  if h : 0 ≤ value.num ∧ value.num.toNat ∈ slotDurations then
    return ⟨value.num.toNat, h.2⟩
  else
    .error ⟨.custom, path, some "Slot duration must be one of 15, 30, 45, 60, 90 minutes"⟩

/-- `weeklyHours` -/
def weeklyHoursSchema (path : List String) (body : List WorkingDayBody) :
    Except Issue (List WorkingDay) := do
  require (body.length ≤ 7) .tooBig path none
  let days ← arraySchema workingDaySchema path body
  require ((days.map WorkingDay.weekday).Nodup) .custom path
    (some "Each weekday may appear only once")
  return days

/-- `blockedDates` -/
def blockedDatesSchema (path : List String) (body : List BlockedDateBody) :
    Except Issue (List BlockedDate) := do
  require (body.length ≤ AvailabilityLimits.blockedDatesMax) .tooBig path none
  arraySchema blockedDateSchema path body

/-- `updateAvailabilitySchema` -/
def updateAvailabilitySchema (isValidTimezone : String → Bool) (body : AvailabilityBody) :
    Except Issue SlotConfig := do
  let timezone ← timezoneSchema isValidTimezone ["timezone"] body.timezone
  let slotDurationMinutes ← withDefault (slotDurationSchema ["slotDurationMinutes"])
    AvailabilityDefaults.slotDurationMinutes body.slotDurationMinutes
  let bufferMinutes ← withDefault
    (intSchema 0 AvailabilityLimits.bufferMinutesMax ["bufferMinutes"])
    AvailabilityDefaults.bufferMinutes body.bufferMinutes
  let minNoticeMinutes ← withDefault
    (intSchema 0 AvailabilityLimits.minNoticeMinutesMax ["minNoticeMinutes"])
    AvailabilityDefaults.minNoticeMinutes body.minNoticeMinutes
  let maxAdvanceDays ← withDefault
    (intSchema AvailabilityLimits.maxAdvanceDaysMin AvailabilityLimits.maxAdvanceDaysMax
      ["maxAdvanceDays"])
    AvailabilityDefaults.maxAdvanceDays body.maxAdvanceDays
  let weeklyHours ← withDefault (weeklyHoursSchema ["weeklyHours"]) [] body.weeklyHours
  let blockedDates ← withDefault (blockedDatesSchema ["blockedDates"]) [] body.blockedDates
  return { timezone, slotDurationMinutes, bufferMinutes, minNoticeMinutes, maxAdvanceDays,
           weeklyHours, blockedDates }

/-! ### What acceptance says -/

theorem require_eq_ok {check : Prop} [Decidable check] {code : IssueCode} {path : List String}
    {message : Option String} : require check code path message = .ok () ↔ check := by
  unfold require
  split_ifs with h <;> simp [h]

theorem weeklyHoursSchema_nodup {path : List String} {body : List WorkingDayBody}
    {days : List WorkingDay} (h : weeklyHoursSchema path body = .ok days) :
    (days.map WorkingDay.weekday).Nodup := by
  obtain ⟨-, -, h⟩ := bind_eq_ok.1 h
  obtain ⟨parsed, -, h⟩ := bind_eq_ok.1 h
  obtain ⟨_, hnodup, h⟩ := bind_eq_ok.1 h
  cases h
  exact require_eq_ok.1 hnodup

theorem exists_of_mem_arraySchema {α β : Type} {schema : List String → α → Except Issue β}
    {path : List String} {values : List α} {parsed : List β}
    (h : arraySchema schema path values = .ok parsed) {y : β} (hy : y ∈ parsed) :
    ∃ path' x, schema path' x = .ok y := by
  unfold arraySchema at h
  generalize values.zipIdx = pairs at h
  induction pairs generalizing parsed with
  | nil =>
    rw [List.mapM_nil] at h
    cases h
    exact absurd hy List.not_mem_nil
  | cons p pairs ih =>
    rw [List.mapM_cons] at h
    obtain ⟨first, hfirst, h⟩ := bind_eq_ok.1 h
    obtain ⟨rest, hrest, h⟩ := bind_eq_ok.1 h
    cases h
    rcases List.mem_cons.1 hy with rfl | hy
    · exact ⟨_, _, hfirst⟩
    · exact ih hy hrest

theorem intervalSchema_lt {path : List String} {body : IntervalBody} {interval : WorkingInterval}
    (h : intervalSchema path body = .ok interval) :
    timeToMinutes interval.start.val < timeToMinutes interval.stop.val := by
  obtain ⟨start, -, h⟩ := bind_eq_ok.1 h
  obtain ⟨stop, -, h⟩ := bind_eq_ok.1 h
  obtain ⟨_, hlt, h⟩ := bind_eq_ok.1 h
  cases h
  exact require_eq_ok.1 hlt

/-- The first interval ends before the second starts. -/
def WorkingInterval.Before (i j : WorkingInterval) : Prop :=
  timeToMinutes i.stop.val ≤ timeToMinutes j.start.val

/-- One of the intervals ends before the other starts. -/
def WorkingInterval.Apart (i j : WorkingInterval) : Prop := i.Before j ∨ j.Before i

instance : Std.Symm WorkingInterval.Apart := ⟨fun _ _ => Or.symm⟩

theorem pairwise_before_of_neighbours {sorted : List WorkingInterval}
    (hends : ∀ i ∈ sorted, timeToMinutes i.start.val < timeToMinutes i.stop.val)
    (h : ∀ p ∈ sorted.zip sorted.tail, p.1.Before p.2) :
    sorted.Pairwise WorkingInterval.Before := by
  induction sorted with
  | nil => exact List.Pairwise.nil
  | cons i rest ih =>
    cases rest with
    | nil => exact List.pairwise_singleton _ _
    | cons j rest =>
      have hrest : (j :: rest).Pairwise WorkingInterval.Before :=
        ih (fun k hk => hends k (List.mem_cons_of_mem _ hk))
          fun p hp => h p (List.mem_cons_of_mem _ hp)
      have hnext : i.Before j := h (i, j) List.mem_cons_self
      refine List.pairwise_cons.2 ⟨fun k hk => ?_, hrest⟩
      rcases List.mem_cons.1 hk with rfl | hk
      · exact hnext
      · -- everything after the neighbour starts after the neighbour has ended
        have hj := hends j (by simp)
        have hlater := (List.pairwise_cons.1 hrest).1 k hk
        exact hnext.trans (hj.le.trans hlater)

theorem neighbours_of_pairwise {α : Type} {R : α → α → Prop} {l : List α} (h : l.Pairwise R) :
    ∀ p ∈ l.zip l.tail, R p.1 p.2 := by
  intro p hp
  obtain ⟨n, hn, rfl⟩ := List.mem_iff_getElem.1 hp
  rw [List.getElem_zip, List.getElem_tail]
  exact List.pairwise_iff_getElem.1 h n (n + 1) _ _ (Nat.lt_succ_self n)

/-- **The neighbour check** passes exactly when of any two intervals one ends before the other
starts. -/
theorem hasOverlappingIntervals_iff_pairwise {intervals : List WorkingInterval}
    (hends : ∀ i ∈ intervals, timeToMinutes i.start.val < timeToMinutes i.stop.val) :
    hasOverlappingIntervals intervals = false ↔ intervals.Pairwise WorkingInterval.Apart := by
  let byStart : WorkingInterval → WorkingInterval → Prop := fun a b =>
    timeToMinutes a.start.val ≤ timeToMinutes b.start.val
  have hperm : (intervals.insertionSort byStart).Perm intervals := List.perm_insertionSort _ _
  have hsorted : (intervals.insertionSort byStart).Pairwise byStart :=
    haveI : Std.Total byStart := ⟨fun a b => le_total _ _⟩
    haveI : IsTrans WorkingInterval byStart := ⟨fun _ _ _ => le_trans⟩
    List.pairwise_insertionSort _ _
  have hneighbours : hasOverlappingIntervals intervals = false ↔
      ∀ p ∈ (intervals.insertionSort byStart).zip (intervals.insertionSort byStart).tail,
        p.1.Before p.2 := by
    rw [hasOverlappingIntervals, List.any_eq_false]
    refine forall₂_congr fun p _ => ?_
    rw [decide_eq_true_iff, not_lt]
    exact Iff.rfl
  have hends' : ∀ i ∈ intervals.insertionSort byStart,
      timeToMinutes i.start.val < timeToMinutes i.stop.val := fun i hi =>
    hends i (hperm.mem_iff.1 hi)
  rw [hneighbours, ← hperm.pairwise_iff (R := WorkingInterval.Apart) Or.symm]
  constructor
  · exact fun h => (pairwise_before_of_neighbours hends' h).imp Or.inl
  · refine fun h => neighbours_of_pairwise ?_
    refine (List.Pairwise.and_mem.1 (hsorted.and h)).imp ?_
    rintro i j ⟨-, hj, hle, hij | hji⟩
    · exact hij
    · -- the later one would be empty
      exact absurd (hji.trans hle) (not_le.2 (hends' j hj))

/-- The minutes of the day that an interval takes. -/
def WorkingInterval.minutes (i : WorkingInterval) : Set ℕ :=
  Set.Ico (timeToMinutes i.start.val) (timeToMinutes i.stop.val)

theorem WorkingInterval.disjoint_minutes_iff {i j : WorkingInterval}
    (hi : timeToMinutes i.start.val < timeToMinutes i.stop.val)
    (hj : timeToMinutes j.start.val < timeToMinutes j.stop.val) :
    Disjoint i.minutes j.minutes ↔ i.Apart j := by
  rw [minutes, minutes, Set.Ico_disjoint_Ico, Apart, Before, Before]
  omega

/-- **The neighbour check decides overlap.**  It finds nothing exactly when the intervals at any
two positions share no minute. -/
theorem hasOverlappingIntervals_eq_false_iff (intervals : List WorkingInterval)
    (hends : ∀ i ∈ intervals, timeToMinutes i.start.val < timeToMinutes i.stop.val) :
    hasOverlappingIntervals intervals = false ↔
      ∀ (m n : ℕ) (hm : m < intervals.length) (hn : n < intervals.length), m ≠ n →
        Disjoint intervals[m].minutes intervals[n].minutes := by
  rw [hasOverlappingIntervals_iff_pairwise hends, List.pairwise_iff_getElem]
  constructor
  · intro h m n hm hn hne
    rw [WorkingInterval.disjoint_minutes_iff (hends _ (List.getElem_mem hm))
      (hends _ (List.getElem_mem hn))]
    rcases Nat.lt_or_gt_of_ne hne with hlt | hlt
    · exact h m n hm hn hlt
    · exact (h n m hn hm hlt).symm
  · intro h m n hm hn hlt
    rw [← WorkingInterval.disjoint_minutes_iff (hends _ (List.getElem_mem hm))
      (hends _ (List.getElem_mem hn))]
    exact h m n hm hn hlt.ne

/-- Ten to eleven and nine to ten touch and share no minute. -/
theorem hasOverlappingIntervals_touching :
    Disjoint (WorkingInterval.minutes ⟨⟨"10:00", by decide⟩, ⟨"11:00", by decide⟩⟩)
      (WorkingInterval.minutes ⟨⟨"09:00", by decide⟩, ⟨"10:00", by decide⟩⟩) :=
  (hasOverlappingIntervals_eq_false_iff [⟨⟨"10:00", by decide⟩, ⟨"11:00", by decide⟩⟩,
    ⟨⟨"09:00", by decide⟩, ⟨"10:00", by decide⟩⟩] (by decide)).1 (by decide) 0 1 (by decide)
    (by decide) (by decide)

theorem workingDaySchema_intervals {path : List String} {body : WorkingDayBody} {day : WorkingDay}
    (h : workingDaySchema path body = .ok day) {i j : WorkingInterval} (hi : i ∈ day.intervals)
    (hj : j ∈ day.intervals) (hne : i ≠ j) : i.Apart j := by
  obtain ⟨_, -, h⟩ := bind_eq_ok.1 h
  obtain ⟨_, -, h⟩ := bind_eq_ok.1 h
  obtain ⟨intervals, hintervals, h⟩ := bind_eq_ok.1 h
  obtain ⟨_, hoverlap, h⟩ := bind_eq_ok.1 h
  cases h
  have hends : ∀ i ∈ intervals, timeToMinutes i.start.val < timeToMinutes i.stop.val := by
    intro i hi
    obtain ⟨_, _, hi⟩ := exists_of_mem_arraySchema hintervals hi
    exact intervalSchema_lt hi
  exact ((hasOverlappingIntervals_iff_pairwise hends).1 (require_eq_ok.1 hoverlap)).forall hi hj hne

theorem updateAvailabilitySchema_weeklyHours {isValidTimezone : String → Bool}
    {body : AvailabilityBody} {config : SlotConfig}
    (h : updateAvailabilitySchema isValidTimezone body = .ok config) :
    config.weeklyHours = [] ∨
      ∃ days, weeklyHoursSchema ["weeklyHours"] days = .ok config.weeklyHours := by
  obtain ⟨_, -, h⟩ := bind_eq_ok.1 h
  obtain ⟨_, -, h⟩ := bind_eq_ok.1 h
  obtain ⟨_, -, h⟩ := bind_eq_ok.1 h
  obtain ⟨_, -, h⟩ := bind_eq_ok.1 h
  obtain ⟨_, -, h⟩ := bind_eq_ok.1 h
  obtain ⟨weeklyHours, hweekly, h⟩ := bind_eq_ok.1 h
  obtain ⟨_, -, h⟩ := bind_eq_ok.1 h
  cases h
  cases hbody : body.weeklyHours with
  | none =>
    rw [hbody] at hweekly
    cases hweekly
    exact .inl rfl
  | some days =>
    rw [hbody] at hweekly
    exact .inr ⟨days, hweekly⟩

/-- An accepted schedule names every weekday at most once. -/
theorem updateAvailabilitySchema_weekdays {isValidTimezone : String → Bool}
    {body : AvailabilityBody} {config : SlotConfig}
    (h : updateAvailabilitySchema isValidTimezone body = .ok config) :
    (config.weeklyHours.map WorkingDay.weekday).Nodup := by
  rcases updateAvailabilitySchema_weeklyHours h with hnone | ⟨days, hdays⟩
  · rw [hnone]
    exact List.nodup_nil
  · exact weeklyHoursSchema_nodup hdays

theorem updateAvailabilitySchema_intervals {isValidTimezone : String → Bool}
    {body : AvailabilityBody} {config : SlotConfig}
    (h : updateAvailabilitySchema isValidTimezone body = .ok config) {day : WorkingDay}
    (hday : day ∈ config.weeklyHours) {i j : WorkingInterval} (hi : i ∈ day.intervals)
    (hj : j ∈ day.intervals) (hne : i ≠ j) : i.Apart j := by
  rcases updateAvailabilitySchema_weeklyHours h with hnone | ⟨days, hdays⟩
  · rw [hnone] at hday
    exact absurd hday List.not_mem_nil
  · obtain ⟨-, -, hdays⟩ := bind_eq_ok.1 hdays
    obtain ⟨parsed, hparsed, hdays⟩ := bind_eq_ok.1 hdays
    obtain ⟨-, -, hdays⟩ := bind_eq_ok.1 hdays
    cases hdays
    obtain ⟨_, _, hread⟩ := exists_of_mem_arraySchema hparsed hday
    exact workingDaySchema_intervals hread hi hj hne

end HrBooking
