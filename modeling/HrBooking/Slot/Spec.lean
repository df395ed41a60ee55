import HrBooking.Slot.Generate
import HrBooking.Slot.Schema
import Mathlib.Data.List.Induction

/-!
# What slot generation returns

`IsSlotStart` says of an instant, without loops, that a slot of the schedule starts there: some
date of the range, some working interval of its weekday and some multiple of the step lead to it,
and neither a block, nor the range, nor a busy interval excludes it.

Each loop of `generateSlots` is accounted for by the instants it `Adds` to the accumulator:
`visitOffset_adds`, `visitInterval_adds` and `visitDate_adds`, each from the one before by
`Adds.foldl`.  An instant that is already taken passed the same checks when it was first met, so
dropping it loses nothing.

* `generateSlots_sorted`, `endAt_of_mem_generateSlots` : the order and the length of the slots.
* `generateSlots_spec` : the full specification for an accepted schedule.
-/

namespace HrBooking

/-! ### Maps -/

theorem intervalsByWeekday_concat (days : List WorkingDay) (day : WorkingDay) :
    intervalsByWeekday (days ++ [day]) =
      Function.update (intervalsByWeekday days) day.weekday (some day.intervals) :=
  List.foldl_concat ..

/-- When every weekday appears at most once, the map holds the intervals of each of them. -/
theorem intervalsByWeekday_eq_some {weeklyHours : List WorkingDay}
    (h : (weeklyHours.map WorkingDay.weekday).Nodup) {w : ℕ} {intervals : List WorkingInterval} :
    intervalsByWeekday weeklyHours w = some intervals ↔
      ∃ day ∈ weeklyHours, (day.weekday : ℕ) = w ∧ day.intervals = intervals := by
  induction weeklyHours using List.reverseRecOn with
  | nil => simp [intervalsByWeekday]
  | append_singleton days day ih =>
    rw [List.map_append, List.nodup_append] at h
    obtain ⟨hdays, -, hnew⟩ := h
    rw [intervalsByWeekday_concat]
    by_cases hw : w = day.weekday
    · -- the new entry is the only one of its weekday
      subst hw
      rw [Function.update_self, Option.some.injEq]
      constructor
      · exact fun he => ⟨day, by simp, rfl, he⟩
      · rintro ⟨e, he, hwe, rfl⟩
        rcases List.mem_append.1 he with he | he
        · exact absurd (Fin.ext hwe) (hnew _ (List.mem_map_of_mem he) _ (by simp))
        · rw [List.mem_singleton.1 he]
    · rw [Function.update_of_ne hw, ih hdays]
      refine exists_congr fun e => ?_
      rw [List.mem_append, List.mem_singleton]
      constructor
      · exact fun ⟨he, h⟩ => ⟨.inl he, h⟩
      · rintro ⟨he | rfl, hwe, h⟩
        · exact ⟨he, hwe, h⟩
        · exact absurd hwe.symm hw

theorem blocksByDate_eq (blockedDates : List BlockedDate) (date : String) :
    blocksByDate blockedDates date = blockedDates.filter fun block => block.date = date := by
  have h : ∀ (l : List BlockedDate) (m : String → List BlockedDate),
      l.foldl (fun m block => Function.update m block.date (m block.date ++ [block])) m date =
        m date ++ l.filter fun block => block.date = date := by
    intro l
    induction l with
    | nil => simp
    | cons block l ih =>
      intro m
      rw [List.foldl_cons, ih]
      by_cases hd : block.date = date
      · subst hd
        simp
      · simp [Function.update_of_ne (Ne.symm hd), hd]
  exact (h blockedDates fun _ => []).trans (List.nil_append _)

/-! ### Offsets -/

/-- The loop over offsets meets exactly the multiples of the step from which a slot fits. -/
theorem mem_slotOffsets {duration step stop fuel offset m : ℕ} (hstep : 0 < step)
    (hfuel : stop < fuel + offset) :
    m ∈ slotOffsets duration step stop fuel offset ↔
      ∃ k, m = offset + k * step ∧ m + duration ≤ stop := by
  induction fuel generalizing offset with
  | zero =>
    simp only [slotOffsets, List.not_mem_nil, false_iff]
    rintro ⟨k, rfl, h⟩
    omega
  | succ fuel ih =>
    rw [slotOffsets]
    split_ifs with hfit
    · rw [List.mem_cons, ih (by omega)]
      constructor
      · rintro (rfl | ⟨k, rfl, hk⟩)
        · exact ⟨0, by omega, hfit⟩
        · exact ⟨k + 1, by rw [Nat.succ_mul]; omega, hk⟩
      · rintro ⟨k, rfl, hk⟩
        cases k with
        | zero => exact .inl (by omega)
        | succ k => exact .inr ⟨k, by rw [Nat.succ_mul]; omega, hk⟩
    · simp only [List.not_mem_nil, false_iff]
      rintro ⟨k, rfl, h⟩
      exact hfit (le_trans (by omega) h)

/-! ### Accumulators -/

/-- An accumulator is valid when the instants taken are the starts of the slots found, no start
appears twice, and every slot has the given length. -/
structure Found.Valid (duration : ℕ) (acc : Found) : Prop where
  mem_seen : ∀ t, t ∈ acc.seen ↔ ∃ s ∈ acc.slots, s.startAt = t
  nodup : (acc.slots.map Slot.startAt).Nodup
  endAt : ∀ s ∈ acc.slots, s.endAt = addMinutes s.startAt duration

theorem Found.Valid.empty (duration : ℕ) : Found.Valid duration ⟨[], []⟩ where
  mem_seen t := by simp
  nodup := List.nodup_nil
  endAt s hs := absurd hs List.not_mem_nil

/-- From `acc` to `acc'` validity is kept and the instants of `C` are added. -/
structure Adds (duration : ℕ) (acc acc' : Found) (C : ℤ → Prop) : Prop where
  valid : acc.Valid duration → acc'.Valid duration
  mem_seen : ∀ t, t ∈ acc'.seen ↔ t ∈ acc.seen ∨ C t

namespace Adds

variable {duration : ℕ} {acc acc' : Found} {C C' : ℤ → Prop}

theorem of_absorbed (h : ∀ t, C t → t ∈ acc.seen) : Adds duration acc acc C where
  valid := id
  mem_seen t := (or_iff_left_of_imp (h t)).symm

theorem of_empty (h : ∀ t, ¬ C t) : Adds duration acc acc C :=
  of_absorbed fun t ht => absurd ht (h t)

theorem of_eq (h : ∀ t, C t ↔ C' t) (ha : Adds duration acc acc' C) :
    Adds duration acc acc' C' where
  valid := ha.valid
  mem_seen t := by rw [ha.mem_seen, h]

theorem push {t : ℤ} (ht : t ∉ acc.seen) :
    Adds duration acc ⟨t :: acc.seen, acc.slots ++ [⟨t, addMinutes t duration⟩]⟩ (· = t) where
  valid h := by
    refine ⟨fun u => ?_, ?_, fun s hs => ?_⟩
    · rw [List.mem_cons, h.mem_seen]
      constructor
      · rintro (rfl | ⟨s, hs, rfl⟩)
        · exact ⟨⟨u, addMinutes u duration⟩, by simp, rfl⟩
        · exact ⟨s, List.mem_append_left _ hs, rfl⟩
      · rintro ⟨s, hs, rfl⟩
        rcases List.mem_append.1 hs with hs | hs
        · exact .inr ⟨s, hs, rfl⟩
        · rw [List.mem_singleton.1 hs]
          exact .inl rfl
    · have hnew : t ∉ acc.slots.map Slot.startAt := by
        intro hmem
        obtain ⟨s, hs, hst⟩ := List.mem_map.1 hmem
        exact ht ((h.mem_seen t).2 ⟨s, hs, hst⟩)
      rw [List.map_append]
      refine h.nodup.append (List.nodup_singleton _) ?_
      simpa using hnew
    · rcases List.mem_append.1 hs with hs | hs
      · exact h.endAt s hs
      · rw [List.mem_singleton.1 hs]
  mem_seen u := by simp [or_comm]

/-- A loop adds what its rounds add. -/
theorem foldl {α : Type*} {f : Found → α → Found} {C : α → ℤ → Prop}
    (h : ∀ acc a, Adds duration acc (f acc a) (C a)) (l : List α) (acc : Found) :
    Adds duration acc (l.foldl f acc) fun t => ∃ a ∈ l, C a t := by
  induction l generalizing acc with
  | nil => exact of_empty (by simp)
  | cons a l ih =>
    refine ⟨fun hv => (ih _).valid ((h acc a).valid hv), fun t => ?_⟩
    rw [List.foldl_cons, (ih _).mem_seen, (h acc a).mem_seen]
    simp [or_assoc]

end Adds

/-! ### The specification -/

section

variable (cal : Calendar) (config : SlotConfig) (opts : GenerateSlotsOptions)

/-- A block of part of a day meets the minutes from `a` to `b`. -/
def BlockedDate.Meets (block : BlockedDate) (a b : ℕ) : Prop :=
  ∃ s e, block.startTime = some s ∧ block.endTime = some e ∧
    a < timeToMinutes e.val ∧ b > timeToMinutes s.val

/-- The date carries neither a full-day block nor a block meeting the slot at `offset`. -/
def Unblocked (dateKey : String) (offset : ℕ) : Prop :=
  ∀ block ∈ config.blockedDates, block.date = dateKey →
    block.isFullDay = false ∧ ¬ block.Meets offset (offset + config.slotDurationMinutes)

/-- The instant is in the range and in the window of the schedule, and no busy interval meets the
slot starting at it. -/
def Admissible (t : ℤ) : Prop :=
  max opts.rangeStart (addMinutes opts.now config.minNoticeMinutes) ≤ t ∧
    t < min opts.rangeEnd (addDays opts.now config.maxAdvanceDays) ∧
    ∀ b ∈ opts.busy, ¬ (t < b.endAt ∧ addMinutes t config.slotDurationMinutes > b.startAt)

/-- The instant `t` is on the grid of one of the intervals of a date, and not blocked. -/
def IsGridStart (dateKey : String) (intervals : List WorkingInterval) (t : ℤ) : Prop :=
  ∃ interval ∈ intervals, ∃ k : ℕ, ∃ offset,
    offset = timeToMinutes interval.start.val +
      k * (config.slotDurationMinutes + config.bufferMinutes) ∧
    offset + config.slotDurationMinutes ≤ timeToMinutes interval.stop.val ∧
    Unblocked config dateKey offset ∧ cal.wallTimeToUtc dateKey offset = some t

/-- The dates of the range, within the notice and the horizon of the schedule. -/
def datesOf : List String :=
  cal.dateKeysBetween (max opts.rangeStart (addMinutes opts.now config.minNoticeMinutes))
    (min opts.rangeEnd (addDays opts.now config.maxAdvanceDays))

/-- A slot of the schedule starts at `t`. -/
def IsSlotStart (t : ℤ) : Prop :=
  ∃ d ∈ datesOf cal config opts,
    ∃ day ∈ config.weeklyHours, cal.weekdayOfDateKey d = some day.weekday ∧
      IsGridStart cal config d day.intervals t ∧ Admissible config opts t

/-- The working intervals of a date, as the generator looks them up. -/
def intervalsOn (dateKey : String) : Option (List WorkingInterval) :=
  (cal.weekdayOfDateKey dateKey).bind (intervalsByWeekday config.weeklyHours)

/-- The instants the loops add: `IsSlotStart` with the weekdays looked up in the map. -/
def IsFound (t : ℤ) : Prop :=
  ∃ d ∈ datesOf cal config opts,
    ∃ intervals, intervalsOn cal config d = some intervals ∧
      IsGridStart cal config d intervals t ∧ Admissible config opts t

/-! ### The loops -/

variable {cal config opts}

theorem isBlocked_eq_false {blocks : List BlockedDate} {a b : ℕ} :
    isBlocked blocks a b = false ↔
      ∀ block ∈ blocks, block.isFullDay = false ∧ ¬ block.Meets a b := by
  simp only [isBlocked, List.any_eq_false]
  refine forall₂_congr fun block _ => ?_
  rcases hs : block.startTime with _ | s <;> rcases he : block.endTime with _ | e <;>
    simp [BlockedDate.isFullDay, BlockedDate.Meets, hs, he]

theorem slotStep_pos (config : SlotConfig) : 0 < slotStep config := by
  have := config.slotDurationMinutes.pos
  unfold slotStep
  omega

theorem visitOffset_adds (dateKey : String) (blocks : List BlockedDate) (acc : Found)
    (offset : ℕ) :
    Adds config.slotDurationMinutes acc (visitOffset cal config opts dateKey blocks acc offset)
      fun t => isBlocked blocks offset (offset + config.slotDurationMinutes) = false ∧
        cal.wallTimeToUtc dateKey offset = some t ∧ Admissible config opts t := by
  unfold visitOffset
  split_ifs with hblocked
  · exact .of_empty fun t ht => by simp [hblocked] at ht
  · have hfree : isBlocked blocks offset (offset + config.slotDurationMinutes) = false := by
      simpa using hblocked
    cases hwall : cal.wallTimeToUtc dateKey offset with
    | none => exact .of_empty fun t ht => by simp at ht
    | some startAt =>
      simp only
      split_ifs with hrange hseen hbusy
      · -- outside of the range
        refine .of_empty ?_
        rintro t ⟨-, ⟨⟩, hfrom, hto, -⟩
        exact hrange.elim (not_lt.2 hfrom) (not_le.2 hto)
      · -- taken before
        refine .of_absorbed ?_
        rintro t ⟨-, ⟨⟩, -⟩
        exact hseen
      · refine .of_empty ?_
        rintro t ⟨-, ⟨⟩, -, -, hfree⟩
        obtain ⟨b, hb, hover⟩ := hbusy
        exact hfree b hb hover
      · refine .of_eq (fun t => ?_) (.push hseen)
        constructor
        · rintro rfl
          push Not at hrange
          exact ⟨hfree, rfl, hrange.1, hrange.2, fun b hb hover => hbusy ⟨b, hb, hover⟩⟩
        · rintro ⟨-, ⟨⟩, -⟩
          rfl

theorem visitInterval_adds (dateKey : String) (blocks : List BlockedDate) (acc : Found)
    (interval : WorkingInterval) :
    Adds config.slotDurationMinutes acc
      (visitInterval cal config opts dateKey blocks acc interval)
      fun t => ∃ k : ℕ, ∃ offset, offset = timeToMinutes interval.start.val +
          k * (config.slotDurationMinutes + config.bufferMinutes) ∧
        offset + config.slotDurationMinutes ≤ timeToMinutes interval.stop.val ∧
        isBlocked blocks offset (offset + config.slotDurationMinutes) = false ∧
        cal.wallTimeToUtc dateKey offset = some t ∧ Admissible config opts t := by
  refine .of_eq (fun t => ?_) (.foldl (visitOffset_adds dateKey blocks) _ acc)
  constructor
  · rintro ⟨offset, hoffset, h⟩
    obtain ⟨k, hk, hfit⟩ := (mem_slotOffsets (slotStep_pos config) (by omega)).1 hoffset
    exact ⟨k, offset, hk, hfit, h⟩
  · rintro ⟨k, offset, hk, hfit, h⟩
    exact ⟨offset, (mem_slotOffsets (slotStep_pos config) (by omega)).2 ⟨k, hk, hfit⟩, h⟩

theorem visitDate_adds (cal : Calendar) (config : SlotConfig) (opts : GenerateSlotsOptions)
    (acc : Found) (dateKey : String) :
    Adds config.slotDurationMinutes acc (visitDate cal config opts acc dateKey) fun t =>
      ∃ intervals, intervalsOn cal config dateKey = some intervals ∧
        IsGridStart cal config dateKey intervals t ∧ Admissible config opts t := by
  unfold visitDate intervalsOn
  cases (cal.weekdayOfDateKey dateKey).bind (intervalsByWeekday config.weeklyHours) with
  | none => exact .of_empty (by simp)
  | some intervals =>
    simp only [Option.some.injEq, exists_eq_left']
    split_ifs with hempty hfull
    · obtain rfl := List.isEmpty_iff.1 hempty
      refine .of_empty ?_
      rintro t ⟨⟨_, h, _⟩, _⟩
      exact List.not_mem_nil h
    · -- a full-day block excludes every offset of the date
      obtain ⟨block, hblock, hfull⟩ := List.any_eq_true.1 hfull
      rw [blocksByDate_eq, List.mem_filter, decide_eq_true_iff] at hblock
      refine .of_empty ?_
      rintro t ⟨⟨_, _, _, _, _, _, hfree, _⟩, _⟩
      rw [(hfree block hblock.1 hblock.2).1] at hfull
      cases hfull
    · refine .of_eq (fun t => ?_) (.foldl (visitInterval_adds dateKey _) intervals acc)
      simp only [isBlocked_eq_false, blocksByDate_eq, List.mem_filter, decide_eq_true_iff,
        and_imp]
      constructor
      · rintro ⟨interval, hi, k, offset, hk, hfit, hfree, hwall, h⟩
        exact ⟨⟨interval, hi, k, offset, hk, hfit, hfree, hwall⟩, h⟩
      · rintro ⟨⟨interval, hi, k, offset, hk, hfit, hfree, hwall⟩, h⟩
        exact ⟨interval, hi, k, offset, hk, hfit, hfree, hwall, h⟩

/-! ### The slots -/

theorem generateSlots_adds (cal : Calendar) (config : SlotConfig) (opts : GenerateSlotsOptions) :
    ∃ acc : Found, acc.Valid config.slotDurationMinutes ∧
      (∀ t, t ∈ acc.seen ↔ IsFound cal config opts t) ∧
      generateSlots cal config opts = acc.slots.insertionSort fun a b => a.startAt ≤ b.startAt := by
  unfold generateSlots
  split_ifs with hwindow
  · refine ⟨⟨[], []⟩, .empty _, fun t => ?_, rfl⟩
    simp only [List.not_mem_nil, false_iff]
    rintro ⟨_, _, _, _, _, hfrom, hto, _⟩
    exact absurd (hfrom.trans_lt hto) (not_lt.2 hwindow)
  · have hadds := Adds.foldl (visitDate_adds cal config opts)
      (cal.dateKeysBetween (earliest config opts) (latest config opts)) ⟨[], []⟩
    refine ⟨_, hadds.valid (.empty _), fun t => ?_, rfl⟩
    rw [hadds.mem_seen]
    simp only [List.not_mem_nil, false_or]
    rfl

theorem exists_startAt_iff_isFound {t : ℤ} :
    (∃ s ∈ generateSlots cal config opts, s.startAt = t) ↔ IsFound cal config opts t := by
  obtain ⟨acc, hvalid, hseen, heq⟩ := generateSlots_adds cal config opts
  rw [← hseen, hvalid.mem_seen, heq]
  simp only [List.mem_insertionSort]

/-- When every weekday appears at most once, the lookup finds its only entry. -/
theorem isFound_iff (hdays : (config.weeklyHours.map WorkingDay.weekday).Nodup) {t : ℤ} :
    IsFound cal config opts t ↔ IsSlotStart cal config opts t := by
  refine exists_congr fun d => and_congr_right fun _ => ?_
  simp only [intervalsOn, Option.bind_eq_some_iff, intervalsByWeekday_eq_some hdays]
  constructor
  · rintro ⟨_, ⟨_, hw, day, hday, rfl, rfl⟩, h⟩
    exact ⟨day, hday, hw, h⟩
  · rintro ⟨day, hday, hw, h⟩
    exact ⟨day.intervals, ⟨_, hw, day, hday, rfl, rfl⟩, h⟩

theorem endAt_of_mem_generateSlots {s : Slot} (hs : s ∈ generateSlots cal config opts) :
    s.endAt = addMinutes s.startAt config.slotDurationMinutes := by
  obtain ⟨acc, hvalid, -, heq⟩ := generateSlots_adds cal config opts
  rw [heq, List.mem_insertionSort] at hs
  exact hvalid.endAt s hs

theorem Slot.eq_of_startAt {s s' : Slot} {n : ℕ} (hs : s.endAt = addMinutes s.startAt n)
    (hs' : s'.endAt = addMinutes s'.startAt n) (h : s.startAt = s'.startAt) : s = s' := by
  rw [h, ← hs'] at hs
  cases s
  cases s'
  exact congrArg₂ Slot.mk h hs

theorem generateSlots_sorted :
    (generateSlots cal config opts).Pairwise fun a b => a.startAt < b.startAt := by
  obtain ⟨acc, hvalid, -, heq⟩ := generateSlots_adds cal config opts
  rw [heq]
  have hsorted := acc.slots.pairwise_insertionSort fun a b => a.startAt ≤ b.startAt
  have hnodup : ((acc.slots.insertionSort fun a b => a.startAt ≤ b.startAt).map
      Slot.startAt).Nodup :=
    (((acc.slots.perm_insertionSort _).map Slot.startAt).nodup_iff).2 hvalid.nodup
  rw [List.nodup_iff_pairwise_ne, List.pairwise_map] at hnodup
  exact hsorted.imp₂ (fun _ _ hle hne => lt_of_le_of_ne hle hne) hnodup

/-- **The specification of slot generation**, for every accepted schedule and any calendar. -/
theorem generateSlots_spec {isValidTimezone : String → Bool} {body : AvailabilityBody}
    {config : SlotConfig} (h : updateAvailabilitySchema isValidTimezone body = .ok config)
    (cal : Calendar) (opts : GenerateSlotsOptions) :
    (generateSlots cal config opts).Pairwise (fun a b => a.startAt < b.startAt) ∧
      (∀ t, (∃ s ∈ generateSlots cal config opts, s.startAt = t) ↔
        IsSlotStart cal config opts t) ∧
      ∀ s ∈ generateSlots cal config opts,
        s.endAt = addMinutes s.startAt config.slotDurationMinutes := by
  have hdays := updateAvailabilitySchema_weekdays h
  exact ⟨generateSlots_sorted, fun t => exists_startAt_iff_isFound.trans (isFound_iff hdays),
    fun s hs => endAt_of_mem_generateSlots hs⟩

end

/-! ### A schedule in universal time -/

/-- Mondays from nine to eleven, in slots of the given length. -/
def mondayBody (slotDurationMinutes : ℕ) : AvailabilityBody where
  timezone := "UTC"
  slotDurationMinutes := some slotDurationMinutes
  bufferMinutes := none
  minNoticeMinutes := none
  maxAdvanceDays := none
  weeklyHours := some [⟨1, [⟨"09:00", "11:00"⟩]⟩]
  blockedDates := none

/-- The timezone of `mondayBody`. -/
def utc : TimezoneName := ⟨"UTC", by decide⟩

/-- The schedule read from `mondayBody`. -/
def mondayConfig (slotDurationMinutes : SlotDuration) : SlotConfig where
  timezone := utc
  slotDurationMinutes := slotDurationMinutes
  bufferMinutes := 0
  minNoticeMinutes := 120
  maxAdvanceDays := 60
  weeklyHours := [⟨⟨1, by decide⟩, [⟨⟨"09:00", by decide⟩, ⟨"11:00", by decide⟩⟩]⟩]
  blockedDates := []

theorem hour_mem_slotDurations : 60 ∈ slotDurations := by decide

theorem monday_lt_seven : 1 < 7 := by decide

/-- Monday, 1970-01-05, nine o'clock. -/
def mondayNine : ℤ := 378000000

theorem mondayBody_accepted :
    updateAvailabilitySchema (fun name => name == "UTC") (mondayBody 60) =
      .ok (mondayConfig ⟨60, by decide⟩) := rfl

/-- The second hourly slot of the first Monday. -/
theorem generateSlots_spec_monday :
    IsSlotStart Zone.utc.calendar (mondayConfig ⟨60, by decide⟩)
      { rangeStart := mondayNine, rangeEnd := addDays mondayNine 1, now := 0, busy := [] }
      (addMinutes mondayNine 60) :=
  ((generateSlots_spec mondayBody_accepted Zone.utc.calendar _).2.1 _).1 (by decide +kernel)

end HrBooking
