import HrBooking.Calendar.Walk
import HrBooking.Slot.Listing

/-!
# Slots and the window they are asked through

A window enters slot generation as the range of the dates that are walked, as the bounds that the
notice and the horizon clamp, and as the filter on every start.  When the midnights of the window
exist, all that is left of it are its bounds.

* `window` : the options of a window.
* `mem_generateSlots_iff` : the slots of a window, without the window's dates.
* `generateSlots_append` : two adjoining windows give the slots of the whole one.
* `generateSlots_window` : the same, and the check of one instant agrees with every window.
-/

namespace HrBooking

/-- What slots of a window are asked for. -/
def window (now : ℤ) (busy : List Slot) (a c : ℤ) : GenerateSlotsOptions :=
  { rangeStart := a, rangeEnd := c, now, busy }

section

variable {z : Zone} {config : SlotConfig} {now : ℤ} {busy : List Slot} {a b c t : ℤ} {s : Slot}

/-- What keeps an instant from being offered, whatever the window. -/
def Unhindered (config : SlotConfig) (now : ℤ) (busy : List Slot) (t : ℤ) : Prop :=
  InWindow config now t ∧
    ∀ b ∈ busy, ¬ (t < b.endAt ∧ addMinutes t config.slotDurationMinutes > b.startAt)

theorem admissible_window_iff :
    Admissible config (window now busy a c) t ↔
      (a ≤ t ∧ t < c) ∧ Unhindered config now busy t := by
  simp only [Admissible, window, Unhindered, InWindow, max_le_iff, lt_min_iff]
  tauto

theorem mem_generateSlots (cal : Calendar) (opts : GenerateSlotsOptions) :
    s ∈ generateSlots cal config opts ↔
      IsFound cal config opts s.startAt ∧
        s.endAt = addMinutes s.startAt config.slotDurationMinutes := by
  rw [← exists_startAt_iff_isFound]
  constructor
  · exact fun hs => ⟨⟨s, hs, rfl⟩, endAt_of_mem_generateSlots hs⟩
  · rintro ⟨⟨s', hs', hstart⟩, hend⟩
    obtain rfl := Slot.eq_of_startAt (endAt_of_mem_generateSlots hs') hend hstart
    exact hs'

variable (h : z.Steady) (hmidnights : z.MidnightsExist a c)
include h hmidnights

/-- **The slots of a window** are those of the grid between its bounds.  The window may be any part
of one whose midnights exist. -/
theorem mem_generateSlots_iff {a' c' : ℤ} (ha : a ≤ a') (hc : c' ≤ c) :
    s ∈ generateSlots z.calendar config (window now busy a' c') ↔
      (a' ≤ s.startAt ∧ s.startAt < c') ∧ IsOnGrid z config s.startAt ∧
        Unhindered config now busy s.startAt ∧
        s.endAt = addMinutes s.startAt config.slotDurationMinutes := by
  rw [mem_generateSlots]
  constructor
  · rintro ⟨hfound, hend⟩
    obtain ⟨hgrid, hadm⟩ := hfound.isOnGrid h
    obtain ⟨hbounds, hfree⟩ := admissible_window_iff.1 hadm
    exact ⟨hbounds, hgrid, hfree, hend⟩
  · rintro ⟨hbounds, hgrid, hfree, hend⟩
    refine ⟨hgrid.isFound h (admissible_window_iff.2 ⟨hbounds, hfree⟩) fun d hd hd' => ?_, hend⟩
    have hfirst : z.day a ≤ z.day (earliest config (window now busy a' c')) :=
      h.day_mono _ _ (ha.trans (le_max_left _ _))
    have hlast : z.day s.startAt ≤ z.day c := h.day_mono _ _ (hbounds.2.le.trans hc)
    exact hmidnights d (hfirst.trans hd) (hd'.trans_le hlast)

/-- **Two adjoining windows** give the slots of the whole one, in order. -/
theorem generateSlots_append (hab : a < b) (hbc : b < c) :
    generateSlots z.calendar config (window now busy a c) =
      generateSlots z.calendar config (window now busy a b) ++
        generateSlots z.calendar config (window now busy b c) := by
  have hmem : ∀ {a' c' : ℤ} {s : Slot}, a ≤ a' → c' ≤ c →
      (s ∈ generateSlots z.calendar config (window now busy a' c') ↔ _) :=
    fun ha hc => mem_generateSlots_iff h hmidnights ha hc
  -- all starts of the first window come before those of the second
  have hsorted : (generateSlots z.calendar config (window now busy a b) ++
      generateSlots z.calendar config (window now busy b c)).Pairwise
        fun s s' => s.startAt < s'.startAt := by
    refine List.pairwise_append.2 ⟨generateSlots_sorted, generateSlots_sorted,
      fun s hs s' hs' => ?_⟩
    have hbefore := ((hmem le_rfl hbc.le).1 hs).1.2
    have hafter := ((hmem hab.le le_rfl).1 hs').1.1
    exact hbefore.trans_le hafter
  have hperm : (generateSlots z.calendar config (window now busy a c)).Perm
      (generateSlots z.calendar config (window now busy a b) ++
        generateSlots z.calendar config (window now busy b c)) := by
    refine (List.perm_ext_iff_of_nodup ?_ ?_).2 fun s => ?_
    · exact generateSlots_sorted.imp fun hlt => by rintro rfl; exact lt_irrefl _ hlt
    · exact hsorted.imp fun hlt => by rintro rfl; exact lt_irrefl _ hlt
    · rw [List.mem_append, hmem le_rfl le_rfl, hmem le_rfl hbc.le, hmem hab.le le_rfl,
        ← or_and_right]
      refine and_congr_left fun _ => ?_
      omega
  exact hperm.eq_of_pairwise (fun s s' _ _ hlt hlt' => absurd hlt (not_lt.2 hlt'.le))
    generateSlots_sorted hsorted

end

/-- **Slots do not depend on the window they are asked through.**  When the midnights of a window
exist, its slots are those of its parts, and the check of one instant of it finds exactly the
starts of the window. -/
theorem generateSlots_window (zones : TimezoneName → Zone) (availability : Availability)
    (now : ℤ) (busy : List Slot) (a c : ℤ) (h : (zones availability.timezone).Steady)
    (hmidnights : (zones availability.timezone).MidnightsExist a c) :
    (∀ b, a < b → b < c →
      generateSlots (zones availability.timezone).calendar availability.toSlotConfig
          (window now busy a c) =
        generateSlots (zones availability.timezone).calendar availability.toSlotConfig
            (window now busy a b) ++
          generateSlots (zones availability.timezone).calendar availability.toSlotConfig
            (window now busy b c)) ∧
      ∀ t, a ≤ t → t < c →
        (isOfferedSlot (fun name => (zones name).calendar) availability t now = true ↔
          ∃ s ∈ generateSlots (zones availability.timezone).calendar availability.toSlotConfig
            (window now [] a c), s.startAt = t) := by
  refine ⟨fun b hab hbc => generateSlots_append h hmidnights hab hbc, fun t hat htc => ?_⟩
  rw [isOfferedSlot_iff h]
  constructor
  · rintro ⟨hgrid, hin⟩
    refine ⟨⟨t, addMinutes t availability.slotDurationMinutes⟩, ?_, rfl⟩
    exact (mem_generateSlots_iff h hmidnights le_rfl le_rfl).2
      ⟨⟨hat, htc⟩, hgrid, ⟨hin, by simp⟩, rfl⟩
  · rintro ⟨s, hs, rfl⟩
    obtain ⟨-, hgrid, hfree, -⟩ := (mem_generateSlots_iff h hmidnights le_rfl le_rfl).1 hs
    exact ⟨hgrid, hfree.1⟩

/-- On a Monday whose clock is put forward at two, the slots of the date are those up to nine
o'clock in universal time and those from then on. -/
theorem generateSlots_window_monday :
    generateSlots (Zone.putForward (4 * msPerDay + 2 * 60 * 60000) (60 * 60000)).calendar
        (mondayConfig ⟨60, by decide⟩) (window 0 [] (4 * msPerDay) (5 * msPerDay)) =
      generateSlots (Zone.putForward (4 * msPerDay + 2 * 60 * 60000) (60 * 60000)).calendar
          (mondayConfig ⟨60, by decide⟩) (window 0 [] (4 * msPerDay) mondayNine) ++
        generateSlots (Zone.putForward (4 * msPerDay + 2 * 60 * 60000) (60 * 60000)).calendar
          (mondayConfig ⟨60, by decide⟩) (window 0 [] mondayNine (5 * msPerDay)) :=
  (generateSlots_window
      (fun _ => Zone.putForward (4 * msPerDay + 2 * 60 * 60000) (60 * 60000))
      (mondayAvailability ⟨60, by decide⟩) 0 [] (4 * msPerDay) (5 * msPerDay)
      (Zone.putForward_steady (by decide) fun d => by simp only [msPerDay]; omega)
      fun d _ _ => Zone.shows_putForward (by simp only [msPerDay]; omega)).1
    mondayNine (by decide) (by decide)

end HrBooking
