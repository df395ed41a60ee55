import HrBooking.Calendar.Iso
import HrBooking.Calendar.Zone
import HrBooking.Model.Constants

/-!
# Instants, clock times and calendars

The helpers of `utils/datetime.ts` and the identities of the database.

* `ObjectId` : an identity with its hexadecimal text, `Time` : an `HH:mm` text.  An instant is an
  integer, the milliseconds since 1970-01-01T00:00Z.
* `Calendar` : the three questions the slot generator asks about a time zone, and
  `Zone.calendar` : the calendar of a zone, as the service computes it.
-/

namespace HrBooking

/-- The identity of a document. -/
abbrev ObjectId := ℕ

/-- `String(id)` : twenty-four hexadecimal digits. -/
def ObjectId.text (i : ObjectId) : String := String.ofList (padNumeral 16 24 i)

theorem ObjectId.text_injective : Function.Injective ObjectId.text := by
  intro i j h
  exact eq_of_padNumeral (by decide) (by decide) (String.ofList_injective h)

/-! ### Instants -/

/-- Minutes in a day. -/
def minutesInDay : ℕ := 24 * 60

/-- The instant a number of minutes later. -/
def addMinutes (instant : ℤ) (minutes : ℕ) : ℤ := instant + minutes * 60000

/-- The instant a number of days of 24 hours later. -/
def addDays (instant : ℤ) (days : ℕ) : ℤ := instant + days * (minutesInDay * 60000)

/-- Two half-open intervals have an instant in common. -/
def overlaps (aStart aEnd bStart bEnd : ℤ) : Prop := aStart < bEnd ∧ aEnd > bStart

instance (aStart aEnd bStart bEnd : ℤ) : Decidable (overlaps aStart aEnd bStart bEnd) :=
  inferInstanceAs (Decidable (_ ∧ _))

theorem lt_addMinutes {t : ℤ} {n : ℕ} (h : 0 < n) : t < addMinutes t n := by
  simp only [addMinutes]; omega

/-! ### Clock times -/

/-- `/^([01]\d|2[0-3]):([0-5]\d)$/` -/
def timePattern (s : String) : Prop :=
  match s.toList with
  | [h, h', c, m, m'] =>
    ((h ∈ ['0', '1'] ∧ h'.isDigit) ∨ (h = '2' ∧ h' ∈ ['0', '1', '2', '3'])) ∧ c = ':' ∧
      m ∈ ['0', '1', '2', '3', '4', '5'] ∧ m'.isDigit
  | _ => False

instance (s : String) : Decidable (timePattern s) := by
  unfold timePattern
  split <;> infer_instance

/-- An `HH:mm` text. -/
abbrev Time := {s : String // timePattern s}

/-- The minutes from midnight to a clock time. -/
def timeToMinutes (time : String) : ℕ :=
  match time.toList.splitOn ':' with
  | hours :: minutes :: _ => numeralValue 10 hours * 60 + numeralValue 10 minutes
  | _ => 0

example : timeToMinutes "09:30" = 570 := by decide

theorem digitValue_le {c : Char} (h : c.isDigit = true) : digitValue c ≤ 9 := by
  have hc : c.toNat ≤ 57 := by
    simp only [Char.isDigit, Bool.and_eq_true, decide_eq_true_eq] at h
    exact h.2
  have h0 : '0'.toNat = 48 := rfl
  rw [digitValue, if_pos h, h0]
  omega

theorem splitOn_colon {h h' m m' : Char} (hh : ∀ c ∈ [h, h', m, m'], c.isDigit = true) :
    [h, h', ':', m, m'].splitOn ':' = [[h, h'], [m, m']] := by
  have hne : ∀ c ∈ [h, h', m, m'], c ≠ ':' := by
    rintro c hc rfl
    exact absurd (hh _ hc) (by decide)
  have hhours : ':' ∉ [h, h'] := fun hc => hne _ (List.mem_append_left [m, m'] hc) rfl
  have hminutes : ':' ∉ [m, m'] := fun hc => hne _ (List.mem_append_right [h, h'] hc) rfl
  rw [show [h, h', ':', m, m'] = [h, h'] ++ ':' :: [m, m'] from rfl,
    List.splitOn_append_cons_self_of_not_mem hhours, List.splitOn_eq_singleton hminutes]

theorem timeToMinutes_lt (t : Time) : timeToMinutes t.val < minutesInDay := by
  obtain ⟨s, hs⟩ := t
  unfold timePattern at hs
  unfold timeToMinutes
  split at hs
  · rename_i h h' c m m' heq
    obtain ⟨hh, rfl, hm, hm'⟩ := hs
    simp only [List.mem_cons, List.not_mem_nil, or_false] at hh hm
    have hhour : h.isDigit ∧ h'.isDigit ∧ 10 * digitValue h + digitValue h' ≤ 23 := by
      rcases hh with ⟨hh, hh'⟩ | ⟨rfl, hh'⟩
      · have hfst : h.isDigit ∧ digitValue h ≤ 1 := by
          rcases hh with rfl | rfl <;> decide
        have hsnd := digitValue_le hh'
        exact ⟨hfst.1, hh', by omega⟩
      · rcases hh' with rfl | rfl | rfl | rfl <;> decide
    have hminute : m.isDigit ∧ digitValue m ≤ 5 := by
      rcases hm with rfl | rfl | rfl | rfl | rfl | rfl <;> decide
    have hlast := digitValue_le hm'
    simp only [heq]
    rw [splitOn_colon (by simp [hhour.1, hhour.2.1, hminute.1, hm'])]
    simp only [numeralValue, List.foldl_cons, List.foldl_nil, minutesInDay]
    omega
  · exact hs.elim

/-! ### Calendars -/

/-- The questions the slot generator asks about one time zone. -/
structure Calendar where
  /-- The `yyyy-MM-dd` keys covering a range. -/
  dateKeysBetween : ℤ → ℤ → List String
  /-- The weekday of a key, 0 for Sunday; `none` for an invalid date. -/
  weekdayOfDateKey : String → Option ℕ
  /-- The instant of a wall-clock minute on the date of a key. -/
  wallTimeToUtc : String → ℕ → Option ℤ

/-- The calendar of a zone.  A number of minutes beyond a day counts into the following days. -/
def Zone.calendar (z : Zone) : Calendar where
  dateKeysBetween a b := (z.daysBetween a b).map formatDay
  weekdayOfDateKey key := (parseDay key).map Civil.weekday
  wallTimeToUtc key minutes := (parseDay key).map fun d =>
    z.plusDays (z.resolve (d * msPerDay + (minutes % minutesInDay : ℕ) * 60000))
      (minutes / minutesInDay)

end HrBooking
