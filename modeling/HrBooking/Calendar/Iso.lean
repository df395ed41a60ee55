import HrBooking.Calendar.Civil
import Mathlib.Data.List.Basic
import Mathlib.Tactic.IntervalCases

/-!
# Numerals and date texts

The textual forms a JavaScript date and a calendar date take:

* `padNumeral b w n` : the numeral of `n` to base `b`, padded with zeros to at least `w` places;
* `toISOString t` : the instant `t`, in milliseconds since 1970-01-01T00:00Z, as
  `Date.prototype.toISOString` prints it;
* `formatDay` and `parseDay` : a day as a `yyyy-MM-dd` text and back.

`toISOString_injective` : different instants print differently.  `parseDay_formatDay` : the day
texts of the years 0 to 9999 are read back, and `eq_of_parseDay_formatDay` : no other day is.
-/

namespace HrBooking

/-! ### Numerals -/

/-- The value of a digit character, up to base 16. -/
def digitValue (c : Char) : ℕ :=
  if c.isDigit then c.toNat - '0'.toNat else c.toNat - 'a'.toNat + 10

/-- The value of a numeral to base `b`. -/
def numeralValue (b : ℕ) (l : List Char) : ℕ := l.foldl (fun n c => b * n + digitValue c) 0

/-- The numeral of `n` to base `b`, with zeros in front up to `w` places. -/
def padNumeral (b w n : ℕ) : List Char :=
  List.replicate (w - (Nat.toDigits b n).length) '0' ++ Nat.toDigits b n

theorem digitValue_digitChar {d : ℕ} (h : d < 16) : digitValue (Nat.digitChar d) = d := by
  interval_cases d <;> rfl

theorem numeralValue_toDigits {b : ℕ} (hb : 1 < b) (hb' : b ≤ 16) (n : ℕ) :
    numeralValue b (Nat.toDigits b n) = n := by
  induction n using Nat.strong_induction_on with
  | _ n ih =>
    rw [Nat.toDigits_eq_if hb]
    split_ifs with h
    · simp [numeralValue, digitValue_digitChar (by omega : n < 16)]
    · have hlt : n / b < n := Nat.div_lt_self (by omega) hb
      have hmod : n % b < 16 := (Nat.mod_lt _ (by omega)).trans_le hb'
      rw [numeralValue, List.foldl_append]
      change b * numeralValue b (Nat.toDigits b (n / b)) + _ = n
      rw [ih _ hlt, digitValue_digitChar hmod]
      exact Nat.div_add_mod n b

theorem numeralValue_padNumeral {b : ℕ} (hb : 1 < b) (hb' : b ≤ 16) (w n : ℕ) :
    numeralValue b (padNumeral b w n) = n := by
  have hzero : ∀ k, (List.replicate k '0').foldl (fun n c => b * n + digitValue c) 0 = 0 := by
    intro k
    induction k with
    | zero => rfl
    | succ k ih => rw [List.replicate_succ', List.foldl_append, ih]; rfl
  rw [padNumeral, numeralValue, List.foldl_append, hzero]
  exact numeralValue_toDigits hb hb' n

theorem eq_of_padNumeral {b w w' n n' : ℕ} (hb : 1 < b) (hb' : b ≤ 16)
    (h : padNumeral b w n = padNumeral b w' n') : n = n' := by
  rw [← numeralValue_padNumeral hb hb' w n, h, numeralValue_padNumeral hb hb']

theorem le_length_padNumeral (b w n : ℕ) : w ≤ (padNumeral b w n).length := by
  simp only [padNumeral, List.length_append, List.length_replicate]; omega

theorem length_padNumeral {b w n : ℕ} (hb : 1 < b) (hw : 0 < w) (h : n < b ^ w) :
    (padNumeral b w n).length = w := by
  have := (Nat.length_toDigits_le_iff hb hw).2 h
  simp only [padNumeral, List.length_append, List.length_replicate]; omega

theorem isDigit_of_mem_padNumeral {w n : ℕ} {c : Char} (h : c ∈ padNumeral 10 w n) :
    c.isDigit = true := by
  rcases List.mem_append.1 h with h | h
  · rw [List.eq_of_mem_replicate h]; rfl
  · exact Nat.isDigit_of_mem_toDigits (by omega) (by omega) h

theorem colon_notMem_padNumeral {b : ℕ} (hb : 1 < b) (hb' : b ≤ 16) (w n : ℕ) :
    ':' ∉ padNumeral b w n := by
  have hdigit : ∀ d < 16, Nat.digitChar d ≠ ':' := by decide
  have hdigits : ∀ n, ':' ∉ Nat.toDigits b n := by
    intro n
    induction n using Nat.strong_induction_on with
    | _ n ih =>
      rw [Nat.toDigits_eq_if hb]
      split_ifs with h
      · simp
      · have hmod : n % b < 16 := (Nat.mod_lt _ (by omega)).trans_le hb'
        have := ih _ (Nat.div_lt_self (by omega) hb)
        simp [this, (hdigit _ hmod).symm]
  simp [padNumeral, hdigits, List.mem_replicate]

/-! ### Instants -/

/-- Milliseconds of a day. -/
def msPerDay : ℤ := 86400000

/-- The year of `Date.prototype.toISOString`: four digits, or a sign and six. -/
def isoYear (y : ℤ) : List Char :=
  if 0 ≤ y ∧ y ≤ 9999 then padNumeral 10 4 y.toNat
  else (if y < 0 then '-' else '+') :: padNumeral 10 6 y.natAbs

/-- The text after the year. -/
def isoRest (month day ms : ℕ) : List Char :=
  '-' :: padNumeral 10 2 month ++ ('-' :: padNumeral 10 2 day ++
    ('T' :: padNumeral 10 2 (ms / 3600000) ++ (':' :: padNumeral 10 2 (ms / 60000 % 60) ++
      (':' :: padNumeral 10 2 (ms / 1000 % 60) ++ ('.' :: padNumeral 10 3 (ms % 1000) ++ ['Z'])))))

/-- `Date.prototype.toISOString`. -/
def toISOString (t : ℤ) : String :=
  let c := Civil.ofDay (t / msPerDay)
  String.ofList (isoYear c.year ++ isoRest c.month c.day (t % msPerDay).toNat)

theorem isoYear_injective {y y' : ℤ} (h : isoYear y = isoYear y') : y = y' := by
  have hsign : ∀ {c : Char} {l : List Char} {w n : ℕ}, c.isDigit = false →
      padNumeral 10 w n ≠ c :: l := by
    intro c l w n hc he
    have := isDigit_of_mem_padNumeral (he ▸ List.mem_cons_self : c ∈ padNumeral 10 w n)
    simp [hc] at this
  have heq : ∀ {w w' n n' : ℕ}, padNumeral 10 w n = padNumeral 10 w' n' → n = n' :=
    eq_of_padNumeral (by omega) (by omega)
  unfold isoYear at h
  split_ifs at h with h₁ h₂ h₃ h₂ h₃ h₄ h₅ h₆
  all_goals first
    | exact absurd h (hsign rfl)
    | exact absurd h.symm (hsign rfl)
    | simp only [List.cons.injEq, true_and] at h; have := heq h; omega
    | have := heq h; omega
    | simp at h

theorem isoRest_injective {m d s m' d' s' : ℕ} (hm : m < 100) (hm' : m' < 100) (hd : d < 100)
    (hd' : d' < 100) (hs : s < 86400000) (hs' : s' < 86400000)
    (h : isoRest m d s = isoRest m' d' s') : m = m' ∧ d = d' ∧ s = s' := by
  have hlen : ∀ {n n' : ℕ} {c : Char} {w : ℕ}, 0 < w → n < 10 ^ w → n' < 10 ^ w →
      (c :: padNumeral 10 w n).length = (c :: padNumeral 10 w n').length := by
    intro n n' c w hw hn hn'
    simp [length_padNumeral (by omega : 1 < 10) hw hn, length_padNumeral (by omega : 1 < 10) hw hn']
  have heq : ∀ {c : Char} {w n n' : ℕ}, c :: padNumeral 10 w n = c :: padNumeral 10 w n' →
      n = n' := fun h => eq_of_padNumeral (by omega) (by omega) (List.cons.inj h).2
  -- the fields have fixed widths, so the texts agree field by field
  obtain ⟨e₁, h⟩ := List.append_inj h (hlen (by omega) (by omega) (by omega))
  obtain ⟨e₂, h⟩ := List.append_inj h (hlen (by omega) (by omega) (by omega))
  obtain ⟨e₃, h⟩ := List.append_inj h (hlen (by omega) (by omega) (by omega))
  obtain ⟨e₄, h⟩ := List.append_inj h (hlen (by omega) (by omega) (by omega))
  obtain ⟨e₅, h⟩ := List.append_inj h (hlen (by omega) (by omega) (by omega))
  obtain ⟨e₆, -⟩ := List.append_inj h (hlen (by omega) (by omega) (by omega))
  have e₃ := heq e₃
  have e₄ := heq e₄
  have e₅ := heq e₅
  have e₆ := heq e₆
  exact ⟨heq e₁, heq e₂, by omega⟩

theorem length_isoRest {m d s : ℕ} (hm : m < 100) (hd : d < 100) (hs : s < 86400000) :
    (isoRest m d s).length = 20 := by
  have hlen : ∀ {n w : ℕ}, 0 < w → n < 10 ^ w → (padNumeral 10 w n).length = w :=
    fun hw hn => length_padNumeral (by omega) hw hn
  simp [isoRest, hlen (n := m) (w := 2) (by omega) (by omega),
    hlen (n := d) (w := 2) (by omega) (by omega),
    hlen (n := s / 3600000) (w := 2) (by omega) (by omega),
    hlen (n := s / 60000 % 60) (w := 2) (by omega) (by omega),
    hlen (n := s / 1000 % 60) (w := 2) (by omega) (by omega),
    hlen (n := s % 1000) (w := 3) (by omega) (by omega)]

theorem toISOString_injective : Function.Injective toISOString := by
  intro t t' h
  have hl := congrArg String.toList h
  simp only [toISOString, String.toList_ofList] at hl
  have hday := Civil.ofDay_day_range
  have hmon := Civil.ofDay_month_range
  have hm := hmon (t / msPerDay)
  have hm' := hmon (t' / msPerDay)
  have hd := hday (t / msPerDay)
  have hd' := hday (t' / msPerDay)
  have hms : ∀ u : ℤ, (u % msPerDay).toNat < 86400000 := by
    intro u; simp only [msPerDay]; omega
  obtain ⟨hy, hr⟩ := List.append_inj' hl (by
    rw [length_isoRest (by omega) (by omega) (hms t),
      length_isoRest (by omega) (by omega) (hms t')])
  obtain ⟨e₁, e₂, e₃⟩ := isoRest_injective (by omega) (by omega) (by omega) (by omega)
    (hms t) (hms t') hr
  have hcivil : Civil.ofDay (t / msPerDay) = Civil.ofDay (t' / msPerDay) := by
    have := isoYear_injective hy
    cases hc : Civil.ofDay (t / msPerDay)
    cases hc' : Civil.ofDay (t' / msPerDay)
    simp_all
  have := Civil.ofDay_injective hcivil
  simp only [msPerDay] at *
  omega

example : toISOString 1767603600500 = "2026-01-05T09:00:00.500Z" := by decide

/-! ### Days -/

/-- A year as the `yyyy` token prints it. -/
def yearText (y : ℤ) : List Char :=
  if y < 0 then '-' :: padNumeral 10 4 y.natAbs else padNumeral 10 4 y.toNat

/-- A day as a `yyyy-MM-dd` text. -/
def formatDay (z : ℤ) : String :=
  let c := Civil.ofDay z
  String.ofList
    (yearText c.year ++ ('-' :: padNumeral 10 2 c.month ++ '-' :: padNumeral 10 2 c.day))

/-- The day a `yyyy-MM-dd` text names; `none` for any other text and for dates that do not
exist. -/
def parseDay (text : String) : Option ℤ :=
  match text.toList with
  | [y₁, y₂, y₃, y₄, '-', m₁, m₂, '-', d₁, d₂] =>
    let c : Civil := ⟨numeralValue 10 [y₁, y₂, y₃, y₄], numeralValue 10 [m₁, m₂],
      numeralValue 10 [d₁, d₂]⟩
    if [y₁, y₂, y₃, y₄, m₁, m₂, d₁, d₂].all Char.isDigit ∧ Civil.ofDay c.toDay = c then
      some c.toDay
    else none
  | _ => none

theorem exists_padNumeral_two {n : ℕ} (h : n < 100) :
    ∃ a b, padNumeral 10 2 n = [a, b] ∧ a.isDigit = true ∧ b.isDigit = true := by
  have hlen := length_padNumeral (b := 10) (w := 2) (n := n) (by omega) (by omega) (by omega)
  obtain ⟨a, b, hab⟩ := List.length_eq_two.1 hlen
  exact ⟨a, b, hab, isDigit_of_mem_padNumeral (by rw [hab]; simp),
    isDigit_of_mem_padNumeral (by rw [hab]; simp)⟩

theorem exists_padNumeral_four {n : ℕ} (h : n < 10000) :
    ∃ a b c d, padNumeral 10 4 n = [a, b, c, d] ∧ a.isDigit = true ∧ b.isDigit = true ∧
      c.isDigit = true ∧ d.isDigit = true := by
  have hlen := length_padNumeral (b := 10) (w := 4) (n := n) (by omega) (by omega) (by omega)
  match hl : padNumeral 10 4 n, hlen with
  | [a, b, c, d], _ =>
    have hmem : ∀ x ∈ [a, b, c, d], x.isDigit = true :=
      fun x hx => isDigit_of_mem_padNumeral (hl ▸ hx)
    exact ⟨a, b, c, d, rfl, hmem a (by simp), hmem b (by simp), hmem c (by simp), hmem d (by simp)⟩

theorem parseDay_formatDay {z : ℤ} (h₀ : 0 ≤ (Civil.ofDay z).year)
    (h₁ : (Civil.ofDay z).year ≤ 9999) : parseDay (formatDay z) = some z := by
  have hm := Civil.ofDay_month_range z
  have hd := Civil.ofDay_day_range z
  obtain ⟨y₁, y₂, y₃, y₄, hy, hy₁, hy₂, hy₃, hy₄⟩ :=
    exists_padNumeral_four (n := (Civil.ofDay z).year.toNat) (by omega)
  obtain ⟨m₁, m₂, hmm, hm₁, hm₂⟩ := exists_padNumeral_two (n := (Civil.ofDay z).month) (by omega)
  obtain ⟨d₁, d₂, hdd, hd₁, hd₂⟩ := exists_padNumeral_two (n := (Civil.ofDay z).day) (by omega)
  have hval : ∀ {w n : ℕ}, numeralValue 10 (padNumeral 10 w n) = n :=
    fun {w n} => numeralValue_padNumeral (by omega) (by omega) w n
  have hc : (⟨numeralValue 10 [y₁, y₂, y₃, y₄], numeralValue 10 [m₁, m₂],
      numeralValue 10 [d₁, d₂]⟩ : Civil) = Civil.ofDay z := by
    rw [← hy, ← hmm, ← hdd, hval, hval, hval]
    cases hcz : Civil.ofDay z
    rw [hcz] at h₀
    simpa using h₀
  have ht : (formatDay z).toList = [y₁, y₂, y₃, y₄, '-', m₁, m₂, '-', d₁, d₂] := by
    simp [formatDay, yearText, not_lt.2 h₀, hy, hmm, hdd]
  unfold parseDay
  rw [ht]
  simp only [hc, Civil.toDay_ofDay]
  simp [hy₁, hy₂, hy₃, hy₄, hm₁, hm₂, hd₁, hd₂]

theorem parseDay_length {text : String} {z : ℤ} (h : parseDay text = some z) :
    text.toList.length = 10 := by
  unfold parseDay at h
  split at h
  · rename_i heq; rw [heq]; rfl
  · cases h

/-- The text of a day names no other day. -/
theorem eq_of_parseDay_formatDay {z z' : ℤ} (h : parseDay (formatDay z) = some z') : z' = z := by
  by_cases hy : 0 ≤ (Civil.ofDay z).year ∧ (Civil.ofDay z).year ≤ 9999
  · rw [parseDay_formatDay hy.1 hy.2] at h
    exact (Option.some.inj h).symm
  · -- outside those years the text is longer than ten characters
    have hm := Civil.ofDay_month_range z
    have hd := Civil.ofDay_day_range z
    have hlen := parseDay_length h
    have h2 : ∀ {n : ℕ}, n < 100 → (padNumeral 10 2 n).length = 2 :=
      fun hn => length_padNumeral (by omega) (by omega) (by omega)
    simp only [formatDay, String.toList_ofList, List.length_append, List.length_cons,
      h2 (by omega : (Civil.ofDay z).month < 100),
      h2 (by omega : (Civil.ofDay z).day < 100)] at hlen
    exfalso
    unfold yearText at hlen
    split_ifs at hlen with hneg
    · have := le_length_padNumeral 10 4 (Civil.ofDay z).year.natAbs
      simp only [List.length_cons] at hlen
      omega
    · have hbig : ¬ (Nat.toDigits 10 (Civil.ofDay z).year.toNat).length ≤ 4 := by
        rw [Nat.length_toDigits_le_iff (by omega) (by omega)]
        omega
      simp only [padNumeral, List.length_append, List.length_replicate] at hlen
      omega

end HrBooking
