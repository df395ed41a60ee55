import HrBooking.Mail.Template

/-!
# Template literals

What a reader makes of a literal can be checked part by part.

* `Literal.Leads` : a literal is read from one state to another, with these states at its values.
* `mailLayout_leads`, `ctaButton_leads`, `linkMail_leads`, `detailsTable_leads`,
  `meetingBlock_leads` : the parts of mails.
* `Literal.values` : the values of a literal, which have to be plain where they are not escaped.
* `plain_formatInZone`, `plain_formatCents`, `plain_encodeURIComponent` : times, prices and tokens
  are.
-/

namespace HrBooking

/-! ### Literals -/

/-- In the text of an element, with the elements that are open, the innermost first. -/
def inText (elements : List String) : HtmlState := ⟨.within .text, elements.map units⟩

/-- In the target of a link. -/
def inLink (elements : List String) : HtmlState :=
  ⟨.within (.value (units "href")), elements.map units⟩

/-- The literal is read from one state to another, with these states at its values. -/
def Literal.Leads (t : Literal) (q q' : HtmlState) (places : List HtmlState) : Prop :=
  mailText.Leads q (t.map Piece.shape) q' places

namespace Literal.Leads

variable {t t' : Literal} {q q' q'' : HtmlState} {s : String} {places places' : List HtmlState}

theorem nil : Literal.Leads [] q q [] := Interpolation.leads_nil q

theorem lit {l : List Char} (hs : s = String.ofList l)
    (h : (mailReader.read q (l.flatMap unitsOfChar)).map Prod.fst = some q')
    (h' : Literal.Leads t q' q'' places) :
    Literal.Leads (HrBooking.lit s :: t) q q'' places := by
  refine Interpolation.leads_fixed ?_ h'
  rw [units, hs, String.toList_ofList, h]

theorem plain (elements : List String) (hs : Plain (units s))
    (h' : Literal.Leads t (inText elements) q'' places) :
    Literal.Leads (HrBooking.lit s :: t) (inText elements) q'' places := by
  refine Interpolation.leads_fixed ?_ h'
  rw [mailReader, inText, html_read_plain hs]
  rfl

theorem escaped (hopen : mailText.isOpen q = true) (h' : Literal.Leads t q q' places) :
    Literal.Leads (HrBooking.escaped s :: t) q q' (q :: places) :=
  Interpolation.leads_hole hopen h'

theorem raw (hopen : mailText.isOpen q = true) (h' : Literal.Leads t q q' places) :
    Literal.Leads (HrBooking.raw s :: t) q q' (q :: places) :=
  Interpolation.leads_hole hopen h'

theorem append (h : Literal.Leads t q q' places) (h' : Literal.Leads t' q' q'' places') :
    Literal.Leads (t ++ t') q q'' (places ++ places') := by
  rw [Literal.Leads, List.map_append]
  exact Interpolation.Leads.append h h'

theorem congr (h : Literal.Leads t q q' places) (hplaces : places = places') :
    Literal.Leads t q q' places' := hplaces ▸ h

end Literal.Leads

theorem append_ofList {s t : String} {l l' : List Char} (hs : s = String.ofList l)
    (ht : t = String.ofList l') : s ++ t = String.ofList (l ++ l') := by
  rw [hs, ht, String.ofList_append]

theorem plain_of_ofList {s : String} {l : List Char} (hs : s = String.ofList l)
    (h : Plain (l.flatMap unitsOfChar)) : Plain (units s) := by
  rwa [units, hs, String.toList_ofList]

/-! ### Parts of mails -/

section

variable {why name url label firstName say button expiry when' fee timezone : String}
  {duration : ℕ} {greeting body : Literal} {greetingPlaces bodyPlaces : List HtmlState}

set_option maxRecDepth 4000 in
theorem mailLayout_leads (hwhy : Plain (units why))
    (hgreeting : greeting.Leads (inText ["h2", "div"]) (inText ["h2", "div"]) greetingPlaces)
    (hbody : body.Leads (inText ["div"]) (inText ["div"]) bodyPlaces) :
    (mailLayout why greeting body).Leads .outside .outside (greetingPlaces ++ bodyPlaces) := by
  have hall : (mailLayout why greeting body).Leads .outside .outside
      ([] ++ greetingPlaces ++ [] ++ bodyPlaces ++ []) :=
    .append (.append (.append (.append
      (.lit (append_ofList rfl rfl) (by decide) .nil) hgreeting)
      (.lit rfl (by decide) .nil)) hbody)
      (.lit (append_ofList rfl rfl) (by decide) <| .plain ["p", "div"] hwhy <|
        .lit rfl (by decide) .nil)
  simpa using hall

theorem greet_leads :
    (greet name).Leads (inText ["h2", "div"]) (inText ["h2", "div"]) [inText ["h2", "div"]] :=
  .lit rfl (by decide) (.escaped rfl (.lit rfl (by decide) .nil))

set_option maxRecDepth 4000 in
theorem ctaButton_leads :
    (ctaButton url label).Leads (inText ["div"]) (inText ["div"])
      [inLink ["a", "p", "div"], inText ["a", "p", "div"]] :=
  .lit rfl (by decide) <| .raw rfl <|
    .lit (append_ofList rfl rfl) (by decide) <| .raw rfl <|
    .lit rfl (by decide) .nil

theorem break_leads :
    Literal.Leads [lit "\n        "] (inText ["div"]) (inText ["div"]) [] :=
  .lit rfl (by decide) .nil

theorem end_leads : Literal.Leads [lit "\n      "] (inText ["div"]) (inText ["div"]) [] :=
  .lit rfl (by decide) .nil

set_option maxRecDepth 4000 in
theorem linkMail_leads (hsay : Plain (units say)) (hbutton : Plain (units button))
    (hexpiry : Plain (units expiry)) :
    (AuthTemplates.linkMail firstName url say button expiry).Leads .outside .outside
      [inText ["h2", "div"], inLink ["a", "p", "div"], inText ["p", "div"]] :=
  .lit (append_ofList rfl rfl) (by decide) <| .escaped rfl <|
    .lit rfl (by decide) <| .plain ["p", "div"] hsay <|
    .lit rfl (by decide) <| .raw rfl <|
    .lit (append_ofList rfl rfl) (by decide) <| .plain ["a", "p", "div"] hbutton <|
    .lit (append_ofList rfl rfl) (by decide) <| .raw rfl <|
    .lit rfl (by decide) <| .plain ["p", "div"] hexpiry <|
    .lit rfl (by decide) .nil

set_option maxRecDepth 4000 in
theorem detailsTable_leads :
    (BookingTemplates.detailsTable when' duration fee timezone).Leads (inText ["div"])
      (inText ["div"]) (List.replicate 4 (inText ["td", "tr", "table", "div"])) :=
  .lit (append_ofList (append_ofList rfl rfl) rfl) (by decide) <| .raw rfl <|
    .lit (append_ofList (append_ofList rfl rfl) rfl) (by decide) <| .escaped rfl <|
    .lit (append_ofList (append_ofList rfl rfl) rfl) (by decide) <| .raw rfl <|
    .lit (append_ofList (append_ofList rfl rfl) rfl) (by decide) <| .raw rfl <|
    .lit rfl (by decide) .nil

/-- The link to the conference and its text. -/
def meetingContents (meetingUrl : Option String) : List (HtmlState × String) :=
  match meetingUrl.filter (· ≠ "") with
  | none => []
  | some url => [(inLink ["a", "p", "div"], url), (inText ["p", "div"], url)]

set_option maxRecDepth 4000 in
theorem meetingBlock_leads (meetingUrl : Option String) :
    (BookingTemplates.meetingBlock meetingUrl).Leads (inText ["div"]) (inText ["div"])
      ((meetingContents meetingUrl).map Prod.fst) := by
  unfold BookingTemplates.meetingBlock meetingContents
  cases meetingUrl.filter (· ≠ "") with
  | none => exact .nil
  | some url =>
    change Literal.Leads _ _ _ [inLink ["a", "p", "div"], inText ["p", "div"]]
    exact .lit rfl (by decide) <| .raw rfl <|
      .lit (append_ofList (append_ofList rfl rfl) rfl) (by decide) <| .raw rfl <|
      .lit rfl (by decide) .nil

end

/-! ### Plain values -/

section

variable {s t : String} {l : List Char}

theorem units_append (s t : String) : units (s ++ t) = units s ++ units t := by
  simp [units]

theorem units_ofList (l : List Char) : units (String.ofList l) = l.flatMap unitsOfChar := by
  rw [units, String.toList_ofList]

theorem plain_of_chars (h : ∀ c ∈ l, Plain (unitsOfChar c)) : Plain (units (String.ofList l)) := by
  rw [units_ofList]
  intro u hu
  obtain ⟨c, hc, hu⟩ := List.mem_flatMap.1 hu
  exact h c hc u hu

theorem plain_digit {c : Char} (h : c.isDigit = true) : Plain (unitsOfChar c) := by
  have hdigits : ∀ n < 128, (Char.ofNat n).isDigit = true → Plain (unitsOfChar (Char.ofNat n)) := by
    decide
  have hlt : c.toNat < 128 := by
    simp only [Char.isDigit, Bool.and_eq_true, decide_eq_true_eq] at h
    have hle : c.toNat ≤ 57 := h.2
    omega
  have hc := hdigits c.toNat hlt
  rw [Char.ofNat_toNat] at hc
  exact hc h

theorem plain_toDigits (n : ℕ) : Plain (units (String.ofList (Nat.toDigits 10 n))) :=
  plain_of_chars fun _ hc =>
    plain_digit (Nat.isDigit_of_mem_toDigits (by omega) (by omega) hc)

theorem plain_padNumeral (w n : ℕ) : Plain (units (String.ofList (padNumeral 10 w n))) :=
  plain_of_chars fun _ hc => plain_digit (isDigit_of_mem_padNumeral hc)

theorem plain_objectId (id : ObjectId) : Plain (units id.text) := by
  have hdigits : ∀ n, ∀ c ∈ Nat.toDigits 16 n, Plain (unitsOfChar c) := by
    have hdigit : ∀ d < 16, Plain (unitsOfChar (Nat.digitChar d)) := by decide
    intro n
    induction n using Nat.strong_induction_on with
    | _ n ih =>
      intro c hc
      rw [Nat.toDigits_eq_if (by omega)] at hc
      split_ifs at hc with h
      · obtain rfl := List.mem_singleton.1 hc
        exact hdigit n h
      · rcases List.mem_append.1 hc with hc | hc
        · exact ih _ (Nat.div_lt_self (by omega) (by omega)) c hc
        · obtain rfl := List.mem_singleton.1 hc
          exact hdigit _ (Nat.mod_lt _ (by omega))
  refine plain_of_chars fun c hc => ?_
  rcases List.mem_append.1 hc with hc | hc
  · rw [List.eq_of_mem_replicate hc]
    decide
  · exact hdigits _ c hc

theorem plain_encodeURIComponent (s : String) : Plain (units (encodeURIComponent s)) := by
  have hchars : ∀ c ∈ componentChars, decide (Plain (unitsOfChar c)) = true :=
    List.all_eq_true.1 (by decide)
  rw [encodeURIComponent]
  refine plain_of_chars fun c hc =>
    of_decide_eq_true (hchars c (mem_encodeURIComponent (s := s) ?_))
  rwa [encodeURIComponent, String.toList_ofList]

theorem plain_groupDigits (n : ℕ) : Plain (units (String.ofList (groupDigits n))) := by
  refine plain_of_chars ?_
  induction n using groupDigits.induct with
  | case1 n h =>
    rw [groupDigits, if_pos h]
    exact fun c hc => plain_digit (Nat.isDigit_of_mem_toDigits (by omega) (by omega) hc)
  | case2 n h ih =>
    rw [groupDigits, if_neg h]
    intro c hc
    rcases List.mem_append.1 hc with hc | hc
    · exact ih c hc
    · rcases List.mem_cons.1 hc with rfl | hc
      · decide
      · exact plain_digit (isDigit_of_mem_padNumeral hc)

theorem plain_formatCents (cents : ℕ) (currency : Currency) :
    Plain (units (formatCents cents currency)) := by
  have hsign : Plain (units currency.sign) := by
    cases currency <;> decide
  simp only [formatCents, units_append, plain_append]
  exact ⟨⟨⟨hsign, plain_groupDigits _⟩, by decide⟩, plain_padNumeral _ _⟩

theorem plain_yearText (y : ℤ) : Plain (units (String.ofList (yearText y))) := by
  refine plain_of_chars fun c hc => ?_
  unfold yearText at hc
  split_ifs at hc with h
  · rcases List.mem_cons.1 hc with rfl | hc
    · decide
    · exact plain_digit (isDigit_of_mem_padNumeral hc)
  · exact plain_digit (isDigit_of_mem_padNumeral hc)

theorem plain_formatInZone (l : Locale) (z : Zone) (date : ℤ) :
    Plain (units (formatInZone l z date)) := by
  have hspace : Plain (units " ") := by decide
  have hcomma : Plain (units ", ") := by decide
  have hcolon : Plain (units ":") := by decide
  simp only [formatInZone, units_append, plain_append, hspace, hcomma, hcolon, and_true,
    Locale.weekdayName,
    Locale.monthName, plain_toDigits, plain_yearText, plain_padNumeral, l.plain_weekday,
    l.plain_month]

end

/-! ### Values -/

namespace Literal

/-- The values of a literal, in order. -/
def values (t : Literal) : List (List CodeUnit) := t.filterMap Piece.value?

section

variable {t t' : Literal} {s : String}

@[simp] theorem values_nil : values [] = [] := rfl

@[simp] theorem values_lit : values (lit s :: t) = values t := rfl

@[simp] theorem values_escaped : values (escaped s :: t) = units s :: values t := rfl

@[simp] theorem values_raw : values (raw s :: t) = units s :: values t := rfl

@[simp] theorem values_append : values (t ++ t') = values t ++ values t' :=
  List.filterMap_append ..

@[simp] theorem fitting_nil : mailText.Fitting [] := fun _ _ h => absurd h List.not_mem_nil

@[simp] theorem fitting_lit : mailText.Fitting (lit s :: t) ↔ mailText.Fitting t := by
  simp [Interpolation.Fitting, lit]

@[simp] theorem fitting_escaped : mailText.Fitting (escaped s :: t) ↔ mailText.Fitting t := by
  constructor
  · exact fun h i v hmem => h i v (List.mem_cons_of_mem _ hmem)
  · intro h i v hmem
    rcases List.mem_cons.1 hmem with heq | hmem
    · obtain ⟨rfl, rfl⟩ := Piece.hole.inj heq
      trivial
    · exact h i v hmem

@[simp] theorem fitting_raw :
    mailText.Fitting (raw s :: t) ↔ Plain (units s) ∧ mailText.Fitting t := by
  constructor
  · exact fun h => ⟨h .verbatim _ List.mem_cons_self,
      fun i v hmem => h i v (List.mem_cons_of_mem _ hmem)⟩
  · rintro ⟨hs, h⟩ i v hmem
    rcases List.mem_cons.1 hmem with heq | hmem
    · obtain ⟨rfl, rfl⟩ := Piece.hole.inj heq
      exact hs
    · exact h i v hmem

@[simp] theorem fitting_append :
    mailText.Fitting (t ++ t') ↔ mailText.Fitting t ∧ mailText.Fitting t' := by
  simp only [Interpolation.Fitting, List.mem_append, or_imp, forall_and]

end

end Literal

end HrBooking
