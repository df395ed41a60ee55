import HrBooking.Codec.Url
import HrBooking.Mail.Reading

/-!
# What mails tell

The token, the time and the price that a mail was made from can be told back from what it says.

* `link_token` : the link of a mail hands its token back.
* `numeralValue_groupDigits` : a number is read back from its groups of digits.
* `formatCents_inj` : a text of a price is of one amount in one currency, up to the highest fee.
* `formatInZone_eq_iff` : a text of a time is of one minute on the clock of the zone.
-/

namespace HrBooking

/-! ### Prices -/

section Prices

variable {n cents cents' : ℕ} {currency currency' : Currency}

theorem numeralValue_append (b : ℕ) (l l' : List Char) :
    numeralValue b (l ++ l') = b ^ l'.length * numeralValue b l + numeralValue b l' := by
  have hfrom : ∀ n, l'.foldl (fun n c => b * n + digitValue c) n =
      b ^ l'.length * n + numeralValue b l' := by
    induction l' with
    | nil => simp [numeralValue]
    | cons c l' ih =>
      intro n
      have hzero : numeralValue b (c :: l') = b ^ l'.length * digitValue c + numeralValue b l' := by
        simpa [numeralValue] using ih (digitValue c)
      rw [List.foldl_cons, ih, hzero, List.length_cons]
      ring
  rw [numeralValue, List.foldl_append]
  exact hfrom _

theorem filter_isDigit_toDigits (n : ℕ) :
    (Nat.toDigits 10 n).filter Char.isDigit = Nat.toDigits 10 n :=
  List.filter_eq_self.2 fun _ hc => Nat.isDigit_of_mem_toDigits (by omega) (by omega) hc

theorem filter_isDigit_padNumeral (w n : ℕ) :
    (padNumeral 10 w n).filter Char.isDigit = padNumeral 10 w n :=
  List.filter_eq_self.2 fun _ hc => isDigit_of_mem_padNumeral hc

theorem numeralValue_groupDigits (n : ℕ) :
    numeralValue 10 ((groupDigits n).filter Char.isDigit) = n := by
  induction n using groupDigits.induct with
  | case1 n h =>
    rw [groupDigits, if_pos h, filter_isDigit_toDigits]
    exact numeralValue_toDigits (by omega) (by omega) n
  | case2 n h ih =>
    have hlen : (padNumeral 10 3 (n % 1000)).length = 3 :=
      length_padNumeral (by omega) (by omega) (Nat.mod_lt _ (by omega))
    have hcomma : (',' :: padNumeral 10 3 (n % 1000)).filter Char.isDigit =
        padNumeral 10 3 (n % 1000) := by
      rw [List.filter_cons_of_neg (by decide), filter_isDigit_padNumeral]
    rw [groupDigits, if_neg h, List.filter_append, hcomma, numeralValue_append, hlen, ih,
      numeralValue_padNumeral (by omega) (by omega)]
    omega

theorem filter_isDigit_sign (currency : Currency) :
    currency.sign.toList.filter Char.isDigit = [] := by
  cases currency <;> decide

theorem numeralValue_formatCents (cents : ℕ) (currency : Currency) :
    numeralValue 10 ((formatCents cents currency).toList.filter Char.isDigit) =
      shownCents cents := by
  have hlen : (padNumeral 10 2 (shownCents cents % 100)).length = 2 :=
    length_padNumeral (by omega) (by omega) (Nat.mod_lt _ (by omega))
  have hpoint : ".".toList.filter Char.isDigit = [] := by decide
  simp only [formatCents, String.toList_append, String.toList_ofList, List.filter_append,
    filter_isDigit_sign, hpoint, filter_isDigit_padNumeral, List.nil_append, List.append_nil]
  rw [numeralValue_append, hlen, numeralValue_groupDigits,
    numeralValue_padNumeral (by omega) (by omega)]
  omega

/-- The quotient in doubles shows every amount that a slot can cost. -/
theorem shownCents_eq (h : cents ≤ maxPriceCents) : shownCents cents = cents := by
  have hmax : maxPriceCents = 1500000 := rfl
  have hround := round_mul_nearestFloat (p := 53) (k := 100) (n := cents) (by omega) (by omega)
  push_cast at hround
  rw [shownCents, hround, Int.toNat_natCast]

-- the largest amounts are not told apart
example : shownCents 9007199254740990 = shownCents 9007199254740991 := by decide +kernel

/-- **A text of a price** is of one amount in one currency. -/
theorem formatCents_inj (hcents : cents ≤ maxPriceCents) (hcents' : cents' ≤ maxPriceCents) :
    formatCents cents currency = formatCents cents' currency' ↔
      cents = cents' ∧ currency = currency' := by
  constructor
  · intro h
    obtain rfl : cents = cents' := by
      rw [← shownCents_eq hcents, ← shownCents_eq hcents',
        ← numeralValue_formatCents cents currency, h, numeralValue_formatCents]
    have hsign : ∀ c c' : Currency, c.sign = c'.sign → c = c' := by
      intro c c'
      cases c <;> cases c' <;> decide
    refine ⟨rfl, hsign _ _ ?_⟩
    simpa only [formatCents, String.append_left_inj] using h
  · rintro ⟨rfl, rfl⟩
    rfl

end Prices

/-! ### Times -/

section Times

variable {l : Locale} {z z' : Zone} {t t' : ℤ}

/-- Two texts that are cut where a character first stands. -/
theorem cut_inj {c : Char} {a a' b b' : List Char} (ha : c ∉ a) (ha' : c ∉ a')
    (h : a ++ c :: b = a' ++ c :: b') : a = a' ∧ b = b' := by
  induction a generalizing a' with
  | nil =>
    cases a' with
    | nil => exact ⟨rfl, (List.cons.inj h).2⟩
    | cons d a' =>
      obtain ⟨rfl, -⟩ := List.cons.inj h
      exact absurd List.mem_cons_self ha'
  | cons d a ih =>
    cases a' with
    | nil =>
      obtain ⟨rfl, -⟩ := List.cons.inj h
      exact absurd List.mem_cons_self ha
    | cons d' a' =>
      obtain ⟨rfl, htail⟩ := List.cons.inj h
      obtain ⟨rfl, rfl⟩ := ih (fun hc => ha (List.mem_cons_of_mem _ hc))
        (fun hc => ha' (List.mem_cons_of_mem _ hc)) htail
      exact ⟨rfl, rfl⟩

theorem notMem_of_isDigit {c : Char} {s : List Char} (hs : ∀ d ∈ s, d.isDigit = true)
    (hc : c.isDigit = false) : c ∉ s := by
  intro hmem
  have hdigit := hs c hmem
  rw [hc] at hdigit
  cases hdigit

theorem notMem_toDigits {c : Char} (hc : c.isDigit = false) (n : ℕ) : c ∉ Nat.toDigits 10 n :=
  notMem_of_isDigit (fun _ hd => Nat.isDigit_of_mem_toDigits (by omega) (by omega) hd) hc

theorem notMem_padNumeral {c : Char} (hc : c.isDigit = false) (w n : ℕ) :
    c ∉ padNumeral 10 w n :=
  notMem_of_isDigit (fun _ hd => isDigit_of_mem_padNumeral hd) hc

theorem comma_notMem_yearText (y : ℤ) : ',' ∉ yearText y := by
  unfold yearText
  split_ifs
  · simp [notMem_padNumeral]
  · exact notMem_padNumeral rfl _ _

theorem yearText_injective {y y' : ℤ} (h : yearText y = yearText y') : y = y' := by
  have hsign : ∀ {w n : ℕ} {s : List Char}, padNumeral 10 w n ≠ '-' :: s := by
    intro w n s heq
    exact notMem_padNumeral (c := '-') rfl w n (heq ▸ List.mem_cons_self)
  have heq : ∀ {w n n' : ℕ}, padNumeral 10 w n = padNumeral 10 w n' → n = n' :=
    eq_of_padNumeral (by omega) (by omega)
  unfold yearText at h
  split_ifs at h with h₁ h₂ h₂
  · have := heq (List.cons.inj h).2
    omega
  · exact absurd h.symm hsign
  · exact absurd h hsign
  · have := heq h
    omega

theorem toList_formatInZone (l : Locale) (z : Zone) (t : ℤ) :
    (formatInZone l z t).toList =
      (l.weekdayName (Civil.weekday (z.day t))).toList ++ ' ' ::
        (Nat.toDigits 10 (Civil.ofDay (z.day t)).day ++ ' ' ::
          ((l.monthName (Civil.ofDay (z.day t)).month).toList ++ ' ' ::
            (yearText (Civil.ofDay (z.day t)).year ++ ',' ::
              (' ' :: padNumeral 10 2 (minuteOfDay z t / 60) ++ ':' ::
                padNumeral 10 2 (minuteOfDay z t % 60))))) := by
  simp [formatInZone]

/-- **A text of a time** is of one minute on the clock of the zone. -/
theorem formatInZone_eq_iff :
    formatInZone l z t = formatInZone l z' t' ↔
      z.day t = z'.day t' ∧ minuteOfDay z t = minuteOfDay z' t' := by
  constructor
  · intro h
    have hlist := congrArg String.toList h
    rw [toList_formatInZone, toList_formatInZone] at hlist
    -- the text is cut at its separators, none of which occurs in the part before it
    obtain ⟨-, hlist⟩ := cut_inj (l.space_notMem_weekday _) (l.space_notMem_weekday _) hlist
    obtain ⟨hday, hlist⟩ := cut_inj (notMem_toDigits rfl _) (notMem_toDigits rfl _) hlist
    obtain ⟨hmonth, hlist⟩ := cut_inj (l.space_notMem_month _) (l.space_notMem_month _) hlist
    obtain ⟨hyear, hlist⟩ := cut_inj (comma_notMem_yearText _) (comma_notMem_yearText _) hlist
    have hcolon : ∀ n, ':' ∉ ' ' :: padNumeral 10 2 n := by
      intro n
      simp [notMem_padNumeral]
    obtain ⟨hhour, hminute⟩ := cut_inj (hcolon _) (hcolon _) hlist
    have hnumeral : ∀ {n n' : ℕ}, padNumeral 10 2 n = padNumeral 10 2 n' → n = n' :=
      eq_of_padNumeral (by omega) (by omega)
    -- the date is read back part by part
    have hdate : Civil.ofDay (z.day t) = Civil.ofDay (z'.day t') := by
      have hm := Civil.ofDay_month_range (z.day t)
      have hm' := Civil.ofDay_month_range (z'.day t')
      have hindex := congrArg Fin.val (l.month_injective (String.toList_inj.1 hmonth))
      have hd := numeralValue_toDigits (b := 10) (by omega) (by omega)
        (Civil.ofDay (z.day t)).day
      rw [hday, numeralValue_toDigits (by omega) (by omega)] at hd
      have hy := yearText_injective hyear
      cases hc : Civil.ofDay (z.day t)
      cases hc' : Civil.ofDay (z'.day t')
      simp only [hc, hc'] at hm hm' hindex hd hy
      simp only [Civil.mk.injEq]
      exact ⟨hy, by omega, hd.symm⟩
    have hhours := hnumeral (List.cons.inj hhour).2
    have hminutes := hnumeral hminute
    exact ⟨Civil.ofDay_injective hdate, by omega⟩
  · rintro ⟨hday, hminute⟩
    rw [formatInZone, formatInZone, hday, hminute]

theorem minute_eq_iff :
    z.day t = z'.day t' ∧ minuteOfDay z t = minuteOfDay z' t' ↔
      z.wall t / 60000 = z'.wall t' / 60000 := by
  simp only [Zone.day, minuteOfDay, msPerDay]
  omega

end Times

/-! ### Tokens -/

/-- The two mails with a token, and the page that the link leads to. -/
inductive TokenMail where
  | verifyEmail | resetPassword

/-- The request for the mail. -/
def TokenMail.request (firstName token : String) : TokenMail → MailRequest
  | verifyEmail => .verifyEmail firstName token
  | resetPassword => .resetPasswordEmail firstName token

theorem searchParam_tokenUrl {env : MailEnv} {page : String}
    (hpage : '?' ∉ page.toList ∧ '#' ∉ page.toList) (hquery : '?' ∉ env.clientUrl.toList)
    (hfragment : '#' ∉ env.clientUrl.toList) (token : String) :
    searchParam "token" (AuthTemplates.tokenUrl env page token) = some token := by
  have hname : encodeURIComponent "token" = "token" := by decide
  have hbase : ∀ c, c = '?' ∨ c = '#' → c ∉ (env.clientUrl ++ page).toList := by
    rintro c hc hmem
    rcases List.mem_append.1 (String.toList_append ▸ hmem) with hmem | hmem
    · rcases hc with rfl | rfl
      · exact hquery hmem
      · exact hfragment hmem
    · rcases hc with rfl | rfl
      · exact hpage.1 hmem
      · exact hpage.2 hmem
  have hurl : AuthTemplates.tokenUrl env page token =
      env.clientUrl ++ page ++ "?" ++ encodeURIComponent "token" ++ "=" ++
        encodeURIComponent token := by
    rw [hname, AuthTemplates.tokenUrl]
    simp only [String.append_assoc]
    rfl
  rw [hurl]
  exact searchParam_append (hbase _ (.inl rfl)) (hbase _ (.inr rfl)) "token" token

/-- **The link of a mail hands its token back.**  A mail is read with a link in it, whatever the
name of its recipient is, and the page that the link opens is given the token that the mail was made
with. -/
theorem link_token (env : MailEnv) (mail : TokenMail) (firstName token : String)
    (hclient : Plain (units env.clientUrl)) (hquery : '?' ∉ env.clientUrl.toList)
    (hfragment : '#' ∉ env.clientUrl.toList) :
    ∃ url k, k.filterMap Sum.getRight? =
        [inText ["h2", "div"], inLink ["a", "p", "div"], inText ["p", "div"]] ∧
      mailReader.read .outside ((mail.request firstName token).build env).text =
        some (.outside, mailText.fill k [units firstName, units url, units url]) ∧
      searchParam "token" url = some token := by
  -- both mails, whichever page their link opens
  have hread : ∀ page, (mail.request firstName token).contents env =
      [greetContents firstName, (inLink ["a", "p", "div"], AuthTemplates.tokenUrl env page token),
        (inText ["p", "div"], AuthTemplates.tokenUrl env page token)] →
      '?' ∉ page.toList ∧ '#' ∉ page.toList →
      ∃ url k, k.filterMap Sum.getRight? =
          [inText ["h2", "div"], inLink ["a", "p", "div"], inText ["p", "div"]] ∧
        mailReader.read .outside ((mail.request firstName token).build env).text =
          some (.outside, mailText.fill k [units firstName, units url, units url]) ∧
        searchParam "token" url = some token := by
    intro page hcontents hpage
    obtain ⟨k, houtline, hplaces⟩ := leads_build env (mail.request firstName token)
    have hfits : mailText.Fitting ((mail.request firstName token).build env).html := by
      refine fitting_build _ hclient ?_
      cases mail <;> exact fun url hurl => absurd hurl (by simp [TokenMail.request,
        MailRequest.meetingUrl])
    refine ⟨AuthTemplates.tokenUrl env page token, k, ?_, ?_,
      searchParam_tokenUrl hpage hquery hfragment token⟩
    · rw [hplaces, hcontents]
      rfl
    · have htext := Interpolation.read_render hfits houtline
      change _ = some (_, mailText.fill k (Literal.values _)) at htext
      rw [values_build, hcontents] at htext
      exact htext
  cases mail with
  | verifyEmail => exact hread "/verify-email" rfl (by decide)
  | resetPassword => exact hread "/reset-password" rfl (by decide)

/-- A name that is markup, and a token that is no plain text. -/
theorem link_token_markup :
    (Plain (units sampleMailEnv.clientUrl) ∧ '?' ∉ sampleMailEnv.clientUrl.toList ∧
      '#' ∉ sampleMailEnv.clientUrl.toList) ∧
    ∃ url k, k.filterMap Sum.getRight? =
        [inText ["h2", "div"], inLink ["a", "p", "div"], inText ["p", "div"]] ∧
      mailReader.read .outside ((TokenMail.verifyEmail.request "<b>" "a&b=\"c\"").build
          sampleMailEnv).text =
        some (.outside, mailText.fill k [units "<b>", units url, units url]) ∧
      searchParam "token" url = some "a&b=\"c\"" :=
  ⟨by decide, link_token sampleMailEnv .verifyEmail "<b>" "a&b=\"c\"" (by decide)
    (by decide) (by decide)⟩

/-! ### Bookings -/

/-- Two mails tell the same details of a booking. -/
structure TellSame (env : MailEnv) (ctx ctx' : BookingContext) : Prop where
  bookingId : ctx.bookingId = ctx'.bookingId
  /-- The minute of the start, on the clock of the recipient. -/
  minute : (env.zone ctx.recipientTimezone).wall ctx.startAt / 60000 =
    (env.zone ctx'.recipientTimezone).wall ctx'.startAt / 60000
  timezone : ctx.recipientTimezone = ctx'.recipientTimezone
  duration : ctx.durationMinutes = ctx'.durationMinutes
  price : ctx.priceCents = ctx'.priceCents
  currency : ctx.currency = ctx'.currency
  meetingUrl : ctx.meetingUrl.filter (· ≠ "") = ctx'.meetingUrl.filter (· ≠ "")

theorem tableContents_inj {texts texts' : List String} :
    tableContents texts = tableContents texts' ↔ texts = texts' := by
  have hinjective : Function.Injective fun text : String =>
      (inText ["td", "tr", "table", "div"], text) := fun _ _ h => (Prod.mk.inj h).2
  exact hinjective.list_map.eq_iff

theorem whenText_eq_iff {env : MailEnv} {ctx ctx' : BookingContext} {t t' : ℤ} :
    BookingTemplates.whenText env ctx t = BookingTemplates.whenText env ctx' t' ↔
      (env.zone ctx.recipientTimezone).wall t / 60000 =
        (env.zone ctx'.recipientTimezone).wall t' / 60000 :=
  formatInZone_eq_iff.trans minute_eq_iff

theorem meetingContents_inj {url url' : Option String} :
    meetingContents url = meetingContents url' ↔
      url.filter (· ≠ "") = url'.filter (· ≠ "") := by
  unfold meetingContents
  cases url.filter (· ≠ "") <;> cases url'.filter (· ≠ "") <;> simp

theorem bookingUrl_inj {env : MailEnv} {id id' : ObjectId} :
    BookingTemplates.bookingUrl env id = BookingTemplates.bookingUrl env id' ↔ id = id' := by
  simp only [BookingTemplates.bookingUrl, String.append_right_inj]
  exact ObjectId.text_injective.eq_iff

/-- **The details of a mail** tell the booking, the minute of its start, its length, its price and
the link to its conference, and nothing else. -/
theorem detailsContents_eq_iff (env : MailEnv) (ctx ctx' : BookingContext)
    (hprice : ctx.priceCents ≤ maxPriceCents) (hprice' : ctx'.priceCents ≤ maxPriceCents) :
    detailsContents env ctx = detailsContents env ctx' ↔ TellSame env ctx ctx' := by
  have hduration : ∀ n n' : ℕ, toString n = toString n' ↔ n = n' := by
    refine fun n n' => ⟨fun h => ?_, fun h => h ▸ rfl⟩
    rw [Nat.toString_eq_ofList_toDigits, Nat.toString_eq_ofList_toDigits] at h
    rw [← numeralValue_toDigits (b := 10) (by omega) (by omega) n, String.ofList_injective h,
      numeralValue_toDigits (by omega) (by omega)]
  constructor
  · intro h
    -- the button is the end of both, and the table the beginning
    obtain ⟨hrest, hbutton⟩ := List.append_inj' h rfl
    obtain ⟨htable, hmeeting⟩ := List.append_inj hrest rfl
    have htexts := tableContents_inj.1 htable
    simp only [List.cons.injEq, and_true, whenText_eq_iff, Subtype.val_inj, hduration,
      formatCents_inj hprice hprice'] at htexts
    obtain ⟨hminute, htimezone, hlength, hcents, hcurrency⟩ := htexts
    have hurl := (Prod.mk.inj (List.cons.inj hbutton).1).2
    exact ⟨bookingUrl_inj.1 hurl, hminute, htimezone, hlength, hcents, hcurrency,
      meetingContents_inj.1 hmeeting⟩
  · rintro ⟨hid, hminute, htimezone, hlength, hcents, hcurrency, hmeeting⟩
    rw [detailsContents, detailsContents, whenText_eq_iff.2 hminute, htimezone, hlength, hcents,
      hcurrency, meetingContents_inj.2 hmeeting, hid]

/-- A booking at the highest fee. -/
def sampleContext : BookingContext :=
  ⟨255, "Ada", "Grace", 1767603600500, 90, maxPriceCents, .usd,
    ⟨"Asia/Dhaka", by decide⟩, some "https://meet.google.com/abc-defg-hij"⟩

theorem detailsContents_eq_iff_cheaper :
    let cheaper := { sampleContext with startAt := 1767603600501, priceCents := 1499999 }
    (sampleContext.priceCents ≤ maxPriceCents ∧ cheaper.priceCents ≤ maxPriceCents) ∧
      (detailsContents sampleMailEnv sampleContext = detailsContents sampleMailEnv cheaper ↔
        TellSame sampleMailEnv sampleContext cheaper) :=
  ⟨⟨le_rfl, by decide⟩, detailsContents_eq_iff sampleMailEnv sampleContext _ le_rfl (by decide)⟩

end HrBooking
