import HrBooking.Mail.Literal

/-!
# What is read of a mail

A reader of mails goes over the text of a mail without coming upon anything it does not know, ends
outside all elements, and finds every value where the template puts it.

* `MailRequest.contents` : the values of a mail and where they stand.
* `values_build`, `fitting_build`, `leads_build` : the templates put them there.
* `mail_read` : what is read of a mail is what is read of its template, with the values as they are.
-/

namespace HrBooking

/-! ### Contents -/

/-- A button with its link. -/
def buttonContents (url label : String) : List (HtmlState × String) :=
  [(inLink ["a", "p", "div"], url), (inText ["a", "p", "div"], label)]

/-- What the details of a booking say, before the links. -/
def tableContents (texts : List String) : List (HtmlState × String) :=
  texts.map fun text => (inText ["td", "tr", "table", "div"], text)

/-- The name in the greeting. -/
def greetContents (name : String) : HtmlState × String := (inText ["h2", "div"], name)

/-- The details of a booking, with the links. -/
def detailsContents (env : MailEnv) (ctx : BookingContext) : List (HtmlState × String) :=
  tableContents [BookingTemplates.whenText env ctx ctx.startAt, ctx.recipientTimezone.val,
    toString ctx.durationMinutes, formatCents ctx.priceCents ctx.currency] ++
  meetingContents ctx.meetingUrl ++
  buttonContents (BookingTemplates.bookingUrl env ctx.bookingId) "View booking"

/-- The values of a mail and where they stand. -/
def MailRequest.contents (env : MailEnv) : MailRequest → List (HtmlState × String)
  | accountSuspended name reason => [greetContents name, (inText ["p", "div"], reason)]
  | accountReactivated name => [greetContents name, (inLink ["a", "p", "div"], env.clientUrl)]
  | profileApproved name =>
    greetContents name :: buttonContents (env.clientUrl ++ "/profile/manage") "View your profile"
  | newApplicationNotice applicantName headline =>
    (inText ["strong", "p", "div"], applicantName) :: (inText ["p", "div"], headline) ::
      buttonContents (env.clientUrl ++ "/admin/hr") "Review application"
  | profileRejected name reason =>
    greetContents name :: (inText ["p", "div"], reason) ::
      buttonContents (env.clientUrl ++ "/profile") "Edit your profile"
  | verifyEmail firstName token =>
    let url := AuthTemplates.tokenUrl env "/verify-email" token
    [greetContents firstName, (inLink ["a", "p", "div"], url), (inText ["p", "div"], url)]
  | resetPasswordEmail firstName token =>
    let url := AuthTemplates.tokenUrl env "/reset-password" token
    [greetContents firstName, (inLink ["a", "p", "div"], url), (inText ["p", "div"], url)]
  | bookingConfirmation ctx =>
    greetContents ctx.recipientName :: (inText ["strong", "p", "div"], ctx.counterpartName) ::
      detailsContents env ctx
  | bookingCancellation ctx cancelledBy reason =>
    greetContents ctx.recipientName :: (inText ["strong", "p", "div"], ctx.counterpartName) ::
      (inText ["p", "div"], BookingTemplates.whenText env ctx ctx.startAt) ::
      (inText ["p", "div"], toLowerCase cancelledBy.text) ::
      ((reason.filter (· ≠ "")).toList.map fun reason => (inText ["p", "div"], reason)) ++
      buttonContents (BookingTemplates.bookingUrl env ctx.bookingId) "View details"
  | bookingReschedule ctx previousStartAt =>
    greetContents ctx.recipientName :: (inText ["strong", "p", "div"], ctx.counterpartName) ::
      tableContents [BookingTemplates.whenText env ctx previousStartAt,
        BookingTemplates.whenText env ctx ctx.startAt, toString ctx.durationMinutes,
        formatCents ctx.priceCents ctx.currency] ++
      meetingContents ctx.meetingUrl ++
      buttonContents (BookingTemplates.bookingUrl env ctx.bookingId) "View booking"
  | bookingReminder ctx =>
    greetContents ctx.recipientName :: (inText ["strong", "p", "div"], ctx.counterpartName) ::
      detailsContents env ctx

/-- The link to the conference that a mail has. -/
def MailRequest.meetingUrl : MailRequest → Option String
  | bookingConfirmation ctx | bookingReschedule ctx _ | bookingReminder ctx => ctx.meetingUrl
  | _ => none

section

variable {env : MailEnv}

theorem values_mailLayout (why : String) (greeting body : Literal) :
    (mailLayout why greeting body).values = greeting.values ++ body.values := by
  simp only [mailLayout, Literal.values_append, Literal.values_lit, Literal.values_nil,
    List.nil_append, List.append_nil]

theorem values_meetingBlock (meetingUrl : Option String) :
    (BookingTemplates.meetingBlock meetingUrl).values =
      (meetingContents meetingUrl).map fun x => units x.2 := by
  unfold BookingTemplates.meetingBlock meetingContents
  cases meetingUrl.filter (· ≠ "") <;> rfl

theorem values_bookingDetails (env : MailEnv) (ctx : BookingContext) :
    (BookingTemplates.bookingDetails env ctx).values =
      (detailsContents env ctx).map fun x => units x.2 := by
  simp only [BookingTemplates.bookingDetails, detailsContents, Literal.values_append,
    values_meetingBlock, List.map_append, Literal.values_lit, Literal.values_nil, List.append_nil]
  rfl

theorem values_build (env : MailEnv) (m : MailRequest) :
    (m.build env).html.values = (m.contents env).map fun x => units x.2 := by
  cases m with
  | accountSuspended | accountReactivated | profileApproved | newApplicationNotice
  | profileRejected | verifyEmail | resetPasswordEmail => rfl
  | bookingConfirmation ctx =>
    change (mailLayout _ (greet _) (_ ++ BookingTemplates.bookingDetails env ctx)).values = _
    rw [values_mailLayout, Literal.values_append, values_bookingDetails]
    rfl
  | bookingCancellation ctx cancelledBy reason =>
    change (mailLayout _ (greet _) (_ ++ _ ++ _)).values = _
    rw [values_mailLayout, Literal.values_append, Literal.values_append, MailRequest.contents]
    cases reason.filter (· ≠ "") <;> rfl
  | bookingReschedule ctx previousStartAt =>
    change (mailLayout _ (greet _) (_ ++ BookingTemplates.meetingBlock _ ++ _ ++ _ ++ _)).values = _
    simp only [values_mailLayout, Literal.values_append, values_meetingBlock, MailRequest.contents,
      List.map_cons, List.map_append, Literal.values_lit, Literal.values_nil, List.append_nil]
    rfl
  | bookingReminder ctx =>
    change (mailLayout _ (greet _) (_ ++ BookingTemplates.bookingDetails env ctx)).values = _
    rw [values_mailLayout, Literal.values_append, values_bookingDetails]
    rfl

/-! ### Values that are not escaped -/

theorem plain_bookingUrl (hclient : Plain (units env.clientUrl)) (bookingId : ObjectId) :
    Plain (units (BookingTemplates.bookingUrl env bookingId)) := by
  rw [BookingTemplates.bookingUrl, units_append, units_append, plain_append, plain_append]
  exact ⟨⟨hclient, plain_of_ofList rfl (by decide)⟩, plain_objectId bookingId⟩

theorem plain_tokenUrl (hclient : Plain (units env.clientUrl)) {page : String}
    (hpage : Plain (units page)) (token : String) :
    Plain (units (AuthTemplates.tokenUrl env page token)) := by
  simp only [AuthTemplates.tokenUrl, units_append, plain_append]
  exact ⟨⟨⟨hclient, hpage⟩, by decide⟩, plain_encodeURIComponent token⟩

theorem plain_whenText (env : MailEnv) (ctx : BookingContext) (date : ℤ) :
    Plain (units (BookingTemplates.whenText env ctx date)) := plain_formatInZone _ _ _

theorem fitting_mailLayout (why : String) (greeting body : Literal) :
    mailText.Fitting (mailLayout why greeting body) ↔
      mailText.Fitting greeting ∧ mailText.Fitting body := by
  simp only [mailLayout, Literal.fitting_append, Literal.fitting_lit, Literal.fitting_nil,
    true_and, and_true]

theorem fitting_greet (name : String) : mailText.Fitting (greet name) := by
  simp only [greet, Literal.fitting_lit, Literal.fitting_escaped, Literal.fitting_nil]

theorem fitting_ctaButton {url label : String} (hurl : Plain (units url))
    (hlabel : Plain (units label)) : mailText.Fitting (ctaButton url label) := by
  simp only [ctaButton, Literal.fitting_lit, Literal.fitting_raw, Literal.fitting_nil, hurl, hlabel,
    and_self]

theorem fitting_detailsTable {when' fee timezone : String} {duration : ℕ}
    (hwhen : Plain (units when')) (hfee : Plain (units fee)) :
    mailText.Fitting (BookingTemplates.detailsTable when' duration fee timezone) := by
  have hduration : Plain (units (toString duration)) := by
    rw [Nat.toString_eq_ofList_toDigits]
    exact plain_toDigits duration
  simp only [BookingTemplates.detailsTable, Literal.fitting_lit, Literal.fitting_raw,
    Literal.fitting_escaped, Literal.fitting_nil, hwhen, hfee, hduration, and_self]

theorem fitting_meetingBlock {meetingUrl : Option String}
    (h : ∀ url ∈ meetingUrl, Plain (units url)) :
    mailText.Fitting (BookingTemplates.meetingBlock meetingUrl) := by
  unfold BookingTemplates.meetingBlock
  cases hurl : meetingUrl.filter (· ≠ "") with
  | none => exact Literal.fitting_nil
  | some url =>
    have hplain := h url (Option.eq_some_of_filter_eq_some hurl)
    simp only [Literal.fitting_lit, Literal.fitting_raw, Literal.fitting_nil, hplain, and_self]

theorem fitting_bookingDetails {ctx : BookingContext} (hclient : Plain (units env.clientUrl))
    (hmeeting : ∀ url ∈ ctx.meetingUrl, Plain (units url)) :
    mailText.Fitting (BookingTemplates.bookingDetails env ctx) := by
  have hbutton := fitting_ctaButton (plain_bookingUrl hclient ctx.bookingId)
    (plain_of_ofList (s := "View booking") rfl (by decide))
  have htable : mailText.Fitting (BookingTemplates.detailsTable
      (BookingTemplates.whenText env ctx ctx.startAt) ctx.durationMinutes
      (formatCents ctx.priceCents ctx.currency) ctx.recipientTimezone.val) :=
    fitting_detailsTable (plain_whenText env ctx ctx.startAt)
      (plain_formatCents ctx.priceCents ctx.currency)
  simp only [BookingTemplates.bookingDetails, Literal.fitting_append, Literal.fitting_lit,
    Literal.fitting_nil, htable, fitting_meetingBlock hmeeting, hbutton, and_self]

/-- The values that are not escaped are plain when the address of the client and the link to the
conference are. -/
theorem fitting_build (m : MailRequest) (hclient : Plain (units env.clientUrl))
    (hmeeting : ∀ url ∈ m.meetingUrl, Plain (units url)) :
    mailText.Fitting (m.build env).html := by
  -- the addresses are the only values that are not escaped
  have hbutton : ∀ {page label : String} {l l' : List Char}, page = String.ofList l →
      Plain (l.flatMap unitsOfChar) → label = String.ofList l' →
      Plain (l'.flatMap unitsOfChar) →
      mailText.Fitting (ctaButton (env.clientUrl ++ page) label) := by
    intro page label l l' hpage hl hlabel hl'
    refine fitting_ctaButton ?_ (plain_of_ofList hlabel hl')
    rw [units_append, plain_append]
    exact ⟨hclient, plain_of_ofList hpage hl⟩
  have hlink : ∀ {page firstName say button expiry token : String} {l : List Char},
      page = String.ofList l → Plain (l.flatMap unitsOfChar) →
      mailText.Fitting (AuthTemplates.linkMail firstName
        (AuthTemplates.tokenUrl env page token) say button expiry) := by
    intro page firstName say button expiry token l hpage hl
    have hurl := plain_tokenUrl hclient (plain_of_ofList hpage hl) token
    simp only [AuthTemplates.linkMail, Literal.fitting_lit, Literal.fitting_escaped,
      Literal.fitting_raw, Literal.fitting_nil, hurl, and_self]
  cases m with
  | accountSuspended name reason =>
    refine (fitting_mailLayout _ _ _).2 ⟨fitting_greet name, ?_⟩
    simp only [Literal.fitting_lit, Literal.fitting_escaped, Literal.fitting_nil]
  | accountReactivated name =>
    refine (fitting_mailLayout _ _ _).2 ⟨fitting_greet name, ?_⟩
    simp only [Literal.fitting_lit, Literal.fitting_raw, Literal.fitting_nil, hclient, and_self]
  | profileApproved name =>
    refine (fitting_mailLayout _ _ _).2 ⟨fitting_greet name, ?_⟩
    simp only [Literal.fitting_append, Literal.fitting_lit, Literal.fitting_nil, true_and, and_true]
    exact hbutton rfl (by decide) rfl (by decide)
  | newApplicationNotice applicantName headline =>
    refine (fitting_mailLayout _ _ _).2 ⟨by simp, ?_⟩
    simp only [Literal.fitting_append, Literal.fitting_lit, Literal.fitting_escaped,
      Literal.fitting_nil, true_and, and_true]
    exact hbutton rfl (by decide) rfl (by decide)
  | profileRejected name reason =>
    refine (fitting_mailLayout _ _ _).2 ⟨fitting_greet name, ?_⟩
    simp only [Literal.fitting_append, Literal.fitting_lit, Literal.fitting_escaped,
      Literal.fitting_nil, true_and, and_true]
    exact hbutton rfl (by decide) rfl (by decide)
  | verifyEmail | resetPasswordEmail => exact hlink rfl (by decide)
  | bookingConfirmation ctx | bookingReminder ctx =>
    refine (fitting_mailLayout _ _ _).2 ⟨fitting_greet _, ?_⟩
    simp only [Literal.fitting_append, Literal.fitting_lit, Literal.fitting_escaped,
      Literal.fitting_nil, true_and]
    exact fitting_bookingDetails hclient hmeeting
  | bookingCancellation ctx cancelledBy reason =>
    have hview := fitting_ctaButton (plain_bookingUrl hclient ctx.bookingId)
      (plain_of_ofList (s := "View details") rfl (by decide))
    refine (fitting_mailLayout _ _ _).2 ⟨fitting_greet _, ?_⟩
    simp only [Literal.fitting_append, Literal.fitting_lit, Literal.fitting_escaped,
      Literal.fitting_raw, Literal.fitting_nil, plain_whenText, hview, true_and, and_true]
    cases reason.filter (· ≠ "") with
    | none => exact Literal.fitting_nil
    | some reason =>
      simp only [Literal.fitting_lit, Literal.fitting_escaped, Literal.fitting_nil]
  | bookingReschedule ctx previousStartAt =>
    have hview := fitting_ctaButton (plain_bookingUrl hclient ctx.bookingId)
      (plain_of_ofList (s := "View booking") rfl (by decide))
    have hduration : Plain (units (toString ctx.durationMinutes)) := by
      rw [Nat.toString_eq_ofList_toDigits]
      exact plain_toDigits ctx.durationMinutes
    have hblock : mailText.Fitting (BookingTemplates.meetingBlock ctx.meetingUrl) :=
      fitting_meetingBlock hmeeting
    refine (fitting_mailLayout _ _ _).2 ⟨fitting_greet _, ?_⟩
    simp only [Literal.fitting_append, Literal.fitting_lit, Literal.fitting_escaped,
      Literal.fitting_raw, Literal.fitting_nil, plain_whenText, hview, hduration,
      plain_formatCents, hblock, and_self]

end

/-! ### Mails -/

section

variable {env : MailEnv}

theorem frame_leads {why name : String} {l : List Char} {body : Literal}
    {places : List HtmlState} (hs : why = String.ofList l) (hwhy : Plain (l.flatMap unitsOfChar))
    (hbody : body.Leads (inText ["div"]) (inText ["div"]) places) :
    (mailLayout why (greet name) body).Leads .outside .outside
      (inText ["h2", "div"] :: places) :=
  mailLayout_leads (plain_of_ofList hs hwhy) greet_leads hbody

theorem bookingDetails_leads (env : MailEnv) (ctx : BookingContext) :
    (BookingTemplates.bookingDetails env ctx).Leads (inText ["div"]) (inText ["div"])
      ((detailsContents env ctx).map Prod.fst) := by
  have hall : (BookingTemplates.bookingDetails env ctx).Leads (inText ["div"]) (inText ["div"])
      (_ ++ _ ++ _ ++ _ ++ _ ++ _ ++ _) :=
    .append (.append (.append (.append (.append (.append break_leads detailsTable_leads)
      break_leads) (meetingBlock_leads ctx.meetingUrl)) break_leads) ctaButton_leads) end_leads
  refine hall.congr ?_
  simp only [detailsContents, tableContents, buttonContents, List.map_append, List.nil_append,
    List.append_nil]
  rfl

set_option maxRecDepth 4000 in
theorem buildAccountSuspended_leads (name reason : String) :
    (AccountTemplates.buildAccountSuspended name reason).html.Leads .outside .outside
      [inText ["h2", "div"], inText ["p", "div"]] :=
  frame_leads rfl (by decide) <|
    .lit (append_ofList (append_ofList rfl rfl) rfl) (by decide) <| .escaped rfl <|
    .lit (append_ofList rfl rfl) (by decide) .nil

set_option maxRecDepth 4000 in
theorem buildAccountReactivated_leads (env : MailEnv) (name : String) :
    (AccountTemplates.buildAccountReactivated env name).html.Leads .outside .outside
      [inText ["h2", "div"], inLink ["a", "p", "div"]] :=
  frame_leads rfl (by decide) <|
    .lit (append_ofList (append_ofList rfl rfl) rfl) (by decide) <| .raw rfl <|
    .lit (append_ofList (append_ofList rfl rfl) rfl) (by decide) .nil

set_option maxRecDepth 4000 in
theorem buildProfileApproved_leads (env : MailEnv) (name : String) :
    (HrProfileTemplates.buildProfileApproved env name).html.Leads .outside .outside
      [inText ["h2", "div"], inLink ["a", "p", "div"], inText ["a", "p", "div"]] :=
  frame_leads rfl (by decide) <|
    .append (.append (.lit (append_ofList (append_ofList (append_ofList rfl rfl) rfl) rfl)
      (by decide) .nil) ctaButton_leads) end_leads

set_option maxRecDepth 4000 in
theorem buildNewApplicationNotice_leads (env : MailEnv) (applicantName headline : String) :
    (HrProfileTemplates.buildNewApplicationNotice env applicantName headline).html.Leads .outside
      .outside [inText ["strong", "p", "div"], inText ["p", "div"], inLink ["a", "p", "div"],
        inText ["a", "p", "div"]] :=
  mailLayout_leads (plain_of_ofList rfl (by decide))
    (.lit rfl (by decide) .nil) <|
    .append (.append (.lit rfl (by decide) <| .escaped rfl <|
      .lit (append_ofList rfl rfl) (by decide) <| .escaped rfl <|
      .lit rfl (by decide) .nil) ctaButton_leads) end_leads

set_option maxRecDepth 4000 in
theorem buildProfileRejected_leads (env : MailEnv) (name reason : String) :
    (HrProfileTemplates.buildProfileRejected env name reason).html.Leads .outside .outside
      [inText ["h2", "div"], inText ["p", "div"], inLink ["a", "p", "div"],
        inText ["a", "p", "div"]] :=
  frame_leads rfl (by decide) <|
    .append (.append (.lit (append_ofList (append_ofList rfl rfl) rfl) (by decide) <|
      .escaped rfl <| .lit (append_ofList rfl rfl) (by decide) .nil) ctaButton_leads)
      end_leads

theorem buildVerifyEmail_leads (env : MailEnv) (firstName token : String) :
    (AuthTemplates.buildVerifyEmail env firstName token).html.Leads .outside .outside
      [inText ["h2", "div"], inLink ["a", "p", "div"], inText ["p", "div"]] :=
  linkMail_leads (plain_of_ofList rfl (by decide))
    (plain_of_ofList rfl (by decide)) (plain_of_ofList rfl (by decide))

theorem buildResetPasswordEmail_leads (env : MailEnv) (firstName token : String) :
    (AuthTemplates.buildResetPasswordEmail env firstName token).html.Leads .outside .outside
      [inText ["h2", "div"], inLink ["a", "p", "div"], inText ["p", "div"]] :=
  linkMail_leads (plain_of_ofList rfl (by decide))
    (plain_of_ofList rfl (by decide)) (plain_of_ofList rfl (by decide))

theorem consultation_leads {before after : String} {l l' : List Char} (env : MailEnv)
    (ctx : BookingContext) (hbefore : before = String.ofList l)
    (h : (mailReader.read (inText ["div"]) (l.flatMap unitsOfChar)).map Prod.fst =
      some (inText ["strong", "p", "div"])) (hafter : after = String.ofList l')
    (h' : (mailReader.read (inText ["strong", "p", "div"]) (l'.flatMap unitsOfChar)).map Prod.fst =
      some (inText ["div"])) :
    (BookingTemplates.layout (greet ctx.recipientName)
      ([lit before, escaped ctx.counterpartName, lit after] ++
        BookingTemplates.bookingDetails env ctx)).Leads .outside .outside
      (inText ["h2", "div"] :: inText ["strong", "p", "div"] ::
        (detailsContents env ctx).map Prod.fst) :=
  frame_leads rfl (by decide) <|
    .append (.lit hbefore h <| .escaped rfl <| .lit hafter h' .nil) (bookingDetails_leads env ctx)

theorem buildBookingConfirmation_leads (env : MailEnv) (ctx : BookingContext) :
    (BookingTemplates.buildBookingConfirmation env ctx).html.Leads .outside .outside
      (inText ["h2", "div"] :: inText ["strong", "p", "div"] ::
        (detailsContents env ctx).map Prod.fst) :=
  consultation_leads env ctx rfl (by decide) rfl (by decide)

theorem buildBookingReminder_leads (env : MailEnv) (ctx : BookingContext) :
    (BookingTemplates.buildBookingReminder env ctx).html.Leads .outside .outside
      (inText ["h2", "div"] :: inText ["strong", "p", "div"] ::
        (detailsContents env ctx).map Prod.fst) :=
  consultation_leads env ctx rfl (by decide) rfl (by decide)

theorem reason_leads (reason : Option String) :
    Literal.Leads (match reason.filter (· ≠ "") with
        | none => []
        | some reason =>
          [lit "<p style=\"color:#6b7280;font-size:13px;\">Reason: ", escaped reason, lit "</p>"])
      (inText ["div"]) (inText ["div"])
      ((reason.filter (· ≠ "")).toList.map fun _ => inText ["p", "div"]) := by
  cases reason.filter (· ≠ "") with
  | none => exact .nil
  | some reason =>
    change Literal.Leads _ _ _ [inText ["p", "div"]]
    exact .lit rfl (by decide) <| .escaped rfl <| .lit rfl (by decide) .nil

set_option maxRecDepth 4000 in
theorem buildBookingCancellation_leads (env : MailEnv) (ctx : BookingContext)
    (cancelledBy : CancelledBy) (reason : Option String) :
    (BookingTemplates.buildBookingCancellation env ctx cancelledBy reason).html.Leads .outside
      .outside
      (inText ["h2", "div"] :: ([inText ["strong", "p", "div"], inText ["p", "div"],
        inText ["p", "div"]] ++
        ((reason.filter (· ≠ "")).toList.map fun _ => inText ["p", "div"]) ++ [] ++
        [inLink ["a", "p", "div"], inText ["a", "p", "div"]] ++ [])) :=
  frame_leads rfl (by decide) <|
    .append (.append (.append (.append (.lit rfl (by decide) <| .escaped rfl <|
      .lit rfl (by decide) <| .raw rfl <| .lit rfl (by decide) <| .escaped rfl <|
      .lit rfl (by decide) .nil) (reason_leads reason)) break_leads) ctaButton_leads)
      end_leads

set_option maxRecDepth 4000 in
theorem buildBookingReschedule_leads (env : MailEnv) (ctx : BookingContext)
    (previousStartAt : ℤ) :
    (BookingTemplates.buildBookingReschedule env ctx previousStartAt).html.Leads .outside
      .outside
      (inText ["h2", "div"] :: ([inText ["strong", "p", "div"],
        inText ["td", "tr", "table", "div"], inText ["td", "tr", "table", "div"],
        inText ["td", "tr", "table", "div"], inText ["td", "tr", "table", "div"]] ++
        (meetingContents ctx.meetingUrl).map Prod.fst ++ [] ++
        [inLink ["a", "p", "div"], inText ["a", "p", "div"]] ++ [])) :=
  frame_leads rfl (by decide) <|
    .append (.append (.append (.append (.lit rfl (by decide) <| .escaped rfl <|
      .lit (append_ofList (append_ofList (append_ofList rfl rfl) rfl) rfl) (by decide) <|
      .raw rfl <|
      .lit (append_ofList (append_ofList rfl rfl) rfl) (by decide) <| .raw rfl <|
      .lit (append_ofList (append_ofList rfl rfl) rfl) (by decide) <| .raw rfl <|
      .lit (append_ofList (append_ofList rfl rfl) rfl) (by decide) <| .raw rfl <|
      .lit rfl (by decide) .nil) (meetingBlock_leads ctx.meetingUrl)) break_leads)
      ctaButton_leads) end_leads

theorem leads_build (env : MailEnv) (m : MailRequest) :
    (m.build env).html.Leads .outside .outside ((m.contents env).map Prod.fst) := by
  cases m with
  | accountSuspended name reason => exact buildAccountSuspended_leads name reason
  | accountReactivated name => exact buildAccountReactivated_leads env name
  | profileApproved name => exact buildProfileApproved_leads env name
  | newApplicationNotice applicantName headline =>
    exact buildNewApplicationNotice_leads env applicantName headline
  | profileRejected name reason => exact buildProfileRejected_leads env name reason
  | verifyEmail firstName token => exact buildVerifyEmail_leads env firstName token
  | resetPasswordEmail firstName token => exact buildResetPasswordEmail_leads env firstName token
  | bookingConfirmation ctx => exact buildBookingConfirmation_leads env ctx
  | bookingCancellation ctx cancelledBy reason =>
    refine (buildBookingCancellation_leads env ctx cancelledBy reason).congr ?_
    rw [MailRequest.contents]
    cases reason.filter (· ≠ "") <;> rfl
  | bookingReschedule ctx previousStartAt =>
    refine (buildBookingReschedule_leads env ctx previousStartAt).congr ?_
    simp only [MailRequest.contents, List.map_cons, List.map_append, List.append_nil]
    rfl
  | bookingReminder ctx => exact buildBookingReminder_leads env ctx

/-- **Mails are read as they are meant.**  When the address of the client and the link to the
conference have no special characters, a reader goes over the whole text of a mail and ends outside
all elements.  What it reads is the template, whatever the values are, with every value at its place
as it is. -/
theorem mail_read (env : MailEnv) (m : MailRequest) (hclient : Plain (units env.clientUrl))
    (hmeeting : ∀ url ∈ m.meetingUrl, Plain (units url)) :
    ∃ k, mailText.outline .outside ((m.build env).html.map Piece.shape) = some (.outside, k) ∧
      k.filterMap Sum.getRight? = (m.contents env).map Prod.fst ∧
      mailReader.read .outside (m.build env).text =
        some (.outside, mailText.fill k ((m.contents env).map fun x => units x.2)) := by
  obtain ⟨k, houtline, hplaces⟩ := leads_build env m
  refine ⟨k, houtline, hplaces, ?_⟩
  rw [← values_build]
  exact Interpolation.read_render (fitting_build m hclient hmeeting) houtline

/-- A client, in English. -/
def sampleMailEnv : MailEnv := ⟨"http://localhost:5173", .english, fun _ => Zone.utc⟩

/-- The confirmation of a booking with a conference, for somebody whose name is markup. -/
def sampleConfirmation : MailRequest :=
  .bookingConfirmation ⟨255, "<b>Ada</b>", "\"Q\" & Co", 1767603600500, 45, 123456, .usd,
    ⟨"Europe/Berlin", by decide⟩, some "https://meet.google.com/abc-defg-hij"⟩

theorem mail_read_confirmation :
    (Plain (units sampleMailEnv.clientUrl) ∧
      ∀ url ∈ sampleConfirmation.meetingUrl, Plain (units url)) ∧
    ∃ k, mailText.outline .outside ((sampleConfirmation.build sampleMailEnv).html.map Piece.shape) =
        some (.outside, k) ∧
      k.filterMap Sum.getRight? = (sampleConfirmation.contents sampleMailEnv).map Prod.fst ∧
      mailReader.read .outside (sampleConfirmation.build sampleMailEnv).text =
        some (.outside, mailText.fill k
          ((sampleConfirmation.contents sampleMailEnv).map fun x => units x.2)) :=
  have hurl : ∀ url ∈ sampleConfirmation.meetingUrl, Plain (units url) := by
    intro url hurl
    obtain rfl := Option.some.inj hurl
    decide
  ⟨⟨by decide, hurl⟩,
    mail_read sampleMailEnv sampleConfirmation (by decide) hurl⟩

end

end HrBooking
