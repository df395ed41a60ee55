import HrBooking.Account.Session
import HrBooking.Booking.Reminder
import HrBooking.Codec.Double
import HrBooking.Codec.Percent
import HrBooking.Mail.Escape
import HrBooking.Text.Html

/-!
# The mails

`services/email/templates` : every function that makes a mail, with the texts it is made from.  A
template literal is a list of pieces; what stands in a hole is escaped or put in as it is.

* `mailText` : how values are written into the literals, and what a reader makes of them.
* `formatInZone`, `formatCents` : the time and the price as texts.
* `BookingTemplates`, `HrProfileTemplates`, `AccountTemplates`, `AuthTemplates` : the four files.
* `MailRequest` : the mails that are asked for, with the templates that answer them.
-/

namespace HrBooking

/-! ### Template literals -/

/-- How a value is put into a template literal. -/
inductive Inserted where
  /-- by the escape function of the file -/
  | escaped
  | verbatim
  deriving DecidableEq

/-- A template literal with its values. -/
abbrev Literal := List (Piece CodeUnit Inserted (List CodeUnit))

/-- The references that the escape functions write. -/
def mailReferences : List (List CodeUnit × CodeUnit) :=
  [(units "amp", unit '&'), (units "lt", unit '<'), (units "gt", unit '>'),
    (units "quot", unit '"'), (units "#039", unit '\'')]

/-- A reader of mails. -/
def mailReader : Reader HtmlState CodeUnit HtmlEvent := html mailReferences

theorem wordOf_htmlEntities (u : CodeUnit) :
    wordOf htmlEntities.entries u = [u] ∧ isPlainUnit u = true ∨
      ∃ name, wordOf htmlEntities.entries u = unit '&' :: name ++ [unit ';'] ∧
        unit ';' ∉ name ∧ mailReferences.find? (fun r => r.1 = name) = some (name, u) := by
  have hentries : ∀ p ∈ htmlEntities.entries, ∃ r ∈ mailReferences,
      p.2 = unit '&' :: r.1 ++ [unit ';'] ∧ unit ';' ∉ r.1 ∧
        mailReferences.find? (fun r' => r'.1 = r.1) = some (r.1, p.1) := by decide
  have hspecial : [unit '&', unit '<', unit '"'] ⊆ htmlEntities.entries.map Prod.fst := by
    simp only [List.cons_subset, List.nil_subset, and_true]
    decide
  rcases wordOf_cases htmlEntities.entries u with ⟨p, hp, rfl, hword⟩ | ⟨hnone, hword⟩
  · obtain ⟨r, -, heq, hname, hfind⟩ := hentries p hp
    exact .inr ⟨r.1, hword.trans heq, hname, hfind⟩
  · refine .inl ⟨hword, ?_⟩
    have hne : ∀ c ∈ [unit '&', unit '<', unit '"'], u ≠ c := by
      rintro c hc rfl
      obtain ⟨p, hp, heq⟩ := List.mem_map.1 (hspecial hc)
      exact hnone p hp heq
    simp [isPlainUnit, hne]

theorem mailReader_esc {p : HtmlPlace} {elements : List (List CodeUnit)} (v : List CodeUnit) :
    mailReader.read ⟨.within p, elements⟩ (BookingTemplates.esc v) =
      some (⟨.within p, elements⟩, v.map (.character p)) := by
  change mailReader.read _ (htmlEntities.escape v) = _
  rw [Escaping.escape_eq_flatMap]
  exact html_read_flatMap wordOf_htmlEntities v

/-- The literals of the templates; a text that is not escaped has to be plain. -/
def mailText : Interpolation mailReader Inserted (List CodeUnit) where
  write
    | .escaped, v => BookingTemplates.esc v
    | .verbatim, v => v
  isOpen q :=
    match q.mode with
    | .within _ => true
    | _ => false
  events q v :=
    match q.mode with
    | .within p => v.map (.character p)
    | _ => []
  Fits
    | .escaped, _ => True
    | .verbatim, v => Plain v
  read_write := by
    rintro ⟨mode, elements⟩ h v hopen hfits
    cases mode with
    | within p =>
      cases h with
      | escaped => exact mailReader_esc v
      | verbatim => exact html_read_plain hfits
    | _ => exact absurd hopen Bool.false_ne_true

/-- Fixed text. -/
def lit (s : String) : Piece CodeUnit Inserted (List CodeUnit) := .fixed (units s)

/-- `${esc(value)}` -/
def escaped (value : String) : Piece CodeUnit Inserted (List CodeUnit) :=
  .hole .escaped (units value)

/-- `${value}` -/
def raw (value : String) : Piece CodeUnit Inserted (List CodeUnit) := .hole .verbatim (units value)

/-! ### Times and prices -/

/-- The short names of the days of the week, from Sunday, and of the months. -/
structure Locale where
  weekday : Fin 7 → String
  month : Fin 12 → String
  plain_weekday : ∀ i, Plain (units (weekday i))
  plain_month : ∀ i, Plain (units (month i))
  /-- A name is one word. -/
  space_notMem_weekday : ∀ i, ' ' ∉ (weekday i).toList
  space_notMem_month : ∀ i, ' ' ∉ (month i).toList
  month_injective : Function.Injective month

/-- The English names. -/
def Locale.english : Locale where
  weekday := ["Sun", "Mon", "Tue", "Wed", "Thu", "Fri", "Sat"].get
  month :=
    ["Jan", "Feb", "Mar", "Apr", "May", "Jun", "Jul", "Aug", "Sep", "Oct", "Nov", "Dec"].get
  plain_weekday := by decide
  plain_month := by decide
  space_notMem_weekday := by decide
  space_notMem_month := by decide
  month_injective := List.nodup_iff_injective_get.1 (by decide)

/-- The name of a day of the week, counted from 0. -/
def Locale.weekdayName (l : Locale) (n : ℕ) : String :=
  l.weekday ⟨n % 7, Nat.mod_lt n (Nat.succ_pos 6)⟩

/-- The name of a month, counted from 1. -/
def Locale.monthName (l : Locale) (n : ℕ) : String :=
  l.month ⟨(n - 1) % 12, Nat.mod_lt (n - 1) (Nat.succ_pos 11)⟩

/-- The minute of the day that the clock of the zone shows. -/
def minuteOfDay (z : Zone) (date : ℤ) : ℕ := (z.wall date % msPerDay).toNat / 60000

/-- `formatInZone` : `EEE d LLL yyyy, HH:mm` on the clock of the zone. -/
def formatInZone (l : Locale) (z : Zone) (date : ℤ) : String :=
  let c := Civil.ofDay (z.day date)
  l.weekdayName (Civil.weekday (z.day date)) ++ " " ++
    String.ofList (Nat.toDigits 10 c.day) ++ " " ++ l.monthName c.month ++ " " ++
    String.ofList (yearText c.year) ++ ", " ++
    String.ofList (padNumeral 10 2 (minuteOfDay z date / 60)) ++ ":" ++
    String.ofList (padNumeral 10 2 (minuteOfDay z date % 60))

/-- What stands before an amount of the currency. -/
def Currency.sign : Currency → String
  | .usd => "$"
  | .eur => "€"
  | .gbp => "£"
  | .bdt => "BDT\u00A0"
  | .inr => "₹"
  | .cad => "CA$"
  | .aud => "A$"

/-- A number with its digits in groups of three. -/
def groupDigits (n : ℕ) : List Char :=
  if n < 1000 then Nat.toDigits 10 n
  else groupDigits (n / 1000) ++ ',' :: padNumeral 10 3 (n % 1000)

/-- The hundredths that `Intl.NumberFormat` shows of `cents / 100`, which is a double. -/
def shownCents (cents : ℕ) : ℕ := (round (100 * nearestFloat 53 (cents / 100))).toNat

/-- `formatCents` : the price as `Intl.NumberFormat` shows it in American English. -/
def formatCents (cents : ℕ) (currency : Currency) : String :=
  currency.sign ++ String.ofList (groupDigits (shownCents cents / 100)) ++ "." ++
    String.ofList (padNumeral 10 2 (shownCents cents % 100))

/-! ### Templates -/

/-- What the templates read of the surroundings. -/
structure MailEnv where
  /-- `CLIENT_URL` -/
  clientUrl : String
  locale : Locale
  zone : TimezoneName → Zone

/-- A mail without its address. -/
structure BuiltMail where
  subject : String
  html : Literal

/-- The text of a mail. -/
def BuiltMail.text (mail : BuiltMail) : List CodeUnit := mailText.render mail.html

/-- `layout` of the template files; the last line says why the mail was sent. -/
def mailLayout (why : String) (greeting body : Literal) : Literal :=
  [lit ("\n    <div style=\"font-family:Arial,sans-serif;max-width:560px;margin:0 auto;" ++
    "padding:24px;\">\n      <h2 style=\"color:#1f2937;\">")] ++ greeting ++
  [lit "</h2>\n      "] ++ body ++
  [lit ("\n      <hr style=\"border:none;border-top:1px solid #e5e7eb;margin:24px 0 12px;\" />" ++
    "\n      <p style=\"color:#9ca3af;font-size:12px;\">HR Booking · You received this because "),
    lit why, lit "</p>\n    </div>"]

/-- `ctaButton` -/
def ctaButton (url label : String) : Literal :=
  [lit "\n    <p style=\"margin:16px 0;\">\n      <a href=\"", raw url,
    lit ("\" style=\"display:inline-block;background:#2563eb;color:#fff;padding:12px 24px;" ++
    "border-radius:6px;text-decoration:none;\">"), raw label, lit "</a>\n    </p>"]

/-- The greeting of a recipient. -/
def greet (name : String) : Literal := [lit "Hi ", escaped name, lit ","]

namespace AccountTemplates

def layout : Literal → Literal → Literal := mailLayout "of a change to your account."

def buildAccountSuspended (name reason : String) : BuiltMail where
  subject := "Your HR Booking account has been suspended"
  html := layout (greet name)
    [lit ("\n        <p>Your account has been suspended by an administrator. " ++
        "You will not be able to log in until it is reactivated.</p>" ++
        "\n        <p style=\"color:#6b7280;font-size:13px;\">Reason: "), escaped reason,
      lit ("</p>\n        <p>If you believe this was a mistake, reply to this email " ++
        "and we'll take a look.</p>\n      ")]

def buildAccountReactivated (env : MailEnv) (name : String) : BuiltMail where
  subject := "Your HR Booking account has been reactivated"
  html := layout (greet name)
    [lit ("\n        <p>Good news — your account has been reactivated. " ++
        "You can log in again right away.</p>" ++
        "\n        <p style=\"margin:16px 0;\">\n          <a href=\""), raw env.clientUrl,
      lit ("/login\" style=\"display:inline-block;background:#2563eb;color:#fff;" ++
        "padding:12px 24px;border-radius:6px;text-decoration:none;\">Log in</a>" ++
        "\n        </p>\n      ")]

end AccountTemplates

namespace HrProfileTemplates

def layout : Literal → Literal → Literal :=
  mailLayout "you have a consultant profile on our platform."

def buildProfileApproved (env : MailEnv) (name : String) : BuiltMail where
  subject := "Your HR consultant profile has been approved"
  html := layout (greet name)
    ([lit ("\n        <p>We're pleased to let you know that your HR consultant profile has been " ++
        "reviewed and approved. It is now live in our public directory and ready to accept " ++
        "consultation bookings.</p>\n        <p>Thank you for joining HR Booking — " ++
        "we look forward to helping you connect with clients.</p>\n        ")] ++
      ctaButton (env.clientUrl ++ "/profile/manage") "View your profile" ++ [lit "\n      "])

def buildNewApplicationNotice (env : MailEnv) (applicantName headline : String) : BuiltMail where
  subject := "New HR application awaiting review"
  html := layout [lit "Hi,"]
    ([lit "\n        <p><strong>", escaped applicantName,
      lit ("</strong> has submitted an HR consultant application for review.</p>" ++
        "\n        <p style=\"color:#6b7280;font-size:13px;\">Headline: "), escaped headline,
      lit "</p>\n        "] ++
      ctaButton (env.clientUrl ++ "/admin/hr") "Review application" ++ [lit "\n      "])

def buildProfileRejected (env : MailEnv) (name reason : String) : BuiltMail where
  subject := "Your HR profile needs changes"
  html := layout (greet name)
    ([lit ("\n        <p>We reviewed your consultant profile and it needs some changes before " ++
        "it can go live.</p>" ++
        "\n        <p style=\"color:#6b7280;font-size:13px;\">Reviewer note: "), escaped reason,
      lit ("</p>\n        <p>You can update your profile and resubmit it for review " ++
        "at any time.</p>\n        ")] ++
      ctaButton (env.clientUrl ++ "/profile") "Edit your profile" ++ [lit "\n      "])

end HrProfileTemplates

namespace AuthTemplates

/-- The link of a mail: a page of the client and the token it is opened with. -/
def tokenUrl (env : MailEnv) (page token : String) : String :=
  env.clientUrl ++ page ++ "?token=" ++ encodeURIComponent token

/-- The two mails of `auth.templates.ts`: what they say, and how long the link is good for. -/
def linkMail (firstName url say button expiry : String) : Literal :=
  [lit ("\n      <div style=\"font-family: Arial, sans-serif; max-width: 560px; margin: 0 auto; " ++
      "padding: 24px;\">\n        <h2 style=\"color: #1f2937;\">Hi "), escaped firstName,
    lit ",</h2>\n        <p>", lit say, lit "</p>\n        <p><a href=\"", raw url,
    lit ("\" style=\"display:inline-block; background:#2563eb; color:#fff; padding:12px 24px; " ++
      "border-radius:6px; text-decoration:none;\">"), lit button,
    lit ("</a></p>\n        <p style=\"color:#6b7280; font-size:13px;\">If the button does not " ++
      "work, copy this link into your browser:<br/>"), raw url,
    lit "</p>\n        <p style=\"color:#6b7280; font-size:13px;\">This link expires in ",
    lit expiry, lit "</p>\n      </div>"]

def buildVerifyEmail (env : MailEnv) (firstName token : String) : BuiltMail where
  subject := "Verify your email address"
  html := linkMail firstName (tokenUrl env "/verify-email" token)
    "Welcome to HR Booking. Please confirm your email address to activate your account."
    "Verify email" "24 hours."

def buildResetPasswordEmail (env : MailEnv) (firstName token : String) : BuiltMail where
  subject := "Reset your password"
  html := linkMail firstName (tokenUrl env "/reset-password" token)
    "We received a request to reset your password. Click below to choose a new one."
    "Reset password" "1 hour. If you did not request this, you can safely ignore this email."

end AuthTemplates

/-- The one who cancelled a booking, as the constants have it. -/
def CancelledBy.text : CancelledBy → String
  | .user => "USER"
  | .hr => "HR"
  | .admin => "ADMIN"
  | .system => "SYSTEM"

namespace BookingTemplates

def layout : Literal → Literal → Literal := mailLayout "you have a booking on our platform."

/-- `detailsTable` -/
def detailsTable (when' : String) (duration : ℕ) (fee timezone : String) : Literal :=
  [lit ("\n    <table style=\"border-collapse:collapse;margin:12px 0;\">" ++
      "\n      <tr><td style=\"padding:4px 12px 4px 0;color:#6b7280;\">When</td>" ++
      "<td style=\"padding:4px 0;\">"), raw when',
    lit ("</td></tr>" ++
      "\n      <tr><td style=\"padding:4px 12px 4px 0;color:#6b7280;\">Timezone</td>" ++
      "<td style=\"padding:4px 0;\">"), escaped timezone,
    lit ("</td></tr>" ++
      "\n      <tr><td style=\"padding:4px 12px 4px 0;color:#6b7280;\">Duration</td>" ++
      "<td style=\"padding:4px 0;\">"), raw (toString duration),
    lit (" min</td></tr>" ++
      "\n      <tr><td style=\"padding:4px 12px 4px 0;color:#6b7280;\">Fee</td>" ++
      "<td style=\"padding:4px 0;\">"), raw fee, lit "</td></tr>\n    </table>"]

/-- `meetingBlock` -/
def meetingBlock (meetingUrl : Option String) : Literal :=
  match meetingUrl.filter (· ≠ "") with
  | none => []
  | some url =>
    [lit "\n    <p style=\"margin:12px 0;\">\n      <a href=\"", raw url,
      lit ("\" style=\"display:inline-block;background:#059669;color:#fff;padding:10px 20px;" ++
        "border-radius:6px;text-decoration:none;\">Join meeting</a>\n    </p>" ++
        "\n    <p style=\"color:#6b7280;font-size:13px;\">Or paste this link: "), raw url,
      lit "</p>"]

def bookingUrl (env : MailEnv) (bookingId : ObjectId) : String :=
  env.clientUrl ++ "/dashboard/bookings/" ++ bookingId.text

/-- The time of a booking, as its recipient is told. -/
def whenText (env : MailEnv) (ctx : BookingContext) (date : ℤ) : String :=
  formatInZone env.locale (env.zone ctx.recipientTimezone) date

/-- The table of a booking, the link to its conference and the one to its page. -/
def bookingDetails (env : MailEnv) (ctx : BookingContext) : Literal :=
  [lit "\n        "] ++ detailsTable (whenText env ctx ctx.startAt) ctx.durationMinutes
    (formatCents ctx.priceCents ctx.currency) ctx.recipientTimezone.val ++ [lit "\n        "] ++
    meetingBlock ctx.meetingUrl ++ [lit "\n        "] ++
    ctaButton (bookingUrl env ctx.bookingId) "View booking" ++ [lit "\n      "]

def buildBookingConfirmation (env : MailEnv) (ctx : BookingContext) : BuiltMail where
  subject := "Booking confirmed — " ++ whenText env ctx ctx.startAt
  html := layout (greet ctx.recipientName)
    ([lit "\n        <p>Your consultation with <strong>", escaped ctx.counterpartName,
      lit "</strong> is confirmed.</p>"] ++ bookingDetails env ctx)

def buildBookingCancellation (env : MailEnv) (ctx : BookingContext) (cancelledBy : CancelledBy)
    (reason : Option String) : BuiltMail where
  subject := "Booking cancelled — " ++ whenText env ctx ctx.startAt
  html := layout (greet ctx.recipientName)
    ([lit "\n        <p>The consultation with <strong>", escaped ctx.counterpartName,
      lit "</strong> on ", raw (whenText env ctx ctx.startAt),
      lit " has been cancelled by the ", escaped (toLowerCase cancelledBy.text),
      lit ".</p>\n        "] ++
      (match reason.filter (· ≠ "") with
        | none => []
        | some reason =>
          [lit "<p style=\"color:#6b7280;font-size:13px;\">Reason: ", escaped reason,
            lit "</p>"]) ++
      [lit "\n        "] ++ ctaButton (bookingUrl env ctx.bookingId) "View details" ++
      [lit "\n      "])

def buildBookingReschedule (env : MailEnv) (ctx : BookingContext) (previousStartAt : ℤ) :
    BuiltMail where
  subject := "Booking rescheduled — " ++ whenText env ctx ctx.startAt
  html := layout (greet ctx.recipientName)
    ([lit "\n        <p>Your consultation with <strong>", escaped ctx.counterpartName,
      lit ("</strong> has been moved.</p>" ++
        "\n        <table style=\"border-collapse:collapse;margin:12px 0;\">" ++
        "\n          <tr><td style=\"padding:4px 12px 4px 0;color:#6b7280;\">Was</td>" ++
        "<td style=\"padding:4px 0;text-decoration:line-through;color:#9ca3af;\">"),
      raw (whenText env ctx previousStartAt),
      lit ("</td></tr>" ++
        "\n          <tr><td style=\"padding:4px 12px 4px 0;color:#6b7280;\">Now</td>" ++
        "<td style=\"padding:4px 0;font-weight:600;\">"), raw (whenText env ctx ctx.startAt),
      lit ("</td></tr>" ++
        "\n          <tr><td style=\"padding:4px 12px 4px 0;color:#6b7280;\">Duration</td>" ++
        "<td style=\"padding:4px 0;\">"), raw (toString ctx.durationMinutes),
      lit (" min</td></tr>" ++
        "\n          <tr><td style=\"padding:4px 12px 4px 0;color:#6b7280;\">Fee</td>" ++
        "<td style=\"padding:4px 0;\">"), raw (formatCents ctx.priceCents ctx.currency),
      lit "</td></tr>\n        </table>\n        "] ++ meetingBlock ctx.meetingUrl ++
      [lit "\n        "] ++ ctaButton (bookingUrl env ctx.bookingId) "View booking" ++
      [lit "\n      "])

def buildBookingReminder (env : MailEnv) (ctx : BookingContext) : BuiltMail where
  subject := "Reminder: consultation in 30 minutes — " ++ whenText env ctx ctx.startAt
  html := layout (greet ctx.recipientName)
    ([lit "\n        <p>Your consultation with <strong>", escaped ctx.counterpartName,
      lit "</strong> starts in <strong>30 minutes</strong>.</p>"] ++ bookingDetails env ctx)

end BookingTemplates

/-! ### Requests -/

/-- A mail that a service asks for. -/
inductive MailRequest where
  | accountSuspended (name reason : String)
  | accountReactivated (name : String)
  | profileApproved (name : String)
  | newApplicationNotice (applicantName headline : String)
  | profileRejected (name reason : String)
  | verifyEmail (firstName token : String)
  | resetPasswordEmail (firstName token : String)
  | bookingConfirmation (ctx : BookingContext)
  | bookingCancellation (ctx : BookingContext) (cancelledBy : CancelledBy) (reason : Option String)
  | bookingReschedule (ctx : BookingContext) (previousStartAt : ℤ)
  | bookingReminder (ctx : BookingContext)

/-- The template that answers a request. -/
def MailRequest.build (env : MailEnv) : MailRequest → BuiltMail
  | accountSuspended name reason => AccountTemplates.buildAccountSuspended name reason
  | accountReactivated name => AccountTemplates.buildAccountReactivated env name
  | profileApproved name => HrProfileTemplates.buildProfileApproved env name
  | newApplicationNotice applicantName headline =>
    HrProfileTemplates.buildNewApplicationNotice env applicantName headline
  | profileRejected name reason => HrProfileTemplates.buildProfileRejected env name reason
  | verifyEmail firstName token => AuthTemplates.buildVerifyEmail env firstName token
  | resetPasswordEmail firstName token => AuthTemplates.buildResetPasswordEmail env firstName token
  | bookingConfirmation ctx => BookingTemplates.buildBookingConfirmation env ctx
  | bookingCancellation ctx cancelledBy reason =>
    BookingTemplates.buildBookingCancellation env ctx cancelledBy reason
  | bookingReschedule ctx previousStartAt =>
    BookingTemplates.buildBookingReschedule env ctx previousStartAt
  | bookingReminder ctx => BookingTemplates.buildBookingReminder env ctx

end HrBooking
