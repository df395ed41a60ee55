import HrBooking.Machine.Basic
import HrBooking.Slot.Listing
import HrBooking.Backend.Race
import HrBooking.Serial.Gate
import HrBooking.Machine.Ledger
import HrBooking.Meeting.Account
import HrBooking.Serial.Removal
import HrBooking.Serial.Outage
import HrBooking.Meeting.Conference
import HrBooking.Backend.Refine
import HrBooking.Backend.Cancellation
import HrBooking.Backend.Duplicate
import HrBooking.Backend.Teardown
import HrBooking.Serial.Alone
import HrBooking.Backend.Client
import HrBooking.Backend.Frozen
import HrBooking.Backend.Move
import HrBooking.Serial.Failure
import HrBooking.Serial.Fee
import HrBooking.Machine.Upkeep
import HrBooking.Meeting.Mirror
import HrBooking.Backend.Outlook
import HrBooking.Serial.Worker
import HrBooking.Serial.Converge
import HrBooking.Account.Record
import HrBooking.Account.Session
import HrBooking.Account.Deletion
import HrBooking.Machine.Since
import HrBooking.Account.History
import HrBooking.Machine.Parties
import HrBooking.Account.Rotation
import HrBooking.Profile.Onboarding
import HrBooking.Account.Cascade
import HrBooking.Account.Teardown
import HrBooking.Serial.Apart
import HrBooking.Profile.Document
import HrBooking.Profile.Review
import HrBooking.Profile.Content
import HrBooking.Profile.Commit
import HrBooking.Account.Suspension
import HrBooking.Account.Credentials
import HrBooking.Account.Reset
import HrBooking.Account.Lockout
import HrBooking.Account.Guessing
import HrBooking.Booking.Reminder
import HrBooking.Serial.Reminder
import HrBooking.Backend.Reminder
import HrBooking.Account.Privacy
import HrBooking.Backend.Winner
import HrBooking.Serial.Notice
import HrBooking.Calendar.Transition
import HrBooking.Calendar.Walk
import HrBooking.Profile.Atomic
import HrBooking.Slot.Window
import HrBooking.Slot.Grid
import HrBooking.Slot.Shift
import HrBooking.Slot.Buffer
import HrBooking.Store.Paging
import HrBooking.Booking.Listing
import HrBooking.Text.Units
import HrBooking.Text.Escape
import HrBooking.Mail.Escape
import HrBooking.Regex.Lexer
import HrBooking.Regex.Parser
import HrBooking.Regex.Matcher
import HrBooking.Profile.Search
import HrBooking.Profile.Listing
import HrBooking.Codec.Base64
import HrBooking.Codec.Utf8
import HrBooking.Account.Secret
import HrBooking.Site.Record
import HrBooking.Site.Service
import HrBooking.Site.System
import HrBooking.Site.Trail
import HrBooking.Site.Dangling
import HrBooking.OAuth.Client
import HrBooking.OAuth.Service
import HrBooking.OAuth.Identity
import HrBooking.OAuth.Race
import HrBooking.Token.Scheme
import HrBooking.Token.Service
import HrBooking.Token.Front
import HrBooking.Text.Html
import HrBooking.Codec.Percent
import HrBooking.Mail.Template
import HrBooking.Mail.Reading
import HrBooking.Mail.Lossless
import HrBooking.Meeting.CalendarClient
import HrBooking.Booking.Notice
import HrBooking.Machine.Replica
import HrBooking.Serial.Mailbox
