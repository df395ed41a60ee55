import HrBooking.Account.Credentials
import HrBooking.Account.Privacy

/-!
# The whole site

The `Report`, `Specialization` and `AuditLog` documents beside accounts, profiles and bookings, and
the state that all requests share.

* `Report`, `Specialization`, `AuditRecord` : the documents.
* `OAuthState` : the signed state of a consent URL.
* `Site` : the state; `Site.market` is the part the profile services are about.
* `Reply` : what a request answers and the state it leaves.
-/

namespace HrBooking

/-! ### Constants -/

/-- `AUDIT_ACTIONS` -/
inductive AuditAction where
  | userSuspended | userReactivated | userDeleted
  | hrProfileApproved | hrProfileRejected
  | bookingCancelled
  | specializationCreated | specializationUpdated | specializationDeleted
  | reportResolved
  deriving DecidableEq

/-- `AUDIT_RESOURCE_TYPES` -/
inductive AuditResourceType where
  | user | hrProfile | booking | specialization | report
  deriving DecidableEq

/-- `REPORT_REASONS` -/
inductive ReportReason where
  | inappropriateContent | misleadingInfo | spam | harassment | other
  deriving DecidableEq

/-- `REPORT_STATUS` -/
inductive ReportStatus where
  | pending | dismissed | actioned
  deriving DecidableEq

/-- A text whose length is between two bounds. -/
abbrev BoundedText (min max : ℕ) := {s : String // min ≤ utf16Length s ∧ utf16Length s ≤ max}

/-- `IntegrationUnavailableError` -/
def AppError.integrationUnavailable (message : String) : AppError :=
  ⟨503, "INTEGRATION_UNAVAILABLE", message⟩

/-! ### Documents -/

/-- A complaint about a profile. -/
structure Report where
  id : ObjectId
  reporterId : ObjectId
  hrProfileId : ObjectId
  hrUserId : ObjectId
  reason : ReportReason
  details : Option (BoundedText 0 500)
  status : ReportStatus
  resolvedBy : Option ObjectId
  resolvedAt : Option ℤ
  resolutionNotes : Option (BoundedText 0 500)
  deriving DecidableEq

/-- No index on the reports is unique. -/
instance : Document Report ObjectId ObjectId := ⟨Report.id, fun _ => none⟩

/-- A field of consulting that profiles name by its slug. -/
structure Specialization where
  id : ObjectId
  slug : String
  name : BoundedText 2 60
  description : Option (BoundedText 0 300)
  isActive : Bool
  deriving DecidableEq

/-- The index on `slug` is unique. -/
instance : Document Specialization ObjectId String :=
  ⟨Specialization.id, fun specialization => some specialization.slug⟩

/-- An entry of the audit log. -/
structure AuditRecord where
  actorId : ObjectId
  actorRole : UserRole
  action : AuditAction
  resourceType : AuditResourceType
  resourceId : ObjectId
  metadata : List (String × String)
  deriving DecidableEq

/-- The entry of a cancellation, as the log has it. -/
def AuditEntry.toRecord (entry : AuditEntry) : AuditRecord where
  actorId := entry.actorId
  actorRole := entry.actorRole
  action := .bookingCancelled
  resourceType := .booking
  resourceId := entry.bookingId
  metadata := ((entry.reason.filter fun reason => reason ≠ "").map (Prod.mk "reason")).toList

/-- What the signed state of a consent URL carries: the account, and the second it expires in. -/
structure OAuthState where
  userId : ObjectId
  exp : ℤ
  deriving DecidableEq

/-- `document.save()` ; a document that is gone cannot be saved. -/
def Collection.save {D ι κ : Type} [Document D ι κ] [DecidableEq ι] [DecidableEq κ]
    (c : Collection D) (i : ι) (f : D → D) : Except AppError (Collection D) :=
  match c.findById i with
  | none => .error .internal
  | some _ =>
    match c.update i f with
    | none => .error .internal
    | some c => .ok c

theorem Collection.save_of_mem {D ι κ : Type} [Document D ι κ] [DecidableEq ι] [DecidableEq κ]
    {c : Collection D} {d : D} {f : D → D} (hd : d ∈ c)
    (hid : Document.docId (f d) = Document.docId d)
    (hkey : Document.indexKey (f d) = Document.indexKey d) :
    ∃ c', c.save (Document.docId d) f = .ok c' ∧
      ∀ e, e ∈ c' ↔ (e ∈ c ∧ Document.docId e ≠ Document.docId d) ∨ e = f d := by
  obtain ⟨c', hupdate, hmem⟩ := Collection.update_of_mem hd hid hkey
  have hfind : c.findById (Document.docId d) = some d := Collection.findById_of_mem hd
  exact ⟨c', by simp only [save, hfind, hupdate], hmem⟩

theorem Collection.mem_save {D ι κ : Type} [Document D ι κ] [DecidableEq ι] [DecidableEq κ]
    {c c' : Collection D} {i : ι} {f : D → D} (h : c.save i f = .ok c') {e : D} (he : e ∈ c') :
    e ∈ c ∨ ∃ d ∈ c, e = f d := by
  unfold Collection.save at h
  split at h
  · cases h
  · split at h
    · cases h
    · rename_i hupdate
      obtain rfl := Except.ok.inj h
      rcases (Collection.mem_update hupdate).1 he with ⟨he, -⟩ | ⟨d, hd, -, rfl⟩
      · exact .inl he
      · exact .inr ⟨d, hd, rfl⟩

/-! ### The state -/

/-- The state of the site. -/
structure Site where
  platform : Platform
  /-- The profiles with their content; the booking services read a part of them. -/
  documents : Collection HRProfileDocument
  reports : Collection Report
  specializations : Collection Specialization
  /-- The audit log; the entries of cancellations are with the bookings. -/
  records : List AuditRecord
  /-- The states of the consent URLs that were issued. -/
  states : List OAuthState

/-- What is configured, and what libraries do. -/
structure Env where
  calendar : TimezoneName → Calendar
  crypto : Crypto
  isGoogleConfigured : Bool

/-- What a request answers and the state it leaves. -/
abbrev Reply (α : Type) := Except AppError α × Site

/-- Go on after a call that answers. -/
def Reply.andThen {α β : Type} (x : Reply α) (f : α → Site → Reply β) : Reply β :=
  match x with
  | (.ok a, s) => f a s
  | (.error e, s) => (.error e, s)

/-- Only whether the call answers. -/
def Reply.done {α : Type} (x : Reply α) : Reply Unit := (x.1.map fun _ => (), x.2)

namespace Site

/-- Answer without a write, or refuse. -/
def reply {α : Type} (s : Site) (x : Except AppError α) : Reply α := (x, s)

/-- A call of an account service. -/
def call {α : Type} (s : Site) (x : Platform → Answer α) : Reply α :=
  ((x s.platform).1, { s with platform := (x s.platform).2 })

/-- The slugs of the specializations on offer. -/
def activeSlugs (s : Site) : List String :=
  (s.specializations.docs.filter Specialization.isActive).map Specialization.slug

/-- The part of the state that the profile services are about. -/
def market (s : Site) : Market := ⟨s.platform, s.activeSlugs, s.documents⟩

/-- A call of a profile service. -/
def onDirectory {α : Type} (s : Site) (x : Directory → Except AppError α × Directory) : Reply α :=
  let answer := x s.market.directory
  let m := s.market.withDirectory answer.2
  (answer.1, { s with platform := m.platform, documents := m.documents })

/-- `AuditLog.find` -/
def auditLog (s : Site) : List AuditRecord :=
  s.platform.world.auditLog.map AuditEntry.toRecord ++ s.records

/-- `recordAuditLog` ; a failure is swallowed. -/
def recordAuditLog (s : Site) (fails : Bool) (record : AuditRecord) : Site :=
  if fails then s else { s with records := s.records ++ [record] }

/-- Identities are given to documents. -/
def issue (s : Site) (ids : List ObjectId) : Site :=
  { s with
    platform := s.platform.onWorld fun w => { w with issuedIds := ids ++ w.issuedIds } }

/-- The account exists. -/
def HasUser (s : Site) (id : ObjectId) : Prop := ∃ u ∈ s.platform.users, u.id = id

/-- The account exists and is a consultant's. -/
def HasConsultant (s : Site) (id : ObjectId) : Prop :=
  ∃ u ∈ s.platform.users, u.id = id ∧ u.role = .hr

instance (s : Site) (id : ObjectId) : Decidable (s.HasUser id) :=
  inferInstanceAs (Decidable (∃ u ∈ s.platform.users, _))

instance (s : Site) (id : ObjectId) : Decidable (s.HasConsultant id) :=
  inferInstanceAs (Decidable (∃ u ∈ s.platform.users, _))

end Site

/-- `recordAuditLog` at the end of a call that answers. -/
def Reply.recorded {α : Type} (x : Reply α) (fails : Bool) (record : α → AuditRecord) : Reply α :=
  x.andThen fun a s => (s.recordAuditLog fails (record a)).reply (.ok a)

@[simp] theorem reply_ok_andThen {α β : Type} (a : α) (f : α → Site → Reply β) (s : Site) :
    (s.reply (.ok a)).andThen f = f a s := rfl

@[simp] theorem reply_error_andThen {α β : Type} (e : AppError) (f : α → Site → Reply β)
    (s : Site) : (s.reply (.error e)).andThen f = s.reply (.error e) := rfl

end HrBooking
