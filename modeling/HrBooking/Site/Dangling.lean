import HrBooking.Site.Reference
import HrBooking.Site.Trail

/-!
# Dangling references

`deleteUser` removes by hand what names an account.  A Google callback is the one request that does
not look its account up: the signed state of a consent URL outlives the account, and the connection
is stored for nobody.

* `Site.NoDangling` : what a document names is stored.
* `CompletesForUser` : a callback is completed only while its account exists.
* `SparesReviewers` : no account is deleted that has reviewed what stays.
* `Site.Grounded` : the invariant; consultants own profiles, schedules and connections, and an
  account that asked for a consent URL is a consultant's while it exists.
* `no_dangling_iff` : no reference dangles exactly when every callback is completed for an account.
* `not_no_dangling` : a consultant is deleted while the consent page is open.
-/

namespace HrBooking

/-! ### What refers -/

/-- What the documents of the site name: `E` holds of all accounts, `H` of the owners of profiles,
schedules and connections, and `R` of those who reviewed a profile or resolved a report. -/
structure Site.Refers (E H R : ObjectId → Prop) (s : Site) : Prop where
  world : s.platform.world.Refers E H
  refreshTokens : ∀ t ∈ s.platform.refreshTokens, E t.userId
  oauthAccounts : ∀ account ∈ s.platform.oauthAccounts, H account.userId
  documents : ∀ profile ∈ s.documents, H profile.userId
  reports : ∀ r ∈ s.reports, E r.reporterId ∧ E r.hrUserId
  reviewers : ∀ profile ∈ s.documents, ∀ i ∈ profile.reviewedBy, R i
  resolvers : ∀ r ∈ s.reports, ∀ i ∈ r.resolvedBy, R i

/-- **Every reference is to a stored document**; of those who reviewed a profile or resolved a
report this is asked only if `stamps` holds. -/
def Site.NoDangling (stamps : Prop) (s : Site) : Prop :=
  s.Refers s.HasUser s.HasUser fun i => stamps → s.HasUser i

/-- Accounts may be stored, and nothing that names one. -/
structure Site.HoldsAccounts (s : Site) : Prop where
  issued : ∀ u ∈ s.platform.users, u.id ∈ s.platform.world.issuedIds
  bookings : s.platform.world.bookings = .empty
  meetings : s.platform.world.meetings = .empty
  availabilities : s.platform.world.availabilities = fun _ => none
  profiles : s.platform.world.profiles = .empty
  refreshTokens : s.platform.refreshTokens = .empty
  oauthAccounts : s.platform.oauthAccounts = .empty
  documents : s.documents = .empty
  reports : s.reports = .empty
  states : s.states = []

/-! ### When a reference is left -/

/-- The callback stores a connection: the state has been signed here and has not expired, and Google
answers with what a connection needs. -/
def Site.Completes (env : Env) (google : Except String Site.GoogleTokens) (state : OAuthState)
    (s : Site) : Prop :=
  Verifies state s ∧ env.isGoogleConfigured = true ∧ ∃ tokens, google = .ok tokens ∧
    HasRefreshToken tokens (s.platform.oauthAccounts.findByKey state.userId)

/-- A callback that stores a connection finds its account. -/
def CompletesForUser (env : Env) (s : Site) : SiteAction → Prop
  | .googleCallback newId google state =>
    newId ∉ s.platform.world.issuedIds → s.Completes env google state → s.HasUser state.userId
  | _ => True

/-- An admin deletes the account, and the deletion goes through. -/
def Deletes (userId : ObjectId) (s : Site) : SiteAction → Prop
  | .admin o user (.deleteUser _ id) =>
    id = userId ∧ o.newId ∉ s.platform.world.issuedIds ∧ (∃ actor, IsByAdmin user actor s) ∧
      ∃ u ∈ s.platform.users, u.id = userId ∧ u.isAdmin = false
  | _ => False

/-- Every report that the account has resolved, and every profile that it has reviewed, is removed
with it. -/
def Site.ReviewsGoWith (userId : ObjectId) (s : Site) : Prop :=
  (∀ r ∈ s.reports, r.resolvedBy = some userId → r.reporterId = userId ∨ r.hrUserId = userId) ∧
    ∀ profile ∈ s.documents, profile.reviewedBy = some userId → profile.userId = userId

/-- No account is deleted that has reviewed what stays. -/
def SparesReviewers (s : Site) (a : SiteAction) : Prop :=
  ∀ userId, Deletes userId s a → s.ReviewsGoWith userId

/-! ### The invariant -/

/-- **The invariant**, with the identities `ids` issued as well. -/
structure Site.Grounded (stamps : Prop) (ids : List ObjectId) (s : Site) : Prop where
  refers : s.Refers s.HasUser s.HasConsultant fun i => stamps → s.HasUser i
  users : ∀ u ∈ s.platform.users, u.id ∈ ids ++ s.platform.world.issuedIds
  connections : ∀ account ∈ s.platform.oauthAccounts,
    account.id ∈ ids ++ s.platform.world.issuedIds
  states : ∀ state ∈ s.states, state.userId ∈ ids ++ s.platform.world.issuedIds ∧
    ∀ u ∈ s.platform.users, u.id = state.userId → u.role = .hr

section Invariant

variable {stamps : Prop} {ids ids' : List ObjectId} {E H R E' H' R' : ObjectId → Prop}
  {s s' : Site}

theorem Site.Refers.mono (h : s.Refers E H R) (hE : ∀ i, E i → E' i) (hH : ∀ i, H i → H' i)
    (hR : ∀ i, R i → R' i) : s.Refers E' H' R' where
  world := h.world.mono hE hH
  refreshTokens t ht := hE _ (h.refreshTokens t ht)
  oauthAccounts account haccount := hH _ (h.oauthAccounts account haccount)
  documents profile hprofile := hH _ (h.documents profile hprofile)
  reports r hr := ⟨hE _ (h.reports r hr).1, hE _ (h.reports r hr).2⟩
  reviewers profile hprofile i hi := hR i (h.reviewers profile hprofile i hi)
  resolvers r hr i hi := hR i (h.resolvers r hr i hi)

theorem Site.HasConsultant.hasUser {i : ObjectId} (h : s.HasConsultant i) : s.HasUser i := by
  obtain ⟨u, hu, hid, -⟩ := h
  exact ⟨u, hu, hid⟩

theorem Site.Grounded.noDangling (h : s.Grounded stamps ids) : s.NoDangling stamps :=
  h.refers.mono (fun _ => id) (fun _ => Site.HasConsultant.hasUser) fun _ => id

theorem Site.HoldsAccounts.grounded (h : s.HoldsAccounts) : s.Grounded stamps [] where
  refers :=
    { world :=
        { bookings := fun b hb => absurd (h.bookings ▸ hb) (Collection.not_mem_empty b)
          meetings := fun m hm => absurd (h.meetings ▸ hm) (Collection.not_mem_empty m)
          availabilities := fun i a ha => by
            rw [h.availabilities] at ha
            cases ha
          profiles := fun p hp => absurd (h.profiles ▸ hp) (Collection.not_mem_empty p) }
      refreshTokens := fun t ht => absurd (h.refreshTokens ▸ ht) (Collection.not_mem_empty t)
      oauthAccounts := fun a ha => absurd (h.oauthAccounts ▸ ha) (Collection.not_mem_empty a)
      documents := fun p hp => absurd (h.documents ▸ hp) (Collection.not_mem_empty p)
      reports := fun r hr => absurd (h.reports ▸ hr) (Collection.not_mem_empty r)
      reviewers := fun p hp => absurd (h.documents ▸ hp) (Collection.not_mem_empty p)
      resolvers := fun r hr => absurd (h.reports ▸ hr) (Collection.not_mem_empty r) }
  users := h.issued
  connections a ha := absurd (h.oauthAccounts ▸ ha) (Collection.not_mem_empty a)
  states state hstate := by
    rw [h.states] at hstate
    cases hstate

theorem Site.Grounded.mono (h : s.Grounded stamps ids) (hids : ids ⊆ ids') :
    s.Grounded stamps ids' := by
  have hissued : ids ++ s.platform.world.issuedIds ⊆ ids' ++ s.platform.world.issuedIds :=
    List.append_subset.2 ⟨List.Subset.trans hids (List.subset_append_left _ _),
      List.subset_append_right _ _⟩
  exact ⟨h.refers, fun u hu => hissued (h.users u hu), fun a ha => hissued (h.connections a ha),
    fun state hstate => ⟨hissued (h.states state hstate).1, (h.states state hstate).2⟩⟩

theorem Site.Grounded.issue (h : s.Grounded stamps ids) : (s.issue ids).Grounded stamps [] where
  refers := ⟨⟨h.refers.world.bookings, h.refers.world.meetings, h.refers.world.availabilities,
    h.refers.world.profiles⟩, h.refers.refreshTokens, h.refers.oauthAccounts, h.refers.documents,
    h.refers.reports, h.refers.reviewers, h.refers.resolvers⟩
  users := h.users
  connections := h.connections
  states := h.states

theorem hasUser_of_grow (h : UsersGrow ids s.platform.users s'.platform.users) {i : ObjectId}
    (hi : s.HasUser i) : s'.HasUser i := by
  obtain ⟨u, hu, rfl⟩ := hi
  obtain ⟨u', hu', hid, -⟩ := h.kept u hu
  exact ⟨u', hu', hid⟩

theorem hasConsultant_of_grow (h : UsersGrow ids s.platform.users s'.platform.users) {i : ObjectId}
    (hi : s.HasConsultant i) : s'.HasConsultant i := by
  obtain ⟨u, hu, rfl, hrole⟩ := hi
  obtain ⟨u', hu', hid, hrole'⟩ := h.kept u hu
  exact ⟨u', hu', hid, hrole' hrole⟩

theorem Site.Grounded.refersAfter (h : s.Grounded stamps [])
    (husers : UsersGrow ids s.platform.users s'.platform.users) :
    s.Refers s'.HasUser s'.HasConsultant fun i => stamps → s'.HasUser i :=
  h.refers.mono (fun _ => hasUser_of_grow husers) (fun _ => hasConsultant_of_grow husers)
    fun _ hi hstamps => hasUser_of_grow husers (hi hstamps)

/-- **One step that deletes no account**: the accounts grow, and what refers to one refers to one
that is stored. -/
theorem Site.Grounded.grow (h : s.Grounded stamps [])
    (hfresh : ∀ id ∈ ids, id ∉ s.platform.world.issuedIds)
    (husers : UsersGrow ids s.platform.users s'.platform.users)
    (hissued : s.platform.world.issuedIds ⊆ s'.platform.world.issuedIds)
    (hconnections : ∀ account ∈ s'.platform.oauthAccounts,
      account ∈ s.platform.oauthAccounts ∨ account.id ∈ ids)
    (hstates : s'.states = s.states)
    (hrefers : s'.Refers s'.HasUser s'.HasConsultant fun i => stamps → s'.HasUser i) :
    s'.Grounded stamps ids where
  refers := hrefers
  users u' hu' := by
    rcases husers.origin u' hu' with hid | ⟨u, hu, hid⟩
    · exact List.mem_append_left _ hid
    · exact List.mem_append_right _ (hissued (hid ▸ h.users u hu))
  connections account haccount := by
    rcases hconnections account haccount with haccount | hid
    · exact List.mem_append_right _ (hissued (h.connections account haccount))
    · exact List.mem_append_left _ hid
  states state hstate := by
    obtain ⟨hstateId, hrole⟩ := h.states state (hstates ▸ hstate)
    refine ⟨List.mem_append_right _ (hissued hstateId), fun u' hu' hid' => ?_⟩
    rcases husers.origin u' hu' with hnew | ⟨u, hu, hid⟩
    · exact absurd (hid' ▸ hstateId) (hfresh _ hnew)
    · obtain ⟨u'', hu'', hid'', hrole''⟩ := husers.kept u hu
      obtain rfl : u'' = u' := Collection.eq_of_docId hu'' hu' (hid''.trans hid)
      exact hrole'' (hrole u hu (hid.trans hid'))

/-! ### One write -/

theorem Site.Grounded.onSessions (h : s.Grounded stamps []) {p' : Platform}
    (hsessions : OnlySessions s.HasUser s.platform p')
    (husers : UsersGrow [] s.platform.users p'.users) :
    ({ s with platform := p' } : Site).Grounded stamps [] := by
  let t : Site := { s with platform := p' }
  have husers : UsersGrow [] s.platform.users t.platform.users := husers
  have hrefers := h.refersAfter husers
  have haccounts : p'.oauthAccounts = s.platform.oauthAccounts := hsessions.oauthAccounts
  refine h.grow (List.forall_mem_nil _) husers hsessions.world.issuedIds
    (fun a ha => .inl (haccounts ▸ ha)) rfl ?_
  exact ⟨hsessions.world.refers hrefers.world,
    fun token htoken => hasUser_of_grow husers (hsessions.refreshTokens token htoken),
    fun a ha => hrefers.oauthAccounts a (haccounts ▸ ha), hrefers.documents, hrefers.reports,
    hrefers.reviewers, hrefers.resolvers⟩

theorem Site.Grounded.onWorld (h : s.Grounded stamps []) {w' : World}
    (hw : w'.Refers s.HasUser s.HasConsultant)
    (hissued : s.platform.world.issuedIds ⊆ w'.issuedIds) :
    ({ s with platform := { s.platform with world := w' } } : Site).Grounded stamps [] :=
  h.grow (List.forall_mem_nil _) (.refl _) hissued (fun _ ha => .inl ha) rfl
    ⟨hw, h.refers.refreshTokens, h.refers.oauthAccounts, h.refers.documents, h.refers.reports,
      h.refers.reviewers, h.refers.resolvers⟩

/-- A call that names nobody new. -/
theorem Site.Grounded.onService (h : s.Grounded stamps []) {α : Type} {x : Service α}
    (hx : x.Within World.KeepsRefs) : (s.call fun p => p.call x).2.Grounded stamps [] :=
  h.onWorld ((hx s.platform.world).refers h.refers.world) (hx s.platform.world).issuedIds

/-- A profile service is called; only accounts that are stored review. -/
theorem Site.Grounded.onDirectory (h : s.Grounded stamps [])
    (hfresh : ∀ id ∈ ids, id ∉ s.platform.world.issuedIds) {α : Type}
    {x : Directory → Except AppError α × Directory}
    (hgrows : s.market.directory.Grows ids s.HasUser (x s.market.directory).2) :
    (s.onDirectory x).2.Grounded stamps ids := by
  have husers : UsersGrow ids s.platform.users (s.onDirectory x).2.platform.users := hgrows.users
  have hrefers := h.refersAfter husers
  have howners : ∀ profile ∈ (x s.market.directory).2.profiles,
      (s.onDirectory x).2.HasConsultant profile.userId := by
    intro profile hprofile
    rcases hgrows.owners profile hprofile with ⟨p, hp, hid⟩ | howner
    · exact hid ▸ hrefers.documents p hp
    · exact howner
  refine h.grow hfresh husers (List.Subset.refl _) (fun _ ha => .inl ha) rfl
    ⟨⟨hrefers.world.bookings, hrefers.world.meetings, hrefers.world.availabilities, ?_⟩,
      hrefers.refreshTokens, hrefers.oauthAccounts, howners, hrefers.reports, ?_,
      hrefers.resolvers⟩
  · intro profile hprofile
    obtain ⟨p, hp, rfl⟩ := List.mem_map.1 hprofile
    exact howners p hp
  · intro profile hprofile i hi hstamps
    rcases hgrows.reviewers profile hprofile i hi with ⟨p, hp, hi⟩ | hi
    · exact hrefers.reviewers p hp i hi hstamps
    · exact hasUser_of_grow husers hi

theorem Site.Grounded.onReports (h : s.Grounded stamps []) {reports : Collection Report}
    (hreports : ∀ r ∈ reports, s.HasUser r.reporterId ∧ s.HasUser r.hrUserId)
    (hresolvers : ∀ r ∈ reports, ∀ i ∈ r.resolvedBy, stamps → s.HasUser i) :
    ({ s with reports } : Site).Grounded stamps [] :=
  ⟨⟨h.refers.world, h.refers.refreshTokens, h.refers.oauthAccounts, h.refers.documents, hreports,
    h.refers.reviewers, hresolvers⟩, h.users, h.connections, h.states⟩

theorem Site.Grounded.recordAuditLog (h : s.Grounded stamps ids) (fails : Bool)
    (record : AuditRecord) : (s.recordAuditLog fails record).Grounded stamps ids := by
  unfold Site.recordAuditLog
  split_ifs
  · exact h
  · exact ⟨⟨h.refers.world, h.refers.refreshTokens, h.refers.oauthAccounts, h.refers.documents,
      h.refers.reports, h.refers.reviewers, h.refers.resolvers⟩, h.users, h.connections, h.states⟩

theorem Site.Grounded.onSpecializations (h : s.Grounded stamps ids)
    (specializations : Collection Specialization) :
    ({ s with specializations } : Site).Grounded stamps ids :=
  ⟨⟨h.refers.world, h.refers.refreshTokens, h.refers.oauthAccounts, h.refers.documents,
    h.refers.reports, h.refers.reviewers, h.refers.resolvers⟩, h.users, h.connections, h.states⟩

/-! ### Requests -/

theorem Reply.andThen_keeps {α β : Type} {q : Site → Prop} {x : Reply α}
    {f : α → Site → Reply β} (hx : q x.2) (hf : ∀ a s, q s → q (f a s).2) :
    q (x.andThen f).2 := by
  obtain ⟨_ | a, s⟩ := x
  · exact hx
  · exact hf a s hx

theorem Site.Grounded.recorded {α : Type} {x : Reply α} (h : x.2.Grounded stamps ids)
    (fails : Bool) (record : α → AuditRecord) : (x.recorded fails record).2.Grounded stamps ids :=
  Reply.andThen_keeps (q := Site.Grounded stamps ids) h fun a _ h =>
    h.recordAuditLog fails (record a)

theorem asUser_keeps {α : Type} {q : Site → Prop} {user : Actor} {call : Actor → Site → Reply α}
    (hs : q s) (hcall : ∀ u ∈ s.platform.users, q (call ⟨u.id, u.role⟩ s).2) :
    q (s.asUser user call).2 := by
  unfold Site.asUser
  cases hload : loadUser user s.platform with
  | error e => exact hs
  | ok actor =>
    obtain ⟨u, hu, -, -, rfl⟩ := loadUser_eq_ok hload
    exact hcall u hu

theorem authorize_eq_ok {roles : List UserRole} {user actor : Actor} {p : Platform}
    (h : authorize roles user p = .ok actor) :
    loadUser user p = .ok actor ∧ actor.role ∈ roles := by
  unfold authorize at h
  cases hload : loadUser user p with
  | error e =>
    rw [hload] at h
    cases h
  | ok loaded =>
    rw [hload] at h
    simp only at h
    split_ifs at h with hrole
    cases h
    exact ⟨rfl, hrole⟩

theorem asConsultant_keeps {α : Type} {q : Site → Prop} {user : Actor}
    {call : Actor → Site → Reply α} (hs : q s)
    (hcall : ∀ u ∈ s.platform.users, u.role = .hr → q (call ⟨u.id, u.role⟩ s).2) :
    q (s.asConsultant user call).2 := by
  unfold Site.asConsultant
  cases hauthorize : authorize [.hr] user s.platform with
  | error e => exact hs
  | ok actor =>
    obtain ⟨hload, hrole⟩ := authorize_eq_ok hauthorize
    obtain ⟨u, hu, -, -, rfl⟩ := loadUser_eq_ok hload
    exact hcall u hu (List.mem_singleton.1 hrole)

theorem grounded_of_offering {next : Site}
    (hnext : (∀ id ∈ ids, id ∉ s.platform.world.issuedIds) → next.Grounded stamps ids)
    (hoffer : s.offering ids next = some s') : s'.Grounded stamps [] := by
  obtain ⟨⟨-, hfresh⟩, hnew⟩ := Option.ite_none_right_eq_some.1 hoffer
  exact Option.some.inj hnew ▸ (hnext hfresh).issue

theorem reportable_eq_ok {actorId : ObjectId} {input : Site.CreateReportInput}
    {profile : HRProfileDocument} (h : Site.reportable actorId input s = .ok profile) :
    profile ∈ s.documents := by
  unfold Site.reportable at h
  cases hfind : s.documents.findById input.hrProfileId with
  | none =>
    rw [hfind] at h
    cases h
  | some found =>
    rw [hfind] at h
    simp only at h
    split_ifs at h
    obtain rfl := Except.ok.inj h
    exact (Collection.findById_eq_some.1 hfind).1

theorem createReport_grounded (h : s.Grounded stamps []) {newId actorId : ObjectId}
    (input : Site.CreateReportInput) (hactor : s.HasUser actorId) :
    (s.createReport newId actorId input).2.Grounded stamps [] := by
  unfold Site.createReport
  cases hreportable : Site.reportable actorId input s with
  | error e => exact h
  | ok profile =>
    have howner : s.HasUser profile.userId :=
      (h.refers.documents profile (reportable_eq_ok hreportable)).hasUser
    simp only [reply_ok_andThen]
    cases hins : s.reports.insert (Site.newReport newId actorId profile input) with
    | none => exact h
    | some reports =>
      refine h.onReports (fun r hr => ?_) fun r hr i hi => ?_
      · rcases (Collection.mem_insert hins).1 hr with hr | rfl
        · exact h.refers.reports r hr
        · exact ⟨hactor, howner⟩
      · rcases (Collection.mem_insert hins).1 hr with hr | rfl
        · exact h.refers.resolvers r hr i hi
        · cases hi

theorem resolveReport_grounded (h : s.Grounded stamps []) (auditFails : Bool) {actor : Actor}
    (hactor : s.HasUser actor.id) (reportId : ObjectId) (input : Site.ResolveReportInput) :
    (s.resolveReport auditFails actor reportId input).2.Grounded stamps [] := by
  refine Site.Grounded.recorded ?_ auditFails _
  cases Site.resolvable (s.reports.findById reportId) with
  | error e => exact h
  | ok report =>
    simp only [reply_ok_andThen]
    cases hsave : s.reports.save report.id (Site.saveOverReport report
        (Site.resolved actor.id s.platform.world.now input report)) with
    | error e => exact h
    | ok reports =>
      refine h.onReports (fun r hr => ?_) fun r hr i hi => ?_
      · rcases Collection.mem_save hsave hr with hr | ⟨stored, hstored, rfl⟩
        · exact h.refers.reports r hr
        · exact h.refers.reports stored hstored
      · rcases Collection.mem_save hsave hr with hr | ⟨stored, hstored, rfl⟩
        · exact h.refers.resolvers r hr i hi
        · have hi : i ∈ savePath report.resolvedBy (some actor.id) stored.resolvedBy := hi
          unfold savePath at hi
          split_ifs at hi
          · exact h.refers.resolvers stored hstored i hi
          · exact fun _ => Option.some.inj hi ▸ hactor

theorem buildGoogleConnectUrl_grounded (h : s.Grounded stamps []) (env : Env) {user : User}
    (huser : user ∈ s.platform.users) (hrole : user.role = .hr) :
    (s.buildGoogleConnectUrl env user.id).2.Grounded stamps [] := by
  unfold Site.buildGoogleConnectUrl
  split_ifs
  · refine ⟨⟨h.refers.world, h.refers.refreshTokens, h.refers.oauthAccounts, h.refers.documents,
      h.refers.reports, h.refers.reviewers, h.refers.resolvers⟩, h.users, h.connections,
      fun state hstate => ?_⟩
    rcases List.mem_cons.1 hstate with rfl | hstate
    · refine ⟨h.users user huser, fun u hu hid => ?_⟩
      obtain rfl : u = user := Collection.eq_of_docId hu huser hid
      exact hrole
    · exact h.states state hstate
  · exact h

/-- **A callback** that stores a connection only for an account that exists. -/
theorem completeGoogleConnection_grounded (h : s.Grounded stamps []) (env : Env)
    {newId : ObjectId} {google : Except String Site.GoogleTokens} {state : OAuthState}
    (huser : s.Completes env google state → s.HasUser state.userId) :
    (s.completeGoogleConnection env newId google state).2.Grounded stamps [newId] := by
  have hsame : s.Grounded stamps [newId] := h.mono (List.nil_subset _)
  unfold Site.completeGoogleConnection
  split_ifs with hverifies hconfigured
  · cases google with
    | error message => exact hsame
    | ok tokens =>
      simp only
      split_ifs with htoken
      · obtain ⟨u, hu, hid⟩ := huser ⟨hverifies, hconfigured, tokens, rfl, htoken⟩
        have howner : s.HasConsultant state.userId :=
          ⟨u, hu, hid, (h.states state hverifies.1).2 u hu hid⟩
        unfold Site.upsertConnection
        split
        · exact hsame
        · split
          · exact hsame
          · rename_i hins
            refine ⟨⟨h.refers.world, h.refers.refreshTokens, fun account haccount => ?_,
              h.refers.documents, h.refers.reports, h.refers.reviewers, h.refers.resolvers⟩,
              hsame.users, fun account haccount => ?_, hsame.states⟩
            · rcases (Collection.mem_insert hins).1 haccount with haccount | rfl
              · exact h.refers.oauthAccounts account haccount
              · exact howner
            · rcases (Collection.mem_insert hins).1 haccount with haccount | rfl
              · exact hsame.connections account haccount
              · exact List.mem_cons_self
      · exact hsame
  · exact hsame
  · exact hsame

theorem disconnectGoogle_grounded (h : s.Grounded stamps []) (userId : ObjectId) :
    (s.disconnectGoogle userId).2.Grounded stamps [] := by
  unfold Site.disconnectGoogle
  split
  · exact h
  · exact ⟨⟨h.refers.world, h.refers.refreshTokens,
      fun a ha => h.refers.oauthAccounts a (Collection.mem_delete.1 ha).1, h.refers.documents,
      h.refers.reports, h.refers.reviewers, h.refers.resolvers⟩, h.users,
      fun a ha => h.connections a (Collection.mem_delete.1 ha).1, h.states⟩

/-- What is left of the site when an account is deleted, after its active bookings have been
cancelled. -/
structure Site.LeftBy (user : User) (s t : Site) : Prop where
  platform : ∃ w, s.platform.world.KeepsRefs w ∧ RemovedFrom user s.platform w t.platform
  documents : ∀ profile, profile ∈ t.documents ↔
    profile ∈ s.documents ∧ (s.HasConsultant user.id → profile.userId ≠ user.id)
  reports : ∀ r, r ∈ t.reports ↔ r ∈ s.reports ∧ r.reporterId ≠ user.id ∧ r.hrUserId ≠ user.id
  states : t.states = s.states

theorem deleteUser_leaves (s : Site) (auditFails : Bool) (actor : Actor) (o : ObjectId → Oracle)
    (userId : ObjectId) :
    ((¬ ∃ u ∈ s.platform.users, u.id = userId ∧ u.isAdmin = false) ∧
      (s.deleteUser auditFails actor o userId).2 = s) ∨
    ∃ user ∈ s.platform.users, user.id = userId ∧ user.isAdmin = false ∧
      s.LeftBy user (s.deleteUser auditFails actor o userId).2 := by
  unfold Site.deleteUser
  rcases call_deleteUser_cases s o actor userId with
    ⟨hnot, e, hcall⟩ | ⟨user, huser, rfl, hadmin, p', summary, hcall, hleft⟩
  · rw [hcall]
    exact .inl ⟨hnot, rfl⟩
  · refine .inr ⟨user, huser, rfl, hadmin, ?_⟩
    have hplatform := cancelAll_keepsRefs o actor (s.platform.world.activeBookingsOf user.id)
      s.platform.world
    have hreports : ∀ r, r ∈ s.reports.delete (fun r =>
        r.reporterId = user.id ∨ r.hrUserId = user.id) ↔
          r ∈ s.reports ∧ r.reporterId ≠ user.id ∧ r.hrUserId ≠ user.id := fun r => by
      rw [Collection.mem_delete_decide, not_or]
    rw [hcall]
    by_cases hconsultant : s.HasConsultant user.id
    · have hdocuments : ∀ profile, profile ∈ s.documents.delete (fun profile =>
          profile.userId = user.id) ↔ profile ∈ s.documents ∧
            (s.HasConsultant user.id → profile.userId ≠ user.id) := fun profile => by
        rw [Collection.mem_delete_decide, forall_prop_of_true hconsultant]
      simp only [hconsultant, decide_true, if_true]
      cases auditFails <;> exact ⟨⟨_, hplatform, hleft⟩, hdocuments, hreports, rfl⟩
    · have hdocuments : ∀ profile, profile ∈ s.documents ↔ profile ∈ s.documents ∧
            (s.HasConsultant user.id → profile.userId ≠ user.id) := fun profile =>
        ⟨fun hprofile => ⟨hprofile, fun h => absurd h hconsultant⟩, And.left⟩
      simp only [hconsultant, decide_false, Bool.false_eq_true, if_false]
      cases auditFails <;> exact ⟨⟨_, hplatform, hleft⟩, hdocuments, hreports, rfl⟩

theorem Site.LeftBy.refers {t : Site} {user : User} (hleft : s.LeftBy user t)
    (h : s.Grounded stamps []) (huser : user ∈ s.platform.users)
    (hspares : stamps → s.ReviewsGoWith user.id) :
    t.Refers (fun i => s.HasUser i ∧ i ≠ user.id) (fun i => s.HasConsultant i ∧ i ≠ user.id)
      fun i => stamps → s.HasUser i ∧ i ≠ user.id := by
  obtain ⟨w, hkeeps, hplatform⟩ := hleft.platform
  -- somebody who is no consultant is referred to as one by nothing
  have hconsultant : user.role ≠ .hr → ¬ s.HasConsultant user.id := by
    rintro hrole ⟨u, hu, hid, hrole'⟩
    obtain rfl : u = user := Collection.eq_of_docId hu huser hid
    exact hrole hrole'
  constructor
  · exact hplatform.refers (hkeeps.refers h.refers.world) hconsultant
  · intro token htoken
    obtain ⟨htoken, hid⟩ := hplatform.mem_refreshTokens.1 htoken
    exact ⟨h.refers.refreshTokens token htoken, hid⟩
  · intro account haccount
    obtain ⟨haccount, hid⟩ := hplatform.mem_oauthAccounts.1 haccount
    have howner := h.refers.oauthAccounts account haccount
    refine ⟨howner, fun he => ?_⟩
    by_cases hrole : user.role = .hr
    · exact hid hrole he
    · exact hconsultant hrole (he ▸ howner)
  · intro profile hprofile
    obtain ⟨hprofile, hid⟩ := (hleft.documents profile).1 hprofile
    have howner := h.refers.documents profile hprofile
    exact ⟨howner, fun he => hid (he ▸ howner) he⟩
  · intro r hr
    obtain ⟨hr, hreporter, hhr⟩ := (hleft.reports r).1 hr
    have hparties := h.refers.reports r hr
    exact ⟨⟨hparties.1, hreporter⟩, ⟨hparties.2, hhr⟩⟩
  · -- a stamp of the deleted account could only be on a document that has gone with it
    intro profile hprofile i hi hstamps
    obtain ⟨hprofile, hid⟩ := (hleft.documents profile).1 hprofile
    refine ⟨h.refers.reviewers profile hprofile i hi hstamps, ?_⟩
    rintro rfl
    have howner := (hspares hstamps).2 profile hprofile hi
    exact hid (howner ▸ h.refers.documents profile hprofile) howner
  · intro r hr i hi hstamps
    obtain ⟨hr, hreporter, hhr⟩ := (hleft.reports r).1 hr
    refine ⟨h.refers.resolvers r hr i hi hstamps, ?_⟩
    rintro rfl
    exact ((hspares hstamps).1 r hr hi).elim hreporter hhr

/-- **The deletion of an account** leaves no reference to it, unless it has reviewed what stays. -/
theorem deleteUser_grounded (h : s.Grounded stamps []) (auditFails : Bool) (actor : Actor)
    (o : ObjectId → Oracle) {userId : ObjectId}
    (hspares : stamps → (∃ u ∈ s.platform.users, u.id = userId ∧ u.isAdmin = false) →
      s.ReviewsGoWith userId) :
    (s.deleteUser auditFails actor o userId).2.Grounded stamps [] := by
  rcases deleteUser_leaves s auditFails actor o userId with
    ⟨-, hsite⟩ | ⟨user, huser, rfl, hadmin, hleft⟩
  · rw [hsite]
    exact h
  generalize (s.deleteUser auditFails actor o user.id).2 = t at hleft
  obtain ⟨w, hkeeps, hplatform⟩ := hleft.platform
  have hissued : s.platform.world.issuedIds ⊆ t.platform.world.issuedIds :=
    hplatform.issuedIds ▸ hkeeps.issuedIds
  have hrefers := hleft.refers h huser fun hstamps => hspares hstamps ⟨user, huser, rfl, hadmin⟩
  have hE : ∀ i, s.HasUser i ∧ i ≠ user.id → t.HasUser i := by
    rintro i ⟨⟨u, hu, rfl⟩, hne⟩
    exact ⟨u, hplatform.mem_users.2 ⟨hu, hne⟩, rfl⟩
  have hH : ∀ i, s.HasConsultant i ∧ i ≠ user.id → t.HasConsultant i := by
    rintro i ⟨⟨u, hu, rfl, hrole⟩, hne⟩
    exact ⟨u, hplatform.mem_users.2 ⟨hu, hne⟩, rfl, hrole⟩
  constructor
  · exact hrefers.mono hE hH fun i hi hstamps => hE i (hi hstamps)
  · exact fun u hu => hissued (h.users u (hplatform.mem_users.1 hu).1)
  · exact fun account haccount =>
      hissued (h.connections account (hplatform.mem_oauthAccounts.1 haccount).1)
  · intro state hstate
    rw [hleft.states] at hstate
    obtain ⟨hid, hrole⟩ := h.states state hstate
    exact ⟨hissued hid, fun u hu => hrole u (hplatform.mem_users.1 hu).1⟩

/-! ### Steps -/

section Steps

variable {o : Oracle} {user : Actor}

theorem answer_cases (o : Oracle) (user : Actor) (s : Site) (request : AdminRequest) :
    (∃ e, request.answer o user s = s.reply (.error e)) ∨
      ∃ actor, loadUser user s.platform = .ok actor ∧
        (actor.role ∈ adminRoles ∨ ∃ id reason, request = .cancelBooking id reason) ∧
        request.answer o user s = request.serve o actor s := by
  cases hload : loadUser user s.platform with
  | error e =>
    have hauthorize : authorize adminRoles user s.platform = .error e := by
      simp only [authorize, hload]
    refine .inl ⟨e, ?_⟩
    cases request <;> simp only [AdminRequest.answer, hload, hauthorize, reply_error_andThen]
  | ok actor =>
    by_cases hrole : actor.role ∈ adminRoles
    · exact .inr ⟨actor, rfl, .inl hrole, answer_of_admin ⟨hload, hrole⟩⟩
    · have hauthorize : authorize adminRoles user s.platform =
          .error (.forbidden "You do not have permission to perform this action.") := by
        simp only [authorize, hload, if_neg hrole]
      cases request with
      | cancelBooking id reason =>
        refine .inr ⟨actor, rfl, .inr ⟨id, reason, rfl⟩, ?_⟩
        simp only [AdminRequest.answer, hload, reply_ok_andThen]
      | _ =>
        refine .inl ⟨.forbidden "You do not have permission to perform this action.", ?_⟩
        simp only [AdminRequest.answer, hauthorize, reply_error_andThen]

theorem onAccount_grounded (env : Env) (h : s.Grounded stamps []) {a : AccountAction}
    {p' : Platform} (hdeletes : a.deletes = false)
    (hstep : (accounts env.crypto).step s.platform a = some p') :
    ({ s with platform := p' } : Site).Grounded stamps [] :=
  h.onSessions
    (account_step_sessions hdeletes hstep (fun u hu => ⟨u, hu, rfl⟩) h.refers.refreshTokens)
    (account_step_users hdeletes hstep)

/-- **A service of the admin routes**, one case for each request. -/
theorem serve_grounded (env : Env) (h : s.Grounded stamps []) {actor : Actor}
    (hactor : s.HasUser actor.id) (request : AdminRequest)
    (hspares : ∀ o' userId, request = .deleteUser o' userId → stamps →
      (∃ u ∈ s.platform.users, u.id = userId ∧ u.isAdmin = false) → s.ReviewsGoWith userId) :
    (request.serve o actor s).2.Grounded stamps [] := by
  -- whoever approves or rejects is stored, so the stamp refers to somebody
  have hreview : ∀ i, i = actor.id → s.HasUser i := by
    rintro i rfl
    exact hactor
  cases request with
  | suspendUser userId reason =>
    have hcall : (s.call (HrBooking.suspendUser userId)).2.Grounded stamps [] :=
      onAccount_grounded env h (a := .suspendUser userId) rfl rfl
    exact hcall.recorded _ _
  | reactivateUser userId =>
    have hcall : (s.call (HrBooking.reactivateUser userId)).2.Grounded stamps [] :=
      onAccount_grounded env h (a := .reactivateUser userId) rfl rfl
    exact hcall.recorded _ _
  | deleteUser o' userId =>
    exact deleteUser_grounded h o.auditFails actor o' (hspares o' userId rfl)
  | approveProfile profileId =>
    have hcall : (s.onDirectory (HrBooking.approveProfile actor profileId)).2.Grounded stamps [] :=
      h.onDirectory (List.forall_mem_nil _) (review_grows (.approve actor profileId) hreview)
    exact hcall.recorded _ _
  | rejectProfile profileId reason =>
    have hcall :
        (s.onDirectory (HrBooking.rejectProfile actor profileId reason)).2.Grounded stamps [] :=
      h.onDirectory (List.forall_mem_nil _) (review_grows (.reject actor profileId reason) hreview)
    exact hcall.recorded _ _
  | cancelBooking bookingId reason =>
    exact h.onService (cancelBooking_keepsRefs o actor bookingId reason)
  | resolveReport reportId input =>
    exact resolveReport_grounded h o.auditFails hactor reportId input
  | createSpecialization input =>
    obtain ⟨c, hsite⟩ := createSpecialization_site (s := s) o.newId input
    have hwritten : (s.createSpecialization o.newId input).2.Grounded stamps [] :=
      hsite ▸ h.onSpecializations c
    exact hwritten
  | updateSpecialization id input =>
    obtain ⟨c, hsite⟩ := updateSpecialization_site (s := s) id input
    have hwritten : (s.updateSpecialization id input).2.Grounded stamps [] :=
      hsite ▸ h.onSpecializations c
    exact hwritten
  | deleteSpecialization id =>
    obtain ⟨c, hsite⟩ := deleteSpecialization_site (s := s) id
    have hwritten : (s.deleteSpecialization id).2.Grounded stamps [] :=
      hsite ▸ h.onSpecializations c
    exact hwritten

theorem bookingRequest_grounded (h : s.Grounded stamps []) {α : Type} {x : Actor → Service α}
    (hx : ∀ actor, s.HasUser actor.id →
      (x actor s.platform.world).2.Refers s.HasUser s.HasConsultant ∧
        s.platform.world.issuedIds ⊆ (x actor s.platform.world).2.issuedIds)
    (hstep : s.bookingRequest o user x = some s') : s'.Grounded stamps [] := by
  obtain ⟨-, hs'⟩ := Option.ite_none_right_eq_some.1 hstep
  refine Option.some.inj hs' ▸ asUser_keeps h fun u hu => ?_
  have hx := hx ⟨u.id, u.role⟩ ⟨u, hu, rfl⟩
  exact h.onWorld hx.1 hx.2

theorem scheduleRequest_grounded (h : s.Grounded stamps []) {f : ObjectId → World → World}
    (hf : ∀ i, s.HasConsultant i → (f i s.platform.world).Refers s.HasUser s.HasConsultant)
    (hissued : ∀ i, (f i s.platform.world).issuedIds = s.platform.world.issuedIds) :
    (s.scheduleRequest user f).Grounded stamps [] := by
  refine asConsultant_keeps h fun u hu hrole => ?_
  exact h.onWorld (hf u.id ⟨u, hu, rfl, hrole⟩) (hissued u.id ▸ List.Subset.refl _)

theorem register_grounded (h : s.Grounded stamps []) (cr : Crypto) {newId : ObjectId} (salt : ℕ)
    (input : RegisterInput) (hfresh : ∀ id ∈ [newId], id ∉ s.platform.world.issuedIds) :
    (s.call (HrBooking.register cr newId salt input)).2.Grounded stamps [newId] := by
  obtain ⟨users, hrun, hkept, hnew⟩ := register_cases cr newId salt input s.platform
  have husers : UsersGrow [newId] s.platform.users users := by
    refine ⟨fun u hu => ⟨u, hkept u hu, rfl, id⟩, fun u hu => ?_⟩
    rcases hnew u hu with hu | rfl
    · exact .inr ⟨u, hu, rfl⟩
    · exact .inl List.mem_cons_self
  let t : Site := { s with platform := { s.platform with users } }
  have husers : UsersGrow [newId] s.platform.users t.platform.users := husers
  have hrefers := h.refersAfter husers
  have hadded : t.Grounded stamps [newId] :=
    h.grow hfresh husers (List.Subset.refl _) (fun _ ha => .inl ha) rfl ⟨hrefers.world,
      hrefers.refreshTokens, hrefers.oauthAccounts, hrefers.documents, hrefers.reports,
      hrefers.reviewers, hrefers.resolvers⟩
  have hcall : (s.call (HrBooking.register cr newId salt input)).2 = t := by
    simp only [Site.call, hrun, t]
  exact hcall ▸ hadded

/-- **The step lemma**, one case for each kind of request. -/
theorem grounded_step (env : Env) {a : SiteAction} (h : s.Grounded stamps [])
    (hcompletes : CompletesForUser env s a) (hspares : stamps → SparesReviewers s a)
    (hstep : (site env).step s a = some s') : s'.Grounded stamps [] := by
  -- an action either grows the collections or writes over documents whose references stay;
  -- only a deletion removes what may be referred to
  cases a with
  | session a =>
    obtain ⟨hsession, hexec⟩ := Option.ite_none_right_eq_some.1 hstep
    obtain ⟨p', hp', rfl⟩ := Option.map_eq_some_iff.1 hexec
    refine onAccount_grounded env h (a := a) ?_ hp'
    cases a with
    | deleteUser => cases hsession
    | _ => rfl
  | register newId salt input =>
    exact grounded_of_offering (fun hfresh => register_grounded h env.crypto salt input hfresh)
      hstep
  | registerHr newId profileId salt input =>
    exact grounded_of_offering
      (fun hfresh => h.onDirectory hfresh (registerHr_grows env.crypto newId profileId salt input))
      hstep
  | upsertProfile user newId input =>
    refine grounded_of_offering (fun hfresh => Site.Grounded.mono ?_ (List.nil_subset _)) hstep
    exact asUser_keeps h fun u hu =>
      h.onDirectory (List.forall_mem_nil _) (upsertProfile_grows u.id newId input)
  | submitProfile user =>
    refine Option.some.inj hstep ▸ asConsultant_keeps h fun u hu hrole => ?_
    exact h.onDirectory (List.forall_mem_nil _) (review_grows (.submit u.id) fun _ => False.elim)
  | withdrawProfile user =>
    refine Option.some.inj hstep ▸ asConsultant_keeps h fun u hu hrole => ?_
    exact h.onDirectory (List.forall_mem_nil _) (review_grows (.withdraw u.id) fun _ => False.elim)
  | setAvailability user isAvailable =>
    refine Option.some.inj hstep ▸ asConsultant_keeps h fun u hu hrole => ?_
    exact h.onDirectory (List.forall_mem_nil _) (setAvailability_grows u.id isAvailable)
  | getAvailability user =>
    exact Option.some.inj hstep ▸ scheduleRequest_grounded h
      (fun i hi => getOrCreateAvailability_refers hi h.refers.world)
      fun i => getOrCreateAvailability_issuedIds i _
  | updateAvailability user config =>
    exact Option.some.inj hstep ▸ scheduleRequest_grounded h
      (fun i hi => updateAvailability_refers config hi h.refers.world) fun i => rfl
  | createBooking o user input =>
    exact bookingRequest_grounded h (fun actor hactor => createBooking_refers env.calendar o input
      hactor (fun _ => Site.HasConsultant.hasUser) h.refers.world) hstep
  | rescheduleBooking o user bookingId input =>
    refine bookingRequest_grounded h (fun actor hactor => ?_) hstep
    have hkeeps := rescheduleBooking_keepsRefs env.calendar o actor bookingId input s.platform.world
    exact ⟨hkeeps.refers h.refers.world, hkeeps.issuedIds⟩
  | retryBookingMeeting o user bookingId =>
    refine bookingRequest_grounded h (fun actor hactor => ?_) hstep
    have hkeeps :=
      (retryBookingMeeting_writes (o := o) actor bookingId s.platform.world).keepsRefs
    exact ⟨hkeeps.refers h.refers.world, hkeeps.issuedIds⟩
  | runJob o name bookingId =>
    obtain ⟨-, hs'⟩ := Option.ite_none_right_eq_some.1 hstep
    exact Option.some.inj hs' ▸ h.onService fun w => (name.handle_writes bookingId w).keepsRefs
  | sweep =>
    have hkeeps := lifecycleSweep_keepsRefs s.platform.world
    exact Option.some.inj hstep ▸ h.onWorld (hkeeps.refers h.refers.world) hkeeps.issuedIds
  | createReport user newId input =>
    refine grounded_of_offering (fun hfresh => Site.Grounded.mono ?_ (List.nil_subset _)) hstep
    exact asUser_keeps h fun u hu => createReport_grounded h input ⟨u, hu, rfl⟩
  | connectGoogle user =>
    refine Option.some.inj hstep ▸ asConsultant_keeps h fun u hu hrole => ?_
    exact buildGoogleConnectUrl_grounded h env hu hrole
  | googleCallback newId google state =>
    refine grounded_of_offering (fun hfresh => ?_) hstep
    exact completeGoogleConnection_grounded h env (hcompletes (hfresh newId List.mem_cons_self))
  | disconnectGoogle user =>
    refine Option.some.inj hstep ▸ asConsultant_keeps h fun u hu hrole => ?_
    exact disconnectGoogle_grounded h u.id
  | admin o user request =>
    refine grounded_of_offering (fun hfresh => Site.Grounded.mono ?_ (List.nil_subset _)) hstep
    rcases answer_cases o user s request with
      ⟨e, hanswer⟩ | ⟨actor, hload, hrole, hanswer⟩
    · rw [hanswer]
      exact h
    · obtain ⟨u, hu, -, -, hactor⟩ := loadUser_eq_ok hload
      rw [hanswer]
      refine serve_grounded env h ⟨u, hu, hactor ▸ rfl⟩ request ?_
      rintro o' userId rfl hstamps hdeleted
      have hadmin : actor.role ∈ adminRoles := by
        rcases hrole with hrole | ⟨id, reason, hcancel⟩
        · exact hrole
        · cases hcancel
      exact hspares hstamps userId
        ⟨rfl, hfresh o.newId List.mem_cons_self, ⟨actor, hload, hadmin⟩, hdeleted⟩

/-! ### When a step leaves a reference -/

theorem completeGoogleConnection_stores (h : s.Grounded stamps []) (env : Env) {newId : ObjectId}
    {google : Except String Site.GoogleTokens} {state : OAuthState}
    (hfresh : newId ∉ s.platform.world.issuedIds) (hcompletes : s.Completes env google state) :
    ∃ account ∈ (s.completeGoogleConnection env newId google state).2.platform.oauthAccounts,
      account.userId = state.userId := by
  obtain ⟨hverifies, hconfigured, tokens, rfl, htoken⟩ := hcompletes
  simp only [Site.completeGoogleConnection, if_pos hverifies, if_pos hconfigured, if_pos htoken,
    Site.upsertConnection]
  cases hfind : s.platform.oauthAccounts.findByKey state.userId with
  | some account =>
    obtain ⟨haccount, hkey⟩ := Collection.findByKey_eq_some.1 hfind
    exact ⟨account, haccount, Option.some.inj hkey⟩
  | none =>
    obtain ⟨c, hins⟩ := Collection.insert_of_compatible (c := s.platform.oauthAccounts)
      (d := ⟨newId, state.userId, "primary"⟩) fun account haccount => by
        refine ⟨fun hid => ?_, fun k hk hk' => ?_⟩
        · have hid : account.id = newId := hid
          exact hfresh (hid ▸ h.connections account haccount)
        · exact Collection.findByKey_eq_none.1 hfind account haccount (hk.trans hk'.symm)
    simp only [hins]
    exact ⟨_, (Collection.mem_insert hins).2 (.inr rfl), rfl⟩

theorem completeGoogleConnection_users (env : Env) (newId : ObjectId)
    (google : Except String Site.GoogleTokens) (state : OAuthState) (s : Site) :
    (s.completeGoogleConnection env newId google state).2.platform.users = s.platform.users := by
  unfold Site.completeGoogleConnection Site.upsertConnection
  split_ifs
  · cases google with
    | error message => rfl
    | ok tokens =>
      simp only
      split_ifs
      · split
        · rfl
        · split <;> rfl
      · rfl
  · rfl
  · rfl

theorem offering_of_fresh {newId : ObjectId} (hfresh : newId ∉ s.platform.world.issuedIds)
    (next : Site) : s.offering [newId] next = some (next.issue [newId]) :=
  if_pos ⟨List.nodup_singleton newId, fun _ hid => List.mem_singleton.1 hid ▸ hfresh⟩

theorem reviewsGoWith_of_noDangling {auditFails : Bool} {actor : Actor} {o : ObjectId → Oracle}
    {userId : ObjectId} (hstamps : stamps)
    (hdeletable : ∃ u ∈ s.platform.users, u.id = userId ∧ u.isAdmin = false)
    (hsafe : ((s.deleteUser auditFails actor o userId).2.issue ids).NoDangling stamps) :
    s.ReviewsGoWith userId := by
  rcases deleteUser_leaves s auditFails actor o userId with
    ⟨hnot, -⟩ | ⟨user, -, rfl, -, hleft⟩
  · exact absurd hdeletable hnot
  generalize (s.deleteUser auditFails actor o user.id).2 = t at hleft hsafe
  obtain ⟨w, -, hplatform⟩ := hleft.platform
  have hgone : ¬ ∃ u ∈ t.platform.users, u.id = user.id := by
    rintro ⟨u, hu, hid⟩
    exact (hplatform.mem_users.1 hu).2 hid
  constructor
  · intro r hr hby
    by_contra hparty
    have hstays : r ∈ t.reports := (hleft.reports r).2 ⟨hr, not_or.1 hparty⟩
    exact hgone (hsafe.resolvers r hstays user.id hby hstamps)
  · intro profile hprofile hby
    by_contra howner
    have hstays : profile ∈ t.documents :=
      (hleft.documents profile).2 ⟨hprofile, fun _ => howner⟩
    exact hgone (hsafe.reviewers profile hstays user.id hby hstamps)

/-- **A step leaves no reference** exactly when it completes no callback for an account that is
gone, and, if stamps count, deletes no account that has reviewed what stays. -/
theorem noDangling_step_iff (env : Env) {a : SiteAction} (h : s.Grounded stamps []) :
    (∀ s', (site env).step s a = some s' → s'.NoDangling stamps) ↔
      CompletesForUser env s a ∧ (stamps → SparesReviewers s a) := by
  constructor
  · intro hsafe
    constructor
    · cases a with
      | googleCallback newId google state =>
        intro hfresh hcompletes
        obtain ⟨account, haccount, hid⟩ :=
          completeGoogleConnection_stores h env hfresh hcompletes
        have hsafe := hsafe _ (offering_of_fresh hfresh _)
        obtain ⟨u, hu, huid⟩ := hsafe.oauthAccounts account haccount
        have hu : u ∈ (s.completeGoogleConnection env newId google state).2.platform.users := hu
        rw [completeGoogleConnection_users] at hu
        exact ⟨u, hu, huid.trans hid⟩
      | _ => trivial
    · intro hstamps userId hdeletes
      cases a with
      | admin o user request =>
        cases request with
        | deleteUser o' id =>
          obtain ⟨rfl, hfresh, ⟨actor, hactor⟩, hdeletable⟩ := hdeletes
          have hsafe := hsafe _ (offering_of_fresh hfresh _)
          rw [answer_of_admin hactor] at hsafe
          exact reviewsGoWith_of_noDangling hstamps hdeletable hsafe
        | _ => cases hdeletes
      | _ => cases hdeletes
  · rintro ⟨hcompletes, hspares⟩ s' hstep
    exact (grounded_step env h hcompletes hspares hstep).noDangling

end Steps

end Invariant

/-! ### Runs -/

/-- **When no reference dangles.**  In every run from a site with accounts only, every document in
every state names stored accounts, and every meeting record a stored booking, if and only if every
Google callback is completed while its account exists, and, if those who reviewed a profile or
resolved a report count, no account is deleted that has reviewed what stays. -/
theorem no_dangling_iff (stamps : Prop) (env : Env) {s : Site} {as : List SiteAction}
    (hs : s.HoldsAccounts) :
    (∀ bs t, bs <+: as → (site env).run s bs = some t → t.NoDangling stamps) ↔
      (site env).Meets (fun s a => CompletesForUser env s a ∧ (stamps → SparesReviewers s a))
        s as := by
  rw [Machine.forall_prefix_iff, and_iff_right hs.grounded.noDangling]
  refine Machine.meets_congr (I := Site.Grounded stamps []) ?_ ?_ hs.grounded
  · exact fun s a h => noDangling_step_iff env h
  · exact fun s a s' h hguard hstep => grounded_step env h hguard.1 hguard.2 hstep

/-- Admin 9, consultant 1 and client 2, and nothing else. -/
def openingSite : Site :=
  { staffedSite with
    platform := { staffedSite.platform with world := { emptyWorld with issuedIds := [9, 1, 2] } } }

theorem openingSite_holdsAccounts : openingSite.HoldsAccounts :=
  ⟨by decide, rfl, rfl, rfl, rfl, rfl, rfl, rfl, rfl, rfl⟩

/-- Google is configured. -/
def googleEnv : Env := ⟨utcCalendar, sampleCrypto, true⟩

/-- The consultant asks for a consent URL. -/
def askConsent : SiteAction := .connectGoogle ⟨1, .hr⟩

/-- Google calls back with the state of that URL. -/
def grantConsent : SiteAction := .googleCallback 30 (.ok ⟨some "1//refresh"⟩) ⟨1, 600⟩

/-- The consultant connects a calendar, and the account is deleted with it. -/
def connectedThenDeleted : List SiteAction := [askConsent, grantConsent, dismissConsultant]

theorem connectedThenDeleted_isSome :
    ((site googleEnv).run openingSite connectedThenDeleted).isSome = true := by decide +kernel

theorem grantConsent_isSome :
    ((site googleEnv).run openingSite [askConsent, grantConsent]).isSome = true := by
  decide +kernel

/-- The connection does not stay behind. -/
theorem no_dangling_iff_deleted :
    let s := ((site googleEnv).run openingSite connectedThenDeleted).get connectedThenDeleted_isSome
    (s.platform.users.docs.length = 2 ∧ s.platform.oauthAccounts.docs = []) ∧
      ∀ bs t, bs <+: connectedThenDeleted → (site googleEnv).run openingSite bs = some t →
        t.NoDangling True := by
  refine ⟨by decide +kernel, (no_dangling_iff True googleEnv openingSite_holdsAccounts).2 ?_⟩
  refine ⟨⟨trivial, fun _ _ h => h.elim⟩, fun s₁ h₁ => ⟨⟨fun _ _ => ?_, fun _ _ h => h.elim⟩,
    fun s₂ h₂ => ⟨⟨trivial, ?_⟩, fun _ _ => trivial⟩⟩⟩
  · obtain rfl := (Option.some.inj h₁).symm
    decide +kernel
  · rintro - userId ⟨rfl, -⟩
    have hrun : (site googleEnv).run openingSite [askConsent, grantConsent] = some s₂ :=
      Machine.run_cons.2 ⟨s₁, h₁, Machine.run_cons.2 ⟨s₂, h₂, rfl⟩⟩
    obtain rfl : s₂ = _ :=
      Option.some.inj (hrun.symm.trans (Option.some_get grantConsent_isSome).symm)
    constructor <;> decide +kernel

/-- The account is deleted while the consent page is open. -/
def orphaned : List SiteAction := [askConsent, dismissConsultant, grantConsent]

theorem orphaned_isSome : ((site googleEnv).run openingSite orphaned).isSome = true := by
  decide +kernel

/-- **A connection is stored for an account that is gone.** -/
theorem not_no_dangling :
    ¬ ∀ (env : Env) (s : Site) (as : List SiteAction), s.HoldsAccounts →
      ∀ bs t, bs <+: as → (site env).run s bs = some t → t.NoDangling False := by
  intro h
  let t := ((site googleEnv).run openingSite orphaned).get orphaned_isSome
  have hsafe : t.NoDangling False := h googleEnv openingSite orphaned openingSite_holdsAccounts
    orphaned t (List.prefix_refl _) (Option.some_get orphaned_isSome).symm
  obtain ⟨account, haccount, hid⟩ : ∃ account ∈ t.platform.oauthAccounts, account.userId = 1 := by
    decide +kernel
  have howner : t.HasUser 1 := hid ▸ hsafe.oauthAccounts account haccount
  exact absurd howner (by decide +kernel)

end HrBooking
