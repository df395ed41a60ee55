import HrBooking.Account.Record
import HrBooking.Profile.Document
import HrBooking.Profile.Search
import HrBooking.Store.Paging
import Mathlib.Data.Rat.Defs

/-!
# The public directory

`listPublicProfiles` of `services/hr-profile.service.ts`.  Each page is a query of its own, sorted
by one field of the profiles.

* `ListProfilesQuery.filter`, `listPublicProfiles` : the filter of a request, and its page.
* `listPublicProfiles_eq_ok` : what is answered, whatever the search text.
* `pagesPartition_iff` : exactly when the pages part the directory.
* `not_pagesPartition` : two profiles of one rating, one to a page.
-/

namespace HrBooking

open Paging

/-! ### Documents and requests -/

/-- A profile with the fields that only the lists read. -/
structure ListedProfile extends HRProfileDocument where
  rating : ℚ
  ratingCount : ℕ
  createdAt : ℤ
  deriving DecidableEq

/-- The index on `userId` is unique. -/
instance : Document ListedProfile ObjectId ObjectId :=
  ⟨fun profile => profile.id, fun profile => some profile.userId⟩

/-- What is shown of a consultant's account. -/
structure PublicUser where
  id : ObjectId
  firstName : String
  lastName : String
  deriving DecidableEq

/-- What is shown of a profile. -/
structure PublicProfile where
  id : ObjectId
  user : Option PublicUser
  headline : String
  bio : String
  specializations : List String
  yearsOfExperience : ℕ
  companyName : Option String
  hourlyRateCents : ℕ
  currency : Currency
  languages : List String
  city : Option String
  country : Option String
  profileImageUrl : Option String
  certifications : List Certification
  workHistory : List WorkHistoryEntry
  isAvailable : Bool
  rating : ℚ
  ratingCount : ℕ
  createdAt : ℤ
  deriving DecidableEq

/-- `toPublicProfile` of a profile whose `userId` is populated, if the account is there. -/
def toPublicProfile (users : Collection User) (profile : ListedProfile) : PublicProfile where
  id := profile.id
  user := (users.findById profile.userId).map fun user => ⟨user.id, user.firstName, user.lastName⟩
  headline := profile.headline
  bio := profile.bio
  specializations := profile.specializations
  yearsOfExperience := profile.yearsOfExperience
  companyName := profile.companyName
  hourlyRateCents := profile.hourlyRateCents
  currency := profile.currency
  languages := profile.languages
  city := profile.city
  country := profile.country
  profileImageUrl := profile.profileImageUrl
  certifications := profile.certifications
  workHistory := profile.workHistory
  isAvailable := profile.isAvailable
  rating := profile.rating
  ratingCount := profile.ratingCount
  createdAt := profile.createdAt

/-- The field that a list is sorted by. -/
inductive ProfileSort where
  | rating | hourlyRateCents | newest
  deriving DecidableEq, Repr

/-- The direction of a sort. -/
inductive SortOrder where
  | asc | desc
  deriving DecidableEq, Repr

/-- A text of a query, as the schema bounds it. -/
abbrev QueryText (longest : ℕ) := {s : String // 1 ≤ utf16Length s ∧ utf16Length s ≤ longest}

/-- The validated query of the directory, with the defaults of `listProfilesQuerySchema`. -/
structure ListProfilesQuery where
  page : {n : ℕ // 1 ≤ n} := ⟨1, le_rfl⟩
  limit : {n : ℕ // 1 ≤ n ∧ n ≤ 50} := ⟨12, by decide⟩
  search : Option (QueryText 100) := none
  specialization : Option (QueryText 60) := none
  language : Option (QueryText 30) := none
  minRateCents : Option ℕ := none
  maxRateCents : Option ℕ := none
  sortBy : ProfileSort := .rating
  sortOrder : SortOrder := .desc

/-! ### The list -/

/-- A filter of the profile collection; a condition that is not set holds of every profile. -/
structure ProfileFilter where
  specialization : Option String
  language : Option Regex.Node
  minRateCents : Option ℕ
  maxRateCents : Option ℕ
  /-- The pattern of both branches of `$or`. -/
  search : Option Regex.Node

/-- `new RegExp(pattern, 'i')`; a pattern that does not compile fails the request. -/
def newRegExp (tables : UnitTables) (pattern : List CodeUnit) : Except AppError Regex.Node :=
  match Regex.parse tables.isName pattern with
  | some node => .ok node
  | none => .error .internal

/-- The filter of a request. -/
def ListProfilesQuery.filter (tables : UnitTables) (query : ListProfilesQuery) :
    Except AppError ProfileFilter := do
  let language ← query.language.mapM fun language =>
    newRegExp tables (HrProfileService.languagePattern (units language))
  let search ← query.search.mapM fun search =>
    newRegExp tables (HrProfileService.searchPattern (units search))
  return {
    specialization := query.specialization.map Subtype.val
    language
    minRateCents := query.minRateCents
    maxRateCents := query.maxRateCents
    search }

/-- The database finds the profile. -/
def ProfileFilter.Matches (tables : UnitTables) (filter : ProfileFilter) (p : ListedProfile) :
    Prop :=
  p.status = .published ∧
    (∀ slug ∈ filter.specialization, slug ∈ p.specializations) ∧
    (∀ node ∈ filter.language, ∃ language ∈ p.languages,
      Regex.test tables.fold node (units language) = true) ∧
    (∀ rate ∈ filter.minRateCents, rate ≤ p.hourlyRateCents) ∧
    (∀ rate ∈ filter.maxRateCents, p.hourlyRateCents ≤ rate) ∧
    ∀ node ∈ filter.search, Regex.test tables.fold node (units p.headline) = true ∨
      Regex.test tables.fold node (units p.bio) = true

instance (tables : UnitTables) (filter : ProfileFilter) : DecidablePred (filter.Matches tables) :=
  fun _ => inferInstanceAs (Decidable (_ ∧ _ ∧ _ ∧ _ ∧ _ ∧ _))

/-- The smallest key comes first. -/
def ListProfilesQuery.sortKey (query : ListProfilesQuery) (p : ListedProfile) : ℚ :=
  let key : ℚ := match query.sortBy with
    | .rating => p.rating
    | .hourlyRateCents => p.hourlyRateCents
    | .newest => p.createdAt
  match query.sortOrder with
  | .asc => key
  | .desc => -key

/-- The page answered to a request; `sort` is the order in which the database answers. -/
def listPublicProfiles (tables : UnitTables) (users : Collection User)
    (profiles : Collection ListedProfile)
    (sort : (ListedProfile → ℚ) → List ListedProfile → List ListedProfile)
    (query : ListProfilesQuery) : Except AppError (Page PublicProfile) := do
  let filter ← query.filter tables
  let found := profiles.docs.filter (filter.Matches tables)
  let page := paginate query.limit query.page found.length (sort query.sortKey found)
  return page.map (toPublicProfile users)

/-! ### What is listed -/

/-- The profile is one of those asked for. -/
def ListProfilesQuery.Finds (tables : UnitTables) (query : ListProfilesQuery) (p : ListedProfile) :
    Prop :=
  p.status = .published ∧
    (∀ slug ∈ query.specialization, slug.val ∈ p.specializations) ∧
    (∀ language ∈ query.language, ∃ l ∈ p.languages, tables.Same (units l) (units language.val)) ∧
    (∀ rate ∈ query.minRateCents, rate ≤ p.hourlyRateCents) ∧
    (∀ rate ∈ query.maxRateCents, p.hourlyRateCents ≤ rate) ∧
    ∀ search ∈ query.search, tables.Contains (units p.headline) (units search.val) ∨
      tables.Contains (units p.bio) (units search.val)

instance (tables : UnitTables) (query : ListProfilesQuery) : DecidablePred (query.Finds tables) :=
  fun _ => inferInstanceAs (Decidable (_ ∧ _ ∧ _ ∧ _ ∧ _ ∧ _))

/-- The profiles asked for, in natural order. -/
def ListProfilesQuery.found (tables : UnitTables) (profiles : Collection ListedProfile)
    (query : ListProfilesQuery) : List ListedProfile :=
  profiles.docs.filter (query.Finds tables)

section

variable {tables : UnitTables} {users : Collection User} {profiles : Collection ListedProfile}
  {query : ListProfilesQuery}

theorem filter_eq_ok :
    query.filter tables = .ok {
      specialization := query.specialization.map Subtype.val
      language := query.language.map fun language => Regex.anchored (units language.val)
      minRateCents := query.minRateCents
      maxRateCents := query.maxRateCents
      search := query.search.map fun search => Regex.literal (units search.val) } := by
  have hlanguage : ∀ s, newRegExp tables (HrProfileService.languagePattern s) =
      .ok (Regex.anchored s) := by
    intro s
    rw [newRegExp, parse_languagePattern]
  have hsearch : ∀ s, newRegExp tables (HrProfileService.searchPattern s) =
      .ok (Regex.literal s) := by
    intro s
    rw [newRegExp, HrProfileService.searchPattern, parse_escapeRegex]
  unfold ListProfilesQuery.filter
  cases query.language <;> cases query.search <;> simp [hlanguage, hsearch] <;> rfl

theorem matches_iff_finds {filter : ProfileFilter} (h : query.filter tables = .ok filter)
    (p : ListedProfile) : filter.Matches tables p ↔ query.Finds tables p := by
  obtain rfl := Except.ok.inj (filter_eq_ok.symm.trans h)
  simp only [ProfileFilter.Matches, ListProfilesQuery.Finds, Option.mem_map, forall_exists_index,
    and_imp, forall_apply_eq_imp_iff₂, Regex.test_anchored_iff, Regex.test_literal_iff]
  exact Iff.rfl

/-- **Every request is answered** with the page of the profiles asked for. -/
theorem listPublicProfiles_eq_ok
    (sort : (ListedProfile → ℚ) → List ListedProfile → List ListedProfile) :
    listPublicProfiles tables users profiles sort query =
      .ok ((paginate query.limit query.page (query.found tables profiles).length
        (sort query.sortKey (query.found tables profiles))).map (toPublicProfile users)) := by
  have hfound : ∀ filter, query.filter tables = .ok filter →
      profiles.docs.filter (filter.Matches tables) = query.found tables profiles := by
    intro filter h
    refine List.filter_congr fun p _ => ?_
    simp only [matches_iff_finds h]
  refine bind_eq_ok.2 ⟨_, filter_eq_ok, ?_⟩
  dsimp only
  rw [hfound _ filter_eq_ok]
  rfl

end

/-! ### The pages -/

/-- The pages part the directory, when all that is known of the database is that it sorts by the key
it is given; every request may find the profiles of one key in another order. -/
structure PagesPartition (tables : UnitTables) (users : Collection User)
    (profiles : Collection ListedProfile) (query : ListProfilesQuery) : Prop where
  /-- The pages up to the last have every profile asked for exactly once. -/
  complete : ∀ sort : ℕ → (ListedProfile → ℚ) → List ListedProfile → List ListedProfile,
    (∀ n, IsAnswer query.sortKey (query.found tables profiles)
      (sort n query.sortKey (query.found tables profiles))) →
    ∀ results : ℕ → Page PublicProfile,
      (∀ page : {n : ℕ // 1 ≤ n},
        listPublicProfiles tables users profiles (sort page) { query with page } =
          .ok (results page)) →
      ((List.range (results 1).totalPages).flatMap fun k => (results (k + 1)).data).Perm
        ((query.found tables profiles).map (toPublicProfile users))
  /-- Every page but the last is full. -/
  full : ∀ sort, IsAnswer query.sortKey (query.found tables profiles)
      (sort query.sortKey (query.found tables profiles)) →
    ∀ page result, listPublicProfiles tables users profiles sort { query with page } = .ok result →
      page < result.totalPages → result.data.length = query.limit
  /-- A page beyond the last is the last one. -/
  clamped : ∀ sort page result,
    listPublicProfiles tables users profiles sort { query with page } = .ok result →
      ∀ last : {n : ℕ // 1 ≤ n}, last.val = result.totalPages → last ≤ page →
        listPublicProfiles tables users profiles sort { query with page := last } = .ok result

section

variable {tables : UnitTables} {users : Collection User} {profiles : Collection ListedProfile}
  {query : ListProfilesQuery}

theorem listPublicProfiles_page
    (sort : (ListedProfile → ℚ) → List ListedProfile → List ListedProfile)
    (page : {n : ℕ // 1 ≤ n}) :
    listPublicProfiles tables users profiles sort { query with page } =
      .ok ((paginate query.limit page (query.found tables profiles).length
        (sort query.sortKey (query.found tables profiles))).map (toPublicProfile users)) :=
  listPublicProfiles_eq_ok sort

theorem found_nodup : (query.found tables profiles).Nodup :=
  (profiles.compatible.imp fun h => by
    rintro rfl
    exact Document.not_compatible_self _ h).filter _

theorem map_toPublicProfile_nodup :
    ((query.found tables profiles).map (toPublicProfile users)).Nodup := by
  refine List.Nodup.map_on (fun p hp q hq heq => ?_) found_nodup
  have hp := (List.mem_filter.1 hp).1
  have hq := (List.mem_filter.1 hq).1
  exact Collection.eq_of_docId hp hq (congrArg PublicProfile.id heq)

theorem PagesPartition.not_straddles (h : PagesPartition tables users profiles query) (k : ℕ) :
    ¬ Straddles query.sortKey (query.found tables profiles) (k * query.limit) := by
  intro hk
  obtain ⟨answers, hanswers, hdouble⟩ := exists_not_nodup query.limit.property.1 hk
  have hall := h.complete (fun n _ _ => answers n) hanswers (fun n =>
    (paginate query.limit n (query.found tables profiles).length (answers n)).map
      (toPublicProfile users)) fun page => listPublicProfiles_page _ page
  have hpages := flatMap_paginate (toPublicProfile users) query.limit
    (query.found tables profiles).length answers
  have hnodup := (hall.nodup_iff).2 map_toPublicProfile_nodup
  exact hdouble (List.Nodup.of_map _ (hpages ▸ hnodup))

/-- **The pages of the directory** part it exactly when no boundary between two pages goes through
the profiles of one sort key. -/
theorem pagesPartition_iff (tables : UnitTables) (users : Collection User)
    (profiles : Collection ListedProfile) (query : ListProfilesQuery) :
    PagesPartition tables users profiles query ↔
      ∀ k, ¬ Straddles query.sortKey (query.found tables profiles) (k * query.limit) := by
  have hlimit := query.limit.property.1
  constructor
  · exact PagesPartition.not_straddles
  · intro hclean
    refine ⟨fun sort hsort results hresults => ?_, fun sort hsort page result hresult hlt => ?_,
      fun sort page result hresult last hlast hle => ?_⟩
    · -- the pages together are the slices of the sorted list
      have heq : ∀ n, 1 ≤ n → results n = (paginate query.limit n
          (query.found tables profiles).length
          (sort n query.sortKey (query.found tables profiles))).map (toPublicProfile users) :=
        fun n hn => Except.ok.inj
          ((hresults ⟨n, hn⟩).symm.trans (listPublicProfiles_page (sort n) ⟨n, hn⟩))
      have hpages := flatMap_paginate (toPublicProfile users) query.limit
        (query.found tables profiles).length
        fun n => sort n query.sortKey (query.found tables profiles)
      have hall := ((pages_perm_iff hlimit found_nodup query.sortKey).2 hclean _ hsort).map
        (toPublicProfile users)
      rw [← hpages] at hall
      rw [heq 1 le_rfl]
      simp only [heq _ (Nat.succ_pos _)]
      exact hall
    · -- a page before the last is full
      obtain rfl := Except.ok.inj ((listPublicProfiles_page sort page).symm.trans hresult)
      have hlength := hsort.perm.length_eq
      change page.val < totalPages query.limit (query.found tables profiles).length at hlt
      refine (List.length_map _).trans ?_
      rw [paginate_of_le hlt.le]
      exact length_slice hlimit page.property (hlength ▸ hlt)
    · -- a page past the last is answered with the last one
      obtain rfl := Except.ok.inj ((listPublicProfiles_page sort page).symm.trans hresult)
      rw [listPublicProfiles_page, hlast]
      change last.val = totalPages query.limit (query.found tables profiles).length at hlast
      have hle : totalPages query.limit (query.found tables profiles).length ≤ page.val :=
        hlast ▸ hle
      exact congrArg (fun p => Except.ok (Page.map (toPublicProfile users) p))
        (paginate_of_ge hle _).symm

end

/-! ### Profiles of one rating -/

/-- A published profile that nobody has rated yet. -/
def unratedProfile (id userId : ObjectId) : ListedProfile where
  id := id
  userId := userId
  status := .published
  isAvailable := true
  hourlyRateCents := 5000
  currency := .usd
  headline := "Recruiter"
  bio := "Ten years of recruiting."
  specializations := ["RECRUITMENT"]
  yearsOfExperience := 10
  companyName := none
  languages := ["English"]
  city := none
  country := none
  profileImageUrl := none
  certifications := []
  workHistory := []
  rejectionReason := none
  reviewedBy := none
  reviewedAt := none
  rating := 0
  ratingCount := 0
  createdAt := 0

/-- Two such profiles. -/
def twoUnrated : Collection ListedProfile :=
  ⟨[unratedProfile 1 2, unratedProfile 3 4], by simp [Document.Compatible, Document.docId,
    Document.indexKey, unratedProfile]⟩

/-- With one profile to a page and the default sort, both pages can show the same profile. -/
theorem not_pagesPartition :
    ¬ ∀ (tables : UnitTables) (users : Collection User) (profiles : Collection ListedProfile)
      (query : ListProfilesQuery), PagesPartition tables users profiles query := by
  intro h
  refine (h ⟨id, fun _ => false⟩ .empty twoUnrated { limit := ⟨1, by decide⟩ }).not_straddles 1
    ⟨unratedProfile 1 2, ?_, ?_⟩
  · decide +kernel
  · decide +kernel

end HrBooking
