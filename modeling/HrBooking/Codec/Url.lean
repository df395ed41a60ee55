import HrBooking.Codec.Percent

/-!
# Reading URLs

What the receiver of a URL makes of its path and of its query, when the components were written by
`encodeURIComponent`.

* `searchParam` : a parameter of the query.
* `searchParam_append` : the first parameter is read back.
* `pathSegments` : the segments of a path, with the dot segments resolved.
* `map_pathSegments_eq_iff` : they are the segments that were written, unless one of them is dots.
* `isDots_encodeURIComponent` : a component is dots only when its text is.
-/

namespace HrBooking

/-! ### Queries -/

/-- A name or a value of a query; a plus sign stands for a space. -/
def formDecode (s : List Char) : String :=
  Utf8.decode (Percent.decode (s.map fun c => if c = '+' then ' ' else c))

/-- The name and the value of a parameter. -/
def splitParam (s : List Char) : String × String :=
  (formDecode (s.takeWhile (· ≠ '=')), formDecode ((s.dropWhile (· ≠ '=')).drop 1))

/-- What stands after the question mark and before the fragment. -/
def queryOf (url : List Char) : List Char :=
  ((url.takeWhile (· ≠ '#')).dropWhile (· ≠ '?')).drop 1

/-- The value of a parameter: the first of its name. -/
def searchParam (name url : String) : Option String :=
  ((((queryOf url.toList).splitOn '&').map splitParam).find? fun p => p.1 = name).map Prod.snd

section Query

variable {s t : List Char} {c : Char} {name value : String}

theorem ne_of_notMem (h : c ∉ s) : ∀ d ∈ s, decide (d ≠ c) = true := by
  intro d hd
  refine decide_eq_true ?_
  rintro rfl
  exact h hd

theorem takeWhile_ne_of_notMem (h : c ∉ s) : s.takeWhile (· ≠ c) = s := by
  have happend : (s ++ []).takeWhile (· ≠ c) = s ++ [].takeWhile (· ≠ c) :=
    List.takeWhile_append_of_pos (ne_of_notMem h)
  simpa using happend

theorem dropWhile_ne_append (h : c ∉ s) (t : List Char) :
    (s ++ c :: t).dropWhile (· ≠ c) = c :: t := by
  rw [List.dropWhile_append_of_pos (ne_of_notMem h)]
  exact List.dropWhile_cons_of_neg (by simp)

theorem takeWhile_ne_append (h : c ∉ s) (t : List Char) :
    (s ++ c :: t).takeWhile (· ≠ c) = s := by
  rw [List.takeWhile_append_of_pos (ne_of_notMem h), List.takeWhile_cons_of_neg (by simp),
    List.append_nil]

theorem formDecode_of_plus_notMem (h : '+' ∉ s) :
    formDecode s = Utf8.decode (Percent.decode s) := by
  have hmap : s.map (fun c => if c = '+' then ' ' else c) = s := by
    refine (List.map_congr_left fun c hc => if_neg ?_).trans (List.map_id s)
    rintro rfl
    exact h hc
  rw [formDecode, hmap]

theorem formDecode_encodeURIComponent (s : String) :
    formDecode (encodeURIComponent s).toList = s := by
  rw [formDecode_of_plus_notMem (notMem_encodeURIComponent (by decide) s)]
  exact decodeURIComponent_encodeURIComponent s

/-- **The one parameter of a query is read back.** -/
theorem searchParam_append {base : String} (hquery : '?' ∉ base.toList)
    (hfragment : '#' ∉ base.toList) (name value : String) :
    searchParam name (base ++ "?" ++ encodeURIComponent name ++ "=" ++ encodeURIComponent value) =
      some value := by
  have hnot : ∀ c ∈ ['#', '=', '&'], ∀ s, c ∉ (encodeURIComponent s).toList := by
    have hreserved : ['#', '=', '&'].all (fun c => decide (c ∉ componentChars)) = true := by
      decide
    intro c hc
    exact notMem_encodeURIComponent (of_decide_eq_true (List.all_eq_true.1 hreserved c hc))
  have htext : (base ++ "?" ++ encodeURIComponent name ++ "=" ++ encodeURIComponent value).toList =
      base.toList ++ '?' ::
        ((encodeURIComponent name).toList ++ '=' :: (encodeURIComponent value).toList) := by
    simp
  have hfragment' : '#' ∉ base.toList ++ '?' ::
      ((encodeURIComponent name).toList ++ '=' :: (encodeURIComponent value).toList) := by
    simp [hfragment, hnot]
  have hand : '&' ∉ (encodeURIComponent name).toList ++ '=' ::
      (encodeURIComponent value).toList := by
    simp [hnot]
  have hsplit : ((encodeURIComponent name).toList ++ '=' ::
      (encodeURIComponent value).toList).splitOn '&' =
        [(encodeURIComponent name).toList ++ '=' :: (encodeURIComponent value).toList] := by
    have hone : ∀ l ∈ [(encodeURIComponent name).toList ++ '=' ::
        (encodeURIComponent value).toList], '&' ∉ l := by simpa using hand
    simpa using List.splitOn_intercalate '&' hone (List.cons_ne_nil _ _)
  have hname := takeWhile_ne_append (hnot '=' (by simp) name) (encodeURIComponent value).toList
  have hvalue := dropWhile_ne_append (hnot '=' (by simp) name) (encodeURIComponent value).toList
  rw [searchParam, htext, queryOf, takeWhile_ne_of_notMem hfragment',
    dropWhile_ne_append hquery, List.drop_one, List.tail_cons, hsplit]
  simp only [List.map_cons, List.map_nil, splitParam, hname, hvalue, List.drop_one, List.tail_cons,
    formDecode_encodeURIComponent]
  simp

end Query

/-! ### Paths -/

/-- A segment that stays where it is. -/
def singleDots : List String := [".", "%2e", "%2E"]

/-- A segment that goes back. -/
def doubleDots : List String :=
  ["..", ".%2e", ".%2E", "%2e.", "%2E.", "%2e%2e", "%2e%2E", "%2E%2e", "%2E%2E"]

/-- A segment that names nothing. -/
def IsDots (segment : String) : Prop := segment ∈ singleDots ∨ segment ∈ doubleDots

instance (segment : String) : Decidable (IsDots segment) := inferInstanceAs (Decidable (_ ∨ _))

/-- Follow one segment from a path. -/
def follow (path : List String) (segment : String) : List String :=
  if segment ∈ doubleDots then path.dropLast
  else if segment ∈ singleDots then path
  else path ++ [segment]

/-- Follow the segments; after dots at the end there is an empty segment. -/
def addSegments : List String → List String → List String
  | path, [] => path
  | path, [last] => if IsDots last then follow path last ++ [""] else path ++ [last]
  | path, segment :: next :: rest => addSegments (follow path segment) (next :: rest)

/-- The segments of a path. -/
def pathSegments (path : List Char) : List String :=
  addSegments [] (((path.drop 1).splitOn '/').map String.ofList)

section Path

variable {path segments : List String} {segment : String}

theorem follow_of_not_isDots (h : ¬ IsDots segment) : follow path segment = path ++ [segment] := by
  rw [follow, if_neg fun hdouble => h (.inr hdouble), if_neg fun hsingle => h (.inl hsingle)]

theorem length_follow_le (h : IsDots segment) : (follow path segment).length ≤ path.length := by
  unfold follow
  split_ifs with hdouble hsingle
  · simp
  · exact Nat.le_refl _
  · exact absurd h (not_or.2 ⟨hsingle, hdouble⟩)

theorem length_addSegments_le (path segments : List String) :
    (addSegments path segments).length ≤ path.length + segments.length := by
  induction segments generalizing path with
  | nil => simp [addSegments]
  | cons segment rest ih =>
    have hfollow : (follow path segment).length ≤ path.length + 1 := by
      by_cases h : IsDots segment
      · exact Nat.le_succ_of_le (length_follow_le h)
      · rw [follow_of_not_isDots h, List.length_append]
        exact Nat.le_refl _
    cases rest with
    | nil =>
      rw [addSegments]
      split_ifs with h
      · simpa using length_follow_le h
      · simp
    | cons next rest =>
      have hrest := ih (follow path segment)
      rw [addSegments, List.length_cons]
      omega

/-- Whatever is read in the segments, as long as it tells dots from nothing: **they are followed as
they are** exactly when none of them are dots. -/
theorem map_addSegments_eq_iff {α : Type} {f : String → α} (hf : ∀ s, IsDots s → f s ≠ f "") :
    (addSegments path segments).map f = (path ++ segments).map f ↔
      ∀ segment ∈ segments, ¬ IsDots segment := by
  induction segments generalizing path with
  | nil => simp [addSegments]
  | cons segment rest ih =>
    by_cases h : IsDots segment
    · refine iff_of_false (fun heq => ?_) fun hall => hall segment List.mem_cons_self h
      have hlen := congrArg List.length heq
      have hfollow : (follow path segment).length ≤ path.length := length_follow_le h
      cases rest with
      | nil =>
        -- the last segment would have to be empty
        rw [addSegments, if_pos h, List.map_append, List.map_append] at heq
        have hlast := congrArg List.getLast? heq
        simp only [List.map_cons, List.map_nil, List.getLast?_concat, Option.some.injEq] at hlast
        exact hf segment h hlast.symm
      | cons next rest =>
        have hrest := length_addSegments_le (follow path segment) (next :: rest)
        rw [addSegments, List.length_map, List.length_map, List.length_append,
          List.length_cons] at hlen
        omega
    · have hrest := @ih (path ++ [segment])
      rw [List.forall_mem_cons, and_iff_right h, ← hrest]
      cases rest with
      | nil => simp [addSegments, h]
      | cons next rest =>
        rw [addSegments, follow_of_not_isDots h, List.append_assoc]
        rfl

/-- **A path is read as it was written** exactly when no segment is dots. -/
theorem map_pathSegments_eq_iff {α : Type} {f : String → α} (hf : ∀ s, IsDots s → f s ≠ f "")
    (hne : segments ≠ []) (hslash : ∀ s ∈ segments, '/' ∉ s.toList) :
    (pathSegments ('/' :: ['/'].intercalate (segments.map String.toList))).map f =
        segments.map f ↔
      ∀ segment ∈ segments, ¬ IsDots segment := by
  have hsplit : (['/'].intercalate (segments.map String.toList)).splitOn '/' =
      segments.map String.toList :=
    List.splitOn_intercalate '/' (by simpa using hslash) (by simpa using hne)
  have hback : (segments.map String.toList).map String.ofList = segments := by
    rw [List.map_map]
    exact (List.map_congr_left fun s _ => String.ofList_toList).trans (List.map_id _)
  rw [pathSegments, List.drop_one, List.tail_cons, hsplit, hback, ← map_addSegments_eq_iff hf,
    List.nil_append]

theorem isDots_encodeURIComponent (s : String) :
    IsDots (encodeURIComponent s) ↔ s = "." ∨ s = ".." := by
  constructor
  · intro h
    have hdecode : ∀ w ∈ singleDots ++ doubleDots,
        decodeURIComponent w = "." ∨ decodeURIComponent w = ".." := by decide
    have hs := hdecode _ (List.mem_append.2 h)
    rwa [decodeURIComponent_encodeURIComponent] at hs
  · rintro (rfl | rfl)
    · exact .inl (by decide)
    · exact .inr (by decide)

end Path

end HrBooking
