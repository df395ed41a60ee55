import HrBooking.Regex.Matcher

/-!
# Search texts in patterns

A search text is escaped and becomes a regular expression with the flag `i`.  The services that
search each have an escape function of their own.

* `escapeRegex` of the two services, and the patterns they build.
* `regExpTest` : a pattern is compiled and tried on a text.
* `escapeRegex_literal` : a search text is compiled to its characters, and looked for as it is.
-/

namespace HrBooking

open Regex

/-- The language's tables of Unicode: how units are compared without regard to case, and which texts
are identifiers. -/
structure UnitTables where
  fold : CodeUnit → CodeUnit
  isName : List CodeUnit → Bool

/-- `new RegExp(pattern, 'i').test(text)`; without an answer the constructor throws. -/
def regExpTest (tables : UnitTables) (pattern text : List CodeUnit) : Option Bool :=
  (parse tables.isName pattern).map fun node => test tables.fold node text

/-- The text contains the other one, up to case. -/
def UnitTables.Contains (tables : UnitTables) (text s : List CodeUnit) : Prop :=
  s.map tables.fold <:+: text.map tables.fold

/-- The texts are the same up to case. -/
def UnitTables.Same (tables : UnitTables) (text s : List CodeUnit) : Prop :=
  s.map tables.fold = text.map tables.fold

instance (tables : UnitTables) (text s : List CodeUnit) : Decidable (tables.Contains text s) :=
  inferInstanceAs (Decidable (_ <:+: _))

instance (tables : UnitTables) (text s : List CodeUnit) : Decidable (tables.Same text s) :=
  inferInstanceAs (Decidable (_ = _))

namespace HrProfileService

/-- `escapeRegex` of `hr-profile.service.ts` -/
def escapeRegex (value : List CodeUnit) : List CodeUnit :=
  value.flatMap fun u =>
    if u ∈ ['.', '*', '+', '?', '^', '$', '{', '}', '(', ')', '|', '[', ']', '\\'].map unit then
      [unit '\\', u]
    else [u]

/-- The pattern of a search, in the public and in the admin list. -/
def searchPattern (search : List CodeUnit) : List CodeUnit := escapeRegex search

/-- The pattern of a language. -/
def languagePattern (language : List CodeUnit) : List CodeUnit :=
  units "^" ++ escapeRegex language ++ units "$"

end HrProfileService

namespace AdminUserService

/-- `escapeRegex` of `admin-user.service.ts` -/
def escapeRegex (value : List CodeUnit) : List CodeUnit :=
  value.flatMap fun u =>
    if u ∈ ['.', '*', '+', '?', '^', '$', '{', '}', '(', ')', '|', '[', ']', '\\'].map unit then
      [unit '\\', u]
    else [u]

/-- The pattern of a search for users. -/
def searchPattern (search : List CodeUnit) : List CodeUnit := escapeRegex search

end AdminUserService

theorem escapeRegex_eq (s : List CodeUnit) :
    HrProfileService.escapeRegex s = s.flatMap escapeUnit := by
  have hperm : (['.', '*', '+', '?', '^', '$', '{', '}', '(', ')', '|', '[', ']', '\\'].map
      unit).Perm syntaxCharacters := by
    decide +kernel
  refine congrArg (fun f => List.flatMap f s) (funext fun u => ?_)
  simp only [escapeUnit, hperm.mem_iff]

theorem admin_escapeRegex_eq (s : List CodeUnit) :
    AdminUserService.escapeRegex s = HrProfileService.escapeRegex s := rfl

variable (tables : UnitTables) (s text : List CodeUnit)

theorem parse_escapeRegex :
    parse tables.isName (HrProfileService.escapeRegex s) = some (literal s) := by
  rw [escapeRegex_eq, parse_escaped]

theorem parse_languagePattern :
    parse tables.isName (HrProfileService.languagePattern s) = some (anchored s) := by
  have hpattern : HrProfileService.languagePattern s =
      unit '^' :: s.flatMap escapeUnit ++ [unit '$'] := by
    rw [HrProfileService.languagePattern, escapeRegex_eq]
    rfl
  rw [hpattern, parse_anchored]

theorem regExpTest_search :
    regExpTest tables (HrProfileService.searchPattern s) text =
      some (decide (tables.Contains text s)) := by
  rw [regExpTest, HrProfileService.searchPattern, parse_escapeRegex, Option.map_some]
  refine congrArg some (Bool.eq_iff_iff.2 ?_)
  rw [test_literal_iff, decide_eq_true_iff]
  exact Iff.rfl

theorem regExpTest_language :
    regExpTest tables (HrProfileService.languagePattern s) text =
      some (decide (tables.Same text s)) := by
  rw [regExpTest, parse_languagePattern, Option.map_some]
  refine congrArg some (Bool.eq_iff_iff.2 ?_)
  rw [test_anchored_iff, decide_eq_true_iff]
  exact Iff.rfl

/-- **User search text is matched literally.**  It is compiled to the concatenation of its
characters, the patterns of the lists compile, and they find the texts that contain it, or that are
the language, up to case. -/
theorem escapeRegex_literal :
    (parse tables.isName (HrProfileService.escapeRegex s) = some (literal s) ∧
        parse tables.isName (AdminUserService.escapeRegex s) = some (literal s)) ∧
      regExpTest tables (HrProfileService.searchPattern s) text =
        some (decide (tables.Contains text s)) ∧
      regExpTest tables (AdminUserService.searchPattern s) text =
        some (decide (tables.Contains text s)) ∧
      regExpTest tables (HrProfileService.languagePattern s) text =
        some (decide (tables.Same text s)) := by
  have hsearch := regExpTest_search tables s text
  refine ⟨⟨parse_escapeRegex tables s, ?_⟩, hsearch, ?_, regExpTest_language tables s text⟩
  · rw [admin_escapeRegex_eq, parse_escapeRegex]
  · rw [AdminUserService.searchPattern, admin_escapeRegex_eq]
    exact hsearch

end HrBooking
