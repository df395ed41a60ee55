import HrBooking.Regex.Parser
import Mathlib.Data.List.Infix

/-!
# Matching

A pattern is tried at a position and answers the positions where it can end, in the order in which
they are tried.  It reads backwards when it stands behind a position.

* `Node.run` : the ends of a pattern from a position.
* `test` : a pattern matches somewhere in a text.
* `test_literal_iff` : a text without meaning is looked for as it is, up to case.
* `test_anchored_iff` : between the ends of the text nothing else may be.
-/

namespace HrBooking

namespace Regex

/-- A text, and what its units are compared by. -/
structure Subject where
  text : List CodeUnit
  fold : CodeUnit → CodeUnit

/-- How far a match has come, and what its groups have captured. -/
structure Position where
  index : ℕ
  captures : ℕ → Option (ℕ × ℕ)

/-! ### Sets of units -/

def isLineTerminator (u : CodeUnit) : Bool := u ∈ [0x0A, 0x0D, 0x2028, 0x2029]

def isSpace (u : CodeUnit) : Bool :=
  u ∈ [0x09, 0x0A, 0x0B, 0x0C, 0x0D, 0x20, 0xA0, 0x1680, 0x2028, 0x2029, 0x202F, 0x205F, 0x3000,
    0xFEFF] || (0x2000 ≤ u && u ≤ 0x200A)

def isWordUnit (u : CodeUnit) : Bool := isDigit u || isLower u || isUpper u || u = unit '_'

def SetItem.has (u : CodeUnit) : SetItem → Bool
  | range lo hi => lo ≤ u && u ≤ hi
  | digit inverted => isDigit u != inverted
  | space inverted => isSpace u != inverted
  | word inverted => isWordUnit u != inverted

namespace Subject

variable (subject : Subject)

/-- Some unit of the set is the same as the given one. -/
def hasLike (set : CodeUnit → Bool) (u : CodeUnit) : Bool :=
  (List.range 0x10000).any fun n =>
    set n.toUInt16 && subject.fold n.toUInt16 = subject.fold u

/-- The unit that is read next. -/
def next (back : Bool) (index : ℕ) : Option CodeUnit :=
  if back then if index = 0 then none else subject.text[index - 1]? else subject.text[index]?

/-- Read one unit that passes a test. -/
def readUnit (test : CodeUnit → Bool) (back : Bool) (x : Position) : List Position :=
  match subject.next back x.index with
  | some u =>
    if test u then [{ x with index := if back then x.index - 1 else x.index + 1 }] else []
  | none => []

/-- Read a text again. -/
def readAgain (s : List CodeUnit) (back : Bool) (x : Position) : List Position :=
  let start := if back then x.index - s.length else x.index
  if back ∧ x.index < s.length then []
  else if ((subject.text.drop start).take s.length).map subject.fold = s.map subject.fold then
    [{ x with index := if back then start else start + s.length }]
  else []

def runAtom (back : Bool) (x : Position) : Atom → List Position
  | .char c => subject.readUnit (fun u => subject.fold u = subject.fold c) back x
  | .any => subject.readUnit (subject.hasLike fun u => !isLineTerminator u) back x
  | .set inverted items =>
    subject.readUnit (fun u => subject.hasLike (fun v => items.any (SetItem.has v)) u != inverted)
      back x
  | .backref index =>
    match x.captures index with
    | some (start, stop) =>
      subject.readAgain ((subject.text.drop start).take (stop - start)) back x
    -- a group that has captured nothing matches nothing, everywhere
    | none => [x]

/-- There is a word character on exactly one side. -/
def isBoundary (index : ℕ) : Bool :=
  (subject.next true index).any isWordUnit != (subject.next false index).any isWordUnit

def holds (index : ℕ) : Assertion → Bool
  | .atStart => index = 0
  | .atEnd => index = subject.text.length
  | .boundary => subject.isBoundary index
  | .notBoundary => !subject.isBoundary index

end Subject

/-! ### Patterns -/

/-- Repeat a pattern.  What need not be repeated must move, so the fuel of all necessary
repetitions and one for every unit of the text is enough. -/
def repeatFrom (body : Position → List Position) (greedy : Bool) :
    ℕ → ℕ → Option ℕ → Position → List Position
  | 0, _, _, _ => []
  | fuel + 1, min, max, x =>
    if max = some 0 then [x]
    else
      let more := (body x).flatMap fun y =>
        if min = 0 ∧ y.index = x.index then []
        else repeatFrom body greedy fuel (min - 1) (max.map (· - 1)) y
      if min ≠ 0 then more else if greedy then more ++ [x] else x :: more

/-- The groups inside a pattern. -/
def Node.groups : Node → List ℕ
  | empty => []
  | atom _ => []
  | assertion _ => []
  | seq a b => a.groups ++ b.groups
  | alt a b => a.groups ++ b.groups
  | capture index a => index :: a.groups
  | look _ _ a => a.groups
  | rep _ _ _ a => a.groups

/-- Every repetition forgets what its groups captured before. -/
def Position.forget (groups : List ℕ) (x : Position) : Position :=
  { x with captures := fun i => if i ∈ groups then none else x.captures i }

/-- A group captures what is between two positions. -/
def Position.capture (start : ℕ) (index : ℕ) (y : Position) : Position :=
  { y with captures := fun i =>
      if i = index then some (min start y.index, max start y.index) else y.captures i }

/-- The positions where a pattern can end, the preferred ones first. -/
def Node.run (subject : Subject) : Node → Bool → Position → List Position
  | empty, _, x => [x]
  | atom a, back, x => subject.runAtom back x a
  | assertion a, _, x => if subject.holds x.index a then [x] else []
  | seq a b, back, x =>
    if back then (b.run subject back x).flatMap (a.run subject back)
    else (a.run subject back x).flatMap (b.run subject back)
  | alt a b, back, x => a.run subject back x ++ b.run subject back x
  | capture index a, back, x => (a.run subject back x).map (Position.capture x.index index)
  | look behind negative a, _, x =>
    match (a.run subject behind x).head? with
    | some y => if negative then [] else [{ y with index := x.index }]
    | none => if negative then [x] else []
  | rep min max greedy a, back, x =>
    repeatFrom (fun x => a.run subject back (x.forget a.groups)) greedy
      (min + subject.text.length + 1) min max x

/-- The pattern matches from some position of the text. -/
def test (fold : CodeUnit → CodeUnit) (pattern : Node) (text : List CodeUnit) : Bool :=
  (List.range (text.length + 1)).any fun i =>
    !(pattern.run ⟨text, fold⟩ false ⟨i, fun _ => none⟩).isEmpty

/-! ### Texts without meaning -/

section Literal

variable {subject : Subject} {fold : CodeUnit → CodeUnit} {text : List CodeUnit}

theorem test_iff {pattern : Node} :
    test fold pattern text = true ↔
      ∃ i ≤ text.length, pattern.run ⟨text, fold⟩ false ⟨i, fun _ => none⟩ ≠ [] := by
  simp only [test, List.any_eq_true, List.mem_range, Nat.lt_succ_iff, Bool.not_eq_true',
    List.isEmpty_eq_false_iff]

theorem run_seq (a b : Node) (x : Position) :
    (Node.seq a b).run subject false x = (a.run subject false x).flatMap (b.run subject false) :=
  rfl

theorem run_chars (subject : Subject) (s : List CodeUnit) (rest : List Node) (x : Position) :
    (concat (s.map (fun c => .atom (.char c)) ++ rest)).run subject false x =
      if s.map subject.fold <+: (subject.text.map subject.fold).drop x.index then
        (concat rest).run subject false { x with index := x.index + s.length }
      else [] := by
  induction s generalizing x with
  | nil => simp
  | cons c s ih =>
    change (Node.seq (.atom (.char c)) (concat (s.map _ ++ rest))).run subject false x = _
    rw [run_seq]
    have hnext : subject.next false x.index = subject.text[x.index]? := rfl
    cases hu : subject.text[x.index]? with
    | none =>
      -- the text has ended
      have hlength := List.getElem?_eq_none_iff.1 hu
      rw [List.drop_eq_nil_of_le (by rwa [List.length_map]), if_neg (by simp)]
      simp only [Node.run, Subject.runAtom, Subject.readUnit, hnext, hu, List.flatMap_nil]
    | some u =>
      have hdrop : (subject.text.map subject.fold).drop x.index =
          subject.fold u :: (subject.text.map subject.fold).drop (x.index + 1) := by
        obtain ⟨hlt, rfl⟩ := List.getElem?_eq_some_iff.1 hu
        rw [List.drop_eq_getElem_cons (by rwa [List.length_map]), List.getElem_map]
      simp only [hdrop, List.map_cons, List.cons_prefix_cons, Node.run, Subject.runAtom,
        Subject.readUnit, hnext, hu, Bool.false_eq_true, if_false, decide_eq_true_eq]
      by_cases hc : subject.fold u = subject.fold c
      · rw [if_pos hc, List.flatMap_singleton, ih]
        simp only [hc, true_and, List.length_cons, Nat.add_assoc, Nat.add_comm 1]
      · rw [if_neg hc, if_neg fun h => hc h.1.symm]
        rfl

/-- **A text without meaning** matches exactly the texts that contain it, up to case. -/
theorem test_literal_iff (fold : CodeUnit → CodeUnit) (s text : List CodeUnit) :
    test fold (literal s) text = true ↔ s.map fold <:+: text.map fold := by
  have hrun : ∀ i, (literal s).run ⟨text, fold⟩ false ⟨i, fun _ => none⟩ ≠ [] ↔
      s.map fold <+: (text.map fold).drop i := by
    intro i
    have hchars := run_chars ⟨text, fold⟩ s [] ⟨i, fun _ => none⟩
    rw [List.append_nil] at hchars
    rw [literal, hchars, ne_eq, ite_eq_right_iff, not_forall]
    exact ⟨fun h => h.1, fun h => ⟨h, List.cons_ne_nil _ _⟩⟩
  rw [test_iff]
  simp only [hrun]
  constructor
  · rintro ⟨i, -, h⟩
    exact h.isInfix.trans (List.drop_suffix i _).isInfix
  · rintro ⟨u, v, h⟩
    refine ⟨u.length, ?_, v, ?_⟩
    · have hlength := congrArg List.length h
      simp only [List.length_append, List.length_map] at hlength
      omega
    · rw [← h, List.append_assoc, List.drop_left]

theorem run_atEnd {x : Position} :
    (concat [.assertion .atEnd]).run subject false x ≠ [] ↔ x.index = subject.text.length := by
  change (Node.seq (.assertion .atEnd) .empty).run subject false x ≠ [] ↔ _
  rw [run_seq]
  simp only [Node.run, Subject.holds, decide_eq_true_eq]
  split_ifs with h <;> simp [h]

/-- **Between the ends of the text** it matches exactly the texts that are the same up to case. -/
theorem test_anchored_iff (fold : CodeUnit → CodeUnit) (s text : List CodeUnit) :
    test fold (anchored s) text = true ↔ s.map fold = text.map fold := by
  have hrun : ∀ i, (anchored s).run ⟨text, fold⟩ false ⟨i, fun _ => none⟩ ≠ [] ↔
      i = 0 ∧ s.map fold <+: (text.map fold).drop i ∧ i + s.length = text.length := by
    intro i
    rw [anchored, run_seq]
    simp only [Node.run, Subject.holds, decide_eq_true_eq]
    split_ifs with hi
    · rw [List.flatMap_singleton, run_chars]
      split_ifs with hprefix
      · rw [run_atEnd]
        exact ⟨fun h => ⟨hi, hprefix, h⟩, fun h => h.2.2⟩
      · exact iff_of_false (fun h => h rfl) fun h => hprefix h.2.1
    · simp [hi]
  rw [test_iff]
  simp only [hrun]
  constructor
  · rintro ⟨_, -, rfl, hprefix, hlength⟩
    refine hprefix.eq_of_length ?_
    simpa using hlength
  · intro h
    have hlength := congrArg List.length h
    simp only [List.length_map] at hlength
    exact ⟨0, Nat.zero_le _, rfl, h ▸ List.prefix_rfl, by omega⟩

end Literal

end Regex

end HrBooking
