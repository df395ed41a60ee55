import HrBooking.Regex.Lexer

/-!
# The syntax tree of a pattern

The tokens are put together with a stack of the groups that are still open.

* `Node` : a pattern as a tree.
* `Parser.step`, `parse` : one token, and a whole pattern; `none` is a syntax error.
* `parse_escaped`, `parse_anchored` : a text whose characters are escaped stands for itself.
-/

namespace HrBooking

namespace Regex

/-- A pattern. -/
inductive Node where
  | empty
  | atom (a : Atom)
  | assertion (a : Assertion)
  | seq (a b : Node)
  | alt (a b : Node)
  | capture (index : ℕ) (a : Node)
  | look (behind negative : Bool) (a : Node)
  | rep (min : ℕ) (max : Option ℕ) (greedy : Bool) (a : Node)
  deriving DecidableEq

namespace Parser

/-- A group that is open, or the whole pattern. -/
inductive Opener where
  | whole
  | capture (index : ℕ)
  | plain
  | look (behind negative : Bool)
  deriving DecidableEq

/-- What has been read of a group: the alternatives before the last bar, and the terms after it with
whether they can be repeated.  The last one comes first. -/
structure Frame where
  opener : Opener
  alternatives : List Node
  terms : List (Node × Bool)
  deriving DecidableEq

/-- The groups that are open, the innermost one apart, and how many captures there have been. -/
structure State where
  top : Frame
  outer : List Frame
  captures : ℕ
  deriving DecidableEq

/-- The terms in their order. -/
def seqOf (terms : List (Node × Bool)) : Node := terms.foldl (fun n t => .seq t.1 n) .empty

/-- The node of a frame. -/
def Frame.node (frame : Frame) : Node :=
  frame.alternatives.foldl (fun n a => .alt a n) (seqOf frame.terms)

/-- The term of a closed group; what is behind a position cannot be repeated. -/
def Opener.close (n : Node) : Opener → Node × Bool
  | whole => (n, true)
  | capture index => (.capture index n, true)
  | plain => (n, true)
  | look behind negative => (.look behind negative n, !behind)

def Frame.push (frame : Frame) (term : Node × Bool) : Frame :=
  { frame with terms := term :: frame.terms }

def State.push (s : State) (term : Node × Bool) : State := { s with top := s.top.push term }

def State.opening (s : State) (opener : Opener) (captures : ℕ) : State :=
  ⟨⟨opener, [], []⟩, s.top :: s.outer, captures⟩

/-- One token. -/
def step (s : State) : Token → Option State
  | .atom a => some (s.push (.atom a, true))
  | .assertion a => some (s.push (.assertion a, false))
  | .opening (.capture _) => some (s.opening (.capture (s.captures + 1)) (s.captures + 1))
  | .opening .plain => some (s.opening .plain s.captures)
  | .opening (.look behind negative) => some (s.opening (.look behind negative) s.captures)
  | .closing =>
    match s.outer with
    | [] => none
    | frame :: outer => some ⟨frame.push (s.top.opener.close s.top.node), outer, s.captures⟩
  | .bar => some { s with top := ⟨s.top.opener, seqOf s.top.terms :: s.top.alternatives, []⟩ }
  | .quantifier min max greedy =>
    match s.top.terms with
    | (n, true) :: terms =>
      if ∀ m ∈ max, min ≤ m then
        some { s with top := { s.top with terms := (.rep min max greedy n, false) :: terms } }
      else none
    | _ => none

/-- Nothing has been read. -/
def init : State := ⟨⟨.whole, [], []⟩, [], 0⟩

/-- The tree of the tokens, when every group is closed. -/
def run (tokens : List Token) : Option Node :=
  match tokens.foldlM step init with
  | some ⟨top, [], _⟩ => some top.node
  | _ => none

end Parser

/-- The tree of a pattern; without one the pattern does not compile. -/
def parse (isName : GroupName → Bool) (s : List CodeUnit) : Option Node :=
  match lex isName s with
  | some tokens => Parser.run tokens
  | none => none

/-! ### Patterns without groups -/

/-- The nodes one after another. -/
def concat (nodes : List Node) : Node := nodes.foldr .seq .empty

/-- The characters of a text one after another. -/
def literal (s : List CodeUnit) : Node := concat (s.map fun c => .atom (.char c))

/-- The characters of a text between the ends of the text they are looked for in. -/
def anchored (s : List CodeUnit) : Node :=
  .seq (.assertion .atStart) (concat (s.map (fun c => .atom (.char c)) ++ [.assertion .atEnd]))

namespace Parser

/-- The term that an atom or an assertion becomes. -/
def termOf : Token → Option (Node × Bool)
  | .atom a => some (.atom a, true)
  | .assertion a => some (.assertion a, false)
  | _ => none

variable {s : State} {t : Token} {tokens : List Token} {term : Node × Bool}
  {terms : List (Node × Bool)}

theorem step_of_term (h : termOf t = some term) : step s t = some (s.push term) := by
  cases t with
  | atom a =>
    obtain rfl := Option.some.inj h
    rfl
  | assertion a =>
    obtain rfl := Option.some.inj h
    rfl
  | opening kind => cases h
  | closing => cases h
  | bar => cases h
  | quantifier min max greedy => cases h

theorem foldlM_of_terms (h : tokens.map termOf = terms.map some) (s : State) :
    tokens.foldlM step s =
      some { s with top := { s.top with terms := terms.reverse ++ s.top.terms } } := by
  induction tokens generalizing s terms with
  | nil =>
    obtain rfl := List.map_eq_nil_iff.1 h.symm
    rfl
  | cons t tokens ih =>
    obtain _ | ⟨term, terms⟩ := terms
    · cases h
    · obtain ⟨hterm, hrest⟩ := List.cons.inj h
      rw [List.foldlM_cons, step_of_term hterm]
      simp only [Option.bind_eq_bind, Option.bind_some]
      rw [ih hrest, List.reverse_cons, List.append_assoc]
      rfl

/-- **Without groups, bars and quantifiers** the tree is the concatenation of the terms. -/
theorem run_of_terms (h : tokens.map termOf = terms.map some) :
    run tokens = some (concat (terms.map Prod.fst)) := by
  unfold run
  rw [foldlM_of_terms h]
  simp only [init, Frame.node, List.append_nil, List.foldl_nil, seqOf, List.foldl_reverse, concat,
    List.foldr_map]

end Parser

/-! ### Escaped characters -/

/-- The characters that have a meaning of their own in a pattern. -/
def syntaxCharacters : List CodeUnit :=
  ['^', '$', '\\', '.', '*', '+', '?', '(', ')', '[', ']', '{', '}', '|'].map unit

/-- A syntax character gets a backslash. -/
def escapeUnit (u : CodeUnit) : List CodeUnit :=
  if u ∈ syntaxCharacters then [unit '\\', u] else [u]

section Escaped

variable {scope : Scope} {u : CodeUnit} {s rest : List CodeUnit} {tokens : List Token}

theorem readToken_of_notMem (h : u ∉ syntaxCharacters) (s : List CodeUnit) :
    readToken scope u s = some (.atom (.char u), 0) := by
  have hmem : ∀ c ∈ ['\\', '^', '$', '.', '*', '+', '?', '(', ')', '[', '|', '{'],
      unit c ∈ syntaxCharacters := List.all_iff_forall_prop.1 (by decide +kernel)
  have hne : ∀ c ∈ ['\\', '^', '$', '.', '*', '+', '?', '(', ')', '[', '|', '{'], u ≠ unit c := by
    rintro c hc rfl
    exact h (hmem c hc)
  simp only [List.forall_mem_cons] at hne
  simp [readToken, hne]

theorem readEscape_of_mem (h : u ∈ syntaxCharacters) (s : List CodeUnit) :
    readEscape scope (u :: s) = some (.atom (.char u), 1) := by
  have hall : ∀ v ∈ syntaxCharacters, isDigit v = false ∧ isOctal v = false ∧ setEscape v = none ∧
      v ∉ ['b', 'B', 'k', 't', 'n', 'v', 'f', 'r', 'c', 'x', 'u'].map unit :=
    List.all_iff_forall_prop.1 (by decide +kernel)
  obtain ⟨hdigit, hoctal, hset, hne⟩ := hall u h
  simp only [List.map_cons, List.map_nil, List.mem_cons, not_or] at hne
  simp [readEscape, readCharEscape, hdigit, hoctal, hset, hne]

/-- **Escaped characters** are read as themselves, whatever comes after them. -/
theorem lexFrom_escaped (scope : Scope) (s rest : List CodeUnit) :
    lexFrom scope 0 (s.flatMap escapeUnit ++ rest) =
      (lexFrom scope 0 rest).map (s.map (fun c => .atom (.char c)) ++ ·) := by
  induction s with
  | nil => exact Option.map_id'.symm
  | cons u s ih =>
    rw [List.flatMap_cons, List.append_assoc, List.map_cons]
    have hfirst : lexFrom scope 0 (escapeUnit u ++ (s.flatMap escapeUnit ++ rest)) =
        (lexFrom scope 0 (s.flatMap escapeUnit ++ rest)).map (.atom (.char u) :: ·) := by
      unfold escapeUnit
      split_ifs with hu
      · simp only [List.cons_append, List.nil_append, lexFrom, readToken, if_true,
          readEscape_of_mem hu]
      · simp only [List.cons_append, List.nil_append, lexFrom, readToken_of_notMem hu]
    rw [hfirst, ih, Option.map_map]
    rfl

end Escaped

section Compiled

variable {p : List CodeUnit} {tokens : List Token} {terms : List (Node × Bool)}

theorem captureNames_of_terms (h : tokens.map Parser.termOf = terms.map some) :
    captureNames tokens = [] := by
  refine List.filterMap_eq_nil_iff.2 fun t ht => ?_
  obtain ⟨term, -, hterm⟩ : ∃ term ∈ terms, some term = Parser.termOf t := by
    rw [← List.mem_map, ← h]
    exact List.mem_map_of_mem ht
  cases t with
  | opening kind => cases hterm
  | _ => rfl

/-- A pattern whose tokens are terms is compiled to their concatenation. -/
theorem parse_of_terms (isName : GroupName → Bool) (hlex : ∀ scope, lexFrom scope 0 p = some tokens)
    (h : tokens.map Parser.termOf = terms.map some) :
    parse isName p = some (concat (terms.map Prod.fst)) := by
  have hlexed : lex isName p = some tokens := by
    simp only [lex, hlex, captureNames_of_terms h, List.filterMap_nil, List.nodup_nil, if_true]
  simp only [parse, hlexed, Parser.run_of_terms h]

/-- **An escaped text** is compiled to the concatenation of its characters. -/
theorem parse_escaped (isName : GroupName → Bool) (s : List CodeUnit) :
    parse isName (s.flatMap escapeUnit) = some (literal s) := by
  have h : (s.map fun c => Token.atom (.char c)).map Parser.termOf =
      (s.map fun c => (Node.atom (.char c), true)).map some := by
    rw [List.map_map, List.map_map]
    rfl
  refine (parse_of_terms isName (fun scope => ?_) h).trans ?_
  · have hescaped := lexFrom_escaped scope s []
    simpa [lexFrom] using hescaped
  · rw [literal, List.map_map]
    rfl

theorem parse_anchored (isName : GroupName → Bool) (s : List CodeUnit) :
    parse isName (unit '^' :: s.flatMap escapeUnit ++ [unit '$']) = some (anchored s) := by
  have h : (Token.assertion .atStart :: (s.map (fun c => Token.atom (.char c)) ++
        [Token.assertion .atEnd])).map Parser.termOf =
      ((Node.assertion .atStart, false) :: (s.map (fun c => (Node.atom (.char c), true)) ++
        [(Node.assertion .atEnd, false)])).map some := by
    simp only [List.map_cons, List.map_append, List.map_map, List.map_nil]
    rfl
  refine (parse_of_terms isName (fun scope => ?_) h).trans ?_
  · have hstart : ∀ r, lexFrom scope 0 (unit '^' :: r) =
        (lexFrom scope 0 r).map (.assertion .atStart :: ·) := fun r => rfl
    have hend : lexFrom scope 0 [unit '$'] = some [.assertion .atEnd] := rfl
    rw [List.cons_append, hstart, lexFrom_escaped, hend]
    rfl
  · simp only [List.map_cons, List.map_append, List.map_map, List.map_nil]
    rfl

end Compiled

end Regex

end HrBooking
