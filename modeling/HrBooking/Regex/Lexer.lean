import HrBooking.Text.Units

/-!
# The tokens of a pattern

A pattern of the language's regular expressions, without the flags `u` and `v`, is read into
tokens: atoms, assertions, quantifiers, and the brackets and bars of groups.  In these patterns a
brace that begins no quantifier and a closing bracket stand for themselves, and so does a letter
after a backslash that has no meaning there.

* `Token` : what a pattern is made of; a class and an escape are one token each.
* `readEscape`, `readClass`, `readBraces`, `readGroup` : the tokens that are longer than a unit.
* `lex` : the tokens of a pattern, when all of them can be read.
-/

namespace HrBooking

namespace Regex

/-- The name of a group. -/
abbrev GroupName := List CodeUnit

/-- An element of a class; the classes of the escapes come with their complements. -/
inductive SetItem where
  | range (lo hi : CodeUnit)
  | digit (inverted : Bool)
  | space (inverted : Bool)
  | word (inverted : Bool)
  deriving DecidableEq

/-- What is matched as one piece. -/
inductive Atom where
  | char (c : CodeUnit)
  | any
  | set (inverted : Bool) (items : List SetItem)
  | backref (index : ℕ)
  deriving DecidableEq

/-- What is asserted of a position. -/
inductive Assertion where
  | atStart | atEnd | boundary | notBoundary
  deriving DecidableEq

/-- What a parenthesis opens. -/
inductive GroupKind where
  | capture (name : Option GroupName)
  | plain
  | look (behind negative : Bool)
  deriving DecidableEq

/-- A piece of a pattern. -/
inductive Token where
  | atom (a : Atom)
  | assertion (a : Assertion)
  | opening (kind : GroupKind)
  | closing
  | bar
  | quantifier (min : ℕ) (max : Option ℕ) (greedy : Bool)
  deriving DecidableEq

/-! ### Digits -/

def isDigit (u : CodeUnit) : Bool := unit '0' ≤ u && u ≤ unit '9'

def isOctal (u : CodeUnit) : Bool := unit '0' ≤ u && u ≤ unit '7'

def isLower (u : CodeUnit) : Bool := unit 'a' ≤ u && u ≤ unit 'z'

def isUpper (u : CodeUnit) : Bool := unit 'A' ≤ u && u ≤ unit 'Z'

/-- The value of a hexadecimal digit. -/
def hexDigit (u : CodeUnit) : Option ℕ :=
  if isDigit u then some (u - unit '0').toNat
  else if unit 'a' ≤ u ∧ u ≤ unit 'f' then some ((u - unit 'a').toNat + 10)
  else if unit 'A' ≤ u ∧ u ≤ unit 'F' then some ((u - unit 'A').toNat + 10)
  else none

/-- The value of exactly so many hexadecimal digits. -/
def readHex (count : ℕ) (s : List CodeUnit) : Option ℕ :=
  if s.length < count then none
  else (s.take count).foldlM (fun v u => (hexDigit u).map (16 * v + ·)) 0

/-- The value of digits in a base up to ten. -/
def digitsValue (base : ℕ) (s : List CodeUnit) : ℕ :=
  s.foldl (fun v u => base * v + (u - unit '0').toNat) 0

/-- The octal digits of an escape: three of them when the first is at most three, else two. -/
def octalDigits (s : List CodeUnit) : List CodeUnit :=
  (s.take (if s.head?.any (· ≤ unit '3') then 3 else 2)).takeWhile isOctal

/-! ### Escapes -/

/-- An escape that stands for one unit, and how long it is without the backslash.  The letter `k`
begins a reference where groups have names. -/
def readCharEscape (named : Bool) : List CodeUnit → Option (CodeUnit × ℕ)
  | [] => none
  | u :: s =>
    if u = unit 't' then some (0x09, 1)
    else if u = unit 'n' then some (0x0A, 1)
    else if u = unit 'v' then some (0x0B, 1)
    else if u = unit 'f' then some (0x0C, 1)
    else if u = unit 'r' then some (0x0D, 1)
    else if u = unit 'c' then
      match s with
      | l :: _ => if isLower l || isUpper l then some (l % 32, 2) else none
      | [] => none
    else if isOctal u then
      let digits := octalDigits (u :: s)
      some ((digitsValue 8 digits).toUInt16, digits.length)
    else if u = unit 'x' then some (((readHex 2 s).map fun v => (v.toUInt16, 3)).getD (u, 1))
    else if u = unit 'u' then some (((readHex 4 s).map fun v => (v.toUInt16, 5)).getD (u, 1))
    else if named && u = unit 'k' then none
    else some (u, 1)

/-- The escapes of the classes of digits, white space and word characters. -/
def setEscape (u : CodeUnit) : Option SetItem :=
  if u = unit 'd' then some (.digit false)
  else if u = unit 'D' then some (.digit true)
  else if u = unit 's' then some (.space false)
  else if u = unit 'S' then some (.space true)
  else if u = unit 'w' then some (.word false)
  else if u = unit 'W' then some (.word true)
  else none

/-- A name in angle brackets, and how long it is with them. -/
def readName (isName : GroupName → Bool) : List CodeUnit → Option (GroupName × ℕ)
  | [] => none
  | u :: s =>
    let name := s.takeWhile (· ≠ unit '>')
    if u = unit '<' ∧ isName name ∧ name.length < s.length then some (name, name.length + 2)
    else none

/-- What is known of a pattern before it is read: which texts are names, and the names of its
capturing groups. -/
structure Scope where
  isName : GroupName → Bool
  groups : List (Option GroupName)

/-- Some group has a name. -/
def Scope.named (scope : Scope) : Bool := scope.groups.any Option.isSome

/-- The token of an escape, and how long it is without the backslash. -/
def readEscape (scope : Scope) : List CodeUnit → Option (Token × ℕ)
  | [] => none
  | u :: s =>
    let digits := (u :: s).takeWhile isDigit
    if u = unit 'b' then some (.assertion .boundary, 1)
    else if u = unit 'B' then some (.assertion .notBoundary, 1)
    else if scope.named && u = unit 'k' then
      match readName scope.isName s with
      | some (name, n) =>
        if some name ∈ scope.groups then
          some (.atom (.backref (scope.groups.idxOf (some name) + 1)), n + 1)
        else none
      | none => none
    else if digits ≠ [] ∧ u ≠ unit '0' ∧ digitsValue 10 digits ≤ scope.groups.length then
      some (.atom (.backref (digitsValue 10 digits)), digits.length)
    else
      match setEscape u with
      | some item => some (.atom (.set false [item]), 1)
      | none =>
        match readCharEscape scope.named (u :: s) with
        | some (c, n) => some (.atom (.char c), n)
        -- a `c` without its letter leaves the backslash alone
        | none => if u = unit 'c' then some (.atom (.char (unit '\\')), 0) else none

/-! ### Classes -/

/-- An element of a class before the ranges are read. -/
inductive ClassAtom where
  | char (c : CodeUnit)
  | dash
  | set (item : SetItem)

/-- An escape in a class, and how long it is without the backslash. -/
def readClassEscape (named : Bool) : List CodeUnit → Option (ClassAtom × ℕ)
  | [] => none
  | u :: s =>
    if u = unit 'b' then some (.char 0x08, 1)
    else
      match setEscape u with
      | some item => some (.set item, 1)
      | none =>
        match readCharEscape named (u :: s), s with
        | some (c, n), _ => some (.char c, n)
        | none, l :: _ =>
          if u = unit 'c' then
            if isDigit l || l = unit '_' then some (.char (l % 32), 2)
            else some (.char (unit '\\'), 0)
          else none
        | none, [] => if u = unit 'c' then some (.char (unit '\\'), 0) else none

/-- The elements up to the closing bracket, and how many units they are with it; the first units
are skipped. -/
def classAtoms (named : Bool) : ℕ → List CodeUnit → Option (List ClassAtom × ℕ)
  | _, [] => none
  | skip + 1, _ :: s => (classAtoms named skip s).map fun p => (p.1, p.2 + 1)
  | 0, u :: s =>
    if u = unit ']' then some ([], 1)
    else if u = unit '\\' then
      match readClassEscape named s with
      | some (a, n) => (classAtoms named n s).map fun p => (a :: p.1, p.2 + 1)
      | none => none
    else
      let a := if u = unit '-' then .dash else .char u
      (classAtoms named 0 s).map fun p => (a :: p.1, p.2 + 1)

/-- An element that is no end of a range. -/
def ClassAtom.item : ClassAtom → SetItem
  | char c => .range c c
  | dash => .range (unit '-') (unit '-')
  | set item => item

/-- The unit that an end of a range stands for. -/
def ClassAtom.bound : ClassAtom → Option CodeUnit
  | char c => some c
  | dash => some (unit '-')
  | set _ => none

/-- The elements with their ranges; a range from a class of an escape is no range. -/
def classItems : List ClassAtom → Option (List SetItem)
  | a :: .dash :: b :: rest =>
    match a.bound, b.bound with
    | some lo, some hi => if lo ≤ hi then (classItems rest).map (.range lo hi :: ·) else none
    | _, _ => (classItems rest).map ([a.item, ClassAtom.dash.item, b.item] ++ ·)
  | a :: rest => (classItems rest).map (a.item :: ·)
  | [] => some []

/-- A class, and how long it is without the opening bracket. -/
def readClass (named : Bool) (s : List CodeUnit) : Option (Atom × ℕ) :=
  let inverted := s.head? = some (unit '^')
  let skip := if inverted then 1 else 0
  match classAtoms named skip s with
  | some (atoms, n) => (classItems atoms).map fun items => (.set inverted items, n)
  | none => none

/-! ### Quantifiers and groups -/

/-- The bounds of a quantifier in braces, and how long it is without the opening brace. -/
def readBraces (s : List CodeUnit) : Option ((ℕ × Option ℕ) × ℕ) :=
  let low := s.takeWhile isDigit
  let min := digitsValue 10 low
  if low = [] then none
  else
    match s.drop low.length with
    | [] => none
    | u :: rest =>
      if u = unit '}' then some ((min, some min), low.length + 1)
      else if u = unit ',' then
        let high := rest.takeWhile isDigit
        if (rest.drop high.length).head? = some (unit '}') then
          some ((min, if high = [] then none else some (digitsValue 10 high)),
            low.length + high.length + 2)
        else none
      else none

/-- A quantifier with the bounds, and whether a question mark makes it lazy. -/
def readGreed (min : ℕ) (max : Option ℕ) (n : ℕ) (s : List CodeUnit) : Token × ℕ :=
  if s[n]? = some (unit '?') then (.quantifier min max false, n + 1)
  else (.quantifier min max true, n)

/-- What is after an opening parenthesis, and how long it is. -/
def readGroup (isName : GroupName → Bool) (s : List CodeUnit) : Option (GroupKind × ℕ) :=
  if s.head? ≠ some (unit '?') then some (.capture none, 0)
  else if s[1]? = some (unit ':') then some (.plain, 2)
  else if s[1]? = some (unit '=') then some (.look false false, 2)
  else if s[1]? = some (unit '!') then some (.look false true, 2)
  else if s[1]? = some (unit '<') ∧ s[2]? = some (unit '=') then some (.look true false, 3)
  else if s[1]? = some (unit '<') ∧ s[2]? = some (unit '!') then some (.look true true, 3)
  else (readName isName (s.drop 1)).map fun p => (.capture (some p.1), p.2 + 1)

/-! ### The lexer -/

/-- The token that begins with a unit, and how many units of the rest it takes. -/
def readToken (scope : Scope) (u : CodeUnit) (s : List CodeUnit) : Option (Token × ℕ) :=
  if u = unit '\\' then readEscape scope s
  else if u = unit '^' then some (.assertion .atStart, 0)
  else if u = unit '$' then some (.assertion .atEnd, 0)
  else if u = unit '.' then some (.atom .any, 0)
  else if u = unit '*' then some (readGreed 0 none 0 s)
  else if u = unit '+' then some (readGreed 1 none 0 s)
  else if u = unit '?' then some (readGreed 0 (some 1) 0 s)
  else if u = unit '(' then (readGroup scope.isName s).map fun p => (.opening p.1, p.2)
  else if u = unit ')' then some (.closing, 0)
  else if u = unit '[' then (readClass scope.named s).map fun p => (.atom p.1, p.2)
  else if u = unit '|' then some (.bar, 0)
  else
    match if u = unit '{' then readBraces s else none with
    | some ((min, max), n) => some (readGreed min max n s)
    | none => some (.atom (.char u), 0)

/-- The tokens after the first units have been skipped. -/
def lexFrom (scope : Scope) : ℕ → List CodeUnit → Option (List Token)
  | _, [] => some []
  | skip + 1, _ :: s => lexFrom scope skip s
  | 0, u :: s =>
    match readToken scope u s with
    | some (t, n) => (lexFrom scope n s).map (t :: ·)
    | none => none

/-- The names of the capturing groups, in the order of their parentheses. -/
def captureNames (tokens : List Token) : List (Option GroupName) :=
  tokens.filterMap fun t => match t with
    | .opening (.capture name) => some name
    | _ => none

/-- The tokens of a pattern: read once for its groups, and again with them known. -/
def lex (isName : GroupName → Bool) (s : List CodeUnit) : Option (List Token) :=
  match lexFrom ⟨isName, []⟩ 0 s with
  | none => none
  | some tokens =>
    let groups := captureNames tokens
    if (groups.filterMap id).Nodup then lexFrom ⟨isName, groups⟩ 0 s else none

end Regex

end HrBooking
