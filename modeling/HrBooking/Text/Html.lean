import HrBooking.Text.Template
import HrBooking.Text.Units

/-!
# Reading markup

The part of HTML that plain documents are written in: elements with double-quoted attributes, end
tags, elements that are closed at once, and references to characters by name.  The reader refuses
everything else, and it refuses an end tag that does not belong to the element opened last.

* `HtmlState`, `HtmlEvent` : where the reader is, and what it reports.
* `html` : the reader, for a table of references.
* `html_read_plain` : a text without special characters is read as it is.
* `html_read_flatMap` : so is any text, when its special characters are written as references.
-/

namespace HrBooking

/-- Where characters stand for themselves: between tags, or in the value of an attribute. -/
inductive HtmlPlace where
  | text
  | value (name : List CodeUnit)
  deriving DecidableEq

/-- What the reader is in the middle of. -/
inductive HtmlMode where
  | within (p : HtmlPlace)
  /-- after an ampersand, with the name so far -/
  | reference (p : HtmlPlace) (name : List CodeUnit)
  /-- after an opening angle bracket -/
  | markup
  /-- in the name of a tag, which may be an end tag -/
  | tagName (isEnd : Bool) (name : List CodeUnit)
  /-- between attributes -/
  | gap
  | attributeName (name : List CodeUnit)
  /-- after the equals sign of an attribute -/
  | equals (name : List CodeUnit)
  /-- after the closing quote of a value -/
  | afterValue
  /-- after the slash of an element that is closed at once -/
  | slash
  deriving DecidableEq

/-- The state of the reader: with the elements that are open, the innermost first. -/
structure HtmlState where
  mode : HtmlMode
  elements : List (List CodeUnit)
  deriving DecidableEq

/-- What is read. -/
inductive HtmlEvent where
  | opens (tag : List CodeUnit)
  | named (name : List CodeUnit)
  | closes (tag : List CodeUnit)
  /-- A character of the text or of the value of an attribute. -/
  | character (p : HtmlPlace) (u : CodeUnit)
  deriving DecidableEq

namespace HtmlState

/-- Outside all elements. -/
def outside : HtmlState := ⟨.within .text, []⟩

/-- Go on in another mode. -/
def goto (q : HtmlState) (mode : HtmlMode) : Option (HtmlState × List HtmlEvent) :=
  some ({ q with mode }, [])

/-- Go on in another mode, with something to report. -/
def report (q : HtmlState) (mode : HtmlMode) (e : HtmlEvent) :
    Option (HtmlState × List HtmlEvent) := some ({ q with mode }, [e])

/-- The element has been opened. -/
def push (q : HtmlState) (tag : List CodeUnit) (mode : HtmlMode) :
    Option (HtmlState × List HtmlEvent) := some (⟨mode, tag :: q.elements⟩, [.opens tag])

/-- The element that was opened last is closed. -/
def pop (q : HtmlState) (tag : List CodeUnit) : Option (HtmlState × List HtmlEvent) :=
  match q.elements with
  | [] => none
  | last :: rest => if last = tag then some (⟨.within .text, rest⟩, [.closes tag]) else none

/-- The element that was opened last is closed at once. -/
def popLast (q : HtmlState) : Option (HtmlState × List HtmlEvent) :=
  match q.elements with
  | [] => none
  | last :: _ => q.pop last

end HtmlState

/-- A character of a name. -/
def isNameUnit (u : CodeUnit) : Bool :=
  (unit 'a' ≤ u && u ≤ unit 'z') || (unit 'A' ≤ u && u ≤ unit 'Z') ||
    (unit '0' ≤ u && u ≤ unit '9') || u = unit '-'

section

variable (references : List (List CodeUnit × CodeUnit))

/-- One character. -/
def htmlStep (q : HtmlState) (u : CodeUnit) : Option (HtmlState × List HtmlEvent) :=
  match q.mode with
  | .within p =>
    if u = unit '&' then q.goto (.reference p [])
    else if p = .text ∧ u = unit '<' then q.goto .markup
    else if p ≠ .text ∧ u = unit '"' then q.goto .afterValue
    else q.report (.within p) (.character p u)
  | .reference p name =>
    if u = unit ';' then
      match references.find? fun r => r.1 = name with
      | some r => q.report (.within p) (.character p r.2)
      | none => none
    else q.goto (.reference p (name ++ [u]))
  | .markup =>
    if u = unit '/' then q.goto (.tagName true [])
    else if isNameUnit u then q.goto (.tagName false [u])
    else none
  | .tagName isEnd name =>
    if isNameUnit u then q.goto (.tagName isEnd (name ++ [u]))
    else if u = unit '>' then if isEnd then q.pop name else q.push name (.within .text)
    else if isEnd then none
    else if u = unit ' ' then q.push name .gap
    else if u = unit '/' then q.push name .slash
    else none
  | .gap =>
    if u = unit '/' then q.goto .slash
    else if isNameUnit u then q.goto (.attributeName [u])
    else none
  | .attributeName name =>
    if isNameUnit u then q.goto (.attributeName (name ++ [u]))
    else if u = unit '=' then q.report (.equals name) (.named name)
    else none
  | .equals name => if u = unit '"' then q.goto (.within (.value name)) else none
  | .afterValue =>
    if u = unit ' ' then q.goto .gap
    else if u = unit '>' then q.goto (.within .text)
    else none
  | .slash => if u = unit '>' then q.popLast else none

/-- The reader. -/
def html : Reader HtmlState CodeUnit HtmlEvent := ⟨htmlStep references⟩

end

/-- A character that stands for itself wherever characters do. -/
def isPlainUnit (u : CodeUnit) : Bool := u ≠ unit '&' && u ≠ unit '<' && u ≠ unit '"'

/-- No character of the text is special. -/
def Plain (s : List CodeUnit) : Prop := ∀ u ∈ s, isPlainUnit u = true

instance (s : List CodeUnit) : Decidable (Plain s) :=
  decidable_of_iff (s.all isPlainUnit = true) List.all_eq_true

section

variable {references : List (List CodeUnit × CodeUnit)} {p : HtmlPlace}
  {elements : List (List CodeUnit)} {u : CodeUnit} {s t : List CodeUnit}

@[simp] theorem plain_nil : Plain [] := by simp [Plain]

@[simp] theorem plain_append : Plain (s ++ t) ↔ Plain s ∧ Plain t := List.forall_mem_append

theorem htmlStep_plain (h : isPlainUnit u = true) :
    (html references).step ⟨.within p, elements⟩ u =
      some (⟨.within p, elements⟩, [.character p u]) := by
  simp only [isPlainUnit, Bool.and_eq_true, decide_eq_true_eq] at h
  obtain ⟨⟨hamp, hlt⟩, hquot⟩ := h
  simp only [html, htmlStep, HtmlState.report, if_neg hamp, hlt, hquot, and_false, if_false]

/-- **A text without special characters is read as it is.** -/
theorem html_read_plain (h : Plain s) :
    (html references).read ⟨.within p, elements⟩ s =
      some (⟨.within p, elements⟩, s.map (.character p)) :=
  Reader.read_map fun u hu => htmlStep_plain (h u hu)

theorem htmlStep_ampersand :
    (html references).step ⟨.within p, elements⟩ (unit '&') =
      some (⟨.reference p [], elements⟩, []) := by
  simp only [html, htmlStep, HtmlState.goto, if_true]

theorem html_read_name {name : List CodeUnit} (h : unit ';' ∉ s) :
    (html references).read ⟨.reference p name, elements⟩ s =
      some (⟨.reference p (name ++ s), elements⟩, []) := by
  induction s generalizing name with
  | nil => simp
  | cons u s ih =>
    obtain ⟨hu, hs⟩ : unit ';' ≠ u ∧ unit ';' ∉ s := by simpa using h
    have hstep : (html references).step ⟨.reference p name, elements⟩ u =
        some (⟨.reference p (name ++ [u]), elements⟩, []) := by
      simp only [html, htmlStep, HtmlState.goto, if_neg (Ne.symm hu)]
    have hread := Reader.read_cons_of_step hstep (ih hs)
    rwa [List.append_assoc] at hread

theorem html_read_reference {name : List CodeUnit} (hname : unit ';' ∉ name)
    (h : references.find? (fun r => r.1 = name) = some (name, u)) :
    (html references).read ⟨.within p, elements⟩ (unit '&' :: name ++ [unit ';']) =
      some (⟨.within p, elements⟩, [.character p u]) := by
  have hend : (html references).step ⟨.reference p name, elements⟩ (unit ';') =
      some (⟨.within p, elements⟩, [.character p u]) := by
    simp only [html, htmlStep, HtmlState.report, if_true, h]
  exact Reader.read_cons_of_step htmlStep_ampersand
    (Reader.read_append_of_read (html_read_name hname)
      (Reader.read_cons_of_step hend (Reader.read_nil _)))

/-- **A text is read as it was** when its special characters are written as references. -/
theorem html_read_flatMap {word : CodeUnit → List CodeUnit}
    (h : ∀ u, word u = [u] ∧ isPlainUnit u = true ∨
      ∃ name, word u = unit '&' :: name ++ [unit ';'] ∧ unit ';' ∉ name ∧
        references.find? (fun r => r.1 = name) = some (name, u)) (s : List CodeUnit) :
    (html references).read ⟨.within p, elements⟩ (s.flatMap word) =
      some (⟨.within p, elements⟩, s.map (.character p)) := by
  induction s with
  | nil => rfl
  | cons u s ih =>
    have hword : (html references).read ⟨.within p, elements⟩ (word u) =
        some (⟨.within p, elements⟩, [.character p u]) := by
      rcases h u with ⟨heq, hplain⟩ | ⟨name, heq, hname, hfind⟩
      · rw [heq]
        exact Reader.read_cons_of_step (htmlStep_plain hplain) (Reader.read_nil _)
      · rw [heq]
        exact html_read_reference hname hfind
    exact Reader.read_append_of_read hword ih

end

end HrBooking
