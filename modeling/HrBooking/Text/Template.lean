import Mathlib.Data.List.Basic
import Mathlib.Tactic.Common

/-!
# Templates and what is read of them

A template is fixed text with holes for values.  A reader goes over a text symbol by symbol, and
what it makes of a symbol depends on its state.  When the values are written so that the reader
comes back to the state it had before the hole, what is read of the fixed text does not depend on
the values, and this can be checked on the template alone.

* `Reader.read`, `Reader.read_append` : what is read of a text, and of two texts in a row.
* `Piece`, `render` : a template and the text that is made of it.
* `Interpolation` : how values are written and what they are read as.
* `Interpolation.outline` : the check; it reads the fixed text and leaves the holes open.
* `Interpolation.Leads` : the check goes through, with these states at the holes.
* `Interpolation.read_render` : what is read of the text is the outline with its holes filled.
-/

namespace HrBooking

/-- A device that reads one symbol after another: in a state a symbol is refused, or leads to a next
state and is reported by some events. -/
structure Reader (Q α β : Type*) where
  step : Q → α → Option (Q × List β)

namespace Reader

variable {Q α β : Type*} (R : Reader Q α β)

/-- The state after a text and what has been reported of it. -/
def read : Q → List α → Option (Q × List β)
  | q, [] => some (q, [])
  | q, u :: s => (R.step q u).bind fun x => (read x.1 s).map fun y => (y.1, x.2 ++ y.2)

variable {R} {q q' q'' : Q} {u : α} {s t : List α} {k k' : List β}

@[simp] theorem read_nil (q : Q) : R.read q [] = some (q, []) := rfl

theorem read_cons_of_step (h : R.step q u = some (q', k)) (h' : R.read q' s = some (q'', k')) :
    R.read q (u :: s) = some (q'', k ++ k') := by
  rw [read, h, Option.bind_some, h']
  rfl

theorem read_append (q : Q) (s t : List α) :
    R.read q (s ++ t) =
      (R.read q s).bind fun x => (R.read x.1 t).map fun y => (y.1, x.2 ++ y.2) := by
  induction s generalizing q with
  | nil => simp
  | cons u s ih =>
    simp only [List.cons_append, read]
    cases R.step q u with
    | none => rfl
    | some x =>
      simp only [Option.bind_some, ih, Option.map_bind, Option.bind_map]
      refine congrArg _ (funext fun y => ?_)
      simp [Function.comp_def]

theorem read_append_of_read (h : R.read q s = some (q', k)) (h' : R.read q' t = some (q'', k')) :
    R.read q (s ++ t) = some (q'', k ++ k') := by
  rw [read_append, h, Option.bind_some, h']
  rfl

theorem read_map {f : α → β} (h : ∀ u ∈ s, R.step q u = some (q, [f u])) :
    R.read q s = some (q, s.map f) := by
  induction s with
  | nil => rfl
  | cons u s ih =>
    exact read_cons_of_step (h u List.mem_cons_self)
      (ih fun v hv => h v (List.mem_cons_of_mem _ hv))

end Reader

/-! ### Templates -/

/-- A part of a template: fixed text, or a hole of a kind `H` with its value. -/
inductive Piece (α H γ : Type*) where
  | fixed (s : List α)
  | hole (h : H) (v : γ)

namespace Piece

variable {α H γ : Type*}

/-- The piece without its value. -/
def shape : Piece α H γ → Piece α H Unit
  | fixed s => fixed s
  | hole h _ => hole h ()

/-- The value of a hole. -/
def value? : Piece α H γ → Option γ
  | fixed _ => none
  | hole _ v => some v

end Piece

/-- How values are written in the holes of templates, and what the reader makes of them. -/
structure Interpolation {Q α β : Type*} (R : Reader Q α β) (H γ : Type*) where
  /-- What is put into a hole. -/
  write : H → γ → List α
  /-- The states in which a hole may stand. -/
  isOpen : Q → Bool
  /-- What the value is read as. -/
  events : Q → γ → List β
  /-- The values a hole can carry. -/
  Fits : H → γ → Prop
  read_write : ∀ q h v, isOpen q = true → Fits h v → R.read q (write h v) = some (q, events q v)

namespace Interpolation

variable {Q α β H γ : Type*} {R : Reader Q α β} (I : Interpolation R H γ)

/-- The text of a template. -/
def render (t : List (Piece α H γ)) : List α :=
  t.flatMap fun
    | .fixed s => s
    | .hole h v => I.write h v

/-- What is read of the fixed text of a template, with the state at every hole. -/
def outline : Q → List (Piece α H Unit) → Option (Q × List (β ⊕ Q))
  | q, [] => some (q, [])
  | q, .fixed s :: t =>
    (R.read q s).bind fun x => (outline x.1 t).map fun y => (y.1, x.2.map .inl ++ y.2)
  | q, .hole _ _ :: t =>
    if I.isOpen q then (outline q t).map fun y => (y.1, .inr q :: y.2) else none

/-- The outline with values in its holes. -/
def fill : List (β ⊕ Q) → List γ → List β
  | [], _ => []
  | .inl e :: k, vs => e :: fill k vs
  | .inr q :: k, v :: vs => I.events q v ++ fill k vs
  | .inr _ :: k, [] => fill k []

/-- Every value can be carried by its hole. -/
def Fitting (t : List (Piece α H γ)) : Prop := ∀ h v, .hole h v ∈ t → I.Fits h v

variable {I} {q q' q'' : Q} {s : List α} {t t' : List (Piece α H γ)}
  {u u' : List (Piece α H Unit)} {k k' : List (β ⊕ Q)} {vs : List γ}

@[simp] theorem render_nil : I.render [] = [] := rfl

@[simp] theorem render_fixed : I.render (.fixed s :: t) = s ++ I.render t := rfl

@[simp] theorem render_hole {h : H} {v : γ} :
    I.render (.hole h v :: t) = I.write h v ++ I.render t := rfl

@[simp] theorem render_append : I.render (t ++ t') = I.render t ++ I.render t' :=
  List.flatMap_append

@[simp] theorem filterMap_getRight?_map_inl (es : List β) :
    (es.map Sum.inl).filterMap (Sum.getRight? (β := Q)) = [] := by
  induction es with
  | nil => rfl
  | cons e es ih => exact ih

theorem fill_map_inl (es : List β) (k : List (β ⊕ Q)) (vs : List γ) :
    I.fill (es.map .inl ++ k) vs = es ++ I.fill k vs := by
  induction es with
  | nil => rfl
  | cons e es ih =>
    simp only [List.map_cons, List.cons_append, fill, ih]

/-- The fixed text is read to the end, with these states at the holes. -/
def Leads (I : Interpolation R H γ) (q : Q) (u : List (Piece α H Unit)) (q' : Q) (places : List Q) :
    Prop :=
  ∃ k, I.outline q u = some (q', k) ∧ k.filterMap Sum.getRight? = places

theorem leads_nil (q : Q) : I.Leads q [] q [] := ⟨[], rfl, rfl⟩

theorem leads_fixed {places : List Q} (h : (R.read q s).map Prod.fst = some q')
    (h' : I.Leads q' u q'' places) : I.Leads q (.fixed s :: u) q'' places := by
  obtain ⟨x, hx, rfl⟩ := Option.map_eq_some_iff.1 h
  obtain ⟨k, hk, rfl⟩ := h'
  refine ⟨x.2.map .inl ++ k, ?_, ?_⟩
  · rw [outline, hx, Option.bind_some, hk]
    rfl
  · rw [List.filterMap_append, filterMap_getRight?_map_inl, List.nil_append]

theorem leads_hole {h : H} {v : Unit} {places : List Q} (hopen : I.isOpen q = true)
    (h' : I.Leads q u q' places) : I.Leads q (.hole h v :: u) q' (q :: places) := by
  obtain ⟨k, hk, rfl⟩ := h'
  refine ⟨.inr q :: k, ?_, rfl⟩
  rw [outline, if_pos hopen, hk]
  rfl

theorem Leads.append {places places' : List Q} (h : I.Leads q u q' places)
    (h' : I.Leads q' u' q'' places') : I.Leads q (u ++ u') q'' (places ++ places') := by
  induction u generalizing q places with
  | nil =>
    obtain ⟨k, hk, rfl⟩ := h
    obtain ⟨rfl, rfl⟩ : q = q' ∧ [] = k := by simpa [outline] using hk
    exact h'
  | cons p u ih =>
    obtain ⟨k, hk, rfl⟩ := h
    cases p with
    | fixed s =>
      obtain ⟨x, hx, hk⟩ := Option.bind_eq_some_iff.1 hk
      obtain ⟨y, hy, heq⟩ := Option.map_eq_some_iff.1 hk
      obtain ⟨rfl, rfl⟩ : y.1 = q' ∧ x.2.map .inl ++ y.2 = k := by simpa using heq
      rw [List.filterMap_append, filterMap_getRight?_map_inl, List.nil_append]
      exact leads_fixed (by rw [hx]; rfl) (ih ⟨y.2, hy, rfl⟩)
    | hole h' v =>
      obtain ⟨hopen, hk⟩ := Option.ite_none_right_eq_some.1 hk
      obtain ⟨y, hy, heq⟩ := Option.map_eq_some_iff.1 hk
      obtain ⟨rfl, rfl⟩ : y.1 = q' ∧ .inr q :: y.2 = k := by simpa using heq
      exact leads_hole hopen (ih ⟨y.2, hy, rfl⟩)

/-- **The values do not change what is read of the fixed text**: the text is read to the end, as the
outline of the template with what the values are read as in its holes. -/
theorem read_render (hfits : I.Fitting t) (h : I.outline q (t.map Piece.shape) = some (q', k)) :
    R.read q (I.render t) = some (q', I.fill k (t.filterMap Piece.value?)) := by
  induction t generalizing q k with
  | nil =>
    obtain ⟨rfl, rfl⟩ : q = q' ∧ [] = k := by simpa [outline] using h
    rfl
  | cons p t ih =>
    have hrest : I.Fitting t := fun h v hmem => hfits h v (List.mem_cons_of_mem _ hmem)
    cases p with
    | fixed s =>
      obtain ⟨x, hx, h⟩ := Option.bind_eq_some_iff.1 h
      obtain ⟨y, hy, heq⟩ := Option.map_eq_some_iff.1 h
      obtain ⟨rfl, rfl⟩ : y.1 = q' ∧ x.2.map .inl ++ y.2 = k := by simpa using heq
      rw [render_fixed, fill_map_inl]
      exact Reader.read_append_of_read hx (ih hrest hy)
    | hole h' v =>
      obtain ⟨hopen, h⟩ := Option.ite_none_right_eq_some.1 h
      obtain ⟨y, hy, heq⟩ := Option.map_eq_some_iff.1 h
      obtain ⟨rfl, rfl⟩ : y.1 = q' ∧ .inr q :: y.2 = k := by simpa using heq
      have hread := I.read_write q h' v hopen (hfits h' v List.mem_cons_self)
      rw [render_hole]
      exact Reader.read_append_of_read hread (ih hrest hy)

end Interpolation

end HrBooking
