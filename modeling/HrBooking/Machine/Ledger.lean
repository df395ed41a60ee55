import Mathlib.Data.List.Basic
import Mathlib.Tactic.Common

/-!
# Ledgers of created things

Things are created somewhere else and can only be removed through a reference to them.  One
reference is kept; a thing whose reference is dropped can never be removed.  A `Ledger` is the
history of what was created and removed, with the reference that is held.

* `Ledger.Step` : the steps that keep the account, creating, removing what is referred to, or
  neither.
* `Ledger.drop` : the reference is given up.
* `Ledger.Complete` : everything created was removed or is referred to; the steps keep it.
* `Ledger.Lost` : a thing that was created, not removed and is not referred to; it stays lost.
-/

namespace HrBooking

/-- What was created and removed, in order, and what is referred to. -/
structure Ledger (E : Type*) where
  created : List E
  removed : List E
  current : Option E

namespace Ledger

variable {E : Type*} {l l' : Ledger E} {e : E}

/-- The account is kept.  A new thing has not been seen before, and it is created only while nothing
is referred to. -/
inductive Step (l : Ledger E) : Ledger E → Prop
  | stay : Step l l
  | create (e : E) (hcreated : e ∉ l.created) (hremoved : e ∉ l.removed) (h : l.current = none) :
      Step l { l with created := l.created ++ [e], current := some e }
  | remove (e : E) (h : l.current = some e) :
      Step l { l with removed := l.removed ++ [e], current := none }

/-- The reference is given up without a removal. -/
def drop (l : Ledger E) : Ledger E := { l with current := none }

/-- What is referred to exists. -/
def Consistent (l : Ledger E) : Prop := ∀ e, l.current = some e → e ∈ l.created ∧ e ∉ l.removed

/-- Everything created was removed or is referred to. -/
def Complete (l : Ledger E) : Prop := ∀ e ∈ l.created, e ∈ l.removed ∨ l.current = some e

/-- The thing was created, was not removed, and nothing refers to it. -/
def Lost (e : E) (l : Ledger E) : Prop := e ∈ l.created ∧ e ∉ l.removed ∧ l.current ≠ some e

theorem Step.consistent (h : Step l l') (hl : l.Consistent) : l'.Consistent := by
  cases h with
  | stay => exact hl
  | create e hcreated hremoved =>
    intro e' he'
    obtain rfl : e = e' := Option.some.inj he'
    exact ⟨by simp, hremoved⟩
  | remove e => exact nofun

theorem consistent_drop (l : Ledger E) : l.drop.Consistent := nofun

theorem Step.complete (h : Step l l') (hl : l.Complete) : l'.Complete := by
  cases h with
  | stay => exact hl
  | create e _ _ hcurrent =>
    intro e' he'
    rcases List.mem_append.1 he' with he' | he'
    · -- nothing was referred to, so everything before was removed
      exact .inl ((hl e' he').resolve_right (by simp [hcurrent]))
    · obtain rfl : e' = e := by simpa using he'
      exact .inr rfl
  | remove e hcurrent =>
    intro e' he'
    refine .inl ?_
    rcases hl e' he' with h | h
    · exact List.mem_append_left _ h
    · obtain rfl : e = e' := Option.some.inj (hcurrent.symm.trans h)
      simp

/-- **What is lost stays lost.** -/
theorem Step.lost (h : Step l l') (hl : l.Lost e) : l'.Lost e := by
  obtain ⟨hcreated, hremoved, hcurrent⟩ := hl
  cases h with
  | stay => exact ⟨hcreated, hremoved, hcurrent⟩
  | create e' hnew =>
    refine ⟨List.mem_append_left _ hcreated, hremoved, ?_⟩
    intro he
    obtain rfl : e' = e := Option.some.inj he
    exact hnew hcreated
  | remove e' he' =>
    refine ⟨hcreated, ?_, nofun⟩
    intro he
    rcases List.mem_append.1 he with he | he
    · exact hremoved he
    · obtain rfl : e = e' := by simpa using he
      exact hcurrent he'

theorem Lost.drop (hl : l.Lost e) : l.drop.Lost e := ⟨hl.1, hl.2.1, nofun⟩

/-- Giving up the reference loses what it referred to. -/
theorem Consistent.lost_drop (hl : l.Consistent) (h : l.current = some e) : l.drop.Lost e :=
  ⟨(hl e h).1, (hl e h).2, nofun⟩

/-- When nothing is referred to, everything was removed exactly when nothing is lost. -/
theorem complete_iff (h : l.current = none) : l.Complete ↔ ∀ e ∈ l.created, e ∈ l.removed := by
  simp [Complete, h]

end Ledger

end HrBooking
