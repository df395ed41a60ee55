import HrBooking.Machine.Basic
import Mathlib.Data.Fintype.Basic
import Mathlib.Logic.Relation

/-!
# Parties over a shared state

Any number of parties run the same program over one shared state.  A party is what it holds between
two commands, a command is atomic, and the surroundings may change the shared state at any time, so
the runs of the machine are the interleavings of the parties.

* `Program` : how a party starts, what its next command does, what the surroundings do.
* `Program.machine` : the machine; its actions name the party that moves.
* `Program.Step`, `Program.step_cases` : what an action does, from which invariants are derived.
* `Program.Step.forall_procs` : a property of every party is kept when the commands keep it.
* `Parties.AtMostOne`, `Parties.Nobody` : how many parties are in a part of their program.
* `Program.Alone` : what a party does undisturbed.
-/

namespace HrBooking

/-- The shared state and what every party holds. -/
structure Parties (R W P : Type*) where
  shared : W
  procs : R → P

/-- A program over a shared state `W`: its parties `P`, the jobs `J` they are started with, what the
surroundings decide for a command, and what they do on their own. -/
structure Program (W P J I E : Type*) where
  /-- The party has not started. -/
  isIdle : P → Bool
  /-- A party starts. -/
  start : J → W → Option (W × P)
  /-- A party issues its next command. -/
  exec : I → W → P → Option (W × P)
  /-- The surroundings change the shared state. -/
  surroundings : E → W → Option W

/-- The actions of the parties and of the surroundings. -/
inductive PartyAction (R J I E : Type*) where
  | start (r : R) (job : J)
  | exec (r : R) (input : I)
  | surroundings (e : E)

namespace PartyAction

variable {R J I E : Type*}

/-- A condition on the commands; every other action meets it. -/
def OnExec (G : R → I → Prop) : PartyAction R J I E → Prop
  | exec r i => G r i
  | _ => True

instance (G : R → I → Prop) [∀ r i, Decidable (G r i)] (a : PartyAction R J I E) :
    Decidable (a.OnExec G) := by
  unfold OnExec
  split <;> infer_instance

/-- A condition on the jobs that parties are started with. -/
def OnStart (G : J → Prop) : PartyAction R J I E → Prop
  | start _ job => G job
  | _ => True

instance (G : J → Prop) [∀ job, Decidable (G job)] (a : PartyAction R J I E) :
    Decidable (a.OnStart G) := by
  unfold OnStart
  split <;> infer_instance

end PartyAction

namespace Parties

variable {R W P : Type*} [DecidableEq R]

/-- Replace the shared state and one party. -/
def put (s : Parties R W P) (r : R) (w : W) (p : P) : Parties R W P :=
  ⟨w, Function.update s.procs r p⟩

variable {s : Parties R W P} {r r' : R} {w : W} {p : P}

@[simp] theorem put_shared : (s.put r w p).shared = w := rfl

@[simp] theorem put_procs_self : (s.put r w p).procs r = p := Function.update_self ..

theorem put_procs_of_ne (h : r' ≠ r) : (s.put r w p).procs r' = s.procs r' :=
  Function.update_of_ne h ..

@[simp] theorem put_put {w' : W} {p' : P} : (s.put r w p).put r w' p' = s.put r w' p' := by
  simp [put]

/-- A property of the party that moves and of the other ones holds of all parties. -/
theorem forall_put {Q : P → Prop} (hp : Q p) (hothers : ∀ r', r' ≠ r → Q (s.procs r')) :
    ∀ r', Q ((s.put r w p).procs r') := by
  intro r'
  by_cases h : r' = r
  · rw [h, put_procs_self]
    exact hp
  · rw [put_procs_of_ne h]
    exact hothers r' h

omit [DecidableEq R] in
/-- No party is in the part of its program. -/
def Nobody (busy : P → Bool) (s : Parties R W P) : Prop := ∀ r, busy (s.procs r) = false

omit [DecidableEq R] in
/-- At most one party is in the part of its program. -/
def AtMostOne (busy : P → Bool) (s : Parties R W P) : Prop :=
  ∀ r r', busy (s.procs r) = true → busy (s.procs r') = true → r = r'

omit [DecidableEq R] in
instance [Fintype R] (busy : P → Bool) (s : Parties R W P) : Decidable (s.Nobody busy) :=
  inferInstanceAs (Decidable (∀ _, _))

instance [Fintype R] (busy : P → Bool) (s : Parties R W P) : Decidable (s.AtMostOne busy) :=
  inferInstanceAs (Decidable (∀ _ _, _))

variable {busy : P → Bool}

/-- A party may enter when nobody is there, and stay when it is there. -/
theorem AtMostOne.put (h : s.AtMostOne busy)
    (hp : busy p = true → busy (s.procs r) = true ∨ s.Nobody busy) :
    (s.put r w p).AtMostOne busy := by
  have hothers : ∀ r', r' ≠ r → busy p = true → busy (s.procs r') = true → False := by
    intro r' hne hbusy hbusy'
    rcases hp hbusy with hr | hnobody
    · exact hne (h r' r hbusy' hr)
    · exact absurd hbusy' (by simp [hnobody r'])
  intro r₁ r₂ h₁ h₂
  by_cases he₁ : r₁ = r <;> by_cases he₂ : r₂ = r
  · rw [he₁, he₂]
  · rw [he₁, put_procs_self] at h₁
    rw [put_procs_of_ne he₂] at h₂
    exact absurd h₂ (hothers r₂ he₂ h₁)
  · rw [he₂, put_procs_self] at h₂
    rw [put_procs_of_ne he₁] at h₁
    exact absurd h₁ (hothers r₁ he₁ h₂)
  · rw [put_procs_of_ne he₁] at h₁
    rw [put_procs_of_ne he₂] at h₂
    exact h r₁ r₂ h₁ h₂

/-- Nobody enters when the party that moves does not. -/
theorem Nobody.put (h : s.Nobody busy) (hp : busy p = false) : (s.put r w p).Nobody busy :=
  forall_put (Q := fun p => busy p = false) hp fun r' _ => h r'

end Parties

namespace Program

variable {R W P J I E : Type*} [DecidableEq R] (C : Program W P J I E)

/-- One action. -/
def step (s : Parties R W P) : PartyAction R J I E → Option (Parties R W P)
  | .start r job =>
    if C.isIdle (s.procs r) then (C.start job s.shared).map fun x => s.put r x.1 x.2 else none
  | .exec r i => (C.exec i s.shared (s.procs r)).map fun x => s.put r x.1 x.2
  | .surroundings e => (C.surroundings e s.shared).map fun w => ⟨w, s.procs⟩

/-- The parties as a machine. -/
def machine (R : Type*) [DecidableEq R] (C : Program W P J I E) :
    Machine (Parties R W P) (PartyAction R J I E) := ⟨C.step⟩

variable {C} {s s' : Parties R W P} {a : PartyAction R J I E}

/-- What an action does. -/
inductive Step (C : Program W P J I E) (s : Parties R W P) :
    PartyAction R J I E → Parties R W P → Prop
  | start {r : R} {job : J} {w : W} {p : P} (hidle : C.isIdle (s.procs r) = true)
      (h : C.start job s.shared = some (w, p)) : Step C s (.start r job) (s.put r w p)
  | exec {r : R} {i : I} {w : W} {p : P} (h : C.exec i s.shared (s.procs r) = some (w, p)) :
      Step C s (.exec r i) (s.put r w p)
  | surroundings {e : E} {w : W} (h : C.surroundings e s.shared = some w) :
      Step C s (.surroundings e) ⟨w, s.procs⟩

/-- **An action** is a step. -/
theorem step_cases (h : (C.machine R).step s a = some s') : Step C s a s' := by
  change C.step s a = some s' at h
  cases a with
  | start r job =>
    obtain ⟨hidle, h⟩ := Option.ite_none_right_eq_some.1 h
    obtain ⟨x, hx, rfl⟩ := Option.map_eq_some_iff.1 h
    exact .start hidle hx
  | exec r i =>
    obtain ⟨x, hx, rfl⟩ := Option.map_eq_some_iff.1 h
    exact .exec hx
  | surroundings e =>
    obtain ⟨w, hw, rfl⟩ := Option.map_eq_some_iff.1 h
    exact .surroundings hw

/-- A property of every party, whatever the shared state, is kept when a party starts with it and
the commands keep it. -/
theorem Step.forall_procs {Q : P → Prop} (h : ∀ r, Q (s.procs r))
    (hstart : ∀ job w p, a.OnStart (fun j => j = job) → C.start job s.shared = some (w, p) → Q p)
    (hexec : ∀ i p w p', Q p → C.exec i s.shared p = some (w, p') → Q p')
    (hstep : Step C s a s') : ∀ r, Q (s'.procs r) := by
  cases hstep with
  | start _ hs => exact Parties.forall_put (hstart _ _ _ rfl hs) fun r' _ => h r'
  | exec he => exact Parties.forall_put (hexec _ _ _ _ (h _) he) fun r' _ => h r'
  | surroundings => exact h

/-! ### One party alone -/

/-- The party goes on undisturbed, the surroundings deciding the same for every command. -/
def Alone (C : Program W P J I E) (i : I) : W × P → W × P → Prop :=
  Relation.ReflTransGen fun x y => C.exec i x.1 x.2 = some y

/-- What a party does undisturbed is a run of the machine. -/
theorem Alone.run {i : I} {x y : W × P} (h : C.Alone i x y) (s : Parties R W P) (r : R) :
    ∃ n, (C.machine R).run (s.put r x.1 x.2) (List.replicate n (.exec r i)) =
      some (s.put r y.1 y.2) := by
  induction h using Relation.ReflTransGen.head_induction_on with
  | refl => exact ⟨0, rfl⟩
  | @head x z hexec _ ih =>
    obtain ⟨n, hn⟩ := ih
    have hstep : (C.machine R).step (s.put r x.1 x.2) (.exec r i) = some (s.put r z.1 z.2) := by
      simp only [machine, step, Parties.put_shared, Parties.put_procs_self, hexec,
        Option.map_some, Parties.put_put]
    exact ⟨n + 1, Machine.run_cons.2 ⟨_, hstep, hn⟩⟩

end Program

end HrBooking
