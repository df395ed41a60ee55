import HrBooking.Model.Booking
import Mathlib.Data.Fintype.Defs
import Mathlib.Logic.Function.Basic

/-!
# The conference of one booking

The protocol behind the meeting handlers, without the rest of the backend: parties share one meeting
record, of which only the status and the event matter, and the calendar with the events created for
the booking.  A party holds the record as it loaded it some time ago, and writes back only what it
changed since.

* `Conference` and `Role` : the shared state, and what a party is about to do.
* `Turn` : everything a command of a party can do; the handlers of the backend refine it.
* `Coherent` : what holds whatever the parties do.
* `OneEvent` : at most one event exists, if events are created one at a time.
* `Removable`, `WillClose` : every event is going to be removed, if the record is never written over
  one that exists and events are recorded before the cancellation.
-/

namespace HrBooking

/-- What of a meeting record decides who may create and who has to delete. -/
structure Entry where
  status : MeetingStatus
  event : Option ℕ
  deriving DecidableEq

/-- The event a cancellation would delete. -/
def Entry.current (entry : Entry) : Option ℕ :=
  if entry.status = .created then entry.event else none

/-- The record of the booking and its events in the calendar. -/
structure Conference where
  entry : Option Entry
  live : List ℕ
  /-- The identities given to events. -/
  issued : List ℕ

/-- What a party is about to do with the conference, with the record it has loaded. -/
inductive Role where
  | bystander
  /-- create an event -/
  | creating (loaded : Entry)
  /-- record the event it has created -/
  | recording (loaded : Entry) (event : ℕ)
  /-- record a failure -/
  | failing (loaded : Entry)
  /-- load the record in order to cancel -/
  | awaiting
  /-- delete an event -/
  | removing (loaded : Entry) (event : ℕ)
  /-- record the cancellation -/
  | closing (loaded : Entry)
  deriving DecidableEq

/-- The party cancels the conference. -/
def Role.cancels : Role → Bool
  | awaiting | removing .. | closing _ => true
  | _ => false

/-- A command of a party, or its beginning.  `fails` says that the provider does not answer,
`absent` that the booking is not stored, `starts` that a cancellation begins. -/
inductive Turn (fails absent starts : Prop) (c : Conference) : Role → Conference → Role → Prop
  /-- the record is not touched, and no event is created -/
  | pass {c' : Conference} (hentry : c'.entry = c.entry) (hlive : c'.live.Sublist c.live)
      (hissued : c.issued ⊆ c'.issued) : Turn fails absent starts c .bystander c' .bystander
  | start (h : starts) : Turn fails absent starts c .bystander c .awaiting
  | wait : Turn fails absent starts c .awaiting c .awaiting
  | skip (h : absent ∨ c.entry = none) : Turn fails absent starts c .awaiting c .bystander
  | load {l : Entry} (h : c.entry = some l) (hl : l.current = none) :
      Turn fails absent starts c .bystander c (.creating l)
  | insert (h : c.entry = none) :
      Turn fails absent starts c .bystander { c with entry := some ⟨.pending, none⟩ }
        (.creating ⟨.pending, none⟩)
  | create {l : Entry} {e : ℕ} (h : ¬ fails) (hnew : e ∉ c.issued) :
      Turn fails absent starts c (.creating l)
        { c with live := e :: c.live, issued := e :: c.issued } (.recording l e)
  | createFails {l : Entry} (h : fails) : Turn fails absent starts c (.creating l) c (.failing l)
  | moveFails (l : Entry) (h : fails) : Turn fails absent starts c .bystander c (.failing l)
  | record {l s : Entry} {e : ℕ} (h : c.entry = some s) :
      Turn fails absent starts c (.recording l e)
        { c with entry := some ⟨savePath l.status .created s.status,
          savePath l.event (some e) s.event⟩ } .bystander
  | fail {l s : Entry} (h : c.entry = some s) :
      Turn fails absent starts c (.failing l)
        { c with entry := some ⟨savePath l.status .failed s.status, s.event⟩ } .bystander
  | reach {l : Entry} {e : ℕ} (h : c.entry = some l) (he : l.current = some e) :
      Turn fails absent starts c .awaiting c (.removing l e)
  | reachNone {l : Entry} (h : c.entry = some l) (he : l.current = none) :
      Turn fails absent starts c .awaiting c (.closing l)
  | remove {l : Entry} {e : ℕ} :
      Turn fails absent starts c (.removing l e) { c with live := c.live.filter (· ≠ e) }
        (.closing l)
  | removeFails {l : Entry} {e : ℕ} (h : fails) :
      Turn fails absent starts c (.removing l e) c (.closing l)
  | close {l s : Entry} (h : c.entry = some s) :
      Turn fails absent starts c (.closing l)
        { c with entry := some ⟨savePath l.status .cancelled s.status, s.event⟩ } .bystander

/-! ### Coherence -/

/-- A created record names an event, and the event it names was given its identity. -/
structure Entry.Ok (issued : List ℕ) (entry : Entry) : Prop where
  named : entry.status = .created → entry.event.isSome
  issued : ∀ e, entry.event = some e → e ∈ issued

/-- What holds of the record a party has loaded. -/
def Role.Ok (issued : List ℕ) : Role → Prop
  | creating l => l.Ok issued ∧ l.current = none
  | recording l e => l.Ok issued ∧ l.current = none ∧ l.event ≠ some e ∧ e ∈ issued
  | _ => True

/-- What holds whatever the parties do. -/
structure Coherent {R : Type} (c : Conference) (role : R → Role) : Prop where
  entry : ∀ s ∈ c.entry, s.Ok c.issued
  role : ∀ r, (role r).Ok c.issued
  live : c.live.Nodup ∧ c.live ⊆ c.issued

theorem Entry.Ok.mono {issued issued' : List ℕ} {s : Entry} (h : s.Ok issued)
    (hsub : issued ⊆ issued') : s.Ok issued' :=
  ⟨h.named, fun e he => hsub (h.issued e he)⟩

theorem Role.Ok.mono {issued issued' : List ℕ} {p : Role} (h : p.Ok issued)
    (hsub : issued ⊆ issued') : p.Ok issued' := by
  cases p with
  | creating => exact ⟨h.1.mono hsub, h.2⟩
  | recording => exact ⟨h.1.mono hsub, h.2.1, h.2.2.1, hsub h.2.2.2⟩
  | _ => trivial

theorem Entry.Ok.status_ne {issued : List ℕ} {l : Entry} (h : l.Ok issued) (hl : l.current = none) :
    l.status ≠ .created := by
  intro hs
  have hnamed := h.named hs
  rw [current, if_pos hs] at hl
  rw [hl] at hnamed
  cases hnamed

theorem Role.Ok.recorded {issued : List ℕ} {l s : Entry} {e : ℕ} (h : (recording l e).Ok issued) :
    (⟨savePath l.status .created s.status, savePath l.event (some e) s.event⟩ : Entry) =
      ⟨.created, some e⟩ := by
  rw [savePath_of_ne (h.1.status_ne h.2.1).symm, savePath_of_ne h.2.2.1.symm]

theorem Entry.Ok.downgraded {issued : List ℕ} {l s : Entry} {status : MeetingStatus}
    (h : s.Ok issued) (hstatus : status ≠ .created) :
    (⟨savePath l.status status s.status, s.event⟩ : Entry).Ok issued := by
  refine ⟨fun hs => h.named ?_, h.issued⟩
  by_cases hl : status = l.status
  · subst hl
    rwa [savePath_self] at hs
  · rw [savePath_of_ne hl] at hs
    exact absurd hs hstatus

section Turns

variable {R : Type} [DecidableEq R] {c c' : Conference} {role : R → Role} {r : R} {p : Role}
  {fails absent starts : Prop}

theorem Turn.stay (c : Conference) : Turn fails absent starts c .bystander c .bystander :=
  .pass rfl (List.Sublist.refl _) (List.Subset.refl _)

theorem Turn.issued_subset {p₀ : Role} (h : Turn fails absent starts c p₀ c' p) :
    c.issued ⊆ c'.issued := by
  cases h with
  | pass _ _ hissued => exact hissued
  | create => exact List.subset_cons_self _ _
  | _ => exact List.Subset.refl _

theorem Turn.cancels_eq_false {p₀ : Role} (h : Turn fails absent starts c p₀ c' p)
    (hstarts : ¬ starts) (hp : p₀.cancels = false) : p.cancels = false := by
  cases h with
  | start hs => exact absurd hs hstarts
  | wait | reach | reachNone | remove | removeFails => cases hp
  | _ => rfl

/-- **Whatever the parties do, the conference stays coherent.** -/
theorem Coherent.turn (h : Coherent c role) (hturn : Turn fails absent starts c (role r) c' p) :
    Coherent c' (Function.update role r p) := by
  have hr := h.role r
  have hsub := hturn.issued_subset
  -- what the turn leaves behind, of the record, of the party and of the events
  have key : (∀ s ∈ c'.entry, s.Ok c'.issued) ∧ p.Ok c'.issued ∧
      (c'.live.Nodup ∧ c'.live ⊆ c'.issued) := by
    generalize role r = q at hturn hr
    cases hturn with
    | pass hentry hlive =>
      rw [hentry]
      exact ⟨fun s hs => (h.entry s hs).mono hsub, trivial, h.live.1.sublist hlive,
        fun e he => hsub (h.live.2 (hlive.subset he))⟩
    | start | wait | skip | moveFails | createFails | reach | reachNone | removeFails =>
      exact ⟨h.entry, trivial, h.live⟩
    | load hl hcurrent => exact ⟨h.entry, ⟨h.entry _ hl, hcurrent⟩, h.live⟩
    | insert =>
      have hpending : (⟨.pending, none⟩ : Entry).Ok c.issued := ⟨nofun, nofun⟩
      refine ⟨?_, ⟨hpending, rfl⟩, h.live⟩
      rintro s ⟨⟩
      exact hpending
    -- the identity is new, so the loaded record cannot name the event
    | create _ hnew =>
      refine ⟨fun s hs => (h.entry s hs).mono hsub,
        ⟨hr.1.mono hsub, hr.2, fun he => hnew (hr.1.issued _ he), List.mem_cons_self⟩,
        List.nodup_cons.2 ⟨fun he => hnew (h.live.2 he), h.live.1⟩,
        List.cons_subset_cons _ h.live.2⟩
    | record hs =>
      refine ⟨?_, trivial, h.live⟩
      rintro s' ⟨⟩
      rw [hr.recorded]
      refine ⟨fun _ => rfl, ?_⟩
      rintro e ⟨⟩
      exact hr.2.2.2
    -- a failure or a cancellation is written over any status, and no event is written
    | fail hs =>
      refine ⟨?_, trivial, h.live⟩
      rintro s' ⟨⟩
      exact (h.entry _ hs).downgraded nofun
    | close hs =>
      refine ⟨?_, trivial, h.live⟩
      rintro s' ⟨⟩
      exact (h.entry _ hs).downgraded nofun
    | remove =>
      exact ⟨h.entry, trivial, h.live.1.filter _,
        fun e he => h.live.2 (List.mem_of_mem_filter he)⟩
  exact ⟨key.1, (Function.forall_update_iff role fun _ => Role.Ok c'.issued).2
    ⟨key.2.1, fun r' _ => (h.role r').mono hsub⟩, key.2.2⟩

end Turns

/-! ### One event at a time -/

/-- The event a party has created and not recorded yet. -/
def Role.owed : Role → Option ℕ
  | recording _ e => some e
  | _ => none

/-- The party creates an event. -/
def Role.creates : Role → Bool
  | creating _ => true
  | _ => false

/-- The record refers to no event, whatever its status. -/
def Conference.Unnamed (c : Conference) : Prop := ∀ s ∈ c.entry, s.event = none

/-- Every event is referred to by the record or owed by a party, and only one of them is. -/
structure OneEvent {R : Type} (c : Conference) (role : R → Role) : Prop where
  kept : ∀ r, (role r).cancels = false
  named : ∀ e ∈ c.live, (∃ s ∈ c.entry, s.event = some e) ∨ ∃ r, (role r).owed = some e
  alone : ∀ r e, (role r).owed = some e →
    c.Unnamed ∧ ∀ r' e', (role r').owed = some e' → r' = r

/-- When a party creates an event, the record refers to none and no other party owes one. -/
def CreatesAlone {R : Type} (c : Conference) (role : R → Role) (r : R) : Prop :=
  (role r).creates = true → c.Unnamed ∧ ∀ r', (role r').owed = none

instance (c : Conference) : Decidable c.Unnamed :=
  inferInstanceAs (Decidable (∀ s ∈ c.entry, s.event = none))

instance {R : Type} [Fintype R] (c : Conference) (role : R → Role) (r : R) :
    Decidable (CreatesAlone c role r) := inferInstanceAs (Decidable (_ → _))

section OneEvent

variable {R : Type} {c c' : Conference} {role : R → Role} {r : R} {p : Role}
  {fails absent starts : Prop}

theorem OneEvent.eq_of_named (h : OneEvent c role) {s : Entry} {e e' : ℕ} (hs : c.entry = some s)
    (hse : s.event = some e) (he' : e' ∈ c.live) : s.event = some e' := by
  rcases h.named e' he' with ⟨s', hs', hse'⟩ | ⟨r, hr⟩
  · obtain rfl : s = s' := Option.some.inj (hs.symm.trans hs')
    exact hse'
  · rw [(h.alone r e' hr).1 s hs] at hse
    cases hse

theorem OneEvent.unique (h : OneEvent c role) (hc : Coherent c role) :
    c.live.length ≤ 1 ∧
      ∀ s ∈ c.entry, s.status = .created → ∀ e ∈ c.live, s.event = some e := by
  have heq : ∀ e ∈ c.live, ∀ e' ∈ c.live, e = e' := by
    intro e he e' he'
    rcases h.named e he with ⟨s, hs, hse⟩ | ⟨r, hr⟩
    · exact Option.some.inj (hse.symm.trans (h.eq_of_named hs hse he'))
    · -- both are owed unless the record refers to one of them, and then to both
      rcases h.named e' he' with ⟨s', hs', hse'⟩ | ⟨r', hr'⟩
      · exact Option.some.inj ((h.eq_of_named hs' hse' he).symm.trans hse')
      · obtain rfl := (h.alone r e hr).2 r' e' hr'
        exact Option.some.inj (hr.symm.trans hr')
  refine ⟨?_, fun s hs hcreated e he => ?_⟩
  · have hnodup := hc.live.1
    generalize c.live = live at heq hnodup
    match live with
    | [] | [_] => simp
    | e :: e' :: live =>
      have hne : e ≠ e' := (List.nodup_cons.1 hnodup).1 ∘ fun he => he ▸ List.mem_cons_self
      exact absurd (heq e List.mem_cons_self e' (by simp)) hne
  · obtain ⟨x, hx⟩ := Option.isSome_iff_exists.1 ((hc.entry s hs).named hcreated)
    exact h.eq_of_named hs hx he

variable [DecidableEq R]

theorem owed_update_of_ne {r' : R} (h : r' ≠ r) :
    (Function.update role r p r').owed = (role r').owed := by
  rw [Function.update_of_ne h]

theorem owed_update {r' : R} (h : p.owed = (role r).owed) :
    (Function.update role r p r').owed = (role r').owed := by
  by_cases hr : r' = r
  · subst hr
    rw [Function.update_self, h]
  · exact owed_update_of_ne hr

theorem OneEvent.quiet (h : OneEvent c role)
    (hentry : ∀ s' ∈ c'.entry, ∀ e, s'.event = some e → ∃ s ∈ c.entry, s.event = some e)
    (hnames : ∀ s ∈ c.entry, ∀ e, s.event = some e → ∃ s' ∈ c'.entry, s'.event = some e)
    (hlive : c'.live ⊆ c.live) (howed : p.owed = (role r).owed)
    (hkept : ∀ r', (Function.update role r p r').cancels = false) :
    OneEvent c' (Function.update role r p) := by
  refine ⟨hkept, fun e he => ?_, fun r' e he => ?_⟩
  · simp only [owed_update howed]
    refine (h.named e (hlive he)).imp ?_ id
    rintro ⟨s, hs, hse⟩
    exact hnames s hs e hse
  · simp only [owed_update howed] at he ⊢
    obtain ⟨hunnamed, hothers⟩ := h.alone r' e he
    refine ⟨fun s' hs' => ?_, hothers⟩
    by_contra hne
    obtain ⟨x, hx⟩ := Option.ne_none_iff_exists'.1 hne
    obtain ⟨s, hs, hse⟩ := hentry s' hs' x hx
    rw [hunnamed s hs] at hse
    cases hse

/-- **Events created one at a time.** -/
theorem OneEvent.turn (h : OneEvent c role) (hc : Coherent c role)
    (hturn : Turn fails absent starts c (role r) c' p) (hstarts : ¬ starts)
    (halone : ¬ fails → CreatesAlone c role r) : OneEvent c' (Function.update role r p) := by
  have hkept : ∀ r', (Function.update role r p r').cancels = false :=
    (Function.forall_update_iff role fun _ q => q.cancels = false).2
      ⟨hturn.cancels_eq_false hstarts (h.kept r), fun r' _ => h.kept r'⟩
  have hself := h.kept r
  have hok := hc.role r
  -- a turn that leaves the record alone
  have hsame : c'.entry = c.entry → c'.live ⊆ c.live → p.owed = (role r).owed →
      OneEvent c' (Function.update role r p) := fun hentry hlive howed =>
    h.quiet (fun s hs e he => ⟨s, hentry ▸ hs, he⟩) (fun s hs e he => ⟨s, hentry ▸ hs, he⟩)
      hlive howed hkept
  generalize hq : role r = q at hturn hself hok
  cases hturn with
  | pass hentry hlive => exact hsame hentry hlive.subset (by rw [hq])
  | start hs => exact absurd hs hstarts
  -- no party cancels
  | wait | skip | reach | reachNone | remove | removeFails | close => cases hself
  | load | moveFails | createFails => exact hsame rfl (List.Subset.refl _) (by rw [hq]; rfl)
  | insert hnone =>
    refine h.quiet ?_ (fun s hs => ?_) (List.Subset.refl _) (by rw [hq]; rfl) hkept
    · rintro s ⟨⟩ e he
      cases he
    · rw [hnone] at hs
      cases hs
  | fail hs =>
    refine h.quiet ?_ (fun s' hs' e he => ?_) (List.Subset.refl _) (by rw [hq]; rfl) hkept
    · rintro s' ⟨⟩ e he
      exact ⟨_, hs, he⟩
    · obtain rfl := Option.some.inj (hs.symm.trans hs')
      exact ⟨_, rfl, he⟩
  | @create l e hanswers hnew =>
    obtain ⟨hunnamed, howed⟩ := halone hanswers (by rw [hq]; rfl)
    -- nobody owed an event, so this party is the only one to owe one now
    have hothers : ∀ r' e', (Function.update role r (.recording l e) r').owed = some e' →
        r' = r := by
      intro r' e' he'
      by_contra hr'
      rw [owed_update_of_ne hr', howed r'] at he'
      cases he'
    refine ⟨hkept, fun e' he' => .inr ?_, fun r' e' he' => ?_⟩
    · rcases List.mem_cons.1 he' with rfl | he'
      · exact ⟨r, by rw [Function.update_self]; rfl⟩
      · -- there was no event before
        rcases h.named e' he' with ⟨s, hs, hse⟩ | ⟨r', hr'⟩
        · rw [hunnamed s hs] at hse
          cases hse
        · rw [howed r'] at hr'
          cases hr'
    · obtain rfl := hothers r' e' he'
      exact ⟨hunnamed, hothers⟩
  | @record l s e hs =>
    obtain ⟨hunnamed, hothers⟩ := h.alone r e (by rw [hq]; rfl)
    rw [hok.recorded]
    refine ⟨hkept, fun e' he' => .inl ?_, fun r' e' he' => ?_⟩
    · -- the only event was the one this party owed
      rcases h.named e' he' with ⟨s', hs', hse⟩ | ⟨r', hr'⟩
      · rw [hunnamed s' hs'] at hse
        cases hse
      · obtain rfl := hothers r' e' hr'
        rw [hq] at hr'
        obtain rfl : e = e' := Option.some.inj hr'
        exact ⟨_, rfl, rfl⟩
    · by_cases hr' : r' = r
      · subst hr'
        rw [Function.update_self] at he'
        cases he'
      · rw [owed_update_of_ne hr'] at he'
        exact absurd (hothers r' e' he') hr'

end OneEvent

/-! ### Removal -/

/-- The record is created and refers to the event. -/
def Conference.Holds (c : Conference) (e : ℕ) : Prop := ∃ s ∈ c.entry, s.current = some e

instance (c : Conference) (e : ℕ) : Decidable (c.Holds e) :=
  inferInstanceAs (Decidable (∃ s ∈ c.entry, _))

/-- Every event can still be deleted: the created record refers to it, or the party that created it
is going to record it. -/
structure Removable {R : Type} (c : Conference) (role : R → Role) : Prop where
  held : ∀ e ∈ c.live, c.Holds e ∨ ∃ r, (role r).owed = some e
  steady : ∀ r l, role r ≠ .failing l

/-- The party has a cancellation to record that it has not recorded yet. -/
def Role.Closes : Role → Prop
  | closing l | removing l _ => l.status ≠ .cancelled
  | _ => False

/-- The party is creating an event or has one to record. -/
def Role.Creates : Role → Prop
  | creating _ | recording .. => True
  | _ => False

/-- The record is cancelled or missing, or somebody is going to see to it: a cancellation that has
not loaded the record, one that has to be recorded, or an event that has to be. -/
def WillClose {R : Type} (queued : Prop) (c : Conference) (role : R → Role) : Prop :=
  queued ∨ (∃ r, role r = .awaiting) ∨ (∃ r, (role r).Closes) ∨ (∃ r, (role r).Creates) ∨
    ∀ s ∈ c.entry, s.status = .cancelled

/-- The next command of the party writes a new status over the record. -/
def Role.overwrites : Role → Bool
  | recording .. => true
  | closing l => l.status ≠ .cancelled
  | _ => false

/-- The record is not written over while it refers to an event that exists. -/
def OverwritesNone {R : Type} (c : Conference) (role : R → Role) (r : R) : Prop :=
  (role r).overwrites = true → ∀ e ∈ c.live, ¬ c.Holds e

/-- An event of a cancelled booking is recorded while a cancellation has still to load the
record. -/
def RecordsInTime {R : Type} (cancelled queued : Prop) (role : R → Role) (r : R) : Prop :=
  (role r).owed.isSome → cancelled → queued ∨ ∃ r', role r' = .awaiting

instance {R : Type} (c : Conference) (role : R → Role) (r : R) :
    Decidable (OverwritesNone c role r) := inferInstanceAs (Decidable (_ → _))

instance {R : Type} [Fintype R] (cancelled queued : Prop) [Decidable cancelled] [Decidable queued]
    (role : R → Role) (r : R) : Decidable (RecordsInTime cancelled queued role r) :=
  inferInstanceAs (Decidable (_ → _))

section Removal

variable {R : Type} {c c' : Conference} {role : R → Role} {r : R} {p : Role}
  {fails absent starts cancelled queued queued' : Prop}

/-- When nobody has anything to do, a conference that was going to be closed is closed, and no event
is left. -/
theorem Removable.closed (h : Removable c role) (hclose : WillClose queued c role)
    (hqueued : ¬ queued) (hrest : ∀ r, role r = .bystander) :
    (∀ s ∈ c.entry, s.status = .cancelled) ∧ c.live = [] := by
  have hentry : ∀ s ∈ c.entry, s.status = .cancelled := by
    rcases hclose with hq | ⟨r, hr⟩ | ⟨r, hr⟩ | ⟨r, hr⟩ | hentry
    · exact absurd hq hqueued
    · rw [hrest r] at hr
      cases hr
    · rw [hrest r] at hr
      cases hr
    · rw [hrest r] at hr
      cases hr
    · exact hentry
  refine ⟨hentry, List.eq_nil_iff_forall_not_mem.2 fun e he => ?_⟩
  rcases h.held e he with ⟨s, hs, hse⟩ | ⟨r, hr⟩
  · rw [Entry.current, if_neg (by rw [hentry s hs]; nofun)] at hse
    cases hse
  · rw [hrest r] at hr
    cases hr

variable [DecidableEq R]

/-- **Events stay within reach**, when the provider answers and the record is not written over one
that exists. -/
theorem Removable.turn (h : Removable c role) (hc : Coherent c role)
    (hturn : Turn fails absent starts c (role r) c' p) (hanswers : ¬ fails)
    (hwrites : OverwritesNone c role r) : Removable c' (Function.update role r p) := by
  have hok := hc.role r
  have hfails := h.steady r
  have hsteady : (∀ l, p ≠ .failing l) → ∀ r' l, Function.update role r p r' ≠ .failing l :=
    fun hp => (Function.forall_update_iff role fun _ q => ∀ l, q ≠ .failing l).2
      ⟨hp, fun r' _ => h.steady r'⟩
  -- a turn that neither creates nor records
  have hquiet : (∀ e ∈ c'.live, c.Holds e → c'.Holds e) → c'.live ⊆ c.live →
      p.owed = (role r).owed → (∀ l, p ≠ .failing l) → Removable c' (Function.update role r p) := by
    intro hentry hlive howed hp
    refine ⟨fun e he => ?_, hsteady hp⟩
    simp only [owed_update howed]
    exact (h.held e (hlive he)).imp (hentry e he) id
  generalize hq : role r = q at hturn hok hfails
  cases hturn with
  | pass hentry hlive =>
    refine hquiet (fun e _ he => ?_) hlive.subset (by rw [hq]) nofun
    rwa [Conference.Holds, hentry]
  | wait => exact hquiet (fun e _ he => he) (List.Subset.refl _) (by rw [hq]) nofun
  | start | skip | load | reach | reachNone =>
    exact hquiet (fun e _ he => he) (List.Subset.refl _) (by rw [hq]; rfl) nofun
  | moveFails _ hf | createFails hf | removeFails hf => exact absurd hf hanswers
  | fail => exact absurd rfl (hfails _)
  | insert hnone =>
    refine hquiet (fun e _ => ?_) (List.Subset.refl _) (by rw [hq]; rfl) nofun
    rintro ⟨s, hs, -⟩
    rw [hnone] at hs
    cases hs
  | remove =>
    exact hquiet (fun e _ he => he) (List.filter_subset_self _) (by rw [hq]; rfl) nofun
  | @create l e =>
    refine ⟨fun e' he' => ?_, hsteady nofun⟩
    rcases List.mem_cons.1 he' with rfl | he'
    · exact .inr ⟨r, by rw [Function.update_self]; rfl⟩
    · refine (h.held e' he').imp id ?_
      rintro ⟨r', hr'⟩
      refine ⟨r', ?_⟩
      rwa [owed_update_of_ne]
      rintro rfl
      rw [hq] at hr'
      cases hr'
  | @record l s e hs =>
    -- the record referred to no event, so every other event is owed by another party
    have hfree := hwrites (by rw [hq]; rfl)
    rw [hok.recorded]
    refine ⟨fun e' he' => ?_, hsteady nofun⟩
    -- an event the record referred to would be written over
    rcases h.held e' he' with hh | ⟨r', hr'⟩
    · exact absurd hh (hfree e' he')
    · by_cases hrr : r' = r
      · subst hrr
        rw [hq] at hr'
        obtain rfl : e = e' := Option.some.inj hr'
        exact .inl ⟨_, rfl, rfl⟩
      · exact .inr ⟨r', by rwa [owed_update_of_ne hrr]⟩
  | @close l s hs =>
    refine hquiet (fun e he hh => ?_) (List.Subset.refl _) (by rw [hq]; rfl) nofun
    by_cases hl : l.status = .cancelled
    · -- the cancellation writes nothing
      obtain ⟨s', hs', hse⟩ := hh
      obtain rfl : s = s' := Option.some.inj (hs.symm.trans hs')
      refine ⟨_, rfl, ?_⟩
      rw [hl, savePath_self]
      exact hse
    · exact absurd hh (hwrites (by rw [hq]; exact decide_eq_true hl) e he)

/-- **A cancelled conference is going to be closed.**  Whoever was going to see to it passes that
on, or has seen to it. -/
theorem WillClose.turn (h : WillClose queued c role)
    (hturn : Turn fails absent starts c (role r) c' p)
    (hanswers : ¬ fails) (hstored : ¬ absent) (hsteady : ∀ l, role r ≠ .failing l)
    (hqueued : queued → queued' ∨ ∃ r', Function.update role r p r' = .awaiting)
    (hrecords : RecordsInTime True queued role r) :
    WillClose queued' c' (Function.update role r p) := by
  have hself : Function.update role r p r = p := Function.update_self ..
  have hother : ∀ {r'}, r' ≠ r → Function.update role r p r' = role r' :=
    fun hr' => Function.update_of_ne hr' ..
  have hpassed : queued → WillClose queued' c' (Function.update role r p) := fun hq =>
    (hqueued hq).imp id .inl
  -- an event recorded now is left to a cancellation that has still to come
  have hrecorded : ∀ {l e}, role r = .recording l e →
      WillClose queued' c' (Function.update role r p) := by
    intro l e hr
    rcases hrecords (by rw [hr]; rfl) trivial with hq | ⟨r', hr'⟩
    · exact hpassed hq
    · refine .inr (.inl ⟨r', ?_⟩)
      rw [hother, hr']
      rintro rfl
      rw [hr] at hr'
      cases hr'
  have hclosed : (∀ s ∈ c'.entry, s.status = .cancelled) →
      WillClose queued' c' (Function.update role r p) := fun hentry =>
    .inr (.inr (.inr (.inr hentry)))
  -- by who was going to see to it; a party that is not moving still is
  rcases h with hq | ⟨r', hr'⟩ | ⟨r', hr'⟩ | ⟨r', hr'⟩ | hentry
  · exact hpassed hq
  · by_cases hrr : r' = r
    · subst hrr
      rw [hr'] at hturn
      cases hturn with
      | wait => exact .inr (.inl ⟨r', hself⟩)
      | skip hskip =>
        refine hclosed fun s hs => ?_
        rw [hskip.resolve_left hstored] at hs
        cases hs
      | @reach l e hl | @reachNone l hl =>
        by_cases hcancelled : l.status = .cancelled
        · refine hclosed fun s hs => ?_
          obtain rfl : l = s := Option.some.inj (hl.symm.trans hs)
          exact hcancelled
        · refine .inr (.inr (.inl ⟨r', ?_⟩))
          rw [hself]
          exact hcancelled
    · exact .inr (.inl ⟨r', by rw [hother hrr, hr']⟩)
  · by_cases hrr : r' = r
    · subst hrr
      generalize hp : role r' = q at hturn hr'
      cases hturn with
      | remove =>
        refine .inr (.inr (.inl ⟨r', ?_⟩))
        rw [hself]
        exact hr'
      | removeFails hf => exact absurd hf hanswers
      | close =>
        refine hclosed ?_
        rintro s ⟨⟩
        exact savePath_of_ne (Ne.symm hr') _
      | _ => exact hr'.elim
    · exact .inr (.inr (.inl ⟨r', by rwa [hother hrr]⟩))
  · by_cases hrr : r' = r
    · subst hrr
      generalize hp : role r' = q at hturn hr'
      cases hturn with
      | create =>
        refine .inr (.inr (.inr (.inl ⟨r', ?_⟩)))
        rw [hself]
        trivial
      | createFails hf => exact absurd hf hanswers
      | record => exact hrecorded hp
      | _ => exact hr'.elim
    · exact .inr (.inr (.inr (.inl ⟨r', by rwa [hother hrr]⟩)))
  · generalize hp : role r = q at hturn
    cases hturn with
    | pass hsame => exact hclosed (hsame ▸ hentry)
    | insert =>
      refine .inr (.inr (.inr (.inl ⟨r, ?_⟩)))
      rw [hself]
      trivial
    | record => exact hrecorded hp
    | fail => exact absurd hp (hsteady _)
    | @close l s hs =>
      refine hclosed ?_
      rintro s' ⟨⟩
      by_cases hl : l.status = .cancelled
      · simp only [hl, savePath_self]
        exact hentry s hs
      · exact savePath_of_ne (Ne.symm hl) _
    | _ => exact hclosed hentry

end Removal

end HrBooking
