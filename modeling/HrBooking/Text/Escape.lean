import Mathlib.Data.List.Basic
import Mathlib.Data.List.Pairwise
import Mathlib.Tactic.Common

/-!
# Escaping by replacement

Some symbols of a text stand for words that begin with a mark.  The words are put in by one pass
over the whole text for each symbol, the mark's own pass first.

* `replaceAll`, `replaceEach` : one pass, and the passes one after another.
* `replaceEach_eq_flatMap` : passes that leave each other's words alone act on every symbol at once.
* `Escaping` : a table of words that can be told apart.
* `Escaping.notMem_escape`, `Escaping.isPrefix_drop_escape`, `Escaping.unescape_escape` : the
  symbols are gone, every mark begins a word, and reading from left to right undoes the passes.
-/

namespace HrBooking

variable {α : Type*} [DecidableEq α]

/-! ### Passes -/

/-- Every occurrence of the symbol becomes the word. -/
def replaceAll (symbol : α) (word s : List α) : List α :=
  s.flatMap fun u => if u = symbol then word else [u]

/-- The replacements one after another, each over the result of the one before. -/
def replaceEach (passes : List (α × List α)) (s : List α) : List α :=
  passes.foldl (fun s p => replaceAll p.1 p.2 s) s

/-- What the passes make of one symbol of the text. -/
def wordOf (passes : List (α × List α)) (u : α) : List α :=
  ((passes.find? fun p => p.1 = u).map Prod.snd).getD [u]

section Passes

variable {passes : List (α × List α)} {u : α}

theorem wordOf_cons (p : α × List α) (u : α) :
    wordOf (p :: passes) u = if u = p.1 then p.2 else wordOf passes u := by
  unfold wordOf
  split_ifs with h
  · rw [List.find?_cons_of_pos (by simp [h])]
    rfl
  · rw [List.find?_cons_of_neg (by simpa using Ne.symm h)]

theorem wordOf_of_forall_ne (h : ∀ p ∈ passes, p.1 ≠ u) : wordOf passes u = [u] := by
  unfold wordOf
  rw [List.find?_eq_none.2 fun p hp => by simpa using h p hp]
  rfl

/-- A symbol has a word in the table or is left as it is. -/
theorem wordOf_cases (passes : List (α × List α)) (u : α) :
    (∃ p ∈ passes, p.1 = u ∧ wordOf passes u = p.2) ∨
      (∀ p ∈ passes, p.1 ≠ u) ∧ wordOf passes u = [u] := by
  cases h : passes.find? fun p => p.1 = u with
  | none =>
    have hne : ∀ p ∈ passes, p.1 ≠ u := by simpa using List.find?_eq_none.1 h
    exact .inr ⟨hne, wordOf_of_forall_ne hne⟩
  | some p =>
    refine .inl ⟨p, List.mem_of_find?_eq_some h, by simpa using List.find?_some h, ?_⟩
    rw [wordOf, h]
    rfl

/-- **The passes act on every symbol at once** when no pass finds its symbol in the words of those
before it. -/
theorem replaceEach_eq_flatMap (h : passes.Pairwise fun p q => q.1 ∉ p.2) (s : List α) :
    replaceEach passes s = s.flatMap (wordOf passes) := by
  induction passes generalizing s with
  | nil => exact (List.flatMap_singleton' s).symm
  | cons p passes ih =>
    obtain ⟨hp, hrest⟩ := List.pairwise_cons.1 h
    change replaceEach passes (replaceAll p.1 p.2 s) = _
    rw [ih hrest, replaceAll, List.flatMap_assoc]
    refine congrArg (fun f => List.flatMap f s) (funext fun u => ?_)
    rw [wordOf_cons]
    split_ifs with hu
    · -- the later passes leave the word as it is
      have hword : ∀ v ∈ p.2, wordOf passes v = [v] := fun v hv =>
        wordOf_of_forall_ne fun q hq heq => hp q hq (heq ▸ hv)
      rw [List.flatMap_congr hword, List.flatMap_singleton']
    · exact List.flatMap_singleton _ _

end Passes

/-! ### Tables -/

/-- The symbols to escape and their words. -/
structure Escaping (α : Type*) [DecidableEq α] where
  /-- What every word begins with. -/
  mark : α
  entries : List (α × List α)
  head_eq : ∀ p ∈ entries, p.2.head? = some mark
  mark_notMem : ∀ p ∈ entries, mark ∉ p.2.tail
  /-- The mark has a word too. -/
  mark_mem : mark ∈ entries.map Prod.fst
  /-- The mark is replaced first. -/
  ordered : entries.Pairwise fun _ q => q.1 ≠ mark
  /-- No other symbol is in a word. -/
  symbol_notMem : ∀ p ∈ entries, p.1 ≠ mark → ∀ q ∈ entries, p.1 ∉ q.2
  /-- No word begins another. -/
  prefix_free : ∀ p ∈ entries, ∀ q ∈ entries, p.2 <+: q.2 → p = q

namespace Escaping

variable (e : Escaping α)

/-- Put the words in. -/
def escape (s : List α) : List α := replaceEach e.entries s

/-- Read from left to right: a word stands for its symbol, and the rest of it is skipped. -/
def unescapeFrom : ℕ → List α → List α
  | _, [] => []
  | skip + 1, _ :: s => unescapeFrom skip s
  | 0, u :: s =>
    match e.entries.find? fun p => p.2 <+: u :: s with
    | some p => p.1 :: unescapeFrom (p.2.length - 1) s
    | none => u :: unescapeFrom 0 s

/-- Read a whole text. -/
def unescape (s : List α) : List α := e.unescapeFrom 0 s

variable {e} {p : α × List α} {u c : α} {s t : List α}

theorem word_eq (hp : p ∈ e.entries) : p.2 = e.mark :: p.2.tail := by
  have hhead := e.head_eq p hp
  cases hword : p.2 with
  | nil =>
    rw [hword] at hhead
    cases hhead
  | cons v t =>
    rw [hword] at hhead
    obtain rfl : v = e.mark := by simpa using hhead
    rfl

theorem escape_eq_flatMap (e : Escaping α) (s : List α) :
    e.escape s = s.flatMap (wordOf e.entries) := by
  refine replaceEach_eq_flatMap ?_ s
  refine (List.Pairwise.and_mem.1 e.ordered).imp ?_
  rintro p q ⟨hp, hq, hne⟩
  exact e.symbol_notMem q hq hne p hp

theorem escape_cons (e : Escaping α) (u : α) (s : List α) :
    e.escape (u :: s) = wordOf e.entries u ++ e.escape s := by
  simp only [escape_eq_flatMap, List.flatMap_cons]

/-- **The symbols are gone**, but for the mark. -/
theorem notMem_escape (hp : p ∈ e.entries) (hne : p.1 ≠ e.mark) (s : List α) :
    p.1 ∉ e.escape s := by
  rw [escape_eq_flatMap, List.mem_flatMap]
  rintro ⟨u, -, hu⟩
  rcases wordOf_cases e.entries u with ⟨q, hq, -, hword⟩ | ⟨hnone, hword⟩
  · rw [hword] at hu
    exact e.symbol_notMem p hp hne q hq hu
  · rw [hword, List.mem_singleton] at hu
    exact hnone p hp hu

theorem ne_mark (h : ∀ p ∈ e.entries, p.1 ≠ u) : u ≠ e.mark := by
  rintro rfl
  obtain ⟨p, hp, heq⟩ := List.mem_map.1 e.mark_mem
  exact h p hp heq

/-- **Every mark begins a word.** -/
theorem isPrefix_drop_escape (s : List α) {i : ℕ} (hi : (e.escape s)[i]? = some e.mark) :
    ∃ p ∈ e.entries, p.2 <+: (e.escape s).drop i := by
  induction s generalizing i with
  | nil =>
    rw [escape_eq_flatMap] at hi
    cases hi
  | cons u s ih =>
    rw [escape_cons] at hi ⊢
    rcases Nat.lt_or_ge i (wordOf e.entries u).length with hlt | hge
    · rcases wordOf_cases e.entries u with ⟨p, hp, -, hword⟩ | ⟨hnone, hword⟩
      · -- the mark is the head of the word and nothing else of it
        rw [hword] at hi hlt ⊢
        cases i with
        | zero => exact ⟨p, hp, List.prefix_append _ _⟩
        | succ i =>
          rw [List.getElem?_append_left hlt, word_eq hp, List.getElem?_cons_succ] at hi
          exact absurd (List.mem_of_getElem? hi) (e.mark_notMem p hp)
      · rw [hword] at hi hlt
        obtain rfl : i = 0 := by simpa using hlt
        exact absurd (by simpa using hi) (ne_mark hnone)
    · rw [List.getElem?_append_right hge] at hi
      rw [List.drop_append, List.drop_eq_nil_of_le hge, List.nil_append]
      exact ih hi

theorem unescapeFrom_append (e : Escaping α) (t s : List α) :
    e.unescapeFrom t.length (t ++ s) = e.unescapeFrom 0 s := by
  induction t with
  | nil => rfl
  | cons v t ih => exact ih

theorem unescape_wordOf_append (e : Escaping α) (u : α) (s : List α) :
    e.unescape (wordOf e.entries u ++ s) = u :: e.unescape s := by
  rcases wordOf_cases e.entries u with ⟨p, hp, rfl, hword⟩ | ⟨hnone, hword⟩
  · have hfind : (e.entries.find? fun q => q.2 <+: e.mark :: (p.2.tail ++ s)) = some p := by
      rw [← List.cons_append, ← word_eq hp]
      cases hfound : e.entries.find? fun q => q.2 <+: p.2 ++ s with
      | none =>
        have hno := List.find?_eq_none.1 hfound p hp
        exact absurd (decide_eq_true (List.prefix_append p.2 s)) hno
      | some q =>
        have hq := List.mem_of_find?_eq_some hfound
        have hprefix : q.2 <+: p.2 ++ s := by simpa using List.find?_some hfound
        -- of two words that begin one text, one begins the other
        rcases List.prefix_or_prefix_of_prefix hprefix (List.prefix_append p.2 s) with hqp | hpq
        · rw [e.prefix_free q hq p hp hqp]
        · rw [e.prefix_free p hp q hq hpq]
    rw [hword, word_eq hp, List.cons_append]
    simp only [unescape, unescapeFrom, hfind]
    rw [← unescapeFrom_append e p.2.tail s, List.length_tail]
  · have hfind : (e.entries.find? fun q => q.2 <+: u :: s) = none := by
      refine List.find?_eq_none.2 fun q hq => ?_
      rw [word_eq hq, decide_eq_true_iff, List.cons_prefix_cons]
      exact fun h => ne_mark hnone h.1.symm
    rw [hword, List.singleton_append]
    simp only [unescape, unescapeFrom, hfind]

/-- **Reading from left to right** gives the text back. -/
theorem unescape_escape (e : Escaping α) (s : List α) : e.unescape (e.escape s) = s := by
  induction s with
  | nil =>
    rw [escape_eq_flatMap]
    rfl
  | cons u s ih => rw [escape_cons, unescape_wordOf_append, ih]

end Escaping

end HrBooking
