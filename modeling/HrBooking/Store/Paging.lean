import Mathlib.Data.List.Nodup
import Mathlib.Data.List.Perm.Basic
import Mathlib.Data.List.Sort
import Mathlib.Order.MinMax
import Mathlib.Tactic.Common

/-!
# Pages of sorted answers

A list is asked for page by page.  Each page is cut from an answer of its own, and an answer is the
items in some order that sorts them by a key: items of one key may come in another order each time.

* `Paging.totalPages`, `Paging.slice`, `Paging.paginate` : how many pages there are, and one of
  them.
* `Paging.flatMap_slice` : the pages of one answer are the answer.
* `Paging.Straddles` : items of one key on both sides of a cut.
* `Paging.pages_perm_iff` : the pages of any answers have every item once exactly when no cut
  between two pages is straddled.
-/

namespace HrBooking

namespace Paging

variable {α κ : Type*} {limit page total : ℕ} {l l' items : List α}

/-! ### One answer -/

/-- The number of pages of a length; nothing is a page too. -/
def totalPages (limit total : ℕ) : ℕ := max 1 ((total + limit - 1) / limit)

/-- One page; the first one has the number one. -/
def slice (limit page : ℕ) (l : List α) : List α := (l.drop ((page - 1) * limit)).take limit

/-- A page, and where it stands among the others. -/
structure Page (α : Type*) where
  data : List α
  page : ℕ
  limit : ℕ
  total : ℕ
  totalPages : ℕ
  deriving DecidableEq

/-- The page asked for, and the last one in place of a page beyond it. -/
def paginate (limit page total : ℕ) (answer : List α) : Page α where
  data := slice limit (min page (totalPages limit total)) answer
  page := min page (totalPages limit total)
  limit := limit
  total := total
  totalPages := totalPages limit total

/-- What is shown of the items of a page. -/
def Page.map {β : Type*} (f : α → β) (p : Page α) : Page β :=
  ⟨p.data.map f, p.page, p.limit, p.total, p.totalPages⟩

theorem paginate_of_le (h : page ≤ totalPages limit total) (answer : List α) :
    (paginate limit page total answer).data = slice limit page answer := by
  rw [paginate, min_eq_left h]

/-- **A page beyond the last** is the last one. -/
theorem paginate_of_ge (h : totalPages limit total ≤ page) (answer : List α) :
    paginate limit page total answer = paginate limit (totalPages limit total) total answer := by
  simp only [paginate, min_eq_right h, min_self]

theorem le_totalPages_mul (h : 0 < limit) (total : ℕ) : total ≤ totalPages limit total * limit := by
  have hdiv := Nat.div_add_mod (total + limit - 1) limit
  have hmod := Nat.mod_lt (total + limit - 1) h
  calc total ≤ (total + limit - 1) / limit * limit := by
        rw [Nat.mul_comm]
        omega
    _ ≤ totalPages limit total * limit := Nat.mul_le_mul_right _ (Nat.le_max_right _ _)

theorem lt_totalPages_iff (h : 0 < limit) (hpage : 0 < page) :
    page < totalPages limit total ↔ page * limit < total := by
  rw [totalPages, lt_max_iff, or_iff_right (by omega), Nat.lt_iff_add_one_le,
    Nat.le_div_iff_mul_le h, Nat.succ_mul]
  omega

theorem take_succ_mul (l : List α) (k limit : ℕ) :
    l.take ((k + 1) * limit) = l.take (k * limit) ++ slice limit (k + 1) l := by
  rw [Nat.succ_mul, List.take_add, slice, Nat.add_sub_cancel]

theorem flatMap_slice_take (l : List α) (limit m : ℕ) :
    (List.range m).flatMap (fun k => slice limit (k + 1) l) = l.take (m * limit) := by
  induction m with
  | zero => simp
  | succ m ih =>
    rw [List.range_succ, List.flatMap_append, ih, List.flatMap_singleton, take_succ_mul]

/-- **The pages of one answer** are the answer. -/
theorem flatMap_slice (h : 0 < limit) (l : List α) :
    (List.range (totalPages limit l.length)).flatMap (fun k => slice limit (k + 1) l) = l := by
  rw [flatMap_slice_take, List.take_of_length_le (le_totalPages_mul h l.length)]

/-- **Every page but the last** is full. -/
theorem length_slice (h : 0 < limit) (hpage : 0 < page) (hlt : page < totalPages limit l.length) :
    (slice limit page l).length = limit := by
  have hend := (lt_totalPages_iff h hpage).1 hlt
  obtain ⟨k, rfl⟩ := Nat.exists_eq_add_of_le' hpage
  rw [Nat.succ_mul] at hend
  rw [slice, List.length_take, List.length_drop, Nat.add_sub_cancel]
  omega

theorem mem_slice {k i : ℕ} {a : α} (hi : i < limit) (h : l[k * limit + i]? = some a) :
    a ∈ slice limit (k + 1) l := by
  refine List.mem_of_getElem? (i := i) ?_
  rw [slice, Nat.add_sub_cancel, List.getElem?_take_of_lt hi, List.getElem?_drop, h]

/-! ### Answers of their own -/

variable [LinearOrder κ] {key : α → κ} {n : ℕ}

/-- The list has the items, sorted by the key. -/
structure IsAnswer (key : α → κ) (items l : List α) : Prop where
  perm : l.Perm items
  sorted : l.Pairwise fun a b => key a ≤ key b

/-- The cut after `n` items goes through the items of one key. -/
def Straddles (key : α → κ) (items : List α) (n : ℕ) : Prop :=
  ∃ a ∈ items, items.countP (fun b => key b < key a) < n ∧
    n < items.countP fun b => key b ≤ key a

theorem exists_isAnswer (key : α → κ) (items : List α) : ∃ l, IsAnswer key items l :=
  ⟨items.insertionSort fun a b => key a ≤ key b, List.perm_insertionSort _ _,
    haveI : Std.Total fun a b => key a ≤ key b := ⟨fun a b => le_total (key a) (key b)⟩
    haveI : IsTrans α fun a b => key a ≤ key b := ⟨fun _ _ _ => le_trans⟩
    List.pairwise_insertionSort _ _⟩

section Sorted

variable {u v : List α} {a b : α}

theorem countP_lt_le (h : (u ++ a :: v).Pairwise fun a b => key a ≤ key b) :
    (u ++ a :: v).countP (fun b => key b < key a) ≤ u.length := by
  have hlater : (a :: v).countP (fun b => key b < key a) = 0 := by
    refine List.countP_eq_zero.2 fun b hb => ?_
    rw [decide_eq_true_iff, not_lt]
    rcases List.mem_cons.1 hb with rfl | hb
    · exact le_rfl
    · exact List.rel_of_pairwise_cons (List.pairwise_append.1 h).2.1 hb
  rw [List.countP_append, hlater, Nat.add_zero]
  exact List.countP_le_length

theorem le_countP_le (h : (u ++ a :: v).Pairwise fun a b => key a ≤ key b) :
    u.length + 1 ≤ (u ++ a :: v).countP (fun b => key b ≤ key a) := by
  have hbefore : (u ++ [a]).countP (fun b => key b ≤ key a) = (u ++ [a]).length := by
    refine List.countP_eq_length.2 fun b hb => ?_
    rw [decide_eq_true_iff]
    rcases List.mem_append.1 hb with hb | hb
    · exact (List.pairwise_append.1 h).2.2 b hb a List.mem_cons_self
    · rw [List.mem_singleton.1 hb]
  rw [List.append_cons, List.countP_append, hbefore, List.length_append]
  exact Nat.le_add_right _ _

theorem pairwise_swap (h : (u ++ a :: b :: v).Pairwise fun a b => key a ≤ key b)
    (hba : key b ≤ key a) : (u ++ b :: a :: v).Pairwise fun a b => key a ≤ key b := by
  simp only [List.pairwise_append, List.pairwise_cons, List.mem_cons, forall_eq_or_imp] at h ⊢
  obtain ⟨hu, ⟨⟨-, hav⟩, hbv, hv⟩, hbetween⟩ := h
  exact ⟨hu, ⟨⟨hba, hbv⟩, hav, hv⟩, fun c hc =>
    ⟨(hbetween c hc).2.1, (hbetween c hc).1, (hbetween c hc).2.2⟩⟩

end Sorted

theorem IsAnswer.take_eq (h : IsAnswer key items l) (hn : ¬ Straddles key items n) :
    l.take n = l.filter fun a => items.countP (fun b => key b ≤ key a) ≤ n := by
  have hsorted := h.sorted
  have hbefore : ∀ a ∈ l.take n, items.countP (fun b => key b ≤ key a) ≤ n := by
    intro a ha
    by_contra hlt
    obtain ⟨u, v, huv⟩ := List.append_of_mem ha
    have hl : l = u ++ a :: (v ++ l.drop n) := by
      rw [← List.cons_append, ← List.append_assoc, ← huv, List.take_append_drop]
    refine hn ⟨a, h.perm.mem_iff.1 (List.mem_of_mem_take ha), ?_, not_le.1 hlt⟩
    -- what comes before it is fewer than `n` items
    have hu : u.length < n := by
      have hlength := congrArg List.length huv
      simp only [List.length_take, List.length_append, List.length_cons] at hlength
      omega
    rw [← h.perm.countP_eq, hl]
    exact (countP_lt_le (hl ▸ hsorted)).trans_lt hu
  have hafter : ∀ a ∈ l.drop n, ¬ items.countP (fun b => key b ≤ key a) ≤ n := by
    intro a ha
    obtain ⟨u, v, huv⟩ := List.append_of_mem ha
    have hl : l = (l.take n ++ u) ++ a :: v := by
      rw [List.append_assoc, ← huv, List.take_append_drop]
    have hlength : n ≤ (l.take n ++ u).length := by
      have hdrop := List.length_pos_of_mem ha
      rw [List.length_drop] at hdrop
      rw [List.length_append, List.length_take]
      omega
    rw [← h.perm.countP_eq, hl, not_le]
    exact (Nat.lt_succ_of_le hlength).trans_le (le_countP_le (hl ▸ hsorted))
  conv_rhs => rw [← List.take_append_drop n l, List.filter_append]
  rw [List.filter_eq_self.2 fun a ha => decide_eq_true (hbefore a ha),
    List.filter_eq_nil_iff.2 fun a ha => by simpa using hafter a ha, List.append_nil]

theorem IsAnswer.take_perm (h : IsAnswer key items l) (h' : IsAnswer key items l')
    (hn : ¬ Straddles key items n) : (l.take n).Perm (l'.take n) := by
  rw [h.take_eq hn, h'.take_eq hn]
  exact (h.perm.trans h'.perm.symm).filter _

/-- **A page** between cuts that are not straddled has the same items in every answer. -/
theorem IsAnswer.slice_perm (h : IsAnswer key items l) (h' : IsAnswer key items l') {k : ℕ}
    (hn : ∀ k, ¬ Straddles key items (k * limit)) :
    (slice limit (k + 1) l).Perm (slice limit (k + 1) l') := by
  have hboth := h.take_perm h' (hn (k + 1))
  rw [take_succ_mul, take_succ_mul] at hboth
  exact (List.perm_append_left_iff _).1
    (((h'.take_perm h (hn k)).append_right _).trans hboth)

/-- All pages, each cut from an answer of its own. -/
def pages (limit total : ℕ) (answers : ℕ → List α) : List α :=
  (List.range (totalPages limit total)).flatMap fun k => slice limit (k + 1) (answers (k + 1))

theorem flatMap_paginate {β : Type*} (f : α → β) (limit total : ℕ) (answers : ℕ → List α) :
    ((List.range (totalPages limit total)).flatMap fun k =>
        ((paginate limit (k + 1) total (answers (k + 1))).map f).data) =
      (pages limit total answers).map f := by
  rw [pages, List.map_flatMap]
  refine List.flatMap_congr fun k hk => ?_
  exact congrArg (List.map f) (paginate_of_le (Nat.succ_le_of_lt (List.mem_range.1 hk)) _)

theorem IsAnswer.exists_tie (h : IsAnswer key items l) (hn : Straddles key items n) :
    ∃ u a b v, l = u ++ a :: b :: v ∧ u.length + 1 = n ∧ key b ≤ key a := by
  obtain ⟨x, -, hbelow, habove⟩ := hn
  rw [← h.perm.countP_eq] at hbelow habove
  have hlength : n < l.length := habove.trans_le List.countP_le_length
  obtain ⟨m, rfl⟩ := Nat.exists_eq_add_of_le' ((Nat.zero_le _).trans_lt hbelow)
  have hl : l = l.take m ++ l[m] :: l[m + 1] :: l.drop (m + 2) := by
    rw [← List.drop_eq_getElem_cons, ← List.drop_eq_getElem_cons, List.take_append_drop]
  have hu : (l.take m).length = m := by
    rw [List.length_take]
    omega
  refine ⟨_, _, _, _, hl, by rw [hu], ?_⟩
  -- the key of `x` is between those of the two items, which are in order
  have hbefore : key x ≤ key l[m] := by
    by_contra hlt
    have hcount := le_countP_le (hl ▸ h.sorted)
    rw [← hl, hu] at hcount
    refine absurd (hcount.trans (List.countP_mono_left fun b _ hb => ?_)) (not_le.2 hbelow)
    rw [decide_eq_true_iff] at hb ⊢
    exact hb.trans_lt (not_le.1 hlt)
  have hafter : key l[m + 1] ≤ key x := by
    by_contra hlt
    rw [List.append_cons] at hl
    have hcount := countP_lt_le (hl ▸ h.sorted)
    rw [← hl, List.length_append, hu, List.length_singleton] at hcount
    refine absurd ((List.countP_mono_left fun b _ hb => ?_).trans hcount) (not_le.2 habove)
    rw [decide_eq_true_iff] at hb ⊢
    exact hb.trans_lt (not_le.1 hlt)
  exact hafter.trans hbefore

theorem exists_not_nodup (hlimit : 0 < limit) {k : ℕ} (hk : Straddles key items (k * limit)) :
    ∃ answers : ℕ → List α, (∀ p, IsAnswer key items (answers p)) ∧
      ¬ (pages limit items.length answers).Nodup := by
  obtain ⟨l, h⟩ := exists_isAnswer key items
  obtain ⟨u, a, b, v, rfl, hu, hba⟩ := h.exists_tie hk
  have hswap : IsAnswer key items (u ++ b :: a :: v) :=
    ⟨((List.Perm.swap a b v).append_left u).trans h.perm, pairwise_swap h.sorted hba⟩
  -- the item before the cut comes after it once its page has been served
  refine ⟨fun p => if p ≤ k then u ++ a :: b :: v else u ++ b :: a :: v, fun p => ?_, ?_⟩
  · dsimp only
    split_ifs
    · exact h
    · exact hswap
  · obtain ⟨j, rfl⟩ : ∃ j, k = j + 1 := Nat.exists_eq_succ_of_ne_zero (by rintro rfl; omega)
    have hjump : (j + 1) * limit = j * limit + limit := Nat.succ_mul j limit
    have hpages : j + 1 < totalPages limit items.length := by
      rw [lt_totalPages_iff hlimit (Nat.succ_pos j), ← h.perm.length_eq, ← hu]
      simp only [List.length_append, List.length_cons]
      omega
    rw [pages, List.nodup_flatMap]
    rintro ⟨-, hdisjoint⟩
    rw [List.pairwise_iff_getElem] at hdisjoint
    have hapart := hdisjoint j (j + 1) (by rw [List.length_range]; omega)
      (by rwa [List.length_range]) (Nat.lt_succ_self j)
    simp only [List.getElem_range, Function.onFun, le_refl, if_true,
      if_neg (Nat.not_succ_le_self (j + 1))] at hapart
    refine hapart (a := a) (mem_slice (i := limit - 1) (by omega) ?_)
      (mem_slice (i := 0) hlimit ?_)
    · have hindex : j * limit + (limit - 1) = u.length := by omega
      rw [hindex, List.getElem?_append_right le_rfl, Nat.sub_self]
      rfl
    · have hindex : (j + 1) * limit + 0 = u.length + 1 := by omega
      rw [hindex, List.getElem?_append_right (Nat.le_add_right _ 1), Nat.add_sub_cancel_left]
      rfl

/-- **The pages of any answers** have every item exactly once if and only if no cut between two
pages goes through the items of one key. -/
theorem pages_perm_iff (hlimit : 0 < limit) (hnodup : items.Nodup) (key : α → κ) :
    (∀ answers : ℕ → List α, (∀ p, IsAnswer key items (answers p)) →
        (pages limit items.length answers).Perm items) ↔
      ∀ k, ¬ Straddles key items (k * limit) := by
  constructor
  · intro h k hk
    obtain ⟨answers, hanswers, hdouble⟩ := exists_not_nodup hlimit hk
    exact hdouble ((h answers hanswers).nodup_iff.2 hnodup)
  · intro hclean answers hanswers
    obtain ⟨l, hl⟩ := exists_isAnswer key items
    have hpages : (pages limit items.length answers).Perm
        (pages limit items.length fun _ => l) :=
      List.Perm.flatMap_left _ fun k _ => (hanswers (k + 1)).slice_perm hl hclean
    refine hpages.trans ?_
    rw [pages, ← hl.perm.length_eq, flatMap_slice hlimit]
    exact hl.perm

end Paging

end HrBooking
