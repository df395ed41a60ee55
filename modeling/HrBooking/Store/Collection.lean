import Mathlib.Data.List.Pairwise
import Mathlib.Tactic.Common

/-!
# Document collections with a unique sparse index

A `Collection` is the list of the stored documents in natural order, together with the proof that
no two of them share an identity and no two of them share a value under the unique sparse index
(a document without a value is not indexed).  A write that would break this is refused, which is
what a database answers with its duplicate-key error.

* `Collection.insert`, `Collection.update`, `Collection.delete` : the single-document writes and
  the filtered delete.
* `Collection.mem_insert`, `Collection.mem_update`, `Collection.mem_delete` : what is stored after
  each of them.
* `Collection.findById_insert`, `Collection.findById_update`, `Collection.findByKey_insert` and
  `Collection.findByKey_update` : what is found then.
* `Collection.eq_of_docId`, `Collection.eq_of_indexKey` : the two uniqueness guarantees.
* `Collection.findByKey_map`, `Collection.insert_map`, `Collection.delete_map` and
  `Collection.map_update` : the images of the documents are found and written alike.
-/

namespace HrBooking

/-- What a collection has to know about its documents: the identity, and the value under the
unique sparse index (`none` when the document carries none). -/
class Document (D : Type*) (ι κ : outParam Type*) where
  /-- The identity of a document. -/
  docId : D → ι
  /-- The indexed value. -/
  indexKey : D → Option κ

namespace Document

variable {D ι κ : Type*} [Document D ι κ]

/-- Two documents can be stored together. -/
def Compatible (d e : D) : Prop :=
  docId d ≠ docId e ∧ ∀ k, indexKey d = some k → indexKey e ≠ some k

theorem Compatible.symm {d e : D} (h : Compatible d e) : Compatible e d :=
  ⟨h.1.symm, fun k hk hk' => h.2 k hk' hk⟩

instance : Std.Symm (Compatible (D := D)) := ⟨fun _ _ => Compatible.symm⟩

theorem not_compatible_self (d : D) : ¬ Compatible d d := fun h => h.1 rfl

theorem compatible_iff {d e : D} :
    Compatible d e ↔
      docId d ≠ docId e ∧ (indexKey d = none ∨ indexKey d ≠ indexKey e) := by
  refine and_congr_right fun _ => ?_
  cases h : indexKey d with
  | none => simp
  | some k =>
    constructor
    · intro h'
      exact .inr fun he => h' k rfl he.symm
    · rintro (h' | h') k' hk' he
      · cases h'
      · exact h' (by rw [hk', he])

instance [DecidableEq ι] [DecidableEq κ] (d e : D) : Decidable (Compatible d e) :=
  decidable_of_iff _ compatible_iff.symm

end Document

open Document

/-- A collection of documents with distinct identities and distinct indexed values. -/
structure Collection (D : Type*) {ι κ : Type*} [Document D ι κ] where
  /-- The stored documents, in natural order. -/
  docs : List D
  /-- Any two of them are compatible. -/
  compatible : docs.Pairwise Compatible

namespace Collection

variable {D ι κ : Type*} [Document D ι κ]

instance : Membership D (Collection D) := ⟨fun c d => d ∈ c.docs⟩

theorem mem_def {c : Collection D} {d : D} : d ∈ c ↔ d ∈ c.docs := Iff.rfl

instance {c : Collection D} {p : D → Prop} [DecidablePred p] : Decidable (∀ d ∈ c, p d) :=
  inferInstanceAs (Decidable (∀ d ∈ c.docs, p d))

instance {c : Collection D} {p : D → Prop} [DecidablePred p] : Decidable (∃ d ∈ c, p d) :=
  inferInstanceAs (Decidable (∃ d ∈ c.docs, p d))

/-- The collection without documents. -/
def empty : Collection D := ⟨[], .nil⟩

@[simp] theorem not_mem_empty (d : D) : d ∉ (empty : Collection D) := List.not_mem_nil

theorem compatible_of_ne {c : Collection D} {d e : D} (hd : d ∈ c) (he : e ∈ c) (hne : d ≠ e) :
    Compatible d e :=
  c.compatible.forall hd he hne

theorem eq_of_docId {c : Collection D} {d e : D} (hd : d ∈ c) (he : e ∈ c)
    (h : docId d = docId e) : d = e := by
  by_contra hne
  exact (compatible_of_ne hd he hne).1 h

theorem eq_of_indexKey {c : Collection D} {d e : D} {k : κ} (hd : d ∈ c) (he : e ∈ c)
    (hdk : indexKey d = some k) (hek : indexKey e = some k) : d = e := by
  by_contra hne
  exact (compatible_of_ne hd he hne).2 k hdk hek

/-- Delete the documents satisfying `p`. -/
def delete (c : Collection D) (p : D → Bool) : Collection D :=
  ⟨c.docs.filter fun d => !p d, c.compatible.filter _⟩

theorem mem_delete {c : Collection D} {p : D → Bool} {e : D} :
    e ∈ c.delete p ↔ e ∈ c ∧ p e = false := by
  simp [delete, mem_def]

theorem mem_delete_decide {c : Collection D} {P : D → Prop} [DecidablePred P] {e : D} :
    e ∈ c.delete (fun d => P d) ↔ e ∈ c ∧ ¬ P e := by
  rw [mem_delete, decide_eq_false_iff_not]

/-- The images of the documents under a function that keeps identities and indexed values. -/
def map {E : Type*} [Document E ι κ] (c : Collection D) (f : D → E)
    (hid : ∀ d, docId (f d) = docId d) (hkey : ∀ d, indexKey (f d) = indexKey d) : Collection E :=
  ⟨c.docs.map f, List.pairwise_map.2 (c.compatible.imp fun {d e} h => by
    rw [Compatible, hid, hid, hkey, hkey]
    exact h)⟩

section ById

variable [DecidableEq ι]

/-- The document with a given identity. -/
def findById (c : Collection D) (i : ι) : Option D := c.docs.find? fun d => docId d = i

/-- `docs` with `f` applied to the document of identity `i`. -/
def mapAt (docs : List D) (i : ι) (f : D → D) : List D :=
  docs.map fun d => if docId d = i then f d else d

theorem findById_eq_some {c : Collection D} {i : ι} {d : D} :
    c.findById i = some d ↔ d ∈ c ∧ docId d = i := by
  constructor
  · intro h
    exact ⟨List.mem_of_find?_eq_some h, by simpa using List.find?_some h⟩
  · rintro ⟨hd, rfl⟩
    obtain ⟨e, he⟩ : ∃ e, c.findById (docId d) = some e :=
      Option.isSome_iff_exists.1 (List.find?_isSome.2 ⟨d, hd, by simp⟩)
    have heq : docId e = docId d := by simpa using List.find?_some he
    rw [he, eq_of_docId (List.mem_of_find?_eq_some he) hd heq]

theorem findById_eq_none {c : Collection D} {i : ι} :
    c.findById i = none ↔ ∀ d ∈ c, docId d ≠ i := by
  simp [findById, mem_def]

theorem findById_of_mem {c : Collection D} {d : D} (hd : d ∈ c) : c.findById (docId d) = some d :=
  findById_eq_some.2 ⟨hd, rfl⟩

theorem mem_mapAt {docs : List D} {i : ι} {f : D → D} {e : D} :
    e ∈ mapAt docs i f ↔ (e ∈ docs ∧ docId e ≠ i) ∨ ∃ d ∈ docs, docId d = i ∧ f d = e := by
  simp only [mapAt, List.mem_map]
  constructor
  · rintro ⟨d, hd, rfl⟩
    split_ifs with hi
    · exact .inr ⟨d, hd, hi, rfl⟩
    · exact .inl ⟨hd, hi⟩
  · rintro (⟨he, hi⟩ | ⟨d, hd, hi, rfl⟩)
    · exact ⟨e, he, by simp [hi]⟩
    · exact ⟨d, hd, by simp [hi]⟩

theorem filter_mapAt {docs : List D} {i : ι} {f : D → D} {q : D → Bool}
    (h : ∀ d ∈ docs, docId d = i → q d = false ∧ q (f d) = false) :
    (mapAt docs i f).filter q = docs.filter q := by
  induction docs with
  | nil => rfl
  | cons d docs ih =>
    have ih := ih fun e he => h e (List.mem_cons_of_mem _ he)
    simp only [mapAt, List.map_cons, List.filter_cons] at ih ⊢
    by_cases hd : docId d = i
    · obtain ⟨hold, hnew⟩ := h d List.mem_cons_self hd
      rw [if_pos hd, if_neg (by simp [hnew]), if_neg (by simp [hold]), ih]
    · rw [if_neg hd, ih]

end ById

section ByKey

variable [DecidableEq κ]

/-- The document with a given indexed value. -/
def findByKey (c : Collection D) (k : κ) : Option D := c.docs.find? fun d => indexKey d = some k

theorem findByKey_eq_some {c : Collection D} {k : κ} {d : D} :
    c.findByKey k = some d ↔ d ∈ c ∧ indexKey d = some k := by
  constructor
  · intro h
    exact ⟨List.mem_of_find?_eq_some h, by simpa using List.find?_some h⟩
  · rintro ⟨hd, hk⟩
    obtain ⟨e, he⟩ : ∃ e, c.findByKey k = some e :=
      Option.isSome_iff_exists.1 (List.find?_isSome.2 ⟨d, hd, by simpa using hk⟩)
    have hek : indexKey e = some k := by simpa using List.find?_some he
    rw [he, eq_of_indexKey (List.mem_of_find?_eq_some he) hd hek hk]

theorem findByKey_eq_none {c : Collection D} {k : κ} :
    c.findByKey k = none ↔ ∀ d ∈ c, indexKey d ≠ some k := by
  simp [findByKey, mem_def]

end ByKey

section Writes

variable [DecidableEq ι] [DecidableEq κ]

/-- Insert a document; refused when its identity or its indexed value is taken. -/
def insert (c : Collection D) (d : D) : Option (Collection D) :=
  if h : ∀ e ∈ c.docs, Compatible e d then
    some ⟨c.docs ++ [d], List.pairwise_append.2
      ⟨c.compatible, List.pairwise_singleton _ _, fun e he x hx => by
        obtain rfl := List.mem_singleton.1 hx; exact h e he⟩⟩
  else none

/-- Replace the document of identity `i` by its image under `f`; refused when the result would
violate a uniqueness constraint. -/
def update (c : Collection D) (i : ι) (f : D → D) : Option (Collection D) :=
  if h : (mapAt c.docs i f).Pairwise Compatible then some ⟨mapAt c.docs i f, h⟩ else none

theorem insert_eq_some {c c' : Collection D} {d : D} :
    c.insert d = some c' ↔ (∀ e ∈ c, Compatible e d) ∧ c'.docs = c.docs ++ [d] := by
  unfold insert
  split_ifs with h
  · rw [Option.some.injEq]
    constructor
    · rintro rfl; exact ⟨h, rfl⟩
    · rintro ⟨-, h'⟩
      cases c'
      simp_all
  · refine ⟨fun h' => by simp at h', fun h' => absurd h'.1 h⟩

theorem insert_eq_none {c : Collection D} {d : D} :
    c.insert d = none ↔ ∃ e ∈ c, ¬ Compatible e d := by
  unfold insert
  split_ifs with h
  · simp only [false_iff, not_exists, not_and, not_not]
    exact h
  · simp only [true_iff]
    push Not at h
    exact h

theorem insert_of_compatible {c : Collection D} {d : D} (h : ∀ e ∈ c, Compatible e d) :
    ∃ c', c.insert d = some c' := by
  cases hins : c.insert d with
  | none =>
    obtain ⟨e, he, hne⟩ := insert_eq_none.1 hins
    exact absurd (h e he) hne
  | some c' => exact ⟨c', rfl⟩

theorem mem_insert {c c' : Collection D} {d e : D} (h : c.insert d = some c') :
    e ∈ c' ↔ e ∈ c ∨ e = d := by
  rw [mem_def, (insert_eq_some.1 h).2]
  simp [mem_def]

theorem update_eq_some {c c' : Collection D} {i : ι} {f : D → D} (h : c.update i f = some c') :
    c'.docs = mapAt c.docs i f := by
  unfold update at h
  split_ifs at h
  rw [← Option.some.inj h]

theorem mem_update {c c' : Collection D} {i : ι} {f : D → D} {e : D}
    (h : c.update i f = some c') :
    e ∈ c' ↔ (e ∈ c ∧ docId e ≠ i) ∨ ∃ d ∈ c, docId d = i ∧ f d = e := by
  rw [mem_def, update_eq_some h, mem_mapAt]
  rfl

/-- An update is accepted when it keeps the identity and its new indexed value is not taken by
another document. -/
theorem update_isSome {c : Collection D} {i : ι} {f : D → D}
    (hid : ∀ d ∈ c, docId d = i → docId (f d) = i)
    (hkey : ∀ d ∈ c, docId d = i → ∀ k, indexKey (f d) = some k →
      ∀ e ∈ c, docId e ≠ i → indexKey e ≠ some k) :
    ∃ c', c.update i f = some c' := by
  have h : (mapAt c.docs i f).Pairwise Compatible := by
    rw [mapAt, List.pairwise_map]
    refine c.compatible.imp_of_mem fun {d e} hd he hde => ?_
    split_ifs with hdi hei hei
    · exact absurd (hdi.trans hei.symm) hde.1
    · exact ⟨fun h => hei (h ▸ hid d hd hdi), fun k hk => hkey d hd hdi k hk e he hei⟩
    · refine Compatible.symm ⟨fun h => hdi (h ▸ hid e he hei), fun k hk => ?_⟩
      exact hkey e he hei k hk d hd hdi
    · exact hde
  exact ⟨_, dif_pos h⟩

theorem update_of_mem {c : Collection D} {f : D → D} {d : D} (hd : d ∈ c)
    (hid : docId (f d) = docId d) (hkey : indexKey (f d) = indexKey d) :
    ∃ c', c.update (docId d) f = some c' ∧
      ∀ e, e ∈ c' ↔ (e ∈ c ∧ docId e ≠ docId d) ∨ e = f d := by
  have heq : ∀ {e}, e ∈ c → docId e = docId d → e = d := fun he h => eq_of_docId he hd h
  obtain ⟨c', hc'⟩ := update_isSome (c := c) (i := docId d) (f := f)
    (fun e he h => by rw [heq he h]; exact hid) fun e he h k hk x hx hne hxk => by
      rw [heq he h, hkey] at hk
      exact hne (congrArg docId (eq_of_indexKey hx hd hxk hk))
  refine ⟨c', hc', fun e => (mem_update hc').trans (or_congr_right ?_)⟩
  constructor
  · rintro ⟨x, hx, hxd, rfl⟩
    rw [heq hx hxd]
  · rintro rfl
    exact ⟨d, hd, rfl, rfl⟩

theorem findById_insert {c c' : Collection D} {d : D} (h : c.insert d = some c') (i : ι) :
    c'.findById i = (c.findById i).or (if docId d = i then some d else none) := by
  simp only [findById, (insert_eq_some.1 h).2, List.find?_append, List.find?_singleton,
    decide_eq_true_eq]

theorem findById_update {c c' : Collection D} {i : ι} {f : D → D} (h : c.update i f = some c')
    (hf : ∀ d, docId (f d) = docId d) (k : ι) :
    c'.findById k = (c.findById k).map fun d => if k = i then f d else d := by
  have hid : ∀ d, docId (if docId d = i then f d else d) = docId d := fun d => by
    split_ifs
    · exact hf d
    · rfl
  simp only [findById, update_eq_some h, mapAt, List.find?_map]
  rw [show ((fun d : D => decide (docId d = k)) ∘ fun d => if docId d = i then f d else d) =
    fun d => decide (docId d = k) from funext fun d => by simp only [Function.comp_apply, hid]]
  refine Option.map_congr fun d hd => ?_
  have hk : docId d = k := by simpa using List.find?_some hd
  rw [hk]

theorem findByKey_insert {c c' : Collection D} {d : D} (h : c.insert d = some c') (k : κ) :
    c'.findByKey k = if indexKey d = some k then some d else c.findByKey k := by
  split_ifs with hk
  · exact findByKey_eq_some.2 ⟨(mem_insert h).2 (.inr rfl), hk⟩
  · cases hfind : c.findByKey k with
    | none =>
      refine findByKey_eq_none.2 fun e he => ?_
      rcases (mem_insert h).1 he with he | rfl
      · exact findByKey_eq_none.1 hfind e he
      · exact hk
    | some e =>
      obtain ⟨he, hek⟩ := findByKey_eq_some.1 hfind
      exact findByKey_eq_some.2 ⟨(mem_insert h).2 (.inl he), hek⟩

/-- An update that keeps the indexed value of the document changes what is found under that value
only. -/
theorem findByKey_update {c c' : Collection D} {i : ι} {f : D → D} {d : D}
    (h : c.update i f = some c') (hd : d ∈ c) (hid : docId d = i)
    (hkey : indexKey (f d) = indexKey d) (k : κ) :
    c'.findByKey k = if indexKey d = some k then some (f d) else c.findByKey k := by
  have hupdated : ∀ {e}, e ∈ c → docId e = i → e = d := fun he hei =>
    eq_of_docId he hd (hei.trans hid.symm)
  split_ifs with hk
  · exact findByKey_eq_some.2 ⟨(mem_update h).2 (.inr ⟨d, hd, hid, rfl⟩), hkey.trans hk⟩
  · cases hfind : c.findByKey k with
    | none =>
      refine findByKey_eq_none.2 fun e he => ?_
      rcases (mem_update h).1 he with ⟨he, -⟩ | ⟨e', he', hei, rfl⟩
      · exact findByKey_eq_none.1 hfind e he
      · rw [hupdated he' hei, hkey]
        exact hk
    | some e =>
      obtain ⟨he, hek⟩ := findByKey_eq_some.1 hfind
      refine findByKey_eq_some.2 ⟨(mem_update h).2 (.inl ⟨he, fun hei => ?_⟩), hek⟩
      rw [hupdated he hei] at hek
      exact hk hek

end Writes

/-! ### Images -/

theorem eq_of_docs {c c' : Collection D} (h : c.docs = c'.docs) : c = c' := by
  cases c
  cases c'
  cases h
  rfl

section Images

variable {E : Type*} [Document E ι κ] {f : D → E} {hid : ∀ d, docId (f d) = docId d}
  {hkey : ∀ d, indexKey (f d) = indexKey d} {c : Collection D}

theorem findByKey_map [DecidableEq κ] {k : κ} :
    (c.map f hid hkey).findByKey k = (c.findByKey k).map f := by
  simp only [findByKey, map, List.find?_map, Function.comp_def, hkey]

theorem delete_map {p : E → Bool} :
    (c.map f hid hkey).delete p = (c.delete fun d => p (f d)).map f hid hkey :=
  eq_of_docs List.filter_map

theorem insert_map [DecidableEq ι] [DecidableEq κ] {d : D} :
    (c.map f hid hkey).insert (f d) = (c.insert d).map fun c => c.map f hid hkey := by
  have hcompatible : ∀ e, Compatible (f e) (f d) ↔ Compatible e d := fun e => by
    simp only [Compatible, hid, hkey]
  cases hinsert : c.insert d with
  | none =>
    obtain ⟨e, he, hne⟩ := insert_eq_none.1 hinsert
    exact insert_eq_none.2 ⟨f e, List.mem_map_of_mem he, mt (hcompatible e).1 hne⟩
  | some inserted =>
    obtain ⟨hall, hdocs⟩ := insert_eq_some.1 hinsert
    refine insert_eq_some.2 ⟨fun e he => ?_, ?_⟩
    · obtain ⟨x, hx, rfl⟩ := List.mem_map.1 he
      exact (hcompatible x).2 (hall x hx)
    · simp only [map, hdocs, List.map_append, List.map_cons, List.map_nil]

theorem map_update [DecidableEq ι] [DecidableEq κ] {c' : Collection D} {i : ι} {g : D → D}
    (h : c.update i g = some c') (hg : ∀ d, f (g d) = f d) :
    c'.map f hid hkey = c.map f hid hkey := by
  refine eq_of_docs ?_
  simp only [map, update_eq_some h, mapAt, List.map_map]
  refine List.map_congr_left fun d _ => ?_
  rw [Function.comp_apply]
  split_ifs
  · exact hg d
  · rfl

end Images

end Collection

end HrBooking
