import Mathlib.Data.List.Basic
import Mathlib.Tactic.Common

/-!
# UTF-8

A character is one to four bytes.  Bytes that are no character are read as the replacement
character: one for a byte that begins none, and one for the beginning of a character that breaks
off.

* `Utf8.encode`, `Utf8.decode` : the bytes of a string, and the string of bytes.
* `Utf8.decode_encode` : the string is read back.
-/

namespace HrBooking

namespace Utf8

/-- The bytes of the character with a number. -/
def encodeNat (n : ℕ) : List ℕ :=
  if n < 0x80 then [n]
  else if n < 0x800 then [0xC0 + n / 64, 0x80 + n % 64]
  else if n < 0x10000 then [0xE0 + n / 4096, 0x80 + n / 64 % 64, 0x80 + n % 64]
  else [0xF0 + n / 262144, 0x80 + n / 4096 % 64, 0x80 + n / 64 % 64, 0x80 + n % 64]

/-- How many bytes follow a first byte, and the bits it brings. -/
def lead (b : ℕ) : Option (ℕ × ℕ) :=
  if b < 0x80 then some (0, b)
  else if 0xC2 ≤ b ∧ b ≤ 0xDF then some (1, b - 0xC0)
  else if 0xE0 ≤ b ∧ b ≤ 0xEF then some (2, b - 0xE0)
  else if 0xF0 ≤ b ∧ b ≤ 0xF4 then some (3, b - 0xF0)
  else none

/-- The bounds of the second byte: no character is longer than it has to be, none is a surrogate,
and none is beyond the last one. -/
def secondBounds (b : ℕ) : ℕ × ℕ :=
  if b = 0xE0 then (0xA0, 0xBF)
  else if b = 0xED then (0x80, 0x9F)
  else if b = 0xF0 then (0x90, 0xBF)
  else if b = 0xF4 then (0x80, 0x8F)
  else (0x80, 0xBF)

/-- Read the bytes that follow, the next one within bounds; and how many are read. -/
def readMore : ℕ → ℕ × ℕ → ℕ → List ℕ → Option ℕ × ℕ
  | 0, _, bits, _ => (some bits, 0)
  | _ + 1, _, _, [] => (none, 0)
  | need + 1, bounds, bits, b :: s =>
    if bounds.1 ≤ b ∧ b ≤ bounds.2 then
      let r := readMore need (0x80, 0xBF) (bits * 64 + (b - 0x80)) s
      (r.1, r.2 + 1)
    else (none, 0)

/-- The first character of bytes, and how many it takes after the first. -/
def readChar (b : ℕ) (s : List ℕ) : Char × ℕ :=
  match lead b with
  | none => ('\uFFFD', 0)
  | some (need, bits) =>
    match readMore need (secondBounds b) bits s with
    | (some n, count) => (Char.ofNat n, count)
    | (none, count) => ('\uFFFD', count)

/-- The characters after the first bytes have been skipped. -/
def decodeFrom : ℕ → List ℕ → List Char
  | _, [] => []
  | skip + 1, _ :: s => decodeFrom skip s
  | 0, b :: s => (readChar b s).1 :: decodeFrom (readChar b s).2 s

def encode (s : String) : List UInt8 :=
  (s.toList.flatMap fun c => encodeNat c.toNat).map Nat.toUInt8

def decode (s : List UInt8) : String := String.ofList (decodeFrom 0 (s.map UInt8.toNat))

section

variable {n : ℕ}

theorem lt_of_mem_encodeNat (h : n.isValidChar) {b : ℕ} (hb : b ∈ encodeNat n) : b < 256 := by
  have hn : n < 0xD800 ∨ 0xDFFF < n ∧ n < 0x110000 := h
  unfold encodeNat at hb
  split_ifs at hb <;> simp only [List.mem_cons, List.not_mem_nil, or_false] at hb <;> omega

theorem readMore_zero (bounds : ℕ × ℕ) (bits : ℕ) (s : List ℕ) :
    readMore 0 bounds bits s = (some bits, 0) := by
  cases s <;> rfl

theorem readMore_succ {need bits b : ℕ} {bounds : ℕ × ℕ} (h : bounds.1 ≤ b ∧ b ≤ bounds.2)
    (s : List ℕ) :
    readMore (need + 1) bounds bits (b :: s) =
      ((readMore need (0x80, 0xBF) (bits * 64 + (b - 0x80)) s).1,
        (readMore need (0x80, 0xBF) (bits * 64 + (b - 0x80)) s).2 + 1) := by
  rw [readMore, if_pos h]

/-- A byte with six bits that does not come second. -/
theorem readMore_six {need bits : ℕ} (m : ℕ) (s : List ℕ) :
    readMore (need + 1) (0x80, 0xBF) bits ((0x80 + m % 64) :: s) =
      ((readMore need (0x80, 0xBF) (bits * 64 + m % 64) s).1,
        (readMore need (0x80, 0xBF) (bits * 64 + m % 64) s).2 + 1) := by
  rw [readMore_succ ⟨by omega, by omega⟩, Nat.add_sub_cancel_left]

theorem readChar_encodeNat (h : n.isValidChar) {b : ℕ} {t : List ℕ} (hbytes : encodeNat n = b :: t)
    (s : List ℕ) : readChar b (t ++ s) = (Char.ofNat n, t.length) := by
  have hn : n < 0xD800 ∨ 0xDFFF < n ∧ n < 0x110000 := h
  unfold encodeNat at hbytes
  split_ifs at hbytes with h1 h2 h3 <;> obtain ⟨rfl, rfl⟩ := List.cons.inj hbytes
  · have hlead : lead n = some (0, n) := if_pos h1
    simp only [readChar, hlead, readMore_zero, List.length_nil]
  · have hlead : lead (0xC0 + n / 64) = some (1, n / 64) := by
      rw [lead, if_neg (by omega), if_pos (by omega), Nat.add_sub_cancel_left]
    have hbounds : (secondBounds (0xC0 + n / 64)).1 ≤ 0x80 + n % 64 ∧
        0x80 + n % 64 ≤ (secondBounds (0xC0 + n / 64)).2 := by
      unfold secondBounds
      split_ifs <;> constructor <;> simp only <;> omega
    have hvalue : n / 64 * 64 + (0x80 + n % 64 - 0x80) = n := by omega
    simp only [readChar, hlead, List.cons_append, List.nil_append, readMore_succ hbounds,
      readMore_zero, hvalue, List.length_cons, List.length_nil]
  · have hlead : lead (0xE0 + n / 4096) = some (2, n / 4096) := by
      rw [lead, if_neg (by omega), if_neg (by omega), if_pos (by omega), Nat.add_sub_cancel_left]
    -- the second byte is bounded so that there is no surrogate and nothing shorter
    have hbounds : (secondBounds (0xE0 + n / 4096)).1 ≤ 0x80 + n / 64 % 64 ∧
        0x80 + n / 64 % 64 ≤ (secondBounds (0xE0 + n / 4096)).2 := by
      unfold secondBounds
      split_ifs <;> constructor <;> simp only <;> omega
    have hvalue : (n / 4096 * 64 + (0x80 + n / 64 % 64 - 0x80)) * 64 + n % 64 = n := by omega
    simp only [readChar, hlead, List.cons_append, List.nil_append, readMore_succ hbounds,
      readMore_six, readMore_zero, hvalue, List.length_cons, List.length_nil]
  · have hlead : lead (0xF0 + n / 262144) = some (3, n / 262144) := by
      rw [lead, if_neg (by omega), if_neg (by omega), if_neg (by omega), if_pos (by omega),
        Nat.add_sub_cancel_left]
    have hbounds : (secondBounds (0xF0 + n / 262144)).1 ≤ 0x80 + n / 4096 % 64 ∧
        0x80 + n / 4096 % 64 ≤ (secondBounds (0xF0 + n / 262144)).2 := by
      unfold secondBounds
      split_ifs <;> constructor <;> simp only <;> omega
    have hvalue : ((n / 262144 * 64 + (0x80 + n / 4096 % 64 - 0x80)) * 64 + n / 64 % 64) * 64 +
        n % 64 = n := by omega
    simp only [readChar, hlead, List.cons_append, List.nil_append, readMore_succ hbounds,
      readMore_six, readMore_zero, hvalue, List.length_cons, List.length_nil]

end

theorem decodeFrom_append (t s : List ℕ) : decodeFrom t.length (t ++ s) = decodeFrom 0 s := by
  induction t with
  | nil => rfl
  | cons b t ih => exact ih

theorem decodeFrom_encodeNat (c : Char) (s : List ℕ) :
    decodeFrom 0 (encodeNat c.toNat ++ s) = c :: decodeFrom 0 s := by
  cases hbytes : encodeNat c.toNat with
  | nil =>
    unfold encodeNat at hbytes
    split_ifs at hbytes
  | cons b t =>
    have hread : readChar b (t ++ s) = (c, t.length) :=
      (readChar_encodeNat c.valid hbytes s).trans (by rw [← Char.toNat, Char.ofNat_toNat])
    rw [List.cons_append, decodeFrom, hread, decodeFrom_append]

/-- **The string is read back.** -/
theorem decode_encode (s : String) : decode (encode s) = s := by
  have hbytes : (encode s).map UInt8.toNat = s.toList.flatMap fun c => encodeNat c.toNat := by
    rw [encode, List.map_map]
    refine (List.map_congr_left fun n hn => ?_).trans (List.map_id _)
    obtain ⟨c, -, hn⟩ := List.mem_flatMap.1 hn
    exact UInt8.toNat_ofNat_of_lt' (lt_of_mem_encodeNat c.valid hn)
  have hchars : ∀ l : List Char, decodeFrom 0 (l.flatMap fun c => encodeNat c.toNat) = l := by
    intro l
    induction l with
    | nil => rfl
    | cons c l ih => rw [List.flatMap_cons, decodeFrom_encodeNat, ih]
  rw [decode, hbytes, hchars, String.ofList_toList]

end Utf8

end HrBooking
