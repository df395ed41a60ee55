import Mathlib.Data.List.Basic
import Mathlib.Tactic.Common

/-!
# Base64

Three bytes are four digits of six bits.  What is left at the end is filled up with signs that are
no digits; reading stops there, passes over everything that is no digit, and takes the digits of
the alphabet for URLs too.

* `Base64.encode`, `Base64.decode` : the text of bytes, and the bytes of a text.
* `Base64.decode_encode` : the bytes are read back.
-/

namespace HrBooking

namespace Base64

/-- The digits. -/
def alphabet : List Char :=
  "ABCDEFGHIJKLMNOPQRSTUVWXYZabcdefghijklmnopqrstuvwxyz0123456789+/".toList

/-- The digit of a number below 64. -/
def digit (n : ℕ) : Char := alphabet.getD n '='

/-- The number of a digit. -/
def value (c : Char) : Option ℕ :=
  if c = '-' then some 62 else if c = '_' then some 63 else alphabet.idxOf? c

/-- Bytes as numbers of six bits. -/
def sextets : List UInt8 → List ℕ
  | a :: b :: c :: s =>
    a.toNat / 4 :: (a.toNat % 4 * 16 + b.toNat / 16) :: (b.toNat % 16 * 4 + c.toNat / 64) ::
      c.toNat % 64 :: sextets s
  | [a, b] => [a.toNat / 4, a.toNat % 4 * 16 + b.toNat / 16, b.toNat % 16 * 4]
  | [a] => [a.toNat / 4, a.toNat % 4 * 16]
  | [] => []

/-- The bytes of numbers of six bits; bits that fill no byte are dropped. -/
def bytes : List ℕ → List UInt8
  | a :: b :: c :: d :: s =>
    (a * 4 + b / 16).toUInt8 :: (b % 16 * 16 + c / 4).toUInt8 :: (c % 4 * 64 + d).toUInt8 :: bytes s
  | [a, b, c] => [(a * 4 + b / 16).toUInt8, (b % 16 * 16 + c / 4).toUInt8]
  | [a, b] => [(a * 4 + b / 16).toUInt8]
  | _ => []

def encode (s : List UInt8) : String :=
  String.ofList ((sextets s).map digit ++ List.replicate ((3 - s.length % 3) % 3) '=')

def decode (payload : String) : List UInt8 :=
  bytes ((payload.toList.takeWhile (· ≠ '=')).filterMap value)

theorem value_digit {n : ℕ} (h : n < 64) : value (digit n) = some n := by
  revert n
  decide +kernel

theorem digit_ne_eq {n : ℕ} (h : n < 64) : digit n ≠ '=' := by
  revert n
  decide +kernel

theorem lt_of_mem_sextets {s : List UInt8} {n : ℕ} (h : n ∈ sextets s) : n < 64 := by
  induction s using sextets.induct with
  | case1 a b c s ih =>
    have ha := a.toNat_lt
    have hb := b.toNat_lt
    have hc := c.toNat_lt
    simp only [sextets, List.mem_cons] at h
    rcases h with rfl | rfl | rfl | rfl | h
    · omega
    · omega
    · omega
    · omega
    · exact ih h
  | case2 a b =>
    have ha := a.toNat_lt
    have hb := b.toNat_lt
    simp only [sextets, List.mem_cons, List.not_mem_nil, or_false] at h
    omega
  | case3 a =>
    have ha := a.toNat_lt
    simp only [sextets, List.mem_cons, List.not_mem_nil, or_false] at h
    omega
  | case4 => exact absurd h List.not_mem_nil

theorem bytes_sextets (s : List UInt8) : bytes (sextets s) = s := by
  have hbyte : ∀ (n : ℕ) (a : UInt8), n = a.toNat → n.toUInt8 = a := by
    rintro _ a rfl
    exact UInt8.ofNat_toNat
  induction s using sextets.induct with
  | case1 a b c s ih =>
    have ha := a.toNat_lt
    have hb := b.toNat_lt
    have hc := c.toNat_lt
    simp only [sextets, bytes, ih]
    rw [hbyte _ a (by omega), hbyte _ b (by omega), hbyte _ c (by omega)]
  | case2 a b =>
    have ha := a.toNat_lt
    have hb := b.toNat_lt
    simp only [sextets, bytes]
    rw [hbyte _ a (by omega), hbyte _ b (by omega)]
  | case3 a =>
    have ha := a.toNat_lt
    simp only [sextets, bytes]
    rw [hbyte _ a (by omega)]
  | case4 => rfl

/-- **The bytes are read back.** -/
theorem decode_encode (s : List UInt8) : decode (encode s) = s := by
  have hdigits : ∀ c ∈ (sextets s).map digit, decide (c ≠ '=') = true := by
    intro c hc
    obtain ⟨n, hn, rfl⟩ := List.mem_map.1 hc
    exact decide_eq_true (digit_ne_eq (lt_of_mem_sextets hn))
  have hvalues : ((sextets s).map digit).filterMap value = sextets s := by
    rw [List.filterMap_map]
    exact (List.filterMap_congr fun n hn => value_digit (lt_of_mem_sextets hn)).trans
      List.filterMap_some
  have hend : (List.replicate ((3 - s.length % 3) % 3) '=').takeWhile (· ≠ '=') = [] := by
    simp
  rw [decode, encode, String.toList_ofList, List.takeWhile_append_of_pos hdigits, hend,
    List.append_nil, hvalues, bytes_sextets]

end Base64

end HrBooking
