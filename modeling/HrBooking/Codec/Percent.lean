import HrBooking.Codec.Utf8

/-!
# Percent-encoding

Some bytes stand for themselves, every other one is written as a percent sign and two digits.

* `Percent.encode`, `Percent.decode` : the characters of bytes, and the bytes of characters.
* `Percent.decode_encode` : the bytes are read back.
* `encodeURIComponent`, `decodeURIComponent` : the same for texts.
* `decodeURIComponent_encodeURIComponent` : the text is read back.
* `notMem_encodeURIComponent` : no character with a meaning in a URL is left.
-/

namespace HrBooking

namespace Percent

/-- The digits below 16. -/
def hexDigits : List Char :=
  ['0', '1', '2', '3', '4', '5', '6', '7', '8', '9', 'A', 'B', 'C', 'D', 'E', 'F']

/-- The digit of a number below 16. -/
def hexDigit (n : ℕ) : Char := hexDigits.getD n '0'

/-- The number of a digit, in either case. -/
def hexValue (c : Char) : Option ℕ := hexDigits.idxOf? c.toUpper

/-- One byte. -/
def encodeByte (keep : UInt8 → Bool) (b : UInt8) : List Char :=
  if keep b then [Char.ofNat b.toNat]
  else ['%', hexDigit (b.toNat / 16), hexDigit (b.toNat % 16)]

def encode (keep : UInt8 → Bool) (s : List UInt8) : List Char := s.flatMap (encodeByte keep)

/-- A percent sign without two digits after it stands for itself. -/
def decode : List Char → List UInt8
  | [] => []
  | [c] => Utf8.encode (String.singleton c)
  | [c, d] => Utf8.encode (String.singleton c) ++ decode [d]
  | c :: d :: e :: s =>
    if c = '%' then
      match hexValue d, hexValue e with
      | some m, some n => (16 * m + n).toUInt8 :: decode s
      | _, _ => Utf8.encode "%" ++ decode (d :: e :: s)
    else Utf8.encode (String.singleton c) ++ decode (d :: e :: s)

theorem hexValue_hexDigit {n : ℕ} (h : n < 16) : hexValue (hexDigit n) = some n := by
  revert n
  decide +kernel

theorem decode_cons_of_ne {c : Char} (h : c ≠ '%') (s : List Char) :
    decode (c :: s) = Utf8.encode (String.singleton c) ++ decode s := by
  match s with
  | [] => simp [decode]
  | [d] => rfl
  | d :: e :: s => rw [decode, if_neg h]

theorem forall_byte {p : UInt8 → Prop} (h : ∀ n < 256, p n.toUInt8) (b : UInt8) : p b := by
  have hb := h b.toNat b.toNat_lt
  rwa [Nat.toUInt8, UInt8.ofNat_toNat] at hb

theorem utf8_encode_ofNat (b : UInt8) (h : b.toNat < 0x80) :
    Utf8.encode (String.singleton (Char.ofNat b.toNat)) = [b] := by
  revert h
  exact forall_byte (p := fun b => b.toNat < 0x80 →
    Utf8.encode (String.singleton (Char.ofNat b.toNat)) = [b]) (by decide +kernel) b

theorem ofNat_ne_percent (b : UInt8) (h : b.toNat ≠ '%'.toNat) : Char.ofNat b.toNat ≠ '%' := by
  revert h
  exact forall_byte (p := fun b => b.toNat ≠ '%'.toNat → Char.ofNat b.toNat ≠ '%')
    (by decide +kernel) b

/-- **The bytes are read back**, when the percent sign does not stand for itself. -/
theorem decode_encode {keep : UInt8 → Bool}
    (hkeep : ∀ b, keep b = true → b.toNat < 0x80 ∧ b.toNat ≠ '%'.toNat) (s : List UInt8) :
    decode (encode keep s) = s := by
  induction s with
  | nil => rfl
  | cons b s ih =>
    rw [encode, List.flatMap_cons, encodeByte]
    split_ifs with hb
    · obtain ⟨hlt, hne⟩ := hkeep b hb
      rw [List.singleton_append, decode_cons_of_ne (ofNat_ne_percent b hne),
        utf8_encode_ofNat b hlt, List.singleton_append]
      exact congrArg _ ih
    · have hlt := b.toNat_lt
      have hbyte : (16 * (b.toNat / 16) + b.toNat % 16).toUInt8 = b := by
        rw [Nat.div_add_mod]
        exact UInt8.ofNat_toNat
      simp only [List.cons_append, List.nil_append, decode, if_true,
        hexValue_hexDigit (by omega : b.toNat / 16 < 16),
        hexValue_hexDigit (Nat.mod_lt b.toNat (by omega : 16 > 0)), hbyte]
      exact congrArg _ ih

end Percent

/-! ### Components of URLs -/

/-- The bytes that `encodeURIComponent` leaves as they are. -/
def isUnescaped (b : UInt8) : Bool :=
  ('a'.toNat ≤ b.toNat && b.toNat ≤ 'z'.toNat) || ('A'.toNat ≤ b.toNat && b.toNat ≤ 'Z'.toNat) ||
    ('0'.toNat ≤ b.toNat && b.toNat ≤ '9'.toNat) ||
    [45, 95, 46, 33, 126, 42, 39, 40, 41].contains b.toNat

/-- `encodeURIComponent`, of a text whose surrogates come in pairs. -/
def encodeURIComponent (s : String) : String :=
  String.ofList (Percent.encode isUnescaped (Utf8.encode s))

/-- The text of a component; bytes that are no characters are replaced. -/
def decodeURIComponent (s : String) : String := Utf8.decode (Percent.decode s.toList)

/-- The characters that a component is written with. -/
def componentChars : List Char :=
  ['A', 'B', 'C', 'D', 'E', 'F', 'G', 'H', 'I', 'J', 'K', 'L', 'M', 'N', 'O', 'P', 'Q', 'R', 'S',
   'T', 'U', 'V', 'W', 'X', 'Y', 'Z', 'a', 'b', 'c', 'd', 'e', 'f', 'g', 'h', 'i', 'j', 'k', 'l',
   'm', 'n', 'o', 'p', 'q', 'r', 's', 't', 'u', 'v', 'w', 'x', 'y', 'z', '0', '1', '2', '3', '4',
   '5', '6', '7', '8', '9', '-', '_', '.', '!', '~', '*', '\'', '(', ')', '%']

section

variable {s : String} {c : Char}

theorem decodeURIComponent_encodeURIComponent (s : String) :
    decodeURIComponent (encodeURIComponent s) = s := by
  have hkeep : ∀ b, isUnescaped b = true → b.toNat < 0x80 ∧ b.toNat ≠ '%'.toNat :=
    Percent.forall_byte (by decide +kernel)
  rw [decodeURIComponent, encodeURIComponent, String.toList_ofList, Percent.decode_encode hkeep,
    Utf8.decode_encode]

theorem mem_encodeURIComponent (h : c ∈ (encodeURIComponent s).toList) : c ∈ componentChars := by
  have hkeep : ∀ b, isUnescaped b = true → Char.ofNat b.toNat ∈ componentChars :=
    Percent.forall_byte (by decide +kernel)
  have hdigit : ∀ n < 16, Percent.hexDigit n ∈ componentChars := by decide
  have hpercent : '%' ∈ componentChars := by decide
  rw [encodeURIComponent, String.toList_ofList, Percent.encode, List.mem_flatMap] at h
  obtain ⟨b, -, hc⟩ := h
  have hlt := b.toNat_lt
  unfold Percent.encodeByte at hc
  split_ifs at hc with hb
  · exact List.mem_singleton.1 hc ▸ hkeep b hb
  · have hall : ['%', Percent.hexDigit (b.toNat / 16), Percent.hexDigit (b.toNat % 16)] ⊆
        componentChars := by
      simp only [List.cons_subset, List.nil_subset, and_true]
      exact ⟨hpercent, hdigit _ (by omega), hdigit _ (Nat.mod_lt _ (by omega))⟩
    exact hall hc

/-- **No character with a meaning in a URL is left.** -/
theorem notMem_encodeURIComponent (h : c ∉ componentChars) (s : String) :
    c ∉ (encodeURIComponent s).toList :=
  fun hc => h (mem_encodeURIComponent hc)

end

end HrBooking
