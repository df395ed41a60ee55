import HrBooking.Codec.Base64
import HrBooking.Codec.Utf8

/-!
# Secrets at rest

`utils/crypto.ts`: a secret is sealed with an initialization vector of its own and kept as the
base64 text of vector, tag and ciphertext.

* `Aead` : an ideal authenticated cipher under one key.
* `decryptSecret_eq_ok` : what is accepted are the sealed texts, but for the empty one.
* `decryptSecret_iff` : which secrets are read back, and what is refused.
* `not_decryptSecret_encryptSecret` : the empty secret.
-/

namespace HrBooking

/-- An ideal authenticated cipher under one key, with a tag of 16 bytes. -/
structure Aead where
  /-- The tag and the ciphertext of a vector and a plaintext. -/
  encrypt : List UInt8 → List UInt8 → List UInt8 × List UInt8
  /-- The plaintext of a vector, a tag and a ciphertext. -/
  decrypt : List UInt8 → List UInt8 → List UInt8 → Option (List UInt8)
  tag_length : ∀ iv p, (encrypt iv p).1.length = 16
  ciphertext_length : ∀ iv p, (encrypt iv p).2.length = p.length
  /-- Only what has been sealed is opened. -/
  decrypt_eq_some : ∀ iv tag c p, decrypt iv tag c = some p ↔ encrypt iv p = (tag, c)

/-- `IV_LENGTH` -/
def ivLength : ℕ := 12

/-- `AUTH_TAG_LENGTH` -/
def authTagLength : ℕ := 16

/-- An initialization vector. -/
abbrev Iv := {iv : List UInt8 // iv.length = ivLength}

/-- The errors of `decryptSecret`: its own, and that of the cipher. -/
inductive SecretError where
  | malformed
  | unauthentic
  deriving DecidableEq, Repr

def SecretError.message : SecretError → String
  | malformed => "Encrypted payload is malformed"
  | unauthentic => "Unsupported state or unable to authenticate data"

/-- What is kept of a plaintext: vector, tag and ciphertext. -/
def Aead.sealed (cipher : Aead) (iv : Iv) (p : List UInt8) : List UInt8 :=
  iv.val ++ (cipher.encrypt iv p).1 ++ (cipher.encrypt iv p).2

/-- `encryptSecret`, with the random vector. -/
def encryptSecret (cipher : Aead) (iv : Iv) (plaintext : String) : String :=
  Base64.encode (cipher.sealed iv (Utf8.encode plaintext))

/-- `decryptSecret` -/
def decryptSecret (cipher : Aead) (payload : String) : Except SecretError String :=
  let raw := Base64.decode payload
  if raw.length ≤ ivLength + authTagLength then .error .malformed
  else
    let iv := raw.take ivLength
    let authTag := (raw.drop ivLength).take authTagLength
    let ciphertext := raw.drop (ivLength + authTagLength)
    match cipher.decrypt iv authTag ciphertext with
    | some plaintext => .ok (Utf8.decode plaintext)
    | none => .error .unauthentic

section

variable {cipher : Aead} {payload s : String}

theorem Aead.length_sealed (cipher : Aead) (iv : Iv) (p : List UInt8) :
    (cipher.sealed iv p).length = ivLength + authTagLength + p.length := by
  rw [sealed, List.length_append, List.length_append, cipher.tag_length, cipher.ciphertext_length,
    iv.property, authTagLength]

theorem Aead.sealed_eq_iff {iv : Iv} {p raw : List UInt8} :
    raw = cipher.sealed iv p ↔
      raw.take ivLength = iv ∧ (raw.drop ivLength).take authTagLength = (cipher.encrypt iv p).1 ∧
        raw.drop (ivLength + authTagLength) = (cipher.encrypt iv p).2 := by
  constructor
  · rintro rfl
    have htag : (cipher.encrypt iv p).1.length = authTagLength := cipher.tag_length iv p
    have hiv := iv.property
    refine ⟨?_, ?_, ?_⟩
    · rw [sealed, List.append_assoc, List.take_left' hiv]
    · rw [sealed, List.append_assoc, List.drop_left' hiv, List.take_left' htag]
    · rw [sealed, List.drop_left' (by rw [List.length_append, hiv, htag])]
  · rintro ⟨hiv, htag, hc⟩
    rw [sealed, ← htag, ← hc, ← hiv, ← List.take_add, List.take_append_drop]

/-- **What is accepted** is what has been sealed and is not empty. -/
theorem decryptSecret_eq_ok :
    decryptSecret cipher payload = .ok s ↔
      ∃ iv p, Base64.decode payload = cipher.sealed iv p ∧ p ≠ [] ∧ Utf8.decode p = s := by
  constructor
  · intro h
    unfold decryptSecret at h
    dsimp only at h
    split_ifs at h with hlength
    split at h
    · rename_i p hp
      cases h
      have hiv : ((Base64.decode payload).take ivLength).length = ivLength :=
        List.length_take_of_le (by omega)
      have hseal := (cipher.decrypt_eq_some _ _ _ _).1 hp
      have hraw : Base64.decode payload = cipher.sealed ⟨_, hiv⟩ p := by
        rw [Aead.sealed_eq_iff, hseal]
        exact ⟨rfl, rfl, rfl⟩
      refine ⟨⟨_, hiv⟩, p, hraw, ?_, rfl⟩
      rintro rfl
      rw [hraw, Aead.length_sealed] at hlength
      exact hlength (Nat.le_refl _)
    · cases h
  · rintro ⟨iv, p, hraw, hne, rfl⟩
    have hlength : ¬ (Base64.decode payload).length ≤ ivLength + authTagLength := by
      have hpos := List.length_pos_of_ne_nil hne
      rw [hraw, Aead.length_sealed]
      omega
    obtain ⟨hiv, htag, hc⟩ := Aead.sealed_eq_iff.1 hraw
    have hopen := (cipher.decrypt_eq_some iv _ _ p).2 rfl
    simp only [decryptSecret, if_neg hlength, hiv, htag, hc, hopen]

theorem decryptSecret_encryptSecret (cipher : Aead) (iv : Iv) (hne : s ≠ "") :
    decryptSecret cipher (encryptSecret cipher iv s) = .ok s := by
  rw [decryptSecret_eq_ok, encryptSecret, Base64.decode_encode]
  refine ⟨iv, _, rfl, fun hnil => hne ?_, Utf8.decode_encode s⟩
  rw [← Utf8.decode_encode s, hnil]
  rfl

/-- **Secrets are read back** unless they are empty, and what has not been sealed is refused. -/
theorem decryptSecret_iff (cipher : Aead) :
    (∀ (iv : Iv) (s : String),
      decryptSecret cipher (encryptSecret cipher iv s) = .ok s ↔ s ≠ "") ∧
    ∀ raw : List UInt8, (¬ ∃ iv p, raw = cipher.sealed iv p) →
      ∃ e, decryptSecret cipher (Base64.encode raw) = .error e := by
  constructor
  · intro iv s
    refine ⟨?_, decryptSecret_encryptSecret cipher iv⟩
    rintro h rfl
    obtain ⟨iv', p, hsealed, hne, -⟩ := decryptSecret_eq_ok.1 h
    rw [encryptSecret, Base64.decode_encode] at hsealed
    have hlength := congrArg List.length hsealed
    rw [Aead.length_sealed, Aead.length_sealed] at hlength
    exact hne (List.length_eq_zero_iff.1 (Nat.add_left_cancel hlength).symm)
  · intro raw hraw
    cases hopened : decryptSecret cipher (Base64.encode raw) with
    | error e => exact ⟨e, rfl⟩
    | ok s =>
      obtain ⟨iv, p, hsealed, -⟩ := decryptSecret_eq_ok.1 hopened
      rw [Base64.decode_encode] at hsealed
      exact absurd ⟨iv, p, hsealed⟩ hraw

end

/-! ### The empty secret -/

/-- A cipher that hides nothing and marks what it has sealed with 16 bytes. -/
def markingCipher : Aead where
  encrypt _ p := (List.replicate 16 0xA5, p)
  decrypt _ tag c := if tag = List.replicate 16 0xA5 then some c else none
  tag_length _ _ := rfl
  ciphertext_length _ _ := rfl
  decrypt_eq_some iv tag c p := by
    split_ifs with h
    · simp [h, eq_comm]
    · exact iff_of_false not_false fun hpair => h (congrArg Prod.fst hpair).symm

def zeroIv : Iv := ⟨List.replicate 12 0, List.length_replicate⟩

/-- The empty secret is sealed, and its 28 bytes are refused. -/
theorem not_decryptSecret_encryptSecret :
    ¬ ∀ (cipher : Aead) (iv : Iv) (s : String),
      decryptSecret cipher (encryptSecret cipher iv s) = .ok s := by
  intro h
  have hempty := h markingCipher zeroIv ""
  revert hempty
  decide +kernel

end HrBooking
