import HeaterLink.Signing.KeyText

/-!
# Written bytes as key text

What is written in hex with colons is key text, and reads back as the bytes.

## Main statements

* `Hex.decode_digits`, pairs of digits read back.
* `KeyText.decode_colons`, bytes with colons between them read back.
-/

namespace HeaterLink

namespace Hex

theorem utf8_upperDigit : ∀ n < 16,
    String.utf8EncodeChar (upperDigit n) = [UInt8.ofNat (upperDigit n).toNat] := by decide

theorem digitAt_upperDigit (index : Nat) {n : Nat} (hn : n < 16) :
    digitAt index (UInt8.ofNat (upperDigit n).toNat) = .ok n := by
  have value : ∀ n < 16, value? (UInt8.ofNat (upperDigit n).toNat).toNat = some n := by decide
  rw [digitAt, value n hn]

/-- The bytes of the digits of `bytes`, without colons. -/
def digits (bytes : List UInt8) : List UInt8 :=
  (bytes.flatMap (pair upperDigit)).flatMap String.utf8EncodeChar

theorem digits_cons (b : UInt8) (bytes : List UInt8) :
    digits (b :: bytes) = UInt8.ofNat (upperDigit (b.toNat / 16)).toNat ::
      UInt8.ofNat (upperDigit (b.toNat % 16)).toNat :: digits bytes := by
  have hb := b.toNat_lt
  simp [digits, pair, utf8_upperDigit (b.toNat / 16) (by omega),
    utf8_upperDigit (b.toNat % 16) (by omega)]

theorem length_digits (bytes : List UInt8) : (digits bytes).length = 2 * bytes.length := by
  induction bytes with
  | nil => rfl
  | cons b bytes ih => simp only [digits_cons, List.length_cons, ih]; omega

theorem pairsFrom_digits (bytes : List UInt8) : ∀ index, pairsFrom index (digits bytes) = .ok bytes := by
  induction bytes with
  | nil => intro index; rfl
  | cons b bytes ih =>
    intro index
    have hb := b.toNat_lt
    have halves : 16 * (b.toNat / 16) + b.toNat % 16 = b.toNat := by omega
    rw [digits_cons, pairsFrom, digitAt_upperDigit _ (by omega), digitAt_upperDigit _ (by omega), ih]
    simp [bind, Except.bind, pure, Except.pure, halves]

theorem decode_digits (bytes : List UInt8) : decode (digits bytes) = .ok bytes := by
  rw [decode, if_neg (by rw [length_digits]; omega), pairsFrom_digits]

end Hex

namespace KeyText

open Hex

theorem filter_pair (b : UInt8) :
    (pair upperDigit b).filter (fun c => !isSeparator c) = pair upperDigit b := by
  have digit : ∀ n < 16, isSeparator (upperDigit n) = false := by decide
  have hb := b.toNat_lt
  simp [pair, digit (b.toNat / 16) (by omega), digit (b.toNat % 16) (by omega)]

theorem compact_colons (bytes : List UInt8) :
    compact (String.ofList (colons bytes)) = bytes.flatMap (pair upperDigit) := by
  rw [compact, String.toList_ofList]
  induction bytes with
  | nil => rfl
  | cons b bytes ih =>
    cases bytes with
    | nil => simp [colons, List.intercalate, filter_pair]
    | cons c bytes =>
      have step : colons (b :: c :: bytes) = pair upperDigit b ++ ':' :: colons (c :: bytes) := by
        simp [colons, List.intercalate]
      have colon : isSeparator ':' = true := rfl
      simp [step, filter_pair, ih, colon]

theorem decode_colons {bytes : List UInt8} (hb : bytes ≠ []) :
    decode (String.ofList (colons bytes)) = .ok bytes := by
  have some : bytes.flatMap (pair upperDigit) ≠ [] := by
    obtain ⟨b, rest, rfl⟩ := List.exists_cons_of_ne_nil hb
    simp [pair]
  rw [decode, if_neg (by rwa [compact_colons]), compact_colons, ← digits, decode_digits]

end KeyText

end HeaterLink
