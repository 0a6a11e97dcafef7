/-!
# Hexadecimal text

Bytes as pairs of hex digits, and back. A reader accepts either letter case and
reports an odd length before any bad digit.
-/

namespace HeaterLink.Hex

/-! ## Digits -/

def lowerDigit (n : Nat) : Char := Char.ofNat (if n < 10 then 48 + n else 87 + n)
def upperDigit (n : Nat) : Char := Char.ofNat (if n < 10 then 48 + n else 55 + n)

/-- The value of a hex digit of either case, given by its character code. -/
def value? (code : Nat) : Option Nat :=
  if 48 ≤ code ∧ code ≤ 57 then some (code - 48)
  else if 65 ≤ code ∧ code ≤ 70 then some (code - 55)
  else if 97 ≤ code ∧ code ≤ 102 then some (code - 87)
  else none

theorem value?_lowerDigit : ∀ n < 16, value? (lowerDigit n).toNat = some n := by decide
theorem value?_upperDigit : ∀ n < 16, value? (upperDigit n).toNat = some n := by decide

theorem value?_lt {code n : Nat} (h : value? code = some n) : n < 16 := by
  unfold value? at h
  split at h
  · simp at h; omega
  · split at h
    · simp at h; omega
    · split at h
      · simp at h; omega
      · simp at h

/-! ## Bytes -/

def pair (digit : Nat → Char) (b : UInt8) : List Char := [digit (b.toNat / 16), digit (b.toNat % 16)]

def lower (bytes : List UInt8) : List Char := bytes.flatMap (pair lowerDigit)

/-- Uppercase pairs with a colon between bytes, such as `30:2C:02`. -/
def colons (bytes : List UInt8) : List Char := [':'].intercalate (bytes.map (pair upperDigit))

/-- Why a text is not hexadecimal. -/
inductive Fault where
  | oddLength
  | badDigit (byte : UInt8) (index : Nat)
deriving DecidableEq, Repr

def digitAt (index : Nat) (b : UInt8) : Except Fault Nat :=
  match value? b.toNat with
  | some n => .ok n
  | none => .error (.badDigit b index)

/-- Reads pairs of digits that start at `index`; a lone last digit is left out. -/
def pairsFrom (index : Nat) : List UInt8 → Except Fault (List UInt8)
  | high :: low :: rest => do
    let h ← digitAt index high
    let l ← digitAt (index + 1) low
    return UInt8.ofNat (16 * h + l) :: (← pairsFrom (index + 2) rest)
  | _ => .ok []

/-- Reads the bytes of a hex text, itself given as bytes. -/
def decode (text : List UInt8) : Except Fault (List UInt8) :=
  if text.length % 2 = 1 then .error .oddLength else pairsFrom 0 text

end HeaterLink.Hex
