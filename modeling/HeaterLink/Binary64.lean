import HeaterLink.Text.Decimal

/-!
# Doubles as exact numbers

A finite double is a whole number of the smallest positive double, 2^-1074. On
that scale rounding is a statement about natural numbers: keep the highest 53
bits and round what is cut off to the nearest, ties to the even neighbour.
-/

namespace HeaterLink

/-- A double: for a finite one the value is `± units / 2^1074`. -/
inductive Binary64 where
  | nan
  | infinite (negative : Bool)
  | finite (negative : Bool) (units : Nat)
deriving DecidableEq, Repr

namespace Binary64

/-- The number of units in one. -/
def one : Nat := Nat.pow 2 1074

/-- The first magnitude, in units, that is too large for a double. -/
def limit : Nat := Nat.pow 2 2098

/-! ## Rounding -/

/-- `num / den` to the nearest whole number, a tie to the even one. -/
def roundDiv (num den : Nat) : Nat :=
  let q := num / den
  let r := num % den
  if 2 * r < den then q
  else if den < 2 * r then q + 1
  else q + q % 2

/-- How many low bits of a magnitude lie below its highest 53. -/
def excess (magnitude : Nat) : Nat := magnitude.log2 + 1 - 53

/-- The magnitude of the double nearest to `num / den` units. -/
def roundUnits (num den : Nat) : Nat :=
  let step := Nat.pow 2 (excess (num / den))
  roundDiv num (den * step) * step

/-- The double nearest to `num / den` units, infinite from `limit` on. -/
def ofUnits (negative : Bool) (num den : Nat) : Binary64 :=
  let units := roundUnits num den
  if limit ≤ units then .infinite negative else .finite negative units

/-- The double nearest to the fraction `num / den`. -/
def ofRatio (negative : Bool) (num den : Nat) : Binary64 := ofUnits negative (num * one) den

def ofNat (n : Nat) : Binary64 := ofRatio false n 1
def ofInt (n : Int) : Binary64 := ofRatio (n < 0) n.natAbs 1

/-! ## Arithmetic -/

def isInfinite : Binary64 → Bool
  | .infinite _ => true
  | _ => false

def isZero : Binary64 → Bool
  | .finite _ 0 => true
  | _ => false

def neg : Binary64 → Binary64
  | .nan => .nan
  | .infinite s => .infinite !s
  | .finite s u => .finite (!s) u

def mul : Binary64 → Binary64 → Binary64
  | .nan, _ | _, .nan => .nan
  | .infinite s, .infinite t => .infinite (s != t)
  | .infinite s, .finite t u | .finite t u, .infinite s =>
    if u = 0 then .nan else .infinite (s != t)
  | .finite s u, .finite t v => ofUnits (s != t) (u * v) one

def div : Binary64 → Binary64 → Binary64
  | .nan, _ | _, .nan => .nan
  | .infinite _, .infinite _ => .nan
  | .infinite s, .finite t _ => .infinite (s != t)
  | .finite s _, .infinite t => .finite (s != t) 0
  | .finite s u, .finite t v =>
    if v = 0 then (if u = 0 then .nan else .infinite (s != t)) else ofUnits (s != t) (u * one) v

/-! ## Whole numbers -/

/-- The whole number that a double is, if it is one. -/
def toInt? : Binary64 → Option Int
  | .finite s u => if u % one = 0 then some (if s then -(u / one : Nat) else (u / one : Nat)) else none
  | _ => none

/-- The nearest whole number, a half going away from zero, held within `[low, high]`. -/
def roundClamped (low high : Int) : Binary64 → Int
  | .nan => 0
  | .infinite s => if s then low else high
  | .finite s u =>
    let n : Int := ((2 * u + one) / (2 * one) : Nat)
    max low (min high (if s then -n else n))

/-! ## Bit patterns -/

/-- The bit of the sign, and the lowest bit of the exponent. -/
def signBit : Nat := 0x8000000000000000
def exponentBit : Nat := 0x10000000000000

/-- The eight bytes of a double as one number: sign, biased exponent, fraction. -/
def toBits : Binary64 → Nat
  | .nan => 0x7FF8000000000000
  | .infinite s => (if s then signBit else 0) + 0x7FF0000000000000
  | .finite s u =>
    (if s then signBit else 0) + (excess u * exponentBit + u / Nat.pow 2 (excess u))

def ofBits (bits : Nat) : Binary64 :=
  let negative := bits / signBit % 2 == 1
  let exponent := bits / exponentBit % 2048
  let fraction := bits % exponentBit
  if exponent = 2047 then (if fraction = 0 then .infinite negative else .nan)
  else if exponent = 0 then .finite negative fraction
  else .finite negative ((exponentBit + fraction) * Nat.pow 2 (exponent - 1))

/-! ## Decimal text -/

/-- The exact value rounded to tenths, ties to even; a negative zero keeps its sign. -/
def toTenths : Binary64 → List Char
  | .nan => ['N', 'a', 'N']
  | .infinite s => (if s then ['-'] else []) ++ ['i', 'n', 'f']
  | .finite s u =>
    let tenths := roundDiv (u * 10) one
    (if s then ['-'] else []) ++ Decimal.nat (tenths / 10) ++ '.' :: Decimal.nat (tenths % 10)

end Binary64

end HeaterLink
