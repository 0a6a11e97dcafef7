/-!
# Modular arithmetic

Powers and inverses modulo a number, by repeated squaring and by the extended
Euclidean algorithm.
-/

namespace HeaterLink.Modular

/-- Squares `steps` times, multiplying where the exponent has a bit. -/
def powSteps (m : Nat) : (steps : Nat) → (base exponent : Nat) → Nat
  | 0, _, _ => 1 % m
  | steps + 1, b, e =>
    let rest := powSteps m steps (b * b % m) (e / 2)
    if e % 2 = 1 then b * rest % m else rest

/-- `base ^ exponent` modulo `m`. -/
def pow (base exponent m : Nat) : Nat := powSteps m (exponent.log2 + 1) base exponent

/--
Steps of the extended algorithm on two remainders, each with its coefficient of
the first number: at the end the greatest common divisor and its coefficient.
-/
def divisorSteps : (steps : Nat) → (Nat × Int) → (Nat × Int) → Nat × Int
  | 0, a, _ => a
  | steps + 1, a, b =>
    if b.1 = 0 then a else divisorSteps steps b (a.1 % b.1, a.2 - (a.1 / b.1 : Nat) * b.2)

/-- The inverse of `a` modulo `m`, if they have no common divisor. -/
def inverse? (a m : Nat) : Option Nat :=
  let (divisor, coefficient) := divisorSteps (2 * m.log2 + 3) (a % m, 1) (m, 0)
  if divisor = 1 then some (coefficient % m).toNat else none

end HeaterLink.Modular
