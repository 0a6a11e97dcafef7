import HeaterLink.Signing.Signature
import Mathlib

/-!
# Verification of signatures

What a receiver who knows the public number makes sure of. The inverse of the
second number is any number that undoes it modulo q. The candidates for the
signing number go on without end, whatever number of them is tried.

## Main definitions

* `SigningKey.Sound`, what makes a key one of the algorithm.
* `Signature.candidate`, the candidates for the signing number of a message.
* `Signature.ofDer?`, the two numbers of a signature read from its bytes.
* `Signature.Verifies`, the equation between the two numbers of a signature.
-/

namespace HeaterLink

/-- What `SigningKey.Acceptable` leaves unchecked. -/
structure SigningKey.Sound (k : SigningKey) : Prop where
  prime : k.q.Prime
  order : k.g ^ k.q % k.p = 1 % k.p
  pair : k.y % k.p = k.g ^ k.x % k.p

namespace Signature

/-- The candidate that is tried after `n` others. -/
def candidate (k : SigningKey) (z n : Nat) : Nat :=
  (((Nonce.Generator.seeded (seed k z)).after (width k.q) n).next (width k.q)).1

/-- Reads a sequence of two integers with nothing behind them. -/
def ofDer? (bytes : List UInt8) : Option Signature := do
  let numbers ← Der.only? Der.sequenceTag bytes
  let (r, rest) ← Der.integer? numbers
  let s ← Der.onlyInteger? rest
  return ⟨r, s⟩

/-- The equation that a receiver checks with the public number. -/
def Verifies (p q g y z : Nat) (made : Signature) : Prop :=
  0 < made.r ∧ made.r < q ∧ 0 < made.s ∧ made.s < q ∧
  ∃ w, made.s * w % q = 1 % q ∧
    g ^ (z * w % q) * y ^ (made.r * w % q) % p % q = made.r

end Signature

end HeaterLink
