import HeaterLink.Signing.Modular
import Mathlib

/-!
# Powers modulo a number

Repeated squaring computes the remainder of a power.

## Main statements

* `Modular.pow_eq`, the value of `Modular.pow`.
-/

namespace HeaterLink.Modular

theorem powSteps_eq {m : Nat} (steps : Nat) :
    ∀ b e, e < 2 ^ steps → powSteps m steps b e = b ^ e % m := by
  induction steps with
  | zero =>
    intro b e h
    obtain rfl : e = 0 := by simpa using h
    simp [powSteps]
  | succ steps ih =>
    intro b e h
    have half : e / 2 < 2 ^ steps := by rw [Nat.pow_succ] at h; omega
    have square : (b * b % m) ^ (e / 2) % m = b ^ (2 * (e / 2)) % m := by
      rw [← Nat.pow_mod, ← Nat.pow_two, ← Nat.pow_mul]
    simp only [powSteps, ih _ _ half, square]
    split
    · next odd =>
      conv => rhs; rw [show e = 2 * (e / 2) + 1 by omega, Nat.pow_succ, Nat.mul_comm]
      rw [Nat.mul_mod, Nat.mod_mod, ← Nat.mul_mod]
    · next even => rw [show 2 * (e / 2) = e by omega]

theorem pow_eq (b e m : Nat) : pow b e m = b ^ e % m :=
  powSteps_eq _ _ _ Nat.lt_log2_self

end HeaterLink.Modular
