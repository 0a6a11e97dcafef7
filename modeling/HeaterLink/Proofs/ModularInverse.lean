import HeaterLink.Signing.Modular
import Mathlib

/-!
# Inverses modulo a number

Every remainder of the extended algorithm is its coefficient times the first
number, up to multiples of the modulus. The last remainder is the greatest
common divisor, so where it is 1 its coefficient is the inverse. The steps are
enough: each one but the first halves the product of the two remainders.

## Main statements

* `Modular.mul_inverse?`, a number times its inverse.
* `Modular.isSome_inverse?_iff`, which numbers have an inverse.
-/

namespace HeaterLink.Modular

/-- A remainder and its coefficient of `n`, modulo `m`. -/
def Tracks (m n : Nat) (a : Nat × Int) : Prop := (a.1 : Int) ≡ a.2 * n [ZMOD m]

variable {m n : Nat}

theorem Tracks.rest {a b : Nat × Int} (ha : Tracks m n a) (hb : Tracks m n b) :
    Tracks m n (a.1 % b.1, a.2 - (a.1 / b.1 : Nat) * b.2) := by
  have rest : ((a.1 % b.1 : Nat) : Int) = a.1 - (a.1 / b.1 : Nat) * b.1 := by
    rw [Int.natCast_emod, Int.natCast_ediv, Int.emod_def, Int.mul_comm]
  have split : (a.2 - (a.1 / b.1 : Nat) * b.2) * n = a.2 * n - (a.1 / b.1 : Nat) * (b.2 * n) := by
    ring
  simp only [Tracks, rest, split]
  exact ha.sub (hb.mul_left _)

theorem divisorSteps_tracks (steps : Nat) :
    ∀ a b, Tracks m n a → Tracks m n b → Tracks m n (divisorSteps steps a b) := by
  induction steps with
  | zero => exact fun a b ha _ => ha
  | succ steps ih =>
    intro a b ha hb
    rw [divisorSteps]
    split
    · exact ha
    · exact ih _ _ hb (ha.rest hb)

theorem mul_inverse? {i : Nat} (hm : 0 < m) (h : inverse? n m = some i) :
    n * i % m = 1 % m := by
  have tracks : Tracks m n (divisorSteps (2 * m.log2 + 3) (n % m, 1) (m, 0)) := by
    apply divisorSteps_tracks
    · simpa [Tracks] using Int.mod_modEq (n : Int) m
    · simp [Tracks]
  simp only [inverse?] at h
  generalize divisorSteps (2 * m.log2 + 3) (n % m, 1) (m, 0) = last at tracks h
  split at h
  · next coprime =>
    obtain rfl := Option.some.inj h
    simp only [Tracks, coprime] at tracks
    have nonneg : 0 ≤ last.2 % m := Int.emod_nonneg _ (by omega)
    apply (Int.natCast_modEq_iff (n := m)).1
    calc (↑(n * (last.2 % m).toNat) : Int)
      _ = last.2 % m * n := by rw [Nat.cast_mul, Int.toNat_of_nonneg nonneg, mul_comm]
      _ ≡ last.2 * n [ZMOD m] := (Int.mod_modEq _ _).mul_right _
      _ ≡ (1 : Nat) [ZMOD m] := tracks.symm
  · cases h

theorem divisorSteps_fst (steps : Nat) :
    ∀ a b : Nat × Int, b.1 ≤ a.1 → a.1 * b.1 < 2 ^ steps →
      (divisorSteps steps a b).1 = Nat.gcd a.1 b.1 := by
  induction steps with
  | zero =>
    intro a b le small
    have zero : b.1 = 0 := by
      by_contra pos
      have := Nat.mul_pos (by omega : 0 < a.1) (Nat.pos_of_ne_zero pos)
      omega
    rw [divisorSteps, zero, Nat.gcd_zero_right]
  | succ steps ih =>
    intro a b le small
    rw [divisorSteps]
    split
    · next zero => rw [zero, Nat.gcd_zero_right]
    · next pos =>
      have lt : a.1 % b.1 < b.1 := Nat.mod_lt _ (Nat.pos_of_ne_zero pos)
      have half : 2 * (a.1 % b.1) ≤ a.1 := by
        have split := Nat.mod_add_div a.1 b.1
        have quotient : b.1 * 1 ≤ b.1 * (a.1 / b.1) :=
          Nat.mul_le_mul_left _ (Nat.div_pos le (Nat.pos_of_ne_zero pos))
        omega
      have product : b.1 * (a.1 % b.1) < 2 ^ steps := by
        rw [Nat.pow_succ] at small
        nlinarith
      rw [ih b (a.1 % b.1, _) lt.le product, Nat.gcd_comm, ← Nat.gcd_rec, Nat.gcd_comm]

theorem divisorSteps_start (hm : 0 < m) :
    (divisorSteps (2 * m.log2 + 3) (n % m, 1) (m, 0)).1 = Nat.gcd n m := by
  have lt : n % m < m := Nat.mod_lt _ hm
  have small : m * (n % m % m) < 2 ^ (2 * m.log2 + 2) := by
    have below : m < 2 ^ (m.log2 + 1) := Nat.lt_log2_self
    calc m * (n % m % m)
      _ < 2 ^ (m.log2 + 1) * 2 ^ (m.log2 + 1) := by
        rw [Nat.mod_mod]
        exact Nat.mul_lt_mul'' below (lt.trans below)
      _ = 2 ^ (2 * m.log2 + 2) := by rw [← Nat.pow_add]; congr 1; omega
  rw [divisorSteps, if_neg hm.ne']
  rw [divisorSteps_fst _ (m, 0) (n % m % m, _) (Nat.mod_lt _ hm).le small, Nat.mod_mod,
    Nat.gcd_comm, ← Nat.gcd_rec, Nat.gcd_comm]

theorem isSome_inverse?_iff (hm : 0 < m) : (inverse? n m).isSome ↔ n.Coprime m := by
  rw [inverse?, Nat.Coprime, ← divisorSteps_start hm]
  dsimp only
  split <;> simp [*]

end HeaterLink.Modular
