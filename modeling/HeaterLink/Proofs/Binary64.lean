import HeaterLink.Binary64
import Mathlib

/-!
# Rounding to doubles

Rounding keeps the highest bits of a magnitude, so it never falls below a
multiple of a power of two that has at most 53 bits and lies below the exact
value. An integer with few bits more than that is rounded on the bits to spare.

## Main definitions

* `Binary64.AtLeast`, a lower bound for the magnitude of a double.

## Main statements

* `Binary64.atLeast_ofUnits` and `Binary64.AtLeast.mul`, bounds that rounding keeps.
* `Binary64.ofNat_eq`, the double nearest to an integer of more than 52 bits.
-/

namespace HeaterLink.Binary64

/-- The bits of a magnitude below those of whole numbers. -/
@[irreducible] def places : Nat := 1074

theorem one_eq : one = 2 ^ places := by decide +kernel

theorem limit_eq : limit = 2 ^ (places + 1024) := by decide +kernel

theorem one_pos : 0 < one := by
  rw [one_eq]
  exact Nat.two_pow_pos places

/-! ## Whole numbers -/

theorem div_le_roundDiv (num den : Nat) : num / den ≤ roundDiv num den := by
  unfold roundDiv
  dsimp only
  split
  · omega
  · split <;> omega

theorem roundDiv_le (num den : Nat) : roundDiv num den ≤ num / den + 1 := by
  unfold roundDiv
  dsimp only
  split
  · omega
  · split <;> omega

/-- Only the ratio counts. -/
theorem roundDiv_mul_mul (num den : Nat) {k : Nat} (hk : 0 < k) :
    roundDiv (num * k) (den * k) = roundDiv num den := by
  have hlow : 2 * (num % den * k) < den * k ↔ 2 * (num % den) < den := by
    rw [← Nat.mul_assoc, Nat.mul_lt_mul_right hk]
  have hhigh : den * k < 2 * (num % den * k) ↔ den < 2 * (num % den) := by
    rw [← Nat.mul_assoc, Nat.mul_lt_mul_right hk]
  simp only [roundDiv, Nat.mul_div_mul_right _ _ hk, Nat.mul_mod_mul_right, hlow, hhigh]

/-! ## Lower bounds -/

theorem mul_le_roundUnits {c t num den : Nat} (hc : c < 2 ^ 53)
    (h : c * 2 ^ t ≤ num / den) : c * 2 ^ t ≤ roundUnits num den := by
  generalize hq : num / den = q at h
  have hkept : q / 2 ^ excess q * 2 ^ excess q ≤ roundUnits num den := by
    have hdiv := div_le_roundDiv num (den * 2 ^ excess q)
    rw [← Nat.div_div_eq_div_mul, hq] at hdiv
    simp only [roundUnits, hq]
    exact Nat.mul_le_mul_right _ hdiv
  refine Nat.le_trans ?_ hkept
  by_cases he : excess q ≤ t
  · -- no bit of the bound is cut off
    obtain ⟨d, rfl⟩ : ∃ d, t = excess q + d := ⟨t - excess q, by omega⟩
    rw [Nat.pow_add, Nat.mul_comm (2 ^ excess q), ← Nat.mul_assoc] at h ⊢
    exact Nat.mul_le_mul_right _ ((Nat.le_div_iff_mul_le (Nat.two_pow_pos _)).mpr h)
  · -- the highest bit alone is above the bound
    have hlog : q.log2 = 52 + excess q := by
      unfold excess at he ⊢
      omega
    have hpos : q ≠ 0 := by
      rintro rfl
      simp [excess] at he
    have htop : 2 ^ 52 * 2 ^ excess q ≤ q := by
      rw [← Nat.pow_add, ← hlog]
      exact Nat.log2_self_le hpos
    have hhigh : 2 ^ 52 ≤ q / 2 ^ excess q :=
      (Nat.le_div_iff_mul_le (Nat.two_pow_pos _)).mpr htop
    have hexponents : 53 + t = 52 + (t + 1) := by omega
    calc c * 2 ^ t ≤ 2 ^ 53 * 2 ^ t := Nat.mul_le_mul_right _ (Nat.le_of_lt hc)
      _ = 2 ^ 52 * 2 ^ (t + 1) := by rw [← Nat.pow_add, ← Nat.pow_add, hexponents]
      _ ≤ 2 ^ 52 * 2 ^ excess q :=
        Nat.mul_le_mul_left _ (Nat.pow_le_pow_right (by decide) (by omega))
      _ ≤ q / 2 ^ excess q * 2 ^ excess q := Nat.mul_le_mul_right _ hhigh

/-- A number whose magnitude has at least so many units. -/
inductive AtLeast (bound : Nat) : Binary64 → Prop where
  | infinite (negative : Bool) : AtLeast bound (.infinite negative)
  | finite (negative : Bool) {units : Nat} (h : bound ≤ units) :
      AtLeast bound (.finite negative units)

theorem AtLeast.neg {bound : Nat} {x : Binary64} (h : x.AtLeast bound) : x.neg.AtLeast bound := by
  cases h with
  | infinite => exact .infinite _
  | finite _ h => exact .finite _ h

theorem atLeast_ofUnits {c t num den : Nat} (negative : Bool) (hc : c < 2 ^ 53)
    (h : c * 2 ^ t ≤ num / den) : (ofUnits negative num den).AtLeast (c * 2 ^ t) := by
  have hunits := mul_le_roundUnits hc h
  unfold ofUnits
  dsimp only
  split
  · exact .infinite _
  · exact .finite _ hunits

theorem atLeast_ofNat {c t n : Nat} (hc : c < 2 ^ 53) (h : c * 2 ^ t ≤ n) :
    (ofNat n).AtLeast (c * 2 ^ (t + places)) := by
  rw [ofNat, ofRatio]
  refine atLeast_ofUnits false hc ?_
  rw [Nat.div_one, one_eq, Nat.pow_add, ← Nat.mul_assoc]
  exact Nat.mul_le_mul_right _ h

/-- A product is at least the product of the bounds. -/
theorem AtLeast.mul {c s t : Nat} {x y : Binary64} (hx : x.AtLeast (c * 2 ^ (s + places)))
    (hy : y.AtLeast (2 ^ (t + places))) (hpos : 0 < c) (hc : c < 2 ^ 53) :
    (x.mul y).AtLeast (c * 2 ^ (s + t + places)) := by
  cases hx with
  | infinite =>
    cases hy with
    | infinite => exact .infinite _
    | finite _ hv =>
      rw [Binary64.mul, if_neg (Nat.ne_of_gt (Nat.lt_of_lt_of_le (Nat.two_pow_pos _) hv))]
      exact .infinite _
  | finite _ hu =>
    cases hy with
    | infinite =>
      have hbound : 0 < c * 2 ^ (s + places) := Nat.mul_pos hpos (Nat.two_pow_pos _)
      rw [Binary64.mul, if_neg (Nat.ne_of_gt (Nat.lt_of_lt_of_le hbound hu))]
      exact .infinite _
    | finite _ hv =>
      have hexponents : s + t + places + places = s + places + (t + places) := by omega
      have hbound : c * 2 ^ (s + t + places) * one =
          c * 2 ^ (s + places) * 2 ^ (t + places) := by
        rw [one_eq, Nat.mul_assoc, Nat.mul_assoc, ← Nat.pow_add, ← Nat.pow_add, hexponents]
      rw [Binary64.mul]
      refine atLeast_ofUnits _ hc ((Nat.le_div_iff_mul_le one_pos).mpr ?_)
      rw [hbound]
      exact Nat.mul_le_mul hu hv

/-! ## Integers -/

/-- An integer with some bits too many is rounded on those. -/
theorem ofNat_eq {m : Nat} (extra : Nat) (hlow : 2 ^ (52 + extra) ≤ m)
    (hhigh : m < 2 ^ (53 + extra)) (he : extra ≤ 900) :
    ofNat m = .finite false (roundDiv m (2 ^ extra) * 2 ^ extra * one) := by
  have hm : m * one ≠ 0 := Nat.ne_of_gt (Nat.mul_pos (Nat.lt_of_lt_of_le (Nat.two_pow_pos _) hlow)
    one_pos)
  have hlog : (m * one).log2 = 52 + extra + places := by
    rw [Nat.log2_eq_iff hm, one_eq]
    constructor
    · rw [Nat.pow_add]
      exact Nat.mul_le_mul_right _ hlow
    · have hexponents : 52 + extra + places + 1 = 53 + extra + places := by omega
      rw [hexponents, Nat.pow_add]
      exact Nat.mul_lt_mul_of_pos_right hhigh (Nat.two_pow_pos _)
  have hstep : 2 ^ excess (m * one / 1) = 2 ^ extra * one := by
    have hexcess : excess (m * one / 1) = extra + places := by
      rw [Nat.div_one, excess, hlog]
      omega
    rw [hexcess, Nat.pow_add, one_eq]
  have hunits : roundUnits (m * one) 1 = roundDiv m (2 ^ extra) * 2 ^ extra * one := by
    rw [roundUnits]
    show roundDiv (m * one) (1 * 2 ^ excess (m * one / 1)) * 2 ^ excess (m * one / 1) = _
    rw [hstep, Nat.one_mul, roundDiv_mul_mul _ _ one_pos, Nat.mul_assoc]
  have hsmall : ¬ limit ≤ roundUnits (m * one) 1 := by
    have hround : roundDiv m (2 ^ extra) ≤ 2 ^ 53 := by
      have hdiv : m / 2 ^ extra < 2 ^ 53 := by
        rw [Nat.div_lt_iff_lt_mul (Nat.two_pow_pos _), ← Nat.pow_add]
        exact hhigh
      have := roundDiv_le m (2 ^ extra)
      omega
    rw [hunits, limit_eq, one_eq, Nat.not_le]
    calc roundDiv m (2 ^ extra) * 2 ^ extra * 2 ^ places
        ≤ 2 ^ 53 * 2 ^ extra * 2 ^ places :=
          Nat.mul_le_mul_right _ (Nat.mul_le_mul_right _ hround)
      _ = 2 ^ (53 + extra + places) := by rw [← Nat.pow_add, ← Nat.pow_add]
      _ < 2 ^ (places + 1024) := Nat.pow_lt_pow_right (by decide) (by omega)
  rw [ofNat, ofRatio, ofUnits, if_neg hsmall, hunits]

end HeaterLink.Binary64
