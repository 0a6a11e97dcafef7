import HeaterLink.Account.Bridge
import HeaterLink.Proofs.Binary64.Nearest

/-!
# Degrees and hundredths

A temperature that is shown in degrees and read back is the same temperature.
Degrees are rounded twice on the way: once when hundredths are divided, and once
when degrees are multiplied. Each time the value moves by about its 2 ^ 53rd part,
and for hundredths of 32 bits that is far from the half that the last rounding, to
whole hundredths, makes up for.

## Main statements

* `Temperature.ofCelsius_celsius`, there and back.
* `Temperature.setpoint_kept`, with what is rounded on the way and the command that is sent.
-/

namespace HeaterLink.Temperature

open Binary64

variable (t : Temperature)

/-- The hundredths without their sign. -/
def magnitude : ℕ := t.hundredths.toInt.natAbs

def isNegative : Bool := t.hundredths.toInt < 0

/-- The degrees in units, without their sign. -/
def shownUnits : ℕ := roundUnits (t.magnitude * one) 100

/-- The degrees times a hundred in units, without their sign. -/
def productUnits : ℕ := roundUnits (t.shownUnits * 100) 1

/-! ## Error bounds -/

theorem magnitude_le : t.magnitude ≤ 2 ^ 31 := by
  have hlow := t.hundredths.le_toInt
  have hhigh := t.hundredths.toInt_lt
  unfold magnitude
  omega

/-- The unit is far below the last place of anything that is shown. -/
theorem two_pow_le_one : 2 ^ 64 ≤ one := by decide +kernel

theorem magnitude_mul_one_le : t.magnitude * one ≤ 2 ^ 31 * one :=
  Nat.mul_le_mul_right _ t.magnitude_le

theorem shownUnits_error :
    2 ^ 53 * off (t.magnitude * one) 100 t.shownUnits ≤ t.magnitude * one + 2 ^ 52 * 100 :=
  roundUnits_error _ (by decide)

theorem productUnits_error :
    2 ^ 53 * off (t.shownUnits * 100) 1 t.productUnits ≤ t.shownUnits * 100 + 2 ^ 52 * 1 :=
  roundUnits_error _ (by decide)

theorem shownUnits_lt : t.shownUnits < 2 ^ 40 * one := by
  have herror := t.shownUnits_error
  have hsize := t.magnitude_mul_one_le
  have hone := two_pow_le_one
  unfold off at herror
  omega

theorem productUnits_lt : t.productUnits < 2 ^ 50 * one := by
  have herror := t.productUnits_error
  have hsize := t.shownUnits_lt
  have hone := two_pow_le_one
  unfold off at herror
  omega

/-- The two errors together stay below one half. -/
theorem off_productUnits : 2 * off (t.magnitude * one) 1 t.productUnits < one := by
  have hshown := t.shownUnits_error
  have hproduct := t.productUnits_error
  have hsize := t.magnitude_mul_one_le
  have hone := two_pow_le_one
  unfold off at hshown hproduct ⊢
  omega

theorem round_productUnits : (2 * t.productUnits + one) / (2 * one) = t.magnitude := by
  have hnear := t.off_productUnits
  have htwice : t.magnitude * (2 * one) = 2 * (t.magnitude * one) := by ring
  have hnext : (t.magnitude + 1) * (2 * one) = 2 * (t.magnitude * one) + 2 * one := by ring
  unfold off at hnear
  exact Nat.div_eq_of_lt_le (by omega) (by omega)

/-! ## There and back -/

theorem hundred_eq : hundred = .finite false (100 * one) := by
  rw [hundred, ofNat]
  exact ofRatio_natCast (m := 100) false (by decide)

theorem ofInt_hundredths :
    Binary64.ofInt t.hundredths.toInt = .finite t.isNegative (t.magnitude * one) :=
  ofRatio_natCast _ (Nat.lt_of_le_of_lt t.magnitude_le (by decide))

theorem roundUnits_degrees :
    roundUnits (t.magnitude * one * one) (100 * one) = t.shownUnits :=
  roundUnits_mul_mul (t.magnitude * one) 100 Binary64.one_pos

theorem roundUnits_product : roundUnits (t.shownUnits * (100 * one)) one = t.productUnits := by
  have h := roundUnits_mul_mul (t.shownUnits * 100) 1 Binary64.one_pos
  rwa [Nat.one_mul, Nat.mul_assoc] at h

theorem celsius_eq : t.celsius = .finite t.isNegative t.shownUnits := by
  have hsmall := mul_one_lt_limit (m := 2 ^ 40) (by decide)
  have hv : 100 * one ≠ 0 := Nat.mul_ne_zero (by decide) Binary64.one_pos.ne'
  rw [celsius, ofInt_hundredths, hundred_eq, Binary64.div, if_neg hv, ofUnits, roundUnits_degrees,
    if_neg (by have := t.shownUnits_lt; omega), Bool.bne_false]

theorem celsius_mul_hundred : t.celsius.mul hundred = .finite t.isNegative t.productUnits := by
  have hsmall := mul_one_lt_limit (m := 2 ^ 50) (by decide)
  rw [celsius_eq, hundred_eq, Binary64.mul, ofUnits, roundUnits_product,
    if_neg (by have := t.productUnits_lt; omega), Bool.bne_false]

/-- A temperature that is shown and read back is the same, at both ends of the range as well. -/
theorem ofCelsius_celsius : ofCelsius t.celsius = t := by
  have hsign : (if t.isNegative then -(t.magnitude : ℤ) else t.magnitude) = t.hundredths.toInt := by
    unfold isNegative magnitude
    grind
  have hlow := t.hundredths.minValue_le_toInt
  have hhigh := t.hundredths.toInt_le
  rw [ofCelsius, celsius_mul_hundred, roundClamped, round_productUnits, hsign, min_eq_right hhigh,
    max_eq_right hlow, Int32.ofInt_toInt]

/-! ## What is rounded -/

theorem sign_mul_magnitude : sign t.isNegative * t.magnitude = t.hundredths.toInt := by
  have hcast : (t.magnitude : ℚ) = |(t.hundredths.toInt : ℚ)| := by
    rw [magnitude, Nat.cast_natAbs, Int.cast_abs]
  rw [hcast, isNegative]
  by_cases h : t.hundredths.toInt < 0
  · have hneg : (t.hundredths.toInt : ℚ) < 0 := Int.cast_lt_zero.mpr h
    rw [decide_eq_true h, sign_true, abs_of_neg hneg, neg_mul_neg, one_mul]
  · have hnonneg : (0 : ℚ) ≤ t.hundredths.toInt := Int.cast_nonneg (Int.not_lt.mp h)
    rw [decide_eq_false h, sign_false, abs_of_nonneg hnonneg, one_mul]

theorem natCast_mul_one_div (n : ℕ) : ((n * one : ℕ) : ℚ) / one = n := by
  rw [Nat.cast_mul, mul_div_cancel_right₀ _ (Nat.cast_ne_zero.mpr Binary64.one_pos.ne')]

/-- The degrees are the double nearest to a hundredth of the hundredths. -/
theorem nearest_celsius : Nearest (t.hundredths.toInt / 100) t.celsius := by
  have hsmall := mul_one_lt_limit (m := 2 ^ 40) (by decide)
  have h := nearest_div t.isNegative false (t.magnitude * one)
    (Nat.mul_pos (by decide : 0 < 100) Binary64.one_pos)
    (by rw [roundUnits_degrees]; exact t.shownUnits_lt.trans hsmall)
  rwa [natCast_mul_one_div, natCast_mul_one_div, sign_mul_magnitude, sign_false, one_mul,
    ← ofInt_hundredths, ← hundred_eq] at h

/-- What the degrees stand for, times a hundred, is rounded to the nearest double once more. -/
theorem nearest_product : ∃ c degrees, Represents c t.celsius degrees ∧
    Nearest (degrees * 100) (t.celsius.mul hundred) := by
  obtain ⟨c, degrees, h, -⟩ := t.nearest_celsius
  refine ⟨c, degrees, h, ?_⟩
  rw [celsius_eq] at h ⊢
  cases h with
  | finite =>
    have hsmall := mul_one_lt_limit (m := 2 ^ 50) (by decide)
    have h := nearest_mul t.isNegative false t.shownUnits (100 * one)
      (by rw [roundUnits_product]; exact t.productUnits_lt.trans hsmall)
    rwa [natCast_mul_one_div, sign_false, one_mul, ← hundred_eq] at h

/-- Degrees are the nearest double, and so is what they multiply to when they are read back; all the
same the temperature comes back as it was. A target set to the degrees shown is sent unchanged. -/
theorem setpoint_kept :
    Nearest (t.hundredths.toInt / 100) t.celsius ∧
      (∃ c degrees, Represents c t.celsius degrees ∧
        Nearest (degrees * 100) (t.celsius.mul hundred)) ∧
      ofCelsius t.celsius = t ∧
      ∀ (b : Account.Bridge) (id : Int64), b.step (.setTarget id t.celsius) =
        b.beginCommand .setTarget fun client => client.setZoneTarget id t := by
  refine ⟨t.nearest_celsius, t.nearest_product, t.ofCelsius_celsius, fun b id => ?_⟩
  rw [Account.Bridge.step, ofCelsius_celsius]

end HeaterLink.Temperature
