import HeaterLink.Proofs.Binary64

/-!
# The nearest double

A double has a significand of 53 bits. Multiples of the step that rounding works
with are rounded to the nearest of them; any other double has a smaller step, and
so it lies below the power of two where the larger step begins, which is no
farther away. So rounding gives a double that no double is nearer than, and a
product or a quotient is the double nearest to the exact one.

## Main definitions

* `Binary64.Significand`, a magnitude by its significand and exponent.
* `Binary64.Represents`, a finite double and the number that it stands for.
* `Binary64.Nearest`, the double nearest to a number, a tie going to the even significand.

## Main statements

* `Binary64.nearest_ofUnits`, `nearest_mul` and `nearest_div`.
* `Binary64.roundUnits_error`, how far rounding moves.
-/

namespace HeaterLink.Binary64

variable {num den : ℕ}

/-- How far a whole number is from `num / den`, as a numerator over `den`. -/
def off (num den n : ℕ) : ℕ := (n * den - num) + (num - n * den)

/-! ## Whole numbers -/

/-- The nearest whole number is the one below or the one above. -/
theorem roundDiv_cases (num den : ℕ) :
    (roundDiv num den = num / den ∧ 2 * (num % den) ≤ den) ∨
      (roundDiv num den = num / den + 1 ∧ den ≤ 2 * (num % den)) := by
  unfold roundDiv
  grind

theorem even_roundDiv (h : 2 * (num % den) = den) : Even (roundDiv num den) := by
  unfold roundDiv
  grind

theorem off_below {n : ℕ} (h : n ≤ num / den) :
    off num den n = num % den + (num / den - n) * den := by
  have hsplit : num / den * den + num % den = num := Nat.div_add_mod' num den
  have hle : n * den ≤ num / den * den := Nat.mul_le_mul_right _ h
  rw [off, Nat.sub_mul]
  omega

theorem off_above {n : ℕ} (hden : 0 < den) (h : num / den < n) :
    off num den n = den - num % den + (n - (num / den + 1)) * den := by
  have hsplit : num / den * den + num % den = num := Nat.div_add_mod' num den
  have hnext : (num / den + 1) * den = num / den * den + den := Nat.succ_mul ..
  have hle : (num / den + 1) * den ≤ n * den := Nat.mul_le_mul_right _ h
  have hlt := Nat.mod_lt num hden
  rw [off, Nat.sub_mul]
  omega

theorem off_roundDiv (num : ℕ) (hden : 0 < den) :
    off num den (roundDiv num den) = min (num % den) (den - num % den) := by
  have hlt := Nat.mod_lt num hden
  rcases roundDiv_cases num den with ⟨hr, hle⟩ | ⟨hr, hle⟩
  · rw [hr, off_below (Nat.le_refl _), Nat.sub_self, Nat.zero_mul]
    omega
  · rw [hr, off_above hden (Nat.lt_succ_self _), Nat.sub_self, Nat.zero_mul]
    omega

/-- No whole number is nearer. -/
theorem off_roundDiv_le (num : ℕ) (hden : 0 < den) (n : ℕ) :
    off num den (roundDiv num den) ≤ off num den n := by
  rw [off_roundDiv num hden]
  rcases Nat.lt_or_ge (num / den) n with h | h
  · rw [off_above hden h]
    exact Nat.le_trans (Nat.min_le_right ..) (Nat.le_add_right ..)
  · rw [off_below h]
    exact Nat.le_trans (Nat.min_le_left ..) (Nat.le_add_right ..)

/-- Where another one is as near, it is the even one that was taken. -/
theorem even_roundDiv_of_off {n : ℕ} (hden : 0 < den) (hne : n ≠ roundDiv num den)
    (h : off num den n = off num den (roundDiv num den)) : Even (roundDiv num den) := by
  have hlt := Nat.mod_lt num hden
  rw [off_roundDiv num hden] at h
  refine even_roundDiv ?_
  rcases Nat.lt_or_ge (num / den) n with hn | hn
  · rw [off_above hden hn] at h
    rcases roundDiv_cases num den with ⟨-, hle⟩ | ⟨hr, hle⟩
    · omega
    · have hfar : 1 * den ≤ (n - (num / den + 1)) * den := Nat.mul_le_mul_right _ (by omega)
      omega
  · rw [off_below hn] at h
    rcases roundDiv_cases num den with ⟨hr, hle⟩ | ⟨-, hle⟩
    · have hfar : 1 * den ≤ (num / den - n) * den := Nat.mul_le_mul_right _ (by omega)
      omega
    · omega

/-! ## Magnitudes -/

/-- A magnitude in units by its significand, which has 53 bits unless the step is one unit. -/
structure Significand (c k units : ℕ) : Prop where
  eq : units = c * 2 ^ k
  lt : c < 2 ^ 53
  high : 2 ^ 52 ≤ c ∨ k = 0

theorem lt_two_pow_excess (q : ℕ) : q < 2 ^ (53 + excess q) := by
  refine Nat.lt_of_lt_of_le Nat.lt_log2_self (Nat.pow_le_pow_right (by decide) ?_)
  unfold excess
  omega

theorem two_pow_excess_le {q : ℕ} (h : excess q ≠ 0) : 2 ^ 52 * 2 ^ excess q ≤ q := by
  have hq : q ≠ 0 := by
    rintro rfl
    exact h (by decide)
  have hlog : 52 + excess q = q.log2 := by
    unfold excess at h ⊢
    omega
  rw [← Nat.pow_add, hlog]
  exact Nat.log2_self_le hq

theorem roundUnits_eq (num den : ℕ) :
    roundUnits num den =
      roundDiv num (den * 2 ^ excess (num / den)) * 2 ^ excess (num / den) := rfl

/-- On the step of the rounding, the result is a number of at most 53 bits or the next power. -/
theorem roundDiv_bounds (num den : ℕ) :
    roundDiv num (den * 2 ^ excess (num / den)) ≤ 2 ^ 53 ∧
      (excess (num / den) = 0 ∨ 2 ^ 52 ≤ roundDiv num (den * 2 ^ excess (num / den))) := by
  have hlow := div_le_roundDiv num (den * 2 ^ excess (num / den))
  have hhigh := roundDiv_le num (den * 2 ^ excess (num / den))
  rw [← Nat.div_div_eq_div_mul] at hlow hhigh
  generalize num / den = q at hlow hhigh ⊢
  have hlt : q / 2 ^ excess q < 2 ^ 53 := by
    rw [Nat.div_lt_iff_lt_mul (Nat.two_pow_pos _), ← Nat.pow_add]
    exact lt_two_pow_excess q
  refine ⟨by omega, ?_⟩
  by_cases he : excess q = 0
  · exact .inl he
  · have hle := (Nat.le_div_iff_mul_le (Nat.two_pow_pos _)).mpr (two_pow_excess_le he)
    exact .inr (Nat.le_trans hle hlow)

/-- Rounding gives a double; it has an even significand if the rounding on the step is even. -/
theorem exists_significand (num den : ℕ) :
    ∃ c k, Significand c k (roundUnits num den) ∧
      (Even (roundDiv num (den * 2 ^ excess (num / den))) → Even c) := by
  have ⟨hle, hlow⟩ := roundDiv_bounds num den
  rw [roundUnits_eq]
  generalize roundDiv num (den * 2 ^ excess (num / den)) = n at hle hlow ⊢
  generalize excess (num / den) = e at hlow ⊢
  rcases Nat.lt_or_ge n (2 ^ 53) with hlt | hge
  · exact ⟨n, e, ⟨rfl, hlt, hlow.symm⟩, id⟩
  · -- the carry: one bit less, and twice the step
    have hn : n = 2 ^ 53 := Nat.le_antisymm hle hge
    refine ⟨2 ^ 52, e + 1, ⟨?_, by decide, .inl (Nat.le_refl _)⟩, fun _ => by decide⟩
    rw [hn, Nat.pow_succ, Nat.pow_succ 2 e]
    ring

/-- A double is a multiple of the step of the rounding, or it lies below where that step begins. -/
theorem multiple_or_below {c k : ℕ} (hc : c < 2 ^ 53) (q : ℕ) :
    (∃ n, c * 2 ^ k = n * 2 ^ excess q) ∨
      c * 2 ^ k < 2 ^ 52 * 2 ^ excess q ∧ 2 ^ 52 * 2 ^ excess q ≤ q := by
  rcases Nat.lt_or_ge k (excess q) with hk | hk
  · refine .inr ⟨?_, two_pow_excess_le (by omega)⟩
    have hstep : 2 ^ (k + 1) ≤ 2 ^ excess q := Nat.pow_le_pow_right (by decide) hk
    calc c * 2 ^ k < 2 ^ 53 * 2 ^ k := Nat.mul_lt_mul_of_pos_right hc (Nat.two_pow_pos k)
      _ = 2 ^ 52 * 2 ^ (k + 1) := by ring
      _ ≤ 2 ^ 52 * 2 ^ excess q := Nat.mul_le_mul_left _ hstep
  · obtain ⟨d, rfl⟩ := Nat.exists_eq_add_of_le hk
    exact .inl ⟨c * 2 ^ d, by ring⟩

theorem off_mul (num den n step : ℕ) : off num den (n * step) = off num (den * step) n := by
  have hmul : n * step * den = n * (den * step) := by ring
  rw [off, off, hmul]

theorem off_lt_off_of_below {m n : ℕ} (hden : 0 < den) (hmn : m < n) (hn : n ≤ num / den) :
    off num den n < off num den m := by
  rw [off_below hn, off_below (Nat.le_trans hmn.le hn)]
  have hlt : (num / den - n) * den < (num / den - m) * den :=
    Nat.mul_lt_mul_of_pos_right (by omega) hden
  omega

/-- No double is nearer; one that is as near leaves the even significand. -/
theorem off_roundUnits_le (num : ℕ) (hden : 0 < den) {c k : ℕ} (hc : c < 2 ^ 53) :
    off num den (roundUnits num den) ≤ off num den (c * 2 ^ k) ∧
      (off num den (c * 2 ^ k) = off num den (roundUnits num den) →
        c * 2 ^ k ≠ roundUnits num den →
          Even (roundDiv num (den * 2 ^ excess (num / den)))) := by
  have hstep : 0 < den * 2 ^ excess (num / den) := Nat.mul_pos hden (Nat.two_pow_pos _)
  rw [roundUnits_eq, off_mul]
  rcases multiple_or_below hc (num / den) with ⟨n, hn⟩ | ⟨hlt, hle⟩
  · rw [hn, off_mul]
    refine ⟨off_roundDiv_le num hstep n, fun htie hne => ?_⟩
    exact even_roundDiv_of_off hstep (fun heq => hne (by rw [heq])) htie
  · have hfar := off_lt_off_of_below hden hlt hle
    have hnear := off_roundDiv_le num hstep (2 ^ 52)
    rw [off_mul] at hfar
    exact ⟨by omega, fun htie => by omega⟩

/-- Rounding moves by half a step at most, and a step is small beside the value. -/
theorem roundUnits_error (num : ℕ) (hden : 0 < den) :
    2 ^ 53 * off num den (roundUnits num den) ≤ num + 2 ^ 52 * den := by
  have hstep : 0 < den * 2 ^ excess (num / den) := Nat.mul_pos hden (Nat.two_pow_pos _)
  have hhalf : 2 * off num den (roundUnits num den) ≤ den * 2 ^ excess (num / den) := by
    rw [roundUnits_eq, off_mul, off_roundDiv num hstep]
    omega
  have hsmall : 2 ^ 52 * 2 ^ excess (num / den) ≤ num / den + 2 ^ 52 := by
    by_cases he : excess (num / den) = 0
    · rw [he, Nat.pow_zero, Nat.mul_one]
      exact Nat.le_add_left ..
    · exact Nat.le_trans (two_pow_excess_le he) (Nat.le_add_right ..)
  calc 2 ^ 53 * off num den (roundUnits num den)
    _ = 2 ^ 52 * (2 * off num den (roundUnits num den)) := by ring
    _ ≤ 2 ^ 52 * (den * 2 ^ excess (num / den)) := Nat.mul_le_mul_left _ hhalf
    _ = den * (2 ^ 52 * 2 ^ excess (num / den)) := by ring
    _ ≤ den * (num / den + 2 ^ 52) := Nat.mul_le_mul_left _ hsmall
    _ = den * (num / den) + 2 ^ 52 * den := by ring
    _ ≤ num + 2 ^ 52 * den := Nat.add_le_add_right (Nat.mul_div_le num den) _

/-! ## Numbers -/

def sign (negative : Bool) : ℚ := if negative then -1 else 1

@[simp] theorem sign_false : sign false = 1 := rfl

@[simp] theorem sign_true : sign true = -1 := rfl

/-- A finite double, with its significand and the number that it stands for. -/
inductive Represents (c : ℕ) : Binary64 → ℚ → Prop where
  | finite (negative : Bool) {k units : ℕ} (h : Significand c k units) (hl : units < limit) :
      Represents c (.finite negative units) (sign negative * (units / one))

/-- The double nearest to a number; if another one is as near, it has the even significand. -/
def Nearest (q : ℚ) (x : Binary64) : Prop :=
  ∃ c v, Represents c x v ∧ ∀ d y w, Represents d y w →
    |v - q| ≤ |w - q| ∧ (|w - q| = |v - q| → w ≠ v → Even c)

theorem off_cast (num den n : ℕ) : (off num den n : ℚ) = |(n : ℚ) * den - num| := by
  rw [off]
  rcases Nat.le_total num (n * den) with h | h
  · have hle : (num : ℚ) ≤ n * den := by exact_mod_cast h
    rw [Nat.sub_eq_zero_of_le h, abs_of_nonneg (sub_nonneg.mpr hle), Nat.add_zero, Nat.cast_sub h]
    push_cast
    ring
  · have hle : (n : ℚ) * den ≤ num := by exact_mod_cast h
    rw [Nat.sub_eq_zero_of_le h, abs_of_nonpos (sub_nonpos.mpr hle), Nat.zero_add, Nat.cast_sub h]
    push_cast
    ring

theorem abs_sign_mul_sub (negative : Bool) (a b : ℚ) :
    |sign negative * a - sign negative * b| = |a - b| := by
  cases negative with
  | false => rw [sign_false, one_mul, one_mul]
  | true => rw [sign_true, ← mul_sub, neg_one_mul, abs_neg]

theorem abs_sign_not_mul_sub (negative : Bool) {a b : ℚ} (ha : 0 ≤ a) (hb : 0 ≤ b) :
    |sign (!negative) * a - sign negative * b| = a + b := by
  cases negative with
  | false =>
    have h : sign true * a - sign false * b = -(a + b) := by
      rw [sign_true, sign_false]
      ring
    rw [Bool.not_false, h, abs_neg, abs_of_nonneg (add_nonneg ha hb)]
  | true =>
    have h : sign false * a - sign true * b = a + b := by
      rw [sign_true, sign_false]
      ring
    rw [Bool.not_true, h, abs_of_nonneg (add_nonneg ha hb)]

theorem abs_sub_eq_off (num n : ℕ) (hden : 0 < den) {unit : ℚ} (hu : 0 < unit) :
    |n / unit - num / den / unit| = off num den n / (den * unit) := by
  have hden' : (0 : ℚ) < den := by exact_mod_cast hden
  have hquotient : n / unit - num / den / unit = (n * den - num) / (den * unit) := by
    field_simp
  rw [hquotient, abs_div, ← off_cast, abs_of_pos (mul_pos hden' hu)]

/-- A double on the other side of zero is farther away than zero is. -/
theorem abs_sub_other_side (negative : Bool) (num n : ℕ) (hden : 0 < den) {unit : ℚ}
    (hu : 0 < unit) :
    |sign (!negative) * (n / unit) - sign negative * (num / den / unit)| =
      n / unit + off num den 0 / (den * unit) := by
  rw [abs_sign_not_mul_sub negative (by positivity) (by positivity), ← abs_sub_eq_off num 0 hden hu,
    Nat.cast_zero, zero_div, zero_sub, abs_neg, abs_of_nonneg (by positivity)]

theorem nearest_ofUnits (negative : Bool) (num : ℕ) (hden : 0 < den)
    (hl : roundUnits num den < limit) :
    Nearest (sign negative * (num / den / one)) (ofUnits negative num den) := by
  obtain ⟨c, k, hc, heven⟩ := exists_significand num den
  have hunits : ofUnits negative num den = .finite negative (roundUnits num den) := by
    rw [ofUnits, if_neg (Nat.not_le.mpr hl)]
  have hunit : (0 : ℚ) < one := by exact_mod_cast one_pos
  have hscale : (0 : ℚ) < den * one := mul_pos (by exact_mod_cast hden) hunit
  rw [hunits]
  refine ⟨c, _, .finite negative hc hl, fun d y w hw => ?_⟩
  rw [abs_sign_mul_sub, abs_sub_eq_off num _ hden hunit]
  cases hw with
  | @finite other k' units h' hl' =>
    by_cases hs : other = negative
    · subst hs
      obtain ⟨hle, htie⟩ := off_roundUnits_le num (k := k') hden h'.lt
      rw [← h'.eq] at hle htie
      rw [abs_sign_mul_sub, abs_sub_eq_off num _ hden hunit]
      refine ⟨(div_le_div_iff_of_pos_right hscale).mpr (Nat.cast_le.mpr hle), fun heq hne => ?_⟩
      have hoff := Nat.cast_injective ((div_left_inj' hscale.ne').mp heq)
      exact heven (htie hoff fun hsame => hne (by rw [hsame]))
    · obtain rfl : other = !negative := Bool.eq_not.mpr hs
      obtain ⟨hle, htie⟩ := off_roundUnits_le num (c := 0) (k := 0) hden (by decide)
      rw [Nat.zero_mul] at hle htie
      have hfar : (0 : ℚ) ≤ units / one := div_nonneg (Nat.cast_nonneg _) hunit.le
      have hzero := (div_le_div_iff_of_pos_right hscale).mpr (Nat.cast_le (α := ℚ).mpr hle)
      rw [abs_sub_other_side negative num units hden hunit]
      refine ⟨by linarith only [hfar, hzero], fun heq hne => ?_⟩
      -- as near as zero from the other side is only zero itself
      have hnone : (units : ℚ) / one = 0 := by linarith only [hfar, hzero, heq]
      rw [hnone, zero_add] at heq
      have hoff := Nat.cast_injective ((div_left_inj' hscale.ne').mp heq)
      refine heven (htie hoff fun hsame => hne ?_)
      rw [hnone, ← hsame, Nat.cast_zero, zero_div, mul_zero, mul_zero]

/-! ## Arithmetic -/

theorem sign_bne (s t : Bool) : sign (s != t) = sign s * sign t := by
  cases s <;> cases t <;> simp

theorem inv_sign (s : Bool) : (sign s)⁻¹ = sign s := by cases s <;> simp

theorem nearest_mul (s t : Bool) (u v : ℕ) (hl : roundUnits (u * v) one < limit) :
    Nearest (sign s * (u / one) * (sign t * (v / one))) ((finite s u).mul (finite t v)) := by
  have h := nearest_ofUnits (s != t) (u * v) one_pos hl
  have hq : sign (s != t) * ((u * v : ℕ) / one / one) =
      sign s * (u / one) * (sign t * (v / one)) := by
    rw [sign_bne, Nat.cast_mul]
    ring
  rwa [hq] at h

theorem nearest_div (s t : Bool) (u : ℕ) {v : ℕ} (hv : 0 < v)
    (hl : roundUnits (u * one) v < limit) :
    Nearest (sign s * (u / one) / (sign t * (v / one))) ((finite s u).div (finite t v)) := by
  have h := nearest_ofUnits (s != t) (u * one) hv hl
  have hunit : (one : ℚ) ≠ 0 := Nat.cast_ne_zero.mpr one_pos.ne'
  have hq : sign (s != t) * ((u * one : ℕ) / v / one) =
      sign s * (u / one) / (sign t * (v / one)) := by
    rw [sign_bne, Nat.cast_mul, div_eq_mul_inv _ (sign t * _), mul_inv, inv_sign]
    generalize (one : ℚ) = unit at hunit ⊢
    field_simp
  rw [Binary64.div, if_neg hv.ne']
  rwa [hq] at h

/-- What is a double already stays as it is. -/
theorem roundUnits_exact {c : ℕ} (hc : c < 2 ^ 53) (k : ℕ) (hden : 0 < den) :
    roundUnits (c * 2 ^ k * den) den = c * 2 ^ k := by
  have hself : off (c * 2 ^ k * den) den (c * 2 ^ k) = 0 := by simp [off]
  have hnear := (off_roundUnits_le (c * 2 ^ k * den) (k := k) hden hc).1
  rw [hself, Nat.le_zero, off] at hnear
  exact Nat.eq_of_mul_eq_mul_right hden (by omega)

/-- Only the ratio counts. -/
theorem roundUnits_mul_mul (num den : ℕ) {k : ℕ} (hk : 0 < k) :
    roundUnits (num * k) (den * k) = roundUnits num den := by
  have hden : den * k * 2 ^ excess (num / den) = den * 2 ^ excess (num / den) * k := by ring
  rw [roundUnits_eq, roundUnits_eq, Nat.mul_div_mul_right _ _ hk, hden, roundDiv_mul_mul _ _ hk]

theorem mul_one_lt_limit {m : ℕ} (hm : m < 2 ^ 53) : m * one < limit := by
  have hpow : 2 ^ 53 * one ≤ limit := by
    rw [limit_eq, one_eq, ← Nat.pow_add]
    exact Nat.pow_le_pow_right (by decide) (by omega)
  exact Nat.lt_of_lt_of_le (Nat.mul_lt_mul_of_pos_right hm one_pos) hpow

/-- A whole number of at most 53 bits is a double. -/
theorem ofRatio_natCast (negative : Bool) {m : ℕ} (hm : m < 2 ^ 53) :
    ofRatio negative m 1 = .finite negative (m * one) := by
  have hexact : roundUnits (m * one) 1 = m * one := by
    have h := roundUnits_exact hm places Nat.one_pos
    rwa [Nat.mul_one, ← one_eq] at h
  rw [ofRatio, ofUnits, hexact, if_neg (Nat.not_le.mpr (mul_one_lt_limit hm))]

end HeaterLink.Binary64
