import HeaterLink.Proofs.Binary64
import HeaterLink.Proofs.Envelope.Listing

/-!
# Integers in bodies

An integer literal of any length is read as the integer it names, or not at all.
There is one gap: literals just below the smallest 64-bit integer become doubles
first, round up to it, and are read as that integer.

## Main definitions

* `Envelope.Literal`, the literals without fraction and exponent.
* `Envelope.Exact`, what it means that an integer is read exactly or not at all.

## Main statements

* `Envelope.integers_exact_iff`, when literals are read exactly.
* `Envelope.not_integers_exact`, one that is not.
-/

namespace HeaterLink.Json.Reader

open Binary64

/-! ## Significands -/

theorem lt_ten_of_mem_digitsOf {n d : Nat} (h : d ∈ digitsOf n) : d < 10 := by
  obtain ⟨c, hc, rfl⟩ := List.mem_map.mp h
  have hdigit := isDigit_of_mem_nat hc
  simp only [isDigit, Bool.and_eq_true, decide_eq_true_eq] at hdigit
  unfold digitValue
  omega

/-- Either all digits fit the significand, or the next one does not. -/
theorem fill_cases (ds : List Nat) {n : Nat} (hn : n ≤ significandMax) :
    fill n ds = (spell n ds, []) ∧ spell n ds ≤ significandMax ∨
      ∃ s d rest, fill n ds = (s, d :: rest) ∧ d ∈ ds ∧ significandMax < 10 * s + d := by
  induction ds generalizing n with
  | nil => exact .inl ⟨rfl, hn⟩
  | cons d ds ih =>
    by_cases hd : 10 * n + d ≤ significandMax
    · have hfill : fill n (d :: ds) = fill (10 * n + d) ds := by rw [fill, if_pos hd]
      rw [hfill]
      obtain ⟨hall, hle⟩ | ⟨s, e, rest, hs, he, hlt⟩ := ih hd
      · exact .inl ⟨hall, hle⟩
      · exact .inr ⟨s, e, rest, hs, List.mem_cons_of_mem _ he, hlt⟩
    · exact .inr ⟨n, d, ds, by rw [fill, if_neg hd], List.mem_cons_self, by omega⟩

/-- A number that does not fit leaves a significand of full length, and digits. -/
theorem exists_fill {m : Nat} (h : significandMax < m) :
    ∃ s dropped, fill 0 (digitsOf m) = (s, dropped) ∧ dropped ≠ [] ∧ 3 * 2 ^ 59 ≤ s := by
  obtain ⟨-, hle⟩ | ⟨s, d, rest, hs, hd, hlt⟩ := fill_cases (digitsOf m) (Nat.zero_le _)
  · rw [spell_digitsOf] at hle
    omega
  · have := lt_ten_of_mem_digitsOf hd
    refine ⟨s, d :: rest, hs, by simp, ?_⟩
    unfold significandMax at hlt
    omega

/-! ## Large doubles -/

theorem atLeast_powerOfTen {k : Nat} (hk : 0 < k) : (powerOfTen k).AtLeast (2 ^ (3 + places)) := by
  have hten : 1 * 2 ^ 3 ≤ 10 ^ k := by
    calc 1 * 2 ^ 3 ≤ 10 ^ 1 := by decide
      _ ≤ 10 ^ k := Nat.pow_le_pow_right (by decide) hk
  have h := atLeast_ofNat (by decide) hten
  rwa [Nat.one_mul] at h

theorem isZero_of_atLeast {bound : Nat} {x : Binary64} (h : x.AtLeast bound) (hb : 0 < bound) :
    x.isZero = false := by
  cases h with
  | infinite => rfl
  | finite _ hu =>
    obtain ⟨u, rfl⟩ := Nat.exists_eq_succ_of_ne_zero (Nat.ne_of_gt (Nat.lt_of_lt_of_le hb hu))
    rfl

/-- Scaling upwards moves the bound by three bits at least, or fails. -/
theorem scale_atLeast {c s k steps : Nat} {x y : Binary64} (hx : x.AtLeast (c * 2 ^ (s + places)))
    (hpos : 0 < c) (hc : c < 2 ^ 53) (hk : 0 < k) (h : scale (steps + 1) x k = .ok y) :
    y.AtLeast (c * 2 ^ (s + 3 + places)) := by
  have hbound : 0 < c * 2 ^ (s + places) := Nat.mul_pos hpos (Nat.two_pow_pos _)
  rw [scale, if_pos (Int.natCast_nonneg k), isZero_of_atLeast hx hbound] at h
  split at h
  · dsimp only at h
    split at h
    · cases h
    · cases h
      exact hx.mul (atLeast_powerOfTen hk) hpos hc
  · simp at h

theorem floatOfParts_atLeast {negative : Bool} {s k : Nat} {x : Number} (hs : 3 * 2 ^ 59 ≤ s)
    (hk : 0 < k) (h : floatOfParts negative s k = .ok x) :
    ∃ y, x = .float y ∧ y.AtLeast (3 * 2 ^ (62 + places)) := by
  have hsignificand := atLeast_ofNat (by decide) hs
  unfold floatOfParts at h
  cases hscale : scale ((k : Int).natAbs / tenMax + 1) (ofNat s) k with
  | error fault =>
    rw [hscale] at h
    cases h
  | ok y =>
    rw [hscale] at h
    cases h
    have hy : y.AtLeast (3 * 2 ^ (62 + places)) :=
      scale_atLeast hsignificand (by decide) (by decide) hk hscale
    refine ⟨_, rfl, ?_⟩
    cases negative with
    | false => exact hy
    | true => exact hy.neg

/-- The whole number that a large double is, if it is one, is as large. -/
theorem le_natAbs_of_toInt? {bound : Nat} {x : Binary64} {n : Int}
    (h : x.AtLeast (bound * 2 ^ places)) (hn : x.toInt? = some n) : bound ≤ n.natAbs := by
  rw [← one_eq] at h
  cases h with
  | infinite => cases hn
  | finite negative hu =>
    have hdiv := (Nat.le_div_iff_mul_le Binary64.one_pos).mpr hu
    rw [toInt?] at hn
    split at hn
    · cases hn
      cases negative with
      | false => exact hdiv
      | true =>
        rw [if_pos rfl, Int.natAbs_neg]
        exact hdiv
    · cases hn

end HeaterLink.Json.Reader

namespace HeaterLink.Envelope

open Json Reader

variable {R : Type} [Record R]

/-! ## Literals -/

/-- A sign or none, and the digits of a number. Zero has two of them. -/
structure Literal where
  negative : Bool
  magnitude : Nat

namespace Literal

/-- The integer that a literal names. -/
def value (l : Literal) : Int := if l.negative then -l.magnitude else l.magnitude

def text (l : Literal) : List Char :=
  (if l.negative then ['-'] else []) ++ Decimal.nat l.magnitude

def body (l : Literal) : ByteArray := (String.ofList l.text).toUTF8

/-- The same as the reader takes it apart. -/
def numeral (l : Literal) : Numeral where
  negative := l.negative
  whole := digitsOf l.magnitude
  fraction := none

theorem numeral_text (l : Literal) : Reader.numeral l.text = .ok (l.numeral, []) := by
  obtain ⟨negative, m⟩ := l
  cases negative with
  | true =>
    have h := unsignedNumeral_nat true m ends_nil
    rwa [List.append_nil] at h
  | false =>
    have h := numeral_int (m : Int) ends_nil
    rwa [List.append_nil, Decimal.int_ofNat] at h

theorem exists_text (l : Literal) : ∃ c cs, l.text = c :: cs ∧ startsNumber c = true := by
  obtain ⟨negative, m⟩ := l
  cases negative with
  | true => exact ⟨'-', _, rfl, by decide⟩
  | false =>
    have h := startsNumber_int (m : Int)
    rwa [Decimal.int_ofNat] at h

theorem readBytes_body (l : Literal) : readBytes l.body = l.numeral.value.map Json.number := by
  obtain ⟨c, cs, htext, hc⟩ := l.exists_text
  have hnumber : Reader.number (c :: cs) = l.numeral.value.map (·, []) := by
    rw [Reader.number, ← htext, l.numeral_text, ok_bind]
    show (do return (← l.numeral.value, [])) = _
    cases l.numeral.value <;> rfl
  rw [body, readBytes_toUTF8, htext, readChars_number hc hnumber]

/-! ## Values -/

variable {l : Literal} {x : Number}

theorem value_small (h : l.magnitude ≤ significandMax) :
    l.numeral.value = .ok (plainNumber l.negative l.magnitude) := by
  have hfill : fill 0 (digitsOf l.magnitude) = (l.magnitude, []) := by
    rw [fill_of_spell_le (by rw [spell_digitsOf]; exact h), spell_digitsOf]
  simp only [Numeral.value, numeral, hfill, if_true]

theorem value_large (h : significandMax < l.magnitude) (hx : l.numeral.value = .ok x) :
    ∃ y, x = .float y ∧ y.AtLeast (3 * 2 ^ (62 + Binary64.places)) := by
  obtain ⟨s, dropped, hfill, hne, hs⟩ := exists_fill h
  simp only [Numeral.value, numeral, hfill, if_neg hne] at hx
  exact floatOfParts_atLeast hs (List.length_pos_iff.mpr hne) hx

/-- Below the smallest integer a literal is rounded, on the eleven bits that a double drops. -/
theorem toInt?_below {m : Nat} (hlow : negativeMax < m) (hhigh : m ≤ significandMax) :
    (Binary64.ofNat m).neg.toInt? = some (-(Binary64.roundDiv m 2048 * 2048 : Nat) : Int) := by
  unfold negativeMax at hlow
  unfold significandMax at hhigh
  have hround : Binary64.ofNat m =
      .finite false (Binary64.roundDiv m 2048 * 2048 * Binary64.one) :=
    Binary64.ofNat_eq 11 (by omega) (by omega) (by omega)
  rw [hround, Binary64.neg, Binary64.toInt?, Nat.mul_mod_left, if_pos rfl,
    Nat.mul_div_cancel _ Binary64.one_pos]
  rfl

theorem whole?_plainNumber (h : l.magnitude ≤ significandMax) :
    whole? (.number (plainNumber l.negative l.magnitude)) =
      some (if l.negative ∧ negativeMax < l.magnitude
        then (-(Binary64.roundDiv l.magnitude 2048 * 2048 : Nat) : Int) else l.value) := by
  obtain ⟨negative, m⟩ := l
  cases negative with
  | false => rfl
  | true =>
    by_cases hz : m = 0
    · subst hz
      decide +kernel
    · by_cases hlow : negativeMax < m
      · simp [plainNumber, hlow, whole?, toInt?_below hlow h]
      · simp [plainNumber, hz, hlow, whole?, value]

theorem int64?_of_whole? {node : Json} {n : Int} (h : node.whole? = some n) :
    node.int64? = if -2 ^ 63 ≤ n ∧ n < 2 ^ 63 then some (Int64.ofInt n) else none := by
  have hrange : Int64.minValue.toInt ≤ n ∧ n ≤ Int64.maxValue.toInt ↔
      -2 ^ 63 ≤ n ∧ n < 2 ^ 63 := by
    rw [Int64.toInt_minValue, Int64.toInt_maxValue]
    omega
  simp only [int64?, h, Option.bind_some, hrange]

theorem int64?_float {y : Binary64} (h : y.AtLeast (3 * 2 ^ (62 + Binary64.places))) :
    int64? (.number (.float y)) = none := by
  cases hn : y.toInt? with
  | none =>
    have hwhole : whole? (.number (.float y)) = none := hn
    rw [int64?, hwhole, Option.bind_none]
  | some n =>
    have hwhole : whole? (.number (.float y)) = some n := hn
    rw [Nat.pow_add, ← Nat.mul_assoc] at h
    have hlarge := le_natAbs_of_toInt? h hn
    rw [int64?_of_whole? hwhole, if_neg (by omega)]

/-- Rounding reaches the smallest integer from half of the eleven bits away, and no further. -/
theorem rounds_to_least {m : Nat} (h : negativeMax < m) :
    negativeMax ≤ Binary64.roundDiv m 2048 * 2048 ∧
      (Binary64.roundDiv m 2048 * 2048 ≤ negativeMax ↔ m ≤ negativeMax + 1024) := by
  unfold negativeMax at *
  unfold Binary64.roundDiv
  dsimp only
  split
  · omega
  · split <;> omega

/-- What a literal is read as. -/
def reading? (l : Literal) : Option Int64 :=
  if -2 ^ 63 ≤ l.value ∧ l.value < 2 ^ 63 then some (Int64.ofInt l.value)
  else if -2 ^ 63 - 1024 ≤ l.value ∧ l.value < -2 ^ 63 then some Int64.minValue
  else none

theorem int64?_small (h : l.magnitude ≤ significandMax) :
    int64? (.number (plainNumber l.negative l.magnitude)) = l.reading? := by
  have hwhole := whole?_plainNumber h
  by_cases hb : l.negative ∧ negativeMax < l.magnitude
  · obtain ⟨hge, hle⟩ := rounds_to_least hb.2
    have hvalue : l.value = -l.magnitude := by rw [value, if_pos hb.1]
    have hlow := hb.2
    rw [if_pos hb] at hwhole
    rw [int64?_of_whole? hwhole, reading?, hvalue]
    unfold negativeMax at hlow hge hle
    by_cases hnear : l.magnitude ≤ 0x8000000000000000 + 1024
    · have heq := Nat.le_antisymm (hle.mpr hnear) hge
      rw [heq, if_pos (by decide), if_neg (by omega), if_pos (by omega)]
      rfl
    · have hfar := mt hle.mp hnear
      rw [if_neg (by omega), if_neg (by omega), if_neg (by omega)]
  · have hlow : -2 ^ 63 ≤ l.value := by
      unfold value
      split
      · rename_i hn
        have hle : ¬ negativeMax < l.magnitude := fun h => hb ⟨hn, h⟩
        unfold negativeMax at hle
        omega
      · omega
    rw [if_neg hb] at hwhole
    rw [int64?_of_whole? hwhole, reading?]
    split
    · rfl
    · rw [if_neg (by omega)]

/-- A literal of full length names no 64-bit integer, and none near one. -/
theorem reading?_of_large (h : significandMax < l.magnitude) : l.reading? = none := by
  have hfar : 2 ^ 64 ≤ l.value ∨ l.value ≤ -2 ^ 64 := by
    unfold significandMax at h
    unfold value
    split <;> omega
  rw [reading?, if_neg (by omega), if_neg (by omega)]

theorem int64?_number (hx : l.numeral.value = .ok x) :
    int64? (.number x) = l.reading? := by
  by_cases hm : l.magnitude ≤ significandMax
  · rw [value_small hm] at hx
    cases hx
    exact int64?_small hm
  · have hlarge := Nat.lt_of_not_le hm
    obtain ⟨y, rfl, hy⟩ := value_large hlarge hx
    rw [int64?_float hy, reading?_of_large hlarge]

end Literal

/-! ## Outcomes -/

/-- An integer between the bounds is read exactly, and any other is not read. -/
structure Exact (low high n : Int) {K : Type} (toInt : K → Int)
    (outcome : Except Error (List K)) : Prop where
  inside (h : low ≤ n ∧ n < high) : ∃ k, outcome = .ok [k] ∧ toInt k = n
  outside (h : ¬ (low ≤ n ∧ n < high)) : outcome = .ok [] ∨ ∃ e, outcome = .error e

theorem single_number (x : Number) : Single (.number x) where
  not_array _ hnode := by cases hnode
  not_null hnode := by cases hnode
  quiet code := by
    rintro ⟨members, value, hnode, -⟩
    cases hnode

theorem decode_literal (l : Literal) : decode false l.body =
    match l.numeral.value with
    | .ok x => lone R (.number x)
    | .error _ => .ok [] := by
  have hread := l.readBytes_body
  cases hv : l.numeral.value with
  | error fault =>
    rw [hv] at hread
    rw [decode, hread]
    rfl
  | ok x =>
    rw [hv] at hread
    exact decode_eq_lone hread (single_number x)

/-- A type whose records are some of the 64-bit integers gives what the literal is read as. -/
theorem decode_narrowed {narrow : Int64 → Option R}
    (hr : ∀ x, Record.ofNode? (.number x) = (int64? (.number x)).bind narrow) (l : Literal) :
    (∃ r, l.reading?.bind narrow = some r ∧ decode false l.body = .ok [r]) ∨
      l.reading?.bind narrow = none ∧
        (decode false l.body = (.ok [] : Except Error (List R)) ∨
          ∃ e, decode false l.body = (.error e : Except Error (List R))) := by
  have hdecode := decode_literal (R := R) l
  cases hv : l.numeral.value with
  | error fault =>
    have hlarge : significandMax < l.magnitude := by
      refine Nat.lt_of_not_le fun hle => ?_
      rw [Literal.value_small hle] at hv
      cases hv
    rw [hv] at hdecode
    exact .inr ⟨by rw [Literal.reading?_of_large hlarge, Option.bind_none], .inl hdecode⟩
  | ok x =>
    rw [hv] at hdecode
    have hnode := hr x
    rw [Literal.int64?_number hv] at hnode
    cases hread : l.reading?.bind narrow with
    | none =>
      have hlone := lone_eq_error_iff.mpr (hnode.trans hread)
      exact .inr ⟨rfl, .inr ⟨_, hdecode.trans hlone⟩⟩
    | some r =>
      have hlone := lone_eq_ok_iff.mpr (hnode.trans hread)
      exact .inl ⟨r, rfl, hdecode.trans hlone⟩

theorem exact_of_reading {narrow : Int64 → Option R} {l : Literal} {low high : Int}
    {ofInt : Int → R} {toInt : R → Int}
    (hr : ∀ x, Record.ofNode? (.number x) = (int64? (.number x)).bind narrow)
    (hread : l.reading?.bind narrow =
      if low ≤ l.value ∧ l.value < high then some (ofInt l.value) else none)
    (hback : low ≤ l.value ∧ l.value < high → toInt (ofInt l.value) = l.value) :
    Exact low high l.value toInt (decode false l.body) where
  inside h := by
    rw [if_pos h] at hread
    obtain ⟨r, hsome, hdecode⟩ | ⟨hnone, -⟩ := decode_narrowed hr l
    · rw [hread] at hsome
      obtain rfl := Option.some.inj hsome
      exact ⟨_, hdecode, hback h⟩
    · rw [hread] at hnone
      cases hnone
  outside h := by
    rw [if_neg h] at hread
    obtain ⟨r, hsome, -⟩ | ⟨-, hdecode⟩ := decode_narrowed hr l
    · rw [hread] at hsome
      cases hsome
    · exact hdecode

/-- The 64-bit integers that 32 bits hold. -/
def narrow32? (k : Int64) : Option Int32 :=
  if Int32.minValue.toInt ≤ k.toInt ∧ k.toInt ≤ Int32.maxValue.toInt
  then some (Int32.ofInt k.toInt) else none

/-- What is read as another integer than it names is read as one that 32 bits do not hold. -/
theorem bind_narrow32? (l : Literal) : l.reading?.bind narrow32? =
    if -2 ^ 31 ≤ l.value ∧ l.value < 2 ^ 31 then some (Int32.ofInt l.value) else none := by
  unfold Literal.reading?
  split
  · rename_i h
    have hback : (Int64.ofInt l.value).toInt = l.value := Int64.toInt_ofInt_of_le h.1 h.2
    have hrange : Int32.minValue.toInt ≤ l.value ∧ l.value ≤ Int32.maxValue.toInt ↔
        -2 ^ 31 ≤ l.value ∧ l.value < 2 ^ 31 := by
      rw [Int32.toInt_minValue, Int32.toInt_maxValue]
      omega
    simp only [Option.bind_some, narrow32?, hback, hrange]
  · rename_i h
    rw [if_neg (c := -2 ^ 31 ≤ l.value ∧ l.value < 2 ^ 31) (by omega)]
    split <;> rfl

theorem exact_int32 (l : Literal) :
    Exact (-2 ^ 31) (2 ^ 31) l.value Int32.toInt (decode false l.body) :=
  exact_of_reading (fun _ => rfl) (bind_narrow32? l) fun h => Int32.toInt_ofInt_of_le h.1 h.2

theorem ofNode?_int64 (x : Number) :
    Record.ofNode? (.number x) = (int64? (.number x)).bind (some : Int64 → Option Int64) :=
  (Option.bind_fun_some _).symm

theorem decode_near {l : Literal} (h : -2 ^ 63 - 1024 ≤ l.value ∧ l.value < -2 ^ 63) :
    decode false l.body = .ok [Int64.minValue] := by
  have hread : l.reading? = some Int64.minValue := by
    rw [Literal.reading?, if_neg (by omega), if_pos h]
  obtain ⟨r, hsome, hdecode⟩ | ⟨hnone, -⟩ := decode_narrowed ofNode?_int64 l
  · rw [hread] at hsome
    cases hsome
    exact hdecode
  · rw [hread] at hnone
    cases hnone

theorem exact_int64_iff (l : Literal) :
    Exact (-2 ^ 63) (2 ^ 63) l.value Int64.toInt (decode false l.body) ↔
      ¬ (-2 ^ 63 - 1024 ≤ l.value ∧ l.value < -2 ^ 63) := by
  constructor
  · intro hexact hnear
    have hread := decode_near hnear
    rcases hexact.outside (by omega) with hnil | ⟨e, herror⟩
    · cases hread.symm.trans hnil
    · cases hread.symm.trans herror
  · intro hnear
    refine exact_of_reading ofNode?_int64 ?_ fun h => Int64.toInt_ofInt_of_le h.1 h.2
    rw [Option.bind_fun_some, Literal.reading?, if_neg hnear]

/-- Integers are read exactly or not at all, as 32 bits always and as 64 bits except just below the
smallest of them; there they are read as the smallest one. -/
theorem integers_exact_iff (l : Literal) :
    Exact (-2 ^ 31) (2 ^ 31) l.value Int32.toInt (decode false l.body) ∧
      (Exact (-2 ^ 63) (2 ^ 63) l.value Int64.toInt (decode false l.body) ↔
        ¬ (-2 ^ 63 - 1024 ≤ l.value ∧ l.value < -2 ^ 63)) ∧
      (-2 ^ 63 - 1024 ≤ l.value ∧ l.value < -2 ^ 63 →
        decode false l.body = .ok [Int64.minValue]) :=
  ⟨exact_int32 l, exact_int64_iff l, decode_near⟩

/-- One less than the smallest integer is read as the smallest integer. -/
theorem not_integers_exact :
    ¬ ∀ l : Literal, Exact (-2 ^ 63) (2 ^ 63) l.value Int64.toInt (decode false l.body) := by
  intro h
  exact (exact_int64_iff ⟨true, 2 ^ 63 + 1⟩).mp (h _) (by decide)

/-- The largest integer, and a literal in the gap. -/
theorem integers_exact_iff_bounds :
    (∃ k : Int64, decode false (Literal.mk false (2 ^ 63 - 1)).body = .ok [k] ∧
      k.toInt = 2 ^ 63 - 1) ∧
      decode false (Literal.mk true (2 ^ 63 + 1024)).body = .ok [Int64.minValue] := by
  have hexact := (integers_exact_iff ⟨false, 2 ^ 63 - 1⟩).2.1.mpr (by decide)
  exact ⟨hexact.inside (by decide), (integers_exact_iff ⟨true, 2 ^ 63 + 1024⟩).2.2 (by decide)⟩

end HeaterLink.Envelope
