import HeaterLink.Json.Number

/-!
# Reading a written integer

The reader takes the digits of a written integer as far as they go and finds its
value again, as long as 64 bits hold it.

## Main statements

* `Json.Reader.number_int`, a written integer in front of any text that does not
  go on with it.
-/

namespace HeaterLink.Json.Reader

@[simp] theorem ok_bind {ε α β : Type} (x : α) (f : α → Except ε β) :
    (Except.ok x >>= f) = f x := rfl

/-! ## Digits -/

/-- A text that cannot go on with a number that stands in front of it. -/
def Ends (cs : List Char) : Prop :=
  ∀ c ∈ cs.head?, isDigit c = false ∧ c ≠ '.' ∧ c ≠ 'e' ∧ c ≠ 'E'

theorem ends_nil : Ends [] := by simp [Ends]

theorem ends_cons {c : Char} (h : isDigit c = false ∧ c ≠ '.' ∧ c ≠ 'e' ∧ c ≠ 'E')
    (cs : List Char) : Ends (c :: cs) := by
  simpa [Ends] using h

theorem isDigit_of_mem_nat {n : Nat} {c : Char} (h : c ∈ Decimal.nat n) : isDigit c = true := by
  have hd := Nat.isDigit_of_mem_toDigits (by decide) (by decide) h
  simpa [Char.isDigit, isDigit, UInt32.le_iff_toNat_le] using hd

theorem takeWhile_digits {ds rest : List Char} (hd : ∀ c ∈ ds, isDigit c = true)
    (hr : Ends rest) : (ds ++ rest).takeWhile isDigit = ds := by
  rw [List.takeWhile_append_of_pos hd]
  cases rest with
  | nil => simp
  | cons c cs => simp [(hr c (by simp)).1]

theorem dropWhile_digits {ds rest : List Char} (hd : ∀ c ∈ ds, isDigit c = true)
    (hr : Ends rest) : (ds ++ rest).dropWhile isDigit = rest := by
  rw [List.dropWhile_append_of_pos hd]
  cases rest with
  | nil => simp
  | cons c cs => simp [(hr c (by simp)).1]

/-! ## Numbers as digits -/

/-- The digits of a number, as values. -/
def digitsOf (n : Nat) : List Nat := (Decimal.nat n).map digitValue

theorem digitsOf_ne_nil (n : Nat) : digitsOf n ≠ [] := by
  simp [digitsOf, Decimal.nat]

theorem digits_nat (n : Nat) {rest : List Char} (hr : Ends rest) :
    digits (Decimal.nat n ++ rest) = (digitsOf n, rest) := by
  have hd : ∀ c ∈ Decimal.nat n, isDigit c = true := fun _ => isDigit_of_mem_nat
  rw [digits, takeWhile_digits hd hr, dropWhile_digits hd hr, digitsOf]

theorem spell_digitsOf (n : Nat) : spell 0 (digitsOf n) = n := by
  have h := Nat.ofDigitChars_ten_toDigits (n := n)
  rw [Nat.ofDigitChars] at h
  rw [spell, digitsOf, List.foldl_map]
  exact h

theorem digitsOf_of_lt {n : Nat} (h : n < 10) : digitsOf n = [n] := by
  have hv := Nat.toNat_digitChar_sub_48_of_lt_ten h
  simp [digitsOf, Decimal.nat, Nat.toDigits_of_lt_base h, digitValue, hv]

theorem digitsOf_of_le {n : Nat} (h : 10 ≤ n) : digitsOf n = digitsOf (n / 10) ++ [n % 10] := by
  have hv := Nat.toNat_digitChar_sub_48_of_lt_ten (Nat.mod_lt n (by decide : 0 < 10))
  simp [digitsOf, Decimal.nat, Nat.toDigits_of_base_le (by decide) h, digitValue, hv]

/-- Only zero begins with zero. -/
theorem head?_digitsOf {n : Nat} (h : (digitsOf n).head? = some 0) : n = 0 := by
  induction n using Nat.strongRecOn with
  | ind n ih =>
    by_cases hn : n < 10
    · simpa [digitsOf_of_lt hn] using h
    · have hle : 10 ≤ n := by omega
      rw [digitsOf_of_le hle, List.head?_append] at h
      cases hds : digitsOf (n / 10) with
      | nil => exact absurd hds (digitsOf_ne_nil _)
      | cons d ds =>
        have hhead : (digitsOf (n / 10)).head? = some 0 := by simpa [hds] using h
        have := ih (n / 10) (by omega) hhead
        omega

/-! ## Numerals -/

theorem someDigits_nat (n : Nat) {rest : List Char} (hr : Ends rest) :
    someDigits (Decimal.nat n ++ rest) = .ok (digitsOf n, rest) := by
  rw [someDigits, digits_nat n hr]
  cases hds : digitsOf n with
  | nil => exact absurd hds (digitsOf_ne_nil n)
  | cons d ds => rfl

theorem wholePart_nat (n : Nat) {rest : List Char} (hr : Ends rest) :
    wholePart (Decimal.nat n ++ rest) = .ok (digitsOf n, rest) := by
  have hz : ¬((digitsOf n).head? = some 0 ∧ (digitsOf n).length ≠ 1) := by
    rintro ⟨hh, hl⟩
    rw [head?_digitsOf hh] at hl
    exact hl rfl
  rw [wholePart, someDigits_nat n hr]
  exact if_neg hz

theorem fractionPart_of_ends {rest : List Char} (hr : Ends rest) :
    fractionPart rest = .ok (none, rest) := by
  cases rest with
  | nil => rfl
  | cons c cs =>
    have hc := (hr c (by simp)).2.1
    unfold fractionPart
    split
    · simp_all
    · rfl

theorem exponentPart_of_ends {rest : List Char} (hr : Ends rest) :
    exponentPart rest = .ok (none, rest) := by
  cases rest with
  | nil => rfl
  | cons c cs =>
    obtain ⟨-, -, he, hE⟩ := hr c (by simp)
    simp [exponentPart, he, hE]

theorem unsignedNumeral_nat (negative : Bool) (n : Nat) {rest : List Char} (hr : Ends rest) :
    unsignedNumeral negative (Decimal.nat n ++ rest) =
      .ok ({ negative, whole := digitsOf n, fraction := none }, rest) := by
  simp only [unsignedNumeral, wholePart_nat n hr, fractionPart_of_ends hr,
    exponentPart_of_ends hr, ok_bind]
  rfl

theorem numeral_int (n : Int) {rest : List Char} (hr : Ends rest) :
    numeral (Decimal.int n ++ rest) =
      .ok ({ negative := decide (n < 0), whole := digitsOf n.natAbs, fraction := none }, rest) := by
  by_cases hn : n < 0
  · have hd : decide (n < 0) = true := by simpa using hn
    rw [Decimal.int, if_pos hn, hd]
    exact unsignedNumeral_nat true n.natAbs hr
  · have hd : decide (n < 0) = false := by simpa using hn
    rw [Decimal.int, if_neg hn, hd, ← unsignedNumeral_nat false n.natAbs hr]
    cases hds : Decimal.nat n.natAbs with
    | nil => exact absurd hds (by simp [Decimal.nat])
    | cons c cs =>
      have hc : isDigit c = true := isDigit_of_mem_nat (n := n.natAbs) (by simp [hds])
      have hminus : c ≠ '-' := by rintro rfl; exact absurd hc (by decide)
      rw [List.cons_append, numeral]
      simpa using hminus

/-! ## Values -/

/-- The integers that the reader keeps as integers. -/
def Fits (n : Int) : Prop := -(negativeMax : Int) ≤ n ∧ n ≤ significandMax

theorem value_digitsOf {n : Int} (h : Fits n) :
    Numeral.value { negative := decide (n < 0), whole := digitsOf n.natAbs, fraction := none } =
      .ok (.integer n) := by
  obtain ⟨hlow, hhigh⟩ := h
  have hle : n.natAbs ≤ significandMax := by
    have : negativeMax ≤ significandMax := by decide
    omega
  have hfill : fill 0 (digitsOf n.natAbs) = (n.natAbs, []) := by
    rw [fill_of_spell_le (by rw [spell_digitsOf]; exact hle), spell_digitsOf]
  simp only [Numeral.value, hfill, if_true]
  by_cases hn : n < 0
  · have hz : ¬(n.natAbs = 0 ∨ negativeMax < n.natAbs) := by omega
    have hback : -(n.natAbs : Int) = n := by omega
    rw [plainNumber, if_neg (by simpa using hn), if_neg hz, hback]
  · have hback : (n.natAbs : Int) = n := by omega
    simp [plainNumber, hn, hback]

/-- A written integer reads as itself. -/
theorem number_int {n : Int} (h : Fits n) {rest : List Char} (hr : Ends rest) :
    number (Decimal.int n ++ rest) = .ok (.integer n, rest) := by
  simp only [number, numeral_int n hr, value_digitsOf h, ok_bind]
  rfl

end HeaterLink.Json.Reader
