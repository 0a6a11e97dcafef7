import HeaterLink.Text.Decimal

/-!
# Pieces of text and decimal numbers

A joined text is its first piece and, for each further one, the mark and the piece. A number
written in decimal is read back, so no two numbers are written alike.

## Main statements

* `intercalate_cons`, a joined text piece by piece.
* `Decimal.toInt_int`, a written number read back.
-/

namespace HeaterLink

/-- The first part stands alone, and every other one behind a mark. -/
theorem intercalate_cons (mark : Char) (cs : List Char) (texts : List (List Char)) :
    List.intercalate [mark] (cs :: texts) = cs ++ texts.flatMap (mark :: ·) := by
  induction texts generalizing cs with
  | nil => simp
  | cons next texts ih => simp [ih]

namespace Decimal

theorem isDigit_of_mem_nat {n : Nat} {c : Char} (h : c ∈ nat n) : c.isDigit = true :=
  Nat.isDigit_of_mem_toDigits (by decide) (by decide) h

theorem mem_int {n : Int} {c : Char} (h : c ∈ int n) : c = '-' ∨ c.isDigit = true := by
  unfold int at h
  split at h
  · exact (List.mem_cons.1 h).imp_right isDigit_of_mem_nat
  · exact .inr (isDigit_of_mem_nat h)

theorem foldl_nat (n : Nat) : (nat n).foldl (fun n c => 10 * n + (c.toNat - 48)) 0 = n :=
  Nat.ofDigitChars_ten_toDigits

theorem toInt_nat (n : Nat) : toInt (nat n) = n := by
  unfold toInt
  split
  · next ds minus =>
    have digit : '-'.isDigit = true := isDigit_of_mem_nat (n := n) (by simp [minus])
    exact absurd digit (by decide)
  · exact congrArg Nat.cast (foldl_nat n)

theorem toInt_minus_nat (n : Nat) : toInt ('-' :: nat n) = -n :=
  congrArg (fun n : Nat => -(n : Int)) (foldl_nat n)

theorem toInt_int (n : Int) : toInt (int n) = n := by
  unfold int
  split
  · rw [toInt_minus_nat]
    omega
  · rw [toInt_nat]
    omega

@[simp] theorem int_inj {m n : Int} : int m = int n ↔ m = n := by
  constructor
  · intro h
    rw [← toInt_int m, h, toInt_int]
  · exact congrArg int

end Decimal

end HeaterLink
