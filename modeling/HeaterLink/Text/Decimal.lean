/-!
# Decimal text
-/

namespace HeaterLink.Decimal

def nat (n : Nat) : List Char := Nat.toDigits 10 n

def int (n : Int) : List Char := if n < 0 then '-' :: nat n.natAbs else nat n.natAbs

def text (n : Int) : String := String.ofList (int n)

/-- The number that a text spells, a leading minus sign allowed. -/
def toInt (cs : List Char) : Int :=
  let value := fun ds : List Char => ds.foldl (fun n c => 10 * n + (c.toNat - 48)) 0
  match cs with
  | '-' :: ds => -(value ds : Nat)
  | ds => (value ds : Nat)

theorem int_ofNat (n : Nat) : int n = nat n := by simp [int]

end HeaterLink.Decimal
