import HeaterLink.Binary64

/-!
# Temperatures

A temperature travels as a whole number of hundredths of a degree Celsius and
is shown in degrees, as a double.
-/

namespace HeaterLink

structure Temperature where
  hundredths : Int32
deriving DecidableEq, Repr, Inhabited

namespace Temperature

def hundred : Binary64 := .ofNat 100

/-- Degrees to hundredths: a half goes away from zero, and what is out of range stops at the end. -/
def ofCelsius (degrees : Binary64) : Temperature :=
  ⟨Int32.ofInt (Binary64.roundClamped Int32.minValue.toInt Int32.maxValue.toInt
    (degrees.mul hundred))⟩

def celsius (t : Temperature) : Binary64 := (Binary64.ofInt t.hundredths.toInt).div hundred

/-- Degrees with one place, such as `21.5°C`. -/
def display (t : Temperature) : String := String.ofList (t.celsius.toTenths ++ ['°', 'C'])

instance : LE Temperature := ⟨fun a b => a.hundredths ≤ b.hundredths⟩

instance (a b : Temperature) : Decidable (a ≤ b) :=
  inferInstanceAs (Decidable (a.hundredths ≤ b.hundredths))

/-- From the coldest to the warmest. -/
def sort (ts : List Temperature) : List Temperature := ts.mergeSort fun a b => decide (a ≤ b)

end Temperature

end HeaterLink
