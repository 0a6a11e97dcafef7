import HeaterLink.Json.Value
import HeaterLink.Temperature
import HeaterLink.Timestamp

/-!
# Records

A record is read from a JSON node and written back to one. A field is the
reading of the last member with its name; a member that cannot be read counts
as missing.
-/

namespace HeaterLink

/-- A type of values that a reply can carry. -/
class Record (R : Type) where
  /-- Nothing when the node lacks what the record cannot do without. -/
  ofNode? : Json → Option R
  toNode : R → Json

namespace Json

/-! ## Readings of one node -/

/-- The whole number a node stands for; a double without fraction is one. -/
def whole? : Json → Option Int
  | .number (.integer n) => some n
  | .number (.float x) => x.toInt?
  | _ => none

def int64? (node : Json) : Option Int64 :=
  node.whole?.bind fun n =>
    if Int64.minValue.toInt ≤ n ∧ n ≤ Int64.maxValue.toInt then some (Int64.ofInt n) else none

def int32? (node : Json) : Option Int32 :=
  node.int64?.bind fun n =>
    if Int32.minValue.toInt ≤ n.toInt ∧ n.toInt ≤ Int32.maxValue.toInt
    then some (Int32.ofInt n.toInt) else none

def temperature? (node : Json) : Option Temperature := node.int32?.map Temperature.mk

def timestamp? (node : Json) : Option Timestamp := node.int64?.bind Timestamp.ofMillis?

def isObject : Json → Bool
  | .object _ => true
  | _ => false

/-! ## Fields -/

/-- Reads the member with this name. -/
def field {α : Type} (reading : Json → Option α) (name : String) (node : Json) : Option α :=
  (node.member? name).bind reading

/-! ## Writings of one value -/

def ofInt64 (n : Int64) : Json := .integer n.toInt
def ofInt32 (n : Int32) : Json := .integer n.toInt
def ofTemperature (t : Temperature) : Json := ofInt32 t.hundredths
def ofTimestamp (t : Timestamp) : Json := ofInt64 t.millis

/-- The member for a field; an absent field has none. -/
def entry {α : Type} (name : String) (writing : α → Json) : Option α → List (String × Json)
  | none => []
  | some x => [(name, writing x)]

theorem whole?_integer (n : Int) : whole? (.integer n) = some n := rfl

theorem int64?_ofInt64 (n : Int64) : int64? (ofInt64 n) = some n := by
  have low := n.minValue_le_toInt
  have high := n.toInt_le
  simp only [int64?, ofInt64, whole?_integer, Option.bind_some]
  rw [if_pos ⟨low, high⟩, Int64.ofInt_toInt]

theorem last?_entry {α : Type} (name key : String) (writing : α → Json) (x : Option α) :
    last? name (entry key writing x) = if key = name then x.map writing else none := by
  cases x <;> simp [entry, last?]

end Json

/-! ## Scalars as records -/

instance : Record Int64 := ⟨Json.int64?, Json.ofInt64⟩
instance : Record Int32 := ⟨Json.int32?, Json.ofInt32⟩
instance : Record Bool := ⟨Json.bool?, Json.bool⟩

end HeaterLink
