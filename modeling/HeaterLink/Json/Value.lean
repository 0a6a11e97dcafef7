import HeaterLink.Binary64

/-!
# JSON values

Members of an object keep the order in which they were written, repeated names
included; a name stands for its last member.
-/

namespace HeaterLink

/-- An integer literal that fits 64 bits, signed or unsigned, stays an integer. -/
inductive Json.Number where
  | integer (n : Int)
  | float (x : Binary64)
deriving DecidableEq, Repr

inductive Json where
  | null
  | bool (b : Bool)
  | number (n : Json.Number)
  | string (s : String)
  | array (items : List Json)
  | object (members : List (String × Json))

namespace Json

/-- Why a text is refused: it ended too early, it is not JSON, or it is JSON of the wrong shape. -/
inductive Fault where
  | truncated
  | malformed
  | unsuited
deriving DecidableEq, Repr

abbrev integer (n : Int) : Json := .number (.integer n)

def isNull : Json → Bool
  | .null => true
  | _ => false

/-! ## Members -/

/-- The last value given under a name. -/
def last? (name : String) : List (String × Json) → Option Json
  | [] => none
  | (k, v) :: rest =>
    match last? name rest with
    | some w => some w
    | none => if k = name then some v else none

@[simp] theorem last?_nil (name : String) : last? name [] = none := rfl

theorem last?_cons (name key : String) (v : Json) (rest : List (String × Json)) :
    last? name ((key, v) :: rest) = (last? name rest).or (if key = name then some v else none) := by
  rw [last?]
  cases last? name rest <;> rfl

theorem last?_append (name : String) (xs ys : List (String × Json)) :
    last? name (xs ++ ys) = (last? name ys).or (last? name xs) := by
  induction xs with
  | nil => cases h : last? name ys <;> simp [h]
  | cons x xs ih =>
    obtain ⟨k, v⟩ := x
    simp only [List.cons_append, last?, ih]
    cases last? name ys <;> simp

def member? (name : String) : Json → Option Json
  | .object members => last? name members
  | _ => none

/-! ## Readings -/

def string? : Json → Option String
  | .string s => some s
  | _ => none

def bool? : Json → Option Bool
  | .bool b => some b
  | _ => none

end Json

end HeaterLink
