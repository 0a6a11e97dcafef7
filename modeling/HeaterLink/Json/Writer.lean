import HeaterLink.Json.Text
import HeaterLink.Text.Decimal

/-!
# Writing JSON

Compact text: no blanks, members in the order given. A double is written
exactly, as its digits times a power of ten.
-/

namespace HeaterLink.Json

/-- One unit of a double is 5 ^ 1074 times 10 ^ -1074. -/
def writeFloat : Binary64 → List Char
  | .finite negative units =>
    (if negative then ['-'] else []) ++ Decimal.nat (units * Nat.pow 5 1074) ++ ['e'] ++ Decimal.int (-1074)
  | _ => ['n', 'u', 'l', 'l']

def writeNumber : Number → List Char
  | .integer n => Decimal.int n
  | .float x => writeFloat x

mutual

def write : Json → List Char
  | .null => ['n', 'u', 'l', 'l']
  | .bool true => ['t', 'r', 'u', 'e']
  | .bool false => ['f', 'a', 'l', 's', 'e']
  | .number n => writeNumber n
  | .string s => quoted s
  | .array items => '[' :: writeItems items
  | .object members => '{' :: writeMembers members

def writeItems : List Json → List Char
  | [] => [']']
  | x :: xs => write x ++ writeMoreItems xs

def writeMoreItems : List Json → List Char
  | [] => [']']
  | x :: xs => ',' :: (write x ++ writeMoreItems xs)

def writeMembers : List (String × Json) → List Char
  | [] => ['}']
  | x :: xs => writeMember x ++ writeMoreMembers xs

def writeMoreMembers : List (String × Json) → List Char
  | [] => ['}']
  | x :: xs => ',' :: (writeMember x ++ writeMoreMembers xs)

def writeMember : String × Json → List Char
  | (name, x) => quoted name ++ ':' :: write x

end

/-- The text of a value. -/
def render (x : Json) : String := String.ofList (write x)

end HeaterLink.Json
