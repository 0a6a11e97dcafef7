import HeaterLink.Text.Hex
import HeaterLink.Text.Shown

/-!
# Quoted text

Text between quotes for people to read: the quote itself and the backslash are
escaped, tabs, line ends and NUL have letters, and every other character that is
not shown stands as its code point in braces.
-/

namespace HeaterLink.Quoted

/-- The escape of a character that has one whatever the quote. -/
def letter? (c : Char) : Option Char :=
  if c = '\x00' then some '0'
  else if c = '\t' then some 't'
  else if c = '\r' then some 'r'
  else if c = '\n' then some 'n'
  else if c = '\\' then some '\\'
  else none

def escape (quote c : Char) : List Char :=
  match letter? c with
  | some x => ['\\', x]
  | none =>
    if c = quote then ['\\', c]
    else if 0x20 ≤ c.toNat ∧ c.toNat < 0x7F then [c]
    else if Text.isHidden c then ['\\', 'u', '\x7b'] ++ Nat.toDigits 16 c.toNat ++ ['\x7d']
    else [c]

def text (s : String) : String := String.ofList ('"' :: (s.toList.flatMap (escape '"') ++ ['"']))

def character (c : Char) : String := String.ofList ('\'' :: (escape '\'' c ++ ['\'']))

/-! ## Optional values -/

def optional {α : Type} (render : α → String) : Option α → String
  | none => "None"
  | some x => s!"Some({render x})"

end HeaterLink.Quoted
