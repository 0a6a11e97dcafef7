import HeaterLink.Bytes

/-!
# Tagged values

The distinguished encoding: a tag, a length in its shortest form, the content.
Integers here are not negative and carry no needless leading zero.
-/

namespace HeaterLink.Der

def integerTag : UInt8 := 0x02
def octetStringTag : UInt8 := 0x04
def identifierTag : UInt8 := 0x06
def sequenceTag : UInt8 := 0x30

/-- The tag of an optional field by its number: built of parts, or plain. -/
def builtField (n : Nat) : UInt8 := UInt8.ofNat (0xA0 + n)
def plainField (n : Nat) : UInt8 := UInt8.ofNat (0x80 + n)

/-! ## Reading -/

/-- The length in front of a content: one byte below 128, else up to four bytes, none needless. -/
def length? : List UInt8 → Option (Nat × List UInt8)
  | [] => none
  | b :: rest =>
    if b < 0x80 then some (b.toNat, rest)
    else
      let width := b.toNat - 0x80
      let n := Bytes.toNat (rest.take width)
      if width ≤ 4 ∧ width ≤ rest.length ∧ 128 ≤ n ∧ (Bytes.minimal n).length = width
      then some (n, rest.drop width) else none

/-- The content of the value at the front, which must have this tag, and the rest. -/
def value? (tag : UInt8) : List UInt8 → Option (List UInt8 × List UInt8)
  | [] => none
  | t :: rest =>
    if t = tag then do
      let (n, rest) ← length? rest
      if n ≤ rest.length then some (rest.take n, rest.drop n) else none
    else none

/-- The content of a value with nothing behind it. -/
def only? (tag : UInt8) (bytes : List UInt8) : Option (List UInt8) :=
  match value? tag bytes with
  | some (content, []) => some content
  | _ => none

/-- The number that the content of an integer spells. -/
def natural? : List UInt8 → Option Nat
  | [] => none
  | [b] => if b < 0x80 then some b.toNat else none
  | a :: b :: rest =>
    if a < 0x80 ∧ (a ≠ 0 ∨ 0x80 ≤ b) then some (Bytes.toNat (a :: b :: rest)) else none

def integer? (bytes : List UInt8) : Option (Nat × List UInt8) := do
  let (content, rest) ← value? integerTag bytes
  return (← natural? content, rest)

def onlyInteger? (bytes : List UInt8) : Option Nat := only? integerTag bytes >>= natural?

/-! ## Writing -/

def length (n : Nat) : List UInt8 :=
  if n < 128 then [UInt8.ofNat n]
  else UInt8.ofNat (0x80 + (Bytes.minimal n).length) :: Bytes.minimal n

def value (tag : UInt8) (content : List UInt8) : List UInt8 :=
  tag :: (length content.length ++ content)

/-- The content of an integer: a zero byte keeps a high first bit from meaning a sign. -/
def natural (n : Nat) : List UInt8 :=
  match Bytes.minimal n with
  | [] => []
  | b :: rest => if b < 0x80 then b :: rest else 0 :: b :: rest

def integer (n : Nat) : List UInt8 := value integerTag (natural n)

end HeaterLink.Der
