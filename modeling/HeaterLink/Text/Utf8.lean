/-!
# UTF-8 with replacement

Bytes as text where every ill-formed part, taken as long as it could still have
begun a character, becomes one replacement character.
-/

namespace HeaterLink.Utf8

def replacement : Char := '\ufffd'

def isContinuation (b : UInt8) : Bool := 0x80 ≤ b && b < 0xC0

/-- How many bytes follow a lead byte, the range of the first of them, and the lead's own bits. -/
def lead? (b : UInt8) : Option (Nat × UInt8 × UInt8 × Nat) :=
  if b < 0xC2 then none
  else if b < 0xE0 then some (1, 0x80, 0xBF, b.toNat - 0xC0)
  else if b < 0xF0 then
    some (2, if b = 0xE0 then 0xA0 else 0x80, if b = 0xED then 0x9F else 0xBF, b.toNat - 0xE0)
  else if b < 0xF5 then
    some (3, if b = 0xF0 then 0x90 else 0x80, if b = 0xF4 then 0x8F else 0xBF, b.toNat - 0xF0)
  else none

/-- The character at the front of a nonempty text, and how many bytes it takes after the first. -/
def first (b : UInt8) (rest : List UInt8) : Char × Nat :=
  if b < 0x80 then (Char.ofNat b.toNat, 0)
  else match lead? b with
    | none => (replacement, 0)
    | some (n, low, high, bits) =>
      match rest with
      | [] => (replacement, 0)
      | c :: more =>
        if c < low ∨ high < c then (replacement, 0)
        else
          let tail := c :: (more.take (n - 1)).takeWhile isContinuation
          if tail.length = n then
            (Char.ofNat (tail.foldl (fun v t => v * 64 + (t.toNat - 0x80)) bits), n)
          else (replacement, tail.length)

/-- Decodes after leaving out `skip` bytes. -/
def decodeFrom : (skip : Nat) → List UInt8 → List Char
  | _, [] => []
  | skip + 1, _ :: rest => decodeFrom skip rest
  | 0, b :: rest =>
    let (c, used) := first b rest
    c :: decodeFrom used rest

def decode (bytes : List UInt8) : String := String.ofList (decodeFrom 0 bytes)

end HeaterLink.Utf8
