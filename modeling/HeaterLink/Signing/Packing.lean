import HeaterLink.Bytes

/-!
# Packed arguments

The arguments of a request as the bytes that are signed: numbers big-endian in
their own width, text as UTF-16 units of two bytes, bytes as they are.
-/

namespace HeaterLink.Signing

inductive Part where
  | long (n : Int64)
  | int (n : Int32)
  | text (s : String)
  | byte (b : UInt8)
  | bytes (bs : List UInt8)
deriving DecidableEq, Repr

/-- The UTF-16 units of a character: one, or a surrogate pair. -/
def utf16 (c : Char) : List Nat :=
  let n := c.toNat
  if n < 0x10000 then [n] else [0xD800 + (n - 0x10000) / 0x400, 0xDC00 + (n - 0x10000) % 0x400]

def units (s : String) : List Nat := s.toList.flatMap utf16

namespace Part

def pack : Part → List UInt8
  | long n => Bytes.bigEndian 8 n.toUInt64.toNat
  | int n => Bytes.bigEndian 4 n.toUInt32.toNat
  | text s => (units s).flatMap (Bytes.bigEndian 2)
  | byte b => [b]
  | bytes bs => bs

/-- How many bytes a part takes. -/
def size : Part → Nat
  | long _ => 8
  | int _ => 4
  | text s => 2 * (units s).length
  | byte _ => 1
  | bytes bs => bs.length

theorem length_pack (p : Part) : p.pack.length = p.size := by
  cases p with
  | text s => simp [pack, size, List.length_flatMap, List.map_const', Nat.mul_comm]
  | _ => simp [pack, size]

end Part

def pack (parts : List Part) : List UInt8 := parts.flatMap Part.pack

@[simp] theorem pack_nil : pack [] = [] := rfl

@[simp] theorem pack_cons (p : Part) (ps : List Part) : pack (p :: ps) = p.pack ++ pack ps := by
  simp [pack]

end HeaterLink.Signing
