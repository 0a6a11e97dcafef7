/-!
# Big-endian bytes

Natural numbers as byte sequences, most significant byte first.
-/

namespace HeaterLink.Bytes

/-- The lowest `width` bytes of a number. -/
def bigEndian : (width : Nat) → Nat → List UInt8
  | 0, _ => []
  | width + 1, n => bigEndian width (n / 256) ++ [UInt8.ofNat n]

/-- The number that bytes spell. -/
def toNat (bytes : List UInt8) : Nat := bytes.foldl (fun n b => 256 * n + b.toNat) 0

/-- The bytes of a number without leading zeros; zero takes one byte. -/
def minimal (n : Nat) : List UInt8 := bigEndian (n.log2 / 8 + 1) n

@[simp] theorem length_bigEndian (width n : Nat) : (bigEndian width n).length = width := by
  induction width generalizing n with
  | zero => rfl
  | succ width ih => simp [bigEndian, ih]

theorem toNat_append_singleton (bytes : List UInt8) (b : UInt8) :
    toNat (bytes ++ [b]) = 256 * toNat bytes + b.toNat := by
  simp [toNat, List.foldl_append]

end HeaterLink.Bytes
