import HeaterLink.Bytes
import Mathlib

/-!
# What big-endian bytes spell

Bytes of a fixed width spell the number that was written, as far as it fits. Without leading
zeros, bytes and numbers determine each other.

## Main statements

* `Bytes.toNat_bigEndian`, the number that the bytes of a number spell.
* `Bytes.toNat_minimal` and `Bytes.minimal_toNat`, for bytes without leading zeros.
-/

namespace HeaterLink.Bytes

/-! ## A fixed width -/

theorem toNat_bigEndian (width n : Nat) : toNat (bigEndian width n) = n % 256 ^ width := by
  induction width generalizing n with
  | zero => simp [bigEndian, toNat, Nat.mod_one]
  | succ width ih =>
    rw [bigEndian, toNat_append_singleton, ih, Nat.pow_succ, Nat.mul_comm (256 ^ width),
      Nat.mod_mul, UInt8.toNat_ofNat']
    omega

theorem toNat_cons (b : UInt8) (bytes : List UInt8) :
    toNat (b :: bytes) = b.toNat * 256 ^ bytes.length + toNat bytes := by
  induction bytes using List.reverseRecOn with
  | nil => simp [toNat]
  | append_singleton bytes c ih =>
    rw [← List.cons_append, toNat_append_singleton, ih, toNat_append_singleton,
      List.length_append, List.length_singleton, Nat.pow_succ]
    ring

theorem toNat_lt (bytes : List UInt8) : toNat bytes < 256 ^ bytes.length := by
  induction bytes with
  | nil => simp [toNat]
  | cons b bytes ih =>
    have hb : b.toNat + 1 ≤ 256 := b.toNat_lt
    calc toNat (b :: bytes)
      _ = b.toNat * 256 ^ bytes.length + toNat bytes := toNat_cons b bytes
      _ < (b.toNat + 1) * 256 ^ bytes.length := by rw [Nat.add_mul, Nat.one_mul]; omega
      _ ≤ 256 * 256 ^ bytes.length := Nat.mul_le_mul_right _ hb
      _ = 256 ^ (b :: bytes).length := by rw [List.length_cons, Nat.pow_succ, Nat.mul_comm]

theorem bigEndian_toNat (bytes : List UInt8) : bigEndian bytes.length (toNat bytes) = bytes := by
  induction bytes using List.reverseRecOn with
  | nil => rfl
  | append_singleton bytes b ih =>
    have hb := b.toNat_lt
    have front : (256 * toNat bytes + b.toNat) / 256 = toNat bytes := by omega
    have last : UInt8.ofNat (256 * toNat bytes + b.toNat) = b := by
      apply UInt8.toNat_inj.1
      rw [UInt8.toNat_ofNat']
      omega
    rw [toNat_append_singleton, List.length_append, List.length_singleton, bigEndian, front, ih, last]

@[simp] theorem toNat_zero_cons (bytes : List UInt8) : toNat (0 :: bytes) = toNat bytes := by
  simp [toNat_cons]

/-! ## No leading zeros -/

theorem length_minimal (n : Nat) : (minimal n).length = n.log2 / 8 + 1 := length_bigEndian _ _

theorem exists_minimal (n : Nat) : ∃ b bytes, minimal n = b :: bytes :=
  List.exists_cons_of_length_eq_add_one (length_minimal n)

theorem toNat_minimal (n : Nat) : toNat (minimal n) = n := by
  have fits : n < 256 ^ (n.log2 / 8 + 1) :=
    calc n < 2 ^ (n.log2 + 1) := Nat.lt_log2_self
      _ ≤ 2 ^ (8 * (n.log2 / 8 + 1)) := Nat.pow_le_pow_right (by decide) (by omega)
      _ = 256 ^ (n.log2 / 8 + 1) := by rw [Nat.pow_mul]
  rw [minimal, toNat_bigEndian, Nat.mod_eq_of_lt fits]

theorem pow_le_toNat_cons {b : UInt8} (hb : b ≠ 0) (bytes : List UInt8) :
    256 ^ bytes.length ≤ toNat (b :: bytes) := by
  have pos : 1 ≤ b.toNat := by
    by_contra zero
    exact hb (UInt8.toNat_inj.1 (by simpa using zero))
  rw [toNat_cons]
  exact (Nat.le_mul_of_pos_left _ pos).trans (Nat.le_add_right _ _)

/-- Bytes are those of their number if their count is. -/
theorem minimal_toNat_of_length {bytes : List UInt8}
    (h : (minimal (toNat bytes)).length = bytes.length) : minimal (toNat bytes) = bytes := by
  rw [minimal, ← length_minimal, h, bigEndian_toNat]

theorem minimal_toNat {b : UInt8} (hb : b ≠ 0) (bytes : List UInt8) :
    minimal (toNat (b :: bytes)) = b :: bytes := by
  have low : 2 ^ (8 * bytes.length) ≤ toNat (b :: bytes) := by
    rw [Nat.pow_mul]
    exact pow_le_toNat_cons hb bytes
  have high : toNat (b :: bytes) < 2 ^ (8 * (bytes.length + 1)) := by
    rw [Nat.pow_mul]
    exact toNat_lt (b :: bytes)
  have pos : toNat (b :: bytes) ≠ 0 := by
    have := Nat.two_pow_pos (8 * bytes.length)
    omega
  have bits := (Nat.le_log2 pos).2 low
  have bits' := (Nat.log2_lt pos).2 high
  apply minimal_toNat_of_length
  rw [length_minimal, List.length_cons]
  omega

/-- Only zero starts with a zero byte. -/
theorem head_minimal {n : Nat} {b : UInt8} {bytes : List UInt8} (h : minimal n = b :: bytes)
    (hn : n ≠ 0) : b ≠ 0 := by
  rintro rfl
  have spelled : toNat bytes = n := by rw [← toNat_minimal n, h, toNat_zero_cons]
  have width : n.log2 / 8 + 1 = bytes.length + 1 := by rw [← length_minimal, h, List.length_cons]
  have bits : n.log2 < 8 * bytes.length := by
    apply (Nat.log2_lt hn).2
    rw [Nat.pow_mul, ← spelled]
    exact toNat_lt bytes
  omega

end HeaterLink.Bytes
