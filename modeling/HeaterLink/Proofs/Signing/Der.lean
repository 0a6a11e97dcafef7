import HeaterLink.Proofs.BigEndian
import HeaterLink.Signing.Der

/-!
# Tagged values read back

A reader takes what a writer has written, and nothing else: the encoding of a length, of an
integer and of a value is the only one that is read as it.

## Main statements

* `Der.value?_value` and `Der.value?_exact`, for a tagged content of less than 256 ^ 4 bytes.
* `Der.integer?_integer` and `Der.integer?_exact`, for an integer.
* `Der.length_integer_mono`, smaller integers are not longer.
-/

namespace HeaterLink.Der

open Bytes

theorem low_iff (b : UInt8) : b < 0x80 ↔ b.toNat < 128 := UInt8.lt_iff_toNat_lt

/-! ## Lengths -/

theorem length?_length {n : Nat} (hn : n < 256 ^ 4) (rest : List UInt8) :
    length? (length n ++ rest) = some (n, rest) := by
  rw [length]
  split
  · next short =>
    have spelled : (UInt8.ofNat n).toNat = n := by rw [UInt8.toNat_ofNat']; omega
    have first : UInt8.ofNat n < 0x80 := by rw [low_iff, spelled]; exact short
    simp [length?, first, spelled]
  · next long =>
    have width : (minimal n).length ≤ 4 := by
      have bits := (Nat.log2_lt (by omega : n ≠ 0)).2 (show n < 2 ^ 32 by simpa using hn)
      rw [length_minimal]
      omega
    have first : (UInt8.ofNat (0x80 + (minimal n).length)).toNat = 0x80 + (minimal n).length := by
      rw [UInt8.toNat_ofNat']
      omega
    have marked : ¬ UInt8.ofNat (0x80 + (minimal n).length) < 0x80 := by rw [low_iff, first]; omega
    rw [List.cons_append, length?, if_neg marked, first, Nat.add_sub_cancel_left]
    dsimp only
    rw [List.take_left, List.drop_left, toNat_minimal]
    exact if_pos ⟨width, by simp, by omega, rfl⟩

theorem length?_exact {bytes rest : List UInt8} {n : Nat} (h : length? bytes = some (n, rest)) :
    bytes = length n ++ rest ∧ n < 256 ^ 4 := by
  cases bytes with
  | nil => cases h
  | cons b bytes =>
    rw [length?] at h
    split at h
    · next short =>
      obtain ⟨rfl, rfl⟩ := Prod.mk.inj (Option.some.inj h)
      rw [low_iff] at short
      rw [length, if_pos short, UInt8.ofNat_toNat]
      exact ⟨rfl, lt_trans short (by norm_num)⟩
    · next long =>
      rw [low_iff] at long
      dsimp only at h
      split at h
      · next accepted =>
        obtain ⟨narrow, enough, large, width⟩ := accepted
        obtain ⟨rfl, rfl⟩ := Prod.mk.inj (Option.some.inj h)
        have taken : (bytes.take (b.toNat - 0x80)).length = b.toNat - 0x80 := by
          rw [List.length_take]
          omega
        have first : UInt8.ofNat (0x80 + (b.toNat - 0x80)) = b := by
          rw [show 0x80 + (b.toNat - 0x80) = b.toNat by omega, UInt8.ofNat_toNat]
        have spelled := minimal_toNat_of_length (width.trans taken.symm)
        constructor
        · rw [length, if_neg (by omega), spelled, taken, first, List.cons_append,
            List.take_append_drop]
        · exact (toNat_lt _).trans_le (Nat.pow_le_pow_right (by decide) (taken.trans_le narrow))
      · cases h

/-! ## Values -/

theorem value?_value (tag : UInt8) {content : List UInt8} (hc : content.length < 256 ^ 4)
    (rest : List UInt8) : value? tag (value tag content ++ rest) = some (content, rest) := by
  rw [value, List.cons_append, List.append_assoc, value?, if_pos rfl, length?_length hc]
  simp

theorem value?_exact {tag : UInt8} {bytes content rest : List UInt8}
    (h : value? tag bytes = some (content, rest)) :
    bytes = value tag content ++ rest ∧ content.length < 256 ^ 4 := by
  cases bytes with
  | nil => cases h
  | cons t bytes =>
    rw [value?] at h
    split at h
    · next same =>
      obtain ⟨⟨n, behind⟩, read, enough⟩ := Option.bind_eq_some_iff.1 h
      obtain ⟨rfl, small⟩ := length?_exact read
      dsimp only at enough
      split at enough
      · obtain ⟨rfl, rfl⟩ := Prod.mk.inj (Option.some.inj enough)
        have taken : (behind.take n).length = n := by rw [List.length_take]; omega
        rw [value, taken, same]
        exact ⟨by simp, small⟩
      · cases enough
    · cases h

theorem only?_value (tag : UInt8) {content : List UInt8} (hc : content.length < 256 ^ 4) :
    only? tag (value tag content) = some content := by
  have read := value?_value tag hc []
  rw [List.append_nil] at read
  rw [only?, read]

theorem only?_exact {tag : UInt8} {bytes content : List UInt8}
    (h : only? tag bytes = some content) :
    bytes = value tag content ∧ content.length < 256 ^ 4 := by
  rw [only?] at h
  split at h
  · next read =>
    obtain rfl := Option.some.inj h
    simpa using value?_exact read
  · cases h

/-! ## Integers -/

theorem natural_of_minimal {n : Nat} {b : UInt8} {bytes : List UInt8}
    (h : minimal n = b :: bytes) :
    natural n = if b < 0x80 then b :: bytes else 0 :: b :: bytes := by
  rw [natural, h]

theorem natural?_natural (n : Nat) : natural? (natural n) = some n := by
  obtain ⟨b, bytes, h⟩ := exists_minimal n
  have spelled := toNat_minimal n
  rw [h] at spelled
  rw [natural_of_minimal h]
  split
  · next low =>
    cases bytes with
    | nil => simpa [natural?, low, Bytes.toNat] using spelled
    | cons c bytes =>
      have hn : n ≠ 0 := by
        rintro rfl
        simpa [length_minimal] using congrArg List.length h
      simp [natural?, low, head_minimal h hn, spelled]
  · next high => simp [natural?, UInt8.not_lt.1 high, spelled]

theorem natural?_exact {content : List UInt8} {n : Nat} (h : natural? content = some n) :
    content = natural n := by
  match content with
  | [] => cases h
  | [b] =>
    rw [natural?] at h
    split at h
    · next low =>
      obtain rfl := Option.some.inj h
      have spelled : Bytes.toNat [b] = b.toNat := by simp [Bytes.toNat]
      have written : minimal b.toNat = [b] := by
        rw [← spelled]
        apply minimal_toNat_of_length
        have bits : b.toNat.log2 < 8 := by
          rcases eq_or_ne b.toNat 0 with zero | pos
          · simp [zero]
          · exact (Nat.log2_lt pos).2 b.toNat_lt
        rw [length_minimal, spelled, List.length_singleton]
        omega
      rw [natural_of_minimal written, if_pos low]
    · cases h
  | a :: b :: bytes =>
    rw [natural?] at h
    split at h
    · next accepted =>
      obtain ⟨low, needed⟩ := accepted
      obtain rfl := Option.some.inj h
      rcases eq_or_ne a 0 with rfl | ha
      · have high : ¬ b < 0x80 := UInt8.not_lt.2 (by simpa using needed)
        have hb : b ≠ 0 := by rintro rfl; exact high (by decide)
        rw [toNat_zero_cons, natural_of_minimal (minimal_toNat hb bytes), if_neg high]
      · rw [natural_of_minimal (minimal_toNat ha (b :: bytes)), if_pos low]
    · cases h

theorem integer?_integer {n : Nat} (hn : (natural n).length < 256 ^ 4) (rest : List UInt8) :
    integer? (integer n ++ rest) = some (n, rest) := by
  simp [integer?, integer, value?_value _ hn, natural?_natural]

theorem onlyInteger?_integer {n : Nat} (hn : (natural n).length < 256 ^ 4) :
    onlyInteger? (integer n) = some n := by
  simp [onlyInteger?, integer, only?_value _ hn, natural?_natural]

theorem integer?_exact {bytes rest : List UInt8} {n : Nat} (h : integer? bytes = some (n, rest)) :
    bytes = integer n ++ rest := by
  obtain ⟨⟨content, behind⟩, read, h⟩ := Option.bind_eq_some_iff.1 h
  obtain ⟨m, spelled, h⟩ := Option.bind_eq_some_iff.1 h
  obtain ⟨rfl, rfl⟩ := Prod.mk.inj (Option.some.inj h)
  rw [(value?_exact read).1, natural?_exact spelled, integer]

/-! ## Sizes -/

theorem log2_mono {m n : Nat} (h : m ≤ n) : m.log2 ≤ n.log2 := by
  rw [Nat.log2_eq_log_two, Nat.log2_eq_log_two]
  exact Nat.log_mono_right h

theorem length_natural (n : Nat) : (natural n).length = (n.log2 + 1) / 8 + 1 := by
  obtain ⟨b, bytes, h⟩ := exists_minimal n
  have spelled := toNat_minimal n
  rw [h, toNat_cons] at spelled
  have width := length_minimal n
  rw [h, List.length_cons] at width
  have tail := toNat_lt bytes
  have half : 2 ^ (8 * bytes.length + 7) = 128 * 256 ^ bytes.length := by
    rw [Nat.pow_add, Nat.pow_mul, Nat.mul_comm]
  rw [natural_of_minimal h]
  split
  · next low =>
    rw [low_iff] at low
    have bits : n.log2 < 8 * bytes.length + 7 := by
      rcases eq_or_ne n 0 with zero | pos
      · simp [zero]
      · rw [Nat.log2_lt pos, half]
        nlinarith
    rw [List.length_cons]
    omega
  · next high =>
    rw [low_iff] at high
    have reached : 2 ^ (8 * bytes.length + 7) ≤ n := by
      rw [half]
      nlinarith
    have pos : n ≠ 0 := ((Nat.two_pow_pos _).trans_le reached).ne'
    have bits := (Nat.le_log2 pos).2 reached
    rw [List.length_cons, List.length_cons]
    omega

theorem length_length_mono {m n : Nat} (h : m ≤ n) : (length m).length ≤ (length n).length := by
  have bits := log2_mono h
  simp only [length]
  split <;> split <;> simp only [List.length_cons, List.length_nil, length_minimal] <;> omega

theorem length_integer_mono {m n : Nat} (h : m ≤ n) :
    (integer m).length ≤ (integer n).length := by
  have bits := log2_mono h
  have content : (natural m).length ≤ (natural n).length := by
    rw [length_natural, length_natural]
    omega
  have lengths := length_length_mono content
  simp only [integer, value, List.length_cons, List.length_append]
  omega

end HeaterLink.Der
