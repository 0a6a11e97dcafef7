import HeaterLink.Json.Text
import HeaterLink.Proofs.Json.Numerals

/-!
# Reading a written string

Whatever characters a string holds, the reader finds them again: each one stands
for itself or for an escape that only it has.

## Main statements

* `Json.Reader.text_quoted`, the text between the quotes of a written string.
-/

namespace HeaterLink.Json.Reader

/-! ## Escapes -/

theorem utf8Size_lowerDigit : ∀ n < 16, (Hex.lowerDigit n).utf8Size = 1 := by decide

/-- Two zeros and two digits are the unit of a small code. -/
theorem unit_small {n : Nat} (h : n < 256) (rest : List Char) :
    unit ('0' :: '0' :: Hex.lowerDigit (n / 16) :: Hex.lowerDigit (n % 16) :: rest) =
      .ok (n, rest) := by
  have hhigh : n / 16 < 16 := by omega
  have hlow : n % 16 < 16 := by omega
  have hzero : Hex.value? '0'.toNat = some 0 := by decide
  have hsize : ¬utf8Size ['0', '0', Hex.lowerDigit (n / 16), Hex.lowerDigit (n % 16)] < 4 := by
    have hz : '0'.utf8Size = 1 := by decide
    simp [utf8Size, hz, utf8Size_lowerDigit _ hhigh, utf8Size_lowerDigit _ hlow]
  have hsum : ((0 * 16 + 0) * 16 + n / 16) * 16 + n % 16 = n := by omega
  rw [unit]
  simp only [List.take_succ_cons, List.take_zero, List.drop_succ_cons, List.drop_zero]
  rw [if_neg hsize]
  simp only [List.mapM_cons, List.mapM_nil, hzero, Hex.value?_lowerDigit _ hhigh,
    Hex.value?_lowerDigit _ hlow, Option.pure_def, Option.bind_eq_bind, Option.bind_some, hsum]

theorem escape_small {c : Char} (h : c.toNat < 0x20) (rest : List Char) :
    escape ('u' :: '0' :: '0' :: Hex.lowerDigit (c.toNat / 16) ::
      Hex.lowerDigit (c.toNat % 16) :: rest) = .ok (c, rest) := by
  have hhigh : isHighSurrogate c.toNat = false := by simp [isHighSurrogate]; omega
  have hlow : isLowSurrogate c.toNat = false := by simp [isLowSurrogate]; omega
  simp only [escape, unit_small (by omega : c.toNat < 256), ok_bind, hhigh, hlow,
    Bool.false_eq_true, if_false, Char.ofNat_toNat]

theorem escape_short {c x : Char} (h : shortEscape? c = some x) (hu : c ≠ 'u')
    (rest : List Char) : escape (c :: rest) = .ok (x, rest) := by
  unfold escape
  split
  · simp_all
  · simp_all
  · simp_all

/-! ## Characters -/

theorem textWithin_escape {fuel : Nat} {cs more xs rest : List Char} {x : Char}
    (he : escape cs = .ok (x, more)) (h : textWithin fuel more = .ok (xs, rest)) :
    textWithin (fuel + 1) ('\\' :: cs) = .ok (x :: xs, rest) := by
  have hq : '\\' ≠ '"' := by decide
  simp only [textWithin, hq, if_false, if_true, he, ok_bind, h]
  rfl

theorem textWithin_plain {fuel : Nat} {c : Char} {cs xs rest : List Char} (hq : c ≠ '"')
    (hb : c ≠ '\\') (hc : ¬c.toNat < 0x20) (h : textWithin fuel cs = .ok (xs, rest)) :
    textWithin (fuel + 1) (c :: cs) = .ok (c :: xs, rest) := by
  simp only [textWithin, hq, hb, hc, if_false, h, ok_bind]
  rfl

/-- However a character is written, the reader takes it for one character. -/
theorem textWithin_escaped {fuel : Nat} {cs xs rest : List Char} (c : Char)
    (h : textWithin fuel cs = .ok (xs, rest)) :
    textWithin (fuel + 1) (escaped c ++ cs) = .ok (c :: xs, rest) := by
  unfold escaped
  -- the seven letters first, then the other controls, then what stands for itself
  iterate 7
    split
    · subst_vars
      exact textWithin_escape (escape_short (by decide) (by decide) cs) h
  split
  · exact textWithin_escape (escape_small ‹_› cs) h
  · exact textWithin_plain ‹_› ‹_› ‹_› h

/-! ## Strings -/

theorem textWithin_flatMap {fuel : Nat} (cs rest : List Char) (h : cs.length < fuel) :
    textWithin fuel (cs.flatMap escaped ++ '"' :: rest) = .ok (cs, rest) := by
  induction cs generalizing fuel with
  | nil =>
    obtain ⟨fuel, rfl⟩ : ∃ n, fuel = n + 1 := ⟨fuel - 1, by simp at h; omega⟩
    rfl
  | cons c cs ih =>
    obtain ⟨fuel, rfl⟩ : ∃ n, fuel = n + 1 := ⟨fuel - 1, by omega⟩
    rw [List.flatMap_cons, List.append_assoc]
    exact textWithin_escaped c (ih (by simpa using h))

theorem escaped_ne_nil (c : Char) : escaped c ≠ [] := by
  unfold escaped
  repeat' split
  all_goals simp

theorem length_le_flatMap_escaped (cs : List Char) : cs.length ≤ (cs.flatMap escaped).length := by
  induction cs with
  | nil => simp
  | cons c cs ih =>
    have := List.length_pos_iff.2 (escaped_ne_nil c)
    simp only [List.flatMap_cons, List.length_append, List.length_cons]
    omega

/-- A written string reads as itself, whatever follows it. -/
theorem text_quoted (s : String) (rest : List Char) :
    text (s.toList.flatMap escaped ++ '"' :: rest) = .ok (s, rest) := by
  have hfuel : s.toList.length <
      (s.toList.flatMap escaped ++ '"' :: rest).length + 1 := by
    have := length_le_flatMap_escaped s.toList
    simp only [List.length_append]
    omega
  simp only [text, textWithin_flatMap _ _ hfuel, ok_bind]
  simp [pure, Except.pure]

end HeaterLink.Json.Reader
