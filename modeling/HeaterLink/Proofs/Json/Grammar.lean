import HeaterLink.Json.Skim
import HeaterLink.Proofs.Json.Written

/-!
# The grammar of JSON

Which texts are JSON, apart from any reader. A string is right by its form alone,
with any four digits after `\u`; it spells characters only if the units of its
escapes are characters or pair up.

## Main definitions

* `Json.Spelling`, a text between two quotes and the characters that it spells.
* `Json.StringText` and `Json.NumberText`, the forms of strings and numbers.
* `Json.Derives`, the texts of values, elements and members.

## Main statements

* `Json.Reader.text_spelling`, a spelled text is read as its characters.
* `Json.Reader.skipText_stringText`, a text of the right form is passed over.
* `Json.Reader.numeral_numberText`, a number of the right form is taken as a whole.
-/

namespace HeaterLink.Json

/-! ## Strings -/

/-- The letters that stand for a character behind a backslash. -/
def letters : List (Char × Char) :=
  [('"', '"'), ('\\', '\\'), ('/', '/'), ('b', '\x08'), ('f', '\x0c'), ('n', '\n'), ('r', '\r'),
    ('t', '\t')]

/-- Four hex digits of either case, and the UTF-16 unit that they name. -/
inductive UnitText : List Char → Nat → Prop where
  | digits {a b c d : Char} {w x y z : Nat} (ha : Hex.value? a.toNat = some w)
      (hb : Hex.value? b.toNat = some x) (hc : Hex.value? c.toNat = some y)
      (hd : Hex.value? d.toNat = some z) :
      UnitText [a, b, c, d] (((w * 16 + x) * 16 + y) * 16 + z)

/-- The ways to write one character between quotes. -/
inductive Spells : List Char → Char → Prop where
  | plain {c : Char} (hq : c ≠ '"') (hb : c ≠ '\\') (hc : 0x20 ≤ c.toNat) : Spells [c] c
  | letter {l c : Char} (h : (l, c) ∈ letters) : Spells ['\\', l] c
  | unit {cs : List Char} {c : Char} (h : UnitText cs c.toNat) : Spells ('\\' :: 'u' :: cs) c
  | pair {cs ds : List Char} {high low : Nat} {c : Char} (hh : UnitText cs high)
      (hl : UnitText ds low) (hhigh : 0xD800 ≤ high ∧ high < 0xDC00)
      (hlow : 0xDC00 ≤ low ∧ low < 0xE000)
      (hc : c.toNat = 0x10000 + (high - 0xD800) * 0x400 + (low - 0xDC00)) :
      Spells ('\\' :: 'u' :: (cs ++ '\\' :: 'u' :: ds)) c

/-- A text between two quotes, and the characters that it spells. -/
inductive Spelling : List Char → List Char → Prop where
  | nil : Spelling [] []
  | cons {piece cs xs : List Char} {x : Char} (h : Spells piece x) (hs : Spelling cs xs) :
      Spelling (piece ++ cs) (x :: xs)

/-- A text between two quotes by its form alone. -/
inductive StringText : List Char → Prop where
  | nil : StringText []
  | plain {c : Char} {cs : List Char} (hq : c ≠ '"') (hb : c ≠ '\\') (hc : 0x20 ≤ c.toNat)
      (hs : StringText cs) : StringText (c :: cs)
  | letter {l c : Char} {cs : List Char} (h : (l, c) ∈ letters) (hs : StringText cs) :
      StringText ('\\' :: l :: cs)
  | unit {ds cs : List Char} {u : Nat} (h : UnitText ds u) (hs : StringText cs) :
      StringText ('\\' :: 'u' :: (ds ++ cs))

/-! ## Numbers -/

/-- One digit or more. -/
def Digits (cs : List Char) : Prop := cs ≠ [] ∧ ∀ c ∈ cs, '0' ≤ c ∧ c ≤ '9'

inductive WholeText : List Char → Prop where
  | zero : WholeText ['0']
  | digits {cs : List Char} (h : Digits cs) (hz : cs.head? ≠ some '0') : WholeText cs

inductive FractionText : List Char → Prop where
  | none : FractionText []
  | digits {cs : List Char} (h : Digits cs) : FractionText ('.' :: cs)

inductive ExponentText : List Char → Prop where
  | none : ExponentText []
  | digits {e : Char} {cs : List Char} (he : e = 'e' ∨ e = 'E') (h : Digits cs) :
      ExponentText (e :: cs)
  | signed {e sign : Char} {cs : List Char} (he : e = 'e' ∨ e = 'E')
      (hs : sign = '+' ∨ sign = '-') (h : Digits cs) : ExponentText (e :: sign :: cs)

/-- The grammar of numbers; a sign is a minus, and only a lone zero begins with zero. -/
inductive NumberText : List Char → Prop where
  | unsigned {whole fraction exponent : List Char} (hw : WholeText whole)
      (hf : FractionText fraction) (he : ExponentText exponent) :
      NumberText (whole ++ (fraction ++ exponent))
  | negative {whole fraction exponent : List Char} (hw : WholeText whole)
      (hf : FractionText fraction) (he : ExponentText exponent) :
      NumberText ('-' :: (whole ++ (fraction ++ exponent)))

/-! ## Values -/

inductive Symbol where
  | value
  | element
  | elements
  | member
  | members

/-- The texts of a symbol. An element is a value with blanks around it. -/
inductive Derives : Symbol → List Char → Prop where
  | null : Derives .value ['n', 'u', 'l', 'l']
  | true : Derives .value ['t', 'r', 'u', 'e']
  | false : Derives .value ['f', 'a', 'l', 's', 'e']
  | number {cs : List Char} (h : NumberText cs) : Derives .value cs
  | string {cs : List Char} (h : StringText cs) : Derives .value ('"' :: (cs ++ ['"']))
  | emptyArray (blanks : Blanks) : Derives .value ('[' :: (blanks.1 ++ [']']))
  | array {cs : List Char} (h : Derives .elements cs) : Derives .value ('[' :: (cs ++ [']']))
  | emptyObject (blanks : Blanks) : Derives .value ('{' :: (blanks.1 ++ ['}']))
  | object {cs : List Char} (h : Derives .members cs) : Derives .value ('{' :: (cs ++ ['}']))
  | element (before after : Blanks) {cs : List Char} (h : Derives .value cs) :
      Derives .element (before.1 ++ (cs ++ after.1))
  | lastElement {cs : List Char} (h : Derives .element cs) : Derives .elements cs
  | elements {cs ds : List Char} (h : Derives .element cs) (hs : Derives .elements ds) :
      Derives .elements (cs ++ ',' :: ds)
  | member (before after : Blanks) {name cs : List Char} (hn : StringText name)
      (h : Derives .element cs) :
      Derives .member (before.1 ++ '"' :: (name ++ '"' :: (after.1 ++ ':' :: cs)))
  | lastMember {cs : List Char} (h : Derives .member cs) : Derives .members cs
  | members {cs ds : List Char} (h : Derives .member cs) (hs : Derives .members ds) :
      Derives .members (cs ++ ',' :: ds)

/-! ## Writing strings -/

theorem spells_escaped (c : Char) : Spells (escaped c) c := by
  unfold escaped
  -- the seven letters first, then the other controls, then what stands for itself
  iterate 7
    split
    · subst_vars
      exact .letter (by decide)
  split
  · next hc =>
    have hunit : ((0 * 16 + 0) * 16 + c.toNat / 16) * 16 + c.toNat % 16 = c.toNat := by omega
    have htext := UnitText.digits (a := '0') (b := '0') (w := 0) (x := 0) (by decide) (by decide)
      (Hex.value?_lowerDigit (c.toNat / 16) (by omega))
      (Hex.value?_lowerDigit (c.toNat % 16) (by omega))
    rw [hunit] at htext
    exact .unit htext
  · exact .plain ‹_› ‹_› (Nat.not_lt.mp ‹_›)

/-- What stands between the quotes of a written string spells it. -/
theorem spelling_escaped (cs : List Char) : Spelling (cs.flatMap escaped) cs := by
  induction cs with
  | nil => exact .nil
  | cons c cs ih => exact .cons (spells_escaped c) ih

namespace Reader

variable {fuel : Nat} {cs xs rest : List Char}

/-! ## Reading strings -/

theorem shortEscape?_of_mem {l c : Char} (h : (l, c) ∈ letters) : shortEscape? l = some c := by
  revert h
  simp only [letters, List.mem_cons, Prod.mk.injEq, List.not_mem_nil, or_false]
  rintro (⟨rfl, rfl⟩ | ⟨rfl, rfl⟩ | ⟨rfl, rfl⟩ | ⟨rfl, rfl⟩ | ⟨rfl, rfl⟩ | ⟨rfl, rfl⟩ |
    ⟨rfl, rfl⟩ | ⟨rfl, rfl⟩) <;> decide

theorem ne_of_mem_letters {l c : Char} (h : (l, c) ∈ letters) : l ≠ 'u' := by
  rintro rfl
  simp [letters] at h

theorem utf8Size_of_value? {c : Char} {n : Nat} (h : Hex.value? c.toNat = some n) :
    c.utf8Size = 1 := by
  have hle : c.toNat ≤ 102 := by
    unfold Hex.value? at h
    grind
  rw [Char.utf8Size_eq_one_iff, UInt32.le_iff_toNat_le]
  exact Nat.le_trans hle (by decide)

theorem unit_unitText {u : Nat} (h : UnitText cs u) (rest : List Char) :
    unit (cs ++ rest) = .ok (u, rest) := by
  cases h with
  | @digits a b c d w x y z ha hb hc hd =>
    have hsize : ¬utf8Size [a, b, c, d] < 4 := by
      simp [utf8Size, utf8Size_of_value? ha, utf8Size_of_value? hb, utf8Size_of_value? hc,
        utf8Size_of_value? hd]
    have hdigits : [a, b, c, d].mapM (fun c => Hex.value? c.toNat) = some [w, x, y, z] := by
      simp [ha, hb, hc, hd]
    have htake : ([a, b, c, d] ++ rest).take 4 = [a, b, c, d] := rfl
    rw [unit, htake, if_neg hsize, hdigits]
    rfl

/-- The unit of a character is no half of a pair. -/
theorem isSurrogate_toNat (c : Char) :
    isLowSurrogate c.toNat = false ∧ isHighSurrogate c.toNat = false := by
  have hvalid : c.toNat < 0xD800 ∨ 0xDFFF < c.toNat ∧ c.toNat < 0x110000 := c.valid
  simp only [isLowSurrogate, isHighSurrogate, Bool.and_eq_false_iff, decide_eq_false_iff_not]
  omega

theorem escape_unit {c : Char} (h : UnitText cs c.toNat) (rest : List Char) :
    escape ('u' :: (cs ++ rest)) = .ok (c, rest) := by
  obtain ⟨hlow, hhigh⟩ := isSurrogate_toNat c
  simp only [escape, unit_unitText h, ok_bind, hlow, hhigh, Bool.false_eq_true, if_false,
    Char.ofNat_toNat]

theorem escape_pair {ds : List Char} {high low : Nat} {c : Char} (hh : UnitText cs high)
    (hl : UnitText ds low) (hhigh : 0xD800 ≤ high ∧ high < 0xDC00)
    (hlow : 0xDC00 ≤ low ∧ low < 0xE000)
    (hc : c.toNat = 0x10000 + (high - 0xD800) * 0x400 + (low - 0xDC00)) (rest : List Char) :
    escape ('u' :: (cs ++ '\\' :: 'u' :: (ds ++ rest))) = .ok (c, rest) := by
  have hfirst : isLowSurrogate high = false ∧ isHighSurrogate high = true := by
    simp only [isLowSurrogate, isHighSurrogate, Bool.and_eq_true, Bool.and_eq_false_iff,
      decide_eq_true_eq, decide_eq_false_iff_not]
    omega
  have hsecond : isLowSurrogate low = true := by
    simp only [isLowSurrogate, Bool.and_eq_true, decide_eq_true_eq]
    omega
  have hjoin : joinSurrogates high low = c := by
    rw [joinSurrogates, ← hc, Char.ofNat_toNat]
  simp only [escape, unit_unitText hh, ok_bind, hfirst, lowHalf, unit_unitText hl, hsecond, hjoin,
    Bool.false_eq_true, if_false, if_true]

theorem textWithin_spells {piece : List Char} {x : Char} (h : Spells piece x)
    (hr : textWithin fuel cs = .ok (xs, rest)) :
    textWithin (fuel + 1) (piece ++ cs) = .ok (x :: xs, rest) := by
  cases h with
  | plain hq hb hc => exact textWithin_plain hq hb (Nat.not_lt.mpr hc) hr
  | letter hl =>
    exact textWithin_escape (escape_short (shortEscape?_of_mem hl) (ne_of_mem_letters hl) cs) hr
  | unit hu => exact textWithin_escape (escape_unit hu cs) hr
  | pair hh hl hhigh hlow hc =>
    have he := escape_pair hh hl hhigh hlow hc cs
    rw [List.cons_append, List.cons_append, List.append_assoc]
    exact textWithin_escape he hr

theorem length_pos_of_spells {piece : List Char} {x : Char} (h : Spells piece x) :
    0 < piece.length := by
  cases h <;> simp

theorem textWithin_spelling (h : Spelling cs xs) (hf : cs.length < fuel) (rest : List Char) :
    textWithin fuel (cs ++ '"' :: rest) = .ok (xs, rest) := by
  induction h generalizing fuel with
  | nil =>
    obtain ⟨fuel, rfl⟩ : ∃ n, fuel = n + 1 := ⟨fuel - 1, by omega⟩
    rfl
  | cons h hs ih =>
    rw [List.length_append] at hf
    have hpos := length_pos_of_spells h
    obtain ⟨fuel, rfl⟩ : ∃ n, fuel = n + 1 := ⟨fuel - 1, by omega⟩
    rw [List.append_assoc]
    exact textWithin_spells h (ih (by omega))

theorem text_spelling (h : Spelling cs xs) (rest : List Char) :
    text (cs ++ '"' :: rest) = .ok (String.ofList xs, rest) := by
  have hfuel : cs.length < (cs ++ '"' :: rest).length + 1 := by
    rw [List.length_append]
    omega
  rw [text, textWithin_spelling h hfuel, ok_bind]
  rfl

theorem skipEscape_letter {l c : Char} (h : (l, c) ∈ letters) (rest : List Char) :
    skipEscape (l :: rest) = .ok rest := by
  have hu := ne_of_mem_letters h
  have hs := shortEscape?_of_mem h
  unfold skipEscape
  grind

theorem skipEscape_unit {u : Nat} (h : UnitText cs u) (rest : List Char) :
    skipEscape ('u' :: (cs ++ rest)) = .ok rest := by
  rw [skipEscape, unit_unitText h, ok_bind]
  rfl

theorem skipTextWithin_escape {more : List Char} (he : skipEscape cs = .ok more) :
    skipTextWithin (fuel + 1) ('\\' :: cs) = skipTextWithin fuel more := by
  rw [skipTextWithin, if_neg (by decide), if_pos rfl, he, ok_bind]

theorem skipTextWithin_stringText (h : StringText cs) (hf : cs.length < fuel)
    (rest : List Char) : skipTextWithin fuel (cs ++ '"' :: rest) = .ok rest := by
  induction h generalizing fuel with
  | nil =>
    obtain ⟨fuel, rfl⟩ : ∃ n, fuel = n + 1 := ⟨fuel - 1, by omega⟩
    rfl
  | plain hq hb hc hs ih =>
    rw [List.length_cons] at hf
    obtain ⟨fuel, rfl⟩ : ∃ n, fuel = n + 1 := ⟨fuel - 1, by omega⟩
    rw [List.cons_append, skipTextWithin, if_neg hq, if_neg hb, if_neg (Nat.not_lt.mpr hc)]
    exact ih (by omega)
  | letter hl hs ih =>
    simp only [List.length_cons] at hf
    obtain ⟨fuel, rfl⟩ : ∃ n, fuel = n + 1 := ⟨fuel - 1, by omega⟩
    rw [List.cons_append, List.cons_append, skipTextWithin_escape (skipEscape_letter hl _)]
    exact ih (by omega)
  | unit hu hs ih =>
    simp only [List.length_cons, List.length_append] at hf
    obtain ⟨fuel, rfl⟩ : ∃ n, fuel = n + 1 := ⟨fuel - 1, by omega⟩
    rw [List.cons_append, List.cons_append, List.append_assoc,
      skipTextWithin_escape (skipEscape_unit hu _)]
    exact ih (by omega)

theorem skipText_stringText (h : StringText cs) (rest : List Char) :
    skipText (cs ++ '"' :: rest) = .ok rest := by
  refine skipTextWithin_stringText h ?_ rest
  rw [List.length_append]
  omega

/-! ## Reading numbers -/

theorem isDigit_eq_true_iff {c : Char} : isDigit c = true ↔ '0' ≤ c ∧ c ≤ '9' := by
  simp only [isDigit, Bool.and_eq_true, decide_eq_true_eq, Char.le_def, UInt32.le_iff_toNat_le]
  rfl

theorem isDigit_of_digits (h : Digits cs) : ∀ c ∈ cs, isDigit c = true :=
  fun c hc => isDigit_eq_true_iff.mpr (h.2 c hc)

/-- Digits are taken up to the first character that is none. -/
theorem someDigits_digits (h : Digits cs) (hr : ∀ c ∈ rest.head?, isDigit c = false) :
    someDigits (cs ++ rest) = .ok (cs.map digitValue, rest) := by
  have hstop : rest.takeWhile isDigit = [] ∧ rest.dropWhile isDigit = rest := by
    cases rest with
    | nil => exact ⟨rfl, rfl⟩
    | cons c cs => simp [hr c rfl]
  refine someDigits_eq_ok_iff.mpr ⟨?_, by simpa using h.1⟩
  have hdigits := isDigit_of_digits h
  rw [digits, List.takeWhile_append_of_pos hdigits, List.dropWhile_append_of_pos hdigits, hstop.1,
    hstop.2, List.append_nil]

theorem someDigits_of_digits (h : Digits cs) : someDigits cs = .ok (cs.map digitValue, []) := by
  have hd := @someDigits_digits cs [] h (by simp)
  rwa [List.append_nil] at hd

theorem ne_of_isDigit {c x : Char} (h : isDigit c = true) (hx : isDigit x = false) : c ≠ x := by
  rintro rfl
  cases h.symm.trans hx

theorem exists_of_digits (h : Digits cs) : ∃ c more, cs = c :: more ∧ isDigit c = true := by
  obtain ⟨c, more, rfl⟩ := List.exists_cons_of_ne_nil h.1
  exact ⟨c, more, rfl, isDigit_of_digits h c List.mem_cons_self⟩

theorem exponentPart_exponentText (h : ExponentText cs) :
    ∃ found, exponentPart cs = .ok (found, []) := by
  cases h with
  | none => exact ⟨_, rfl⟩
  | @digits e ds he h =>
    have hsign : exponentSign ds = (false, ds) := by
      obtain ⟨c, more, rfl, hc⟩ := exists_of_digits h
      have hminus : c ≠ '-' := ne_of_isDigit hc (by decide)
      have hplus : c ≠ '+' := ne_of_isDigit hc (by decide)
      unfold exponentSign
      grind
    rw [exponentPart_cons, if_pos he, hsign, someDigits_of_digits h]
    exact ⟨_, rfl⟩
  | @signed e sign ds he hs h =>
    have hsign : (exponentSign (sign :: ds)).2 = ds := by
      rcases hs with rfl | rfl <;> rfl
    rw [exponentPart_cons, if_pos he, hsign, someDigits_of_digits h]
    exact ⟨_, rfl⟩

/-- An exponent begins with no digit and no point. -/
theorem head?_exponentText (h : ExponentText cs) :
    ∀ c ∈ cs.head?, isDigit c = false ∧ c ≠ '.' := by
  cases h with
  | none => simp
  | digits he | signed he => rcases he with rfl | rfl <;> simp [isDigit]

theorem fractionPart_fractionText {exponent : List Char} (h : FractionText cs)
    (he : ExponentText exponent) :
    ∃ found, fractionPart (cs ++ exponent) = .ok (found, exponent) := by
  have hhead := head?_exponentText he
  cases h with
  | none =>
    refine ⟨none, ?_⟩
    rw [List.nil_append]
    unfold fractionPart
    grind
  | digits h =>
    rw [List.cons_append, fractionPart, someDigits_digits h fun c hc => (hhead c hc).1]
    exact ⟨_, rfl⟩

theorem wholePart_wholeText (h : WholeText cs) (hr : ∀ c ∈ rest.head?, isDigit c = false) :
    ∃ found, wholePart (cs ++ rest) = .ok (found, rest) := by
  cases h with
  | zero =>
    have hz : Digits ['0'] := ⟨by simp, by simp⟩
    rw [wholePart, someDigits_digits hz hr]
    exact ⟨_, rfl⟩
  | digits h hz =>
    refine ⟨cs.map digitValue, ?_⟩
    have hhead : (cs.map digitValue).head? ≠ some 0 := by
      obtain ⟨c, more, rfl, hc⟩ := exists_of_digits h
      intro hzero
      have hle : c.toNat - 48 = 0 := Option.some.inj hzero
      have hcode : c.toNat = 48 := by
        simp only [isDigit, Bool.and_eq_true, decide_eq_true_eq] at hc
        omega
      have hc : c = '0' := (Char.ofNat_toNat c).symm.trans (congrArg Char.ofNat hcode)
      exact hz (congrArg some hc)
    rw [wholePart, someDigits_digits h hr]
    exact if_neg fun hboth => hhead hboth.1

theorem unsignedNumeral_parts {whole fraction exponent : List Char} (negative : Bool)
    (hw : WholeText whole) (hf : FractionText fraction) (he : ExponentText exponent) :
    ∃ n, unsignedNumeral negative (whole ++ (fraction ++ exponent)) = .ok (n, []) := by
  have hstop : ∀ c ∈ (fraction ++ exponent).head?, isDigit c = false := by
    cases hf with
    | none => exact fun c hc => (head?_exponentText he c hc).1
    | digits h => simp [isDigit]
  obtain ⟨ds, hds⟩ := wholePart_wholeText hw hstop
  obtain ⟨fs, hfs⟩ := fractionPart_fractionText hf he
  obtain ⟨es, hes⟩ := exponentPart_exponentText he
  simp only [unsignedNumeral, hds, hfs, hes, ok_bind]
  exact ⟨_, rfl⟩

/-- A number without a sign begins with a digit. -/
theorem exists_of_wholeText (h : WholeText cs) : ∃ c more, cs = c :: more ∧ isDigit c = true := by
  cases h with
  | zero => exact ⟨'0', [], rfl, by decide⟩
  | digits h => exact exists_of_digits h

theorem numeral_numberText (h : NumberText cs) : ∃ n, numeral cs = .ok (n, []) := by
  cases h with
  | unsigned hw hf he =>
    obtain ⟨n, hn⟩ := unsignedNumeral_parts false hw hf he
    obtain ⟨c, more, rfl, hc⟩ := exists_of_wholeText hw
    have hminus : c ≠ '-' := ne_of_isDigit hc (by decide)
    refine ⟨n, ?_⟩
    unfold numeral
    grind
  | negative hw hf he => exact unsignedNumeral_parts true hw hf he

theorem exists_of_numberText (h : NumberText cs) :
    ∃ c more, cs = c :: more ∧ startsNumber c = true := by
  cases h with
  | unsigned hw =>
    obtain ⟨c, more, rfl, hc⟩ := exists_of_wholeText hw
    exact ⟨c, _, rfl, by simp [startsNumber, hc]⟩
  | negative => exact ⟨'-', _, rfl, by decide⟩

end Reader

end HeaterLink.Json
