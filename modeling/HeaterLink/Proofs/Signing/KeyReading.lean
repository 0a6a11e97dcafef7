import HeaterLink.Proofs.Signing.KeyText
import HeaterLink.Signing.Signature
import Mathlib

/-!
# What key text reads as

Separators are left out character by character, digits are read byte by byte. A character beyond
ASCII takes several bytes, none of which is a digit: it counts for the length and for the position
of what comes after it, and it is never part of a key.

## Main definitions

* `Hex.Spells`, two digits of either case for each byte.
* `KeyText.Refused`, why a text has no bytes, in the order in which the reasons count.
* `KeyText.Restyled`, separators put in and digits in their other case.

## Main statements

* `KeyText.decode_of_spells` and `KeyText.decode_of_refused`, what every text reads as.
* `KeyText.decode_edit`, one change of style.
* `KeyText.decode_exact`, all of it.
-/

namespace HeaterLink

namespace Hex

/-! ## Digits -/

/-- A digit of either case by its value. -/
def DigitOf (n : Nat) (c : Char) : Prop :=
  "0123456789abcdef".toList[n]? = some c ∨ "0123456789ABCDEF".toList[n]? = some c

instance (n : Nat) (c : Char) : Decidable (DigitOf n c) := inferInstanceAs (Decidable (_ ∨ _))

/-- A byte that is a digit of either case. -/
def IsDigit (b : UInt8) : Prop := Char.ofNat b.toNat ∈ "0123456789abcdefABCDEF".toList

instance (b : UInt8) : Decidable (IsDigit b) := inferInstanceAs (Decidable (_ ∈ _))

theorem DigitOf.cases {n : Nat} {c : Char} (h : DigitOf n c) :
    n < 16 ∧ (c = lowerDigit n ∨ c = upperDigit n) := by
  have digits : ∀ n < 16, "0123456789abcdef".toList[n]? = some (lowerDigit n) ∧
      "0123456789ABCDEF".toList[n]? = some (upperDigit n) := by
    decide +kernel
  have small : n < 16 := by
    rcases h with h | h <;> exact (List.getElem?_eq_some_iff.1 h).choose
  obtain ⟨lower, upper⟩ := digits n small
  rw [DigitOf, lower, upper] at h
  exact ⟨small, h.imp (fun h => (Option.some.inj h).symm) fun h => (Option.some.inj h).symm⟩

theorem code_lt_of_value? {code n : Nat} (h : value? code = some n) : code < 128 := by
  unfold value? at h
  split at h
  · omega
  · split at h
    · omega
    · split at h
      · omega
      · cases h

theorem value?_eq_some_iff {n : Nat} {c : Char} : value? c.toNat = some n ↔ DigitOf n c := by
  constructor
  · intro h
    have digits : ∀ code < 128, ∀ n < 16, value? code = some n → DigitOf n (Char.ofNat code) := by
      decide +kernel
    simpa using digits c.toNat (code_lt_of_value? h) n (value?_lt h) h
  · intro h
    obtain ⟨small, rfl | rfl⟩ := h.cases
    · exact value?_lowerDigit n small
    · exact value?_upperDigit n small

theorem isDigit_iff {b : UInt8} : IsDigit b ↔ ∃ n, value? b.toNat = some n := by
  have digits : ∀ code < 256,
      Char.ofNat code ∈ "0123456789abcdefABCDEF".toList ↔ (value? code).isSome = true := by
    decide +kernel
  rw [IsDigit, digits b.toNat b.toNat_lt, Option.isSome_iff_exists]

theorem digitAt_of_value {index n : Nat} {b : UInt8} (h : value? b.toNat = some n) :
    digitAt index b = .ok n := by
  rw [digitAt, h]

theorem digitAt_of_not_isDigit (index : Nat) {b : UInt8} (h : ¬ IsDigit b) :
    digitAt index b = .error (.badDigit b index) := by
  rw [isDigit_iff, ← Option.isSome_iff_exists, Option.not_isSome_iff_eq_none] at h
  rw [digitAt, h]

/-! ## The bytes of characters -/

/-- A text in bytes. -/
def codes (cs : List Char) : List UInt8 := cs.flatMap String.utf8EncodeChar

@[simp] theorem codes_nil : codes [] = [] := rfl

@[simp] theorem codes_cons (c : Char) (cs : List Char) :
    codes (c :: cs) = String.utf8EncodeChar c ++ codes cs := List.flatMap_cons

@[simp] theorem codes_append (cs ds : List Char) : codes (cs ++ ds) = codes cs ++ codes ds :=
  List.flatMap_append

theorem utf8_of_ascii {c : Char} (h : c.toNat < 128) :
    String.utf8EncodeChar c = [UInt8.ofNat c.toNat] := if_pos (Nat.le_of_lt_succ h)

theorem toNat_code {c : Char} (h : c.toNat < 128) : (UInt8.ofNat c.toNat).toNat = c.toNat := by
  rw [UInt8.toNat_ofNat']
  omega

theorem exists_byte_of_digitOf {n : Nat} {c : Char} (h : DigitOf n c) :
    ∃ b, String.utf8EncodeChar c = [b] ∧ value? b.toNat = some n := by
  have value := value?_eq_some_iff.2 h
  have ascii := code_lt_of_value? value
  exact ⟨_, utf8_of_ascii ascii, by rw [toNat_code ascii, value]⟩

/-- Two digits take two bytes. -/
theorem exists_codes_of_digits {h l : Nat} {high low : Char} (hh : DigitOf h high)
    (hl : DigitOf l low) (cs : List Char) : ∃ b b', codes (high :: low :: cs) = b :: b' :: codes cs ∧
      value? b.toNat = some h ∧ value? b'.toNat = some l := by
  obtain ⟨b, one, value⟩ := exists_byte_of_digitOf hh
  obtain ⟨b', other, value'⟩ := exists_byte_of_digitOf hl
  refine ⟨b, b', ?_, value, value'⟩
  rw [codes_cons, codes_cons, one, other, List.singleton_append, List.singleton_append]

/-- Beyond ASCII every byte has its first bit set. -/
theorem high_of_mem_utf8 {c : Char} (h : 128 ≤ c.toNat) :
    ∀ b ∈ String.utf8EncodeChar c, 128 ≤ b.toNat := by
  have code : c.toNat = c.val.toNat := rfl
  unfold String.utf8EncodeChar
  dsimp only
  split
  · omega
  · split
    · simp
      omega
    · split
      · simp
        omega
      · simp
        omega

theorem exists_digitOf_of_isDigit {c : Char} (h : ∀ b ∈ String.utf8EncodeChar c, IsDigit b) :
    ∃ n, DigitOf n c := by
  rcases lt_or_ge c.toNat 128 with ascii | beyond
  · rw [utf8_of_ascii ascii, List.forall_mem_singleton, isDigit_iff, toNat_code ascii] at h
    exact h.imp fun n value => value?_eq_some_iff.1 value
  · obtain ⟨b, hb⟩ := List.exists_mem_of_ne_nil _ (String.utf8EncodeChar_ne_nil (c := c))
    obtain ⟨n, value⟩ := isDigit_iff.1 (h b hb)
    exact absurd (code_lt_of_value? value) (Nat.not_lt.2 (high_of_mem_utf8 beyond b hb))

/-! ## Reading -/

/-- Two digits of either case for each byte. -/
inductive Spells : List Char → List UInt8 → Prop where
  | nil : Spells [] []
  | byte {high low : Char} {h l : Nat} {cs : List Char} {bytes : List UInt8}
      (hh : DigitOf h high) (hl : DigitOf l low) (rest : Spells cs bytes) :
      Spells (high :: low :: cs) (UInt8.ofNat (16 * h + l) :: bytes)

theorem Spells.pairsFrom_codes {cs : List Char} {bytes : List UInt8} (h : Spells cs bytes) :
    ∀ index, pairsFrom index (codes cs) = .ok bytes := by
  induction h with
  | nil => exact fun _ => rfl
  | byte hh hl rest ih =>
    intro index
    obtain ⟨b, b', split, value, value'⟩ := exists_codes_of_digits hh hl _
    rw [split, pairsFrom, digitAt_of_value value, digitAt_of_value value', ih]
    rfl

theorem Spells.even {cs : List Char} {bytes : List UInt8} (h : Spells cs bytes) :
    (codes cs).length % 2 = 0 := by
  induction h with
  | nil => rfl
  | byte hh hl rest ih =>
    obtain ⟨b, b', split, -⟩ := exists_codes_of_digits hh hl _
    rw [split, List.length_cons, List.length_cons]
    omega

theorem exists_spells : ∀ {cs : List Char}, (codes cs).length % 2 = 0 →
    (∀ b ∈ codes cs, IsDigit b) → ∃ bytes, Spells cs bytes
  | [], _, _ => ⟨[], .nil⟩
  | [c], even, digits => by
    rw [codes_cons, codes_nil, List.append_nil] at even digits
    obtain ⟨n, hn⟩ := exists_digitOf_of_isDigit digits
    obtain ⟨b, one, -⟩ := exists_byte_of_digitOf hn
    simp [one] at even
  | high :: low :: cs, even, digits => by
    simp only [codes_cons, List.forall_mem_append] at digits
    obtain ⟨h, hh⟩ := exists_digitOf_of_isDigit digits.1
    obtain ⟨l, hl⟩ := exists_digitOf_of_isDigit digits.2.1
    obtain ⟨b, b', split, -⟩ := exists_codes_of_digits hh hl cs
    rw [split, List.length_cons, List.length_cons] at even
    have shorter : (codes cs).length % 2 = 0 := by omega
    obtain ⟨bytes, rest⟩ := exists_spells shorter digits.2.2
    exact ⟨_, .byte hh hl rest⟩

/-- The first byte that is no digit is reported, with its place. -/
theorem pairsFrom_badDigit {b : UInt8} (bad : ¬ IsDigit b) (after : List UInt8) :
    ∀ {before : List UInt8} (index : Nat), (∀ x ∈ before, IsDigit x) →
      (before ++ b :: after).length % 2 = 0 →
      pairsFrom index (before ++ b :: after) = .error (.badDigit b (index + before.length))
  | [], index, _, even => by
    match after with
    | [] => simp at even
    | low :: rest =>
      rw [List.nil_append, pairsFrom, digitAt_of_not_isDigit index bad]
      rfl
  | [x], index, digits, _ => by
    obtain ⟨n, value⟩ := isDigit_iff.1 (digits x (by simp))
    rw [List.singleton_append, pairsFrom, digitAt_of_value value,
      digitAt_of_not_isDigit (index + 1) bad]
    rfl
  | x :: y :: before, index, digits, even => by
    simp only [List.forall_mem_cons] at digits
    obtain ⟨n, value⟩ := isDigit_iff.1 digits.1
    obtain ⟨m, value'⟩ := isDigit_iff.1 digits.2.1
    simp only [List.cons_append, List.length_cons] at even ⊢
    rw [pairsFrom, digitAt_of_value value, digitAt_of_value value',
      pairsFrom_badDigit bad after (index + 2) digits.2.2 (by omega),
      show index + (before.length + 1 + 1) = index + 2 + before.length by omega]
    rfl

/-- A digit counts by its value alone. -/
theorem pairsFrom_swap {b b' : UInt8} {n : Nat} (hb : value? b.toNat = some n)
    (hb' : value? b'.toNat = some n) (after : List UInt8) :
    ∀ (before : List UInt8) (index : Nat),
      pairsFrom index (before ++ b :: after) = pairsFrom index (before ++ b' :: after)
  | [], index => by
    match after with
    | [] => rfl
    | low :: rest =>
      rw [List.nil_append, List.nil_append, pairsFrom, pairsFrom, digitAt_of_value hb,
        digitAt_of_value hb']
  | [x], index => by
    rw [List.singleton_append, List.singleton_append, pairsFrom, pairsFrom, digitAt_of_value hb,
      digitAt_of_value hb']
  | x :: y :: before, index => by
    simp only [List.cons_append]
    rw [pairsFrom, pairsFrom, pairsFrom_swap hb hb' after before]

end Hex

namespace KeyText

open Hex

/-! ## Faults -/

/-- Why a text without separators has no bytes: the first reason that applies. -/
inductive Refused : List Char → KeyFault → Prop where
  | empty : Refused [] .empty
  | oddLength {cs : List Char} (odd : (codes cs).length % 2 = 1) : Refused cs (.notHex .oddLength)
  | badDigit {cs : List Char} {before after : List UInt8} {b : UInt8}
      (even : (codes cs).length % 2 = 0) (split : codes cs = before ++ b :: after)
      (digits : ∀ x ∈ before, IsDigit x) (bad : ¬ IsDigit b) :
      Refused cs (.notHex (.badDigit b before.length))

variable {s t : String} {bytes : List UInt8} {fault : KeyFault}

theorem decode_of_spells (ne : compact s ≠ []) (h : Spells (compact s) bytes) :
    decode s = .ok bytes := by
  rw [decode, if_neg ne, ← codes, Hex.decode, if_neg (by have := h.even; omega),
    h.pairsFrom_codes]

theorem decode_of_refused (h : Refused (compact s) fault) : decode s = .error fault := by
  rw [decode]
  generalize compact s = cs at h
  cases h with
  | empty => rfl
  | oddLength odd =>
    have ne : cs ≠ [] := by
      rintro rfl
      simp at odd
    rw [if_neg ne, ← codes, Hex.decode, if_pos odd]
  | badDigit even split digits bad =>
    have ne : cs ≠ [] := by
      rintro rfl
      simp at split
    rw [if_neg ne, ← codes, Hex.decode, if_neg (by omega), split,
      pairsFrom_badDigit bad _ 0 digits (split ▸ even), Nat.zero_add]

theorem spells_or_refused (cs : List Char) :
    (∃ bytes, Spells cs bytes) ∨ ∃ fault, Refused cs fault := by
  rcases Nat.mod_two_eq_zero_or_one (codes cs).length with even | odd
  · -- what stands in front of the first byte that is no digit
    have parts := List.takeWhile_append_dropWhile (p := fun b => decide (IsDigit b)) (l := codes cs)
    have digits : ∀ x ∈ (codes cs).takeWhile (fun b => decide (IsDigit b)), IsDigit x :=
      fun x hx => by simpa using List.mem_takeWhile_imp hx
    cases behind : (codes cs).dropWhile (fun b => decide (IsDigit b)) with
    | nil =>
      rw [behind, List.append_nil] at parts
      exact .inl (exists_spells even (parts ▸ digits))
    | cons b after =>
      have bad : ¬ IsDigit b := by
        have first := List.head_dropWhile_not (fun b => decide (IsDigit b))
          (by rw [behind]; exact List.cons_ne_nil b after)
        simpa [behind] using first
      rw [behind] at parts
      exact .inr ⟨_, .badDigit even parts.symm digits bad⟩
  · exact .inr ⟨_, .oddLength odd⟩

theorem decode_eq_ok_iff : decode s = .ok bytes ↔ compact s ≠ [] ∧ Spells (compact s) bytes := by
  refine ⟨fun h => ?_, fun h => decode_of_spells h.1 h.2⟩
  have ne : compact s ≠ [] := by
    intro empty
    have refused : Refused (compact s) .empty := empty ▸ .empty
    cases h.symm.trans (decode_of_refused refused)
  rcases spells_or_refused (compact s) with ⟨bytes', spelled⟩ | ⟨fault, refused⟩
  · obtain rfl := Except.ok.inj (h.symm.trans (decode_of_spells ne spelled))
    exact ⟨ne, spelled⟩
  · cases h.symm.trans (decode_of_refused refused)

theorem decode_eq_error_iff : decode s = .error fault ↔ Refused (compact s) fault := by
  refine ⟨fun h => ?_, decode_of_refused⟩
  by_cases ne : compact s = []
  · have refused : Refused (compact s) .empty := ne ▸ .empty
    obtain rfl := Except.error.inj (h.symm.trans (decode_of_refused refused))
    exact refused
  · rcases spells_or_refused (compact s) with ⟨bytes, spelled⟩ | ⟨fault', refused⟩
    · cases h.symm.trans (decode_of_spells ne spelled)
    · obtain rfl := Except.error.inj (h.symm.trans (decode_of_refused refused))
      exact refused

/-! ## Style -/

/-- A separator is put in, or a digit takes its other case. -/
inductive Edit : List Char → List Char → Prop where
  | separator (before after : List Char) {c : Char} (h : c = ':' ∨ Text.isBlank c = true) :
      Edit (before ++ after) (before ++ c :: after)
  | letterCase (before after : List Char) {n : Nat} {c d : Char} (hc : DigitOf n c)
      (hd : DigitOf n d) : Edit (before ++ c :: after) (before ++ d :: after)

/-- Any number of edits, one after the other. -/
def Restyled : String → String → Prop :=
  Relation.ReflTransGen fun s t => Edit s.toList t.toList

theorem not_isSeparator_of_digitOf {n : Nat} {c : Char} (h : DigitOf n c) :
    isSeparator c = false := by
  have digits : ∀ n < 16, isSeparator (lowerDigit n) = false ∧ isSeparator (upperDigit n) = false := by
    decide
  obtain ⟨small, rfl | rfl⟩ := h.cases
  · exact (digits n small).1
  · exact (digits n small).2

theorem decode_congr (h : Hex.decode (codes (compact s)) = Hex.decode (codes (compact t)))
    (empty : compact s = [] ↔ compact t = []) : decode s = decode t := by
  rw [decode, decode, ← codes, ← codes, h]
  simp only [empty]

theorem decode_edit (h : Edit s.toList t.toList) : decode s = decode t := by
  generalize hs : s.toList = cs at h
  generalize ht : t.toList = ds at h
  cases h with
  | separator before after h =>
    have left_out : ∀ c, (c = ':' ∨ Text.isBlank c = true) → isSeparator c = true :=
      fun c h => by simpa [isSeparator] using h
    have same : compact s = compact t := by
      simp [compact, hs, ht, left_out _ h]
    rw [decode, decode, same]
  | letterCase before after hc hd =>
    obtain ⟨b, one, value⟩ := exists_byte_of_digitOf hc
    obtain ⟨b', other, value'⟩ := exists_byte_of_digitOf hd
    have digit := not_isSeparator_of_digitOf hc
    have digit' := not_isSeparator_of_digitOf hd
    apply decode_congr
    · simp only [compact, hs, ht, List.filter_append, List.filter_cons, digit, digit', Bool.not_false,
        if_true, codes_append, codes_cons, one, other, Hex.decode, List.singleton_append,
        List.length_append, List.length_cons, pairsFrom_swap value value']
    · simp [compact, hs, ht, digit, digit']

theorem Restyled.decode_eq (h : Restyled s t) : decode s = decode t := by
  induction h with
  | refl => rfl
  | tail _ last ih => exact ih.trans (decode_edit last)

theorem Restyled.ofText_eq (h : Restyled s t) (environment : Environment) :
    SigningKey.ofText environment t = SigningKey.ofText environment s := by
  rw [SigningKey.ofText, SigningKey.ofText, h.decode_eq]

theorem Restyled.sign_eq (h : Restyled s t) (environment : Environment)
    (parts : List Signing.Part) :
    Signing.sign environment t parts = Signing.sign environment s parts := by
  rw [Signing.sign, Signing.sign, h.ofText_eq]

/--
A text is the key that its digits spell once the separators are left out, and else the signing fault
that comes first: nothing is left, the bytes are odd in number, a byte is no digit. Written bytes
read back, and neither separators nor the case of digits make a difference to a key or to what it
signs.
-/
theorem decode_exact (s : String) :
    (∀ bytes, decode s = .ok bytes ↔ compact s ≠ [] ∧ Spells (compact s) bytes) ∧
    (∀ e, (decode s).mapError Error.signing = .error e ↔
      ∃ fault, e = .signing fault ∧ Refused (compact s) fault) ∧
    (∀ bytes, bytes ≠ [] → decode (String.ofList (colons bytes)) = .ok bytes) ∧
    ∀ t environment, Restyled s t →
      SigningKey.ofText environment t = SigningKey.ofText environment s ∧
      ∀ parts, Signing.sign environment t parts = Signing.sign environment s parts := by
  refine ⟨fun bytes => decode_eq_ok_iff, fun e => ?_, fun bytes => decode_colons,
    fun t environment restyled =>
      ⟨restyled.ofText_eq environment, restyled.sign_eq environment⟩⟩
  simp only [← decode_eq_error_iff]
  cases decode s <;> simp [Except.mapError, eq_comm]

/-- The accented letter takes two bytes, so there are four, and the first bad one is its own. -/
theorem decode_exact_accented :
    (decode "3:é 4").mapError Error.signing = .error (.signing (.notHex (.badDigit 0xC3 1))) ∧
    Restyled "aB" "A: B" ∧
    ∀ environment, SigningKey.ofText environment "A: B" = SigningKey.ofText environment "aB" := by
  have refused : Refused (compact "3:é 4") (.notHex (.badDigit 0xC3 1)) :=
    @Refused.badDigit _ [0x33] [0xA9, 0x34] _ (by decide) (by decide) (by simp [IsDigit])
      (by simp [IsDigit])
  have upper : Edit "aB".toList "AB".toList :=
    @Edit.letterCase [] ['B'] 10 'a' 'A' (by decide) (by decide)
  have colon : Edit "AB".toList "A:B".toList := @Edit.separator ['A'] ['B'] ':' (.inl rfl)
  have blank : Edit "A:B".toList "A: B".toList := @Edit.separator ['A', ':'] ['B'] ' ' (.inr rfl)
  have restyled : Restyled "aB" "A: B" := .tail (.tail (.single upper) colon) blank
  exact ⟨((decode_exact "3:é 4").2.1 _).2 ⟨_, rfl, refused⟩, restyled,
    fun environment => ((decode_exact "aB").2.2.2 "A: B" environment restyled).1⟩

end KeyText

end HeaterLink
