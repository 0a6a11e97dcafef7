import HeaterLink.Form
import HeaterLink.Proofs.Text

/-!
# Reading a form back

No byte is written with one of the marks `&` and `=`, so the marks of a text are those between
its pairs and inside them. What stands between the marks is read back byte by byte.

## Main definitions

* `Form.IsInert`, a character that a name or a value is written with.

## Main statements

* `Form.uncomponent?_component`, a name or value read back.
* `Form.splitAtChar_encode` and `Form.unpair?_pair`, the pieces of a text and what each stands for.
* `Form.encode_invertible`, every list of pairs read back from its text.
-/

namespace HeaterLink.Form

/-! ## Bytes -/

/-- A character that stands for itself or belongs to an escape. -/
def IsInert (c : Char) : Prop := c.isAlphanum ∨ c ∈ ['-', '_', '.', '~', '%']

instance (c : Char) : Decidable (IsInert c) := inferInstanceAs (Decidable (_ ∨ _))

theorem isInert_upperDigit : ∀ n < 16, IsInert (Hex.upperDigit n) := by decide

/-- A byte that stands for itself is ASCII, and not the percent sign. -/
theorem of_isUnreserved {b : UInt8} (h : isUnreserved b = true) :
    IsInert (Char.ofNat b.toNat) ∧ Char.ofNat b.toNat ≠ '%' ∧ (Char.ofNat b.toNat).toNat = b.toNat ∧
      b.toNat < 128 := by
  have codes : ∀ n < 128, isUnreserved (UInt8.ofNat n) = true →
      IsInert (Char.ofNat n) ∧ Char.ofNat n ≠ '%' ∧ (Char.ofNat n).toNat = n := by decide
  have small : b.toNat < 128 := by
    simp only [isUnreserved, Bool.or_eq_true, Bool.and_eq_true, decide_eq_true_eq, beq_iff_eq] at h
    omega
  obtain ⟨inert, plain, code⟩ := codes b.toNat small (by rwa [UInt8.ofNat_toNat])
  exact ⟨inert, plain, code, small⟩

theorem isInert_of_mem_escape {b : UInt8} {c : Char} (h : c ∈ escape b) : IsInert c := by
  have hb := b.toNat_lt
  unfold escape at h
  split at h
  · next unreserved =>
    rw [List.mem_singleton.1 h]
    exact (of_isUnreserved unreserved).1
  · simp only [Hex.pair, List.mem_cons, List.not_mem_nil, or_false] at h
    rcases h with rfl | rfl | rfl
    · decide
    · exact isInert_upperDigit _ (by omega)
    · exact isInert_upperDigit _ (by omega)

theorem unescape?_plain {c : Char} (plain : c ≠ '%') (small : c.toNat < 128) (rest : List Char) :
    unescape? (c :: rest) = (unescape? rest).map (UInt8.ofNat c.toNat :: ·) := by
  rw [unescape?, if_neg (by simp [plain, small])]
  rintro a b more rfl
  exact absurd rfl plain

theorem unescape?_pair (b : UInt8) (rest : List Char) :
    unescape? ('%' :: Hex.pair Hex.upperDigit b ++ rest) = (unescape? rest).map (b :: ·) := by
  have hb := b.toNat_lt
  have halves : UInt8.ofNat (16 * (b.toNat / 16) + b.toNat % 16) = b := by
    rw [Nat.div_add_mod, UInt8.ofNat_toNat]
  simp only [Hex.pair, List.cons_append, List.nil_append, unescape?,
    Hex.value?_upperDigit _ (by omega : b.toNat / 16 < 16),
    Hex.value?_upperDigit _ (by omega : b.toNat % 16 < 16)]
  cases unescape? rest with
  | none => rfl
  | some bytes => exact congrArg (fun b => some (b :: bytes)) halves

theorem unescape?_escape (b : UInt8) (rest : List Char) :
    unescape? (escape b ++ rest) = (unescape? rest).map (b :: ·) := by
  unfold escape
  split
  · next unreserved =>
    obtain ⟨-, plain, code, small⟩ := of_isUnreserved unreserved
    rw [List.singleton_append, unescape?_plain plain (by omega), code, UInt8.ofNat_toNat]
  · exact unescape?_pair b rest

/-! ## Names and values -/

theorem isInert_of_mem_component {s : String} {c : Char} (h : c ∈ component s) : IsInert c := by
  obtain ⟨b, -, hc⟩ := List.mem_flatMap.1 h
  exact isInert_of_mem_escape hc

theorem unescape?_flatMap_escape (bytes : List UInt8) :
    unescape? (bytes.flatMap escape) = some bytes := by
  induction bytes with
  | nil => rfl
  | cons b bytes ih => rw [List.flatMap_cons, unescape?_escape, ih, Option.map_some]

theorem utf8Decode?_utf8 (s : String) :
    (ByteArray.mk (utf8 s).toArray).utf8Decode? = some s.toList.toArray := by
  have encoded : ByteArray.mk (utf8 s).toArray = s.toList.utf8Encode :=
    ByteArray.ext List.data_toByteArray.symm
  rw [encoded, List.utf8Decode?_utf8Encode]

theorem uncomponent?_component (s : String) : uncomponent? (component s) = some s := by
  simp [uncomponent?, component, unescape?_flatMap_escape, utf8Decode?_utf8]

/-- A character that is written as itself. -/
def IsPlain (c : Char) : Prop := c.toNat < 128 ∧ isUnreserved (UInt8.ofNat c.toNat) = true

instance (c : Char) : Decidable (IsPlain c) := inferInstanceAs (Decidable (_ ∧ _))

theorem flatMap_escape_of_plain {c : Char} (h : IsPlain c) :
    (String.utf8EncodeChar c).flatMap escape = [c] := by
  obtain ⟨small, unreserved⟩ := h
  have one_byte : String.utf8EncodeChar c = [UInt8.ofNat c.toNat] :=
    if_pos (Nat.le_of_lt_succ small)
  have code : (UInt8.ofNat c.toNat).toNat = c.toNat := by
    rw [UInt8.toNat_ofNat']
    omega
  simp [one_byte, escape, unreserved, code]

theorem component_of_plain {s : String} (h : ∀ c ∈ s.toList, IsPlain c) :
    component s = s.toList := by
  have each : ∀ cs : List Char, (∀ c ∈ cs, IsPlain c) →
      (cs.flatMap String.utf8EncodeChar).flatMap escape = cs := by
    intro cs
    induction cs with
    | nil => exact fun _ => rfl
    | cons c cs ih =>
      intro h
      rw [List.forall_mem_cons] at h
      rw [List.flatMap_cons, List.flatMap_append, flatMap_escape_of_plain h.1, ih h.2,
        List.singleton_append]
  exact each _ h

theorem isPlain_of_isDigit {c : Char} (h : c.isDigit = true) : IsPlain c := by
  have range : 48 ≤ c.toNat ∧ c.toNat ≤ 57 := by
    simpa [Char.isDigit, UInt32.le_iff_toNat_le] using h
  have codes : ∀ n < 58, 48 ≤ n → isUnreserved (UInt8.ofNat n) = true := by decide
  exact ⟨by omega, codes c.toNat (by omega) range.1⟩

theorem isPlain_of_mem_int {n : Int} {c : Char} (h : c ∈ Decimal.int n) : IsPlain c := by
  rcases Decimal.mem_int h with rfl | digit
  · decide
  · exact isPlain_of_isDigit digit

theorem component_text (n : Int) : component (Decimal.text n) = Decimal.int n := by
  have h := component_of_plain (s := Decimal.text n)
  simp only [Decimal.text, String.toList_ofList] at h ⊢
  exact h fun c => isPlain_of_mem_int

/-! ## Pairs -/

theorem pair_of_plain {name value : String} (h : name.toList.all (decide <| IsPlain ·) = true) :
    pair (name, value) = name.toList ++ '=' :: component value := by
  rw [pair, component_of_plain (by simpa using h)]

theorem unpair?_pair (p : String × String) : unpair? (pair p) = some p := by
  have name : ∀ c ∈ component p.1, decide (c ≠ '=') = true := by
    intro c hc
    have inert := isInert_of_mem_component hc
    apply decide_eq_true
    rintro rfl
    exact absurd inert (by decide)
  rw [unpair?, pair, List.dropWhile_append_of_pos name, List.takeWhile_append_of_pos name]
  simp [uncomponent?_component]

theorem mem_pair {p : String × String} {c : Char} (h : c ∈ pair p) : IsInert c ∨ c = '=' := by
  simp only [pair, List.mem_append, List.mem_cons] at h
  rcases h with h | rfl | h
  · exact .inl (isInert_of_mem_component h)
  · exact .inr rfl
  · exact .inl (isInert_of_mem_component h)

theorem mark_not_mem_pair (p : String × String) : '&' ∉ pair p :=
  fun h => absurd (mem_pair h) (by decide)

/-! ## Lists of pairs -/

theorem splitAtChar_eq_splitOn (sep : Char) (cs : List Char) :
    splitAtChar sep cs = cs.splitOn sep := by
  induction cs with
  | nil => rfl
  | cons c cs ih =>
    rw [List.splitOn, List.splitOnP_cons_eq_if_modifyHead, ← List.splitOn, ← ih, splitAtChar]
    by_cases hc : c = sep
    · simp [hc]
    · obtain ⟨piece, pieces, h⟩ : ∃ piece pieces, splitAtChar sep cs = piece :: pieces :=
        List.exists_cons_of_ne_nil (ih ▸ List.splitOnP_ne_nil _ _)
      simp [hc, h]

theorem encodeChars_cons (p : String × String) (ps : List (String × String)) :
    encodeChars (p :: ps) = pair p ++ ps.flatMap fun p => '&' :: pair p := by
  rw [encodeChars, List.map_cons, intercalate_cons, List.flatMap_map]

theorem splitAtChar_encode {pairs : List (String × String)} (h : pairs ≠ []) :
    splitAtChar '&' (encode pairs).toList = pairs.map pair := by
  have unmarked : ∀ text ∈ pairs.map pair, '&' ∉ text := by
    intro text ht
    obtain ⟨p, -, rfl⟩ := List.mem_map.1 ht
    exact mark_not_mem_pair p
  rw [encode, String.toList_ofList, encodeChars, splitAtChar_eq_splitOn,
    List.splitOn_intercalate _ unmarked (by simpa using h)]

theorem encode_eq_empty_iff (pairs : List (String × String)) : encode pairs = "" ↔ pairs = [] := by
  constructor
  · intro h
    cases pairs with
    | nil => rfl
    | cons p ps =>
      have empty : encodeChars (p :: ps) = [] := by simpa [encode] using h
      simp [encodeChars_cons, pair] at empty
  · rintro rfl
    rfl

theorem decode?_encode (pairs : List (String × String)) : decode? (encode pairs) = some pairs := by
  by_cases h : pairs = []
  · subst h
    rfl
  · have nonempty : (encode pairs).toList ≠ [] := by
      simpa [encode_eq_empty_iff] using h
    have each : unpair? ∘ pair = fun p => some p := funext unpair?_pair
    rw [decode?, if_neg nonempty, splitAtChar_encode h, List.mapM_map, each]
    simpa using List.mapM_pure (m := Option) (l := pairs) (f := id)

theorem mem_encode {pairs : List (String × String)} {c : Char} (h : c ∈ (encode pairs).toList) :
    IsInert c ∨ c = '=' ∨ c = '&' := by
  cases pairs with
  | nil => exact absurd h (by simp [encode, encodeChars])
  | cons p ps =>
    rw [encode, String.toList_ofList, encodeChars_cons, List.mem_append] at h
    rcases h with h | h
    · exact (mem_pair h).imp_right .inl
    · obtain ⟨q, -, hc⟩ := List.mem_flatMap.1 h
      rcases List.mem_cons.1 hc with rfl | hc
      · exact .inr (.inr rfl)
      · exact (mem_pair hc).imp_right .inl

/--
The text of a list of pairs reads back as the list, whatever is in the names and values, and only
the empty list has the empty text. Each pair has the piece of the text that it would have alone.
-/
theorem encode_invertible (pairs : List (String × String)) :
    decode? (encode pairs) = some pairs ∧
    (encode pairs = "" ↔ pairs = []) ∧
    (∀ others, encode others = encode pairs → others = pairs) ∧
    (pairs ≠ [] → splitAtChar '&' (encode pairs).toList = pairs.map fun p => (encode [p]).toList) ∧
    ∀ c ∈ (encode pairs).toList, c.isAlphanum ∨ c ∈ ['-', '_', '.', '~', '%', '=', '&'] := by
  refine ⟨decode?_encode pairs, encode_eq_empty_iff pairs, fun others h => ?_, fun h => ?_,
    fun c hc => ?_⟩
  · apply Option.some.inj
    rw [← decode?_encode others, h, decode?_encode]
  · have alone : (fun p => (encode [p]).toList) = pair := by
      funext p
      simp [encode, encodeChars]
    rw [alone, splitAtChar_encode h]
  · rcases mem_encode hc with (h | h) | rfl | rfl
    · exact .inl h
    · exact .inr (List.mem_append_left ['=', '&'] h)
    · decide
    · decide

/-- A name with a mark, an empty value, an empty name, and a value that looks like an escape. -/
theorem encode_invertible_marks :
    encode [("a&b", ""), ("", "%3D=é")] = "a%26b=&=%253D%3D%C3%A9" ∧
    decode? "a%26b=&=%253D%3D%C3%A9" = some [("a&b", ""), ("", "%3D=é")] ∧
    splitAtChar '&' "a%26b=&=%253D%3D%C3%A9".toList =
      ["a%26b=".toList, "=%253D%3D%C3%A9".toList] := by
  have text : encode [("a&b", ""), ("", "%3D=é")] = "a%26b=&=%253D%3D%C3%A9" := by decide
  obtain ⟨read, -, -, pieces, -⟩ := encode_invertible [("a&b", ""), ("", "%3D=é")]
  rw [text] at read pieces
  exact ⟨text, read, pieces (List.cons_ne_nil _ _)⟩

end HeaterLink.Form
