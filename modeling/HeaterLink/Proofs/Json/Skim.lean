import HeaterLink.Proofs.Json.Grammar
import HeaterLink.Proofs.Json.RoundTrip

/-!
# Passing over values

Every text that the grammar derives as a value is passed over up to its last
character, whatever stands behind it: numbers of any size, units that do not pair
up, and brackets at any depth.

## Main definitions

* `Json.Reader.Skims`, what passing over a text means for each symbol.

## Main statements

* `Json.Reader.skipValue_element`, a value with blanks around it is passed over.
-/

namespace HeaterLink.Json.Reader

variable {fuel : Nat} {cs tail rest : List Char}

/-! ## One step -/

theorem skim_eq {c : Char} {left : List Char} (h : skipSpace cs = c :: left) :
    skim (fuel + 1) cs =
      if c = '[' then skimElements fuel left
      else if c = '{' then skimMembers fuel left
      else skimScalar c left := by
  rw [skim, h]

theorem skim_bracket (fuel : Nat) (cs : List Char) :
    skim (fuel + 1) ('[' :: cs) = skimElements fuel cs := by
  rw [skim_eq (skipSpace_cons (by decide) cs)]
  exact if_pos rfl

theorem skim_brace (fuel : Nat) (cs : List Char) :
    skim (fuel + 1) ('{' :: cs) = skimMembers fuel cs := by
  rw [skim_eq (skipSpace_cons (by decide) cs), if_neg (by decide)]
  exact if_pos rfl

theorem skim_skipSpace (fuel : Nat) (cs : List Char) : skim fuel (skipSpace cs) = skim fuel cs := by
  cases fuel with
  | zero => rw [skim, skim]
  | succ fuel => rw [skim, skim, skipSpace_skipSpace]

/-- No value begins with the end of an array. -/
theorem exists_of_skim (h : skim fuel cs = .ok tail) :
    ∃ c left, skipSpace cs = c :: left ∧ c ≠ ']' := by
  cases fuel with
  | zero => simp [skim] at h
  | succ fuel =>
    cases hs : skipSpace cs with
    | nil => simp [skim, hs] at h
    | cons c left =>
      refine ⟨c, left, rfl, ?_⟩
      rintro rfl
      rw [skim_eq hs] at h
      cases h

/-- A member of an object that is passed over. -/
def skimMember (fuel : Nat) (cs : List Char) : Except Fault (List Char) := do
  let rest ← skipText (← openName cs)
  skim fuel (← colon rest)

theorem skimElements_eq {c : Char} {left : List Char} (h : skipSpace cs = c :: left)
    (hc : c ≠ ']') : skimElements (fuel + 1) cs = skim fuel cs >>= skimMoreElements fuel := by
  rw [skimElements, h, ← skim_skipSpace fuel cs, h]
  exact if_neg hc

theorem skimMembers_eq {left : List Char} (h : skipSpace cs = '"' :: left) :
    skimMembers (fuel + 1) cs = skimMember fuel cs >>= skimMoreMembers fuel := by
  rw [skimMembers, h, skimMember, ← openName_skipSpace cs, h]
  simp only [bind_assoc]
  exact if_neg (by decide)

theorem openName_blanks (blanks : Blanks) (cs : List Char) :
    openName (blanks.1 ++ '"' :: cs) = .ok cs := by
  rw [openName, skipSpace_blanks_cons blanks (by decide)]
  rfl

theorem colon_blanks (blanks : Blanks) (cs : List Char) :
    colon (blanks.1 ++ ':' :: cs) = .ok cs := by
  rw [colon, skipSpace_blanks_cons blanks (by decide)]
  rfl

theorem ends_blanks (blanks : Blanks) (he : Ends rest) : Ends (blanks.1 ++ rest) := by
  obtain ⟨bs, hbs⟩ := blanks
  cases bs with
  | nil => exact he
  | cons c bs =>
    have hc := hbs c List.mem_cons_self
    simp only [isSpace, Bool.or_eq_true, decide_eq_true_eq] at hc
    refine ends_cons ?_ _
    rcases hc with ((rfl | rfl) | rfl) | rfl <;> decide

/-! ## The symbols -/

/-- Passing over a text of this symbol takes all of it, or all but blanks. -/
def Skims : Symbol → List Char → Prop
  | .value, cs => ∀ fuel rest, cs.length < fuel → Ends rest → skim fuel (cs ++ rest) = .ok rest
  | .element, cs => ∀ fuel rest, cs.length < fuel → Ends rest →
      ∃ blanks : Blanks, skim fuel (cs ++ rest) = .ok (blanks.1 ++ rest)
  | .elements, cs => ∀ fuel rest, cs.length < fuel →
      skim fuel (cs ++ ']' :: rest) >>= skimMoreElements fuel = .ok rest
  | .member, cs => ∀ fuel rest, cs.length < fuel → Ends rest →
      ∃ blanks : Blanks, skimMember fuel (cs ++ rest) = .ok (blanks.1 ++ rest)
  | .members, cs => ∀ fuel rest, cs.length < fuel →
      skimMember fuel (cs ++ '}' :: rest) >>= skimMoreMembers fuel = .ok rest

theorem skimScalar_number (h : NumberText cs) (he : Ends rest) :
    ∃ c more, cs ++ rest = c :: more ∧ startsNumber c = true ∧ skimScalar c more = .ok rest := by
  obtain ⟨n, hn⟩ := numeral_numberText h
  have hread : numeral (cs ++ rest) = .ok (n, rest) := numeral_append hn fun _ => he
  obtain ⟨c, more, rfl, hc⟩ := exists_of_numberText h
  refine ⟨c, more ++ rest, rfl, hc, ?_⟩
  rw [List.cons_append] at hread
  rw [skimScalar, if_neg (ne_of_startsNumber hc (by decide)),
    if_neg (ne_of_startsNumber hc (by decide)), if_neg (ne_of_startsNumber hc (by decide)),
    if_neg (ne_of_startsNumber hc (by decide)), if_pos hc, hread]

theorem skims_number (h : NumberText cs) : Skims .value cs := by
  intro fuel rest hf he
  obtain ⟨fuel, rfl⟩ : ∃ n, fuel = n + 1 := ⟨fuel - 1, by omega⟩
  obtain ⟨c, more, hcs, hc, hskim⟩ := skimScalar_number h he
  rw [hcs, skim_eq (skipSpace_cons (isSpace_of_startsNumber hc) more),
    if_neg (ne_of_startsNumber hc (by decide)), if_neg (ne_of_startsNumber hc (by decide)), hskim]

theorem skims_string (h : StringText cs) : Skims .value ('"' :: (cs ++ ['"'])) := by
  intro fuel rest hf he
  obtain ⟨fuel, rfl⟩ : ∃ n, fuel = n + 1 := ⟨fuel - 1, by omega⟩
  rw [List.cons_append, List.append_assoc, skim_eq (skipSpace_cons (by decide) _)]
  exact skipText_stringText h rest

theorem skims_array (h : Skims .elements cs) : Skims .value ('[' :: (cs ++ [']'])) := by
  intro fuel rest hf he
  simp only [List.length_cons, List.length_append, List.length_nil] at hf
  obtain ⟨fuel, rfl⟩ : ∃ n, fuel = n + 2 := ⟨fuel - 2, by omega⟩
  have hitems := h fuel rest (by omega)
  obtain ⟨tail, hfirst, -⟩ := bind_eq_ok_iff.mp hitems
  obtain ⟨c, left, hs, hc⟩ := exists_of_skim hfirst
  rw [List.cons_append, List.append_assoc, skim_bracket, List.singleton_append,
    skimElements_eq hs hc]
  exact hitems

theorem skims_emptyArray (blanks : Blanks) : Skims .value ('[' :: (blanks.1 ++ [']'])) := by
  intro fuel rest hf he
  simp only [List.length_cons, List.length_append, List.length_nil] at hf
  obtain ⟨fuel, rfl⟩ : ∃ n, fuel = n + 2 := ⟨fuel - 2, by omega⟩
  rw [List.cons_append, List.append_assoc, skim_bracket, List.singleton_append, skimElements,
    skipSpace_blanks_cons blanks (by decide)]
  exact if_pos rfl

/-- A member that is passed over begins with the quote of its name. -/
theorem exists_of_skimMember (h : skimMember fuel cs = .ok tail) :
    ∃ left, skipSpace cs = '"' :: left := by
  obtain ⟨left, hopen, -⟩ := bind_eq_ok_iff.mp h
  unfold openName at hopen
  split at hopen
  · cases hopen
  · exact ⟨_, ‹_›⟩
  · cases hopen

theorem skims_object (h : Skims .members cs) : Skims .value ('{' :: (cs ++ ['}'])) := by
  intro fuel rest hf he
  simp only [List.length_cons, List.length_append, List.length_nil] at hf
  obtain ⟨fuel, rfl⟩ : ∃ n, fuel = n + 2 := ⟨fuel - 2, by omega⟩
  have hmembers := h fuel rest (by omega)
  obtain ⟨tail, hfirst, -⟩ := bind_eq_ok_iff.mp hmembers
  obtain ⟨left, hs⟩ := exists_of_skimMember hfirst
  rw [List.cons_append, List.append_assoc, skim_brace, List.singleton_append, skimMembers_eq hs]
  exact hmembers

theorem skims_emptyObject (blanks : Blanks) : Skims .value ('{' :: (blanks.1 ++ ['}'])) := by
  intro fuel rest hf he
  simp only [List.length_cons, List.length_append, List.length_nil] at hf
  obtain ⟨fuel, rfl⟩ : ∃ n, fuel = n + 2 := ⟨fuel - 2, by omega⟩
  rw [List.cons_append, List.append_assoc, skim_brace, List.singleton_append, skimMembers,
    skipSpace_blanks_cons blanks (by decide)]
  exact if_pos rfl

theorem skims_element (before after : Blanks) (h : Skims .value cs) :
    Skims .element (before.1 ++ (cs ++ after.1)) := by
  intro fuel rest hf he
  simp only [List.length_append] at hf
  refine ⟨after, ?_⟩
  rw [List.append_assoc, List.append_assoc, ← skim_skipSpace, skipSpace_blanks before.2,
    skim_skipSpace]
  exact h fuel _ (by omega) (ends_blanks after he)

theorem skims_lastElement (h : Skims .element cs) : Skims .elements cs := by
  intro fuel rest hf
  obtain ⟨own, hfirst⟩ := h fuel (']' :: rest) hf (ends_cons (by decide) rest)
  obtain ⟨fuel, rfl⟩ : ∃ n, fuel = n + 1 := ⟨fuel - 1, by omega⟩
  rw [hfirst, ok_bind, skimMoreElements, skipSpace_blanks_cons own (by decide)]
  exact if_pos rfl

theorem skims_elements {ds : List Char} (h : Skims .element cs) (hs : Skims .elements ds) :
    Skims .elements (cs ++ ',' :: ds) := by
  intro fuel rest hf
  simp only [List.length_cons, List.length_append] at hf
  obtain ⟨own, hfirst⟩ := h fuel (',' :: (ds ++ ']' :: rest)) (by omega)
    (ends_cons (by decide) _)
  obtain ⟨fuel, rfl⟩ : ∃ n, fuel = n + 1 := ⟨fuel - 1, by omega⟩
  rw [List.append_assoc, List.cons_append, hfirst, ok_bind, skimMoreElements,
    skipSpace_blanks_cons own (by decide)]
  exact hs fuel rest (by omega)

theorem skims_member (before after : Blanks) {name : List Char} (hn : StringText name)
    (h : Skims .element cs) :
    Skims .member (before.1 ++ '"' :: (name ++ '"' :: (after.1 ++ ':' :: cs))) := by
  intro fuel rest hf he
  simp only [List.length_cons, List.length_append] at hf
  obtain ⟨own, hvalue⟩ := h fuel rest (by omega) he
  refine ⟨own, ?_⟩
  simp only [skimMember, List.append_assoc, List.cons_append, openName_blanks, ok_bind,
    skipText_stringText hn, colon_blanks, hvalue]

theorem skims_lastMember (h : Skims .member cs) : Skims .members cs := by
  intro fuel rest hf
  obtain ⟨own, hfirst⟩ := h fuel ('}' :: rest) hf (ends_cons (by decide) rest)
  obtain ⟨fuel, rfl⟩ : ∃ n, fuel = n + 1 := ⟨fuel - 1, by omega⟩
  rw [hfirst, ok_bind, skimMoreMembers, skipSpace_blanks_cons own (by decide)]
  exact if_pos rfl

theorem skims_members {ds : List Char} (h : Skims .member cs) (hs : Skims .members ds) :
    Skims .members (cs ++ ',' :: ds) := by
  intro fuel rest hf
  simp only [List.length_cons, List.length_append] at hf
  obtain ⟨own, hfirst⟩ := h fuel (',' :: (ds ++ '}' :: rest)) (by omega)
    (ends_cons (by decide) _)
  obtain ⟨fuel, rfl⟩ : ∃ n, fuel = n + 1 := ⟨fuel - 1, by omega⟩
  rw [List.append_assoc, List.cons_append, hfirst, ok_bind, skimMoreMembers,
    skipSpace_blanks_cons own (by decide)]
  have hmore := hs fuel rest (by omega)
  simp only [skimMember, bind_assoc] at hmore
  exact hmore

theorem skims_word {c : Char} (hc : isSpace c = false) (hb : c ≠ '[' ∧ c ≠ '{')
    (h : ∀ rest, skimScalar c (cs ++ rest) = .ok rest) : Skims .value (c :: cs) := by
  intro fuel rest hf he
  obtain ⟨fuel, rfl⟩ : ∃ n, fuel = n + 1 := ⟨fuel - 1, by omega⟩
  rw [List.cons_append, skim_eq (skipSpace_cons hc _), if_neg hb.1, if_neg hb.2, h]

theorem skims_of_derives {symbol : Symbol} (h : Derives symbol cs) : Skims symbol cs := by
  induction h with
  | null => exact skims_word (by decide) (by decide) fun _ => rfl
  | true => exact skims_word (by decide) (by decide) fun _ => rfl
  | false => exact skims_word (by decide) (by decide) fun _ => rfl
  | number h => exact skims_number h
  | string h => exact skims_string h
  | emptyArray blanks => exact skims_emptyArray blanks
  | array _ ih => exact skims_array ih
  | emptyObject blanks => exact skims_emptyObject blanks
  | object _ ih => exact skims_object ih
  | element before after _ ih => exact skims_element before after ih
  | lastElement _ ih => exact skims_lastElement ih
  | elements _ _ ih ihs => exact skims_elements ih ihs
  | member before after hn _ ih => exact skims_member before after hn ih
  | lastMember _ ih => exact skims_lastMember ih
  | members _ _ ih ihs => exact skims_members ih ihs

/-- A value with blanks around it is passed over; only blanks of its own can be left. -/
theorem skipValue_element (h : Derives .element cs) (he : Ends rest) :
    ∃ blanks : Blanks, skipValue (cs ++ rest) = .ok (blanks.1 ++ rest) := by
  refine skims_of_derives h _ rest ?_ he
  rw [List.length_append]
  omega

end HeaterLink.Json.Reader
