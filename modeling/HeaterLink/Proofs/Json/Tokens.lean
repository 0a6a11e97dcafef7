import HeaterLink.Json.Reader
import HeaterLink.Proofs.Json.Strings

/-!
# Tokens of a larger text

A number, a string or a word that is read from a text is read from every longer
text too, and the rest stands behind what was left of the text. Only a number can
go on where its text ends, so there the rest must not begin with more of it.

## Main statements

* `Json.Reader.number_append`, `text_append`, `scalar_append`, one statement for each token.
-/

namespace HeaterLink.Json

/-- All elements are read, each for itself. -/
theorem mapM_eq_some_iff {α β : Type} {f : α → Option β} {xs : List α} {ys : List β} :
    xs.mapM f = some ys ↔ xs.map f = ys.map some := by
  induction xs generalizing ys with
  | nil => simp
  | cons x xs ih =>
    simp only [List.mapM_cons, Option.bind_eq_bind, Option.bind_eq_some_iff, Option.pure_def,
      Option.some.injEq, List.map_cons, ih]
    constructor
    · rintro ⟨y, hy, zs, hzs, rfl⟩
      rw [List.map_cons, hy, hzs]
    · intro h
      obtain ⟨y, zs, rfl, hy, hzs⟩ := List.map_eq_cons_iff.mp h.symm
      exact ⟨y, hy.symm, zs, hzs.symm, rfl⟩

namespace Reader

variable {cs tail rest : List Char}

theorem bind_eq_ok_iff {ε α β : Type} {x : Except ε α} {f : α → Except ε β} {r : β} :
    (x >>= f) = .ok r ↔ ∃ a, x = .ok a ∧ f a = .ok r := by
  constructor
  · intro h
    cases x with
    | error e => cases h
    | ok a => exact ⟨a, rfl, h⟩
  · rintro ⟨a, rfl, h⟩
    exact h

/-! ## Numbers -/

theorem digits_of_ends (he : Ends rest) : digits rest = ([], rest) := by
  cases rest with
  | nil => rfl
  | cons c cs => simp [digits, (he c (by simp)).1]

theorem digits_append {ds : List Nat} (h : digits cs = (ds, tail)) (he : tail = [] → Ends rest) :
    digits (cs ++ rest) = (ds, tail ++ rest) := by
  induction cs generalizing ds with
  | nil =>
    cases h
    exact digits_of_ends (he rfl)
  | cons c cs ih =>
    cases hc : isDigit c with
    | false =>
      have hds : digits (c :: cs) = ([], c :: cs) := by simp [digits, hc]
      cases hds.symm.trans h
      simp [digits, hc]
    | true =>
      have hds (more : List Char) : digits (c :: more) =
          (digitValue c :: (digits more).1, (digits more).2) := by
        simp [digits, hc]
      cases (hds cs).symm.trans h
      rw [List.cons_append, hds, ih rfl]
      rfl

theorem someDigits_eq_ok_iff {ds : List Nat} :
    someDigits cs = .ok (ds, tail) ↔ digits cs = (ds, tail) ∧ ds ≠ [] := by
  rw [someDigits]
  obtain ⟨found, left⟩ := digits cs
  cases found with
  | nil => cases left <;> simp_all
  | cons d more => simp +contextual [eq_comm]

theorem someDigits_append {ds : List Nat} (h : someDigits cs = .ok (ds, tail))
    (he : tail = [] → Ends rest) : someDigits (cs ++ rest) = .ok (ds, tail ++ rest) := by
  rw [someDigits_eq_ok_iff] at h ⊢
  exact ⟨digits_append h.1 he, h.2⟩

theorem wholePart_append {ds : List Nat} (h : wholePart cs = .ok (ds, tail))
    (he : tail = [] → Ends rest) : wholePart (cs ++ rest) = .ok (ds, tail ++ rest) := by
  obtain ⟨⟨ds', tail'⟩, hs, hd⟩ := bind_eq_ok_iff.mp h
  dsimp only at hd
  split at hd
  · cases hd
  · rename_i hz
    cases hd
    rw [wholePart, someDigits_append hs he]
    exact if_neg hz

theorem fractionPart_append {found : Option (List Nat)} (h : fractionPart cs = .ok (found, tail))
    (he : tail = [] → Ends rest) : fractionPart (cs ++ rest) = .ok (found, tail ++ rest) := by
  unfold fractionPart at h
  split at h
  · obtain ⟨⟨ds, more⟩, hs, hd⟩ := bind_eq_ok_iff.mp h
    cases hd
    rw [List.cons_append, fractionPart, someDigits_append hs he]
    rfl
  · rename_i hne
    cases h
    cases cs with
    | nil => exact fractionPart_of_ends (he rfl)
    | cons c cs =>
      have hc : c ≠ '.' := fun hc => hne cs (by rw [hc])
      unfold fractionPart
      split
      · simp_all
      · rfl

/-- The sign of an exponent, and what follows it. -/
def exponentSign : List Char → Bool × List Char
  | '-' :: rest => (true, rest)
  | '+' :: rest => (false, rest)
  | rest => (false, rest)

theorem exponentPart_cons (c : Char) (cs : List Char) :
    exponentPart (c :: cs) = if c = 'e' ∨ c = 'E' then do
      let (ds, rest) ← someDigits (exponentSign cs).2
      return (some ((exponentSign cs).1, ds), rest)
    else .ok (none, c :: cs) := rfl

theorem exponentSign_append (hne : cs ≠ []) (rest : List Char) :
    exponentSign (cs ++ rest) = ((exponentSign cs).1, (exponentSign cs).2 ++ rest) := by
  cases cs with
  | nil => exact absurd rfl hne
  | cons c cs =>
    by_cases hminus : c = '-'
    · rw [hminus]
      rfl
    · by_cases hplus : c = '+'
      · rw [hplus]
        rfl
      · simp [exponentSign, hminus, hplus]

theorem exponentPart_append {found : Option (Bool × List Nat)}
    (h : exponentPart cs = .ok (found, tail)) (he : tail = [] → Ends rest) :
    exponentPart (cs ++ rest) = .ok (found, tail ++ rest) := by
  cases cs with
  | nil =>
    cases h
    exact exponentPart_of_ends (he rfl)
  | cons c cs =>
    rw [exponentPart_cons] at h
    rw [List.cons_append, exponentPart_cons]
    split at h
    · rename_i hc
      obtain ⟨⟨ds, more⟩, hs, hd⟩ := bind_eq_ok_iff.mp h
      cases hd
      have hne : cs ≠ [] := by
        rintro rfl
        cases hs
      rw [if_pos hc, exponentSign_append hne, someDigits_append hs he]
      rfl
    · rename_i hc
      cases h
      rw [if_neg hc]
      rfl

theorem unsignedNumeral_append {negative : Bool} {n : Numeral}
    (h : unsignedNumeral negative cs = .ok (n, tail)) (he : tail = [] → Ends rest) :
    unsignedNumeral negative (cs ++ rest) = .ok (n, tail ++ rest) := by
  obtain ⟨⟨whole, afterWhole⟩, hw, h⟩ := bind_eq_ok_iff.mp h
  obtain ⟨⟨fraction, afterFraction⟩, hf, h⟩ := bind_eq_ok_iff.mp h
  obtain ⟨⟨exponent, afterExponent⟩, hx, h⟩ := bind_eq_ok_iff.mp h
  cases h
  -- where one part takes all that is left, there is nothing for the parts behind it
  have hfraction : afterFraction = [] → Ends rest := by
    rintro rfl
    cases hx
    exact he rfl
  have hwhole : afterWhole = [] → Ends rest := by
    rintro rfl
    cases hf
    exact hfraction rfl
  simp only [unsignedNumeral, wholePart_append hw hwhole, fractionPart_append hf hfraction,
    exponentPart_append hx he, ok_bind]
  rfl

theorem numeral_append {n : Numeral} (h : numeral cs = .ok (n, tail))
    (he : tail = [] → Ends rest) : numeral (cs ++ rest) = .ok (n, tail ++ rest) := by
  unfold numeral at h
  split at h
  · exact unsignedNumeral_append h he
  · rename_i hne
    cases cs with
    | nil => cases h
    | cons c cs =>
      have hc : c ≠ '-' := fun hc => hne cs (by rw [hc])
      have hread := unsignedNumeral_append h he
      unfold numeral
      split
      · simp_all
      · exact hread

theorem number_append {n : Number} (h : number cs = .ok (n, tail))
    (he : tail = [] → Ends rest) : number (cs ++ rest) = .ok (n, tail ++ rest) := by
  obtain ⟨⟨read, more⟩, hn, h⟩ := bind_eq_ok_iff.mp h
  obtain ⟨value, hv, h⟩ := bind_eq_ok_iff.mp h
  cases h
  simp only [number, numeral_append hn he, ok_bind, hv]
  rfl

/-! ## Strings -/

theorem unit_append {u : Nat} (h : unit cs = .ok (u, tail)) (rest : List Char) :
    unit (cs ++ rest) = .ok (u, tail ++ rest) := by
  rw [unit] at h
  split at h
  · cases h
  · rename_i hsize
    split at h
    · rename_i a b c d hm
      have hlen : 4 ≤ cs.length := by
        have hmap := congrArg List.length (mapM_eq_some_iff.mp hm)
        simp only [List.length_map, List.length_take, List.length_cons, List.length_nil] at hmap
        omega
      cases h
      rw [unit, List.take_append_of_le_length hlen, List.drop_append_of_le_length hlen,
        if_neg hsize, hm]
    · cases h

theorem lowHalf_append {high : Nat} {c : Char} (h : lowHalf high cs = .ok (c, tail))
    (rest : List Char) : lowHalf high (cs ++ rest) = .ok (c, tail ++ rest) := by
  unfold lowHalf at h
  split at h
  · cases h
  · cases h
  · obtain ⟨⟨low, more⟩, hu, h⟩ := bind_eq_ok_iff.mp h
    dsimp only at h
    split at h
    · rename_i hlow
      obtain ⟨rfl, rfl⟩ := Prod.mk.inj (Except.ok.inj h)
      simp only [List.cons_append, lowHalf, unit_append hu, ok_bind, hlow, if_true]
    · cases h
  · cases h

theorem escape_append {c : Char} (h : escape cs = .ok (c, tail)) (rest : List Char) :
    escape (cs ++ rest) = .ok (c, tail ++ rest) := by
  unfold escape at h
  split at h
  · cases h
  · obtain ⟨⟨u, more⟩, hu, h⟩ := bind_eq_ok_iff.mp h
    simp only [List.cons_append, escape, unit_append hu, ok_bind]
    cases hlow : isLowSurrogate u with
    | true => simp [hlow] at h
    | false =>
      cases hhigh : isHighSurrogate u with
      | true =>
        simp only [hlow, hhigh, Bool.false_eq_true, if_false, if_true] at h ⊢
        exact lowHalf_append h rest
      | false =>
        simp only [hlow, hhigh, Bool.false_eq_true, if_false] at h ⊢
        cases h
        rfl
  · rename_i letter more hu
    split at h
    · rename_i hs
      cases h
      exact escape_short hs (fun hc => hu (by rw [hc])) _
    · cases h

theorem textWithin_append {fuel more : Nat} {xs : List Char}
    (h : textWithin fuel cs = .ok (xs, tail)) (hf : fuel ≤ more) (rest : List Char) :
    textWithin more (cs ++ rest) = .ok (xs, tail ++ rest) := by
  induction fuel generalizing cs xs more with
  | zero => cases h
  | succ fuel ih =>
    obtain ⟨more, rfl⟩ : ∃ n, more = n + 1 := ⟨more - 1, by omega⟩
    have hf : fuel ≤ more := Nat.le_of_succ_le_succ hf
    cases cs with
    | nil => cases h
    | cons c cs =>
      rw [textWithin] at h
      rw [List.cons_append]
      split at h
      · rename_i hq
        cases h
        rw [textWithin, if_pos hq]
      · rename_i hq
        split at h
        · rename_i hb
          obtain ⟨⟨x, afterEscape⟩, hx, h⟩ := bind_eq_ok_iff.mp h
          obtain ⟨⟨ys, afterText⟩, hy, h⟩ := bind_eq_ok_iff.mp h
          cases h
          rw [hb]
          exact textWithin_escape (escape_append hx rest) (ih hy hf)
        · rename_i hb
          split at h
          · cases h
          · rename_i hc
            obtain ⟨⟨ys, afterText⟩, hy, h⟩ := bind_eq_ok_iff.mp h
            cases h
            exact textWithin_plain hq hb hc (ih hy hf)

theorem text_append {s : String} (h : text cs = .ok (s, tail)) (rest : List Char) :
    text (cs ++ rest) = .ok (s, tail ++ rest) := by
  obtain ⟨⟨xs, more⟩, hx, h⟩ := bind_eq_ok_iff.mp h
  cases h
  have hlen : cs.length + 1 ≤ (cs ++ rest).length + 1 := by simp
  simp only [text, textWithin_append hx hlen, ok_bind]
  rfl

/-! ## Scalars -/

theorem word_append {letters : List Char} (h : word letters cs = .ok tail) (rest : List Char) :
    word letters (cs ++ rest) = .ok (tail ++ rest) := by
  induction letters generalizing cs with
  | nil =>
    cases h
    rfl
  | cons x xs ih =>
    cases cs with
    | nil => cases h
    | cons c cs =>
      rw [word] at h
      rw [List.cons_append, word]
      split at h
      · rename_i hc
        rw [if_pos hc]
        exact ih h
      · cases h

theorem scalar_append {c : Char} {x : Json} (h : scalar c cs = .ok (x, tail))
    (he : tail = [] → Ends rest) : scalar c (cs ++ rest) = .ok (x, tail ++ rest) := by
  unfold scalar at h ⊢
  -- the three words first
  iterate 3
    split at h
    · rename_i hc
      obtain ⟨more, hw, h⟩ := bind_eq_ok_iff.mp h
      cases h
      rw [if_pos hc, word_append hw, ok_bind]
      rfl
    rename_i hc
    rw [if_neg hc]
  split at h
  · rename_i hc
    obtain ⟨⟨s, more⟩, hs, h⟩ := bind_eq_ok_iff.mp h
    cases h
    rw [if_pos hc, text_append hs, ok_bind]
    rfl
  · rename_i hc
    rw [if_neg hc]
    split at h
    · rename_i hc
      obtain ⟨⟨n, more⟩, hn, h⟩ := bind_eq_ok_iff.mp h
      cases h
      rw [if_pos hc, ← List.cons_append, number_append hn he, ok_bind]
      rfl
    · cases h

end Reader

end HeaterLink.Json
