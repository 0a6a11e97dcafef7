import HeaterLink.Proofs.Json.Tokens

/-!
# Values inside a larger text

What the reader takes from a text it takes from every longer text too. Neither
more fuel nor another room makes a difference, as long as the value nests within
that room. So a text that was read by itself can be put into an array or an
object.

## Main definitions

* `Json.Nests`, the values that nest within some room.

## Main statements

* `Json.Reader.value_append`, a value in front of any other text.
-/

namespace HeaterLink.Json

/-- A value that opens at most `room` brackets inside one another. -/
inductive Nests : (room : Nat) → Json → Prop where
  | null (room : Nat) : Nests room .null
  | bool (room : Nat) (b : Bool) : Nests room (.bool b)
  | number (room : Nat) (n : Number) : Nests room (.number n)
  | string (room : Nat) (s : String) : Nests room (.string s)
  | array {room : Nat} {items : List Json} (each : ∀ x ∈ items, Nests room x) :
      Nests (room + 1) (.array items)
  | object {room : Nat} {members : List (String × Json)} (each : ∀ m ∈ members, Nests room m.2) :
      Nests (room + 1) (.object members)

namespace Reader

variable {cs tail rest : List Char}

/-! ## Blanks and marks -/

theorem skipSpace_cons {c : Char} (h : isSpace c = false) (cs : List Char) :
    skipSpace (c :: cs) = c :: cs := by
  simp [skipSpace, h]

theorem skipSpace_append {c : Char} {more : List Char} (h : skipSpace cs = c :: more)
    (rest : List Char) : skipSpace (cs ++ rest) = c :: (more ++ rest) := by
  rw [skipSpace] at h
  simp [skipSpace, List.dropWhile_append, h]

theorem colon_append (h : colon cs = .ok tail) (rest : List Char) :
    colon (cs ++ rest) = .ok (tail ++ rest) := by
  unfold colon at h
  split at h
  · cases h
  · rename_i hs
    cases h
    rw [colon, skipSpace_append hs]
    rfl
  · cases h

theorem openName_append (h : openName cs = .ok tail) (rest : List Char) :
    openName (cs ++ rest) = .ok (tail ++ rest) := by
  unfold openName at h
  split at h
  · cases h
  · rename_i hs
    cases h
    rw [openName, skipSpace_append hs]
    rfl
  · cases h

/-! ## Values with any fuel -/

/-- What the reader takes with this much fuel, it takes with more fuel from a longer text. -/
structure Extends (fuel : Nat) : Prop where
  value {room : Nat} {cs tail : List Char} {x : Json} (h : value fuel room cs = .ok (x, tail))
    {more within : Nat} (hf : fuel ≤ more) (hn : Nests within x) {rest : List Char}
    (he : tail = [] → Ends rest) :
    Reader.value more within (cs ++ rest) = .ok (x, tail ++ rest)
  elements {room : Nat} {cs tail : List Char} {xs : List Json}
    (h : elements fuel room cs = .ok (xs, tail)) {more within : Nat} (hf : fuel ≤ more)
    (hn : ∀ x ∈ xs, Nests within x) (rest : List Char) :
    Reader.elements more within (cs ++ rest) = .ok (xs, tail ++ rest)
  moreElements {room : Nat} {cs tail : List Char} {xs : List Json}
    (h : moreElements fuel room cs = .ok (xs, tail)) {more within : Nat} (hf : fuel ≤ more)
    (hn : ∀ x ∈ xs, Nests within x) (rest : List Char) :
    Reader.moreElements more within (cs ++ rest) = .ok (xs, tail ++ rest)
  members {room : Nat} {cs tail : List Char} {ms : List (String × Json)}
    (h : members fuel room cs = .ok (ms, tail)) {more within : Nat} (hf : fuel ≤ more)
    (hn : ∀ m ∈ ms, Nests within m.2) (rest : List Char) :
    Reader.members more within (cs ++ rest) = .ok (ms, tail ++ rest)
  moreMembers {room : Nat} {cs tail : List Char} {ms : List (String × Json)}
    (h : moreMembers fuel room cs = .ok (ms, tail)) {more within : Nat} (hf : fuel ≤ more)
    (hn : ∀ m ∈ ms, Nests within m.2) (rest : List Char) :
    Reader.moreMembers more within (cs ++ rest) = .ok (ms, tail ++ rest)

theorem value_extends {fuel : Nat} (ih : Extends fuel) {room : Nat} {x : Json}
    (h : value (fuel + 1) room cs = .ok (x, tail)) {more within : Nat} (hf : fuel ≤ more)
    (hn : Nests within x) (he : tail = [] → Ends rest) :
    value (more + 1) within (cs ++ rest) = .ok (x, tail ++ rest) := by
  rw [value] at h
  split at h
  · cases h
  · rename_i c left hs
    rw [value, skipSpace_append hs]
    dsimp only
    split at h
    · rename_i hc
      split at h
      · cases h
      · obtain ⟨⟨items, behind⟩, hi, h⟩ := bind_eq_ok_iff.mp h
        cases h
        cases hn with
        | array each =>
          rw [if_pos hc, if_neg (Nat.succ_ne_zero _), Nat.add_sub_cancel, ih.elements hi hf each]
          rfl
    · rename_i ha
      rw [if_neg ha]
      split at h
      · rename_i hc
        split at h
        · cases h
        · obtain ⟨⟨members, behind⟩, hm, h⟩ := bind_eq_ok_iff.mp h
          cases h
          cases hn with
          | object each =>
            rw [if_pos hc, if_neg (Nat.succ_ne_zero _), Nat.add_sub_cancel, ih.members hm hf each]
            rfl
      · rename_i ho
        rw [if_neg ho]
        exact scalar_append h he

/-- An element, and those after it. -/
def elementsFrom (fuel room : Nat) (cs : List Char) : Except Fault (List Json × List Char) := do
  let (x, rest) ← value fuel room cs
  let (xs, rest) ← moreElements fuel room rest
  return (x :: xs, rest)

/-- A member whose opening quote comes next, and those after it. -/
def membersFrom (fuel room : Nat) (cs : List Char) :
    Except Fault (List (String × Json) × List Char) := do
  let (name, rest) ← text (← openName cs)
  let (x, rest) ← value fuel room (← colon rest)
  let (xs, rest) ← moreMembers fuel room rest
  return ((name, x) :: xs, rest)

theorem elements_eq {fuel room : Nat} {c : Char} {left : List Char}
    (hs : skipSpace cs = c :: left) : elements (fuel + 1) room cs =
      if c = ']' then .ok ([], left) else elementsFrom fuel room (c :: left) := by
  rw [elements, hs]
  rfl

theorem moreElements_eq {fuel room : Nat} {c : Char} {left : List Char}
    (hs : skipSpace cs = c :: left) : moreElements (fuel + 1) room cs =
      if c = ']' then .ok ([], left)
      else if c = ',' then elementsFrom fuel room left else .error .malformed := by
  rw [moreElements, hs]
  rfl

theorem members_eq {fuel room : Nat} {c : Char} {left : List Char}
    (hs : skipSpace cs = c :: left) : members (fuel + 1) room cs =
      if c = '}' then .ok ([], left) else membersFrom fuel room (c :: left) := by
  rw [members, hs]
  rfl

theorem moreMembers_eq {fuel room : Nat} {c : Char} {left : List Char}
    (hs : skipSpace cs = c :: left) : moreMembers (fuel + 1) room cs =
      if c = '}' then .ok ([], left)
      else if c = ',' then membersFrom fuel room left else .error .malformed := by
  rw [moreMembers, hs]
  rfl

/-- Something is left where the reader goes on to further elements. -/
theorem exists_of_moreElements {fuel room : Nat} {xs : List Json}
    (h : moreElements fuel room cs = .ok (xs, tail)) : ∃ c left, skipSpace cs = c :: left := by
  cases fuel with
  | zero => simp [moreElements] at h
  | succ fuel =>
    cases hs : skipSpace cs with
    | nil => simp [moreElements, hs] at h
    | cons c left => exact ⟨c, left, rfl⟩

theorem exists_of_moreMembers {fuel room : Nat} {ms : List (String × Json)}
    (h : moreMembers fuel room cs = .ok (ms, tail)) : ∃ c left, skipSpace cs = c :: left := by
  cases fuel with
  | zero => simp [moreMembers] at h
  | succ fuel =>
    cases hs : skipSpace cs with
    | nil => simp [moreMembers, hs] at h
    | cons c left => exact ⟨c, left, rfl⟩

theorem elementsFrom_extends {fuel : Nat} (ih : Extends fuel) {room : Nat} {xs : List Json}
    (h : elementsFrom fuel room cs = .ok (xs, tail)) {more within : Nat} (hf : fuel ≤ more)
    (hn : ∀ x ∈ xs, Nests within x) (rest : List Char) :
    elementsFrom more within (cs ++ rest) = .ok (xs, tail ++ rest) := by
  obtain ⟨⟨x, afterFirst⟩, hx, h⟩ := bind_eq_ok_iff.mp h
  obtain ⟨⟨ys, afterAll⟩, hy, h⟩ := bind_eq_ok_iff.mp h
  cases h
  have ⟨hfirst, hothers⟩ := List.forall_mem_cons.mp hn
  have hleft : afterFirst = [] → Ends rest := by
    rintro rfl
    obtain ⟨c, left, hs⟩ := exists_of_moreElements hy
    cases hs
  simp only [elementsFrom, ih.value hx hf hfirst hleft, ih.moreElements hy hf hothers rest, ok_bind]
  rfl

theorem membersFrom_extends {fuel : Nat} (ih : Extends fuel) {room : Nat}
    {ms : List (String × Json)} (h : membersFrom fuel room cs = .ok (ms, tail)) {more within : Nat}
    (hf : fuel ≤ more) (hn : ∀ m ∈ ms, Nests within m.2) (rest : List Char) :
    membersFrom more within (cs ++ rest) = .ok (ms, tail ++ rest) := by
  obtain ⟨opened, ho, h⟩ := bind_eq_ok_iff.mp h
  obtain ⟨⟨name, afterName⟩, ht, h⟩ := bind_eq_ok_iff.mp h
  obtain ⟨afterColon, hc, h⟩ := bind_eq_ok_iff.mp h
  obtain ⟨⟨x, afterFirst⟩, hx, h⟩ := bind_eq_ok_iff.mp h
  obtain ⟨⟨ys, afterAll⟩, hy, h⟩ := bind_eq_ok_iff.mp h
  cases h
  have ⟨hfirst, hothers⟩ := List.forall_mem_cons.mp hn
  have hleft : afterFirst = [] → Ends rest := by
    rintro rfl
    obtain ⟨c, left, hs⟩ := exists_of_moreMembers hy
    cases hs
  simp only [membersFrom, openName_append ho, text_append ht, colon_append hc,
    ih.value hx hf hfirst hleft, ih.moreMembers hy hf hothers rest, ok_bind]
  rfl

theorem elements_extends {fuel : Nat} (ih : Extends fuel) {room : Nat} {xs : List Json}
    (h : elements (fuel + 1) room cs = .ok (xs, tail)) {more within : Nat} (hf : fuel ≤ more)
    (hn : ∀ x ∈ xs, Nests within x) (rest : List Char) :
    elements (more + 1) within (cs ++ rest) = .ok (xs, tail ++ rest) := by
  cases hs : skipSpace cs with
  | nil => simp [elements, hs] at h
  | cons c left =>
    rw [elements_eq hs] at h
    rw [elements_eq (skipSpace_append hs rest)]
    split at h
    · rename_i hc
      cases h
      exact if_pos hc
    · rename_i hc
      rw [if_neg hc]
      exact elementsFrom_extends ih h hf hn rest

theorem moreElements_extends {fuel : Nat} (ih : Extends fuel) {room : Nat} {xs : List Json}
    (h : moreElements (fuel + 1) room cs = .ok (xs, tail)) {more within : Nat} (hf : fuel ≤ more)
    (hn : ∀ x ∈ xs, Nests within x) (rest : List Char) :
    moreElements (more + 1) within (cs ++ rest) = .ok (xs, tail ++ rest) := by
  obtain ⟨c, left, hs⟩ := exists_of_moreElements h
  rw [moreElements_eq hs] at h
  rw [moreElements_eq (skipSpace_append hs rest)]
  split at h
  · rename_i hc
    cases h
    exact if_pos hc
  · rename_i hc
    split at h
    · rename_i hcomma
      rw [if_neg hc, if_pos hcomma]
      exact elementsFrom_extends ih h hf hn rest
    · cases h

theorem members_extends {fuel : Nat} (ih : Extends fuel) {room : Nat} {ms : List (String × Json)}
    (h : members (fuel + 1) room cs = .ok (ms, tail)) {more within : Nat} (hf : fuel ≤ more)
    (hn : ∀ m ∈ ms, Nests within m.2) (rest : List Char) :
    members (more + 1) within (cs ++ rest) = .ok (ms, tail ++ rest) := by
  cases hs : skipSpace cs with
  | nil => simp [members, hs] at h
  | cons c left =>
    rw [members_eq hs] at h
    rw [members_eq (skipSpace_append hs rest)]
    split at h
    · rename_i hc
      cases h
      exact if_pos hc
    · rename_i hc
      rw [if_neg hc]
      exact membersFrom_extends ih h hf hn rest

theorem moreMembers_extends {fuel : Nat} (ih : Extends fuel) {room : Nat}
    {ms : List (String × Json)} (h : moreMembers (fuel + 1) room cs = .ok (ms, tail))
    {more within : Nat} (hf : fuel ≤ more) (hn : ∀ m ∈ ms, Nests within m.2)
    (rest : List Char) : moreMembers (more + 1) within (cs ++ rest) = .ok (ms, tail ++ rest) := by
  obtain ⟨c, left, hs⟩ := exists_of_moreMembers h
  rw [moreMembers_eq hs] at h
  rw [moreMembers_eq (skipSpace_append hs rest)]
  split at h
  · rename_i hc
    cases h
    exact if_pos hc
  · rename_i hc
    split at h
    · rename_i hcomma
      rw [if_neg hc, if_pos hcomma]
      exact membersFrom_extends ih h hf hn rest
    · cases h

theorem extends_all (fuel : Nat) : Extends fuel := by
  induction fuel with
  | zero =>
    refine ⟨?_, ?_, ?_, ?_, ?_⟩
    · intro _ _ _ _ h
      simp [value] at h
    · intro _ _ _ _ h
      simp [elements] at h
    · intro _ _ _ _ h
      simp [moreElements] at h
    · intro _ _ _ _ h
      simp [members] at h
    · intro _ _ _ _ h
      simp [moreMembers] at h
  | succ fuel ih =>
    -- a successor is at most another one
    have hsucc {more : Nat} (hf : fuel + 1 ≤ more) : ∃ n, more = n + 1 :=
      ⟨more - 1, by omega⟩
    refine ⟨?_, ?_, ?_, ?_, ?_⟩
    · intro _ _ _ _ h _ _ hf hn _ he
      obtain ⟨more, rfl⟩ := hsucc hf
      exact value_extends ih h (Nat.le_of_succ_le_succ hf) hn he
    · intro _ _ _ _ h _ _ hf hn rest
      obtain ⟨more, rfl⟩ := hsucc hf
      exact elements_extends ih h (Nat.le_of_succ_le_succ hf) hn rest
    · intro _ _ _ _ h _ _ hf hn rest
      obtain ⟨more, rfl⟩ := hsucc hf
      exact moreElements_extends ih h (Nat.le_of_succ_le_succ hf) hn rest
    · intro _ _ _ _ h _ _ hf hn rest
      obtain ⟨more, rfl⟩ := hsucc hf
      exact members_extends ih h (Nat.le_of_succ_le_succ hf) hn rest
    · intro _ _ _ _ h _ _ hf hn rest
      obtain ⟨more, rfl⟩ := hsucc hf
      exact moreMembers_extends ih h (Nat.le_of_succ_le_succ hf) hn rest

/-- A value that is read from a text is read from every longer text as well, if a number at its
end does not go on, and with any room that it nests within. -/
theorem value_append {fuel room : Nat} {x : Json} (h : value fuel room cs = .ok (x, tail))
    {more within : Nat} (hf : fuel ≤ more) (hn : Nests within x) (he : tail = [] → Ends rest) :
    value more within (cs ++ rest) = .ok (x, tail ++ rest) :=
  (extends_all fuel).value h hf hn he

end Reader

end HeaterLink.Json
