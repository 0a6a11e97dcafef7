import HeaterLink.Proofs.Json.Locality
import HeaterLink.Proofs.Text
import Mathlib.Data.List.DropRight

/-!
# Arrays and objects of written values

Texts that read by themselves read as elements of an array and as members of an
object, between any blanks, as long as they leave room for the bracket around
them. Each keeps its value.

## Main definitions

* `Json.Written`, a text together with the value that it reads as.
* `Json.WrittenMember`, a name and such a text.
* `Json.arrayText` and `Json.objectText`, with marks and blanks around them.

## Main statements

* `Json.readChars_arrayText` and `Json.readChars_objectText`.
-/

namespace HeaterLink.Json

/-- A text that reads as a value, which nests within some room. -/
structure Written (room : Nat) where
  text : List Char
  value : Json
  reads : readChars text = .ok value
  nests : Nests room value

/-- Two texts for a member of an object, of which the first reads as its name. -/
structure WrittenMember (room : Nat) where
  nameText : List Char
  name : String
  readsName : readChars nameText = .ok (.string name)
  content : Written room

/-- Blanks that may stand between any two tokens. -/
abbrev Blanks := {cs : List Char // ∀ c ∈ cs, Reader.isSpace c = true}

def noBlanks : Blanks := ⟨[], by simp⟩

namespace WrittenMember

variable {room : Nat}

def text (m : WrittenMember room) : List Char := m.nameText ++ ':' :: m.content.text

def member (m : WrittenMember room) : String × Json := (m.name, m.content.value)

end WrittenMember

/-- Elements between brackets. The blanks count where there are no elements; elsewhere each
text brings its own. -/
def arrayText {room : Nat} (blanks : Blanks) (ws : List (Written room)) : List Char :=
  '[' :: (blanks.1 ++ List.intercalate [','] (ws.map Written.text) ++ [']'])

def objectText {room : Nat} (blanks : Blanks) (ms : List (WrittenMember room)) : List Char :=
  '{' :: (blanks.1 ++ List.intercalate [','] (ms.map WrittenMember.text) ++ ['}'])

theorem Nests.mono {room more : Nat} {x : Json} (h : Nests room x) (hle : room ≤ more) :
    Nests more x := by
  induction h generalizing more with
  | null => exact .null more
  | bool _ b => exact .bool more b
  | number _ n => exact .number more n
  | string _ s => exact .string more s
  | array _ ih =>
    obtain ⟨more, rfl⟩ : ∃ n, more = n + 1 := ⟨more - 1, by omega⟩
    exact .array fun x hx => ih x hx (by omega)
  | object _ ih =>
    obtain ⟨more, rfl⟩ : ∃ n, more = n + 1 := ⟨more - 1, by omega⟩
    exact .object fun m hm => ih m hm (by omega)

namespace Reader

variable {room fuel : Nat} {cs tail rest : List Char} {x : Json}

/-! ## Blanks -/

theorem skipSpace_blanks {blanks : List Char} (h : ∀ c ∈ blanks, isSpace c = true)
    (cs : List Char) : skipSpace (blanks ++ cs) = skipSpace cs :=
  List.dropWhile_append_of_pos h

theorem skipSpace_blanks_cons (blanks : Blanks) {c : Char} (hc : isSpace c = false)
    (cs : List Char) : skipSpace (blanks.1 ++ c :: cs) = c :: cs := by
  rw [skipSpace_blanks blanks.2, skipSpace_cons hc]

theorem skipSpace_eq_nil_iff : skipSpace cs = [] ↔ ∀ c ∈ cs, isSpace c = true :=
  List.dropWhile_eq_nil_iff

theorem skipSpace_skipSpace (cs : List Char) : skipSpace (skipSpace cs) = skipSpace cs :=
  List.dropWhile_idempotent isSpace cs

/-- A reader that skips blanks reads the same behind them. -/
theorem value_skipSpace (fuel room : Nat) (cs : List Char) :
    value fuel room (skipSpace cs) = value fuel room cs := by
  cases fuel with
  | zero => rw [value, value]
  | succ fuel => rw [value, value, skipSpace_skipSpace]

theorem openName_skipSpace (cs : List Char) : openName (skipSpace cs) = openName cs := by
  rw [openName, openName, skipSpace_skipSpace]

/-! ## Documents -/

theorem readChars_eq_ok_iff : readChars cs = .ok x ↔ ∃ tail,
    value (2 * cs.length + 1) maxDepth cs = .ok (x, tail) ∧ ∀ c ∈ tail, isSpace c = true := by
  rw [readChars, bind_eq_ok_iff, Prod.exists]
  simp only [finish, skipSpace_eq_nil_iff]
  constructor
  · rintro ⟨found, tail, hv, h⟩
    split at h
    · rename_i ht
      cases h
      exact ⟨tail, hv, ht⟩
    · cases h
  · rintro ⟨tail, hv, ht⟩
    exact ⟨x, tail, hv, if_pos ht⟩

/-- No value begins with the end of an array. -/
theorem exists_of_value (h : value fuel room cs = .ok (x, tail)) :
    ∃ c left, skipSpace cs = c :: left ∧ c ≠ ']' := by
  cases fuel with
  | zero => simp [value] at h
  | succ fuel =>
    cases hs : skipSpace cs with
    | nil => simp [value, hs] at h
    | cons c left =>
      refine ⟨c, left, rfl, ?_⟩
      rintro rfl
      rw [value, hs] at h
      cases h

theorem scalar_eq_string {c : Char} {s : String} (h : scalar c cs = .ok (.string s, tail)) :
    c = '"' ∧ text cs = .ok (s, tail) := by
  unfold scalar at h
  iterate 3
    split at h
    · obtain ⟨more, -, h⟩ := bind_eq_ok_iff.mp h
      cases h
  split at h
  · rename_i hc
    obtain ⟨⟨found, more⟩, ht, h⟩ := bind_eq_ok_iff.mp h
    cases h
    exact ⟨hc, ht⟩
  · split at h
    · obtain ⟨⟨n, more⟩, -, h⟩ := bind_eq_ok_iff.mp h
      cases h
    · cases h

/-- Behind the opening quote of a string stands its text. -/
theorem value_eq_string {s : String} (h : value fuel room cs = .ok (.string s, tail)) :
    ∃ left, openName cs = .ok left ∧ text left = .ok (s, tail) := by
  cases fuel with
  | zero => simp [value] at h
  | succ fuel =>
    rw [value] at h
    split at h
    · cases h
    · rename_i c left hs
      split at h
      · split at h
        · cases h
        · obtain ⟨found, -, h⟩ := bind_eq_ok_iff.mp h
          cases h
      · split at h
        · split at h
          · cases h
          · obtain ⟨found, -, h⟩ := bind_eq_ok_iff.mp h
            cases h
        · obtain ⟨rfl, ht⟩ := scalar_eq_string h
          refine ⟨left, ?_, ht⟩
          rw [openName, hs]
          rfl

/-! ## Elements -/

/-- In front of other text a written value leaves no more than blanks of its own. -/
theorem value_written (w : Written room) (hf : 2 * w.text.length + 1 ≤ fuel)
    (he : Ends rest) :
    ∃ blanks : Blanks, value fuel room (w.text ++ rest) = .ok (w.value, blanks.1 ++ rest) := by
  obtain ⟨tail, hv, ht⟩ := readChars_eq_ok_iff.mp w.reads
  exact ⟨⟨tail, ht⟩, value_append hv hf w.nests fun _ => he⟩

/-- What closes a list of further elements or members, or stands in front of one. -/
theorem ends_flatMap {α : Type} (f : α → List Char) (xs : List α) (last : Char)
    (hl : isDigit last = false ∧ last ≠ '.' ∧ last ≠ 'e' ∧ last ≠ 'E') (rest : List Char) :
    Ends (xs.flatMap (fun x => ',' :: f x) ++ last :: rest) := by
  cases xs with
  | nil => exact ends_cons hl rest
  | cons x xs => exact ends_cons (by decide) _

theorem moreElements_written (ws : List (Written room)) (blanks : Blanks) (rest : List Char)
    (hf : 2 * (ws.flatMap (fun w => ',' :: w.text)).length + 1 ≤ fuel) :
    moreElements fuel room (blanks.1 ++ (ws.flatMap (fun w => ',' :: w.text) ++ ']' :: rest)) =
      .ok (ws.map Written.value, rest) := by
  induction ws generalizing fuel blanks with
  | nil =>
    obtain ⟨fuel, rfl⟩ : ∃ n, fuel = n + 1 := ⟨fuel - 1, by omega⟩
    exact moreElements_eq (skipSpace_blanks_cons blanks (by decide) rest)
  | cons w ws ih =>
    simp only [List.flatMap_cons, List.length_append, List.length_cons] at hf
    obtain ⟨fuel, rfl⟩ : ∃ n, fuel = n + 1 := ⟨fuel - 1, by omega⟩
    have hfirst : 2 * w.text.length + 1 ≤ fuel := by omega
    obtain ⟨own, hv⟩ := value_written w hfirst
      (ends_flatMap Written.text ws ']' (by decide) rest)
    have hothers : 2 * (ws.flatMap (fun w => ',' :: w.text)).length + 1 ≤ fuel := by omega
    have hmore := ih own hothers
    rw [List.flatMap_cons, List.cons_append, List.cons_append, List.append_assoc,
      moreElements_eq (skipSpace_blanks_cons blanks (by decide) _)]
    show elementsFrom fuel room _ = _
    simp only [elementsFrom, hv, hmore, ok_bind]
    rfl

theorem elements_written (ws : List (Written room)) (blanks : Blanks) (rest : List Char)
    (hf : 2 * (List.intercalate [','] (ws.map Written.text)).length + 2 ≤ fuel) :
    elements fuel room
        (blanks.1 ++ (List.intercalate [','] (ws.map Written.text) ++ ']' :: rest)) =
      .ok (ws.map Written.value, rest) := by
  obtain ⟨fuel, rfl⟩ : ∃ n, fuel = n + 1 := ⟨fuel - 1, by omega⟩
  cases ws with
  | nil =>
    exact elements_eq (skipSpace_blanks_cons blanks (by decide) rest)
  | cons w ws =>
    simp only [List.map_cons, intercalate_cons, List.flatMap_map, List.length_append] at hf ⊢
    have hfirst : 2 * w.text.length + 1 ≤ fuel := by omega
    obtain ⟨own, hv⟩ := value_written w hfirst
      (ends_flatMap Written.text ws ']' (by decide) rest)
    have hothers : 2 * (ws.flatMap (fun w => ',' :: w.text)).length + 1 ≤ fuel := by omega
    have hmore := moreElements_written ws own rest hothers
    obtain ⟨c, left, hs, hc⟩ := exists_of_value hv
    rw [List.append_assoc, elements_eq (by rw [skipSpace_blanks blanks.2, hs]), if_neg hc, ← hs]
    simp only [elementsFrom, value_skipSpace, hv, hmore, ok_bind]
    rfl

/-! ## Members -/

/-- A written member gives its name and its value, and leaves no more than blanks. -/
theorem membersFrom_written (m : WrittenMember room) (hf : 2 * m.text.length + 1 ≤ fuel)
    (he : Ends rest) : ∃ blanks : Blanks, membersFrom fuel room (m.text ++ rest) = do
      let (ms, rest) ← moreMembers fuel room (blanks.1 ++ rest)
      return (m.member :: ms, rest) := by
  obtain ⟨afterName, hname, hblank⟩ := readChars_eq_ok_iff.mp m.readsName
  obtain ⟨left, hopen, htext⟩ := value_eq_string hname
  simp only [WrittenMember.text, List.length_append, List.length_cons] at hf
  have hcontent : 2 * m.content.text.length + 1 ≤ fuel := by omega
  obtain ⟨own, hv⟩ := value_written m.content hcontent he
  have hcolon : colon (afterName ++ ':' :: (m.content.text ++ rest)) =
      .ok (m.content.text ++ rest) := by
    rw [colon, skipSpace_blanks hblank, skipSpace_cons (by decide)]
    rfl
  refine ⟨own, ?_⟩
  rw [WrittenMember.text, List.append_assoc, List.cons_append]
  simp only [membersFrom, openName_append hopen, text_append htext, hcolon, hv, ok_bind]
  rfl

theorem membersFrom_skipSpace (fuel room : Nat) (cs : List Char) :
    membersFrom fuel room (skipSpace cs) = membersFrom fuel room cs := by
  rw [membersFrom, membersFrom, openName_skipSpace]

/-- A written member begins with the quote of its name. -/
theorem skipSpace_member (m : WrittenMember room) (rest : List Char) :
    ∃ left, skipSpace (m.text ++ rest) = '"' :: left := by
  obtain ⟨afterName, hname, -⟩ := readChars_eq_ok_iff.mp m.readsName
  obtain ⟨left, hopen, -⟩ := value_eq_string hname
  unfold openName at hopen
  split at hopen
  · cases hopen
  · rename_i hs
    rw [WrittenMember.text, List.append_assoc]
    exact ⟨_, skipSpace_append hs _⟩
  · cases hopen

theorem moreMembers_written (ms : List (WrittenMember room)) (blanks : Blanks) (rest : List Char)
    (hf : 2 * (ms.flatMap (fun m => ',' :: m.text)).length + 1 ≤ fuel) :
    moreMembers fuel room (blanks.1 ++ (ms.flatMap (fun m => ',' :: m.text) ++ '}' :: rest)) =
      .ok (ms.map WrittenMember.member, rest) := by
  induction ms generalizing fuel blanks with
  | nil =>
    obtain ⟨fuel, rfl⟩ : ∃ n, fuel = n + 1 := ⟨fuel - 1, by omega⟩
    exact moreMembers_eq (skipSpace_blanks_cons blanks (by decide) rest)
  | cons m ms ih =>
    simp only [List.flatMap_cons, List.length_append, List.length_cons] at hf
    obtain ⟨fuel, rfl⟩ : ∃ n, fuel = n + 1 := ⟨fuel - 1, by omega⟩
    have hfirst : 2 * m.text.length + 1 ≤ fuel := by omega
    obtain ⟨own, hm⟩ := membersFrom_written m hfirst
      (ends_flatMap WrittenMember.text ms '}' (by decide) rest)
    have hothers : 2 * (ms.flatMap (fun m => ',' :: m.text)).length + 1 ≤ fuel := by omega
    have hmore := ih own hothers
    rw [List.flatMap_cons, List.cons_append, List.cons_append, List.append_assoc,
      moreMembers_eq (skipSpace_blanks_cons blanks (by decide) _)]
    show membersFrom fuel room _ = _
    rw [hm, hmore]
    rfl

theorem members_written (ms : List (WrittenMember room)) (blanks : Blanks) (rest : List Char)
    (hf : 2 * (List.intercalate [','] (ms.map WrittenMember.text)).length + 2 ≤ fuel) :
    members fuel room
        (blanks.1 ++ (List.intercalate [','] (ms.map WrittenMember.text) ++ '}' :: rest)) =
      .ok (ms.map WrittenMember.member, rest) := by
  obtain ⟨fuel, rfl⟩ : ∃ n, fuel = n + 1 := ⟨fuel - 1, by omega⟩
  cases ms with
  | nil =>
    exact members_eq (skipSpace_blanks_cons blanks (by decide) rest)
  | cons m ms =>
    simp only [List.map_cons, intercalate_cons, List.flatMap_map, List.length_append] at hf ⊢
    have hfirst : 2 * m.text.length + 1 ≤ fuel := by omega
    obtain ⟨own, hm⟩ := membersFrom_written m hfirst
      (ends_flatMap WrittenMember.text ms '}' (by decide) rest)
    have hothers : 2 * (ms.flatMap (fun m => ',' :: m.text)).length + 1 ≤ fuel := by omega
    have hmore := moreMembers_written ms own rest hothers
    obtain ⟨left, hs⟩ := skipSpace_member m (ms.flatMap (',' :: ·.text) ++ '}' :: rest)
    rw [List.append_assoc, members_eq (by rw [skipSpace_blanks blanks.2, hs]),
      if_neg (by decide), ← hs, membersFrom_skipSpace, hm, hmore]
    rfl

end Reader

/-! ## Documents -/

open Reader

variable {room : Nat} {cs : List Char} {x : Json}

theorem readChars_of_value (hn : Nests room x) (hr : room ≤ maxDepth)
    (h : value (2 * cs.length + 1) room cs = .ok (x, [])) : readChars cs = .ok x := by
  have hv := value_append h (Nat.le_refl _) (hn.mono hr) fun _ => ends_nil
  rw [List.append_nil] at hv
  exact readChars_eq_ok_iff.mpr ⟨[], hv, by simp⟩

/-- Blanks around a document make no difference. -/
theorem readChars_between (before after : Blanks) (w : Written maxDepth) :
    readChars (before.1 ++ (w.text ++ after.1)) = .ok w.value := by
  have hends : Ends after.1 := by
    intro c hc
    have hspace := after.2 c (List.mem_of_head? hc)
    simp only [isSpace, Bool.or_eq_true, decide_eq_true_eq] at hspace
    rcases hspace with ((rfl | rfl) | rfl) | rfl <;> decide
  have hfuel : 2 * w.text.length + 1 ≤ 2 * (before.1 ++ (w.text ++ after.1)).length + 1 := by
    simp only [List.length_append]
    omega
  obtain ⟨own, hv⟩ := value_written w hfuel hends
  refine readChars_eq_ok_iff.mpr ⟨own.1 ++ after.1, ?_, ?_⟩
  · rw [← value_skipSpace, skipSpace_blanks before.2, value_skipSpace, hv]
  · exact fun c hc => (List.mem_append.mp hc).elim (own.2 c) (after.2 c)

theorem nests_array (ws : List (Written room)) :
    Nests (room + 1) (.array (ws.map Written.value)) := by
  refine .array fun x hx => ?_
  obtain ⟨w, -, rfl⟩ := List.mem_map.mp hx
  exact w.nests

theorem readChars_arrayText (blanks : Blanks) (ws : List (Written room)) (hr : room < maxDepth) :
    readChars (arrayText blanks ws) = .ok (.array (ws.map Written.value)) := by
  refine readChars_of_value (nests_array ws) hr ?_
  have hfuel : 2 * (List.intercalate [','] (ws.map Written.text)).length + 2 ≤
      2 * (arrayText blanks ws).length := by
    simp only [arrayText, List.length_append, List.length_cons]
    omega
  have hitems := elements_written ws blanks [] hfuel
  rw [value, arrayText, skipSpace_cons (by decide), List.append_assoc]
  rw [arrayText, List.append_assoc] at hitems
  show (do
    let found ← elements _ room _
    return (Json.array found.1, found.2)) = _
  rw [hitems, ok_bind]
  rfl

theorem nests_object (ms : List (WrittenMember room)) :
    Nests (room + 1) (.object (ms.map WrittenMember.member)) := by
  refine .object fun k hk => ?_
  obtain ⟨m, -, rfl⟩ := List.mem_map.mp hk
  exact m.content.nests

theorem readChars_objectText (blanks : Blanks) (ms : List (WrittenMember room))
    (hr : room < maxDepth) :
    readChars (objectText blanks ms) = .ok (.object (ms.map WrittenMember.member)) := by
  refine readChars_of_value (nests_object ms) hr ?_
  have hfuel : 2 * (List.intercalate [','] (ms.map WrittenMember.text)).length + 2 ≤
      2 * (objectText blanks ms).length := by
    simp only [objectText, List.length_append, List.length_cons]
    omega
  have hmembers := members_written ms blanks [] hfuel
  rw [value, objectText, skipSpace_cons (by decide), List.append_assoc]
  rw [objectText, List.append_assoc] at hmembers
  show (do
    let found ← members _ room _
    return (Json.object found.1, found.2)) = _
  rw [hmembers, ok_bind]
  rfl

/-- A document made of written elements. -/
def Written.ofElements (blanks : Blanks) (ws : List (Written room)) (hr : room < maxDepth) :
    Written (room + 1) :=
  ⟨arrayText blanks ws, _, readChars_arrayText blanks ws hr, nests_array ws⟩

/-- A document made of written members. -/
def Written.ofMembers (blanks : Blanks) (ms : List (WrittenMember room)) (hr : room < maxDepth) :
    Written (room + 1) :=
  ⟨objectText blanks ms, _, readChars_objectText blanks ms hr, nests_object ms⟩

/-- Bytes that spell a text. -/
theorem readBytes_toUTF8 (cs : List Char) :
    readBytes (String.ofList cs).toUTF8 = readChars cs := by
  have hbytes : (String.ofList cs).toUTF8.utf8Decode? = some cs.toArray := by
    rw [String.toUTF8_eq_toByteArray, String.toByteArray_ofList, List.utf8Decode?_utf8Encode]
  rw [readBytes, hbytes]

end HeaterLink.Json
