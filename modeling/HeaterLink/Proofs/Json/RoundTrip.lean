import HeaterLink.Json.Writer
import HeaterLink.Proofs.Json.Written

/-!
# Reading what was written

A value that nests no deeper than the reader allows, and whose numbers are
integers of 64 bits, is read back from its own text. What is written of an array
or an object is the texts of its elements or members, between marks.

## Main definitions

* `Json.Plain`, the values that read back, by how many brackets may be open.

## Main statements

* `Json.readChars_write`, the text of a value.
* `Json.readBytes_render`, a written document.
-/

namespace HeaterLink.Json

open Reader

/-- A value with integers only, which opens at most `room` brackets inside one another. -/
inductive Plain : (room : Nat) → Json → Prop where
  | null (room : Nat) : Plain room .null
  | bool (room : Nat) (b : Bool) : Plain room (.bool b)
  | integer (room : Nat) {n : Int} (fits : Reader.Fits n) : Plain room (.integer n)
  | string (room : Nat) (s : String) : Plain room (.string s)
  | array {room : Nat} {items : List Json} (each : ∀ x ∈ items, Plain room x) :
      Plain (room + 1) (.array items)
  | object {room : Nat} {members : List (String × Json)} (each : ∀ m ∈ members, Plain room m.2) :
      Plain (room + 1) (.object members)

theorem Plain.mono {room more : Nat} {x : Json} (h : Plain room x) (hle : room ≤ more) :
    Plain more x := by
  induction h generalizing more with
  | null => exact .null more
  | bool _ b => exact .bool more b
  | integer _ fits => exact .integer more fits
  | string _ s => exact .string more s
  | array _ ih =>
    obtain ⟨more, rfl⟩ : ∃ n, more = n + 1 := ⟨more - 1, by omega⟩
    exact .array fun x hx => ih x hx (by omega)
  | object _ ih =>
    obtain ⟨more, rfl⟩ : ∃ n, more = n + 1 := ⟨more - 1, by omega⟩
    exact .object fun m hm => ih m hm (by omega)

theorem Plain.nests {room : Nat} {x : Json} (h : Plain room x) : Nests room x := by
  induction h with
  | null room => exact .null room
  | bool room b => exact .bool room b
  | integer room _ => exact .number room _
  | string room s => exact .string room s
  | array _ ih => exact .array ih
  | object _ ih => exact .object ih

/-! ## Scalars -/

namespace Reader

/-- A written integer begins with a character that begins a number. -/
theorem startsNumber_int (n : Int) : ∃ c cs, Decimal.int n = c :: cs ∧ startsNumber c = true := by
  by_cases hn : n < 0
  · exact ⟨'-', _, by rw [Decimal.int, if_pos hn], by decide⟩
  · cases hds : Decimal.nat n.natAbs with
    | nil => exact absurd hds (by simp [Decimal.nat])
    | cons c cs =>
      have hc : isDigit c = true := isDigit_of_mem_nat (n := n.natAbs) (by simp [hds])
      exact ⟨c, cs, by rw [Decimal.int, if_neg hn, hds], by simp [startsNumber, hc]⟩

/-- A character that begins a number begins nothing else. -/
theorem ne_of_startsNumber {c x : Char} (h : startsNumber c = true)
    (hx : startsNumber x = false) : c ≠ x := by
  rintro rfl
  exact absurd (h.symm.trans hx) (by decide)

theorem isSpace_of_startsNumber {c : Char} (h : startsNumber c = true) : isSpace c = false := by
  have hne : ∀ x, startsNumber x = false → c ≠ x := fun _ => ne_of_startsNumber h
  simp [isSpace, hne ' ' (by decide), hne '\t' (by decide), hne '\n' (by decide),
    hne '\r' (by decide)]

theorem value_scalar {fuel room : Nat} {c : Char} (hs : isSpace c = false) (ha : c ≠ '[')
    (ho : c ≠ '{') (cs : List Char) : value (fuel + 1) room (c :: cs) = scalar c cs := by
  rw [value, skipSpace_cons hs]
  show (if c = '[' then _ else if c = '{' then _ else scalar c cs) = scalar c cs
  rw [if_neg ha, if_neg ho]

theorem scalar_number {c : Char} (h : startsNumber c = true) (cs : List Char) :
    scalar c cs = (do
      let (n, rest) ← Reader.number (c :: cs)
      return (.number n, rest)) := by
  have hne : ∀ x, startsNumber x = false → c ≠ x := fun _ => ne_of_startsNumber h
  rw [scalar, if_neg (hne 'n' (by decide)), if_neg (hne 't' (by decide)),
    if_neg (hne 'f' (by decide)), if_neg (hne '"' (by decide)), if_pos h]

end Reader

/-- A document that begins like a number is one, if it is read to its end. -/
theorem readChars_number {c : Char} {cs : List Char} (hc : startsNumber c = true)
    {found : Except Fault Number} (h : Reader.number (c :: cs) = found.map (·, [])) :
    readChars (c :: cs) = found.map Json.number := by
  rw [readChars, value_scalar (isSpace_of_startsNumber hc) (ne_of_startsNumber hc (by decide))
    (ne_of_startsNumber hc (by decide)), scalar_number hc, h]
  cases found <;> rfl

theorem readChars_integer {n : Int} (h : Fits n) :
    readChars (Decimal.int n) = .ok (.integer n) := by
  have hread := number_int h ends_nil
  obtain ⟨c, cs, hw, hc⟩ := startsNumber_int n
  rw [List.append_nil, hw] at hread
  have hdoc : readChars (c :: cs) = (Except.ok (.integer n)).map Json.number :=
    readChars_number hc hread
  rw [hw, hdoc]
  rfl

theorem readChars_quoted (s : String) : readChars (quoted s) = .ok (.string s) := by
  rw [readChars, quoted, value_scalar (by decide) (by decide) (by decide)]
  show (do
    let found ← (do
      let found ← text (s.toList.flatMap escaped ++ '"' :: [])
      return (Json.string found.1, found.2))
    _) = _
  rw [text_quoted]
  rfl

/-- A member with its name between quotes. -/
def WrittenMember.named {room : Nat} (name : String) (w : Written room) : WrittenMember room :=
  ⟨quoted name, name, readChars_quoted name, w⟩

/-! ## Arrays and objects -/

theorem writeMoreItems_eq (xs : List Json) :
    writeMoreItems xs = xs.flatMap (fun x => ',' :: write x) ++ [']'] := by
  induction xs with
  | nil => rw [writeMoreItems, List.flatMap_nil, List.nil_append]
  | cons x xs ih => simp [writeMoreItems, ih]

theorem writeMoreMembers_eq (ms : List (String × Json)) :
    writeMoreMembers ms = ms.flatMap (fun m => ',' :: writeMember m) ++ ['}'] := by
  induction ms with
  | nil => rw [writeMoreMembers, List.flatMap_nil, List.nil_append]
  | cons m ms ih => simp [writeMoreMembers, ih]

theorem writeMember_eq (m : String × Json) : writeMember m = quoted m.1 ++ ':' :: write m.2 := by
  obtain ⟨name, x⟩ := m
  rw [writeMember]

theorem write_array (items : List Json) :
    write (.array items) = '[' :: (List.intercalate [','] (items.map write) ++ [']']) := by
  cases items with
  | nil => simp [write, writeItems]
  | cons x xs =>
    simp [write, writeItems, writeMoreItems_eq, intercalate_cons, List.flatMap_map]

theorem write_object (members : List (String × Json)) :
    write (.object members) =
      '{' :: (List.intercalate [','] (members.map writeMember) ++ ['}']) := by
  cases members with
  | nil => simp [write, writeMembers]
  | cons m ms =>
    simp [write, writeMembers, writeMoreMembers_eq, intercalate_cons, List.flatMap_map]

variable {room : Nat}

/-- A list of values with their texts. -/
theorem exists_written {items : List Json} (hn : ∀ x ∈ items, Nests room x)
    (hr : ∀ x ∈ items, readChars (write x) = .ok x) :
    ∃ ws : List (Written room),
      ws.map Written.text = items.map write ∧ ws.map Written.value = items := by
  refine ⟨items.attach.map fun x => ⟨write x.1, x.1, hr x.1 x.2, hn x.1 x.2⟩, ?_, ?_⟩ <;> simp

/-- A list of members with their texts. -/
theorem exists_writtenMembers {members : List (String × Json)} (hn : ∀ m ∈ members, Nests room m.2)
    (hr : ∀ m ∈ members, readChars (write m.2) = .ok m.2) :
    ∃ ms : List (WrittenMember room),
      ms.map WrittenMember.text = members.map writeMember ∧
        ms.map WrittenMember.member = members := by
  let written (m : {m // m ∈ members}) : WrittenMember room :=
    .named m.1.1 ⟨write m.1.2, m.1.2, hr m.1 m.2, hn m.1 m.2⟩
  refine ⟨members.attach.map written, ?_, ?_⟩
  · have htext : WrittenMember.text ∘ written = fun m => writeMember m.1 :=
      funext fun m => (writeMember_eq m.1).symm
    rw [List.map_map, htext, List.attach_map_val]
  · rw [List.map_map]
    exact List.attach_map_subtype_val members

/-! ## Documents -/

theorem readChars_write {x : Json} (h : Plain room x) (hroom : room ≤ maxDepth) :
    readChars (write x) = .ok x := by
  induction h with
  | null room =>
    exact readChars_of_value (.null room) hroom
      (value_scalar (by decide) (by decide) (by decide) _)
  | bool room b =>
    refine readChars_of_value (.bool room b) hroom ?_
    cases b <;> exact value_scalar (by decide) (by decide) (by decide) _
  | integer _ fits => exact readChars_integer fits
  | string _ s => exact readChars_quoted s
  | array each ih =>
    obtain ⟨ws, htexts, hvalues⟩ := exists_written (fun x hx => (each x hx).nests)
      fun x hx => ih x hx (Nat.le_of_succ_le hroom)
    have hread := readChars_arrayText noBlanks ws hroom
    rwa [hvalues, arrayText, htexts, noBlanks, List.nil_append, ← write_array] at hread
  | object each ih =>
    obtain ⟨ms, htexts, hvalues⟩ := exists_writtenMembers (fun m hm => (each m hm).nests)
      fun m hm => ih m hm (Nat.le_of_succ_le hroom)
    have hread := readChars_objectText noBlanks ms hroom
    rwa [hvalues, objectText, htexts, noBlanks, List.nil_append, ← write_object] at hread

/-- The text of a plain value. -/
def Written.ofPlain {x : Json} (h : Plain room x) (hr : room ≤ maxDepth) : Written room :=
  ⟨write x, x, readChars_write h hr, h.nests⟩

/-- A document is read back from the bytes of its text. -/
theorem readBytes_render {x : Json} (h : Plain maxDepth x) : readBytes (render x).toUTF8 = .ok x :=
  (readBytes_toUTF8 (write x)).trans (readChars_write h (Nat.le_refl _))

end HeaterLink.Json
