import HeaterLink.Proofs.Account.Settings
import HeaterLink.Proofs.Json.Skim

/-!
# Settings in any layout

What settings a text gives depends on the values in it and on nothing else: not
on the order of the members, not on the blanks or the spelling of names and
strings, and not on members of other names, whatever they hold. An array of the
first values gives the same as an object of them. A field given twice is refused.

## Main definitions

* `Account.Config.Member` and `Account.Config.Element`, what an object and an array hold.
* `Account.Config.Lists` and `Account.Config.Begins`, objects and arrays of some values.

## Main statements

* `Account.Config.ofJson_members` and `Account.Config.ofJson_elements`, what an object and an
  array are read as.
* `Account.Config.exists_lists`, an object for every choice of values.
* `Account.Config.ofJson_layout`, settings read independently of their layout.
-/

namespace HeaterLink.Account

open Json Json.Reader

namespace Config

variable {rest : List Char}

/-! ## Members -/

/-- What the value of a member of this name says: a setting, or nothing that counts. -/
inductive Holds : Option Setting → String → List Char → Prop where
  | setting (f : Field) {x : f.Value} {cs : List Char} (h : Field.Writes f.kind x cs) :
      Holds (some ⟨f, x⟩) f.name cs
  | other {name : String} {cs : List Char} (hn : ∀ f : Field, f.name ≠ name)
      (h : Derives .value cs) : Holds none name cs

/-- A member of an object as it is written, with blanks around its name and its value. -/
structure Member where
  setting? : Option Setting
  name : String
  nameText : List Char
  valueText : List Char
  before : Blanks := noBlanks
  afterName : Blanks := noBlanks
  beforeValue : Blanks := noBlanks
  after : Blanks := noBlanks
  spells : Spelling nameText name.toList
  holds : Holds setting? name valueText

def Member.text (m : Member) : List Char :=
  m.before.1 ++ '"' :: (m.nameText ++ '"' :: (m.afterName.1 ++ ':' ::
    (m.beforeValue.1 ++ (m.valueText ++ m.after.1))))

/-- The settings among some members, in their order. -/
def settings (ms : List Member) : List Setting := ms.filterMap Member.setting?

/-- Members between braces. The blanks count where there are no members. -/
def membersText (blanks : Blanks) (ms : List Member) : List Char :=
  '{' :: (blanks.1 ++ List.intercalate [','] (ms.map Member.text) ++ ['}'])

/-- What the reader has gathered when these settings were given, the last one first. -/
def gathered (ss : List Setting) : Progress := ⟨ofChoice (chosen ss), ss.keys⟩

theorem ofName?_eq_none {name : String} (h : ∀ f : Field, f.name ≠ name) :
    Field.ofName? name = none := by
  simp [Field.ofName?, h]

/-- The part of a member behind its name. -/
def readNamed (p : Progress) (name : String) (cs : List Char) :
    Except Fault (Progress × List Char) :=
  match Field.ofName? name with
  | some f => do
    if f ∈ p.given then throw .unsuited
    let (config, rest) ← p.config.readField f (← colon cs)
    return (⟨config, f :: p.given⟩, rest)
  | none => do return (p, ← skipValue (← colon cs))

theorem readMember_spelling (p : Progress) (before : Blanks) {nameText : List Char} {name : String}
    (h : Spelling nameText name.toList) (cs : List Char) :
    readMember p (before.1 ++ '"' :: (nameText ++ '"' :: cs)) = readNamed p name cs := by
  have hname := text_spelling h cs
  rw [String.ofList_toList] at hname
  rw [readMember, openName_blanks, ok_bind, hname, ok_bind]
  rfl

theorem readNamed_repeated {p : Progress} {f : Field} (h : f ∈ p.given) (cs : List Char) :
    readNamed p f.name cs = .error .unsuited := by
  simp only [readNamed, Field.ofName?_name, h, if_true]
  rfl

theorem readNamed_setting {ss : List Setting} {f : Field} {x : f.Value} {valueText : List Char}
    (hf : f ∉ ss.keys) (afterName beforeValue : Blanks) (h : Field.Writes f.kind x valueText)
    (he : Ends rest) :
    readNamed (gathered ss) f.name
        (afterName.1 ++ ':' :: (beforeValue.1 ++ (valueText ++ rest))) =
      .ok (gathered (⟨f, x⟩ :: ss), rest) := by
  have hf : f ∉ (gathered ss).given := hf
  have hread : (ofChoice (chosen ss)).readField f (beforeValue.1 ++ (valueText ++ rest)) = _ :=
    readField_writes beforeValue h he
  simp only [readNamed, Field.ofName?_name, hf, if_false, colon_blanks]
  show (do
    let (config, rest) ← (ofChoice (chosen ss)).readField f _
    return ((⟨config, f :: ss.keys⟩ : Progress), rest)) = _
  rw [hread]
  rfl

theorem readNamed_other {name : String} {valueText : List Char} (hn : ∀ f : Field, f.name ≠ name)
    (p : Progress) (afterName beforeValue after : Blanks) (h : Derives .value valueText)
    (he : Ends rest) : ∃ blanks : Blanks,
    readNamed p name
        (afterName.1 ++ ':' :: (beforeValue.1 ++ (valueText ++ (after.1 ++ rest)))) =
      .ok (p, blanks.1 ++ rest) := by
  obtain ⟨own, hskip⟩ := skipValue_element (.element beforeValue after h) he
  simp only [List.append_assoc] at hskip
  refine ⟨own, ?_⟩
  simp only [readNamed, ofName?_eq_none hn, colon_blanks, ok_bind, hskip]
  rfl

/-- A member adds its setting, unless the field was given before. -/
theorem readMember_text (m : Member) (ss : List Setting) (he : Ends rest) :
    ∃ blanks : Blanks, readMember (gathered ss) (m.text ++ rest) =
      match m.setting? with
      | none => .ok (gathered ss, blanks.1 ++ rest)
      | some s =>
        if s.1 ∈ ss.keys then .error .unsuited else .ok (gathered (s :: ss), blanks.1 ++ rest) := by
  obtain ⟨setting?, name, nameText, valueText, before, afterName, beforeValue, after, spells,
    holds⟩ := m
  simp only [Member.text, List.append_assoc, List.cons_append, readMember_spelling _ _ spells]
  cases holds with
  | other hn h => exact readNamed_other hn _ afterName beforeValue after h he
  | setting f h =>
    refine ⟨after, ?_⟩
    by_cases hf : f ∈ ss.keys
    · rw [readNamed_repeated hf]
      exact (if_pos hf).symm
    · rw [readNamed_setting hf afterName beforeValue h (ends_blanks after he)]
      exact (if_neg hf).symm

theorem notMem_keys_of_append {ss ts : List Setting} {s : Setting}
    (h : (ts ++ s :: ss).keys.Nodup) : s.1 ∉ ss.keys := by
  rw [List.keys_append] at h
  exact (List.nodup_cons.mp h.of_append_right).1

theorem readMoreMembers_close (fuel : Nat) (p : Progress) (blanks : Blanks) (rest : List Char) :
    readMoreMembers (fuel + 1) p (blanks.1 ++ '}' :: rest) = .ok (p.config, rest) := by
  rw [readMoreMembers, skipSpace_blanks_cons blanks (by decide)]
  exact if_pos rfl

theorem readMoreMembers_comma (fuel : Nat) (p : Progress) (blanks : Blanks) (cs : List Char) :
    readMoreMembers (fuel + 1) p (blanks.1 ++ ',' :: cs) = (do
      let (p, rest) ← readMember p cs
      readMoreMembers fuel p rest) := by
  rw [readMoreMembers, skipSpace_blanks_cons blanks (by decide)]
  rfl

/-- Further members are read to the closing brace, or up to the first that repeats a field. -/
theorem readMoreMembers_text {fuel : Nat} (ms : List Member) (ss : List Setting)
    (hd : ss.keys.Nodup) (blanks : Blanks) (rest : List Char) (hf : ms.length < fuel) :
    readMoreMembers fuel (gathered ss)
        (blanks.1 ++ (ms.flatMap (fun m => ',' :: m.text) ++ '}' :: rest)) =
      if ((settings ms).reverse ++ ss).keys.Nodup then
        .ok (ofChoice (chosen ((settings ms).reverse ++ ss)), rest)
      else .error .unsuited := by
  induction ms generalizing fuel ss blanks with
  | nil =>
    obtain ⟨fuel, rfl⟩ : ∃ n, fuel = n + 1 := ⟨fuel - 1, by omega⟩
    rw [List.flatMap_nil, List.nil_append, readMoreMembers_close]
    exact (if_pos hd).symm
  | cons m ms ih =>
    rw [List.length_cons] at hf
    obtain ⟨fuel, rfl⟩ : ∃ n, fuel = n + 1 := ⟨fuel - 1, by omega⟩
    obtain ⟨own, hm⟩ := readMember_text m ss (ends_flatMap Member.text ms '}' (by decide) rest)
    rw [List.flatMap_cons, List.cons_append, List.cons_append, List.append_assoc,
      readMoreMembers_comma, hm]
    cases hs : m.setting? with
    | none =>
      have hsame : settings (m :: ms) = settings ms := List.filterMap_cons_none hs
      rw [hsame]
      exact ih ss hd own (by omega)
    | some s =>
      have hmore : (settings (m :: ms)).reverse ++ ss = (settings ms).reverse ++ s :: ss := by
        rw [settings, List.filterMap_cons_some hs]
        simp [settings]
      rw [hmore]
      -- a field that was given before stops the reader, whatever members are left
      by_cases hg : s.1 ∈ ss.keys
      · rw [if_neg fun h => notMem_keys_of_append h hg]
        simp only [hg, if_true]
        rfl
      · simp only [hg, if_false]
        exact ih (s :: ss) (List.nodup_cons.mpr ⟨hg, hd⟩) own (by omega)

theorem length_le_flatMap (ms : List Member) :
    ms.length ≤ (ms.flatMap (fun m => ',' :: m.text)).length := by
  induction ms with
  | nil => exact Nat.le_refl _
  | cons m ms ih =>
    simp only [List.flatMap_cons, List.length_append, List.length_cons]
    omega

theorem readMember_skipSpace (p : Progress) (cs : List Char) :
    readMember p (skipSpace cs) = readMember p cs := by
  rw [readMember, readMember, openName_skipSpace]

/-- A member begins with the quote of its name. -/
theorem Member.skipSpace_text (m : Member) (rest : List Char) :
    ∃ left, skipSpace (m.text ++ rest) = '"' :: left := by
  rw [Member.text, List.append_assoc, List.cons_append,
    skipSpace_blanks_cons m.before (by decide)]
  exact ⟨_, rfl⟩

/-- The first member is read like one that stands behind a comma. -/
theorem readMembers_eq (blanks : Blanks) {cs left : List Char} (h : skipSpace cs = '"' :: left) :
    readMembers (blanks.1 ++ cs) =
      readMoreMembers ((blanks.1 ++ cs).length + 2) (gathered []) (',' :: cs) := by
  have hfirst := readMoreMembers_comma ((blanks.1 ++ cs).length + 1) (gathered []) noBlanks cs
  rw [← readMember_skipSpace, h] at hfirst
  rw [readMembers, skipSpace_blanks blanks.2, h]
  exact hfirst.symm

theorem readMembers_text (ms : List Member) (blanks : Blanks) (rest : List Char) :
    readMembers (blanks.1 ++ (List.intercalate [','] (ms.map Member.text) ++ '}' :: rest)) =
      if (settings ms).reverse.keys.Nodup then
        .ok (ofChoice (chosen (settings ms).reverse), rest)
      else .error .unsuited := by
  cases ms with
  | nil =>
    show readMembers (blanks.1 ++ '}' :: rest) = _
    rw [readMembers, skipSpace_blanks_cons blanks (by decide)]
    rfl
  | cons m ms =>
    obtain ⟨left, hs⟩ := m.skipSpace_text (ms.flatMap (fun m => ',' :: m.text) ++ '}' :: rest)
    have hfuel : (m :: ms).length < (blanks.1 ++ (m.text ++
        (ms.flatMap (fun m => ',' :: m.text) ++ '}' :: rest))).length + 2 := by
      have hlen := length_le_flatMap ms
      simp only [List.length_append, List.length_cons]
      omega
    have hread := readMoreMembers_text (m :: ms) [] List.nodup_nil noBlanks rest hfuel
    rw [List.append_nil] at hread
    rw [List.map_cons, intercalate_cons, List.flatMap_map, List.append_assoc,
      readMembers_eq blanks hs, ← hread]
    simp [noBlanks]

/-! ## Elements -/

/-- An element of an array as it is written, with blanks around it. -/
structure Element where
  setting : Setting
  valueText : List Char
  before : Blanks := noBlanks
  after : Blanks := noBlanks
  writes : Field.Writes setting.1.kind setting.2 valueText

def Element.text (e : Element) : List Char := e.before.1 ++ (e.valueText ++ e.after.1)

/-- Elements between brackets. The blanks count where there are no elements. -/
def elementsText (blanks : Blanks) (es : List Element) : List Char :=
  '[' :: (blanks.1 ++ List.intercalate [','] (es.map Element.text) ++ [']'])

theorem readField_text (e : Element) (ss : List Setting) (he : Ends rest) :
    (ofChoice (chosen ss)).readField e.setting.1 (e.text ++ rest) =
      .ok (ofChoice (chosen (e.setting :: ss)), e.after.1 ++ rest) := by
  rw [Element.text, List.append_assoc, List.append_assoc]
  exact readField_writes e.before e.writes (ends_blanks e.after he)

theorem readMoreElements_close (left : List Field) (c : Config) (blanks : Blanks)
    (rest : List Char) : readMoreElements left c (blanks.1 ++ ']' :: rest) = .ok (c, rest) := by
  rw [readMoreElements.eq_def]
  dsimp only
  rw [skipSpace_blanks_cons blanks (by decide)]
  exact if_pos rfl

theorem readMoreElements_comma (f : Field) (left : List Field) (c : Config) (blanks : Blanks)
    (cs : List Char) : readMoreElements (f :: left) c (blanks.1 ++ ',' :: cs) = (do
      let (c, rest) ← c.readField f cs
      readMoreElements left c rest) := by
  rw [readMoreElements.eq_def]
  dsimp only
  rw [skipSpace_blanks_cons blanks (by decide)]
  rfl

/-- Further elements are read to the closing bracket, as long as there are fields for them. -/
theorem readMoreElements_text {left : List Field} (es : List Element)
    (hp : (es.map Element.setting).keys <+: left) (ss : List Setting) (blanks : Blanks)
    (rest : List Char) :
    readMoreElements left (ofChoice (chosen ss))
        (blanks.1 ++ (es.flatMap (fun e => ',' :: e.text) ++ ']' :: rest)) =
      .ok (ofChoice (chosen ((es.map Element.setting).reverse ++ ss)), rest) := by
  induction es generalizing left ss blanks with
  | nil =>
    rw [List.flatMap_nil, List.nil_append, readMoreElements_close]
    rfl
  | cons e es ih =>
    obtain ⟨more, rfl, hmore⟩ := List.cons_prefix_iff.mp hp
    have hread := readField_text e ss (ends_flatMap Element.text es ']' (by decide) rest)
    rw [List.flatMap_cons, List.cons_append, List.cons_append, List.append_assoc,
      readMoreElements_comma, hread, ok_bind, List.map_cons, List.reverse_cons, List.append_assoc]
    exact ih hmore (e.setting :: ss) e.after

/-- The first element is read like one that stands behind a comma. -/
theorem readElements_eq (blanks : Blanks) {cs left : List Char} {c : Char}
    (h : skipSpace cs = c :: left) (hc : c ≠ ']') :
    readElements (blanks.1 ++ cs) =
      readMoreElements Field.all (ofChoice (chosen [])) (',' :: cs) := by
  have hfirst := readMoreElements_comma .loginId (Field.all.drop 1) (ofChoice (chosen []))
    noBlanks cs
  rw [← readField_skipSpace, h] at hfirst
  rw [readElements, skipSpace_blanks blanks.2, h]
  exact (if_neg hc).trans hfirst.symm

theorem readElements_text (es : List Element)
    (hp : (es.map Element.setting).keys <+: Field.all) (blanks : Blanks) (rest : List Char) :
    readElements (blanks.1 ++ (List.intercalate [','] (es.map Element.text) ++ ']' :: rest)) =
      .ok (ofChoice (chosen (es.map Element.setting).reverse), rest) := by
  cases es with
  | nil =>
    show readElements (blanks.1 ++ ']' :: rest) = _
    rw [readElements, skipSpace_blanks_cons blanks (by decide)]
    rfl
  | cons e es =>
    obtain ⟨c, more, hcs, hs, hc⟩ := e.writes.exists_cons
    have hfirst : skipSpace (e.text ++ (es.flatMap (fun e => ',' :: e.text) ++ ']' :: rest)) =
        c :: (more ++ (e.after.1 ++ (es.flatMap (fun e => ',' :: e.text) ++ ']' :: rest))) := by
      rw [Element.text, List.append_assoc, List.append_assoc, skipSpace_blanks e.before.2, hcs,
        List.cons_append, skipSpace_cons hs]
    have hread := readMoreElements_text (e :: es) hp [] noBlanks rest
    rw [List.append_nil] at hread
    rw [List.map_cons, intercalate_cons, List.flatMap_map, List.append_assoc,
      readElements_eq blanks hfirst hc, ← hread]
    simp [noBlanks]

/-! ## Documents -/

/-- A text in which blanks stand around an object or an array. -/
def document (before after : Blanks) (content : List Char) : String :=
  String.ofList (before.1 ++ (content ++ after.1))

theorem finish_blanks {α : Type} (x : α) (blanks : Blanks) : finish (x, blanks.1) = .ok x :=
  if_pos (skipSpace_eq_nil_iff.mpr blanks.2)

theorem chosen_reverse {ss : List Setting} (h : ss.keys.Nodup) : chosen ss.reverse = chosen ss := by
  funext f
  exact (List.perm_dlookup f h ss.reverse_perm.symm).symm

theorem readDocument_brace (before : Blanks) (cs : List Char) :
    readDocument (before.1 ++ '{' :: cs) = readMembers cs := by
  rw [readDocument, skipSpace_blanks_cons before (by decide)]
  rfl

theorem readDocument_bracket (before : Blanks) (cs : List Char) :
    readDocument (before.1 ++ '[' :: cs) = readElements cs := by
  rw [readDocument, skipSpace_blanks_cons before (by decide)]
  rfl

variable {environment : Environment}

/-- An object gives the settings in it and the defaults for the rest, or else repeats a field. -/
theorem ofJson_members (before blanks after : Blanks) (ms : List Member) :
    let text := document before after (membersText blanks ms)
    ofJson environment text =
      if (settings ms).keys.Nodup then .ok (ofChoice (chosen (settings ms)))
      else .error (.json .unsuited (environment.jsonFault text)) := by
  intro text
  have hnodup : (settings ms).reverse.keys.Nodup ↔ (settings ms).keys.Nodup :=
    List.perm_nodupKeys (settings ms).reverse_perm
  have hread := readMembers_text ms blanks after.1
  rw [ofJson, ofJsonChars, show text.toList = _ from String.toList_ofList, membersText,
    List.cons_append, readDocument_brace, List.append_assoc, List.append_assoc,
    List.singleton_append, hread]
  by_cases hd : (settings ms).keys.Nodup
  · rw [if_pos hd, if_pos (hnodup.mpr hd), ok_bind, finish_blanks, chosen_reverse hd]
    rfl
  · rw [if_neg hd, if_neg fun h => hd (hnodup.mp h)]
    rfl

/-- An array gives its elements to the fields in their order. -/
theorem ofJson_elements (before blanks after : Blanks) (es : List Element)
    (hp : (es.map Element.setting).keys <+: Field.all) :
    ofJson environment (document before after (elementsText blanks es)) =
      .ok (ofChoice (chosen (es.map Element.setting))) := by
  have hd : (es.map Element.setting).keys.Nodup := hp.sublist.nodup (by decide)
  have hread := readElements_text es hp blanks after.1
  rw [ofJson, ofJsonChars, document, String.toList_ofList, elementsText, List.cons_append,
    readDocument_bracket, List.append_assoc, List.append_assoc, List.singleton_append, hread,
    ok_bind, finish_blanks, chosen_reverse hd]
  rfl

/-- The members give every chosen field its value, once. -/
structure Lists (choice : (f : Field) → Option f.Value) (ms : List Member) : Prop where
  once : (settings ms).keys.Nodup
  values : chosen (settings ms) = choice

/-- The elements give the first fields their values, and these are all that is chosen. -/
structure Begins (choice : (f : Field) → Option f.Value) (es : List Element) : Prop where
  inOrder : (es.map Element.setting).keys <+: Field.all
  values : chosen (es.map Element.setting) = choice

theorem settings_append (ms ns : List Member) :
    settings (ms ++ ns) = settings ms ++ settings ns := List.filterMap_append

/-- A field that is given already is given twice with one more member for it. -/
theorem Lists.not_nodup {choice : (f : Field) → Option f.Value} {earlier later : List Member}
    (h : Lists choice (earlier ++ later)) {m : Member} {s : Setting} (hm : m.setting? = some s)
    (hs : (choice s.1).isSome) : ¬ (settings (earlier ++ m :: later)).keys.Nodup := by
  have hgiven : s.1 ∈ (settings (earlier ++ later)).keys := by
    rw [← h.values] at hs
    exact List.dlookup_isSome.mp hs
  rw [settings_append] at hgiven ⊢
  have hsettings : settings (m :: later) = s :: settings later := List.filterMap_cons_some hm
  rw [hsettings]
  intro hd
  have hmiddle : (s :: (settings earlier ++ settings later)).keys.Nodup :=
    (List.perm_nodupKeys List.perm_middle).mp hd
  exact (List.nodup_cons.mp hmiddle).1 hgiven

/-! ## Written settings -/

/-- A member without blanks, with as few escapes as possible in its name. -/
def Member.plain (s : Setting) {cs : List Char} (h : Field.Writes s.1.kind s.2 cs) : Member where
  setting? := some s
  name := s.1.name
  nameText := s.1.name.toList.flatMap escaped
  valueText := cs
  spells := spelling_escaped _
  holds := .setting s.1 h

theorem exists_settings (ss : List Setting) : ∃ ms, settings ms = ss := by
  induction ss with
  | nil => exact ⟨[], rfl⟩
  | cons s ss ih =>
    obtain ⟨ms, hms⟩ := ih
    obtain ⟨cs, hcs⟩ := Field.exists_writes s.1.kind s.2
    exact ⟨.plain s hcs :: ms, congrArg (s :: ·) hms⟩

/-- Every choice of values can be listed. -/
theorem exists_lists (choice : (f : Field) → Option f.Value) : ∃ ms, Lists choice ms := by
  let ss : List Setting := Field.all.filterMap fun f => (choice f).map (Sigma.mk f)
  have hmem (f : Field) (x : f.Value) : ⟨f, x⟩ ∈ ss ↔ choice f = some x := by
    simp only [ss, List.mem_filterMap, Field.mem_all, true_and, Option.map_eq_some_iff,
      Sigma.mk.injEq]
    constructor
    · rintro ⟨g, y, hy, rfl, hxy⟩
      rw [hy, eq_of_heq hxy]
    · exact fun h => ⟨f, x, h, rfl, HEq.rfl⟩
  have hd : ss.keys.Nodup := by
    rw [List.keys, List.map_filterMap]
    refine List.Nodup.filterMap (fun f g key hf hg => ?_) (by decide)
    simp only [Option.map_map, Option.mem_def, Option.map_eq_some_iff, Function.comp_apply] at hf hg
    obtain ⟨-, -, rfl⟩ := hf
    obtain ⟨-, -, rfl⟩ := hg
    rfl
  obtain ⟨ms, hms⟩ := exists_settings ss
  refine ⟨ms, hms ▸ hd, ?_⟩
  funext f
  rw [hms]
  ext x
  rw [← Option.mem_def, chosen, List.mem_dlookup_iff hd, hmem]

/-! ## Any layout -/

/-- Whatever is chosen for some of the fields, an object that lists it gives the settings with
these values and the defaults, and so does an array if it lists the first fields. The order of the
members, blanks, spellings and members of other names make no difference. One more member for a
listed field is refused. -/
theorem ofJson_layout (environment : Environment) (choice : (f : Field) → Option f.Value)
    (before blanks after : Blanks) :
    (∀ ms, Lists choice ms →
      ofJson environment (document before after (membersText blanks ms)) =
        .ok (ofChoice choice)) ∧
    (∀ es, Begins choice es →
      ofJson environment (document before after (elementsText blanks es)) =
        .ok (ofChoice choice)) ∧
    ∀ (earlier later : List Member) (m : Member) (s : Setting), Lists choice (earlier ++ later) →
      m.setting? = some s → (choice s.1).isSome →
      let text := document before after (membersText blanks (earlier ++ m :: later))
      ofJson environment text = .error (.json .unsuited (environment.jsonFault text)) := by
  refine ⟨fun ms h => ?_, fun es h => ?_, fun earlier later m s h hm hs => ?_⟩
  · rw [ofJson_members, if_pos h.once, h.values]
  · rw [ofJson_elements before blanks after es h.inOrder, h.values]
  · intro text
    rw [ofJson_members, if_neg (h.not_nodup hm hs)]

namespace Shuffled

def login : Setting := ⟨.loginId, (some (-1) : Option Int64)⟩

def noKey : Setting := ⟨.privateKey, (none : Option String)⟩

/-- A member of another name, with an array in an array and half of a surrogate pair. -/
def note : Member where
  setting? := none
  name := "note"
  nameText := ['n', 'o', 't', 'e']
  valueText := _
  spells := spelling_escaped ['n', 'o', 't', 'e']
  holds := .other (fun f => by cases f <;> decide) <|
    .array <| .elements (.element noBlanks noBlanks (.emptyArray noBlanks)) <|
      .lastElement <| .element noBlanks noBlanks <| .string <|
        .unit (.digits (by decide : Hex.value? 'd'.toNat = some 13)
          (by decide : Hex.value? '8'.toNat = some 8) (by decide : Hex.value? '0'.toNat = some 0)
          (by decide : Hex.value? '0'.toNat = some 0)) .nil

def members : List Member :=
  [.plain noKey .noText, note, .plain login (.login (-1))]

def elements : List Element :=
  [⟨login, _, noBlanks, ⟨[' '], List.forall_mem_singleton.mpr rfl⟩, .login (-1)⟩,
    ⟨noKey, _, ⟨['\n'], List.forall_mem_singleton.mpr rfl⟩, noBlanks, .noText⟩]

def choice : (f : Field) → Option f.Value := chosen [noKey, login]

theorem lists : Lists choice members := ⟨by decide, rfl⟩

theorem begins : Begins choice elements where
  inOrder := by decide
  values := by
    funext f
    cases f <;> rfl

end Shuffled

/-- An object whose members are out of order, an array of the same values, and the object with
another key. -/
theorem ofJson_layout_shuffled :
    ofJson .bare (document noBlanks noBlanks (membersText noBlanks Shuffled.members)) =
      .ok { loginId := some (-1) } ∧
    ofJson .bare (document noBlanks noBlanks (elementsText noBlanks Shuffled.elements)) =
      .ok { loginId := some (-1) } ∧
    ofJson .bare (document noBlanks noBlanks (membersText noBlanks
      (Shuffled.members ++ [.plain Shuffled.noKey .noText]))) =
        .error (.json .unsuited "malformed text") := by
  obtain ⟨hmembers, helements, hrepeated⟩ :=
    ofJson_layout .bare Shuffled.choice noBlanks noBlanks noBlanks
  exact ⟨hmembers _ Shuffled.lists, helements _ Shuffled.begins,
    hrepeated Shuffled.members [] (.plain Shuffled.noKey .noText) Shuffled.noKey
      Shuffled.lists rfl rfl⟩

end Config

end HeaterLink.Account
