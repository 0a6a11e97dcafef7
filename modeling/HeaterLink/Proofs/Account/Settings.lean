import HeaterLink.Account.ConfigText
import HeaterLink.Proofs.Json.Grammar
import HeaterLink.Proofs.Json.RoundTrip
import Mathlib.Data.List.Sigma

/-!
# Settings field by field

Nine fields take values of three kinds. The settings are what a choice of values
makes of the defaults, and a value is read wherever one of its texts stands.

## Main definitions

* `Account.Field.Value`, the values of a field, and `Account.Field.Writes`, their texts.
* `Account.Config.ofChoice`, the settings with some values and the defaults for the rest.

## Main statements

* `Account.Config.readField_writes`, a value that is read joins those chosen before.
-/

namespace HeaterLink.Account

open Json Json.Reader

/-! ## Values of fields -/

namespace Field

inductive Kind where
  | login
  | text
  | seconds

def kind : Field → Kind
  | loginId => .login
  | privateKey | username | password | trustAnchor | baseUrl => .text
  | pollIntervalSecs | offlinePollIntervalSecs | initialDelaySecs => .seconds

def Kind.Value : Kind → Type
  | login => Option Int64
  | text => Option String
  | seconds => UInt64

abbrev Value (f : Field) : Type := f.kind.Value

/-- How a value of each kind is read. -/
def Kind.read : (k : Kind) → List Char → Except Fault (k.Value × List Char)
  | login => optionalValue int64Value
  | text => optionalValue textValue
  | seconds => secondsValue

/-- The texts of a value. -/
inductive Writes : (k : Kind) → k.Value → List Char → Prop where
  | noLogin : Writes .login (none : Option Int64) ['n', 'u', 'l', 'l']
  | login (n : Int64) : Writes .login (some n : Option Int64) (Decimal.int n.toInt)
  | noText : Writes .text (none : Option String) ['n', 'u', 'l', 'l']
  | text (s : String) {cs : List Char} (h : Spelling cs s.toList) :
      Writes .text (some s : Option String) ('"' :: (cs ++ ['"']))
  | seconds (n : UInt64) : Writes .seconds n (Decimal.nat n.toNat)

end Field

/-- A field with a value. -/
abbrev Setting := (f : Field) × f.Value

namespace Config

def set (c : Config) : (f : Field) → f.Value → Config
  | .loginId, x => { c with loginId := x }
  | .privateKey, x => { c with privateKey := x }
  | .username, x => { c with username := x }
  | .password, x => { c with password := x }
  | .pollIntervalSecs, x => { c with pollIntervalSecs := x }
  | .offlinePollIntervalSecs, x => { c with offlinePollIntervalSecs := x }
  | .initialDelaySecs, x => { c with initialDelaySecs := x }
  | .trustAnchor, x => { c with trustAnchor := x }
  | .baseUrl, x => { c with baseUrl := x }

/-- The settings with the chosen values, and the defaults where nothing is chosen. -/
def ofChoice (choice : (f : Field) → Option f.Value) : Config where
  loginId := (choice .loginId : Option (Option Int64)).getD none
  privateKey := (choice .privateKey : Option (Option String)).getD none
  username := (choice .username : Option (Option String)).getD none
  password := (choice .password : Option (Option String)).getD none
  pollIntervalSecs := (choice .pollIntervalSecs : Option UInt64).getD (60 : UInt64)
  offlinePollIntervalSecs := (choice .offlinePollIntervalSecs : Option UInt64).getD (120 : UInt64)
  initialDelaySecs := (choice .initialDelaySecs : Option UInt64).getD (5 : UInt64)
  trustAnchor := (choice .trustAnchor : Option (Option String)).getD none
  baseUrl := (choice .baseUrl : Option (Option String)).getD none

/-- The values that a list of settings chooses. -/
def chosen (ss : List Setting) (f : Field) : Option f.Value := ss.dlookup f

theorem chosen_cons (s : Setting) (ss : List Setting) :
    chosen (s :: ss) = Function.update (chosen ss) s.1 (some s.2) := by
  funext f
  by_cases h : f = s.1
  · subst h
    rw [Function.update_self]
    exact List.dlookup_cons_eq ss s.1 s.2
  · rw [Function.update_of_ne h]
    exact List.dlookup_cons_ne ss s h

theorem ofChoice_update (choice : (f : Field) → Option f.Value) (f : Field) (x : f.Value) :
    ofChoice (Function.update choice f (some x)) = (ofChoice choice).set f x := by
  cases f <;> rfl

theorem readField_eq (c : Config) (f : Field) (cs : List Char) :
    c.readField f cs = do
      let (x, rest) ← f.kind.read cs
      return (c.set f x, rest) := by
  cases f <;> rfl

end Config

/-! ## Reading a value -/

namespace Field

variable {rest : List Char}

theorem exists_writes (k : Kind) (x : k.Value) : ∃ cs, Writes k x cs := by
  cases k with
  | login =>
    match x with
    | (none : Option Int64) => exact ⟨_, .noLogin⟩
    | (some n : Option Int64) => exact ⟨_, .login n⟩
  | text =>
    match x with
    | (none : Option String) => exact ⟨_, .noText⟩
    | (some s : Option String) => exact ⟨_, .text s (spelling_escaped s.toList)⟩
  | seconds => exact ⟨_, .seconds x⟩

/-- A value begins with no blank and ends no array. -/
theorem Writes.exists_cons {k : Kind} {x : k.Value} {cs : List Char} (h : Writes k x cs) :
    ∃ c more, cs = c :: more ∧ isSpace c = false ∧ c ≠ ']' := by
  have hint (n : Int) :
      ∃ c more, Decimal.int n = c :: more ∧ isSpace c = false ∧ c ≠ ']' := by
    obtain ⟨c, more, hn, hc⟩ := startsNumber_int n
    exact ⟨c, more, hn, isSpace_of_startsNumber hc, ne_of_startsNumber hc (by decide)⟩
  cases h with
  | noLogin | noText => exact ⟨'n', _, rfl, by decide, by decide⟩
  | login n => exact hint n.toInt
  | text s h => exact ⟨'"', _, rfl, by decide, by decide⟩
  | seconds n =>
    rw [← Decimal.int_ofNat]
    exact hint n.toNat

theorem integerValue_int {low high n : Int} (hf : Fits n) (hn : low ≤ n ∧ n ≤ high)
    (he : Ends rest) : integerValue low high (Decimal.int n ++ rest) = .ok (n, rest) := by
  obtain ⟨c, more, hcs, hc⟩ := startsNumber_int n
  have hread := number_int hf he
  rw [hcs, List.cons_append] at hread ⊢
  rw [integerValue, skipSpace_cons (isSpace_of_startsNumber hc)]
  simp only [hc, if_true, hread, ok_bind]
  exact if_pos hn

theorem int64Value_int (n : Int64) (he : Ends rest) :
    int64Value (Decimal.int n.toInt ++ rest) = .ok (n, rest) := by
  have hn : Int64.minValue.toInt ≤ n.toInt ∧ n.toInt ≤ Int64.maxValue.toInt :=
    ⟨n.minValue_le_toInt, n.toInt_le⟩
  have hf : Fits n.toInt := by
    rw [Int64.toInt_minValue, Int64.toInt_maxValue] at hn
    unfold Fits negativeMax significandMax
    omega
  rw [int64Value, integerValue_int hf hn he]
  exact congrArg (fun k => Except.ok (k, rest)) (Int64.ofInt_toInt n)

theorem secondsValue_nat (n : UInt64) (he : Ends rest) :
    secondsValue (Decimal.nat n.toNat ++ rest) = .ok (n, rest) := by
  have hn : (0 : Int) ≤ n.toNat ∧ (n.toNat : Int) ≤ 0xFFFFFFFFFFFFFFFF := by
    have := n.toNat_lt
    omega
  have hf : Fits n.toNat := by
    unfold Fits negativeMax significandMax
    omega
  rw [secondsValue, ← Decimal.int_ofNat, integerValue_int hf hn he]
  exact congrArg (fun k => Except.ok (k, rest)) UInt64.ofNat_toNat

theorem optionalValue_some {α : Type} {reading : List Char → Except Fault (α × List Char)}
    {x : α} {c : Char} {more : List Char} (hs : isSpace c = false) (hc : c ≠ 'n')
    (h : reading (c :: more) = .ok (x, rest)) :
    optionalValue reading (c :: more) = .ok (some x, rest) := by
  rw [optionalValue, skipSpace_cons hs]
  split
  · simp_all
  · rw [h]
    rfl

theorem read_writes {k : Kind} {x : k.Value} {cs : List Char} (h : Writes k x cs)
    (he : Ends rest) : k.read (cs ++ rest) = .ok (x, rest) := by
  cases h with
  | noLogin => rfl
  | noText => rfl
  | login n =>
    obtain ⟨c, more, hcs, hc⟩ := startsNumber_int n.toInt
    have hread := int64Value_int n he
    rw [hcs] at hread ⊢
    exact optionalValue_some (isSpace_of_startsNumber hc) (ne_of_startsNumber hc (by decide)) hread
  | @text s cs h =>
    have hread : textValue ('"' :: (cs ++ '"' :: rest)) = .ok (s, rest) := by
      rw [textValue, skipSpace_cons (by decide)]
      exact (text_spelling h rest).trans (by rw [String.ofList_toList])
    rw [List.cons_append, List.append_assoc]
    exact optionalValue_some (by decide) (by decide) hread
  | seconds n => exact secondsValue_nat n he

/-- Blanks in front of a value make no difference. -/
theorem read_skipSpace (k : Kind) (cs : List Char) : k.read (skipSpace cs) = k.read cs := by
  cases k with
  | login | text => rw [Kind.read, optionalValue, optionalValue, skipSpace_skipSpace]
  | seconds => rw [Kind.read, secondsValue, secondsValue, integerValue, integerValue,
      skipSpace_skipSpace]

end Field

namespace Config

variable {rest : List Char}

theorem readField_skipSpace (c : Config) (f : Field) (cs : List Char) :
    c.readField f (skipSpace cs) = c.readField f cs := by
  rw [readField_eq, readField_eq, Field.read_skipSpace]

theorem readField_writes {ss : List Setting} {f : Field} {x : f.Value} {cs : List Char}
    (blanks : Blanks) (h : Field.Writes f.kind x cs) (he : Ends rest) :
    (ofChoice (chosen ss)).readField f (blanks.1 ++ (cs ++ rest)) =
      .ok (ofChoice (chosen (⟨f, x⟩ :: ss)), rest) := by
  rw [← readField_skipSpace, skipSpace_blanks blanks.2, readField_skipSpace, readField_eq,
    Field.read_writes h he, ok_bind, chosen_cons, ofChoice_update]
  rfl

end Config

end HeaterLink.Account
