import HeaterLink.Proofs.Json.RoundTrip
import HeaterLink.Record.ErrorHolder
import HeaterLink.Record.Heater
import HeaterLink.Record.Login
import HeaterLink.Record.Zone

/-!
# Reading a written record

Every kind of record is read back from the node it is written to, as long as its
moments have nothing below their milliseconds; and no node reads as a record
whose moments have more.

## Main definitions

* `Dated`, the moments that a record names.
* `LawfulRecord`, the laws of a kind of record, with an instance for each kind.
-/

namespace HeaterLink

/-- A type of records together with the moments that a record names. -/
class Dated (R : Type) where
  moments : R → List Timestamp

/-- A record that names whole milliseconds only. -/
def Dated.IsWhole {R : Type} [Dated R] (r : R) : Prop := ∀ t ∈ Dated.moments r, t.IsWhole

instance {R : Type} [Dated R] (r : R) : Decidable (Dated.IsWhole r) :=
  inferInstanceAs (Decidable (∀ t ∈ Dated.moments r, t.IsWhole))

class LawfulRecord (R : Type) [Record R] [Dated R] : Prop where
  ofNode?_toNode {r : R} (h : Dated.IsWhole r) : Record.ofNode? (Record.toNode r) = some r
  isWhole_of_ofNode? {node : Json} {r : R} (h : Record.ofNode? node = some r) : Dated.IsWhole r
  plain_toNode (r : R) : Json.Plain 1 (Record.toNode r)

namespace Json

/-! ## Readings -/

theorem int32?_ofInt32 (n : Int32) : int32? (ofInt32 n) = some n := by
  have hlow := n.minValue_le_toInt
  have hhigh := n.toInt_le
  have hwide : int64? (ofInt32 n) = some (Int64.ofInt n.toInt) := by
    rw [int64?, ofInt32, whole?_integer, Option.bind_some, if_pos]
    simp only [Int32.toInt_minValue, Int32.toInt_maxValue, Int64.toInt_minValue,
      Int64.toInt_maxValue] at *
    omega
  have hback : (Int64.ofInt n.toInt).toInt = n.toInt := by
    rw [Int64.toInt_ofInt_of_le] <;>
      simp only [Int32.toInt_minValue, Int32.toInt_maxValue] at * <;> omega
  rw [int32?, hwide, Option.bind_some, hback, if_pos ⟨hlow, hhigh⟩, Int32.ofInt_toInt]

theorem temperature?_ofTemperature (t : Temperature) :
    temperature? (ofTemperature t) = some t := by
  rw [temperature?, ofTemperature, int32?_ofInt32]
  rfl

theorem timestamp?_ofTimestamp {t : Timestamp} (h : t.IsWhole) :
    timestamp? (ofTimestamp t) = some t := by
  rw [timestamp?, ofTimestamp, int64?_ofInt64, Option.bind_some, Timestamp.ofMillis?_millis h]

theorem isWhole_of_timestamp? {node : Json} {t : Timestamp} (h : timestamp? node = some t) :
    t.IsWhole := by
  obtain ⟨n, -, hn⟩ := Option.bind_eq_some_iff.1 h
  exact Timestamp.isWhole_of_ofMillis? hn

theorem isWhole_of_mem_field {node : Json} {name : String} {t : Timestamp}
    (h : t ∈ node.field timestamp? name) : t.IsWhole := by
  obtain ⟨member, -, ht⟩ := Option.bind_eq_some_iff.1 h
  exact isWhole_of_timestamp? ht

/-! ## Fields -/

theorem field_object {α : Type} (reading : Json → Option α) (name : String)
    (members : List (String × Json)) :
    field reading name (.object members) = (last? name members).bind reading := rfl

/-- An optional value is read back from what it was written to. -/
theorem bind_map_eq_self {α : Type} {reading : Json → Option α} {writing : α → Json}
    {x : Option α} (h : ∀ v ∈ x, reading (writing v) = some v) :
    (x.map writing).bind reading = x := by
  cases x with
  | none => rfl
  | some v => exact h v rfl

@[simp] theorem bind_map_int64 (x : Option Int64) : (x.map ofInt64).bind int64? = x :=
  bind_map_eq_self fun v _ => int64?_ofInt64 v

@[simp] theorem bind_map_int32 (x : Option Int32) : (x.map ofInt32).bind int32? = x :=
  bind_map_eq_self fun v _ => int32?_ofInt32 v

@[simp] theorem bind_map_temperature (x : Option Temperature) :
    (x.map ofTemperature).bind temperature? = x :=
  bind_map_eq_self fun v _ => temperature?_ofTemperature v

@[simp] theorem bind_map_string (x : Option String) : (x.map Json.string).bind string? = x :=
  bind_map_eq_self fun _ _ => rfl

@[simp] theorem bind_map_bool (x : Option Bool) : (x.map Json.bool).bind bool? = x :=
  bind_map_eq_self fun _ _ => rfl

theorem bind_map_timestamp {x : Option Timestamp} (h : ∀ t ∈ x, t.IsWhole) :
    (x.map ofTimestamp).bind timestamp? = x :=
  bind_map_eq_self fun t ht => timestamp?_ofTimestamp (h t ht)

/-! ## Written values -/

attribute [simp] Plain.bool Plain.string

@[simp] theorem plain_ofInt64 {room : Nat} (n : Int64) : Plain room (ofInt64 n) := by
  have hlow := n.minValue_le_toInt
  have hhigh := n.toInt_le
  simp only [Int64.toInt_minValue, Int64.toInt_maxValue] at hlow hhigh
  refine .integer room ⟨?_, ?_⟩ <;> simp only [Reader.negativeMax, Reader.significandMax] <;> omega

@[simp] theorem plain_ofInt32 {room : Nat} (n : Int32) : Plain room (ofInt32 n) := by
  have hlow := n.minValue_le_toInt
  have hhigh := n.toInt_le
  simp only [Int32.toInt_minValue, Int32.toInt_maxValue] at hlow hhigh
  refine .integer room ⟨?_, ?_⟩ <;> simp only [Reader.negativeMax, Reader.significandMax] <;> omega

@[simp] theorem plain_ofTemperature {room : Nat} (t : Temperature) :
    Plain room (ofTemperature t) :=
  plain_ofInt32 t.hundredths

@[simp] theorem plain_ofTimestamp {room : Nat} (t : Timestamp) : Plain room (ofTimestamp t) :=
  plain_ofInt64 t.millis

/-- Members that hold scalars. -/
def PlainMembers (members : List (String × Json)) : Prop := ∀ m ∈ members, Plain 0 m.2

@[simp] theorem plainMembers_append {ms ks : List (String × Json)} :
    PlainMembers (ms ++ ks) ↔ PlainMembers ms ∧ PlainMembers ks :=
  List.forall_mem_append

@[simp] theorem plainMembers_cons {name : String} {x : Json} {ms : List (String × Json)} :
    PlainMembers ((name, x) :: ms) ↔ Plain 0 x ∧ PlainMembers ms :=
  List.forall_mem_cons

@[simp] theorem plainMembers_nil : PlainMembers [] := by simp [PlainMembers]

@[simp] theorem plainMembers_entry {α : Type} {name : String} {writing : α → Json}
    {x : Option α} : PlainMembers (entry name writing x) ↔ ∀ v ∈ x, Plain 0 (writing v) := by
  cases x <;> simp [entry]

end Json

/-! ## Scalars -/

instance : Dated Int64 := ⟨fun _ => []⟩
instance : Dated Int32 := ⟨fun _ => []⟩
instance : Dated Bool := ⟨fun _ => []⟩

instance : LawfulRecord Int64 where
  ofNode?_toNode {r} _ := Json.int64?_ofInt64 r
  isWhole_of_ofNode? _ := by simp [Dated.IsWhole, Dated.moments]
  plain_toNode r := Json.plain_ofInt64 r

instance : LawfulRecord Int32 where
  ofNode?_toNode {r} _ := Json.int32?_ofInt32 r
  isWhole_of_ofNode? _ := by simp [Dated.IsWhole, Dated.moments]
  plain_toNode r := Json.plain_ofInt32 r

instance : LawfulRecord Bool where
  ofNode?_toNode _ := rfl
  isWhole_of_ofNode? _ := by simp [Dated.IsWhole, Dated.moments]
  plain_toNode r := .bool 1 r

/-! ## Error holders -/

instance : Dated ErrorHolder := ⟨fun _ => []⟩

theorem ErrorHolder.ofNode?_toNode (h : ErrorHolder) : ofNode? h.toNode = some h := by
  rw [ofNode?, toNode, Json.field_object, Json.last?_cons]
  simp [Json.int64?_ofInt64]

theorem ErrorHolder.plain_toNode {room : Nat} (h : ErrorHolder) :
    Json.Plain (room + 1) h.toNode :=
  .object fun m hm => by
    obtain rfl := List.mem_singleton.1 hm
    exact Json.plain_ofInt64 h.code

instance : LawfulRecord ErrorHolder where
  ofNode?_toNode {r} _ := r.ofNode?_toNode
  isWhole_of_ofNode? _ := by simp [Dated.IsWhole, Dated.moments]
  plain_toNode r := r.plain_toNode

/-! ## Logins -/

namespace Login

open Json

instance : Dated Login := ⟨fun _ => []⟩

theorem ofMembers?_members (l : Login) : ofMembers? (.object l.members) = some l := by
  simp [ofMembers?, members, field_object, last?_append, last?_cons, last?_entry, int64?_ofInt64,
    string?]

theorem plainMembers_members (l : Login) : PlainMembers l.members := by
  simp [members]

instance : LawfulRecord Login where
  ofNode?_toNode {r} _ := r.ofMembers?_members
  isWhole_of_ofNode? _ := by simp [Dated.IsWhole, Dated.moments]
  plain_toNode r := .object r.plainMembers_members

end Login

/-! ## Heaters -/

namespace Heater

open Json

instance : Dated Heater := ⟨fun h => h.lastSeen.toList⟩

theorem ofMembers?_members {h : Heater} (hw : Dated.IsWhole h) :
    ofMembers? (.object h.members) = some h := by
  have hseen := bind_map_timestamp fun t (ht : t ∈ h.lastSeen) => hw t (Option.mem_toList.2 ht)
  simp [ofMembers?, members, field_object, last?_append, last?_cons, last?_entry,
    temperature?_ofTemperature, int32?_ofInt32, hseen]

theorem isWhole_of_ofMembers? {node : Json} {h : Heater} (hr : ofMembers? node = some h) :
    Dated.IsWhole h := by
  obtain ⟨target, -, hr⟩ := Option.bind_eq_some_iff.1 hr
  obtain ⟨interval, -, hr⟩ := Option.bind_eq_some_iff.1 hr
  cases hr
  exact fun t ht => isWhole_of_mem_field (Option.mem_toList.1 ht)

theorem plainMembers_members (h : Heater) : PlainMembers h.members := by
  simp [members]

instance : LawfulRecord Heater where
  ofNode?_toNode hw := ofMembers?_members hw
  isWhole_of_ofNode? h := isWhole_of_ofMembers? h
  plain_toNode r := .object r.plainMembers_members

end Heater

/-! ## Zones -/

namespace Zone

open Json

instance : Dated Zone := ⟨fun z => z.awayTill.toList ++ z.heatingModeTill.toList⟩

theorem ofMembers_members {z : Zone} (hw : Dated.IsWhole z) :
    ofMembers (.object z.members) = z := by
  have haway := bind_map_timestamp fun t (ht : t ∈ z.awayTill) =>
    hw t (List.mem_append_left _ (Option.mem_toList.2 ht))
  have hmode := bind_map_timestamp fun t (ht : t ∈ z.heatingModeTill) =>
    hw t (List.mem_append_right _ (Option.mem_toList.2 ht))
  simp [ofMembers, members, field_object, last?_append, last?_cons, last?_entry, haway, hmode,
    bool?]

theorem isWhole_ofMembers (node : Json) : Dated.IsWhole (ofMembers node) := by
  intro t ht
  rcases List.mem_append.1 ht with ht | ht
  · exact isWhole_of_mem_field (Option.mem_toList.1 ht)
  · exact isWhole_of_mem_field (Option.mem_toList.1 ht)

theorem plainMembers_members (z : Zone) : PlainMembers z.members := by
  simp [members]

instance : LawfulRecord Zone where
  ofNode?_toNode hw := congrArg some (ofMembers_members hw)
  isWhole_of_ofNode? {node r} h := by
    change (if node.isObject then some (ofMembers node) else none) = some r at h
    split at h
    · cases h; exact isWhole_ofMembers node
    · cases h
  plain_toNode r := .object r.plainMembers_members

end Zone

end HeaterLink
