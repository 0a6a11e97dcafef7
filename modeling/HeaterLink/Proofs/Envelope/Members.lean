import HeaterLink.Proofs.Envelope.Listing
import Mathlib

/-!
# Records from the members of a bare object

Each field of a record is read from the last member with its own name, wherever
it stands in the text and whatever the other members are. The object is refused
only if a member that the record cannot do without is missing or unreadable.

## Main definitions

* `Envelope.ObjectBody`, a body that is one object, with its text.
* `Envelope.Membered`, what a type of records takes from which member.

## Main statements

* `Envelope.memberwise`, for each type of records that is read from an object.
-/

namespace HeaterLink

namespace Json

/-- The reading of the last member with this name. -/
def latest {α : Type} (reading : Json → Option α) (name : String)
    (ms : List (String × Json)) : Option α :=
  (last? name ms).bind reading

theorem field_eq_latest {α : Type} (reading : Json → Option α) (name : String)
    (ms : List (String × Json)) : field reading name (.object ms) = latest reading name ms := rfl

end Json

namespace Envelope

open Json

/-- A body that is one object: any members in any order, with any blanks between all tokens. -/
structure ObjectBody where
  before : Blanks
  blanks : Blanks
  written : List (WrittenMember 126)
  after : Blanks

namespace ObjectBody

def text (b : ObjectBody) : List Char := b.before.1 ++ (objectText b.blanks b.written ++ b.after.1)

def bytes (b : ObjectBody) : ByteArray := (String.ofList b.text).toUTF8

def members (b : ObjectBody) : List (String × Json) := b.written.map WrittenMember.member

/-- The last member that could report an error reports none. -/
def Quiet (b : ObjectBody) : Prop := ∀ code ∈ latest int64? "errorTypeId" b.members, code = 0

theorem readBytes_bytes (b : ObjectBody) : readBytes b.bytes = .ok (.object b.members) := by
  rw [bytes, readBytes_toUTF8]
  exact readChars_between b.before b.after (.ofMembers b.blanks b.written (by decide))

theorem Quiet.single {b : ObjectBody} (h : b.Quiet) : Single (.object b.members) := .object h

end ObjectBody

/-! ## Fields -/

/-- What a type of records takes from which member of an object. -/
class Membered (R : Type) where
  /-- The names that count. -/
  names : List String
  /-- A member that the record cannot do without is missing or unreadable. -/
  Lacks (ms : List (String × Json)) : Prop
  /-- Every field is the reading of the last member with its name. -/
  Shows (ms : List (String × Json)) (r : R) : Prop

class LawfulMembered (R : Type) [Record R] [Membered R] : Prop where
  ofNode?_eq_none_iff (ms : List (String × Json)) :
    Record.ofNode? (.object ms) = (none : Option R) ↔ Membered.Lacks R ms
  ofNode?_eq_some_iff (ms : List (String × Json)) (r : R) :
    Record.ofNode? (.object ms) = some r ↔ Membered.Shows ms r
  ofNode?_congr {ms ns : List (String × Json)}
    (h : ∀ name ∈ Membered.names R, last? name ms = last? name ns) :
    Record.ofNode? (.object ms) = (Record.ofNode? (.object ns) : Option R)

variable {ms ns : List (String × Json)}

/-! ## Error holders -/

instance : Membered ErrorHolder where
  names := ["errorTypeId"]
  Lacks ms := latest int64? "errorTypeId" ms = none
  Shows ms h := latest int64? "errorTypeId" ms = some h.code

instance : LawfulMembered ErrorHolder where
  ofNode?_eq_none_iff ms := Option.map_eq_none_iff
  ofNode?_eq_some_iff ms h := by
    constructor
    · intro hread
      obtain ⟨code, hcode, rfl⟩ := Option.map_eq_some_iff.mp hread
      exact hcode
    · intro hshown
      exact Option.map_eq_some_iff.mpr ⟨h.code, hshown, rfl⟩
  ofNode?_congr h := by
    have hcode := h "errorTypeId" (by decide)
    simp only [Record.ofNode?, ErrorHolder.ofNode?, field_eq_latest, latest, hcode]

/-! ## Logins -/

structure ShowsLogin (ms : List (String × Json)) (l : Login) : Prop where
  id : latest int64? "id" ms = some l.id
  name : l.name = latest string? "name" ms
  privateKey : latest string? "privateKey" ms = some l.privateKey

instance : Membered Login where
  names := ["id", "name", "privateKey"]
  Lacks ms := latest int64? "id" ms = none ∨ latest string? "privateKey" ms = none
  Shows := ShowsLogin

instance : LawfulMembered Login where
  ofNode?_eq_none_iff ms := by
    show Login.ofMembers? (.object ms) = none ↔
      latest int64? "id" ms = none ∨ latest string? "privateKey" ms = none
    simp only [Login.ofMembers?, field_eq_latest]
    cases latest int64? "id" ms <;> cases latest string? "privateKey" ms <;> simp
  ofNode?_eq_some_iff ms l := by
    show Login.ofMembers? (.object ms) = some l ↔ ShowsLogin ms l
    simp only [Login.ofMembers?, field_eq_latest, Option.bind_eq_bind, Option.bind_eq_some_iff,
      Option.pure_def, Option.some.injEq]
    constructor
    · rintro ⟨id, hid, key, hkey, rfl⟩
      exact ⟨hid, rfl, hkey⟩
    · intro hs
      refine ⟨l.id, hs.id, l.privateKey, hs.privateKey, ?_⟩
      rw [← hs.name]
  ofNode?_congr h := by
    simp only [Membered.names, List.forall_mem_cons] at h
    simp only [Record.ofNode?, Login.ofMembers?, field_eq_latest, latest, h]

/-! ## Heaters -/

structure ShowsHeater (ms : List (String × Json)) (h : Heater) : Prop where
  id : h.id = latest int64? "id" ms
  name : h.name = latest string? "name" ms
  ip : h.ip = latest string? "ip" ms
  firmware : h.firmware = latest string? "firmware" ms
  hardware : h.hardware = latest string? "hardware" ms
  reportingIntervalSecs : latest int32? "reportingInterval" ms = some h.reportingIntervalSecs
  currentTemperature : h.currentTemperature = latest temperature? "currentTemperature" ms
  targetTemperature : latest temperature? "targetTemperature" ms = some h.targetTemperature
  calibrationTemperature :
    h.calibrationTemperature = latest temperature? "calibrationTemperature" ms
  lastSeen : h.lastSeen = latest timestamp? "lastSeen" ms
  heatingMode : h.heatingMode = latest int64? "heatingMode" ms
  zone : h.zone = latest int64? "zone" ms
  zoneName : h.zoneName = latest string? "zoneName" ms
  schedule : h.schedule = latest int64? "schedule" ms
  hasFirmwareUpdate : h.hasFirmwareUpdate = latest bool? "hasFirmwareUpdate" ms

instance : Membered Heater where
  names := ["id", "name", "ip", "firmware", "hardware", "reportingInterval", "currentTemperature",
    "targetTemperature", "calibrationTemperature", "lastSeen", "heatingMode", "zone", "zoneName",
    "schedule", "hasFirmwareUpdate"]
  Lacks ms := latest temperature? "targetTemperature" ms = none ∨
    latest int32? "reportingInterval" ms = none
  Shows := ShowsHeater

instance : LawfulMembered Heater where
  ofNode?_eq_none_iff ms := by
    show Heater.ofMembers? (.object ms) = none ↔
      latest temperature? "targetTemperature" ms = none ∨
        latest int32? "reportingInterval" ms = none
    simp only [Heater.ofMembers?, field_eq_latest]
    cases latest temperature? "targetTemperature" ms <;>
      cases latest int32? "reportingInterval" ms <;> simp
  ofNode?_eq_some_iff ms h := by
    show Heater.ofMembers? (.object ms) = some h ↔ ShowsHeater ms h
    simp only [Heater.ofMembers?, field_eq_latest, Option.bind_eq_bind, Option.bind_eq_some_iff,
      Option.pure_def, Option.some.injEq]
    constructor
    · rintro ⟨target, ht, interval, hi, rfl⟩
      constructor <;> first | rfl | assumption
    · intro hs
      refine ⟨_, hs.targetTemperature, _, hs.reportingIntervalSecs, ?_⟩
      cases hs
      cases h
      simp_all only
  ofNode?_congr h := by
    simp only [Membered.names, List.forall_mem_cons] at h
    simp only [Record.ofNode?, Heater.ofMembers?, field_eq_latest, latest, h]

/-! ## Zones -/

structure ShowsZone (ms : List (String × Json)) (z : Zone) : Prop where
  id : z.id = latest int64? "id" ms
  name : z.name = latest string? "name" ms
  away : z.away = (latest bool? "away" ms).getD false
  awayMode : z.awayMode = latest int64? "awayMode" ms
  awayTill : z.awayTill = latest timestamp? "awayTill" ms
  currentHeatingMode : z.currentHeatingMode = latest int64? "currentHeatingMode" ms
  currentTemperature : z.currentTemperature = latest temperature? "currentTemperature" ms
  scheduledHeatingMode : z.scheduledHeatingMode = latest int64? "scheduledHeatingMode" ms
  heatingModeName : z.heatingModeName = latest string? "heatingModeName" ms
  heatingModeTill : z.heatingModeTill = latest timestamp? "heatingModeTill" ms
  temperatureCalibration :
    z.temperatureCalibration = latest temperature? "temperatureCalibration" ms
  scheduleId : z.scheduleId = latest int64? "scheduleId" ms
  scheduleName : z.scheduleName = latest string? "scheduleName" ms
  scheduleTargetTemperature :
    z.scheduleTargetTemperature = latest temperature? "scheduleTargetTemperature" ms
  targetTemperature : z.targetTemperature = latest temperature? "targetTemperature" ms
  toHour : z.toHour = latest int32? "toHour" ms
  toMinute : z.toMinute = latest int32? "toMinute" ms
  toWeekDay : z.toWeekDay = latest int32? "toWeekDay" ms

instance : Membered Zone where
  names := ["id", "name", "away", "awayMode", "awayTill", "currentHeatingMode",
    "currentTemperature", "scheduledHeatingMode", "heatingModeName", "heatingModeTill",
    "temperatureCalibration", "scheduleId", "scheduleName", "scheduleTargetTemperature",
    "targetTemperature", "toHour", "toMinute", "toWeekDay"]
  Lacks _ := False
  Shows := ShowsZone

instance : LawfulMembered Zone where
  ofNode?_eq_none_iff ms := ⟨fun h => absurd h (Option.some_ne_none _), False.elim⟩
  ofNode?_eq_some_iff ms z := by
    show some (Zone.ofMembers (.object ms)) = some z ↔ ShowsZone ms z
    simp only [Zone.ofMembers, field_eq_latest, Option.some.injEq]
    constructor
    · rintro rfl
      constructor <;> rfl
    · intro hs
      cases hs
      cases z
      simp_all only
  ofNode?_congr h := by
    simp only [Membered.names, List.forall_mem_cons] at h
    simp only [Record.ofNode?, isObject, Zone.ofMembers, field_eq_latest, latest, h]

/-! ## Bodies -/

/-- How a bare object is decoded to a record of this type. -/
structure Memberwise (R : Type) [Record R] [Membered R] : Prop where
  refused (b : ObjectBody) (h : b.Quiet) :
    decode false b.bytes = (.error .objectMapping : Except Error (List R)) ↔
      Membered.Lacks R b.members
  record (b : ObjectBody) (h : b.Quiet) (hl : ¬ Membered.Lacks R b.members) :
    ∃ r : R, decode false b.bytes = .ok [r] ∧ Membered.Shows b.members r
  /-- Members with other names make no difference, and neither do earlier ones with the same. -/
  others (b c : ObjectBody) (hb : b.Quiet) (hc : c.Quiet)
    (h : ∀ name ∈ Membered.names R, last? name b.members = last? name c.members) :
    (decode false b.bytes : Except Error (List R)) = decode false c.bytes

theorem decode_object {R : Type} [Record R] {b : ObjectBody} (h : b.Quiet) :
    decode false b.bytes = lone R (.object b.members) :=
  decode_eq_lone b.readBytes_bytes h.single

theorem memberwise_of_lawful (R : Type) [Record R] [Membered R] [LawfulMembered R] :
    Memberwise R where
  refused b h := by
    rw [decode_object h, lone_eq_error_iff, LawfulMembered.ofNode?_eq_none_iff]
  record b h hl := by
    rw [← LawfulMembered.ofNode?_eq_none_iff] at hl
    obtain ⟨r, hr⟩ := Option.ne_none_iff_exists'.mp hl
    refine ⟨r, ?_, (LawfulMembered.ofNode?_eq_some_iff _ r).mp hr⟩
    rw [decode_object h, lone_eq_ok_iff.mpr hr]
  others b c hb hc h := by
    rw [decode_object hb, decode_object hc, lone, lone, LawfulMembered.ofNode?_congr h]

/-- Bare objects are decoded in this way to every type of records that is read from members. -/
theorem memberwise :
    Memberwise ErrorHolder ∧ Memberwise Login ∧ Memberwise Heater ∧ Memberwise Zone :=
  ⟨memberwise_of_lawful _, memberwise_of_lawful _, memberwise_of_lawful _, memberwise_of_lawful _⟩

/-- A heater whose last `id` is written with an escape, and whose name is no text. -/
def escapedHeater : ObjectBody where
  before := ⟨['\n'], by simp [Reader.isSpace]⟩
  blanks := noBlanks
  written :=
    [.named "id" (.ofPlain (.string 126 "7") (by decide)),
      .named "name" (.ofMembers ⟨[' '], by simp [Reader.isSpace]⟩ [] (by decide)),
      .named "targetTemperature"
        (.ofPlain (.integer 126 (n := 2100) ⟨by decide, by decide⟩) (by decide)),
      ⟨[' ', '"', '\\', 'u', '0', '0', '6', '9', 'd', '"', '\t'], "id", by cbv,
        .ofPlain (.integer 126 (n := 7) ⟨by decide, by decide⟩) (by decide)⟩,
      .named "reportingInterval"
        (.ofPlain (.integer 126 (n := 60) ⟨by decide, by decide⟩) (by decide))]
  after := ⟨[' '], by simp [Reader.isSpace]⟩

theorem memberwise_escapedHeater :
    escapedHeater.Quiet ∧ ¬ Membered.Lacks Heater escapedHeater.members ∧
      ∃ h : Heater, decode false escapedHeater.bytes = .ok [h] ∧ h.id = some 7 ∧ h.name = none ∧
        h.targetTemperature = ⟨2100⟩ := by
  have hmembers : escapedHeater.members =
      [("id", .string "7"), ("name", .object []), ("targetTemperature", .integer 2100),
        ("id", .integer 7), ("reportingInterval", .integer 60)] := rfl
  have hquiet : escapedHeater.Quiet := by
    have hnone : latest int64? "errorTypeId" escapedHeater.members = none := by
      rw [hmembers]
      decide
    intro code hcode
    rw [hnone] at hcode
    cases hcode
  have hlacks : ¬ Membered.Lacks Heater escapedHeater.members := by
    rw [hmembers]
    show ¬ (latest temperature? _ _ = none ∨ latest int32? _ _ = none)
    decide
  obtain ⟨h, hdecode, hs⟩ := memberwise.2.2.1.record escapedHeater hquiet hlacks
  refine ⟨hquiet, hlacks, h, hdecode, ?_, ?_, ?_⟩
  · exact hs.id.trans (by rw [hmembers]; decide)
  · exact hs.name.trans (by rw [hmembers]; rfl)
  · refine Option.some.inj (hs.targetTemperature.symm.trans ?_)
    rw [hmembers]
    decide

end Envelope

end HeaterLink
