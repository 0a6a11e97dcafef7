import HeaterLink.Record.Basic

/-!
# Heaters

A heater always reports its target temperature and how often it reports; the
other fields can be absent.
-/

namespace HeaterLink

structure Heater where
  id : Option Int64 := none
  name : Option String := none
  ip : Option String := none
  firmware : Option String := none
  hardware : Option String := none
  reportingIntervalSecs : Int32
  currentTemperature : Option Temperature := none
  targetTemperature : Temperature
  calibrationTemperature : Option Temperature := none
  lastSeen : Option Timestamp := none
  heatingMode : Option Int64 := none
  zone : Option Int64 := none
  zoneName : Option String := none
  schedule : Option Int64 := none
  hasFirmwareUpdate : Option Bool := none
deriving DecidableEq, Repr, Inhabited

namespace Heater

open Json

def ofMembers? (node : Json) : Option Heater := do
  let target ← node.field temperature? "targetTemperature"
  let interval ← node.field int32? "reportingInterval"
  return {
    id := node.field int64? "id"
    name := node.field string? "name"
    ip := node.field string? "ip"
    firmware := node.field string? "firmware"
    hardware := node.field string? "hardware"
    reportingIntervalSecs := interval
    currentTemperature := node.field temperature? "currentTemperature"
    targetTemperature := target
    calibrationTemperature := node.field temperature? "calibrationTemperature"
    lastSeen := node.field timestamp? "lastSeen"
    heatingMode := node.field int64? "heatingMode"
    zone := node.field int64? "zone"
    zoneName := node.field string? "zoneName"
    schedule := node.field int64? "schedule"
    hasFirmwareUpdate := node.field bool? "hasFirmwareUpdate" }

/-- Members in the order of their names. -/
def members (h : Heater) : List (String × Json) :=
  entry "calibrationTemperature" ofTemperature h.calibrationTemperature ++
  entry "currentTemperature" ofTemperature h.currentTemperature ++
  entry "firmware" .string h.firmware ++
  entry "hardware" .string h.hardware ++
  entry "hasFirmwareUpdate" .bool h.hasFirmwareUpdate ++
  entry "heatingMode" ofInt64 h.heatingMode ++
  entry "id" ofInt64 h.id ++
  entry "ip" .string h.ip ++
  entry "lastSeen" ofTimestamp h.lastSeen ++
  entry "name" .string h.name ++
  [("reportingInterval", ofInt32 h.reportingIntervalSecs)] ++
  entry "schedule" ofInt64 h.schedule ++
  [("targetTemperature", ofTemperature h.targetTemperature)] ++
  entry "zone" ofInt64 h.zone ++
  entry "zoneName" .string h.zoneName

end Heater

instance : Record Heater where
  ofNode? := Heater.ofMembers?
  toNode h := .object h.members

end HeaterLink
