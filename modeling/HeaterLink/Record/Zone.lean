import HeaterLink.Record.Basic

/-!
# Zones

A zone is a group of heaters that share a target temperature. Every field but
`away` can be absent.
-/

namespace HeaterLink

structure Zone where
  id : Option Int64 := none
  name : Option String := none
  away : Bool := false
  awayMode : Option Int64 := none
  awayTill : Option Timestamp := none
  currentHeatingMode : Option Int64 := none
  currentTemperature : Option Temperature := none
  scheduledHeatingMode : Option Int64 := none
  heatingModeName : Option String := none
  heatingModeTill : Option Timestamp := none
  temperatureCalibration : Option Temperature := none
  scheduleId : Option Int64 := none
  scheduleName : Option String := none
  scheduleTargetTemperature : Option Temperature := none
  targetTemperature : Option Temperature := none
  toHour : Option Int32 := none
  toMinute : Option Int32 := none
  toWeekDay : Option Int32 := none
deriving DecidableEq, Repr, Inhabited

namespace Zone

open Json

def ofMembers (node : Json) : Zone where
  id := node.field int64? "id"
  name := node.field string? "name"
  away := (node.field bool? "away").getD false
  awayMode := node.field int64? "awayMode"
  awayTill := node.field timestamp? "awayTill"
  currentHeatingMode := node.field int64? "currentHeatingMode"
  currentTemperature := node.field temperature? "currentTemperature"
  scheduledHeatingMode := node.field int64? "scheduledHeatingMode"
  heatingModeName := node.field string? "heatingModeName"
  heatingModeTill := node.field timestamp? "heatingModeTill"
  temperatureCalibration := node.field temperature? "temperatureCalibration"
  scheduleId := node.field int64? "scheduleId"
  scheduleName := node.field string? "scheduleName"
  scheduleTargetTemperature := node.field temperature? "scheduleTargetTemperature"
  targetTemperature := node.field temperature? "targetTemperature"
  toHour := node.field int32? "toHour"
  toMinute := node.field int32? "toMinute"
  toWeekDay := node.field int32? "toWeekDay"

/-- Members in the order of their names. -/
def members (z : Zone) : List (String × Json) :=
  ("away", .bool z.away) ::
  (entry "awayMode" ofInt64 z.awayMode ++
   entry "awayTill" ofTimestamp z.awayTill ++
   entry "currentHeatingMode" ofInt64 z.currentHeatingMode ++
   entry "currentTemperature" ofTemperature z.currentTemperature ++
   entry "heatingModeName" .string z.heatingModeName ++
   entry "heatingModeTill" ofTimestamp z.heatingModeTill ++
   entry "id" ofInt64 z.id ++
   entry "name" .string z.name ++
   entry "scheduleId" ofInt64 z.scheduleId ++
   entry "scheduleName" .string z.scheduleName ++
   entry "scheduleTargetTemperature" ofTemperature z.scheduleTargetTemperature ++
   entry "scheduledHeatingMode" ofInt64 z.scheduledHeatingMode ++
   entry "targetTemperature" ofTemperature z.targetTemperature ++
   entry "temperatureCalibration" ofTemperature z.temperatureCalibration ++
   entry "toHour" ofInt32 z.toHour ++
   entry "toMinute" ofInt32 z.toMinute ++
   entry "toWeekDay" ofInt32 z.toWeekDay)

end Zone

instance : Record Zone where
  ofNode? node := if node.isObject then some (Zone.ofMembers node) else none
  toNode z := .object z.members

end HeaterLink
