/-!
# Device commands

The commands that a heater understands on the local network, by their verbs.
-/

namespace HeaterLink.Device

inductive Command where
  | status
  | info
  | getTime
  | setTime
  | refreshData
  | setTargetTemperature
  | startBlink
  | stopBlink
  | setName
  | setPassword
  | setAway
  | setAwayHeatingMode
  | setCalibrationTemperature
  | getHeatingModes
  | addHeatingMode
  | removeHeatingMode
  | setHeatingModeTemperature
  | setHeatingModeName
  | setHeatingModeColor
  | getSchedules
  | getScheduleIntervals
  | addSchedule
  | removeSchedule
  | setActiveSchedule
  | setScheduleNames
  | setScheduleIntervals
  | startChunkedIntervals
  | setChunkedIntervalsChunk
  | joinWifi
  | setCloudParams
  | firmwareStart
  | firmwareChunk
  | firmwareEnd
  | getWithLocale
  | setWithLocale
deriving DecidableEq, Repr

namespace Command

def verb : Command → String
  | status => "status"
  | info => "info"
  | getTime => "get_time"
  | setTime => "set_time"
  | refreshData => "refresh_data"
  | setTargetTemperature => "set_target_temperature"
  | startBlink => "start_leds_blink"
  | stopBlink => "stop_leds_blink"
  | setName => "set_name"
  | setPassword => "set_password"
  | setAway => "set_away"
  | setAwayHeatingMode => "set_away_mode"
  | setCalibrationTemperature => "set_calibration_temp"
  | getHeatingModes => "heating_modes"
  | addHeatingMode => "add_mode"
  | removeHeatingMode => "remove_mode"
  | setHeatingModeTemperature => "set_mode_temperature"
  | setHeatingModeName => "set_mode_name"
  | setHeatingModeColor => "set_mode_color"
  | getSchedules => "schedules"
  | getScheduleIntervals => "schedule_intervals"
  | addSchedule => "add_schedule"
  | removeSchedule => "remove_schedule"
  | setActiveSchedule => "change_schedule"
  | setScheduleNames => "set_schedule_names"
  | setScheduleIntervals => "set_schedule_intervals"
  | startChunkedIntervals => "start_chunked_intervals"
  | setChunkedIntervalsChunk => "set_chunked_intervals_chunk"
  | joinWifi => "join_wifi"
  | setCloudParams => "save_key_and_finish"
  | firmwareStart => "start"
  | firmwareChunk => "data"
  | firmwareEnd => "reset"
  | getWithLocale => "get_withlocale"
  | setWithLocale => "set_withlocale"

/-- A command that a heater may take a while to answer. -/
def isLongRunning (c : Command) : Bool := c == status || c == refreshData

/-- How long an answer is waited for. -/
def timeoutMs (c : Command) : Nat := if c.isLongRunning then 15000 else 10000

end Command

end HeaterLink.Device
