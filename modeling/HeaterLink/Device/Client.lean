import HeaterLink.Device.Authorization
import HeaterLink.Device.Command
import HeaterLink.Envelope
import HeaterLink.Form
import HeaterLink.Http
import HeaterLink.Record.Zone

/-!
# The device client

A heater on the local network takes commands as the query of a GET. With
authorization on, the query holds the time and the digest of the command, its
value, the time and the password goes with it.

## Main definitions

* `Device.Client.command`, any command with an optional value.
* `Device.Client.info`, the descriptor of the heater, for which nobody is asked.
-/

namespace HeaterLink.Device

structure Client where
  baseUrl : String
  password : String
  /-- Whether the time and the digest go with each command. -/
  authorizes : Bool := true
  /-- Whether the password goes into the query, for old firmware. -/
  signsQuery : Bool := false

namespace Client

/-- The address at which a heater takes commands. -/
def defaultUrl (ip : String) : String := "http://" ++ ip ++ "/client"

variable {R : Type} [Record R]

/-- The query of a command sent at a time, in seconds since the epoch. Only the value and the
password are escaped. -/
def query (c : Client) (now : Int) (command : Command) (value? : Option String) : List Char :=
  "command=".toList ++ command.verb.toList ++
  value?.toList.flatMap (fun v => "&value=".toList ++ Form.component v) ++
  (if c.authorizes then "&time=".toList ++ Decimal.int now else []) ++
  (if c.signsQuery then "&sign=".toList ++ Form.component c.password else [])

def headers : List (String × String) := [("connection", "close")]

/-- The header that shows the digest of a command, if one is shown. -/
def authorizationHeader (c : Client) (now : Int) (command : Command) (value? : Option String) :
    Except Error (List (String × String)) :=
  if c.authorizes then do
    let text ← authorization
      ([command.verb] ++ value?.toList ++ [Decimal.text now, c.password])
    return [("authorization", "Basic " ++ text)]
  else .ok []

def command (c : Client) (now : Int) (command : Command) (value? : Option String) :
    Except Error (Http.Call (List R)) := do
  let shown ← c.authorizationHeader now command value?
  return {
    request := ⟨.get, c.baseUrl ++ "?" ++ String.ofList (c.query now command value?),
      headers ++ shown, ""⟩
    receive := fun outcome => outcome.body? >>= Envelope.decode false }

/-- The first record that answers a command. -/
def ask (c : Client) (now : Int) (command : Command) (value? : Option String) :
    Except Error (Http.Call (Option R)) :=
  (c.command now command value?).map Http.Call.first

/-- The descriptor as text. -/
def info (c : Client) : Http.Call String where
  request := ⟨.get, c.baseUrl ++ "?command=" ++ Command.info.verb, headers, ""⟩
  receive outcome := outcome.body?.map fun body => Utf8.decode body.toList

/-! ## Commands -/

/-- The state of the heater, in the form of a zone. -/
def status (c : Client) (now : Int) : Except Error (Http.Call (Option Zone)) :=
  c.ask now .status none

/-- The clock of the heater, in seconds since the epoch. -/
def time (c : Client) (now : Int) : Except Error (Http.Call (Option Int64)) :=
  c.ask now .getTime none

def refreshData (c : Client) (now : Int) : Except Error (Http.Call (Option Bool)) :=
  c.ask now .refreshData none

def startBlink (c : Client) (now : Int) : Except Error (Http.Call (Option Bool)) :=
  c.ask now .startBlink none

def stopBlink (c : Client) (now : Int) : Except Error (Http.Call (Option Bool)) :=
  c.ask now .stopBlink none

def setTargetTemperature (c : Client) (now : Int) (target : Temperature) :
    Except Error (Http.Call (Option Bool)) :=
  c.ask now .setTargetTemperature (some (Decimal.text target.hundredths.toInt))

def setCalibrationTemperature (c : Client) (now : Int) (offset : Temperature) :
    Except Error (Http.Call (Option Bool)) :=
  c.ask now .setCalibrationTemperature (some (Decimal.text offset.hundredths.toInt))

def setName (c : Client) (now : Int) (name : String) : Except Error (Http.Call (Option Bool)) :=
  c.ask now .setName (some name)

end Client

end HeaterLink.Device
