import HeaterLink.Text.Decimal

/-!
# Endpoints of the cloud service

Paths under the base address, with account, heater and zone spelled in decimal.
-/

namespace HeaterLink.Endpoint

def cloud : String := "https://sheater.adax.lt/sheater-client-api"

/-- The path through these segments. -/
def path (segments : List (List Char)) : List Char := segments.flatMap ('/' :: ·)

def segment (s : String) : List Char := s.toList
def number (n : Int64) : List Char := Decimal.int n.toInt

def login : String := String.ofList (path (["rest", "users", "login", "id"].map segment))

def google : String := String.ofList (path (["rest", "users", "google-android", "id"].map segment))

def heaters (account : Int64) : String :=
  String.ofList (path [segment "rest", segment "heaters", segment "list", number account])

def heater (heater account : Int64) : String :=
  String.ofList
    (path [segment "rest", segment "heaters", segment "heater", number heater, number account])

def zones (account : Int64) : String :=
  String.ofList (path [segment "rest", segment "zones", segment "list", number account])

def zone (zone account : Int64) : String :=
  String.ofList (path [segment "rest", segment "zones", number zone, number account])

def zoneTarget (zone account : Int64) (value : Int32) : String :=
  String.ofList
    (path [segment "rest", segment "zones", number zone, segment "target_temperature",
      number account, Decimal.int value.toInt])

end HeaterLink.Endpoint
