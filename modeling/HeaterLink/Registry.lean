import HeaterLink.Error
import HeaterLink.IdMap
import HeaterLink.Record.Heater
import HeaterLink.Record.Zone

/-!
# The registry

What a host knows of one account: the observers of its zones and heaters, and
the status of the bridge. Observers are told of records by deliveries, and each
answers for itself; a delivery can be refused.
-/

namespace HeaterLink

/-! ## Observers -/

/-- What an observer can be told of. -/
inductive News where
  | zone (zone : Zone)
  /-- The heaters that are assigned to a zone. -/
  | heaters (heaters : List Heater)
  | heater (heater : Heater)
deriving DecidableEq, Repr

/-- Whoever is told of a zone or a heater, and what comes back then. -/
structure Observer where
  tag : String
  answer : News → Except Error Unit := fun _ => .ok ()

/-- What an observer is told. -/
inductive Delivery where
  | zoneData (id : Int64) (observer : Observer) (zone : Zone)
  /-- The heaters that are assigned to a zone. -/
  | zoneHeaters (id : Int64) (observer : Observer) (heaters : List Heater)
  | heaterData (id : Int64) (observer : Observer) (heater : Heater)

def Delivery.observer : Delivery → Observer
  | zoneData _ o _ | zoneHeaters _ o _ | heaterData _ o _ => o

def Delivery.news : Delivery → News
  | zoneData _ _ zone => .zone zone
  | zoneHeaters _ _ heaters => .heaters heaters
  | heaterData _ _ heater => .heater heater

/-- What comes back from a delivery. -/
def Delivery.answer (d : Delivery) : Except Error Unit := d.observer.answer d.news

/-! ## Status -/

inductive Status where
  | unknown
  | online
  | offline
deriving DecidableEq, Repr

inductive StatusDetail where
  | none
  | configurationError
  | communicationError
deriving DecidableEq, Repr

structure BridgeStatus where
  status : Status := .unknown
  detail : StatusDetail := .none
  message : Option String := none
deriving DecidableEq, Repr, Inhabited

namespace BridgeStatus

def online : BridgeStatus := { status := .online }

/-- The status after a failure. -/
def failed (detail : StatusDetail) (e : Error) : BridgeStatus := ⟨.offline, detail, some e.message⟩

end BridgeStatus

/-! ## Registries -/

structure Registry where
  zones : IdMap Observer := {}
  heaters : IdMap Observer := {}
  bridge : BridgeStatus := {}

namespace Registry

instance : Inhabited Registry := ⟨{}⟩

def isOnline (r : Registry) : Bool := r.bridge.status = .online

/-- What a host does to its registry. -/
inductive Change where
  | registerZone (id : Int64) (observer : Observer)
  | unregisterZone (id : Int64)
  | registerHeater (id : Int64) (observer : Observer)
  | unregisterHeater (id : Int64)
  | setStatus (bridge : BridgeStatus)

def change (r : Registry) : Change → Registry
  | .registerZone id o => { r with zones := r.zones.insert id o }
  | .unregisterZone id => { r with zones := r.zones.erase id }
  | .registerHeater id o => { r with heaters := r.heaters.insert id o }
  | .unregisterHeater id => { r with heaters := r.heaters.erase id }
  | .setStatus bridge => { r with bridge := bridge }

def hasZone (r : Registry) (id : Int64) : Bool := (r.zones.get? id).isSome
def hasHeater (r : Registry) (id : Int64) : Bool := (r.heaters.get? id).isSome

/-- Tries out the observer of a zone with nothing but the id, and with no heaters. -/
def probeZone (r : Registry) (id : Int64) : Option (List Delivery) :=
  (r.zones.get? id).map fun o => [.zoneData id o { id := some id }, .zoneHeaters id o []]

/-- Tries out the observer of a heater with an empty record. -/
def probeHeater (r : Registry) (id : Int64) : Option Delivery :=
  (r.heaters.get? id).map fun o =>
    .heaterData id o { reportingIntervalSecs := 0, targetTemperature := ⟨0⟩ }

end Registry

end HeaterLink
