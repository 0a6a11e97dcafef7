import HeaterLink.Registry

/-!
# Deliveries of fetched records

Which observers are told of which records. A record goes to the observer that
is registered under the record's own id; records without an id or an observer
are left out, and a refusal stops nothing.

## Main definitions

* `Heater.group`, the heaters of each zone.
* `Delivery.ofZones`, `Delivery.ofHeaters`, the deliveries of a fetch.
-/

namespace HeaterLink

/-! ## Grouping -/

/-- Puts a heater behind those of its zone. -/
def Heater.addTo (groups : IdMap (List Heater)) (h : Heater) : IdMap (List Heater) :=
  match h.zone with
  | none => groups
  | some zone => groups.alter zone fun present => present.getD [] ++ [h]

/-- Heaters by zone, in the order given; those without a zone are left out. -/
def Heater.group (hs : List Heater) : IdMap (List Heater) := hs.foldl Heater.addTo {}

namespace Delivery

/-! ## Fan-out -/

def ofZones (zones : IdMap Observer) (fetched : List Zone) : List Delivery :=
  fetched.filterMap fun z => do
    let id ← z.id
    return .zoneData id (← zones.get? id) z

def ofGroups (zones : IdMap Observer) (fetched : List Heater) : List Delivery :=
  (Heater.group fetched).entries.filterMap fun (id, hs) => do
    return .zoneHeaters id (← zones.get? id) hs

def ofEach (heaters : IdMap Observer) (fetched : List Heater) : List Delivery :=
  fetched.filterMap fun h => do
    let id ← h.id
    return .heaterData id (← heaters.get? id) h

/-- Zones are told of their heaters before the heaters are told of themselves. -/
def ofHeaters (zones heaters : IdMap Observer) (fetched : List Heater) : List Delivery :=
  ofGroups zones fetched ++ ofEach heaters fetched

end Delivery

end HeaterLink
