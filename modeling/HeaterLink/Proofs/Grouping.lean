import HeaterLink.Delivery
import HeaterLink.Proofs.IdMap

/-!
# Heaters by zone

Under each zone stand the heaters that name it, in the order given, and zones
that no heater names are left out.

## Main statements

* `Heater.get?_group`, what stands under a zone.
* `Delivery.ofGroups_eq`, the groups as they are told to the zones that have an observer.
-/

namespace HeaterLink

namespace Heater

/-- The heaters that name a zone as theirs. -/
def inZone (zone : Int64) (hs : List Heater) : List Heater := hs.filter fun h => h.zone = some zone

theorem get?_foldl_addTo (groups : IdMap (List Heater)) (hs : List Heater) (zone : Int64) :
    (hs.foldl addTo groups).get? zone =
      if inZone zone hs = [] then groups.get? zone
      else some ((groups.get? zone).getD [] ++ inZone zone hs) := by
  induction hs generalizing groups with
  | nil => rfl
  | cons h hs ih =>
    rw [List.foldl_cons, ih]
    cases hz : h.zone with
    | none => simp [addTo, hz, inZone]
    | some own =>
      by_cases same : own = zone
      · subst same
        by_cases rest : inZone own hs = [] <;> simp_all [addTo, inZone]
      · simp [addTo, hz, inZone, same]

theorem get?_group (hs : List Heater) (zone : Int64) :
    (group hs).get? zone = if inZone zone hs = [] then none else some (inZone zone hs) :=
  get?_foldl_addTo {} hs zone

end Heater

namespace Delivery

/-! ## Deliveries by look-up -/

theorem ofZones_map (zones : IdMap Observer) (fetched : List Zone) :
    ofZones zones fetched = fetched.filterMap fun z =>
      z.id.bind fun id => (zones.get? id).map fun o => .zoneData id o z := by
  refine congrArg (List.filterMap · fetched) (funext fun z => ?_)
  cases z.id with
  | none => rfl
  | some id =>
    dsimp only [bind, Option.bind_some]
    cases zones.get? id <;> rfl

theorem ofEach_map (heaters : IdMap Observer) (fetched : List Heater) :
    ofEach heaters fetched = fetched.filterMap fun h =>
      h.id.bind fun id => (heaters.get? id).map fun o => .heaterData id o h := by
  refine congrArg (List.filterMap · fetched) (funext fun h => ?_)
  cases h.id with
  | none => rfl
  | some id =>
    dsimp only [bind, Option.bind_some]
    cases heaters.get? id <;> rfl

theorem ofGroups_map (zones : IdMap Observer) (fetched : List Heater) :
    ofGroups zones fetched = (Heater.group fetched).entries.filterMap fun e =>
      (zones.get? e.1).map fun o => .zoneHeaters e.1 o e.2 := by
  refine congrArg (List.filterMap · (Heater.group fetched).entries) (funext fun e => ?_)
  dsimp only [bind]
  cases zones.get? e.1 <;> rfl

/-- The groups are told in the order of their zones: to each that is observed, and that some
heater names. -/
theorem ofGroups_eq (zones : IdMap Observer) (fetched : List Heater) :
    ofGroups zones fetched = zones.entries.filterMap fun (id, o) =>
      if Heater.inZone id fetched = [] then none
      else some (.zoneHeaters id o (Heater.inZone id fetched)) := by
  calc ofGroups zones fetched
    _ = (Heater.group fetched).entries.filterMap fun e =>
        (zones.get? e.1).map fun o => .zoneHeaters e.1 o e.2 := ofGroups_map zones fetched
    _ = zones.entries.filterMap fun e =>
        ((Heater.group fetched).get? e.1).map fun hs => .zoneHeaters e.1 e.2 hs :=
      IdMap.filterMap_entries_comm _ zones fun id hs o => Delivery.zoneHeaters id o hs
    _ = _ := by
      refine congrArg (List.filterMap · zones.entries) (funext fun (id, o) => ?_)
      by_cases h : Heater.inZone id fetched = [] <;> simp [Heater.get?_group, h]

end Delivery

end HeaterLink
