import HeaterLink.Proofs.Grouping
import HeaterLink.Proofs.Poller.Sequence

/-!
# Who is told what

The observers of a tick are those that the registry held when the tick began.
Nothing that happens while its fetches are under way changes them, and nobody's
answer keeps anybody else from being told.

## Main definitions

* `Registry.zoneCalls`, `Registry.heaterCalls`, the deliveries of a tick as they are meant.
* `Poller.Tick.observers`, whom a tick tells.
* `Registry.SameObservers`, registries that differ only in what is answered.

## Main statements

* `Polling.fan_out`, the deliveries of a tick and what it comes to.
-/

namespace HeaterLink

/-! ## Deliveries as they are meant -/

namespace Registry

/-- Each zone that is observed is told of itself, in the order of the answer. -/
def zoneCalls (r : Registry) : Except Error (List Zone) → List Delivery
  | .error _ => []
  | .ok zones => zones.filterMap fun z =>
    z.id.bind fun id => (r.zones.get? id).map fun o => .zoneData id o z

/-- Each zone that is observed and that some heater names is told of those heaters, in the order
of the zones; then each heater that is observed is told of itself, in the order of the answer. -/
def heaterCalls (r : Registry) : Except Error (List Heater) → List Delivery
  | .error _ => []
  | .ok heaters =>
    (r.zones.entries.filterMap fun (id, o) =>
      let own := heaters.filter fun h => h.zone = some id
      if own = [] then none else some (.zoneHeaters id o own)) ++
    heaters.filterMap fun h =>
      h.id.bind fun id => (r.heaters.get? id).map fun o => .heaterData id o h

/-- The same observers under the same ids, whatever each answers in either registry. -/
structure SameObservers (r r' : Registry) : Prop where
  zones : ∀ id, (r.zones.get? id).map Observer.tag = (r'.zones.get? id).map Observer.tag
  heaters : ∀ id, (r.heaters.get? id).map Observer.tag = (r'.heaters.get? id).map Observer.tag

end Registry

/-- The delivery that is made, whatever is answered to it. -/
def Delivery.made : Delivery → Delivery
  | zoneData id o zone => zoneData id { tag := o.tag } zone
  | zoneHeaters id o hs => zoneHeaters id { tag := o.tag } hs
  | heaterData id o h => heaterData id { tag := o.tag } h

namespace Poller

/-- The observers that a tick found when it began. -/
def Tick.observers (tick : Tick) : Registry := { zones := tick.zones, heaters := tick.heaters }

theorem zoneDeliveries_eq (tick : Tick) (zones : Except Error (List Zone)) :
    zoneDeliveries tick zones = tick.observers.zoneCalls zones := by
  cases zones with
  | error e => rfl
  | ok zones => exact Delivery.ofZones_map tick.zones zones

theorem heaterDeliveries_eq (tick : Tick) (heaters : Except Error (List Heater)) :
    heaterDeliveries tick heaters = tick.observers.heaterCalls heaters := by
  cases heaters with
  | error e => rfl
  | ok heaters =>
    exact congrArg₂ (· ++ ·) (Delivery.ofGroups_eq tick.zones heaters)
      (Delivery.ofEach_map tick.heaters heaters)

theorem zoneDeliveries_ofRegistry (r : Registry) (zones : Except Error (List Zone)) :
    zoneDeliveries (.ofRegistry r) zones = r.zoneCalls zones := by
  rw [zoneDeliveries_eq]
  cases zones <;> rfl

theorem heaterDeliveries_ofRegistry (r : Registry) (heaters : Except Error (List Heater)) :
    heaterDeliveries (.ofRegistry r) heaters = r.heaterCalls heaters := by
  rw [heaterDeliveries_eq]
  cases heaters <;> rfl

end Poller

/-! ## Answers -/

namespace Registry

variable {r r' : Registry}

/-- What is made of two observers under the same id is the same if they have the same name. -/
theorem map_made {maps maps' : IdMap Observer} {id : Int64} {f : Observer → Delivery}
    (h : (maps.get? id).map Observer.tag = (maps'.get? id).map Observer.tag)
    (hf : ∀ o, (f o).made = (f { tag := o.tag }).made) :
    ((maps.get? id).map f).map Delivery.made = ((maps'.get? id).map f).map Delivery.made := by
  simp only [Option.map_map]
  have hcomp : Delivery.made ∘ f = (fun tag => (f { tag := tag }).made) ∘ Observer.tag :=
    funext hf
  rw [hcomp, ← Option.map_map, ← Option.map_map, h]

theorem SameObservers.zoneCalls (h : SameObservers r r') (zones : Except Error (List Zone)) :
    (r.zoneCalls zones).map Delivery.made = (r'.zoneCalls zones).map Delivery.made := by
  cases zones with
  | error e => rfl
  | ok zones =>
    simp only [Registry.zoneCalls, List.map_filterMap, Option.map_bind]
    congr 1
    funext z
    congr 1
    funext id
    exact map_made (h.zones id) fun _ => rfl

theorem SameObservers.heaterCalls (h : SameObservers r r')
    (heaters : Except Error (List Heater)) :
    (r.heaterCalls heaters).map Delivery.made = (r'.heaterCalls heaters).map Delivery.made := by
  rw [← Poller.heaterDeliveries_ofRegistry, ← Poller.heaterDeliveries_ofRegistry]
  cases heaters with
  | error e => rfl
  | ok heaters =>
    simp only [Poller.heaterDeliveries, Poller.Tick.ofRegistry, Delivery.ofHeaters,
      Delivery.ofGroups_map, Delivery.ofEach_map, List.map_append, List.map_filterMap,
      Option.map_bind]
    congr 2
    · funext e
      exact map_made (h.zones e.1) fun _ => rfl
    · funext heater
      congr 1
      funext id
      exact map_made (h.heaters id) fun _ => rfl

end Registry

/-! ## Ticks -/

namespace Polling

open Poller

/-- What a refresh comes to: the failure of the zones, or else that of the heaters. -/
def outcome : Except Error (List Zone) → Except Error (List Heater) → Option Error
  | .error e, _ => some e
  | .ok _, .error e => some e
  | .ok _, .ok _ => none

theorem outcome_eq (zones : Except Error (List Zone)) (heaters : Except Error (List Heater)) :
    outcome zones heaters = (fault? zones).or (fault? heaters) := by
  cases zones <;> cases heaters <;> rfl

/-- The deliveries of a tick are those that the registry called for when the tick began, whatever
is done while its fetches are under way: first for the zones, if they came, and then, also after a
failure of the zones, for the heaters, if they came. What anybody answers makes no difference. -/
theorem fan_out (c : Cadence) (r : Registry) (now : Nat) (es : List Polling.Event) :
    let last := (run { poller := { cadence := c }, registry := r, now := now } es).1
    (∀ e t es₁ es₂ zones heaters, .zonesRequested t ∈ (last.step e).2 →
      (∀ answer, .poller (.zonesAnswered t answer) ∉ es₁) →
      (∀ answer, .poller (.heatersAnswered t answer) ∉ es₂) →
      (last.run (e :: (es₁ ++ .poller (.zonesAnswered t zones) ::
        (es₂ ++ [.poller (.heatersAnswered t heaters)])))).2 =
          [.zonesRequested t] ++ (last.registry.zoneCalls zones).map .delivered ++
            [.heatersRequested t] ++ (last.registry.heaterCalls heaters).map .delivered ++
            [.ticked t (outcome zones heaters)]) ∧
    ∀ r' zones heaters, last.registry.SameObservers r' →
      (last.registry.zoneCalls zones).map Delivery.made =
        (r'.zoneCalls zones).map Delivery.made ∧
      (last.registry.heaterCalls heaters).map Delivery.made =
        (r'.heaterCalls heaters).map Delivery.made := by
  intro last
  have turns : Turns last.poller := turns_run (turns_fresh c) es
  refine ⟨fun e t es₁ es₂ zones heaters hn h₁ h₂ => ?_,
    fun r' zones heaters h => ⟨h.zoneCalls zones, h.heaterCalls heaters⟩⟩
  obtain ⟨hbegun, hasked, hlate, hended, -⟩ := begun_run turns hn h₁ h₂ zones heaters
  have hshape : es₁ ++ .poller (.zonesAnswered t zones) ::
      (es₂ ++ [.poller (.heatersAnswered t heaters)]) =
      (es₁ ++ [.poller (.zonesAnswered t zones)]) ++
        (es₂ ++ [.poller (.heatersAnswered t heaters)]) := by simp
  rw [hshape, run, hbegun, run_append, hasked, run_concat, hlate, hended,
    zoneDeliveries_ofRegistry, heaterDeliveries_ofRegistry, outcome_eq]
  simp

/-- A zone that is taken off and another that is put in its place while the zones are fetched, a
failure of the zones and an observer that refuses: the heaters are told as if nothing happened. -/
theorem fan_out_isolated :
    let heater : Heater :=
      { id := some 7, zone := some 2, reportingIntervalSecs := 60, targetTemperature := ⟨2000⟩ }
    let zone : Observer := ⟨"zone", fun _ => .error (.observer "zone refused")⟩
    let registry : Registry :=
      { zones := IdMap.insert {} 2 zone, heaters := IdMap.insert {} 7 { tag := "heater" } }
    let before : List Polling.Event := [.poller .pollNow]
    let last := (run { registry := registry } before).1
    let changes : List Polling.Event :=
      [.registry (.unregisterZone 2), .registry (.registerZone 3 { tag := "other" })]
    (last.step (.poller (.resume 0))).2 = [.zonesRequested 0] ∧
      (last.run (.poller (.resume 0) :: (changes ++
        .poller (.zonesAnswered 0 (.error .objectMapping)) ::
          ([] ++ [.poller (.heatersAnswered 0 (.ok [heater]))])))).2 =
        [.zonesRequested 0, .heatersRequested 0,
          .delivered (.zoneHeaters 2 zone [heater]),
          .delivered (.heaterData 7 { tag := "heater" } heater),
          .ticked 0 (some .objectMapping)] := by
  intro heater zone registry before last changes
  have hbegun : (last.step (.poller (.resume 0))).2 = [.zonesRequested 0] := rfl
  refine ⟨hbegun, ?_⟩
  exact (fan_out {} registry 0 before).1 (.poller (.resume 0)) 0 changes []
    (.error .objectMapping) (.ok [heater]) (hbegun ▸ List.mem_singleton_self _)
    (by simp [changes]) (by simp)

end Polling

end HeaterLink
