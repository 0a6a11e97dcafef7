import HeaterLink.Proofs.Account.Connection
import HeaterLink.Proofs.Grouping

/-!
# Recipients of fetched records

A tick tells an observer of nothing but its own zone or heater, because it looks
every observer up under the id that the record itself names. A refresh of one
zone looks it up under the id that was asked for; if the reply is about another
zone, the observer is told of that one.

## Main definitions

* `Delivery.IsOwn`, a delivery of what belongs to the id that it goes to.
* `Delivery.KnownTo`, a delivery to whoever is registered under that id.
* `Account.Bridge.StraysIn`, the deliveries of a run that refreshes send astray.

## Main statements

* `Account.Bridge.own_recipients`, the deliveries of every run.
* `Account.Bridge.not_own_after_every_refresh`, one that goes astray.
-/

namespace HeaterLink

/-! ## Deliveries -/

namespace Delivery

/-- What is told belongs to the zone or the heater with this id. -/
def IsOwn : Delivery → Prop
  | zoneData id _ z => z.id = some id
  | zoneHeaters id _ hs => hs ≠ [] ∧ ∀ h ∈ hs, h.zone = some id
  | heaterData id _ h => h.id = some id

/-- Whoever is told is registered under the id. -/
def KnownTo (zones heaters : IdMap Observer) : Delivery → Prop
  | zoneData id o _ | zoneHeaters id o _ => zones.get? id = some o
  | heaterData id o _ => heaters.get? id = some o

variable {zones heaters : IdMap Observer} {d : Delivery}

theorem own_of_mem_ofZones {fetched : List Zone} (h : d ∈ ofZones zones fetched) :
    d.IsOwn ∧ d.KnownTo zones heaters := by
  rw [ofZones_map] at h
  obtain ⟨z, -, hz⟩ := List.mem_filterMap.mp h
  obtain ⟨id, hid, hd⟩ := Option.bind_eq_some_iff.mp hz
  obtain ⟨o, ho, rfl⟩ := Option.map_eq_some_iff.mp hd
  exact ⟨hid, ho⟩

theorem own_of_mem_ofGroups {fetched : List Heater} (h : d ∈ ofGroups zones fetched) :
    d.IsOwn ∧ d.KnownTo zones heaters := by
  rw [ofGroups_eq] at h
  obtain ⟨⟨id, o⟩, ho, hd⟩ := List.mem_filterMap.mp h
  dsimp only at hd
  split at hd
  · cases hd
  · rename_i hne
    cases hd
    refine ⟨⟨hne, fun h hh => ?_⟩, IdMap.get?_eq_some_iff.mpr ho⟩
    simpa using (List.mem_filter.mp hh).2

theorem own_of_mem_ofEach {fetched : List Heater} (h : d ∈ ofEach heaters fetched) :
    d.IsOwn ∧ d.KnownTo zones heaters := by
  rw [ofEach_map] at h
  obtain ⟨heater, -, hz⟩ := List.mem_filterMap.mp h
  obtain ⟨id, hid, hd⟩ := Option.bind_eq_some_iff.mp hz
  obtain ⟨o, ho, rfl⟩ := Option.map_eq_some_iff.mp hd
  exact ⟨hid, ho⟩

end Delivery

/-! ## Pollers -/

namespace Poller

variable {p : Poller} {r : Registry} {now : Nat} {e : Event} {st : Stepped} {d : Delivery}
  {tick : Tick}

theorem own_of_mem_zoneDeliveries {answer : Except Error (List Zone)}
    (h : d ∈ zoneDeliveries tick answer) : d.IsOwn ∧ d.KnownTo tick.zones tick.heaters := by
  cases answer with
  | error => cases h
  | ok fetched => exact Delivery.own_of_mem_ofZones h

theorem own_of_mem_heaterDeliveries {answer : Except Error (List Heater)}
    (h : d ∈ heaterDeliveries tick answer) : d.IsOwn ∧ d.KnownTo tick.zones tick.heaters := by
  cases answer with
  | error => cases h
  | ok fetched =>
    rcases List.mem_append.mp h with hgroup | heach
    · exact Delivery.own_of_mem_ofGroups hgroup
    · exact Delivery.own_of_mem_ofEach heach

/-- What a poller delivers comes from a tick under way, and goes where it belongs. -/
theorem Moves.delivered (m : Moves p r now e st) (hd : .delivered d ∈ st.notices) :
    d.IsOwn ∧ ∃ t tick, p.tick? t = some tick ∧ d.KnownTo tick.zones tick.heaters := by
  cases m with
  | @zones t task tick answer ht hp =>
    have hmem : d ∈ zoneDeliveries tick answer := by simpa using hd
    obtain ⟨hown, hknown⟩ := own_of_mem_zoneDeliveries hmem
    exact ⟨hown, t, tick, by rw [tick?_eq ht, hp, Phase.tick?], hknown⟩
  | @finish t task tick _ answer ht hp =>
    have hmem : d ∈ heaterDeliveries tick answer := by simpa using hd
    obtain ⟨hown, hknown⟩ := own_of_mem_heaterDeliveries hmem
    exact ⟨hown, t, tick, by rw [tick?_eq ht, hp, Phase.tick?], hknown⟩
  | _ => simp at hd

end Poller

namespace Account.Bridge

variable {b : Bridge} {e : Event} {d : Delivery}

/-! ## Refreshes -/

/-- The reply to a refresh of one zone is about another zone, or about none that it names. -/
inductive Strays (b : Bridge) : Event → Delivery → Prop where
  | refresh {place : Nat} {id : Int64} {call : Http.Call (Option Zone)} {outcome : Http.Outcome}
      {zone : Zone} {o : Observer}
      (ho : b.operations[place]? = some (some (.refreshZone id call)))
      (hr : call.receive outcome = .ok (some zone)) (hz : b.registry.zones.get? id = some o)
      (hn : zone.id ≠ some id) :
      Strays b (.answered (.operation place) outcome) (.zoneData id o zone)

/-- What goes astray in a run. -/
def StraysIn (b : Bridge) : List Event → Delivery → Prop
  | [], _ => False
  | e :: es, d => b.Strays e d ∨ StraysIn (b.step e).1 es d

theorem zoneArrived_eq {id : Int64} {zone : Zone} {o : Observer}
    (h : b.registry.zones.get? id = some o) :
    (b.zoneArrived id (.ok (some zone))).1 = some (.zoneData id o zone) := by
  rw [zoneArrived, h]

theorem of_zoneArrived {id : Int64} {result : Except Error (Option Zone)}
    (h : (b.zoneArrived id result).1 = some d) :
    ∃ zone o, result = .ok (some zone) ∧ b.registry.zones.get? id = some o ∧
      d = .zoneData id o zone := by
  match result with
  | .error _ => cases h
  | .ok none => cases h
  | .ok (some zone) =>
    cases ho : b.registry.zones.get? id with
    | none =>
      rw [zoneArrived, ho] at h
      cases h
    | some o =>
      rw [zoneArrived_eq ho] at h
      exact ⟨zone, o, rfl, rfl, (Option.some.inj h).symm⟩

theorem Strays.delivered (h : b.Strays e d) : .delivered d ∈ (b.step e).2 ∧ ¬ d.IsOwn := by
  cases h with
  | @refresh place id call outcome zone o ho hr hz hn =>
    have harrived : ((b.close place).zoneArrived id (call.receive outcome)).1 =
        some (.zoneData id o zone) := by
      rw [hr]
      exact zoneArrived_eq hz
    rw [step_answered outcome ho, proceed]
    refine ⟨?_, hn⟩
    simp [harrived]

/-! ## Steps -/

/-- Where a delivery can come from: a tick under way, or the reply to a refresh. -/
theorem step_delivered (h : .delivered d ∈ (b.step e).2) :
    (d.IsOwn ∧ ∃ (i : Nat) (link : Link) (t : Nat) (tick : Poller.Tick),
      b.links[i]? = some link ∧ link.poller.tick? t = some tick ∧
        d.KnownTo tick.zones tick.heaters) ∨
    (d.IsOwn ∨ b.Strays e d) ∧ d.KnownTo b.registry.zones b.registry.heaters := by
  have m := b.step_moves e
  generalize b.step e = after at h m
  cases m with
  | @poller e i link pe st hl he pm =>
    obtain ⟨n, hn, hd⟩ := List.mem_map.mp h
    cases n with
    | delivered =>
      cases hd
      obtain ⟨hown, t, tick, ht, hknown⟩ := pm.delivered hn
      exact .inl ⟨hown, i, link, t, tick, hl, ht, hknown⟩
    | _ => cases hd
  | @zone place id call outcome ho =>
    refine .inr ?_
    have harrived : ((b.close place).zoneArrived id (call.receive outcome)).1 = some d := by
      simpa [proceed] using h
    obtain ⟨zone, o, hr, hz, rfl⟩ := of_zoneArrived harrived
    refine ⟨?_, hz⟩
    by_cases hn : zone.id = some id
    · exact .inl hn
    · exact .inr (.refresh ho hr hz hn)
  | suspended => simp [suspend] at h
  | signInFailed => simp [signedIn] at h
  | signInDone => simp [signedIn] at h
  | target => simp [proceed] at h
  | _ => simp at h

/-! ## Ticks under way -/

/-- Every tick under way began with one of these registries, and the present one is among them. -/
structure Remembers (past : Registry → Prop) (b : Bridge) : Prop where
  orderly : Orderly b
  present : past b.registry
  ticks (i : Nat) (link : Link) (t : Nat) (tick : Poller.Tick) (hl : b.links[i]? = some link)
    (ht : link.poller.tick? t = some tick) : ∃ r, past r ∧ tick = .ofRegistry r

variable {past : Registry → Prop}

theorem Remembers.disconnect (h : Remembers past b) : Remembers past b.disconnect where
  orderly := h.orderly.disconnect
  present := by
    have hr : b.disconnect.registry = b.registry := by
      unfold Bridge.disconnect
      split <;> rfl
    exact hr ▸ h.present
  ticks i own t tick hl ht := by
    rw [getElem?_disconnect] at hl
    split at hl
    · obtain ⟨link, hlink, rfl⟩ := Option.map_eq_some_iff.mp hl
      exact h.ticks i link t tick hlink (Poller.carries_dropJob link.poller t tick ht)
    · exact h.ticks i own t tick hl ht

theorem Remembers.signsIn {b' : Bridge} (h : Remembers past b) (he : SignsIn b e b') :
    Remembers past b' := by
  cases he with
  | now => exact h
  | answered => exact ⟨h.orderly.congr rfl rfl, h.present, h.ticks⟩

/-- A poller that is taken into use has no tick under way. -/
theorem Remembers.install (h : Remembers past b) (client : Cloud.Client) {j t : Nat} {own : Link}
    {tick : Poller.Tick} (hl : (b.install client).links[j]? = some own)
    (ht : own.poller.tick? t = some tick) : ∃ r, past r ∧ tick = .ofRegistry r := by
  rw [getElem?_install] at hl
  split at hl
  · obtain rfl := Option.some.inj hl
    cases Poller.carries_schedule _ _ _ _ t tick ht
  · exact h.disconnect.ticks j own t tick hl ht

theorem Remembers.step (h : Remembers past b) (e : Event) (hp : past (b.step e).1.registry) :
    Remembers past (b.step e).1 := by
  refine ⟨h.orderly.step e, hp, fun j own t tick hl ht => ?_⟩
  have m := b.step_moves e
  rcases m.frame with hf | ⟨i, link, pe, st, hlink, he, pm, hs⟩ | ⟨b', client, he, hs⟩ | rfl
  · rw [hf.links] at hl
    exact h.ticks j own t tick hl ht
  · rw [hs] at hl
    change (b.updatePoller i fun _ => st.poller).links[j]? = some own at hl
    rw [getElem?_updatePoller] at hl
    split at hl
    · subst i
      rw [hlink] at hl
      obtain rfl := Option.some.inj hl
      have hturns := (h.orderly.kept j link hlink).turns
      rcases (pm.carries hturns he.not_isHost ht).2 with ⟨hbefore, -⟩ | ⟨hbegun, -⟩
      · exact h.ticks j link t tick hlink hbefore
      · exact ⟨b.registry, h.present, hbegun⟩
    · exact h.ticks j own t tick hl ht
  · rw [hs] at hl
    exact (h.signsIn he).install client hl ht
  · exact h.disconnect.ticks j own t tick hl ht

/-! ## Runs -/

theorem Remembers.delivered (h : Remembers past b) (hd : .delivered d ∈ (b.step e).2) :
    (d.IsOwn ∨ b.Strays e d) ∧ ∃ r, past r ∧ d.KnownTo r.zones r.heaters := by
  rcases step_delivered hd with ⟨hown, i, link, t, tick, hl, ht, hknown⟩ | ⟨hown, hknown⟩
  · obtain ⟨r, hr, rfl⟩ := h.ticks i link t tick hl ht
    exact ⟨.inl hown, r, hr, hknown⟩
  · exact ⟨hown, b.registry, h.present, hknown⟩

theorem Remembers.run_delivered {es : List Event} (h : Remembers past b)
    (hp : ∀ pre, pre <+: es → past (b.run pre).1.registry)
    (hd : .delivered d ∈ (b.run es).2) :
    (d.IsOwn ∨ b.StraysIn es d) ∧ ∃ r, past r ∧ d.KnownTo r.zones r.heaters := by
  induction es generalizing b with
  | nil => cases hd
  | cons e es ih =>
    rcases List.mem_append.mp hd with hfirst | hlater
    · obtain ⟨hown, hknown⟩ := h.delivered hfirst
      exact ⟨hown.imp_right .inl, hknown⟩
    · have hstep : Remembers past (b.step e).1 :=
        h.step e (hp [e] (List.prefix_iff_eq_append.mpr rfl))
      obtain ⟨hown, hknown⟩ := ih hstep
        (fun pre hpre => hp (e :: pre) (List.cons_prefix_cons.mpr ⟨rfl, hpre⟩)) hlater
      exact ⟨hown.imp_right .inr, hknown⟩

theorem StraysIn.delivered {es : List Event} (h : b.StraysIn es d) :
    .delivered d ∈ (b.run es).2 ∧ ¬ d.IsOwn := by
  induction es generalizing b with
  | nil => exact h.elim
  | cons e es ih =>
    rcases h with hfirst | hlater
    · obtain ⟨hmem, hown⟩ := hfirst.delivered
      exact ⟨List.mem_append_left _ hmem, hown⟩
    · obtain ⟨hmem, hown⟩ := ih hlater
      exact ⟨List.mem_append_right _ hmem, hown⟩

theorem remembers_fresh {config : Config} {environment : Environment} {registry : Registry}
    {now : Nat} (h : past registry) : Remembers past (fresh config environment registry now) :=
  ⟨orderly_fresh config environment registry now, h, nofun⟩

/-- Every delivery of every run is of what belongs to the id that it goes to, or was sent astray by
a refresh of one zone; and it goes to an observer that was registered under that id at some moment
of the run. All that refreshes send astray is delivered. -/
theorem own_recipients (config : Config) (environment : Environment) (registry : Registry)
    (now : Nat) (es : List Event) :
    let start := fresh config environment registry now
    (∀ d, .delivered d ∈ (start.run es).2 →
      (d.IsOwn ∨ start.StraysIn es d) ∧
        ∃ pre, pre <+: es ∧
          d.KnownTo (start.run pre).1.registry.zones (start.run pre).1.registry.heaters) ∧
    ∀ d, start.StraysIn es d → .delivered d ∈ (start.run es).2 ∧ ¬ d.IsOwn := by
  intro start
  refine ⟨fun d hd => ?_, fun d hd => hd.delivered⟩
  have hstart : Remembers (fun r => ∃ pre, pre <+: es ∧ r = (start.run pre).1.registry) start :=
    remembers_fresh ⟨[], List.nil_prefix, rfl⟩
  obtain ⟨hown, r, ⟨pre, hpre, rfl⟩, hknown⟩ :=
    hstart.run_delivered (fun pre hpre => ⟨pre, hpre, rfl⟩) hd
  exact ⟨hown, pre, hpre, hknown⟩

/-! ## A refresh that goes astray -/

theorem receive_postSigned {R : Type} [Record R] {client : Cloud.Client} {path : Int64 → String}
    {parts : Int64 → List Signing.Part} {call : Http.Call (List R)}
    (h : client.postSigned path parts = .ok call) (outcome : Http.Outcome) :
    call.receive outcome = outcome.body? >>= Envelope.decode false := by
  obtain ⟨identity, -, h⟩ := Json.Reader.bind_eq_ok_iff.mp h
  split at h
  · cases h
    rfl
  · cases h

theorem receive_first_postSigned {R : Type} [Record R] {client : Cloud.Client}
    {path : Int64 → String} {parts : Int64 → List Signing.Part} {call : Http.Call (Option R)}
    (h : (client.postSigned (R := R) path parts).map Http.Call.first = .ok call)
    (outcome : Http.Outcome) : call.receive outcome =
      (outcome.body? >>= Envelope.decode (R := R) false).map List.head? := by
  cases hcall : client.postSigned (R := R) path parts with
  | error e =>
    rw [hcall] at h
    cases h
  | ok listed =>
    rw [hcall] at h
    cases h
    exact congrArg (Except.map List.head?) (receive_postSigned hcall outcome)

/-- The answer to a call for a zone is read as an envelope, and its first record counts. -/
theorem receive_zone {client : Cloud.Client} {id : Int64} {call : Http.Call (Option Zone)}
    (h : client.zone id = .ok call) (outcome : Http.Outcome) :
    call.receive outcome =
      (outcome.body? >>= Envelope.decode (R := Zone) false).map List.head? :=
  receive_first_postSigned h outcome

theorem operations_refreshZone {client : Cloud.Client} {id : Int64}
    {call : Http.Call (Option Zone)} (hc : b.client? = some client)
    (h : client.zone id = .ok call) :
    (b.step (.refreshZone id)).1.operations =
      b.operations ++ [some (.refreshZone id call)] := by
  have hcall : (b.connectedClient >>= fun client => client.zone id) = .ok call := by
    rw [connectedClient, hc]
    exact h
  rw [step, beginCommand, hcall]
  rfl

theorem registry_refreshZone (b : Bridge) (id : Int64) :
    (b.step (.refreshZone id)).1.registry = b.registry := by
  rw [step, beginCommand]
  split <;> rfl

/-- Any reply with another zone in front goes astray, whichever zone was asked for. -/
theorem strays_of_reply {client : Cloud.Client} {id : Int64} {call : Http.Call (Option Zone)}
    {outcome : Http.Outcome} {zone : Zone} {others : List Zone} {o : Observer}
    (hc : b.client? = some client) (h : client.zone id = .ok call)
    (hz : b.registry.zones.get? id = some o)
    (hr : outcome.body? >>= Envelope.decode false = .ok (zone :: others))
    (hn : zone.id ≠ some id) :
    (b.step (.refreshZone id)).1.Strays (.answered (.operation b.operations.length) outcome)
      (.zoneData id o zone) := by
  have hwaits : (b.step (.refreshZone id)).1.operations[b.operations.length]? =
      some (some (.refreshZone id call)) := by
    rw [operations_refreshZone hc h]
    simp
  have hreceived : call.receive outcome = .ok (some zone) := by
    rw [receive_zone h, hr]
    rfl
  exact .refresh hwaits hreceived (by rwa [registry_refreshZone]) hn

namespace Mixup

def kitchen : Observer := { tag := "kitchen" }

/-- Signed in, with an observer for zone 5. -/
def asking : Bridge :=
  ((fresh Lag.config .bare default 0).run [.signIn, .registry (.registerZone 5 kitchen)]).1

/-- Zone 7. -/
def other : Zone where
  id := some 7

def reply : Http.Outcome := .answered 200 (Envelope.bytes ⟨0⟩ [other]) "no failure"

def events : List Event :=
  [.signIn, .registry (.registerZone 5 kitchen), .refreshZone 5, .answered (.operation 0) reply]

theorem exists_call : ∃ client call, asking.client? = some client ∧ client.zone 5 = .ok call := by
  have hok : ((asking.client?.map fun client => (client.zone 5).toBool)) = some true := by
    decide +kernel
  obtain ⟨client, hc, hzone⟩ := Option.map_eq_some_iff.mp hok
  cases hcall : client.zone 5 with
  | error e => simp [hcall, Except.toBool] at hzone
  | ok call => exact ⟨client, call, hc, hcall⟩

theorem decode_reply : reply.body? >>= Envelope.decode (R := Zone) false = .ok [other] := by
  rw [reply, Http.Outcome.body?, if_neg (by decide), if_neg (by decide), Json.Reader.ok_bind,
    Envelope.decode_bytes_of_isWhole false (by decide)]

theorem strays : (asking.step (.refreshZone 5)).1.Strays (.answered (.operation 0) reply)
    (.zoneData 5 kitchen other) := by
  obtain ⟨client, call, hc, hcall⟩ := exists_call
  have hz : asking.registry.zones.get? 5 = some kitchen := by
    show (IdMap.insert _ 5 kitchen).get? 5 = some kitchen
    rw [IdMap.get?_insert, if_pos rfl]
  exact strays_of_reply hc hcall hz decode_reply (by decide)

theorem straysIn :
    (fresh Lag.config .bare {} 0).StraysIn events (.zoneData 5 kitchen other) :=
  .inr (.inr (.inr (.inl strays)))

end Mixup

/-- The observer of one zone is told of another one. -/
theorem not_own_after_every_refresh :
    ¬ ∀ (config : Config) (environment : Environment) (registry : Registry) (now : Nat)
        (es : List Event) (d : Delivery),
        .delivered d ∈ ((fresh config environment registry now).run es).2 → d.IsOwn := by
  intro h
  obtain ⟨hmem, hown⟩ := Mixup.straysIn.delivered
  exact hown (h _ _ _ _ _ _ hmem)

theorem own_recipients_mixup :
    .delivered (.zoneData 5 Mixup.kitchen Mixup.other) ∈
      ((fresh Lag.config .bare {} 0).run Mixup.events).2 :=
  ((own_recipients Lag.config .bare {} 0 Mixup.events).2 _ Mixup.straysIn).1

end Account.Bridge

end HeaterLink
