import HeaterLink.Proofs.Account.Recipients
import HeaterLink.Proofs.Account.SignIn

/-!
# Commands for one zone

A refresh of a zone and the setting of its target are made of two steps. The
first sends one request, or reports why there is none to send; the second takes
the reply. Ticks, registrations, a disposal or another sign-in can come between
them, and the second step finds the bridge as these left it.

## Main definitions

* `Account.Bridge.Command`, the two commands, with the call and the event of each.
* `Account.Bridge.Ends`, how a command ends, given what the reply came to.

## Main statements

* `Account.Bridge.Ends.frame`, what the end of a command leaves alone.
* `Account.Bridge.command_ends`, what a command sends and how it ends.
-/

namespace HeaterLink.Account.Bridge

variable {b : Bridge} {client : Cloud.Client} {place : Nat}

/-! ## The two commands -/

inductive Command where
  | refreshZone (id : Int64)
  | setTarget (id : Int64) (degrees : Binary64)

namespace Command

def event : Command → Event
  | refreshZone id => .refreshZone id
  | setTarget id degrees => .setTarget id degrees

/-- The call that a command consists of. -/
def call : Command → Cloud.Client → Except Error (Http.Call (Option Zone))
  | refreshZone id, client => client.zone id
  | setTarget id degrees, client => client.setZoneTarget id (.ofCelsius degrees)

/-- What is written down of a command until its reply comes. -/
def operation : Command → Http.Call (Option Zone) → Operation
  | refreshZone id, call => .refreshZone id call
  | setTarget _ _, call => .setTarget call

end Command

variable {command : Command} {call : Http.Call (Option Zone)}

theorem step_command (b : Bridge) (command : Command) :
    b.step command.event = b.beginCommand command.operation command.call := by
  cases command <;> rfl

/-- The zone in a reply: the first of its records. -/
def zoneIn (outcome : Http.Outcome) : Except Error (Option Zone) :=
  (outcome.body? >>= Envelope.decode (R := Zone) false).map List.head?

theorem receive_command (h : command.call client = .ok call) (outcome : Http.Outcome) :
    call.receive outcome = zoneIn outcome := by
  cases command with
  | refreshZone id => exact receive_first_postSigned h outcome
  | setTarget id degrees => exact receive_first_postSigned h outcome

/-! ## The end of a command -/

/-- The bridge after a target was set without its being online. -/
def backOnline (b : Bridge) : Bridge :=
  { b with registry := { b.registry with bridge := ⟨.online, .none, none⟩ } }

/-- How a command ends on a bridge, once it knows what its call came to. -/
inductive Ends (b : Bridge) (result : Except Error (Option Zone)) :
    Command → Bridge × List Notice → Prop where
  | failed (command : Command) {error : Error} (hr : result = .error error) :
      Ends b result command (b, [.returned (.zone (.error error))])
  /-- There is no zone to tell of, or nobody to tell. -/
  | untold {id : Int64} {zone? : Option Zone} (hr : result = .ok zone?)
      (hn : zone? = none ∨ b.registry.zones.get? id = none) :
      Ends b result (.refreshZone id) (b, [.returned (.zone (.ok zone?))])
  | told {id : Int64} {zone : Zone} {o : Observer} (hr : result = .ok (some zone))
      (ho : b.registry.zones.get? id = some o)
      (ha : (Delivery.zoneData id o zone).answer = .ok ()) :
      Ends b result (.refreshZone id)
        (b, [.delivered (.zoneData id o zone), .returned (.zone (.ok (some zone)))])
  | refused {id : Int64} {zone : Zone} {o : Observer} {error : Error}
      (hr : result = .ok (some zone)) (ho : b.registry.zones.get? id = some o)
      (ha : (Delivery.zoneData id o zone).answer = .error error) :
      Ends b result (.refreshZone id)
        (b, [.delivered (.zoneData id o zone), .returned (.zone (.error error))])
  | set {id : Int64} {degrees : Binary64} {zone? : Option Zone} (hr : result = .ok zone?)
      (hs : b.status = .online) :
      Ends b result (.setTarget id degrees) (b, [.returned (.zone (.ok zone?))])
  | setBackOnline {id : Int64} {degrees : Binary64} {zone? : Option Zone}
      (hr : result = .ok zone?) (hs : b.status ≠ .online) :
      Ends b result (.setTarget id degrees) (b.backOnline, [.returned (.zone (.ok zone?))])

variable {result : Except Error (Option Zone)} {after : Bridge × List Notice}

theorem Ends.frame (h : Ends b result command after) : Frame b after := by
  cases h <;> exact ⟨rfl, rfl, rfl, by simp [Notice.OfPoller]⟩

/-- A registered observer that refuses the zone is what a refresh fails with. -/
theorem Ends.eq_of_refuses {id : Int64} {zone : Zone} {o : Observer} {error : Error}
    (h : Ends b (.ok (some zone)) (.refreshZone id) after)
    (ho : b.registry.zones.get? id = some o)
    (ha : (Delivery.zoneData id o zone).answer = .error error) :
    after = (b, [.delivered (.zoneData id o zone), .returned (.zone (.error error))]) := by
  cases h with
  | failed _ hr => cases hr
  | untold hr hn => grind
  | told hr ho' ha' => grind
  | refused hr ho' ha' => grind

theorem zoneArrived_ends (b : Bridge) (id : Int64) (result : Except Error (Option Zone)) :
    Ends b result (.refreshZone id)
      (b, (b.zoneArrived id result).1.toList.map .delivered ++
        [.returned (.zone (b.zoneArrived id result).2)]) := by
  match result with
  | .error error => exact .failed _ rfl
  | .ok none => exact .untold rfl (.inl rfl)
  | .ok (some zone) =>
    cases ho : b.registry.zones.get? id with
    | none =>
      simp only [zoneArrived, ho]
      exact .untold rfl (.inr ho)
    | some o =>
      simp only [zoneArrived, ho]
      cases ha : (Delivery.zoneData id o zone).answer with
      | error error => exact .refused rfl ho ha
      | ok told => exact .told rfl ho ha

theorem targetSet_ends (b : Bridge) (id : Int64) (degrees : Binary64)
    (result : Except Error (Option Zone)) :
    Ends b result (.setTarget id degrees)
      (b.targetSet result, [.returned (.zone result)]) := by
  cases result with
  | error error => exact .failed _ rfl
  | ok zone? =>
    by_cases hs : b.status = .online
    · have hb : b.targetSet (.ok zone?) = b := if_pos (decide_eq_true hs)
      rw [hb]
      exact .set rfl hs
    · have hb : b.targetSet (.ok zone?) = b.backOnline :=
        if_neg (by simpa [Registry.isOnline, status] using hs)
      rw [hb]
      exact .setBackOnline rfl hs

theorem answered_ends (hc : command.call client = .ok call)
    (ho : b.operations[place]? = some (some (command.operation call))) (outcome : Http.Outcome) :
    Ends (b.close place) (zoneIn outcome) command
      (b.step (.answered (.operation place) outcome)) := by
  rw [step_answered outcome ho, ← receive_command hc]
  cases command with
  | refreshZone id => exact (b.close place).zoneArrived_ends id _
  | setTarget id degrees => exact (b.close place).targetSet_ends id degrees _

/-! ## The whole of a command -/

theorem step_refresh_of_client?_none (h : b.client? = none) : b.step .refresh = (b, []) := by
  rw [client?, Option.map_eq_none_iff, link?] at h
  simp only [step]
  split
  · rfl
  · next i hi =>
    rw [hi, Option.bind_some] at h
    rw [pollerStep, h]

theorem step_command_of_error {error : Error} (hc : b.client? = some client)
    (he : command.call client = .error error) :
    b.step command.event = (b, [.returned (.zone (.error error))]) := by
  have hcall : (b.connectedClient >>= command.call) = .error error := by
    rw [connectedClient, hc]
    exact he
  rw [step_command, beginCommand, hcall]

theorem step_command_of_ok (hc : b.client? = some client) (hk : command.call client = .ok call) :
    b.step command.event = b.suspend (command.operation call) call.request := by
  have hcall : (b.connectedClient >>= command.call) = .ok call := by
    rw [connectedClient, hc]
    exact hk
  rw [step_command, beginCommand, hcall]

/-- Without a connection a command is refused, and a refresh is over at once. With one, a command
reports why its call cannot be made, or it sends the request of that call and changes nothing.
Whatever happens until the reply comes, it then ends on the bridge as it is at that moment. The one
fault that nobody is told of is `exhausted`: the search for the signature goes on forever then. -/
theorem command_ends (b : Bridge) (command : Command) :
    match b.client? with
    | none =>
      b.step command.event = (b, [.returned (.zone (.error (.config .notInitialized)))]) ∧
      b.step .refresh = (b, [])
    | some client =>
      (∃ error, command.call client = .error error ∧
        b.step command.event = (b, [.returned (.zone (.error error))])) ∨
      ∃ call begun, command.call client = .ok call ∧
        b.step command.event =
          (begun, [.waiting (.operation b.operations.length) (some call.request)]) ∧
        begun = { b with operations := begun.operations } ∧
        ∀ (es : List Event) (outcome : Http.Outcome),
          (∀ e ∈ es, ¬ e.Answers b.operations.length) →
          let late := (begun.run es).1
          let after := late.step (.answered (.operation b.operations.length) outcome)
          Ends (late.close b.operations.length) (zoneIn outcome) command after ∧
            Frame late after := by
  split
  · next hc =>
    refine ⟨?_, step_refresh_of_client?_none hc⟩
    simp only [step_command, beginCommand, connectedClient, hc]
    rfl
  · next client hc =>
    cases hk : command.call client with
    | error error => exact .inl ⟨error, rfl, step_command_of_error hc hk⟩
    | ok call =>
      refine .inr ⟨call, (b.step command.event).1, rfl, ?_, ?_, fun es outcome he => ?_⟩
      · rw [step_command_of_ok hc hk, suspend]
      · rw [step_command_of_ok hc hk, suspend]
      · have ho : (b.step command.event).1.operations[b.operations.length]? =
            some (some (command.operation call)) := by
          rw [step_command_of_ok hc hk, suspend, List.getElem?_concat_length]
        have hends := answered_ends hk (operation_run ho he) outcome
        exact ⟨hends, hends.frame.links, hends.frame.connected, hends.frame.config,
          hends.frame.quiet⟩

namespace Mixup

def hallway : Observer := ⟨"hallway", fun _ => .error (.observer "hallway refused")⟩

/-- What happens while the refresh waits. -/
def meanwhile : List Event := [.registry (.registerZone 5 hallway), .dispose]

theorem zoneIn_reply : zoneIn reply = .ok (some other) := by
  rw [zoneIn, decode_reply]
  rfl

end Mixup

/-- The zone has another observer by the time the reply comes, and that one refuses it. -/
theorem command_ends_refused :
    ∃ begun request,
      Mixup.asking.step (.refreshZone 5) =
        (begun, [.waiting (.operation 0) (some request)]) ∧
      let late := (begun.run Mixup.meanwhile).1
      late.step (.answered (.operation 0) Mixup.reply) =
        (late.close 0, [.delivered (.zoneData 5 Mixup.hallway Mixup.other),
          .returned (.zone (.error (.observer "hallway refused")))]) := by
  obtain ⟨client, call, hc, hcall⟩ := Mixup.exists_call
  have h := command_ends Mixup.asking (.refreshZone 5)
  rw [hc] at h
  rcases h with ⟨error, he, -⟩ | ⟨sent, begun, -, hs, -, hlate⟩
  · cases hcall.symm.trans he
  · refine ⟨begun, sent.request, hs, ?_⟩
    have he : ∀ e ∈ Mixup.meanwhile, ¬ Event.Answers 0 e := by
      simp [Mixup.meanwhile, Event.Answers]
    have hends := (hlate Mixup.meanwhile Mixup.reply he).1
    rw [Mixup.zoneIn_reply] at hends
    have hhallway : (begun.run Mixup.meanwhile).1.registry.zones.get? 5 = some Mixup.hallway := by
      simp only [Mixup.meanwhile, run, step, disconnect_registry, Registry.change]
      rw [IdMap.get?_insert, if_pos rfl]
    exact hends.eq_of_refuses hhallway rfl

end HeaterLink.Account.Bridge
