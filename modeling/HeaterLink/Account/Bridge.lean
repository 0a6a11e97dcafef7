import HeaterLink.Account.ConfigText
import HeaterLink.Poller.Basic

/-!
# The account bridge

A bridge connects one account to a host: it validates the settings, logs in if
it has to, builds the client, and keeps a poller running. Commands and ticks
suspend on the network; in between, anything else can happen. Every suspended
piece of work is written down, and an event brings what its request came to.

Nothing is ever taken off the list of links: a poller that was replaced or
disposed of can still have work under way.

## Main definitions

* `Account.Bridge`, the settings, the registry, the links and the calls under way.
* `Account.Bridge.step`, what an event does, and `run`, what a list of them does.
-/

namespace HeaterLink.Account

/-- A poller that the bridge made, and the client that it fetches with. -/
structure Link where
  client : Cloud.Client
  poller : Poller

/-- A call that waits for its outcome. -/
inductive Operation where
  | signIn (call : Http.Call (Option Login))
  | refreshZone (id : Int64) (call : Http.Call (Option Zone))
  | setTarget (call : Http.Call (Option Zone))

structure Bridge where
  config : Config
  environment : Environment
  registry : Registry := {}
  now : Nat := 0
  /-- Every link that was ever made, the latest last. -/
  links : List Link := []
  /-- The link in use, by its place. -/
  connected? : Option Nat := none
  /-- Calls by place; one that is over leaves its place empty. -/
  operations : List (Option Operation) := []

namespace Bridge

/-! ## What is seen of a bridge -/

/-- Work that waits for the outcome of a request. -/
inductive Waiter where
  | operation (place : Nat)
  | zones (link task : Nat)
  | heaters (link task : Nat)
deriving DecidableEq, Repr

inductive Returned where
  | signedIn (result : Except Error Unit)
  | zone (result : Except Error (Option Zone))

inductive Notice where
  /-- Work was suspended; without a request its outcome does not matter. -/
  | waiting (waiter : Waiter) (request? : Option Http.Request)
  | delivered (delivery : Delivery)
  | ticked (link task : Nat) (fault? : Option Error)
  | returned (what : Returned)

def link? (b : Bridge) : Option Link := b.connected?.bind fun i => b.links[i]?

def client? (b : Bridge) : Option Cloud.Client := b.link?.map Link.client

def status (b : Bridge) : Status := b.registry.bridge.status

/-! ## Connecting -/

def milliseconds (seconds : UInt64) : Nat := 1000 * seconds.toNat

def cadence (c : Config) : Cadence :=
  ⟨milliseconds c.pollIntervalSecs, milliseconds c.offlinePollIntervalSecs⟩

/-- Reports why the account could not be signed in; nothing else changes. -/
def fail (b : Bridge) (detail : StatusDetail) (e : Error) : Bridge × Except Error Unit :=
  ({ b with registry := { b.registry with bridge := .failed detail e } }, .error e)

/-- Applies a change to the poller of a link. -/
def updatePoller (b : Bridge) (i : Nat) (f : Poller → Poller) : Bridge :=
  { b with links := b.links.modify i fun link => { link with poller := f link.poller } }

/-- Stops the poller in use, if there is one, and lets go of it. -/
def disconnect (b : Bridge) : Bridge :=
  match b.connected? with
  | none => b
  | some i => { b.updatePoller i Poller.cancel with connected? := none }

/-- Takes a client into use with a new poller, in place of what was in use before. -/
def install (b : Bridge) (client : Cloud.Client) : Bridge :=
  let poller := Poller.schedule { cadence := cadence b.config } b.now
    (milliseconds b.config.initialDelaySecs) true
  { b.disconnect with
    registry := { b.registry with bridge := {} }
    links := b.disconnect.links ++ [⟨client, poller⟩]
    connected? := some b.disconnect.links.length }

def signedClient (b : Bridge) (account : Int64) (key : String) : Except Error Cloud.Client := do
  let settings ← b.config.clientSettings b.environment
  Cloud.Client.build b.environment { settings with credentials? := some (account, key) }

/-- The last part of signing in, once the identity is known. -/
def connect (b : Bridge) (account : Int64) (key : String) : Bridge × Except Error Unit :=
  match b.signedClient account key with
  | .ok client => (b.install client, .ok ())
  | .error e => b.fail .configurationError e

/-- The login call of a client that signs nothing. -/
def loginCall (b : Bridge) (username password : String) :
    Except Error (Http.Call (Option Login)) := do
  let client ← Cloud.Client.build b.environment (← b.config.clientSettings b.environment)
  return client.login username password

/-- What a failed login counts as. -/
def loginDetail (e : Error) : StatusDetail :=
  if e.isTransport then .communicationError else .configurationError

/-- Goes on after the login; a login without a record is a reply of the wrong shape. -/
def loggedIn (b : Bridge) : Except Error (Option Login) → Bridge × Except Error Unit
  | .error e => b.fail (loginDetail e) e
  | .ok none => b.fail (loginDetail .objectMapping) .objectMapping
  | .ok (some login) => b.connect login.id login.privateKey

/-! ## Commands -/

def connectedClient (b : Bridge) : Except Error Cloud.Client :=
  match b.client? with
  | some client => .ok client
  | none => .error (.config .notInitialized)

/-- Tells the observer of the zone that was asked for; its refusal is the result. -/
def zoneArrived (b : Bridge) (id : Int64) :
    Except Error (Option Zone) → Option Delivery × Except Error (Option Zone)
  | .error e => (none, .error e)
  | .ok none => (none, .ok none)
  | .ok (some zone) =>
    match b.registry.zones.get? id with
    | none => (none, .ok (some zone))
    | some o =>
      let delivery := Delivery.zoneData id o zone
      (some delivery, delivery.answer.map fun _ => some zone)

/-- A target that was set shows that the service can be reached. -/
def targetSet (b : Bridge) : Except Error (Option Zone) → Bridge
  | .error _ => b
  | .ok _ =>
    if b.registry.isOnline then b else { b with registry := { b.registry with bridge := .online } }

/-! ## Events -/

inductive Event where
  | signIn
  | refresh
  | refreshZone (id : Int64)
  | setTarget (id : Int64) (degrees : Binary64)
  /-- Also what dropping the bridge does. -/
  | dispose
  /-- The outcome of what some work waits for. -/
  | answered (waiter : Waiter) (outcome : Http.Outcome)
  | wake (link task : Nat)
  | resume (link task : Nat)
  | registry (change : Registry.Change)
  | elapse (ms : Nat)

/-- The answer to a fetch, given what its request came to. It does not come at all where the
signature is searched for forever. -/
def fetched {α : Type} (call : Except Error (Http.Call α)) (outcome : Http.Outcome) :
    Except Error α := call.bind fun c => c.receive outcome

def request? {α : Type} (call : Except Error (Http.Call α)) : Option Http.Request :=
  call.toOption.map Http.Call.request

/-- What a poller's notice means for the bridge. -/
def notice (i : Nat) (client : Cloud.Client) : Poller.Notice → Notice
  | .zonesRequested t => .waiting (.zones i t) (request? client.zones)
  | .heatersRequested t => .waiting (.heaters i t) (request? client.heaters)
  | .delivered d => .delivered d
  | .ticked t fault? => .ticked i t fault?

/-- Moves the poller of a link. -/
def pollerStep (b : Bridge) (i : Nat) (event : Cloud.Client → Poller.Event) :
    Bridge × List Notice :=
  match b.links[i]? with
  | none => (b, [])
  | some link =>
    let stepped := link.poller.step b.registry b.now (event link.client)
    ({ b.updatePoller i (fun _ => stepped.poller) with registry := stepped.registry },
      stepped.notices.map (notice i link.client))

/-- Suspends a call until its outcome is known. -/
def suspend (b : Bridge) (operation : Operation) (request : Http.Request) :
    Bridge × List Notice :=
  ({ b with operations := b.operations ++ [some operation] },
    [.waiting (.operation b.operations.length) (some request)])

def signedIn (result : Bridge × Except Error Unit) : Bridge × List Notice :=
  (result.1, [.returned (.signedIn result.2)])

def beginSignIn (b : Bridge) : Bridge × List Notice :=
  match b.config.credential with
  | .error e => signedIn (b.fail .configurationError e)
  | .ok (.signed account key) => signedIn (b.connect account key)
  | .ok (.password username password) =>
    match b.loginCall username password with
    | .error e => signedIn (b.loggedIn (.error e))
    | .ok call => b.suspend (.signIn call) call.request

/-- Begins a command. Where its signature is searched for forever, it ends neither way. -/
def beginCommand (b : Bridge) (operation : Http.Call (Option Zone) → Operation)
    (call : Cloud.Client → Except Error (Http.Call (Option Zone))) : Bridge × List Notice :=
  match b.connectedClient >>= call with
  | .error e => (b, [.returned (.zone (.error e))])
  | .ok call => b.suspend (operation call) call.request

/-- Goes on with a call whose outcome is known. -/
def proceed (b : Bridge) (outcome : Http.Outcome) : Operation → Bridge × List Notice
  | .signIn call => signedIn (b.loggedIn (call.receive outcome))
  | .refreshZone id call =>
    let arrived := b.zoneArrived id (call.receive outcome)
    (b, arrived.1.toList.map .delivered ++ [.returned (.zone arrived.2)])
  | .setTarget call =>
    let result := call.receive outcome
    (b.targetSet result, [.returned (.zone result)])

def step (b : Bridge) : Event → Bridge × List Notice
  | .signIn => b.beginSignIn
  | .refresh =>
    match b.connected? with
    | none => (b, [])
    | some i => b.pollerStep i fun _ => .pollNow
  | .refreshZone id => b.beginCommand (.refreshZone id) fun client => client.zone id
  | .setTarget id degrees =>
    b.beginCommand .setTarget fun client => client.setZoneTarget id (.ofCelsius degrees)
  | .dispose => (b.disconnect, [])
  | .answered (.operation place) outcome =>
    match b.operations[place]? with
    | some (some operation) =>
      proceed { b with operations := b.operations.set place none } outcome operation
    | _ => (b, [])
  | .answered (.zones i t) outcome =>
    b.pollerStep i fun client => .zonesAnswered t (fetched client.zones outcome)
  | .answered (.heaters i t) outcome =>
    b.pollerStep i fun client => .heatersAnswered t (fetched client.heaters outcome)
  | .wake i t => b.pollerStep i fun _ => .wake t
  | .resume i t => b.pollerStep i fun _ => .resume t
  | .registry c => ({ b with registry := b.registry.change c }, [])
  | .elapse ms => ({ b with now := b.now + ms }, [])

/-- The state after a list of events, and all that was seen on the way. -/
def run (b : Bridge) : List Event → Bridge × List Notice
  | [] => (b, [])
  | e :: es =>
    let first := b.step e
    let later := run first.1 es
    (later.1, first.2 ++ later.2)

end Bridge

end HeaterLink.Account
