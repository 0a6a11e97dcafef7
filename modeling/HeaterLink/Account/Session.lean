import HeaterLink.Account.Bridge

/-!
# Sessions

A bridge on a network that answers at once: every command is followed through
to its end, and every tick that has the turn is made, before the next command.

## Main definitions

* `Session.perform`, an event and all the exchanges that it leads to.
* `Session.settle`, the ticks whose turn it is.
-/

namespace HeaterLink.Account

structure Session where
  bridge : Bridge
  network : Http.Network
  log : List Bridge.Notice := []

namespace Session

/-- The work that a notice leaves waiting, with its request. -/
def waiting? : Bridge.Notice → Option (Bridge.Waiter × Option Http.Request)
  | .waiting waiter request? => some (waiter, request?)
  | _ => none

/-- Sends a request; work without one is answered by a failure that it does not look at. -/
def send (s : Session) : Option Http.Request → Http.Outcome × Session
  | none => (.failed "", s)
  | some request =>
    let (outcome, network) := s.network.send request
    (outcome, { s with network := network })

/-- An event and the outcomes that it waits for, at most `depth` of them one after the other. -/
def performWithin : (depth : Nat) → Bridge.Event → Session → Session
  | 0, _, s => s
  | depth + 1, event, s =>
    let (bridge, notices) := s.bridge.step event
    (notices.filterMap waiting?).foldl
      (fun s work =>
        let (outcome, s) := s.send work.2
        performWithin depth (.answered work.1 outcome) s)
      { s with bridge := bridge, log := s.log ++ notices }

/-- The longest chain is that of a tick: it goes on, fetches zones, and fetches heaters. -/
def perform (s : Session) (event : Bridge.Event) : Session := performWithin 3 event s

/-! ## Ticks -/

/-- The tasks of all links that pass a test, by link and task. -/
def tasksWhere (s : Session) (test : Poller.Task → Bool) : List (Nat × Nat) :=
  s.bridge.links.zipIdx.flatMap fun (link, i) =>
    (link.poller.tasks.zipIdx.filter fun (task, _) => test task).map fun (_, t) => (i, t)

def isGranted (task : Poller.Task) : Bool :=
  match task.phase with
  | .granted => true
  | _ => false

def isAwake (now : Nat) (task : Poller.Task) : Bool :=
  match task.phase with
  | .sleeping due => due ≤ now
  | _ => false

/-- Makes the ticks that have the turn, as long as it is passed on. -/
def settleWithin : (fuel : Nat) → Session → Session
  | 0, s => s
  | fuel + 1, s =>
    match s.tasksWhere isGranted with
    | [] => s
    | (i, t) :: _ => settleWithin fuel (s.perform (.resume i t))

/-- Every task makes one tick at most. -/
def settle (s : Session) : Session := settleWithin (s.tasksWhere fun _ => true).length s

/-! ## Commands -/

def command (s : Session) (event : Bridge.Event) : Session := (s.perform event).settle

/-- Wakes the jobs that are due, and makes their ticks. -/
def wakeDue (s : Session) : Session :=
  ((s.tasksWhere (isAwake s.bridge.now)).foldl (fun s (i, t) => s.perform (.wake i t)) s).settle

/-- The session with a new network and nothing seen yet. -/
def on (s : Session) (network : Http.Network) : Session := { s with network := network, log := [] }

/-- What the last command came to, if it returned anything. -/
def returned? (s : Session) : Option Bridge.Returned :=
  s.log.findSome? fun notice =>
    match notice with
    | .returned what => some what
    | _ => none

def deliveries (s : Session) : List Delivery :=
  s.log.filterMap fun notice =>
    match notice with
    | .delivered d => some d
    | _ => none

end Session

end HeaterLink.Account
