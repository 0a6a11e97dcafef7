import HeaterLink.Poller.Run

/-!
# Timelines

A poller run against a script: how the account will answer, and after how long.
Whatever is due happens at its own time, and time jumps from one due moment to
the next.

## Main definitions

* `Timeline.settle`, all that is due now.
* `Timeline.advance`, the passing of time.
* `Timeline.poll`, a poll and the wait for its end.
-/

namespace HeaterLink

/-- What a fetch that begins now will come to. -/
structure Script where
  zones : List Zone := []
  heaters : List Heater := []
  zonesError? : Option Error := none
  heatersError? : Option Error := none
  zonesMs : Nat := 0
  heatersMs : Nat := 0

namespace Script

def answer {α : Type} (found : α) : Option Error → Except Error α
  | none => .ok found
  | some e => .error e

end Script

/-- A fetch under way: when it ends, and with what. -/
structure Flight where
  due : Nat
  event : Poller.Event

structure Timeline where
  polling : Polling := {}
  script : Script := {}
  flights : List Flight := []
  /-- What was seen, each with its time. -/
  log : List (Nat × Poller.Notice) := []
  dropped : Bool := false

namespace Timeline

def now (t : Timeline) : Nat := t.polling.now
def poller (t : Timeline) : Poller := t.polling.poller

/-- The fetch that a notice begins. -/
def flight? (t : Timeline) : Poller.Notice → Option Flight
  | .zonesRequested task =>
    some ⟨t.now + t.script.zonesMs,
      .zonesAnswered task (Script.answer t.script.zones t.script.zonesError?)⟩
  | .heatersRequested task =>
    some ⟨t.now + t.script.heatersMs,
      .heatersAnswered task (Script.answer t.script.heaters t.script.heatersError?)⟩
  | _ => none

def perform (t : Timeline) (e : Polling.Event) : Timeline :=
  let stepped := t.polling.step e
  { t with
    polling := stepped.1
    flights := t.flights ++ stepped.2.filterMap t.flight?
    log := t.log ++ stepped.2.map fun notice => (t.now, notice) }

/-! ## What is due -/

def isGranted (task : Poller.Task) : Bool :=
  match task.phase with
  | .granted => true
  | _ => false

/-- Whether the clock lets this task go on; a cancelled one goes on at once. -/
def isAwake (now : Nat) (task : Poller.Task) : Bool :=
  match task.phase with
  | .sleeping due => task.cancelled || due ≤ now
  | _ => false

/-- The next thing that happens now, if any. -/
def stepNow? (t : Timeline) : Option Timeline :=
  match t.poller.tasks.findIdx? isGranted with
  | some i => some (t.perform (.poller (.resume i)))
  | none =>
    match t.flights.findIdx? fun f => f.due ≤ t.now with
    | some i =>
      (t.flights[i]?).map fun f =>
        Timeline.perform { t with flights := t.flights.eraseIdx i } (.poller f.event)
    | none =>
      (t.poller.tasks.findIdx? (isAwake t.now)).map fun i => t.perform (.poller (.wake i))

def settleWithin : (fuel : Nat) → Timeline → Timeline
  | 0, t => t
  | fuel + 1, t =>
    match t.stepNow? with
    | some t => settleWithin fuel t
    | none => t

/-- Lets everything happen that is due now. A task has at most six steps to make at one time. -/
def settle (t : Timeline) : Timeline := settleWithin (6 * t.poller.tasks.length + 1) t

/-! ## Time -/

def dueTime? (task : Poller.Task) : Option Nat :=
  match task.phase with
  | .sleeping due => some due
  | _ => none

/-- The next moment at which something is due. -/
def nextDue? (t : Timeline) : Option Nat :=
  (t.flights.map Flight.due ++ t.poller.tasks.filterMap dueTime?).min?

def jump (t : Timeline) (moment : Nat) : Timeline := t.perform (.elapse (moment - t.now))

/-- Moves on to `target`, stopping at every due moment before it. -/
def advanceWithin : (fuel : Nat) → (target : Nat) → Timeline → Timeline
  | 0, target, t => (t.jump target).settle
  | fuel + 1, target, t =>
    match t.nextDue? with
    | some due =>
      if due ≤ target then advanceWithin fuel target (t.jump due).settle
      else (t.jump target).settle
    | none => (t.jump target).settle

def advance (t : Timeline) (ms : Nat) : Timeline := advanceWithin ms (t.now + ms) t.settle

def isFinished (task : Poller.Task) : Bool :=
  match task.phase with
  | .finished => true
  | _ => false

/-- Moves on until a task is finished. -/
def awaitWithin : (fuel : Nat) → (task : Nat) → Timeline → Timeline
  | 0, _, t => t
  | fuel + 1, task, t =>
    if t.poller.tasks[task]?.all isFinished then t
    else match t.nextDue? with
      | some due => awaitWithin fuel task (t.jump due).settle
      | none => t

/-- The longest that a poll can have to wait: what is under way, and a whole tick for each in line. -/
def longestWait (t : Timeline) : Nat :=
  t.flights.foldl (fun ms f => ms + (f.due - t.now)) 0 +
  (t.poller.queue.length + 2) * (t.script.zonesMs + t.script.heatersMs + 1)

/-! ## Steps of a host -/

def schedule (t : Timeline) (delay : Nat) (online : Bool) : Timeline :=
  (t.perform (.poller (.schedule delay online))).settle

def cancel (t : Timeline) : Timeline := (t.perform (.poller .cancel)).settle

/-- Fetches under way go on without the poller. -/
def drop (t : Timeline) : Timeline := { t.cancel with dropped := true }

def change (t : Timeline) (c : Registry.Change) : Timeline := (t.perform (.registry c)).settle

/-- Starts a poll and leaves it to itself. -/
def spawnPoll (t : Timeline) : Timeline := (t.perform (.poller .pollNow)).settle

/-- Starts a poll and waits for its end. -/
def poll (t : Timeline) : Timeline :=
  let task := t.poller.tasks.length
  let t := t.spawnPoll
  awaitWithin t.longestWait task t

/-- Polls that are not finished. -/
def pollsRunning (t : Timeline) : Nat :=
  (t.poller.tasks.filter fun task => task.role = .poll && !isFinished task).length

def clearLog (t : Timeline) : Timeline := { t with log := [] }

end Timeline

end HeaterLink
