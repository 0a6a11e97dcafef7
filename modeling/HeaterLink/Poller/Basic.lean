import HeaterLink.Delivery

/-!
# The poller

A poller keeps the observers of one account up to date. One recurring job makes
a tick, sleeps for its interval, and so on; polls make one tick each. Ticks take
turns, first come first served, so they never overlap. A tick fetches the zones
and then the heaters, delivers what it got and sets the status; when the status
turns, it replaces the job by one with the other interval.

Every task is written down with the phase it is in, and moves by events: the
clock waking it, the turn being passed to it, an answer coming in. An event that
does not fit a task's phase changes nothing, so every list of events is a run.

## Main definitions

* `Poller`, its tasks, its job and whose turn it is.
* `Poller.Event`, what can happen, and `Poller.step`, what it does.
-/

namespace HeaterLink

/-- How long a job sleeps between ticks, in milliseconds, by the health of the account. -/
structure Cadence where
  online : Nat := 60000
  offline : Nat := 120000
deriving DecidableEq, Repr

def Cadence.interval (c : Cadence) (online : Bool) : Nat := if online then c.online else c.offline

namespace Poller

/-! ## Tasks -/

/-- What a tick takes from the registry when it begins. -/
structure Tick where
  wasOnline : Bool
  zones : IdMap Observer
  heaters : IdMap Observer

def Tick.ofRegistry (r : Registry) : Tick := ⟨r.isOnline, r.zones, r.heaters⟩

inductive Phase where
  | sleeping (due : Nat)
  /-- In line for the turn. -/
  | waiting
  /-- Has the turn and is about to go on. -/
  | granted
  | fetchingZones (tick : Tick)
  /-- Holds what went wrong with the zones, if anything did. -/
  | fetchingHeaters (tick : Tick) (fault? : Option Error)
  | finished

inductive Role where
  | job (interval : Nat)
  | poll
deriving DecidableEq, Repr

structure Task where
  role : Role
  cancelled : Bool := false
  phase : Phase

/-- The job that is scheduled: the task that runs it, and its interval. -/
structure Job where
  task : Nat
  interval : Nat
deriving DecidableEq, Repr

end Poller

/-- Tasks are named by their place in the list. -/
structure Poller where
  cadence : Cadence := {}
  tasks : List Poller.Task := []
  job? : Option Poller.Job := none
  /-- Set for good by `cancel`. -/
  stopped : Bool := false
  turn? : Option Nat := none
  queue : List Nat := []

namespace Poller

def setPhase (p : Poller) (t : Nat) (phase : Phase) : Poller :=
  { p with tasks := p.tasks.modify t fun task => { task with phase := phase } }

/-! ## Turns -/

/-- Takes the turn, or a place in line for it. -/
def claim (p : Poller) (t : Nat) : Poller :=
  match p.turn? with
  | none => { p.setPhase t .granted with turn? := some t }
  | some _ => { p.setPhase t .waiting with queue := p.queue ++ [t] }

/-- Passes the turn on. -/
def release (p : Poller) : Poller :=
  match p.queue with
  | [] => { p with turn? := none }
  | t :: rest => { p.setPhase t .granted with turn? := some t, queue := rest }

/-! ## Jobs -/

/-- Cancels the job, if there is one. -/
def dropJob (p : Poller) : Poller :=
  match p.job? with
  | none => p
  | some job =>
    { p with
      tasks := p.tasks.modify job.task fun task => { task with cancelled := true }
      job? := none }

/-- Replaces the job by one that first ticks after `delay`; a stopped poller stays without. -/
def schedule (p : Poller) (now delay : Nat) (online : Bool) : Poller :=
  if p.stopped then p
  else
    let interval := p.cadence.interval online
    let p := p.dropJob
    { p with
      tasks := p.tasks ++ [{ role := .job interval, phase := .sleeping (now + delay) }]
      job? := some ⟨p.tasks.length, interval⟩ }

/-- Stops polling for good. -/
def cancel (p : Poller) : Poller := { p.dropJob with stopped := true }

/-- Adds a task that makes one tick as soon as it has the turn. -/
def pollNow (p : Poller) : Poller :=
  Poller.claim { p with tasks := p.tasks ++ [{ role := .poll, phase := .waiting }] }
    p.tasks.length

def isScheduled (p : Poller) : Bool := p.job?.isSome

def currentInterval? (p : Poller) : Option Nat := p.job?.map Job.interval

/-! ## Ticks -/

def fault? {α : Type} : Except Error α → Option Error
  | .ok _ => none
  | .error e => some e

/-- What is delivered when the zones come in. -/
def zoneDeliveries (tick : Tick) : Except Error (List Zone) → List Delivery
  | .ok zones => Delivery.ofZones tick.zones zones
  | .error _ => []

/-- What is delivered when the heaters come in. -/
def heaterDeliveries (tick : Tick) : Except Error (List Heater) → List Delivery
  | .ok heaters => Delivery.ofHeaters tick.zones tick.heaters heaters
  | .error _ => []

/-- The end of a tick: the status, and a new job where it turned or failed. -/
def conclude (p : Poller) (r : Registry) (now : Nat) (wasOnline : Bool) :
    Option Error → Poller × Registry
  | none =>
    if wasOnline then (p, r)
    else (p.schedule now p.cadence.online true, { r with bridge := .online })
  | some e =>
    (p.schedule now p.cadence.offline false,
      { r with bridge := .failed .communicationError e })

/-- What a task does after its tick: a poll is done, a job sleeps unless it was cancelled. -/
def restTask (now : Nat) (task : Task) : Task :=
  match task.role with
  | .poll => { task with phase := .finished }
  | .job interval =>
    { task with phase := if task.cancelled then .finished else .sleeping (now + interval) }

def rest (p : Poller) (now t : Nat) : Poller := { p with tasks := p.tasks.modify t (restTask now) }

/-! ## Events -/

inductive Event where
  | schedule (delay : Nat) (online : Bool)
  | pollNow
  /-- Also what dropping the poller does. -/
  | cancel
  /-- The clock lets a sleeping task go on. -/
  | wake (task : Nat)
  /-- A task that was given the turn goes on. -/
  | resume (task : Nat)
  | zonesAnswered (task : Nat) (answer : Except Error (List Zone))
  | heatersAnswered (task : Nat) (answer : Except Error (List Heater))

/-- What can be seen of a step from outside. -/
inductive Notice where
  | zonesRequested (task : Nat)
  | heatersRequested (task : Nat)
  | delivered (delivery : Delivery)
  /-- A tick ended, with what went wrong first. -/
  | ticked (task : Nat) (fault? : Option Error)

/-- Makes a delivery. Whether it is taken or refused, the tick goes on. -/
def tell (d : Delivery) : Notice :=
  match d.answer with
  | .ok () => .delivered d
  | .error _refusal => .delivered d

@[simp] theorem tell_eq_delivered : tell = Notice.delivered := by
  funext d
  unfold tell
  split <;> rfl

structure Stepped where
  poller : Poller
  registry : Registry
  notices : List Notice := []

def step (p : Poller) (r : Registry) (now : Nat) : Event → Stepped
  | .schedule delay online => { poller := p.schedule now delay online, registry := r }
  | .pollNow => { poller := p.pollNow, registry := r }
  | .cancel => { poller := p.cancel, registry := r }
  | .wake t =>
    match p.tasks[t]? with
    | some ⟨_, cancelled, .sleeping due⟩ =>
      if cancelled then { poller := p.setPhase t .finished, registry := r }
      else if due ≤ now then { poller := p.claim t, registry := r }
      else { poller := p, registry := r }
    | _ => { poller := p, registry := r }
  | .resume t =>
    match p.tasks[t]? with
    | some ⟨_, cancelled, .granted⟩ =>
      if cancelled then { poller := (p.setPhase t .finished).release, registry := r }
      else
        { poller := p.setPhase t (.fetchingZones (.ofRegistry r)), registry := r
          notices := [.zonesRequested t] }
    | _ => { poller := p, registry := r }
  | .zonesAnswered t answer =>
    match p.tasks[t]? with
    | some ⟨_, _, .fetchingZones tick⟩ =>
      { poller := p.setPhase t (.fetchingHeaters tick (fault? answer)), registry := r
        notices := (zoneDeliveries tick answer).map tell ++ [.heatersRequested t] }
    | _ => { poller := p, registry := r }
  | .heatersAnswered t answer =>
    match p.tasks[t]? with
    | some ⟨_, _, .fetchingHeaters tick zoneFault?⟩ =>
      let fault? := zoneFault?.or (fault? answer)
      let concluded := p.conclude r now tick.wasOnline fault?
      { poller := (concluded.1.rest now t).release, registry := concluded.2
        notices := (heaterDeliveries tick answer).map tell ++ [.ticked t fault?] }
    | _ => { poller := p, registry := r }

end Poller

end HeaterLink
