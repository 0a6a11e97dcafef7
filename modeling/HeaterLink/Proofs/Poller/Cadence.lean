import HeaterLink.Proofs.Poller.Step

/-!
# The cadence of a lone job

A poller reaches its cadence in two ways: while the account stays online the
loop of the job sleeps for its own interval, and otherwise the tick replaces the
job by one whose first delay is the new interval. Left to itself, with time that
passes nobody by, both come to one line: the next tick begins the online interval
after a tick that went well and the offline interval after one that failed.

What carries this is that the job of an account that is online sleeps for the
online interval, so that a tick with nothing to change leaves the right loop.

## Main definitions

* `Polling.Mark`, what is seen of ticks, and `Polling.marks`, the marks of a run.
* `Polling.Punctual`, the runs in which whatever is due happens before time passes.
* `Round` and `timeline`, the cadence as it is meant.

## Main statements

* `Polling.marks_timeline`, punctual runs follow the timeline, and every timeline
  is that of a run.
-/

namespace HeaterLink

open Poller

/-! ## The cadence as it is meant -/

namespace Polling

/-- A moment of a tick. Its end comes with the status and the interval right after it. -/
inductive Mark where
  | began (moment : Nat)
  | zonesCame (moment : Nat) (answer : Except Error (List Zone))
  | ended (moment : Nat) (answer : Except Error (List Heater)) (bridge : BridgeStatus)
      (interval? : Option Nat)

end Polling

/-- What the fetches of a tick come to, and how long they take. -/
structure Round where
  zones : Except Error (List Zone)
  heaters : Except Error (List Heater)
  zonesMs : Nat := 0
  heatersMs : Nat := 0

namespace Round

/-- The interval that the account is due after this round. -/
def interval (round : Round) (c : Cadence) : Nat :=
  match round.zones, round.heaters with
  | .ok _, .ok _ => c.online
  | _, _ => c.offline

/-- The status after this round: the failure of the zones comes before that of the heaters. -/
def bridge (round : Round) : BridgeStatus :=
  match round.zones, round.heaters with
  | .error e, _ => ⟨.offline, .communicationError, some e.message⟩
  | .ok _, .error e => ⟨.offline, .communicationError, some e.message⟩
  | .ok _, .ok _ => ⟨.online, .none, none⟩

/-- The end of the tick that begins at `due`. -/
def ends (round : Round) (due : Nat) : Nat := due + round.zonesMs + round.heatersMs

def marks (c : Cadence) (due : Nat) (round : Round) : List Polling.Mark :=
  [.began due, .zonesCame (due + round.zonesMs) round.zones,
    .ended (round.ends due) round.heaters round.bridge (some (round.interval c))]

/-- What went wrong with the zones, or else with the heaters. -/
def fault? (round : Round) : Option Error :=
  (Poller.fault? round.zones).or (Poller.fault? round.heaters)

theorem interval_eq (round : Round) (c : Cadence) :
    round.interval c = c.interval round.fault?.isNone := by
  obtain ⟨zones, heaters, -, -⟩ := round
  cases zones <;> cases heaters <;> rfl

theorem bridge_eq (round : Round) : round.bridge = .after round.fault? := by
  obtain ⟨zones, heaters, -, -⟩ := round
  cases zones <;> cases heaters <;> rfl

end Round

/-- When the next tick is due after some rounds, the first of which was due at `due`. -/
def Cadence.dueAfter (c : Cadence) (due : Nat) : List Round → Nat
  | [] => due
  | round :: rounds => c.dueAfter (round.ends due + round.interval c) rounds

def Cadence.timeline (c : Cadence) (due : Nat) : List Round → List Polling.Mark
  | [] => []
  | round :: rounds => round.marks c due ++ c.timeline (round.ends due + round.interval c) rounds

/-- What has been seen of the tick that is due at `due` while it is not over. -/
inductive Underway (due now : Nat) : List Polling.Mark → Prop where
  | ahead (hn : now ≤ due) : Underway due now []
  | zones (hn : due ≤ now) : Underway due now [.began due]
  | heaters (ms : Nat) (answer : Except Error (List Zone)) (hn : due + ms ≤ now) :
      Underway due now [.began due, .zonesCame (due + ms) answer]

/-! ## What is seen of a run -/

/-- The latest time at which a task goes on of its own; one that was cancelled goes on at once. -/
def Poller.Task.deadline? (now : Nat) (task : Task) : Option Nat :=
  match task.phase with
  | .sleeping due => some (if task.cancelled then now else due)
  | .granted => some now
  | _ => none

namespace Polling

/-- The mark that a notice of a step leaves, if any. -/
def mark? (e : Polling.Event) (after : Polling) : Poller.Notice → Option Mark
  | .zonesRequested _ => some (.began after.now)
  | .heatersRequested _ =>
    match e with
    | .poller (.zonesAnswered _ answer) => some (.zonesCame after.now answer)
    | _ => none
  | .ticked _ _ =>
    match e with
    | .poller (.heatersAnswered _ answer) =>
      some (.ended after.now answer after.registry.bridge after.poller.currentInterval?)
    | _ => none
  | .delivered _ => none

def stepMarks (s : Polling) (e : Polling.Event) : List Mark :=
  (s.step e).2.filterMap (mark? e (s.step e).1)

def marks (s : Polling) : List Polling.Event → List Mark
  | [] => []
  | e :: es => s.stepMarks e ++ marks (s.step e).1 es

/-- Time does not pass anything by that is due. -/
def Prompt (s : Polling) : Polling.Event → Prop
  | .elapse ms => ∀ task ∈ s.poller.tasks, ∀ m, task.deadline? s.now = some m → s.now + ms ≤ m
  | _ => True

def Punctual (s : Polling) : List Polling.Event → Prop
  | [] => True
  | e :: es => s.Prompt e ∧ Punctual (s.step e).1 es

/-- Neither a call of the poller nor a status that somebody else sets. -/
def Undisturbed : Polling.Event → Prop
  | .poller (.schedule ..) | .poller .pollNow | .poller .cancel | .registry (.setStatus _) => False
  | _ => True

end Polling

/-! ## A lone job -/

namespace Poller

variable {c : Cadence} {olds : List Task} {interval now t : Nat} {phase : Phase} {task : Task}
  {r : Registry}

/-- A poller whose last task runs the job, while all others are over. -/
def lone (c : Cadence) (olds : List Task) (interval : Nat) (phase : Phase) : Poller where
  cadence := c
  tasks := olds ++ [{ role := .job interval, phase := phase }]
  job? := some ⟨olds.length, interval⟩
  turn? := if phase.place = .turn then some olds.length else none

def Over (olds : List Task) : Prop := ∀ old ∈ olds, old.phase = .finished

theorem Over.push (ho : Over olds) (hp : task.phase = .finished) : Over (olds ++ [task]) := by
  intro old hm
  rcases List.mem_append.mp hm with hm | hm
  · exact ho old hm
  · rwa [List.mem_singleton.mp hm]

/-- Only the last task can still move. -/
theorem lone_task (ho : Over olds) (ht : (lone c olds interval phase).tasks[t]? = some task)
    (hp : task.phase ≠ .finished) :
    t = olds.length ∧ task = { role := .job interval, phase := phase } := by
  simp only [lone, getElem?_push] at ht
  split at ht
  · exact ⟨by assumption, (Option.some.inj ht).symm⟩
  · exact absurd (ho task (List.mem_of_getElem? ht)) hp

@[simp] theorem lone_last : (lone c olds interval phase).tasks[olds.length]? =
    some { role := .job interval, phase := phase } := List.getElem?_concat_length

theorem modify_amid (olds news : List Task) (f : Task → Task) :
    (olds ++ task :: news).modify olds.length f = olds ++ f task :: news := by
  induction olds with
  | nil => rfl
  | cons old olds ih => simp [ih]

theorem lone_setPhase {next : Phase} (hp : next.place = phase.place) :
    (lone c olds interval phase).setPhase olds.length next = lone c olds interval next := by
  simp [lone, setPhase, modify_amid, hp]

@[simp] theorem lone_begin (tick : Tick) :
    (lone c olds interval .granted).setPhase olds.length (.fetchingZones tick) =
      lone c olds interval (.fetchingZones tick) := lone_setPhase rfl

@[simp] theorem lone_goOn (tick tick' : Tick) (fault? : Option Error) :
    (lone c olds interval (.fetchingZones tick)).setPhase olds.length
      (.fetchingHeaters tick' fault?) = lone c olds interval (.fetchingHeaters tick' fault?) :=
  lone_setPhase rfl

@[simp] theorem lone_claim (due : Nat) :
    (lone c olds interval (.sleeping due)).claim olds.length = lone c olds interval .granted := by
  simp [lone, claim, setPhase, modify_amid, Phase.place]

/-- The job of an account that is online sleeps for the online interval. -/
def Settled (c : Cadence) (r : Registry) (interval : Nat) : Prop :=
  r.isOnline = true → r.bridge = .online ∧ interval = c.online

/-- A tick that replaces its job leaves the new one alone. -/
theorem lone_replaced (ho : Over olds) (online : Bool) :
    ∃ olds', Over olds' ∧
      (((lone c olds interval phase).schedule now (c.interval online) online).rest now
          olds.length).release =
        lone c olds' (c.interval online) (.sleeping (now + c.interval online)) := by
  refine ⟨olds ++ [{ role := .job interval, cancelled := true, phase := .finished }],
    ho.push rfl, ?_⟩
  simp [lone, schedule, dropJob, rest, release, modify_amid, restTask, Phase.place]

/-- However a tick ends, one job sleeps on for the interval that the account is due. -/
theorem lone_finish (ho : Over olds) (hs : Settled c r interval) (phase : Phase) (now : Nat)
    (fault? : Option Error) :
    ∃ olds', Over olds' ∧
      (((lone c olds interval phase).conclude r now r.isOnline fault?).1.rest now
          olds.length).release =
        lone c olds' (c.interval fault?.isNone) (.sleeping (now + c.interval fault?.isNone)) := by
  cases fault? with
  | none =>
    cases hr : r.isOnline with
    | true =>
      -- The loop goes on as it is, and it is the online one.
      obtain ⟨-, hi⟩ := hs hr
      refine ⟨olds, ho, ?_⟩
      simp [lone, conclude, rest, release, modify_amid, restTask, Cadence.interval, hi, Phase.place]
    | false => exact lone_replaced ho true
  | some e => exact lone_replaced ho false

theorem bridge_finish (hs : Settled c r interval) (p : Poller) (now : Nat)
    (fault? : Option Error) :
    (p.conclude r now r.isOnline fault?).2.bridge = .after fault? := by
  cases fault? with
  | none =>
    cases hr : r.isOnline with
    | true => exact (hs hr).1
    | false => rfl
  | some e => rfl

theorem settled_finish (hs : Settled c r interval) (p : Poller) (now : Nat)
    (fault? : Option Error) :
    Settled c (p.conclude r now r.isOnline fault?).2 (c.interval fault?.isNone) := by
  intro hr
  have hb := bridge_finish hs p now fault?
  cases fault? with
  | none => exact ⟨hb, rfl⟩
  | some e =>
    rw [Registry.isOnline, hb] at hr
    simp [BridgeStatus.after] at hr

end Poller

/-! ## Stages of a lone job -/

namespace Polling

variable {c : Cadence} {due : Nat} {s : Polling} {seen : List Mark}

/-- The phase of a job that is due at `due`, with the marks of its tick so far. -/
inductive Doing (due now : Nat) (r : Registry) : Phase → List Mark → Prop where
  | asleep (hn : now ≤ due) : Doing due now r (.sleeping due) []
  | granted (hn : now = due) : Doing due now r .granted []
  | zones (tick : Tick) (ht : tick.wasOnline = r.isOnline) (hn : due ≤ now) :
      Doing due now r (.fetchingZones tick) [.began due]
  | heaters {tick : Tick} (ms : Nat) (answer : Except Error (List Zone))
      (ht : tick.wasOnline = r.isOnline) (hn : due + ms ≤ now) :
      Doing due now r (.fetchingHeaters tick (Poller.fault? answer))
        [.began due, .zonesCame (due + ms) answer]

inductive Stage (c : Cadence) (due : Nat) : Polling → List Mark → Prop where
  | intro {olds : List Task} {interval now : Nat} {phase : Phase} {r : Registry} {seen : List Mark}
      (ho : Over olds) (hs : Settled c r interval) (hd : Doing due now r phase seen) :
      Stage c due ⟨lone c olds interval phase, r, now⟩ seen

/-- Between two ticks. -/
inductive Asleep (c : Cadence) (due : Nat) : Polling → Prop where
  | intro {olds : List Task} {interval now : Nat} {r : Registry} (ho : Over olds)
      (hs : Settled c r interval) (hn : now ≤ due) :
      Asleep c due ⟨lone c olds interval (.sleeping due), r, now⟩

theorem Asleep.stage (h : Asleep c due s) : Stage c due s [] := by
  obtain ⟨ho, hs, hn⟩ := h
  exact .intro ho hs (.asleep hn)

theorem Stage.underway (h : Stage c due s seen) : Underway due s.now seen := by
  obtain ⟨-, -, hd⟩ := h
  cases hd with
  | asleep hn => exact .ahead hn
  | granted hn => exact .ahead (Nat.le_of_eq hn)
  | zones _ _ hn => exact .zones hn
  | heaters ms answer _ hn => exact .heaters ms answer hn

/-- Deliveries leave no marks. -/
@[simp] theorem filterMap_delivered (e : Polling.Event) (after : Polling) (ds : List Delivery) :
    ds.filterMap (mark? e after ∘ Poller.Notice.delivered) = [] := by
  simp [Function.comp_def, mark?]

/-- The end of a tick completes the marks of its round. -/
theorem Stage.finish {olds : List Task} {interval ms now : Nat} {r : Registry} {tick : Tick}
    (ho : Over olds) (hs : Settled c r interval) (ht : tick.wasOnline = r.isOnline)
    (hn : due + ms ≤ now) (answer : Except Error (List Zone))
    (found : Except Error (List Heater)) :
    let s : Polling :=
      ⟨lone c olds interval (.fetchingHeaters tick (Poller.fault? answer)), r, now⟩
    let e : Polling.Event := .poller (.heatersAnswered olds.length found)
    let round : Round := ⟨answer, found, ms, now - (due + ms)⟩
    [.began due, .zonesCame (due + ms) answer] ++ s.stepMarks e = round.marks c due ∧
      Asleep c (round.ends due + round.interval c) (s.step e).1 := by
  intro s e round
  have hends : round.ends due = now := by
    simp only [round, Round.ends]
    omega
  obtain ⟨olds', ho', hq⟩ :=
    lone_finish ho hs (.fetchingHeaters tick (Poller.fault? answer)) now round.fault?
  have hb := bridge_finish hs s.poller now round.fault?
  have hset := settled_finish hs s.poller now round.fault?
  rw [← Round.interval_eq] at hq hset
  have hstep : s.step e = (⟨lone c olds' (round.interval c) (.sleeping (now + round.interval c)),
      (s.poller.conclude r now r.isOnline round.fault?).2, now⟩,
      (heaterDeliveries tick found).map .delivered ++ [.ticked olds.length round.fault?]) := by
    simp only [Polling.step, Poller.step, s, e, lone_last, ht, tell_eq_delivered]
    rw [← hq]
    rfl
  constructor
  · simp [stepMarks, hstep, mark?, Round.marks, e, hends, hb, Round.bridge_eq, currentInterval?,
      lone, round]
  · rw [hstep, hends]
    exact .intro ho' hset (by omega)

/-- While time passes nothing by, a job stays in its phase. -/
theorem Doing.elapse {interval now ms : Nat} {r : Registry} {phase : Phase}
    (h : Doing due now r phase seen)
    (hlate : ∀ m, Task.deadline? now { role := .job interval, phase := phase } = some m →
      now + ms ≤ m) :
    Doing due (now + ms) r phase seen := by
  cases h with
  | asleep hn => exact .asleep (hlate due rfl)
  | granted hn =>
    have hle := hlate now rfl
    exact .granted (by omega)
  | zones tick ht hn => exact .zones tick ht (by omega)
  | heaters ms answer ht hn => exact .heaters ms answer ht (by omega)

theorem Doing.congr {now : Nat} {r r' : Registry} {phase : Phase} (h : Doing due now r phase seen)
    (hr : r'.isOnline = r.isOnline) : Doing due now r' phase seen := by
  cases h with
  | asleep hn => exact .asleep hn
  | granted hn => exact .granted hn
  | zones tick ht hn => exact .zones tick (ht.trans hr.symm) hn
  | heaters ms answer ht hn => exact .heaters ms answer (ht.trans hr.symm) hn

/-- What a step of the poller does to a job that is left to itself. -/
theorem Stage.pollerStep {e : Poller.Event} (h : Stage c due s seen)
    (hu : Undisturbed (.poller e)) :
    Stage c due (s.step (.poller e)).1 (seen ++ s.stepMarks (.poller e)) ∨
    ∃ round : Round, seen ++ s.stepMarks (.poller e) = round.marks c due ∧
      Stage c (round.ends due + round.interval c) (s.step (.poller e)).1 [] := by
  obtain ⟨ho, hs, hd⟩ := h
  rename_i olds interval now phase r
  have m := (lone c olds interval phase).step_moves r now e
  generalize hst : (lone c olds interval phase).step r now e = st at m
  have hstep : Polling.step ⟨lone c olds interval phase, r, now⟩ (.poller e) =
      (⟨st.poller, st.registry, now⟩, st.notices) := by
    simp only [Polling.step, hst]
  cases m with
  | schedule | pollNow | cancel => exact hu.elim
  | idle =>
    refine .inl ?_
    simpa [stepMarks, hstep] using Stage.intro ho hs hd
  | quit ht hp hc =>
    obtain ⟨-, rfl⟩ := lone_task ho ht (by rw [hp]; nofun)
    exact nomatch hc
  | claim ht hp _ hle =>
    obtain ⟨rfl, rfl⟩ := lone_task ho ht (by rw [hp]; nofun)
    obtain rfl := hp
    cases hd with
    | asleep hn =>
      refine .inl ?_
      simpa [stepMarks, hstep] using Stage.intro ho hs (.granted (Nat.le_antisymm hn hle))
  | decline ht hp hc =>
    obtain ⟨-, rfl⟩ := lone_task ho ht (by rw [hp]; nofun)
    exact nomatch hc
  | begin ht hp hc =>
    obtain ⟨rfl, rfl⟩ := lone_task ho ht (by rw [hp]; nofun)
    obtain rfl := hp
    cases hd with
    | granted hn =>
      subst hn
      refine .inl ?_
      simpa [stepMarks, hstep, mark?] using
        Stage.intro ho hs (.zones (.ofRegistry r) rfl (Nat.le_refl now))
  | zones answer ht hp =>
    obtain ⟨rfl, rfl⟩ := lone_task ho ht (by rw [hp]; nofun)
    obtain rfl := hp
    cases hd with
    | zones tick hw hn =>
      refine .inl ?_
      have hms : due + (now - due) = now := by omega
      simpa [stepMarks, hstep, mark?, hms] using
        Stage.intro ho hs (.heaters (now - due) answer hw (Nat.le_of_eq hms))
  | finish answer ht hp =>
    obtain ⟨rfl, rfl⟩ := lone_task ho ht (by rw [hp]; nofun)
    obtain rfl := hp
    cases hd with
    | heaters ms zones hw hn =>
      obtain ⟨hm, next⟩ := Stage.finish ho hs hw hn zones answer
      exact .inr ⟨_, hm, next.stage⟩

/-- What an event does to a job that is left to itself. -/
theorem Stage.step {e : Polling.Event} (h : Stage c due s seen) (hu : Undisturbed e)
    (hprompt : s.Prompt e) :
    Stage c due (s.step e).1 (seen ++ s.stepMarks e) ∨
    ∃ round : Round, seen ++ s.stepMarks e = round.marks c due ∧
      Stage c (round.ends due + round.interval c) (s.step e).1 [] := by
  cases e with
  | poller e => exact h.pollerStep hu
  | elapse ms =>
    obtain ⟨ho, hs, hd⟩ := h
    refine .inl ?_
    simp only [Polling.step, stepMarks, List.filterMap_nil, List.append_nil]
    exact .intro ho hs (hd.elapse (hprompt _ List.mem_concat_self))
  | registry change =>
    obtain ⟨ho, hs, hd⟩ := h
    rename_i olds interval now phase r
    -- The observers change, the status does not.
    have hb : (r.change change).bridge = r.bridge := by
      cases change with
      | setStatus bridge => exact hu.elim
      | _ => rfl
    have hr : (r.change change).isOnline = r.isOnline := by rw [Registry.isOnline, hb]; rfl
    refine .inl ?_
    simp only [Polling.step, stepMarks, List.filterMap_nil, List.append_nil]
    refine .intro ho ?_ (hd.congr hr)
    rw [Settled, hr, hb]
    exact hs

/-! ## Runs of a lone job -/

theorem Stage.run {es : List Polling.Event} (h : Stage c due s seen)
    (hu : ∀ e ∈ es, Undisturbed e) (hp : s.Punctual es) :
    ∃ rounds rest, seen ++ s.marks es = c.timeline due rounds ++ rest ∧
      Stage c (c.dueAfter due rounds) (s.run es).1 rest := by
  induction es generalizing s seen due with
  | nil => exact ⟨[], seen, by simp [marks, Cadence.timeline], h⟩
  | cons e es ih =>
    obtain ⟨hprompt, hp⟩ := hp
    have hu' : ∀ e ∈ es, Undisturbed e := fun e he => hu e (List.mem_cons_of_mem _ he)
    rw [marks, ← List.append_assoc]
    rcases h.step (hu e List.mem_cons_self) hprompt with next | ⟨round, hm, next⟩
    · exact ih next hu' hp
    · obtain ⟨rounds, rest, hr, last⟩ := ih next hu' hp
      refine ⟨round :: rounds, rest, ?_, last⟩
      rw [hm, Cadence.timeline, List.append_assoc, ← hr, List.nil_append]

/-! ## A run for every timeline -/

/-- Some punctual run that nobody disturbs leads from one state to another, with these marks. -/
def Passes (s : Polling) (seen : List Mark) (s' : Polling) : Prop :=
  ∃ es, (∀ e ∈ es, Undisturbed e) ∧ s.Punctual es ∧ s.marks es = seen ∧ (s.run es).1 = s'

theorem Passes.refl (s : Polling) : Passes s [] s := ⟨[], by simp, trivial, rfl, rfl⟩

theorem Passes.cons {e : Polling.Event} {s' : Polling} (hu : Undisturbed e) (hp : s.Prompt e)
    (h : Passes (s.step e).1 seen s') : Passes s (s.stepMarks e ++ seen) s' := by
  obtain ⟨es, hes, hps, hm, hr⟩ := h
  refine ⟨e :: es, ?_, ⟨hp, hps⟩, by rw [marks, hm], hr⟩
  intro e' he'
  rcases List.mem_cons.mp he' with rfl | he'
  · exact hu
  · exact hes e' he'

theorem Passes.trans {s' s'' : Polling} {seen' : List Mark} (h : Passes s seen s')
    (h' : Passes s' seen' s'') : Passes s (seen ++ seen') s'' := by
  obtain ⟨es, hu, hp, hm, hr⟩ := h
  induction es generalizing s seen with
  | nil =>
    obtain rfl : s = s' := hr
    obtain rfl : [] = seen := hm
    exact h'
  | cons e es ih =>
    subst hm
    rw [marks, List.append_assoc]
    exact .cons (hu e List.mem_cons_self) hp.1
      (ih (fun e he => hu e (List.mem_cons_of_mem _ he)) hp.2 rfl hr)

/-- One step, with the marks that it leaves. -/
theorem Passes.single {e : Polling.Event} {s' : Polling} (hu : Undisturbed e) (hp : s.Prompt e)
    (hs : (s.step e).1 = s') (hm : s.stepMarks e = seen) : Passes s seen s' := by
  subst hs hm
  simpa using Passes.cons hu hp (.refl _)

/-- While a job sleeps or fetches, time can go on until it is due. -/
theorem Passes.elapse {olds : List Task} {interval now : Nat} {phase : Phase} {r : Registry}
    (ho : Over olds) (ms : Nat)
    (hd : ∀ m, Task.deadline? now { role := .job interval, phase := phase } = some m →
      now + ms ≤ m) :
    Passes ⟨lone c olds interval phase, r, now⟩ [] ⟨lone c olds interval phase, r, now + ms⟩ := by
  refine .single (e := .elapse ms) trivial ?_ rfl rfl
  intro task hm m hdue
  rcases List.mem_append.mp hm with hm | hm
  · simp [Task.deadline?, ho task hm] at hdue
  · rw [List.mem_singleton.mp hm] at hdue
    exact hd m hdue

theorem Asleep.passes (h : Asleep c due s) (round : Round) :
    ∃ s', Passes s (round.marks c due) s' ∧
      Asleep c (round.ends due + round.interval c) s' := by
  obtain ⟨ho, hs, hn⟩ := h
  rename_i olds interval now r
  let t := olds.length
  let inPhase (phase : Phase) (now : Nat) : Polling := ⟨lone c olds interval phase, r, now⟩
  let tick := Tick.ofRegistry r
  have sleep : Passes (inPhase (.sleeping due) now) [] (inPhase (.sleeping due) due) := by
    have hw : now + (due - now) = due := by omega
    have hd : ∀ m, Task.deadline? now { role := .job interval, phase := .sleeping due } = some m →
        now + (due - now) ≤ m := by
      intro m hm
      obtain rfl : due = m := Option.some.inj hm
      omega
    have := Passes.elapse (c := c) (r := r) ho (due - now) hd
    rwa [hw] at this
  have wake : Passes (inPhase (.sleeping due) due) [] (inPhase .granted due) := by
    refine .single (e := .poller (.wake t)) trivial trivial ?_ ?_ <;>
      simp [inPhase, t, Polling.step, Poller.step, stepMarks]
  have begin : Passes (inPhase .granted due) [.began due] (inPhase (.fetchingZones tick) due) := by
    refine .single (e := .poller (.resume t)) trivial trivial ?_ ?_ <;>
      simp [inPhase, t, tick, Polling.step, Poller.step, stepMarks, mark?]
  have fetch : Passes (inPhase (.fetchingZones tick) due) []
      (inPhase (.fetchingZones tick) (due + round.zonesMs)) :=
    .elapse ho round.zonesMs (by simp [Task.deadline?])
  have zones : Passes (inPhase (.fetchingZones tick) (due + round.zonesMs))
      [.zonesCame (due + round.zonesMs) round.zones]
      (inPhase (.fetchingHeaters tick (Poller.fault? round.zones)) (due + round.zonesMs)) := by
    refine .single (e := .poller (.zonesAnswered t round.zones)) trivial trivial ?_ ?_ <;>
      simp [inPhase, t, tick, Polling.step, Poller.step, stepMarks, mark?]
  have fetch' : Passes
      (inPhase (.fetchingHeaters tick (Poller.fault? round.zones)) (due + round.zonesMs)) []
      (inPhase (.fetchingHeaters tick (Poller.fault? round.zones)) (round.ends due)) :=
    .elapse ho round.heatersMs (by simp [Task.deadline?])
  have later : due + round.zonesMs ≤ round.ends due := Nat.le_add_right ..
  obtain ⟨hm, next⟩ := Stage.finish ho hs (rfl : tick.wasOnline = r.isOnline) later
    round.zones round.heaters
  have hround : Round.mk round.zones round.heaters round.zonesMs
      (round.ends due - (due + round.zonesMs)) = round := by
    rw [Round.ends, Nat.add_sub_cancel_left]
  rw [hround] at hm next
  refine ⟨_, ?_, next⟩
  have finish : Passes
      (inPhase (.fetchingHeaters tick (Poller.fault? round.zones)) (round.ends due)) _ _ :=
    .single (e := .poller (.heatersAnswered t round.heaters)) trivial trivial rfl rfl
  rw [← hm]
  exact sleep.trans (wake.trans (begin.trans (fetch.trans (zones.trans (fetch'.trans finish)))))

/-- Every timeline is that of a run. -/
theorem Asleep.passes_timeline (h : Asleep c due s) (rounds : List Round) :
    ∃ s', Passes s (c.timeline due rounds) s' ∧ Asleep c (c.dueAfter due rounds) s' := by
  induction rounds generalizing s due with
  | nil => exact ⟨s, .refl s, h⟩
  | cons round rounds ih =>
    obtain ⟨s', first, h'⟩ := h.passes round
    obtain ⟨s'', later, last⟩ := ih h'
    exact ⟨s'', first.trans later, last⟩

/-- The state right after the one call that starts a poller, with a status nobody has set yet. -/
def started (c : Cadence) (r : Registry) (now delay : Nat) (online : Bool) : Polling :=
  let s : Polling :=
    { poller := { cadence := c }, registry := { r with bridge := {} }, now := now }
  (s.step (.poller (.schedule delay online))).1

theorem asleep_started (c : Cadence) (r : Registry) (now delay : Nat) (online : Bool) :
    Asleep c (now + delay) (started c r now delay online) := by
  have h : Over [] := nofun
  have hs : Settled c { r with bridge := {} } (c.interval online) := nofun
  exact .intro h hs (Nat.le_add_right now delay)

/-- A poller that is started once and then left to itself keeps the cadence: whatever the
fetches come to and however long they take, the marks of its run are those of the timeline,
and every timeline is seen in some run. -/
theorem marks_timeline (c : Cadence) (r : Registry) (now delay : Nat) (online : Bool) :
    let s := started c r now delay online
    (∀ es, (∀ e ∈ es, Undisturbed e) → s.Punctual es →
      ∃ rounds rest, s.marks es = c.timeline (now + delay) rounds ++ rest ∧
        Underway (c.dueAfter (now + delay) rounds) (s.run es).1.now rest) ∧
    ∀ rounds, ∃ es, (∀ e ∈ es, Undisturbed e) ∧ s.Punctual es ∧
      s.marks es = c.timeline (now + delay) rounds := by
  intro s
  have h : Asleep c (now + delay) s := asleep_started c r now delay online
  refine ⟨fun es hu hp => ?_, fun rounds => ?_⟩
  · obtain ⟨rounds, rest, hm, last⟩ := h.stage.run hu hp
    exact ⟨rounds, rest, hm, last.underway⟩
  · obtain ⟨s', ⟨es, hu, hp, hm, -⟩, -⟩ := h.passes_timeline rounds
    exact ⟨es, hu, hp, hm⟩

/-- After a failure the next tick comes the offline interval later, and then all is well again. -/
theorem marks_timeline_backOff :
    ∃ es, (started ⟨60, 120⟩ {} 0 0 true).marks es =
      [.began 0, .zonesCame 3 (.error .objectMapping),
        .ended 5 (.ok []) (.failed .communicationError .objectMapping) (some 120),
        .began 125, .zonesCame 128 (.ok []), .ended 130 (.ok []) .online (some 60)] := by
  obtain ⟨es, -, -, hm⟩ := (marks_timeline ⟨60, 120⟩ {} 0 0 true).2
    [⟨.error .objectMapping, .ok [], 3, 2⟩, ⟨.ok [], .ok [], 3, 2⟩]
  exact ⟨es, hm⟩

end Polling

end HeaterLink
