import HeaterLink.Proofs.Poller.Turns

/-!
# The live job

Every job that was ever scheduled keeps its task, and a task that was replaced
can still be anywhere: asleep, in line, in the middle of a tick. All the same at
most one of them goes on, and it is the one in the job slot.

The invariant needs the turns as well: passing the turn on moves the head of the
queue, which must not be a task that is over.

## Main definitions

* `Poller.LiveAt`, the tasks that run a job nobody cancelled.
* `Poller.OneJob`, the invariant.
* `Poller.JobsLast`, that a job ends only when it was cancelled.

## Main statements

* `Poller.OneJob.step`, every step keeps it.
* `Polling.one_live_job`, what holds after every run.
-/

namespace HeaterLink

namespace Poller

variable {p q : Poller} {r : Registry} {now t u : Nat} {task : Task}

/-- Runs a job, was not cancelled and is not over. -/
structure Task.IsLive (task : Task) : Prop where
  isJob : task.role ≠ .poll
  uncancelled : task.cancelled = false
  unfinished : task.phase ≠ .finished

def LiveAt (p : Poller) (t : Nat) : Prop := ∃ task, p.tasks[t]? = some task ∧ task.IsLive

structure OneJob (p : Poller) : Prop where
  live : ∀ t, p.LiveAt t ↔ ∃ job, p.job? = some job ∧ job.task = t
  /-- The loop of the job sleeps for the interval of the slot. -/
  loop : ∀ job, p.job? = some job →
    ∃ task, p.tasks[job.task]? = some task ∧ task.role = .job job.interval
  interval : ∀ job, p.job? = some job → ∃ online, job.interval = p.cadence.interval online

theorem oneJob_fresh (c : Cadence) : OneJob { cadence := c } := by
  refine ⟨fun t => ?_, nofun, nofun⟩
  simp [LiveAt]

/-! ## What keeps the job -/

/-- Only the turn and the line differ. -/
theorem OneJob.congr (h : OneJob p) (ht : q.tasks = p.tasks) (hj : q.job? = p.job?)
    (hc : q.cadence = p.cadence) : OneJob q := by
  refine ⟨fun t => ?_, fun job hq => ?_, fun job hq => ?_⟩
  · have := h.live t
    rwa [LiveAt, ht, hj]
  · rw [ht]
    exact h.loop job (hj ▸ hq)
  · rw [hc]
    exact h.interval job (hj ▸ hq)

/-- A task that goes on as what it was, live or not. -/
theorem OneJob.modify {f : Task → Task} (h : OneJob p) (ht : p.tasks[t]? = some task)
    (hr : (f task).role = task.role) (hl : (f task).IsLive ↔ task.IsLive) :
    OneJob { p with tasks := p.tasks.modify t f } := by
  refine ⟨fun u => ?_, fun job hj => ?_, h.interval⟩
  · rw [← h.live u]
    by_cases hu : t = u
    · subst hu
      simp [LiveAt, ht, hl]
    · simp [LiveAt, hu]
  · obtain ⟨own, ho, hrole⟩ := h.loop job hj
    by_cases hu : t = job.task
    · rw [hu, ho] at ht
      obtain rfl := Option.some.inj ht
      exact ⟨f own, by simp [hu, ho], hr.trans hrole⟩
    · exact ⟨own, by simp [hu, ho], hrole⟩

theorem OneJob.setPhase {phase : Phase} (h : OneJob p) (ht : p.tasks[t]? = some task)
    (hp : phase = .finished ↔ task.phase = .finished) : OneJob (p.setPhase t phase) := by
  refine h.modify ht rfl ⟨fun hl => ?_, fun hl => ?_⟩
  · exact ⟨hl.isJob, hl.uncancelled, fun hf => hl.unfinished (hp.mpr hf)⟩
  · exact ⟨hl.isJob, hl.uncancelled, fun hf => hl.unfinished (hp.mp hf)⟩

/-- A cancelled task may end. -/
theorem OneJob.end (h : OneJob p) (ht : p.tasks[t]? = some task) (hc : task.cancelled = true) :
    OneJob (p.setPhase t .finished) := by
  refine h.modify ht rfl ⟨fun hl => absurd rfl hl.unfinished, fun hl => ?_⟩
  simp [hl.uncancelled] at hc

theorem OneJob.claim (h : OneJob p) (ht : p.tasks[t]? = some task)
    (hp : task.phase ≠ .finished) : OneJob (p.claim t) := by
  unfold Poller.claim
  split
  · exact (h.setPhase ht (by simp [hp]) : OneJob (p.setPhase t .granted)).congr rfl rfl rfl
  · exact (h.setPhase ht (by simp [hp]) : OneJob (p.setPhase t .waiting)).congr rfl rfl rfl

/-- The head of the queue is in line, so it is not revived by getting the turn. -/
theorem OneJob.release (h : OneJob p) (line : ∀ t ∈ p.queue, p.place t = .line) :
    OneJob p.release := by
  unfold Poller.release
  split
  · exact h.congr rfl rfl rfl
  · rename_i w rest hw
    have hl : p.place w = .line := line w (by simp [hw])
    have hlt : w < p.tasks.length := lt_length_of_place (by rw [hl]; exact nofun)
    have ht := List.getElem?_eq_getElem hlt
    have hp : p.tasks[w].phase ≠ .finished := fun hf => by
      simp [place_eq ht, hf, Phase.place] at hl
    exact (h.setPhase ht (by simp [hp]) : OneJob (p.setPhase w .granted)).congr rfl rfl rfl

theorem OneJob.dropJob (h : OneJob p) : OneJob p.dropJob := by
  refine ⟨fun t => ?_, by simp, by simp⟩
  have hn : ¬ p.dropJob.LiveAt t := by
    rintro ⟨task, ht, hl⟩
    unfold Poller.dropJob at ht
    split at ht
    · rename_i hj
      obtain ⟨job, hs, -⟩ := (h.live t).mp ⟨task, ht, hl⟩
      simp [hj] at hs
    · rename_i job hj
      rw [List.getElem?_modify] at ht
      by_cases hu : job.task = t
      · cases ho : p.tasks[t]? with
        | none => simp [ho] at ht
        | some own =>
          rw [ho] at ht
          simp only [hu, if_true, Option.map_eq_map, Option.map_some, Option.some.injEq] at ht
          subst ht
          exact absurd hl.uncancelled (by simp)
      · simp only [hu, if_false, Option.map_eq_map, Option.map_id'] at ht
        obtain ⟨job', hs, ht'⟩ := (h.live t).mp ⟨task, ht, hl⟩
        obtain rfl := Option.some.inj (hj.symm.trans hs)
        exact hu ht'
  simp [hn]

theorem liveAt_push (hq : q.tasks = p.tasks ++ [task]) :
    q.LiveAt t ↔ t = p.tasks.length ∧ task.IsLive ∨ p.LiveAt t := by
  simp only [LiveAt, hq, getElem?_push]
  by_cases ht : t = p.tasks.length
  · simp [ht]
  · simp [ht]

/-- A task without a job is added. -/
theorem OneJob.push (h : OneJob p) (phase : Phase) :
    OneJob { p with tasks := p.tasks ++ [{ role := .poll, phase := phase }] } := by
  refine ⟨fun t => ?_, fun job hj => ?_, h.interval⟩
  · have hn : ¬ Task.IsLive { role := .poll, phase := phase } := fun hl => hl.isJob rfl
    rw [liveAt_push rfl, ← h.live t]
    simp [hn]
  · obtain ⟨own, ho, hrole⟩ := h.loop job hj
    exact ⟨own, by simp [getElem?_push, ho, Nat.ne_of_lt (lt_length ho)], hrole⟩

theorem OneJob.schedule (h : OneJob p) (now delay : Nat) (online : Bool) :
    OneJob (p.schedule now delay online) := by
  unfold Poller.schedule
  split
  · exact h
  · have hn (t : Nat) : ¬ p.dropJob.LiveAt t := fun hl => by
      obtain ⟨job, hj, -⟩ := (h.dropJob.live t).mp hl
      simp at hj
    refine ⟨fun t => ?_, ?_, ?_⟩
    · have hl : Task.IsLive
          { role := .job (p.cadence.interval online), phase := .sleeping (now + delay) } :=
        ⟨nofun, rfl, nofun⟩
      rw [liveAt_push rfl]
      simp [hl, hn, eq_comm]
    · simp
    · intro job hj
      obtain rfl := Option.some.inj hj
      exact ⟨online, by simp⟩

theorem OneJob.cancel (h : OneJob p) : OneJob p.cancel := h.dropJob.congr rfl rfl rfl

theorem OneJob.conclude (h : OneJob p) (r : Registry) (now : Nat) (wasOnline : Bool)
    (fault? : Option Error) : OneJob (p.conclude r now wasOnline fault?).1 :=
  conclude_keeps h (h.schedule now) r wasOnline fault?

theorem OneJob.rest (h : OneJob p) (ht : p.tasks[t]? = some task) (hp : task.phase ≠ .finished)
    (now : Nat) : OneJob (p.rest now t) := by
  obtain ⟨role, cancelled, phase⟩ := task
  refine h.modify ht ?_ ?_
  · cases role <;> rfl
  · cases role with
    | poll => exact ⟨fun hl => absurd rfl hl.isJob, fun hl => absurd rfl hl.isJob⟩
    | job interval =>
      cases cancelled with
      | true => exact ⟨fun hl => absurd hl.uncancelled nofun, fun hl => absurd hl.uncancelled nofun⟩
      | false => exact ⟨fun hl => ⟨hl.isJob, rfl, hp⟩, fun hl => ⟨hl.isJob, rfl, nofun⟩⟩

/-! ## Steps -/

/-- Who is in line stays so while the task that has the turn moves. -/
theorem Turns.line_of_moved {place : Place} (h : Turns p) (ht : p.place t = .turn)
    (m : Moved p q t place) : ∀ u ∈ q.queue, q.place u = .line := by
  intro u hu
  have hl : p.place u = .line := (h.line u).mp (m.queue ▸ hu)
  have hne : u ≠ t := fun e => by simp [e, ht] at hl
  rw [m.others u hne, hl]

theorem OneJob.finish (h : OneJob p) (turns : Turns p) (ht : p.place t = .turn) (r : Registry)
    (now : Nat) (wasOnline : Bool) (fault? : Option Error) :
    OneJob ((p.conclude r now wasOnline fault?).1.rest now t).release := by
  have hc := (place_conclude p r now t wasOnline fault?).trans ht
  have hlt := lt_length_of_place (by rw [hc]; exact nofun)
  have hq := List.getElem?_eq_getElem hlt
  refine OneJob.release ((h.conclude r now wasOnline fault?).rest hq (fun hf => ?_) now) ?_
  · simp [place_eq hq, hf, Phase.place] at hc
  · exact (turns.conclude r now wasOnline fault?).line_of_moved hc (moved_rest hlt now)

theorem OneJob.step {e : Event} {st : Stepped} (h : OneJob p) (turns : Turns p)
    (m : Moves p r now e st) : OneJob st.poller := by
  cases m with
  | schedule delay online => exact h.schedule now delay online
  | pollNow => exact (h.push .waiting).claim List.getElem?_concat_length nofun
  | cancel => exact h.cancel
  | idle => exact h
  | quit ht _ hc => exact h.end ht hc
  | claim ht hp => exact h.claim ht (by rw [hp]; exact nofun)
  | decline ht hp hc =>
    have m := moved_setPhase (lt_length ht) .finished
    exact (h.end ht hc).release (turns.line_of_moved (place_of_phase ht hp) m)
  | begin ht hp => exact h.setPhase ht (by simp [hp])
  | zones answer ht hp => exact h.setPhase ht (by simp [hp])
  | finish answer ht hp => exact h.finish turns (place_of_phase ht hp) r now _ _

/-! ## The end of a job -/

/-- Only a poll ends of itself; a job lasts until it is cancelled. -/
def JobsLast (p : Poller) : Prop :=
  ∀ task ∈ p.tasks, task.phase = .finished → task.role = .poll ∨ task.cancelled = true

/-- Runs a job that nobody cancelled, whether or not it is over. -/
def UncancelledAt (p : Poller) (t : Nat) : Prop :=
  ∃ task, p.tasks[t]? = some task ∧ task.role ≠ .poll ∧ task.cancelled = false

theorem JobsLast.uncancelledAt_iff (h : JobsLast p) : p.UncancelledAt t ↔ p.LiveAt t := by
  constructor
  · rintro ⟨task, ht, hr, hc⟩
    refine ⟨task, ht, hr, hc, fun hf => ?_⟩
    rcases h task (List.mem_of_getElem? ht) hf with hp | hc'
    · exact hr hp
    · simp [hc] at hc'
  · rintro ⟨task, ht, hl⟩
    exact ⟨task, ht, hl.isJob, hl.uncancelled⟩

theorem jobsLast_fresh (c : Cadence) : JobsLast { cadence := c } := nofun

theorem JobsLast.congr (h : JobsLast p) (ht : q.tasks = p.tasks) : JobsLast q := by
  rwa [JobsLast, ht]

theorem JobsLast.modify {f : Task → Task} (h : JobsLast p)
    (hf : ∀ task, p.tasks[t]? = some task → (f task).phase = .finished →
      (f task).role = .poll ∨ (f task).cancelled = true) :
    JobsLast { p with tasks := p.tasks.modify t f } := by
  intro task hm
  obtain ⟨u, hu⟩ := List.mem_iff_getElem?.mp hm
  rw [List.getElem?_modify, Option.map_eq_map, Option.map_eq_some_iff] at hu
  obtain ⟨own, ho, rfl⟩ := hu
  by_cases htu : t = u
  · subst htu
    simpa using hf own ho
  · simpa [htu] using h own (List.mem_of_getElem? ho)

/-- A task that goes on does not end. -/
theorem JobsLast.setPhase (h : JobsLast p) (t : Nat) (phase : Phase) (hp : phase ≠ .finished) :
    JobsLast (p.setPhase t phase) :=
  h.modify fun _ _ hf => absurd hf hp

theorem JobsLast.end (h : JobsLast p) (ht : p.tasks[t]? = some task)
    (hc : task.cancelled = true) : JobsLast (p.setPhase t .finished) := by
  refine h.modify fun own ho _ => .inr ?_
  obtain rfl := Option.some.inj (ht.symm.trans ho)
  exact hc

theorem JobsLast.claim (h : JobsLast p) (t : Nat) : JobsLast (p.claim t) := by
  unfold Poller.claim
  split
  · exact (h.setPhase t .granted nofun).congr rfl
  · exact (h.setPhase t .waiting nofun).congr rfl

theorem JobsLast.release (h : JobsLast p) : JobsLast p.release := by
  unfold Poller.release
  split
  · exact h.congr rfl
  · exact (h.setPhase _ .granted nofun).congr rfl

theorem JobsLast.dropJob (h : JobsLast p) : JobsLast p.dropJob := by
  unfold Poller.dropJob
  split
  · exact h
  · exact (h.modify (f := fun task => { task with cancelled := true })
      fun _ _ _ => .inr rfl).congr rfl

theorem JobsLast.push (h : JobsLast p) (role : Role) (phase : Phase) (hp : phase ≠ .finished) :
    JobsLast { p with tasks := p.tasks ++ [{ role := role, phase := phase }] } := by
  intro task hm hf
  rcases List.mem_append.mp hm with hm | hm
  · exact h task hm hf
  · obtain rfl := List.mem_singleton.mp hm
    exact absurd hf hp

theorem JobsLast.schedule (h : JobsLast p) (now delay : Nat) (online : Bool) :
    JobsLast (p.schedule now delay online) := by
  unfold Poller.schedule
  split
  · exact h
  · exact (h.dropJob.push (.job _) (.sleeping _) nofun).congr rfl

theorem JobsLast.rest (h : JobsLast p) (now t : Nat) : JobsLast (p.rest now t) := by
  refine h.modify fun task _ => ?_
  obtain ⟨role, cancelled, phase⟩ := task
  cases role with
  | poll => exact fun _ => .inl rfl
  | job interval =>
    cases cancelled with
    | true => exact fun _ => .inr rfl
    | false => exact nofun

theorem JobsLast.step {e : Event} {st : Stepped} (h : JobsLast p) (m : Moves p r now e st) :
    JobsLast st.poller := by
  cases m with
  | schedule delay online => exact h.schedule now delay online
  | pollNow => exact (h.push .poll .waiting nofun).claim _
  | cancel => exact h.dropJob.congr rfl
  | idle => exact h
  | quit ht _ hc => exact h.end ht hc
  | claim => exact h.claim _
  | decline ht _ hc => exact (h.end ht hc).release
  | begin => exact h.setPhase _ (.fetchingZones _) nofun
  | zones => exact h.setPhase _ (.fetchingHeaters _ _) nofun
  | finish => exact ((conclude_keeps h (h.schedule now) r _ _).rest now _).release

end Poller

namespace Polling

open Poller

variable {s : Polling}

/-! ## Runs -/

theorem oneJob_run (turns : Turns s.poller) (h : OneJob s.poller) (es : List Polling.Event) :
    OneJob (s.run es).1.poller := by
  refine (run_keeps_poller (P := fun p => Turns p ∧ OneJob p) ?_ ⟨turns, h⟩ : _ ∧ _).2
  intro p r now e st _ ⟨turns, h⟩ m
  exact ⟨turns.step m, h.step turns m⟩

theorem cadence_run (s : Polling) (es : List Polling.Event) :
    (s.run es).1.poller.cadence = s.poller.cadence :=
  run_keeps_poller (P := fun p => p.cadence = s.poller.cadence)
    (fun _ _ _ _ _ _ h m => m.cadence.trans h) rfl

theorem stopped_run {es : List Polling.Event} (hs : s.poller.stopped = false)
    (he : .poller .cancel ∉ es) : (s.run es).1.poller.stopped = false := by
  refine run_keeps_poller (P := fun p => p.stopped = false) ?_ hs
  intro p r now e st hm h m
  exact (m.stopped fun hc => he (hc ▸ hm)).trans h

/-- A job that is scheduled is replaced, but never lost. -/
theorem isScheduled_run {es : List Polling.Event} (h : s.poller.isScheduled = true)
    (he : .poller .cancel ∉ es) : (s.run es).1.poller.isScheduled = true := by
  refine run_keeps_poller (P := fun p => p.isScheduled = true) ?_ h
  intro p r now e st hm h m
  exact m.isScheduled (fun hc => he (hc ▸ hm)) h

theorem isScheduled_of_schedule {es : List Polling.Event} {delay : Nat} {online : Bool}
    (hs : s.poller.stopped = false) (he : .poller .cancel ∉ es)
    (hm : .poller (.schedule delay online) ∈ es) : (s.run es).1.poller.isScheduled = true := by
  obtain ⟨es₁, es₂, rfl⟩ := List.append_of_mem hm
  simp only [List.mem_append, List.mem_cons, not_or] at he
  let e : Polling.Event := .poller (.schedule delay online)
  have first : ((s.run es₁).1.step e).1.poller.isScheduled = true :=
    isScheduled_schedule (stopped_run hs he.1) ..
  have later := isScheduled_run first he.2.2
  rwa [run_append]

/-- One poller from its making on, with any observers, at any time. -/
theorem one_live_job (c : Cadence) (r : Registry) (now : Nat) (es : List Polling.Event) :
    let s : Polling := { poller := { cadence := c }, registry := r, now := now }
    let p := (s.run es).1.poller
    (p.job? = none → ∀ t, ¬ p.LiveAt t) ∧
    (∀ job, p.job? = some job →
      (∀ t, p.LiveAt t ↔ t = job.task) ∧
      (∃ task, p.tasks[job.task]? = some task ∧ task.role = .job job.interval) ∧
      (job.interval = c.online ∨ job.interval = c.offline)) ∧
    (∀ delay online, .poller (.schedule delay online) ∈ es → .poller .cancel ∉ es →
      p.isScheduled = true) ∧
    ∀ more, p.isScheduled = true → .poller .cancel ∉ more →
      (s.run (es ++ more)).1.poller.isScheduled = true := by
  intro s p
  have h : OneJob p := oneJob_run (turns_fresh c) (oneJob_fresh c) es
  refine ⟨fun hn t hl => ?_, fun job hj => ⟨fun t => ?_, h.loop job hj, ?_⟩, ?_, ?_⟩
  · obtain ⟨job, hj, -⟩ := (h.live t).mp hl
    simp [hn] at hj
  · rw [h.live t]
    simp [hj, eq_comm]
  · obtain ⟨online, hi⟩ := h.interval job hj
    rw [hi, show p.cadence = c from cadence_run s es]
    cases online with
    | true => exact .inl rfl
    | false => exact .inr rfl
  · intro delay online hm he
    exact isScheduled_of_schedule rfl he hm
  · intro more hs he
    rw [run_append]
    exact isScheduled_run hs he

/-- A job that was replaced while it had the turn leaves the slot to its successor. -/
theorem one_live_job_replaced :
    let es := [.poller (.schedule 0 true), .poller (.wake 0), .poller (.schedule 5 false)]
    let p := (run {} es).1.poller
    p.place 0 = .turn ∧ p.job? = some ⟨1, 120000⟩ ∧ ∀ t, p.LiveAt t ↔ t = 1 := by
  refine ⟨rfl, rfl, ?_⟩
  exact ((one_live_job {} {} 0 _).2.1 ⟨1, 120000⟩ rfl).1

end Polling

end HeaterLink
