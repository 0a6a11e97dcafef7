import HeaterLink.Proofs.Poller.Ending
import HeaterLink.Proofs.Poller.Ticks

/-!
# Fetches under way

A task that waits for an answer has the turn, and nobody else can use it: until
its own answer comes, the task stays where it is and nothing is seen of the
poller, whatever is scheduled, cancelled, polled or registered meanwhile.

## Main definitions

* `Poller.phase?`, the phase of a task.
* `Poller.Phase.Fits`, the answer that a phase waits for.

## Main statements

* `Poller.Moves.fetching`, what a step leaves of a fetch, and `Polling.fetching_run`, a run.
* `Polling.zones_run`, `Polling.heaters_run`, a run up to the answer.
-/

namespace HeaterLink

namespace Poller

variable {p q : Poller} {r : Registry} {now t u : Nat} {task : Task} {phase : Phase} {tick : Tick}
  {e : Event} {st : Stepped}

/-- The phase of a task, if there is one under this number. -/
def phase? (p : Poller) (t : Nat) : Option Phase := p.tasks[t]?.map Task.phase

theorem phase?_eq (ht : p.tasks[t]? = some task) : p.phase? t = some task.phase := by
  simp [phase?, ht]

theorem phase?_of_phase (ht : p.tasks[t]? = some task) (hp : task.phase = phase) :
    p.phase? t = some phase := by
  rw [phase?_eq ht, hp]

theorem exists_task (h : p.phase? t = some phase) :
    ∃ task, p.tasks[t]? = some task ∧ task.phase = phase := Option.map_eq_some_iff.mp h

theorem place_of_phase? (h : p.phase? t = some phase) : p.place t = phase.place := by
  obtain ⟨task, ht, rfl⟩ := exists_task h
  exact place_eq ht

theorem lt_length_of_phase? (h : p.phase? t = some phase) : t < p.tasks.length := by
  obtain ⟨task, ht, -⟩ := exists_task h
  exact lt_length ht

theorem place_of_phase_tick? (h : phase.tick? = some tick) : phase.place = .turn := by
  cases phase with
  | fetchingZones | fetchingHeaters => rfl
  | _ => exact nomatch h

/-! ## Phases after a change -/

theorem phase?_setPhase (p : Poller) (t u : Nat) (phase : Phase) :
    (p.setPhase t phase).phase? u =
      if t = u then (p.phase? u).map fun _ => phase else p.phase? u := by
  simp only [phase?, getElem?_setPhase]
  split <;> simp [Function.comp_def]

theorem phase?_setPhase_self (h : t < p.tasks.length) :
    (p.setPhase t phase).phase? t = some phase := by
  rw [phase?_setPhase, if_pos rfl, phase?_eq (List.getElem?_eq_getElem h), Option.map_some]

theorem phase?_setPhase_ne (p : Poller) (phase : Phase) (h : t ≠ u) :
    (p.setPhase t phase).phase? u = p.phase? u := by
  rw [phase?_setPhase, if_neg h]

theorem phase?_push (p : Poller) (task : Task) (h : u < p.tasks.length) :
    phase? { p with tasks := p.tasks ++ [task] } u = p.phase? u := by
  simp [phase?, getElem?_push, Nat.ne_of_lt h]

@[simp] theorem phase?_dropJob (p : Poller) (u : Nat) : p.dropJob.phase? u = p.phase? u := by
  rw [phase?, phase?, getElem?_dropJob, Option.map_map]
  rfl

theorem phase?_schedule (h : u < p.tasks.length) (now delay : Nat) (online : Bool) :
    (p.schedule now delay online).phase? u = p.phase? u := by
  unfold schedule
  split
  · rfl
  · rw [← phase?_dropJob p u]
    exact phase?_push p.dropJob _ (by simpa using h)

theorem phase?_conclude (h : u < p.tasks.length) (r : Registry) (now : Nat) (wasOnline : Bool)
    (fault? : Option Error) : (p.conclude r now wasOnline fault?).1.phase? u = p.phase? u :=
  conclude_keeps (P := fun q => q.phase? u = p.phase? u) rfl (phase?_schedule h now) r wasOnline
    fault?

theorem phase?_claim (p : Poller) (h : t ≠ u) : (p.claim t).phase? u = p.phase? u := by
  unfold claim
  split
  · exact phase?_setPhase_ne p .granted h
  · exact phase?_setPhase_ne p .waiting h

/-! ## Steps -/

/-- Brings the answer that a task in this phase waits for. -/
def Phase.Fits (t : Nat) : Phase → Event → Prop
  | .fetchingZones _, .zonesAnswered u _ => u = t
  | .fetchingHeaters _ _, .heatersAnswered u _ => u = t
  | _, _ => False

/-- Until its answer comes a fetch stays under way, and nothing is seen of the poller. -/
theorem Moves.fetching (m : Moves p r now e st) (turns : Turns p) (h : p.phase? t = some phase)
    (hf : phase.tick? = some tick) (he : ¬ phase.Fits t e) :
    st.poller.phase? t = some phase ∧ st.notices = [] := by
  have hlt := lt_length_of_phase? h
  have hturn : p.place t = .turn := (place_of_phase? h).trans (place_of_phase_tick? hf)
  -- Whoever has the turn is this task, in this phase.
  have own {u : Nat} {task : Task} (hu : p.tasks[u]? = some task) (hp : task.phase.place = .turn) :
      u = t ∧ task.phase = phase := by
    obtain rfl := turns.unique ((place_eq hu).trans hp) hturn
    exact ⟨rfl, Option.some.inj ((phase?_eq hu).symm.trans h)⟩
  have other {u : Nat} {task : Task} (hu : p.tasks[u]? = some task)
      (hp : task.phase.place ≠ .turn) : u ≠ t := by
    rintro rfl
    exact hp ((place_eq hu).symm.trans hturn)
  cases m with
  | schedule delay online => exact ⟨(phase?_schedule hlt now delay online).trans h, rfl⟩
  | pollNow =>
    have hne : p.tasks.length ≠ t := (Nat.ne_of_lt hlt).symm
    exact ⟨((phase?_claim _ hne).trans (phase?_push p _ hlt)).trans h, rfl⟩
  | cancel => exact ⟨(phase?_dropJob p t).trans h, rfl⟩
  | idle => exact ⟨h, rfl⟩
  | quit hu hp =>
    exact ⟨(phase?_setPhase_ne p _ (other hu (by rw [hp]; exact nofun))).trans h, rfl⟩
  | claim hu hp => exact ⟨(phase?_claim p (other hu (by rw [hp]; exact nofun))).trans h, rfl⟩
  | decline hu hp | begin hu hp =>
    obtain ⟨-, rfl⟩ := own hu (by rw [hp]; rfl)
    simp [hp, Phase.tick?] at hf
  | zones answer hu hp | finish answer hu hp =>
    obtain ⟨rfl, rfl⟩ := own hu (by rw [hp]; rfl)
    exact absurd (by rw [hp]; exact rfl) he

theorem step_zonesAnswered (h : p.phase? t = some (.fetchingZones tick)) (r : Registry)
    (now : Nat) (answer : Except Error (List Zone)) :
    p.step r now (.zonesAnswered t answer) =
      ⟨p.setPhase t (.fetchingHeaters tick (fault? answer)), r,
        (zoneDeliveries tick answer).map .delivered ++ [.heatersRequested t]⟩ := by
  obtain ⟨⟨role, cancelled, phase⟩, ht, rfl⟩ := exists_task h
  simp only [step, ht, tell_eq_delivered]

theorem step_heatersAnswered {zoneFault? : Option Error}
    (h : p.phase? t = some (.fetchingHeaters tick zoneFault?)) (r : Registry) (now : Nat)
    (answer : Except Error (List Heater)) :
    p.step r now (.heatersAnswered t answer) =
      ⟨(p.conclusion r now t tick.wasOnline (zoneFault?.or (fault? answer))).1,
        (p.conclusion r now t tick.wasOnline (zoneFault?.or (fault? answer))).2,
        (heaterDeliveries tick answer).map .delivered ++
          [.ticked t (zoneFault?.or (fault? answer))]⟩ := by
  obtain ⟨⟨role, cancelled, phase⟩, ht, rfl⟩ := exists_task h
  simp only [step, ht, tell_eq_delivered]
  rfl

end Poller

/-! ## Runs -/

namespace Polling

open Poller

variable {s : Polling} {t : Nat} {phase : Phase} {tick : Tick} {es : List Polling.Event}

theorem run_concat (s : Polling) (es : List Polling.Event) (e : Polling.Event) :
    s.run (es ++ [e]) =
      (((s.run es).1.step e).1, (s.run es).2 ++ ((s.run es).1.step e).2) := by
  simp [run_append, run]

theorem fetching_run (turns : Turns s.poller) (h : s.poller.phase? t = some phase)
    (hf : phase.tick? = some tick) (he : ∀ e, .poller e ∈ es → ¬ phase.Fits t e) :
    (s.run es).1.poller.phase? t = some phase ∧ (s.run es).2 = [] := by
  induction es generalizing s with
  | nil => exact ⟨h, rfl⟩
  | cons e es ih =>
    have first : (s.step e).1.poller.phase? t = some phase ∧ (s.step e).2 = [] := by
      cases e with
      | poller e =>
        exact (s.poller.step_moves s.registry s.now e).fetching turns h hf
          (he e List.mem_cons_self)
      | registry change | elapse ms => exact ⟨h, rfl⟩
    have turns' : Turns (s.step e).1.poller := turns_run turns [e]
    obtain ⟨hp, hn⟩ := ih turns' first.1 fun e hm => he e (List.mem_cons_of_mem _ hm)
    exact ⟨hp, by rw [run, first.2, List.nil_append, hn]⟩

/-- Up to the answer of the zones nothing is seen, and with it come the deliveries. -/
theorem zones_run (turns : Turns s.poller) (h : s.poller.phase? t = some (.fetchingZones tick))
    (he : ∀ answer, .poller (.zonesAnswered t answer) ∉ es) (answer : Except Error (List Zone)) :
    let out := s.run (es ++ [.poller (.zonesAnswered t answer)])
    out.1.poller.phase? t = some (.fetchingHeaters tick (fault? answer)) ∧
      out.2 = (zoneDeliveries tick answer).map .delivered ++ [.heatersRequested t] := by
  have hfit : ∀ e, .poller e ∈ es → ¬ (Phase.fetchingZones tick).Fits t e := by
    intro e hm hfit
    cases e with
    | zonesAnswered u a =>
      obtain rfl := hfit
      exact he a hm
    | _ => exact hfit
  obtain ⟨hp, hn⟩ := fetching_run turns h rfl hfit
  simp only [run_concat, hn, Polling.step, step_zonesAnswered hp, List.nil_append, and_true]
  exact phase?_setPhase_self (lt_length_of_phase? hp)

/-- The same for the heaters, whose answer ends the tick. -/
theorem heaters_run {zoneFault? : Option Error} (turns : Turns s.poller)
    (h : s.poller.phase? t = some (.fetchingHeaters tick zoneFault?))
    (he : ∀ answer, .poller (.heatersAnswered t answer) ∉ es)
    (answer : Except Error (List Heater)) :
    let late := (s.run es).1
    let ended := late.step (.poller (.heatersAnswered t answer))
    let fault? := zoneFault?.or (fault? answer)
    (s.run es).2 = [] ∧
      ended.2 = (heaterDeliveries tick answer).map .delivered ++ [.ticked t fault?] ∧
      Ended late.poller late.registry late.now t tick.wasOnline fault? ended.1.poller
        ended.1.registry := by
  have hfit : ∀ e, .poller e ∈ es → ¬ (Phase.fetchingHeaters tick zoneFault?).Fits t e := by
    intro e hm hfit
    cases e with
    | heatersAnswered u a =>
      obtain rfl := hfit
      exact he a hm
    | _ => exact hfit
  obtain ⟨hp, hn⟩ := fetching_run turns h rfl hfit
  simp only [hn, Polling.step, step_heatersAnswered hp, true_and]
  exact ended_conclusion (turns_run turns es) (place_of_phase? hp) _ _ _ _

end Polling

end HeaterLink
