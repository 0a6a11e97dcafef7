import HeaterLink.Poller.Run

/-!
# What a step of a poller can do

`Moves` lists the steps of a poller, one constructor for each thing that can
happen, with what the task that moves must be in. Invariants are proved by
cases on it; none of them opens `Poller.step`.

## Main definitions

* `Poller.Moves`, the steps; `Poller.step_moves`, that there are no others.
* `Poller.place`, where a task stands with respect to the turn.

## Main statements

* `Polling.run_keeps`, the rule of invariants for runs.
-/

namespace HeaterLink

/-- The status that the outcome of a tick calls for. -/
def BridgeStatus.after : Option Error → BridgeStatus
  | none => ⟨.online, .none, none⟩
  | some e => ⟨.offline, .communicationError, some e.message⟩

namespace Poller

variable {p : Poller} {r : Registry} {now t u : Nat} {task : Task}

/-! ## Steps -/

inductive Moves (p : Poller) (r : Registry) (now : Nat) : Event → Stepped → Prop where
  | schedule (delay : Nat) (online : Bool) :
      Moves p r now (.schedule delay online) ⟨p.schedule now delay online, r, []⟩
  | pollNow : Moves p r now .pollNow ⟨p.pollNow, r, []⟩
  | cancel : Moves p r now .cancel ⟨p.cancel, r, []⟩
  /-- The event does not fit the phase of the task. -/
  | idle (e : Event) : Moves p r now e ⟨p, r, []⟩
  /-- A cancelled job is woken. -/
  | quit {t : Nat} {task : Task} {due : Nat} (ht : p.tasks[t]? = some task)
      (hp : task.phase = .sleeping due) (hc : task.cancelled = true) :
      Moves p r now (.wake t) ⟨p.setPhase t .finished, r, []⟩
  | claim {t : Nat} {task : Task} {due : Nat} (ht : p.tasks[t]? = some task)
      (hp : task.phase = .sleeping due) (hc : task.cancelled = false) (hd : due ≤ now) :
      Moves p r now (.wake t) ⟨p.claim t, r, []⟩
  /-- A job was cancelled before its turn came. -/
  | decline {t : Nat} {task : Task} (ht : p.tasks[t]? = some task) (hp : task.phase = .granted)
      (hc : task.cancelled = true) :
      Moves p r now (.resume t) ⟨(p.setPhase t .finished).release, r, []⟩
  | begin {t : Nat} {task : Task} (ht : p.tasks[t]? = some task) (hp : task.phase = .granted)
      (hc : task.cancelled = false) :
      Moves p r now (.resume t)
        ⟨p.setPhase t (.fetchingZones (.ofRegistry r)), r, [.zonesRequested t]⟩
  | zones {t : Nat} {task : Task} {tick : Tick} (answer : Except Error (List Zone))
      (ht : p.tasks[t]? = some task) (hp : task.phase = .fetchingZones tick) :
      Moves p r now (.zonesAnswered t answer)
        ⟨p.setPhase t (.fetchingHeaters tick (Poller.fault? answer)), r,
          (zoneDeliveries tick answer).map .delivered ++ [.heatersRequested t]⟩
  | finish {t : Nat} {task : Task} {tick : Tick} {zoneFault? : Option Error}
      (answer : Except Error (List Heater)) (ht : p.tasks[t]? = some task)
      (hp : task.phase = .fetchingHeaters tick zoneFault?) :
      Moves p r now (.heatersAnswered t answer)
        ⟨((p.conclude r now tick.wasOnline (zoneFault?.or (Poller.fault? answer))).1.rest now
            t).release,
          (p.conclude r now tick.wasOnline (zoneFault?.or (Poller.fault? answer))).2,
          (heaterDeliveries tick answer).map .delivered ++
            [.ticked t (zoneFault?.or (Poller.fault? answer))]⟩

theorem step_moves (p : Poller) (r : Registry) (now : Nat) (e : Event) :
    Moves p r now e (p.step r now e) := by
  cases e with
  | schedule delay online => exact .schedule delay online
  | pollNow => exact .pollNow
  | cancel => exact .cancel
  | wake t =>
    simp only [step]
    split
    · rename_i cancelled due ht
      cases cancelled with
      | true => exact .quit ht rfl rfl
      | false =>
        rw [if_neg Bool.false_ne_true]
        split
        · exact .claim ht rfl rfl ‹_›
        · exact .idle _
    · exact .idle _
  | resume t =>
    simp only [step]
    split
    · rename_i cancelled ht
      cases cancelled with
      | true => exact .decline ht rfl rfl
      | false => exact .begin ht rfl rfl
    · exact .idle _
  | zonesAnswered t answer =>
    simp only [step, tell_eq_delivered]
    split
    · rename_i ht
      exact .zones answer ht rfl
    · exact .idle _
  | heatersAnswered t answer =>
    simp only [step, tell_eq_delivered]
    split
    · rename_i ht
      exact .finish answer ht rfl
    · exact .idle _

/-! ## Tasks after a change -/

theorem getElem?_setPhase (p : Poller) (t u : Nat) (phase : Phase) :
    (p.setPhase t phase).tasks[u]? =
      if t = u then p.tasks[u]?.map fun task => { task with phase := phase }
      else p.tasks[u]? := by
  simp only [setPhase, List.getElem?_modify]
  split <;> simp

theorem getElem?_rest (p : Poller) (now t u : Nat) :
    (p.rest now t).tasks[u]? =
      if t = u then p.tasks[u]?.map (restTask now) else p.tasks[u]? := by
  simp only [rest, List.getElem?_modify]
  split <;> simp

theorem getElem?_push (tasks : List Task) (task : Task) (u : Nat) :
    (tasks ++ [task])[u]? = if u = tasks.length then some task else tasks[u]? := by
  grind

/-- The job in the slot is run by this task. -/
def runs (p : Poller) (t : Nat) : Bool := p.job?.any fun job => job.task = t

theorem getElem?_dropJob (p : Poller) (t : Nat) :
    p.dropJob.tasks[t]? =
      p.tasks[t]?.map fun task => { task with cancelled := task.cancelled || p.runs t } := by
  unfold dropJob runs
  split
  · next hj => simp [hj]
  · next job hj =>
    by_cases ht : job.task = t <;> simp [hj, ht]

@[simp] theorem length_rest (p : Poller) (now t : Nat) :
    (p.rest now t).tasks.length = p.tasks.length := List.length_modify ..

@[simp] theorem length_dropJob (p : Poller) : p.dropJob.tasks.length = p.tasks.length := by
  unfold dropJob
  split <;> simp

theorem lt_length (ht : p.tasks[t]? = some task) : t < p.tasks.length :=
  (List.getElem?_eq_some_iff.mp ht).1

/-! ## Fields that a change leaves alone -/

section Fields

variable (p : Poller) (r : Registry) (now t : Nat)

@[simp] theorem setPhase_job? (phase : Phase) : (p.setPhase t phase).job? = p.job? := rfl
@[simp] theorem setPhase_turn? (phase : Phase) : (p.setPhase t phase).turn? = p.turn? := rfl
@[simp] theorem setPhase_queue (phase : Phase) : (p.setPhase t phase).queue = p.queue := rfl
@[simp] theorem rest_turn? : (p.rest now t).turn? = p.turn? := rfl
@[simp] theorem rest_queue : (p.rest now t).queue = p.queue := rfl

@[simp] theorem dropJob_cadence : p.dropJob.cadence = p.cadence := by
  unfold dropJob
  split <;> rfl

@[simp] theorem dropJob_stopped : p.dropJob.stopped = p.stopped := by
  unfold dropJob
  split <;> rfl

@[simp] theorem dropJob_turn? : p.dropJob.turn? = p.turn? := by
  unfold dropJob
  split <;> rfl

@[simp] theorem dropJob_queue : p.dropJob.queue = p.queue := by
  unfold dropJob
  split <;> rfl

@[simp] theorem dropJob_job? : p.dropJob.job? = none := by
  unfold dropJob
  split
  · assumption
  · rfl

@[simp] theorem schedule_turn? (delay : Nat) (online : Bool) :
    (p.schedule now delay online).turn? = p.turn? := by
  unfold schedule
  split <;> simp

@[simp] theorem schedule_queue (delay : Nat) (online : Bool) :
    (p.schedule now delay online).queue = p.queue := by
  unfold schedule
  split <;> simp

@[simp] theorem schedule_cadence (delay : Nat) (online : Bool) :
    (p.schedule now delay online).cadence = p.cadence := by
  unfold schedule
  split <;> simp

@[simp] theorem schedule_stopped (delay : Nat) (online : Bool) :
    (p.schedule now delay online).stopped = p.stopped := by
  unfold schedule
  split <;> simp

@[simp] theorem claim_cadence : (p.claim t).cadence = p.cadence := by
  unfold claim
  split <;> rfl

@[simp] theorem claim_stopped : (p.claim t).stopped = p.stopped := by
  unfold claim
  split <;> rfl

@[simp] theorem claim_job? : (p.claim t).job? = p.job? := by
  unfold claim
  split <;> rfl

@[simp] theorem release_cadence : p.release.cadence = p.cadence := by
  unfold release
  split <;> rfl

@[simp] theorem release_stopped : p.release.stopped = p.stopped := by
  unfold release
  split <;> rfl

@[simp] theorem release_job? : p.release.job? = p.job? := by
  unfold release
  split <;> rfl

@[simp] theorem setPhase_cadence (phase : Phase) : (p.setPhase t phase).cadence = p.cadence := rfl
@[simp] theorem setPhase_stopped (phase : Phase) : (p.setPhase t phase).stopped = p.stopped := rfl
@[simp] theorem rest_cadence : (p.rest now t).cadence = p.cadence := rfl
@[simp] theorem rest_stopped : (p.rest now t).stopped = p.stopped := rfl
@[simp] theorem rest_job? : (p.rest now t).job? = p.job? := rfl

end Fields

/-- A tick ends by leaving the poller as it is, or by one `schedule`. -/
theorem conclude_cases (p : Poller) (r : Registry) (now : Nat) (wasOnline : Bool)
    (fault? : Option Error) :
    (fault? = none ∧ wasOnline = true ∧ p.conclude r now wasOnline fault? = (p, r)) ∨
    (fault? = none ∧ wasOnline = false ∧ p.conclude r now wasOnline fault? =
      (p.schedule now p.cadence.online true, { r with bridge := .online })) ∨
    ∃ e, fault? = some e ∧ p.conclude r now wasOnline fault? =
      (p.schedule now p.cadence.offline false,
        { r with bridge := .failed .communicationError e }) := by
  cases fault? with
  | none => cases wasOnline <;> simp [conclude]
  | some e => simp [conclude]

/-- What holds of a poller as it is, and after every `schedule`, holds after the end of a tick. -/
theorem conclude_keeps {P : Poller → Prop} (h : P p)
    (hs : ∀ delay online, P (p.schedule now delay online)) (r : Registry) (wasOnline : Bool)
    (fault? : Option Error) : P (p.conclude r now wasOnline fault?).1 := by
  rcases conclude_cases p r now wasOnline fault? with ⟨-, -, hc⟩ | ⟨-, -, hc⟩ | ⟨e, -, hc⟩
  · rwa [hc]
  · rw [hc]
    exact hs p.cadence.online true
  · rw [hc]
    exact hs p.cadence.offline false

theorem isScheduled_schedule (hs : p.stopped = false) (now delay : Nat) (online : Bool) :
    (p.schedule now delay online).isScheduled = true := by
  simp [schedule, hs, isScheduled]

/-- A new job takes the place of an old one; a stopped poller keeps what it has. -/
theorem isScheduled_schedule_of (h : p.isScheduled = true) (now delay : Nat) (online : Bool) :
    (p.schedule now delay online).isScheduled = true := by
  cases hs : p.stopped with
  | true => simpa [schedule, hs] using h
  | false => exact isScheduled_schedule hs now delay online

theorem isScheduled_conclude (h : p.isScheduled = true) (r : Registry) (now : Nat)
    (wasOnline : Bool) (fault? : Option Error) :
    (p.conclude r now wasOnline fault?).1.isScheduled = true :=
  conclude_keeps (P := fun q => q.isScheduled = true) h (isScheduled_schedule_of h now) r
    wasOnline fault?

@[simp] theorem conclude_cadence (p : Poller) (r : Registry) (now : Nat) (wasOnline : Bool)
    (fault? : Option Error) : (p.conclude r now wasOnline fault?).1.cadence = p.cadence :=
  conclude_keeps (P := fun q => q.cadence = p.cadence) rfl (p.schedule_cadence now) r
    wasOnline fault?

@[simp] theorem conclude_stopped (p : Poller) (r : Registry) (now : Nat) (wasOnline : Bool)
    (fault? : Option Error) : (p.conclude r now wasOnline fault?).1.stopped = p.stopped :=
  conclude_keeps (P := fun q => q.stopped = p.stopped) rfl (p.schedule_stopped now) r
    wasOnline fault?

@[simp] theorem conclude_queue (p : Poller) (r : Registry) (now : Nat) (wasOnline : Bool)
    (fault? : Option Error) : (p.conclude r now wasOnline fault?).1.queue = p.queue :=
  conclude_keeps (P := fun q => q.queue = p.queue) rfl (p.schedule_queue now) r wasOnline fault?

/-! ## What no step changes -/

theorem Moves.cadence {e : Event} {st : Stepped} (m : Moves p r now e st) :
    st.poller.cadence = p.cadence := by
  cases m <;> simp [Poller.pollNow, Poller.cancel]

/-- Only `cancel` stops a poller. -/
theorem Moves.stopped {e : Event} {st : Stepped} (m : Moves p r now e st) (he : e ≠ .cancel) :
    st.poller.stopped = p.stopped := by
  cases m with
  | cancel => exact absurd rfl he
  | _ => simp [Poller.pollNow]

/-- Only `cancel` empties the job slot. -/
theorem Moves.isScheduled {e : Event} {st : Stepped} (m : Moves p r now e st) (he : e ≠ .cancel)
    (h : p.isScheduled = true) : st.poller.isScheduled = true := by
  cases m with
  | cancel => exact absurd rfl he
  | schedule delay online => exact isScheduled_schedule_of h now delay online
  | finish answer ht hp =>
    have hc := isScheduled_conclude h r now
    simpa [Poller.isScheduled] using hc _ _
  | _ => simpa [Poller.isScheduled, Poller.pollNow] using h

/-! ## Roles -/

/-- What the tasks are for; tasks keep their roles, and new ones come last. -/
def roles (p : Poller) : List Role := p.tasks.map Task.role

theorem roles_modify {f : Task → Task} (hf : ∀ task, (f task).role = task.role) (p : Poller)
    (t : Nat) : roles { p with tasks := p.tasks.modify t f } = p.roles := by
  refine List.ext_getElem? fun u => ?_
  simp only [roles, List.getElem?_map, List.getElem?_modify, Option.map_eq_map, Option.map_map]
  congr 1
  funext task
  dsimp only [Function.comp_def]
  split
  · exact hf task
  · rfl

@[simp] theorem roles_setPhase (p : Poller) (t : Nat) (phase : Phase) :
    (p.setPhase t phase).roles = p.roles :=
  roles_modify (f := fun task => { task with phase := phase }) (fun _ => rfl) p t

@[simp] theorem roles_rest (p : Poller) (now t : Nat) : (p.rest now t).roles = p.roles := by
  refine roles_modify (fun task => ?_) p t
  unfold restTask
  split <;> simp_all

@[simp] theorem roles_dropJob (p : Poller) : p.dropJob.roles = p.roles := by
  unfold dropJob
  split
  · rfl
  · exact roles_modify (f := fun task => { task with cancelled := true }) (fun _ => rfl) p _

@[simp] theorem roles_claim (p : Poller) (t : Nat) : (p.claim t).roles = p.roles := by
  unfold claim
  split
  · exact p.roles_setPhase t .granted
  · exact p.roles_setPhase t .waiting

@[simp] theorem roles_release (p : Poller) : p.release.roles = p.roles := by
  unfold release
  split
  · rfl
  · exact p.roles_setPhase _ .granted

theorem roles_pollNow (p : Poller) : p.pollNow.roles = p.roles ++ [.poll] :=
  (roles_claim _ _).trans (by simp [roles])

theorem roles_schedule (p : Poller) (now delay : Nat) (online : Bool) :
    (p.schedule now delay online).roles =
      p.roles ++ if p.stopped then [] else [.job (p.cadence.interval online)] := by
  unfold schedule
  split
  · simp
  · rw [← p.roles_dropJob]
    simp [roles]

theorem roles_prefix_conclude (p : Poller) (r : Registry) (now : Nat) (wasOnline : Bool)
    (fault? : Option Error) : p.roles <+: (p.conclude r now wasOnline fault?).1.roles :=
  conclude_keeps (P := fun q => p.roles <+: q.roles) (List.prefix_refl _)
    (fun delay online => p.roles_schedule now delay online ▸ List.prefix_append ..) r
    wasOnline fault?

theorem Moves.roles_prefix {e : Event} {st : Stepped} (m : Moves p r now e st) :
    p.roles <+: st.poller.roles := by
  cases m with
  | schedule delay online => exact p.roles_schedule now delay online ▸ List.prefix_append ..
  | pollNow => exact p.roles_pollNow ▸ List.prefix_append ..
  | cancel => exact (roles_dropJob p).symm ▸ List.prefix_refl _
  | finish => simpa using roles_prefix_conclude p r now _ _
  | _ => simp

theorem Moves.length_le {e : Event} {st : Stepped} (m : Moves p r now e st) :
    p.tasks.length ≤ st.poller.tasks.length := by
  simpa [roles] using m.roles_prefix.length_le

/-! ## Places -/

/-- Where a task stands with respect to the turn. -/
inductive Place where
  | apart
  | line
  | turn
deriving DecidableEq, Repr

def Phase.place : Phase → Place
  | .sleeping _ | .finished => .apart
  | .waiting => .line
  | .granted | .fetchingZones _ | .fetchingHeaters _ _ => .turn

/-- The place of a task; one that does not exist yet is apart. -/
def place (p : Poller) (t : Nat) : Place := (p.tasks[t]?).elim .apart fun task => task.phase.place

theorem place_eq (ht : p.tasks[t]? = some task) : p.place t = task.phase.place := by
  simp [place, ht]

theorem place_of_phase {phase : Phase} (ht : p.tasks[t]? = some task) (hp : task.phase = phase) :
    p.place t = phase.place := by
  rw [place_eq ht, hp]

theorem lt_length_of_place (h : p.place t ≠ .apart) : t < p.tasks.length := by
  refine Nat.lt_of_not_le fun hle => h ?_
  simp [place, List.getElem?_eq_none hle]

end Poller

/-! ## Runs -/

/-- What every step of a run keeps holds at its end. -/
theorem Polling.run_keeps {P : Polling → Prop} {es : List Polling.Event}
    (hs : ∀ s, ∀ e ∈ es, P s → P (s.step e).1) {s : Polling} (h : P s) : P (s.run es).1 := by
  induction es generalizing s with
  | nil => exact h
  | cons e es ih =>
    exact ih (fun s e he => hs s e (List.mem_cons_of_mem _ he)) (hs s e List.mem_cons_self h)

/-- The same for what concerns the poller only. -/
theorem Polling.run_keeps_poller {P : Poller → Prop} {es : List Polling.Event}
    (hs : ∀ p r now e st, .poller e ∈ es → P p → Poller.Moves p r now e st → P st.poller)
    {s : Polling} (h : P s.poller) : P (s.run es).1.poller := by
  refine Polling.run_keeps (P := fun s => P s.poller) ?_ h
  intro s e he h
  cases e with
  | poller e => exact hs _ _ _ _ _ he h (s.poller.step_moves s.registry s.now e)
  | registry c => exact h
  | elapse ms => exact h

end HeaterLink
