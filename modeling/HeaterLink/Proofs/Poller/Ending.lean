import HeaterLink.Proofs.Poller.Turns

/-!
# The end of a tick

The answer of the heaters ends a tick. In one step the status is written, the job
is replaced if the account turned or failed, the task of the tick goes to rest and
the turn passes to whoever is first in line.

## Main definitions

* `Poller.renewal?`, the interval of the job that takes the place of the present one.
* `Poller.Ended`, the poller and the registry after a tick.

## Main statements

* `Poller.ended_conclusion`, a tick ends as it is meant to.
-/

namespace HeaterLink

namespace Poller

variable {p q : Poller} {r s : Registry} {now t u : Nat} {task : Task} {wasOnline : Bool}
  {fault? : Option Error}

/-! ## The end as it is meant -/

/-- The interval of the job that takes the place of the present one, if one does. A tick that went
well replaces the job only where the account was not online, one that failed always does, and a
stopped poller gets no job. -/
def renewal? (p : Poller) (wasOnline : Bool) (fault? : Option Error) : Option Nat :=
  if p.stopped then none
  else match fault? with
    | none => if wasOnline then none else some p.cadence.online
    | some _ => some p.cadence.offline

/-- The phase of a task after its tick: a job that was not cancelled sleeps until the next. -/
def Role.rest (now : Nat) (cancelled : Bool) : Role → Phase
  | .poll => .finished
  | .job interval => if cancelled then .finished else .sleeping (now + interval)

/-- The task of a job that sleeps for its interval before its first tick. -/
def Task.renewed (now interval : Nat) : Task where
  role := .job interval
  phase := .sleeping (now + interval)

/-- When the tick of the task `t` ends, `p` and `r` become `q` and `s`. -/
structure Ended (p : Poller) (r : Registry) (now t : Nat) (wasOnline : Bool)
    (fault? : Option Error) (q : Poller) (s : Registry) : Prop where
  status : s = { r with
    bridge := if fault? = none ∧ wasOnline = true then r.bridge else .after fault? }
  cadence : q.cadence = p.cadence
  stopped : q.stopped = p.stopped
  turn : q.turn? = p.queue.head?
  queue : q.queue = p.queue.tail
  job : q.job? = match p.renewal? wasOnline fault? with
    | none => p.job?
    | some interval => some ⟨p.tasks.length, interval⟩
  added : q.tasks.drop p.tasks.length =
    (p.renewal? wasOnline fault?).toList.map (Task.renewed now)
  /-- The task of a job that is replaced is cancelled, also when the tick is its own. -/
  kept (u : Nat) (task : Task) (h : p.tasks[u]? = some task) :
    let cancelled := task.cancelled || ((p.renewal? wasOnline fault?).isSome && p.runs u)
    q.tasks[u]? = some {
      role := task.role
      cancelled := cancelled
      phase := if u = t then task.role.rest now cancelled
        else if p.queue.head? = some u then .granted
        else task.phase }

/-! ## Stopped pollers -/

theorem schedule_of_stopped (hs : p.stopped = true) (now delay : Nat) (online : Bool) :
    p.schedule now delay online = p := if_pos hs

theorem conclude_of_stopped (hs : p.stopped = true) (r : Registry) (now : Nat)
    (wasOnline : Bool) (fault? : Option Error) :
    (p.conclude r now wasOnline fault?).1 = p :=
  conclude_keeps (P := fun q => q = p) rfl (schedule_of_stopped hs now) r wasOnline fault?

theorem renewal?_of_stopped (hs : p.stopped = true) (wasOnline : Bool) (fault? : Option Error) :
    p.renewal? wasOnline fault? = none := if_pos hs

/-! ## Passing the turn on -/

theorem release_turn? (p : Poller) : p.release.turn? = p.queue.head? := by
  unfold release
  split
  · next hq => rw [hq, List.head?_nil]
  · next hq => rw [hq, List.head?_cons]

theorem release_queue (p : Poller) : p.release.queue = p.queue.tail := by
  unfold release
  split
  · next hq => rw [hq, List.tail_nil]
  · next hq => rw [hq, List.tail_cons]

theorem getElem?_release (p : Poller) (u : Nat) :
    p.release.tasks[u]? =
      if p.queue.head? = some u then p.tasks[u]?.map fun task => { task with phase := .granted }
      else p.tasks[u]? := by
  unfold release
  split
  · next hq => simp [hq]
  · next t rest hq =>
    simp only [hq, List.head?_cons, Option.some.injEq]
    exact getElem?_setPhase p t u .granted

/-! ## Replacing the job -/

theorem conclude_registry (p : Poller) (r : Registry) (now : Nat) (wasOnline : Bool)
    (fault? : Option Error) : (p.conclude r now wasOnline fault?).2 = { r with
      bridge := if fault? = none ∧ wasOnline = true then r.bridge else .after fault? } := by
  cases fault? with
  | none => cases wasOnline <;> rfl
  | some e => rfl

theorem schedule_renewed {interval : Nat} {online : Bool} (hs : p.stopped = false)
    (hi : p.cadence.interval online = interval) (now : Nat) :
    p.schedule now interval online = { p.dropJob with
      tasks := p.dropJob.tasks ++ [.renewed now interval]
      job? := some ⟨p.tasks.length, interval⟩ } := by
  subst hi
  simp only [schedule, hs, Bool.false_eq_true, if_false, length_dropJob]
  rfl

/-- The job is replaced by one that first sleeps for its interval, or it is left as it is. -/
theorem conclude_renewal (p : Poller) (r : Registry) (now : Nat) (wasOnline : Bool)
    (fault? : Option Error) :
    (p.conclude r now wasOnline fault?).1 =
      match p.renewal? wasOnline fault? with
      | none => p
      | some interval => { p.dropJob with
        tasks := p.dropJob.tasks ++ [.renewed now interval]
        job? := some ⟨p.tasks.length, interval⟩ } := by
  cases hs : p.stopped with
  | true =>
    rw [renewal?_of_stopped hs]
    exact conclude_of_stopped hs r now wasOnline fault?
  | false =>
    simp only [renewal?, hs, Bool.false_eq_true, if_false]
    cases fault? with
    | none =>
      cases wasOnline with
      | true => rfl
      | false => exact schedule_renewed hs rfl now
    | some e => exact schedule_renewed hs rfl now

theorem getElem?_conclude (h : u < p.tasks.length) (r : Registry) (now : Nat) (wasOnline : Bool)
    (fault? : Option Error) :
    (p.conclude r now wasOnline fault?).1.tasks[u]? = p.tasks[u]?.map fun task => { task with
      cancelled := task.cancelled || ((p.renewal? wasOnline fault?).isSome && p.runs u) } := by
  rw [conclude_renewal]
  cases p.renewal? wasOnline fault? with
  | none => simp
  | some interval =>
    have old : u < p.dropJob.tasks.length := by simpa using h
    simp only [List.getElem?_append_left old, getElem?_dropJob, Option.isSome_some, Bool.true_and]

theorem drop_conclude (p : Poller) (r : Registry) (now : Nat) (wasOnline : Bool)
    (fault? : Option Error) :
    (p.conclude r now wasOnline fault?).1.tasks.drop p.tasks.length =
      (p.renewal? wasOnline fault?).toList.map (Task.renewed now) := by
  rw [conclude_renewal]
  cases p.renewal? wasOnline fault? <;> simp

/-! ## The whole end -/

/-- The poller and the registry at the end of a tick. -/
def conclusion (p : Poller) (r : Registry) (now t : Nat) (wasOnline : Bool)
    (fault? : Option Error) : Poller × Registry :=
  (((p.conclude r now wasOnline fault?).1.rest now t).release,
    (p.conclude r now wasOnline fault?).2)

theorem restTask_eq (now : Nat) (task : Task) :
    restTask now task = { task with phase := task.role.rest now task.cancelled } := by
  obtain ⟨role, cancelled, phase⟩ := task
  cases role <;> rfl

/-- The task of the tick goes to rest and the head of the line gets the turn; the two differ. -/
theorem getElem?_conclusion (ht : p.queue.head? ≠ some t) (r : Registry) (now u : Nat)
    (wasOnline : Bool) (fault? : Option Error) :
    (p.conclusion r now t wasOnline fault?).1.tasks[u]? =
      (p.conclude r now wasOnline fault?).1.tasks[u]?.map fun task => { task with
        phase := if u = t then task.role.rest now task.cancelled
          else if p.queue.head? = some u then .granted
          else task.phase } := by
  simp only [conclusion, getElem?_release, rest_queue, conclude_queue, getElem?_rest]
  by_cases hu : u = t
  · subst hu
    simp [ht, funext (restTask_eq now)]
  · by_cases hq : p.queue.head? = some u <;> simp [hu, Ne.symm hu, hq]

/-- A tick of a task that has the turn ends as it is meant to. -/
theorem ended_conclusion (turns : Turns p) (ht : p.place t = .turn) (r : Registry) (now : Nat)
    (wasOnline : Bool) (fault? : Option Error) :
    Ended p r now t wasOnline fault? (p.conclusion r now t wasOnline fault?).1
      (p.conclusion r now t wasOnline fault?).2 := by
  have inLine {u : Nat} (hu : p.queue.head? = some u) : p.place u = .line :=
    (turns.line u).mp (List.mem_of_mem_head? hu)
  have apart : p.queue.head? ≠ some t := fun hq =>
    absurd (ht.symm.trans (inLine hq)) (by decide)
  exact {
    status := conclude_registry p r now wasOnline fault?
    cadence := by simp [conclusion]
    stopped := by simp [conclusion]
    turn := by simp [conclusion, release_turn?]
    queue := by simp [conclusion, release_queue]
    job := by
      simp only [conclusion, release_job?, rest_job?, conclude_renewal]
      cases p.renewal? wasOnline fault? <;> rfl
    added := by
      rw [← drop_conclude p r]
      refine List.ext_getElem? fun i => ?_
      -- A task that is not there yet has neither the turn nor a place in line.
      have unborn : p.place (p.tasks.length + i) = .apart := by simp [place]
      have other : p.tasks.length + i ≠ t := by
        rintro rfl
        exact absurd (unborn.symm.trans ht) (by decide)
      have behind : p.queue.head? ≠ some (p.tasks.length + i) := fun hq =>
        absurd (unborn.symm.trans (inLine hq)) (by decide)
      simp [List.getElem?_drop, getElem?_conclusion apart, other, behind]
    kept := by
      intro u task hu cancelled
      rw [getElem?_conclusion apart, getElem?_conclude (lt_length hu), hu]
      rfl }

/-- The only role that comes with the end of a tick is that of the new job. -/
theorem Ended.roles (h : Ended p r now t wasOnline fault? q s) :
    q.roles = p.roles ++ (p.renewal? wasOnline fault?).toList.map .job := by
  have kept : (q.tasks.take p.tasks.length).map Task.role = p.roles := by
    refine List.ext_getElem? fun u => ?_
    rw [List.getElem?_map, List.getElem?_take, Poller.roles, List.getElem?_map]
    split
    · next hu =>
      have ht := List.getElem?_eq_getElem hu
      rw [h.kept u _ ht, ht]
      rfl
    · next hu => rw [List.getElem?_eq_none (Nat.le_of_not_lt hu)]
  have added : (q.tasks.drop p.tasks.length).map Task.role =
      (p.renewal? wasOnline fault?).toList.map .job := by
    rw [h.added, List.map_map]
    rfl
  rw [← kept, ← added, ← List.map_append, List.take_append_drop]
  rfl

end Poller

end HeaterLink
