import HeaterLink.Proofs.Poller.FanOut

/-!
# Stopping for good

Once a poller was cancelled nothing brings a job back: `schedule` does nothing,
whoever calls it, and a task that runs a job finds its job cancelled before it
begins another tick, wherever it stood. What is under way is finished all the
same, and polls can still be made.

## Main definitions

* `Poller.Stops`, what a cancellation does.
* `Poller.Halted`, stopped and without a job.

## Main statements

* `Poller.Halted.step`, every step keeps it.
* `Poller.Halted.begins`, only polls begin ticks then.
* `Polling.stopped_for_good`, what holds of every run after a cancellation.
-/

namespace HeaterLink

namespace Poller

variable {p : Poller} {r : Registry} {now t : Nat} {e : Event} {st : Stepped}

structure Halted (p : Poller) : Prop where
  stopped : p.stopped = true
  idle : p.job? = none

/-- When it is cancelled, `p` becomes `q`: the task of its job is told so, wherever it stands, and
the other tasks, the turn and the line stay as they are. -/
structure Stops (p q : Poller) : Prop where
  halted : q.Halted
  tasks (t : Nat) :
    q.tasks[t]? = p.tasks[t]?.map fun task => { task with cancelled := task.cancelled || p.runs t }
  frame : q = { p with tasks := q.tasks, job? := q.job?, stopped := q.stopped }

theorem halted_cancel (p : Poller) : p.cancel.Halted := ⟨rfl, p.dropJob_job?⟩

theorem stops_cancel (p : Poller) : Stops p p.cancel where
  halted := p.halted_cancel
  tasks := p.getElem?_dropJob
  frame := by
    unfold cancel dropJob
    split <;> rfl

theorem Halted.step (h : p.Halted) (m : Moves p r now e st) : st.poller.Halted := by
  obtain ⟨hs, hj⟩ := h
  cases m with
  | schedule delay online => exact (schedule_of_stopped hs now delay online).symm ▸ ⟨hs, hj⟩
  | cancel => exact halted_cancel p
  | finish => exact ⟨by simpa using hs, by simpa [conclude_of_stopped hs] using hj⟩
  | pollNow => exact ⟨by simpa [Poller.pollNow] using hs, by simpa [Poller.pollNow] using hj⟩
  | _ => exact ⟨by simpa using hs, by simpa using hj⟩

/-- A stopped poller gets no task but polls. -/
theorem Moves.roles_of_stopped (m : Moves p r now e st) (hs : p.stopped = true) :
    ∃ n, st.poller.roles = p.roles ++ List.replicate n .poll := by
  cases m with
  | schedule delay online => exact ⟨0, by simp [schedule_of_stopped hs]⟩
  | pollNow => exact ⟨1, p.roles_pollNow⟩
  | cancel => exact ⟨0, p.roles_dropJob.trans (List.append_nil _).symm⟩
  | finish => exact ⟨0, by simp [conclude_of_stopped hs]⟩
  | _ => exact ⟨0, by simp⟩

/-- A task that begins a tick is that of a poll: a job would have to be in the slot. -/
theorem Halted.begins (h : p.Halted) (oneJob : OneJob p) (m : Moves p r now e st)
    (hn : .zonesRequested t ∈ st.notices) : p.roles[t]? = some .poll := by
  cases m with
  | @begin u task hu hp hc =>
    obtain rfl : t = u := by simpa using hn
    have hrole : task.role = .poll := by
      by_contra hr
      have hlive : p.LiveAt t := ⟨task, hu, hr, hc, by simp [hp]⟩
      obtain ⟨job, hj, -⟩ := (oneJob.live t).mp hlive
      simp [h.idle] at hj
    simp [roles, hu, hrole]
  | zones | finish => simp at hn
  | _ => cases hn

end Poller

/-! ## Runs -/

namespace Polling

open Poller

variable {s : Polling} {t : Nat} {tick : Tick}

theorem halted_run (h : s.poller.Halted) (es : List Polling.Event) :
    (s.run es).1.poller.Halted :=
  run_keeps_poller (fun _ _ _ _ _ _ h m => h.step m) h

theorem roles_run (h : s.poller.Halted) (es : List Polling.Event) :
    ∃ n, (s.run es).1.poller.roles = s.poller.roles ++ List.replicate n .poll := by
  refine (run_keeps_poller (P := fun p =>
    p.Halted ∧ ∃ n, p.roles = s.poller.roles ++ List.replicate n .poll) ?_ ⟨h, 0, by simp⟩).2
  rintro p r now e st - ⟨h, n, hn⟩ m
  obtain ⟨k, hk⟩ := m.roles_of_stopped h.stopped
  exact ⟨h.step m, n + k, by rw [hk, hn, List.append_assoc, List.replicate_append_replicate]⟩

theorem begins_run (h : s.poller.Halted) (turns : Turns s.poller) (oneJob : OneJob s.poller)
    {es : List Polling.Event} (hn : .zonesRequested t ∈ (s.run es).2) :
    (s.run es).1.poller.roles[t]? = some .poll := by
  induction es generalizing s with
  | nil => cases hn
  | cons e es ih =>
    rw [run, List.mem_append] at hn
    rcases hn with hn | hn
    · cases e with
      | poller e =>
        have hp := h.begins oneJob (s.poller.step_moves s.registry s.now e) hn
        obtain ⟨n, hr⟩ := roles_run h (.poller e :: es)
        rw [hr, List.getElem?_append_left (List.getElem?_eq_some_iff.mp hp).1, hp]
      | registry change | elapse ms => cases hn
    · exact ih (halted_run h [e]) (turns_run turns [e]) (oneJob_run turns oneJob [e]) hn

/-- Whatever else happens, the tick that waits for its heaters ends with their answer: it tells
the observers that it found when it began and writes its status, and no task is added. -/
def Finishes (s : Polling) (t : Nat) (tick : Tick) (zoneFault? : Option Error) : Prop :=
  ∀ es heaters, (∀ answer, .poller (.heatersAnswered t answer) ∉ es) →
    let late := (s.run es).1
    let ended := late.step (.poller (.heatersAnswered t heaters))
    let fault? := zoneFault?.or (fault? heaters)
    ended.2 = (tick.observers.heaterCalls heaters).map .delivered ++ [.ticked t fault?] ∧
      ended.1.registry = { late.registry with
        bridge := if fault? = none ∧ tick.wasOnline = true then late.registry.bridge
          else .after fault? } ∧
      ended.1.poller.roles = late.poller.roles

theorem finishes {zoneFault? : Option Error} (h : s.poller.Halted) (turns : Turns s.poller)
    (hp : s.poller.phase? t = some (.fetchingHeaters tick zoneFault?)) :
    Finishes s t tick zoneFault? := by
  intro es heaters he late ended fault?
  have hs : late.poller.stopped = true := (halted_run h es).stopped
  obtain ⟨-, hseen, hended⟩ := heaters_run turns hp he heaters
  refine ⟨by rw [← heaterDeliveries_eq, hseen], hended.status, ?_⟩
  rw [hended.roles, renewal?_of_stopped hs]
  exact List.append_nil _

/-- Nothing brings back a poller that was cancelled: it has no job and gets no task that runs
one, and only polls begin ticks. A tick that is under way when the poller is cancelled still asks
for the heaters, makes its deliveries and writes its status. -/
theorem stopped_for_good (c : Cadence) (r : Registry) (now : Nat)
    (before after : List Polling.Event) :
    let s := (run { poller := { cadence := c }, registry := r, now := now }
      (before ++ [.poller .cancel])).1
    let last := (s.run after).1
    last.poller.job? = none ∧
    (∃ n, last.poller.roles = s.poller.roles ++ List.replicate n .poll) ∧
    (∀ t, .zonesRequested t ∈ (s.run after).2 → last.poller.roles[t]? = some .poll) ∧
    (∀ t tick zones, s.poller.phase? t = some (.fetchingZones tick) →
      (∀ answer, .poller (.zonesAnswered t answer) ∉ after) →
      let asked := s.run (after ++ [.poller (.zonesAnswered t zones)])
      asked.2 = (tick.observers.zoneCalls zones).map .delivered ++ [.heatersRequested t] ∧
        asked.1.Finishes t tick (fault? zones)) ∧
    ∀ t tick zoneFault?, s.poller.phase? t = some (.fetchingHeaters tick zoneFault?) →
      s.Finishes t tick zoneFault? := by
  intro s last
  have turns : Turns s.poller := turns_run (turns_fresh c) _
  have oneJob : OneJob s.poller := oneJob_run (turns_fresh c) (oneJob_fresh c) _
  have h : s.poller.Halted := by
    simp only [s, run_concat]
    exact halted_cancel _
  refine ⟨(halted_run h after).idle, roles_run h after, fun t hn => begins_run h turns oneJob hn,
    fun t tick zones hp he => ?_, fun t tick zoneFault? hp => finishes h turns hp⟩
  obtain ⟨hp', hasked⟩ := zones_run turns hp he zones
  rw [zoneDeliveries_eq] at hasked
  exact ⟨hasked, finishes (halted_run h _) (turns_run turns _) hp'⟩

/-- A job that is past its sleep, in line behind a poll, makes no tick after the cancellation;
the tick of the poll goes on, and a later poll makes another. -/
theorem stopped_for_good_inLine :
    let before : List Polling.Event := [.poller (.schedule 0 true), .poller .pollNow,
      .poller (.wake 0), .poller (.resume 1)]
    let s := (run {} (before ++ [.poller .cancel])).1
    let after : List Polling.Event := [.poller (.schedule 0 true), .poller .pollNow,
      .poller (.zonesAnswered 1 (.ok [])), .poller (.heatersAnswered 1 (.ok [])),
      .poller (.resume 0), .poller (.resume 2)]
    s.poller.place 0 = .line ∧ .zonesRequested 2 ∈ (s.run after).2 ∧
      (s.run after).1.poller.roles[2]? = some .poll ∧ (s.run after).1.poller.job? = none ∧
      (s.run [.poller (.zonesAnswered 1 (.ok []))]).1.Finishes 1 (.ofRegistry {}) none := by
  intro before s after
  have hline : s.poller.place 0 = .line := rfl
  have hfetching : s.poller.phase? 1 = some (.fetchingZones (.ofRegistry {})) := rfl
  have hseen : (s.run after).2 =
      [.heatersRequested 1, .ticked 1 none, .zonesRequested 2] := rfl
  have hbegan : .zonesRequested 2 ∈ (s.run after).2 := by simp [hseen]
  have hstop := stopped_for_good {} {} 0 before after
  have hnow := stopped_for_good {} {} 0 before []
  exact ⟨hline, hbegan, hstop.2.2.1 2 hbegan, hstop.1,
    (hnow.2.2.2.1 1 _ (.ok []) hfetching (by simp)).2⟩

end Polling

end HeaterLink
