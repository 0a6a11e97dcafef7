import HeaterLink.Proofs.Poller.Fetches
import HeaterLink.Proofs.Poller.LiveJob

/-!
# Ticks one after another

Whatever tasks a poller has, its source sees one whole tick after another: the
zones, the heaters, the end with all that it writes, and only then the zones of
the next. The tasks of polls go through their phases once, so that a poll that is
over has made one tick.

## Main definitions

* `Poller.milestones`, the requests and the ends of ticks among what is seen.
* `Poller.underway`, the milestones of the tick under way.
* `Poller.PollAt`, a poll in its phase and the milestones that it has shown.

## Main statements

* `Poller.Moves.milestones`, `Polling.milestones_run`, the milestones of a step and of a run.
* `Poller.PollAt.step`, `Polling.poll_run`, a poll in a step and in a run.
* `Polling.ticks_in_turn`, what holds of every run.
-/

namespace HeaterLink

namespace Poller

variable {p q : Poller} {r : Registry} {now t u : Nat} {task : Task} {phase : Phase} {tick : Tick}
  {e : Event} {st : Stepped}

/-! ## Milestones -/

/-- The task whose tick a notice is a milestone of; deliveries are none. -/
def Notice.task? : Notice → Option Nat
  | .zonesRequested t | .heatersRequested t | .ticked t _ => some t
  | .delivered _ => none

def milestones (ns : List Notice) : List Notice := ns.filter fun n => n.task?.isSome

def milestonesOf (t : Nat) (ns : List Notice) : List Notice := ns.filter fun n => n.task? = some t

/-- The milestones of a whole tick. -/
def wholeTick (t : Nat) (fault? : Option Error) : List Notice :=
  [.zonesRequested t, .heatersRequested t, .ticked t fault?]

/-- The milestones so far of a tick whose task is in this phase. -/
def Phase.milestones (t : Nat) : Phase → List Notice
  | .fetchingZones _ => [.zonesRequested t]
  | .fetchingHeaters _ _ => [.zonesRequested t, .heatersRequested t]
  | _ => []

/-- The milestones of the tick under way, if any. -/
def underway (p : Poller) : List Notice :=
  match p.turn? with
  | none => []
  | some t => ((p.phase? t).map (Phase.milestones t)).getD []

theorem milestones_append (ms ns : List Notice) :
    milestones (ms ++ ns) = milestones ms ++ milestones ns := List.filter_append ..

theorem milestonesOf_append (t : Nat) (ms ns : List Notice) :
    milestonesOf t (ms ++ ns) = milestonesOf t ms ++ milestonesOf t ns := List.filter_append ..

@[simp] theorem milestones_delivered (ds : List Delivery) :
    milestones (ds.map .delivered) = [] := by
  simp [milestones, Notice.task?]

@[simp] theorem milestonesOf_delivered (t : Nat) (ds : List Delivery) :
    milestonesOf t (ds.map .delivered) = [] := by
  simp [milestonesOf, Notice.task?]

theorem underway_of_phase? (turns : Turns p) (h : p.phase? t = some phase)
    (hp : phase.place = .turn) : p.underway = phase.milestones t := by
  have ht : p.turn? = some t := (turns.turn t).mpr ((place_of_phase? h).trans hp)
  simp [underway, ht, h]

/-- Where nothing is under way there is no milestone yet. -/
theorem underway_eq_nil (h : ∀ t, p.tick? t = none) : p.underway = [] := by
  unfold underway
  split
  · rfl
  · rename_i t _
    cases ht : p.tasks[t]? with
    | none => simp [phase?, ht]
    | some task =>
      have hn := h t
      rw [tick?_eq ht] at hn
      rw [phase?_eq ht]
      cases hp : task.phase with
      | fetchingZones | fetchingHeaters => simp [hp, Phase.tick?] at hn
      | _ => rfl

theorem tick?_of_phase? (h : p.phase? t = some phase) : p.tick? t = phase.tick? := by
  obtain ⟨task, ht, rfl⟩ := exists_task h
  exact tick?_eq ht

/-- While one task has the turn, no tick of another is under way. -/
theorem tick?_eq_none (turns : Turns p) (h : p.phase? t = some phase) (hp : phase.place = .turn)
    (hn : phase.tick? = none) (u : Nat) : p.tick? u = none := by
  cases hu : p.tick? u with
  | none => rfl
  | some tick =>
    have hpt := (place_of_phase? h).trans hp
    obtain rfl := turns.unique (place_of_tick? hu) hpt
    rw [tick?_of_phase? h, hn] at hu
    exact nomatch hu

/-- A tick that ended is not under way any more, and neither is another. -/
theorem tick?_conclusion (turns : Turns p) (h : p.place t = .turn) (r : Registry) (now : Nat)
    (wasOnline : Bool) (fault? : Option Error) (u : Nat) :
    (p.conclusion r now t wasOnline fault?).1.tick? u = none := by
  cases hu : (p.conclusion r now t wasOnline fault?).1.tick? u with
  | none => rfl
  | some tick =>
    have hrest := carries_release _ u tick hu
    have hwas := carries_conclude p r now _ _ u tick (carries_rest _ now t u tick hrest)
    obtain rfl := turns.unique (place_of_tick? hwas) h
    rw [tick?_rest_self] at hrest
    exact nomatch hrest

theorem Carries.eq_none (hc : Carries p q) (h : ∀ t, p.tick? t = none) (t : Nat) :
    q.tick? t = none := by
  cases ht : q.tick? t with
  | none => rfl
  | some tick => exact nomatch (h t).symm.trans (hc t tick ht)

theorem phase?_of_tick? (h : p.tick? t = some tick) :
    ∃ phase, p.phase? t = some phase ∧ phase.tick? = some tick := by
  obtain ⟨task, ht, hp⟩ := Option.bind_eq_some_iff.mp h
  exact ⟨task.phase, phase?_eq ht, hp⟩

/-- A change that neither begins a tick nor moves one keeps what is under way. -/
theorem underway_congr (turns : Turns p) (turns' : Turns q) (hc : Carries p q)
    (hk : ∀ t phase tick, p.phase? t = some phase → phase.tick? = some tick →
      q.phase? t = some phase) : q.underway = p.underway := by
  by_cases hn : ∃ t tick, p.tick? t = some tick
  · obtain ⟨t, tick, ht⟩ := hn
    obtain ⟨phase, hp, hf⟩ := phase?_of_tick? ht
    have hturn := place_of_phase_tick? hf
    rw [underway_of_phase? turns hp hturn, underway_of_phase? turns' (hk t phase tick hp hf) hturn]
  · have hp : ∀ t, p.tick? t = none := fun t => Option.eq_none_iff_forall_ne_some.mpr
      fun tick ht => hn ⟨t, tick, ht⟩
    rw [underway_eq_nil hp, underway_eq_nil (hc.eq_none hp)]

/-- A step goes on with the tick under way, or ends it and begins no other. -/
theorem Moves.milestones (m : Moves p r now e st) (turns : Turns p) :
    p.underway ++ Poller.milestones st.notices = st.poller.underway ∨
    ∃ t fault?, p.underway ++ Poller.milestones st.notices = wholeTick t fault? ∧
      st.poller.underway = [] := by
  have turns' := turns.step m
  -- Nothing is seen, and the tick under way stays as it is.
  have still (hs : st.notices = []) (hc : Carries p st.poller)
      (he : ∀ t phase, ¬ Phase.Fits t phase e) :
      p.underway ++ Poller.milestones st.notices = st.poller.underway := by
    rw [hs, underway_congr turns turns' hc fun t phase tick hp hf =>
      (m.fetching turns hp hf (he t phase)).1]
    exact List.append_nil _
  cases m with
  | schedule delay online =>
    exact .inl (still rfl (carries_schedule p now delay online) (by rintro _ (_ | _) ⟨⟩))
  | pollNow =>
    have hc : Carries p p.pollNow := (carries_push p rfl).trans (carries_claim _ p.tasks.length)
    exact .inl (still rfl hc (by rintro _ (_ | _) ⟨⟩))
  | cancel => exact .inl (still rfl (carries_dropJob p) (by rintro _ (_ | _) ⟨⟩))
  | idle => exact .inl (List.append_nil _)
  | quit => exact .inl (still rfl (carries_setPhase p _ rfl) (by rintro _ (_ | _) ⟨⟩))
  | claim => exact .inl (still rfl (carries_claim p _) (by rintro _ (_ | _) ⟨⟩))
  | @decline t task hu hp =>
    have hph := phase?_of_phase hu hp
    have hc : Carries p (p.setPhase t .finished).release :=
      (carries_setPhase p t rfl).trans (carries_release _)
    have hn := tick?_eq_none turns hph rfl rfl
    refine .inl ?_
    rw [underway_eq_nil hn, underway_eq_nil (hc.eq_none hn)]
    rfl
  | @begin t task hu hp =>
    have hph := phase?_of_phase hu hp
    refine .inl ?_
    rw [underway_eq_nil (tick?_eq_none turns hph rfl rfl),
      underway_of_phase? turns' (phase?_setPhase_self (lt_length hu)) rfl]
    rfl
  | @zones t task tick answer hu hp =>
    have hph := phase?_of_phase hu hp
    refine .inl ?_
    rw [underway_of_phase? turns hph rfl,
      underway_of_phase? turns' (phase?_setPhase_self (lt_length hu)) rfl,
      milestones_append, milestones_delivered]
    rfl
  | @finish t task tick zoneFault? answer hu hp =>
    have hph := phase?_of_phase hu hp
    refine .inr ⟨t, zoneFault?.or (Poller.fault? answer), ?_, ?_⟩
    · rw [underway_of_phase? turns hph rfl, milestones_append, milestones_delivered]
      rfl
    · exact underway_eq_nil (tick?_conclusion turns (place_of_phase? hph) r now _ _)

/-! ## Polls -/

/-- What a poll has shown of its tick by the time that it is in this phase. -/
def Phase.Shows (t : Nat) : Phase → List Notice → Prop
  | .sleeping _, _ => False
  | .finished, seen => ∃ fault?, seen = wholeTick t fault?
  | phase, seen => seen = phase.milestones t

/-- The task runs a poll, and these are the milestones of its tick so far. -/
def PollAt (p : Poller) (t : Nat) (seen : List Notice) : Prop :=
  ∃ phase : Phase, p.tasks[t]? = some { role := .poll, phase := phase } ∧ phase.Shows t seen

variable {seen : List Notice}

/-- A job that is dropped is not a poll. -/
theorem getElem?_dropJob_of_poll (h : OneJob p) (ht : p.tasks[t]? = some task)
    (hr : task.role = .poll) : p.dropJob.tasks[t]? = some task := by
  have other : p.runs t = false := by
    rw [Bool.eq_false_iff]
    intro hruns
    rw [runs, Option.any_eq_true] at hruns
    obtain ⟨job, hj, hjob⟩ := hruns
    obtain rfl := of_decide_eq_true hjob
    obtain ⟨own, ho, hrole⟩ := h.loop job hj
    obtain rfl := Option.some.inj (ho.symm.trans ht)
    exact nomatch hrole.symm.trans hr
  simp [getElem?_dropJob, ht, other]

theorem getElem?_schedule_of_poll (h : OneJob p) (ht : p.tasks[t]? = some task)
    (hr : task.role = .poll) (now delay : Nat) (online : Bool) :
    (p.schedule now delay online).tasks[t]? = some task := by
  unfold schedule
  split
  · exact ht
  · have hlt : t < p.dropJob.tasks.length := by simpa using lt_length ht
    simp only [getElem?_push, if_neg (Nat.ne_of_lt hlt)]
    exact getElem?_dropJob_of_poll h ht hr

theorem getElem?_conclude_of_poll (h : OneJob p) (ht : p.tasks[t]? = some task)
    (hr : task.role = .poll) (r : Registry) (now : Nat) (wasOnline : Bool)
    (fault? : Option Error) : (p.conclude r now wasOnline fault?).1.tasks[t]? = some task :=
  conclude_keeps (P := fun q => q.tasks[t]? = some task) ht
    (getElem?_schedule_of_poll h ht hr now) r wasOnline fault?

theorem PollAt.congr (h : PollAt p t seen) (hq : q.tasks[t]? = p.tasks[t]?) : PollAt q t seen := by
  obtain ⟨phase, ht, hs⟩ := h
  exact ⟨phase, hq.trans ht, hs⟩

/-- A poll that is called waits for its tick. -/
theorem pollAt_pollNow (p : Poller) : PollAt p.pollNow p.tasks.length [] := by
  unfold pollNow claim
  split
  · exact ⟨.granted, (getElem?_setPhase _ _ _ _).trans (by simp), rfl⟩
  · exact ⟨.waiting, (getElem?_setPhase _ _ _ _).trans (by simp), rfl⟩

theorem getElem?_claim (p : Poller) (t u : Nat) :
    (p.claim t).tasks[u]? =
      if t = u then p.tasks[u]?.map fun task =>
        { task with phase := if p.turn?.isNone then .granted else .waiting }
      else p.tasks[u]? := by
  unfold claim
  split
  · rename_i hn
    simp [getElem?_setPhase, hn]
  · rename_i hn
    simp [getElem?_setPhase, hn]

/-- If the turn comes to a poll, it still has shown nothing. -/
theorem PollAt.release (h : PollAt p t seen) (line : ∀ u ∈ p.queue, p.place u = .line) :
    PollAt p.release t seen := by
  unfold Poller.release
  split
  · exact h
  · rename_i w rest hw
    by_cases hwt : w = t
    · obtain ⟨phase, ht, hs⟩ := h
      subst hwt
      have hl := line w (by simp [hw])
      rw [place_eq ht] at hl
      cases phase with
      | waiting => exact ⟨.granted, by simp [getElem?_setPhase, ht], hs⟩
      | _ => exact nomatch hl
    · exact h.congr (by simp [getElem?_setPhase, hwt])

theorem PollAt.conclude (h : PollAt p t seen) (oneJob : OneJob p) (r : Registry) (now : Nat)
    (wasOnline : Bool) (fault? : Option Error) :
    PollAt (p.conclude r now wasOnline fault?).1 t seen := by
  obtain ⟨phase, ht, hs⟩ := h
  exact ⟨phase, getElem?_conclude_of_poll oneJob ht rfl r now wasOnline fault?, hs⟩

/-- The task of a tick goes on to its next milestone; any other poll stays where it is. -/
theorem PollAt.goOn {f : Task → Task} {next : Phase} {n : Notice} (h : PollAt p t seen)
    (hu : p.phase? u = some phase) (hq : q.tasks = p.tasks.modify u f)
    (hf : ∀ phase, f { role := .poll, phase := phase } = { role := .poll, phase := next })
    (hn : n.task? = some u) (hs : phase.Shows u seen → next.Shows u (seen ++ [n])) :
    PollAt q t (seen ++ milestonesOf t [n]) := by
  by_cases hut : u = t
  · subst hut
    obtain ⟨phase', ht, hs'⟩ := h
    obtain rfl : phase' = phase := Option.some.inj ((phase?_eq ht).symm.trans hu)
    have hn' : milestonesOf u [n] = [n] := by simp [milestonesOf, hn]
    rw [hn']
    exact ⟨next, by simp [hq, ht, hf], hs hs'⟩
  · have hn' : milestonesOf t [n] = [] := by simp [milestonesOf, hn, hut]
    rw [hn', List.append_nil]
    exact h.congr (by simp [hq, hut])

/-- The task of a poll is never cancelled, and has its phases in their order. -/
theorem PollAt.step (h : PollAt p t seen) (m : Moves p r now e st) (turns : Turns p)
    (oneJob : OneJob p) : PollAt st.poller t (seen ++ milestonesOf t st.notices) := by
  obtain ⟨phase, ht, hs⟩ := id h
  have quiet : seen ++ milestonesOf t [] = seen := List.append_nil _
  have own {u : Nat} {task : Task} (hu : p.tasks[u]? = some task) (hut : u = t) :
      task = { role := .poll, phase := phase } := by
    subst hut
    exact Option.some.inj (hu.symm.trans ht)
  -- A poll neither sleeps nor is it cancelled.
  have asleep {u due : Nat} {task : Task} (hu : p.tasks[u]? = some task)
      (hp : task.phase = .sleeping due) : u ≠ t := by
    intro hut
    obtain rfl := own hu hut
    obtain rfl : phase = .sleeping due := hp
    exact hs
  have cancelled {u : Nat} {task : Task} (hu : p.tasks[u]? = some task)
      (hc : task.cancelled = true) : u ≠ t := by
    intro hut
    obtain rfl := own hu hut
    cases hc
  cases m with
  | schedule delay online =>
    rw [quiet]
    exact ⟨phase, getElem?_schedule_of_poll oneJob ht rfl now delay online, hs⟩
  | pollNow =>
    have hne : p.tasks.length ≠ t := (Nat.ne_of_lt (lt_length ht)).symm
    rw [quiet]
    exact h.congr (by simp [Poller.pollNow, getElem?_claim, hne, getElem?_push, hne.symm])
  | cancel =>
    rw [quiet]
    exact ⟨phase, getElem?_dropJob_of_poll oneJob ht rfl, hs⟩
  | idle => rwa [quiet]
  | quit hu hp =>
    rw [quiet]
    exact h.congr (by rw [getElem?_setPhase, if_neg (asleep hu hp)])
  | claim hu hp =>
    rw [quiet]
    exact h.congr (by rw [getElem?_claim, if_neg (asleep hu hp)])
  | @decline u task hu hp hc =>
    have m := moved_setPhase (lt_length hu) .finished
    rw [quiet]
    refine PollAt.release ?_ (turns.line_of_moved (place_of_phase hu hp) m)
    exact h.congr (by rw [getElem?_setPhase, if_neg (cancelled hu hc)])
  | begin hu hp =>
    refine h.goOn (phase?_of_phase hu hp) rfl (fun _ => rfl) rfl ?_
    rintro rfl
    rfl
  | zones answer hu hp =>
    rw [milestonesOf_append, milestonesOf_delivered, List.nil_append]
    refine h.goOn (phase?_of_phase hu hp) rfl (fun _ => rfl) rfl ?_
    rintro rfl
    rfl
  | @finish u task tick zoneFault? answer hu hp =>
    rw [milestonesOf_append, milestonesOf_delivered, List.nil_append]
    generalize zoneFault?.or (Poller.fault? answer) = fault?
    have hlt := lt_length hu
    have hc := (place_conclude p r now u tick.wasOnline fault?).trans (place_of_phase hu hp)
    have hlt' := lt_length_of_place (t := u) (by rw [hc]; rintro ⟨⟩)
    refine PollAt.release ?_ ((turns.conclude r now _ _).line_of_moved hc (moved_rest hlt' now))
    have hend := h.conclude oneJob r now tick.wasOnline fault?
    have hph := (phase?_conclude hlt r now tick.wasOnline fault?).trans (phase?_of_phase hu hp)
    refine hend.goOn hph rfl (fun _ => rfl) rfl ?_
    rintro rfl
    exact ⟨fault?, rfl⟩

/-- Only tasks that there are leave milestones. -/
theorem Moves.task_lt {n : Notice} (m : Moves p r now e st) (hn : n ∈ st.notices)
    (ht : n.task? = some t) : t < p.tasks.length := by
  have last {ds : List Delivery} {l : Notice} (h : n ∈ ds.map .delivered ++ [l]) : n = l := by
    rcases List.mem_append.mp h with h | h
    · obtain ⟨d, -, rfl⟩ := List.mem_map.mp h
      exact nomatch ht
    · exact List.mem_singleton.mp h
  cases m with
  | begin hu =>
    obtain rfl := List.mem_singleton.mp hn
    obtain rfl := Option.some.inj ht
    exact lt_length hu
  | zones answer hu | finish answer hu =>
    obtain rfl := last hn
    obtain rfl := Option.some.inj ht
    exact lt_length hu
  | _ => exact nomatch hn

/-- A tick begins with what the registry holds in that moment, and with no other under way. -/
theorem Moves.began (m : Moves p r now e st) (turns : Turns p)
    (hn : .zonesRequested t ∈ st.notices) :
    p.underway = [] ∧ st.notices = [.zonesRequested t] ∧ st.registry = r ∧
      st.poller.phase? t = some (.fetchingZones (.ofRegistry r)) := by
  cases m with
  | @begin u task hu hp =>
    obtain rfl : t = u := by simpa using hn
    have hph := phase?_of_phase hu hp
    exact ⟨underway_eq_nil (tick?_eq_none turns hph rfl rfl), rfl, rfl,
      phase?_setPhase_self (lt_length hu)⟩
  | zones | finish => simp at hn
  | _ => exact nomatch hn

/-- The heaters are asked for when the zones have answered, in whatever way. -/
theorem Moves.askedHeaters (m : Moves p r now e st) (hn : .heatersRequested t ∈ st.notices) :
    ∃ answer, e = .zonesAnswered t answer := by
  cases m with
  | @zones u task tick answer =>
    obtain rfl : t = u := by simpa using hn
    exact ⟨answer, rfl⟩
  | begin | finish => simp at hn
  | _ => exact nomatch hn

end Poller

/-! ## Runs -/

namespace Polling

open Poller

variable {s : Polling} {t : Nat} {es : List Polling.Event} {seen : List Notice}

theorem milestones_run (turns : Turns s.poller) (es : List Polling.Event) :
    ∃ ticks : List (Nat × Option Error),
      s.poller.underway ++ milestones (s.run es).2 =
        ticks.flatMap (fun tick => wholeTick tick.1 tick.2) ++ (s.run es).1.poller.underway := by
  induction es generalizing s with
  | nil => exact ⟨[], by simp [milestones]⟩
  | cons e es ih =>
    have turns' : Turns (s.step e).1.poller := turns_run turns [e]
    obtain ⟨ticks, ht⟩ := ih turns'
    have first : s.poller.underway ++ milestones (s.step e).2 = (s.step e).1.poller.underway ∨
        ∃ t fault?, s.poller.underway ++ milestones (s.step e).2 = wholeTick t fault? ∧
          (s.step e).1.poller.underway = [] := by
      cases e with
      | poller e => exact (s.poller.step_moves s.registry s.now e).milestones turns
      | registry change | elapse ms => exact .inl (List.append_nil _)
    rw [run, milestones_append, ← List.append_assoc]
    rcases first with hgo | ⟨t, fault?, hend, hnil⟩
    · exact ⟨ticks, by rw [hgo, ht]⟩
    · refine ⟨(t, fault?) :: ticks, ?_⟩
      rw [hnil, List.nil_append] at ht
      rw [hend, ht, List.flatMap_cons, List.append_assoc]

theorem poll_run (h : PollAt s.poller t seen) (turns : Turns s.poller) (oneJob : OneJob s.poller)
    (es : List Polling.Event) :
    PollAt (s.run es).1.poller t (seen ++ milestonesOf t (s.run es).2) := by
  induction es generalizing s seen with
  | nil => simpa [milestonesOf] using h
  | cons e es ih =>
    have turns' : Turns (s.step e).1.poller := turns_run turns [e]
    have oneJob' : OneJob (s.step e).1.poller := oneJob_run turns oneJob [e]
    have first : PollAt (s.step e).1.poller t (seen ++ milestonesOf t (s.step e).2) := by
      cases e with
      | poller e => exact h.step (s.poller.step_moves s.registry s.now e) turns oneJob
      | registry change | elapse ms => simpa [Polling.step, milestonesOf] using h
    rw [run, milestonesOf_append, ← List.append_assoc]
    exact ih first turns' oneJob'

theorem length_le_run (s : Polling) (es : List Polling.Event) :
    s.poller.tasks.length ≤ (s.run es).1.poller.tasks.length :=
  run_keeps_poller (P := fun p => s.poller.tasks.length ≤ p.tasks.length)
    (fun _ _ _ _ _ _ h m => Nat.le_trans h m.length_le) (Nat.le_refl _)

/-- A task that does not exist yet has left no milestones. -/
theorem milestonesOf_eq_nil (h : (s.run es).1.poller.tasks.length ≤ t) :
    milestonesOf t (s.run es).2 = [] := by
  induction es generalizing s with
  | nil => rfl
  | cons e es ih =>
    have first : milestonesOf t (s.step e).2 = [] := by
      cases e with
      | poller e =>
        refine List.filter_eq_nil_iff.mpr fun n hn ht => ?_
        have hlt := (s.poller.step_moves s.registry s.now e).task_lt hn (of_decide_eq_true ht)
        have hle := Nat.le_trans (s.length_le_run (.poller e :: es)) h
        exact absurd (Nat.lt_of_lt_of_le hlt hle) (Nat.lt_irrefl t)
      | registry change | elapse ms => rfl
    rw [run, milestonesOf_append, first, ih h, List.append_nil]

/-- From its call on, the milestones of a poll are those of its phase. -/
theorem pollAt_run (turns : Turns s.poller) (oneJob : OneJob s.poller)
    (before after : List Polling.Event) :
    let t := (s.run before).1.poller.tasks.length
    let out := s.run (before ++ .poller .pollNow :: after)
    milestonesOf t (s.run before).2 = [] ∧ PollAt out.1.poller t (milestonesOf t out.2) := by
  intro t out
  let called := ((s.run before).1.step (.poller .pollNow)).1
  have hbefore : milestonesOf t (s.run before).2 = [] := milestonesOf_eq_nil (Nat.le_refl _)
  have turns₁ := turns_run turns before
  have oneJob₁ := oneJob_run turns oneJob before
  have turns₂ : Turns called.poller := turns_run turns₁ [.poller .pollNow]
  have oneJob₂ : OneJob called.poller := oneJob_run turns₁ oneJob₁ [.poller .pollNow]
  have h : PollAt called.poller t [] := pollAt_pollNow _
  have hout : out = ((called.run after).1, (s.run before).2 ++ (called.run after).2) :=
    run_append s before (.poller .pollNow :: after)
  refine ⟨hbefore, ?_⟩
  rw [hout, milestonesOf_append, hbefore]
  exact poll_run h turns₂ oneJob₂ after

/-- A tick that begins, up to its end. -/
theorem begun_run {e : Polling.Event} (turns : Turns s.poller)
    (hn : .zonesRequested t ∈ (s.step e).2) {es₁ es₂ : List Polling.Event}
    (h₁ : ∀ answer, .poller (.zonesAnswered t answer) ∉ es₁)
    (h₂ : ∀ answer, .poller (.heatersAnswered t answer) ∉ es₂)
    (zones : Except Error (List Zone)) (heaters : Except Error (List Heater)) :
    let tick := Tick.ofRegistry s.registry
    let asked := (s.step e).1.run (es₁ ++ [.poller (.zonesAnswered t zones)])
    let late := asked.1.run es₂
    let ended := late.1.step (.poller (.heatersAnswered t heaters))
    let fault? := (fault? zones).or (fault? heaters)
    (s.step e).2 = [.zonesRequested t] ∧
      asked.2 = (zoneDeliveries tick zones).map .delivered ++ [.heatersRequested t] ∧
      late.2 = [] ∧
      ended.2 = (heaterDeliveries tick heaters).map .delivered ++ [.ticked t fault?] ∧
      Ended late.1.poller late.1.registry late.1.now t tick.wasOnline fault? ended.1.poller
        ended.1.registry := by
  intro tick asked late ended fault?
  cases e with
  | poller e =>
    have m := s.poller.step_moves s.registry s.now e
    obtain ⟨-, hnotices, -, hp⟩ := m.began turns hn
    have turns₁ : Turns (s.step (.poller e)).1.poller := turns_run turns [.poller e]
    obtain ⟨hp', hasked⟩ := zones_run turns₁ hp h₁ zones
    exact ⟨hnotices, hasked, heaters_run (turns_run turns₁ _) hp' h₂ heaters⟩
  | registry change | elapse ms => exact nomatch hn

/-- The poller of an account from its making on: the source sees one whole tick after another
and at most the first part of one more. A tick begins when no other is under way, by the status
of that moment; it asks for the heaters when the zones have answered, and with the answer of the
heaters it ends, which is when it writes the status and replaces the job. A poll that is over has
made one tick, and that not before it was called. -/
theorem ticks_in_turn (c : Cadence) (r : Registry) (now : Nat) (es : List Polling.Event) :
    let s : Polling := { poller := { cadence := c }, registry := r, now := now }
    let last := (s.run es).1
    let seen := (s.run es).2
    (∃ ticks : List (Nat × Option Error),
      milestones seen =
        ticks.flatMap (fun tick => wholeTick tick.1 tick.2) ++ last.poller.underway) ∧
    (∀ e t, .zonesRequested t ∈ (last.step e).2 →
      last.poller.underway = [] ∧
      ∀ es₁ es₂ zones heaters, (∀ answer, .poller (.zonesAnswered t answer) ∉ es₁) →
        (∀ answer, .poller (.heatersAnswered t answer) ∉ es₂) →
        let asked := (last.step e).1.run (es₁ ++ [.poller (.zonesAnswered t zones)])
        let late := asked.1.run es₂
        let ended := late.1.step (.poller (.heatersAnswered t heaters))
        let fault? := (fault? zones).or (fault? heaters)
        milestones asked.2 = [.heatersRequested t] ∧ late.2 = [] ∧
          milestones ended.2 = [.ticked t fault?] ∧
          Ended late.1.poller late.1.registry late.1.now t last.registry.isOnline fault?
            ended.1.poller ended.1.registry) ∧
    (∀ e t, .heatersRequested t ∈ (last.step e).2 →
      ∃ answer, e = .poller (.zonesAnswered t answer)) ∧
    ∀ before after, es = before ++ .poller .pollNow :: after →
      let t := (s.run before).1.poller.tasks.length
      milestonesOf t (s.run before).2 = [] ∧
        (last.poller.phase? t = some .finished →
          ∃ fault?, milestonesOf t seen = wholeTick t fault?) := by
  intro s last seen
  have turns : Turns last.poller := turns_run (turns_fresh c) es
  refine ⟨?_, fun e t hn => ⟨?_, ?_⟩, fun e t hn => ?_, ?_⟩
  · exact milestones_run (s := s) (turns_fresh c) es
  · cases e with
    | poller e => exact ((last.poller.step_moves _ _ e).began turns hn).1
    | registry change | elapse ms => exact nomatch hn
  · intro es₁ es₂ zones heaters h₁ h₂ asked late ended fault?
    obtain ⟨-, hasked, hlate, hseen, hended⟩ := begun_run turns hn h₁ h₂ zones heaters
    refine ⟨?_, hlate, ?_, hended⟩
    · rw [hasked, milestones_append, milestones_delivered]
      rfl
    · rw [hseen, milestones_append, milestones_delivered]
      rfl
  · cases e with
    | poller e =>
      obtain ⟨answer, rfl⟩ := (last.poller.step_moves _ _ e).askedHeaters hn
      exact ⟨answer, rfl⟩
    | registry change | elapse ms => exact nomatch hn
  · rintro before after rfl t
    obtain ⟨hbefore, phase, ht, hs⟩ :=
      pollAt_run (s := s) (turns_fresh c) (oneJob_fresh c) before after
    refine ⟨hbefore, fun hp => ?_⟩
    obtain rfl : phase = .finished := Option.some.inj ((phase?_eq ht).symm.trans hp)
    exact hs

/-- A job is cancelled in the middle of its tick, while a poll waits: its tick goes on to the
heaters and to its end, and then the poll makes its own. -/
theorem ticks_in_turn_cancelled :
    let before : List Polling.Event := [.poller (.schedule 0 true), .poller (.wake 0)]
    let meanwhile : List Polling.Event := [.poller .pollNow, .poller .cancel]
    let es : List Polling.Event := before ++ [.poller (.resume 0)] ++ meanwhile ++
      [.poller (.zonesAnswered 0 (.error .objectMapping)), .poller (.heatersAnswered 0 (.ok [])),
        .poller (.resume 1), .poller (.zonesAnswered 1 (.ok [])),
        .poller (.heatersAnswered 1 (.ok []))]
    let begun := ((run {} before).1.step (.poller (.resume 0)))
    begun.2 = [.zonesRequested 0] ∧
      milestones (begun.1.run
        (meanwhile ++ [.poller (.zonesAnswered 0 (.error .objectMapping))])).2 =
          [.heatersRequested 0] ∧
      (run {} es).1.poller.phase? 1 = some .finished ∧
      ∃ fault?, milestonesOf 1 (run {} es).2 = wholeTick 1 fault? := by
  intro before meanwhile es begun
  have hbegun : begun.2 = [.zonesRequested 0] := rfl
  have hover : (run {} es).1.poller.phase? 1 = some .finished := rfl
  have first := (ticks_in_turn {} {} 0 before).2.1 (.poller (.resume 0)) 0
    (hbegun ▸ List.mem_singleton_self _)
  have asked := (first.2 meanwhile [] (.error .objectMapping) (.ok []) (by simp [meanwhile])
    (by simp)).1
  have poll := (ticks_in_turn {} {} 0 es).2.2.2 (before ++ [.poller (.resume 0)]) _ rfl
  exact ⟨hbegun, asked, hover, poll.2 hover⟩

end Polling

end HeaterLink
