import HeaterLink.Proofs.Poller.Turns

/-!
# Ticks under way

A tick holds on to what it took from the registry when it began, and as long as
it is under way nothing but a host can change the job: to end another tick its
task would need the turn. So at the end of a tick the interval is still the one
that the tick began with, and only `conclude` decides what becomes of it.

## Main definitions

* `Poller.tick?`, what the tick of a task began with, while it is under way.
* `Poller.Lags`, an account that is online while its job sleeps for the offline interval.

## Main statements

* `Poller.Moves.carries`, a tick that is under way after a step.
* `Poller.Moves.ticked`, the interval after a tick has ended.
* `Poller.Moves.lags`, no step of a poller makes it lag.
-/

namespace HeaterLink

namespace Poller

variable {p q : Poller} {r : Registry} {now t u : Nat} {task : Task} {tick : Tick}
  {e : Event} {st : Stepped}

def Phase.tick? : Phase → Option Tick
  | .fetchingZones tick | .fetchingHeaters tick _ => some tick
  | _ => none

/-- What the tick of a task began with, while it is under way. -/
def tick? (p : Poller) (t : Nat) : Option Tick := p.tasks[t]?.bind fun task => task.phase.tick?

theorem tick?_eq (ht : p.tasks[t]? = some task) : p.tick? t = task.phase.tick? := by
  simp [tick?, ht]

theorem place_of_tick? (h : p.tick? t = some tick) : p.place t = .turn := by
  cases ht : p.tasks[t]? with
  | none => simp [tick?, ht] at h
  | some task =>
    rw [tick?_eq ht] at h
    rw [place_eq ht]
    cases hp : task.phase with
    | fetchingZones | fetchingHeaters => rfl
    | _ => simp [hp, Phase.tick?] at h

/-- Called by a host, and not by the runtime. -/
def Event.IsHost : Event → Prop
  | .schedule .. | .cancel => True
  | _ => False

/-! ## Changes that begin no tick -/

/-- Whatever is under way in `q` was so in `p`. -/
def Carries (p q : Poller) : Prop := ∀ t tick, q.tick? t = some tick → p.tick? t = some tick

theorem Carries.trans {p' : Poller} (h : Carries p q) (h' : Carries q p') : Carries p p' :=
  fun t tick ht => h t tick (h' t tick ht)

theorem carries_setPhase {phase : Phase} (p : Poller) (t : Nat) (hp : phase.tick? = none) :
    Carries p (p.setPhase t phase) := by
  intro u tick hu
  by_cases htu : t = u
  · subst htu
    simp only [tick?, getElem?_setPhase, if_true, Option.bind_map, Function.comp_def, hp] at hu
    simp at hu
  · simpa [tick?, getElem?_setPhase, htu] using hu

theorem carries_claim (p : Poller) (t : Nat) : Carries p (p.claim t) := by
  unfold claim
  split
  · exact carries_setPhase p t rfl
  · exact carries_setPhase p t rfl

theorem carries_release (p : Poller) : Carries p p.release := by
  unfold release
  split
  · exact fun _ _ h => h
  · exact carries_setPhase p _ rfl

theorem carries_push (p : Poller) (hp : task.phase.tick? = none) :
    Carries p { p with tasks := p.tasks ++ [task] } := by
  intro u tick hu
  by_cases ht : u = p.tasks.length
  · simp [tick?, ht, hp] at hu
  · simpa [tick?, getElem?_push, ht] using hu

theorem carries_dropJob (p : Poller) : Carries p p.dropJob := by
  intro u tick hu
  rwa [tick?, getElem?_dropJob, Option.bind_map] at hu

theorem carries_schedule (p : Poller) (now delay : Nat) (online : Bool) :
    Carries p (p.schedule now delay online) := by
  unfold schedule
  split
  · exact fun _ _ h => h
  · exact (carries_dropJob p).trans (carries_push p.dropJob rfl)

theorem carries_conclude (p : Poller) (r : Registry) (now : Nat) (wasOnline : Bool)
    (fault? : Option Error) : Carries p (p.conclude r now wasOnline fault?).1 :=
  conclude_keeps (P := Carries p) (fun _ _ h => h) (carries_schedule p now) r wasOnline fault?

theorem carries_rest (p : Poller) (now t : Nat) : Carries p (p.rest now t) := by
  intro u tick hu
  by_cases htu : t = u
  · subst htu
    cases ht : p.tasks[t]? with
    | none => simp [tick?, getElem?_rest, ht] at hu
    | some task =>
      have hr := place_of_tick? hu
      rw [place_eq (by rw [getElem?_rest, if_pos rfl, ht]; rfl), place_restTask] at hr
      exact nomatch hr
  · simpa [tick?, getElem?_rest, htu] using hu

/-- A tick that ends its task is not under way any more. -/
theorem tick?_rest_self (p : Poller) (now t : Nat) : (p.rest now t).tick? t = none := by
  cases h : (p.rest now t).tick? t with
  | none => rfl
  | some tick =>
    have hp := place_of_tick? h
    have ht := lt_length_of_place (by rw [hp]; exact nofun)
    rw [(moved_rest (by simpa using ht) now).own] at hp
    exact nomatch hp

theorem currentInterval?_schedule (hs : p.stopped = false) (now delay : Nat) (online : Bool) :
    (p.schedule now delay online).currentInterval? = some (p.cadence.interval online) := by
  simp [schedule, hs, currentInterval?]

/-- What follows the conclusion of a tick leaves the job alone. -/
theorem currentInterval?_end (p : Poller) (now t : Nat) :
    (p.rest now t).release.currentInterval? = p.currentInterval? := by
  simp [currentInterval?]

/-! ## Steps -/

/-- A tick that is under way after a step was so before it, or begins with it; in both cases
the step leaves the job alone. -/
theorem Moves.carries (m : Moves p r now e st) (turns : Turns p) (he : ¬ e.IsHost)
    (ht : st.poller.tick? t = some tick) :
    st.poller.job? = p.job? ∧
      (p.tick? t = some tick ∧ .zonesRequested t ∉ st.notices ∨
        tick = .ofRegistry r ∧ .zonesRequested t ∈ st.notices) := by
  cases m with
  | schedule | cancel => exact absurd trivial he
  | pollNow =>
    have hc : Carries p p.pollNow := (carries_push p rfl).trans (carries_claim _ p.tasks.length)
    exact ⟨claim_job? .., .inl ⟨hc t tick ht, nofun⟩⟩
  | idle => exact ⟨rfl, .inl ⟨ht, nofun⟩⟩
  | quit => exact ⟨rfl, .inl ⟨carries_setPhase p _ rfl t tick ht, nofun⟩⟩
  | claim => exact ⟨claim_job? .., .inl ⟨carries_claim p _ t tick ht, nofun⟩⟩
  | @decline u =>
    have hc : Carries p (p.setPhase u .finished).release :=
      (carries_setPhase p u rfl).trans (carries_release _)
    exact ⟨release_job? .., .inl ⟨hc t tick ht, nofun⟩⟩
  | @begin u task hu hp =>
    refine ⟨rfl, ?_⟩
    by_cases htu : u = t
    · subst htu
      simp only [tick?, getElem?_setPhase, if_true, hu, Option.map_some, Option.bind_some,
        Phase.tick?, Option.some.injEq] at ht
      exact .inr ⟨ht.symm, by simp⟩
    · refine .inl ⟨?_, by simp [Ne.symm htu]⟩
      simpa [tick?, getElem?_setPhase, htu] using ht
  | @zones u task _ answer hu hp =>
    refine ⟨rfl, .inl ⟨?_, by simp⟩⟩
    by_cases htu : u = t
    · subst htu
      simpa [tick?, getElem?_setPhase, hu, hp, Phase.tick?] using ht
    · simpa [tick?, getElem?_setPhase, htu] using ht
  | @finish u task _ _ answer hu hp =>
    -- Two ticks would be under way at once.
    exfalso
    have hrest := carries_release _ t tick ht
    have hwas := carries_conclude p r now _ _ t tick (carries_rest _ now u t tick hrest)
    obtain rfl := turns.unique (place_of_tick? hwas) (place_of_phase hu hp)
    rw [tick?_rest_self] at hrest
    exact nomatch hrest

/-- At its end a tick leaves the interval as it is if it went well and the account was online
when it began, and else sets the one that its outcome calls for. -/
theorem Moves.ticked {fault? : Option Error} (m : Moves p r now e st) (hs : p.stopped = false)
    (ht : .ticked t fault? ∈ st.notices) :
    ∃ tick, p.tick? t = some tick ∧
      st.poller.currentInterval? =
        if fault? = none ∧ tick.wasOnline = true then p.currentInterval?
        else some (p.cadence.interval fault?.isNone) := by
  cases m with
  | zones => simp at ht
  | @finish u task tick zoneFault? answer hu hp =>
    simp only [List.mem_append, List.mem_map, reduceCtorEq, and_false, exists_false,
      List.mem_singleton, Notice.ticked.injEq, false_or] at ht
    obtain ⟨rfl, rfl⟩ := ht
    refine ⟨tick, by rw [tick?_eq hu, hp]; rfl, ?_⟩
    generalize zoneFault?.or (Poller.fault? answer) = fault?
    rw [currentInterval?_end]
    rcases conclude_cases p r now tick.wasOnline fault? with
      ⟨hf, hw, hc⟩ | ⟨hf, hw, hc⟩ | ⟨e, hf, hc⟩
    · rw [hc, if_pos ⟨hf, hw⟩]
    · rw [hc, currentInterval?_schedule hs, hf]
      simp [hw]
    · rw [hc, currentInterval?_schedule hs, hf]
      simp
  | begin => simp at ht
  | _ => exact nomatch ht

/-! ## Lagging -/

/-- The account is online, and all the same the job sleeps for the offline interval. -/
def Lags (p : Poller) (r : Registry) : Prop :=
  r.isOnline = true ∧ p.currentInterval? = some p.cadence.offline

theorem Moves.lags (m : Moves p r now e st) (hs : p.stopped = false) (he : ¬ e.IsHost)
    (hd : p.cadence.online ≠ p.cadence.offline) (h : st.poller.Lags st.registry) :
    p.Lags r := by
  obtain ⟨hr, hi⟩ := h
  cases m with
  | schedule | cancel => exact absurd trivial he
  | @finish u task tick zoneFault? answer hu hp =>
    rw [currentInterval?_end, release_cadence, rest_cadence, conclude_cadence] at hi
    rcases conclude_cases p r now tick.wasOnline (zoneFault?.or (Poller.fault? answer)) with
      ⟨-, -, hc⟩ | ⟨-, -, hc⟩ | ⟨e, -, hc⟩
    · rw [hc] at hr hi
      exact ⟨hr, hi⟩
    · rw [hc, currentInterval?_schedule hs] at hi
      exact absurd (Option.some.inj hi) hd
    · rw [hc] at hr
      exact nomatch hr
  | _ => exact ⟨hr, by simpa [currentInterval?, Poller.pollNow] using hi⟩

end Poller

end HeaterLink
