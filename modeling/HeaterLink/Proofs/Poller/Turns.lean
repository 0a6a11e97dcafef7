import HeaterLink.Proofs.Poller.Step
import Mathlib.Data.List.Nodup

/-!
# Taking turns

At most one task of a poller has the turn, the tasks in line are those of the
queue, each once, and nobody is in line while the turn is free. Only `claim` and
`release` move the turn; a task goes back apart in the step that passes it on.

## Main definitions

* `Poller.Turns`, the invariant.

## Main statements

* `Poller.Turns.step`, every step keeps it, and `Polling.turns_run`, so do runs.
* `Poller.Turns.unique`, two tasks never have the turn at once.
-/

namespace HeaterLink

namespace Poller

variable {p q : Poller} {r : Registry} {now t u : Nat} {task : Task}

structure Turns (p : Poller) : Prop where
  line : ∀ t, t ∈ p.queue ↔ p.place t = .line
  once : p.queue.Nodup
  turn : ∀ t, p.turn? = some t ↔ p.place t = .turn
  free : p.turn? = none → p.queue = []

theorem Turns.unique (h : Turns p) (ht : p.place t = .turn) (hu : p.place u = .turn) : t = u :=
  Option.some.inj (((h.turn t).mpr ht).symm.trans ((h.turn u).mpr hu))

theorem turns_fresh (c : Cadence) : Turns { cadence := c } := by
  refine ⟨?_, by simp, ?_, by simp⟩ <;> simp [place]

/-! ## Changes of place -/

/-- One task changed its place; the turn and the line did not follow yet. -/
structure Moved (p q : Poller) (t : Nat) (place : Place) : Prop where
  own : q.place t = place
  others : ∀ u, u ≠ t → q.place u = p.place u
  turn : q.turn? = p.turn?
  queue : q.queue = p.queue

theorem Moved.refl (p : Poller) (t : Nat) : Moved p p t (p.place t) :=
  ⟨rfl, fun _ _ => rfl, rfl, rfl⟩

theorem Moved.trans {q' : Poller} {place place' : Place} (m : Moved p q t place)
    (m' : Moved q q' t place') : Moved p q' t place' :=
  ⟨m'.own, fun u hu => (m'.others u hu).trans (m.others u hu), m'.turn.trans m.turn,
    m'.queue.trans m.queue⟩

theorem moved_setPhase (ht : t < p.tasks.length) (phase : Phase) :
    Moved p (p.setPhase t phase) t phase.place where
  own := by
    rw [place, getElem?_setPhase, if_pos rfl, List.getElem?_eq_getElem ht]
    rfl
  others u hu := by simp [place, getElem?_setPhase, Ne.symm hu]
  turn := rfl
  queue := rfl

theorem moved_push (p : Poller) (task : Task) :
    Moved p { p with tasks := p.tasks ++ [task] } p.tasks.length task.phase.place where
  own := by simp [place]
  others u hu := by simp [place, getElem?_push, hu]
  turn := rfl
  queue := rfl

/-- After its tick a task is apart, whatever it is. -/
theorem place_restTask (now : Nat) (task : Task) : (restTask now task).phase.place = .apart := by
  unfold restTask
  split
  · rfl
  · by_cases hc : task.cancelled = true <;> simp [hc, Phase.place]

theorem moved_rest (ht : t < p.tasks.length) (now : Nat) : Moved p (p.rest now t) t .apart where
  own := by
    rw [place, getElem?_rest, if_pos rfl, List.getElem?_eq_getElem ht]
    exact place_restTask now _
  others u hu := by simp [place, getElem?_rest, Ne.symm hu]
  turn := rfl
  queue := rfl

@[simp] theorem place_dropJob (p : Poller) (t : Nat) : p.dropJob.place t = p.place t := by
  rw [place, place, getElem?_dropJob, Option.elim_map]
  rfl

@[simp] theorem place_schedule (p : Poller) (now delay t : Nat) (online : Bool) :
    (p.schedule now delay online).place t = p.place t := by
  unfold schedule
  split
  · rfl
  · rw [← place_dropJob p t]
    by_cases ht : t = p.tasks.length
    · simp [place, ht, Phase.place]
    · simp [place, getElem?_push, ht]

@[simp] theorem place_conclude (p : Poller) (r : Registry) (now t : Nat) (wasOnline : Bool)
    (fault? : Option Error) : (p.conclude r now wasOnline fault?).1.place t = p.place t :=
  conclude_keeps (P := fun q => q.place t = p.place t) rfl
    (fun delay online => place_schedule p now delay t online) r wasOnline fault?

/-! ## What keeps the turns -/

theorem Turns.congr (h : Turns p) (hp : ∀ t, q.place t = p.place t) (ht : q.turn? = p.turn?)
    (hq : q.queue = p.queue) : Turns q := by
  refine ⟨fun t => ?_, hq ▸ h.once, fun t => ?_, fun hn => ?_⟩
  · rw [hq, hp]
    exact h.line t
  · rw [ht, hp]
    exact h.turn t
  · rw [hq]
    exact h.free (ht ▸ hn)

/-- A task that goes on without changing its place. -/
theorem Turns.setPhase {phase : Phase} (h : Turns p) (ht : p.tasks[t]? = some task)
    (hp : phase.place = task.phase.place) : Turns (p.setPhase t phase) := by
  have m := moved_setPhase (lt_length ht) phase
  refine h.congr (fun u => ?_) rfl rfl
  by_cases hu : u = t
  · rw [hu, m.own, place_eq ht, hp]
  · exact m.others u hu

theorem Turns.schedule (h : Turns p) (now delay : Nat) (online : Bool) :
    Turns (p.schedule now delay online) := h.congr (by simp) (by simp) (by simp)

theorem Turns.cancel (h : Turns p) : Turns p.cancel :=
  (h.congr (by simp) (by simp) (by simp) : Turns p.dropJob).congr (fun _ => rfl) rfl rfl

theorem Turns.conclude (h : Turns p) (r : Registry) (now : Nat) (wasOnline : Bool)
    (fault? : Option Error) : Turns (p.conclude r now wasOnline fault?).1 :=
  conclude_keeps h (h.schedule now) r wasOnline fault?

/-- A task that was apart takes the turn or the last place in line. -/
theorem Turns.claim {place : Place} (h : Turns p) (m : Moved p q t place)
    (ha : p.place t = .apart) (ht : t < q.tasks.length) : Turns (q.claim t) := by
  have hq : t ∉ p.queue := fun hm => by simp [(h.line t).mp hm] at ha
  unfold Poller.claim
  split
  · rename_i hn
    have hfree : p.turn? = none := m.turn.symm.trans hn
    have hnil : p.queue = [] := h.free hfree
    obtain ⟨own, others, -, -⟩ := m.trans (moved_setPhase ht .granted)
    refine ⟨fun u => ?_, ?_, fun u => ?_, by simp⟩
    · have := h.line u
      change u ∈ q.queue ↔ (q.setPhase t .granted).place u = .line
      rw [m.queue]
      grind [Phase.place]
    · change q.queue.Nodup
      rw [m.queue]
      exact h.once
    · have := h.turn u
      change some t = some u ↔ (q.setPhase t .granted).place u = .turn
      grind [Phase.place]
  · rename_i s hs
    obtain ⟨own, others, -, -⟩ := m.trans (moved_setPhase ht .waiting)
    refine ⟨fun u => ?_, ?_, fun u => ?_, by simp [hs]⟩
    · have := h.line u
      change u ∈ q.queue ++ [t] ↔ (q.setPhase t .waiting).place u = .line
      rw [m.queue]
      grind [Phase.place]
    · change (q.queue ++ [t]).Nodup
      rw [m.queue]
      exact h.once.append (List.nodup_singleton t) (List.disjoint_singleton.mpr hq)
    · have := h.turn u
      change q.turn? = some u ↔ (q.setPhase t .waiting).place u = .turn
      rw [m.turn]
      grind [Phase.place]

/-- The task that had the turn went apart, so the turn can go on. -/
theorem Turns.release (h : Turns p) (m : Moved p q t .apart) (ht : p.place t = .turn) :
    Turns q.release := by
  have hturn : p.turn? = some t := (h.turn t).mpr ht
  obtain ⟨own, others, -, hq⟩ := m
  have once := h.once
  unfold Poller.release
  split
  · rename_i hn
    refine ⟨fun u => ?_, ?_, fun u => ?_, fun _ => hn⟩
    · have := h.line u
      change u ∈ q.queue ↔ q.place u = .line
      grind
    · change q.queue.Nodup
      rw [hn]
      exact List.nodup_nil
    · have := h.turn u
      change none = some u ↔ q.place u = .turn
      grind
  · rename_i w rest hw
    rw [← hq, hw] at once
    have hl : p.place w = .line := (h.line w).mp (by simp [← hq, hw])
    have hwt : w ≠ t := fun e => by simp [e, ht] at hl
    have hlt : w < q.tasks.length := lt_length_of_place (by simp [others w hwt, hl])
    obtain ⟨own', others', -, -⟩ := moved_setPhase hlt .granted
    refine ⟨fun u => ?_, (List.nodup_cons.mp once).2, fun u => ?_, by simp⟩
    · have := h.line u
      change u ∈ rest ↔ (q.setPhase w .granted).place u = .line
      grind [Phase.place]
    · have := h.turn u
      change some w = some u ↔ (q.setPhase w .granted).place u = .turn
      grind [Phase.place]

/-- The task that had the turn ends its tick. -/
theorem Turns.finish (h : Turns p) (ht : p.place t = .turn) (r : Registry) (now : Nat)
    (wasOnline : Bool) (fault? : Option Error) :
    Turns ((p.conclude r now wasOnline fault?).1.rest now t).release := by
  have hc := (place_conclude p r now t wasOnline fault?).trans ht
  have hlt := lt_length_of_place (by rw [hc]; exact nofun)
  exact (h.conclude r now wasOnline fault?).release (moved_rest hlt now) hc

/-! ## Steps -/

theorem Turns.step {e : Event} {st : Stepped} (h : Turns p) (m : Moves p r now e st) :
    Turns st.poller := by
  cases m with
  | schedule delay online => exact h.schedule now delay online
  | pollNow =>
    have ha : p.place p.tasks.length = .apart := by simp [place]
    exact h.claim (moved_push p _) ha (by simp)
  | cancel => exact h.cancel
  | idle => exact h
  | quit ht hp => exact h.setPhase ht (by rw [hp]; rfl)
  | claim ht hp => exact h.claim (Moved.refl p _) (place_of_phase ht hp) (lt_length ht)
  | decline ht hp =>
    exact h.release (moved_setPhase (lt_length ht) .finished) (place_of_phase ht hp)
  | begin ht hp => exact h.setPhase ht (by rw [hp]; rfl)
  | zones answer ht hp => exact h.setPhase ht (by rw [hp]; rfl)
  | finish answer ht hp => exact h.finish (place_of_phase ht hp) r now _ _

end Poller

theorem Polling.turns_run {s : Polling} (h : s.poller.Turns) (es : List Polling.Event) :
    (s.run es).1.poller.Turns := Polling.run_keeps_poller (fun _ _ _ _ _ _ h m => h.step m) h

end HeaterLink
