import HeaterLink.Proofs.Account.Step
import HeaterLink.Proofs.Poller.LiveJob
import HeaterLink.Proofs.Poller.Ticks

/-!
# The interval of a bridge

Two writers set the status of a bridge to online: a tick that went well, which
puts the job on the online interval in the same breath, and a target that was
set, which leaves the job as it is. A tick that begins after the second finds
nothing to change, and so the account stays on the offline interval for as long
as its ticks go well. Here is what holds all the same, and that nothing else
goes wrong.

## Main definitions

* `Account.Bridge.Lagging`, online but polling at the offline interval.
* `Account.Bridge.beganIn?`, the state in which the tick of a task began.
* `Account.Bridge.RaisedIn`, runs in which a target that was set made a bridge online.

## Main statements

* `Account.Bridge.interval_after_tick`, when the interval after a tick is the one that its
  outcome calls for.
-/

namespace HeaterLink.Account.Bridge

open Poller

variable {b : Bridge} {i t n : Nat} {e : Event}

/-- The interval of the active job. -/
def interval? (b : Bridge) : Option Nat := b.link?.bind fun link => link.poller.currentInterval?

/-- The bridge is online, and all the same it polls at the offline interval. -/
def Lagging (b : Bridge) : Prop :=
  b.registry.isOnline = true ∧ b.interval? = some (cadence b.config).offline

/-- A tick of this task begins. -/
def Notice.Begins (i t : Nat) : Notice → Prop
  | .waiting (.zones j u) _ => j = i ∧ u = t
  | _ => False

instance (n : Notice) : Decidable (n.Begins i t) := by
  unfold Notice.Begins
  split <;> infer_instance

/-- The state in which the latest tick of this task began, given the one before the run. -/
def beganIn? (i t : Nat) (b : Bridge) (last? : Option Bridge) : List Event → Option Bridge
  | [] => last?
  | e :: es =>
    beganIn? i t (b.step e).1 (if ∃ n ∈ (b.step e).2, n.Begins i t then some b else last?) es

/-- A target that was set makes the bridge online. -/
def Raises (b : Bridge) : Event → Prop
  | .answered (.operation place) outcome =>
    ∃ call zone, b.operations[place]? = some (some (.setTarget call)) ∧
      call.receive outcome = .ok zone ∧ b.registry.isOnline = false
  | _ => False

def RaisedIn (b : Bridge) : List Event → Prop
  | [] => False
  | e :: es => b.Raises e ∨ RaisedIn (b.step e).1 es

/-- Neither the end of the bridge nor a status that somebody else sets. -/
def Event.isOwn : Event → Bool
  | .dispose | .registry (.setStatus _) => false
  | _ => true

/-! ## The poller in use -/

/-- What is true of a poller that was scheduled and is looked after by a bridge. -/
structure Tended (c : Cadence) (p : Poller) : Prop where
  turns : Turns p
  oneJob : OneJob p
  scheduled : p.isScheduled = true
  running : p.stopped = false
  cadence : p.cadence = c

theorem tended_fresh (c : Cadence) (now delay : Nat) (online : Bool) :
    Tended c (Poller.schedule { cadence := c } now delay online) where
  turns := (turns_fresh c).schedule now delay online
  oneJob := (oneJob_fresh c).schedule now delay online
  scheduled := isScheduled_schedule rfl now delay online
  running := rfl
  cadence := rfl

theorem Tended.step {c : Cadence} {p : Poller} {r : Registry} {now : Nat} {pe : Poller.Event}
    {st : Stepped} (h : Tended c p) (m : Poller.Moves p r now pe st) (he : ¬ pe.IsHost) :
    Tended c st.poller where
  turns := h.turns.step m
  oneJob := h.oneJob.step h.turns m
  scheduled := m.isScheduled (fun hc => he (hc ▸ trivial)) h.scheduled
  running := (m.stopped fun hc => he (hc ▸ trivial)).trans h.running
  cadence := m.cadence.trans h.cadence

theorem Tended.interval {c : Cadence} {p : Poller} (h : Tended c p) :
    ∃ online, p.currentInterval? = some (c.interval online) := by
  obtain ⟨job, hj⟩ := Option.isSome_iff_exists.mp h.scheduled
  obtain ⟨online, hi⟩ := h.oneJob.interval job hj
  exact ⟨online, by rw [currentInterval?, hj, Option.map_some, hi, h.cadence]⟩

theorem Drives.not_isHost {client : Cloud.Client} {pe : Poller.Event} (h : Drives i client e pe) :
    ¬ pe.IsHost := by
  cases h <;> exact id

/-! ## Before and after the sign-in -/

/-- How far a bridge has come that can begin `n` more sign-ins, one in all. -/
inductive Stage (b : Bridge) (n : Nat) : Prop where
  | before (hl : b.links = []) (hc : b.connected? = none) (hn : b.signIns + n ≤ 1)
  | after {link : Link} (hl : b.links = [link]) (hc : b.connected? = some 0)
      (ht : Tended (cadence b.config) link.poller) (hn : b.signIns + n = 0)

theorem Stage.congr {b' : Bridge} {n' : Nat} (h : Stage b n) (hl : b'.links = b.links)
    (hc : b'.connected? = b.connected?) (hg : b'.config = b.config)
    (hn : b'.signIns + n' ≤ b.signIns + n) : Stage b' n' := by
  cases h with
  | before hl' hc' hn' => exact .before (hl.trans hl') (hc.trans hc') (Nat.le_trans hn hn')
  | after hl' hc' ht hn' =>
    exact .after (hl.trans hl') (hc.trans hc') (hg ▸ ht) (Nat.le_zero.mp (hn' ▸ hn))

/-- Only the link in use can be moved. -/
theorem Stage.link {link : Link} (h : Stage b n) (hl : b.links[i]? = some link) :
    i = 0 ∧ b.links = [link] ∧ b.connected? = some 0 ∧ Tended (cadence b.config) link.poller ∧
      b.signIns + n = 0 := by
  cases h with
  | before hl' => simp [hl'] at hl
  | after hl' hc ht hn =>
    rw [hl'] at hl
    cases i with
    | zero =>
      obtain rfl := Option.some.inj hl
      exact ⟨rfl, hl', hc, ht, hn⟩
    | succ i => simp at hl

theorem interval?_link {link : Link} (hl : b.links = [link]) (hc : b.connected? = some 0) :
    b.interval? = link.poller.currentInterval? := by
  simp [interval?, link?, hl, hc]

theorem updatePoller_links {link : Link} (hl : b.links = [link]) (p : Poller) :
    (b.updatePoller 0 fun _ => p).links = [{ link with poller := p }] := by
  simp [updatePoller, hl]

theorem interval?_congr {b' : Bridge} (hl : b'.links = b.links)
    (hc : b'.connected? = b.connected?) : b'.interval? = b.interval? := by
  simp [interval?, link?, hl, hc]

/-- The bridge right after its only sign-in. -/
theorem install_fresh (hl : b.links = []) (hc : b.connected? = none) (client : Cloud.Client) :
    (b.install client).links =
        [⟨client, Poller.schedule { cadence := cadence b.config } b.now
          (milliseconds b.config.initialDelaySecs) true⟩] ∧
      (b.install client).connected? = some 0 ∧ (b.install client).config = b.config := by
  simp [install, disconnect, hl, hc]

/-! ## Steps -/

theorem install_signIns (b : Bridge) (client : Cloud.Client) :
    (b.install client).signIns = b.signIns := by
  rw [signIns, install_operations, signIns]

theorem Stage.step (h : Stage b (e.isSignIn.toNat + n)) (ho : e.isOwn = true) :
    Stage (b.step e).1 n := by
  have m := b.step_moves e
  have hn := m.signIns
  rcases m.frame with hf | ⟨i, link, pe, st, hl, he, pm, hs⟩ | ⟨b', client, he, hs⟩ | rfl
  · exact h.congr hf.links hf.connected hf.config (by omega)
  · obtain ⟨rfl, hl, hc, ht, hz⟩ := h.link hl
    have hcfg := m.config
    rw [hs] at hcfg hn ⊢
    exact .after (updatePoller_links hl _) hc (hcfg ▸ ht.step pm he.not_isHost) (by omega)
  · have hlast := he.signIns
    obtain ⟨hl', hc', hg'⟩ := he.frame
    cases h with
    | before hl hc hz =>
      obtain ⟨hlinks, hconn, hcfg⟩ := install_fresh (hl'.trans hl) (hc'.trans hc) client
      rw [hs]
      refine .after hlinks hconn (hcfg ▸ tended_fresh (cadence b'.config) _ _ _) ?_
      have := b'.install_signIns client
      simp only [signedIn, this]
      omega
    | after _ _ _ hz => omega
  · simp [Event.isOwn] at ho

theorem Notice.Begins.ofPoller {m : Notice} (h : m.Begins i t) : m.OfPoller := by
  cases m with
  | waiting waiter =>
    cases waiter with
    | zones => trivial
    | _ => exact h.elim
  | _ => exact h.elim

theorem begins_notice {j : Nat} {client : Cloud.Client} {pn : Poller.Notice} :
    (notice j client pn).Begins i t ↔ j = i ∧ pn = .zonesRequested t := by
  cases pn <;> simp [notice, Notice.Begins]

theorem notice_eq_ticked {j : Nat} {client : Cloud.Client} {pn : Poller.Notice}
    {fault? : Option Error} :
    notice j client pn = .ticked i t fault? ↔ j = i ∧ pn = .ticked t fault? := by
  cases pn <;> simp [notice]

/-- The last state on record is the one that the tick under way began in, and the interval is
still the same. -/
def Recorded (i t : Nat) (b : Bridge) (last? : Option Bridge) : Prop :=
  ∀ link tick, b.links[i]? = some link → link.poller.tick? t = some tick →
    ∃ b₁, last? = some b₁ ∧ b₁.config = b.config ∧ tick.wasOnline = b₁.registry.isOnline ∧
      b₁.interval? = b.interval?

theorem Recorded.step {last? : Option Bridge} (h : Recorded i t b last?)
    (hst : Stage b (e.isSignIn.toNat + n)) (ho : e.isOwn = true) :
    Recorded i t (b.step e).1
      (if ∃ m ∈ (b.step e).2, m.Begins i t then some b else last?) := by
  have m := b.step_moves e
  rcases m.frame with hf | ⟨j, own, pe, st, hj, he, pm, hs⟩ | ⟨b', client, he, hs⟩ | rfl
  · have hq : ¬ ∃ m ∈ (b.step e).2, m.Begins i t := by
      rintro ⟨m, hm, hb⟩
      exact hf.quiet m hm hb.ofPoller
    rw [if_neg hq]
    intro link tick hl ht
    rw [hf.links] at hl
    rw [hf.config, interval?_congr hf.links hf.connected]
    exact h link tick hl ht
  · obtain ⟨rfl, hl, hc, ht, hz⟩ := hst.link hj
    have hst' : Stage (b.step e).1 n := hst.step ho
    intro link tick hlink htick
    obtain ⟨rfl, hl', hc', -, -⟩ := hst'.link hlink
    have hown : link = { own with poller := st.poller } := by
      rw [hs] at hl'
      exact (List.cons.inj (hl'.symm.trans (updatePoller_links hl _))).1
    have hcfg := m.config
    rw [hown] at htick
    obtain ⟨hjob, hcase⟩ := pm.carries ht.turns he.not_isHost htick
    have hi : (b.step e).1.interval? = b.interval? := by
      rw [interval?_link hl' hc', interval?_link hl hc, hown, currentInterval?, hjob,
        currentInterval?]
    have hbegins : (∃ m ∈ (b.step e).2, m.Begins 0 t) ↔ .zonesRequested t ∈ st.notices := by
      simp [hs, begins_notice]
    rw [hi, hcfg]
    rcases hcase with ⟨hwas, hq⟩ | ⟨rfl, hq⟩
    · rw [if_neg (hbegins.not.mpr hq)]
      exact h own tick hj hwas
    · rw [if_pos (hbegins.mpr hq)]
      exact ⟨b, rfl, rfl, rfl, rfl⟩
  · obtain ⟨hl', hc', -⟩ := he.frame
    have hlast := he.signIns
    cases hst with
    | after _ _ _ hz => omega
    | before hl hc =>
      obtain ⟨hlinks, -, -⟩ := install_fresh (hl'.trans hl) (hc'.trans hc) client
      intro link tick hlink htick
      rw [hs, signedIn, hlinks] at hlink
      cases i with
      | zero =>
        obtain rfl := Option.some.inj hlink
        have := carries_schedule _ _ _ _ t tick htick
        simp [tick?] at this
      | succ i => simp at hlink
  · simp [Event.isOwn] at ho

/-- Only a target that was set makes a bridge lag. -/
theorem Moves.lagging {after : Bridge × List Notice} (m : Moves b e after) (h : Stage b n)
    (ho : e.isOwn = true) (hd : (cadence b.config).online ≠ (cadence b.config).offline)
    (hl : after.1.Lagging) : b.Lagging ∨ b.Raises e := by
  cases m with
  | @poller _ _ link _ st hlink he pm =>
    obtain ⟨rfl, hlinks, hc, ht, -⟩ := h.link hlink
    obtain ⟨hon, hi⟩ := hl
    have hi' := (interval?_link (updatePoller_links hlinks st.poller) hc).symm.trans hi
    have lags : st.poller.Lags st.registry := ⟨hon, by rwa [pm.cadence, ht.cadence]⟩
    obtain ⟨hon, hi⟩ := pm.lags ht.running he.not_isHost (ht.cadence ▸ hd) lags
    exact .inl ⟨hon, by rwa [interval?_link hlinks hc, ← ht.cadence]⟩
  | signInFailed he => exact absurd hl.1 Bool.false_ne_true
  | signInDone he => exact absurd hl.1 Bool.false_ne_true
  | @target place call outcome hplace =>
    simp only [proceed] at hl
    cases hr : call.receive outcome with
    | error error =>
      rw [hr] at hl
      exact .inl hl
    | ok zone =>
      cases hon : b.registry.isOnline with
      | true =>
        rw [hr, targetSet, if_pos (show (b.close place).registry.isOnline = true from hon)] at hl
        exact .inl hl
      | false => exact .inr ⟨call, zone, hplace, hr, hon⟩
  | dispose => simp [Event.isOwn] at ho
  | registry change =>
    cases change with
    | setStatus bridge => simp [Event.isOwn] at ho
    | _ => exact .inl hl
  | _ => exact .inl hl

/-! ## Runs -/

theorem countP_isSignIn_cons (e : Event) (es : List Event) :
    (e :: es).countP Event.isSignIn = e.isSignIn.toNat + es.countP Event.isSignIn := by
  rw [List.countP_cons, Nat.add_comm]
  cases e.isSignIn <;> rfl

section Runs

variable {es : List Event}

theorem Stage.run (h : Stage b (es.countP Event.isSignIn)) (ho : ∀ e ∈ es, e.isOwn = true) :
    Stage (b.run es).1 0 := by
  induction es generalizing b with
  | nil => exact h
  | cons e es ih =>
    rw [countP_isSignIn_cons] at h
    exact ih (h.step (ho e List.mem_cons_self)) fun e he => ho e (List.mem_cons_of_mem _ he)

theorem config_run (b : Bridge) (es : List Event) : (b.run es).1.config = b.config := by
  induction es generalizing b with
  | nil => rfl
  | cons e es ih => exact (ih _).trans (b.step_moves e).config

theorem Recorded.run {last? : Option Bridge} (h : Recorded i t b last?)
    (hst : Stage b (es.countP Event.isSignIn)) (ho : ∀ e ∈ es, e.isOwn = true) :
    Recorded i t (b.run es).1 (beganIn? i t b last? es) := by
  induction es generalizing b last? with
  | nil => exact h
  | cons e es ih =>
    rw [countP_isSignIn_cons] at hst
    have he := ho e List.mem_cons_self
    exact ih (h.step hst he) (hst.step he) fun e he => ho e (List.mem_cons_of_mem _ he)

/-- In a run in which no target makes the bridge online, no tick begins in a lagging state. -/
theorem not_lagging_beganIn? {last? : Option Bridge} (hst : Stage b (es.countP Event.isSignIn))
    (ho : ∀ e ∈ es, e.isOwn = true)
    (hd : (cadence b.config).online ≠ (cadence b.config).offline) (hb : ¬ b.Lagging)
    (hlast : ∀ b₁, last? = some b₁ → ¬ b₁.Lagging) (hr : ¬ b.RaisedIn es) :
    ∀ b₁, beganIn? i t b last? es = some b₁ → ¬ b₁.Lagging := by
  induction es generalizing b last? with
  | nil => exact hlast
  | cons e es ih =>
    rw [countP_isSignIn_cons] at hst
    have he := ho e List.mem_cons_self
    obtain ⟨hr, hrs⟩ := not_or.mp hr
    refine ih (hst.step he) (fun e he => ho e (List.mem_cons_of_mem _ he)) ?_ ?_ ?_ hrs
    · rwa [(b.step_moves e).config]
    · intro hl
      rcases (b.step_moves e).lagging hst he hd hl with hl | hl
      · exact hb hl
      · exact hr hl
    · intro b₁ h₁
      split at h₁
      · obtain rfl := Option.some.inj h₁
        exact hb
      · exact hlast b₁ h₁

end Runs

/-! ## The end of a tick -/

/-- Where the state is known that a tick began in, so is the interval at its end. -/
theorem Stage.ended {last? : Option Bridge} {fault? : Option Error} (h : Stage b n)
    (hrec : Recorded i t b last?)
    (hd : (cadence b.config).online ≠ (cadence b.config).offline)
    (ht : .ticked i t fault? ∈ (b.step e).2) :
    ∃ b₁, last? = some b₁ ∧
      ((b.step e).1.interval? = some ((cadence b.config).interval fault?.isNone) ↔
        ¬ (fault? = none ∧ b₁.Lagging)) := by
  rcases (b.step_moves e).frame with
    hf | ⟨j, link, pe, st, hj, he, pm, hs⟩ | ⟨b', client, he, hs⟩ | rfl
  · exact absurd trivial (hf.quiet _ ht)
  · obtain ⟨rfl, hl, hc, htended, -⟩ := h.link hj
    rw [hs] at ht
    obtain ⟨pn, hpn, hnotice⟩ := List.mem_map.mp ht
    obtain ⟨rfl, rfl⟩ := notice_eq_ticked.mp hnotice
    obtain ⟨tick, htick, hafter⟩ := pm.ticked htended.running hpn
    obtain ⟨b₁, hlast, hcfg, hwas, hinterval⟩ := hrec link tick hj htick
    obtain ⟨online, hi⟩ := htended.interval
    have hmoved : (b.step e).1.interval? = st.poller.currentInterval? := by
      rw [hs]
      exact interval?_link (updatePoller_links hl _) hc
    refine ⟨b₁, hlast, ?_⟩
    rw [hmoved, hafter, Lagging, hinterval, interval?_link hl hc, hi, hcfg, ← hwas,
      htended.cadence]
    by_cases hgood : fault? = none ∧ tick.wasOnline = true
    · -- Nothing was changed, so the interval is right if it was right when the tick began.
      rw [if_pos hgood, hgood.1, hgood.2]
      cases online with
      | true => simp [Cadence.interval, hd]
      | false => simp [Cadence.interval, Ne.symm hd]
    · rw [if_neg hgood]
      simp only [true_iff]
      exact fun hlag => hgood ⟨hlag.1, hlag.2.1⟩
  · rw [hs] at ht
    simp [signedIn] at ht
  · simp [Bridge.step] at ht

theorem cadence_differs {config : Config}
    (hd : config.pollIntervalSecs ≠ config.offlinePollIntervalSecs) :
    (cadence config).online ≠ (cadence config).offline := by
  intro h
  refine hd (UInt64.toNat_inj.mp ?_)
  simp only [cadence, milliseconds] at h
  omega

/-- A bridge as it is made. -/
def fresh (config : Config) (environment : Environment) (registry : Registry) (now : Nat) :
    Bridge :=
  { config := config, environment := environment, registry := registry, now := now }

/-- After a tick that failed, the job has the offline interval; after one that went well it has
the online interval, unless the tick began in a lagging state, and then it has not. Nothing
makes a bridge lag but a target that was set while it was not online. -/
theorem interval_after_tick {config : Config} (environment : Environment) (registry : Registry)
    (now : Nat) {es : List Event} {e : Event} {i t : Nat} {fault? : Option Error}
    (hd : config.pollIntervalSecs ≠ config.offlinePollIntervalSecs)
    (hone : es.countP Event.isSignIn ≤ 1) (ho : ∀ e ∈ es, e.isOwn = true)
    (ht : .ticked i t fault? ∈ (((fresh config environment registry now).run es).1.step e).2) :
    ∃ b₁, beganIn? i t (fresh config environment registry now) none es = some b₁ ∧
      ((((fresh config environment registry now).run es).1.step e).1.interval? =
          some ((cadence config).interval fault?.isNone) ↔
        ¬ (fault? = none ∧ b₁.Lagging)) ∧
      (¬ (fresh config environment registry now).RaisedIn es → ¬ b₁.Lagging) := by
  let b := fresh config environment registry now
  have hd' : (cadence b.config).online ≠ (cadence b.config).offline := cadence_differs hd
  have hst : Stage b (es.countP Event.isSignIn) :=
    .before rfl rfl (by simpa [b, fresh, signIns] using hone)
  have hrec : Recorded i t b none := by
    intro link tick hl
    simp [b, fresh] at hl
  have hcfg := b.config_run es
  obtain ⟨b₁, hlast, hiff⟩ :=
    (hst.run ho).ended (hrec.run hst ho) (by rwa [hcfg]) ht
  rw [hcfg] at hiff
  refine ⟨b₁, hlast, hiff, fun hr => ?_⟩
  have hb : ¬ b.Lagging := by
    intro hl
    simp [b, fresh, Lagging, interval?, link?] at hl
  exact not_lagging_beganIn? hst ho hd' hb (by simp) hr b₁ hlast

/-! ## A bridge that lags -/

namespace Lag

/-- An account with a key small enough to compute with, and the default intervals. -/
def config : Config where
  loginId := some 7
  privateKey := some "3020020100301606072a8648ce380401300b02020607020201010201400403020103"

/-- An answer without a body. -/
def noContent : Http.Outcome := .answered 204 ByteArray.empty "no failure"

def noAnswer : Http.Outcome := .failed "no answer"

/-- The first tick fails, a target is set, and a refresh gets as far as its last answer. -/
def events : List Event :=
  [.signIn, .elapse 5000, .wake 0 0, .resume 0 0, .answered (.zones 0 0) noAnswer,
    .answered (.heaters 0 0) noAnswer, .setTarget 5 (.ofInt 21), .answered (.operation 0) noContent,
    .refresh, .resume 0 2, .answered (.zones 0 2) noContent]

def lastAnswer : Event := .answered (.heaters 0 2) noContent

/-- The ticks that end. -/
def tick? : Notice → Option (Nat × Nat × Option Error)
  | .ticked i t fault? => some (i, t, fault?)
  | _ => none

theorem ticked_of_tick? {notices : List Notice} {fault? : Option Error}
    (h : (i, t, fault?) ∈ notices.filterMap tick?) : .ticked i t fault? ∈ notices := by
  obtain ⟨m, hm, ht⟩ := List.mem_filterMap.mp h
  cases m with
  | ticked =>
    simp only [tick?, Option.some.injEq, Prod.mk.injEq] at ht
    obtain ⟨rfl, rfl, rfl⟩ := ht
    exact hm
  | _ => simp [tick?] at ht

/-- The refresh goes well and leaves the bridge online, at the offline interval. -/
theorem outcome :
    let after := ((fresh config .bare {} 0).run events).1.step lastAnswer
    after.2.filterMap tick? = [(0, 2, none)] ∧ after.1.status = .online ∧
      after.1.interval? = some 120000 := by
  decide +kernel

end Lag

theorem interval_after_tick_lag :
    ∃ b₁, beganIn? 0 2 (fresh Lag.config .bare {} 0) none Lag.events = some b₁ ∧
      ((((fresh Lag.config .bare {} 0).run Lag.events).1.step Lag.lastAnswer).1.interval? =
          some ((cadence Lag.config).interval true) ↔
        ¬ (none = (none : Option Error) ∧ b₁.Lagging)) ∧
      (¬ (fresh Lag.config .bare {} 0).RaisedIn Lag.events → ¬ b₁.Lagging) := by
  have ht := Lag.ticked_of_tick? (by rw [Lag.outcome.1]; exact List.mem_singleton_self _)
  exact interval_after_tick .bare {} 0 (by decide) (by decide) (by decide) ht

/-- Not every tick leaves the interval that its outcome calls for. -/
theorem not_interval_after_every_tick :
    ¬ ∀ (config : Config) (environment : Environment) (registry : Registry) (now : Nat)
        (es : List Event) (e : Event) (i t : Nat) (fault? : Option Error),
        config.pollIntervalSecs ≠ config.offlinePollIntervalSecs →
        es.countP Event.isSignIn ≤ 1 → (∀ e ∈ es, e.isOwn = true) →
        .ticked i t fault? ∈ (((fresh config environment registry now).run es).1.step e).2 →
        (((fresh config environment registry now).run es).1.step e).1.interval? =
          some ((cadence config).interval fault?.isNone) := by
  intro h
  have ht := Lag.ticked_of_tick? (by rw [Lag.outcome.1]; exact List.mem_singleton_self _)
  have hi := h Lag.config .bare {} 0 Lag.events Lag.lastAnswer 0 2 none
    (by decide) (by decide) (by decide) ht
  rw [Lag.outcome.2.2] at hi
  exact absurd hi (by decide)

end HeaterLink.Account.Bridge
