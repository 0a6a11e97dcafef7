import HeaterLink.Proofs.Account.Interval
import HeaterLink.Proofs.Envelope.RoundTrip
import HeaterLink.Proofs.Poller.Stopping

/-!
# The connection of a bridge

A bridge keeps every poller that it made: one that was replaced or disposed of
can have a tick under way, or a refresh that waits for its turn, and either one
calls `schedule` at its end. All the same only the poller in use has a job. What
can undo a disposal is a sign-in that was waiting for the answer to its login,
and nothing else.

## Main definitions

* `Account.Bridge.UncancelledAt`, the jobs that nobody cancelled, over all pollers.
* `Account.Bridge.Orderly`, the invariant.
* `Account.Bridge.ConnectsIn`, runs in which a sign-in under way is answered and connects.

## Main statements

* `Account.Bridge.one_live_poller`, what holds after every run.
* `Account.Bridge.disposal_final_iff`, when a disposal is final.
-/

namespace HeaterLink.Account.Bridge

open Poller

variable {b : Bridge} {i j t : Nat} {e : Event} {p : Poller} {link : Link}

/-- Runs a job of this link that nobody cancelled. -/
def UncancelledAt (b : Bridge) (i t : Nat) : Prop :=
  ∃ link, b.links[i]? = some link ∧ link.poller.UncancelledAt t

/-! ## Pollers -/

/-- What is true of a poller that a bridge made: in use it has its job, and else it is stopped. -/
structure Kept (inUse : Prop) (p : Poller) : Prop where
  turns : Turns p
  oneJob : OneJob p
  jobsLast : JobsLast p
  scheduled (h : inUse) : p.isScheduled = true
  halted (h : ¬ inUse) : p.Halted

theorem kept_fresh {inUse : Prop} (h : inUse) (c : Cadence) (now delay : Nat) (online : Bool) :
    Kept inUse (Poller.schedule { cadence := c } now delay online) where
  turns := (turns_fresh c).schedule now delay online
  oneJob := (oneJob_fresh c).schedule now delay online
  jobsLast := (jobsLast_fresh c).schedule now delay online
  scheduled _ := isScheduled_schedule rfl now delay online
  halted hn := absurd h hn

/-- Nothing that a bridge does with a poller by itself takes its job away or brings one back. -/
theorem Kept.step {inUse : Prop} {r : Registry} {now : Nat} {pe : Poller.Event} {st : Stepped}
    (h : Kept inUse p) (m : Poller.Moves p r now pe st) (he : ¬ pe.IsHost) :
    Kept inUse st.poller where
  turns := h.turns.step m
  oneJob := h.oneJob.step h.turns m
  jobsLast := h.jobsLast.step m
  scheduled hu := m.isScheduled (fun hc => he (hc ▸ trivial)) (h.scheduled hu)
  halted hn := (h.halted hn).step m

theorem Kept.cancel {inUse : Prop} (h : Kept inUse p) {later : Prop} (hl : ¬ later) :
    Kept later p.cancel where
  turns := h.turns.cancel
  oneJob := h.oneJob.cancel
  jobsLast := h.jobsLast.dropJob.congr rfl
  scheduled hu := absurd hu hl
  halted _ := halted_cancel p

/-- A poller that is not in use runs no job. -/
theorem Kept.not_uncancelledAt {inUse : Prop} (h : Kept inUse p) (hn : ¬ inUse) (t : Nat) :
    ¬ p.UncancelledAt t := by
  intro hu
  obtain ⟨job, hj, -⟩ := (h.oneJob.live t).mp (h.jobsLast.uncancelledAt_iff.mp hu)
  simp [(h.halted hn).idle] at hj

/-! ## Links -/

structure Orderly (b : Bridge) : Prop where
  linked (i : Nat) (h : b.connected? = some i) : i < b.links.length
  kept (i : Nat) (link : Link) (h : b.links[i]? = some link) :
    Kept (b.connected? = some i) link.poller

theorem orderly_fresh (config : Config) (environment : Environment) (registry : Registry)
    (now : Nat) : Orderly (fresh config environment registry now) :=
  ⟨nofun, nofun⟩

theorem Orderly.congr {b' : Bridge} (h : Orderly b) (hl : b'.links = b.links)
    (hc : b'.connected? = b.connected?) : Orderly b' := by
  refine ⟨?_, ?_⟩
  · rw [hl, hc]
    exact h.linked
  · rw [hl, hc]
    exact h.kept

theorem getElem?_updatePoller (b : Bridge) (i j : Nat) (f : Poller → Poller) :
    (b.updatePoller i f).links[j]? =
      if i = j then b.links[j]?.map fun link => { link with poller := f link.poller }
      else b.links[j]? := by
  simp only [updatePoller, List.getElem?_modify]
  split <;> simp

@[simp] theorem length_updatePoller (b : Bridge) (i : Nat) (f : Poller → Poller) :
    (b.updatePoller i f).links.length = b.links.length := List.length_modify ..

/-- The link that moved is in use if it was, and the others are as they were. -/
theorem Orderly.updatePoller (h : Orderly b) (hl : b.links[i]? = some link)
    (hp : Kept (b.connected? = some i) p) : Orderly (b.updatePoller i fun _ => p) where
  linked j hc := (b.length_updatePoller ..).symm ▸ h.linked j hc
  kept j own hj := by
    rw [getElem?_updatePoller] at hj
    split at hj
    · subst i
      rw [hl] at hj
      obtain rfl := Option.some.inj hj
      exact hp
    · exact h.kept j own hj

@[simp] theorem disconnect_connected? (b : Bridge) : b.disconnect.connected? = none := by
  unfold disconnect
  split
  · assumption
  · rfl

/-- The link in use, if there is one, has its poller cancelled. -/
theorem getElem?_disconnect (b : Bridge) (j : Nat) :
    b.disconnect.links[j]? =
      if b.connected? = some j then
        b.links[j]?.map fun link => { link with poller := link.poller.cancel }
      else b.links[j]? := by
  unfold disconnect
  cases hc : b.connected? with
  | none => simp
  | some i => simpa using b.getElem?_updatePoller i j Poller.cancel

@[simp] theorem length_disconnect (b : Bridge) : b.disconnect.links.length = b.links.length := by
  unfold disconnect
  split
  · rfl
  · exact b.length_updatePoller ..

theorem Orderly.disconnect (h : Orderly b) : Orderly b.disconnect where
  linked i hc := by simp at hc
  kept j own hj := by
    rw [getElem?_disconnect] at hj
    split at hj
    · obtain ⟨link, hl, rfl⟩ := Option.map_eq_some_iff.mp hj
      exact (h.kept j link hl).cancel (by simp)
    · rename_i hc
      simpa [hc] using h.kept j own hj

theorem install_connected? (b : Bridge) (client : Cloud.Client) :
    (b.install client).connected? = some b.links.length := by
  simp [install]

/-- The link that a sign-in adds comes last. -/
theorem getElem?_install (b : Bridge) (client : Cloud.Client) (j : Nat) :
    (b.install client).links[j]? =
      if j = b.links.length then
        some ⟨client, Poller.schedule { cadence := cadence b.config } b.now
          (milliseconds b.config.initialDelaySecs) true⟩
      else b.disconnect.links[j]? := by
  simp only [install, ← b.length_disconnect]
  grind

theorem Orderly.install (h : Orderly b) (client : Cloud.Client) : Orderly (b.install client) where
  linked i hc := by
    rw [install_connected?] at hc
    obtain rfl := Option.some.inj hc
    simp [Bridge.install]
  kept j own hj := by
    rw [install_connected?]
    rw [getElem?_install] at hj
    split at hj
    · rename_i hlast
      obtain rfl := Option.some.inj hj
      exact kept_fresh (by rw [hlast]) ..
    · rename_i hlast
      have hk := h.disconnect.kept j own hj
      simpa [Ne.symm hlast] using hk

/-! ## Steps and runs -/

theorem Orderly.step (h : Orderly b) (e : Event) : Orderly (b.step e).1 := by
  have m := b.step_moves e
  rcases m.frame with hf | ⟨i, link, pe, st, hl, he, pm, hs⟩ | ⟨b', client, he, hs⟩ | rfl
  · exact h.congr hf.links hf.connected
  · rw [hs]
    exact (h.updatePoller hl ((h.kept i link hl).step pm he.not_isHost)).congr rfl rfl
  · rw [hs]
    exact (h.congr he.frame.1 he.frame.2.1).install client
  · exact h.disconnect

theorem run_keeps {P : Bridge → Prop} {es : List Event}
    (hs : ∀ b, ∀ e ∈ es, P b → P (b.step e).1) (h : P b) : P (b.run es).1 := by
  induction es generalizing b with
  | nil => exact h
  | cons e es ih =>
    exact ih (fun b e he => hs b e (List.mem_cons_of_mem _ he)) (hs b e List.mem_cons_self h)

theorem Orderly.run (h : Orderly b) (es : List Event) : Orderly (b.run es).1 :=
  run_keeps (fun _ e _ h => h.step e) h

/-- Without a connection no poller runs a job. -/
theorem Orderly.not_uncancelledAt (h : Orderly b) (hc : b.connected? = none) (i t : Nat) :
    ¬ b.UncancelledAt i t := by
  rintro ⟨link, hl, hu⟩
  exact (h.kept i link hl).not_uncancelledAt (by simp [hc]) t hu

/-- With one, the job in the slot of its poller is the only one. -/
theorem Orderly.uncancelledAt_iff (h : Orderly b) (hc : b.connected? = some i) :
    ∃ link job, b.links[i]? = some link ∧ link.poller.job? = some job ∧
      link.poller.LiveAt job.task ∧ ∀ j t, b.UncancelledAt j t ↔ j = i ∧ t = job.task := by
  obtain ⟨own, hl⟩ : ∃ own, b.links[i]? = some own :=
    ⟨_, List.getElem?_eq_getElem (h.linked i hc)⟩
  have hk := h.kept i own hl
  obtain ⟨job, hj⟩ := Option.isSome_iff_exists.mp (hk.scheduled hc)
  refine ⟨own, job, hl, hj, (hk.oneJob.live _).mpr ⟨job, hj, rfl⟩, ?_⟩
  intro j t
  constructor
  · rintro ⟨link, hlink, hu⟩
    by_cases hij : j = i
    · subst hij
      obtain rfl := Option.some.inj (hl.symm.trans hlink)
      obtain ⟨job', hj', ht⟩ := (hk.oneJob.live t).mp (hk.jobsLast.uncancelledAt_iff.mp hu)
      obtain rfl := Option.some.inj (hj.symm.trans hj')
      exact ⟨rfl, ht.symm⟩
    · refine absurd hu ((h.kept j link hlink).not_uncancelledAt ?_ t)
      simpa [hc] using Ne.symm hij
  · rintro ⟨rfl, rfl⟩
    exact ⟨_, hl, hk.jobsLast.uncancelledAt_iff.mpr ((hk.oneJob.live _).mpr ⟨job, hj, rfl⟩)⟩

/-- After every run at most one job over all pollers is not cancelled: none without a connection,
and with one that in the slot of its poller. -/
theorem one_live_poller (config : Config) (environment : Environment) (registry : Registry)
    (now : Nat) (es : List Event) :
    let b := ((fresh config environment registry now).run es).1
    (b.connected? = none → ∀ i t, ¬ b.UncancelledAt i t) ∧
    ∀ i, b.connected? = some i →
      ∃ link job, b.links[i]? = some link ∧ link.poller.job? = some job ∧
        link.poller.LiveAt job.task ∧ ∀ j t, b.UncancelledAt j t ↔ j = i ∧ t = job.task := by
  intro b
  have h : Orderly b := (orderly_fresh config environment registry now).run es
  exact ⟨h.not_uncancelledAt, fun i hc => h.uncancelledAt_iff hc⟩

/-- A bridge signs in twice. The first poller is in the middle of a tick, with a refresh in line
behind it, when it is replaced, and its tick fails afterwards. -/
def replacement : List Event :=
  [.signIn, .elapse 5000, .wake 0 0, .resume 0 0, .refresh, .signIn,
    .answered (.zones 0 0) Lag.noAnswer, .answered (.heaters 0 0) Lag.noAnswer, .resume 0 1]

theorem one_live_poller_replacement :
    let b := ((fresh Lag.config .bare {} 0).run replacement).1
    b.connected? = some 1 ∧
      ∃ link job, b.links[1]? = some link ∧ link.poller.job? = some job ∧
        link.poller.LiveAt job.task ∧ ∀ j t, b.UncancelledAt j t ↔ j = 1 ∧ t = job.task := by
  intro b
  have hc : b.connected? = some 1 := by decide +kernel
  exact ⟨hc, (one_live_poller Lag.config .bare {} 0 replacement).2 1 hc⟩

/-! ## Disposal -/

/-- Without a client, and without a job of any poller. -/
def Released (b : Bridge) : Prop := b.client? = none ∧ ∀ i t, ¬ b.UncancelledAt i t

/-- A sign-in that was waiting for its login is answered, and the identity can be used. -/
def Connects (b : Bridge) : Event → Prop
  | .answered (.operation place) outcome =>
    ∃ call login client, b.operations[place]? = some (some (.signIn call)) ∧
      call.receive outcome = .ok (some login) ∧
      b.signedClient login.id login.privateKey = .ok client
  | _ => False

def ConnectsIn (b : Bridge) : List Event → Prop
  | [] => False
  | e :: es => b.Connects e ∨ ConnectsIn (b.step e).1 es

theorem step_answered {place : Nat} {operation : Operation} (outcome : Http.Outcome)
    (ho : b.operations[place]? = some (some operation)) :
    b.step (.answered (.operation place) outcome) = (b.close place).proceed outcome operation := by
  simp only [step, ho, close]

theorem connect_of_ok {account : Int64} {key : String} {client : Cloud.Client}
    (h : b.signedClient account key = .ok client) :
    b.connect account key = (b.install client, .ok ()) := by
  rw [connect, h]

theorem connect_of_error {account : Int64} {key : String} {error : Error}
    (h : b.signedClient account key = .error error) :
    b.connect account key = b.fail .configurationError error := by
  rw [connect, h]

theorem client?_eq_none_iff (h : Orderly b) : b.client? = none ↔ b.connected? = none := by
  rw [client?, Option.map_eq_none_iff, link?]
  cases hc : b.connected? with
  | none => simp
  | some i => simpa using h.linked i hc

theorem Orderly.released_iff (h : Orderly b) : b.Released ↔ b.connected? = none := by
  rw [Released, client?_eq_none_iff h]
  exact ⟨And.left, fun hc => ⟨hc, h.not_uncancelledAt hc⟩⟩

/-- The answer to a login connects the bridge, or leaves the connection alone. -/
theorem connected?_loggedIn (b : Bridge) (result : Except Error (Option Login)) :
    (b.loggedIn result).1.connected? = b.connected? ∨
      ∃ login client, result = .ok (some login) ∧
        b.signedClient login.id login.privateKey = .ok client := by
  match result with
  | .error _ => exact .inl rfl
  | .ok none => exact .inl rfl
  | .ok (some login) =>
    cases hs : b.signedClient login.id login.privateKey with
    | error error =>
      refine .inl ?_
      rw [loggedIn, connect_of_error hs]
      rfl
    | ok client => exact .inr ⟨login, client, rfl, hs⟩

theorem Connects.connected? (h : b.Connects e) : (b.step e).1.connected? ≠ none := by
  match e, h with
  | .answered (.operation place) outcome, ⟨call, login, client, ho, hr, hs⟩ =>
    have hs' : (b.close place).signedClient login.id login.privateKey = .ok client := hs
    rw [step_answered outcome ho, proceed, hr, loggedIn, connect_of_ok hs', signedIn,
      install_connected?]
    simp

theorem Connects.not_released (h : b.Connects e) (ho : Orderly b) : ¬ (b.run [e]).1.Released :=
  fun hr => h.connected? ((ho.step e).released_iff.mp hr)

/-- Without a new sign-in, a bridge without a connection stays so unless an old one connects. -/
theorem step_connected? (hn : b.connected? = none) (he : e.isSignIn = false)
    (hc : ¬ b.Connects e) : (b.step e).1.connected? = none := by
  have m := b.step_moves e
  rcases m.frame with hf | ⟨i, link, pe, st, -, -, -, hs⟩ | ⟨b', client, hi, hs⟩ | rfl
  · rw [hf.connected, hn]
  · rw [hs]
    exact hn
  · cases hi with
    | now => cases he
    | @answered place call outcome ho =>
      rw [step_answered outcome ho]
      rcases (b.close place).connected?_loggedIn (call.receive outcome) with
        hsame | ⟨login, client, hr, hs⟩
      · exact hsame.trans hn
      · exact absurd ⟨call, login, client, ho, hr, hs⟩ hc
  · exact b.disconnect_connected?

section Runs

variable {es after : List Event}

theorem ConnectsIn.of_prefix {more : List Event} (h : b.ConnectsIn es) :
    b.ConnectsIn (es ++ more) := by
  induction es generalizing b with
  | nil => exact h.elim
  | cons e es ih => exact h.imp_right ih

theorem run_connected? (hn : b.connected? = none) (he : ∀ e ∈ es, e.isSignIn = false)
    (hc : ¬ b.ConnectsIn es) : (b.run es).1.connected? = none := by
  induction es generalizing b with
  | nil => exact hn
  | cons e es ih =>
    obtain ⟨hfirst, hlater⟩ := not_or.mp hc
    have hn' := step_connected? hn (he e List.mem_cons_self) hfirst
    exact ih hn' (fun e h => he e (List.mem_cons_of_mem _ h)) hlater

/-- Right after a sign-in has connected, the bridge is connected. -/
theorem ConnectsIn.exists_prefix (h : b.ConnectsIn after) :
    ∃ es, es <+: after ∧ (b.run es).1.connected? ≠ none := by
  induction after generalizing b with
  | nil => exact h.elim
  | cons e after ih =>
    rcases h with hfirst | hlater
    · exact ⟨[e], ⟨after, rfl⟩, hfirst.connected?⟩
    · obtain ⟨es, hp, hc⟩ := ih hlater
      exact ⟨e :: es, List.cons_prefix_cons.mpr ⟨rfl, hp⟩, hc⟩

/-- Without a sign-in under way there is none that could connect. -/
theorem not_connectsIn (hz : b.signIns = 0) (he : ∀ e ∈ es, e.isSignIn = false) :
    ¬ b.ConnectsIn es := by
  induction es generalizing b with
  | nil => exact id
  | cons e es ih =>
    have hfirst : e.isSignIn = false := he e List.mem_cons_self
    have hle := (b.step_moves e).signIns
    rw [hz, hfirst] at hle
    rintro (hc | hc)
    · match e, hc with
      | .answered (.operation place) outcome, ⟨_, _, _, ho, _, _⟩ =>
        have := (SignsIn.answered outcome ho).signIns
        rw [hz, hfirst] at this
        exact Nat.not_succ_le_zero _ this
    · exact ih (Nat.le_zero.mp hle) (fun e h => he e (List.mem_cons_of_mem _ h)) hc

theorem run_concat (b : Bridge) (es : List Event) (e : Event) :
    (b.run (es ++ [e])).1 = ((b.run es).1.step e).1 := by
  induction es generalizing b with
  | nil => rfl
  | cons e' es ih => exact ih _

end Runs

/-- A disposal is final if and only if no sign-in that was waiting for its login at the time
connects later on; nothing else that was under way undoes it. -/
theorem disposal_final_iff (config : Config) (environment : Environment) (registry : Registry)
    (now : Nat) (before : List Event) {after : List Event}
    (he : ∀ e ∈ after, e.isSignIn = false) :
    let b := ((fresh config environment registry now).run (before ++ [.dispose])).1
    ((∀ es, es <+: after → (b.run es).1.Released) ↔ ¬ b.ConnectsIn after) ∧
      (b.signIns = 0 → ¬ b.ConnectsIn after) := by
  intro b
  have h : Orderly b := (orderly_fresh config environment registry now).run _
  have hn : b.connected? = none := by
    simp only [b, run_concat]
    exact disconnect_connected? _
  refine ⟨⟨fun hfinal hc => ?_, fun hc es hp => ?_⟩, fun hz => not_connectsIn hz he⟩
  · obtain ⟨es, hp, hconn⟩ := hc.exists_prefix
    exact hconn ((h.run es).released_iff.mp (hfinal es hp))
  · obtain ⟨more, rfl⟩ := hp
    refine (h.run es).released_iff.mpr (run_connected? hn (fun e hm => ?_) fun hes => ?_)
    · exact he e (List.mem_append_left _ hm)
    · exact hc hes.of_prefix

/-- Disposal in the middle of a tick, with a refresh in line behind it. -/
theorem disposal_final_iff_ticking :
    let before : List Event := [.signIn, .elapse 5000, .wake 0 0, .resume 0 0, .refresh]
    let after : List Event :=
      [.answered (.zones 0 0) Lag.noAnswer, .answered (.heaters 0 0) Lag.noAnswer, .resume 0 1]
    let b := ((fresh Lag.config .bare {} 0).run (before ++ [.dispose])).1
    (∀ e ∈ after, e.isSignIn = false) ∧ ∀ es, es <+: after → (b.run es).1.Released := by
  intro before after b
  have he : ∀ e ∈ after, e.isSignIn = false := by decide
  have hz : b.signIns = 0 := by decide +kernel
  obtain ⟨hfinal, hnone⟩ := disposal_final_iff Lag.config .bare {} 0 before he
  exact ⟨he, hfinal.mpr (hnone hz)⟩

/-! ## A disposal that is undone -/

/-- The answer to a login is read as an envelope, and its first record counts. -/
theorem receive_login (client : Cloud.Client) (name password : String) (outcome : Http.Outcome) :
    (client.login name password).receive outcome =
      (outcome.body? >>= Envelope.decode (R := Login) false).map List.head? := rfl

namespace Undone

/-- An account with a password. -/
def config : Config where
  username := some "me"
  password := some "pw"

def login : Login where
  id := 7
  privateKey := "3020020100301606072a8648ce380401300b02020607020201010201400403020103"

/-- The login is answered with an identity that can be used. -/
def reply : Http.Outcome := .answered 200 (Envelope.bytes ⟨0⟩ [login]) "no failure"

/-- The bridge was disposed of while it waited for its login. -/
def disposed : Bridge := ((fresh config .bare default 0).run ([.signIn] ++ [.dispose])).1

theorem exists_client : ∃ client, disposed.signedClient login.id login.privateKey = .ok client := by
  have hok : (disposed.signedClient login.id login.privateKey).toBool = true := by decide +kernel
  cases hs : disposed.signedClient login.id login.privateKey with
  | error error => simp [hs, Except.toBool] at hok
  | ok client => exact ⟨client, rfl⟩

theorem decode_reply : reply.body? >>= Envelope.decode (R := Login) false = .ok [login] := by
  rw [reply, Http.Outcome.body?, if_neg (by decide), if_neg (by decide), Json.Reader.ok_bind,
    Envelope.decode_bytes_of_isWhole false (by decide)]

/-- The client that logs in. -/
def visitor : Cloud.Client := ⟨Endpoint.cloud, none⟩

theorem waits : disposed.operations[0]? = some (some (.signIn (visitor.login "me" "pw"))) := rfl

theorem connects : disposed.Connects (.answered (.operation 0) reply) := by
  obtain ⟨client, hs⟩ := exists_client
  have hr : (visitor.login "me" "pw").receive reply = .ok (some login) := by
    rw [receive_login, decode_reply]
    rfl
  exact ⟨_, login, client, waits, hr, hs⟩

end Undone

/-- Not every disposal is final, even if nobody signs in anew. -/
theorem not_final_after_every_disposal :
    ¬ ∀ (config : Config) (environment : Environment) (registry : Registry) (now : Nat)
        (before after : List Event), (∀ e ∈ after, e.isSignIn = false) →
        ∀ es, es <+: after →
          (((fresh config environment registry now).run (before ++ [.dispose])).1.run
            es).1.Released := by
  intro h
  have hreleased := h Undone.config .bare default 0 [.signIn]
    [.answered (.operation 0) Undone.reply] (by simp [Event.isSignIn]) _ (List.prefix_refl _)
  have horderly : Orderly Undone.disposed := (orderly_fresh ..).run _
  exact Undone.connects.not_released horderly hreleased

end HeaterLink.Account.Bridge
