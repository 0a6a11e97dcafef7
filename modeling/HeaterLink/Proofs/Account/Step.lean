import HeaterLink.Account.Bridge
import HeaterLink.Proofs.Poller.Step

/-!
# What a step of a bridge can do

`Bridge.Moves` lists the steps of a bridge by what they touch: one poller, the
connection, the status, or the calls under way. Invariants of a bridge are
proved by cases on it, with those of its pollers for the steps of a poller.

## Main definitions

* `Account.Bridge.Moves`, the steps; `Account.Bridge.step_moves`, that there are no others.
-/

namespace HeaterLink.Account.Bridge

variable {b : Bridge}

/-- Marks a call as over. -/
def close (b : Bridge) (place : Nat) : Bridge :=
  { b with operations := b.operations.set place none }

/-- The event that a poller of a link receives for an event of the bridge. -/
inductive Drives (i : Nat) (client : Cloud.Client) : Event → Poller.Event → Prop where
  | refresh : Drives i client .refresh .pollNow
  | zones (t : Nat) (outcome : Http.Outcome) :
      Drives i client (.answered (.zones i t) outcome)
        (.zonesAnswered t (fetched client.zones outcome))
  | heaters (t : Nat) (outcome : Http.Outcome) :
      Drives i client (.answered (.heaters i t) outcome)
        (.heatersAnswered t (fetched client.heaters outcome))
  | wake (t : Nat) : Drives i client (.wake i t) (.wake t)
  | resume (t : Nat) : Drives i client (.resume i t) (.resume t)

/-- The event that suspends this kind of call. -/
inductive Opens : Event → Operation → Prop where
  | signIn (call : Http.Call (Option Login)) : Opens .signIn (.signIn call)
  | refreshZone (id : Int64) (call : Http.Call (Option Zone)) :
      Opens (.refreshZone id) (.refreshZone id call)
  | setTarget (id : Int64) (degrees : Binary64) (call : Http.Call (Option Zone)) :
      Opens (.setTarget id degrees) (.setTarget call)

/-- Signing in comes to its last part, at once or when the login is answered. -/
inductive SignsIn (b : Bridge) : Event → Bridge → Prop where
  | now : SignsIn b .signIn b
  | answered {place : Nat} {call : Http.Call (Option Login)} (outcome : Http.Outcome)
      (ho : b.operations[place]? = some (some (.signIn call))) :
      SignsIn b (.answered (.operation place) outcome) (b.close place)

inductive Moves (b : Bridge) : Event → Bridge × List Notice → Prop where
  /-- There is nobody whom the event concerns. -/
  | idle (e : Event) : Moves b e (b, [])
  | poller {e : Event} {i : Nat} {link : Link} {pe : Poller.Event} {st : Poller.Stepped}
      (hl : b.links[i]? = some link) (he : Drives i link.client e pe)
      (m : Poller.Moves link.poller b.registry b.now pe st) :
      Moves b e ({ b.updatePoller i (fun _ => st.poller) with registry := st.registry },
        st.notices.map (notice i link.client))
  /-- A command that cannot be sent. -/
  | refused (e : Event) (error : Error) : Moves b e (b, [.returned (.zone (.error error))])
  | suspended {e : Event} {operation : Operation} (he : Opens e operation)
      (request : Http.Request) : Moves b e (b.suspend operation request)
  | signInFailed {e : Event} {b' : Bridge} (he : SignsIn b e b') (detail : StatusDetail)
      (error : Error) : Moves b e (signedIn (b'.fail detail error))
  | signInDone {e : Event} {b' : Bridge} (he : SignsIn b e b') (client : Cloud.Client) :
      Moves b e (signedIn (b'.install client, .ok ()))
  | zone {place : Nat} {id : Int64} {call : Http.Call (Option Zone)} (outcome : Http.Outcome)
      (ho : b.operations[place]? = some (some (.refreshZone id call))) :
      Moves b (.answered (.operation place) outcome)
        ((b.close place).proceed outcome (.refreshZone id call))
  | target {place : Nat} {call : Http.Call (Option Zone)} (outcome : Http.Outcome)
      (ho : b.operations[place]? = some (some (.setTarget call))) :
      Moves b (.answered (.operation place) outcome)
        ((b.close place).proceed outcome (.setTarget call))
  | dispose : Moves b .dispose (b.disconnect, [])
  | registry (change : Registry.Change) :
      Moves b (.registry change) ({ b with registry := b.registry.change change }, [])
  | elapse (ms : Nat) : Moves b (.elapse ms) ({ b with now := b.now + ms }, [])

theorem pollerStep_moves (b : Bridge) (i : Nat) (e : Event) (event : Cloud.Client → Poller.Event)
    (he : ∀ client, Drives i client e (event client)) : Moves b e (b.pollerStep i event) := by
  unfold pollerStep
  split
  · exact .idle e
  · rename_i link hl
    exact .poller hl (he link.client) (Poller.step_moves ..)

theorem connect_moves {e : Event} {b' : Bridge} (he : SignsIn b e b') (account : Int64)
    (key : String) : Moves b e (signedIn (b'.connect account key)) := by
  unfold connect
  split
  · exact .signInDone he _
  · exact .signInFailed he _ _

theorem loggedIn_moves {e : Event} {b' : Bridge} (he : SignsIn b e b')
    (result : Except Error (Option Login)) : Moves b e (signedIn (b'.loggedIn result)) := by
  unfold loggedIn
  split
  · exact .signInFailed he _ _
  · exact .signInFailed he _ _
  · exact connect_moves he _ _

theorem beginSignIn_moves (b : Bridge) : Moves b .signIn b.beginSignIn := by
  unfold beginSignIn
  split
  · exact .signInFailed .now _ _
  · exact connect_moves .now _ _
  · split
    · exact loggedIn_moves .now _
    · exact .suspended (.signIn _) _

theorem beginCommand_moves (b : Bridge) (e : Event)
    (operation : Http.Call (Option Zone) → Operation)
    (call : Cloud.Client → Except Error (Http.Call (Option Zone)))
    (he : ∀ call, Opens e (operation call)) : Moves b e (b.beginCommand operation call) := by
  unfold beginCommand
  split
  · exact .refused e _
  · exact .suspended (he _) _

theorem step_moves (b : Bridge) (e : Event) : Moves b e (b.step e) := by
  cases e with
  | signIn => exact b.beginSignIn_moves
  | refresh =>
    simp only [step]
    split
    · exact .idle _
    · exact pollerStep_moves b _ _ _ fun _ => .refresh
  | refreshZone id => exact beginCommand_moves b _ _ _ fun call => .refreshZone id call
  | setTarget id degrees => exact beginCommand_moves b _ _ _ fun call => .setTarget id degrees call
  | dispose => exact .dispose
  | answered waiter outcome =>
    cases waiter with
    | operation place =>
      simp only [step]
      split
      · rename_i operation ho
        cases operation with
        | signIn call => exact loggedIn_moves (.answered outcome ho) _
        | refreshZone id call => exact .zone outcome ho
        | setTarget call => exact .target outcome ho
      · exact .idle _
    | zones i t => exact pollerStep_moves b i _ _ fun _ => .zones t outcome
    | heaters i t => exact pollerStep_moves b i _ _ fun _ => .heaters t outcome
  | wake i t => exact pollerStep_moves b i _ _ fun _ => .wake t
  | resume i t => exact pollerStep_moves b i _ _ fun _ => .resume t
  | registry change => exact .registry change
  | elapse ms => exact .elapse ms

/-! ## Steps that concern no poller -/

/-- Seen of a poller, and not of a call or an observer. -/
def Notice.OfPoller : Notice → Prop
  | .waiting (.zones ..) _ | .waiting (.heaters ..) _ | .ticked .. => True
  | _ => False

/-- What a step leaves alone that moves no poller and connects nothing. -/
structure Frame (b : Bridge) (after : Bridge × List Notice) : Prop where
  links : after.1.links = b.links
  connected : after.1.connected? = b.connected?
  config : after.1.config = b.config
  quiet : ∀ n ∈ after.2, ¬ n.OfPoller

theorem targetSet_frame (b : Bridge) (result : Except Error (Option Zone)) :
    Frame b (b.targetSet result, [.returned (.zone result)]) := by
  unfold targetSet
  split
  · exact ⟨rfl, rfl, rfl, by simp [Notice.OfPoller]⟩
  · split
    · exact ⟨rfl, rfl, rfl, by simp [Notice.OfPoller]⟩
    · exact ⟨rfl, rfl, rfl, by simp [Notice.OfPoller]⟩

/-- A step moves a poller, connects, disposes, or leaves the links alone. -/
theorem Moves.frame {e : Event} {after : Bridge × List Notice} (m : Moves b e after) :
    Frame b after ∨
    (∃ i link pe st, b.links[i]? = some link ∧ Drives i link.client e pe ∧
      Poller.Moves link.poller b.registry b.now pe st ∧
      after = ({ b.updatePoller i (fun _ => st.poller) with registry := st.registry },
        st.notices.map (notice i link.client))) ∨
    (∃ b' client, SignsIn b e b' ∧ after = signedIn (b'.install client, .ok ())) ∨
    e = .dispose := by
  cases m with
  | poller hl he m => exact .inr (.inl ⟨_, _, _, _, hl, he, m, rfl⟩)
  | signInDone he client => exact .inr (.inr (.inl ⟨_, client, he, rfl⟩))
  | dispose => exact .inr (.inr (.inr rfl))
  | signInFailed he detail error =>
    cases he with
    | now => exact .inl ⟨rfl, rfl, rfl, by simp [signedIn, Notice.OfPoller]⟩
    | answered => exact .inl ⟨rfl, rfl, rfl, by simp [signedIn, Notice.OfPoller]⟩
  | suspended => exact .inl ⟨rfl, rfl, rfl, by simp [suspend, Notice.OfPoller]⟩
  | zone outcome ho =>
    refine .inl ⟨rfl, rfl, rfl, ?_⟩
    intro n hn
    simp only [proceed, List.mem_append, List.mem_map, List.mem_singleton] at hn
    rcases hn with ⟨d, -, rfl⟩ | rfl
    · exact id
    · exact id
  | target outcome ho =>
    obtain ⟨hl, hc, hg, hq⟩ := targetSet_frame (b.close _) _
    exact .inl ⟨hl, hc, hg, hq⟩
  | _ => exact .inl ⟨rfl, rfl, rfl, by simp [Notice.OfPoller]⟩

theorem SignsIn.frame {e : Event} {b' : Bridge} (h : SignsIn b e b') :
    b'.links = b.links ∧ b'.connected? = b.connected? ∧ b'.config = b.config := by
  cases h <;> exact ⟨rfl, rfl, rfl⟩

theorem disconnect_config (b : Bridge) : b.disconnect.config = b.config := by
  unfold disconnect
  split <;> rfl

theorem disconnect_registry (b : Bridge) : b.disconnect.registry = b.registry := by
  unfold disconnect
  split <;> rfl

theorem disconnect_operations (b : Bridge) : b.disconnect.operations = b.operations := by
  unfold disconnect
  split <;> rfl

/-- The settings of a bridge are for good. -/
theorem Moves.config {e : Event} {after : Bridge × List Notice} (m : Moves b e after) :
    after.1.config = b.config := by
  rcases m.frame with hf | ⟨i, link, pe, st, -, -, -, rfl⟩ | ⟨b', client, he, rfl⟩ | rfl
  · exact hf.config
  · rfl
  · exact b'.disconnect_config.trans he.frame.2.2
  · cases m with
    | idle | refused => rfl
    | dispose => exact b.disconnect_config
    | poller _ he => cases he
    | suspended he => cases he
    | signInFailed he | signInDone he => cases he

/-! ## Sign-ins under way -/

def Event.isSignIn : Event → Bool
  | .signIn => true
  | _ => false

def isSignInCall : Option Operation → Bool
  | some (.signIn _) => true
  | _ => false

/-- How many calls under way are sign-ins. -/
def signIns (b : Bridge) : Nat := b.operations.countP isSignInCall

theorem signIns_close_le (b : Bridge) (place : Nat) : (b.close place).signIns ≤ b.signIns := by
  by_cases hp : place < b.operations.length
  · rw [signIns, close, List.countP_set hp]
    exact Nat.sub_le ..
  · simp [signIns, close, List.set_eq_of_length_le (Nat.le_of_not_lt hp)]

/-- A sign-in that comes to its last part is under way no longer. -/
theorem SignsIn.signIns {e : Event} {b' : Bridge} (h : SignsIn b e b') :
    b'.signIns + 1 ≤ b.signIns + e.isSignIn.toNat := by
  cases h with
  | now => exact Nat.le_refl _
  | @answered place call outcome ho =>
    obtain ⟨hp, hv⟩ := List.getElem?_eq_some_iff.mp ho
    have hpos : 0 < b.operations.countP isSignInCall :=
      List.countP_pos_iff.mpr ⟨_, List.mem_of_getElem? ho, rfl⟩
    have hset : (b.operations.set place none).countP isSignInCall =
        b.operations.countP isSignInCall - 1 := by
      rw [List.countP_set hp, hv]
      rfl
    change (b.operations.set place none).countP isSignInCall + 1 ≤
      b.operations.countP isSignInCall + 0
    omega

theorem targetSet_operations (b : Bridge) (result : Except Error (Option Zone)) :
    (b.targetSet result).operations = b.operations := by
  unfold targetSet
  split
  · rfl
  · split <;> rfl

theorem install_operations (b : Bridge) (client : Cloud.Client) :
    (b.install client).operations = b.operations := b.disconnect_operations

/-- A step leaves the calls under way alone, begins one, or ends the one that it answers. -/
theorem Moves.operations {e : Event} {after : Bridge × List Notice} (m : Moves b e after) :
    after.1.operations = b.operations ∨
    (∃ operation, Opens e operation ∧ after.1.operations = b.operations ++ [some operation]) ∨
    ∃ place outcome, e = .answered (.operation place) outcome ∧
      after.1.operations = b.operations.set place none := by
  cases m with
  | suspended he => exact .inr (.inl ⟨_, he, rfl⟩)
  | signInFailed he =>
    cases he with
    | now => exact .inl rfl
    | answered outcome => exact .inr (.inr ⟨_, outcome, rfl, rfl⟩)
  | signInDone he client =>
    cases he with
    | now => exact .inl (b.install_operations client)
    | answered outcome =>
      exact .inr (.inr ⟨_, outcome, rfl, (b.close _).install_operations client⟩)
  | zone outcome => exact .inr (.inr ⟨_, outcome, rfl, rfl⟩)
  | target outcome =>
    exact .inr (.inr ⟨_, outcome, rfl, (b.close _).targetSet_operations _⟩)
  | dispose => exact .inl b.disconnect_operations
  | _ => exact .inl rfl

theorem Moves.signIns {e : Event} {after : Bridge × List Notice} (m : Moves b e after) :
    after.1.signIns ≤ b.signIns + e.isSignIn.toNat := by
  rw [Bridge.signIns, Bridge.signIns]
  rcases m.operations with ho | ⟨operation, he, ho⟩ | ⟨place, outcome, rfl, ho⟩
  · rw [ho]
    exact Nat.le_add_right ..
  · rw [ho]
    cases he with
    | _ => simp [isSignInCall, Event.isSignIn]
  · rw [ho]
    exact Nat.le_trans (b.signIns_close_le place) (Nat.le_add_right ..)

end HeaterLink.Account.Bridge
