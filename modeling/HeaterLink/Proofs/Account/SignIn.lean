import HeaterLink.Proofs.Account.Connection

/-!
# Signing in

A sign-in with a key ends where it begins. With a password it sends one login
and waits, and by the time the answer comes the bridge may have signed in
another way, polled or been disposed of. Either way it ends by putting a new
link into use, or by reporting why it cannot and leaving everything else alone.

## Main definitions

* `Account.Bridge.Builds`, which client is built and why none can be.
* `Account.Bridge.TakesOver`, a new link in use in place of the old one.
* `Account.Bridge.Settles`, how a sign-in ends once it knows the identity or has failed to.

## Main statements

* `Account.Bridge.sign_in_all_or_nothing`, what a sign-in sends and how it ends.
-/

namespace HeaterLink.Account.Bridge

variable {b : Bridge} {client : Cloud.Client} {account : Int64} {key : String} {error : Error}
  {place : Nat}

/-! ## Building a client -/

/-- Builds a client from the settings, for an account and its key or for nobody. -/
def build (b : Bridge) (credentials? : Option (Int64 × String)) : Except Error Cloud.Client := do
  let settings ← b.config.clientSettings b.environment
  Cloud.Client.build b.environment { settings with credentials? := credentials? }

theorem signedClient_eq (b : Bridge) (account : Int64) (key : String) :
    b.signedClient account key = b.build (some (account, key)) := rfl

theorem loginCall_eq (b : Bridge) (name password : String) :
    b.loginCall name password = (b.build none).map fun client => client.login name password := by
  simp only [loginCall, build, Config.clientSettings]
  cases b.config.anchor? b.environment with
  | error error => rfl
  | ok anchor? =>
    simp only [bind, Except.bind, pure, Except.pure]
    split
    · next h => simp [h, Except.map]
    · next h => simp [h, Except.map]

/-- What building a client comes to, for an account and its key or for nobody. A file that cannot
be read comes before a bad key, and a bad key before a file that cannot be decoded. -/
inductive Builds (b : Bridge) : Option (Int64 × String) → Except Error Cloud.Client → Prop where
  | unreadable {credentials? : Option (Int64 × String)} {path words : String}
      (hp : b.config.trustAnchor = some path) (hf : b.environment.file path = .error words) :
      Builds b credentials? (.error (.config (.unreadableAnchor path words)))
  | badKey {account : Int64} {text : String} {anchor? : Option ByteArray} {fault : KeyFault}
      (ha : b.config.anchor? b.environment = .ok anchor?)
      (hk : SigningKey.ofText b.environment text = .error fault) :
      Builds b (some (account, text)) (.error (.signing fault))
  | undecodable {credentials? : Option (Int64 × String)} {anchor? : Option ByteArray}
      {words : String} (ha : b.config.anchor? b.environment = .ok anchor?)
      (hr : anchor?.bind b.environment.anchorFault? = some words)
      (hk : ∀ text ∈ credentials?.map Prod.snd,
        ∃ key, SigningKey.ofText b.environment text = .ok key) :
      Builds b credentials? (.error (.http none words))
  | unsigned {anchor? : Option ByteArray} (ha : b.config.anchor? b.environment = .ok anchor?)
      (hr : anchor?.bind b.environment.anchorFault? = none) :
      Builds b none (.ok ⟨Http.trimSlashes (b.config.baseUrl.getD Endpoint.cloud), none⟩)
  | signed {account : Int64} {text : String} {key : SigningKey} {anchor? : Option ByteArray}
      (ha : b.config.anchor? b.environment = .ok anchor?)
      (hr : anchor?.bind b.environment.anchorFault? = none)
      (hk : SigningKey.ofText b.environment text = .ok key) :
      Builds b (some (account, text))
        (.ok ⟨Http.trimSlashes (b.config.baseUrl.getD Endpoint.cloud), some ⟨account, key⟩⟩)

theorem anchor?_eq_error (h : b.config.anchor? b.environment = .error error) :
    ∃ path words, b.config.trustAnchor = some path ∧ b.environment.file path = .error words ∧
      error = .config (.unreadableAnchor path words) := by
  unfold Config.anchor? at h
  split at h
  · cases h
  · next path hp =>
    split at h
    · cases h
    · next words hf =>
      cases h
      exact ⟨path, words, hp, hf, rfl⟩

theorem build_builds (b : Bridge) (credentials? : Option (Int64 × String)) :
    b.Builds credentials? (b.build credentials?) := by
  cases ha : b.config.anchor? b.environment with
  | error error =>
    obtain ⟨path, words, hp, hf, rfl⟩ := anchor?_eq_error ha
    have hb : b.build credentials? = .error (.config (.unreadableAnchor path words)) := by
      simp only [build, Config.clientSettings, ha]
      rfl
    exact hb ▸ .unreadable hp hf
  | ok anchor? =>
    have hb : b.build credentials? = Cloud.Client.build b.environment
        ⟨b.config.baseUrl.getD Endpoint.cloud, credentials?, anchor?⟩ := by
      simp only [build, Config.clientSettings, ha]
      rfl
    rw [hb]
    match credentials? with
    | none =>
      cases hr : anchor?.bind b.environment.anchorFault? with
      | none =>
        simp only [Cloud.Client.build, hr]
        exact .unsigned ha hr
      | some words =>
        simp only [Cloud.Client.build, hr]
        exact .undecodable ha hr nofun
    | some (account, text) =>
      cases hk : SigningKey.ofText b.environment text with
      | error fault =>
        simp only [Cloud.Client.build, hk]
        exact .badKey ha hk
      | ok key =>
        cases hr : anchor?.bind b.environment.anchorFault? with
        | none =>
          simp only [Cloud.Client.build, hk, hr]
          exact .signed ha hr hk
        | some words =>
          simp only [Cloud.Client.build, hk, hr]
          exact .undecodable ha hr (by simpa using ⟨key, hk⟩)

/-! ## How a sign-in ends -/

/-- The poller of a new link: its only job first ticks after the delay, at the online interval. -/
def firstPoller (b : Bridge) : Poller where
  cadence := ⟨1000 * b.config.pollIntervalSecs.toNat, 1000 * b.config.offlinePollIntervalSecs.toNat⟩
  tasks :=
    [{ role := .job (1000 * b.config.pollIntervalSecs.toNat)
       phase := .sleeping (b.now + 1000 * b.config.initialDelaySecs.toNat) }]
  job? := some ⟨0, 1000 * b.config.pollIntervalSecs.toNat⟩

/-- A new link with this client is in use in place of the old one. -/
structure TakesOver (before : Bridge) (client : Cloud.Client) (after : Bridge) : Prop where
  inUse : after.link? = some ⟨client, before.firstPoller⟩
  status : after.registry = { before.registry with bridge := ⟨.unknown, .none, none⟩ }
  length : after.links.length = before.links.length + 1
  kept (i : Nat) (link : Link) (h : before.links[i]? = some link)
    (hi : before.connected? ≠ some i) : after.links[i]? = some link
  /-- The poller that was in use stops for good. -/
  replaced (i : Nat) (link : Link) (h : before.links[i]? = some link)
    (hi : before.connected? = some i) :
    ∃ poller, link.poller.Stops poller ∧ after.links[i]? = some { link with poller := poller }
  frame : after = { before with
    registry := after.registry, links := after.links, connected? := after.connected? }

/-- Reports an error and changes nothing but the status. -/
def reporting (b : Bridge) (detail : StatusDetail) (error : Error) : Bridge × List Notice :=
  ({ b with registry := { b.registry with bridge := ⟨.offline, detail, some error.message⟩ } },
    [.returned (.signedIn (.error error))])

inductive Settles (before : Bridge) (identity : Except Error (Int64 × String)) :
    Bridge × List Notice → Prop where
  | connected {account : Int64} {key : String} {client : Cloud.Client} {after : Bridge}
      (hi : identity = .ok (account, key)) (hb : before.Builds (some (account, key)) (.ok client))
      (ha : client.account? = some account) (h : TakesOver before client after) :
      Settles before identity (after, [.returned (.signedIn (.ok ()))])
  | unusable {account : Int64} {key : String} {error : Error}
      (hi : identity = .ok (account, key))
      (hb : before.Builds (some (account, key)) (.error error)) :
      Settles before identity (before.reporting .configurationError error)
  | unknown {error : Error} (hi : identity = .error error) :
      Settles before identity (before.reporting
        (if error.isTransport then .communicationError else .configurationError) error)

theorem getElem?_install_earlier {i : Nat} {link : Link} (b : Bridge) (client : Cloud.Client)
    (h : b.links[i]? = some link) : (b.install client).links[i]? = some
      (if b.connected? = some i then { link with poller := link.poller.cancel } else link) := by
  have hi : i ≠ b.links.length := Nat.ne_of_lt (List.getElem?_eq_some_iff.mp h).choose
  rw [getElem?_install, if_neg hi, getElem?_disconnect, h]
  split <;> rfl

theorem install_takesOver (b : Bridge) (client : Cloud.Client) :
    TakesOver b client (b.install client) where
  inUse := by
    rw [link?, install_connected?, Option.bind_some, getElem?_install, if_pos rfl]
    rfl
  status := rfl
  length := by simp [install]
  kept i link h hi := by
    rw [b.getElem?_install_earlier client h, if_neg hi]
  replaced i link h hi := by
    rw [b.getElem?_install_earlier client h, if_pos hi]
    exact ⟨_, link.poller.stops_cancel, rfl⟩
  frame := by
    unfold install disconnect
    split <;> rfl

theorem Builds.account? (h : b.Builds (some (account, key)) (.ok client)) :
    client.account? = some account := by
  cases h
  rfl

theorem connect_settles (b : Bridge) (account : Int64) (key : String) :
    Settles b (.ok (account, key)) (signedIn (b.connect account key)) := by
  have hb := b.build_builds (some (account, key))
  rw [← signedClient_eq] at hb
  cases hs : b.signedClient account key with
  | ok client =>
    rw [hs] at hb
    rw [connect_of_ok hs]
    exact .connected rfl hb hb.account? (b.install_takesOver client)
  | error error =>
    rw [hs] at hb
    rw [connect_of_error hs]
    exact .unusable rfl hb

/-! ## Logins -/

def loginRequest (b : Bridge) (name password : String) : Http.Request where
  method := .post
  url := Http.trimSlashes (b.config.baseUrl.getD Endpoint.cloud) ++ Endpoint.login
  headers := Cloud.Client.headers
  body := Form.encode [("login", name), ("password", password)]

/-- The account and the key in the answer to a login: those of its first record. -/
def identityIn (outcome : Http.Outcome) : Except Error (Int64 × String) :=
  match outcome.body? >>= Envelope.decode (R := Login) false with
  | .error error => .error error
  | .ok [] => .error .objectMapping
  | .ok (login :: _) => .ok (login.id, login.privateKey)

theorem loggedIn_settles (b : Bridge) (client : Cloud.Client) (name password : String)
    (outcome : Http.Outcome) :
    Settles b (identityIn outcome)
      (signedIn (b.loggedIn ((client.login name password).receive outcome))) := by
  rw [receive_login, identityIn]
  match outcome.body? >>= Envelope.decode (R := Login) false with
  | .error error => exact .unknown rfl
  | .ok [] => exact .unknown rfl
  | .ok (login :: _) => exact b.connect_settles login.id login.privateKey

theorem answered_settles {name password : String}
    (ho : b.operations[place]? = some (some (.signIn (client.login name password))))
    (outcome : Http.Outcome) :
    Settles (b.close place) (identityIn outcome)
      (b.step (.answered (.operation place) outcome)) := by
  rw [step_answered outcome ho]
  exact (b.close place).loggedIn_settles client name password outcome

/-- The call at this place is answered. -/
def Event.Answers (place : Nat) : Event → Prop
  | .answered (.operation p) _ => p = place
  | _ => False

/-- A call stays under way until it is answered. -/
theorem Moves.operation_under_way {e : Event} {after : Bridge × List Notice} (m : Moves b e after)
    {operation : Operation} (ho : b.operations[place]? = some (some operation))
    (he : ¬ e.Answers place) : after.1.operations[place]? = some (some operation) := by
  rcases m.operations with hs | ⟨opened, -, hs⟩ | ⟨other, outcome, rfl, hs⟩
  · rw [hs, ho]
  · rw [hs, List.getElem?_append_left (List.getElem?_eq_some_iff.mp ho).choose, ho]
  · rw [hs, List.getElem?_set_ne he, ho]

theorem operation_run {operation : Operation} {es : List Event}
    (ho : b.operations[place]? = some (some operation)) (he : ∀ e ∈ es, ¬ e.Answers place) :
    (b.run es).1.operations[place]? = some (some operation) :=
  run_keeps (P := fun b => b.operations[place]? = some (some operation))
    (fun b e h ho => (b.step_moves e).operation_under_way ho (he e h)) ho

theorem step_signIn_password {name password : String}
    (hc : b.config.credential = .ok (.password name password)) :
    (∃ error, b.Builds none (.error error) ∧
      b.step .signIn = signedIn (b.loggedIn (.error error))) ∨
    ∃ client, b.Builds none (.ok client) ∧
      b.step .signIn =
        b.suspend (.signIn (client.login name password)) (client.login name password).request := by
  have hb := b.build_builds none
  simp only [step, beginSignIn, hc, loginCall_eq]
  cases hl : b.build none with
  | error error =>
    rw [hl] at hb
    exact .inl ⟨error, hb, rfl⟩
  | ok client =>
    rw [hl] at hb
    exact .inr ⟨client, hb, rfl⟩

theorem request_login {name password : String} (h : b.Builds none (.ok client)) :
    (client.login name password).request = b.loginRequest name password := by
  cases h
  rfl

/-- A sign-in sends nothing but one login, and that only with a password. It ends with a new link
in use, or with a report that changes the status and nothing else, whatever happened meanwhile. -/
theorem sign_in_all_or_nothing (b : Bridge) :
    match b.config.credential with
    | .error error => b.step .signIn = b.reporting .configurationError error
    | .ok (.signed account key) => Settles b (.ok (account, key)) (b.step .signIn)
    | .ok (.password name password) =>
      (∃ error, b.Builds none (.error error) ∧ Settles b (.error error) (b.step .signIn)) ∨
      ∃ client begun, b.Builds none (.ok client) ∧
        b.step .signIn = (begun,
          [.waiting (.operation b.operations.length) (some (b.loginRequest name password))]) ∧
        begun = { b with operations := begun.operations } ∧
        ∀ (es : List Event) (environment : Environment) (outcome : Http.Outcome),
          (∀ e ∈ es, ¬ e.Answers b.operations.length) →
          let late : Bridge := { (begun.run es).1 with environment := environment }
          late.config = b.config ∧
            Settles (late.close b.operations.length) (identityIn outcome)
              (late.step (.answered (.operation b.operations.length) outcome)) := by
  split
  · next error hc =>
    simp only [step, beginSignIn, hc]
    rfl
  · next account key hc =>
    simp only [step, beginSignIn, hc]
    exact b.connect_settles account key
  · next name password hc =>
    rcases step_signIn_password hc with ⟨error, hb, hs⟩ | ⟨client, hb, hs⟩
    · refine .inl ⟨error, hb, ?_⟩
      rw [hs]
      exact .unknown rfl
    · refine .inr ⟨client, (b.step .signIn).1, hb, ?_, ?_,
        fun es environment outcome he => ⟨?_, ?_⟩⟩
      · rw [hs, suspend, request_login hb]
      · rw [hs, suspend]
      · exact (config_run _ es).trans (b.step_moves .signIn).config
      · have ho : (b.step .signIn).1.operations[b.operations.length]? =
            some (some (.signIn (client.login name password))) := by
          rw [hs, suspend, List.getElem?_concat_length]
        exact answered_settles
          (b := { ((b.step .signIn).1.run es).1 with environment := environment })
          (operation_run ho he) outcome

/-- A bridge that is in use signs in anew with its password. Its login is answered after a refresh
has begun to poll. -/
theorem sign_in_all_or_nothing_renewed :
    let b := (fresh Undone.config .bare {} 0).install Undone.visitor
    ∃ begun, b.step .signIn =
        (begun, [.waiting (.operation 0) (some (b.loginRequest "me" "pw"))]) ∧
      let late : Bridge := { (begun.run [.elapse 3, .refresh]).1 with environment := .bare }
      Settles (late.close 0) (.ok (7, Undone.login.privateKey))
        (late.step (.answered (.operation 0) Undone.reply)) := by
  intro b
  have hc : b.config.credential = .ok (.password "me" "pw") := by decide +kernel
  have h := sign_in_all_or_nothing b
  rw [hc] at h
  rcases h with ⟨error, hb, -⟩ | ⟨client, begun, -, hs, -, hlate⟩
  · cases hb with
    | unreadable hp => cases hp
    | undecodable ha hr =>
      cases ha
      cases hr
  · have hi : identityIn Undone.reply = .ok (7, Undone.login.privateKey) := by
      simp only [identityIn, Undone.decode_reply]
      rfl
    have he : ∀ e ∈ [.elapse 3, .refresh], ¬ Event.Answers 0 e := by simp [Event.Answers]
    exact ⟨begun, hs, hi ▸ (hlate [.elapse 3, .refresh] .bare Undone.reply he).2⟩

end HeaterLink.Account.Bridge
