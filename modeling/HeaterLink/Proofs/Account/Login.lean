import HeaterLink.Proofs.Account.SignIn
import HeaterLink.Proofs.Form
import Mathlib

/-!
# What a login is sent with

Every text of the settings loses the blanks at its ends before it becomes part of a credential, and
a text of nothing but blanks counts as missing. Behind that gate nothing is changed any more: the
form that is sent reads as the name and the password of the credential.

## Main definitions

* `Text.Trims`, a text without the blanks at its ends.
* `Account.Config.Chosen`, which credential the settings come to, and why there is none.

## Main statements

* `Text.trims_iff`, trimming does what it is for and nothing else does.
* `Account.Config.credential_chosen`, how the settings choose.
* `Account.Bridge.login_carries_credentials`, what a login is sent with.
-/

namespace HeaterLink

/-! ## Blanks at the ends -/

namespace Text

/-- Without a blank at either end. -/
def Plain (s : String) : Prop :=
  (∀ c ∈ s.toList.head?, isBlank c = false) ∧ ∀ c ∈ s.toList.getLast?, isBlank c = false

/-- All that is left of a text without the blanks at its ends. -/
structure Trims (s t : String) : Prop where
  inside : ∃ front back, s.toList = front ++ t.toList ++ back ∧
    (∀ c ∈ front, isBlank c = true) ∧ ∀ c ∈ back, isBlank c = true
  plain : Plain t

theorem toList_trim (s : String) :
    (trim s).toList = (s.toList.dropWhile isBlank).rdropWhile isBlank := String.toList_ofList

theorem plain_trim (s : String) : Plain (trim s) := by
  rw [Plain, toList_trim]
  have first := List.head?_dropWhile_not isBlank s.toList
  generalize s.toList.dropWhile isBlank = cs at first
  obtain ⟨back, split⟩ := List.rdropWhile_prefix isBlank cs
  constructor
  · intro c hc
    rw [← split, List.head?_append, hc] at first
    simpa using first
  · intro c hc
    obtain ⟨ne, rfl⟩ := List.mem_getLast?_eq_getLast hc
    simpa using List.rdropWhile_last_not isBlank cs ne

theorem rdropWhile_append_blank {cs back : List Char} (h : ∀ c ∈ back, isBlank c = true) :
    (cs ++ back).rdropWhile isBlank = cs.rdropWhile isBlank := by
  rw [List.rdropWhile, List.rdropWhile, List.reverse_append,
    List.dropWhile_append_of_pos fun c hc => h c (List.mem_reverse.1 hc)]

/-- Only one text is left. -/
theorem Trims.eq_trim {s t : String} (h : Trims s t) : t = trim s := by
  obtain ⟨⟨front, back, split, blank_front, blank_back⟩, plain⟩ := h
  have front_gone : s.toList.dropWhile isBlank = (t.toList ++ back).dropWhile isBlank := by
    rw [split, List.append_assoc, List.dropWhile_append_of_pos blank_front]
  rw [← String.toList_inj, toList_trim, front_gone]
  cases ht : t.toList with
  | nil => rw [List.nil_append, List.dropWhile_eq_nil_iff.2 blank_back, List.rdropWhile_nil]
  | cons c cs =>
    have first : ¬ isBlank c = true := by
      rw [plain.1 c (by simp [ht])]
      decide
    rw [List.cons_append, List.dropWhile_cons_of_neg first, ← List.cons_append,
      rdropWhile_append_blank blank_back, ← ht, eq_comm, List.rdropWhile_eq_self_iff]
    intro ne
    rw [plain.2 _ (List.getLast?_eq_getLast_of_ne_nil ne)]
    decide

theorem trims_iff {s t : String} : Trims s t ↔ t = trim s := by
  refine ⟨Trims.eq_trim, ?_⟩
  rintro rfl
  refine ⟨⟨s.toList.takeWhile isBlank, (s.toList.dropWhile isBlank).rtakeWhile isBlank, ?_,
    fun c => List.mem_takeWhile_imp, fun c => List.mem_rtakeWhile_imp⟩, plain_trim s⟩
  rw [toList_trim, List.append_assoc, List.rdropWhile_append_rtakeWhile,
    List.takeWhile_append_dropWhile]

theorem trim_eq_self_iff {s : String} : trim s = s ↔ Plain s := by
  refine ⟨fun h => h ▸ plain_trim s, fun plain => ?_⟩
  have whole : Trims s s := ⟨⟨[], [], by simp, by simp, by simp⟩, plain⟩
  exact whole.eq_trim.symm

end Text

namespace Account

/-! ## Credentials -/

theorem nonBlank_eq_some_iff {value : Option String} {t : String} :
    nonBlank value = some t ↔ ∃ s, value = some s ∧ t = Text.trim s ∧ t ≠ "" := by
  cases value with
  | none => simp [nonBlank]
  | some s =>
    simp only [nonBlank, Option.map_some, Option.filter_eq_some_iff, Option.some.injEq, ne_eq,
      decide_not, Bool.not_eq_true', decide_eq_false_iff_not, exists_eq_left']
    exact and_congr_left fun _ => eq_comm

namespace Config

/-- What the settings come to: a login with a key, which must be hexadecimal, and only without
these a name with a password. -/
inductive Chosen (c : Config) : Except Error Credential → Prop where
  | signed {account : Int64} {key : String} {bytes : List UInt8} (hl : c.loginId = some account)
      (hk : nonBlank c.privateKey = some key) (hd : KeyText.decode key = .ok bytes) :
      Chosen c (.ok (.signed account key))
  | badKey {account : Int64} {key : String} {fault : KeyFault} (hl : c.loginId = some account)
      (hk : nonBlank c.privateKey = some key) (hd : KeyText.decode key = .error fault) :
      Chosen c (.error (.config (.badKey fault)))
  | password {name password : String} (hn : c.loginId = none ∨ nonBlank c.privateKey = none)
      (hu : nonBlank c.username = some name) (hp : nonBlank c.password = some password) :
      Chosen c (.ok (.password name password))
  | nothing (hn : c.loginId = none ∨ nonBlank c.privateKey = none)
      (hu : nonBlank c.username = none ∨ nonBlank c.password = none) :
      Chosen c (.error (.config .noCredential))

theorem credential_chosen (c : Config) : c.Chosen c.credential := by
  unfold credential
  split
  · next account key hl hk =>
    rw [signedCredential]
    split
    · next bytes hd => exact .signed hl hk hd
    · next fault hd => exact .badKey hl hk hd
  · next h =>
    have hn : c.loginId = none ∨ nonBlank c.privateKey = none := by
      cases hl : c.loginId with
      | none => exact .inl rfl
      | some account => exact .inr (Option.eq_none_iff_forall_ne_some.2 fun key => h account key hl)
    rw [passwordCredential?]
    cases hu : nonBlank c.username with
    | none => exact .nothing hn (.inl hu)
    | some name =>
      cases hp : nonBlank c.password with
      | none => exact .nothing hn (.inr hp)
      | some password => exact .password hn hu hp

end Config

/-! ## The login -/

namespace Bridge

variable {b : Bridge} {name password : String} {client : Cloud.Client}

theorem sent_login (hc : b.config.credential = .ok (.password name password))
    (hb : b.build none = .ok client) :
    (b.step .signIn).2 =
      [.waiting (.operation b.operations.length) (some (b.loginRequest name password))] := by
  have builds := b.build_builds none
  rw [hb] at builds
  simp only [step, beginSignIn, hc, loginCall_eq, hb, Except.map, suspend, request_login builds]

theorem decode_loginRequest (b : Bridge) (name password : String) :
    Form.decode? (b.loginRequest name password).body =
      some [("login", name), ("password", password)] := Form.decode?_encode _

/--
A login is sent with the name and the password, in this order, whatever characters they have. Of
what is configured the blanks at the ends are missing, so a password arrives as it is configured if
it has none there.
-/
theorem login_carries_credentials (hc : b.config.credential = .ok (.password name password))
    (hb : b.build none = .ok client) :
    ∃ request configuredName configuredPassword,
      (b.step .signIn).2 = [.waiting (.operation b.operations.length) (some request)] ∧
      Form.decode? request.body = some [("login", name), ("password", password)] ∧
      b.config.username = some configuredName ∧ Text.Trims configuredName name ∧ name ≠ "" ∧
      b.config.password = some configuredPassword ∧ Text.Trims configuredPassword password ∧
      password ≠ "" ∧ (password = configuredPassword ↔ Text.Plain configuredPassword) := by
  have chosen := b.config.credential_chosen
  rw [hc] at chosen
  cases chosen with
  | password hn hu hp =>
    obtain ⟨configuredName, username, rfl, name_left⟩ := nonBlank_eq_some_iff.1 hu
    obtain ⟨configuredPassword, secret, rfl, password_left⟩ := nonBlank_eq_some_iff.1 hp
    exact ⟨_, configuredName, configuredPassword, sent_login hc hb, decode_loginRequest b _ _,
      username, Text.trims_iff.2 rfl, name_left, secret, Text.trims_iff.2 rfl, password_left,
      Text.trim_eq_self_iff⟩

/-- Settings with nothing but a name and a password. -/
def named (name password : String) : Config :=
  { username := some name, password := some password }

theorem build_named (name password : String) (registry : Registry) :
    (fresh (named name password) .bare registry 0).build none =
      .ok ⟨Http.trimSlashes Endpoint.cloud, none⟩ := rfl

/-- Marks of the form and characters beyond ASCII arrive; a blank inside the password stays. -/
theorem login_carries_credentials_marks :
    let b := fresh (named "me@home.no " "p&w =ø") .bare {} 0
    b.config.credential = .ok (.password "me@home.no" "p&w =ø") ∧
    ∃ request, (b.step .signIn).2 = [.waiting (.operation 0) (some request)] ∧
      Form.decode? request.body = some [("login", "me@home.no"), ("password", "p&w =ø")] := by
  have chosen : (named "me@home.no " "p&w =ø").credential =
      .ok (.password "me@home.no" "p&w =ø") := by
    decide +kernel
  obtain ⟨request, -, -, sent, body, -⟩ := login_carries_credentials chosen (build_named _ _ {})
  exact ⟨chosen, request, sent, body⟩

/-- Of a password that begins with a blank, the blank is not sent. -/
theorem not_every_password_unchanged :
    ¬ ∀ (b : Bridge) (name password configured : String) (client : Cloud.Client),
      b.config.credential = .ok (.password name password) → b.build none = .ok client →
      b.config.password = some configured →
      ∃ request, (b.step .signIn).2 =
          [.waiting (.operation b.operations.length) (some request)] ∧
        Form.decode? request.body = some [("login", name), ("password", configured)] := by
  intro h
  let b := fresh (named "me" " pw") .bare {} 0
  have chosen : b.config.credential = .ok (.password "me" "pw") := by
    decide +kernel
  obtain ⟨request, sent, body⟩ := h b _ _ " pw" _ chosen (build_named _ _ _) rfl
  rw [sent_login chosen (build_named _ _ _)] at sent
  obtain rfl : b.loginRequest "me" "pw" = request := by simpa using sent
  rw [decode_loginRequest] at body
  simp at body

end Bridge

end Account

end HeaterLink
