import HeaterLink.Proofs.Account.Login
import HeaterLink.Proofs.Signing.KeyReading
import HeaterLink.Proofs.Text
import Mathlib

/-!
# What is shown of an account

What is shown of the settings and of a credential has neither the key nor the password in it. The
one text that a secret gets into is the report of a key with a character that is no digit: it names
the character and its place.

## Main definitions

* `Account.SameCause`, two failures of the settings that differ in nothing but the secrets.
* `Account.fragment?`, the piece of a key that an error gives away.

## Main statements

* `Hex.Fault.message_badDigit_inj`, the report of a bad digit tells which and where.
* `Account.Bridge.secrets_shown_iff`, what is shown of two settings with different secrets.
-/

namespace HeaterLink

/-! ## The report of a bad digit -/

/-- The last mark of a text is found again. -/
theorem append_mark_inj {mark : Char} {cs ds front back : List Char} (hcs : mark ∉ cs)
    (hds : mark ∉ ds) (h : front ++ mark :: cs = back ++ mark :: ds) : front = back ∧ cs = ds := by
  rcases List.append_eq_append_iff.1 h with ⟨more, rfl, split⟩ | ⟨more, rfl, split⟩
  · cases more with
    | nil => simpa using split
    | cons c more =>
      obtain ⟨-, rfl⟩ := List.cons.inj split
      simp at hcs
  · cases more with
    | nil => simpa [eq_comm] using split
    | cons c more =>
      obtain ⟨-, rfl⟩ := List.cons.inj split
      simp at hds

/-- The code of the character that an escape stands for. -/
def Quoted.code : List Char → Nat
  | [c] => c.toNat
  | [_, c] =>
    if c = '0' then 0
    else if c = 't' then 9
    else if c = 'n' then 10
    else if c = 'r' then 13
    else c.toNat
  | cs => (cs.drop 3).dropLast.foldl (fun n c => 16 * n + (Hex.value? c.toNat).getD 0) 0

theorem Quoted.code_letter {c x : Char} (h : letter? c = some x) : code ['\\', x] = c.toNat := by
  unfold letter? at h
  split_ifs at h with nul tab cr lf backslash
  all_goals obtain rfl := Option.some.inj h
  · rw [nul]; rfl
  · rw [tab]; rfl
  · rw [cr]; rfl
  · rw [lf]; rfl
  · rw [backslash]; rfl

theorem Quoted.code_escape {c : Char} (hc : c.toNat < 256) : code (escape '\'' c) = c.toNat := by
  have braced : ∀ n < 256,
      code (['\\', 'u', '\x7b'] ++ Nat.toDigits 16 n ++ ['\x7d']) = n := by
    decide +kernel
  unfold escape
  split
  · next x lettered => exact code_letter lettered
  · split_ifs with quote shown hidden
    · rw [quote]
      rfl
    · rfl
    · exact braced _ hc
    · rfl

theorem Hex.Fault.toList_message_badDigit (byte : UInt8) (index : Nat) :
    (badDigit byte index).message.toList =
      ("Invalid character '".toList ++ (Quoted.escape '\'' (Char.ofNat byte.toNat) ++
        "' at position".toList)) ++ ' ' :: Nat.toDigits 10 index := by
  have digits : index.repr.toList = Nat.toDigits 10 index := String.toList_ofList
  have parts : (badDigit byte index).message = "Invalid character " ++
      Quoted.character (Char.ofNat byte.toNat) ++ " at position " ++ index.repr := rfl
  simp [parts, digits, Quoted.character]

theorem Hex.Fault.message_badDigit_inj {byte byte' : UInt8} {index index' : Nat} :
    (badDigit byte index).message = (badDigit byte' index').message ↔
      byte = byte' ∧ index = index' := by
  constructor
  · intro h
    have blank (n : Nat) : ' ' ∉ Nat.toDigits 10 n := fun mem =>
      absurd (Decimal.isDigit_of_mem_nat mem) (by decide)
    have latin : ∀ n < 256, (Char.ofNat n).toNat = n := by decide +kernel
    have number (b : UInt8) : (Char.ofNat b.toNat).toNat = b.toNat := latin _ b.toNat_lt
    have small (b : UInt8) : (Char.ofNat b.toNat).toNat < 256 := by
      rw [number]
      exact b.toNat_lt
    rw [← String.toList_inj, toList_message_badDigit, toList_message_badDigit] at h
    obtain ⟨front, digits⟩ := append_mark_inj (blank index) (blank index') h
    have escapes := List.append_cancel_right (List.append_cancel_left front)
    have codes := congrArg Quoted.code escapes
    rw [Quoted.code_escape (small byte), Quoted.code_escape (small byte'), number, number] at codes
    refine ⟨UInt8.toNat_inj.1 codes, ?_⟩
    have numbers := congrArg Decimal.toInt digits
    rw [← Decimal.nat, ← Decimal.nat, Decimal.toInt_nat, Decimal.toInt_nat] at numbers
    exact Int.ofNat.inj numbers
  · rintro ⟨rfl, rfl⟩
    rfl

namespace Account

/-! ## Shown text -/

/-- Credentials of the same kind. -/
def Credential.SameKind : Credential → Credential → Prop
  | .signed _ _, .signed _ _ => True
  | .password _ _, .password _ _ => True
  | _, _ => False

/-- Failures of the same kind: no credential, a key of separators only, an odd number of digits, a
character that is no digit. -/
inductive SameCause : Error → Error → Prop where
  | noCredential : SameCause (.config .noCredential) (.config .noCredential)
  | emptyKey : SameCause (.config (.badKey .empty)) (.config (.badKey .empty))
  | oddKey :
      SameCause (.config (.badKey (.notHex .oddLength))) (.config (.badKey (.notHex .oddLength)))
  | badDigit (byte byte' : UInt8) (index index' : Nat) :
      SameCause (.config (.badKey (.notHex (.badDigit byte index))))
        (.config (.badKey (.notHex (.badDigit byte' index'))))

/-- What an error tells of the key: a byte and its place. -/
def fragment? : Error → Option (UInt8 × Nat)
  | .config (.badKey (.notHex (.badDigit byte index))) => some (byte, index)
  | _ => none

/-- The settings with other secrets. -/
def Config.withSecrets (c : Config) (key? password? : Option String) : Config :=
  { c with privateKey := key?, password := password? }

theorem Config.shown_withSecrets (c : Config) (key? password? : Option String) :
    (c.withSecrets key? password?).shown = c.shown := rfl

theorem Config.shown_credential {c : Config} {key? password? : Option String} {x x' : Credential}
    (h : c.credential = .ok x) (h' : (c.withSecrets key? password?).credential = .ok x')
    (same : x.SameKind x') : x'.shown = x.shown := by
  have chosen := c.credential_chosen
  have chosen' := (c.withSecrets key? password?).credential_chosen
  rw [h] at chosen
  rw [h'] at chosen'
  cases chosen with
  | signed hl =>
    cases chosen' with
    | signed hl' =>
      obtain rfl := Option.some.inj (hl.symm.trans hl')
      rfl
    | password => exact same.elim
  | password _ hu =>
    cases chosen' with
    | signed => exact same.elim
    | password _ hu' =>
      obtain rfl := Option.some.inj (hu.symm.trans hu')
      rfl

/-- There is no other cause. -/
theorem Config.sameCause_self {c : Config} {e : Error} (h : c.credential = .error e) :
    SameCause e e := by
  have chosen := c.credential_chosen
  rw [h] at chosen
  cases chosen with
  | badKey _ _ hd =>
    have refused := KeyText.decode_eq_error_iff.1 hd
    generalize KeyText.compact _ = cs at refused
    cases refused with
    | empty => exact .emptyKey
    | oddLength => exact .oddKey
    | badDigit => exact .badDigit _ _ _ _
  | nothing => exact .noCredential

theorem message_badDigit (byte : UInt8) (index : Nat) :
    Error.message (.config (.badKey (.notHex (.badDigit byte index)))) =
      "configuration error: " ++ ("bad private key: " ++ ("private key is not hex: " ++
        (Hex.Fault.badDigit byte index).message)) := rfl

theorem SameCause.message_eq_iff {e e' : Error} (h : SameCause e e') :
    e'.message = e.message ↔ fragment? e' = fragment? e := by
  cases h with
  | badDigit byte byte' index index' =>
    simp [message_badDigit, Hex.Fault.message_badDigit_inj, fragment?]
  | _ => simp

namespace Bridge

theorem step_signIn_refused {b : Bridge} {e : Error} (h : b.config.credential = .error e) :
    b.step .signIn = b.reporting .configurationError e := by
  simp only [step, beginSignIn, h]
  rfl

/--
Settings are shown alike whatever their secrets, and so are credentials of one kind. A sign-in that
fails for its settings reports their fault, and two of them that fail for one cause report it in the
same words, unless the cause is a character that is no digit: then the words are the same only if
the character and its place in the key are.
-/
theorem secrets_shown_iff (b : Bridge) (key? password? : Option String) :
    let other : Bridge := { b with config := b.config.withSecrets key? password? }
    other.config.shown = b.config.shown ∧
    (∀ x x', b.config.credential = .ok x → other.config.credential = .ok x' →
      x.SameKind x' → x'.shown = x.shown) ∧
    ∀ e e', b.config.credential = .error e → other.config.credential = .error e' →
      SameCause e e ∧
      b.step .signIn = b.reporting .configurationError e ∧
      other.step .signIn = other.reporting .configurationError e' ∧
      (SameCause e e' → (e'.message = e.message ↔ fragment? e' = fragment? e)) :=
  ⟨Config.shown_withSecrets _ _ _, fun _ _ => Config.shown_credential, fun _ _ h h' =>
    ⟨Config.sameCause_self h, step_signIn_refused h, step_signIn_refused h',
      SameCause.message_eq_iff⟩⟩

/-- Settings with nothing but an account and a key. -/
def keyed (key : String) : Config := { loginId := some 7, privateKey := some key }

/-- Two keys with an odd number of digits are reported alike. -/
theorem secrets_shown_iff_oddKeys :
    let b := fresh (keyed "30:8") .bare {} 0
    let other := fresh (keyed "1") .bare {} 0
    other.config.shown = b.config.shown ∧
    (other.step .signIn).1.registry = (b.step .signIn).1.registry := by
  intro b other
  have first : b.config.credential = .error (.config (.badKey (.notHex .oddLength))) := by
    decide +kernel
  have second : other.config.credential = .error (.config (.badKey (.notHex .oddLength))) := by
    decide +kernel
  obtain ⟨shown, -, failed⟩ := secrets_shown_iff b (some "1") none
  obtain ⟨-, reported, reported', -⟩ := failed _ _ first second
  exact ⟨shown, (congrArg (fun after => after.1.registry) reported').trans
    (congrArg (fun after => after.1.registry) reported).symm⟩

/-- The letter that makes a key unreadable is in the report, so two such keys are told apart. -/
theorem not_every_secret_hidden :
    ¬ ∀ (b : Bridge) (key? password? : Option String) (e e' : Error),
      b.config.credential = .error e →
      (b.config.withSecrets key? password?).credential = .error e' → SameCause e e' →
      e'.message = e.message := by
  intro h
  let b := fresh (keyed "xx") .bare {} 0
  have first : b.config.credential = .error (.config (.badKey (.notHex (.badDigit 0x78 0)))) := by
    decide +kernel
  have second : (b.config.withSecrets (some "zz") none).credential =
      .error (.config (.badKey (.notHex (.badDigit 0x7A 0)))) := by
    decide +kernel
  have alike := h b _ _ _ _ first second (.badDigit _ _ _ _)
  rw [SameCause.message_eq_iff (.badDigit _ _ _ _)] at alike
  exact absurd alike (by decide)

end Bridge

end Account

end HeaterLink
