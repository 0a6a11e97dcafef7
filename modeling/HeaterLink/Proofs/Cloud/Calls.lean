import HeaterLink.Cloud.Client
import HeaterLink.Proofs.Endpoint
import HeaterLink.Proofs.Form
import HeaterLink.Proofs.Http
import Mathlib.Control.Monad.Basic

/-!
# Calls for an account

No two calls for an account go to the same path, and each is signed over the numbers in its path.

## Main definitions

* `Cloud.AccountCall`, what can be asked for an account, with its `path` and its `parts`.
* `Cloud.AccountCall.exchange`, the one request of a call and what is made of the answer.

## Main statements

* `Cloud.AccountCall.path_injective`, the path of a call and an account belongs to no others.
* `Cloud.AccountCall.signs_path`, the signed numbers are those in the path.
* `Cloud.AccountCall.made_eq`, what a call is, or why it cannot be made.
* `Cloud.AccountCall.unambiguous`, all of this, and what becomes of a call.
-/

namespace HeaterLink

/-- The number that a part of a signed text is, whatever its width. -/
def Signing.Part.number? : Part → Option Int
  | long n => some n.toInt
  | int n => some n.toInt
  | text _ | byte _ | bytes _ => none

namespace Cloud

/-- What can be asked for an account. -/
inductive AccountCall where
  | heaters
  | heater (id : Int64)
  | zones
  | zone (id : Int64)
  | setZoneTarget (id : Int64) (target : Temperature)
deriving DecidableEq, Repr

namespace AccountCall

/-- A call for one record is answered with that record, if it is there. -/
def Answer : AccountCall → Type
  | heaters => List Heater
  | heater _ => Option Heater
  | zones => List Zone
  | zone _ | setZoneTarget _ _ => Option Zone

/-- The call as a client makes it. -/
def made (c : Client) : (call : AccountCall) → Except Error (Http.Call call.Answer)
  | heaters => c.heaters
  | heater id => c.heater id
  | zones => c.zones
  | zone id => c.zone id
  | setZoneTarget id target => c.setZoneTarget id target

/-- What is made of the body of an answer. -/
def read : (call : AccountCall) → ByteArray → Except Error call.Answer
  | heaters, body => Envelope.decode (R := Heater) false body
  | heater _, body => (Envelope.decode (R := Heater) false body).map List.head?
  | zones, body => Envelope.decode (R := Zone) false body
  | zone _, body | setZoneTarget _ _, body =>
    (Envelope.decode (R := Zone) false body).map List.head?

def path : AccountCall → Int64 → String
  | heaters, account => Endpoint.heaters account
  | heater id, account => Endpoint.heater id account
  | zones, account => Endpoint.zones account
  | zone id, account => Endpoint.zone id account
  | setZoneTarget id target, account => Endpoint.zoneTarget id account target.hundredths

/-- What is signed. The account comes first, unless a zone is to be changed. -/
def parts : AccountCall → Int64 → List Signing.Part
  | heaters, account | zones, account => [.long account]
  | heater id, account | zone id, account => [.long account, .long id]
  | setZoneTarget id target, account => [.long id, .long account, .int target.hundredths]

variable {call other : AccountCall} {account account' : Int64}

/-! ## Paths -/

open Endpoint in
/-- The segments of a path. -/
def segments : AccountCall → Int64 → List (List Char)
  | heaters, account => [segment "rest", segment "heaters", segment "list", number account]
  | heater id, account =>
    [segment "rest", segment "heaters", segment "heater", number id, number account]
  | zones, account => [segment "rest", segment "zones", segment "list", number account]
  | zone id, account => [segment "rest", segment "zones", number id, number account]
  | setZoneTarget id target, account =>
    [segment "rest", segment "zones", number id, segment "target_temperature", number account,
      Decimal.int target.hundredths.toInt]

theorem path_eq : call.path account = String.ofList (Endpoint.path (call.segments account)) := by
  cases call <;> rfl

/-- No word in a path has a slash in it or is a number. -/
theorem words_plain : ∀ word ∈ ["", "rest", "heaters", "heater", "zones", "list",
      "target_temperature"],
    '/' ∉ Endpoint.segment word ∧ Endpoint.number? (Endpoint.segment word) = none := by
  decide

theorem isBeyond_path (call : AccountCall) : Http.IsBeyond (call.path account) := by
  cases call <;> exact ⟨'/', by decide, _, String.toList_ofList⟩

theorem slash_not_mem_segments : ∀ s ∈ call.segments account, '/' ∉ s := by
  have words := words_plain
  simp only [List.forall_mem_cons] at words
  cases call <;> simp [segments, Endpoint.number, Endpoint.slash_not_mem_int, words]

/-- Where one call has a number another may have a word, which no number is. -/
theorem segments_injective (h : call.segments account = other.segments account') :
    call = other ∧ account = account' := by
  have list : ∀ n, Endpoint.number n ≠ Endpoint.segment "list" :=
    Endpoint.number_ne_of_word (by decide)
  have kinds : Endpoint.segment "heaters" ≠ Endpoint.segment "zones" := by decide
  -- two kinds of calls differ in length, in a word, or in whether a segment is a word at all
  cases call <;> cases other <;>
    simp [segments, kinds, kinds.symm, list, (list _).symm, Int32.toInt_inj] at h ⊢
  case heaters.heaters => exact h
  case heater.heater => exact h
  case zones.zones => exact h
  case zone.zone => exact h
  case setZoneTarget.setZoneTarget id target id' target' =>
    obtain ⟨zone, account, value⟩ := h
    exact ⟨⟨zone, congrArg Temperature.mk value⟩, account⟩

theorem path_injective (h : call.path account = other.path account') :
    call = other ∧ account = account' := by
  rw [path_eq, path_eq, String.ofList_inj] at h
  exact segments_injective
    (Endpoint.path_injective slash_not_mem_segments slash_not_mem_segments h)

/-- The numbers in a path, from the left. -/
def numbers : AccountCall → Int64 → List Int
  | heaters, account | zones, account => [account.toInt]
  | heater id, account | zone id, account => [id.toInt, account.toInt]
  | setZoneTarget id target, account => [id.toInt, account.toInt, target.hundredths.toInt]

theorem spelled_path : Endpoint.spelled (call.path account) = call.numbers account := by
  have words := words_plain
  have front : Endpoint.segment "" = [] := rfl
  simp only [List.forall_mem_cons, front] at words
  rw [Endpoint.spelled, path_eq, String.toList_ofList,
    Endpoint.splitOn_path slash_not_mem_segments]
  cases call <;> simp [segments, numbers, words]

theorem signs_path : ∃ signed : List Int,
    (call.parts account).map Signing.Part.number? = signed.map some ∧
      signed.Perm (Endpoint.spelled (call.path account)) := by
  rw [spelled_path]
  cases call with
  | heaters => exact ⟨[account.toInt], rfl, .refl _⟩
  | heater id => exact ⟨[account.toInt, id.toInt], rfl, .swap _ _ _⟩
  | zones => exact ⟨[account.toInt], rfl, .refl _⟩
  | zone id => exact ⟨[account.toInt, id.toInt], rfl, .swap _ _ _⟩
  | setZoneTarget id target =>
    exact ⟨[id.toInt, account.toInt, target.hundredths.toInt], rfl, .refl _⟩

end AccountCall

/-! ## Clients -/

namespace Client

/-- The account of a client and its signature, or why there is none. -/
def signed (c : Client) (parts : Int64 → List Signing.Part) : Except Error (Int64 × String) :=
  match c.identity? with
  | none => .error (.config .unsigned)
  | some i => match i.key.sign (parts i.account) with
    | .ok signature => .ok (i.account, signature)
    | .error fault => .error (.signing fault)

section Signed

variable {R : Type} [Record R] (c : Client) (path : Int64 → String)
  (parts : Int64 → List Signing.Part)

theorem postSigned_eq :
    c.postSigned (R := R) path parts =
      (c.signed parts).map fun s => c.post (path s.1) [("signature", s.2)] := by
  rw [postSigned, identity, signed]
  cases c.identity? with
  | none => rfl
  | some i =>
    simp only [bind, Except.bind]
    cases i.key.sign (parts i.account) <;> rfl

theorem first_post (path : String) (params : List (String × String)) :
    (c.post (R := R) path params).first = {
      request := ⟨.post, c.baseUrl ++ path, headers, Form.encode params⟩
      receive := fun outcome => outcome.body? >>= fun body =>
        (Envelope.decode false body).map List.head? } := by
  simp only [Http.Call.first, Http.Call.map, post, Http.Call.mk.injEq, true_and]
  funext outcome
  cases outcome.body? <;> rfl

theorem first_postSigned :
    (c.postSigned (R := R) path parts).map Http.Call.first =
      (c.signed parts).map fun s => {
        request := ⟨.post, c.baseUrl ++ path s.1, headers, Form.encode [("signature", s.2)]⟩
        receive := fun outcome => outcome.body? >>= fun body =>
          (Envelope.decode (R := R) false body).map List.head? } := by
  rw [postSigned_eq]
  cases c.signed parts with
  | error error => rfl
  | ok s => exact congrArg Except.ok (first_post c (path s.1) [("signature", s.2)])

end Signed

/-- A client has the trimmed address and the identity that the settings state. -/
theorem build_eq_ok {environment : Environment} {settings : Settings} {c : Client}
    (h : build environment settings = .ok c) :
    c.baseUrl = Http.trimSlashes settings.baseUrl ∧
    (settings.credentials? = none → c.identity? = none) ∧
    ∀ account text, settings.credentials? = some (account, text) →
      ∃ key, SigningKey.ofText environment text = .ok key ∧
        c.identity? = some ⟨account, key⟩ := by
  unfold build at h
  cases hc : settings.credentials? with
  | none =>
    simp only [hc, bind, Except.bind, pure, Except.pure] at h
    split at h
    · cases h
    · cases h
      simp
  | some credentials =>
    cases hk : SigningKey.ofText environment credentials.2 with
    | error fault =>
      simp only [hc, hk, bind, Except.bind, throw, throwThe, MonadExceptOf.throw] at h
      cases h
    | ok key =>
      simp only [hc, hk, bind, Except.bind, pure, Except.pure] at h
      split at h
      · cases h
      · cases h
        refine ⟨rfl, nofun, ?_⟩
        rintro account text ⟨⟩
        exact ⟨key, hk, rfl⟩

end Client

namespace AccountCall

/-- The exchange for a call that is signed. -/
def exchange (c : Client) (call : AccountCall) (account : Int64) (signature : String) :
    Http.Call call.Answer where
  request := ⟨.post, c.baseUrl ++ call.path account, Client.headers,
    Form.encode [("signature", signature)]⟩
  receive outcome := outcome.body? >>= call.read

theorem made_eq (c : Client) (call : AccountCall) :
    call.made c = (c.signed call.parts).map fun s => call.exchange c s.1 s.2 := by
  cases call with
  | heaters =>
    rw [made, Client.heaters, Client.postSigned_eq]
    rfl
  | heater id =>
    rw [made, Client.heater, Client.first_postSigned]
    rfl
  | zones =>
    rw [made, Client.zones, Client.postSigned_eq]
    rfl
  | zone id =>
    rw [made, Client.zone, Client.first_postSigned]
    rfl
  | setZoneTarget id target =>
    rw [made, Client.setZoneTarget, Client.first_postSigned]
    rfl

variable {settings : Settings} {c : Client} {call : AccountCall} {account : Int64}
  {key : SigningKey} {signature : String} {fault : KeyFault} {n : Http.Network}

theorem made_of_unsigned (h : c.identity? = none) :
    call.made c = .error (.config .unsigned) := by
  rw [made_eq, Client.signed, h]
  rfl

theorem made_of_refused (h : c.identity? = some ⟨account, key⟩)
    (refused : key.sign (call.parts account) = .error fault) :
    call.made c = .error (.signing fault) := by
  simp only [made_eq, Client.signed, h, refused]
  rfl

theorem made_of_signed (h : c.identity? = some ⟨account, key⟩)
    (signed : key.sign (call.parts account) = .ok signature) :
    call.made c = .ok (call.exchange c account signature) := by
  simp only [made_eq, Client.signed, h, signed]
  rfl

theorem receive_failure {status : Nat} (low : 400 ≤ status) (high : status < 600)
    (body : ByteArray) (words : String) :
    (call.exchange c account signature).receive (.answered status body words) =
      .error (.http (some status) words) :=
  congrArg (· >>= call.read) (Http.Outcome.body?_of_failure body words ⟨low, high⟩)

theorem receive_success {status : Nat} (h : status = 200 ∨ 600 ≤ status) (body : ByteArray)
    (words : String) :
    (call.exchange c account signature).receive (.answered status body words) =
      call.read body := by
  have success : Http.Outcome.body? (.answered status body words) = .ok body := by
    rw [Http.Outcome.body?, if_neg (by omega), if_neg (by omega)]
  exact congrArg (· >>= call.read) success

/--
The path of a call tells which call it is, for which account and of what, and the call is signed
over the numbers in it. It is sent once, to that path, with the signature for a body. Without an
identity or without a signature it is not sent, which is reported unless the fault is `exhausted`:
the search for the signature goes on forever then. A reply in the four or five hundreds is an error
whatever its body, and a status beyond them is read like a success.
-/
theorem unambiguous {environment : Environment} (built : Client.build environment settings = .ok c)
    (call : AccountCall) :
    (∀ account other account', call.path account = other.path account' →
      call = other ∧ account = account') ∧
    (∀ account, ∃ signed : List Int,
      (call.parts account).map Signing.Part.number? = signed.map some ∧
      signed.Perm (Endpoint.spelled (call.path account))) ∧
    (settings.credentials? = none →
      Http.attempt (call.made c) n = (.error (.config .unsigned), n)) ∧
    ∀ account text, settings.credentials? = some (account, text) → ∃ key,
      SigningKey.ofText environment text = .ok key ∧
      (∀ fault, key.sign (call.parts account) = .error fault →
        Http.attempt (call.made c) n = (.error (.signing fault), n)) ∧
      ∀ signature, key.sign (call.parts account) = .ok signature →
        n.environment.Accepts (Http.trimSlashes settings.baseUrl) →
        let outcome := Http.attempt (call.made c) n
        (∃ request, outcome.2.sent = n.sent ++ [request] ∧ request.method = .post ∧
          request.url = Http.trimSlashes settings.baseUrl ++ call.path account ∧
          Form.decode? request.body = some [("signature", signature)]) ∧
        ∀ status body words later, n.outcomes = .answered status body words :: later →
          (400 ≤ status → status < 600 → outcome.1 = .error (.http (some status) words)) ∧
          (status = 200 ∨ 600 ≤ status → outcome.1 = call.read body) := by
  obtain ⟨address, unsigned, identified⟩ := Client.build_eq_ok built
  refine ⟨fun _ _ _ => path_injective, fun _ => signs_path, fun h => ?_, fun account text h => ?_⟩
  · rw [made_of_unsigned (unsigned h), Http.attempt]
  obtain ⟨key, read, identity⟩ := identified account text h
  refine ⟨key, read, fun fault refused => ?_, fun signature signed accepted => ?_⟩
  · rw [made_of_refused identity refused, Http.attempt]
  rw [made_of_signed identity signed, Http.attempt]
  have taken : n.environment.addressFault? (c.baseUrl ++ call.path account) = none := by
    rw [address]
    exact accepted _ call.isBeyond_path
  refine ⟨⟨_, Http.sent_perform taken, rfl, ?_, Form.decode?_encode _⟩,
    fun status body words later next => ?_⟩
  · rw [Http.Request.outgoing, exchange, address]
  rw [Http.receive_perform taken next]
  exact ⟨fun low high => receive_failure low high body words,
    fun h => receive_success h body words⟩

/-! ### An account with a key of eight bits -/

def eightBits : String :=
  "30:20:02:01:00:30:16:06:07:2A:86:48:CE:38:04:01:30:0B:02:02:01:F7:" ++
  "02:02:00:FB:02:01:04:04:03:02:01:07"

def ofEightBits : Settings := ⟨"http://10.0.0.2/api//", some (7, eightBits), none⟩

theorem ofText_eightBits : SigningKey.ofText .bare eightBits = .ok ⟨503, 251, 4, 7, 288⟩ := by
  decide +kernel

theorem build_ofEightBits : Client.build .bare ofEightBits =
    .ok ⟨"http://10.0.0.2/api", some ⟨7, ⟨503, 251, 4, 7, 288⟩⟩⟩ := by
  have address : Http.trimSlashes "http://10.0.0.2/api//" = "http://10.0.0.2/api" := by decide
  simp only [Client.build, ofEightBits, ofText_eightBits, address]
  rfl

theorem sign_eightBits :
    SigningKey.sign ⟨503, 251, 4, 7, 288⟩ ((setZoneTarget 5 ⟨2150⟩).parts 7) =
      .ok "30:08:02:02:00:90:02:02:00:91" := by
  decide +kernel

/-- A server that gives one answer, without a body. -/
def answering (status : Nat) (words : String) : Http.Network where
  environment := .bare
  outcomes := [.answered status .empty words]
  otherwise := .failed "no answer"

/-- A zone is set to 21.5 degrees, and the server refuses. Nobody without a key gets that far. -/
theorem unambiguous_target :
    let call : AccountCall := .setZoneTarget 5 ⟨2150⟩
    let n := answering 503 "Service Unavailable"
    ∃ c, Client.build .bare ofEightBits = .ok c ∧
      (Http.attempt (call.made c) n).1 = .error (.http (some 503) "Service Unavailable") ∧
      (∃ request, (Http.attempt (call.made c) n).2.sent = [request] ∧ request.method = .post ∧
        request.url = "http://10.0.0.2/api/rest/zones/5/target_temperature/7/2150" ∧
        Form.decode? request.body = some [("signature", "30:08:02:02:00:90:02:02:00:91")]) ∧
      ∃ c, Client.build .bare {} = .ok c ∧
        Http.attempt (call.made c) n = (.error (.config .unsigned), n) := by
  intro call n
  have url : Http.trimSlashes "http://10.0.0.2/api//" ++ call.path 7 =
      "http://10.0.0.2/api/rest/zones/5/target_temperature/7/2150" := by decide
  obtain ⟨-, -, -, h⟩ := unambiguous (n := n) build_ofEightBits call
  obtain ⟨key, read, -, h⟩ := h 7 eightBits rfl
  obtain rfl : _ = key := Except.ok.inj (ofText_eightBits.symm.trans read)
  obtain ⟨⟨request, sent, method, address, body⟩, answer⟩ :=
    h _ sign_eightBits fun _ _ => rfl
  have plain : Client.build .bare {} = .ok ⟨Http.trimSlashes Endpoint.cloud, none⟩ := rfl
  obtain ⟨-, -, unsigned, -⟩ := unambiguous (n := n) plain call
  exact ⟨_, build_ofEightBits, (answer 503 .empty _ [] rfl).1 (by decide) (by decide),
    ⟨request, sent, method, address.trans url, body⟩, _, plain, unsigned rfl⟩

/-- A reply with the status 600 is no failure, although the status is above 400. -/
theorem not_failure_from_400 :
    ¬ ∀ (environment : Environment) (settings : Settings) (c : Client) (call : AccountCall)
        (account : Int64) (text : String) (key : SigningKey) (signature : String)
        (n : Http.Network) (status : Nat) (body : ByteArray) (words : String)
        (later : List Http.Outcome),
      Client.build environment settings = .ok c → settings.credentials? = some (account, text) →
      SigningKey.ofText environment text = .ok key →
      key.sign (call.parts account) = .ok signature →
      n.environment.Accepts (Http.trimSlashes settings.baseUrl) →
      n.outcomes = .answered status body words :: later → 400 ≤ status →
      (Http.attempt (call.made c) n).1 = .error (.http (some status) words) := by
  intro h
  let n := answering 600 "no success"
  have failure := h .bare ofEightBits _ (setZoneTarget 5 ⟨2150⟩) 7 eightBits _ _ n 600 .empty _ []
    build_ofEightBits rfl ofText_eightBits sign_eightBits (fun _ _ => rfl) rfl (by decide)
  rw [made_of_signed rfl sign_eightBits, Http.attempt, Http.receive_perform (n := n) rfl rfl,
    receive_success (.inr (by decide))] at failure
  -- a body that is not JSON is an empty reply, hence no error
  have read : ((setZoneTarget 5 ⟨2150⟩).read .empty).toBool = true := by decide +kernel
  simp [failure, Except.toBool] at read

end AccountCall

end Cloud

end HeaterLink
