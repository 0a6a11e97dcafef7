import HeaterLink.Cloud.Client

/-!
# Account settings

What a host stores for one account: a login with its private key or a user name
with its password, how often to poll, and where and how to reach the service.
The secrets are left out of every text that shows the settings.

## Main definitions

* `Account.Config`, the settings.
* `Account.Config.credential`, the credential to use; a key wins over a password.
* `Account.Config.clientSettings`, what the cloud client is built from.
-/

namespace HeaterLink.Account

structure Config where
  loginId : Option Int64 := none
  privateKey : Option String := none
  username : Option String := none
  password : Option String := none
  pollIntervalSecs : UInt64 := 60
  offlinePollIntervalSecs : UInt64 := 120
  initialDelaySecs : UInt64 := 5
  /-- The file with the only certificates to trust. -/
  trustAnchor : Option String := none
  baseUrl : Option String := none
deriving DecidableEq

/-- What an account logs in with. -/
inductive Credential where
  | signed (loginId : Int64) (privateKey : String)
  | password (username password : String)
deriving DecidableEq

/-- A value without the blanks around it, if anything is left. -/
def nonBlank (value : Option String) : Option String :=
  (value.map Text.trim).filter fun s => s ≠ ""

namespace Config

/-! ## Credentials -/

/-- The credential of a login and a key, whose text must be hexadecimal. -/
def signedCredential (loginId : Int64) (key : String) : Except Error Credential :=
  match KeyText.decode key with
  | .ok _ => .ok (.signed loginId key)
  | .error fault => .error (.config (.badKey fault))

def passwordCredential? (c : Config) : Option Credential := do
  return .password (← nonBlank c.username) (← nonBlank c.password)

def credential (c : Config) : Except Error Credential :=
  match c.loginId, nonBlank c.privateKey with
  | some loginId, some key => signedCredential loginId key
  | _, _ =>
    match c.passwordCredential? with
    | some credential => .ok credential
    | none => .error (.config .noCredential)

/-! ## Client settings -/

/-- The bytes of the trust anchor, if one is configured. -/
def anchor? (c : Config) (environment : Environment) : Except Error (Option ByteArray) :=
  match c.trustAnchor with
  | none => .ok none
  | some path =>
    match environment.file path with
    | .ok bytes => .ok (some bytes)
    | .error words => .error (.config (.unreadableAnchor path words))

def clientSettings (c : Config) (environment : Environment) : Except Error Cloud.Settings := do
  let anchor? ← c.anchor? environment
  return { baseUrl := c.baseUrl.getD Endpoint.cloud, anchor? := anchor? }

/-! ## Shown text -/

def shownNumber (n : Nat) : String := String.ofList (Decimal.nat n)

/-- The fields of a shown value, with a mark that others are left out. -/
def shownFields (name : String) (fields : List (String × String)) : String :=
  name ++ " \x7b " ++ String.join (fields.map fun f => f.1 ++ ": " ++ f.2 ++ ", ") ++ ".. \x7d"

def shown (c : Config) : String :=
  shownFields "AccountConfig"
    [("login_id", Quoted.optional (fun n : Int64 => Decimal.text n.toInt) c.loginId),
     ("username", Quoted.optional Quoted.text c.username),
     ("poll_interval_secs", shownNumber c.pollIntervalSecs.toNat),
     ("offline_poll_interval_secs", shownNumber c.offlinePollIntervalSecs.toNat),
     ("initial_delay_secs", shownNumber c.initialDelaySecs.toNat),
     ("trust_anchor_pem", Quoted.optional Quoted.text c.trustAnchor),
     ("base_url", Quoted.optional Quoted.text c.baseUrl)]

end Config

/-- A credential without its secret. -/
def Credential.shown : Credential → String
  | .signed loginId _ => Config.shownFields "Signed" [("login_id", Decimal.text loginId.toInt)]
  | .password username _ => Config.shownFields "Password" [("username", Quoted.text username)]

end HeaterLink.Account
