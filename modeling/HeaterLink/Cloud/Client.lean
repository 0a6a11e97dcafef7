import HeaterLink.Endpoint
import HeaterLink.Envelope
import HeaterLink.Form
import HeaterLink.Http
import HeaterLink.Record.Heater
import HeaterLink.Record.Login
import HeaterLink.Record.Zone
import HeaterLink.Signing.Signature

/-!
# The cloud client

Every call is a form-encoded POST that is answered with an envelope. Calls for
an account carry a signature over the integers in their path; logging in and
registering are not signed.

## Main definitions

* `Cloud.Client.build`, a client from its settings.
* `Cloud.Client.heaters`, `heater`, `zones`, `zone`, `setZoneTarget`, the account calls.
* `Cloud.Client.login`, `register`, the calls that yield a signing identity.
-/

namespace HeaterLink.Cloud

/-- Who signs the calls of an account. -/
structure Identity where
  account : Int64
  key : SigningKey

structure Client where
  baseUrl : String
  identity? : Option Identity

/-- What a client is built from. -/
structure Settings where
  /-- The base address; slashes at its end do not count. -/
  baseUrl : String := Endpoint.cloud
  /-- The account and its private key. -/
  credentials? : Option (Int64 × String) := none
  /-- The only certificates to trust. -/
  anchor? : Option ByteArray := none

namespace Client

/-- A key that cannot be read is reported before a trust anchor that cannot. -/
def build (environment : Environment) (settings : Settings) : Except Error Client := do
  let identity? ← match settings.credentials? with
    | none => pure none
    | some (account, text) =>
      match SigningKey.ofText environment text with
      | .ok key => pure (some ⟨account, key⟩)
      | .error fault => throw (.signing fault)
  match settings.anchor?.bind environment.anchorFault? with
  | some words => throw (.http none words)
  | none => return ⟨Http.trimSlashes settings.baseUrl, identity?⟩

def account? (c : Client) : Option Int64 := c.identity?.map Identity.account

def identity (c : Client) : Except Error Identity :=
  match c.identity? with
  | some i => .ok i
  | none => .error (.config .unsigned)

/-! ## Requests -/

def headers : List (String × String) :=
  [("connection", "close"), ("accept-language", "en-US,en;q=0.5"),
   ("content-type", "application/x-www-form-urlencoded")]

variable {R : Type} [Record R]

def post (c : Client) (path : String) (params : List (String × String)) : Http.Call (List R) where
  request := ⟨.post, c.baseUrl ++ path, headers, Form.encode params⟩
  receive outcome := outcome.body? >>= Envelope.decode false

/-- A call signed over these parts. Where the search for the signature goes on forever, no call is
made and nothing is reported: the fault `exhausted` stands for that. -/
def postSigned (c : Client) (path : Int64 → String) (parts : Int64 → List Signing.Part) :
    Except Error (Http.Call (List R)) := do
  let i ← c.identity
  match i.key.sign (parts i.account) with
  | .ok signature => return c.post (path i.account) [("signature", signature)]
  | .error fault => throw (.signing fault)

/-! ## Account calls -/

def heaters (c : Client) : Except Error (Http.Call (List Heater)) :=
  c.postSigned Endpoint.heaters fun account => [.long account]

def heater (c : Client) (id : Int64) : Except Error (Http.Call (Option Heater)) :=
  (c.postSigned (Endpoint.heater id) fun account => [.long account, .long id]).map Http.Call.first

def zones (c : Client) : Except Error (Http.Call (List Zone)) :=
  c.postSigned Endpoint.zones fun account => [.long account]

def zone (c : Client) (id : Int64) : Except Error (Http.Call (Option Zone)) :=
  (c.postSigned (Endpoint.zone id) fun account => [.long account, .long id]).map Http.Call.first

/-- Sets the target of a zone; the answer is the zone as it is then. -/
def setZoneTarget (c : Client) (id : Int64) (target : Temperature) :
    Except Error (Http.Call (Option Zone)) :=
  (c.postSigned (fun account => Endpoint.zoneTarget id account target.hundredths) fun account =>
    [.long id, .long account, .int target.hundredths]).map Http.Call.first

/-! ## Logging in -/

/-- Exchanges a name and a password for a signing identity. -/
def login (c : Client) (name password : String) : Http.Call (Option Login) :=
  (c.post Endpoint.login [("login", name), ("password", password)]).first

def register (c : Client) (token : String) (offsetMinutes : Int32) (locale : String) :
    Http.Call (Option Login) :=
  (c.post Endpoint.google
    [("idToken", token), ("localeName", locale),
     ("timeOffset", Decimal.text offsetMinutes.toInt)]).first

end Client

end HeaterLink.Cloud
