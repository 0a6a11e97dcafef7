import HeaterLink.Account.Config
import HeaterLink.Json.Skim

/-!
# Account settings as text

Settings are read straight from JSON text, from an object or from an array of
the fields in their order. Members of other names are passed over; a member
given twice, or with a value of the wrong kind, is refused.

## Main definitions

* `Account.Field`, the members by name and order.
* `Account.Config.ofJson`, the settings of a text.
-/

namespace HeaterLink.Account

open Json Json.Reader

/-! ## Fields -/

inductive Field where
  | loginId
  | privateKey
  | username
  | password
  | pollIntervalSecs
  | offlinePollIntervalSecs
  | initialDelaySecs
  | trustAnchor
  | baseUrl
deriving DecidableEq, Repr

namespace Field

/-- The fields in the order that an array gives them. -/
def all : List Field :=
  [loginId, privateKey, username, password, pollIntervalSecs, offlinePollIntervalSecs,
   initialDelaySecs, trustAnchor, baseUrl]

def name : Field → String
  | loginId => "login_id"
  | privateKey => "private_key"
  | username => "username"
  | password => "password"
  | pollIntervalSecs => "poll_interval_secs"
  | offlinePollIntervalSecs => "offline_poll_interval_secs"
  | initialDelaySecs => "initial_delay_secs"
  | trustAnchor => "trust_anchor_pem"
  | baseUrl => "base_url"

def ofName? (name : String) : Option Field := all.find? fun f => f.name == name

theorem mem_all (f : Field) : f ∈ all := by cases f <;> decide

@[simp] theorem ofName?_name (f : Field) : ofName? f.name = some f := by cases f <;> decide

end Field

/-! ## Values -/

/-- Why a value of another kind is refused: a scalar is read first, and its own fault comes first. -/
def unsuitedValue (c : Char) (rest : List Char) : Fault :=
  if c = '[' ∨ c = '{' then .unsuited
  else match scalar c rest with
    | .ok _ => .unsuited
    | .error fault => fault

def textValue (cs : List Char) : Except Fault (String × List Char) :=
  match skipSpace cs with
  | [] => .error .truncated
  | c :: rest => if c = '"' then text rest else .error (unsuitedValue c rest)

/-- An integer within bounds; a number with a fraction or an exponent is not one. -/
def integerValue (low high : Int) (cs : List Char) : Except Fault (Int × List Char) :=
  match skipSpace cs with
  | [] => .error .truncated
  | c :: rest =>
    if startsNumber c then do
      match ← number (c :: rest) with
      | (.integer n, rest) => if low ≤ n ∧ n ≤ high then .ok (n, rest) else .error .unsuited
      | (.float _, _) => .error .unsuited
    else .error (unsuitedValue c rest)

def int64Value (cs : List Char) : Except Fault (Int64 × List Char) := do
  let (n, rest) ← integerValue Int64.minValue.toInt Int64.maxValue.toInt cs
  return (Int64.ofInt n, rest)

def secondsValue (cs : List Char) : Except Fault (UInt64 × List Char) := do
  let (n, rest) ← integerValue 0 0xFFFFFFFFFFFFFFFF cs
  return (UInt64.ofNat n.toNat, rest)

/-- A value that `null` leaves out. -/
def optionalValue {α : Type} (reading : List Char → Except Fault (α × List Char))
    (cs : List Char) : Except Fault (Option α × List Char) :=
  match skipSpace cs with
  | 'n' :: rest => do return (none, ← word ['u', 'l', 'l'] rest)
  | rest => do
    let (x, rest) ← reading rest
    return (some x, rest)

/-! ## Documents -/

namespace Config

/-- Reads the value of a field into the settings. -/
def readField (c : Config) (f : Field) (cs : List Char) : Except Fault (Config × List Char) := do
  match f with
  | .loginId =>
    let (x, rest) ← optionalValue int64Value cs
    return ({ c with loginId := x }, rest)
  | .privateKey =>
    let (x, rest) ← optionalValue textValue cs
    return ({ c with privateKey := x }, rest)
  | .username =>
    let (x, rest) ← optionalValue textValue cs
    return ({ c with username := x }, rest)
  | .password =>
    let (x, rest) ← optionalValue textValue cs
    return ({ c with password := x }, rest)
  | .pollIntervalSecs =>
    let (x, rest) ← secondsValue cs
    return ({ c with pollIntervalSecs := x }, rest)
  | .offlinePollIntervalSecs =>
    let (x, rest) ← secondsValue cs
    return ({ c with offlinePollIntervalSecs := x }, rest)
  | .initialDelaySecs =>
    let (x, rest) ← secondsValue cs
    return ({ c with initialDelaySecs := x }, rest)
  | .trustAnchor =>
    let (x, rest) ← optionalValue textValue cs
    return ({ c with trustAnchor := x }, rest)
  | .baseUrl =>
    let (x, rest) ← optionalValue textValue cs
    return ({ c with baseUrl := x }, rest)

/-- Settings so far, and the fields that were given. -/
structure Progress where
  config : Config := {}
  given : List Field := []

/-- Reads one member. -/
def readMember (p : Progress) (cs : List Char) : Except Fault (Progress × List Char) := do
  let (name, rest) ← text (← openName cs)
  match Field.ofName? name with
  | some f =>
    if f ∈ p.given then throw .unsuited
    let (config, rest) ← p.config.readField f (← colon rest)
    return (⟨config, f :: p.given⟩, rest)
  | none => return (p, ← skipValue (← colon rest))

/-- The members after a member. -/
def readMoreMembers : (fuel : Nat) → Progress → List Char → Except Fault (Config × List Char)
  | 0, _, _ => .error .truncated
  | fuel + 1, p, cs =>
    match skipSpace cs with
    | [] => .error .truncated
    | c :: rest =>
      if c = '}' then .ok (p.config, rest)
      else if c = ',' then do
        let (p, rest) ← readMember p rest
        readMoreMembers fuel p rest
      else .error .malformed

def readMembers (cs : List Char) : Except Fault (Config × List Char) :=
  match skipSpace cs with
  | [] => .error .truncated
  | c :: rest =>
    if c = '}' then .ok ({}, rest)
    else do
      let (p, rest) ← readMember {} (c :: rest)
      readMoreMembers (cs.length + 1) p rest

/-- The elements after an element, for the fields that are left. -/
def readMoreElements : (left : List Field) → Config → List Char → Except Fault (Config × List Char)
  | left, config, cs =>
    match skipSpace cs with
    | [] => .error .truncated
    | c :: rest =>
      if c = ']' then .ok (config, rest)
      else if c = ',' then
        match left with
        | [] => .error .malformed
        | f :: left => do
          let (config, rest) ← config.readField f rest
          readMoreElements left config rest
      else .error .malformed

def readElements (cs : List Char) : Except Fault (Config × List Char) :=
  match skipSpace cs with
  | [] => .error .truncated
  | c :: rest =>
    if c = ']' then .ok ({}, rest)
    else do
      let (config, rest) ← Config.readField {} .loginId (c :: rest)
      readMoreElements (Field.all.drop 1) config rest

def readDocument (cs : List Char) : Except Fault (Config × List Char) :=
  match skipSpace cs with
  | [] => .error .truncated
  | c :: rest =>
    if c = '[' then readElements rest
    else if c = '{' then readMembers rest
    else .error (unsuitedValue c rest)

def ofJsonChars (cs : List Char) : Except Fault Config := do finish (← readDocument cs)

/-- Reads settings from JSON text. -/
def ofJson (environment : Environment) (json : String) : Except Error Config :=
  (ofJsonChars json.toList).mapError fun fault => .json fault (environment.jsonFault json)

end Config

end HeaterLink.Account
