import HeaterLink.Environment
import HeaterLink.Error
import HeaterLink.Text.Utf8

/-!
# Exchanges

A call is a request together with what is made of its outcome. Building a call
can already fail; performing it sends one request at most. What a request leads
to on its way, such as redirections, is the environment's: an outcome is what
has become of it in the end.

## Main definitions

* `Http.Call`, a request and the reading of its outcome.
* `Http.Network`, what will answer, and what was sent.
* `Http.Call.perform`, one exchange.
-/

namespace HeaterLink.Http

inductive Method where
  | get
  | post
deriving DecidableEq, Repr

def Method.name : Method → String
  | .get => "GET"
  | .post => "POST"

structure Request where
  method : Method
  url : String
  headers : List (String × String)
  body : String
deriving DecidableEq, Repr

/-- The request that goes out: what is made of its address stands before its own headers. -/
def Request.outgoing (r : Request) (environment : Environment) : Request :=
  { r with headers := environment.addressHeaders r.url ++ r.headers }

/--
What a request came to: the last answer, after the redirections that were followed, or none that
was complete. The words are those for a failure, which an answer can also be by its status.
-/
inductive Outcome where
  | answered (status : Nat) (body : ByteArray) (words : String)
  | failed (words : String)

namespace Outcome

/-- The body of a successful answer; a status in the four or five hundreds is an error. -/
def body? : Outcome → Except Error ByteArray
  | .failed words => .error (.http none words)
  | .answered status body words =>
    if 400 ≤ status ∧ status < 600 then .error (.http (some status) words)
    else if status = 204 ∨ status = 304 then .ok ByteArray.empty
    else .ok body

theorem body?_of_failure {status : Nat} (body : ByteArray) (words : String)
    (h : 400 ≤ status ∧ status < 600) :
    body? (.answered status body words) = .error (.http (some status) words) := if_pos h

end Outcome

/-! ## Addresses -/

/-- An address without the slashes at its end. -/
def trimSlashes (url : String) : String :=
  String.ofList (url.toList.reverse.dropWhile (· = '/')).reverse

/-! ## Calls -/

structure Call (α : Type) where
  request : Request
  receive : Outcome → Except Error α

def Call.map {α β : Type} (f : α → β) (c : Call α) : Call β :=
  ⟨c.request, fun outcome => (c.receive outcome).map f⟩

/-- Keeps the first of several results. -/
def Call.first {α : Type} (c : Call (List α)) : Call (Option α) := c.map List.head?

/-! ## Networks -/

structure Network where
  environment : Environment
  /-- What the next requests will come to, in order. -/
  outcomes : List Outcome := []
  /-- What every request after those will come to. -/
  otherwise : Outcome
  /-- The requests that went out; those that redirections repeat elsewhere are not counted. -/
  sent : List Request := []

/-- A request to an unusable address is never sent. -/
def Network.send (n : Network) (r : Request) : Outcome × Network :=
  match n.environment.addressFault? r.url with
  | some words => (.failed words, n)
  | none =>
    (n.outcomes.head?.getD n.otherwise,
      { n with outcomes := n.outcomes.tail, sent := n.sent ++ [r.outgoing n.environment] })

def Call.perform {α : Type} (c : Call α) (n : Network) : Except Error α × Network :=
  let (outcome, n) := n.send c.request
  (c.receive outcome, n)

/-- Performs a call if it could be built. -/
def attempt {α : Type} (c : Except Error (Call α)) (n : Network) : Except Error α × Network :=
  match c with
  | .error e => (.error e, n)
  | .ok c => c.perform n

end HeaterLink.Http
