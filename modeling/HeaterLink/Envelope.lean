import HeaterLink.Error
import HeaterLink.Json.Reader
import HeaterLink.Json.Writer
import HeaterLink.Record.ErrorHolder

/-!
# Envelopes

A reply is an `[error, content]` pair, a bare array of that kind, or a bare
record. A reported error wins over any content, and one unreadable element voids
a whole list. A body that is not JSON is an empty reply.

## Main definitions

* `Envelope.parts`, the error and content of a document.
* `Envelope.resolve`, the records of a document or the error it stands for.
* `Envelope.decode`, the same from the bytes of a body.
* `Envelope.encode`, the pair that carries a list of records.
-/

namespace HeaterLink.Envelope

/-- The parts of a document: what may report an error, and what may hold records. -/
structure Parts where
  error? : Option Json := none
  content? : Option Json := none

/-- A pair has its parts by place; a bare document is its own error and, unless `inline`, content. -/
def parts (inline : Bool) : Json → Parts
  | .null => {}
  | .array items => ⟨items[0]?, items[1]?⟩
  | doc => ⟨some doc, if inline then none else some doc⟩

/-- The code that a node reports. -/
def code? (node : Json) : Option Int64 :=
  (ErrorHolder.ofNode? node).bind fun h => if h.isError then some h.code else none

/-- The error that a document reports, whatever else it holds. -/
def reported? (inline : Bool) (doc : Json) : Option Int64 := (parts inline doc).error?.bind code?

variable {R : Type} [Record R]

/-- One record, or a list of them with none unreadable. -/
def records? : Json → Option (List R)
  | .array items => items.mapM Record.ofNode?
  | node => (Record.ofNode? node).map fun r => [r]

def resolve (inline : Bool) (doc : Json) : Except Error (List R) :=
  match reported? inline doc with
  | some code => .error (.remote code)
  | none =>
    match (parts inline doc).content? with
    | none | some .null => .ok []
    | some node =>
      match records? node with
      | some rs => .ok rs
      | none => .error .objectMapping

/-- The records in a body. -/
def decode (inline : Bool) (body : ByteArray) : Except Error (List R) :=
  match Json.readBytes body with
  | .ok doc => resolve inline doc
  | .error _ => .ok []

def encode (error : ErrorHolder) (content : List R) : Json :=
  .array [error.toNode, .array (content.map Record.toNode)]

end HeaterLink.Envelope
