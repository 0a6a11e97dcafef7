import HeaterLink.ErrorType
import HeaterLink.Record.Basic

/-!
# Error holders

The part of a reply that reports an error by its code. Code zero is no error.
-/

namespace HeaterLink

structure ErrorHolder where
  code : Int64 := 0
deriving DecidableEq, Repr

namespace ErrorHolder

def isError (h : ErrorHolder) : Bool := h.code != 0

def errorType? (h : ErrorHolder) : Option ErrorType := ErrorType.ofCode? h.code

def ofErrorType (e : ErrorType) : ErrorHolder := ⟨e.code⟩

def ofNode? (node : Json) : Option ErrorHolder :=
  (node.field Json.int64? "errorTypeId").map ErrorHolder.mk

def toNode (h : ErrorHolder) : Json := .object [("errorTypeId", Json.ofInt64 h.code)]

end ErrorHolder

instance : Record ErrorHolder := ⟨ErrorHolder.ofNode?, ErrorHolder.toNode⟩

end HeaterLink
