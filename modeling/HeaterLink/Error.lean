import HeaterLink.ErrorType
import HeaterLink.Json.Value
import HeaterLink.Text.Hex
import HeaterLink.Text.Quoted

/-!
# Errors

What can go wrong in a call, by cause. Each cause has one message; where the
environment words a failure, the cause carries its words.
-/

namespace HeaterLink

/-! ## Causes -/

/-- Why a private key cannot be used. -/
inductive KeyFault where
  | empty
  | notHex (fault : Hex.Fault)
  | notAKey (words : String)
  /-- The key cannot produce a signature for this message. -/
  | unsignable
  /-- No signing number is among those that were tried. Nobody is told so: a search without a bound
  goes on forever then. -/
  | exhausted
  | stated (text : String)
deriving DecidableEq, Repr

inductive EncodingFault where
  | notAscii
  | stated (text : String)
deriving DecidableEq, Repr

inductive ConfigFault where
  /-- Neither a key nor a password is configured. -/
  | noCredential
  | badKey (fault : KeyFault)
  | unreadableAnchor (path words : String)
  /-- The client has no signing identity. -/
  | unsigned
  /-- The account is not connected. -/
  | notInitialized
  | stated (text : String)
deriving DecidableEq, Repr

inductive Error where
  /-- The exchange failed; a reply that reports a failure gives its status. -/
  | http (status : Option Nat) (words : String)
  | json (fault : Json.Fault) (words : String)
  | signing (fault : KeyFault)
  | encoding (fault : EncodingFault)
  /-- A reply is not of the shape that was asked for. -/
  | objectMapping
  /-- The service reported an error under this code. -/
  | remote (code : Int64)
  | config (fault : ConfigFault)
  | observer (text : String)
deriving DecidableEq, Repr

/-! ## Messages -/

def Hex.Fault.message : Hex.Fault → String
  | .oddLength => "Odd number of digits"
  | .badDigit byte index =>
    s!"Invalid character {Quoted.character (Char.ofNat byte.toNat)} at position {index}"

def KeyFault.text : KeyFault → String
  | .empty => "private key is empty"
  | .notHex fault => s!"private key is not hex: {fault.message}"
  | .notAKey words => s!"not a PKCS#8 DSA key: {words}"
  | .unsignable => "signature error"
  | .exhausted => "no usable signing number"
  | .stated text => text

def KeyFault.message (fault : KeyFault) : String := s!"bad private key: {fault.text}"

def EncodingFault.text : EncodingFault → String
  | .notAscii => "local request arguments must be ASCII"
  | .stated text => text

def ConfigFault.text : ConfigFault → String
  | .noCredential => "either login id and private key or username and password are required"
  | .badKey fault => fault.message
  | .unreadableAnchor path words => s!"cannot read trust anchor {path}: {words}"
  | .unsigned => "no login id and private key configured"
  | .notInitialized => "account is not initialized"
  | .stated text => text

namespace Error

/-- The known error type behind a reported code. -/
def errorType? : Error → Option ErrorType
  | .remote code => ErrorType.ofCode? code
  | _ => none

def message : Error → String
  | .http _ words => s!"HTTP error: {words}"
  | .json _ words => s!"JSON error: {words}"
  | .signing fault => fault.message
  | .encoding fault => s!"encoding error: {fault.text}"
  | .objectMapping => "response did not match the expected schema"
  | .remote code =>
    match ErrorType.ofCode? code with
    | some e => s!"Adax reported error code {code.toInt}: {e.name}"
    | none => s!"Adax reported error code {code.toInt}"
  | .config fault => s!"configuration error: {fault.text}"
  | .observer text => s!"observer update failed: {text}"

/-- The service's code for this error, if it has one. -/
def code? : Error → Option Int64
  | .remote code => some code
  | .objectMapping => some ErrorType.objectMappingError.code
  | _ => none

def isTransport : Error → Bool
  | .http .. => true
  | _ => false

/-- Whether a deeper failure of the exchange or of the text lies behind it. -/
def hasSource : Error → Bool
  | .http .. | .json .. => true
  | _ => false

end Error

end HeaterLink
