import HeaterLink.Digest.Sha1
import HeaterLink.Error
import HeaterLink.Text.Base64

/-!
# Device authorization

A heater on the local network is shown a digest of the request's arguments. The
arguments are put together without separators and must be ASCII.
-/

namespace HeaterLink.Device

def isAscii (cs : List Char) : Bool := cs.all fun c => c.toNat < 128

/-- The SHA-1 digest of the arguments put together. -/
def digest (arguments : List String) : Except Error (List UInt8) :=
  let joined := arguments.flatMap String.toList
  if isAscii joined then .ok (Sha1.digest (joined.flatMap String.utf8EncodeChar))
  else .error (.encoding .notAscii)

/-- The digest in Base64. -/
def authorization (arguments : List String) : Except Error String :=
  (digest arguments).map fun bytes => String.ofList (Base64.encode bytes)

end HeaterLink.Device
