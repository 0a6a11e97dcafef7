import HeaterLink.Error
import HeaterLink.Text.Blank

/-!
# Key text

A private key is written in hexadecimal, with colons and blanks anywhere.
-/

namespace HeaterLink.KeyText

/-- A character that does not count. -/
def isSeparator (c : Char) : Bool := c = ':' || Text.isBlank c

/-- The text without its separators. -/
def compact (s : String) : List Char := s.toList.filter fun c => !isSeparator c

/-- The bytes of a key; positions in a fault count bytes of the compact text. -/
def decode (s : String) : Except KeyFault (List UInt8) :=
  if compact s = [] then .error .empty
  else match Hex.decode ((compact s).flatMap String.utf8EncodeChar) with
    | .ok bytes => .ok bytes
    | .error fault => .error (.notHex fault)

end HeaterLink.KeyText
