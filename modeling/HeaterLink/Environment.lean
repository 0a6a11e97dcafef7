/-!
# The environment

What is left to the system around a heater link and taken as it comes: files,
certificates and addresses, and the words in which it reports what went wrong
with them. Nothing is known of an environment but what it answers.
-/

namespace HeaterLink

structure Environment where
  /-- The bytes of a file, or why it cannot be read. -/
  file : String → Except String ByteArray
  /-- Why certificates cannot be trusted, if they cannot. -/
  anchorFault? : ByteArray → Option String
  /-- Why bytes are no key, asked for only when they are none. -/
  keyFault : List UInt8 → String
  /-- What is wrong with a JSON text, asked for only when something is. -/
  jsonFault : String → String
  /-- Why no request can be sent to an address, if none can. -/
  addressFault? : String → Option String
  /-- The headers that are made of an address, such as those of the user that it names. -/
  addressHeaders : String → List (String × String)

/-- There are no files, and every address can be reached and stands for itself. -/
def Environment.bare : Environment where
  file _ := .error "No such file or directory (os error 2)"
  anchorFault? _ := none
  keyFault _ := "malformed key"
  jsonFault _ := "malformed text"
  addressFault? _ := none
  addressHeaders _ := []

end HeaterLink
