import HeaterLink.Record.Basic

/-!
# Logins

The reply to a login or a registration: the identity that signs for an account.
-/

namespace HeaterLink

structure Login where
  id : Int64
  name : Option String := none
  privateKey : String
deriving DecidableEq, Repr

namespace Login

open Json

def ofMembers? (node : Json) : Option Login := do
  let id ← node.field int64? "id"
  let key ← node.field string? "privateKey"
  return ⟨id, node.field string? "name", key⟩

/-- Members in the order of their names. -/
def members (l : Login) : List (String × Json) :=
  [("id", ofInt64 l.id)] ++ entry "name" .string l.name ++ [("privateKey", .string l.privateKey)]

end Login

instance : Record Login := ⟨Login.ofMembers?, fun l => .object l.members⟩

end HeaterLink
