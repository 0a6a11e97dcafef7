import HeaterLink.Json.Reader

/-!
# Skimming JSON

A value that nobody asked for is passed over without being built. Its syntax
must be right, but numbers of any size, unpaired surrogates and any depth are
let through, and a number that breaks off counts as malformed even at the end
of the text.
-/

namespace HeaterLink.Json.Reader

def skimScalar (c : Char) (rest : List Char) : Except Fault (List Char) :=
  if c = 'n' then word ['u', 'l', 'l'] rest
  else if c = 't' then word ['r', 'u', 'e'] rest
  else if c = 'f' then word ['a', 'l', 's', 'e'] rest
  else if c = '"' then skipText rest
  else if startsNumber c then
    match numeral (c :: rest) with
    | .ok (_, rest) => .ok rest
    | .error _ => .error .malformed
  else .error .malformed

mutual

def skim : (fuel : Nat) → List Char → Except Fault (List Char)
  | 0, _ => .error .truncated
  | fuel + 1, cs =>
    match skipSpace cs with
    | [] => .error .truncated
    | c :: rest =>
      if c = '[' then skimElements fuel rest
      else if c = '{' then skimMembers fuel rest
      else skimScalar c rest

def skimElements : (fuel : Nat) → List Char → Except Fault (List Char)
  | 0, _ => .error .truncated
  | fuel + 1, cs =>
    match skipSpace cs with
    | [] => .error .truncated
    | c :: rest =>
      if c = ']' then .ok rest
      else do skimMoreElements fuel (← skim fuel (c :: rest))

def skimMoreElements : (fuel : Nat) → List Char → Except Fault (List Char)
  | 0, _ => .error .truncated
  | fuel + 1, cs =>
    match skipSpace cs with
    | [] => .error .truncated
    | c :: rest =>
      if c = ']' then .ok rest
      else if c = ',' then do skimMoreElements fuel (← skim fuel rest)
      else .error .malformed

def skimMembers : (fuel : Nat) → List Char → Except Fault (List Char)
  | 0, _ => .error .truncated
  | fuel + 1, cs =>
    match skipSpace cs with
    | [] => .error .truncated
    | c :: rest =>
      if c = '}' then .ok rest
      else do
        let rest ← skipText (← openName (c :: rest))
        skimMoreMembers fuel (← skim fuel (← colon rest))

def skimMoreMembers : (fuel : Nat) → List Char → Except Fault (List Char)
  | 0, _ => .error .truncated
  | fuel + 1, cs =>
    match skipSpace cs with
    | [] => .error .truncated
    | c :: rest =>
      if c = '}' then .ok rest
      else if c = ',' then do
        let rest ← skipText (← openName rest)
        skimMoreMembers fuel (← skim fuel (← colon rest))
      else .error .malformed

end

/-- Passes over one value. -/
def skipValue (cs : List Char) : Except Fault (List Char) := skim (2 * cs.length + 1) cs

end HeaterLink.Json.Reader
