import HeaterLink.Json.Number
import HeaterLink.Json.Text

/-!
# Reading JSON

The strict grammar, read from left to right: the first fault found decides the
outcome. `room` is the number of brackets that may still be opened, and `fuel`
bounds the number of calls; twice the length of the text is always enough.
-/

namespace HeaterLink.Json

namespace Reader

/-! ## Blanks and words -/

def isSpace (c : Char) : Bool := c = ' ' || c = '\t' || c = '\n' || c = '\r'

def skipSpace (cs : List Char) : List Char := cs.dropWhile isSpace

/-- The rest of a word such as `null`, whose first letter is already read. -/
def word : (letters : List Char) → List Char → Except Fault (List Char)
  | [], cs => .ok cs
  | _ :: _, [] => .error .truncated
  | x :: xs, c :: cs => if c = x then word xs cs else .error .malformed

/-- The colon between a name and its value. -/
def colon (cs : List Char) : Except Fault (List Char) :=
  match skipSpace cs with
  | [] => .error .truncated
  | ':' :: rest => .ok rest
  | _ => .error .malformed

/-- The opening quote of a member's name. -/
def openName (cs : List Char) : Except Fault (List Char) :=
  match skipSpace cs with
  | [] => .error .truncated
  | '"' :: rest => .ok rest
  | _ => .error .malformed

/-- Whether a number begins with this character. -/
def startsNumber (c : Char) : Bool := c = '-' || isDigit c

/-! ## Scalars -/

/-- A value that is neither array nor object, given its first character. -/
def scalar (c : Char) (rest : List Char) : Except Fault (Json × List Char) :=
  if c = 'n' then do return (.null, ← word ['u', 'l', 'l'] rest)
  else if c = 't' then do return (.bool true, ← word ['r', 'u', 'e'] rest)
  else if c = 'f' then do return (.bool false, ← word ['a', 'l', 's', 'e'] rest)
  else if c = '"' then do
    let (s, rest) ← text rest
    return (.string s, rest)
  else if startsNumber c then do
    let (n, rest) ← number (c :: rest)
    return (.number n, rest)
  else .error .malformed

/-! ## Values -/

mutual

def value : (fuel room : Nat) → List Char → Except Fault (Json × List Char)
  | 0, _, _ => .error .truncated
  | fuel + 1, room, cs =>
    match skipSpace cs with
    | [] => .error .truncated
    | c :: rest =>
      if c = '[' then
        if room = 0 then .error .malformed
        else do
          let (items, rest) ← elements fuel (room - 1) rest
          return (.array items, rest)
      else if c = '{' then
        if room = 0 then .error .malformed
        else do
          let (members, rest) ← members fuel (room - 1) rest
          return (.object members, rest)
      else scalar c rest

/-- The elements after an opening bracket. -/
def elements : (fuel room : Nat) → List Char → Except Fault (List Json × List Char)
  | 0, _, _ => .error .truncated
  | fuel + 1, room, cs =>
    match skipSpace cs with
    | [] => .error .truncated
    | c :: rest =>
      if c = ']' then .ok ([], rest)
      else do
        let (x, rest) ← value fuel room (c :: rest)
        let (xs, rest) ← moreElements fuel room rest
        return (x :: xs, rest)

/-- The elements after an element. -/
def moreElements : (fuel room : Nat) → List Char → Except Fault (List Json × List Char)
  | 0, _, _ => .error .truncated
  | fuel + 1, room, cs =>
    match skipSpace cs with
    | [] => .error .truncated
    | c :: rest =>
      if c = ']' then .ok ([], rest)
      else if c = ',' then do
        let (x, rest) ← value fuel room rest
        let (xs, rest) ← moreElements fuel room rest
        return (x :: xs, rest)
      else .error .malformed

/-- The members after an opening brace. -/
def members : (fuel room : Nat) → List Char → Except Fault (List (String × Json) × List Char)
  | 0, _, _ => .error .truncated
  | fuel + 1, room, cs =>
    match skipSpace cs with
    | [] => .error .truncated
    | c :: rest =>
      if c = '}' then .ok ([], rest)
      else do
        let (name, rest) ← text (← openName (c :: rest))
        let (x, rest) ← value fuel room (← colon rest)
        let (xs, rest) ← moreMembers fuel room rest
        return ((name, x) :: xs, rest)

/-- The members after a member. -/
def moreMembers : (fuel room : Nat) → List Char → Except Fault (List (String × Json) × List Char)
  | 0, _, _ => .error .truncated
  | fuel + 1, room, cs =>
    match skipSpace cs with
    | [] => .error .truncated
    | c :: rest =>
      if c = '}' then .ok ([], rest)
      else if c = ',' then do
        let (name, rest) ← text (← openName rest)
        let (x, rest) ← value fuel room (← colon rest)
        let (xs, rest) ← moreMembers fuel room rest
        return ((name, x) :: xs, rest)
      else .error .malformed

end

/-! ## Documents -/

/-- How deep arrays and objects may nest. -/
def maxDepth : Nat := 127

/-- After a document only blanks may follow. -/
def finish {α : Type} (found : α × List Char) : Except Fault α :=
  if skipSpace found.2 = [] then .ok found.1 else .error .malformed

end Reader

/-- Reads one document. -/
def readChars (cs : List Char) : Except Fault Json := do
  Reader.finish (← Reader.value (2 * cs.length + 1) Reader.maxDepth cs)

def read (s : String) : Except Fault Json := readChars s.toList

/-- Reads one document from bytes, which must be UTF-8 throughout. -/
def readBytes (bytes : ByteArray) : Except Fault Json :=
  match bytes.utf8Decode? with
  | some cs => readChars cs.toList
  | none => .error .malformed

end HeaterLink.Json
