import HeaterLink.Json.Value
import HeaterLink.Text.Hex

/-!
# JSON strings

The character data between two quotes: read into characters, skipped without
building them, and written. A reader refuses raw control characters and
surrogate escapes that do not pair up; skipping looks only at the form of an
escape.
-/

namespace HeaterLink.Json

namespace Reader

/-! ## Escapes -/

/-- The character that a one-letter escape stands for. -/
def shortEscape? (c : Char) : Option Char :=
  if c = '"' ∨ c = '\\' ∨ c = '/' then some c
  else if c = 'b' then some '\x08'
  else if c = 'f' then some '\x0c'
  else if c = 'n' then some '\n'
  else if c = 'r' then some '\r'
  else if c = 't' then some '\t'
  else none

def utf8Size (cs : List Char) : Nat := cs.foldl (fun n c => n + c.utf8Size) 0

/-- Four hex digits as a UTF-16 unit; with fewer than four bytes left the text has ended. -/
def unit (cs : List Char) : Except Fault (Nat × List Char) :=
  if utf8Size (cs.take 4) < 4 then .error .truncated
  else match (cs.take 4).mapM fun c => Hex.value? c.toNat with
    | some [a, b, c, d] => .ok (((a * 16 + b) * 16 + c) * 16 + d, cs.drop 4)
    | _ => .error .malformed

def isHighSurrogate (u : Nat) : Bool := 0xD800 ≤ u && u ≤ 0xDBFF
def isLowSurrogate (u : Nat) : Bool := 0xDC00 ≤ u && u ≤ 0xDFFF

/-- The character of a surrogate pair. -/
def joinSurrogates (high low : Nat) : Char :=
  Char.ofNat (0x10000 + (high - 0xD800) * 0x400 + (low - 0xDC00))

/-- The second half of a surrogate pair, after a high surrogate. -/
def lowHalf (high : Nat) : List Char → Except Fault (Char × List Char)
  | [] => .error .truncated
  | '\\' :: [] => .error .truncated
  | '\\' :: 'u' :: rest => do
    let (low, rest) ← unit rest
    if isLowSurrogate low then .ok (joinSurrogates high low, rest) else .error .malformed
  | _ => .error .malformed

/-- Reads an escape whose backslash is already read. -/
def escape : List Char → Except Fault (Char × List Char)
  | [] => .error .truncated
  | 'u' :: rest => do
    let (u, rest) ← unit rest
    if isLowSurrogate u then .error .malformed
    else if isHighSurrogate u then lowHalf u rest
    else .ok (Char.ofNat u, rest)
  | c :: rest =>
    match shortEscape? c with
    | some x => .ok (x, rest)
    | none => .error .malformed

def skipEscape : List Char → Except Fault (List Char)
  | [] => .error .truncated
  | 'u' :: rest => do
    let (_, rest) ← unit rest
    return rest
  | c :: rest => if (shortEscape? c).isSome then .ok rest else .error .malformed

/-! ## Reading -/

/-- Reads up to the closing quote; `fuel` counts the characters that are left. -/
def textWithin : (fuel : Nat) → List Char → Except Fault (List Char × List Char)
  | 0, _ => .error .truncated
  | _ + 1, [] => .error .truncated
  | fuel + 1, c :: rest =>
    if c = '"' then .ok ([], rest)
    else if c = '\\' then do
      let (x, rest) ← escape rest
      let (xs, rest) ← textWithin fuel rest
      return (x :: xs, rest)
    else if c.toNat < 0x20 then .error .malformed
    else do
      let (xs, rest) ← textWithin fuel rest
      return (c :: xs, rest)

/-- Reads the text of a string whose opening quote is already read. -/
def text (cs : List Char) : Except Fault (String × List Char) := do
  let (xs, rest) ← textWithin (cs.length + 1) cs
  return (String.ofList xs, rest)

def skipTextWithin : (fuel : Nat) → List Char → Except Fault (List Char)
  | 0, _ => .error .truncated
  | _ + 1, [] => .error .truncated
  | fuel + 1, c :: rest =>
    if c = '"' then .ok rest
    else if c = '\\' then do
      let rest ← skipEscape rest
      skipTextWithin fuel rest
    else if c.toNat < 0x20 then .error .malformed
    else skipTextWithin fuel rest

def skipText (cs : List Char) : Except Fault (List Char) := skipTextWithin (cs.length + 1) cs

end Reader

/-! ## Writing -/

/-- A character as it stands inside a string: only quotes, backslashes and controls are escaped. -/
def escaped (c : Char) : List Char :=
  if c = '"' then ['\\', '"']
  else if c = '\\' then ['\\', '\\']
  else if c = '\x08' then ['\\', 'b']
  else if c = '\t' then ['\\', 't']
  else if c = '\n' then ['\\', 'n']
  else if c = '\x0c' then ['\\', 'f']
  else if c = '\r' then ['\\', 'r']
  else if c.toNat < 0x20 then
    ['\\', 'u', '0', '0', Hex.lowerDigit (c.toNat / 16), Hex.lowerDigit (c.toNat % 16)]
  else [c]

def quoted (s : String) : List Char := '"' :: (s.toList.flatMap escaped ++ ['"'])

end HeaterLink.Json
