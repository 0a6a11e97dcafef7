import HeaterLink.Text.Hex

/-!
# Form encoding

Names and values as `name=value` pairs joined by `&`. Letters, digits and
`-_.~` stand for themselves; every other byte of the UTF-8 text is written as a
percent sign and two uppercase hex digits.

## Main definitions

* `Form.encode`, the text of a list of pairs.
* `Form.decode?`, the pairs of a text.
-/

namespace HeaterLink.Form

/-! ## Components -/

def utf8 (s : String) : List UInt8 := s.toList.flatMap String.utf8EncodeChar

/-- A byte that stands for itself. -/
def isUnreserved (b : UInt8) : Bool :=
  let n := b.toNat
  (48 ≤ n && n ≤ 57) || (65 ≤ n && n ≤ 90) || (97 ≤ n && n ≤ 122) ||
  n == 45 || n == 46 || n == 95 || n == 126

def escape (b : UInt8) : List Char :=
  if isUnreserved b then [Char.ofNat b.toNat] else '%' :: Hex.pair Hex.upperDigit b

def component (s : String) : List Char := (utf8 s).flatMap escape

/-- The bytes behind escapes; a percent sign needs two hex digits. -/
def unescape? : List Char → Option (List UInt8)
  | [] => some []
  | '%' :: a :: b :: rest => do
    let high ← Hex.value? a.toNat
    let low ← Hex.value? b.toNat
    return UInt8.ofNat (16 * high + low) :: (← unescape? rest)
  | c :: rest =>
    if c = '%' ∨ 128 ≤ c.toNat then none
    else (unescape? rest).map (UInt8.ofNat c.toNat :: ·)

/-- The text of a component, which must be UTF-8. -/
def uncomponent? (cs : List Char) : Option String := do
  let bytes ← unescape? cs
  let decoded ← (ByteArray.mk bytes.toArray).utf8Decode?
  return String.ofList decoded.toList

/-! ## Pairs -/

def pair (p : String × String) : List Char := component p.1 ++ '=' :: component p.2

def encodeChars (pairs : List (String × String)) : List Char :=
  ['&'].intercalate (pairs.map pair)

def encode (pairs : List (String × String)) : String := String.ofList (encodeChars pairs)

/-- The pieces of a text between occurrences of a character. -/
def splitAtChar (sep : Char) : List Char → List (List Char)
  | [] => [[]]
  | c :: cs =>
    if c = sep then [] :: splitAtChar sep cs
    else match splitAtChar sep cs with
      | [] => [[c]]
      | piece :: pieces => (c :: piece) :: pieces

/-- Splits at the first `=` and decodes both sides. -/
def unpair? (piece : List Char) : Option (String × String) :=
  match piece.dropWhile (· ≠ '=') with
  | [] => none
  | _ :: value => do return (← uncomponent? (piece.takeWhile (· ≠ '=')), ← uncomponent? value)

/-- The pairs of a text; the empty text has none. -/
def decode? (text : String) : Option (List (String × String)) :=
  if text.toList = [] then some [] else (splitAtChar '&' text.toList).mapM unpair?

end HeaterLink.Form
