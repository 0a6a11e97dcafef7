import HeaterLink.Json.Value

/-!
# JSON numbers

A numeral is read in two parts: its digits, by the grammar of JSON, and its
value. The value keeps as many leading digits as fit an unsigned 64-bit
significand, and scales that by one power of ten. The result can differ from
the nearest double in the last place.
-/

namespace HeaterLink.Json.Reader

/-! ## Digits -/

/-- A number as written. -/
structure Numeral where
  negative : Bool := false
  whole : List Nat
  fraction : Option (List Nat) := none
  /-- Whether the exponent is negative, and its digits. -/
  exponent : Option (Bool × List Nat) := none
deriving DecidableEq, Repr

def isDigit (c : Char) : Bool := 48 ≤ c.toNat && c.toNat ≤ 57
def digitValue (c : Char) : Nat := c.toNat - 48

/-- The digits at the front of a text, and the rest. -/
def digits (cs : List Char) : List Nat × List Char :=
  ((cs.takeWhile isDigit).map digitValue, cs.dropWhile isDigit)

/-- Digits where at least one must stand. -/
def someDigits (cs : List Char) : Except Fault (List Nat × List Char) :=
  match digits cs with
  | ([], []) => .error .truncated
  | ([], _ :: _) => .error .malformed
  | found => .ok found

/-- The whole part: a zero alone, or digits that do not begin with zero. -/
def wholePart (cs : List Char) : Except Fault (List Nat × List Char) := do
  let (ds, rest) ← someDigits cs
  if ds.head? = some 0 ∧ ds.length ≠ 1 then .error .malformed else .ok (ds, rest)

def fractionPart : List Char → Except Fault (Option (List Nat) × List Char)
  | '.' :: rest => do
    let (ds, rest) ← someDigits rest
    return (some ds, rest)
  | rest => .ok (none, rest)

def exponentPart : List Char → Except Fault (Option (Bool × List Nat) × List Char)
  | [] => .ok (none, [])
  | c :: rest =>
    if c = 'e' ∨ c = 'E' then do
      let (negative, rest) := match rest with
        | '-' :: rest => (true, rest)
        | '+' :: rest => (false, rest)
        | rest => (false, rest)
      let (ds, rest) ← someDigits rest
      return (some (negative, ds), rest)
    else .ok (none, c :: rest)

/-- Reads a numeral whose sign, if any, is already read. -/
def unsignedNumeral (negative : Bool) (cs : List Char) : Except Fault (Numeral × List Char) := do
  let (whole, rest) ← wholePart cs
  let (fraction, rest) ← fractionPart rest
  let (exponent, rest) ← exponentPart rest
  return (⟨negative, whole, fraction, exponent⟩, rest)

def numeral : List Char → Except Fault (Numeral × List Char)
  | '-' :: rest => unsignedNumeral true rest
  | cs => unsignedNumeral false cs

/-! ## Value -/

/-- The largest significand. -/
def significandMax : Nat := 0xFFFFFFFFFFFFFFFF

/-- The number that a list of digits spells after the digits of `n`. -/
def spell (n : Nat) (ds : List Nat) : Nat := ds.foldl (fun n d => 10 * n + d) n

/-- Appends digits while the significand fits; the second part is what was left over. -/
def fill (significand : Nat) : List Nat → Nat × List Nat
  | [] => (significand, [])
  | d :: ds =>
    if 10 * significand + d ≤ significandMax then fill (10 * significand + d) ds
    else (significand, d :: ds)

theorem fill_of_spell_le {n : Nat} {ds : List Nat} (h : spell n ds ≤ significandMax) :
    fill n ds = (spell n ds, []) := by
  have grows : ∀ (ds : List Nat) (n : Nat), n ≤ spell n ds := by
    intro ds
    induction ds with
    | nil => exact fun n => Nat.le_refl n
    | cons d ds ih => exact fun n => Nat.le_trans (by omega) (ih (10 * n + d))
  induction ds generalizing n with
  | nil => rfl
  | cons d ds ih =>
    have := grows ds (10 * n + d)
    rw [fill, if_pos (Nat.le_trans this h)]
    exact ih h

/-- A power of ten as the nearest double. -/
def powerOfTen (n : Nat) : Binary64 := .ofNat (Nat.pow 10 n)

/-- The largest power of ten that a double holds. -/
def tenMax : Nat := 308

/--
Scales by a power of ten in one multiplication or division; an exponent below
the smallest power first divides by the largest one until zero is reached.
-/
def scale : (steps : Nat) → Binary64 → Int → Except Fault Binary64
  | 0, x, _ => .ok x
  | steps + 1, x, e =>
    if 0 ≤ e then
      if e ≤ tenMax then
        let y := x.mul (powerOfTen e.toNat)
        if y.isInfinite then .error .malformed else .ok y
      else if x.isZero then .ok x else .error .malformed
    else if -e ≤ tenMax then .ok (x.div (powerOfTen (-e).toNat))
    else if x.isZero then .ok x
    else scale steps (x.div (powerOfTen tenMax)) (e + tenMax)

def floatOfParts (negative : Bool) (significand : Nat) (e : Int) : Except Fault Number := do
  let x ← scale (e.natAbs / tenMax + 1) (.ofNat significand) e
  return .float (if negative then x.neg else x)

/-- Exponents are counted in 32 bits. -/
def exponentMax : Int := 0x7FFFFFFF
def exponentMin : Int := -0x80000000

def floatOfExponent (negative : Bool) (significand : Nat) (start : Int) :
    Option (Bool × List Nat) → Except Fault Number
  | none => floatOfParts negative significand start
  | some (below, ds) =>
    let e : Int := spell 0 ds
    if exponentMax < e then
      if significand ≠ 0 ∧ ¬ below then .error .malformed
      else .ok (.float (.finite negative 0))
    else
      floatOfParts negative significand
        (max exponentMin (min exponentMax (if below then start - e else start + e)))

/-- The largest magnitude of a negative integer. -/
def negativeMax : Nat := 0x8000000000000000

/-- A number with neither fraction nor exponent: an integer if 64 bits hold it. -/
def plainNumber (negative : Bool) (significand : Nat) : Number :=
  if ¬ negative then .integer significand
  else if significand = 0 ∨ negativeMax < significand then .float (Binary64.ofNat significand).neg
  else .integer (-significand)

/-- The value of a numeral. Digits of the whole part that do not fit only count as places. -/
def Numeral.value (n : Numeral) : Except Fault Number :=
  let (significand, dropped) := fill 0 n.whole
  match n.fraction, n.exponent with
  | none, none =>
    if dropped = [] then .ok (plainNumber n.negative significand)
    else floatOfParts n.negative significand dropped.length
  | none, exponent => floatOfExponent n.negative significand dropped.length exponent
  | some ds, exponent =>
    let (significand, ignored) := fill significand ds
    floatOfExponent n.negative significand (dropped.length - (ds.length - ignored.length)) exponent

/-- Reads a number. -/
def number (cs : List Char) : Except Fault (Number × List Char) := do
  let (n, rest) ← numeral cs
  return (← n.value, rest)

end HeaterLink.Json.Reader
