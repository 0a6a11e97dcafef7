import HeaterLink.Environment
import HeaterLink.Signing.Der
import HeaterLink.Signing.KeyText
import HeaterLink.Signing.Modular

/-!
# Signing keys

A DSA key in its standard private-key encoding: parameters p, q and g, the
private number x and, in version 1, the public number y. A key is taken only if
its numbers pass the checks of `SigningKey.Acceptable`.
-/

namespace HeaterLink

structure SigningKey where
  p : Nat
  q : Nat
  g : Nat
  x : Nat
  y : Nat
deriving DecidableEq

namespace SigningKey

/-- What is checked of a key; that q is prime is not. -/
def Acceptable (k : SigningKey) : Prop :=
  2 ≤ k.p ∧ 2 ≤ k.q ∧ k.g ≠ 0 ∧ k.g ≤ k.p ∧ 2 ≤ k.y ∧ Modular.pow k.y k.q k.p = 1 ∧
  0 < k.x ∧ k.x ≤ k.q

instance (k : SigningKey) : Decidable k.Acceptable :=
  inferInstanceAs (Decidable (_ ∧ _))

/-- The object identifier of DSA keys, 1.2.840.10040.4.1. -/
def algorithm : List UInt8 := [0x2A, 0x86, 0x48, 0xCE, 0x38, 0x04, 0x01]

/-- The parameters p, q and g in an algorithm description. -/
def parameters? (description : List UInt8) : Option (Nat × Nat × Nat) := do
  let (name, rest) ← Der.value? Der.identifierTag description
  if name ≠ algorithm then none
  let numbers ← Der.only? Der.sequenceTag rest
  let (p, rest) ← Der.integer? numbers
  let (q, rest) ← Der.integer? rest
  let g ← Der.onlyInteger? rest
  return (p, q, g)

/-- Passes over the attributes of a key, which are not used. -/
def skipAttributes (bytes : List UInt8) : Option (List UInt8) :=
  if bytes.head? = some (Der.builtField 0) then
    (Der.value? (Der.builtField 0) bytes).map (·.2)
  else some bytes

/-- The public number at the end of a key: whole bytes of a bit string that hold an integer. -/
def publicNumber? (bytes : List UInt8) : Option Nat := do
  match ← Der.only? (Der.plainField 1) bytes with
  | 0 :: content => Der.onlyInteger? content
  | _ => none

/-- Version 0 leaves the public number out, version 1 states it. -/
def public? (version p g x : Nat) (rest : List UInt8) : Option Nat :=
  match version with
  | 0 => if rest = [] then some (Modular.pow g x p) else none
  | 1 => publicNumber? rest
  | _ => none

/-- Reads the numbers of a key, unchecked but for the modulus. -/
def numbers? (der : List UInt8) : Option SigningKey := do
  let body ← Der.only? Der.sequenceTag der
  let (version, rest) ← Der.integer? body
  let (description, rest) ← Der.value? Der.sequenceTag rest
  let (p, q, g) ← parameters? description
  let (secret, rest) ← Der.value? Der.octetStringTag rest
  let x ← Der.onlyInteger? secret
  let rest ← skipAttributes rest
  let y ← public? version p g x rest
  return ⟨p, q, g, x, y⟩

def ofDer? (der : List UInt8) : Option SigningKey :=
  (numbers? der).bind fun k => if k.Acceptable then some k else none

/-- A key is never shown, only named. -/
instance : ToString SigningKey := ⟨fun _ => "RequestSigner \x7b .. \x7d"⟩

/-- Reads a key from its text. -/
def ofText (environment : Environment) (s : String) : Except KeyFault SigningKey := do
  let der ← KeyText.decode s
  match ofDer? der with
  | some k => return k
  | none => throw (.notAKey (environment.keyFault der))

theorem acceptable_of_ofDer? {der : List UInt8} {k : SigningKey} (h : ofDer? der = some k) :
    k.Acceptable := by
  obtain ⟨k', _, h⟩ := Option.bind_eq_some_iff.1 h
  split at h
  · cases h; assumption
  · cases h

end SigningKey

end HeaterLink
