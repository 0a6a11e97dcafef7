import HeaterLink.Signing.Key
import HeaterLink.Signing.Nonce
import HeaterLink.Signing.Packing

/-!
# Signatures

DSA over the SHA-1 digest of the packed arguments, written as a sequence of two
integers in colon-separated hex. The digest is cut to whole bytes of q, and the
signing number is drawn in whole bytes of q too.

## Main definitions

* `Signature.makeWithin`, the two numbers of a signature, if the signing number is among so many
  candidates.
* `SigningKey.sign`, the text of a signature over arguments.
-/

namespace HeaterLink

structure Signature where
  r : Nat
  s : Nat
deriving DecidableEq, Repr

namespace Signature

/-- The number of bits of a positive number. -/
def bitLength (n : Nat) : Nat := n.log2 + 1

/-- How many whole bytes q has. -/
def width (q : Nat) : Nat := bitLength q / 8

/-- The number that stands for a message. -/
def hashed (q : Nat) (message : List UInt8) : Nat :=
  Bytes.toNat ((Sha1.digest message).take (min (width q) 20))

/-- The seed of the signing number: the private number, and the message reduced by q. -/
def seed (k : SigningKey) (z : Nat) : List UInt8 :=
  let reduced := Bytes.minimal (z % k.q)
  Bytes.minimal k.x ++ (List.replicate (width k.q - reduced.length) 0 ++ reduced)

/-- A candidate is usable if it is positive, below q and has an inverse modulo q. -/
def usable? (q candidate : Nat) : Option (Nat × Nat) :=
  if 0 < candidate ∧ candidate < q then
    (Modular.inverse? candidate q).map fun inverse => (candidate, inverse)
  else none

/-- The signing number for a message, and its inverse: the first usable of `limit` candidates. -/
def nonceWithin? (limit : Nat) (k : SigningKey) (z : Nat) : Option (Nat × Nat) :=
  Nonce.firstOf (width k.q) (usable? k.q) limit (Nonce.Generator.seeded (seed k z))

/-- The signature that a signing number and its inverse make. -/
def ofNonce (k : SigningKey) (z nonce inverse : Nat) : Signature :=
  let r := Modular.pow k.g nonce k.p % k.q
  ⟨r, inverse * (z + k.x * r) % k.q⟩

def makeWithin (limit : Nat) (k : SigningKey) (message : List UInt8) :
    Except KeyFault Signature :=
  let z := hashed k.q message
  match nonceWithin? limit k z with
  | none => .error .exhausted
  | some (nonce, inverse) =>
    let made := ofNonce k z nonce inverse
    if made.r = 0 ∨ made.s = 0 then .error .unsignable else .ok made

def der (made : Signature) : List UInt8 :=
  Der.value Der.sequenceTag (Der.integer made.r ++ Der.integer made.s)

end Signature

namespace SigningKey

/-- Signs the packed arguments of a request, with at most `limit` candidates. -/
def signWithin (limit : Nat) (k : SigningKey) (parts : List Signing.Part) :
    Except KeyFault String := do
  let made ← Signature.makeWithin limit k (Signing.pack parts)
  return String.ofList (Hex.colons made.der)

/--
How many candidates are drawn before a key is given up. There are as many states of the generator,
so a search that has not ended by then goes round in a circle.
-/
def attempts : Nat := Nat.pow 256 40

/--
The signature over arguments, or why there is none. The search has no bound of its own: where it
would go on forever, so that no signature and no fault is ever returned, `exhausted` stands for it.
-/
def sign (k : SigningKey) (parts : List Signing.Part) : Except KeyFault String :=
  k.signWithin attempts parts

end SigningKey

/-- Signs with a key given as text. -/
def Signing.sign (environment : Environment) (key : String) (parts : List Signing.Part) :
    Except KeyFault String := do
  (← SigningKey.ofText environment key).sign parts

end HeaterLink
