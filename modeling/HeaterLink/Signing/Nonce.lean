import HeaterLink.Digest.Hmac

/-!
# Signing numbers

The number that a signature needs beside the key, drawn from a generator that
the private number and the message seed: the same message always draws the same
candidates, and the first usable one is taken.
-/

namespace HeaterLink.Nonce

structure Generator where
  key : List UInt8
  value : List UInt8
deriving DecidableEq, Repr

namespace Generator

/-- Stirs bytes into both parts. -/
def update (s : Generator) (bytes : List UInt8) : Generator :=
  let key := Hmac.digest s.key (s.value ++ bytes)
  ⟨key, Hmac.digest key s.value⟩

def seeded (seed : List UInt8) : Generator :=
  let s : Generator := ⟨List.replicate 20 0, List.replicate 20 1⟩
  (s.update (0 :: seed)).update (1 :: seed)

/-- At least `n` digests' worth of bytes, and the value behind them. -/
def draw (key : List UInt8) : (n : Nat) → List UInt8 → List UInt8 × List UInt8
  | 0, value => ([], value)
  | n + 1, value =>
    let value := Hmac.digest key value
    let (bytes, last) := draw key n value
    (value ++ bytes, last)

/-- The next candidate of `width` bytes. -/
def next (width : Nat) (s : Generator) : Nat × Generator :=
  let (bytes, value) := draw s.key ((width + 19) / 20) s.value
  (Bytes.toNat (bytes.take width), Generator.update ⟨s.key, value⟩ [0])

/-- The state after `n` candidates. -/
def after (width : Nat) : (n : Nat) → Generator → Generator
  | 0, s => s
  | n + 1, s => after width n (s.next width).2

end Generator

/-- The first usable result among `attempts` candidates. -/
def firstOf {α : Type} (width : Nat) (use? : Nat → Option α) :
    (attempts : Nat) → Generator → Option α
  | 0, _ => none
  | attempts + 1, s =>
    let (candidate, s) := s.next width
    match use? candidate with
    | some a => some a
    | none => firstOf width use? attempts s

end HeaterLink.Nonce
