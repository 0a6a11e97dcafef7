import HeaterLink.Bytes

/-!
# SHA-1

The padded message is taken in blocks of sixteen words; each block is expanded
to eighty words that are mixed into five words of state.
-/

namespace HeaterLink.Sha1

structure State where
  a : UInt32
  b : UInt32
  c : UInt32
  d : UInt32
  e : UInt32
deriving DecidableEq, Repr

def initial : State := ⟨0x67452301, 0xEFCDAB89, 0x98BADCFE, 0x10325476, 0xC3D2E1F0⟩

def rotateLeft (x : UInt32) (n : UInt32) : UInt32 := (x <<< n) ||| (x >>> (32 - n))

/-! ## Blocks -/

/-- A one bit, zeros up to eight bytes short of a block, and the length in bits. -/
def padding (length : Nat) : List UInt8 :=
  0x80 :: (List.replicate ((119 - length % 64) % 64) 0 ++ Bytes.bigEndian 8 (8 * length))

def words : List UInt8 → List UInt32
  | a :: b :: c :: d :: rest => UInt32.ofNat (Bytes.toNat [a, b, c, d]) :: words rest
  | _ => []

/-- The next word of a schedule, of which the latest sixteen are given, latest first. -/
def nextWord (latest : List UInt32) : UInt32 :=
  rotateLeft
    (latest.getD 2 0 ^^^ latest.getD 7 0 ^^^ latest.getD 13 0 ^^^ latest.getD 15 0) 1

/-- Extends a schedule, latest word first, by `n` words. -/
def extend : (n : Nat) → List UInt32 → List UInt32
  | 0, schedule => schedule
  | n + 1, schedule => extend n (nextWord (schedule.take 16) :: schedule)

/-- The eighty words of a block, in order. -/
def schedule (block : List UInt32) : List UInt32 := (extend 64 block.reverse).reverse

/-! ## Mixing -/

/-- The mixing function and the constant of step `t`. -/
def stepOf (t : Nat) (s : State) : UInt32 :=
  if t < 20 then ((s.b &&& s.c) ||| (~~~s.b &&& s.d)) + 0x5A827999
  else if t < 40 then (s.b ^^^ s.c ^^^ s.d) + 0x6ED9EBA1
  else if t < 60 then ((s.b &&& s.c) ||| (s.b &&& s.d) ||| (s.c &&& s.d)) + 0x8F1BBCDC
  else (s.b ^^^ s.c ^^^ s.d) + 0xCA62C1D6

def step (s : State) (t : Nat) (word : UInt32) : State :=
  ⟨rotateLeft s.a 5 + stepOf t s + s.e + word, s.a, rotateLeft s.b 30, s.c, s.d⟩

def mix : (t : Nat) → List UInt32 → State → State
  | _, [], s => s
  | t, w :: ws, s => mix (t + 1) ws (step s t w)

def compress (s : State) (block : List UInt32) : State :=
  let m := mix 0 (schedule block) s
  ⟨s.a + m.a, s.b + m.b, s.c + m.c, s.d + m.d, s.e + m.e⟩

/-- Compresses `blocks` blocks of sixteen words. -/
def compressAll : (blocks : Nat) → List UInt32 → State → State
  | 0, _, s => s
  | n + 1, ws, s => compressAll n (ws.drop 16) (compress s (ws.take 16))

def State.bytes (s : State) : List UInt8 :=
  [s.a, s.b, s.c, s.d, s.e].flatMap fun w => Bytes.bigEndian 4 w.toNat

/-- The twenty bytes of the digest. -/
def digest (message : List UInt8) : List UInt8 :=
  let ws := words (message ++ padding message.length)
  (compressAll (ws.length / 16) ws initial).bytes

@[simp] theorem length_digest (message : List UInt8) : (digest message).length = 20 := by
  simp [digest, State.bytes]

end HeaterLink.Sha1
