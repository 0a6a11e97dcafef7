import HeaterLink.Digest.Sha1

/-!
# Keyed digests

HMAC over SHA-1, for keys of at most one block.
-/

namespace HeaterLink.Hmac

def blockSize : Nat := 64

def pad (fill : UInt8) (key : List UInt8) : List UInt8 :=
  (key ++ List.replicate (blockSize - key.length) 0).map (· ^^^ fill)

def digest (key message : List UInt8) : List UInt8 :=
  Sha1.digest (pad 0x5C key ++ Sha1.digest (pad 0x36 key ++ message))

@[simp] theorem length_digest (key message : List UInt8) : (digest key message).length = 20 :=
  Sha1.length_digest _

end HeaterLink.Hmac
