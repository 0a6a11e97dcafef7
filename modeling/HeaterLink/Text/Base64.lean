/-!
# Base64

Three bytes as four characters of the standard alphabet, padded at the end.
-/

namespace HeaterLink.Base64

def digit (n : Nat) : Char :=
  Char.ofNat
    (if n < 26 then 65 + n
     else if n < 52 then 71 + n
     else if n < 62 then n - 4
     else if n = 62 then 43
     else 47)

def encode : List UInt8 → List Char
  | a :: b :: c :: rest =>
    let n := (a.toNat * 256 + b.toNat) * 256 + c.toNat
    digit (n / 262144) :: digit (n / 4096 % 64) :: digit (n / 64 % 64) :: digit (n % 64) ::
      encode rest
  | [a, b] =>
    let n := (a.toNat * 256 + b.toNat) * 4
    [digit (n / 4096), digit (n / 64 % 64), digit (n % 64), '=']
  | [a] =>
    let n := a.toNat * 16
    [digit (n / 64), digit (n % 64), '=', '=']
  | [] => []

end HeaterLink.Base64
