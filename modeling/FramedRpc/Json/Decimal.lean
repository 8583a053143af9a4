import FramedRpc.Json.Basic

namespace FramedRpc.Json

open Binary (Format)

-- A finite double without its sign, as a ratio.
def ratio (bits : Nat) : Nat × Nat :=
  match Binary.double.decode bits with
  | .finite _ m q => Format.scale m 1 (-q)
  | _ => (0, 1)

def product (a b : Nat) : Nat :=
  let (m, n) := ratio a
  let (k, l) := ratio b
  Binary.double.ofRatio (m * k) (n * l)

def quotient (a b : Nat) : Nat :=
  let (m, n) := ratio a
  let (k, l) := ratio b
  Binary.double.ofRatio (m * l) (n * k)

def powerOfTen (n : Nat) : Nat := Binary.double.ofRatio (10 ^ n) 1

def maxPower : Nat := 308

-- A double times a power of ten. Large negative powers are taken in steps; nothing if the result is
-- too large.
def scaled? (bits : Nat) (exponent : Int) : Option Nat :=
  if exponent.natAbs ≤ maxPower then
    if 0 ≤ exponent then
      let scaled := product bits (powerOfTen exponent.toNat)
      if scaled = Binary.double.infinity then none else some scaled
    else some (quotient bits (powerOfTen exponent.natAbs))
  else if bits = 0 then some 0
  else if _positive : 0 ≤ exponent then none
  else scaled? (quotient bits (powerOfTen maxPower)) (exponent + maxPower)
termination_by (-exponent).toNat
decreasing_by
  simp only [maxPower] at *
  omega

def real? (negative : Bool) (significand : Nat) (exponent : Int) : Option Number :=
  (scaled? (Binary.double.ofRatio significand 1) exponent).map fun bits =>
    .real (UInt64.ofNat (Binary.double.withSign negative bits))

end FramedRpc.Json
