import FramedRpc.Power

namespace FramedRpc.Binary

-- Widths of the two fields below the sign bit.
structure Format where
  fraction : Nat
  exponent : Nat
  deriving DecidableEq, Repr

def single : Format := ⟨23, 8⟩
def double : Format := ⟨52, 11⟩

inductive Number where
  | nan
  | infinite (negative : Bool)
  | finite (negative : Bool) (m : Nat) (q : Int)
  deriving DecidableEq, Repr

namespace Format

def bias (f : Format) : Nat := 2 ^ (f.exponent - 1) - 1

-- The exponent of the last place of the smallest numbers.
def least (f : Format) : Int := 1 - (f.bias : Int) - f.fraction

def signBit (f : Format) : Nat := 2 ^ (f.fraction + f.exponent)

def infinity (f : Format) : Nat := (2 ^ f.exponent - 1) * 2 ^ f.fraction

def isNegative (f : Format) (bits : Nat) : Bool := bits / f.signBit % 2 = 1

def biased (f : Format) (bits : Nat) : Nat := bits / 2 ^ f.fraction % 2 ^ f.exponent

def trailing (f : Format) (bits : Nat) : Nat := bits % 2 ^ f.fraction

def decode (f : Format) (bits : Nat) : Number :=
  let negative := f.isNegative bits
  let e := f.biased bits
  let t := f.trailing bits
  if e = 2 ^ f.exponent - 1 then
    if t = 0 then .infinite negative else .nan
  else if e = 0 then .finite negative t f.least
  else .finite negative (t + 2 ^ f.fraction) (f.least + e - 1)

-- At a power of two the neighbour below is half as far away as the one above.
def lowerIsCloser (f : Format) (bits : Nat) : Bool := f.trailing bits = 0 && 1 < f.biased bits

-- The quotient nearest to a ratio; a tie goes to the even one.
def roundDiv (num den : Nat) : Nat :=
  let quotient := num / den
  let twice := 2 * (num % den)
  if twice < den then quotient
  else if twice = den then quotient + quotient % 2
  else quotient + 1

def scale (num den : Nat) (q : Int) : Nat × Nat :=
  if 0 ≤ q then (num, den * 2 ^ q.toNat) else (num * 2 ^ (-q).toNat, den)

-- The pattern nearest to a positive ratio; from half a place above the largest number on, infinity.
def ofRatio (f : Format) (num den : Nat) : Nat :=
  if num = 0 then 0
  else
    let guess := max ((Nat.log2 num : Int) - Nat.log2 den - 1 - f.fraction) f.least
    let (a, b) := scale num den guess
    let q := if 2 ^ (f.fraction + 1) ≤ a / b then guess + 1 else guess
    let (a, b) := scale num den q
    -- A carry out of the fraction moves on into the exponent field, as it should.
    min ((q - f.least).toNat * 2 ^ f.fraction + roundDiv a b) f.infinity

def withSign (f : Format) (negative : Bool) (bits : Nat) : Nat :=
  if negative then f.signBit + bits else bits

end Format

def widen (bits : UInt32) : UInt64 :=
  match single.decode bits.toNat with
  | .nan => 0x7FF8000000000000
  | .infinite negative => UInt64.ofNat (double.withSign negative double.infinity)
  | .finite negative m q =>
    let (num, den) := Format.scale m 1 (-q)
    UInt64.ofNat (double.withSign negative (double.ofRatio num den))

def isNaN (f : Format) (bits : Nat) : Bool := f.decode bits = .nan

def sameNumber (f : Format) (a b : Nat) : Bool :=
  !isNaN f a && !isNaN f b && (a = b || (a % f.signBit = 0 && b % f.signBit = 0))

end FramedRpc.Binary
