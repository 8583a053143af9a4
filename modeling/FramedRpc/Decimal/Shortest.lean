import FramedRpc.Binary.Format

namespace FramedRpc.Decimal

-- Which of two equally near decimals of equal length is taken.
inductive Tie where
  | up
  | even
  deriving DecidableEq, Repr

-- The number `coefficient * 10 ^ exponent`.
structure Scaled where
  coefficient : Nat
  exponent : Int
  deriving DecidableEq, Repr

-- The numbers that round to `value / den`, as numerators over the same denominator.
structure Interval where
  low : Nat
  value : Nat
  high : Nat
  den : Nat
  closed : Bool
  deriving DecidableEq, Repr

namespace Interval

def around (m : Nat) (q : Int) (lowerIsCloser : Bool) : Interval :=
  let (unit, den) := Binary.Format.scale 1 1 (2 - q)
  ⟨(4 * m - if lowerIsCloser then 1 else 2) * unit, 4 * m * unit, (4 * m + 2) * unit, den, m % 2 = 0⟩

def contains (i : Interval) (num : Nat) : Bool :=
  if i.closed then i.low ≤ num && num ≤ i.high else i.low < num && num < i.high

def refine (i : Interval) (n : Nat) : Interval :=
  { i with low := i.low * n, value := i.value * n, high := i.high * n }

end Interval

def leadingPlace (value den : Nat) : Nat → Int
  | 0 => 0
  | fuel + 1 =>
    if value < den then leadingPlace (value * 10) den fuel - 1
    else ((toString (value / den)).length : Int)

-- The better of the two points around the number on the grid of multiples of `10 ^ place`.
def onGrid (tie : Tie) (i : Interval) (place : Int) : Option Scaled :=
  let unit := if 0 ≤ place then i.den * 10 ^ place.toNat else i.den
  let i := if 0 ≤ place then i else i.refine (10 ^ (-place).toNat)
  let down := i.value / unit
  let gap := 2 * (i.value % unit)
  match i.contains (down * unit), i.contains ((down + 1) * unit) with
  | false, false => none
  | true, false => some ⟨down, place⟩
  | false, true => some ⟨down + 1, place⟩
  | true, true =>
    let nearest :=
      if gap < unit then down
      else if unit < gap then down + 1
      else match tie with
        | .up => down + 1
        | .even => down + down % 2
    some ⟨nearest, place⟩

-- Grids of `digits`, `digits + 1`, … places.
def searchGrids (tie : Tie) (i : Interval) (lead : Int) (digits : Nat) : Nat → Option Scaled
  | 0 => none
  | fuel + 1 =>
    match onGrid tie i (lead - digits) with
    | some found => some found
    | none => searchGrids tie i lead (digits + 1) fuel

def dropZeros (coefficient : Nat) (exponent : Int) : Nat → Scaled
  | 0 => ⟨coefficient, exponent⟩
  | fuel + 1 =>
    if coefficient % 10 = 0 ∧ 0 < coefficient then dropZeros (coefficient / 10) (exponent + 1) fuel
    else ⟨coefficient, exponent⟩

-- Seventeen digits tell any two doubles apart, so the search ends by then.
def shortest (tie : Tie) (m : Nat) (q : Int) (lowerIsCloser : Bool) : Scaled :=
  let i := Interval.around m q lowerIsCloser
  let lead := leadingPlace i.value i.den 400
  match searchGrids tie i lead 1 17 with
  | some found => dropZeros found.coefficient found.exponent 17
  | none => ⟨0, 0⟩

end FramedRpc.Decimal
