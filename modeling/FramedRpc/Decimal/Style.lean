import FramedRpc.Decimal.Shortest

namespace FramedRpc.Decimal

structure Style where
  tie : Tie
  -- Exponents of the leading digit that are written positionally; none means all.
  positional : Option (Int × Int)
  -- A whole number keeps one zero after the point.
  wholePoint : Bool
  deriving DecidableEq, Repr

-- As values are displayed: never an exponent, and no point after a whole number.
def Style.display : Style := ⟨.up, none, false⟩

-- As numbers are written in JSON: a fraction part always, and an exponent outside of 10⁻⁵ … 10¹⁶.
def Style.json : Style := ⟨.even, some (-5, 15), true⟩

def zeros (n : Nat) : String := String.ofList (List.replicate n '0')

def plain (style : Style) (d : Scaled) : String :=
  let digits := toString d.coefficient
  let length := digits.length
  if 0 ≤ d.exponent then
    digits ++ zeros d.exponent.toNat ++ if style.wholePoint then ".0" else ""
  else
    let places := (-d.exponent).toNat
    if places < length then
      (digits.take (length - places)).toString ++ "." ++ (digits.drop (length - places)).toString
    else
      "0." ++ zeros (places - length) ++ digits

def scientific (d : Scaled) : String :=
  let digits := toString d.coefficient
  let exponent := d.exponent + digits.length - 1
  let fraction := (digits.drop 1).toString
  (digits.take 1).toString ++ (if fraction.isEmpty then "" else "." ++ fraction) ++ "e" ++
    (if exponent < 0 then "-" else "+") ++ toString exponent.natAbs

def Style.write (style : Style) (d : Scaled) : String :=
  let lead := d.exponent + (toString d.coefficient).length - 1
  match style.positional with
  | none => plain style d
  | some (least, greatest) =>
    if least ≤ lead ∧ lead ≤ greatest then plain style d else scientific d

def Style.finite? (style : Style) (format : Binary.Format) (bits : Nat) : Option String :=
  match format.decode bits with
  | .finite negative m q =>
    let text :=
      if m = 0 then (if style.wholePoint then "0.0" else "0")
      else style.write (shortest style.tie m q (format.lowerIsCloser bits))
    some ((if negative then "-" else "") ++ text)
  | _ => none

-- The text of any number in a format that has words for infinities and NaN.
def Style.number (style : Style) (format : Binary.Format) (bits : Nat) : String :=
  match format.decode bits with
  | .nan => "NaN"
  | .infinite negative => if negative then "-inf" else "inf"
  | .finite .. => (style.finite? format bits).getD ""

end FramedRpc.Decimal
