import FramedRpc.Codec.Integer

namespace FramedRpc.Codec

def shiftRight? (m : UInt64) (places : Nat) : Option UInt64 :=
  if places < 64 then some (m >>> UInt64.ofNat places) else none

def holds? (m : UInt64) (width : Nat) : Option Bool :=
  if 8 ≤ width then some true else (shiftRight? m (8 * width)).map (· == 0)

def firstPlace? (m : UInt64) : List Nat → Option (Option Nat)
  | [] => some none
  | width :: wider => do
    if ← holds? m width then return some 0
    return (← firstPlace? m wider).map (· + 1)

def magnitudeWord (n : Int64) : UInt64 := if n < 0 then (~~~n).toUInt64 else n.toUInt64

def lastBytes? (width : Nat) (m : UInt64) : Option Bytes :=
  if width ≤ 8 then some ((Bytes.bigEndian 8 m.toNat).drop (8 - width)) else none

def widthPlace? (kind : IntegerKind) (m : UInt64) : Option Nat := do
  return (← firstPlace? m kind.widths).getD (kind.widths.length - 1)

def tagWord (kind : IntegerKind) (n : Int64) (index : Nat) : UInt8 :=
  kind.tag ||| (if n < 0 then (0x80 : UInt8) else 0) ||| UInt8.ofNat index <<< 4

def putInteger? (kind : IntegerKind) (n : Int64) : Option Bytes := do
  let index ← widthPlace? kind (magnitudeWord n)
  let width ← kind.widths[index]?
  let digits ← lastBytes? width (magnitudeWord n)
  return tagWord kind n index :: digits

def wordOf (body : Bytes) : UInt64 := UInt64.ofNat (Bytes.ofBigEndian (List.replicate (8 - body.length) 0 ++ body))

-- A number cut down to the size of its kind, if it fits.
def narrowed (kind : IntegerKind) (n : Int64) : Except Malformed Scalar :=
  match kind with
  | .short =>
    if Int16.minValue.toInt64 ≤ n ∧ n ≤ Int16.maxValue.toInt64 then .ok (.short n.toInt16)
    else .error (.range n.toInt kind.name)
  | .int =>
    if Int32.minValue.toInt64 ≤ n ∧ n ≤ Int32.maxValue.toInt64 then .ok (.int n.toInt32)
    else .error (.range n.toInt kind.name)
  | .long => .ok (.long n)
  | .timestamp => .ok (.timestamp n)

-- The top bit of a magnitude has to be free, since it becomes that of the sign.
def getInteger (kind : IntegerKind) (negative : Bool) (m : UInt64) : Except Malformed Scalar :=
  if Int64.maxValue.toUInt64 < m then .error (.magnitude m.toNat)
  else narrowed kind (if negative then ~~~m.toInt64 else m.toInt64)

end FramedRpc.Codec
