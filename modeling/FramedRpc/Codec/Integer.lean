import FramedRpc.Codec.Error

namespace FramedRpc.Codec

inductive IntegerKind where
  | short
  | int
  | long
  | timestamp
  deriving DecidableEq, Repr

namespace IntegerKind

def tag : IntegerKind → UInt8
  | short => 5
  | int => 6
  | long => 7
  | timestamp => 11

def ofTag? (tag : UInt8) : Option IntegerKind :=
  if tag = 5 then some short
  else if tag = 6 then some int
  else if tag = 7 then some long
  else if tag = 11 then some timestamp
  else none

def widths : IntegerKind → List Nat
  | short | int => [1, 2, 3, 4]
  | long | timestamp => [1, 2, 3, 4, 6, 8]

def bits : IntegerKind → Nat
  | short => 16
  | int => 32
  | long | timestamp => 64

def Fits (kind : IntegerKind) (n : Int) : Prop :=
  -(2 ^ (kind.bits - 1) : Int) ≤ n ∧ n < 2 ^ (kind.bits - 1)

instance (kind : IntegerKind) (n : Int) : Decidable (kind.Fits n) :=
  inferInstanceAs (Decidable (_ ∧ _))

def name : IntegerKind → String
  | short => "short"
  | int => "int"
  | long => "long"
  | timestamp => "timestamp"

def scalar (kind : IntegerKind) (n : Int) : Scalar :=
  match kind with
  | short => .short (Int16.ofInt n)
  | int => .int (Int32.ofInt n)
  | long => .long (Int64.ofInt n)
  | timestamp => .timestamp (Int64.ofInt n)

end IntegerKind

-- A number without its sign: itself, or its complement.
def magnitude (n : Int) : Nat := (if n < 0 then -n - 1 else n).toNat

def signed (negative : Bool) (m : Nat) : Int := if negative then -(m : Int) - 1 else m

-- The index of the first width that holds a magnitude; the last one where none does.
def widthIndex (kind : IntegerKind) (m : Nat) : Nat :=
  (kind.widths.findIdx? fun width => decide (m < 256 ^ width)).getD (kind.widths.length - 1)

def integerTag (kind : IntegerKind) (negative : Bool) (index : Nat) : UInt8 :=
  kind.tag ||| (if negative then 0x80 else 0) ||| UInt8.ofNat (16 * index)

def writeInteger (kind : IntegerKind) (n : Int) : Bytes :=
  let m := magnitude n
  let index := widthIndex kind m
  integerTag kind (decide (n < 0)) index :: Bytes.bigEndian (kind.widths.getD index 8) m

def integerOf (kind : IntegerKind) (negative : Bool) (m : Nat) : Except Malformed Scalar :=
  if 0x8000000000000000 ≤ m then .error (.magnitude m)
  else if kind.Fits (signed negative m) then .ok (kind.scalar (signed negative m))
  else .error (.range (signed negative m) kind.name)

end FramedRpc.Codec
