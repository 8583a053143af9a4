import FramedRpc.Bytes

namespace FramedRpc.Frame

def maxTypeId : Nat := 0x3FFF
def maxRequestId : Nat := 0x3FFFFFFF
def maxContentLength : Nat := 0x7FFFFFFF

-- Lengths below 2¹⁵ take two bytes, and the others four with the top bit set.
def writeLength (n : Nat) : Bytes :=
  if n ≤ 0x7FFF then Bytes.bigEndian 2 n else Bytes.bigEndian 4 (0x80000000 + n)

-- How long the doubled length is, as far as the bytes seen so far tell.
def lengthSize : Bytes → Nat
  | first :: _ => if 0x80 ≤ first then 8 else 4
  | [] => 4

-- The length in a doubled length field; none where the two copies disagree.
def readLength? (field : Bytes) : Option Nat :=
  let half := field.length / 2
  if field.take half = field.drop half then some (Bytes.ofBigEndian (field.take half) % 2 ^ (8 * half - 1))
  else none

structure Fields where
  isResponse : Bool
  typeId : Nat
  requestId : Nat
  deriving DecidableEq, Repr

def writeRequestId (id : Nat) : Bytes :=
  if id ≤ 0x7FFF then Bytes.bigEndian 2 id
  else if id ≤ 0x3FFFFF then Bytes.bigEndian 3 (0x800000 + id)
  else Bytes.bigEndian 4 (0xC0000000 + id)

def writeType (isResponse : Bool) (typeId : Nat) : Bytes :=
  let flag := if isResponse then 0x80 else 0
  if typeId ≤ 0x3F then [UInt8.ofNat (flag + typeId)]
  else [UInt8.ofNat (flag + 0x40 + typeId / 256), UInt8.ofNat typeId]

def Fields.write (f : Fields) : Bytes := writeRequestId f.requestId ++ writeType f.isResponse f.typeId

def idWidth : Bytes → Nat
  | first :: _ => if 0xC0 ≤ first then 4 else if 0x80 ≤ first then 3 else 2
  | [] => 2

def isExtended (byte : UInt8) : Bool := byte &&& 0x40 != 0

def fieldsSize (seen : Bytes) : Nat :=
  match seen.drop (idWidth seen) with
  | type :: _ => if isExtended type then idWidth seen + 2 else idWidth seen + 1
  | [] => idWidth seen + 1

-- The bits of a request id that are left beside the mark of its width.
def idBits (width : Nat) : Nat := if width = 4 then 30 else 8 * width - 1

def readFields (field : Bytes) : Fields :=
  let width := idWidth field
  let lead := field.getD width 0
  ⟨0x80 ≤ lead,
    if isExtended lead then lead.toNat % 64 * 256 + (field.getD (width + 1) 0).toNat
    else lead.toNat % 64,
    Bytes.ofBigEndian (field.take width) % 2 ^ idBits width⟩

end FramedRpc.Frame
