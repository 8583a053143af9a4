import FramedRpc.Codec.Integer

namespace FramedRpc
namespace Codec

inductive Token where
  | close
  | openMap
  | openList
  | scalar (s : Scalar)
  deriving DecidableEq

-- Bytes with their length in front, in one byte if it fits and in three otherwise.
def writeSized (shortTag longTag : UInt8) (bytes : Bytes) : Bytes :=
  if bytes.length ≤ 0xFF then shortTag :: UInt8.ofNat bytes.length :: bytes
  else longTag :: (Bytes.bigEndian 3 bytes.length ++ bytes)

end Codec

open Codec

def Scalar.write : Scalar → Bytes
  | .null => [10]
  | .bool b => [if b then 8 else 9]
  | .short n => writeInteger .short n.toInt
  | .int n => writeInteger .int n.toInt
  | .long n => writeInteger .long n.toInt
  | .timestamp n => writeInteger .timestamp n.toInt
  | .float bits => 3 :: Bytes.bigEndian 4 bits.toNat
  | .double bits => 4 :: Bytes.bigEndian 8 bits.toNat
  | .string s => writeSized 12 13 (Text.Utf8.encode s)
  | .binary bytes => writeSized 14 15 bytes

def Scalar.obstacle? : Scalar → Option Unsupported
  | .string s =>
    let length := (Text.Utf8.encode s).length
    if length ≤ maxLength then none else some (.tooLong "string" length)
  | .binary bytes => if bytes.length ≤ maxLength then none else some (.tooLong "binary" bytes.length)
  | _ => none

def Codec.Token.write : Token → Bytes
  | .close => [0]
  | .openMap => [1]
  | .openList => [2]
  | .scalar s => s.write

end FramedRpc
