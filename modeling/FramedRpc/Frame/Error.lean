import FramedRpc.Codec.Error

namespace FramedRpc

inductive FrameError where
  | codec (e : CodecError)
  | fieldOutOfRange (field : String) (value max : Nat)
  | contentTooLarge (size max : Nat)
  | crcMismatch (wire computed : UInt32)
  | io (e : IoError)
  | connectionClosed
  deriving DecidableEq

namespace FrameError

def message : FrameError → String
  | codec e => "content codec error: " ++ e.message
  | fieldOutOfRange field value max => s!"{field} {value} out of range (max {max})"
  | contentTooLarge size max => s!"content too large ({size} bytes, max {max})"
  | crcMismatch wire computed =>
    "crc mismatch (wire 0x" ++ Text.hexPadded 8 wire.toNat ++ ", computed 0x" ++
      Text.hexPadded 8 computed.toNat ++ ")"
  | io e => "frame I/O error: " ++ e.message
  | connectionClosed => "connection closed"

end FrameError
end FramedRpc
