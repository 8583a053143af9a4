import FramedRpc.Bytes

namespace FramedRpc.Crc32

def polynomial : UInt32 := 0xEDB88320

def shift (register : UInt32) : UInt32 :=
  if register &&& 1 = 1 then (register >>> 1) ^^^ polynomial else register >>> 1

def shifts : Nat → UInt32 → UInt32
  | 0, register => register
  | n + 1, register => shifts n (shift register)

def start : UInt32 := 0xFFFFFFFF

def update (register : UInt32) (byte : UInt8) : UInt32 := shifts 8 (register ^^^ byte.toUInt32)

def updateAll (register : UInt32) (bytes : Bytes) : UInt32 := bytes.foldl update register

def finish (register : UInt32) : UInt32 := register ^^^ 0xFFFFFFFF

def checksum (bytes : Bytes) : UInt32 := finish (updateAll start bytes)

@[simp] theorem updateAll_append (register : UInt32) (a b : Bytes) :
    updateAll register (a ++ b) = updateAll (updateAll register a) b := List.foldl_append

-- The check value of the nine ASCII digits from 1 on.
example : checksum [49, 50, 51, 52, 53, 54, 55, 56, 57] = 0xCBF43926 := by decide +kernel

end FramedRpc.Crc32
