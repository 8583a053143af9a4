import FramedRpc.Codec.Encode

namespace FramedRpc
namespace Codec

-- A computation that puts bytes onto a buffer, also where it fails.
abbrev Appending := ExceptT CodecError (StateM Bytes)

def put (bytes : Bytes) : Appending Unit := modify (· ++ bytes)

def refuse (why : Unsupported) : Appending Unit := throw (.unsupported why)

def putLength (shortTag longTag : UInt8) (what : String) (length : Nat) : Appending Unit :=
  if length ≤ 0xFF then put [shortTag, UInt8.ofNat length]
  else if length ≤ maxLength then put (longTag :: Bytes.bigEndian 3 length)
  else refuse (.tooLong what length)

def putSized (shortTag longTag : UInt8) (what : String) (bytes : Bytes) : Appending Unit := do
  putLength shortTag longTag what bytes.length
  put bytes

def checkDepth (depth : Nat) : Appending Unit := if maxDepth ≤ depth then refuse .tooDeep else pure ()

end Codec

open Codec

def Scalar.put : Scalar → Appending Unit
  | .string s => putSized 12 13 "string" (Text.Utf8.encode s)
  | .binary bytes => putSized 14 15 "binary" bytes
  | s => Codec.put s.write

namespace Value

mutual

-- A value inside of `depth` containers.
def put (depth : Nat) : Value → Appending Unit
  | scalar s => s.put
  | list items => do
    checkDepth depth
    Codec.put [2]
    putItems (depth + 1) items
    Codec.put [0]
  | map entries => do
    checkDepth depth
    Codec.put [1]
    putEntries (depth + 1) entries
    Codec.put [0]

def putItems (depth : Nat) : List Value → Appending Unit
  | [] => pure ()
  | v :: rest => do
    put depth v
    putItems depth rest

def putEntries (depth : Nat) : List (Value × Value) → Appending Unit
  | [] => pure ()
  | (k, v) :: rest => do
    put depth k
    put depth v
    putEntries depth rest

end

-- Cuts the buffer back if the value has an obstacle inside.
def generateOnto (v : Value) (buffer : Bytes) : Except CodecError Unit × Bytes :=
  if v.isContainer then
    match v.put 0 buffer with
    | (.ok (), after) => (.ok (), after)
    | (.error e, after) => (.error e, after.take buffer.length)
  else (.error (.unsupported (.topLevel v.kind)), buffer)

end Value

end FramedRpc
