import FramedRpc.IoError
import FramedRpc.Text.Utf8
import FramedRpc.Value.Display

namespace FramedRpc.Codec

def maxDepth : Nat := 512

def maxLength : Nat := 0xFFFFFF

inductive Unsupported where
  | topLevel (kind : String)
  | tooDeep
  | tooLong (what : String) (length : Nat)
  | stated (text : String)
  deriving DecidableEq

def Unsupported.message : Unsupported → String
  | .topLevel kind => s!"top-level value must be a list or map, got {kind}"
  | .tooDeep => s!"nesting deeper than {maxDepth} levels"
  | .tooLong what length => s!"{what} of {length} bytes exceeds {maxLength} byte limit"
  | .stated text => text

inductive Malformed where
  | empty
  | topLevel (tag : UInt8)
  | tooDeep
  | highBits (tag : UInt8)
  | width (tag : UInt8)
  | magnitude (m : Nat)
  | range (n : Int) (kind : String)
  | notText (fault : Text.Utf8.Fault)
  | short (what : String) (expected got : Nat)
  | noValue (key : Value)
  | trailing (count : Nat)
  | stated (text : String)
  deriving DecidableEq

def tagText (tag : UInt8) : String := "0x" ++ Text.hexPadded 2 tag.toNat

def Malformed.message : Malformed → String
  | .empty => "empty input"
  | .topLevel tag => "top-level tag must be map or list, got " ++ tagText tag
  | .tooDeep => s!"nesting deeper than {maxDepth} levels"
  | .highBits tag => "unexpected high bits on tag " ++ tagText tag
  | .width tag => "invalid integer width on tag " ++ tagText tag
  | .magnitude m => s!"integer magnitude {m} out of range"
  | .range n kind => s!"{n} does not fit in a {kind}"
  | .notText fault => "string is not UTF-8: " ++ fault.message
  | .short what expected got => s!"short read for {what}: expected {expected} bytes, got {got}"
  | .noValue key => "map key " ++ key.display ++ " has no value"
  | .trailing count => s!"{count} trailing bytes after top-level value"
  | .stated text => text

end Codec

inductive CodecError where
  | unsupported (why : Codec.Unsupported)
  | malformed (why : Codec.Malformed)
  | io (e : IoError)
  deriving DecidableEq

def CodecError.message : CodecError → String
  | .unsupported why => "unsupported type: " ++ why.message
  | .malformed why => "invalid format: " ++ why.message
  | .io e => "codec I/O error: " ++ e.message

end FramedRpc
