import FramedRpc.IoError

namespace FramedRpc

inductive PathStep where
  | stay
  | up
  | into (name : String)
  deriving DecidableEq, Repr

structure Path where
  steps : List PathStep
  endsInSlash : Bool
  deriving DecidableEq, Repr

namespace Path

def step? : String → Option PathStep
  | "" => none
  | "." => some .stay
  | ".." => some .up
  | name => some (.into name)

def maxName : Nat := 255

def maxPath : Nat := 4095

def parse (text : String) : Except IoError Path :=
  if text.contains '\x00' then .error .nulInFileName
  else if text.isEmpty then .error .noSuchFile
  else if maxPath < text.utf8ByteSize then .error .nameTooLong
  else
    let parts := text.splitOn "/"
    .ok ⟨parts.filterMap step?, parts.getLast? = some ""⟩

end Path
end FramedRpc
