namespace FramedRpc

inductive IoErrorKind where
  | notFound
  | permissionDenied
  | connectionRefused
  | connectionReset
  | connectionAborted
  | notConnected
  | addrInUse
  | addrNotAvailable
  | brokenPipe
  | alreadyExists
  | wouldBlock
  | notADirectory
  | isADirectory
  | directoryNotEmpty
  | invalidFilename
  | invalidInput
  | invalidData
  | timedOut
  | writeZero
  | interrupted
  | unsupported
  | unexpectedEof
  | outOfMemory
  | other
  deriving DecidableEq, Repr, Inhabited

namespace IoErrorKind

def description : IoErrorKind → String
  | notFound => "entity not found"
  | permissionDenied => "permission denied"
  | connectionRefused => "connection refused"
  | connectionReset => "connection reset"
  | connectionAborted => "connection aborted"
  | notConnected => "not connected"
  | addrInUse => "address in use"
  | addrNotAvailable => "address not available"
  | brokenPipe => "broken pipe"
  | alreadyExists => "entity already exists"
  | wouldBlock => "operation would block"
  | notADirectory => "not a directory"
  | isADirectory => "is a directory"
  | directoryNotEmpty => "directory not empty"
  | invalidFilename => "invalid filename"
  | invalidInput => "invalid input parameter"
  | invalidData => "invalid data"
  | timedOut => "timed out"
  | writeZero => "write zero"
  | interrupted => "operation interrupted"
  | unsupported => "unsupported"
  | unexpectedEof => "unexpected end of file"
  | outOfMemory => "out of memory"
  | other => "other error"

end IoErrorKind

structure IoError where
  kind : IoErrorKind
  detail : Option String
  deriving DecidableEq, Repr, Inhabited

namespace IoError

def ofKind (kind : IoErrorKind) : IoError := ⟨kind, none⟩

def withText (kind : IoErrorKind) (text : String) : IoError := ⟨kind, some text⟩

def message (e : IoError) : String := e.detail.getD e.kind.description

-- An interrupted operation has done nothing and may be tried again.
def isInterrupted (e : IoError) : Bool := e.kind = .interrupted

def sinkFull : IoError := withText .writeZero "failed to write whole buffer"

def ofSystem (kind : IoErrorKind) (text : String) (code : Nat) : IoError :=
  withText kind s!"{text} (os error {code})"

def noSuchFile : IoError := ofSystem .notFound "No such file or directory" 2
def noSuchDevice : IoError := ofSystem .other "No such device or address" 6
def unavailable : IoError := ofSystem .wouldBlock "Resource temporarily unavailable" 11
def fileExists : IoError := ofSystem .alreadyExists "File exists" 17
def notADirectory : IoError := ofSystem .notADirectory "Not a directory" 20
def isDirectory : IoError := ofSystem .isADirectory "Is a directory" 21
def invalidArgument : IoError := ofSystem .invalidInput "Invalid argument" 22
def brokenPipe : IoError := ofSystem .brokenPipe "Broken pipe" 32
def nameTooLong : IoError := ofSystem .invalidFilename "File name too long" 36
def addressInUse : IoError := ofSystem .addrInUse "Address already in use" 98
def connectionReset : IoError := ofSystem .connectionReset "Connection reset by peer" 104
def connectionRefused : IoError := ofSystem .connectionRefused "Connection refused" 111

def nulInFileName : IoError := withText .invalidInput "file name contained an unexpected NUL byte"
def zeroTimeout : IoError := withText .invalidInput "cannot set a 0 duration timeout"

end IoError
end FramedRpc
