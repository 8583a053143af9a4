import FramedRpc.Duration
import FramedRpc.Transport.Error

namespace FramedRpc

inductive OptionConflict where
  | broadcastAwaitsResponse
  | blockingWithoutResponse
  deriving DecidableEq, Repr

def OptionConflict.message : OptionConflict → String
  | .broadcastAwaitsResponse => "broadcast calls cannot expect a response"
  | .blockingWithoutResponse => "blocking calls must expect a response"

inductive RpcError where
  | notConnected
  | unknownHandler (typeId : Nat)
  | duplicateHandler (typeId : Nat)
  | duplicateMethod (interface method : String)
  | unknownMethod (interface method : String)
  | expired (requestId : Nat) (after : Duration)
  | interrupted (requestId : Nat)
  | invalidOptions (why : OptionConflict)
  | handler (typeId : Nat) (text : String)
  -- The clock has no reading for the deadline.
  | deadlineOutOfRange
  | frame (e : FrameError)
  | codec (e : CodecError)
  | transport (e : TransportError)
  | io (e : IoError)
  deriving DecidableEq

namespace RpcError

def message : RpcError → String
  | notConnected => "endpoint is not connected"
  | unknownHandler typeId => s!"no handler registered for request type {typeId}"
  | duplicateHandler typeId => s!"request type {typeId} registered twice"
  | duplicateMethod interface method => s!"method {interface}.{method} registered twice"
  | unknownMethod interface method => s!"unknown method {interface}.{method}"
  | expired requestId after => s!"request {requestId} expired after {after.display}"
  | interrupted requestId => s!"request {requestId} interrupted"
  | invalidOptions why => "invalid call options: " ++ why.message
  | handler typeId text => s!"handler for request type {typeId} failed: {text}"
  | deadlineOutOfRange => "overflow when adding duration to instant"
  | frame e => "frame error: " ++ e.message
  | codec e => "codec error: " ++ e.message
  | transport e => "transport error: " ++ e.message
  | io e => "I/O error: " ++ e.message

-- The kind of channel failure that comes nearest.
def ioKind : RpcError → IoErrorKind
  | notConnected => .notConnected
  | interrupted _ => .interrupted
  | expired .. => .timedOut
  | invalidOptions _ => .invalidInput
  | io e => e.kind
  | _ => .other

def toIo : RpcError → IoError
  | io e => e
  | e => .withText e.ioKind e.message

end RpcError
end FramedRpc
