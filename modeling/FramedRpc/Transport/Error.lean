import FramedRpc.Frame.Error

namespace FramedRpc

inductive TransportError where
  | bind (address : String) (e : IoError)
  | connect (address : String) (e : IoError)
  | accept (e : IoError)
  | io (e : IoError)
  | pathTooLong (path : String) (length max : Nat)
  | closed
  deriving DecidableEq

namespace TransportError

def message : TransportError → String
  | bind address e => "failed to bind to " ++ address ++ ": " ++ e.message
  | connect address e => "failed to connect to " ++ address ++ ": " ++ e.message
  | accept e => "failed to accept connection: " ++ e.message
  | io e => "transport I/O error: " ++ e.message
  | pathTooLong path length max => s!"socket path too long ({length} bytes, max {max}): {path}"
  | closed => "transport closed"

def toFrame : TransportError → FrameError
  | bind _ e | connect _ e | accept e | io e => .io e
  | closed => .connectionClosed
  | pathTooLong path length max =>
    .io (.withText .other (message (pathTooLong path length max)))

end TransportError
end FramedRpc
