import FramedRpc.Endpoint.Error

namespace FramedRpc.Cli

inductive ExitCode where
  | success
  | failure
  | transportError
  | permissionDenied
  | dataInvalid
  | usage
  -- How the runtime ends a program that has broken down.
  | aborted
  | timeout
  | internalError
  deriving DecidableEq, Repr

def ExitCode.number : ExitCode → Nat
  | success => 0
  | failure => 1
  | transportError => 3
  | permissionDenied => 50
  | dataInvalid => 60
  | usage => 64
  | aborted => 101
  | timeout => 124
  | internalError => 125

structure Failure where
  code : ExitCode
  message : String
  deriving DecidableEq, Repr

namespace Failure

def during (context : String) (code : ExitCode) (text : String) : Failure := ⟨code, context ++ ": " ++ text⟩

def ofIo (context : String) (e : IoError) : Failure :=
  let code : ExitCode :=
    match e.kind with
    | .permissionDenied => .permissionDenied
    | .timedOut | .wouldBlock => .timeout
    | .connectionRefused | .notFound => .transportError
    | _ => .internalError
  during context code e.message

-- A failure of a channel is told as such, wherever it came up.
def ofTransport (context : String) (e : TransportError) : Failure :=
  match e with
  | .bind _ cause | .connect _ cause | .accept cause | .io cause => ofIo context cause
  | .pathTooLong .. => during context .usage e.message
  | .closed => during context .transportError e.message

def ofFrame (context : String) (e : FrameError) : Failure :=
  match e with
  | .io cause => ofIo context cause
  | .codec _ | .contentTooLarge .. | .fieldOutOfRange .. => during context .dataInvalid e.message
  | .connectionClosed => during context .failure e.message
  | .crcMismatch .. => during context .internalError e.message

def ofRpc (context : String) (e : RpcError) : Failure :=
  match e with
  | .transport cause => ofTransport context cause
  | .frame cause => ofFrame context cause
  | .io cause => ofIo context cause
  | .expired .. => during context .timeout e.message
  | .codec _ => during context .dataInvalid e.message
  | .invalidOptions _ | .unknownMethod .. => during context .usage e.message
  | .notConnected | .interrupted _ => during context .failure e.message
  | .unknownHandler _ | .duplicateHandler _ | .duplicateMethod .. | .handler .. | .deadlineOutOfRange =>
    during context .internalError e.message

end Failure
end FramedRpc.Cli
