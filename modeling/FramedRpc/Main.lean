import FramedRpc.Cli.Program

namespace FramedRpc.Cli

def systemError : IO.Error → IoError
  | .noFileOrDirectory .. => .noSuchFile
  | .permissionDenied .. => .ofSystem .permissionDenied "Permission denied" 13
  | e => .withText .other (toString e)

def noSockets : IoError := .ofKind .unsupported

def attempt (action : IO ByteArray) : IO (Except IoError Bytes) := do
  try return .ok (← action).data.toList
  catch e => return .error (systemError e)

def sourceOf (words : List String) : Option FrameSource :=
  match CommandLine.read words with
  | .ok ⟨_, .decode request⟩ => some request.source
  | _ => none

def gather (words : List String) : IO Surroundings := do
  let bytes ← attempt <|
    match sourceOf words with
    | some (.file path) => IO.FS.readBinFile path
    | some .standardInput => do (← IO.getStdin).readBinToEnd
    | _ => return .empty
  return {
    terminal := ← (← IO.getStdout).isTty
    now := ← IO.monoNanosNow
    input := bytes
    readFile := fun _ => bytes
    connect := fun path => .error (.connect path noSockets) }

def finish (o : Outcome) : IO UInt32 := do
  let output ← IO.getStdout
  output.write ⟨o.output.toArray⟩
  output.flush
  if let some line := o.complaint then IO.eprintln line
  return UInt32.ofNat o.code.number

end FramedRpc.Cli

open FramedRpc Cli in
def main (words : List String) : IO UInt32 := do
  match run (← gather words) words with
  | .finished o => finish o
  | .serving request => finish (.failed (.ofTransport "bind failed" (.bind request.path noSockets)))
  | .refused why =>
    IO.eprintln why.message
    return UInt32.ofNat why.exitCode
