import FramedRpc.Cli.Arguments
import FramedRpc.Cli.CommandLine
import FramedRpc.Cli.Surroundings
import FramedRpc.Cli.Timeout
import FramedRpc.Endpoint.Network

namespace FramedRpc.Cli

inductive Outcome where
  | ended (code : ExitCode) (output : Bytes) (complaint : Option String)
  -- The program breaks down, and it is the runtime that says why.
  | panicked (message : String)
  deriving DecidableEq, Repr

namespace Outcome

def success (output : Bytes) : Outcome := ended .success output none

def failed (f : Failure) : Outcome := ended f.code [] (some ("error: " ++ f.message))

-- A call for whose deadline the clock has no reading breaks down, any other that goes wrong is a failure.
def ofRpc (context : String) : RpcError → Outcome
  | .deadlineOutOfRange => panicked RpcError.deadlineOutOfRange.message
  | e => failed (.ofRpc context e)

def code : Outcome → ExitCode
  | ended code _ _ => code
  | panicked _ => .aborted

def output : Outcome → Bytes
  | ended _ output _ => output
  | panicked _ => []

def complaint : Outcome → Option String
  | ended _ _ complaint => complaint
  | panicked message => some message

end Outcome

-- Encoding

def encode (r : EncodeRequest) : Except Failure FrameReport := do
  let content ← parseArguments r.args
  let packet : Packet := ⟨r.isResponse, r.typeId, r.requestId, content⟩
  let frame ← packet.encode.mapError (.ofFrame "encode failed")
  return ⟨r.typeId, r.requestId, r.isResponse, frame⟩

-- Decoding

def hexMessage : Text.HexFault → String
  | .oddCount => "Odd number of digits"
  | .notADigit c position => s!"Invalid character {Text.quotedAlone c} at position {position}"

-- The bytes that digits stand for, blanks between them left out. What is no digit is told byte by byte.
def hexBytes (text : String) : Except Failure Bytes :=
  let solid := String.ofList (text.toList.filter fun c => !Text.isBlank c)
  let digits := (Text.Utf8.encode solid).map fun byte => Char.ofNat byte.toNat
  (Text.ofHex digits).mapError fun fault => ⟨.usage, "invalid hex input: " ++ hexMessage fault⟩

def frameBytes (s : Surroundings) : FrameSource → Except Failure Bytes
  | .hex text => hexBytes text
  | .file path => (s.readFile path).mapError (.ofIo ("failed reading " ++ path))
  | .standardInput => s.input.mapError (.ofIo "failed reading stdin")

structure DecodeReport where
  packets : List Packet
  stats : Stats
  deriving DecidableEq

def decode (chunk limit : Nat) (bytes : Bytes) : DecodeReport :=
  let (d, packets) := (Deframer.new limit).feedPieces (Bytes.pieces chunk bytes)
  ⟨packets, d.stats⟩

-- It is a failure to find nothing where there is something.
def decodeCode (bytes : Bytes) (r : DecodeReport) : ExitCode :=
  if r.packets.isEmpty && !bytes.isEmpty then .dataInvalid else .success

-- Calling

-- A call over a connection of its own. No value if nobody waits for one.
def call (s : Surroundings) (r : CallRequest) : Except Outcome (Option Value) := do
  let timeout ← (parseTimeout r.timeout).mapError .failed
  let content ← (parseArguments r.args).mapError .failed
  let handlers ← (s.connect r.path).mapError fun e => .failed (.ofTransport "connect failed" e)
  let config := { EndpointConfig.standard with defaultExpiry := some timeout }
  let network := { Network.new [config] with now := s.now }
  let (connected, _, network) := network.accept 0 .standard (some handlers) .empty
  connected.mapError (.ofRpc "connect failed")
  let options : CallOptions := if r.noWait then .oneWay else .blockingCall
  match network.call 0 fun e now => e.call r.typeId content options now with
  | none => return none
  | some (result, _) => result.mapError (.ofRpc "call failed")

-- The program

def versionNumber : String := "0.1.0"

def versionText (extended : Bool) : Bytes :=
  if extended then
    Report.line "name: packrpc" ++ Report.line ("version: " ++ versionNumber)
  else Report.line ("packrpc " ++ versionNumber)

inductive Course where
  | refused (why : Refusal)
  | serving (request : ServeRequest)
  | finished (outcome : Outcome)
  deriving DecidableEq, Repr

def execute (s : Surroundings) (format : OutputFormat) : Command → Course
  | .serve request => .serving request
  | .version extended => .finished (.success (versionText extended))
  | .encode request =>
    .finished <| match encode request with
      | .error f => .failed f
      | .ok report => .success (Report.frame format report)
  | .decode request =>
    .finished <| match frameBytes s request.source with
      | .error f => .failed f
      | .ok bytes =>
        let r := decode request.chunk request.limit bytes
        .ended (decodeCode bytes r) (Report.packets format r.packets ++ Report.stats format r.stats) none
  | .call request =>
    .finished <| match call s request with
      | .error outcome => outcome
      | .ok none => .success []
      | .ok (some content) => .success (Report.response format request.typeId content)

def run (s : Surroundings) (words : List String) : Course :=
  match CommandLine.read words with
  | .error why => .refused why
  | .ok invocation =>
    execute s (invocation.format.getD (.usual s.terminal)) invocation.command

end FramedRpc.Cli
