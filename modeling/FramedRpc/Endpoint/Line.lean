import FramedRpc.Endpoint.Dispatch

namespace FramedRpc

inductive Line where
  | recorder (sent : Bytes)
  -- Closed after so many frames more.
  | failing (left : Nat) (sent : Bytes)
  -- Every request that expects a response is answered alike; the answers wait to be fed.
  | answering (reply : Value) (sent arrived : Bytes)
  | writer (w : PacketWriter) (sink : Sink)
  -- One end of a pipe of a network, with the pipe as it was last seen.
  | stream (pipe : Nat) (seen : Pipe) (side : Side) (w : PacketWriter)

namespace Line

def answerTo (reply : Value) (frame : Bytes) : Option (Except FrameError Bytes) :=
  let (_, packets) := (Deframer.new Frame.maxContentLength).feed frame
  (packets.head?.filter (·.expectsResponse)).map fun p =>
    (Packet.response p.typeId p.requestId reply).encode

def send (frame : Bytes) : Line → Except FrameError Unit × Line
  | recorder sent => (.ok (), recorder (sent ++ frame))
  | failing 0 sent => (.error .connectionClosed, failing 0 sent)
  | failing (left + 1) sent => (.ok (), failing left (sent ++ frame))
  | answering reply sent arrived =>
    let sent := sent ++ frame
    match answerTo reply frame with
    | none => (.ok (), answering reply sent arrived)
    | some (.ok answer) => (.ok (), answering reply sent (arrived ++ answer))
    | some (.error e) => (.error e, answering reply sent arrived)
  | writer w sink =>
    let (r, sink) := w.sendFrame frame sink
    (r, writer w sink)
  | stream pipe seen side w =>
    let (r, seen) := seen.sendFrame side w frame
    (r, stream pipe seen side w)

instance : Transport Line := ⟨send⟩

def sent : Line → Bytes
  | recorder sent | failing _ sent | answering _ sent _ => sent
  | writer _ sink => sink.taken
  | stream .. => []

def forget : Line → Line
  | recorder _ => recorder []
  | failing left _ => failing left []
  | answering reply _ arrived => answering reply [] arrived
  | writer w sink => writer w { sink with taken := [] }
  | line => line

def takeArrived : Line → Bytes × Line
  | answering reply sent arrived => (arrived, answering reply sent [])
  | line => ([], line)

end Line

namespace Endpoint

def feedArrived (e : Endpoint Line) : Endpoint Line :=
  match e.transport with
  | none => e
  | some line =>
    let (arrived, line) := line.takeArrived
    feed { e with transport := some line } arrived

def takeSent (e : Endpoint Line) : Bytes × Endpoint Line :=
  match e.transport with
  | none => ([], e)
  | some line => (line.sent, { e with transport := some line.forget })

-- What listeners were told since the last time.
def takeHeard (e : Endpoint Line) : List (Nat × Packet) × Endpoint Line :=
  let told := e.log.filterMap fun
    | .told listener p => some (listener, p)
    | .settled _ => none
  (told, { e with log := [] })

end Endpoint
end FramedRpc
