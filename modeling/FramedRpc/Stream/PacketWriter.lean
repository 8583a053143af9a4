import FramedRpc.Frame.Packet
import FramedRpc.Stream.Sink

namespace FramedRpc

structure PacketWriter where
  limit : Nat
  timed : Bool
  deriving DecidableEq, Repr

namespace PacketWriter

def retries (w : PacketWriter) (e : IoError) : Bool :=
  match e.kind with
  | .interrupted => true
  | .wouldBlock => !w.timed
  | _ => false

def flush (w : PacketWriter) (sink : Sink) : Except FrameError Unit × Sink :=
  match sink.settle w.retries with
  | (.ok (), sink) => (.ok (), sink)
  | (.error e, sink) => (.error (.io e), sink)

def sendFrame (w : PacketWriter) (frame : Bytes) (sink : Sink) : Except FrameError Unit × Sink :=
  match sink.push w.retries frame with
  | (.ok (), sink) => w.flush sink
  | (.error .refused, sink) => (.error .connectionClosed, sink)
  | (.error (.failure e), sink) => (.error (.io e), sink)

-- Sends a packet; one that cannot be sent does not touch the sink.
def send (w : PacketWriter) (p : Packet) (sink : Sink) : Except FrameError Unit × Sink :=
  match p.encodeWithin w.limit with
  | .error e => (.error e, sink)
  | .ok frame => w.sendFrame frame sink

end PacketWriter
end FramedRpc
