import FramedRpc.Stream.PacketReader
import FramedRpc.Stream.PacketWriter
import FramedRpc.Transport.Pipe

namespace FramedRpc

structure FrameConfig where
  limit : Nat
  readTimeout : Option Duration
  writeTimeout : Option Duration
  deriving DecidableEq, Repr

namespace FrameConfig

def standard : FrameConfig := ⟨Frame.defaultLimit, none, none⟩

def writer (c : FrameConfig) : PacketWriter := ⟨c.limit, c.writeTimeout.isSome⟩

end FrameConfig

namespace Pipe

def packetReader (p : Pipe) (c : FrameConfig) : Except FrameError PacketReader :=
  match p.setReadTimeout c.readTimeout with
  | .error e => .error e.toFrame
  | .ok () => .ok (.new c.limit)

def packetWriter (p : Pipe) (c : FrameConfig) : Except FrameError PacketWriter :=
  match p.setWriteTimeout c.writeTimeout with
  | .error e => .error e.toFrame
  | .ok () => .ok c.writer

def sendFrame (p : Pipe) (side : Side) (w : PacketWriter) (frame : Bytes) :
    Except FrameError Unit × Pipe :=
  let (r, sink) := w.sendFrame frame (p.sink side)
  (r, p.afterSink side sink)

def sendPacket (p : Pipe) (side : Side) (w : PacketWriter) (packet : Packet) :
    Except FrameError Unit × Pipe :=
  let (r, sink) := w.send packet (p.sink side)
  (r, p.afterSink side sink)

def nextPacket (p : Pipe) (side : Side) (r : PacketReader) :
    Except FrameError Packet × PacketReader × Pipe :=
  let (packet, r, rest) := r.next (p.source side)
  (packet, r, p.afterSource side rest)

end Pipe
end FramedRpc
