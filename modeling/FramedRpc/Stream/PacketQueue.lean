import FramedRpc.Stream.PacketReader

namespace FramedRpc

structure PacketQueue where
  reader : PacketReader
  limit : Nat
  deriving DecidableEq

namespace PacketQueue

def new (limit : Nat) : PacketQueue := ⟨.new limit, limit⟩

-- Takes in all of the input and hands out a packet, if one is complete.
def decode (q : PacketQueue) (input : Bytes) : Option Packet × PacketQueue :=
  let (packet, reader) := (q.reader.feed input).pop
  (packet, { q with reader })

def encode (q : PacketQueue) (p : Packet) (buffer : Bytes) : Except FrameError Unit × Bytes :=
  Frame.onto (p.encodeWithin q.limit) buffer

end PacketQueue
end FramedRpc
