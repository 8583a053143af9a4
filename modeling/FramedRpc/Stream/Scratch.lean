import FramedRpc.Frame.Appending
import FramedRpc.Stream.PacketQueue
import FramedRpc.Stream.PacketWriter

namespace FramedRpc
namespace PacketWriter

-- What the last send left in the buffers of a writer.
structure Scratch where
  content : Bytes
  frame : Bytes

-- Each buffer is cleared before it is used, and a send that fails leaves in it what it got to.
def sendFrom (w : PacketWriter) (scratch : Scratch) (p : Packet) (sink : Sink) :
    Except FrameError Unit × Scratch × Sink :=
  match Frame.generateContent p.content (scratch.content.take 0) with
  | (.error e, content) => (.error (.codec e), { scratch with content }, sink)
  | (.ok (), content) =>
    if w.limit < content.length then
      (.error (.contentTooLarge content.length w.limit), { scratch with content }, sink)
    else
      match Frame.putContent p.fields content (scratch.frame.take 0) with
      | (.error e, frame) => (.error e, ⟨content, frame⟩, sink)
      | (.ok (), frame) => ((w.sendFrame frame sink).1, ⟨content, frame⟩, (w.sendFrame frame sink).2)

def sendAll (w : PacketWriter) (start : Scratch × Sink) (packets : List Packet) : Scratch × Sink :=
  packets.foldl (fun s p => (w.sendFrom s.1 p s.2).2) start

end PacketWriter

namespace PacketQueue

-- A queue makes the content in a buffer of its own, and the frame at its place.
def encodeFrom (q : PacketQueue) (scratch : Bytes) (p : Packet) (buffer : Bytes) :
    Except FrameError Unit × Bytes × Bytes :=
  match Frame.generateContent p.content (scratch.take 0) with
  | (.error e, content) => (.error (.codec e), content, buffer)
  | (.ok (), content) =>
    if q.limit < content.length then (.error (.contentTooLarge content.length q.limit), content, buffer)
    else ((Frame.putContent p.fields content buffer).1, content, (Frame.putContent p.fields content buffer).2)

end PacketQueue
end FramedRpc
