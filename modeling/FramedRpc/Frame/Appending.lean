import FramedRpc.Codec.Appending
import FramedRpc.Frame.Packet

namespace FramedRpc
namespace Frame

-- All checks come before the first byte.
def putContent (fields : Fields) (content buffer : Bytes) : Except FrameError Unit × Bytes :=
  match checkRange "request type id" fields.typeId maxTypeId with
  | .error e => (.error e, buffer)
  | .ok () =>
    match checkRange "request id" fields.requestId maxRequestId with
    | .error e => (.error e, buffer)
    | .ok () =>
      if maxContentLength < content.length then (.error (.contentTooLarge content.length maxContentLength), buffer)
      else
        let buffer := buffer ++ magic
        let buffer := buffer ++ writeLength content.length
        let buffer := buffer ++ writeLength content.length
        let start := buffer.length
        let buffer := buffer ++ writeRequestId fields.requestId
        let buffer := buffer ++ writeType fields.isResponse fields.typeId
        let register := Crc32.updateAll Crc32.start (buffer.drop start)
        let register := Crc32.updateAll register content
        let buffer := buffer ++ content
        (.ok (), buffer ++ Bytes.littleEndian crcSize (Crc32.finish register).toNat)

-- Null is no content at all.
def generateContent (v : Value) (buffer : Bytes) : Except CodecError Unit × Bytes :=
  if v.isNull then (.ok (), buffer) else v.generateOnto buffer

end Frame

namespace Packet

-- The content is made apart from the buffer.
def packInto (p : Packet) (buffer : Bytes) : Except FrameError Unit × Bytes :=
  match Frame.generateContent p.content [] with
  | (.error e, _) => (.error (.codec e), buffer)
  | (.ok (), content) => Frame.putContent p.fields content buffer

def pack (p : Packet) : Except FrameError Bytes :=
  match p.packInto [] with
  | (.error e, _) => .error e
  | (.ok (), frame) => .ok frame

end Packet
end FramedRpc
