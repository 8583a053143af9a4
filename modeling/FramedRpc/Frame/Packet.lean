import FramedRpc.Codec.Decode
import FramedRpc.Crc32
import FramedRpc.Frame.Error
import FramedRpc.Frame.Header

namespace FramedRpc

structure Packet where
  isResponse : Bool
  typeId : Nat
  -- Zero means that no response is expected.
  requestId : Nat
  content : Value
  deriving DecidableEq, Inhabited

namespace Packet

def request (typeId requestId : Nat) (content : Value) : Packet := ⟨false, typeId, requestId, content⟩

def response (typeId requestId : Nat) (content : Value) : Packet := ⟨true, typeId, requestId, content⟩

def expectsResponse (p : Packet) : Bool := !p.isResponse && p.requestId != 0

def same (p q : Packet) : Bool :=
  p.isResponse = q.isResponse && p.typeId = q.typeId && p.requestId = q.requestId &&
    p.content.same q.content

def kind (p : Packet) : String :=
  if p.isResponse then "response" else if p.requestId = 0 then "notification" else "request"

end Packet

namespace Frame

def magic : Bytes := [0x01, 0x07]

def crcSize : Nat := 4

def defaultLimit : Nat := 16 * 1024 * 1024

def encodeContent (content : Value) : Except CodecError Bytes :=
  if content.isNull then .ok [] else content.encode

def decodeContent (bytes : Bytes) : Except CodecError Value :=
  if bytes.isEmpty then .ok .null else Value.decode bytes

def checkRange (field : String) (value max : Nat) : Except FrameError Unit :=
  if max < value then .error (.fieldOutOfRange field value max) else .ok ()

def checksum (fields content : Bytes) : UInt32 :=
  Crc32.finish (Crc32.updateAll (Crc32.updateAll Crc32.start fields) content)

def assemble (fields : Fields) (content : Bytes) : Bytes :=
  let length := writeLength content.length
  magic ++ (length ++ (length ++ (fields.write ++ (content ++
    Bytes.littleEndian crcSize (checksum fields.write content).toNat))))

def ofContent (fields : Fields) (content : Bytes) : Except FrameError Bytes := do
  checkRange "request type id" fields.typeId maxTypeId
  checkRange "request id" fields.requestId maxRequestId
  if maxContentLength < content.length then
    throw (.contentTooLarge content.length maxContentLength)
  return assemble fields content

end Frame

namespace Packet

def fields (p : Packet) : Frame.Fields := ⟨p.isResponse, p.typeId, p.requestId⟩

def encode (p : Packet) : Except FrameError Bytes :=
  match Frame.encodeContent p.content with
  | .error e => .error (.codec e)
  | .ok content => Frame.ofContent p.fields content

-- The frame of a packet whose content takes at most `limit` bytes.
def encodeWithin (limit : Nat) (p : Packet) : Except FrameError Bytes :=
  match Frame.encodeContent p.content with
  | .error e => .error (.codec e)
  | .ok content =>
    if limit < content.length then .error (.contentTooLarge content.length limit)
    else Frame.ofContent p.fields content

end Packet

-- Appends what was made; a failure leaves the buffer as it was.
def Frame.onto (made : Except FrameError Bytes) (buffer : Bytes) : Except FrameError Unit × Bytes :=
  match made with
  | .error e => (.error e, buffer)
  | .ok bytes => (.ok (), buffer ++ bytes)

end FramedRpc
