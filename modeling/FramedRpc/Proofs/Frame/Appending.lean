import FramedRpc.Frame.Appending
import FramedRpc.Proofs.Codec.Appending

namespace FramedRpc
namespace Frame

theorem putContent_eq (fields : Fields) (content buffer : Bytes) :
    putContent fields content buffer = onto (ofContent fields content) buffer := by
  unfold putContent ofContent
  cases checkRange "request type id" fields.typeId maxTypeId with
  | error e => rfl
  | ok done =>
    cases checkRange "request id" fields.requestId maxRequestId with
    | error e => rfl
    | ok done =>
      by_cases large : maxContentLength < content.length
      · simp only [if_pos large]
        rfl
      · have fromStart : ((((buffer ++ magic) ++ writeLength content.length) ++ writeLength content.length) ++
            writeRequestId fields.requestId ++ writeType fields.isResponse fields.typeId).drop
              (((buffer ++ magic) ++ writeLength content.length) ++ writeLength content.length).length =
            fields.write := by
          rw [List.append_assoc _ (writeRequestId _) (writeType _ _), List.drop_left]
          rfl
        simp only [if_neg large, fromStart]
        refine congrArg (Prod.mk _) ?_
        unfold assemble checksum Fields.write
        simp only [List.append_assoc]

theorem generateContent_eq (v : Value) (buffer : Bytes) :
    generateContent v buffer =
      match encodeContent v with
      | .error e => (.error e, buffer)
      | .ok content => (.ok (), buffer ++ content) := by
  unfold generateContent encodeContent
  by_cases null : v.isNull = true
  · rw [if_pos null, if_pos null]
    exact congrArg (Prod.mk _) (List.append_nil buffer).symm
  · rw [if_neg null, if_neg null, v.generateOnto_eq]
    rfl

end Frame

namespace Packet

theorem packInto_eq (p : Packet) (buffer : Bytes) : p.packInto buffer = Frame.onto p.encode buffer := by
  unfold packInto encode
  rw [Frame.generateContent_eq]
  cases Frame.encodeContent p.content with
  | error e => rfl
  | ok content => exact Frame.putContent_eq p.fields content buffer

theorem pack_eq (p : Packet) : p.pack = p.encode := by
  unfold pack
  rw [packInto_eq]
  cases p.encode with
  | error e => rfl
  | ok frame => rfl

theorem putContent_eq_onto {p : Packet} {content : Bytes} (encoded : Frame.encodeContent p.content = .ok content)
    (buffer : Bytes) : Frame.putContent p.fields content buffer = Frame.onto p.encode buffer := by
  unfold encode
  rw [encoded]
  exact Frame.putContent_eq p.fields content buffer

end Packet
end FramedRpc
