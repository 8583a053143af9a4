import FramedRpc.Frame.Deframer

namespace FramedRpc

namespace Phase

-- One round: what the section in progress still asks for is moved to it, and what is left is given back.
def round (limit : Nat) (phase : Phase) (input : Bytes) : Verdict × Bytes :=
  match phase with
  | seeking sawFirst =>
    match input with
    | [] => (.more phase, [])
    | byte :: rest =>
      (if sawFirst ∧ byte = 0x07 then .more (length []) else .more (seeking (byte = 0x01)), rest)
  | length held =>
    let taken := Frame.lengthSize held - held.length
    let held := held ++ input.take taken
    (if held.length < Frame.lengthSize held then .more (length held) else afterLength limit held,
      input.drop taken)
  | fields lengthBytes contentLength held =>
    let taken := Frame.fieldsSize held - held.length
    let held := held ++ input.take taken
    (if held.length < Frame.fieldsSize held then .more (fields lengthBytes contentLength held)
      else afterFields lengthBytes held contentLength, input.drop taken)
  | content lengthBytes fieldBytes register newest missing =>
    let newest := (input.take missing).reverse ++ newest
    let contentBytes := newest.reverse
    (if input.length < missing then
        .more (content lengthBytes fieldBytes register newest (missing - input.length))
      else .more (crc lengthBytes fieldBytes contentBytes (Crc32.updateAll register contentBytes) []),
      input.drop missing)
  | crc lengthBytes fieldBytes contentBytes register held =>
    let taken := Frame.crcSize - held.length
    let held := held ++ input.take taken
    (if held.length < Frame.crcSize then .more (crc lengthBytes fieldBytes contentBytes register held)
      else afterCrc lengthBytes fieldBytes contentBytes register held, input.drop taken)

end Phase

-- A run over one input, up to its end or to the first fault, with the packets on the way.
inductive Runs : Deframer → Bytes → Deframer → List Packet → Option Bytes → Prop where
  | done {d : Deframer} : Runs d [] d [] none
  | more {d e : Deframer} {input rest : Bytes} {phase : Phase} {packets : List Packet} {replay : Option Bytes}
      (unread : input ≠ []) (step : d.phase.round d.limit input = (.more phase, rest))
      (later : Runs { d with phase } rest e packets replay) : Runs d input e packets replay
  | packet {d e : Deframer} {input rest : Bytes} {p : Packet} {packets : List Packet} {replay : Option Bytes}
      (unread : input ≠ []) (step : d.phase.round d.limit input = (.packet p, rest))
      (later : Runs d.emitted rest e packets replay) : Runs d input e (p :: packets) replay
  | fault {d : Deframer} {input rest again : Bytes} {fault : Fault} (unread : input ≠ [])
      (step : d.phase.round d.limit input = (.fault fault again, rest)) :
      Runs d input (d.faulted fault) [] (some (again ++ rest))

-- Runs one after another, each on the replay of the one before.
inductive Drains : Deframer → Bytes → Deframer → List Packet → Prop where
  | last {d e : Deframer} {input : Bytes} {packets : List Packet} (run : Runs d input e packets none) :
      Drains d input e packets
  | again {d e f : Deframer} {input replay : Bytes} {packets more : List Packet}
      (run : Runs d input e packets (some replay)) (later : Drains e replay f more) :
      Drains d input f (packets ++ more)

end FramedRpc
