import FramedRpc.Cli.Table
import FramedRpc.Frame.Deframer
import FramedRpc.Json.Printer
import FramedRpc.Json.Value

namespace FramedRpc.Cli

inductive OutputFormat where
  | json
  | table
  | pretty
  | raw
  deriving DecidableEq, Repr

def OutputFormat.usual (terminal : Bool) : OutputFormat := if terminal then .table else .json

structure FrameReport where
  typeId : Nat
  requestId : Nat
  isResponse : Bool
  frame : Bytes
  deriving DecidableEq, Repr

namespace Report

def line (text : String) : Bytes := Text.Utf8.encode (text ++ "\n")

def statCounts (s : Stats) : List (String × Nat) := [
  ("packets", s.packets), ("resyncs", s.resyncs), ("crc_failures", s.crcFailures),
  ("decode_failures", s.decodeFailures), ("range_failures", s.rangeFailures),
  ("length_failures", s.lengthFailures)]

def packetJson (p : Packet) : String := Json.record [
  ("kind", .string p.kind), ("request_type_id", .ofNat p.typeId), ("request_id", .ofNat p.requestId),
  ("content", p.content.toJson)]

def packetLine (p : Packet) : String :=
  s!"{p.kind} type={p.typeId} id={p.requestId} content={p.content.display}"

def packetTable (packets : List Packet) : Table :=
  ⟨["KIND", "TYPE", "REQUEST ID", "CONTENT"],
    packets.map fun p => [p.kind, toString p.typeId, toString p.requestId, p.content.display]⟩

def packets (format : OutputFormat) (packets : List Packet) : Bytes :=
  match format with
  | .json => packets.flatMap fun p => line (packetJson p)
  | .table => line (packetTable packets).render
  | .pretty | .raw => packets.flatMap fun p => line (packetLine p)

def statTable (s : Stats) : Table :=
  ⟨["PACKETS", "RESYNCS", "CRC", "DECODE", "RANGE", "LENGTH"],
    [(statCounts s).map fun entry => toString entry.2]⟩

def stats (format : OutputFormat) (s : Stats) : Bytes :=
  line <| match format with
    | .json =>
      let counts := Json.record ((statCounts s).map fun entry => (entry.1, .ofNat entry.2))
      "\x7b\"stats\":" ++ counts ++ "\x7d"
    | .table => (statTable s).render
    | .pretty | .raw => " ".intercalate ((statCounts s).map fun entry => s!"{entry.1}={entry.2}")

def response (format : OutputFormat) (typeId : Nat) (content : Value) : Bytes :=
  line <| match format with
    | .json => Json.record [
        ("kind", .string "response"), ("request_type_id", .ofNat typeId), ("content", content.toJson)]
    | .table => Table.render ⟨["TYPE", "CONTENT"], [[toString typeId, content.display]]⟩
    | .pretty => content.toJson.indented
    | .raw => content.display

def frame (format : OutputFormat) (r : FrameReport) : Bytes :=
  let digits := Text.hex r.frame
  match format with
  | .json => line (Json.record [
      ("request_type_id", .ofNat r.typeId), ("request_id", .ofNat r.requestId),
      ("is_response", .bool r.isResponse), ("size", .ofNat r.frame.length), ("hex", .string digits)])
  | .table => line (Table.render ⟨["TYPE", "REQUEST ID", "RESPONSE", "SIZE", "HEX"],
      [[toString r.typeId, toString r.requestId, toString r.isResponse, toString r.frame.length, digits]]⟩)
  | .pretty => line digits
  | .raw => r.frame

end Report
end FramedRpc.Cli
