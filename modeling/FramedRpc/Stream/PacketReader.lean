import FramedRpc.Frame.Deframer
import FramedRpc.Stream.Source

namespace FramedRpc

structure PacketReader where
  deframer : Deframer
  -- Complete packets not yet handed out, oldest first.
  ready : List Packet
  deriving DecidableEq

namespace PacketReader

def chunkSize : Nat := 8192

def new (limit : Nat) : PacketReader := ⟨.new limit, []⟩

def feed (r : PacketReader) (bytes : Bytes) : PacketReader :=
  let (deframer, packets) := r.deframer.feed bytes
  ⟨deframer, r.ready ++ packets⟩

def pop (r : PacketReader) : Option Packet × PacketReader :=
  match r.ready with
  | [] => (none, r)
  | p :: rest => (some p, { r with ready := rest })

-- The next packet, reading as far as it takes.
def next (r : PacketReader) (s : Source) : Except FrameError Packet × PacketReader × Source :=
  match r.ready with
  | p :: rest => (.ok p, { r with ready := rest }, s)
  | [] =>
    match _h : s.read chunkSize with
    | (.ok [], s') => (.error .connectionClosed, r, s')
    | (.ok (byte :: bytes), s') => next (r.feed (byte :: bytes)) s'
    | (.error e, s') => if e.isInterrupted then next r s' else (.error (.io e), r, s')
termination_by s.weight
decreasing_by
  all_goals
    have := Source.weight_read (by decide) _h
    simpa using this

def setLimit (r : PacketReader) (limit : Nat) : PacketReader :=
  { r with deframer := r.deframer.setLimit limit }

end PacketReader
end FramedRpc
