import FramedRpc.Stream.Scratch

namespace FramedRpc

structure Coder where
  queue : PacketQueue
  -- Where contents are made.
  scratch : Bytes
  input : Bytes

namespace Coder

def new (limit : Nat) : Coder := ⟨.new limit, [], []⟩

def ready (c : Coder) : List Packet := c.queue.reader.ready

def deframer (c : Coder) : Deframer := c.queue.reader.deframer

def append (c : Coder) (bytes : Bytes) : Coder := { c with input := c.input ++ bytes }

-- Empties the input, if there is any.
def decode (c : Coder) : Except FrameError (Option Packet) × Coder :=
  let reader := if c.input = [] then c.queue.reader else c.queue.reader.feed c.input
  (.ok reader.pop.1, { c with queue := { c.queue with reader := reader.pop.2 }, input := [] })

def leftover : IoError := .withText .other "bytes remaining on stream"

-- When no more bytes will come. Bytes that make no packet are then a failure, if they are left in the input.
def decodeEnd (c : Coder) : Except FrameError (Option Packet) × Coder :=
  match c.decode with
  | (.ok none, c) => (if c.input = [] then .ok none else .error (.io leftover), c)
  | (answer, c) => (answer, c)

def encode (c : Coder) (p : Packet) (buffer : Bytes) : (Except FrameError Unit × Bytes) × Coder :=
  let (result, scratch, buffer) := c.queue.encodeFrom c.scratch p buffer
  ((result, buffer), { c with scratch })

inductive Call where
  | decode (arrived : Bytes)
  | decodeEnd (arrived : Bytes)
  | encode (p : Packet) (buffer : Bytes)

namespace Call

def arrived : Call → Bytes
  | decode bytes | decodeEnd bytes => bytes
  | encode .. => []

def decodes : Call → Bool
  | decode _ | decodeEnd _ => true
  | encode .. => false

def quiet : Call → Call
  | decode _ => decode []
  | decodeEnd _ => decodeEnd []
  | encode p buffer => encode p buffer

end Call

def step (c : Coder) : Call → List (Except FrameError (Option Packet)) × Coder
  | .decode arrived => ([(c.append arrived).decode.1], (c.append arrived).decode.2)
  | .decodeEnd arrived => ([(c.append arrived).decodeEnd.1], (c.append arrived).decodeEnd.2)
  | .encode p buffer => ([], (c.encode p buffer).2)

def run (c : Coder) : List Call → List (Except FrameError (Option Packet)) × Coder
  | [] => ([], c)
  | call :: calls => ((c.step call).1 ++ ((c.step call).2.run calls).1, ((c.step call).2.run calls).2)

end Coder
end FramedRpc
