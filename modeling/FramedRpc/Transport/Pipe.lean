import FramedRpc.Duration
import FramedRpc.Stream.Sink
import FramedRpc.Stream.Source
import FramedRpc.Transport.Error

namespace FramedRpc

inductive StreamKind where
  | memory
  | unix
  | tcp
  deriving DecidableEq, Repr

def StreamKind.name : StreamKind → String
  | memory => "memory"
  | unix => "unix"
  | tcp => "tcp"

def StreamKind.describe (kind : StreamKind) : String := s!"RpcStream \x7b type: \"{kind.name}\" \x7d"

inductive Side where
  | left
  | right
  deriving DecidableEq, Repr

def Side.other : Side → Side
  | left => right
  | right => left

structure Lane where
  -- Written and not yet read, oldest first.
  queued : Bytes
  closed : Bool
  -- The reader has yet to learn that bytes which it sent were thrown away.
  lost : Bool
  deriving DecidableEq, Repr

namespace Lane

def empty : Lane := ⟨[], false, false⟩

def close (lane : Lane) : Lane := { lane with closed := true }

end Lane

structure Pipe where
  kind : StreamKind
  toLeft : Lane
  toRight : Lane
  -- An end lives as long as there are handles to it.
  leftHandles : Nat
  rightHandles : Nat
  deriving DecidableEq, Repr

namespace Pipe

def new (kind : StreamKind) : Pipe := ⟨kind, .empty, .empty, 1, 1⟩

def incoming (p : Pipe) : Side → Lane
  | .left => p.toLeft
  | .right => p.toRight

def outgoing (p : Pipe) (side : Side) : Lane := p.incoming side.other

def setIncoming (p : Pipe) (side : Side) (lane : Lane) : Pipe :=
  match side with
  | .left => { p with toLeft := lane }
  | .right => { p with toRight := lane }

def setOutgoing (p : Pipe) (side : Side) (lane : Lane) : Pipe := p.setIncoming side.other lane

def handles (p : Pipe) : Side → Nat
  | .left => p.leftHandles
  | .right => p.rightHandles

def setHandles (p : Pipe) (side : Side) (n : Nat) : Pipe :=
  match side with
  | .left => { p with leftHandles := n }
  | .right => { p with rightHandles := n }

-- A memory pipe knows a failure by its kind only; sockets have the words of the system.
def brokenPipe (p : Pipe) : IoError :=
  match p.kind with
  | .memory => .ofKind .brokenPipe
  | _ => .brokenPipe

def wouldBlock (p : Pipe) : IoError :=
  match p.kind with
  | .memory => .ofKind .wouldBlock
  | _ => .unavailable

def write (p : Pipe) (side : Side) (bytes : Bytes) : Except IoError Nat × Pipe :=
  let lane := p.outgoing side
  if lane.closed then (.error p.brokenPipe, p)
  else (.ok bytes.length, p.setOutgoing side { lane with queued := lane.queued ++ bytes })

-- Reads up to `n` bytes. Nothing comes from a closed lane that is empty, and an open one is waited for
-- in vain. Only sockets wait also where nothing is asked for.
def read (p : Pipe) (side : Side) (n : Nat) : Except IoError Bytes × Pipe :=
  let lane := p.incoming side
  if n = 0 ∧ p.kind = .memory then (.ok [], p)
  else if lane.queued ≠ [] then
    (.ok (lane.queued.take n), p.setIncoming side { lane with queued := lane.queued.drop n })
  else if lane.lost then (.error .connectionReset, p.setIncoming side { lane with lost := false })
  else if lane.closed then (.ok [], p)
  else (.error p.wouldBlock, p)

def shutdown (p : Pipe) : Pipe := { p with toLeft := p.toLeft.close, toRight := p.toRight.close }

def clone (p : Pipe) (side : Side) : Pipe := p.setHandles side (p.handles side + 1)

-- Both lanes are closed with an end. A socket whose end goes with bytes unread tells the other end.
def closeEnd (p : Pipe) (side : Side) : Pipe :=
  let unread := p.kind ≠ .memory ∧ (p.incoming side).queued ≠ []
  let p := p.shutdown
  if unread then p.setOutgoing side { p.outgoing side with lost := true } else p

-- Gives up one handle; the last one takes the end with it.
def drop (p : Pipe) (side : Side) : Pipe :=
  let p := p.setHandles side (p.handles side - 1)
  if p.handles side = 0 then p.closeEnd side else p

-- A timeout of zero would never let anything be read.
def setReadTimeout (_ : Pipe) (timeout : Option Duration) : Except TransportError Unit :=
  if timeout = some 0 then .error (.io .zeroTimeout) else .ok ()

-- A memory pipe takes everything at once, so there any timeout will do.
def setWriteTimeout (p : Pipe) (timeout : Option Duration) : Except TransportError Unit :=
  if timeout = some 0 ∧ p.kind ≠ .memory then .error (.io .zeroTimeout) else .ok ()

def source (p : Pipe) (side : Side) : Source :=
  let lane := p.incoming side
  let ending := if lane.closed then [] else [.failure p.wouldBlock]
  let ending := if lane.lost then .failure .connectionReset :: ending else ending
  .data lane.queued :: ending

-- After reading from that view, what was left unread stays in the lane.
def afterSource (p : Pipe) (side : Side) (rest : Source) : Pipe :=
  let lane := p.incoming side
  p.setIncoming side
    { lane with queued := rest.unread, lost := lane.lost && rest.contains (.failure .connectionReset) }

def sink (p : Pipe) (side : Side) : Sink :=
  .ofReplies (if (p.outgoing side).closed then [.failure p.brokenPipe] else []) []

def afterSink (p : Pipe) (side : Side) (sink : Sink) : Pipe :=
  let lane := p.outgoing side
  p.setOutgoing side { lane with queued := lane.queued ++ sink.taken }

end Pipe
end FramedRpc
