import FramedRpc.Endpoint.Line
import FramedRpc.Stream.PacketReader
import FramedRpc.Text.Natural

namespace FramedRpc

structure StreamReader where
  pipe : Nat
  side : Side
  generation : Nat
  deriving DecidableEq, Repr

-- The far end of a pipe, without an endpoint of its own.
structure Peer where
  pipe : Nat
  side : Side
  reader : PacketReader

structure Station where
  endpoint : Endpoint Line
  stream : Option Nat
  readers : List StreamReader
  peer : Option Peer

def Station.of (endpoint : Endpoint Line) : Station := ⟨endpoint, none, [], none⟩

inductive Errand where
  | waiting (station ticket : Nat)
  | finished (r : Except RpcError (Option Value))

structure Network where
  stations : List Station
  pipes : List Pipe
  errands : List Errand
  now : Instant

namespace Network

def new (configs : List EndpointConfig) : Network :=
  ⟨configs.map fun config => .of (.new config), [], [], 0⟩

def endpoint? (n : Network) (i : Nat) : Option (Endpoint Line) := (n.stations[i]?).map (·.endpoint)

def modifyStation (n : Network) (i : Nat) (f : Station → Station) : Network :=
  { n with stations := n.stations.modify i f }

def load (n : Network) (e : Endpoint Line) : Endpoint Line :=
  match e.transport with
  | some (.stream pipe seen side w) =>
    { e with transport := some (.stream pipe ((n.pipes[pipe]?).getD seen) side w) }
  | _ => e

def store (n : Network) (i : Nat) (e : Endpoint Line) : Network :=
  let n := n.modifyStation i fun station => { station with endpoint := e }
  match e.transport with
  | some (.stream pipe seen _ _) => { n with pipes := n.pipes.set pipe seen }
  | _ => n

def onEndpoint {α : Type} (n : Network) (i : Nat) (f : Endpoint Line → α × Endpoint Line) :
    Option (α × Network) :=
  (n.endpoint? i).map fun e =>
    let (a, e) := f (n.load e)
    (a, n.store i e)

def changeEndpoint (n : Network) (i : Nat) (f : Endpoint Line → Endpoint Line) : Network :=
  match n.onEndpoint i fun e => ((), f e) with
  | some ((), n) => n
  | none => n

def modifyPipe (n : Network) (pipe : Nat) (f : Pipe → Pipe) : Network :=
  { n with pipes := n.pipes.modify pipe f }

-- One turn of a reader: a piece of what has come in, or the end of its stream. Nothing if it can only
-- wait.
def turn? (n : Network) (i : Nat) (r : StreamReader) : Option Network :=
  match n.pipes[r.pipe]?, n.endpoint? i with
  | some pipe, some e =>
    let lane := pipe.incoming r.side
    if lane.queued ≠ [] then
      let (got, pipe) := pipe.read r.side (max 1 e.config.readChunk)
      let n := { n with pipes := n.pipes.set r.pipe pipe }
      some (n.changeEndpoint i fun e => (e.feed (got.toOption.getD [])).sweep n.now)
    else if lane.closed then
      let n := n.modifyStation i fun station => { station with readers := station.readers.erase r }
      some (n.changeEndpoint i fun e => e.readerExit r.generation)
    else none
  | _, _ => none

def firstTurn? (n : Network) : Option Network :=
  n.stations.zipIdx.findSome? fun (station, i) => station.readers.findSome? fun r => n.turn? i r

-- Lets the readers go on until nothing is left to do, or for so many turns.
def quiet (n : Network) : (turns : Nat) → Network
  | 0 => n
  | turns + 1 =>
    match n.firstTurn? with
    | none => n
    | some n => quiet n turns

def claim (n : Network) (k : Nat) : Network :=
  match n.errands[k]? with
  | some (.waiting i ticket) =>
    match n.onEndpoint i fun e => e.poll ticket n.now with
    | some (some outcome, n) => { n with errands := n.errands.set k (.finished (outcome.map some)) }
    | some (none, n) => n
    | none => n
  | _ => n

-- More turns than any exchange that comes to an end takes.
def maxTurns : Nat := 1000000

def settle (n : Network) : Network :=
  let n := n.quiet maxTurns
  (List.range n.errands.length).foldl claim n

def wakes (station : Station) : Bool :=
  station.endpoint.config.frame.readTimeout.isSome && !station.readers.isEmpty

def passUntil (n : Network) (time : Instant) : Network :=
  let now := max n.now time
  let wake (station : Station) : Station :=
    if wakes station then { station with endpoint := station.endpoint.sweep now } else station
  settle { n with now, stations := n.stations.map wake }

def sleep (n : Network) (d : Duration) : Network := n.passUntil (n.now + d)

def timers (n : Network) : List Instant :=
  let deadline? (e : Endpoint Line) (ticket : Nat) : Option Instant :=
    (e.correlator.call? ticket).bind (·.deadline)
  let swept := n.stations.flatMap fun station =>
    if wakes station then
      station.endpoint.correlator.pending.filterMap fun entry => deadline? station.endpoint entry.2
    else []
  let awaited := n.errands.filterMap fun errand =>
    match errand with
    | .waiting i ticket => (n.endpoint? i).bind fun e => deadline? e ticket
    | .finished _ => none
  (swept ++ awaited).filter fun time => n.now < time

-- Lets time pass until a condition holds; nothing happens by itself more often than there are calls.
def passUntilHolds (holds : Network → Bool) (n : Network) : (wakings : Nat) → Bool × Network
  | 0 => (holds n, n)
  | wakings + 1 =>
    if holds n then (true, n)
    else
      match n.timers.min? with
      | none => (false, n)
      | some time => passUntilHolds holds (n.passUntil time) wakings

def waitFor (n : Network) (holds : Network → Bool) : Bool × Network :=
  let calls := n.stations.foldl (fun sum station => sum + station.endpoint.correlator.calls.length) 0
  passUntilHolds holds n (calls + 1)

def addPipe (n : Network) (kind : StreamKind) : Nat × Network :=
  (n.pipes.length, { n with pipes := n.pipes ++ [.new kind] })

-- One end of a pipe, to which there can always be more handles.
def offer (pipe : Nat) (p : Pipe) (side : Side) : Endpoint.Offer Line where
  readerHandle := .ok ()
  shutdownHandle := .ok ()
  writer config := (p.packetWriter config).map (.stream pipe p side)
  setReadTimeout := p.setReadTimeout

def openEnd (n : Network) (i pipe : Nat) (side : Side) : Except RpcError Line :=
  match n.pipes[pipe]?, n.endpoint? i with
  | some p, some e => (offer pipe p side).opened e.config.frame
  | _, _ => .error .notConnected

def release (n : Network) (i : Nat) : Network :=
  match (n.stations[i]?).bind (·.stream) with
  | none => n
  | some pipe =>
    let n := n.modifyPipe pipe (·.shutdown)
    (n.modifyStation i fun station => { station with stream := none }).settle

-- Puts an endpoint at one end of a pipe, in place of what it was attached to. That is shut down between the steps that
-- can fail and the others.
def attachEnd (n : Network) (i pipe : Nat) (side : Side) : Except RpcError Unit × Network :=
  match n.openEnd i pipe side with
  | .error why => (.error why, (n.modifyPipe pipe (·.closeEnd side)).settle)
  | .ok line =>
    match (n.release i).onEndpoint i fun e => ((e.renew line).generation, e.renew line) with
    | some (generation, n) =>
      let n := n.modifyStation i fun station =>
        { station with stream := some pipe, readers := station.readers ++ [⟨pipe, side, generation⟩] }
      (.ok (), n.settle)
    | none => (.error .notConnected, n)

def join (n : Network) (i k : Nat) : Except RpcError Unit × Except RpcError Unit × Network :=
  let (pipe, n) := n.addPipe .memory
  let (left, n) := n.attachEnd i pipe .left
  let (right, n) := n.attachEnd k pipe .right
  (left, right, n)

def addPeer (n : Network) (i : Nat) (kind : StreamKind) : Except RpcError Unit × Network :=
  let (pipe, n) := n.addPipe kind
  let (r, n) := n.attachEnd i pipe .left
  (r, n.modifyStation i fun station =>
    { station with peer := some ⟨pipe, .right, .new Frame.defaultLimit⟩ })

def accept (n : Network) (i : Nat) (config : EndpointConfig) (handlers : Option HandlerTable)
    (methods : MethodTable) : Except RpcError Unit × Nat × Network :=
  let (pipe, n) := n.addPipe .unix
  let k := n.stations.length
  let accepted : Endpoint Line := { Endpoint.new config with handlers, methods }
  let n := { n with stations := n.stations ++ [Station.of accepted] }
  let (r, n) := n.attachEnd i pipe .left
  let (_, n) := n.attachEnd k pipe .right
  (r, k, n)

-- What is wrong with a network address of the form host and port.
def addressFault? (address : String) : Option String :=
  match address.toList.reverse.span (· ≠ ':') with
  | (_, []) => some "invalid socket address"
  | (port, _) => if (Text.natural? 65535 port.reverse).isSome then none else some "invalid port value"

def connectTcp (address : String) : Except RpcError Unit :=
  match addressFault? address with
  | some text => .error (.transport (.connect address (.withText .invalidInput text)))
  | none => .error (.transport (.connect address .connectionRefused))

def close (n : Network) (i : Nat) : Network :=
  ((n.changeEndpoint i fun e => e.detach.2).release i).settle

def onPeer {α : Type} (n : Network) (i : Nat) (f : Peer → Pipe → α × Peer × Pipe) :
    Option (α × Network) :=
  match (n.stations[i]?).bind (·.peer) with
  | none => none
  | some peer =>
    (n.pipes[peer.pipe]?).map fun pipe =>
      let (a, peer, pipe) := f peer pipe
      let n := n.modifyStation i fun station => { station with peer := some peer }
      (a, { n with pipes := n.pipes.set peer.pipe pipe }.settle)

def peerNext (n : Network) (i : Nat) : Option (Except FrameError Packet × Network) :=
  n.onPeer i fun peer pipe =>
    let (r, reader, pipe) := pipe.nextPacket peer.side peer.reader
    (r, { peer with reader }, pipe)

def peerWrite (n : Network) (i : Nat) (bytes : Bytes) : Option (Except IoError Nat × Network) :=
  n.onPeer i fun peer pipe =>
    let (r, pipe) := pipe.write peer.side bytes
    (r, peer, pipe)

def peerClose (n : Network) (i : Nat) : Bool × Network :=
  match n.onPeer i fun peer pipe => ((), peer, pipe.closeEnd peer.side) with
  | none => (false, n)
  | some ((), n) => (true, n.modifyStation i fun station => { station with peer := none })

abbrev Beginning := Endpoint Line → Instant → Except RpcError Started × Endpoint Line

-- Begins a call and feeds what comes back at once.
def start (n : Network) (i : Nat) (f : Beginning) :
    Option (Except RpcError Started × Network) :=
  (n.onEndpoint i fun e =>
    let (r, e) := f e n.now
    (r, e.feedArrived)).map fun (r, n) => (r, n.settle)

def await (n : Network) (i ticket : Nat) : Option (Except RpcError Value) × Network :=
  match n.onEndpoint i fun e => e.poll ticket n.now with
  | some (some outcome, n) => (some outcome, n)
  | some (none, n) =>
    match ((n.endpoint? i).bind fun e => e.correlator.call? ticket).bind (·.deadline) with
    | none => (none, n)
    | some deadline =>
      match n.onEndpoint i fun e => e.poll ticket deadline with
      | some (outcome, n) => (outcome, n.passUntil deadline)
      | none => (none, n)
  | none => (none, n)

def call (n : Network) (i : Nat) (f : Beginning) :
    Option (Except RpcError (Option Value) × Network) :=
  match n.start i f with
  | none => none
  | some (.error why, n) => some (.error why, n)
  | some (.ok .sent, n) => some (.ok none, n)
  | some (.ok (.awaiting ticket), n) =>
    match n.await i ticket with
    | (some outcome, n) => some (outcome.map some, n)
    | (none, _) => none

def spawn (n : Network) (i : Nat) (f : Beginning) :
    Option (Nat × Network) :=
  (n.start i f).map fun (r, n) =>
    let errand : Errand :=
      match r with
      | .error why => .finished (.error why)
      | .ok .sent => .finished (.ok none)
      | .ok (.awaiting ticket) => .waiting i ticket
    (n.errands.length, { n with errands := n.errands ++ [errand] }.settle)

def finish (n : Network) (k : Nat) : Option (Except RpcError (Option Value) × Network) :=
  let done (n : Network) : Bool :=
    match n.errands[k]? with
    | some (.finished _) => true
    | _ => false
  match n.waitFor done with
  | (_, n) =>
    match n.errands[k]? with
    | some (.finished r) => some (r, n)
    | _ => none

def broadcast (n : Network) (targets : List Nat) (typeId : Nat) (content : Value) :
    Except RpcError Nat × Network :=
  match Endpoint.broadcastFrame typeId content with
  | .error why => (.error why, n)
  | .ok frame =>
    let (reached, n) := targets.foldl (fun (reached, n) i =>
      match n.onEndpoint i fun e => e.offerFrame frame with
      | some (true, n) => (reached + 1, n)
      | some (false, n) => (reached, n)
      | none => (reached, n)) (0, n)
    (.ok reached, n.settle)

end Network
end FramedRpc
