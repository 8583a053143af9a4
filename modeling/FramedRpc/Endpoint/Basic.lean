import FramedRpc.Endpoint.Correlator
import FramedRpc.Endpoint.Handler
import FramedRpc.Endpoint.Method
import FramedRpc.Frame.Deframer
import FramedRpc.Transport.PacketStream

namespace FramedRpc

-- Where frames go.
class Transport (τ : Type) where
  send : Bytes → τ → Except FrameError Unit × τ

structure EndpointConfig where
  frame : FrameConfig
  -- For calls that do not say how long they wait.
  defaultExpiry : Option Duration
  -- For calls that nobody waits for and that have no other expiry.
  nonBlockingExpiry : Duration
  readChunk : Nat
  deriving DecidableEq, Repr

def EndpointConfig.standard : EndpointConfig := ⟨.standard, none, .seconds 60, 8192⟩

-- What happens to a packet that has come in.
inductive Note where
  | told (listener : Nat) (p : Packet)
  -- It was resolved, or dispatched if it is no response.
  | settled (p : Packet)
  deriving DecidableEq

structure Endpoint (τ : Type) where
  config : EndpointConfig
  transport : Option τ
  -- How many transports were attached so far: a counter of 64 bits, without a bound here since nobody attaches 2⁶⁴.
  generation : Nat
  correlator : Correlator
  deframer : Deframer
  handlers : Option HandlerTable
  methods : MethodTable
  -- In the order in which they were added.
  listeners : List Nat
  -- Every listener so far has a smaller number. This is a counter of 64 bits as well.
  nextListener : Nat
  -- Oldest first.
  log : List Note

namespace Endpoint

variable {τ : Type}

def new (config : EndpointConfig) : Endpoint τ :=
  ⟨config, none, 0, .new, .new config.frame.limit, none, .empty, [], 1, []⟩

def isConnected (e : Endpoint τ) : Bool := e.transport.isSome

def pendingCount (e : Endpoint τ) : Nat := e.correlator.pendingCount

def stats (e : Endpoint τ) : Stats := e.deframer.stats

def describe (e : Endpoint τ) : String :=
  s!"Endpoint \x7b connected: {e.isConnected}, pending: {e.pendingCount}, .. \x7d"

def bindHandlers (e : Endpoint τ) (handlers : HandlerTable) : Endpoint τ :=
  { e with handlers := some handlers }

def unbindHandlers (e : Endpoint τ) : Option HandlerTable × Endpoint τ :=
  (e.handlers, { e with handlers := none })

def setMethods (e : Endpoint τ) (methods : MethodTable) : Endpoint τ := { e with methods }

def interruptPending (e : Endpoint τ) : Nat × Endpoint τ :=
  let (count, correlator) := e.correlator.interruptAll
  (count, { e with correlator })

def sweep (e : Endpoint τ) (now : Instant) : Endpoint τ :=
  { e with correlator := (e.correlator.sweep now).2 }

-- Frames go here from now on; calls in flight stay so.
def attach (e : Endpoint τ) (transport : τ) : Endpoint τ :=
  { e with transport := some transport, generation := e.generation + 1 }

def detach (e : Endpoint τ) : Option τ × Endpoint τ :=
  (e.transport, (interruptPending { e with transport := none }).2)

-- A stream that an endpoint is to take over, by what its steps come to.
structure Offer (τ : Type) where
  -- Two more handles to the stream: the reader has one, and the other one is there to shut it down.
  readerHandle : Except TransportError Unit
  shutdownHandle : Except TransportError Unit
  -- The writer takes over the write timeout.
  writer : FrameConfig → Except FrameError τ
  setReadTimeout : Option Duration → Except TransportError Unit

-- The steps that can fail, in their order.
def Offer.opened (offer : Offer τ) (config : FrameConfig) : Except RpcError τ := do
  offer.readerHandle.mapError .transport
  offer.shutdownHandle.mapError .transport
  let transport ← (offer.writer config).mapError .frame
  (offer.setReadTimeout config.readTimeout).mapError .transport
  return transport

-- What was going on before is over.
def renew (e : Endpoint τ) (transport : τ) : Endpoint τ :=
  let (_, e) := e.detach
  attach { e with deframer := e.deframer.reset } transport

-- Frames go to the writer of a stream, and whoever reads from it for the endpoint gets the generation.
def attachStream (e : Endpoint τ) (offer : Offer τ) : Except RpcError Nat × Endpoint τ :=
  match offer.opened e.config.frame with
  | .error why => (.error why, e)
  | .ok transport => (.ok (e.renew transport).generation, e.renew transport)

-- The reader of a generation has come to the end of its stream. A later generation goes on.
def readerExit (e : Endpoint τ) (generation : Nat) : Endpoint τ :=
  if e.generation = generation then e.detach.2 else e

def addListener (e : Endpoint τ) : Nat × Endpoint τ :=
  (e.nextListener, { e with listeners := e.listeners ++ [e.nextListener], nextListener := e.nextListener + 1 })

def removeListener (e : Endpoint τ) (listener : Nat) : Bool × Endpoint τ :=
  (e.listeners.contains listener, { e with listeners := e.listeners.filter (· ≠ listener) })

def note (e : Endpoint τ) (entry : Note) : Endpoint τ := { e with log := e.log ++ [entry] }

def tell (e : Endpoint τ) (p : Packet) : Endpoint τ := { e with log := e.log ++ e.listeners.map (.told · p) }

end Endpoint
end FramedRpc
