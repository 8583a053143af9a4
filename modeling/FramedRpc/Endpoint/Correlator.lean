import FramedRpc.Endpoint.Error
import FramedRpc.Frame.Header

namespace FramedRpc

inductive Slot where
  | waiting
  | resolved (v : Value)
  -- The value has been handed over.
  | taken
  | expired
  | interrupted
  deriving DecidableEq

structure PendingCall where
  requestId : Nat
  expiry : Option Duration
  deadline : Option Instant
  slot : Slot
  deriving DecidableEq

namespace PendingCall

def isComplete (call : PendingCall) : Bool := call.slot ≠ .waiting

def isDue (call : PendingCall) (now : Instant) : Bool :=
  match call.deadline with
  | none => false
  | some deadline => deadline ≤ now

-- Only the first outcome counts.
def complete (call : PendingCall) (outcome : Slot) : PendingCall :=
  if call.isComplete then call else { call with slot := outcome }

def expiredError (call : PendingCall) : RpcError := .expired call.requestId (call.expiry.getD 0)

-- What a waiting party learns at a time, if anything, and the record after that.
def claim (call : PendingCall) (now : Instant) : Option (Except RpcError Value) × PendingCall :=
  match call.slot with
  | .resolved v => (some (.ok v), { call with slot := .taken })
  | .expired => (some (.error call.expiredError), call)
  | .interrupted | .taken => (some (.error (.interrupted call.requestId)), call)
  | .waiting =>
    if call.isDue now then (some (.error call.expiredError), { call with slot := .expired })
    else (none, call)

end PendingCall

structure Correlator where
  nextId : Nat
  -- Every record so far; who makes a call holds its place here as a ticket.
  calls : List PendingCall
  -- The tickets of the calls in flight, by request id.
  pending : List (Nat × Nat)
  deriving DecidableEq

namespace Correlator

def new : Correlator := ⟨1, [], []⟩

-- Request ids run up to the largest one and then begin again at one; zero is never given out.
def idAfter (id : Nat) : Nat := if Frame.maxRequestId ≤ id then 1 else id + 1

def nextRequestId (c : Correlator) : Nat × Correlator := (c.nextId, { c with nextId := idAfter c.nextId })

-- The first id from here on that is not in flight; `tries` of them are looked at. As many tries as
-- there are calls in flight are enough.
def freeId (inFlight : List Nat) (id : Nat) : (tries : Nat) → Nat
  | 0 => id
  | tries + 1 => if id ∈ inFlight then freeId inFlight (idAfter id) tries else id

def pendingCount (c : Correlator) : Nat := c.pending.length

def call? (c : Correlator) (ticket : Nat) : Option PendingCall := c.calls[ticket]?

def isComplete (c : Correlator) (ticket : Nat) : Bool := (c.call? ticket).any (·.isComplete)

def isDue (c : Correlator) (ticket : Nat) (now : Instant) : Bool := (c.call? ticket).any (·.isDue now)

def completeAll (c : Correlator) (tickets : List Nat) (outcome : Slot) : Correlator :=
  { c with calls := tickets.foldl (fun calls ticket => calls.modify ticket (·.complete outcome)) c.calls }

def sweep (c : Correlator) (now : Instant) : Nat × Correlator :=
  let overdue := c.pending.filter fun entry => c.isDue entry.2 now
  let c := { c with pending := c.pending.filter fun entry => !c.isDue entry.2 now }
  (overdue.length, c.completeAll (overdue.map (·.2)) .expired)

-- A record for a new call. Calls that are due are swept first, and the id is used up even if the clock
-- cannot tell when the call is due.
def register (c : Correlator) (now : Instant) (expiry : Option Duration) :
    Except RpcError Nat × Correlator :=
  let (_, c) := c.sweep now
  let id := freeId (c.pending.map (·.1)) c.nextId c.pending.length
  let c := { c with nextId := idAfter id }
  let record (deadline : Option Instant) : Except RpcError Nat × Correlator :=
    let ticket := c.calls.length
    (.ok ticket,
      { c with
        calls := c.calls ++ [⟨id, expiry, deadline, .waiting⟩]
        pending := (id, ticket) :: c.pending })
  match expiry with
  | none => record none
  | some after =>
    match now.after? after with
    | none => (.error .deadlineOutOfRange, c)
    | some deadline => record (some deadline)

def remove (c : Correlator) (requestId : Nat) : Option Nat × Correlator :=
  match c.pending.lookup requestId with
  | none => (none, c)
  | some ticket =>
    (some ticket, { c with pending := c.pending.filter fun entry => entry.1 ≠ requestId })

def resolve (c : Correlator) (requestId : Nat) (content : Value) : Bool × Correlator :=
  match c.remove requestId with
  | (none, c) => (false, c)
  | (some ticket, c) => (!c.isComplete ticket, c.completeAll [ticket] (.resolved content))

def cancel (c : Correlator) (requestId : Nat) : Bool × Correlator :=
  let (ticket, c) := c.remove requestId
  (ticket.isSome, c)

-- What the holder of a ticket learns at a time, if anything. A call found to be due is in flight no
-- more.
def poll (c : Correlator) (ticket : Nat) (now : Instant) :
    Option (Except RpcError Value) × Correlator :=
  match c.call? ticket with
  | none => (none, c)
  | some call =>
    let (outcome, call) := call.claim now
    let c := { c with calls := c.calls.set ticket call }
    match outcome with
    | some (.error (.expired requestId _)) => (outcome, (c.cancel requestId).2)
    | _ => (outcome, c)

def interruptAll (c : Correlator) : Nat × Correlator :=
  let drained := c.completeAll (c.pending.map fun entry => entry.2) .interrupted
  (c.pending.length, { drained with pending := [] })

-- Waits for an outcome while nothing else happens, up to the deadline of the call or as long as the
-- patience lasts. Gives the time when the waiting ended.
def await (c : Correlator) (ticket : Nat) (now : Instant) (patience : Option Duration) :
    Option (Except RpcError Value) × Correlator × Instant :=
  match c.poll ticket now with
  | (some outcome, c) => (some outcome, c, now)
  | (none, c) =>
    match (c.call? ticket).bind (·.deadline) with
    | none => (none, c, now)
    | some deadline =>
      if patience.all fun patience => deadline ≤ now + patience then
        let (outcome, c) := c.poll ticket deadline
        (outcome, c, deadline)
      else (none, c, now)

end Correlator
end FramedRpc
