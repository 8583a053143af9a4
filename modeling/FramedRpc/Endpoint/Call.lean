import FramedRpc.Endpoint.Basic

namespace FramedRpc

structure CallOptions where
  -- The caller waits for the response.
  blocking : Bool
  -- The request has an id, so that it is answered.
  expectsResponse : Bool
  broadcast : Bool
  expiry : Option Duration
  deriving DecidableEq, Repr

namespace CallOptions

def blockingCall : CallOptions := ⟨true, true, false, none⟩

def nonBlockingCall : CallOptions := ⟨false, true, false, none⟩

def oneWay : CallOptions := ⟨false, false, false, none⟩

def toMany : CallOptions := ⟨false, false, true, none⟩

def conflict? (o : CallOptions) : Option OptionConflict :=
  if o.broadcast ∧ o.expectsResponse then some .broadcastAwaitsResponse
  else if o.blocking ∧ !o.expectsResponse then some .blockingWithoutResponse
  else none

def expiryUnder (o : CallOptions) (c : EndpointConfig) : Option Duration :=
  let given := o.expiry <|> c.defaultExpiry
  if o.blocking then given else given <|> some c.nonBlockingExpiry

end CallOptions

-- How a call that has begun goes on.
inductive Started where
  | sent
  | awaiting (ticket : Nat)
  deriving DecidableEq, Repr

namespace Endpoint

variable {τ : Type} [Transport τ]

def sendFrame (e : Endpoint τ) (frame : Bytes) : Except RpcError Unit × Endpoint τ :=
  match e.transport with
  | none => (.error .notConnected, e)
  | some transport =>
    let (r, transport) := Transport.send frame transport
    (r.mapError .frame, { e with transport := some transport })

omit [Transport τ] in
def encodeContent (e : Endpoint τ) (content : Value) : Except RpcError Bytes :=
  match Frame.encodeContent content with
  | .error why => .error (.codec why)
  | .ok body =>
    let limit := e.config.frame.limit
    if limit < body.length then .error (.frame (.contentTooLarge body.length limit)) else .ok body

omit [Transport τ] in
def prepare (e : Endpoint τ) (typeId : Nat) (content : Value) (o : CallOptions) : Except RpcError Bytes :=
  match o.conflict? with
  | some why => .error (.invalidOptions why)
  | none =>
    if Frame.maxTypeId < typeId then
      .error (.frame (.fieldOutOfRange "request_type_id" typeId Frame.maxTypeId))
    else e.encodeContent content

def sendOneWay (e : Endpoint τ) (typeId : Nat) (body : Bytes) : Except RpcError Unit × Endpoint τ :=
  match Frame.ofContent ⟨false, typeId, 0⟩ body with
  | .error why => (.error (.frame why), e)
  | .ok frame => e.sendFrame frame

-- Sends a request under the id of a new call. If it cannot be sent the call is not in flight.
def sendAwaited (e : Endpoint τ) (typeId : Nat) (body : Bytes) (now : Instant)
    (expiry : Option Duration) : Except RpcError Nat × Endpoint τ :=
  if !e.isConnected then (.error .notConnected, e)
  else
    match e.correlator.register now expiry with
    | (.error why, correlator) => (.error why, { e with correlator })
    | (.ok ticket, correlator) =>
      let e := { e with correlator }
      let requestId := ((correlator.call? ticket).map (·.requestId)).getD 0
      let (sent, e) : Except RpcError Unit × Endpoint τ :=
        match Frame.ofContent ⟨false, typeId, requestId⟩ body with
        | .error why => (.error (.frame why), e)
        | .ok frame => e.sendFrame frame
      match sent with
      | .ok () => (.ok ticket, e)
      | .error why => (.error why, { e with correlator := (e.correlator.cancel requestId).2 })

def call (e : Endpoint τ) (typeId : Nat) (content : Value) (o : CallOptions) (now : Instant) :
    Except RpcError Started × Endpoint τ :=
  match e.prepare typeId content o with
  | .error why => (.error why, e)
  | .ok body =>
    if o.expectsResponse then
      let (r, e) := e.sendAwaited typeId body now (o.expiryUnder e.config)
      (r.map fun ticket => if o.blocking then .awaiting ticket else .sent, e)
    else
      let (r, e) := e.sendOneWay typeId body
      (r.map fun () => .sent, e)

def invoke (e : Endpoint τ) (name : MethodName) (content : Value) (o : CallOptions) (now : Instant) :
    Except RpcError Started × Endpoint τ :=
  match e.methods.resolve name with
  | .error why => (.error why, e)
  | .ok typeId => e.call typeId content o now

omit [Transport τ] in
def poll (e : Endpoint τ) (ticket : Nat) (now : Instant) :
    Option (Except RpcError Value) × Endpoint τ :=
  let (outcome, correlator) := e.correlator.poll ticket now
  (outcome, { e with correlator })

-- The frame that is sent to many.
def broadcastFrame (typeId : Nat) (content : Value) : Except RpcError Bytes :=
  (Packet.request typeId 0 content).encode.mapError .frame

def offerFrame (e : Endpoint τ) (frame : Bytes) : Bool × Endpoint τ :=
  let (r, e) := e.sendFrame frame
  (r.isOk, e)

-- Sends one request to many and counts whom it reached. Nobody answers.
def broadcast (es : List (Endpoint τ)) (typeId : Nat) (content : Value) :
    Except RpcError Nat × List (Endpoint τ) :=
  match broadcastFrame typeId content with
  | .error why => (.error why, es)
  | .ok frame =>
    let offered := es.map (·.offerFrame frame)
    (.ok (offered.countP (·.1)), offered.map (·.2))

end Endpoint
end FramedRpc
