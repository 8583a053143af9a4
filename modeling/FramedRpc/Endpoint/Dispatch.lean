import FramedRpc.Endpoint.Call

namespace FramedRpc.Endpoint

variable {τ : Type} [Transport τ]

omit [Transport τ] in
def responseFrame (e : Endpoint τ) (typeId requestId : Nat) (reply : Value) : Except RpcError Bytes :=
  let around (body : Bytes) := (Frame.ofContent ⟨true, typeId, requestId⟩ body).mapError RpcError.frame
  match e.encodeContent reply >>= around with
  | .ok frame => .ok frame
  | .error _ => (Packet.response typeId requestId .null).encode.mapError .frame

def respond (e : Endpoint τ) (typeId requestId : Nat) (reply : Value) : Except RpcError Unit × Endpoint τ :=
  match e.responseFrame typeId requestId reply with
  | .error why => (.error why, e)
  | .ok frame => e.sendFrame frame

def notify (e : Endpoint τ) (typeId : Nat) (content : Value) : Endpoint τ :=
  match e.prepare typeId content .oneWay with
  | .error _ => e
  | .ok body => (e.sendOneWay typeId body).2

-- Runs the handler of a request. A failed handler is answered for with null.
def dispatch (e : Endpoint τ) (typeId requestId : Nat) (content : Value) : Endpoint τ :=
  match e.handlers.bind (·.lookup typeId) with
  | none => e
  | some handler =>
    let answer := handler.run content
    let e := answer.notices.foldl (fun e notice => e.notify notice.1 notice.2) e
    if handler.noRespond ∨ requestId = 0 then e
    else
      let reply :=
        match answer.outcome with
        | .ok v => v
        | .error _ => .null
      (e.respond typeId requestId reply).2

omit [Transport τ] in
def resolve (e : Endpoint τ) (requestId : Nat) (content : Value) : Endpoint τ :=
  { e with correlator := (e.correlator.resolve requestId content).2 }

-- What becomes of a packet of which the listeners know.
def settle (e : Endpoint τ) (p : Packet) : Endpoint τ :=
  if p.isResponse then (e.note (.settled p)).resolve p.requestId p.content
  else (e.note (.settled p)).dispatch p.typeId p.requestId p.content

def deliver (e : Endpoint τ) (p : Packet) : Endpoint τ := (e.tell p).settle p

-- Takes bytes in. All packets that they complete are read first and then delivered in order.
def feed (e : Endpoint τ) (bytes : Bytes) : Endpoint τ :=
  let (deframer, packets) := e.deframer.feed bytes
  packets.foldl deliver { e with deframer }

end FramedRpc.Endpoint
