import FramedRpc.Transport.FileSystem
import FramedRpc.Transport.Pipe

namespace FramedRpc

structure StreamEnd where
  pipe : Nat
  side : Side
  deriving DecidableEq, Repr

structure SocketHost where
  files : FileSystem
  -- Handles by number; none where the handle is gone.
  handles : List (Option SocketHandle)
  waiting : List (Nat × List Nat)
  pipes : List Pipe
  streams : List StreamEnd
  deriving DecidableEq, Repr

namespace SocketHost

def new (files : FileSystem) : SocketHost := ⟨files, [], [], [], []⟩

def bind (h : SocketHost) (path : String) : Except TransportError Nat × SocketHost :=
  match h.files.bind path with
  | (.error e, files) => (.error e, { h with files })
  | (.ok handle, files) =>
    (.ok h.handles.length,
      { h with files, handles := h.handles ++ [some handle], waiting := (handle.inode, []) :: h.waiting })

def addStream (h : SocketHost) (stream : StreamEnd) : Nat × SocketHost :=
  (h.streams.length, { h with streams := h.streams ++ [stream] })

def listener (h : SocketHost) (path : String) : Except IoError (Nat × List Nat) :=
  match FileSystem.addressFault? path with
  | some e => .error e
  | none =>
    match h.files.find path with
    | .error e => .error e
    | .ok (_, node) =>
      match node.kind, h.waiting.lookup node.inode with
      | .socket, some pipes => .ok (node.inode, pipes)
      | _, _ => .error .connectionRefused

def connect (h : SocketHost) (path : String) : Except TransportError Nat × SocketHost :=
  if path.isEmpty then (.error (.connect path .invalidArgument), h)
  else match h.listener path with
    | .error e => (.error (.connect path e), h)
    | .ok (inode, pipes) =>
      let pipe := h.pipes.length
      let waiting := (inode, pipes ++ [pipe]) :: h.waiting.filter fun entry => entry.1 ≠ inode
      let (n, h) := { h with waiting, pipes := h.pipes ++ [Pipe.new .unix] }.addStream ⟨pipe, .left⟩
      (.ok n, h)

-- Takes the connection that has waited longest; none where nothing waits or the handle is gone.
def accept (h : SocketHost) (socket : Nat) : Option Nat × SocketHost :=
  match h.handles[socket]? with
  | some (some handle) =>
    match h.waiting.lookup handle.inode with
    | some (pipe :: rest) =>
      let waiting := (handle.inode, rest) :: h.waiting.filter fun entry => entry.1 ≠ handle.inode
      let (n, h) := { h with waiting }.addStream ⟨pipe, .right⟩
      (some n, h)
    | _ => (none, h)
  | _ => (none, h)

-- A connection that was never accepted is gone without a trace.
def abandon (p : Pipe) : Pipe :=
  let p := p.shutdown
  { p with toLeft := { p.toLeft with lost := true } }

def drop (h : SocketHost) (socket : Nat) : Bool × SocketHost :=
  match h.handles[socket]? with
  | some (some handle) =>
    let pipes := ((h.waiting.lookup handle.inode).getD []).foldl (fun ps i => ps.modify i abandon) h.pipes
    (true,
      { h with
        files := h.files.release handle
        handles := h.handles.set socket none
        waiting := h.waiting.filter fun entry => entry.1 ≠ handle.inode
        pipes })
  | _ => (false, h)

def forget (h : SocketHost) (socket : Nat) : SocketHost :=
  { h with handles := h.handles.set socket none }

def onStream {α : Type} (h : SocketHost) (stream : Nat) (act : Pipe → Side → α × Pipe) :
    Option α × SocketHost :=
  match h.streams[stream]? with
  | none => (none, h)
  | some s =>
    match h.pipes[s.pipe]? with
    | none => (none, h)
    | some p =>
      let (a, p) := act p s.side
      (some a, { h with pipes := h.pipes.set s.pipe p })

end SocketHost
end FramedRpc
