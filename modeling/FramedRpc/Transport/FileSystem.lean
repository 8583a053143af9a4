import FramedRpc.Bytes
import FramedRpc.Transport.Error
import FramedRpc.Transport.Path

namespace FramedRpc

inductive NodeKind where
  | file (contents : Bytes)
  | directory
  | socket
  -- Takes all that is written and gives nothing.
  | nullDevice
  deriving DecidableEq, Repr

structure Node where
  kind : NodeKind
  inode : Nat
  mode : Nat
  deriving DecidableEq, Repr

-- The names that lead from the root to a node, the last one first.
abbrev Place := List String

structure FileSystem where
  nodes : List (Place × Node)
  -- Every inode so far is smaller, so no two nodes ever share one.
  nextInode : Nat
  deriving DecidableEq, Repr

-- A socket that listens, and the node that it made.
structure SocketHandle where
  path : String
  inode : Nat
  deriving DecidableEq, Repr

namespace FileSystem

def nodeAt? (fs : FileSystem) (place : Place) : Option Node := fs.nodes.lookup place

def erase (fs : FileSystem) (place : Place) : FileSystem :=
  { fs with nodes := fs.nodes.filter fun entry => entry.1 ≠ place }

def create (fs : FileSystem) (place : Place) (kind : NodeKind) (mode : Nat) : FileSystem :=
  ⟨(place, ⟨kind, fs.nextInode, mode⟩) :: (fs.erase place).nodes, fs.nextInode + 1⟩

def bare : FileSystem :=
  let directories : List Place := [[], ["dev"], ["etc"], ["tmp"], ["usr"], ["var"]]
  let fs := directories.foldl (fun (fs : FileSystem) place => fs.create place .directory 0o755) ⟨[], 0⟩
  fs.create ["null", "dev"] .nullDevice 0o666

def move (fs : FileSystem) (place : Place) (step : PathStep) : Except IoError Place :=
  match fs.nodeAt? place with
  | none => .error .noSuchFile
  | some node =>
    if node.kind = .directory then
      match step with
      | .stay => .ok place
      | .up => .ok place.tail
      | .into name => if Path.maxName < name.utf8ByteSize then .error .nameTooLong else .ok (name :: place)
    else .error .notADirectory

-- Where a path leads from the root, from which all paths start. All places on the way but the last are
-- directories; there may be nothing at the last one.
def walk (fs : FileSystem) (path : Path) : Except IoError Place := path.steps.foldlM fs.move []

def find (fs : FileSystem) (text : String) : Except IoError (Place × Node) := do
  let path ← Path.parse text
  let place ← fs.walk path
  match fs.nodeAt? place with
  | none => .error .noSuchFile
  | some node =>
    if path.endsInSlash ∧ node.kind ≠ .directory then .error .notADirectory else .ok (place, node)

def node? (fs : FileSystem) (path : String) : Option Node := (fs.find path).toOption.map (·.2)

-- The free place that a path names. A path to a new node that is no directory has no slash at its end.
def vacancy (fs : FileSystem) (text : String) (forDirectory : Bool) : Except IoError Place := do
  let path ← Path.parse text
  let place ← fs.walk path
  if (fs.nodeAt? place).isSome then .error .fileExists
  else if path.endsInSlash ∧ !forDirectory then .error .noSuchFile
  else .ok place

def writeFile (fs : FileSystem) (path : String) (contents : Bytes) : Bool × FileSystem :=
  match fs.find path with
  | .ok (place, node) =>
    match node.kind with
    | .file _ =>
      (true, { fs with nodes := fs.nodes.map fun entry =>
        if entry.1 = place then (place, { node with kind := .file contents }) else entry })
    | .nullDevice => (true, fs)
    | .directory | .socket => (false, fs)
  | .error _ =>
    match fs.vacancy path false with
    | .ok place => (true, fs.create place (.file contents) 0o644)
    | .error _ => (false, fs)

def makeDirectory (fs : FileSystem) (path : String) : Bool × FileSystem :=
  match fs.vacancy path true with
  | .ok place => (true, fs.create place .directory 0o755)
  | .error _ => (false, fs)

def removeFile (fs : FileSystem) (path : String) : Bool × FileSystem :=
  match fs.find path with
  | .ok (place, node) => if node.kind = .directory then (false, fs) else (true, fs.erase place)
  | .error _ => (false, fs)

def removeDirectory (fs : FileSystem) (text : String) : Bool × FileSystem :=
  match fs.find text with
  | .ok (place, node) =>
    let empty := fs.nodes.all fun entry => entry.1 = [] ∨ entry.1.tail ≠ place
    if node.kind = .directory ∧ place ≠ [] ∧ empty then (true, fs.erase place) else (false, fs)
  | .error _ => (false, fs)

def readFile (fs : FileSystem) (path : String) : Except IoError Bytes := do
  let (_, node) ← fs.find path
  match node.kind with
  | .file contents => .ok contents
  | .nullDevice => .ok []
  | .directory => .error .isDirectory
  | .socket => .error .noSuchDevice

-- A path must be shorter than the room in a socket address.
def maxSocketPath : Nat := 108

def socketMode : Nat := 0o600

def addressFault? (path : String) : Option IoError :=
  if path.contains '\x00' then
    some (.withText .invalidInput "paths must not contain interior null bytes")
  else if maxSocketPath ≤ path.utf8ByteSize then
    some (.withText .invalidInput "path must be shorter than SUN_LEN")
  else none

-- Makes the node of a socket that listens.
def placeSocket (fs : FileSystem) (path : String) : Except IoError SocketHandle × FileSystem :=
  match addressFault? path with
  | some e => (.error e, fs)
  | none =>
    match fs.vacancy path false with
    | .ok place => (.ok ⟨path, fs.nextInode⟩, fs.create place .socket socketMode)
    | .error e => (.error (if e = .fileExists then .addressInUse else e), fs)

-- Starts to listen at a path. A socket that is already there is replaced.
def bind (fs : FileSystem) (path : String) : Except TransportError SocketHandle × FileSystem :=
  let length := path.utf8ByteSize
  if maxSocketPath ≤ length then (.error (.pathTooLong path length maxSocketPath), fs)
  else match fs.find path with
    | .ok (place, node) =>
      if node.kind = .socket then
        let (r, fs) := (fs.erase place).placeSocket path
        (r.mapError (.bind path), fs)
      else
        (.error (.bind path (.withText .alreadyExists "existing path is not a unix socket")), fs)
    | .error _ =>
      let (r, fs) := fs.placeSocket path
      (r.mapError (.bind path), fs)

-- The end of a socket that listened: its node goes, if it is still there.
def release (fs : FileSystem) (handle : SocketHandle) : FileSystem :=
  match fs.find handle.path with
  | .ok (place, node) =>
    if node.kind = .socket ∧ node.inode = handle.inode then fs.erase place else fs
  | .error _ => fs

end FileSystem
end FramedRpc
