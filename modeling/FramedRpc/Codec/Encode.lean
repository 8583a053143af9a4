import FramedRpc.Codec.Token
import FramedRpc.Stream.Sink

namespace FramedRpc
open Codec

namespace Value

mutual

def tokens : Value → List Token
  | scalar s => [.scalar s]
  | list items => .openList :: (itemTokens items ++ [.close])
  | map entries => .openMap :: (entryTokens entries ++ [.close])

def itemTokens : List Value → List Token
  | [] => []
  | v :: rest => tokens v ++ itemTokens rest

def entryTokens : List (Value × Value) → List Token
  | [] => []
  | (k, v) :: rest => tokens k ++ (tokens v ++ entryTokens rest)

end

mutual

-- The first obstacle on the way, for a value inside of `depth` containers.
def obstacleAt? (depth : Nat) : Value → Option Unsupported
  | scalar s => s.obstacle?
  | list items => if maxDepth ≤ depth then some .tooDeep else itemObstacle? (depth + 1) items
  | map entries => if maxDepth ≤ depth then some .tooDeep else entryObstacle? (depth + 1) entries

def itemObstacle? (depth : Nat) : List Value → Option Unsupported
  | [] => none
  | v :: rest => (obstacleAt? depth v).or (itemObstacle? depth rest)

def entryObstacle? (depth : Nat) : List (Value × Value) → Option Unsupported
  | [] => none
  | (k, v) :: rest =>
    (obstacleAt? depth k).or ((obstacleAt? depth v).or (entryObstacle? depth rest))

end

def obstacle? (v : Value) : Option Unsupported :=
  if v.isContainer then v.obstacleAt? 0 else some (.topLevel v.kind)

def write (v : Value) : Bytes := v.tokens.flatMap Token.write

def encode (v : Value) : Except CodecError Bytes :=
  match v.obstacle? with
  | some why => .error (.unsupported why)
  | none => .ok v.write

-- Appends the written form; a value that cannot be written leaves the buffer as it was.
def encodeOnto (v : Value) (buffer : Bytes) : Except CodecError Unit × Bytes :=
  match v.encode with
  | .error e => (.error e, buffer)
  | .ok bytes => (.ok (), buffer ++ bytes)

-- Writes the form of a value into a sink, which is not touched by a value that has none.
def encodeTo (v : Value) (sink : Sink) : Except CodecError Unit × Sink :=
  match v.encode with
  | .error e => (.error e, sink)
  | .ok bytes =>
    match sink.push IoError.isInterrupted bytes with
    | (.ok (), sink) => (.ok (), sink)
    | (.error .refused, sink) => (.error (.io .sinkFull), sink)
    | (.error (.failure e), sink) => (.error (.io e), sink)

end Value
end FramedRpc
