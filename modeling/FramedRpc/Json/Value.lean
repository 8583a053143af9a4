import FramedRpc.Value.Display
import FramedRpc.Json.Basic
import FramedRpc.Text.Hex

namespace FramedRpc

structure Json.Oversized where
  n : UInt64
  deriving DecidableEq, Repr

-- Integers take 32 bits if they fit, and 64 bits otherwise.
def Json.Number.toValue : Json.Number → Except Json.Oversized Value
  | integer n =>
    if Int32.minValue.toInt ≤ n.toInt ∧ n.toInt ≤ Int32.maxValue.toInt then .ok (.int n.toInt32)
    else .ok (.long n)
  | large n => .error ⟨n⟩
  | real bits => .ok (.double bits)

namespace Value

mutual

-- The value of a JSON tree. The first integer that does not fit is reported.
def ofJson : Json.Tree → Except Json.Oversized Value
  | .null => .ok .null
  | .bool b => .ok (.bool b)
  | .number n => n.toValue
  | .string s => .ok (.string s)
  | .list items => (ofJsonItems items).map .list
  | .object members => (ofJsonMembers members).map .map

def ofJsonItems : List Json.Tree → Except Json.Oversized (List Value)
  | [] => .ok []
  | item :: rest =>
    match ofJson item with
    | .error e => .error e
    | .ok v => (ofJsonItems rest).map (v :: ·)

def ofJsonMembers : List (String × Json.Tree) → Except Json.Oversized (List (Value × Value))
  | [] => .ok []
  | (name, item) :: rest =>
    match ofJson item with
    | .error e => .error e
    | .ok v => (ofJsonMembers rest).map ((.string name, v) :: ·)

end

end Value

def Scalar.toJson : Scalar → Json.Tree
  | null => .null
  | bool b => .bool b
  | short n => .ofInt n.toInt64
  | int n => .ofInt n.toInt64
  | long n => .ofInt n
  | float bits => .ofDouble (Binary.widen bits)
  | double bits => .ofDouble bits
  | timestamp n => .object [("timestamp", .ofInt n)]
  | string s => .string s
  | binary bytes => .object [("binary", .string (Text.hex bytes))]

namespace Value

-- A text stands for itself as a key, any other value for what is displayed of it.
def jsonKey (key : Value) : String := key.asText?.getD key.display

mutual

-- The JSON tree of a value. Of entries with the same key the last one counts.
def toJson : Value → Json.Tree
  | scalar s => s.toJson
  | list items => .list (toJsonItems items)
  | map entries => .ofMembers (toJsonEntries entries)

def toJsonItems : List Value → List Json.Tree
  | [] => []
  | item :: rest => toJson item :: toJsonItems rest

def toJsonEntries : List (Value × Value) → List (String × Json.Tree)
  | [] => []
  | (key, item) :: rest => (jsonKey key, toJson item) :: toJsonEntries rest

end

end Value
end FramedRpc
