import FramedRpc.Bytes
import FramedRpc.Binary.Format

namespace FramedRpc

inductive Scalar where
  | null
  | bool (b : Bool)
  | short (n : Int16)
  | int (n : Int32)
  | long (n : Int64)
  | float (bits : UInt32)
  | double (bits : UInt64)
  -- Milliseconds since 1970.
  | timestamp (n : Int64)
  | string (s : String)
  | binary (bytes : Bytes)
  deriving DecidableEq, Inhabited

inductive Value where
  | scalar (s : Scalar)
  | list (items : List Value)
  | map (entries : List (Value × Value))
  deriving Inhabited

namespace Scalar

def kind : Scalar → String
  | null => "null"
  | bool _ => "bool"
  | short _ => "short"
  | int _ => "int"
  | long _ => "long"
  | float _ => "float"
  | double _ => "double"
  | timestamp _ => "timestamp"
  | string _ => "string"
  | binary _ => "binary"

-- Numbers compare as numbers, everything else as it is.
def same : Scalar → Scalar → Bool
  | float a, float b => Binary.sameNumber Binary.single a.toNat b.toNat
  | double a, double b => Binary.sameNumber Binary.double a.toNat b.toNat
  | a, b => a = b

end Scalar

namespace Value

@[match_pattern] abbrev null : Value := .scalar .null
@[match_pattern] abbrev bool (b : Bool) : Value := .scalar (.bool b)
@[match_pattern] abbrev int (n : Int32) : Value := .scalar (.int n)
@[match_pattern] abbrev long (n : Int64) : Value := .scalar (.long n)
@[match_pattern] abbrev double (bits : UInt64) : Value := .scalar (.double bits)
@[match_pattern] abbrev string (s : String) : Value := .scalar (.string s)

def kind : Value → String
  | scalar s => s.kind
  | list _ => "list"
  | map _ => "map"

def isContainer : Value → Bool
  | scalar _ => false
  | _ => true

def isNull : Value → Bool
  | null => true
  | _ => false

def asBool? : Value → Option Bool
  | bool b => some b
  | _ => none

-- The integer kinds widen; a timestamp is no integer.
def asInteger? : Value → Option Int64
  | scalar (.short n) => some n.toInt64
  | scalar (.int n) => some n.toInt64
  | scalar (.long n) => some n
  | _ => none

def asDouble? : Value → Option UInt64
  | scalar (.float bits) => some (Binary.widen bits)
  | scalar (.double bits) => some bits
  | _ => none

def asText? : Value → Option String
  | string s => some s
  | _ => none

def asBytes? : Value → Option Bytes
  | scalar (.binary bytes) => some bytes
  | _ => none

def items? : Value → Option (List Value)
  | list items => some items
  | _ => none

def entries? : Value → Option (List (Value × Value))
  | map entries => some entries
  | _ => none

def get? (v : Value) (key : String) : Option Value :=
  match v with
  | map entries => (entries.find? fun entry => entry.1.asText? = some key).map (·.2)
  | _ => none

mutual

def same : Value → Value → Bool
  | scalar a, scalar b => a.same b
  | list xs, list ys => sameItems xs ys
  | map xs, map ys => sameEntries xs ys
  | _, _ => false

def sameItems : List Value → List Value → Bool
  | [], [] => true
  | x :: xs, y :: ys => same x y && sameItems xs ys
  | _, _ => false

def sameEntries : List (Value × Value) → List (Value × Value) → Bool
  | [], [] => true
  | (k, v) :: xs, (l, w) :: ys => same k l && same v w && sameEntries xs ys
  | _, _ => false

end

mutual

-- Containers inside one another, keys counted like values.
def depth : Value → Nat
  | scalar _ => 0
  | list items => depthItems items + 1
  | map entries => depthEntries entries + 1

def depthItems : List Value → Nat
  | [] => 0
  | v :: rest => max (depth v) (depthItems rest)

def depthEntries : List (Value × Value) → Nat
  | [] => 0
  | (k, v) :: rest => max (max (depth k) (depth v)) (depthEntries rest)

end

mutual

def decEq : (a b : Value) → Decidable (a = b)
  | scalar a, scalar b => if h : a = b then isTrue (h ▸ rfl) else isFalse (by simp [h])
  | list xs, list ys =>
    match decEqItems xs ys with
    | isTrue h => isTrue (h ▸ rfl)
    | isFalse h => isFalse (by simp [h])
  | map xs, map ys =>
    match decEqEntries xs ys with
    | isTrue h => isTrue (h ▸ rfl)
    | isFalse h => isFalse (by simp [h])
  | scalar _, list _ | scalar _, map _ | list _, scalar _ | list _, map _ | map _, scalar _
  | map _, list _ => isFalse (by simp)

def decEqItems : (xs ys : List Value) → Decidable (xs = ys)
  | [], [] => isTrue rfl
  | x :: xs, y :: ys =>
    match decEq x y, decEqItems xs ys with
    | isTrue h, isTrue t => isTrue (by rw [h, t])
    | isFalse h, _ => isFalse (by simp [h])
    | _, isFalse t => isFalse (by simp [t])
  | [], _ :: _ | _ :: _, [] => isFalse (by simp)

def decEqEntries : (xs ys : List (Value × Value)) → Decidable (xs = ys)
  | [], [] => isTrue rfl
  | (k, v) :: xs, (l, w) :: ys =>
    match decEq k l, decEq v w, decEqEntries xs ys with
    | isTrue h, isTrue g, isTrue t => isTrue (by rw [h, g, t])
    | isFalse h, _, _ => isFalse (by simp [h])
    | _, isFalse g, _ => isFalse (by simp [g])
    | _, _, isFalse t => isFalse (by simp [t])
  | [], _ :: _ | _ :: _, [] => isFalse (by simp)

end

instance : DecidableEq Value := decEq

end Value
end FramedRpc
