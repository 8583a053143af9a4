import FramedRpc.Binary.Format

namespace FramedRpc.Json

inductive Number where
  | integer (n : Int64)
  | large (n : UInt64)
  | real (bits : UInt64)
  deriving DecidableEq, Inhabited

inductive Tree where
  | null
  | bool (b : Bool)
  | number (n : Number)
  | string (s : String)
  | list (items : List Tree)
  | object (members : List (String × Tree))
  deriving Inhabited

namespace Tree

def insert (name : String) (value : Tree) : List (String × Tree) → List (String × Tree)
  | [] => [(name, value)]
  | member :: rest =>
    if name < member.1 then (name, value) :: member :: rest
    else if name = member.1 then (name, value) :: rest
    else member :: insert name value rest

def ofMembers (members : List (String × Tree)) : Tree :=
  .object (members.foldl (fun sorted member => insert member.1 member.2 sorted) [])

def ofInt (n : Int64) : Tree := .number (.integer n)

def ofNat (n : Nat) : Tree :=
  .number (if n < 0x8000000000000000 then .integer (Int64.ofNat n) else .large (UInt64.ofNat n))

def ofDouble (bits : UInt64) : Tree :=
  match Binary.double.decode bits.toNat with
  | .finite .. => .number (.real bits)
  | _ => .null

end Tree
end FramedRpc.Json
