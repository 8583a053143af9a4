import FramedRpc.Endpoint.Error

namespace FramedRpc

structure MethodName where
  interface : String
  method : String
  deriving DecidableEq, Repr

def MethodName.display (name : MethodName) : String := name.interface ++ "." ++ name.method

structure MethodTable where
  byName : List (MethodName × Nat)
  byId : List (Nat × MethodName)
  deriving DecidableEq, Repr

namespace MethodTable

def empty : MethodTable := ⟨[], []⟩

def lookup (t : MethodTable) (name : MethodName) : Option Nat := t.byName.lookup name

def nameOf (t : MethodTable) (typeId : Nat) : Option MethodName := t.byId.lookup typeId

-- Both the name and the request type have to be free; the name is looked at first.
def insert (t : MethodTable) (name : MethodName) (typeId : Nat) : Except RpcError Unit × MethodTable :=
  if (t.lookup name).isSome then (.error (.duplicateMethod name.interface name.method), t)
  else if (t.nameOf typeId).isSome then (.error (.duplicateHandler typeId), t)
  else (.ok (), ⟨(name, typeId) :: t.byName, (typeId, name) :: t.byId⟩)

def ofList (rows : List (MethodName × Nat)) : MethodTable :=
  rows.foldl (fun t row => (t.insert row.1 row.2).2) .empty

def resolve (t : MethodTable) (name : MethodName) : Except RpcError Nat :=
  match t.lookup name with
  | none => .error (.unknownMethod name.interface name.method)
  | some typeId => .ok typeId

def size (t : MethodTable) : Nat := t.byName.length

def isEmpty (t : MethodTable) : Bool := t.byName.isEmpty

end MethodTable
end FramedRpc
