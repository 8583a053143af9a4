import FramedRpc.Endpoint.Error
import FramedRpc.Frame.Header

namespace FramedRpc

inductive HandlerFailure where
  | failed (text : String)
  -- The text that the handler broke down with, if it gave one.
  | panicked (text : Option String)
  deriving DecidableEq

def HandlerFailure.message : HandlerFailure → String
  | .failed text => text
  | .panicked text => "panicked: " ++ text.getD "non-string panic payload"

structure Answer where
  -- One-way requests to be sent first, each with its request type.
  notices : List (Nat × Value)
  outcome : Except HandlerFailure Value

namespace Answer

def ok (v : Value) : Answer := ⟨[], .ok v⟩

def fail (text : String) : Answer := ⟨[], .error (.failed text)⟩

end Answer

structure Handler where
  run : Value → Answer
  -- Callers never get a response from such a handler.
  noRespond : Bool

namespace Handler

def invoke (h : Handler) (typeId : Nat) (content : Value) : Except RpcError Value :=
  (h.run content).outcome.mapError fun failure => .handler typeId failure.message

def describe (h : Handler) : String := s!"Handler \x7b no_respond: {h.noRespond}, .. \x7d"

end Handler

-- Simple ways to answer.
namespace Answer

def echo (v : Value) : Answer := .ok v

def kindOf (v : Value) : Answer := .ok (.list [.string v.kind])

def notifying (typeId : Nat) (v : Value) : Answer := ⟨[(typeId, v)], .ok v⟩

end Answer

structure HandlerTable where
  -- By request type; as long as the largest type so far asks for.
  slots : List (Option Handler)
  count : Nat

namespace HandlerTable

def empty : HandlerTable := ⟨[], 0⟩

def lookup (t : HandlerTable) (typeId : Nat) : Option Handler := (t.slots[typeId]?).join

def grow (t : HandlerTable) (typeId : Nat) : HandlerTable :=
  { t with slots := t.slots ++ List.replicate (typeId + 1 - t.slots.length) none }

-- A request type is given out once.
def register (t : HandlerTable) (typeId : Nat) (h : Handler) : Except RpcError Unit × HandlerTable :=
  if Frame.maxTypeId < typeId then
    (.error (.frame (.fieldOutOfRange "request_type_id" typeId Frame.maxTypeId)), t)
  else
    let t := t.grow typeId
    match t.lookup typeId with
    | some _ => (.error (.duplicateHandler typeId), t)
    | none => (.ok (), ⟨t.slots.set typeId (some h), t.count + 1⟩)

def ofList (rows : List (Nat × Handler)) : HandlerTable :=
  rows.foldl (fun t row => (t.register row.1 row.2).2) .empty

def invoke (t : HandlerTable) (typeId : Nat) (content : Value) : Except RpcError Value :=
  match t.lookup typeId with
  | none => .error (.unknownHandler typeId)
  | some h => h.invoke typeId content

def typeIds (t : HandlerTable) : List Nat :=
  (List.range t.slots.length).filter fun typeId => (t.lookup typeId).isSome

def size (t : HandlerTable) : Nat := t.count

def isEmpty (t : HandlerTable) : Bool := t.count = 0

end HandlerTable
end FramedRpc
