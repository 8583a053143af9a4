import FramedRpc.Endpoint.Handler
import FramedRpc.Endpoint.Method

namespace FramedRpc.Demo

def echo : Nat := 1
def ping : Nat := 2
def sum : Nat := 3
def notify : Nat := 4

def total : List Value → Int64 → Except String Int64
  | [], sum => .ok sum
  | item :: rest, sum =>
    match item.asInteger? with
    | none => .error s!"sum expects integers, got {item.kind}"
    | some n =>
      let next := sum.toInt + n.toInt
      if next < Int64.minValue.toInt ∨ Int64.maxValue.toInt < next then .error "sum overflowed"
      else total rest (sum + n)

def sumOf (content : Value) : Answer :=
  match content.items? with
  | none => .fail "sum expects a list of integers"
  | some items =>
    match total items 0 with
    | .error text => .fail text
    | .ok n => .ok (.list [.long n])

def handlers : HandlerTable := .ofList [
  (echo, ⟨.echo, false⟩),
  (ping, ⟨fun _ => .ok (.list [.string "pong"]), false⟩),
  (sum, ⟨sumOf, false⟩),
  (notify, ⟨fun _ => .ok .null, true⟩)]

def methods : MethodTable := .ofList [
  (⟨"Demo", "echo"⟩, echo),
  (⟨"Demo", "ping"⟩, ping),
  (⟨"Demo", "sum"⟩, sum),
  (⟨"Demo", "notify"⟩, notify)]

end FramedRpc.Demo
