import FramedRpc.Endpoint.Correlator

namespace FramedRpc

structure CallDesk where
  correlator : Correlator
  now : Instant
  -- Tickets that are waited for in the background, with what has come of it.
  waiters : List (Nat × Option (Except RpcError Value))

namespace CallDesk

def new : CallDesk := ⟨.new, 0, []⟩

def settle (d : CallDesk) : CallDesk :=
  let step (state : Correlator × List (Nat × Option (Except RpcError Value)))
      (waiter : Nat × Option (Except RpcError Value)) :=
    match waiter.2 with
    | some _ => (state.1, waiter :: state.2)
    | none =>
      let (outcome, correlator) := state.1.poll waiter.1 d.now
      (correlator, (waiter.1, outcome) :: state.2)
  let (correlator, newest) := d.waiters.foldl step (d.correlator, [])
  { d with correlator, waiters := newest.reverse }

def run {α : Type} (d : CallDesk) (f : Correlator → Instant → α × Correlator) : α × CallDesk :=
  let (a, correlator) := f d.correlator d.now
  (a, settle { d with correlator })

def sleep (d : CallDesk) (time : Duration) : CallDesk := settle { d with now := d.now + time }

def await (d : CallDesk) (ticket : Nat) (patience : Option Duration) :
    Option (Except RpcError Value) × CallDesk :=
  let (outcome, correlator, now) := d.correlator.await ticket d.now patience
  (outcome, settle { d with correlator, now })

def spawn (d : CallDesk) (ticket : Nat) : CallDesk :=
  settle { d with waiters := d.waiters ++ [(ticket, none)] }

def join (d : CallDesk) (ticket : Nat) : Option (Except RpcError Value) × CallDesk :=
  match d.waiters.find? fun waiter => waiter.1 = ticket ∧ waiter.2.isSome with
  | some waiter => (waiter.2, d)
  | none =>
    let d := { d with waiters := d.waiters.filter fun waiter => waiter.1 ≠ ticket }
    d.await ticket none

end CallDesk
end FramedRpc
