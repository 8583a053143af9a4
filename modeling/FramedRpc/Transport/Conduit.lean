import FramedRpc.Transport.Pipe

namespace FramedRpc

-- A read that found nothing, with the time at which it gives up, if it ever does.
structure Waiter where
  side : Side
  size : Nat
  deadline : Option Instant
  deriving DecidableEq

def Waiter.isLate (w : Waiter) (now : Instant) : Bool := w.deadline.any (· ≤ now)

-- A memory pipe as its users see it: with the read timeout of each end, the reads that have not returned yet, and
-- the time by the clock.
structure Conduit where
  pipe : Pipe
  timeout : Side → Option Duration
  waiting : List Waiter
  now : Instant

namespace Conduit

def new (now : Instant) : Conduit := ⟨.new .memory, fun _ => none, [], now⟩

inductive Action where
  | write (side : Side) (bytes : Bytes)
  | read (side : Side) (size : Nat)
  -- A read that waits looks once more.
  | resume (waiter : Waiter)
  | clone (side : Side)
  | drop (side : Side)
  | shutdown (side : Side)
  | setReadTimeout (side : Side) (timeout : Option Duration)
  | pass (time : Duration)

inductive Outcome where
  | wrote (result : Except IoError Nat)
  | read (result : Except IoError Bytes)
  | waits
  -- The clock has no reading for the deadline of a read.
  | panicked
  | timeout (result : Except TransportError Unit)
  | done

def attempt (c : Conduit) (w : Waiter) : Outcome × Conduit :=
  match c.pipe.read w.side w.size with
  | (.ok bytes, pipe) => (.read (.ok bytes), { c with pipe })
  | (.error why, pipe) =>
    if w.isLate c.now then (.read (.error why), { c with pipe })
    else (.waits, { c with pipe, waiting := w :: c.waiting })

-- A read that asks for something fixes its deadline before it looks at the lane.
def read (c : Conduit) (side : Side) (size : Nat) : Outcome × Conduit :=
  if size = 0 then (.read (.ok []), c)
  else
    match c.timeout side with
    | none => c.attempt ⟨side, size, none⟩
    | some timeout =>
      match c.now.after? timeout with
      | none => (.panicked, c)
      | some deadline => c.attempt ⟨side, size, some deadline⟩

def setReadTimeout (c : Conduit) (side : Side) (timeout : Option Duration) : Outcome × Conduit :=
  match c.pipe.setReadTimeout timeout with
  | .error why => (.timeout (.error why), c)
  | .ok () => (.timeout (.ok ()), { c with timeout := fun end_ => if end_ = side then timeout else c.timeout end_ })

def perform (c : Conduit) : Action → Outcome × Conduit
  | .write side bytes => (.wrote (c.pipe.write side bytes).1, { c with pipe := (c.pipe.write side bytes).2 })
  | .read side size => c.read side size
  | .resume waiter => { c with waiting := c.waiting.erase waiter }.attempt waiter
  | .clone side => (.done, { c with pipe := c.pipe.clone side })
  | .drop side => (.done, { c with pipe := c.pipe.drop side })
  | .shutdown _ => (.done, { c with pipe := c.pipe.shutdown })
  | .setReadTimeout side timeout => c.setReadTimeout side timeout
  | .pass time => (.done, { c with now := c.now + time })

end Conduit
end FramedRpc
