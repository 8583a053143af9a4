import FramedRpc.Power

namespace FramedRpc

abbrev Duration := Nat

namespace Duration

def micros (n : Nat) : Duration := n * 1000

def millis (n : Nat) : Duration := n * 1000000

def perSecond : Duration := 1000000000

def seconds (n : Nat) : Duration := n * perSecond

def toMillis (d : Duration) : Nat := d / 1000000

-- The digits of a fraction of so many places, without the zeros at its end.
def fractionDigits (places fraction : Nat) : List Char :=
  let digits := Nat.toDigits 10 fraction
  let padded := List.replicate (places - digits.length) '0' ++ digits
  (padded.reverse.dropWhile (· = '0')).reverse

def inUnit (d : Duration) (places : Nat) (unit : String) : String :=
  let scale := 10 ^ places
  let fraction := d % scale
  toString (d / scale) ++
    (if fraction = 0 then "" else "." ++ String.ofList (fractionDigits places fraction)) ++ unit

def display (d : Duration) : String :=
  if 1000000000 ≤ d then d.inUnit 9 "s"
  else if 1000000 ≤ d then d.inUnit 6 "ms"
  else if 1000 ≤ d then d.inUnit 3 "µs"
  else d.inUnit 0 "ns"

example : display 0 = "0ns" ∧ display 1500000 = "1.5ms" ∧ display 60000000001 = "60.000000001s" := by
  decide +kernel

end Duration

-- A reading of the clock, in nanoseconds since it started.
abbrev Instant := Nat

namespace Instant

-- A clock has no reading for more seconds than this.
def maxSeconds : Nat := 0x7FFFFFFFFFFFFFFF

def after? (now : Instant) (d : Duration) : Option Instant :=
  if (now + d) / Duration.perSecond ≤ maxSeconds then some (now + d) else none

-- The clock has a reading for the time when so much more has passed.
def Reaches (now : Instant) (d : Duration) : Prop := (now + d) / Duration.perSecond ≤ maxSeconds

instance (now : Instant) (d : Duration) : Decidable (now.Reaches d) :=
  inferInstanceAs (Decidable ((now + d) / Duration.perSecond ≤ maxSeconds))

theorem after?_of_reaches {now : Instant} {d : Duration} (reaches : now.Reaches d) : now.after? d = some (now + d) :=
  if_pos reaches

theorem after?_eq_none {now : Instant} {d : Duration} : now.after? d = none ↔ ¬now.Reaches d := by
  unfold after? Reaches
  split
  · rename_i within
    exact ⟨nofun, fun beyond => absurd within beyond⟩
  · rename_i beyond
    exact ⟨fun _ => beyond, fun _ => rfl⟩

end Instant
end FramedRpc
