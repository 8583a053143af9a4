import FramedRpc.Cli.Failure
import FramedRpc.Text.Blank
import FramedRpc.Text.Natural

namespace FramedRpc.Cli

def beforeEnding? (ending cs : List Char) : Option (List Char) :=
  if ending.isSuffixOf cs then some (cs.take (cs.length - ending.length)) else none

def parseTimeout (text : String) : Except Failure Duration :=
  let input := Text.trim text.toList
  if input = [] then .error ⟨.usage, "duration must not be empty"⟩
  else
    let (number, unit) :=
      match beforeEnding? ['m', 's'] input, beforeEnding? ['s'] input with
      | some number, _ => (number, Duration.millis)
      | none, some number => (number, Duration.seconds)
      | none, none => (input, Duration.seconds)
    match Text.natural? (UInt64.size - 1) number with
    | none => .error ⟨.usage, "invalid duration value: " ++ String.ofList input⟩
    | some 0 => .error ⟨.usage, "duration must be greater than zero"⟩
    | some n => .ok (unit n)

end FramedRpc.Cli
