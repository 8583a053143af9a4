import FramedRpc.Cli.Failure
import FramedRpc.Json.Parser
import FramedRpc.Json.Value

namespace FramedRpc.Cli

def parseArguments (text : String) : Except Failure Value := do
  let tree ← (Json.parse text).mapError fun fault => ⟨.usage, "--args is not valid JSON: " ++ fault⟩
  let v ← (Value.ofJson tree).mapError fun e =>
    ⟨.usage, s!"integer {e.n.toNat} does not fit in a signed 64-bit value"⟩
  if v.isContainer || v.isNull then return v
  else .error ⟨.usage, "--args must be a JSON array, object or null, got " ++ v.kind⟩

end FramedRpc.Cli
