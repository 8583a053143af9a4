import FramedRpc.Cli.Parameter

namespace FramedRpc.Cli

structure ServeRequest where
  path : String
  limit : Nat
  maxConnections : Option Nat
  deriving DecidableEq, Repr

structure CallRequest where
  path : String
  typeId : Nat
  args : String
  noWait : Bool
  timeout : String
  deriving DecidableEq, Repr

structure EncodeRequest where
  typeId : Nat
  requestId : Nat
  isResponse : Bool
  args : String
  deriving DecidableEq, Repr

inductive FrameSource where
  | hex (text : String)
  | file (path : String)
  | standardInput
  deriving DecidableEq, Repr

structure DecodeRequest where
  source : FrameSource
  -- Zero takes everything at once.
  chunk : Nat
  limit : Nat
  deriving DecidableEq, Repr

inductive Command where
  | serve (request : ServeRequest)
  | call (request : CallRequest)
  | encode (request : EncodeRequest)
  | decode (request : DecodeRequest)
  | version (extended : Bool)
  deriving DecidableEq, Repr

inductive Verb where
  | serve
  | call
  | encode
  | decode
  | version
  deriving DecidableEq, Repr

namespace Verb

def ofName? : String → Option Verb
  | "serve" => some serve
  | "call" => some call
  | "encode" => some encode
  | "decode" => some decode
  | "version" => some version
  | _ => none

def common : List Parameter := [.format, .logFormat, .logLevel, .help]

def options : Verb → List Parameter
  | serve => common ++ [.maxContent, .maxConnections]
  | call => common ++ [.typeId, .args, .noWait, .timeout]
  | encode => common ++ [.requestId, .response, .args]
  | decode => common ++ [.file, .chunk, .maxContent]
  | version => common ++ [.extended]

def positionals : Verb → List Parameter
  | serve | call => [.path]
  | encode => [.typeId]
  | decode => [.hex]
  | version => []

-- The command that is meant, if nothing is missing and nothing excludes something else.
def command (verb : Verb) (given : Given) : Except Refusal Command := do
  let must (p : Parameter) : Except Refusal p.Value := Parameter.orElse .missingArgument (given p)
  let limit := (given .maxContent).getD Frame.defaultLimit
  let args := (given .args).getD "[]"
  match verb with
  | serve => return .serve ⟨← must .path, limit, given .maxConnections⟩
  | call =>
    return .call ⟨← must .path, ← must .typeId, args, (given .noWait).isSome, (given .timeout).getD "5s"⟩
  | encode =>
    return .encode ⟨← must .typeId, (given .requestId).getD 0, (given .response).isSome, args⟩
  | decode =>
    let source : FrameSource ←
      match given .hex, given .file with
      | some _, some _ => .error .conflict
      | some text, none => .ok (.hex text)
      | none, some path => .ok (.file path)
      | none, none => .ok .standardInput
    return .decode ⟨source, (given .chunk).getD 0, limit⟩
  | version => return .version (given .extended).isSome

end Verb
end FramedRpc.Cli
