import FramedRpc.Cli.Report
import FramedRpc.Frame.Packet
import FramedRpc.Text.Natural

namespace FramedRpc.Cli

inductive Refusal where
  | unknownArgument
  | missingArgument
  | missingSubcommand
  | invalidSubcommand
  -- No value, or none of those that there are.
  | invalidValue
  | unreadableValue
  | unwantedValue
  -- Said twice, or together with what excludes it.
  | conflict
  | helpWanted
  | helpNeeded
  | versionWanted
  deriving DecidableEq, Repr

-- Only who asks for a text gets it without a failure.
def Refusal.exitCode : Refusal → Nat
  | helpWanted | versionWanted => 0
  | _ => 2

def Refusal.message : Refusal → String
  | unknownArgument => "error: unexpected argument found"
  | missingArgument => "error: a required argument was not provided"
  | missingSubcommand => "error: a subcommand is required"
  | invalidSubcommand => "error: unrecognized subcommand"
  | invalidValue => "error: an argument lacks a value or has none of the possible ones"
  | unreadableValue => "error: the value of an argument cannot be read"
  | unwantedValue => "error: an argument that takes no value has one"
  | conflict => "error: an argument cannot be used twice or with another one"
  | helpWanted | helpNeeded =>
    "Usage: packrpc [--format FORMAT] [--log-format FORMAT] [--log-level LEVEL] COMMAND"
  | versionWanted => "packrpc 0.1.0"

inductive LogFormat where
  | text
  | json
  deriving DecidableEq, Repr

inductive LogLevel where
  | error
  | warn
  | info
  | debug
  | trace
  deriving DecidableEq, Repr

inductive Parameter where
  | format
  | logFormat
  | logLevel
  | help
  | version
  | path
  | maxContent
  | maxConnections
  | typeId
  | args
  | noWait
  | timeout
  | requestId
  | response
  | hex
  | file
  | chunk
  | extended
  deriving DecidableEq, Repr

namespace Parameter

abbrev Value : Parameter → Type
  | format => OutputFormat
  | logFormat => LogFormat
  | logLevel => LogLevel
  | path | args | timeout | hex | file => String
  | maxContent | maxConnections | typeId | requestId | chunk => Nat
  | help | version | noWait | response | extended => Unit

def name : Parameter → String
  | format => "format"
  | logFormat => "log-format"
  | logLevel => "log-level"
  | help => "help"
  | version => "version"
  | path => "path"
  | maxContent => "max-content"
  | maxConnections => "max-connections"
  | typeId => "type-id"
  | args => "args"
  | noWait => "no-wait"
  | timeout => "timeout"
  | requestId => "request-id"
  | response => "response"
  | hex => "hex"
  | file => "file"
  | chunk => "chunk"
  | extended => "extended"

def letter? : Parameter → Option Char
  | help => some 'h'
  | version => some 'V'
  | typeId => some 't'
  | _ => none

def takesValue : Parameter → Bool
  | help | version | noWait | response | extended => false
  | _ => true

def outputFormat? : String → Option OutputFormat
  | "json" => some .json
  | "table" => some .table
  | "pretty" => some .pretty
  | "raw" => some .raw
  | _ => none

def logFormat? : String → Option LogFormat
  | "text" => some .text
  | "json" => some .json
  | _ => none

def logLevel? : String → Option LogLevel
  | "error" => some .error
  | "warn" => some .warn
  | "info" => some .info
  | "debug" => some .debug
  | "trace" => some .trace
  | _ => none

def orElse {α : Type} (why : Refusal) : Option α → Except Refusal α
  | some a => .ok a
  | none => .error why

def choice {α : Type} (a : Option α) : Except Refusal α := orElse .invalidValue a

def filePath (text : String) : Except Refusal String :=
  if text.isEmpty then .error .invalidValue else .ok text

def small (max : Nat) (text : String) : Except Refusal Nat :=
  orElse .unreadableValue (Text.signed? max text.toList)

def large (text : String) : Except Refusal Nat :=
  orElse .unreadableValue (Text.natural? (UInt64.size - 1) text.toList)

def read : (p : Parameter) → String → Except Refusal p.Value
  | format, text => choice (outputFormat? text)
  | logFormat, text => choice (logFormat? text)
  | logLevel, text => choice (logLevel? text)
  | path, text | file, text => filePath text
  | args, text | timeout, text | hex, text => .ok text
  | typeId, text => small (UInt16.size - 1) text
  | requestId, text => small (UInt32.size - 1) text
  | maxContent, text | maxConnections, text | chunk, text => large text
  | help, _ | version, _ | noWait, _ | response, _ | extended, _ => .ok ()

end Parameter

abbrev Given := (p : Parameter) → Option p.Value

namespace Given

def nothing : Given := fun _ => none

def put (given : Given) (p : Parameter) (value : p.Value) : Given :=
  fun q => if h : p = q then some (h ▸ value) else given q

end Given
end FramedRpc.Cli
