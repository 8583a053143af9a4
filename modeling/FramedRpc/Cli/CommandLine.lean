import FramedRpc.Cli.Command

namespace FramedRpc.Cli

inductive Word where
  -- Two dashes alone: only positional parameters follow.
  | escape
  | long (name : String) (value : Option String)
  | short (letters : List Char)
  | plain
  deriving DecidableEq, Repr

def Word.of (text : String) : Word :=
  match text.toList with
  | ['-', '-'] => .escape
  | '-' :: '-' :: rest =>
    match rest.span (· ≠ '=') with
    | (name, []) => .long (String.ofList name) none
    | (name, _ :: value) => .long (String.ofList name) (some (String.ofList value))
  | ['-'] => .plain
  | '-' :: letters => .short letters
  | _ => .plain

-- How far the words of one level have been read.
structure Progress where
  options : List Parameter
  positionals : List Parameter
  given : Given
  -- The parameter said last and its value, if that has been said.
  pending : Option (Parameter × Option String)
  escaped : Bool

namespace Progress

def start (options positionals : List Parameter) : Progress :=
  ⟨options, positionals, .nothing, none, false⟩

def awaitsValue (s : Progress) : Bool :=
  match s.pending with
  | some (_, none) => !s.escaped
  | _ => false

-- A parameter may be said once.
def assign (s : Progress) (p : Parameter) (text : String) : Except Refusal Progress :=
  if (s.given p).isSome then .error .conflict
  else (p.read text).map fun value => { s with given := s.given.put p value }

def resolve (s : Progress) : Except Refusal Progress :=
  match s.pending with
  | none => .ok s
  | some (_, none) => .error .invalidValue
  | some (p, some text) => { s with pending := none }.assign p text

def raise (s : Progress) (p : Parameter) : Except Refusal Progress := do
  let s ← s.resolve
  match p with
  | .help => .error .helpWanted
  | .version => .error .versionWanted
  | p => s.assign p ""

def option (s : Progress) (p : Parameter) (value : Option String) : Except Refusal Progress := do
  let s ← s.resolve
  match value with
  | some text => s.assign p text
  | none => .ok { s with pending := some (p, none) }

def long (s : Progress) (name : String) (value : Option String) : Except Refusal Progress :=
  match s.options.find? fun p => p.name = name, value with
  | none, _ => .error .unknownArgument
  | some p, value =>
    if p.takesValue then s.option p value
    else if value.isSome then .error .unwantedValue
    else s.raise p

-- Letters behind one dash. What follows a letter that takes a value is the value, with or without a
-- sign of equality.
def short (s : Progress) : List Char → Except Refusal Progress
  | [] => .ok s
  | letter :: rest =>
    match s.options.find? fun p => p.letter? = some letter with
    | none => .error .unknownArgument
    | some p =>
      if p.takesValue then
        s.option p <| match rest with
          | [] => none
          | '=' :: value => some (String.ofList value)
          | value => some (String.ofList value)
      else do short (← s.raise p) rest

-- A word that is no option. Nothing is said about a value in front of it if it is one too many.
def positional (s : Progress) (text : String) : Except Refusal Progress :=
  match s.positionals with
  | [] => .error .unknownArgument
  | p :: rest => do return { ← s.resolve with pending := some (p, some text), positionals := rest }

def word (s : Progress) (text : String) : Except Refusal Progress :=
  if s.escaped then s.positional text
  else match Word.of text with
    | .escape => .ok { s with escaped := true }
    | .long name value => s.long name value
    | .short letters => s.short letters
    | .plain =>
      match s.pending with
      | some (p, none) => .ok { s with pending := some (p, some text) }
      | _ => s.positional text

def words (s : Progress) : List String → Except Refusal Progress
  | [] => s.resolve
  | text :: rest => do words (← s.word text) rest

end Progress

structure Invocation where
  format : Option OutputFormat
  command : Command
  deriving DecidableEq, Repr

namespace CommandLine

def start : Progress := .start (Verb.common ++ [.version]) []

def help : List String → Refusal
  | [] | ["help"] => .helpWanted
  | [name] => if (Verb.ofName? name).isSome then .helpWanted else .invalidSubcommand
  | _ => .invalidSubcommand

-- The words behind the one that names the command. Words in front of it that have not been looked at
-- come last.
def behind (before : Progress) (verb : Verb) (rest : List String) : Except Refusal Invocation := do
  let after ← (Progress.start verb.options verb.positionals).words rest
  let command ← verb.command after.given
  let before ← before.resolve
  return ⟨(after.given .format).or (before.given .format), command⟩

def ending (s : Progress) : Except Refusal Invocation := do
  let s ← s.resolve
  if (s.given .format).isSome || (s.given .logFormat).isSome || (s.given .logLevel).isSome then
    .error .missingSubcommand
  else .error .helpNeeded

def stray (escaped : Bool) (text : String) : Refusal :=
  if escaped && ((Verb.ofName? text).isSome || text = "help") then .unknownArgument else .invalidSubcommand

def readFrom (s : Progress) : List String → Except Refusal Invocation
  | [] => ending s
  | text :: rest =>
    if s.awaitsValue then do readFrom (← s.word text) rest
    else if s.escaped then .error (stray true text)
    else match Verb.ofName? text, Word.of text with
      | some verb, _ => behind s verb rest
      | none, .plain => .error (if text = "help" then help rest else stray false text)
      | none, _ => do readFrom (← s.word text) rest

def read (words : List String) : Except Refusal Invocation := readFrom start words

end CommandLine
end FramedRpc.Cli
