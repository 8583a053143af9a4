import FramedRpc.Bytes

namespace FramedRpc.Json

inductive Cause where
  | endInList
  | endInObject
  | endInString
  | endInValue
  | expectedColon
  | expectedListEnd
  | expectedObjectEnd
  | expectedWord
  | expectedValue
  | invalidEscape
  | invalidNumber
  | numberOutOfRange
  | controlCharacter
  | nameNotString
  | loneSurrogate
  | brokenPair
  | trailingComma
  | trailingCharacters
  | tooDeep
  deriving DecidableEq, Repr

def Cause.message : Cause → String
  | endInList => "EOF while parsing a list"
  | endInObject => "EOF while parsing an object"
  | endInString => "EOF while parsing a string"
  | endInValue => "EOF while parsing a value"
  | expectedColon => "expected `:`"
  | expectedListEnd => "expected `,` or `]`"
  | expectedObjectEnd => "expected `,` or `\x7d`"
  | expectedWord => "expected ident"
  | expectedValue => "expected value"
  | invalidEscape => "invalid escape"
  | invalidNumber => "invalid number"
  | numberOutOfRange => "number out of range"
  | controlCharacter => "control character (\\u0000-\\u001F) found while parsing a string"
  | nameNotString => "key must be a string"
  | loneSurrogate => "lone leading surrogate in hex escape"
  | brokenPair => "unexpected end of hex escape"
  | trailingComma => "trailing comma"
  | trailingCharacters => "trailing characters"
  | tooDeep => "recursion limit exceeded"

def byteLength (cs : List Char) : Nat := cs.foldl (fun n c => n + c.utf8Size) 0

theorem foldl_byteLength (cs : List Char) (n : Nat) :
    cs.foldl (fun n c => n + c.utf8Size) n = n + byteLength cs := by
  induction cs generalizing n with
  | nil => rfl
  | cons c cs ih =>
    show cs.foldl _ (n + c.utf8Size) = n + cs.foldl _ (0 + c.utf8Size)
    rw [ih, ih]
    omega

theorem byteLength_cons (c : Char) (cs : List Char) : byteLength (c :: cs) = c.utf8Size + byteLength cs := by
  show cs.foldl _ (0 + c.utf8Size) = _
  rw [foldl_byteLength]
  omega

theorem length_le_byteLength (cs : List Char) : cs.length ≤ byteLength cs := by
  induction cs with
  | nil => exact Nat.le_refl 0
  | cons c cs ih =>
    have := c.utf8Size_pos
    rw [List.length_cons, byteLength_cons]
    omega

structure Fault where
  cause : Cause
  -- Bytes of the text after the place of the fault.
  left : Nat
  deriving DecidableEq, Repr

-- A fault in front of the rest of the text.
def failAt {α : Type} (cause : Cause) (rest : List Char) : Except Fault (α × List Char) :=
  .error ⟨cause, byteLength rest⟩

def failPast {α : Type} (cause : Cause) (rest : List Char) : Except Fault (α × List Char) :=
  .error ⟨cause, byteLength rest - 1⟩

structure Place where
  line : Nat
  column : Nat
  deriving DecidableEq, Repr

def placeAfter (cs : List Char) (bytes : Nat) (place : Place) : Place :=
  match cs with
  | [] => { place with column := place.column + bytes }
  | c :: cs =>
    if bytes < c.utf8Size then { place with column := place.column + bytes }
    else placeAfter cs (bytes - c.utf8Size) (if c = '\n' then ⟨place.line + 1, 0⟩
      else { place with column := place.column + c.utf8Size })

def Fault.describe (text : List Char) (fault : Fault) : String :=
  let place := placeAfter text (byteLength text - fault.left) ⟨1, 0⟩
  s!"{fault.cause.message} at line {place.line} column {place.column}"

end FramedRpc.Json
