import FramedRpc.Json.Numeral
import FramedRpc.Json.Quoted

namespace FramedRpc.Json

def isSpace (c : Char) : Bool := c = ' ' || c = '\n' || c = '\t' || c = '\r'

def skip (cs : List Char) : List Char := cs.dropWhile isSpace

def word (value : Tree) : (expected cs : List Char) → Except Fault (Tree × List Char)
  | [], cs => .ok (value, cs)
  | _ :: _, [] => failAt .endInValue []
  | e :: expected, c :: cs => if c = e then word value expected cs else failPast .expectedWord (c :: cs)

-- Elements and what closes the list. Every element takes a character, so as many steps as there are
-- characters are enough.
def items (element : List Char → Except Fault (Tree × List Char)) (first : Bool) :
    (steps : Nat) → List Char → Except Fault (List Tree × List Char)
  | 0, _ => failAt .endInList []
  | steps + 1, cs =>
    let next (cs : List Char) : Except Fault (List Tree × List Char) := do
      let (value, rest) ← element cs
      let (values, rest) ← items element false steps rest
      return (value :: values, rest)
    match skip cs with
    | [] => failAt .endInList []
    | ']' :: rest => .ok ([], rest)
    | c :: rest =>
      if first then next (c :: rest)
      else if c = ',' then
        match skip rest with
        | [] => failAt .endInValue []
        | ']' :: rest => failPast .trailingComma (']' :: rest)
        | rest => next rest
      else failPast .expectedListEnd (c :: rest)

def colon (cs : List Char) : Except Fault (Unit × List Char) :=
  match skip cs with
  | [] => failAt .endInObject []
  | ':' :: rest => .ok ((), rest)
  | rest => failPast .expectedColon rest

def members (element : List Char → Except Fault (Tree × List Char)) (first : Bool) :
    (steps : Nat) → List Char → Except Fault (List (String × Tree) × List Char)
  | 0, _ => failAt .endInObject []
  | steps + 1, cs =>
    let next (cs : List Char) : Except Fault (List (String × Tree) × List Char) := do
      let (name, rest) ← string cs
      let ((), rest) ← colon rest
      let (value, rest) ← element rest
      let (values, rest) ← members element false steps rest
      return ((name, value) :: values, rest)
    match skip cs with
    | [] => failAt .endInObject []
    | '\x7d' :: rest => .ok ([], rest)
    | c :: rest =>
      if first then
        if c = '"' then next rest else failPast .nameNotString (c :: rest)
      else if c = ',' then
        match skip rest with
        | [] => failAt .endInValue []
        | '"' :: rest => next rest
        | '\x7d' :: rest => failPast .trailingComma ('\x7d' :: rest)
        | rest => failPast .nameNotString rest
      else failPast .expectedObjectEnd (c :: rest)

-- A value with at most so many containers inside one another.
def value (depth : Nat) (cs : List Char) : Except Fault (Tree × List Char) :=
  match skip cs with
  | [] => failAt .endInValue []
  | 'n' :: rest => word .null ['u', 'l', 'l'] rest
  | 't' :: rest => word (.bool true) ['r', 'u', 'e'] rest
  | 'f' :: rest => word (.bool false) ['a', 'l', 's', 'e'] rest
  | '"' :: rest => do
    let (s, rest) ← string rest
    return (.string s, rest)
  | '[' :: rest =>
    match depth with
    | 0 => failPast .tooDeep ('[' :: rest)
    | depth + 1 => do
      let (values, rest) ← items (value depth) true (rest.length + 1) rest
      return (.list values, rest)
  | '\x7b' :: rest =>
    match depth with
    | 0 => failPast .tooDeep ('\x7b' :: rest)
    | depth + 1 => do
      let (values, rest) ← members (value depth) true (rest.length + 1) rest
      return (.ofMembers values, rest)
  | c :: rest =>
    if c = '-' then do
      let (n, rest) ← number true rest
      return (.number n, rest)
    else if c.isDigit then do
      let (n, rest) ← number false (c :: rest)
      return (.number n, rest)
    else failPast .expectedValue (c :: rest)

def maxDepth : Nat := 127

def read (cs : List Char) : Except Fault Tree := do
  let (v, rest) ← value maxDepth cs
  match skip rest with
  | [] => return v
  | rest => (failPast .trailingCharacters rest : Except Fault (Unit × List Char)).map fun _ => v

def parse (text : String) : Except String Tree :=
  let cs := text.toList
  (read cs).mapError (Fault.describe cs)

end FramedRpc.Json
