import FramedRpc.Json.Fault
import FramedRpc.Text.Hex

namespace FramedRpc.Json

-- Quotes, backslashes and control characters are escaped, the latter by a letter where there is one.
def escaped (c : Char) : List Char :=
  match c with
  | '"' => ['\\', '"']
  | '\\' => ['\\', '\\']
  | '\x08' => ['\\', 'b']
  | '\x0c' => ['\\', 'f']
  | '\n' => ['\\', 'n']
  | '\r' => ['\\', 'r']
  | '\t' => ['\\', 't']
  | c => if c.toNat < 0x20 then '\\' :: 'u' :: Text.hexDigits 4 c.toNat else [c]

def quoted (s : String) : String := String.ofList ('"' :: (s.toList.flatMap escaped ++ ['"']))

def hexUnit (cs : List Char) : Except Fault (Nat × List Char) :=
  if byteLength cs < 4 then failAt .endInString []
  else
    let bad : Except Fault (Nat × List Char) := .error ⟨.invalidEscape, byteLength cs - 4⟩
    match cs with
    | a :: b :: c :: d :: rest =>
      match Text.hexValue? a, Text.hexValue? b, Text.hexValue? c, Text.hexValue? d with
      | some a, some b, some c, some d => .ok (((a * 16 + b) * 16 + c) * 16 + d, rest)
      | _, _, _, _ => bad
    | _ => bad

def isLow (unit : Nat) : Bool := 0xDC00 ≤ unit && unit ≤ 0xDFFF

def isHigh (unit : Nat) : Bool := 0xD800 ≤ unit && unit ≤ 0xDBFF

def lowHalf (high : Nat) (cs : List Char) : Except Fault (Char × List Char) :=
  match cs with
  | [] | ['\\'] => failAt .endInString []
  | '\\' :: 'u' :: rest => do
    let (low, rest) ← hexUnit rest
    if isLow low then
      return (Char.ofNat (0x10000 + (high - 0xD800) * 0x400 + (low - 0xDC00)), rest)
    else failAt .loneSurrogate rest
  | '\\' :: rest => failPast .brokenPair rest
  | _ => failPast .brokenPair cs

def unicodeEscape (cs : List Char) : Except Fault (Char × List Char) := do
  let (unit, rest) ← hexUnit cs
  if isLow unit then failAt .loneSurrogate rest
  else if isHigh unit then lowHalf unit rest
  else return (Char.ofNat unit, rest)

def escape (cs : List Char) : Except Fault (Char × List Char) :=
  match cs with
  | [] => failAt .endInString []
  | '"' :: rest => .ok ('"', rest)
  | '\\' :: rest => .ok ('\\', rest)
  | '/' :: rest => .ok ('/', rest)
  | 'b' :: rest => .ok ('\x08', rest)
  | 'f' :: rest => .ok ('\x0c', rest)
  | 'n' :: rest => .ok ('\n', rest)
  | 'r' :: rest => .ok ('\r', rest)
  | 't' :: rest => .ok ('\t', rest)
  | 'u' :: rest => unicodeEscape rest
  | _ => failPast .invalidEscape cs

-- The characters up to the closing quote, newest first. Every character of the text is looked at at most
-- once, so as many steps as there are characters are enough.
def stringBody (newest : List Char) : (steps : Nat) → List Char → Except Fault (List Char × List Char)
  | 0, _ | _ + 1, [] => failAt .endInString []
  | steps + 1, c :: cs =>
    if c = '"' then .ok (newest, cs)
    else if c = '\\' then do
      let (escaped, rest) ← escape cs
      stringBody (escaped :: newest) steps rest
    else if c.toNat < 0x20 then failAt .controlCharacter cs
    else stringBody (c :: newest) steps cs

def string (cs : List Char) : Except Fault (String × List Char) := do
  let (newest, rest) ← stringBody [] (cs.length + 1) cs
  return (String.ofList newest.reverse, rest)

theorem hexUnit_hexDigits (n : Nat) (small : n < 0x10000) (rest : List Char) :
    hexUnit (Text.hexDigits 4 n ++ rest) = .ok (n, rest) := by
  have enough : ¬byteLength (Text.hexDigits 4 n ++ rest) < 4 := by
    have := length_le_byteLength (Text.hexDigits 4 n ++ rest)
    simp only [Text.hexDigits, List.cons_append, List.nil_append, List.length_cons] at this
    simp only [Text.hexDigits, List.cons_append, List.nil_append]
    omega
  rw [hexUnit, if_neg enough]
  simp only [Text.hexDigits, List.cons_append, List.nil_append, Text.hexValue_hexDigit]
  congr 2
  omega

theorem stringBody_escaped (newest : List Char) (steps : Nat) (c : Char) (rest : List Char) :
    stringBody newest (steps + 1) (escaped c ++ rest) = stringBody (c :: newest) steps rest := by
  unfold escaped
  split
  iterate 7 rfl
  next quote backslash _ _ _ _ _ =>
    split
    next control =>
      have unit : hexUnit (Text.hexDigits 4 c.toNat ++ rest) = .ok (c.toNat, rest) :=
        hexUnit_hexDigits c.toNat (by omega) rest
      have low : isLow c.toNat = false := by simp [isLow]; omega
      have high : isHigh c.toNat = false := by simp [isHigh]; omega
      have read : escape ('u' :: (Text.hexDigits 4 c.toNat ++ rest)) = .ok (c, rest) := by
        show unicodeEscape _ = _
        rw [unicodeEscape, unit]
        simp [bind, Except.bind, low, high, pure, Except.pure, Char.ofNat_toNat]
      show (do
        let (e, rest) ← escape ('u' :: (Text.hexDigits 4 c.toNat ++ rest))
        stringBody (e :: newest) steps rest) = _
      rw [read]
      rfl
    next plain =>
      rw [List.cons_append, List.nil_append, stringBody, if_neg quote, if_neg backslash, if_neg plain]

theorem string_quoted (s : String) (rest : List Char) :
    string (s.toList.flatMap escaped ++ '"' :: rest) = .ok (s, rest) := by
  have body : ∀ (cs newest : List Char) (steps : Nat), cs.length < steps →
      stringBody newest steps (cs.flatMap escaped ++ '"' :: rest) = .ok (cs.reverse ++ newest, rest) := by
    intro cs
    induction cs with
    | nil =>
      intro newest steps enough
      cases steps with
      | zero => omega
      | succ steps => rfl
    | cons c cs ih =>
      intro newest steps enough
      cases steps with
      | zero => omega
      | succ steps =>
        rw [List.flatMap_cons, List.append_assoc, stringBody_escaped, ih _ _ (by simpa using enough)]
        simp
  have enough : s.toList.length < (s.toList.flatMap escaped ++ '"' :: rest).length + 1 := by
    have each : ∀ cs : List Char, cs.length ≤ (cs.flatMap escaped).length := by
      intro cs
      induction cs with
      | nil => exact Nat.le_refl 0
      | cons c cs ih =>
        have some : 1 ≤ (escaped c).length := by
          unfold escaped
          split <;> try simp
          split <;> simp
        rw [List.flatMap_cons, List.length_append, List.length_cons]
        omega
    have := each s.toList
    rw [List.length_append]
    omega
  rw [string, body s.toList [] _ enough]
  simp [bind, Except.bind, pure, Except.pure]

end FramedRpc.Json
