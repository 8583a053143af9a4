import FramedRpc.Json.Decimal
import FramedRpc.Json.Fault

namespace FramedRpc.Json

structure Digits where
  significand : Nat
  absorbed : Nat
  -- Digits after the first one that did not fit, that one included.
  dropped : Nat

def maxSignificand : Nat := 0xFFFFFFFFFFFFFFFF

-- A run of digits, of which as many are kept as fit.
def digits (significand : Nat) : List Char → Digits × List Char
  | [] => (⟨significand, 0, 0⟩, [])
  | c :: cs =>
    if c.isDigit then
      let next := 10 * significand + (c.toNat - 48)
      if next ≤ maxSignificand then
        let (run, rest) := digits next cs
        ({ run with absorbed := run.absorbed + 1 }, rest)
      else
        (⟨significand, 0, ((c :: cs).takeWhile Char.isDigit).length⟩, cs.dropWhile Char.isDigit)
    else (⟨significand, 0, 0⟩, c :: cs)

def maxExponent : Nat := 0x7FFFFFFF

-- The digits of an exponent, as far as they do not exceed the largest one; also says whether they do.
def exponentDigits (value : Nat) : List Char → Nat × Bool × List Char
  | [] => (value, false, [])
  | c :: cs =>
    if c.isDigit then
      let next := 10 * value + (c.toNat - 48)
      if next ≤ maxExponent then exponentDigits next cs else (value, true, cs)
    else (value, false, c :: cs)

def real (negative : Bool) (significand : Nat) (exponent : Int) (rest : List Char) :
    Except Fault (Number × List Char) :=
  match real? negative significand exponent with
  | some n => .ok (n, rest)
  | none => failAt .numberOutOfRange rest

def exponentPart (negative : Bool) (significand : Nat) (start : Int) (cs : List Char) :
    Except Fault (Number × List Char) :=
  let (down, cs) :=
    match cs with
    | '+' :: rest => (false, rest)
    | '-' :: rest => (true, rest)
    | _ => (false, cs)
  match cs with
  | [] => failAt .endInValue []
  | c :: rest =>
    if c.isDigit then
      match exponentDigits (c.toNat - 48) rest with
      | (value, false, rest) =>
        let exponent := if down then start - value else start + value
        real negative significand (max (-(maxExponent : Int) - 1) (min exponent maxExponent)) rest
      | (_, true, rest) =>
        if significand ≠ 0 ∧ !down then failAt .numberOutOfRange rest
        else real negative 0 0 (rest.dropWhile Char.isDigit)
    else failPast .invalidNumber cs

def fractionPart (negative : Bool) (significand : Nat) (start : Int) (cs : List Char) :
    Except Fault (Number × List Char) :=
  let (run, rest) := digits significand cs
  if run.absorbed = 0 ∧ run.dropped = 0 then
    if rest = [] then failAt .endInValue [] else failPast .invalidNumber rest
  else
    let exponent := start - run.absorbed
    match rest with
    | c :: more =>
      if c = 'e' ∨ c = 'E' then exponentPart negative run.significand exponent more
      else real negative run.significand exponent rest
    | [] => real negative run.significand exponent []

-- An integer without fraction and exponent. A negative zero is a double.
def integer (negative : Bool) (magnitude : Nat) (rest : List Char) : Except Fault (Number × List Char) :=
  if negative then
    if 0 < magnitude ∧ magnitude ≤ 0x8000000000000000 then .ok (.integer (Int64.ofInt (-magnitude)), rest)
    else real true magnitude 0 rest
  else if magnitude < 0x8000000000000000 then .ok (.integer (Int64.ofInt magnitude), rest)
  else .ok (.large (UInt64.ofNat magnitude), rest)

def afterWhole (negative : Bool) (run : Digits) (cs : List Char) : Except Fault (Number × List Char) :=
  match cs with
  | '.' :: rest => fractionPart negative run.significand run.dropped rest
  | 'e' :: rest | 'E' :: rest => exponentPart negative run.significand run.dropped rest
  | _ =>
    if run.dropped = 0 then integer negative run.significand cs
    else real negative run.significand run.dropped cs

-- A number after its sign. A zero in front is followed by no digit.
def number (negative : Bool) (cs : List Char) : Except Fault (Number × List Char) :=
  match cs with
  | [] => failAt .endInValue []
  | '0' :: rest =>
    match rest with
    | c :: _ => if c.isDigit then failPast .invalidNumber rest else afterWhole negative ⟨0, 1, 0⟩ rest
    | [] => afterWhole negative ⟨0, 1, 0⟩ []
  | c :: _ =>
    if c.isDigit then
      let (run, rest) := digits 0 cs
      afterWhole negative run rest
    else failPast .invalidNumber cs

end FramedRpc.Json
