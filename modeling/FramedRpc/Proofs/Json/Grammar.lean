import FramedRpc.Json.Parser

namespace FramedRpc.Json

inductive Term where
  | null
  | bool (b : Bool)
  | integer (negative : Bool) (digits : List Char)
  -- A number with a fraction or an exponent, as it is written after its sign.
  | decimal (negative : Bool) (written : List Char)
  | string (s : String)
  | list (items : List Term)
  | object (members : List (String × Term))

def DigitRun (digits : List Char) : Prop := digits ≠ [] ∧ ∀ c ∈ digits, c.isDigit = true

def Whole (digits : List Char) : Prop := DigitRun digits ∧ (digits.head? = some '0' → digits = ['0'])

inductive Fraction : List Char → Prop where
  | none : Fraction []
  | some {digits : List Char} (run : DigitRun digits) : Fraction ('.' :: digits)

inductive Exponent : List Char → Prop where
  | none : Exponent []
  | some {mark : Char} {sign digits : List Char} (marked : mark = 'e' ∨ mark = 'E')
      (signed : sign = [] ∨ sign = ['+'] ∨ sign = ['-']) (run : DigitRun digits) :
      Exponent (mark :: (sign ++ digits))

inductive Numeral (negative : Bool) : Term → List Char → Prop where
  | integer {digits : List Char} (whole : Whole digits) : Numeral negative (.integer negative digits) digits
  | decimal {digits fraction exponent : List Char} (whole : Whole digits) (fractional : Fraction fraction)
      (exponential : Exponent exponent) (more : fraction ≠ [] ∨ exponent ≠ []) :
      Numeral negative (.decimal negative (digits ++ (fraction ++ exponent))) (digits ++ (fraction ++ exponent))

def letters : List (Char × Char) :=
  [('"', '"'), ('\\', '\\'), ('/', '/'), ('b', '\x08'), ('f', '\x0c'), ('n', '\n'), ('r', '\r'), ('t', '\t')]

inductive CodeUnit : Nat → List Char → Prop where
  | mk {a b c d : Char} {p q r s : Nat} (first : Text.hexValue? a = some p) (second : Text.hexValue? b = some q)
      (third : Text.hexValue? c = some r) (last : Text.hexValue? d = some s) :
      CodeUnit (((p * 16 + q) * 16 + r) * 16 + s) [a, b, c, d]

inductive Spelling : Char → List Char → Prop where
  | plain {c : Char} (quote : c ≠ '"') (backslash : c ≠ '\\') (visible : 0x20 ≤ c.toNat) : Spelling c [c]
  | letter {l c : Char} (known : (l, c) ∈ letters) : Spelling c ['\\', l]
  | unit {n : Nat} {digits : List Char} (unit : CodeUnit n digits) (high : isHigh n = false) (low : isLow n = false) :
      Spelling (Char.ofNat n) ('\\' :: 'u' :: digits)
  | pair {m n : Nat} {first second : List Char} (high : CodeUnit m first) (isHigh : isHigh m = true)
      (low : CodeUnit n second) (isLow : isLow n = true) :
      Spelling (Char.ofNat (0x10000 + (m - 0xD800) * 0x400 + (n - 0xDC00)))
        ('\\' :: 'u' :: (first ++ '\\' :: 'u' :: second))

inductive Quoted : List Char → List Char → Prop where
  | nil : Quoted [] []
  | cons {c : Char} {cs spelled more : List Char} (first : Spelling c spelled) (rest : Quoted cs more) :
      Quoted (c :: cs) (spelled ++ more)

inductive Blanks : List Char → List Char → Prop where
  | none (cs : List Char) : Blanks cs cs
  | more {c : Char} {cs rest : List Char} (space : isSpace c = true) (later : Blanks cs rest) : Blanks (c :: cs) rest

-- What stands in front of an element: a comma, except before the first one, and blanks.
inductive Gap : Bool → List Char → List Char → Prop where
  | first {cs rest : List Char} (blanks : Blanks cs rest) : Gap true cs rest
  | comma {cs middle rest : List Char} (before : Blanks cs (',' :: middle)) (after : Blanks middle rest) :
      Gap false cs rest

mutual

-- A text goes on with this, and then with the rest of it.
inductive Spells : Term → List Char → List Char → Prop where
  | null {rest : List Char} : Spells .null ('n' :: 'u' :: 'l' :: 'l' :: rest) rest
  | yes {rest : List Char} : Spells (.bool true) ('t' :: 'r' :: 'u' :: 'e' :: rest) rest
  | no {rest : List Char} : Spells (.bool false) ('f' :: 'a' :: 'l' :: 's' :: 'e' :: rest) rest
  | positive {w : Term} {written rest : List Char} (numeral : Numeral false w written) :
    Spells w (written ++ rest) rest
  | negative {w : Term} {written rest : List Char} (numeral : Numeral true w written) :
    Spells w ('-' :: (written ++ rest)) rest
  | string {s : String} {written rest : List Char} (quoted : Quoted s.toList written) :
    Spells (.string s) ('"' :: (written ++ '"' :: rest)) rest
  | list {items : List Term} {cs rest : List Char} (inside : Items true items cs rest) :
    Spells (.list items) ('[' :: cs) rest
  | object {members : List (String × Term)} {cs rest : List Char} (inside : Members true members cs rest) :
    Spells (.object members) ('\x7b' :: cs) rest

-- Elements from the first one or from a later one on, and the end of the list.
inductive Items : Bool → List Term → List Char → List Char → Prop where
  | close {first : Bool} {cs rest : List Char} (gap : Blanks cs (']' :: rest)) : Items first [] cs rest
  | item {first : Bool} {w : Term} {items : List Term} {cs start after rest : List Char} (gap : Gap first cs start)
    (item : Spells w start after) (later : Items false items after rest) : Items first (w :: items) cs rest

inductive Members : Bool → List (String × Term) → List Char → List Char → Prop where
  | close {first : Bool} {cs rest : List Char} (gap : Blanks cs ('\x7d' :: rest)) : Members first [] cs rest
  | member {first : Bool} {s : String} {w : Term} {members : List (String × Term)}
    {cs written middle next start after rest : List Char} (gap : Gap first cs ('"' :: (written ++ '"' :: middle)))
    (name : Quoted s.toList written) (colon : Blanks middle (':' :: next)) (blanks : Blanks next start)
    (item : Spells w start after) (later : Members false members after rest) :
    Members first ((s, w) :: members) cs rest

end

def Term.Text (w : Term) (text : String) : Prop :=
  ∃ start rest, Blanks text.toList start ∧ Spells w start rest ∧ Blanks rest []

end FramedRpc.Json
