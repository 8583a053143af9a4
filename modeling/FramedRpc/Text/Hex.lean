import FramedRpc.Bytes

namespace FramedRpc.Text

def hexDigit (n : Nat) : Char :=
  if n % 16 < 10 then Char.ofNat (48 + n % 16) else Char.ofNat (87 + n % 16)

def hexValue? (c : Char) : Option Nat :=
  if '0' ≤ c ∧ c ≤ '9' then some (c.toNat - 48)
  else if 'a' ≤ c ∧ c ≤ 'f' then some (c.toNat - 87)
  else if 'A' ≤ c ∧ c ≤ 'F' then some (c.toNat - 55)
  else none

def hexDigits : Nat → Nat → List Char
  | 0, _ => []
  | width + 1, n => hexDigit (n / 16 ^ width) :: hexDigits width n

def hexNumber (n : Nat) : String :=
  String.ofList (hexDigits (if n = 0 then 1 else Nat.log2 n / 4 + 1) n)

def hexPadded (width n : Nat) : String := String.ofList (hexDigits width n)

def hexChars (bytes : Bytes) : List Char :=
  bytes.flatMap fun byte => [hexDigit (byte.toNat / 16), hexDigit byte.toNat]

def hex (bytes : Bytes) : String := String.ofList (hexChars bytes)

inductive HexFault where
  | oddCount
  | notADigit (c : Char) (position : Nat)
  deriving DecidableEq, Repr

def hexPairs : Nat → List Char → Except HexFault Bytes
  | _, [] => .ok []
  | _, [_] => .error .oddCount
  | position, high :: low :: rest =>
    match hexValue? high, hexValue? low with
    | none, _ => .error (.notADigit high position)
    | some _, none => .error (.notADigit low (position + 1))
    | some h, some l => do return UInt8.ofNat (16 * h + l) :: (← hexPairs (position + 2) rest)

def ofHex (digits : List Char) : Except HexFault Bytes :=
  if digits.length % 2 = 1 then .error .oddCount else hexPairs 0 digits

theorem hexValue_hexDigit (n : Nat) : hexValue? (hexDigit n) = some (n % 16) := by
  have : ∀ d < 16, hexValue? (hexDigit d) = some d := by decide
  have step : hexDigit n = hexDigit (n % 16) := by simp [hexDigit]
  rw [step, this _ (Nat.mod_lt _ (by omega))]

theorem hexPairs_hexChars (position : Nat) (bytes : Bytes) : hexPairs position (hexChars bytes) = .ok bytes := by
  induction bytes generalizing position with
  | nil => rfl
  | cons byte rest ih =>
    have whole : 16 * (byte.toNat / 16 % 16) + byte.toNat % 16 = byte.toNat := by
      have := byte.toNat_lt
      omega
    show hexPairs position (hexDigit (byte.toNat / 16) :: hexDigit byte.toNat :: hexChars rest) = _
    simp only [hexPairs, hexValue_hexDigit, ih, whole, UInt8.ofNat_toNat]
    rfl

theorem length_hexChars (bytes : Bytes) : (hexChars bytes).length = 2 * bytes.length := by
  induction bytes with
  | nil => rfl
  | cons byte rest ih =>
    show (hexChars rest).length + 2 = _
    rw [ih, List.length_cons]
    omega

theorem ofHex_hexChars (bytes : Bytes) : ofHex (hexChars bytes) = .ok bytes := by
  have even : ¬(hexChars bytes).length % 2 = 1 := by
    rw [length_hexChars]
    omega
  rw [ofHex, if_neg even, hexPairs_hexChars]

end FramedRpc.Text
