import FramedRpc.Bytes

namespace FramedRpc.Text.Utf8

def encode (s : String) : Bytes := s.toByteArray.data.toList

inductive Fault where
  -- `length` bytes from `index` on start no character.
  | invalid (length index : Nat)
  -- The bytes end inside the character that starts at `index`.
  | incomplete (index : Nat)
  deriving DecidableEq, Repr

def Fault.message : Fault → String
  | .invalid length index => s!"invalid utf-8 sequence of {length} bytes from index {index}"
  | .incomplete index => s!"incomplete utf-8 byte sequence from index {index}"

-- Inside a character: bytes still owed, the range of the next one, and bytes seen.
structure Pending where
  owed : Nat
  low : UInt8
  high : UInt8
  seen : Nat
  deriving DecidableEq, Repr

-- What the first byte of a longer character asks for; overlong forms and surrogates are excluded by
-- the range of the second byte.
def lead? (byte : UInt8) : Option Pending :=
  if 0xC2 ≤ byte ∧ byte ≤ 0xDF then some ⟨1, 0x80, 0xBF, 1⟩
  else if byte = 0xE0 then some ⟨2, 0xA0, 0xBF, 1⟩
  else if byte = 0xED then some ⟨2, 0x80, 0x9F, 1⟩
  else if 0xE1 ≤ byte ∧ byte ≤ 0xEF then some ⟨2, 0x80, 0xBF, 1⟩
  else if byte = 0xF0 then some ⟨3, 0x90, 0xBF, 1⟩
  else if 0xF1 ≤ byte ∧ byte ≤ 0xF3 then some ⟨3, 0x80, 0xBF, 1⟩
  else if byte = 0xF4 then some ⟨3, 0x80, 0x8F, 1⟩
  else none

def fault? (index : Nat) : Option Pending → Bytes → Option Fault
  | none, [] => none
  | some _, [] => some (.incomplete index)
  | none, byte :: rest =>
    if byte < 0x80 then fault? (index + 1) none rest
    else match lead? byte with
      | none => some (.invalid 1 index)
      | some p => fault? index (some p) rest
  | some p, byte :: rest =>
    if p.low ≤ byte ∧ byte ≤ p.high then
      if p.owed = 1 then fault? (index + p.seen + 1) none rest
      else fault? index (some ⟨p.owed - 1, 0x80, 0xBF, p.seen + 1⟩) rest
    else some (.invalid p.seen index)

def decode (bytes : Bytes) : Except Fault String :=
  match String.fromUTF8? bytes.toByteArray with
  | some s => .ok s
  | none => .error ((fault? 0 none bytes).getD (.incomplete 0))

theorem toByteArray_encode (s : String) : (encode s).toByteArray = s.toByteArray := by
  apply ByteArray.ext
  simp [encode]

theorem decode_encode (s : String) : decode (encode s) = .ok s := by
  simp only [decode, toByteArray_encode]
  simp [String.fromUTF8?, String.fromUTF8, s.isValidUTF8]

theorem decode_eq_ok_iff {bytes : Bytes} {s : String} : decode bytes = .ok s ↔ bytes = encode s := by
  constructor
  · intro h
    simp only [decode, String.fromUTF8?] at h
    split at h <;> rename_i valid <;> split at valid <;> cases valid <;> cases h
    simp [encode, String.fromUTF8]
  · rintro rfl
    exact decode_encode s

end FramedRpc.Text.Utf8
