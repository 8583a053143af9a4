import FramedRpc.Power

namespace FramedRpc

abbrev Bytes := List UInt8

namespace Bytes

def bigEndian : Nat → Nat → Bytes
  | 0, _ => []
  | width + 1, n => UInt8.ofNat (n / 256 ^ width) :: bigEndian width n

def ofBigEndian (bytes : Bytes) : Nat :=
  bytes.foldl (fun n byte => n * 256 + byte.toNat) 0

def littleEndian : Nat → Nat → Bytes
  | 0, _ => []
  | width + 1, n => UInt8.ofNat n :: littleEndian width (n / 256)

def ofLittleEndian : Bytes → Nat
  | [] => 0
  | byte :: rest => byte.toNat + 256 * ofLittleEndian rest

@[simp] theorem length_bigEndian (width n : Nat) : (bigEndian width n).length = width := by
  induction width with
  | zero => rfl
  | succ width ih => simp [bigEndian, ih]

@[simp] theorem length_littleEndian (width n : Nat) : (littleEndian width n).length = width := by
  induction width generalizing n with
  | zero => rfl
  | succ width ih => simp [littleEndian, ih]

theorem ofLittleEndian_littleEndian (width n : Nat) :
    ofLittleEndian (littleEndian width n) = n % 256 ^ width := by
  induction width generalizing n with
  | zero => simp [littleEndian, ofLittleEndian, Nat.mod_one]
  | succ width ih =>
    simp only [littleEndian, ofLittleEndian, ih, UInt8.toNat_ofNat']
    rw [Nat.pow_succ 256, Nat.mul_comm (256 ^ width) 256, Nat.mod_mul]

-- Reading is a fold, so a start value counts as the digits in front.
theorem foldl_bigEndian (width n start : Nat) :
    (bigEndian width n).foldl (fun n byte => n * 256 + byte.toNat) start =
      start * 256 ^ width + n % 256 ^ width := by
  induction width generalizing start with
  | zero => simp [bigEndian, Nat.mod_one]
  | succ width ih =>
    simp only [bigEndian, List.foldl_cons, ih, UInt8.toNat_ofNat']
    have digits : n % 256 ^ (width + 1) = n % 256 ^ width + 256 ^ width * (n / 256 ^ width % 256) := by
      rw [Nat.pow_succ, Nat.mod_mul]
    rw [digits, Nat.pow_succ 256, Nat.add_mul, Nat.mul_assoc, Nat.mul_comm 256 (256 ^ width)]
    have : n / 256 ^ width % 2 ^ 8 * 256 ^ width = 256 ^ width * (n / 256 ^ width % 256) :=
      Nat.mul_comm _ _
    omega

theorem ofBigEndian_bigEndian (width n : Nat) :
    ofBigEndian (bigEndian width n) = n % 256 ^ width := by
  simp [ofBigEndian, foldl_bigEndian]

theorem foldl_lt (bytes : Bytes) (start : Nat) :
    bytes.foldl (fun n byte => n * 256 + byte.toNat) start < (start + 1) * 256 ^ bytes.length := by
  induction bytes generalizing start with
  | nil => simp
  | cons byte rest ih =>
    have low := byte.toNat_lt
    have room : start * 256 + byte.toNat + 1 ≤ (start + 1) * 256 := by omega
    calc
      _ < (start * 256 + byte.toNat + 1) * 256 ^ rest.length := ih (start * 256 + byte.toNat)
      _ ≤ (start + 1) * 256 * 256 ^ rest.length := Nat.mul_le_mul_right _ room
      _ = (start + 1) * 256 ^ (rest.length + 1) := by
        rw [Nat.pow_succ 256, Nat.mul_assoc, Nat.mul_comm 256]

theorem ofBigEndian_lt (bytes : Bytes) : ofBigEndian bytes < 256 ^ bytes.length := by
  simpa [ofBigEndian] using foldl_lt bytes 0

-- Cuts into pieces of so many bytes, the last of which may be shorter. A size of zero cuts nothing.
def pieces (size : Nat) (bytes : Bytes) : List Bytes :=
  if size = 0 then [bytes]
  else
    match _h : bytes.drop size with
    | [] => [bytes]
    | byte :: rest => bytes.take size :: pieces size (byte :: rest)
termination_by bytes.length
decreasing_by
  have := congrArg List.length _h
  simp only [List.length_drop, List.length_cons] at this ⊢
  omega

theorem flatten_pieces (size : Nat) (bytes : Bytes) : (pieces size bytes).flatten = bytes := by
  fun_induction pieces size bytes with
  | case1 => simp
  | case2 => simp
  | case3 bytes _ byte rest cut ih => rw [List.flatten_cons, ih, ← cut, List.take_append_drop]

end Bytes
end FramedRpc
