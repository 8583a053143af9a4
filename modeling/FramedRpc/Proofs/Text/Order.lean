import Mathlib.Data.String.Basic
import FramedRpc.Text.Utf8

namespace FramedRpc.Text.Utf8

def digits : Nat → Nat → Bytes
  | 0, _ => []
  | width + 1, n => UInt8.ofNat (n / 64 ^ width % 64 + 128) :: digits width n

theorem lt_of_first {m n : Nat} (small : n < 256) (less : m < n) (x y : Bytes) :
    UInt8.ofNat m :: x < UInt8.ofNat n :: y := by
  refine List.cons_lt_cons_iff.mpr (.inl ?_)
  rw [UInt8.lt_iff_toNat_lt, UInt8.toNat_ofNat', UInt8.toNat_ofNat']
  omega

theorem lt_of_rest {m n : Nat} (same : m = n) {x y : Bytes} (less : x < y) :
    UInt8.ofNat m :: x < UInt8.ofNat n :: y :=
  List.cons_lt_cons_iff.mpr (.inr ⟨congrArg _ same, less⟩)

theorem digits_lt {width m n : Nat} (less : m % 64 ^ width < n % 64 ^ width) (x y : Bytes) :
    digits width m ++ x < digits width n ++ y := by
  induction width with
  | zero => simp [Nat.mod_one] at less
  | succ width ih =>
    have split (k : Nat) : k % 64 ^ (width + 1) = k % 64 ^ width + 64 ^ width * (k / 64 ^ width % 64) := by
      rw [Nat.pow_succ, Nat.mod_mul]
    have first (k : Nat) : k / 64 ^ width % 64 < 64 := Nat.mod_lt _ (by decide)
    have rest (k : Nat) : k % 64 ^ width < 64 ^ width := Nat.mod_lt _ (Nat.pow_pos (by decide))
    rw [split, split] at less
    rcases Nat.lt_trichotomy (m / 64 ^ width % 64) (n / 64 ^ width % 64) with below | same | above
    · exact lt_of_first (by have := first n; omega) (by omega) _ _
    · rw [same] at less
      exact lt_of_rest (by omega) (ih (by omega))
    · have step := Nat.mul_le_mul_left (64 ^ width) (Nat.succ_le_of_lt above)
      have low := rest n
      rw [Nat.mul_succ] at step
      omega

-- The first byte of a character tells how many follow it, by a mark above the highest bits.
theorem encodeChar_eq (c : Char) : ∃ width mark, c.toNat / 64 ^ width + mark < 256 ∧
    String.utf8EncodeChar c = UInt8.ofNat (c.toNat / 64 ^ width + mark) :: digits width c.toNat ∧
      (width = 0 ∧ mark = 0 ∧ c.toNat < 0x80 ∨ width = 1 ∧ mark = 0xC0 ∧ 0x80 ≤ c.toNat ∧ c.toNat < 0x800 ∨
        width = 2 ∧ mark = 0xE0 ∧ 0x800 ≤ c.toNat ∧ c.toNat < 0x10000 ∨
          width = 3 ∧ mark = 0xF0 ∧ 0x10000 ≤ c.toNat) := by
  have top : c.toNat < 0x110000 := by
    rcases c.valid with low | high
    · exact Nat.lt_trans low (by decide)
    · exact high.2
  have value : c.val.toNat = c.toNat := rfl
  unfold String.utf8EncodeChar
  simp only [value]
  generalize c.toNat = n at *
  split
  · refine ⟨0, 0, by omega, ?_, .inl (by omega)⟩
    simp [digits]
  · split
    · refine ⟨1, 0xC0, by omega, ?_, .inr (.inl (by omega))⟩
      have all : n / 64 % 32 = n / 64 := Nat.mod_eq_of_lt (by omega)
      simp [digits, all]
    · split
      · refine ⟨2, 0xE0, by omega, ?_, .inr (.inr (.inl (by omega)))⟩
        have all : n / 4096 % 16 = n / 4096 := Nat.mod_eq_of_lt (by omega)
        simp [digits, all]
      · refine ⟨3, 0xF0, by omega, ?_, .inr (.inr (.inr (by omega)))⟩
        have all : n / 262144 % 8 = n / 262144 := Nat.mod_eq_of_lt (by omega)
        simp [digits, all]

theorem encodeChar_lt {c d : Char} (less : c < d) (x y : Bytes) :
    String.utf8EncodeChar c ++ x < String.utf8EncodeChar d ++ y := by
  have below : c.toNat < d.toNat := less
  obtain ⟨width, mark, -, written, ranges⟩ := encodeChar_eq c
  obtain ⟨width', mark', small, written', ranges'⟩ := encodeChar_eq d
  rw [written, written', List.cons_append, List.cons_append]
  by_cases same : width = width'
  · have marks : mark = mark' := by omega
    subst same marks
    have high := Nat.div_le_div_right (c := 64 ^ width) (Nat.le_of_lt below)
    by_cases equal : c.toNat / 64 ^ width = d.toNat / 64 ^ width
    · have whole (n : Nat) := Nat.div_add_mod n (64 ^ width)
      have rest : c.toNat % 64 ^ width < d.toNat % 64 ^ width := by
        have left := whole c.toNat
        have right := whole d.toNat
        rw [equal] at left
        omega
      exact lt_of_rest (by rw [equal]) (digits_lt rest x y)
    · exact lt_of_first small (by omega) _ _
  · refine lt_of_first small ?_ _ _
    rcases ranges with ⟨rfl, rfl, range⟩ | ⟨rfl, rfl, range⟩ | ⟨rfl, rfl, range⟩ | ⟨rfl, rfl, range⟩ <;>
      rcases ranges' with ⟨rfl, rfl, range'⟩ | ⟨rfl, rfl, range'⟩ | ⟨rfl, rfl, range'⟩ | ⟨rfl, rfl, range'⟩ <;>
        omega

theorem encode_eq_flatMap (s : String) : encode s = s.toList.flatMap String.utf8EncodeChar := by
  have bytes : (String.ofList s.toList).toByteArray = (s.toList.flatMap String.utf8EncodeChar).toByteArray :=
    String.toByteArray_ofList
  rw [String.ofList_toList] at bytes
  unfold encode
  rw [bytes, List.data_toByteArray]

theorem flatMap_lt {cs ds : List Char} (less : cs < ds) :
    cs.flatMap String.utf8EncodeChar < ds.flatMap String.utf8EncodeChar := by
  induction less with
  | @nil d ds =>
    obtain ⟨_, _, -, written, -⟩ := encodeChar_eq d
    rw [List.flatMap_cons, written]
    exact List.nil_lt_cons _ _
  | rel less =>
    rw [List.flatMap_cons, List.flatMap_cons]
    exact encodeChar_lt less _ _
  | cons rest ih =>
    rw [List.flatMap_cons, List.flatMap_cons]
    exact List.append_left_lt ih

theorem encode_lt_iff {s t : String} : encode s < encode t ↔ s < t := by
  have forth {s t : String} (less : s < t) : encode s < encode t := by
    rw [encode_eq_flatMap, encode_eq_flatMap]
    exact flatMap_lt (String.lt_iff.mp less)
  refine ⟨fun less => ?_, forth⟩
  rcases lt_trichotomy s t with below | rfl | above
  · exact below
  · exact absurd less (List.lt_irrefl _)
  · exact absurd less (List.lt_asymm (forth above))

end FramedRpc.Text.Utf8
