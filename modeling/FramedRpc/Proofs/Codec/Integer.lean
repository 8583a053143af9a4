import FramedRpc.Codec.Integer

namespace FramedRpc.Codec

theorem signed_magnitude (n : Int) : signed (decide (n < 0)) (magnitude n) = n := by
  unfold signed magnitude
  by_cases negative : n < 0
  · simp only [negative, decide_true, if_true]
    omega
  · simp only [negative, decide_false, if_false, Bool.false_eq_true]
    omega

namespace IntegerKind

theorem bits_le (kind : IntegerKind) : kind.bits ≤ 64 := by
  cases kind <;> decide

-- The complement halves the range, so that a magnitude has one bit less than its kind.
theorem magnitude_lt {kind : IntegerKind} {n : Int} (fits : kind.Fits n) :
    magnitude n < 2 ^ (kind.bits - 1) := by
  obtain ⟨low, high⟩ := fits
  have power : ((2 ^ (kind.bits - 1) : Nat) : Int) = 2 ^ (kind.bits - 1) := by simp
  unfold magnitude
  split <;> omega

theorem magnitude_lt_max {kind : IntegerKind} {n : Int} (fits : kind.Fits n) :
    magnitude n < 0x8000000000000000 := by
  have bound : 2 ^ (kind.bits - 1) ≤ 2 ^ 63 := Nat.pow_le_pow_right (by decide) (by have := kind.bits_le; omega)
  exact Nat.lt_of_lt_of_le (magnitude_lt fits) bound

theorem widthIndex_lt (kind : IntegerKind) (m : Nat) : widthIndex kind m < kind.widths.length := by
  unfold widthIndex
  cases found : kind.widths.findIdx? fun width => decide (m < 256 ^ width) with
  | none => cases kind <;> decide
  | some index =>
    obtain ⟨inside, -⟩ := List.findIdx?_eq_some_iff_getElem.mp found
    exact inside

theorem magnitude_lt_width {kind : IntegerKind} {n : Int} (fits : kind.Fits n) :
    magnitude n < 256 ^ kind.widths.getD (widthIndex kind (magnitude n)) 8 := by
  unfold widthIndex
  cases found : kind.widths.findIdx? fun width => decide (magnitude n < 256 ^ width) with
  | none =>
    -- The last width holds the whole range of the kind.
    have widest : 2 ^ (kind.bits - 1) ≤ 256 ^ kind.widths.getD (kind.widths.length - 1) 8 := by
      cases kind <;> decide
    exact Nat.lt_of_lt_of_le (magnitude_lt fits) widest
  | some index =>
    obtain ⟨inside, holds, -⟩ := List.findIdx?_eq_some_iff_getElem.mp found
    rw [Option.getD_some, List.getD_eq_getElem?_getD, List.getElem?_eq_getElem inside, Option.getD_some]
    exact of_decide_eq_true holds

end IntegerKind

-- Tags are few enough to be looked at one by one.
theorem integerTag_parts (kind : IntegerKind) (negative : Bool) {index : Nat}
    (inside : index < kind.widths.length) :
    IntegerKind.ofTag? (integerTag kind negative index &&& 0x0F) = some kind ∧
      (integerTag kind negative index >>> 4 &&& 7).toNat = index ∧
      (integerTag kind negative index &&& 0x80 != 0) = negative := by
  have small : index < 6 := Nat.lt_of_lt_of_le inside (by cases kind <;> decide)
  have each : ∀ (negative : Bool) (index : Fin 6),
      IntegerKind.ofTag? (integerTag kind negative index &&& 0x0F) = some kind ∧
      (integerTag kind negative index >>> 4 &&& 7).toNat = index ∧
      (integerTag kind negative index &&& 0x80 != 0) = negative := by
    cases kind <;> decide
  exact each negative ⟨index, small⟩

theorem integerTag_ofTag {tag : UInt8} {kind : IntegerKind}
    (known : IntegerKind.ofTag? (tag &&& 0x0F) = some kind) :
    integerTag kind (tag &&& 0x80 != 0) (tag >>> 4 &&& 7).toNat = tag := by
  have each : ∀ n : Fin 256, ∀ kind, IntegerKind.ofTag? (UInt8.ofFin n &&& 0x0F) = some kind →
      integerTag kind (UInt8.ofFin n &&& 0x80 != 0) (UInt8.ofFin n >>> 4 &&& 7).toNat = UInt8.ofFin n := by
    intro n kind
    revert n
    cases kind <;> decide +kernel
  exact each tag.toFin kind known

end FramedRpc.Codec
