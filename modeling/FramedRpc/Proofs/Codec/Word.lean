import FramedRpc.Codec.Word
import FramedRpc.Proofs.Codec.Integer

namespace FramedRpc.Codec

theorem negative_iff (n : Int64) : n < 0 ↔ n.toInt < 0 := by
  rw [Int64.lt_iff_toInt_lt, Int64.toInt_zero]

theorem toNat_toUInt64 {n : Int64} (positive : 0 ≤ n.toInt) : n.toUInt64.toNat = n.toInt.toNat := by
  have order : 0 ≤ n := by
    rw [Int64.le_iff_toInt_le, Int64.toInt_zero]
    exact positive
  rw [Int64.toNat_toUInt64_of_le order]
  rfl

theorem toInt_complement (n : Int64) : (~~~n).toInt = -n.toInt - 1 := by
  have low := n.le_toInt
  have high := n.toInt_lt
  rw [Int64.toInt_not]
  exact Int.bmod_eq_of_le_mul_two (by omega) (by omega)

theorem toNat_magnitudeWord (n : Int64) : (magnitudeWord n).toNat = magnitude n.toInt := by
  unfold magnitudeWord magnitude
  by_cases negative : n.toInt < 0
  · rw [if_pos ((negative_iff n).mpr negative), if_pos negative, toNat_toUInt64, toInt_complement]
    rw [toInt_complement]
    omega
  · rw [if_neg fun less => negative ((negative_iff n).mp less), if_neg negative, toNat_toUInt64 (by omega)]

theorem holds?_eq {width : Nat} (narrow : width ≤ 8) (m : UInt64) :
    holds? m width = some (decide (m.toNat < 256 ^ width)) := by
  unfold holds? shiftRight?
  by_cases whole : 8 ≤ width
  · have eight : width = 8 := Nat.le_antisymm narrow whole
    have fits : m.toNat < 256 ^ width := by
      rw [eight]
      exact m.toNat_lt
    rw [if_pos whole, decide_eq_true fits]
  · have places : 8 * width < 64 := by omega
    have count : (UInt64.ofNat (8 * width)).toNat % 64 = 8 * width := by
      rw [UInt64.toNat_ofNat']
      omega
    have shifted : (m >>> UInt64.ofNat (8 * width)).toNat = m.toNat / 256 ^ width := by
      rw [UInt64.toNat_shiftRight, count, Nat.shiftRight_eq_div_pow, Nat.pow_mul]
    have zero : m >>> UInt64.ofNat (8 * width) = 0 ↔ m.toNat < 256 ^ width := by
      rw [← UInt64.toNat_inj, shifted, UInt64.toNat_zero, Nat.div_eq_zero_iff_lt (Nat.pow_pos (by decide))]
    rw [if_neg whole, if_pos places, Option.map_some, Option.some.injEq, Bool.eq_iff_iff, beq_iff_eq, decide_eq_true_iff]
    exact zero

theorem firstPlace?_eq {widths : List Nat} (narrow : ∀ width ∈ widths, width ≤ 8) (m : UInt64) :
    firstPlace? m widths = some (widths.findIdx? fun width => decide (m.toNat < 256 ^ width)) := by
  induction widths with
  | nil => rfl
  | cons width wider ih =>
    rw [firstPlace?, holds?_eq (narrow width List.mem_cons_self),
      ih fun other among => narrow other (List.mem_cons_of_mem width among), List.findIdx?_cons]
    cases decide (m.toNat < 256 ^ width) <;> rfl

theorem width_le (kind : IntegerKind) : ∀ width ∈ kind.widths, width ≤ 8 := by
  cases kind <;> decide

theorem widthPlace?_eq (kind : IntegerKind) (m : UInt64) : widthPlace? kind m = some (widthIndex kind m.toNat) := by
  unfold widthPlace?
  rw [firstPlace?_eq (width_le kind)]
  rfl

theorem tagWord_eq (kind : IntegerKind) (n : Int64) {index : Nat} (small : index < 6) :
    tagWord kind n index = integerTag kind (decide (n.toInt < 0)) index := by
  have shifted : ∀ index : Fin 6, UInt8.ofNat index <<< 4 = UInt8.ofNat (16 * index) := by decide
  unfold tagWord integerTag
  rw [shifted ⟨index, small⟩]
  simp only [negative_iff, decide_eq_true_eq]

theorem drop_bigEndian (more width n : Nat) :
    (Bytes.bigEndian (more + width) n).drop more = Bytes.bigEndian width n := by
  induction more with
  | zero => rw [Nat.zero_add, List.drop_zero]
  | succ more ih =>
    rw [Nat.succ_add, Bytes.bigEndian, List.drop_succ_cons]
    exact ih

theorem lastBytes?_eq {width : Nat} (narrow : width ≤ 8) (m : UInt64) :
    lastBytes? width m = some (Bytes.bigEndian width m.toNat) := by
  have last := drop_bigEndian (8 - width) width m.toNat
  rw [Nat.sub_add_cancel narrow] at last
  unfold lastBytes?
  rw [if_pos narrow, last]

theorem putInteger?_eq (kind : IntegerKind) (n : Int64) : putInteger? kind n = some (writeInteger kind n.toInt) := by
  have inside := kind.widthIndex_lt (magnitude n.toInt)
  have small : widthIndex kind (magnitude n.toInt) < 6 := Nat.lt_of_lt_of_le inside (by cases kind <;> decide)
  have known := List.getElem?_eq_getElem inside
  have narrow := width_le kind _ (List.getElem_mem inside)
  unfold putInteger? writeInteger
  simp only [widthPlace?_eq, toNat_magnitudeWord, known, lastBytes?_eq narrow, tagWord_eq kind n small,
    List.getD_eq_getElem?_getD, Option.bind_eq_bind, Option.bind_some, Option.getD_some]
  rfl

theorem foldl_zeros (count : Nat) :
    (List.replicate count (0 : UInt8)).foldl (fun n byte => n * 256 + byte.toNat) 0 = 0 := by
  induction count with
  | zero => rfl
  | succ count ih => exact ih

theorem ofBigEndian_zeros (count : Nat) (body : Bytes) :
    Bytes.ofBigEndian (List.replicate count 0 ++ body) = Bytes.ofBigEndian body := by
  unfold Bytes.ofBigEndian
  rw [List.foldl_append, foldl_zeros]

theorem toNat_wordOf {body : Bytes} (narrow : body.length ≤ 8) : (wordOf body).toNat = Bytes.ofBigEndian body := by
  have fits : Bytes.ofBigEndian body < 256 ^ 8 :=
    Nat.lt_of_lt_of_le (Bytes.ofBigEndian_lt body) (Nat.pow_le_pow_right (by decide) narrow)
  unfold wordOf
  rw [ofBigEndian_zeros, UInt64.toNat_ofNat']
  exact Nat.mod_eq_of_lt fits

theorem narrowed_eq (kind : IntegerKind) (n : Int64) :
    narrowed kind n =
      if kind.Fits n.toInt then .ok (kind.scalar n.toInt) else .error (.range n.toInt kind.name) := by
  have low := n.le_toInt
  have high := n.toInt_lt
  cases kind with
  | short =>
    have range : (Int16.minValue.toInt64 ≤ n ∧ n ≤ Int16.maxValue.toInt64) ↔ IntegerKind.short.Fits n.toInt := by
      rw [Int64.le_iff_toInt_le, Int64.le_iff_toInt_le, Int16.toInt_toInt64, Int16.toInt_toInt64]
      exact and_congr_right fun _ => Int.le_iff_lt_add_one
    simp only [narrowed, range, IntegerKind.scalar, Int16.ofInt_int64ToInt]
  | int =>
    have range : (Int32.minValue.toInt64 ≤ n ∧ n ≤ Int32.maxValue.toInt64) ↔ IntegerKind.int.Fits n.toInt := by
      rw [Int64.le_iff_toInt_le, Int64.le_iff_toInt_le, Int32.toInt_toInt64, Int32.toInt_toInt64]
      exact and_congr_right fun _ => Int.le_iff_lt_add_one
    simp only [narrowed, range, IntegerKind.scalar, Int32.ofInt_int64ToInt]
  | long =>
    have fits : IntegerKind.long.Fits n.toInt := ⟨low, high⟩
    rw [if_pos fits, IntegerKind.scalar, Int64.ofInt_toInt]
    rfl
  | timestamp =>
    have fits : IntegerKind.timestamp.Fits n.toInt := ⟨low, high⟩
    rw [if_pos fits, IntegerKind.scalar, Int64.ofInt_toInt]
    rfl

theorem toInt_toInt64 {m : UInt64} (small : m.toNat < 0x8000000000000000) : m.toInt64.toInt = m.toNat := by
  have same : m.toInt64 = Int64.ofNat m.toNat := by
    rw [← UInt64.toInt64_ofNat', UInt64.ofNat_toNat]
  rw [same]
  exact Int64.toInt_ofNat_of_lt small

theorem getInteger_eq (kind : IntegerKind) (negative : Bool) (m : UInt64) :
    getInteger kind negative m = integerOf kind negative m.toNat := by
  have most : Int64.maxValue.toUInt64.toNat = 0x7FFFFFFFFFFFFFFF := rfl
  unfold getInteger integerOf
  by_cases large : 0x8000000000000000 ≤ m.toNat
  · rw [if_pos large, if_pos (UInt64.lt_iff_toNat_lt.mpr (by omega))]
  · have number : (if negative then ~~~m.toInt64 else m.toInt64).toInt = signed negative m.toNat := by
      have plain := toInt_toInt64 (m := m) (by omega)
      unfold signed
      cases negative with
      | true => rw [if_pos rfl, if_pos rfl, toInt_complement, plain]
      | false => rw [if_neg Bool.false_ne_true, if_neg Bool.false_ne_true, plain]
    rw [if_neg large, if_neg fun more => large (by have := UInt64.lt_iff_toNat_lt.mp more; omega), narrowed_eq, number]

end FramedRpc.Codec
