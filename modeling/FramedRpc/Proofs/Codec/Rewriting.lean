import FramedRpc.Proofs.Codec.Acceptance
import FramedRpc.Proofs.Codec.RoundTrip

namespace FramedRpc
namespace Codec

theorem magnitude_signed (negative : Bool) (m : Nat) : magnitude (signed negative m) = m := by
  unfold magnitude signed
  cases negative with
  | true =>
    simp only [if_true]
    rw [if_pos (by omega)]
    omega
  | false =>
    simp only [Bool.false_eq_true, if_false]
    rw [if_neg (by omega)]
    omega

theorem IntegerKind.widthIndex_least {kind : IntegerKind} {m index width : Nat}
    (known : kind.widths[index]? = some width) (enough : m < 256 ^ width) :
    kind.widths.getD (widthIndex kind m) 8 ≤ width := by
  obtain ⟨inside, rfl⟩ := List.getElem?_eq_some_iff.mp known
  have ascending : kind.widths.Pairwise (· ≤ ·) := by cases kind <;> decide
  unfold widthIndex
  cases found : kind.widths.findIdx? fun width => decide (m < 256 ^ width) with
  | none =>
    have short := List.findIdx?_eq_none_iff.mp found _ (List.getElem_mem inside)
    exact absurd enough (of_decide_eq_false short)
  | some first =>
    obtain ⟨within, -, earlier⟩ := List.findIdx?_eq_some_iff_getElem.mp found
    rw [Option.getD_some, List.getD_eq_getElem?_getD, List.getElem?_eq_getElem within, Option.getD_some]
    have before : first ≤ index := Nat.le_of_not_lt fun later => earlier index later (decide_eq_true enough)
    rcases Nat.lt_or_eq_of_le before with less | rfl
    · exact List.pairwise_iff_getElem.mp ascending first index within inside less
    · exact Nat.le_refl _

theorem length_writeInteger_le {kind : IntegerKind} {n : Int} {index width : Nat}
    (known : kind.widths[index]? = some width) (enough : magnitude n < 256 ^ width) :
    (writeInteger kind n).length ≤ width + 1 := by
  unfold writeInteger
  rw [List.length_cons, Bytes.length_bigEndian]
  exact Nat.succ_le_succ (kind.widthIndex_least known enough)

theorem write_scalar {kind : IntegerKind} {n : Int} (fits : kind.Fits n) :
    (kind.scalar n).write = writeInteger kind n := by
  obtain ⟨low, high⟩ := fits
  cases kind with
  | short => exact congrArg (writeInteger .short) (Int16.toInt_ofInt_of_le low high)
  | int => exact congrArg (writeInteger .int) (Int32.toInt_ofInt_of_le low high)
  | long => exact congrArg (writeInteger .long) (Int64.toInt_ofInt_of_le low high)
  | timestamp => exact congrArg (writeInteger .timestamp) (Int64.toInt_ofInt_of_le low high)

theorem length_writeSized_le {shortTag longTag tag : UInt8} {size bytes : Bytes}
    (form : (tag, size.length) ∈ [(shortTag, 1), (longTag, 3)]) (length : Bytes.ofBigEndian size = bytes.length) :
    bytes.length ≤ maxLength ∧ (writeSized shortTag longTag bytes).length ≤ (tag :: (size ++ bytes)).length := by
  have bound := Bytes.ofBigEndian_lt size
  rw [length] at bound
  unfold writeSized maxLength
  rcases length_size form with one | three
  · rw [one] at bound
    rw [if_pos (by omega)]
    simp only [List.length_cons, List.length_append]
    omega
  · rw [three] at bound
    refine ⟨by omega, ?_⟩
    split
    · simp only [List.length_cons, List.length_append]
      omega
    · simp only [List.length_cons, List.length_append, Bytes.length_bigEndian]
      omega

theorem ScalarForm.write_le {s : Scalar} {bytes : Bytes} (form : ScalarForm s bytes) :
    s.obstacle? = none ∧ s.write.length ≤ bytes.length := by
  cases form with
  | null | yes | no => exact ⟨rfl, Nat.le_refl _⟩
  | float size | double size =>
    refine ⟨rfl, Nat.le_of_eq ?_⟩
    rw [Scalar.write, List.length_cons, List.length_cons, Bytes.length_bigEndian, size]
  | @integer kind negative index body width small fits =>
    refine ⟨?_, ?_⟩
    · cases kind <;> rfl
    · rw [write_scalar fits]
      refine length_writeInteger_le width ?_
      rw [magnitude_signed]
      exact Bytes.ofBigEndian_lt body
  | text form length =>
    obtain ⟨short, within⟩ := length_writeSized_le form length
    exact ⟨if_pos short, within⟩
  | binary form length =>
    obtain ⟨short, within⟩ := length_writeSized_le form length
    exact ⟨if_pos short, within⟩

-- The depth of an item is that of the writer.
mutual

theorem Item.write_le {depth : Nat} {v : Value} {bytes : Bytes} (item : Item depth v bytes) :
    v.obstacleAt? depth = none ∧ v.write.length ≤ bytes.length := by
  unfold Value.write
  cases item with
  | scalar form =>
    obtain ⟨free, within⟩ := form.write_le
    rw [Value.obstacleAt?, Value.tokens, List.flatMap_singleton]
    exact ⟨free, within⟩
  | list room inner =>
    obtain ⟨free, within⟩ := inner.write_le
    rw [Value.obstacleAt?, if_neg (Nat.not_le_of_lt room)]
    refine ⟨free, ?_⟩
    simp only [Value.tokens, List.flatMap_cons, List.flatMap_append, List.flatMap_nil, Token.write, List.length_append,
      List.length_cons, List.length_nil]
    omega
  | map room inner =>
    obtain ⟨free, within⟩ := inner.write_le
    rw [Value.obstacleAt?, if_neg (Nat.not_le_of_lt room)]
    refine ⟨free, ?_⟩
    simp only [Value.tokens, List.flatMap_cons, List.flatMap_append, List.flatMap_nil, Token.write, List.length_append,
      List.length_cons, List.length_nil]
    omega

theorem Items.write_le {depth : Nat} {items : List Value} {bytes : Bytes} (inner : Items depth items bytes) :
    Value.itemObstacle? depth items = none ∧
      ((Value.itemTokens items).flatMap Token.write).length ≤ bytes.length := by
  cases inner with
  | nil => exact ⟨rfl, Nat.le_refl _⟩
  | cons head tail =>
    obtain ⟨free, within⟩ := head.write_le
    obtain ⟨others, rest⟩ := tail.write_le
    unfold Value.write at within
    rw [Value.itemObstacle?, Option.or_eq_none_iff]
    refine ⟨⟨free, others⟩, ?_⟩
    rw [Value.itemTokens, List.flatMap_append, List.length_append, List.length_append]
    exact Nat.add_le_add within rest

theorem Entries.write_le {depth : Nat} {entries : List (Value × Value)} {bytes : Bytes}
    (inner : Entries depth entries bytes) :
    Value.entryObstacle? depth entries = none ∧
      ((Value.entryTokens entries).flatMap Token.write).length ≤ bytes.length := by
  cases inner with
  | nil => exact ⟨rfl, Nat.le_refl _⟩
  | cons key value tail =>
    obtain ⟨free, within⟩ := key.write_le
    obtain ⟨also, beside⟩ := value.write_le
    obtain ⟨others, rest⟩ := tail.write_le
    unfold Value.write at within beside
    rw [Value.entryObstacle?, Option.or_eq_none_iff, Option.or_eq_none_iff]
    refine ⟨⟨free, also, others⟩, ?_⟩
    rw [Value.entryTokens, List.flatMap_append, List.flatMap_append]
    simp only [List.length_append]
    omega

end

theorem Unclosed.missing_le {depth : Nat} {v : Value} {bytes : Bytes} {missing : Nat}
    (cut : Unclosed depth v bytes missing) : depth + missing ≤ maxDepth := by
  induction cut with
  | list room inner | map room inner => exact room
  | item room before last ih | value room before key last ih => omega

end Codec

open Codec

theorem Value.encode_of_item {v : Value} {bytes : Bytes} (item : Item 0 v bytes) (container : v.isContainer = true) :
    v.encode = .ok v.write ∧ v.write.length ≤ bytes.length := by
  obtain ⟨free, within⟩ := item.write_le
  refine ⟨encode_eq_ok_iff.mpr ⟨?_, rfl⟩, within⟩
  unfold obstacle?
  rw [if_pos container]
  exact free

theorem Value.encode_of_decode {bytes : Bytes} {v : Value} (decoded : decode bytes = .ok v) :
    v.isContainer = true ∧ ∃ written, v.encode = .ok written ∧ written.length ≤ bytes.length + maxDepth := by
  obtain ⟨container, missing, item, open_⟩ := decode_exact.mp decoded
  obtain ⟨encoded, within⟩ := encode_of_item item container
  have few : missing ≤ maxDepth := by
    rcases open_ with rfl | cut
    · exact Nat.zero_le _
    · exact Nat.le_trans (Nat.le_add_left ..) cut.missing_le
  refine ⟨container, v.write, encoded, ?_⟩
  rw [List.length_append, List.length_replicate] at within
  omega

-- Five in two bytes, a short text with a long length, and two ends that were missing.
example : Value.encode (.list [.long 5, .string "a", .map []]) = .ok [2, 0x07, 5, 12, 1, 97, 1, 0, 0] := rfl

end FramedRpc
