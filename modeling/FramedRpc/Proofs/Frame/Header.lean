import FramedRpc.Frame.Header

namespace FramedRpc.Frame

theorem marked {mark : UInt8} {n : Nat} (byte : n < 256) (above : mark.toNat ≤ n) : mark ≤ UInt8.ofNat n := by
  rw [UInt8.le_iff_toNat_le, UInt8.toNat_ofNat', Nat.mod_eq_of_lt byte]
  exact above

theorem unmarked {mark : UInt8} {n : Nat} (below : n < mark.toNat) : ¬mark ≤ UInt8.ofNat n := by
  rw [UInt8.le_iff_toNat_le, UInt8.toNat_ofNat']
  have := Nat.mod_le n (2 ^ 8)
  omega

theorem bigEndian_succ (width n : Nat) :
    Bytes.bigEndian (width + 1) n = UInt8.ofNat (n / 256 ^ width) :: Bytes.bigEndian width n := rfl

section
variable {n : Nat}

theorem length_writeLength (n : Nat) : (writeLength n).length = if n ≤ 0x7FFF then 2 else 4 := by
  unfold writeLength
  split <;> simp

theorem lengthSize_writeLength (small : n ≤ maxContentLength) (more : Bytes) :
    lengthSize (writeLength n ++ more) = 2 * (writeLength n).length := by
  rw [length_writeLength]
  unfold maxContentLength at small
  unfold writeLength
  split
  · rw [bigEndian_succ, List.cons_append, lengthSize, if_neg]
    apply unmarked
    simp
    omega
  · rw [bigEndian_succ, List.cons_append, lengthSize, if_pos]
    apply marked
    · omega
    · simp
      omega

theorem readLength?_writeLength (small : n ≤ maxContentLength) :
    readLength? (writeLength n ++ writeLength n) = some n := by
  have half : (writeLength n ++ writeLength n).length / 2 = (writeLength n).length := by
    rw [List.length_append]
    omega
  unfold readLength?
  simp only [half, List.take_left, List.drop_left, if_true, Option.some.injEq]
  unfold maxContentLength at small
  unfold writeLength
  split
  · rw [Bytes.length_bigEndian, Bytes.ofBigEndian_bigEndian]
    omega
  · rw [Bytes.length_bigEndian, Bytes.ofBigEndian_bigEndian]
    omega

end

section
variable {id : Nat}

theorem length_writeRequestId (id : Nat) :
    (writeRequestId id).length = if id ≤ 0x7FFF then 2 else if id ≤ 0x3FFFFF then 3 else 4 := by
  unfold writeRequestId
  split
  · simp
  · split <;> simp

theorem idWidth_writeRequestId (small : id ≤ maxRequestId) (more : Bytes) :
    idWidth (writeRequestId id ++ more) = (writeRequestId id).length := by
  rw [length_writeRequestId]
  unfold maxRequestId at small
  unfold writeRequestId
  by_cases short : id ≤ 0x7FFF
  · rw [if_pos short, if_pos short, bigEndian_succ, List.cons_append, idWidth]
    rw [if_neg (unmarked (by simp; omega)), if_neg (unmarked (by simp; omega))]
  · by_cases medium : id ≤ 0x3FFFFF
    · rw [if_neg short, if_neg short, if_pos medium, if_pos medium, bigEndian_succ, List.cons_append, idWidth]
      rw [if_neg (unmarked (by simp; omega)), if_pos (marked (by omega) (by simp; omega))]
    · rw [if_neg short, if_neg short, if_neg medium, if_neg medium, bigEndian_succ, List.cons_append, idWidth]
      rw [if_pos (marked (by omega) (by simp; omega))]

theorem ofBigEndian_writeRequestId (small : id ≤ maxRequestId) :
    Bytes.ofBigEndian (writeRequestId id) % 2 ^ idBits (writeRequestId id).length = id := by
  have two : idBits 2 = 15 := rfl
  have three : idBits 3 = 23 := rfl
  have four : idBits 4 = 30 := rfl
  unfold maxRequestId at small
  unfold writeRequestId
  split
  · rw [Bytes.length_bigEndian, Bytes.ofBigEndian_bigEndian, two]
    omega
  · split
    · rw [Bytes.length_bigEndian, Bytes.ofBigEndian_bigEndian, three]
      omega
    · rw [Bytes.length_bigEndian, Bytes.ofBigEndian_bigEndian, four]
      omega

end

theorem type_bits (isResponse extended : Bool) {low : Nat} (small : low < 64) :
    let byte := UInt8.ofNat ((if isResponse then 0x80 else 0) + (if extended then 0x40 else 0) + low)
    isExtended byte = extended ∧ decide (0x80 ≤ byte) = isResponse ∧ byte.toNat % 64 = low := by
  have each : ∀ (isResponse extended : Bool) (low : Fin 64),
      let byte := UInt8.ofNat ((if isResponse then 0x80 else 0) + (if extended then 0x40 else 0) + low)
      isExtended byte = extended ∧ decide (0x80 ≤ byte) = isResponse ∧ byte.toNat % 64 = low := by
    decide
  exact each isResponse extended ⟨low, small⟩

theorem writeType_parts (isResponse : Bool) {typeId : Nat} (small : typeId ≤ maxTypeId) :
    ∃ lead tail, writeType isResponse typeId = lead :: tail ∧
      tail.length = (if isExtended lead then 1 else 0) ∧ decide (0x80 ≤ lead) = isResponse ∧
      (if isExtended lead then lead.toNat % 64 * 256 + (tail.getD 0 0).toNat else lead.toNat % 64) = typeId := by
  unfold maxTypeId at small
  unfold writeType
  by_cases short : typeId ≤ 0x3F
  · obtain ⟨bare, flag, low⟩ := type_bits isResponse false (Nat.lt_succ_of_le short)
    simp only [Bool.false_eq_true, if_false, Nat.add_zero] at bare flag low
    refine ⟨_, _, if_pos short, ?_, flag, ?_⟩
    · rw [bare]
      rfl
    · rw [bare]
      exact low
  · have high : typeId / 256 < 64 := by omega
    obtain ⟨bare, flag, low⟩ := type_bits isResponse true high
    simp only [if_true] at bare flag low
    refine ⟨_, _, if_neg short, ?_, flag, ?_⟩
    · rw [bare]
      rfl
    · simp only [bare, if_true, List.getD_cons_zero]
      rw [low, UInt8.toNat_ofNat']
      omega

variable {f : Fields}

theorem fieldsSize_write (type : f.typeId ≤ maxTypeId) (id : f.requestId ≤ maxRequestId) (more : Bytes) :
    fieldsSize (f.write ++ more) = f.write.length := by
  obtain ⟨lead, tail, written, size, -, -⟩ := writeType_parts f.isResponse type
  unfold Fields.write
  rw [written, List.append_assoc]
  unfold fieldsSize
  rw [idWidth_writeRequestId id, List.drop_left, List.length_append, List.length_cons, size]
  simp only [List.cons_append]
  split <;> rfl

theorem readFields_write (type : f.typeId ≤ maxTypeId) (id : f.requestId ≤ maxRequestId) :
    readFields f.write = f := by
  obtain ⟨lead, tail, written, -, flag, value⟩ := writeType_parts f.isResponse type
  have width := idWidth_writeRequestId id (lead :: tail)
  have first : (writeRequestId f.requestId ++ lead :: tail).getD (writeRequestId f.requestId).length 0 = lead := by
    simp
  have second : (writeRequestId f.requestId ++ lead :: tail).getD ((writeRequestId f.requestId).length + 1) 0 =
      tail.getD 0 0 := by
    rw [List.getD_eq_getElem?_getD, List.getElem?_append_right (by omega)]
    simp
  unfold Fields.write
  rw [written]
  unfold readFields
  simp only [width, first, second, flag, value, List.take_left, ofBigEndian_writeRequestId id]

theorem readFields_inRange (field : Bytes) :
    (readFields field).typeId ≤ maxTypeId ∧ (readFields field).requestId ≤ maxRequestId := by
  constructor
  · unfold readFields
    simp only
    have low := Nat.mod_lt (field.getD (idWidth field) 0).toNat (show 0 < 64 by decide)
    have next := (field.getD (idWidth field + 1) 0).toNat_lt
    unfold maxTypeId
    split <;> omega
  · have bits : idBits (idWidth field) ≤ 30 := by
      unfold idWidth
      split
      · split
        · decide
        · split <;> decide
      · decide
    have room : 2 ^ idBits (idWidth field) ≤ maxRequestId + 1 := Nat.pow_le_pow_right Nat.two_pos bits
    exact Nat.le_of_lt_succ (Nat.lt_of_lt_of_le (Nat.mod_lt _ (Nat.two_pow_pos _)) room)

end FramedRpc.Frame
