import FramedRpc.Proofs.Codec.Reading

namespace FramedRpc
namespace Codec

theorem ofBigEndian_of_lt {width n : Nat} (fits : n < 256 ^ width) :
    Bytes.ofBigEndian (Bytes.bigEndian width n) = n := by
  rw [Bytes.ofBigEndian_bigEndian, Nat.mod_eq_of_lt fits]

theorem writeInteger_form {kind : IntegerKind} {n : Int} (fits : kind.Fits n) :
    ScalarForm (kind.scalar n) (writeInteger kind n) := by
  have inside := IntegerKind.widthIndex_lt kind (magnitude n)
  have number := ofBigEndian_of_lt (IntegerKind.magnitude_lt_width fits)
  have width : kind.widths[widthIndex kind (magnitude n)]? =
      some (Bytes.bigEndian (kind.widths.getD (widthIndex kind (magnitude n)) 8) (magnitude n)).length := by
    rw [Bytes.length_bigEndian, List.getD_eq_getElem?_getD, List.getElem?_eq_getElem inside, Option.getD_some]
  have form := @ScalarForm.integer kind (decide (n < 0)) _ _ width
  rw [number, signed_magnitude] at form
  exact form (IntegerKind.magnitude_lt_max fits) fits

theorem length_size {shortTag longTag tag : UInt8} {size : Bytes}
    (form : (tag, size.length) ∈ [(shortTag, 1), (longTag, 3)]) : size.length = 1 ∨ size.length = 3 := by
  simp only [List.mem_cons, Prod.mk.injEq, List.not_mem_nil, or_false] at form
  exact form.imp And.right And.right

theorem writeSized_parts (shortTag longTag : UInt8) {bytes : Bytes} (fits : bytes.length ≤ maxLength) :
    ∃ tag size, (tag, List.length size) ∈ [(shortTag, 1), (longTag, 3)] ∧
      Bytes.ofBigEndian size = bytes.length ∧ writeSized shortTag longTag bytes = tag :: (size ++ bytes) := by
  unfold writeSized
  by_cases small : bytes.length ≤ 0xFF
  · rw [if_pos small]
    refine ⟨shortTag, Bytes.bigEndian 1 bytes.length, ?_, ofBigEndian_of_lt (by omega), ?_⟩
    · exact List.mem_cons_self
    · simp only [Bytes.bigEndian, Nat.pow_zero, Nat.div_one, List.cons_append, List.nil_append]
  · rw [if_neg small]
    have enough : bytes.length < 256 ^ 3 := Nat.lt_of_le_of_lt fits (by decide)
    refine ⟨longTag, Bytes.bigEndian 3 bytes.length, ?_, ofBigEndian_of_lt enough, rfl⟩
    exact List.mem_cons_of_mem _ List.mem_cons_self

theorem write_form {s : Scalar} (free : s.obstacle? = none) : ScalarForm s s.write := by
  cases s with
  | null => exact .null
  | bool b =>
    cases b with
    | true => exact .yes
    | false => exact .no
  | short n =>
    have fits : IntegerKind.short.Fits n.toInt := ⟨n.le_toInt, n.toInt_lt⟩
    have form := writeInteger_form fits
    rwa [IntegerKind.scalar, Int16.ofInt_toInt] at form
  | int n =>
    have fits : IntegerKind.int.Fits n.toInt := ⟨n.le_toInt, n.toInt_lt⟩
    have form := writeInteger_form fits
    rwa [IntegerKind.scalar, Int32.ofInt_toInt] at form
  | long n =>
    have fits : IntegerKind.long.Fits n.toInt := ⟨n.le_toInt, n.toInt_lt⟩
    have form := writeInteger_form fits
    rwa [IntegerKind.scalar, Int64.ofInt_toInt] at form
  | timestamp n =>
    have fits : IntegerKind.timestamp.Fits n.toInt := ⟨n.le_toInt, n.toInt_lt⟩
    have form := writeInteger_form fits
    rwa [IntegerKind.scalar, Int64.ofInt_toInt] at form
  | float bits =>
    have form := ScalarForm.float (Bytes.length_bigEndian 4 bits.toNat)
    rwa [ofBigEndian_of_lt bits.toNat_lt, UInt32.ofNat_toNat] at form
  | double bits =>
    have form := ScalarForm.double (Bytes.length_bigEndian 8 bits.toNat)
    rwa [ofBigEndian_of_lt bits.toNat_lt, UInt64.ofNat_toNat] at form
  | string s =>
    simp only [Scalar.obstacle?] at free
    split at free
    · rename_i fits
      obtain ⟨tag, size, sized, length, written⟩ := writeSized_parts 12 13 fits
      rw [Scalar.write, written]
      exact .text sized length
    · cases free
  | binary bytes =>
    simp only [Scalar.obstacle?] at free
    split at free
    · rename_i fits
      obtain ⟨tag, size, sized, length, written⟩ := writeSized_parts 14 15 fits
      rw [Scalar.write, written]
      exact .binary sized length
    · cases free

-- The depth of the writer is the number of containers around an item.
mutual

theorem write_item (v : Value) {depth : Nat} (free : v.obstacleAt? depth = none) : Item depth v v.write := by
  unfold Value.write
  cases v with
  | scalar s =>
    rw [Value.tokens, List.flatMap_singleton]
    exact .scalar (write_form free)
  | list items =>
    rw [Value.obstacleAt?] at free
    split at free
    · cases free
    rename_i shallow
    have form := Item.list (Nat.lt_of_not_le shallow) (write_items items free)
    simp only [Value.tokens, List.flatMap_cons, List.flatMap_append, List.flatMap_nil, Token.write]
    exact form
  | map entries =>
    rw [Value.obstacleAt?] at free
    split at free
    · cases free
    rename_i shallow
    have form := Item.map (Nat.lt_of_not_le shallow) (write_entries entries free)
    simp only [Value.tokens, List.flatMap_cons, List.flatMap_append, List.flatMap_nil, Token.write]
    exact form

theorem write_items (items : List Value) {depth : Nat} (free : Value.itemObstacle? depth items = none) :
    Items depth items ((Value.itemTokens items).flatMap Token.write) := by
  cases items with
  | nil => exact .nil
  | cons v more =>
    rw [Value.itemObstacle?, Option.or_eq_none_iff] at free
    rw [Value.itemTokens, List.flatMap_append]
    exact .cons (write_item v free.1) (write_items more free.2)

theorem write_entries (entries : List (Value × Value)) {depth : Nat}
    (free : Value.entryObstacle? depth entries = none) :
    Entries depth entries ((Value.entryTokens entries).flatMap Token.write) := by
  cases entries with
  | nil => exact .nil
  | cons entry more =>
    obtain ⟨key, v⟩ := entry
    rw [Value.entryObstacle?, Option.or_eq_none_iff, Option.or_eq_none_iff] at free
    rw [Value.entryTokens, List.flatMap_append, List.flatMap_append]
    exact .cons (write_item key free.1) (write_item v free.2.1) (write_entries more free.2.2)

end

theorem read_write {v : Value} (free : v.obstacle? = none) (rest : Bytes) :
    read (v.write ++ rest) = (.ok v, rest) := by
  unfold Value.obstacle? at free
  split at free
  · rename_i container
    exact (write_item v free).read container rest
  · cases free

end Codec

namespace Value

theorem encode_eq_ok_iff {v : Value} {bytes : Bytes} :
    v.encode = .ok bytes ↔ v.obstacle? = none ∧ v.write = bytes := by
  unfold encode
  cases v.obstacle? with
  | none => simp
  | some why => simp

theorem read_of_encode {v : Value} {bytes : Bytes} (encoded : v.encode = .ok bytes) (rest : Bytes) :
    Codec.read (bytes ++ rest) = (.ok v, rest) := by
  obtain ⟨free, rfl⟩ := encode_eq_ok_iff.mp encoded
  exact Codec.read_write free rest

theorem decode_of_encode {v : Value} {bytes : Bytes} (encoded : v.encode = .ok bytes) :
    decode bytes = .ok v := by
  have read := read_of_encode encoded []
  rw [List.append_nil] at read
  unfold decode
  rw [read]

-- Reading undoes writing whatever comes behind, so no written form begins another one.
theorem encode_self_delimiting {v : Value} {bytes : Bytes} (encoded : v.encode = .ok bytes) :
    (∀ rest : Bytes, Codec.read (bytes ++ rest) = (.ok v, rest)) ∧ decode bytes = .ok v ∧
      ∀ (w : Value) (rest : Bytes), w.encode = .ok (bytes ++ rest) → w = v ∧ rest = [] := by
  refine ⟨read_of_encode encoded, decode_of_encode encoded, ?_⟩
  intro w rest longer
  have one := read_of_encode encoded rest
  have other := read_of_encode longer []
  rw [List.append_nil, one] at other
  cases other
  exact ⟨rfl, rfl⟩

-- Keys repeat, and the bytes that follow look like more of the value.
theorem encode_self_delimiting_nested :
    let v : Value := .map [(.list [.long (-256)], .string "né"), (.list [.long (-256)], .map []),
      (.scalar (.binary [1, 7]), .double 0x7FF8000000000001)]
    let bytes : Bytes := [1, 2, 0x87, 255, 0, 12, 3, 110, 195, 169, 2, 0x87, 255, 0, 1, 0,
      14, 2, 1, 7, 4, 0x7F, 0xF8, 0, 0, 0, 0, 0, 1, 0]
    v.encode = .ok bytes ∧ Codec.read (bytes ++ [0, 1]) = (.ok v, [0, 1]) ∧ decode bytes = .ok v := by
  intro v bytes
  have encoded : v.encode = .ok bytes := rfl
  obtain ⟨read, decoded, -⟩ := encode_self_delimiting encoded
  exact ⟨encoded, read [0, 1], decoded⟩

end Value
end FramedRpc
