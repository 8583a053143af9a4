import FramedRpc.Proofs.Frame.Chunks
import FramedRpc.Proofs.Frame.RoundTrip

namespace FramedRpc

namespace Crc32

variable {a b : UInt32}

-- A register moved down has a clear top bit and the polynomial a set one: the top bit tells what went out.
theorem shift_top (register : UInt32) : (shift register).toNat.testBit 31 = decide (register &&& 1 = 1) := by
  have clear : (register >>> 1).toNat.testBit 31 = false := by
    apply Nat.testBit_lt_two_pow
    have := register.toNat_lt
    rw [UInt32.toNat_shiftRight]
    simp [Nat.shiftRight_eq_div_pow]
    omega
  unfold shift
  by_cases low : register &&& 1 = 1
  · rw [if_pos low, UInt32.toNat_xor, Nat.testBit_xor, clear, decide_eq_true low]
    decide
  · rw [if_neg low, clear, decide_eq_false low]

theorem toNat_eq_halves (register : UInt32) :
    register.toNat = 2 * (register >>> 1).toNat + if register &&& 1 = 1 then 1 else 0 := by
  have low : register &&& 1 = 1 ↔ register.toNat % 2 = 1 := by
    rw [← UInt32.toNat_inj, UInt32.toNat_and]
    simp [Nat.and_one_is_mod]
  rw [UInt32.toNat_shiftRight]
  simp only [low, Nat.shiftRight_eq_div_pow]
  simp
  split <;> omega

theorem eq_of_shift (same : shift a = shift b) : a = b := by
  have low : a &&& 1 = 1 ↔ b &&& 1 = 1 := by
    have tops := shift_top a
    rw [same, shift_top b] at tops
    exact (decide_eq_decide.mp tops).symm
  have high : a >>> 1 = b >>> 1 := by
    unfold shift at same
    by_cases one : b &&& 1 = 1
    · rw [if_pos (low.mpr one), if_pos one] at same
      exact (UInt32.xor_left_inj _).mp same
    · rw [if_neg (mt low.mp one), if_neg one] at same
      exact same
  rw [← UInt32.toNat_inj, toNat_eq_halves a, toNat_eq_halves b, high]
  simp only [low]

theorem eq_of_shifts {n : Nat} (same : shifts n a = shifts n b) : a = b := by
  induction n generalizing a b with
  | zero => exact same
  | succ n ih => exact eq_of_shift (ih same)

theorem eq_of_updateAll {bytes : Bytes} (same : updateAll a bytes = updateAll b bytes) : a = b := by
  induction bytes generalizing a b with
  | nil => exact same
  | cons byte rest ih =>
    have stepped : update a byte = update b byte := ih same
    exact (UInt32.xor_left_inj _).mp (eq_of_shifts stepped)

theorem eq_of_checksum {front back : Bytes} {old new : UInt8}
    (same : checksum (front ++ new :: back) = checksum (front ++ old :: back)) : new = old := by
  have registers := (UInt32.xor_left_inj _).mp same
  rw [updateAll_append, updateAll_append] at registers
  have stepped : update (updateAll start front) new = update (updateAll start front) old :=
    eq_of_updateAll registers
  have bytes := (UInt32.xor_right_inj _).mp (eq_of_shifts stepped)
  exact UInt8.toUInt32_inj.mp bytes

end Crc32

theorem Bytes.eq_of_ofLittleEndian {a b : Bytes} (length : a.length = b.length)
    (same : ofLittleEndian a = ofLittleEndian b) : a = b := by
  induction a generalizing b with
  | nil => exact (List.length_eq_zero_iff.mp length.symm).symm
  | cons byte rest ih =>
    cases b with
    | nil => cases length
    | cons other others =>
      simp only [ofLittleEndian] at same
      have low := byte.toNat_lt
      have otherLow := other.toNat_lt
      have first : byte = other := UInt8.toNat_inj.mp (by omega)
      rw [first, ih (Nat.succ.inj length) (by omega)]

namespace Candidate

variable {f : Frame.Fields} {fieldBytes content : Bytes}

theorem ofContent_mismatch {trailer : Bytes} (size : trailer.length = Frame.crcSize)
    (differs : Bytes.ofLittleEndian trailer ≠ (Crc32.checksum (fieldBytes ++ content)).toNat) (rest : Bytes) :
    ofContent f fieldBytes content.length (content ++ (trailer ++ rest)) = fault .crc := by
  have verdict : ofChecksum f fieldBytes content (trailer ++ rest) = fault .crc := by
    rw [ofChecksum_eq, if_neg (by rw [List.length_append]; omega), List.take_left' size, if_neg differs]
  unfold ofContent
  rw [if_neg (by rw [List.length_append]; omega), List.take_left, List.drop_left, verdict]
  rfl

theorem ofContent_damaged {front back : Bytes} {old new : UInt8}
    (split : content ++ Bytes.littleEndian Frame.crcSize (Frame.checksum fieldBytes content).toNat =
      front ++ old :: back) (changed : new ≠ old) (rest : Bytes) :
    ofContent f fieldBytes content.length (front ++ new :: (back ++ rest)) = fault .crc := by
  have read := Frame.ofLittleEndian_checksum fieldBytes content
  have size := Bytes.length_littleEndian Frame.crcSize (Frame.checksum fieldBytes content).toNat
  generalize Bytes.littleEndian Frame.crcSize (Frame.checksum fieldBytes content).toNat = trailer at split read size
  have inTrailer : ∀ between, front = content ++ between → trailer = between ++ old :: back →
      ofContent f fieldBytes content.length (front ++ new :: (back ++ rest)) = fault .crc := by
    rintro between rfl rfl
    have differs : Bytes.ofLittleEndian (between ++ new :: back) ≠
        (Crc32.checksum (fieldBytes ++ content)).toNat := by
      rw [← read]
      intro same
      have equal := Bytes.eq_of_ofLittleEndian (by simp) same
      rw [List.append_cancel_left_eq, List.cons.injEq] at equal
      exact changed equal.1
    have mismatch := ofContent_mismatch (f := f) (by simpa using size) differs rest
    simpa using mismatch
  rcases List.append_eq_append_iff.mp split with ⟨between, whole, trail⟩ | ⟨between, whole, trail⟩
  · exact inTrailer between whole trail
  · cases between with
    | nil =>
      rw [List.append_nil] at whole
      exact inTrailer [] (by rw [List.append_nil, whole]) trail.symm
    | cons first others =>
      cases trail
      have length : content.length = (front ++ new :: others).length := by simp [whole]
      have differs : Bytes.ofLittleEndian trailer ≠
          (Crc32.checksum (fieldBytes ++ (front ++ new :: others))).toNat := by
        rw [read, whole]
        intro same
        rw [UInt32.toNat_inj, ← List.append_assoc, ← List.append_assoc] at same
        exact changed (Crc32.eq_of_checksum same.symm)
      have mismatch := ofContent_mismatch (f := f) size differs rest
      rw [length]
      simpa using mismatch

end Candidate

namespace Deframer

theorem feed_counts {d : Deframer} (idle : d.phase = .seeking false) (bytes : Bytes) :
    ∃ counted : Stats, (d.feed bytes).1.stats = d.stats.plus counted :=
  ⟨_, (feed_scanFrom bytes 0 idle).stats⟩

-- A frame with one wrong byte behind its fields fails its checksum and nothing else: it counts as one such
-- failure, and the deframer goes on just behind its magic pair.
theorem feed_damaged {d : Deframer} (idle : d.isIdle = true) {p : Packet} {content front back : Bytes}
    {old new : UInt8} (encoded : Frame.encodeContent p.content = .ok content)
    (packed : p.encode = .ok (front ++ old :: back)) (fits : content.length ≤ d.limit)
    (answers : ¬(p.isResponse ∧ p.requestId = 0)) (behindFields : back.length < content.length + Frame.crcSize)
    (changed : new ≠ old) (rest : Bytes) (pieces : List Bytes)
    (cut : pieces.flatten = front ++ new :: (back ++ rest)) :
    ∃ bytes, pieces.flatten = Frame.magic ++ bytes ∧ Candidate.ofBytes d.limit bytes = .fault .crc ∧
      d.feedPieces pieces = (d.faulted .crc).feed bytes ∧
      d.stats.crcFailures < (d.feedPieces pieces).1.stats.crcFailures := by
  obtain ⟨sawFirst, seeking⟩ := isIdle_exact.mp idle
  obtain ⟨_, again, type, id, small, whole⟩ := Packet.encode_eq_ok.mp packed
  cases encoded.symm.trans again
  let head := Frame.writeLength content.length ++ (Frame.writeLength content.length ++ p.fields.write)
  have sections : Frame.assemble p.fields content = (Frame.magic ++ head) ++ (content ++
      Bytes.littleEndian Frame.crcSize (Frame.checksum p.fields.write content).toNat) := by
    simp [head, Frame.assemble]
  rw [sections] at whole
  have lengths := congrArg List.length whole
  simp only [List.length_append, Bytes.length_littleEndian, List.length_cons] at lengths
  have headFirst : Frame.magic ++ head <+: front := by
    apply List.prefix_of_prefix_length_le (List.prefix_append ..) ⟨_, whole.symm⟩
    rw [List.length_append]
    omega
  obtain ⟨between, rfl⟩ := headFirst
  rw [List.append_assoc _ between, List.append_cancel_left_eq] at whole
  have verdict : Candidate.ofBytes d.limit (head ++ (between ++ new :: (back ++ rest))) = .fault .crc := by
    have inRange : ¬(p.fields.isResponse ∧ p.fields.requestId = 0) := answers
    simp only [head, List.append_assoc]
    rw [Candidate.ofBytes_head (f := p.fields) type id small, if_neg (Nat.not_lt_of_le fits), if_neg inRange,
      Candidate.ofContent_damaged whole changed]
    rfl
  have stream : pieces.flatten = Frame.magic ++ (head ++ (between ++ new :: (back ++ rest))) := by
    simp [cut]
  have fed : d.feedPieces pieces = (d.faulted .crc).feed (head ++ (between ++ new :: (back ++ rest))) := by
    rw [feedPieces_flatten, stream, feed_fault seeking verdict]
  refine ⟨_, stream, verdict, fed, ?_⟩
  obtain ⟨counted, total⟩ := feed_counts (d := d.faulted .crc) rfl (head ++ (between ++ new :: (back ++ rest)))
  rw [fed, total]
  simp only [faulted, Stats.faulted, Stats.plus]
  omega

-- The content of the answer would not decode any more, which is not what it is given up for.
theorem feed_damaged_tag :
    let d : Deframer := ⟨.seeking true, 8, .zero⟩
    let answer := Packet.response 2 0x8000 (.list [.scalar (.binary [1, 7, 0, 0])])
    let front : Bytes := [1, 7, 0, 8, 0, 8, 128, 128, 0, 130]
    let back : Bytes := [14, 4, 1, 7, 0, 0, 0, 230, 155, 108, 13]
    answer.encode = .ok (front ++ 2 :: back) ∧
      ∃ bytes, [front ++ [3], back].flatten = Frame.magic ++ bytes ∧ Candidate.ofBytes 8 bytes = .fault .crc ∧
        d.feedPieces [front ++ [3], back] = (d.faulted .crc).feed bytes ∧
        0 < (d.feedPieces [front ++ [3], back]).1.stats.crcFailures := by
  intro d answer front back
  have packed : answer.encode = .ok (front ++ 2 :: back) := by cbv
  have carried : Frame.encodeContent answer.content = .ok [2, 14, 4, 1, 7, 0, 0, 0] := rfl
  exact ⟨packed, feed_damaged (d := d) rfl carried packed (by decide) (by decide) (by decide)
    (by decide : (3 : UInt8) ≠ 2) [] [front ++ [3], back] rfl⟩

end Deframer
end FramedRpc
