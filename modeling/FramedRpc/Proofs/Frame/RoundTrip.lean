import FramedRpc.Proofs.Codec.RoundTrip
import FramedRpc.Proofs.Frame.Header
import FramedRpc.Proofs.Frame.Scanner

namespace FramedRpc

namespace Frame

def body (fields : Fields) (content : Bytes) : Bytes :=
  writeLength content.length ++ (writeLength content.length ++ (fields.write ++ (content ++
    Bytes.littleEndian crcSize (checksum fields.write content).toNat)))

theorem assemble_eq (fields : Fields) (content : Bytes) : assemble fields content = magic ++ body fields content :=
  rfl

theorem decodeContent_encodeContent {v : Value} {content : Bytes} (encoded : encodeContent v = .ok content) :
    decodeContent content = .ok v := by
  unfold encodeContent at encoded
  unfold decodeContent
  by_cases null : v.isNull
  · rw [if_pos null] at encoded
    cases encoded
    cases v with
    | scalar s =>
      cases s with
      | null => rfl
      | _ => cases null
    | list items => cases null
    | map entries => cases null
  · rw [if_neg null] at encoded
    have decoded := Value.decode_of_encode encoded
    cases content with
    | nil => cases decoded
    | cons tag rest => exact decoded

theorem ofLittleEndian_checksum (fieldBytes content : Bytes) :
    Bytes.ofLittleEndian (Bytes.littleEndian crcSize (checksum fieldBytes content).toNat) =
      (Crc32.checksum (fieldBytes ++ content)).toNat := by
  have same : Crc32.checksum (fieldBytes ++ content) = checksum fieldBytes content := by
    unfold Crc32.checksum checksum
    rw [Crc32.updateAll_append]
  rw [Bytes.ofLittleEndian_littleEndian, same]
  exact Nat.mod_eq_of_lt (checksum fieldBytes content).toNat_lt

theorem ofContent_eq_ok {fields : Fields} {content frame : Bytes} :
    ofContent fields content = .ok frame ↔
      fields.typeId ≤ maxTypeId ∧ fields.requestId ≤ maxRequestId ∧ content.length ≤ maxContentLength ∧
        assemble fields content = frame := by
  unfold ofContent checkRange
  by_cases type : maxTypeId < fields.typeId
  · rw [if_pos type]
    exact ⟨nofun, fun inRange => absurd inRange.1 (Nat.not_le_of_lt type)⟩
  · by_cases id : maxRequestId < fields.requestId
    · rw [if_neg type, if_pos id]
      exact ⟨nofun, fun inRange => absurd inRange.2.1 (Nat.not_le_of_lt id)⟩
    · by_cases large : maxContentLength < content.length
      · rw [if_neg type, if_neg id, if_pos large]
        exact ⟨nofun, fun inRange => absurd inRange.2.2.1 (Nat.not_le_of_lt large)⟩
      · rw [if_neg type, if_neg id, if_neg large]
        constructor
        · intro made
          cases made
          exact ⟨Nat.le_of_not_lt type, Nat.le_of_not_lt id, Nat.le_of_not_lt large, rfl⟩
        · rintro ⟨-, -, -, rfl⟩
          rfl

end Frame

namespace Candidate

theorem behind_behind (m n : Nat) (c : Candidate) : (c.behind n).behind m = c.behind (m + n) := by
  cases c with
  | incomplete => rfl
  | fault fault => rfl
  | packet p size => simp only [behind, Nat.add_assoc]

section
variable {f : Frame.Fields}

theorem ofFields_head (type : f.typeId ≤ Frame.maxTypeId) (id : f.requestId ≤ Frame.maxRequestId) (n : Nat)
    (rest : Bytes) :
    ofFields n (f.write ++ rest) =
      if f.isResponse ∧ f.requestId = 0 then fault .range
      else (ofContent f f.write n rest).behind f.write.length := by
  rw [ofFields_eq]
  simp only [Frame.fieldsSize_write type id, List.take_left, List.drop_left, Frame.readFields_write type id]
  rw [if_neg (by rw [List.length_append]; omega)]

theorem ofBytes_head (type : f.typeId ≤ Frame.maxTypeId) (id : f.requestId ≤ Frame.maxRequestId) {n : Nat}
    (small : n ≤ Frame.maxContentLength) (limit : Nat) (rest : Bytes) :
    ofBytes limit (Frame.writeLength n ++ (Frame.writeLength n ++ (f.write ++ rest))) =
      if limit < n then fault .length
      else if f.isResponse ∧ f.requestId = 0 then fault .range
      else (ofContent f f.write n rest).behind (2 * (Frame.writeLength n).length + f.write.length) := by
  have size := Frame.lengthSize_writeLength small
  have double : (Frame.writeLength n ++ Frame.writeLength n).length = 2 * (Frame.writeLength n).length := by
    rw [List.length_append]
    omega
  rw [ofBytes_eq]
  simp only [size]
  rw [if_neg (by simp only [List.length_append]; omega), ← List.append_assoc, ← double, List.take_left,
    List.drop_left, Frame.readLength?_writeLength small]
  by_cases large : limit < n
  · simp only [if_pos large]
  · simp only [if_neg large, ofFields_head type id]
    split
    · rfl
    · exact behind_behind ..

end

variable {limit : Nat} {f : Frame.Fields} {content : Bytes} {v : Value}

theorem ofChecksum_written (decoded : Frame.decodeContent content = .ok v) (fieldBytes rest : Bytes) :
    ofChecksum f fieldBytes content
        (Bytes.littleEndian Frame.crcSize (Frame.checksum fieldBytes content).toNat ++ rest) =
      packet ⟨f.isResponse, f.typeId, f.requestId, v⟩ Frame.crcSize := by
  have length : (Bytes.littleEndian Frame.crcSize (Frame.checksum fieldBytes content).toNat).length =
      Frame.crcSize := Bytes.length_littleEndian ..
  rw [ofChecksum_eq, if_neg (by rw [List.length_append, length]; omega), List.take_left' length,
    Frame.ofLittleEndian_checksum, if_pos rfl, decoded]

theorem ofContent_written (decoded : Frame.decodeContent content = .ok v) (fieldBytes rest : Bytes) :
    ofContent f fieldBytes content.length (content ++
        (Bytes.littleEndian Frame.crcSize (Frame.checksum fieldBytes content).toNat ++ rest)) =
      packet ⟨f.isResponse, f.typeId, f.requestId, v⟩ (content.length + Frame.crcSize) := by
  unfold ofContent
  rw [if_neg (by rw [List.length_append]; omega), List.take_left, List.drop_left,
    ofChecksum_written decoded, behind]

theorem ofBytes_written (decoded : Frame.decodeContent content = .ok v)
    (type : f.typeId ≤ Frame.maxTypeId) (id : f.requestId ≤ Frame.maxRequestId)
    (answers : ¬(f.isResponse ∧ f.requestId = 0)) (small : content.length ≤ Frame.maxContentLength)
    (fits : content.length ≤ limit) (rest : Bytes) :
    ofBytes limit (Frame.body f content ++ rest) =
      packet ⟨f.isResponse, f.typeId, f.requestId, v⟩ (Frame.body f content).length := by
  have whole : (Frame.body f content).length = 2 * (Frame.writeLength content.length).length +
      f.write.length + (content.length + Frame.crcSize) := by
    unfold Frame.body
    simp only [List.length_append, Bytes.length_littleEndian]
    omega
  rw [whole]
  unfold Frame.body
  simp only [List.append_assoc]
  rw [ofBytes_head type id small, if_neg (Nat.not_lt_of_le fits), if_neg answers, ofContent_written decoded,
    behind]

end Candidate

theorem Packet.encode_eq_ok {p : Packet} {frame : Bytes} :
    p.encode = .ok frame ↔ ∃ content, Frame.encodeContent p.content = .ok content ∧
      p.typeId ≤ Frame.maxTypeId ∧ p.requestId ≤ Frame.maxRequestId ∧
        content.length ≤ Frame.maxContentLength ∧ Frame.assemble p.fields content = frame := by
  unfold encode
  cases Frame.encodeContent p.content with
  | error e => simp
  | ok content =>
    simp [Frame.ofContent_eq_ok, fields]

theorem mapM_cons_eq_ok {ε α β : Type} {f : α → Except ε β} {a : α} {as : List α} {bs : List β} :
    (a :: as).mapM f = .ok bs ↔ ∃ b rest, f a = .ok b ∧ as.mapM f = .ok rest ∧ bs = b :: rest := by
  rw [List.mapM_cons]
  cases f a with
  | error e => exact ⟨nofun, fun ⟨_, _, first, _⟩ => nomatch first⟩
  | ok b =>
    cases as.mapM f with
    | error e => exact ⟨nofun, fun ⟨_, _, _, others, _⟩ => nomatch others⟩
    | ok rest =>
      constructor
      · intro made
        cases made
        exact ⟨b, rest, rfl, rfl, rfl⟩
      · rintro ⟨_, _, ⟨⟩, ⟨⟩, rfl⟩
        rfl

def Packet.InRange (p : Packet) : Prop := p.typeId ≤ Frame.maxTypeId ∧ p.requestId ≤ Frame.maxRequestId

theorem Phase.accept_inRange {limit : Nat} {phase : Phase} {byte : UInt8} {p : Packet}
    (step : phase.accept limit byte = .packet p) : p.InRange := by
  cases phase with
  | seeking sawFirst =>
    simp only [accept] at step
    split at step <;> cases step
  | length held =>
    simp only [accept, afterLength] at step
    split at step
    · cases step
    · split at step
      · split at step <;> cases step
      · cases step
  | fields lengthBytes contentLength held =>
    simp only [accept, afterFields] at step
    split at step
    · cases step
    · split at step
      · cases step
      · split at step <;> cases step
  | content lengthBytes fieldBytes register newest missing =>
    simp only [accept] at step
    split at step <;> cases step
  | crc lengthBytes fieldBytes contentBytes register held =>
    simp only [accept, afterCrc] at step
    split at step
    · cases step
    · split at step
      · split at step
        · cases step
        · cases step
          exact Frame.readFields_inRange fieldBytes
      · cases step

namespace Deframer

theorem feed_inRange (d : Deframer) (bytes : Bytes) : ∀ p ∈ (d.feed bytes).2, p.InRange := by
  fun_induction feed d bytes with
  | case1 =>
    intro p member
    cases member
  | case2 d byte rest phase step ih => exact ih
  | case3 d byte rest p step after packets fed ih =>
    rw [fed] at ih
    intro other member
    rcases List.mem_cons.mp member with rfl | later
    · exact Phase.accept_inRange step
    · exact ih other later
  | case4 d byte rest fault again step ih => exact ih

def past (d : Deframer) : Nat → Deframer
  | 0 => d
  | n + 1 => d.emitted.past n

theorem limit_past (d : Deframer) (n : Nat) : (d.past n).limit = d.limit := by
  induction n generalizing d with
  | zero => rfl
  | succ n ih => exact ih d.emitted

theorem stats_past (d : Deframer) (n : Nat) :
    (d.past n).stats = { d.stats with packets := d.stats.packets + n } := by
  induction n generalizing d with
  | zero => rfl
  | succ n ih =>
    rw [past, ih d.emitted]
    simp only [emitted, Stats.emitted, Nat.add_assoc, Nat.add_comm 1]

theorem isIdle_past {d : Deframer} (idle : d.isIdle = true) (n : Nat) : (d.past n).isIdle = true := by
  induction n generalizing d with
  | zero => exact idle
  | succ n ih => exact ih rfl

theorem feed_frame {d : Deframer} (idle : d.isIdle = true) {p : Packet} {frame : Bytes}
    (packed : p.encode = .ok frame)
    (fits : ∀ content, Frame.encodeContent p.content = .ok content → content.length ≤ d.limit)
    (answers : ¬(p.isResponse ∧ p.requestId = 0)) (rest : Bytes) :
    d.feed (frame ++ rest) = ((d.emitted.feed rest).1, p :: (d.emitted.feed rest).2) := by
  obtain ⟨sawFirst, seeking⟩ := isIdle_exact.mp idle
  obtain ⟨content, encoded, type, id, small, rfl⟩ := Packet.encode_eq_ok.mp packed
  have decoded := Frame.decodeContent_encodeContent encoded
  have verdict := Candidate.ofBytes_written (f := p.fields) decoded type id answers small
    (fits content encoded) rest
  rw [Frame.assemble_eq, List.append_assoc, feed_packet seeking verdict, List.drop_left]
  rfl

-- The deframer is idle between frames, so each of them is met as the first one is.
theorem feed_frames_append {d : Deframer} {packets : List Packet} {frames : List Bytes} (idle : d.isIdle = true)
    (packed : packets.mapM Packet.encode = .ok frames)
    (fits : ∀ p ∈ packets, ∀ content, Frame.encodeContent p.content = .ok content →
      content.length ≤ d.limit)
    (answers : ∀ p ∈ packets, ¬(p.isResponse ∧ p.requestId = 0)) (rest : Bytes) :
    d.feed (frames.flatten ++ rest) =
      (((d.past packets.length).feed rest).1, packets ++ ((d.past packets.length).feed rest).2) := by
  induction packets generalizing d frames with
  | nil =>
    cases packed
    rfl
  | cons p others ih =>
    obtain ⟨frame, more, first, later, rfl⟩ := mapM_cons_eq_ok.mp packed
    have here := feed_frame idle first (fits p List.mem_cons_self) (answers p List.mem_cons_self)
      (more.flatten ++ rest)
    have there := ih (d := d.emitted) rfl later (fun q member => fits q (List.mem_cons_of_mem p member))
      (fun q member => answers q (List.mem_cons_of_mem p member))
    rw [List.flatten_cons, List.append_assoc, here, there]
    rfl

theorem feed_frames {d : Deframer} {packets : List Packet} {frames : List Bytes} (idle : d.isIdle = true)
    (packed : packets.mapM Packet.encode = .ok frames)
    (fits : ∀ p ∈ packets, ∀ content, Frame.encodeContent p.content = .ok content →
      content.length ≤ d.limit)
    (answers : ∀ p ∈ packets, ¬(p.isResponse ∧ p.requestId = 0)) :
    let after := (d.feed frames.flatten).1
    (d.feed frames.flatten).2 = packets ∧
      after.stats = { d.stats with packets := d.stats.packets + packets.length } ∧
      after.isIdle = true ∧ after.buffered = 0 ∧ after.limit = d.limit := by
  have whole := feed_frames_append idle packed fits answers []
  rw [List.append_nil, feed, List.append_nil] at whole
  have still := isIdle_past idle packets.length
  rw [whole]
  exact ⟨rfl, stats_past d packets.length, still, buffered_idle still, limit_past d packets.length⟩

-- The answer carries a magic pair, and a stray first magic byte comes before both frames.
theorem feed_frames_after_stray_byte :
    let d : Deframer := ⟨.seeking true, 8, .zero⟩
    let notice := Packet.request 64 1 .null
    let answer := Packet.response 2 0x8000 (.list [.scalar (.binary [1, 7, 0, 0])])
    let frames : List Bytes := [[1, 7, 0, 0, 0, 0, 0, 1, 64, 64, 190, 187, 35, 166],
      [1, 7, 0, 8, 0, 8, 128, 128, 0, 130, 2, 14, 4, 1, 7, 0, 0, 0, 230, 155, 108, 13]]
    [notice, answer].mapM Packet.encode = .ok frames ∧ (d.feed frames.flatten).2 = [notice, answer] ∧
      (d.feed frames.flatten).1.stats = ⟨2, 0, 0, 0, 0, 0⟩ := by
  intro d notice answer frames
  have packed : [notice, answer].mapM Packet.encode = .ok frames := by cbv
  have carried : Frame.encodeContent answer.content = .ok [2, 14, 4, 1, 7, 0, 0, 0] := rfl
  have fits : ∀ p ∈ [notice, answer], ∀ content, Frame.encodeContent p.content = .ok content →
      content.length ≤ d.limit := by
    intro p member content encoded
    rw [List.mem_cons, List.mem_singleton] at member
    rcases member with rfl | rfl
    · cases encoded
      decide
    · cases carried.symm.trans encoded
      decide
  obtain ⟨emitted, counted, -⟩ := feed_frames (d := d) rfl packed fits (by decide)
  exact ⟨packed, emitted, counted⟩

end Deframer
end FramedRpc
