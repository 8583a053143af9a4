import Mathlib
import FramedRpc.Proofs.Codec.Rewriting
import FramedRpc.Proofs.Frame.Reached
import FramedRpc.Proofs.Frame.RoundTrip

namespace FramedRpc

namespace Frame

-- Only the fields of a request, or of a response that answers one, let the content be read.
def Answered (fieldBytes : Bytes) : Prop :=
  ¬((readFields fieldBytes).isResponse ∧ (readFields fieldBytes).requestId = 0)

theorem encodeContent_of_decodeContent {bytes : Bytes} {v : Value} (decoded : decodeContent bytes = .ok v) :
    (v.isNull ∨ v.isContainer) ∧
      ∃ content, encodeContent v = .ok content ∧ content.length ≤ bytes.length + Codec.maxDepth := by
  unfold decodeContent at decoded
  cases empty : bytes.isEmpty with
  | true =>
    rw [if_pos empty] at decoded
    cases decoded
    exact ⟨.inl rfl, [], rfl, Nat.zero_le _⟩
  | false =>
    rw [if_neg (by rw [empty]; exact Bool.false_ne_true)] at decoded
    obtain ⟨container, written, encoded, within⟩ := Value.encode_of_decode decoded
    have filled : v.isNull = false := by
      cases v with
      | scalar s => cases container
      | list items | map entries => rfl
    refine ⟨.inr container, written, ?_, within⟩
    unfold encodeContent
    rw [filled, if_neg Bool.false_ne_true]
    exact encoded

end Frame

-- What the frame of a received packet was found to hold.
structure Packet.Carried (bound : Nat) (p : Packet) : Prop where
  inRange : p.InRange
  answers : ¬(p.isResponse ∧ p.requestId = 0)
  content : ∃ bytes : Bytes, bytes.length ≤ bound ∧ Frame.decodeContent bytes = .ok p.content

namespace Phase

-- What was checked of the frame in progress by the time that a part of it is read.
def Checked (bound : Nat) : Phase → Prop
  | seeking _ | length _ => True
  | fields _ contentLength _ => contentLength ≤ bound
  | content _ fieldBytes _ newest missing =>
    Frame.Answered fieldBytes ∧ 0 < missing ∧ newest.length + missing ≤ bound
  | crc _ fieldBytes contentBytes _ _ => Frame.Answered fieldBytes ∧ contentBytes.length ≤ bound

variable {bound : Nat}

theorem afterLength_checked {limit : Nat} (small : limit ≤ bound) {lengthBytes : Bytes} {next : Phase}
    (step : afterLength limit lengthBytes = .more next) : next.Checked bound := by
  unfold afterLength at step
  split at step
  · split at step
    · rename_i within
      cases step
      exact Nat.le_trans within small
    · cases step
  · cases step

theorem afterFields_checked {lengthBytes fieldBytes : Bytes} {contentLength : Nat} (within : contentLength ≤ bound)
    {next : Phase} (step : afterFields lengthBytes fieldBytes contentLength = .more next) : next.Checked bound := by
  simp only [afterFields] at step
  split at step
  · cases step
  · rename_i answers
    split at step
    · cases step
      exact ⟨answers, Nat.zero_le _⟩
    · rename_i some
      cases step
      refine ⟨answers, Nat.pos_of_ne_zero some, ?_⟩
      rw [List.length_nil, Nat.zero_add]
      exact within

theorem accept_checked {phase next : Phase} (checked : phase.Checked bound) {limit : Nat} (small : limit ≤ bound)
    {byte : UInt8} (step : phase.accept limit byte = .more next) : next.Checked bound := by
  cases phase with
  | seeking sawFirst =>
    simp only [accept] at step
    split at step <;> cases step <;> trivial
  | length held =>
    simp only [accept] at step
    split at step
    · cases step
      trivial
    · exact afterLength_checked small step
  | fields lengthBytes contentLength held =>
    simp only [accept] at step
    split at step
    · cases step
      exact checked
    · exact afterFields_checked checked step
  | content lengthBytes fieldBytes register newest missing =>
    obtain ⟨answers, some, within⟩ := checked
    simp only [accept] at step
    split at step
    · cases step
      refine ⟨answers, ?_⟩
      rw [List.length_reverse, List.length_cons]
      omega
    · cases step
      refine ⟨answers, by omega, ?_⟩
      rw [List.length_cons]
      omega
  | crc lengthBytes fieldBytes contentBytes register held =>
    simp only [accept] at step
    split at step
    · cases step
      exact checked
    · exact absurd step afterCrc_not_more

-- Only a complete frame gives a packet, and all of its parts were checked by then.
theorem accept_carried {phase : Phase} (checked : phase.Checked bound) {limit : Nat} {byte : UInt8} {p : Packet}
    (step : phase.accept limit byte = .packet p) : p.Carried bound := by
  have inRange := accept_inRange step
  cases phase with
  | seeking sawFirst =>
    simp only [accept] at step
    split at step <;> cases step
  | length held =>
    simp only [accept, afterLength] at step
    split at step
    · cases step
    · split at step
      · split at step <;> cases step
      · cases step
  | fields lengthBytes contentLength held =>
    simp only [accept, afterFields] at step
    split at step
    · cases step
    · split at step
      · cases step
      · split at step <;> cases step
  | content lengthBytes fieldBytes register newest missing =>
    simp only [accept] at step
    split at step <;> cases step
  | crc lengthBytes fieldBytes contentBytes register held =>
    obtain ⟨answers, within⟩ := checked
    simp only [accept, afterCrc] at step
    split at step
    · cases step
    · split at step
      · split at step
        · cases step
        · rename_i decoded
          cases step
          exact ⟨inRange, answers, contentBytes, within, decoded⟩
      · cases step

end Phase

-- Deframers whose limit never was above the bound, and the packets that came out of them.
inductive Received (bound : Nat) : Deframer → List Packet → Prop where
  | new {limit : Nat} (small : limit ≤ bound) : Received bound (.new limit) []
  | feed {d : Deframer} {packets : List Packet} (prior : Received bound d packets) (bytes : Bytes) :
    Received bound (d.feed bytes).1 (packets ++ (d.feed bytes).2)
  | reset {d : Deframer} {packets : List Packet} (prior : Received bound d packets) : Received bound d.reset packets
  | setLimit {d : Deframer} {packets : List Packet} (prior : Received bound d packets) {limit : Nat}
    (small : limit ≤ bound) : Received bound (d.setLimit limit) packets

namespace Deframer

-- A frame that is given up leaves nothing unchecked behind: the search for the next one starts anew.
theorem feed_carried {bound : Nat} {d : Deframer} (checked : d.phase.Checked bound) (small : d.limit ≤ bound)
    (bytes : Bytes) :
    (d.feed bytes).1.phase.Checked bound ∧ ∀ p ∈ (d.feed bytes).2, p.Carried bound := by
  fun_induction feed d bytes with
  | case1 => exact ⟨checked, List.forall_mem_nil _⟩
  | case2 d byte rest phase step ih => exact ih (Phase.accept_checked checked small step) small
  | case3 d byte rest p step after packets fed ih =>
    obtain ⟨still, later⟩ := ih trivial small
    rw [fed] at still later
    refine ⟨still, fun q member => ?_⟩
    rcases List.mem_cons.mp member with rfl | tail
    · exact Phase.accept_carried checked step
    · exact later q tail
  | case4 d byte rest fault again step ih => exact ih trivial small

end Deframer

theorem Received.carried {bound : Nat} {d : Deframer} {packets : List Packet} (received : Received bound d packets) :
    d.phase.Checked bound ∧ d.limit ≤ bound ∧ ∀ p ∈ packets, p.Carried bound := by
  induction received with
  | new small => exact ⟨trivial, small, nofun⟩
  | feed prior bytes ih =>
    obtain ⟨checked, small, earlier⟩ := ih
    obtain ⟨still, here⟩ := Deframer.feed_carried checked small bytes
    refine ⟨still, ?_, fun p member => ?_⟩
    · rw [Deframer.limit_feed]
      exact small
    · rcases List.mem_append.mp member with before | now
      · exact earlier p before
      · exact here p now
  | reset prior ih => exact ⟨trivial, ih.2⟩
  | setLimit prior small ih => exact ⟨ih.1, small, ih.2.2⟩

-- What the next deframer makes of a packet that is passed on to it.
structure Packet.Relays (room : Nat) (p : Packet) : Prop where
  type : p.typeId ≤ Frame.maxTypeId
  id : p.requestId ≤ Frame.maxRequestId
  answers : ¬(p.isResponse ∧ p.requestId = 0)
  content : p.content.isNull ∨ p.content.isContainer
  again : ∃ frame, p.encode = .ok frame ∧
    ∀ d : Deframer, d.isIdle → room ≤ d.limit → d.feed frame = (d.emitted, [p])

theorem Packet.Carried.relays {bound : Nat} {p : Packet} (carried : p.Carried bound)
    (room : bound + Codec.maxDepth ≤ Frame.maxContentLength) : p.Relays (bound + Codec.maxDepth) := by
  obtain ⟨⟨type, id⟩, answers, bytes, within, decoded⟩ := carried
  obtain ⟨shape, content, encoded, grown⟩ := Frame.encodeContent_of_decodeContent decoded
  have size : content.length ≤ bound + Codec.maxDepth := Nat.le_trans grown (Nat.add_le_add_right within _)
  have packed : p.encode = .ok (Frame.assemble p.fields content) :=
    Packet.encode_eq_ok.mpr ⟨content, encoded, type, id, Nat.le_trans size room, rfl⟩
  refine ⟨type, id, answers, shape, _, packed, fun d idle enough => ?_⟩
  have fits : ∀ other, Frame.encodeContent p.content = .ok other → other.length ≤ d.limit := by
    intro other same
    cases encoded.symm.trans same
    exact Nat.le_trans size enough
  have fed := Deframer.feed_frame idle packed fits answers []
  rw [List.append_nil, Deframer.feed] at fed
  exact fed

theorem Deframer.received_relays {bound : Nat} {d : Deframer} {packets : List Packet}
    (received : Received bound d packets) (room : bound ≤ Frame.maxContentLength - 512) :
    ∀ p ∈ packets, p.Relays (bound + 512) := by
  intro p member
  have small : Codec.maxDepth ≤ Frame.maxContentLength := by decide
  unfold Codec.maxDepth at small
  refine (received.carried.2.2 p member).relays ?_
  unfold Codec.maxDepth
  omega

-- The length, the id, the type, the integer and the text are wider than they are written, and two ends are missing.
theorem Deframer.received_relays_wide_frame :
    let frame : Bytes := [1, 7, 128, 0, 0, 10, 128, 0, 0, 10, 128, 0, 9, 192, 5, 2, 23, 0, 5, 13, 0, 0, 1, 97, 1,
      93, 78, 227, 23]
    let answer := Packet.response 5 9 (.list [.long 5, .string "a", .map []])
    10 ≤ Frame.maxContentLength - 512 ∧ ((Deframer.new 10).feed frame).2 = [answer] ∧ answer.Relays (10 + 512) := by
  intro frame answer
  have room : 10 ≤ Frame.maxContentLength - 512 := by decide
  have verdict : Candidate.ofBytes 10 (frame.drop 2) = .packet answer 27 := by cbv
  have fed : (Deframer.new 10).feed frame = ((Deframer.new 10).emitted, [answer]) := by
    have whole := feed_packet (d := .new 10) rfl verdict
    rw [show (frame.drop 2).drop 27 = [] from rfl, feed] at whole
    exact whole
  have emitted : ((Deframer.new 10).feed frame).2 = [answer] := by rw [fed]
  have received : Received 10 ((Deframer.new 10).feed frame).1 [answer] := by
    rw [← emitted]
    exact .feed (.new (Nat.le_refl 10)) frame
  exact ⟨room, emitted, received_relays received room answer (List.mem_singleton_self answer)⟩

end FramedRpc
