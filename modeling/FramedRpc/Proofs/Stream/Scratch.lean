import FramedRpc.Proofs.Frame.Appending
import FramedRpc.Stream.Scratch

namespace FramedRpc

namespace Packet

def Framed (limit : Nat) (p : Packet) (frame : Bytes) : Prop :=
  p.encode = .ok frame ∧ ∃ content, Frame.encodeContent p.content = .ok content ∧ content.length ≤ limit

variable {limit : Nat} {p : Packet} {frame : Bytes}

theorem encodeWithin_eq_ok : p.encodeWithin limit = .ok frame ↔ p.Framed limit frame := by
  unfold encodeWithin Framed encode
  cases Frame.encodeContent p.content with
  | error e => exact ⟨nofun, fun framed => nomatch framed.1⟩
  | ok content =>
    by_cases large : limit < content.length
    · simp only [if_pos large]
      refine ⟨nofun, ?_⟩
      rintro ⟨-, _, ⟨⟩, within⟩
      exact absurd within (Nat.not_le_of_lt large)
    · simp only [if_neg large]
      exact ⟨fun made => ⟨made, content, rfl, Nat.le_of_not_lt large⟩, And.left⟩

theorem Framed.unique {other : Bytes} (framed : p.Framed limit frame) (also : p.Framed limit other) :
    frame = other := by
  cases framed.1.symm.trans also.1
  rfl

end Packet

-- Whether something succeeded, and what was there before and after: the frame was added, or nothing.
structure Adds (limit : Nat) (p : Packet) (result : Except FrameError Unit) (before after : Bytes) : Prop where
  succeeds : result = .ok () ↔ ∃ frame, p.Framed limit frame
  frame : ∀ frame, p.Framed limit frame → after = before ++ frame
  nothing : (∀ frame, ¬p.Framed limit frame) → after = before

theorem Adds.of_framed {limit : Nat} {p : Packet} {frame before after : Bytes} (framed : p.Framed limit frame)
    (added : after = before ++ frame) : Adds limit p (.ok ()) before after where
  succeeds := ⟨fun _ => ⟨frame, framed⟩, fun _ => rfl⟩
  frame _ also := framed.unique also ▸ added
  nothing none := absurd framed (none frame)

theorem Adds.of_error {limit : Nat} {p : Packet} {e : FrameError} (failed : p.encodeWithin limit = .error e)
    (buffer : Bytes) : Adds limit p (.error e) buffer buffer := by
  have none (frame : Bytes) : ¬p.Framed limit frame := by
    intro framed
    cases failed.symm.trans (Packet.encodeWithin_eq_ok.mpr framed)
  exact ⟨⟨nofun, fun framed => framed.elim fun frame there => absurd there (none frame)⟩,
    fun frame framed => absurd framed (none frame), fun _ => rfl⟩

namespace Sink

structure TakesAll (s : Sink) : Prop where
  room : s.room = none
  replies : ∀ reply ∈ s.replies, ∃ most, reply = .accept (most + 1)
  flushes : ∀ reply ∈ s.flushReplies, reply = none

namespace TakesAll

variable {s : Sink} (takes : s.TakesAll)
include takes

theorem accept {most : Nat} {bytes : Bytes} (some : 0 < min most bytes.length) :
    ∃ n, (s.accept most bytes).1 = n + 1 ∧ (s.accept most bytes).2.TakesAll ∧
      (s.accept most bytes).2.taken = s.taken ++ bytes.take (n + 1) := by
  obtain ⟨n, size⟩ := Nat.exists_eq_succ_of_ne_zero (Nat.ne_of_gt some)
  have given : (s.accept most bytes).1 = n + 1 := by
    unfold Sink.accept
    rw [takes.room]
    simp only [Option.getD_none]
    omega
  refine ⟨n, given, ⟨?_, takes.replies, takes.flushes⟩, ?_⟩
  · unfold Sink.accept
    rw [takes.room]
    rfl
  · rw [← given]
    rfl

theorem write {bytes : Bytes} (some : bytes ≠ []) :
    ∃ n s', s.write bytes = (.ok (n + 1), s') ∧ s'.TakesAll ∧ s'.taken = s.taken ++ bytes.take (n + 1) := by
  have length : 0 < bytes.length := List.length_pos_iff.mpr some
  obtain ⟨replies, flushReplies, room, taken, writes, flushes⟩ := s
  cases replies with
  | nil =>
    have begun : TakesAll ⟨[], flushReplies, room, taken, writes + 1, flushes⟩ := ⟨takes.room, nofun, takes.flushes⟩
    obtain ⟨n, given, kept, added⟩ := begun.accept (Nat.lt_min.mpr ⟨length, length⟩)
    exact ⟨n, _, by rw [← given]; rfl, kept, added⟩
  | cons reply rest =>
    obtain ⟨most, rfl⟩ := takes.replies reply List.mem_cons_self
    have begun : TakesAll ⟨rest, flushReplies, room, taken, writes + 1, flushes⟩ :=
      ⟨takes.room, fun other member => takes.replies other (List.mem_cons_of_mem _ member), takes.flushes⟩
    obtain ⟨n, given, kept, added⟩ := begun.accept (Nat.lt_min.mpr ⟨Nat.succ_pos most, length⟩)
    exact ⟨n, _, by rw [← given]; rfl, kept, added⟩

theorem push (retry : IoError → Bool) (bytes : Bytes) :
    ∃ s', s.push retry bytes = (.ok (), s') ∧ s'.TakesAll ∧ s'.taken = s.taken ++ bytes := by
  fun_induction Sink.push retry s bytes with
  | case1 s => exact ⟨s, rfl, takes, (List.append_nil _).symm⟩
  | case2 s bytes some s' wrote =>
    obtain ⟨n, _, went, -⟩ := takes.write some
    cases wrote.symm.trans went
  | case3 s bytes some n s' wrote ih =>
    obtain ⟨_, _, went, kept, added⟩ := takes.write some
    cases wrote.symm.trans went
    obtain ⟨last, pushed, still, whole⟩ := ih kept
    refine ⟨last, pushed, still, ?_⟩
    rw [whole, added, List.append_assoc, List.take_append_drop]
  | case4 s bytes some e s' wrote again ih =>
    obtain ⟨_, _, went, -⟩ := takes.write some
    cases wrote.symm.trans went
  | case5 s bytes some e s' wrote final =>
    obtain ⟨_, _, went, -⟩ := takes.write some
    cases wrote.symm.trans went

theorem flush : ∃ s', s.flush = (.ok (), s') ∧ s'.TakesAll ∧ s'.taken = s.taken := by
  obtain ⟨replies, flushReplies, room, taken, writes, flushes⟩ := s
  cases flushReplies with
  | nil => exact ⟨_, rfl, ⟨takes.room, takes.replies, nofun⟩, rfl⟩
  | cons reply rest =>
    cases takes.flushes reply List.mem_cons_self
    exact ⟨_, rfl, ⟨takes.room, takes.replies, fun other member => takes.flushes other (List.mem_cons_of_mem _ member)⟩,
      rfl⟩

theorem settle (retry : IoError → Bool) :
    ∃ s', s.settle retry = (.ok (), s') ∧ s'.TakesAll ∧ s'.taken = s.taken := by
  obtain ⟨s', went, kept⟩ := takes.flush
  refine ⟨s', ?_, kept⟩
  unfold Sink.settle
  split
  · rename_i ended
    cases ended.symm.trans went
    rfl
  · rename_i failed
    cases failed.symm.trans went

end TakesAll
end Sink

namespace PacketWriter

theorem sendFrom_eq (w : PacketWriter) (scratch : Scratch) (p : Packet) (sink : Sink) :
    ((w.sendFrom scratch p sink).1, (w.sendFrom scratch p sink).2.2) = w.send p sink := by
  unfold sendFrom send Packet.encodeWithin
  rw [Frame.generateContent_eq, List.take_zero]
  cases Frame.encodeContent p.content with
  | error e => rfl
  | ok content =>
    simp only [List.nil_append]
    split
    · rfl
    · rw [Frame.putContent_eq, List.take_zero]
      cases Frame.ofContent p.fields content with
      | error e => rfl
      | ok frame => rfl

theorem send_untouched {w : PacketWriter} {p : Packet} (none : ∀ frame, ¬p.Framed w.limit frame) (sink : Sink) :
    (w.send p sink).2 = sink := by
  unfold send
  cases made : p.encodeWithin w.limit with
  | error e => rfl
  | ok frame => exact absurd (Packet.encodeWithin_eq_ok.mp made) (none frame)

section

variable {w : PacketWriter} {sink : Sink} (takes : sink.TakesAll)
include takes

theorem sendFrame_takesAll (frame : Bytes) :
    ∃ after, w.sendFrame frame sink = (.ok (), after) ∧ after.TakesAll ∧ after.taken = sink.taken ++ frame := by
  obtain ⟨pushed, written, kept, added⟩ := takes.push w.retries frame
  obtain ⟨after, settled, still, same⟩ := kept.settle w.retries
  refine ⟨after, ?_, still, same.trans added⟩
  unfold sendFrame flush
  rw [written]
  simp only [settled]

theorem send_takesAll (p : Packet) :
    (w.send p sink).2.TakesAll ∧ Adds w.limit p (w.send p sink).1 sink.taken (w.send p sink).2.taken := by
  unfold send
  cases made : p.encodeWithin w.limit with
  | error e => exact ⟨takes, .of_error made sink.taken⟩
  | ok frame =>
    obtain ⟨after, sent, kept, added⟩ := sendFrame_takesAll (w := w) takes frame
    simp only [sent]
    exact ⟨kept, .of_framed (Packet.encodeWithin_eq_ok.mp made) added⟩

theorem sendFrom_takesAll (scratch : Scratch) (p : Packet) : (w.sendFrom scratch p sink).2.2.TakesAll := by
  rw [congrArg Prod.snd (w.sendFrom_eq scratch p sink)]
  exact (send_takesAll takes p).1

theorem sendAll_takesAll (scratch : Scratch) (packets : List Packet) :
    (w.sendAll (scratch, sink) packets).2.TakesAll := by
  induction packets generalizing scratch sink with
  | nil => exact takes
  | cons p others ih => exact ih (sendFrom_takesAll takes scratch p) _

end

end PacketWriter

namespace PacketQueue

theorem encodeFrom_eq (q : PacketQueue) (scratch : Bytes) (p : Packet) (buffer : Bytes) :
    ((q.encodeFrom scratch p buffer).1, (q.encodeFrom scratch p buffer).2.2) = q.encode p buffer := by
  unfold encodeFrom encode Packet.encodeWithin
  rw [Frame.generateContent_eq, List.take_zero]
  cases Frame.encodeContent p.content with
  | error e => rfl
  | ok content =>
    simp only [List.nil_append]
    split
    · rfl
    · rw [Frame.putContent_eq]

theorem encode_adds (q : PacketQueue) (p : Packet) (buffer : Bytes) :
    Adds q.limit p (q.encode p buffer).1 buffer (q.encode p buffer).2 := by
  unfold encode Frame.onto
  cases made : p.encodeWithin q.limit with
  | error e => exact .of_error made buffer
  | ok frame => exact .of_framed (Packet.encodeWithin_eq_ok.mp made) rfl

end PacketQueue
end FramedRpc
