import FramedRpc.Proofs.Frame.Chunks
import FramedRpc.Proofs.Stream.Scratch
import FramedRpc.Stream.Coder

namespace FramedRpc

namespace PacketReader

theorem feed_nil (r : PacketReader) : r.feed [] = r := by
  obtain ⟨deframer, ready⟩ := r
  simp only [feed, Deframer.feed, List.append_nil]

theorem pop_eq (r : PacketReader) : r.pop = (r.ready.head?, { r with ready := r.ready.tail }) := by
  obtain ⟨deframer, ready⟩ := r
  cases ready <;> rfl

end PacketReader

theorem PacketQueue.decode_eq (q : PacketQueue) (input : Bytes) :
    q.decode input = ((q.reader.ready ++ (q.reader.deframer.feed input).2).head?, { q with reader :=
      ⟨(q.reader.deframer.feed input).1, (q.reader.ready ++ (q.reader.deframer.feed input).2).tail⟩ }) := by
  unfold decode
  rw [PacketReader.pop_eq]
  rfl

namespace Coder

theorem decode_eq (c : Coder) :
    c.decode = (.ok (c.queue.decode c.input).1, { c with queue := (c.queue.decode c.input).2, input := [] }) := by
  unfold decode PacketQueue.decode
  split
  · rename_i empty
    rw [empty, PacketReader.feed_nil]
  · rfl

-- The input is empty by then, so nothing is ever left over.
theorem decodeEnd_eq (c : Coder) : c.decodeEnd = c.decode := by
  unfold decodeEnd
  rw [decode_eq]
  cases (c.queue.decode c.input).1 with
  | none => rfl
  | some p => rfl

section

variable {c : Coder} {call : Call}

-- What is left when a call has handed out a packet, or none.
def fed (c : Coder) (arrived : Bytes) : Coder := { c with queue := (c.queue.decode arrived).2 }

theorem run_decodes (empty : c.input = []) (decodes : call.decodes = true) (calls : List Call) :
    c.run (call :: calls) = (.ok (c.queue.decode call.arrived).1 :: ((c.fed call.arrived).run calls).1,
      ((c.fed call.arrived).run calls).2) := by
  have decoded (arrived : Bytes) : (c.append arrived).decode = (.ok (c.queue.decode arrived).1, c.fed arrived) := by
    rw [decode_eq]
    unfold append fed
    rw [empty, List.nil_append, ← empty]
  cases call with
  | decode arrived => simp only [run, step, decoded, Call.arrived, List.singleton_append]
  | decodeEnd arrived => simp only [run, step, decodeEnd_eq, decoded, Call.arrived, List.singleton_append]
  | encode p buffer => cases decodes

theorem run_encodes (encodes : call.decodes = false) :
    call.arrived = [] ∧ ∃ next : Coder, next.queue = c.queue ∧ next.input = c.input ∧
      ∀ calls, c.run (call :: calls) = next.run calls := by
  cases call with
  | decode arrived => cases encodes
  | decodeEnd arrived => cases encodes
  | encode p buffer => exact ⟨rfl, (c.encode p buffer).2, rfl, rfl, fun calls => rfl⟩

end

def arrivedIn (calls : List Call) : Bytes := calls.flatMap Call.arrived

-- What waited and what came, in this order: each call hands out the first packet of it, and the others wait.
structure Hands (c : Coder) (calls : List Call) (handed : List (Option Packet)) (after : Coder) : Prop where
  input : after.input = []
  each : handed.length = calls.countP Call.decodes
  packets : handed.filterMap id ++ after.ready = c.ready ++ (c.deframer.feed (arrivedIn calls)).2
  deframer : after.deframer = (c.deframer.feed (arrivedIn calls)).1

theorem Hands.encode {c next after : Coder} {call : Call} {calls : List Call} {handed : List (Option Packet)}
    (encodes : call.decodes = false) (quiet : call.arrived = []) (same : next.queue = c.queue)
    (hands : Hands next calls handed after) : Hands c (call :: calls) handed after := by
  have ready : next.ready = c.ready := congrArg (PacketReader.ready ∘ PacketQueue.reader) same
  have deframer : next.deframer = c.deframer := congrArg (PacketReader.deframer ∘ PacketQueue.reader) same
  have arrived : arrivedIn (call :: calls) = arrivedIn calls := by
    unfold arrivedIn
    rw [List.flatMap_cons, quiet, List.nil_append]
  refine ⟨hands.input, ?_, ?_, ?_⟩
  · rw [List.countP_cons_of_neg (by rw [encodes]; decide), hands.each]
  · rw [hands.packets, ready, deframer, arrived]
  · rw [hands.deframer, deframer, arrived]

theorem Hands.decode {c after : Coder} {call : Call} {calls : List Call} {handed : List (Option Packet)}
    (decodes : call.decodes = true) (hands : Hands (c.fed call.arrived) calls handed after) :
    Hands c (call :: calls) ((c.queue.decode call.arrived).1 :: handed) after := by
  have arrived : arrivedIn (call :: calls) = call.arrived ++ arrivedIn calls := List.flatMap_cons
  obtain ⟨input, count, packets, deframer⟩ := hands
  unfold fed at packets deframer
  rw [PacketQueue.decode_eq] at packets deframer ⊢
  refine ⟨input, ?_, ?_, ?_⟩
  · rw [List.length_cons, count, List.countP_cons_of_pos decodes]
  · rw [arrived, Deframer.feed_append, ← List.append_assoc]
    unfold ready Coder.deframer
    generalize c.queue.reader.ready ++ (c.queue.reader.deframer.feed call.arrived).2 = all at packets ⊢
    cases all with
    | nil => exact packets
    | cons p others => exact congrArg (p :: ·) packets
  · rw [arrived, Deframer.feed_append]
    exact deframer

theorem run_hands (c : Coder) (empty : c.input = []) (calls : List Call) :
    ∃ handed, (c.run calls).1 = handed.map .ok ∧ Hands c calls handed (c.run calls).2 := by
  induction calls generalizing c with
  | nil =>
    refine ⟨[], rfl, empty, rfl, ?_, ?_⟩
    · show c.ready = c.ready ++ (c.deframer.feed []).2
      rw [Deframer.feed, List.append_nil]
    · show c.deframer = (c.deframer.feed []).1
      rw [Deframer.feed]
  | cons call calls ih =>
    cases decodes : call.decodes with
    | true =>
      rw [run_decodes empty decodes]
      obtain ⟨handed, answers, hands⟩ := ih (c.fed call.arrived) empty
      exact ⟨_, congrArg _ answers, hands.decode decodes⟩
    | false =>
      obtain ⟨quiet, next, queue, input, same⟩ := run_encodes decodes
      obtain ⟨handed, answers, hands⟩ := ih next (input.trans empty)
      rw [same]
      exact ⟨handed, answers, hands.encode decodes quiet queue⟩

theorem run_quiet (c : Coder) (empty : c.input = []) (calls : List Call) :
    (c.run (calls.map Call.quiet)).1 = (List.range (calls.countP Call.decodes)).map fun i => .ok c.ready[i]? := by
  induction calls generalizing c with
  | nil => rfl
  | cons call calls ih =>
    have same : call.quiet.decodes = call.decodes := by cases call <;> rfl
    rw [List.map_cons]
    cases decodes : call.decodes with
    | true =>
      have still : call.quiet.arrived = [] := by cases call <;> rfl
      have next : (c.fed []).ready = c.ready.tail := by
        unfold fed
        rw [PacketQueue.decode_eq, Deframer.feed, List.append_nil]
        rfl
      have first : (c.queue.decode []).1 = c.ready[0]? := by
        rw [PacketQueue.decode_eq, Deframer.feed, List.append_nil]
        exact List.head?_eq_getElem?
      rw [run_decodes empty (same.trans decodes), still, first, ih (c.fed []) empty, next]
      rw [List.countP_cons_of_pos decodes, List.range_succ_eq_map, List.map_cons, List.map_map]
      refine congrArg _ (List.map_congr_left fun i _ => ?_)
      exact congrArg Except.ok List.getElem?_tail
    | false =>
      obtain ⟨-, next, queue, input, skipped⟩ := run_encodes (same.trans decodes)
      have ready : next.ready = c.ready := congrArg (PacketReader.ready ∘ PacketQueue.reader) queue
      rw [skipped, ih next (input.trans empty), ready, List.countP_cons_of_neg (by rw [decodes]; decide)]

theorem run_filter (c other : Coder) (empty : c.input = []) (queue : other.queue = c.queue)
    (input : other.input = c.input) (calls : List Call) :
    (other.run (calls.filter Call.decodes)).1 = (c.run calls).1 ∧
      (other.run (calls.filter Call.decodes)).2.queue = (c.run calls).2.queue := by
  induction calls generalizing c other with
  | nil => exact ⟨rfl, queue⟩
  | cons call calls ih =>
    cases decodes : call.decodes with
    | true =>
      have same : (other.fed call.arrived).queue = (c.fed call.arrived).queue := by
        unfold fed
        rw [queue]
      obtain ⟨answers, kept⟩ := ih (c.fed call.arrived) (other.fed call.arrived) empty same input
      rw [List.filter_cons_of_pos decodes, run_decodes empty decodes, run_decodes (input.trans empty) decodes, queue]
      exact ⟨congrArg (.ok (c.queue.decode call.arrived).1 :: ·) answers, kept⟩
    | false =>
      obtain ⟨-, next, same, untouched, skipped⟩ := run_encodes decodes
      rw [List.filter_cons_of_neg (by rw [decodes]; decide), skipped]
      exact ih next other (untouched.trans empty) (queue.trans same.symm) (input.trans untouched.symm)

-- Calls on a new queue, and what more calls do when nothing arrives any more.
structure Faithful (limit : Nat) (calls : List Call) (answers : List (Except FrameError (Option Packet)))
    (after : Coder) : Prop where
  input : after.input = []
  packets : ∃ handed : List (Option Packet), answers = handed.map .ok ∧ handed.length = calls.countP Call.decodes ∧
    handed.filterMap id ++ after.ready = ((Deframer.new limit).feed (arrivedIn calls)).2
  drained : ∀ later : List Call, (after.run (later.map Call.quiet)).1 =
    (List.range (later.countP Call.decodes)).map fun i => .ok after.ready[i]?
  alone : ((new limit).run (calls.filter Call.decodes)).1 = answers ∧
    ((new limit).run (calls.filter Call.decodes)).2.queue = after.queue

theorem run_faithful (limit : Nat) (calls : List Call) :
    Faithful limit calls ((new limit).run calls).1 ((new limit).run calls).2 := by
  obtain ⟨handed, answers, hands⟩ := (new limit).run_hands rfl calls
  exact ⟨hands.input, ⟨handed, answers, hands.each, hands.packets⟩, run_quiet _ hands.input,
    run_filter _ _ rfl rfl rfl calls⟩

end Coder
end FramedRpc
