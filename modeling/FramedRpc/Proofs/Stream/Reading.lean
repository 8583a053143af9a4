import Mathlib
import FramedRpc.Proofs.Frame.Chunks
import FramedRpc.Stream.PacketReader

namespace FramedRpc

namespace Source

-- The failures to come that a reader tells of; an interrupted attempt is made again without a word.
def failures : Source → List IoError
  | [] => []
  | .data _ :: rest => failures rest
  | .failure e :: rest => if e.isInterrupted then failures rest else e :: failures rest

def smooth : Source → Source
  | [] => []
  | .data bytes :: rest => .data bytes :: smooth rest
  | .failure _ :: rest => smooth rest

-- The same deliveries, with the data of each of them in any parts.
inductive Cut : Source → Source → Prop where
  | nil : Cut [] []
  | failure {s t : Source} (e : IoError) (rest : Cut s t) : Cut (.failure e :: s) (.failure e :: t)
  | data {s t : Source} (pieces : List Bytes) (rest : Cut s t) :
    Cut (.data pieces.flatten :: s) (pieces.map .data ++ t)

theorem read_nothing {room : Nat} (some : 0 < room) {s s' : Source} (h : s.read room = (.ok [], s')) : s' = [] := by
  induction s with
  | nil =>
    cases h
    rfl
  | cons d rest ih =>
    cases d with
    | failure e => cases h
    | data bytes =>
      cases bytes with
      | nil => exact ih h
      | cons byte bytes =>
        obtain ⟨n, rfl⟩ := Nat.exists_eq_succ_of_ne_zero (Nat.ne_of_gt some)
        cases h

end Source

namespace Deframer

-- What comes of a source: the packets that its data completes, and its failures, in their order.
def yields (d : Deframer) : Source → List (Except FrameError Packet)
  | [] => []
  | .data bytes :: rest => (d.feed bytes).2.map .ok ++ (d.feed bytes).1.yields rest
  | .failure e :: rest => if e.isInterrupted then d.yields rest else .error (.io e) :: d.yields rest

theorem yields_data_nil (d : Deframer) (s : Source) : d.yields (.data [] :: s) = d.yields s := by
  rw [yields, feed, List.map_nil, List.nil_append]

theorem yields_data_append (d : Deframer) (a b : Bytes) (s : Source) :
    d.yields (.data (a ++ b) :: s) = d.yields (.data a :: .data b :: s) := by
  simp only [yields, feed_append, List.map_append, List.append_assoc]

theorem yields_cut {s t : Source} (cut : s.Cut t) (d : Deframer) : d.yields t = d.yields s := by
  induction cut generalizing d with
  | nil => rfl
  | failure e rest ih => rw [yields, yields, ih]
  | data pieces rest ih =>
    induction pieces generalizing d with
    | nil => rw [List.flatten_nil, yields_data_nil, List.map_nil, List.nil_append, ih]
    | cons piece pieces parts =>
      rw [List.flatten_cons, yields_data_append, List.map_cons, List.cons_append, yields, yields, parts]

theorem yields_read_ok {room : Nat} {s s' : Source} {bytes : Bytes} (read : s.read room = (.ok bytes, s'))
    (d : Deframer) : d.yields s = (d.feed bytes).2.map .ok ++ (d.feed bytes).1.yields s' := by
  induction s with
  | nil =>
    cases read
    simp only [feed, yields, List.map_nil, List.append_nil]
  | cons delivery rest ih =>
    cases delivery with
    | failure e => cases read
    | data piece =>
      cases piece with
      | nil =>
        rw [yields_data_nil]
        exact ih read
      | cons byte piece =>
        cases read
        rw [← yields, ← yields_data_append, List.take_append_drop]

theorem yields_read_error {room : Nat} {s s' : Source} {e : IoError} (read : s.read room = (.error e, s'))
    (d : Deframer) : d.yields s = if e.isInterrupted then d.yields s' else .error (.io e) :: d.yields s' := by
  induction s with
  | nil => cases read
  | cons delivery rest ih =>
    cases delivery with
    | failure e =>
      cases read
      rw [yields]
    | data piece =>
      cases piece with
      | nil =>
        rw [yields_data_nil]
        exact ih read
      | cons byte piece => cases read

end Deframer

namespace PacketReader

def packets (results : List (Except FrameError Packet)) : List Packet := results.filterMap (·.toOption)

def failure? : Except FrameError Packet → Option IoError
  | .error (.io e) => some e
  | _ => none

def failures (results : List (Except FrameError Packet)) : List IoError := results.filterMap failure?

end PacketReader

namespace Deframer

open PacketReader (packets failure? failures)

theorem packets_yields (d : Deframer) (s : Source) : packets (d.yields s) = (d.feed s.unread).2 := by
  induction s generalizing d with
  | nil =>
    rw [Source.unread, feed]
    rfl
  | cons delivery rest ih =>
    cases delivery with
    | data bytes =>
      have here : packets ((d.feed bytes).2.map .ok) = (d.feed bytes).2 := by
        unfold packets
        rw [List.filterMap_map]
        exact List.filterMap_some
      unfold packets at ih here ⊢
      rw [yields, List.filterMap_append, here, ih, Source.unread, feed_append]
    | failure e =>
      rw [yields, Source.unread, ← ih]
      split <;> rfl

theorem failures_yields (d : Deframer) (s : Source) : failures (d.yields s) = s.failures := by
  induction s generalizing d with
  | nil => rfl
  | cons delivery rest ih =>
    cases delivery with
    | data bytes =>
      have here : failures ((d.feed bytes).2.map .ok) = [] := by
        unfold failures
        rw [List.filterMap_map]
        exact List.filterMap_eq_nil_iff.mpr fun _ _ => rfl
      unfold failures at ih here ⊢
      rw [yields, List.filterMap_append, here, ih, Source.failures, List.nil_append]
    | failure e =>
      rw [yields, Source.failures, ← ih]
      split <;> rfl

theorem yields_smooth (d : Deframer) (s : Source) :
    d.yields s.smooth = (d.yields s).filter fun result => (failure? result).isNone := by
  induction s generalizing d with
  | nil => rfl
  | cons delivery rest ih =>
    cases delivery with
    | data bytes =>
      have here : ((d.feed bytes).2.map Except.ok).filter (fun result => (failure? result).isNone) =
          (d.feed bytes).2.map .ok := by
        refine List.filter_eq_self.mpr fun result member => ?_
        obtain ⟨p, -, rfl⟩ := List.mem_map.mp member
        rfl
      rw [Source.smooth, yields, yields, List.filter_append, here, ih]
    | failure e =>
      rw [Source.smooth, yields, ih]
      split <;> rfl

theorem length_yields (d : Deframer) (s : Source) :
    (d.yields s).length = (d.feed s.unread).2.length + s.failures.length := by
  induction s generalizing d with
  | nil =>
    rw [Source.unread, feed]
    rfl
  | cons delivery rest ih =>
    cases delivery with
    | data bytes =>
      simp only [yields, Source.unread, Source.failures, feed_append, List.length_append, List.length_map, ih,
        Nat.add_assoc]
    | failure e =>
      rw [yields, Source.unread, Source.failures]
      split
      · exact ih d
      · rw [List.length_cons, List.length_cons, ih, Nat.add_assoc]

theorem yields_split {d : Deframer} {s : Source} {before after : List (Except FrameError Packet)} {e : FrameError}
    (split : d.yields s = before ++ .error e :: after) :
    ∃ cause earlier later, e = .io cause ∧ cause.isInterrupted = false ∧ s = earlier ++ .failure cause :: later ∧
      d.yields earlier = before := by
  induction s generalizing d before with
  | nil => cases before <;> cases split
  | cons delivery rest ih =>
    cases delivery with
    | data bytes =>
      rw [yields] at split
      have behind : ∃ back, before = (d.feed bytes).2.map .ok ++ back ∧
          (d.feed bytes).1.yields rest = back ++ .error e :: after := by
        rcases List.append_eq_append_iff.mp split with found | ⟨back, packets, others⟩
        · exact found
        · cases back with
          | nil => exact ⟨[], by rw [packets, List.append_nil, List.append_nil], others.symm⟩
          | cons first back =>
            cases others
            have member : Except.error e ∈ (d.feed bytes).2.map .ok := packets ▸ List.mem_append_right before (.head _)
            obtain ⟨p, -, different⟩ := List.mem_map.mp member
            cases different
      obtain ⟨back, rfl, others⟩ := behind
      obtain ⟨cause, earlier, later, same, final, rfl, told⟩ := ih others
      refine ⟨cause, .data bytes :: earlier, later, same, final, rfl, ?_⟩
      rw [yields, told]
    | failure cause =>
      rw [yields] at split
      by_cases again : cause.isInterrupted = true
      · rw [if_pos again] at split
        obtain ⟨other, earlier, later, same, final, rfl, told⟩ := ih split
        refine ⟨other, .failure cause :: earlier, later, same, final, rfl, ?_⟩
        rw [yields, if_pos again, told]
      · rw [if_neg again] at split
        cases before with
        | nil =>
          cases split
          exact ⟨cause, [], rest, rfl, Bool.eq_false_iff.mpr again, rfl, rfl⟩
        | cons first before =>
          obtain ⟨rfl, others⟩ := List.cons.inj split
          obtain ⟨other, earlier, later, same, final, rfl, told⟩ := ih others
          refine ⟨other, .failure cause :: earlier, later, same, final, rfl, ?_⟩
          rw [yields, if_neg again, told]

end Deframer

namespace PacketReader

def yields (r : PacketReader) (s : Source) : List (Except FrameError Packet) := r.ready.map .ok ++ r.deframer.yields s

def calls : Nat → PacketReader → Source → List (Except FrameError Packet) × PacketReader × Source
  | 0, r, s => ([], r, s)
  | n + 1, r, s =>
    let (result, r, s) := r.next s
    let (results, r, s) := calls n r s
    (result :: results, r, s)

theorem yields_feed {r : PacketReader} (ready : r.ready = []) (bytes : Bytes) (s : Source) :
    (r.feed bytes).yields s = (r.deframer.feed bytes).2.map .ok ++ (r.deframer.feed bytes).1.yields s := by
  unfold yields feed
  rw [ready]
  rfl

theorem next_yields (r : PacketReader) (s : Source) :
    (r.next s).1 = (r.yields s).headD (.error .connectionClosed) ∧
      (r.next s).2.1.yields (r.next s).2.2 = (r.yields s).tail := by
  fun_induction next r s with
  | case1 r s p rest ready =>
    unfold yields
    rw [ready]
    exact ⟨rfl, rfl⟩
  | case2 r s ready s' read =>
    cases Source.read_nothing (by decide) read
    have nothing : r.yields s = [] := by
      unfold yields
      rw [ready, Deframer.yields_read_ok read, Deframer.feed]
      rfl
    have after : r.yields [] = [] := by
      unfold yields
      rw [ready]
      rfl
    rw [nothing]
    exact ⟨rfl, after⟩
  | case3 r s ready byte bytes s' read ih =>
    have same : r.yields s = (r.feed (byte :: bytes)).yields s' := by
      rw [yields_feed ready, yields, ready, Deframer.yields_read_ok read]
      rfl
    rw [same]
    exact ih
  | case4 r s ready e s' read again ih =>
    have same : r.yields s = r.yields s' := by
      unfold yields
      rw [Deframer.yields_read_error read, if_pos again]
    rw [same]
    exact ih
  | case5 r s ready e s' read final =>
    have told : r.yields s = .error (.io e) :: r.yields s' := by
      unfold yields
      rw [Deframer.yields_read_error read, if_neg final, ready]
      rfl
    rw [told]
    exact ⟨rfl, rfl⟩

theorem calls_eq (n : Nat) (r : PacketReader) (s : Source) :
    (calls n r s).1 = (r.yields s).takeD n (.error .connectionClosed) := by
  induction n generalizing r s with
  | zero => rfl
  | succ n ih =>
    obtain ⟨first, others⟩ := r.next_yields s
    rw [List.takeD, ← first, ← others, ← ih]
    rfl

theorem takeD_split {α : Type} {n : Nat} {l before after : List α} {a x : α}
    (split : l.takeD n a = before ++ x :: after) :
    (∃ rest, l = before ++ x :: rest) ∨
      x = a ∧ (∃ k, before = l ++ List.replicate k a) ∧ ∀ y ∈ after, y = a := by
  induction before generalizing n l with
  | nil =>
    cases n with
    | zero => cases split
    | succ n =>
      cases l with
      | nil =>
        rw [List.takeD_nil] at split
        obtain ⟨rfl, rfl⟩ := List.cons.inj split
        exact .inr ⟨rfl, ⟨0, rfl⟩, fun y member => List.eq_of_mem_replicate member⟩
      | cons first rest =>
        obtain ⟨rfl, -⟩ := List.cons.inj split
        exact .inl ⟨rest, rfl⟩
  | cons b before ih =>
    cases n with
    | zero => cases split
    | succ n =>
      obtain ⟨rfl, others⟩ := List.cons.inj split
      cases l with
      | nil =>
        rcases ih others with ⟨rest, found⟩ | ⟨same, ⟨k, rfl⟩, tail⟩
        · cases before <;> cases found
        · exact .inr ⟨same, ⟨k + 1, rfl⟩, tail⟩
      | cons first rest =>
        rcases ih others with ⟨more, found⟩ | ⟨same, ⟨k, rfl⟩, tail⟩
        · exact .inl ⟨more, congrArg (first :: ·) found⟩
        · exact .inr ⟨same, ⟨k, rfl⟩, tail⟩

theorem takeD_eq_append {α : Type} (n : Nat) (l : List α) (a : α) :
    l.takeD n a = l.take n ++ List.replicate (n - l.length) a := by
  induction n generalizing l with
  | zero => rw [Nat.zero_sub]; rfl
  | succ n ih =>
    cases l with
    | nil => rw [List.takeD_nil]; rfl
    | cons first rest =>
      rw [List.takeD, List.length_cons, Nat.add_sub_add_right]
      exact congrArg (first :: ·) (ih rest)

theorem filter_takeD {α : Type} (keep : α → Bool) {a : α} (kept : keep a = true) (n : Nat) (l : List α) :
    ∃ m, (l.takeD n a).filter keep = (l.filter keep).takeD m a := by
  induction n generalizing l with
  | zero => exact ⟨0, rfl⟩
  | succ n ih =>
    obtain ⟨m, same⟩ := ih l.tail
    cases l with
    | nil =>
      refine ⟨m + 1, ?_⟩
      rw [List.takeD, List.headD_nil, List.filter_cons_of_pos kept, same]
      rfl
    | cons first rest =>
      rw [List.takeD, List.headD_cons, List.filter_cons, List.filter_cons]
      split
      · exact ⟨m + 1, congrArg (first :: ·) same⟩
      · exact ⟨m, same⟩

-- What the results of some calls on a source tell of it.
structure Faithful (limit : Nat) (s : Source) (results : List (Except FrameError Packet)) : Prop where
  -- Nothing is lost, doubled or reordered.
  packets : packets results <+: ((Deframer.new limit).feed s.unread).2
  failures : failures results <+: s.failures
  others : ∀ e, .error e ∈ results → e = .connectionClosed ∨ ∃ cause, e = .io cause ∧ cause.isInterrupted = false
  -- A failure comes at its place: no packet that the data before it completes is still waiting.
  place : ∀ before e after, results = before ++ .error (.io e) :: after → ∃ earlier later : Source,
    s = earlier ++ .failure e :: later ∧
      PacketReader.packets before = ((Deframer.new limit).feed earlier.unread).2 ∧
      PacketReader.failures before = earlier.failures
  -- But for being told it makes no difference.
  resumes : ∃ n, results.filter (fun result => (failure? result).isNone) = (calls n (.new limit) s.smooth).1
  closed : ∀ before after, results = before ++ .error .connectionClosed :: after →
    PacketReader.packets before = ((Deframer.new limit).feed s.unread).2 ∧
      PacketReader.failures before = s.failures ∧ ∀ result ∈ after, result = .error .connectionClosed
  -- Every call tells something, and enough of them tell all.
  complete : ((Deframer.new limit).feed s.unread).2.length + s.failures.length ≤ results.length →
    PacketReader.packets results = ((Deframer.new limit).feed s.unread).2 ∧
      PacketReader.failures results = s.failures

theorem packets_closed (results : List (Except FrameError Packet)) (k : Nat) :
    packets (results ++ List.replicate k (.error .connectionClosed)) = packets results := by
  unfold packets
  rw [List.filterMap_append, List.filterMap_replicate_of_none rfl, List.append_nil]

theorem failures_closed (results : List (Except FrameError Packet)) (k : Nat) :
    failures (results ++ List.replicate k (.error .connectionClosed)) = failures results := by
  unfold failures
  rw [List.filterMap_append, List.filterMap_replicate_of_none rfl, List.append_nil]

theorem calls_faithful {s t : Source} (cut : s.Cut t) (limit n : Nat) :
    Faithful limit s (calls n (.new limit) t).1 := by
  let d := Deframer.new limit
  have whole (u : Source) : (PacketReader.new limit).yields u = d.yields u := List.nil_append _
  have results : (calls n (.new limit) t).1 = (d.yields s).takeD n (.error .connectionClosed) := by
    rw [calls_eq, whole, Deframer.yields_cut cut]
  have told := results.trans (takeD_eq_append ..)
  refine ⟨?_, ?_, ?_, ?_, ?_, ?_, ?_⟩
  · rw [told, packets_closed, ← Deframer.packets_yields]
    exact (List.take_prefix n _).filterMap _
  · rw [told, failures_closed, ← Deframer.failures_yields d]
    exact (List.take_prefix n _).filterMap _
  · intro e member
    obtain ⟨before, after, split⟩ := List.append_of_mem member
    rcases takeD_split (results.symm.trans split) with ⟨rest, found⟩ | ⟨same, -⟩
    · obtain ⟨cause, earlier, later, io, final, -⟩ := Deframer.yields_split found
      exact .inr ⟨cause, io, final⟩
    · cases same
      exact .inl rfl
  · intro before e after split
    rcases takeD_split (results.symm.trans split) with ⟨rest, found⟩ | ⟨same, -⟩
    · obtain ⟨cause, earlier, later, ⟨⟩, final, place, rfl⟩ := Deframer.yields_split found
      exact ⟨earlier, later, place, d.packets_yields earlier, d.failures_yields earlier⟩
    · cases same
  · have untold : (failure? (.error .connectionClosed)).isNone = true := rfl
    obtain ⟨m, kept⟩ := filter_takeD (fun result => (failure? result).isNone) untold n (d.yields s)
    refine ⟨m, ?_⟩
    rw [results, kept, calls_eq, whole, Deframer.yields_smooth]
  · intro before after split
    rcases takeD_split (results.symm.trans split) with ⟨rest, found⟩ | ⟨-, ⟨k, rfl⟩, tail⟩
    · obtain ⟨cause, earlier, later, ⟨⟩, -⟩ := Deframer.yields_split found
    · rw [packets_closed, failures_closed]
      exact ⟨d.packets_yields s, d.failures_yields s, tail⟩
  · intro enough
    rw [results, List.takeD_length, ← Deframer.length_yields] at enough
    rw [told, packets_closed, failures_closed, List.take_of_length_le enough]
    exact ⟨d.packets_yields s, d.failures_yields s⟩

-- An attempt is interrupted and another one fails in the middle of the second frame, which comes in three parts.
theorem calls_faithful_mid_frame :
    let notice := Packet.request 64 1 .null
    let answer := Packet.response 2 0x8000 .null
    let blocked := IoError.ofKind .wouldBlock
    let first : Bytes := [1, 7, 0, 0, 0, 0, 0, 1, 64, 64, 190, 187, 35, 166, 1, 7, 0, 0]
    let second : Bytes := [0, 0, 128, 128, 0]
    let third : Bytes := [130, 171, 144, 158, 46]
    let s : Source := [.data first, .failure (.ofKind .interrupted), .failure blocked, .data (second ++ third)]
    let t : Source := [.data first, .failure (.ofKind .interrupted), .failure blocked, .data second, .data third]
    s.Cut t ∧ (calls 4 (.new 8) t).1 = [.ok notice, .error (.io blocked), .ok answer, .error .connectionClosed] ∧
      Faithful 8 s (calls 4 (.new 8) t).1 := by
  intro notice answer blocked first second third s t
  have cut : s.Cut t := .data [first] (.failure _ (.failure _ (.data [second, third] .nil)))
  have told : (PacketReader.new 8).yields t = [.ok notice, .error (.io blocked), .ok answer] := by cbv
  refine ⟨cut, ?_, calls_faithful cut 8 4⟩
  rw [calls_eq, told]
  rfl

end PacketReader
end FramedRpc
