import Mathlib
import FramedRpc.Proofs.Endpoint.Dispatch
import FramedRpc.Proofs.Frame.Chunks

namespace FramedRpc

def Records {τ : Type} [Transport τ] (handed : τ → List Bytes) : Prop :=
  ∀ frame t, handed (Transport.send frame t).2 = handed t ++ [frame]

theorem Wire.records : Records Wire.frames := fun _ _ => rfl

namespace Endpoint

section
variable {τ : Type} {handed : τ → List Bytes}

def watched (handed : τ → List Bytes) (e : Endpoint τ) : Endpoint Wire :=
  { e with transport := e.transport.map fun t => ⟨handed t⟩ }

variable [Transport τ] (records : Records handed) (e : Endpoint τ)
include records

theorem sendFrame_watched (frame : Bytes) :
    (e.sendFrame frame).2.watched handed = ((e.watched handed).sendFrame frame).2 := by
  obtain ⟨config, transport, generation, correlator, deframer, handlers, methods, listeners, next, log⟩ := e
  cases transport with
  | none => rfl
  | some t =>
    unfold watched sendFrame
    simp only [Option.map_some, records frame t]
    rfl

theorem respond_watched (typeId requestId : Nat) (reply : Value) :
    (e.respond typeId requestId reply).2.watched handed = ((e.watched handed).respond typeId requestId reply).2 := by
  unfold respond
  rw [show (e.watched handed).responseFrame typeId requestId reply = e.responseFrame typeId requestId reply from rfl]
  cases e.responseFrame typeId requestId reply with
  | error why => rfl
  | ok frame => exact sendFrame_watched records e frame

theorem notify_watched (typeId : Nat) (content : Value) :
    (e.notify typeId content).watched handed = (e.watched handed).notify typeId content := by
  unfold notify
  rw [show (e.watched handed).prepare typeId content .oneWay = e.prepare typeId content .oneWay from rfl]
  cases e.prepare typeId content .oneWay with
  | error why => rfl
  | ok body =>
    unfold sendOneWay
    simp only
    cases Frame.ofContent ⟨false, typeId, 0⟩ body with
    | error why => rfl
    | ok frame => exact sendFrame_watched records e frame

theorem dispatch_watched (typeId requestId : Nat) (content : Value) :
    (e.dispatch typeId requestId content).watched handed = (e.watched handed).dispatch typeId requestId content := by
  unfold dispatch
  rw [show (e.watched handed).handlers = e.handlers from rfl]
  cases e.handlers.bind (·.lookup typeId) with
  | none => rfl
  | some handler =>
    have told : ((handler.run content).notices.foldl (fun e notice => e.notify notice.1 notice.2) e).watched handed =
        (handler.run content).notices.foldl (fun e notice => e.notify notice.1 notice.2) (e.watched handed) :=
      (List.foldl_hom (watched handed) fun e notice => (notify_watched records e notice.1 notice.2).symm).symm
    simp only
    split
    · exact told
    · rw [respond_watched records, told]

theorem deliver_watched (p : Packet) : (e.deliver p).watched handed = (e.watched handed).deliver p := by
  unfold deliver settle
  by_cases response : p.isResponse
  · simp only [if_pos response]
    rfl
  · simp only [if_neg response]
    exact dispatch_watched records ((e.tell p).note (.settled p)) p.typeId p.requestId p.content

theorem feed_watched (bytes : Bytes) : (e.feed bytes).watched handed = (e.watched handed).feed bytes := by
  unfold feed
  exact (List.foldl_hom (watched handed) fun e p => (deliver_watched records e p).symm).symm

end

section
variable {table : HandlerTable}

-- An endpoint on a wire that answers requests from a table.
structure Serves (table : HandlerTable) (limit : Nat) (frames : List Bytes) (e : Endpoint Wire) : Prop where
  wired : e.transport = some ⟨frames⟩
  handlers : e.handlers = some table
  limited : e.config.frame.limit = limit

namespace Serves

variable {limit : Nat} {frames : List Bytes} {e : Endpoint Wire} (serves : Serves table limit frames e)
  (silent : table.Silent) (small : limit ≤ Frame.maxContentLength)
include serves silent small

theorem deliver {p : Packet} (inRange : p.InRange) :
    ∃ new, (p.reply? table limit).toList.mapM Packet.encode = .ok new ∧
      Serves table limit (frames ++ new) (e.deliver p) ∧ (e.deliver p).deframer = e.deframer := by
  have within : e.config.frame.limit ≤ Frame.maxContentLength := serves.limited ▸ small
  obtain ⟨new, packed, sent⟩ := deliver_wire serves.wired within serves.handlers silent inRange.1 inRange.2
  rw [serves.limited] at packed
  refine ⟨new, packed, ?_, ?_⟩
  · rw [sent]
    exact ⟨rfl, serves.handlers, serves.limited⟩
  · rw [sent]
    rfl

theorem deliverAll {packets : List Packet} (inRange : ∀ p ∈ packets, p.InRange) :
    ∃ new, (packets.filterMap (·.reply? table limit)).mapM Packet.encode = .ok new ∧
      Serves table limit (frames ++ new) (packets.foldl Endpoint.deliver e) ∧
      (packets.foldl Endpoint.deliver e).deframer = e.deframer := by
  induction packets generalizing e frames with
  | nil => exact ⟨[], rfl, (List.append_nil frames).symm ▸ serves, rfl⟩
  | cons p others ih =>
    obtain ⟨first, packed, here, same⟩ := serves.deliver silent small (inRange p List.mem_cons_self)
    obtain ⟨more, repacked, all, still⟩ := ih here fun other member => inRange other (List.mem_cons_of_mem p member)
    refine ⟨first ++ more, ?_, ?_, still.trans same⟩
    · have parts : (p :: others).filterMap (·.reply? table limit) =
          (p.reply? table limit).toList ++ others.filterMap (·.reply? table limit) := by
        rw [List.filterMap_cons]
        cases p.reply? table limit <;> rfl
      rw [parts, List.mapM_append, packed, repacked]
      rfl
    · rw [← List.append_assoc]
      exact all

theorem feedAll (pieces : List Bytes) :
    ∃ new, ((e.deframer.feedPieces pieces).2.filterMap (·.reply? table limit)).mapM Packet.encode = .ok new ∧
      Serves table limit (frames ++ new) (pieces.foldl Endpoint.feed e) := by
  induction pieces generalizing e frames with
  | nil => exact ⟨[], rfl, (List.append_nil frames).symm ▸ serves⟩
  | cons piece others ih =>
    have read : Serves table limit frames { e with deframer := (e.deframer.feed piece).1 } :=
      ⟨serves.wired, serves.handlers, serves.limited⟩
    obtain ⟨first, packed, here, same⟩ := read.deliverAll silent small (e.deframer.feed_inRange piece)
    obtain ⟨more, repacked, all⟩ := ih here
    refine ⟨first ++ more, ?_, ?_⟩
    · rw [same] at repacked
      rw [Deframer.feedPieces, List.filterMap_append, List.mapM_append, packed, repacked]
      rfl
    · rw [← List.append_assoc]
      exact all

end Serves

end

end Endpoint

theorem Deframer.feed_each {limit : Nat} {packets : List Packet} {frames : List Bytes}
    (admissible : ∀ p ∈ packets, p.Admissible limit) (packed : packets.mapM Packet.encode = .ok frames) :
    List.Forall₂ (fun frame p => (Deframer.new limit).feed frame = ((Deframer.new limit).emitted, [p]))
      frames packets := by
  induction packets generalizing frames with
  | nil =>
    cases packed
    exact .nil
  | cons p others ih =>
    obtain ⟨frame, more, first, later, rfl⟩ := mapM_cons_eq_ok.mp packed
    obtain ⟨fits, answers⟩ := admissible p List.mem_cons_self
    have fed := feed_frame (d := .new limit) rfl first (Value.length_le_of_fits fits) answers []
    rw [List.append_nil, feed] at fed
    exact .cons fed (ih (fun q member => admissible q (List.mem_cons_of_mem p member)) later)

-- Whatever the transport does with them, an endpoint hands it one frame for each request that is owed a response, in
-- the order of the requests; and the other side, with the same limit, gets that response.
theorem Endpoint.feed_answers {τ : Type} [Transport τ] {handed : τ → List Bytes} (records : Records handed)
    {e : Endpoint τ} {t : τ} (attached : e.transport = some t) {table : HandlerTable}
    (handlers : e.handlers = some table) (silent : table.Silent)
    (small : e.config.frame.limit ≤ Frame.maxContentLength) (pieces : List Bytes) :
    let limit := e.config.frame.limit
    let packets := (e.deframer.feed pieces.flatten).2
    ∃ t' frames, (pieces.foldl feed e).transport = some t' ∧ handed t' = handed t ++ frames ∧
      List.Forall₂ (fun frame p => (Deframer.new limit).feed frame = ((Deframer.new limit).emitted, [p]))
        frames (packets.filterMap (·.reply? table limit)) := by
  intro limit packets
  have serves : Serves table limit (handed t) (e.watched handed) := by
    refine ⟨?_, handlers, rfl⟩
    unfold watched
    rw [attached]
    rfl
  obtain ⟨frames, packed, after⟩ := serves.feedAll silent small pieces
  have wired := after.wired
  rw [List.foldl_hom (watched handed) fun e piece => (feed_watched records e piece).symm] at wired
  obtain ⟨t', sent, shown⟩ := Option.map_eq_some_iff.mp wired
  refine ⟨t', frames, sent, congrArg Wire.frames shown, Deframer.feed_each ?_ ?_⟩
  · intro p member
    obtain ⟨request, -, owed⟩ := List.mem_filterMap.mp member
    exact Packet.reply?_admissible owed
  · rw [Deframer.feedPieces_flatten] at packed
    exact packed

-- A request whose handler fails, one whose handler does not respond, a one-way request, and one that is answered.
theorem Endpoint.feed_answers_across_cut :
    let table := HandlerTable.ofList
      [(1, ⟨.kindOf, false⟩), (2, ⟨fun _ => .fail "no", false⟩), (4, ⟨.echo, true⟩)]
    let e : Endpoint Wire := ((new .standard).attach ⟨[]⟩).bindHandlers table
    let pieces : List Bytes := [[1, 7, 0, 0, 0, 0, 0, 10, 2, 180, 80, 160, 235, 1, 7, 0, 0, 0, 0, 0, 11, 4, 192, 196],
      [216, 27, 1, 7, 0, 0, 0, 0, 0, 0, 1, 132, 233, 70, 136, 1, 7, 0, 0, 0, 0, 0, 12, 1, 136, 166, 243, 36]]
    table.Silent ∧ ∃ frames, (pieces.foldl feed e).transport = some ⟨frames⟩ ∧
      List.Forall₂ (fun frame p =>
          (Deframer.new Frame.defaultLimit).feed frame = ((Deframer.new Frame.defaultLimit).emitted, [p]))
        frames [.response 2 10 .null, .response 1 12 (.list [.string "null"])] := by
  intro table e pieces
  have silent : table.Silent := by
    apply HandlerTable.silent_of_slots
    intro handler member
    have slots : table.slots = [none, some ⟨.kindOf, false⟩, some ⟨fun _ => .fail "no", false⟩, none,
      some ⟨.echo, true⟩] := rfl
    rw [slots] at member
    simp only [List.mem_cons, reduceCtorEq, Option.some.injEq, List.not_mem_nil, or_false, false_or] at member
    rcases member with rfl | rfl | rfl <;> exact fun _ => rfl
  have read : (e.deframer.feed pieces.flatten).2 =
      [.request 2 10 .null, .request 4 11 .null, .request 1 0 .null, .request 1 12 .null] := by cbv
  have owed : [Packet.request 2 10 .null, .request 4 11 .null, .request 1 0 .null, .request 1 12 .null].filterMap
      (·.reply? table e.config.frame.limit) = [.response 2 10 .null, .response 1 12 (.list [.string "null"])] := by
    cbv
  obtain ⟨wire, frames, sent, shown, each⟩ := feed_answers Wire.records (e := e) rfl rfl silent (by decide) pieces
  rw [read, owed] at each
  refine ⟨silent, frames, ?_, each⟩
  rw [sent]
  exact congrArg (fun frames => some (Wire.mk frames)) shown

end FramedRpc
