import FramedRpc.Proofs.Endpoint.Replies
import FramedRpc.Proofs.Frame.Passage

namespace FramedRpc

namespace Frame

-- A frame that answers nobody is never taken.
def Packed (frame : Bytes) : Prop := ∃ p : Packet, p.encode = .ok frame ∧ ¬(p.isResponse ∧ p.requestId = 0)

def Within (limit : Nat) (frame : Bytes) : Prop := ∃ p : Packet, p.encode = .ok frame ∧ p.Admissible limit

theorem Within.packed {limit : Nat} {frame : Bytes} (within : Within limit frame) : Packed frame := by
  obtain ⟨p, made, -, answers⟩ := within
  exact ⟨p, made, answers⟩

end Frame

theorem Packet.encode_inj {p q : Packet} {frame : Bytes} (first : p.encode = .ok frame)
    (answers : ¬(p.isResponse ∧ p.requestId = 0)) (second : q.encode = .ok frame)
    (answers' : ¬(q.isResponse ∧ q.requestId = 0)) : p = q := by
  have fits : ∀ r : Packet, r.encode = .ok frame → ∀ content, Frame.encodeContent r.content = .ok content →
      content.length ≤ (Deframer.new Frame.maxContentLength).limit := by
    intro r made content encoded
    obtain ⟨body, same, -, -, short, -⟩ := Packet.encode_eq_ok.mp made
    cases encoded.symm.trans same
    exact short
  have one := Deframer.feed_frame rfl first (fits p first) answers []
  have other := Deframer.feed_frame rfl second (fits q second) answers' []
  exact (List.cons.inj (congrArg Prod.snd (one.symm.trans other))).1

theorem Frame.Within.feed {d : Deframer} {frame : Bytes} (within : Within d.limit frame) (idle : d.isIdle = true)
    (rest : Bytes) : ∃ p, d.feed (frame ++ rest) = ((d.emitted.feed rest).1, p :: (d.emitted.feed rest).2) := by
  obtain ⟨p, made, fits, answers⟩ := within
  exact ⟨p, Deframer.feed_frame idle made (Value.length_le_of_fits fits) answers rest⟩

theorem Frame.Packed.feed {d : Deframer} {frame : Bytes} (packed : Packed frame) (beyond : ¬Within d.limit frame)
    (idle : d.isIdle = true) (rest : Bytes) :
    d.feed (frame ++ rest) = (d.faulted .length).feed (frame.drop 2 ++ rest) := by
  obtain ⟨p, made, answers⟩ := packed
  refine Deframer.feed_refused idle made ?_ rest
  obtain ⟨content, encoded, -⟩ := Packet.encode_eq_ok.mp made
  unfold Packet.refusal?
  rw [encoded]
  refine if_pos (Nat.lt_of_not_le fun short => beyond ⟨p, made, ?_, answers⟩)
  exact Value.fits_exact.mpr ⟨content, encoded, short⟩

namespace Endpoint

variable {τ : Type}

structure Sends (handed : τ → List Bytes) (e e' : Endpoint τ) : Prop where
  config : e'.config = e.config
  frames : ∃ new, e'.transport.map handed = (e.transport.map handed).map (· ++ new) ∧
    ∀ frame ∈ new, Frame.Within e.config.frame.limit frame

namespace Sends

variable {handed : τ → List Bytes} {e e' e'' : Endpoint τ}

theorem of_same (config : e'.config = e.config) (transport : e'.transport = e.transport) : Sends handed e e' := by
  refine ⟨config, [], ?_, List.forall_mem_nil _⟩
  rw [transport]
  cases e.transport with
  | none => rfl
  | some t => exact congrArg some (List.append_nil _).symm

theorem refl (e : Endpoint τ) : Sends handed e e := of_same rfl rfl

theorem trans (first : Sends handed e e') (second : Sends handed e' e'') : Sends handed e e'' := by
  obtain ⟨new, sent, good⟩ := first.frames
  obtain ⟨more, resent, fine⟩ := second.frames
  refine ⟨second.config.trans first.config, new ++ more, ?_, ?_⟩
  · rw [resent, sent]
    cases e.transport with
    | none => rfl
    | some t => exact congrArg some (List.append_assoc _ _ _)
  · intro frame member
    rcases List.mem_append.mp member with old | late
    · exact good frame old
    · exact first.config ▸ fine frame late

end Sends

variable [Transport τ] {handed : τ → List Bytes} (records : Records handed) (e : Endpoint τ)
include records

theorem sendFrame_sends {frame : Bytes} (within : Frame.Within e.config.frame.limit frame) :
    Sends handed e (e.sendFrame frame).2 := by
  unfold sendFrame
  cases transport : e.transport with
  | none => exact .refl e
  | some t =>
    refine ⟨rfl, [frame], ?_, List.forall_mem_singleton.mpr within⟩
    rw [transport]
    exact congrArg some (records frame t)

omit [Transport τ] records in
theorem within_of_body {content : Value} {body frame : Bytes} (encoded : e.encodeContent content = .ok body)
    {fields : Frame.Fields} (made : Frame.ofContent fields body = .ok frame)
    (answers : ¬(fields.isResponse ∧ fields.requestId = 0)) : Frame.Within e.config.frame.limit frame := by
  obtain ⟨written, short⟩ := encodeContent_eq_ok.mp encoded
  refine ⟨⟨fields.isResponse, fields.typeId, fields.requestId, content⟩, ?_, ?_, answers⟩
  · unfold Packet.encode
    rw [written]
    exact made
  · exact Value.fits_exact.mpr ⟨body, written, short⟩

theorem sendOneWay_sends {typeId : Nat} {content : Value} {body : Bytes}
    (encoded : e.encodeContent content = .ok body) :
    Sends handed e (e.sendOneWay typeId body).2 := by
  unfold sendOneWay
  cases made : Frame.ofContent ⟨false, typeId, 0⟩ body with
  | error why => exact .refl e
  | ok frame => exact e.sendFrame_sends records (e.within_of_body encoded made nofun)

theorem sendAwaited_sends {typeId : Nat} {content : Value} {body : Bytes} (now : Instant)
    (expiry : Option Duration) (encoded : e.encodeContent content = .ok body) :
    Sends handed e (e.sendAwaited typeId body now expiry).2 := by
  unfold sendAwaited
  split
  · exact .refl e
  · split
    · exact .of_same rfl rfl
    · rename_i ticket correlator registered
      cases made : Frame.ofContent ⟨false, typeId, ((correlator.call? ticket).map (·.requestId)).getD 0⟩ body with
      | error why =>
        simp only [made]
        exact .of_same rfl rfl
      | ok frame =>
        have within := e.within_of_body encoded made nofun
        have sent := sendFrame_sends records { e with correlator } within
        simp only [made]
        cases attempt : sendFrame { e with correlator } frame with
        | mk result after =>
          rw [attempt] at sent
          have entered : Sends handed e { e with correlator } := .of_same rfl rfl
          have begun := entered.trans sent
          cases result with
          | ok done => exact begun
          | error why => exact begun.trans (.of_same rfl rfl)

theorem call_sends (typeId : Nat) (content : Value) (o : CallOptions) (now : Instant) :
    Sends handed e (e.call typeId content o now).2 := by
  unfold call
  cases prepared : e.prepare typeId content o with
  | error why => exact .refl e
  | ok body =>
    obtain ⟨-, -, encoded⟩ := prepare_eq_ok.mp prepared
    simp only
    split
    · exact e.sendAwaited_sends records now _ encoded
    · exact e.sendOneWay_sends records encoded

theorem notify_sends (typeId : Nat) (content : Value) :
    Sends handed e (e.notify typeId content) := by
  unfold notify
  cases prepared : e.prepare typeId content .oneWay with
  | error why => exact .refl e
  | ok body => exact e.sendOneWay_sends records (prepare_eq_ok.mp prepared).2.2

-- Null takes no bytes, so that an answer fits in any case.
theorem respond_sends {typeId requestId : Nat} (somebody : requestId ≠ 0) (reply : Value) :
    Sends handed e (e.respond typeId requestId reply).2 := by
  have null : ∀ frame, (Packet.response typeId requestId .null).encode.mapError RpcError.frame = .ok frame →
      Frame.Within e.config.frame.limit frame := by
    intro frame made
    cases packed : (Packet.response typeId requestId .null).encode with
    | error why =>
      rw [packed] at made
      cases made
    | ok found =>
      rw [packed] at made
      cases made
      exact ⟨_, packed, rfl, fun nobody => somebody nobody.2⟩
  unfold respond
  cases made : e.responseFrame typeId requestId reply with
  | error why => exact .refl e
  | ok frame =>
    refine e.sendFrame_sends records ?_
    unfold responseFrame at made
    cases encoded : e.encodeContent reply with
    | error why =>
      rw [encoded] at made
      exact null frame made
    | ok body =>
      cases framed : Frame.ofContent ⟨true, typeId, requestId⟩ body with
      | error why =>
        simp only [encoded, bind, Except.bind, framed, Except.mapError] at made
        exact null frame made
      | ok found =>
        simp only [encoded, bind, Except.bind, framed, Except.mapError] at made
        cases made
        exact e.within_of_body encoded framed fun nobody => somebody nobody.2

omit [Transport τ] records in
theorem foldl_sends {α : Type} {f : Endpoint τ → α → Endpoint τ} (each : ∀ e a, Sends handed e (f e a))
    (parts : List α) (e : Endpoint τ) : Sends handed e (parts.foldl f e) := by
  induction parts generalizing e with
  | nil => exact .refl e
  | cons first others ih => exact (each e first).trans (ih (f e first))

theorem dispatch_sends (typeId requestId : Nat) (content : Value) :
    Sends handed e (e.dispatch typeId requestId content) := by
  unfold dispatch
  cases e.handlers.bind (·.lookup typeId) with
  | none => exact .refl e
  | some handler =>
    have told := foldl_sends (fun e notice => notify_sends records e notice.1 notice.2)
      (handler.run content).notices e
    simp only
    split
    · exact told
    · rename_i owed
      exact told.trans (respond_sends records _ (fun nobody => owed (.inr nobody)) _)

theorem deliver_sends (p : Packet) : Sends handed e (e.deliver p) := by
  have told : Sends handed e ((e.tell p).note (.settled p)) := .of_same rfl rfl
  unfold deliver settle
  split
  · exact told.trans (.of_same rfl rfl)
  · exact told.trans (dispatch_sends records _ p.typeId p.requestId p.content)

theorem feed_sends (bytes : Bytes) : Sends handed e (e.feed bytes) := by
  have read : Sends handed e { e with deframer := (e.deframer.feed bytes).1 } := .of_same rfl rfl
  exact read.trans (foldl_sends (deliver_sends records) (e.deframer.feed bytes).2 _)

end Endpoint

-- What makes an endpoint send: a call, bytes that come in, and a request to many, the endpoint among them.
inductive Transmission where
  | call (typeId : Nat) (content : Value) (options : CallOptions) (now : Instant)
  | feed (bytes : Bytes)
  | broadcast (typeId : Nat) (content : Value)

namespace Endpoint

section
variable {τ : Type} [Transport τ]

def transmit (e : Endpoint τ) : Transmission → Endpoint τ
  | .call typeId content o now => (e.call typeId content o now).2
  | .feed bytes => e.feed bytes
  | .broadcast typeId content =>
    match broadcastFrame typeId content with
    | .error _ => e
    | .ok frame => (e.offerFrame frame).2

variable {typeId : Nat} {content : Value} {frame : Bytes}

theorem transmit_refused {why : RpcError} (refused : broadcastFrame typeId content = .error why) (e : Endpoint τ) :
    e.transmit (.broadcast typeId content) = e := by
  simp only [transmit, refused]

theorem transmit_broadcast (made : broadcastFrame typeId content = .ok frame) (e : Endpoint τ) :
    e.transmit (.broadcast typeId content) = (e.offerFrame frame).2 := by
  simp only [transmit, made]

theorem broadcast_eq (es : List (Endpoint τ)) (typeId : Nat) (content : Value) :
    (broadcast es typeId content).2 = es.map (·.transmit (.broadcast typeId content)) := by
  unfold broadcast
  cases made : broadcastFrame typeId content with
  | error why =>
    simp only [transmit_refused made, List.map_id']
  | ok frame =>
    simp only [transmit_broadcast made, List.map_map]
    rfl

end

theorem broadcastFrame_eq_ok {typeId : Nat} {content : Value} {frame : Bytes} :
    broadcastFrame typeId content = .ok frame ↔ (Packet.request typeId 0 content).encode = .ok frame := by
  unfold broadcastFrame
  cases (Packet.request typeId 0 content).encode with
  | error why => exact ⟨nofun, nofun⟩
  | ok found =>
    constructor
    · rintro ⟨⟩
      rfl
    · rintro ⟨⟩
      rfl

-- The frame is within a limit exactly if the content is; the limit itself is not asked for.
theorem within_broadcastFrame {typeId : Nat} {content : Value} {frame : Bytes}
    (made : broadcastFrame typeId content = .ok frame) (limit : Nat) :
    Frame.Within limit frame ↔ content.fits limit = true := by
  have packed := broadcastFrame_eq_ok.mp made
  constructor
  · rintro ⟨p, same, fits, answers⟩
    cases Packet.encode_inj same answers packed nofun
    exact fits
  · exact fun fits => ⟨_, packed, fits, nofun⟩

section
variable {τ : Type} [Transport τ] {handed : τ → List Bytes} (records : Records handed)
include records

theorem transmit_frames {e : Endpoint τ} {t : τ} (attached : e.transport = some t) (op : Transmission) :
    (e.transmit op).config = e.config ∧ ∃ t' new, (e.transmit op).transport = some t' ∧
      handed t' = handed t ++ new ∧ (∀ frame ∈ new, Frame.Packed frame) ∧
      ((∀ frame ∈ new, Frame.Within e.config.frame.limit frame) ↔ ∀ typeId content frame,
        op = .broadcast typeId content → broadcastFrame typeId content = .ok frame →
          content.fits e.config.frame.limit = true) := by
  have limited : ∀ e', Sends handed e e' → e'.config = e.config ∧ ∃ t' new, e'.transport = some t' ∧
      handed t' = handed t ++ new ∧ ∀ frame ∈ new, Frame.Within e.config.frame.limit frame := by
    intro e' sends
    obtain ⟨new, sent, within⟩ := sends.frames
    rw [attached] at sent
    obtain ⟨t', there, shown⟩ := Option.map_eq_some_iff.mp sent
    exact ⟨sends.config, t', new, there, shown, within⟩
  cases op with
  | call typeId content o now =>
    obtain ⟨config, t', new, there, shown, within⟩ := limited _ (e.call_sends records typeId content o now)
    refine ⟨config, t', new, there, shown, fun frame member => (within frame member).packed, ?_⟩
    exact ⟨fun _ _ _ _ => nofun, fun _ => within⟩
  | feed bytes =>
    obtain ⟨config, t', new, there, shown, within⟩ := limited _ (e.feed_sends records bytes)
    refine ⟨config, t', new, there, shown, fun frame member => (within frame member).packed, ?_⟩
    exact ⟨fun _ _ _ _ => nofun, fun _ => within⟩
  | broadcast typeId content =>
    cases made : broadcastFrame typeId content with
    | error why =>
      rw [transmit_refused made]
      refine ⟨rfl, t, [], attached, (List.append_nil _).symm, List.forall_mem_nil _, ?_⟩
      refine ⟨?_, fun _ => List.forall_mem_nil _⟩
      rintro - _ _ frame ⟨⟩ other
      cases made.symm.trans other
    | ok frame =>
      have sent : (e.offerFrame frame).2 = { e with transport := some (Transport.send frame t).2 } := by
        unfold offerFrame sendFrame
        rw [attached]
      rw [transmit_broadcast made, sent]
      refine ⟨rfl, _, [frame], rfl, records frame t, ?_, ?_⟩
      · exact List.forall_mem_singleton.mpr ⟨_, broadcastFrame_eq_ok.mp made, nofun⟩
      · rw [List.forall_mem_singleton, within_broadcastFrame made]
        constructor
        · rintro fits _ _ _ ⟨⟩ -
          exact fits
        · exact fun every => every typeId content frame rfl made

theorem transmitAll_frames {e : Endpoint τ} {t : τ} (attached : e.transport = some t) (run : List Transmission) :
    ∃ t' new, (run.foldl transmit e).transport = some t' ∧ handed t' = handed t ++ new ∧
      (∀ frame ∈ new, Frame.Packed frame) ∧
      ((∀ frame ∈ new, Frame.Within e.config.frame.limit frame) ↔ ∀ typeId content frame,
        .broadcast typeId content ∈ run → broadcastFrame typeId content = .ok frame →
          content.fits e.config.frame.limit = true) := by
  induction run generalizing e t with
  | nil =>
    refine ⟨t, [], attached, (List.append_nil _).symm, List.forall_mem_nil _, ?_⟩
    exact ⟨fun _ _ _ _ => nofun, fun _ => List.forall_mem_nil _⟩
  | cons op others ih =>
    obtain ⟨config, t', first, there, shown, packed, within⟩ := transmit_frames records attached op
    obtain ⟨t'', more, last, all, packed', within'⟩ := ih there
    rw [config] at within'
    refine ⟨t'', first ++ more, last, ?_, List.forall_mem_append.mpr ⟨packed, packed'⟩, ?_⟩
    · rw [all, shown, List.append_assoc]
    · rw [List.forall_mem_append, within, within']
      constructor
      · rintro ⟨here, later⟩ typeId content frame member made
        rcases List.mem_cons.mp member with same | other
        · exact here typeId content frame same.symm made
        · exact later typeId content frame other made
      · intro every
        exact ⟨fun typeId content frame same => every typeId content frame (same ▸ List.mem_cons_self),
          fun typeId content frame member => every typeId content frame (List.mem_cons_of_mem op member)⟩

-- Whatever an endpoint is made to send, its frames are within its limit exactly if the contents that were sent to many
-- are. A peer with the same limit takes those frames, and drops any other for its length.
theorem transmit_within_iff {e : Endpoint τ} {t : τ} (attached : e.transport = some t) (run : List Transmission) :
    let limit := e.config.frame.limit
    ∃ t' new, (run.foldl transmit e).transport = some t' ∧ handed t' = handed t ++ new ∧
      ((∀ frame ∈ new, Frame.Within limit frame) ↔ ∀ typeId content frame,
        .broadcast typeId content ∈ run → broadcastFrame typeId content = .ok frame →
          content.fits limit = true) ∧
      ∀ frame ∈ new, ∀ d : Deframer, d.isIdle = true → d.limit = limit → ∀ rest,
        (Frame.Within limit frame →
          ∃ p, d.feed (frame ++ rest) = ((d.emitted.feed rest).1, p :: (d.emitted.feed rest).2)) ∧
        (¬Frame.Within limit frame → d.feed (frame ++ rest) = (d.faulted .length).feed (frame.drop 2 ++ rest)) := by
  intro limit
  obtain ⟨t', new, there, shown, packed, within⟩ := transmitAll_frames records attached run
  refine ⟨t', new, there, shown, within, ?_⟩
  rintro frame member d idle same rest
  rw [← same]
  exact ⟨fun within => within.feed idle rest, fun beyond => (packed frame member).feed beyond idle rest⟩

end

-- A call that is too long sends nothing, and a request to many that is short enough is within the limit.
theorem transmit_within_short :
    let e : Endpoint Wire := (new { EndpointConfig.standard with frame := ⟨2, none, none⟩ }).attach ⟨[]⟩
    let run : List Transmission := [.call 12 (.list [.null]) .toMany 0, .broadcast 12 (.list [])]
    ∃ frames, (run.foldl transmit e).transport = some ⟨frames⟩ ∧ frames.length = 1 ∧
      ∀ frame ∈ frames, Frame.Within 2 frame := by
  intro e run
  have sent : (run.foldl transmit e).transport =
      some ⟨[[1, 7, 0, 2, 0, 2, 0, 0, 12, 2, 0, 251, 108, 14, 253]]⟩ := by cbv
  obtain ⟨t, new, there, shown, within, -⟩ := transmit_within_iff Wire.records (e := e) rfl run
  cases there.symm.trans sent
  refine ⟨_, sent, rfl, ?_⟩
  have fits : ∀ frame ∈ new, Frame.Within 2 frame := by
    refine within.mpr ?_
    rintro typeId content frame member -
    simp only [run, List.mem_cons, reduceCtorEq, Transmission.broadcast.injEq, List.not_mem_nil, or_false,
      false_or] at member
    rw [member.2]
    rfl
  cases shown
  exact fits

-- A request to many goes out at any length, where a call with the same content is refused.
theorem broadcast_beyond_limit :
    let e : Endpoint Wire := (new { EndpointConfig.standard with frame := ⟨2, none, none⟩ }).attach ⟨[]⟩
    let content := Value.list [.null]
    let frame : Bytes := [1, 7, 0, 3, 0, 3, 0, 0, 12, 2, 10, 0, 255, 34, 127, 2]
    (broadcast [e] 12 content).2.map (·.transport.map Wire.frames) = [some [frame]] ∧ ¬Frame.Within 2 frame ∧
      (e.call 12 content .toMany 0).2.transport.map Wire.frames = some [] ∧
      (Deframer.new 2).feed frame = (⟨.seeking false, 2, ⟨0, 1, 0, 0, 0, 1⟩⟩, []) := by
  have dropped : (Deframer.new 2).feed [1, 7, 0, 3, 0, 3, 0, 0, 12, 2, 10, 0, 255, 34, 127, 2] =
      (⟨.seeking false, 2, ⟨0, 1, 0, 0, 0, 1⟩⟩, []) := by cbv
  have made : broadcastFrame 12 (.list [.null]) = .ok [1, 7, 0, 3, 0, 3, 0, 0, 12, 2, 10, 0, 255, 34, 127, 2] := by
    cbv
  refine ⟨?_, ?_, rfl, dropped⟩
  · rw [broadcast_eq, List.map_singleton, List.map_singleton, transmit_broadcast made]
    rfl
  · rw [within_broadcastFrame made]
    exact Bool.false_ne_true

end Endpoint
end FramedRpc
