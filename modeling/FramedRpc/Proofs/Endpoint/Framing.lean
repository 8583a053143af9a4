import FramedRpc.Proofs.Endpoint.Limit
import FramedRpc.Proofs.Stream.Scratch

namespace FramedRpc
namespace Endpoint

variable {τ : Type} {handed : τ → List Bytes}

-- The id under which a call goes out. A call that the clock cannot tell the deadline of has none.
def callId? (e : Endpoint τ) (o : CallOptions) (now : Instant) : Option Nat :=
  if o.expectsResponse then
    match e.correlator.register now (o.expiryUnder e.config) with
    | (.ok ticket, correlator) => (correlator.call? ticket).map (·.requestId)
    | (.error _, _) => none
  else some 0

theorem framed_iff {e : Endpoint τ} {p : Packet} {frame : Bytes} :
    p.Framed e.config.frame.limit frame ↔
      ∃ body, e.encodeContent p.content = .ok body ∧ Frame.ofContent p.fields body = .ok frame := by
  unfold Packet.Framed Packet.encode
  cases written : Frame.encodeContent p.content with
  | error why =>
    refine ⟨fun framed => (nomatch framed.1), ?_⟩
    rintro ⟨body, encoded, -⟩
    cases written.symm.trans (encodeContent_eq_ok.mp encoded).1
  | ok content =>
    constructor
    · rintro ⟨made, _, ⟨⟩, within⟩
      exact ⟨content, encodeContent_eq_ok.mpr ⟨written, within⟩, made⟩
    · rintro ⟨body, encoded, made⟩
      obtain ⟨same, within⟩ := encodeContent_eq_ok.mp encoded
      cases written.symm.trans same
      exact ⟨made, content, rfl, within⟩

theorem isOk_map {ε α β : Type} (f : α → β) (r : Except ε α) : (r.map f).isOk = r.isOk := by
  cases r <;> rfl

theorem not_framed_of_prepare {e : Endpoint τ} {typeId : Nat} {content : Value} {o : CallOptions} {why : RpcError}
    (possible : o.conflict? = none) (refused : e.prepare typeId content o = .error why) (id : Nat) (frame : Bytes) :
    ¬(Packet.request typeId id content).Framed e.config.frame.limit frame := by
  intro framed
  obtain ⟨body, encoded, made⟩ := framed_iff.mp framed
  have type : typeId ≤ Frame.maxTypeId := (Frame.ofContent_eq_ok.mp made).1
  cases refused.symm.trans (prepare_eq_ok.mpr ⟨possible, type, encoded⟩)

variable [Transport τ]

-- A packet goes out of an endpoint: its frame is handed to the transport, or the transport is not touched.
structure Emits (handed : τ → List Bytes) (limit : Nat) (p : Packet) (e e' : Endpoint τ) : Prop where
  frame : ∀ frame, p.Framed limit frame → e'.transport.map handed = (e.transport.map handed).map (· ++ [frame])
  nothing : (∀ frame, ¬p.Framed limit frame) → e'.transport = e.transport

-- It went well if the transport was there and took the frame.
structure Hands (handed : τ → List Bytes) (limit : Nat) (p : Packet) (e : Endpoint τ) (well : Bool) (e' : Endpoint τ) :
    Prop extends Emits handed limit p e e' where
  succeeds : well = true ↔ ∃ frame, p.Framed limit frame ∧ (e.sendFrame frame).1.isOk = true

theorem Hands.refused {limit : Nat} {p : Packet} {e e' : Endpoint τ} (none : ∀ frame, ¬p.Framed limit frame)
    (same : e'.transport = e.transport) : Hands handed limit p e false e' where
  frame frame framed := absurd framed (none frame)
  nothing _ := same
  succeeds := ⟨nofun, fun ⟨frame, framed, _⟩ => absurd framed (none frame)⟩

theorem isOk_sendFrame {e : Endpoint τ} (off : e.transport = none) (frame : Bytes) :
    (e.sendFrame frame).1.isOk = false := by
  unfold sendFrame
  rw [off]
  rfl

theorem Hands.disconnected {limit : Nat} {p : Packet} {e e' : Endpoint τ} (off : e.transport = none)
    (same : e'.transport = e.transport) : Hands handed limit p e false e' where
  frame _ _ := by
    rw [same, off]
    rfl
  nothing _ := same
  succeeds := by
    refine ⟨nofun, fun ⟨frame, _, sent⟩ => ?_⟩
    rw [isOk_sendFrame off] at sent
    cases sent

theorem sendFrame_transport {e e' : Endpoint τ} (same : e'.transport = e.transport) (frame : Bytes) :
    (e'.sendFrame frame).1 = (e.sendFrame frame).1 ∧
      (e'.sendFrame frame).2.transport = (e.sendFrame frame).2.transport := by
  unfold sendFrame
  rw [same]
  cases attached : e.transport with
  | none => exact ⟨rfl, same⟩
  | some t => exact ⟨rfl, rfl⟩

section

variable (records : Records handed)
include records

theorem Hands.sent {e e' : Endpoint τ} {limit : Nat} {p : Packet} {frame : Bytes} (framed : p.Framed limit frame)
    (after : e'.transport = (e.sendFrame frame).2.transport) :
    Hands handed limit p e (e.sendFrame frame).1.isOk e' where
  frame other also := by
    cases framed.unique also
    rw [after]
    unfold sendFrame
    cases attached : e.transport with
    | none =>
      simp only [attached]
      rfl
    | some t => exact congrArg some (records frame t)
  nothing none := absurd framed (none frame)
  succeeds := ⟨fun well => ⟨frame, framed, well⟩, fun ⟨_, also, well⟩ => framed.unique also ▸ well⟩

theorem sendOneWay_hands (e : Endpoint τ) (typeId : Nat) {content : Value} {body : Bytes}
    (encoded : e.encodeContent content = .ok body) :
    Hands handed e.config.frame.limit (.request typeId 0 content) e (e.sendOneWay typeId body).1.isOk
      (e.sendOneWay typeId body).2 := by
  unfold sendOneWay
  cases made : Frame.ofContent ⟨false, typeId, 0⟩ body with
  | error why =>
    refine .refused (fun frame framed => ?_) rfl
    obtain ⟨_, same, fine⟩ := framed_iff.mp framed
    cases encoded.symm.trans same
    cases made.symm.trans fine
  | ok frame => exact .sent records (framed_iff.mpr ⟨body, encoded, made⟩) rfl

theorem sendAwaited_hands (e : Endpoint τ) (typeId : Nat) {id : Nat} {content : Value} {body : Bytes} {now : Instant}
    {expiry : Option Duration} {ticket : Nat} {correlator : Correlator}
    (registered : e.correlator.register now expiry = (.ok ticket, correlator))
    (given : (correlator.call? ticket).map (·.requestId) = some id) (encoded : e.encodeContent content = .ok body) :
    Hands handed e.config.frame.limit (.request typeId id content) e (e.sendAwaited typeId body now expiry).1.isOk
      (e.sendAwaited typeId body now expiry).2 := by
  unfold sendAwaited
  cases on : e.isConnected with
  | false =>
    have off : e.transport = none := Option.isNone_iff_eq_none.mp (Option.isSome_eq_false_iff.mp on)
    simp only [Bool.not_false, if_true]
    exact .disconnected off rfl
  | true =>
    simp only [Bool.not_true, Bool.false_eq_true, if_false, registered, given, Option.getD_some]
    cases made : Frame.ofContent ⟨false, typeId, id⟩ body with
    | error why =>
      refine .refused (fun frame framed => ?_) rfl
      obtain ⟨_, same, fine⟩ := framed_iff.mp framed
      cases encoded.symm.trans same
      cases made.symm.trans fine
    | ok frame =>
      have framed : (Packet.request typeId id content).Framed e.config.frame.limit frame :=
        framed_iff.mpr ⟨body, encoded, made⟩
      obtain ⟨result, after⟩ := sendFrame_transport (e := e) (show { e with correlator }.transport = _ from rfl) frame
      simp only
      cases sent : sendFrame { e with correlator } frame with
      | mk outcome later =>
        rw [sent] at result after
        have went : Hands handed e.config.frame.limit (.request typeId id content) e outcome.isOk later := by
          rw [show outcome = (e.sendFrame frame).1 from result]
          exact .sent records framed after
        cases outcome with
        | ok done => exact went
        | error why => exact ⟨⟨went.frame, went.nothing⟩, went.succeeds⟩

theorem call_hands (e : Endpoint τ) {o : CallOptions} (possible : o.conflict? = none) {now : Instant} {id : Nat}
    (given : e.callId? o now = some id) (typeId : Nat) (content : Value) :
    Hands handed e.config.frame.limit (.request typeId id content) e (e.call typeId content o now).1.isOk
      (e.call typeId content o now).2 := by
  unfold call
  cases prepared : e.prepare typeId content o with
  | error why => exact .refused (not_framed_of_prepare possible prepared id) rfl
  | ok body =>
    have encoded := (prepare_eq_ok.mp prepared).2.2
    unfold callId? at given
    by_cases expects : o.expectsResponse = true
    · simp only [if_pos expects] at given ⊢
      split at given
      · rename_i ticket correlator registered
        rw [isOk_map]
        exact sendAwaited_hands records e typeId registered given encoded
      · cases given
    · simp only [if_neg expects] at given ⊢
      cases given
      rw [isOk_map]
      exact sendOneWay_hands records e typeId encoded

end

omit [Transport τ] in
theorem register_of_callId?_none {e : Endpoint τ} {o : CallOptions} {now : Instant} (absent : e.callId? o now = none) :
    o.expectsResponse = true ∧
      ∃ why correlator, e.correlator.register now (o.expiryUnder e.config) = (.error why, correlator) := by
  unfold callId? at absent
  by_cases expects : o.expectsResponse = true
  · rw [if_pos expects] at absent
    split at absent
    · rename_i ticket correlator entered
      obtain ⟨call, recorded⟩ := Correlator.register_recorded entered
      rw [recorded] at absent
      cases absent
    · rename_i why correlator refused
      exact ⟨expects, why, correlator, refused⟩
  · rw [if_neg expects] at absent
    cases absent

theorem call_idle (e : Endpoint τ) {o : CallOptions} {now : Instant}
    (idle : o.conflict? ≠ none ∨ e.callId? o now = none) (typeId : Nat) (content : Value) :
    (e.call typeId content o now).1.isOk = false ∧ (e.call typeId content o now).2.transport = e.transport := by
  unfold call
  cases prepared : e.prepare typeId content o with
  | error why => exact ⟨rfl, rfl⟩
  | ok body =>
    have absent : e.callId? o now = none := idle.resolve_left fun conflict => conflict (prepare_eq_ok.mp prepared).1
    obtain ⟨expects, why, correlator, refused⟩ := register_of_callId?_none absent
    simp only [if_pos expects]
    unfold sendAwaited
    cases e.isConnected with
    | false => exact ⟨rfl, rfl⟩
    | true =>
      simp only [Bool.not_true, Bool.false_eq_true, if_false, refused]
      exact ⟨rfl, trivial⟩

theorem respond_framed {e : Endpoint τ} {typeId requestId : Nat} {reply : Value} {frame : Bytes}
    (framed : (Packet.response typeId requestId reply).Framed e.config.frame.limit frame) :
    e.respond typeId requestId reply = e.sendFrame frame := by
  obtain ⟨body, encoded, made⟩ := framed_iff.mp framed
  have around : Frame.ofContent ⟨true, typeId, requestId⟩ body = .ok frame := made
  have within : e.encodeContent reply = .ok body := encoded
  unfold respond responseFrame
  rw [within]
  simp only [bind, Except.bind, around, Except.mapError]

theorem respond_null {e : Endpoint τ} {typeId requestId : Nat} {reply : Value}
    (none : ∀ frame, ¬(Packet.response typeId requestId reply).Framed e.config.frame.limit frame) :
    e.respond typeId requestId reply =
      match (Packet.response typeId requestId .null).encode with
      | .error why => (.error (.frame why), e)
      | .ok frame => e.sendFrame frame := by
  have instead : e.responseFrame typeId requestId reply =
      (Packet.response typeId requestId .null).encode.mapError .frame := by
    unfold responseFrame
    cases encoded : e.encodeContent reply with
    | error why => rfl
    | ok body =>
      cases made : Frame.ofContent ⟨true, typeId, requestId⟩ body with
      | error why => simp only [bind, Except.bind, made, Except.mapError]
      | ok frame =>
        have framed : (Packet.response typeId requestId reply).Framed e.config.frame.limit frame :=
          framed_iff.mpr ⟨body, encoded, made⟩
        exact absurd framed (none frame)
  unfold respond
  rw [instead]
  cases (Packet.response typeId requestId .null).encode with
  | error why => rfl
  | ok frame => rfl

theorem respond_null_emits (records : Records handed) {e : Endpoint τ} {typeId requestId : Nat} {reply : Value}
    (none : ∀ frame, ¬(Packet.response typeId requestId reply).Framed e.config.frame.limit frame) :
    Emits handed e.config.frame.limit (.response typeId requestId .null) e (e.respond typeId requestId reply).2 := by
  rw [respond_null none]
  cases packed : (Packet.response typeId requestId .null).encode with
  | error why =>
    refine (Hands.refused (fun frame framed => ?_) rfl).toEmits
    cases packed.symm.trans framed.1
  | ok frame => exact (Hands.sent records ⟨packed, [], rfl, Nat.zero_le _⟩ rfl).toEmits

end Endpoint

def Handler.reply (handler : Handler) (content : Value) : Value :=
  match (handler.run content).outcome with
  | .ok v => v
  | .error _ => .null

namespace Endpoint

variable {τ : Type} [Transport τ]

def notifyAll (e : Endpoint τ) (notices : List (Nat × Value)) : Endpoint τ :=
  notices.foldl (fun e notice => e.notify notice.1 notice.2) e

theorem dispatch_eq {e : Endpoint τ} {table : HandlerTable} {handler : Handler} {typeId requestId : Nat}
    (handlers : e.handlers = some table) (found : table.lookup typeId = some handler)
    (responds : handler.noRespond = false) (somebody : requestId ≠ 0) (content : Value) :
    e.dispatch typeId requestId content =
      ((e.notifyAll (handler.run content).notices).respond typeId requestId (handler.reply content)).2 := by
  unfold dispatch
  rw [handlers, Option.bind_some, found]
  simp only
  rw [if_neg (by rw [responds]; exact fun either => either.elim Bool.false_ne_true somebody)]
  rfl

theorem dispatch_emits {handed : τ → List Bytes} (records : Records handed) {e : Endpoint τ} {table : HandlerTable}
    {handler : Handler} {typeId requestId : Nat} (handlers : e.handlers = some table)
    (found : table.lookup typeId = some handler) (responds : handler.noRespond = false) (somebody : requestId ≠ 0)
    (content : Value) :
    let told := e.notifyAll (handler.run content).notices
    let after := e.dispatch typeId requestId content
    let answer := Packet.response typeId requestId (handler.reply content)
    (∀ frame, answer.Framed e.config.frame.limit frame →
      after.transport.map handed = (told.transport.map handed).map (· ++ [frame])) ∧
    ((∀ frame, ¬answer.Framed e.config.frame.limit frame) →
      Emits handed e.config.frame.limit (.response typeId requestId .null) told after) := by
  intro told after answer
  have notices : Sends handed e told :=
    foldl_sends (fun e (notice : Nat × Value) => notify_sends records e notice.1 notice.2) _ e
  have responded : after = (told.respond typeId requestId (handler.reply content)).2 :=
    dispatch_eq handlers found responds somebody content
  rw [responded, ← notices.config]
  refine ⟨fun frame framed => ?_, respond_null_emits records⟩
  rw [respond_framed framed]
  exact (Hands.sent records framed rfl).frame frame framed

end Endpoint

-- Whoever frames a packet, its frame under a limit comes out or nothing does.
structure Packet.Agreement (limit : Nat) (p : Packet) : Prop where
  pack : p.pack = p.encode
  into : ∀ buffer, p.packInto buffer = Frame.onto p.pack buffer
  -- Around a content that was made before.
  content : ∀ content, Frame.generateContent p.content [] = (.ok (), content) →
    ∀ buffer, Frame.putContent p.fields content buffer = Frame.onto p.pack buffer
  fresh : ∀ (w : PacketWriter) (scratch : PacketWriter.Scratch) (sink : Sink),
    ((w.sendFrom scratch p sink).1, (w.sendFrom scratch p sink).2.2) = w.send p sink
  writer : ∀ (w : PacketWriter), w.limit = limit → ∀ (scratch : PacketWriter.Scratch) (sink : Sink), sink.TakesAll →
    ∀ history : List Packet,
      let before := w.sendAll (scratch, sink) history
      let sent := w.sendFrom before.1 p before.2
      Adds limit p sent.1 before.2.taken sent.2.2.taken
  untouched : (∀ frame, ¬p.Framed limit frame) →
    ∀ (w : PacketWriter), w.limit = limit → ∀ (scratch : PacketWriter.Scratch) (sink : Sink),
      (w.sendFrom scratch p sink).2.2 = sink
  queue : ∀ (q : PacketQueue), q.limit = limit → ∀ scratch buffer : Bytes,
    let made := q.encodeFrom scratch p buffer
    (made.1, made.2.2) = q.encode p buffer ∧ Adds limit p made.1 buffer made.2.2
  -- A call that gets the request id of the packet.
  call : p.isResponse = false →
    ∀ {τ : Type} [Transport τ] {handed : τ → List Bytes}, Records handed →
    ∀ (e : Endpoint τ), e.config.frame.limit = limit →
    ∀ (o : CallOptions) (now : Instant), o.conflict? = none → e.callId? o now = some p.requestId →
      let called := e.call p.typeId p.content o now
      e.Hands handed limit p called.1.isOk called.2
  idle : ∀ {τ : Type} [Transport τ] (e : Endpoint τ) (o : CallOptions) (now : Instant),
    o.conflict? ≠ none ∨ e.callId? o now = none →
      let called := e.call p.typeId p.content o now
      called.1.isOk = false ∧ called.2.transport = e.transport
  -- An answer goes out behind the notices of its handler; null stands in for one that has no frame.
  answer : p.isResponse = true → p.requestId ≠ 0 →
    ∀ {τ : Type} [Transport τ] {handed : τ → List Bytes}, Records handed →
    ∀ (e : Endpoint τ), e.config.frame.limit = limit →
    ∀ (table : HandlerTable) (handler : Handler) (content : Value),
      e.handlers = some table → table.lookup p.typeId = some handler → handler.noRespond = false →
      handler.reply content = p.content →
      let told := e.notifyAll (handler.run content).notices
      let after := e.dispatch p.typeId p.requestId content
      (∀ frame, p.Framed limit frame → after.transport.map handed = (told.transport.map handed).map (· ++ [frame])) ∧
      ((∀ frame, ¬p.Framed limit frame) →
        told.Emits handed limit (.response p.typeId p.requestId .null) after)

theorem Packet.ways_agree (limit : Nat) (p : Packet) : p.Agreement limit where
  pack := p.pack_eq
  into buffer := by rw [p.pack_eq, p.packInto_eq]
  content content generated buffer := by
    rw [p.pack_eq]
    refine Packet.putContent_eq_onto ?_ buffer
    rw [Frame.generateContent_eq] at generated
    cases encoded : Frame.encodeContent p.content with
    | error why =>
      rw [encoded] at generated
      cases generated
    | ok made =>
      rw [encoded] at generated
      cases generated
      rfl
  fresh w scratch sink := w.sendFrom_eq scratch p sink
  writer := by
    rintro w rfl scratch sink takes history before sent
    have same := w.sendFrom_eq before.1 p before.2
    have takes' : before.2.TakesAll := PacketWriter.sendAll_takesAll takes scratch history
    have added := (PacketWriter.send_takesAll (w := w) takes' p).2
    rw [← same] at added
    exact added
  untouched := by
    rintro none w rfl scratch sink
    exact (congrArg Prod.snd (w.sendFrom_eq scratch p sink)).trans (PacketWriter.send_untouched none sink)
  queue := by
    rintro q rfl scratch buffer made
    have same : (made.1, made.2.2) = q.encode p buffer := q.encodeFrom_eq scratch p buffer
    have added := q.encode_adds p buffer
    rw [← same] at added
    exact ⟨same, added⟩
  call := by
    obtain ⟨isResponse, typeId, requestId, content⟩ := p
    rintro ⟨⟩ τ _ handed records e rfl o now possible given called
    exact e.call_hands records possible given typeId content
  idle e o now refused := e.call_idle refused p.typeId p.content
  answer := by
    obtain ⟨isResponse, typeId, requestId, content⟩ := p
    rintro ⟨⟩ somebody τ _ handed records e rfl table handler asked handlers found responds ⟨⟩
    exact Endpoint.dispatch_emits records handlers found responds somebody asked

-- Behind two packets that were refused, in buffers that they were tried in, and as the first call of an endpoint.
theorem Packet.ways_agree_after_refusals :
    let p := Packet.request 12 1 (.list [.null])
    let frame : Bytes := [1, 7, 0, 3, 0, 3, 0, 1, 12, 2, 10, 0, 79, 11, 31, 63]
    let w : PacketWriter := ⟨3, true⟩
    let before := w.sendAll (⟨[5], [6]⟩, .ofReplies [.accept 3] [])
      [.request 12 2 (.string "a"), .request 12 3 (.list [.null, .null])]
    let e : Endpoint Wire := (Endpoint.new { EndpointConfig.standard with frame := ⟨3, none, none⟩ }).attach ⟨[]⟩
    p.Framed 3 frame ∧ before.1.content ≠ [] ∧ (w.sendFrom before.1 p before.2).2.2.taken = frame ∧
      (e.call 12 (.list [.null]) .blockingCall 0).2.transport.map Wire.frames = some [frame] := by
  intro p frame w before e
  have agreement := p.ways_agree 3
  have framed : p.Framed 3 frame := ⟨by cbv, [2, 10, 0], rfl, by decide⟩
  have takes : (Sink.ofReplies [.accept 3] []).TakesAll :=
    ⟨rfl, fun reply member => ⟨2, List.mem_singleton.mp member⟩, List.forall_mem_nil _⟩
  have refused : before = (⟨[2, 10, 10, 0], [6]⟩, .ofReplies [.accept 3] []) := rfl
  refine ⟨framed, by rw [refused]; exact List.cons_ne_nil _ _, ?_, ?_⟩
  · rw [(agreement.writer w rfl _ _ takes _).frame frame framed]
    exact congrArg (·.2.taken ++ frame) refused
  · exact (agreement.call rfl Wire.records e rfl .blockingCall 0 rfl rfl).frame frame framed

end FramedRpc
