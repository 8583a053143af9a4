import Mathlib.Data.List.Basic
import FramedRpc.Endpoint.Dispatch
import FramedRpc.Proofs.Endpoint.Correlator
import FramedRpc.Proofs.Frame.RoundTrip

namespace FramedRpc

-- A transport that takes every frame and keeps it.
structure Wire where
  frames : List Bytes

instance : Transport Wire := ⟨fun frame wire => (.ok (), ⟨wire.frames ++ [frame]⟩)⟩

-- Null, and a container whose encoding is no longer than the limit.
def Value.fits (limit : Nat) (v : Value) : Bool :=
  v.isNull || v.isContainer &&
    match v.encode with
    | .ok body => body.length ≤ limit
    | .error _ => false

theorem Value.fits_exact {limit : Nat} {v : Value} :
    v.fits limit = true ↔ ∃ body, Frame.encodeContent v = .ok body ∧ body.length ≤ limit := by
  unfold fits Frame.encodeContent
  cases v with
  | scalar s =>
    cases s with
    | null => exact ⟨fun _ => ⟨[], rfl, Nat.zero_le limit⟩, fun _ => rfl⟩
    | _ => exact ⟨nofun, fun ⟨_, encoded, _⟩ => nomatch encoded⟩
  | list items => cases (Value.list items).encode <;> simp [isNull, isContainer]
  | map entries => cases (Value.map entries).encode <;> simp [isNull, isContainer]

theorem Value.length_le_of_fits {limit : Nat} {v : Value} (fits : v.fits limit = true) (content : Bytes)
    (encoded : Frame.encodeContent v = .ok content) : content.length ≤ limit := by
  obtain ⟨body, same, short⟩ := Value.fits_exact.mp fits
  cases encoded.symm.trans same
  exact short

-- What a caller gets for an answer: its value, or null where there is none that can be sent.
def Answer.reply (limit : Nat) (answer : Answer) : Value :=
  match answer.outcome with
  | .ok v => if v.fits limit then v else .null
  | .error _ => .null

namespace HandlerTable

def answer? (table : HandlerTable) (limit typeId : Nat) (content : Value) : Option Value :=
  match table.lookup typeId with
  | none => none
  | some handler => if handler.noRespond then none else some ((handler.run content).reply limit)

-- No handler sends requests of its own.
def Silent (table : HandlerTable) : Prop :=
  ∀ typeId handler, table.lookup typeId = some handler → ∀ content, (handler.run content).notices = []

theorem silent_of_slots {table : HandlerTable}
    (silent : ∀ handler, some handler ∈ table.slots → ∀ content, (handler.run content).notices = []) :
    table.Silent := by
  intro typeId handler found
  exact silent handler (List.mem_of_getElem? (Option.join_eq_some_iff.mp found))

end HandlerTable

namespace Packet

-- The response that a packet is owed.
def reply? (table : HandlerTable) (limit : Nat) (p : Packet) : Option Packet :=
  if p.expectsResponse then (table.answer? limit p.typeId p.content).map (response p.typeId p.requestId) else none

-- A deframer with this limit takes the frame of such a packet.
def Admissible (limit : Nat) (p : Packet) : Prop :=
  p.content.fits limit = true ∧ ¬(p.isResponse ∧ p.requestId = 0)

end Packet

theorem Answer.reply_eq (limit : Nat) (answer : Answer) :
    let v := match answer.outcome with
      | .ok v => v
      | .error _ => .null
    answer.reply limit = if v.fits limit then v else .null := by
  unfold reply
  cases answer.outcome with
  | ok v => rfl
  | error why => exact (ite_self Value.null).symm

theorem Packet.reply?_request (table : HandlerTable) (limit typeId requestId : Nat) (content : Value) :
    (request typeId requestId content).reply? table limit =
      match table.lookup typeId with
      | none => none
      | some handler =>
        if handler.noRespond ∨ requestId = 0 then none
        else some (response typeId requestId ((handler.run content).reply limit)) := by
  unfold reply? HandlerTable.answer? expectsResponse
  simp only [request]
  cases table.lookup typeId with
  | none => exact ite_self none
  | some handler => by_cases nobody : requestId = 0 <;> by_cases no : handler.noRespond <;> simp [nobody, no]

theorem Answer.reply_fits (limit : Nat) (answer : Answer) : (answer.reply limit).fits limit = true := by
  unfold reply
  cases answer.outcome with
  | error why => rfl
  | ok v =>
    by_cases fits : v.fits limit
    · simp only [if_pos fits]
      exact fits
    · simp only [if_neg fits]
      rfl

theorem HandlerTable.answer?_fits {table : HandlerTable} {limit typeId : Nat} {content v : Value}
    (answered : table.answer? limit typeId content = some v) : v.fits limit = true := by
  unfold answer? at answered
  cases found : table.lookup typeId with
  | none =>
    rw [found] at answered
    cases answered
  | some handler =>
    rw [found] at answered
    simp only at answered
    split at answered
    · cases answered
    · cases answered
      exact (handler.run content).reply_fits limit

theorem Packet.reply?_eq_some {table : HandlerTable} {limit : Nat} {p r : Packet} :
    p.reply? table limit = some r ↔ p.isResponse = false ∧ p.requestId ≠ 0 ∧
      ∃ v, table.answer? limit p.typeId p.content = some v ∧ response p.typeId p.requestId v = r := by
  unfold reply? expectsResponse
  cases p.isResponse with
  | true => simp
  | false => by_cases nobody : p.requestId = 0 <;> simp [nobody]

theorem Packet.reply?_admissible {table : HandlerTable} {limit : Nat} {p r : Packet}
    (owed : p.reply? table limit = some r) : r.Admissible limit := by
  obtain ⟨-, somebody, v, answered, rfl⟩ := reply?_eq_some.mp owed
  exact ⟨HandlerTable.answer?_fits answered, fun nobody => somebody nobody.2⟩

theorem Packet.replies_sublist (table : HandlerTable) (limit : Nat) (packets : List Packet) :
    ((packets.filterMap (·.reply? table limit)).map (·.requestId)).Sublist (packets.map (·.requestId)) := by
  induction packets with
  | nil => exact .slnil
  | cons p others ih =>
    rw [List.filterMap_cons]
    cases owed : p.reply? table limit with
    | none => exact ih.cons p.requestId
    | some r =>
      obtain ⟨-, -, v, -, rfl⟩ := reply?_eq_some.mp owed
      exact ih.cons_cons p.requestId

theorem Packet.reply?_response (table : HandlerTable) (limit : Nat) {p : Packet} (response : p.isResponse = true) :
    p.reply? table limit = none := by
  cases owed : p.reply? table limit with
  | none => rfl
  | some r =>
    have request := (reply?_eq_some.mp owed).1
    rw [response] at request
    cases request

theorem Packet.filter_reply? (table : HandlerTable) (limit : Nat) (p : Packet) :
    (p.reply? table limit).toList.filter (·.isResponse) = (p.reply? table limit).toList ∧
      (p.reply? table limit).toList.filter (!·.isResponse) = [] := by
  cases owed : p.reply? table limit with
  | none => exact ⟨rfl, rfl⟩
  | some r =>
    obtain ⟨-, -, v, -, rfl⟩ := reply?_eq_some.mp owed
    exact ⟨rfl, rfl⟩

theorem Packet.filterMap_reply? (table : HandlerTable) (limit : Nat) (packets : List Packet) :
    packets.filterMap (·.reply? table limit) =
      (packets.filter (!·.isResponse)).filterMap (·.reply? table limit) := by
  rw [List.filterMap_filter]
  apply List.filterMap_congr
  intro packet _
  cases response : packet.isResponse with
  | true => exact reply?_response table limit response
  | false => rfl

namespace Endpoint

theorem encodeContent_eq_ok {τ : Type} {e : Endpoint τ} {v : Value} {body : Bytes} :
    e.encodeContent v = .ok body ↔ Frame.encodeContent v = .ok body ∧ body.length ≤ e.config.frame.limit := by
  unfold encodeContent
  cases Frame.encodeContent v with
  | error why => simp
  | ok found =>
    by_cases large : e.config.frame.limit < found.length
    · simp only [if_pos large]
      constructor
      · exact nofun
      · rintro ⟨⟨⟩, short⟩
        omega
    · simp only [if_neg large]
      constructor
      · rintro ⟨⟩
        exact ⟨rfl, Nat.le_of_not_lt large⟩
      · rintro ⟨⟨⟩, -⟩
        rfl

theorem prepare_eq_ok {τ : Type} {e : Endpoint τ} {typeId : Nat} {content : Value} {o : CallOptions} {body : Bytes} :
    e.prepare typeId content o = .ok body ↔
      o.conflict? = none ∧ typeId ≤ Frame.maxTypeId ∧ e.encodeContent content = .ok body := by
  unfold prepare
  cases o.conflict? with
  | some why => simp
  | none =>
    by_cases large : Frame.maxTypeId < typeId
    · simp [large, Nat.not_le_of_lt large]
    · simp [large, Nat.le_of_not_lt large]

theorem ofContent_encodeContent {τ : Type} {e : Endpoint τ} (small : e.config.frame.limit ≤ Frame.maxContentLength)
    {p : Packet} {body : Bytes} (encoded : e.encodeContent p.content = .ok body)
    (type : p.typeId ≤ Frame.maxTypeId) (id : p.requestId ≤ Frame.maxRequestId) :
    ∃ frame, Frame.ofContent p.fields body = .ok frame ∧ p.encode = .ok frame := by
  obtain ⟨written, short⟩ := encodeContent_eq_ok.mp encoded
  have made : Frame.ofContent p.fields body = .ok (Frame.assemble p.fields body) :=
    Frame.ofContent_eq_ok.mpr ⟨type, id, Nat.le_trans short small, rfl⟩
  refine ⟨_, made, ?_⟩
  unfold Packet.encode
  rw [written]
  exact made

section

variable {τ : Type} [Transport τ] {e after : Endpoint τ} (connected : e.isConnected = true) {typeId : Nat}
  {body frame : Bytes} {now : Instant} {expiry : Option Duration} {ticket : Nat} {correlator : Correlator}
  (registered : e.correlator.register now expiry = (.ok ticket, correlator)) {record : PendingCall}
  (recorded : correlator.call? ticket = some record)
  (made : Frame.ofContent ⟨false, typeId, record.requestId⟩ body = .ok frame)
include connected registered recorded made

theorem sendAwaited_entered (sent : sendFrame { e with correlator } frame = (.ok (), after)) :
    e.sendAwaited typeId body now expiry = (.ok ticket, after) := by
  unfold sendAwaited
  simp [connected, registered, recorded, made, sent]

theorem sendAwaited_withdrawn {why : RpcError} (failed : sendFrame { e with correlator } frame = (.error why, after)) :
    e.sendAwaited typeId body now expiry =
      (.error why, { after with correlator := (after.correlator.cancel record.requestId).2 }) := by
  unfold sendAwaited
  simp [connected, registered, recorded, made, failed]

end

-- A response that does not fit is sent as null, which always does.
theorem responseFrame_eq {τ : Type} {e : Endpoint τ} (small : e.config.frame.limit ≤ Frame.maxContentLength)
    {typeId requestId : Nat} (type : typeId ≤ Frame.maxTypeId) (id : requestId ≤ Frame.maxRequestId) (v : Value) :
    ∃ frame, e.responseFrame typeId requestId v = .ok frame ∧
      (Packet.response typeId requestId (if v.fits e.config.frame.limit then v else .null)).encode = .ok frame := by
  unfold responseFrame
  by_cases fits : v.fits e.config.frame.limit
  · obtain ⟨body, encoded⟩ := Value.fits_exact.mp fits
    have within := encodeContent_eq_ok.mpr encoded
    obtain ⟨frame, made, packed⟩ :=
      ofContent_encodeContent (p := .response typeId requestId v) small within type id
    have fields : Frame.ofContent ⟨true, typeId, requestId⟩ body = .ok frame := made
    refine ⟨frame, ?_, ?_⟩
    · rw [within]
      simp only [bind, Except.bind, fields, Except.mapError]
    · rw [if_pos fits]
      exact packed
  · obtain ⟨frame, packed⟩ : ∃ frame, (Packet.response typeId requestId .null).encode = .ok frame :=
      ⟨_, Packet.encode_eq_ok.mpr ⟨[], rfl, type, id, Nat.zero_le _, rfl⟩⟩
    refine ⟨frame, ?_, ?_⟩
    · cases encoded : e.encodeContent v with
      | ok body => exact absurd (Value.fits_exact.mpr ⟨body, encodeContent_eq_ok.mp encoded⟩) fits
      | error why => simp only [bind, Except.bind, packed, Except.mapError]
    · rw [if_neg fits]
      exact packed

def onWire (e : Endpoint Wire) (frames : List Bytes) : Endpoint Wire := { e with transport := some ⟨frames⟩ }

section
variable {e : Endpoint Wire} {frames : List Bytes} (wired : e.transport = some ⟨frames⟩)
include wired

theorem onWire_self : e.onWire frames = e := by
  unfold onWire
  rw [← wired]

theorem sendFrame_wire (frame : Bytes) : e.sendFrame frame = (.ok (), e.onWire (frames ++ [frame])) := by
  unfold sendFrame
  rw [wired]
  rfl

variable (small : e.config.frame.limit ≤ Frame.maxContentLength)
include small

theorem respond_wire {typeId requestId : Nat} (type : typeId ≤ Frame.maxTypeId)
    (id : requestId ≤ Frame.maxRequestId) (v : Value) :
    ∃ frame, (Packet.response typeId requestId (if v.fits e.config.frame.limit then v else .null)).encode =
        .ok frame ∧
      (e.respond typeId requestId v).2 = e.onWire (frames ++ [frame]) := by
  obtain ⟨frame, made, packed⟩ := responseFrame_eq small type id v
  refine ⟨frame, packed, ?_⟩
  unfold respond
  rw [made]
  exact congrArg Prod.snd (sendFrame_wire wired frame)

theorem call_wire {used : Nat} (orderly : e.correlator.Orderly used) (room : used < Frame.maxRequestId)
    {o : CallOptions} (expects : o.expectsResponse = true) (typeId : Nat) (content : Value) (now : Instant) :
    let swept := (e.correlator.sweep now).2.nextRequestId.2
    let expiry := o.expiryUnder e.config
    (∃ why, e.prepare typeId content o = .error why ∧ e.call typeId content o now = (.error why, e)) ∨
      (∃ after, expiry = some after ∧ now.after? after = none) ∧
          e.call typeId content o now = (.error .deadlineOutOfRange, { e with correlator := swept }) ∨
      ∃ frame, typeId ≤ Frame.maxTypeId ∧ content.fits e.config.frame.limit = true ∧
        (Packet.request typeId (used + 1) content).encode = .ok frame ∧
        e.call typeId content o now = (.ok (if o.blocking then .awaiting swept.calls.length else .sent),
          { e.onWire (frames ++ [frame]) with
            correlator := swept.enter ⟨used + 1, expiry, expiry.bind (Instant.after? now), .waiting⟩ }) := by
  intro swept expiry
  unfold call
  cases prepared : e.prepare typeId content o with
  | error why => exact .inl ⟨why, rfl, rfl⟩
  | ok body =>
    obtain ⟨-, type, encoded⟩ := prepare_eq_ok.mp prepared
    obtain ⟨frame, made, packed⟩ :=
      ofContent_encodeContent (p := .request typeId (used + 1) content) small encoded type room
    have fits := Value.fits_exact.mpr ⟨body, encodeContent_eq_ok.mp encoded⟩
    have connected : e.isConnected = true := by
      unfold isConnected
      rw [wired]
      rfl
    simp only [expects, if_true]
    rcases Correlator.register_cases orderly room now expiry with ⟨after, late⟩ | entered
    · have refused : e.sendAwaited typeId body now expiry =
          (.error .deadlineOutOfRange, { e with correlator := swept }) := by
        unfold sendAwaited
        simp [connected, late, swept]
      rw [refused]
      exact .inr (.inl ⟨after, rfl⟩)
    · let entry : PendingCall := ⟨used + 1, expiry, expiry.bind (Instant.after? now), .waiting⟩
      have sent : e.sendAwaited typeId body now expiry = _ :=
        sendAwaited_entered connected entered (Correlator.call?_enter swept entry) made
          (sendFrame_wire (e := { e with correlator := swept.enter entry }) wired frame)
      rw [sent]
      exact .inr (.inr ⟨frame, type, fits, packed, rfl⟩)

variable {table : HandlerTable} (handlers : e.handlers = some table) (silent : table.Silent)
include handlers silent

theorem dispatch_wire {typeId requestId : Nat} (type : typeId ≤ Frame.maxTypeId)
    (id : requestId ≤ Frame.maxRequestId) (content : Value) :
    ∃ new, ((Packet.request typeId requestId content).reply? table e.config.frame.limit).toList.mapM
        Packet.encode = .ok new ∧
      e.dispatch typeId requestId content = e.onWire (frames ++ new) := by
  have unchanged : e = e.onWire (frames ++ []) := by rw [List.append_nil, onWire_self wired]
  rw [Packet.reply?_request]
  unfold dispatch
  rw [handlers, Option.bind_some]
  cases found : table.lookup typeId with
  | none => exact ⟨[], rfl, unchanged⟩
  | some handler =>
    simp only [silent typeId handler found content, List.foldl_nil]
    by_cases nobody : handler.noRespond ∨ requestId = 0
    · simp only [if_pos nobody]
      exact ⟨[], rfl, unchanged⟩
    · obtain ⟨frame, packed, sent⟩ := respond_wire wired small type id
        (match (handler.run content).outcome with
          | .ok v => v
          | .error _ => .null)
      simp only [if_neg nobody]
      refine ⟨[frame], mapM_cons_eq_ok.mpr ⟨frame, [], ?_, rfl, rfl⟩, sent⟩
      rw [Answer.reply_eq]
      exact packed

theorem deliver_wire {p : Packet} (type : p.typeId ≤ Frame.maxTypeId) (id : p.requestId ≤ Frame.maxRequestId) :
    ∃ new, (p.reply? table e.config.frame.limit).toList.mapM Packet.encode = .ok new ∧
      e.deliver p = { ((e.tell p).note (.settled p)).onWire (frames ++ new) with
        correlator := if p.isResponse then (e.correlator.resolve p.requestId p.content).2 else e.correlator } := by
  unfold deliver settle
  by_cases response : p.isResponse
  · refine ⟨[], ?_, ?_⟩
    · rw [Packet.reply?_response table _ response]
      rfl
    · have told : ((e.tell p).note (.settled p)).transport = some ⟨frames⟩ := wired
      simp only [if_pos response, List.append_nil, onWire_self told]
      rfl
  · have same : Packet.request p.typeId p.requestId p.content = p := by
      cases p
      simp_all [Packet.request]
    obtain ⟨new, packed, sent⟩ := dispatch_wire (e := (e.tell p).note (.settled p)) wired small handlers silent type id p.content
    rw [same] at packed
    refine ⟨new, packed, ?_⟩
    simp only [if_neg response, sent]
    rfl

end

-- Records

section
variable {τ : Type} [Transport τ] (e : Endpoint τ)

def sendEach (e : Endpoint τ) (frames : List Bytes) : Endpoint τ :=
  frames.foldl (fun e frame => (e.sendFrame frame).2) e

theorem sendOneWay_eq_sendEach (typeId : Nat) (body : Bytes) :
    ∃ frames, (e.sendOneWay typeId body).2 = e.sendEach frames := by
  unfold sendOneWay
  cases Frame.ofContent ⟨false, typeId, 0⟩ body with
  | error why => exact ⟨[], rfl⟩
  | ok frame => exact ⟨[frame], rfl⟩

theorem notices_eq_sendEach (notices : List (Nat × Value)) :
    ∃ frames, notices.foldl (fun e notice => e.notify notice.1 notice.2) e = e.sendEach frames := by
  induction notices generalizing e with
  | nil => exact ⟨[], rfl⟩
  | cons notice others ih =>
    have first : ∃ frames, e.notify notice.1 notice.2 = e.sendEach frames := by
      unfold notify
      cases e.prepare notice.1 notice.2 .oneWay with
      | error why => exact ⟨[], rfl⟩
      | ok body => exact e.sendOneWay_eq_sendEach notice.1 body
    obtain ⟨frames, sent⟩ := first
    obtain ⟨more, resent⟩ := ih (e.notify notice.1 notice.2)
    refine ⟨frames ++ more, ?_⟩
    rw [List.foldl_cons, resent, sent, sendEach, sendEach, ← List.foldl_append]
    rfl

theorem dispatch_eq_sendEach (typeId requestId : Nat) (content : Value) :
    ∃ frames, e.dispatch typeId requestId content = e.sendEach frames := by
  unfold dispatch
  cases e.handlers.bind (·.lookup typeId) with
  | none => exact ⟨[], rfl⟩
  | some handler =>
    obtain ⟨frames, told⟩ := e.notices_eq_sendEach (handler.run content).notices
    simp only [told]
    split
    · exact ⟨frames, rfl⟩
    · unfold respond
      split
      · exact ⟨frames, rfl⟩
      · rename_i frame _
        refine ⟨frames ++ [frame], ?_⟩
        rw [sendEach, sendEach, List.foldl_append]
        rfl

theorem sendFrame_correlator (frame : Bytes) : (e.sendFrame frame).2.correlator = e.correlator := by
  unfold sendFrame
  cases e.transport <;> rfl

theorem sendEach_correlator (frames : List Bytes) : (e.sendEach frames).correlator = e.correlator := by
  induction frames generalizing e with
  | nil => rfl
  | cons frame others ih => exact (ih (e.sendFrame frame).2).trans (e.sendFrame_correlator frame)

theorem deliver_continues (p : Packet) : Correlator.Continues e.correlator (e.deliver p).correlator := by
  unfold deliver settle
  by_cases response : p.isResponse
  · simp only [if_pos response]
    exact e.correlator.resolve_continues p.requestId p.content
  · simp only [if_neg response]
    obtain ⟨frames, sent⟩ := dispatch_eq_sendEach ((e.tell p).note (.settled p)) p.typeId p.requestId p.content
    rw [sent, sendEach_correlator]
    exact .refl e.correlator

theorem feed_continues (bytes : Bytes) : Correlator.Continues e.correlator (e.feed bytes).correlator := by
  have delivered : ∀ (packets : List Packet) (e : Endpoint τ),
      Correlator.Continues e.correlator (packets.foldl deliver e).correlator := by
    intro packets
    induction packets with
    | nil => exact fun e => .refl e.correlator
    | cons p others ih => exact fun e => (e.deliver_continues p).trans (ih (e.deliver p))
  exact delivered (e.deframer.feed bytes).2 { e with deframer := (e.deframer.feed bytes).1 }

theorem sendAwaited_correlator (typeId : Nat) (body : Bytes) (now : Instant) (expiry : Option Duration) :
    (e.sendAwaited typeId body now expiry).2.correlator = e.correlator ∨
      (e.sendAwaited typeId body now expiry).2.correlator = (e.correlator.register now expiry).2 ∨
      ∃ id, (e.sendAwaited typeId body now expiry).2.correlator = ((e.correlator.register now expiry).2.cancel id).2 := by
  unfold sendAwaited
  split
  · exact .inl rfl
  · split
    · rename_i refused
      rw [refused]
      exact .inr (.inl rfl)
    · rename_i ticket correlator entered
      rw [entered]
      cases made : Frame.ofContent ⟨false, typeId, ((correlator.call? ticket).map (·.requestId)).getD 0⟩ body with
      | error why =>
        simp only [made]
        exact .inr (.inr ⟨_, rfl⟩)
      | ok frame =>
        have same := sendFrame_correlator { e with correlator } frame
        cases sent : sendFrame { e with correlator } frame with
        | mk result after =>
          rw [sent] at same
          simp only [made, sent]
          cases result with
          | ok done => exact .inr (.inl same)
          | error why => exact .inr (.inr ⟨_, by rw [show after.correlator = correlator from same]⟩)

theorem sendAwaited_continues (typeId : Nat) (body : Bytes) (now : Instant) (expiry : Option Duration) :
    Correlator.Continues e.correlator (e.sendAwaited typeId body now expiry).2.correlator := by
  have registered := e.correlator.register_continues now expiry
  rcases e.sendAwaited_correlator typeId body now expiry with same | same | ⟨id, same⟩
  · rw [same]
    exact .refl e.correlator
  · rw [same]
    exact registered
  · rw [same]
    exact registered.trans (Correlator.cancel_continues _ id)

theorem call_continues (typeId : Nat) (content : Value) (o : CallOptions) (now : Instant) :
    Correlator.Continues e.correlator (e.call typeId content o now).2.correlator := by
  unfold call
  cases e.prepare typeId content o with
  | error why => exact .refl e.correlator
  | ok body =>
    simp only
    split
    · exact e.sendAwaited_continues typeId body now _
    · obtain ⟨frames, sent⟩ := e.sendOneWay_eq_sendEach typeId body
      rw [sent, sendEach_correlator]
      exact .refl e.correlator

end

end Endpoint
end FramedRpc
