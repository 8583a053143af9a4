import FramedRpc.Endpoint.Line
import FramedRpc.Proofs.Endpoint.Numbering
import FramedRpc.Proofs.Endpoint.Replies

namespace FramedRpc

namespace Correlator

variable {c : Correlator}

def kept (c : Correlator) (now : Instant) : List (Nat × Nat) := c.pending.filter fun entry => !c.isDue entry.2 now

theorem length_advance (c : Correlator) (now : Instant) : (c.advance now).calls.length = c.calls.length :=
  (c.sweep_settles now).length

theorem Counting.record_range (counting : c.Counting) (now : Instant) (expiry : Option Duration) :
    0 < (c.record now expiry).requestId ∧ (c.record now expiry).requestId ≤ Frame.maxRequestId :=
  Counting.freshId_range (c := (c.sweep now).2) counting

theorem Counting.record_free (counting : c.Counting) {now : Instant}
    (few : (c.kept now).length < Frame.maxRequestId) (expiry : Option Duration) :
    (c.record now expiry).requestId ∉ (c.kept now).map (·.1) :=
  Counting.freshId_free (c := (c.sweep now).2) counting few

theorem pending_cancel_enter {call : PendingCall} (new : call.requestId ∉ c.pending.map (·.1)) :
    ((c.enter call).cancel call.requestId).2.pending = c.pending := by
  have table : ((c.enter call).cancel call.requestId).2 = _ := (c.enter call).remove_table call.requestId
  rw [table]
  unfold enter
  rw [List.filter_cons_of_neg (by simp)]
  refine List.filter_eq_self.mpr fun entry member => ?_
  have apart : entry.1 ≠ call.requestId := fun same => new (List.mem_map.mpr ⟨entry, member, same⟩)
  simpa using apart

end Correlator

namespace Endpoint

variable {τ : Type} {e after : Endpoint τ} {typeId : Nat} {content : Value} {o : CallOptions} {now : Instant}

-- What keeps a call from being made.
inductive Refuses (e : Endpoint τ) (typeId : Nat) (content : Value) (o : CallOptions) : RpcError → Prop where
  | options {why : OptionConflict} : o.conflict? = some why → e.Refuses typeId content o (.invalidOptions why)
  | type : Frame.maxTypeId < typeId →
    e.Refuses typeId content o (.frame (.fieldOutOfRange "request_type_id" typeId Frame.maxTypeId))
  | encoding {why : CodecError} : Frame.encodeContent content = .error why → e.Refuses typeId content o (.codec why)
  | size {body : Bytes} : Frame.encodeContent content = .ok body → e.config.frame.limit < body.length →
    e.Refuses typeId content o (.frame (.contentTooLarge body.length e.config.frame.limit))
  | connection : e.transport = none → e.Refuses typeId content o .notConnected

theorem refuses_of_prepare {why : RpcError} (failed : e.prepare typeId content o = .error why) :
    e.Refuses typeId content o why := by
  unfold prepare at failed
  split at failed
  · rename_i conflict
    cases failed
    exact .options conflict
  · split at failed
    · rename_i large
      cases failed
      exact .type large
    · unfold encodeContent at failed
      split at failed
      · rename_i unwritten
        cases failed
        exact .encoding unwritten
      · rename_i body written
        by_cases large : e.config.frame.limit < body.length
        · simp only [if_pos large] at failed
          cases failed
          exact .size written large
        · simp only [if_neg large] at failed
          cases failed

-- All but the connection is looked at first.
theorem refuses_of_prepared {body : Bytes} (prepared : e.prepare typeId content o = .ok body) {why : RpcError}
    (refuses : e.Refuses typeId content o why) : e.transport = none := by
  obtain ⟨harmless, type, encoded⟩ := prepare_eq_ok.mp prepared
  obtain ⟨written, short⟩ := encodeContent_eq_ok.mp encoded
  cases refuses with
  | options conflict => cases harmless.symm.trans conflict
  | type large => exact absurd type (Nat.not_le_of_lt large)
  | encoding unwritten => cases written.symm.trans unwritten
  | size also large =>
    cases written.symm.trans also
    exact absurd short (Nat.not_le_of_lt large)
  | connection off => exact off

section

variable [Transport τ]

def Passes (e : Endpoint τ) (frame : Bytes) (answer : Except FrameError Unit) (after : Endpoint τ) : Prop :=
  ∃ t t', e.transport = some t ∧ Transport.send frame t = (answer, t') ∧ after.transport = some t'

theorem Passes.records {handed : τ → List Bytes} (records : Records handed) {frame : Bytes}
    {answer : Except FrameError Unit} (passes : e.Passes frame answer after) :
    after.transport.map handed = (e.transport.map handed).map (· ++ [frame]) := by
  obtain ⟨t, t', there, sent, later⟩ := passes
  rw [there, later]
  have more := records frame t
  rw [sent] at more
  exact congrArg some more

def recordOf (e : Endpoint τ) (o : CallOptions) (now : Instant) : PendingCall :=
  e.correlator.record now (o.expiryUnder e.config)

def entered (e : Endpoint τ) (o : CallOptions) (now : Instant) : Correlator :=
  (e.correlator.advance now).enter (e.recordOf o now)

inductive Proceeds (e : Endpoint τ) (typeId : Nat) (content : Value) (o : CallOptions) (now : Instant) :
    Except RpcError Started → Endpoint τ → Prop where
  | late {duration : Duration} : o.expectsResponse = true → o.expiryUnder e.config = some duration →
    now.after? duration = none →
    e.Proceeds typeId content o now (.error .deadlineOutOfRange) { e with correlator := e.correlator.advance now }
  | oneWay {frame : Bytes} {t t' : τ} {answer : Except FrameError Unit} : o.expectsResponse = false →
    (Packet.request typeId 0 content).encode = .ok frame → e.transport = some t →
    Transport.send frame t = (answer, t') →
    e.Proceeds typeId content o now ((answer.mapError .frame).map fun _ => .sent) { e with transport := some t' }
  | begun {frame : Bytes} {t t' : τ} : o.expectsResponse = true →
    (∀ duration, o.expiryUnder e.config = some duration → ∃ deadline, now.after? duration = some deadline) →
    (Packet.request typeId (e.recordOf o now).requestId content).encode = .ok frame → e.transport = some t →
    Transport.send frame t = (.ok (), t') →
    e.Proceeds typeId content o now (.ok (if o.blocking then .awaiting e.correlator.calls.length else .sent))
      { e with transport := some t', correlator := e.entered o now }
  | withdrawn {frame : Bytes} {t t' : τ} {failure : FrameError} : o.expectsResponse = true →
    (Packet.request typeId (e.recordOf o now).requestId content).encode = .ok frame → e.transport = some t →
    Transport.send frame t = (.error failure, t') →
    e.Proceeds typeId content o now (.error (.frame failure))
      { e with transport := some t', correlator := ((e.entered o now).cancel (e.recordOf o now).requestId).2 }

theorem sendFrame_of_send {t t' : τ} {frame : Bytes} {answer : Except FrameError Unit} (there : e.transport = some t)
    (sent : Transport.send frame t = (answer, t')) :
    e.sendFrame frame = (answer.mapError .frame, { e with transport := some t' }) := by
  unfold sendFrame
  rw [there]
  simp only [sent]

section

variable (small : e.config.frame.limit ≤ Frame.maxContentLength) {body : Bytes}
  (prepared : e.prepare typeId content o = .ok body) (counting : e.correlator.Counting)
include small prepared

theorem oneWay_proceeds {t : τ} (there : e.transport = some t) (nobody : o.expectsResponse = false) :
    e.Proceeds typeId content o now (e.call typeId content o now).1 (e.call typeId content o now).2 := by
  obtain ⟨-, type, encoded⟩ := prepare_eq_ok.mp prepared
  obtain ⟨frame, made, packed⟩ :=
    ofContent_encodeContent (p := .request typeId 0 content) small encoded type (Nat.zero_le _)
  have framed : Frame.ofContent ⟨false, typeId, 0⟩ body = .ok frame := made
  obtain ⟨answer, t', sent⟩ : ∃ answer t', Transport.send frame t = (answer, t') := ⟨_, _, rfl⟩
  unfold call sendOneWay
  simp only [prepared, nobody, framed, sendFrame_of_send there sent]
  exact .oneWay nobody packed there sent

include counting

theorem awaited_proceeds {t : τ} (there : e.transport = some t) (somebody : o.expectsResponse = true) :
    e.Proceeds typeId content o now (e.call typeId content o now).1 (e.call typeId content o now).2 := by
  obtain ⟨-, type, encoded⟩ := prepare_eq_ok.mp prepared
  have range := (counting.record_range now (o.expiryUnder e.config)).2
  obtain ⟨frame, made, packed⟩ :=
    ofContent_encodeContent (p := .request typeId (e.recordOf o now).requestId content) small encoded type range
  have framed : Frame.ofContent ⟨false, typeId, (e.recordOf o now).requestId⟩ body = .ok frame := made
  obtain ⟨answer, t', sent⟩ : ∃ answer t', Transport.send frame t = (answer, t') := ⟨_, _, rfl⟩
  have connected : e.isConnected = true := Option.isSome_iff_exists.mpr ⟨t, there⟩
  unfold call
  simp only [prepared, somebody, if_true]
  rcases e.correlator.register_eq now (o.expiryUnder e.config) with ⟨⟨duration, given, late⟩, refused⟩ | ⟨told, registered⟩
  · have untimed : e.sendAwaited typeId body now (o.expiryUnder e.config) =
        (.error .deadlineOutOfRange, { e with correlator := e.correlator.advance now }) := by
      unfold sendAwaited
      simp [connected, refused]
    rw [untimed]
    exact .late somebody given late
  · have recorded := (e.correlator.advance now).call?_enter (e.recordOf o now)
    have handed : sendFrame { e with correlator := e.entered o now } frame = _ := sendFrame_of_send there sent
    cases answer with
    | ok done =>
      have answered := sendAwaited_entered connected registered recorded framed handed
      rw [answered]
      have begun := Proceeds.begun somebody told packed there sent
      rw [← e.correlator.length_advance now] at begun
      exact begun
    | error failure =>
      have answered := sendAwaited_withdrawn connected registered recorded framed handed
      rw [answered]
      exact .withdrawn somebody packed there sent

end

section

variable (small : e.config.frame.limit ≤ Frame.maxContentLength)
include small

theorem call_refused {why : RpcError} (refuses : e.Refuses typeId content o why) (now : Instant) :
    ∃ told, e.Refuses typeId content o told ∧ e.call typeId content o now = (.error told, e) := by
  unfold call
  cases prepared : e.prepare typeId content o with
  | error told => exact ⟨told, refuses_of_prepare prepared, rfl⟩
  | ok body =>
    have off := refuses_of_prepared prepared refuses
    refine ⟨.notConnected, .connection off, ?_⟩
    simp only
    split
    · have awaited : e.sendAwaited typeId body now (o.expiryUnder e.config) = (.error .notConnected, e) := by
        unfold sendAwaited isConnected
        simp [off]
      rw [awaited]
      rfl
    · obtain ⟨-, type, encoded⟩ := prepare_eq_ok.mp prepared
      obtain ⟨frame, made, -⟩ :=
        ofContent_encodeContent (p := .request typeId 0 content) small encoded type (Nat.zero_le _)
      have framed : Frame.ofContent ⟨false, typeId, 0⟩ body = .ok frame := made
      have oneWay : e.sendOneWay typeId body = (.error .notConnected, e) := by
        unfold sendOneWay sendFrame
        simp [framed, off]
      rw [oneWay]
      rfl

theorem call_proceeds (counting : e.correlator.Counting) (harmless : ∀ why, ¬e.Refuses typeId content o why)
    (now : Instant) :
    e.Proceeds typeId content o now (e.call typeId content o now).1 (e.call typeId content o now).2 := by
  cases prepared : e.prepare typeId content o with
  | error why => exact absurd (refuses_of_prepare prepared) (harmless why)
  | ok body =>
    cases there : e.transport with
    | none => exact absurd (.connection there) (harmless .notConnected)
    | some t =>
      cases expects : o.expectsResponse with
      | true => exact awaited_proceeds small prepared counting there expects
      | false => exact oneWay_proceeds small prepared there expects

end

-- A failed write, as far as it concerns the table. The search for an id ends only if one is free.
def Unsent (e : Endpoint τ) (o : CallOptions) (now : Instant) (failure : FrameError) (after : Endpoint τ) : Prop :=
  (∃ frame, e.Passes frame (.error failure) after) ∧
    (o.expectsResponse = false → after.correlator = e.correlator) ∧
    (o.expectsResponse = true → (e.correlator.kept now).length < Frame.maxRequestId →
      after.correlator.pending = e.correlator.kept now)

-- A transport that fails only as channels do.
def Channels (e : Endpoint τ) : Prop :=
  ∀ t frame failure, e.transport = some t → (Transport.send frame t).1 = .error failure →
    failure = .connectionClosed ∨ ∃ why, failure = .io why

-- How a call has ended, and what it left behind.
structure Atomic (e : Endpoint τ) (typeId : Nat) (content : Value) (o : CallOptions) (now : Instant)
    (result : Except RpcError Started) (after : Endpoint τ) : Prop where
  refused : ∀ why, e.Refuses typeId content o why →
    after = e ∧ ∃ told, e.Refuses typeId content o told ∧ result = .error told
  failed : ∀ why, result = .error why → e.Refuses typeId content o why ∨ why = .deadlineOutOfRange ∨
    ∃ failure, why = .frame failure ∧ e.Unsent o now failure after
  -- So the failure alone tells that nothing has happened.
  untouched : e.Channels → ∀ why, result = .error why → why ≠ .deadlineOutOfRange → why ≠ .frame .connectionClosed →
    (∀ io, why ≠ .frame (.io io)) → after = e
  sent : ∀ started, result = .ok started → o.expectsResponse = false →
    ∃ frame, (Packet.request typeId 0 content).encode = .ok frame ∧ e.Passes frame (.ok ()) after ∧
      after.correlator = e.correlator
  begun : ∀ started, result = .ok started → o.expectsResponse = true →
    (e.correlator.kept now).length < Frame.maxRequestId → ∃ frame call, 0 < call.requestId ∧
      (Packet.request typeId call.requestId content).encode = .ok frame ∧ e.Passes frame (.ok ()) after ∧
      call.requestId ∉ (e.correlator.kept now).map (·.1) ∧
      after.correlator.pending = (call.requestId, e.correlator.calls.length) :: e.correlator.kept now ∧
      after.correlator.call? e.correlator.calls.length = some call ∧
      (o.blocking = false → ∃ deadline, call.deadline = some deadline)
  rest : { after with transport := e.transport, correlator := e.correlator } = e

theorem untouched_of_failed {result : Except RpcError Started}
    (refused : ∀ why, e.Refuses typeId content o why → after = e)
    (failed : ∀ why, result = .error why → e.Refuses typeId content o why ∨ why = .deadlineOutOfRange ∨
      ∃ failure, why = .frame failure ∧ e.Unsent o now failure after) (channels : e.Channels) (why : RpcError)
    (same : result = .error why) (timed : why ≠ .deadlineOutOfRange) (live : why ≠ .frame .connectionClosed)
    (sound : ∀ io, why ≠ .frame (.io io)) : after = e := by
  rcases failed why same with refuses | late | ⟨failure, rfl, ⟨frame, t, t', there, sent, -⟩, -⟩
  · exact refused why refuses
  · exact absurd late timed
  · rcases channels t frame failure there (congrArg Prod.fst sent) with rfl | ⟨io, rfl⟩
    · exact absurd rfl live
    · exact absurd rfl (sound io)

theorem Atomic.of_refused {told : RpcError} (refuses : e.Refuses typeId content o told) :
    e.Atomic typeId content o now (.error told) e where
  refused _ _ := ⟨rfl, told, refuses, rfl⟩
  failed why same := by
    cases same
    exact .inl refuses
  untouched _ _ _ _ _ _ := rfl
  sent _ := nofun
  begun _ := nofun
  rest := rfl

omit [Transport τ] in
theorem exists_deadline {o : CallOptions} (nobody : o.blocking = false)
    (told : ∀ duration, o.expiryUnder e.config = some duration → ∃ deadline, now.after? duration = some deadline) :
    ∃ deadline, (e.recordOf o now).deadline = some deadline := by
  obtain ⟨duration, given⟩ : ∃ duration, o.expiryUnder e.config = some duration := by
    unfold CallOptions.expiryUnder
    rw [nobody]
    cases o.expiry with
    | some duration => exact ⟨duration, rfl⟩
    | none =>
      cases e.config.defaultExpiry with
      | some duration => exact ⟨duration, rfl⟩
      | none => exact ⟨_, rfl⟩
  obtain ⟨deadline, late⟩ := told duration given
  refine ⟨deadline, ?_⟩
  unfold recordOf Correlator.record
  rw [given]
  exact late

theorem Proceeds.failed (counting : e.correlator.Counting) {result : Except RpcError Started}
    (proceeds : e.Proceeds typeId content o now result after) {why : RpcError} (same : result = .error why) :
    why = .deadlineOutOfRange ∨ ∃ failure, why = .frame failure ∧ e.Unsent o now failure after := by
  cases proceeds with
  | late =>
    cases same
    exact .inl rfl
  | @oneWay frame t t' answer nobody packed there sent =>
    cases answer with
    | ok done => cases same
    | error failure =>
      cases same
      refine .inr ⟨failure, rfl, ⟨frame, t, t', there, sent, rfl⟩, fun _ => rfl, fun somebody => ?_⟩
      cases nobody.symm.trans somebody
  | begun => cases same
  | @withdrawn frame t t' failure somebody packed there sent =>
    cases same
    refine .inr ⟨failure, rfl, ⟨frame, t, t', there, sent, rfl⟩, fun nobody => ?_, fun _ few => ?_⟩
    · cases nobody.symm.trans somebody
    · exact Correlator.pending_cancel_enter (c := e.correlator.advance now) (counting.record_free few _)

theorem Proceeds.sent {started : Started} (proceeds : e.Proceeds typeId content o now (.ok started) after)
    (nobody : o.expectsResponse = false) :
    ∃ frame, (Packet.request typeId 0 content).encode = .ok frame ∧ e.Passes frame (.ok ()) after ∧
      after.correlator = e.correlator := by
  generalize ended : Except.ok started = result at proceeds
  cases proceeds with
  | late => cases ended
  | @oneWay frame t t' answer _ packed there sent =>
    cases answer with
    | ok done => exact ⟨frame, packed, ⟨t, t', there, sent, rfl⟩, rfl⟩
    | error failure => cases ended
  | begun somebody => cases nobody.symm.trans somebody
  | withdrawn => cases ended

theorem Proceeds.recorded (counting : e.correlator.Counting) {started : Started}
    (proceeds : e.Proceeds typeId content o now (.ok started) after) (somebody : o.expectsResponse = true)
    (few : (e.correlator.kept now).length < Frame.maxRequestId) : ∃ frame call, 0 < call.requestId ∧
      (Packet.request typeId call.requestId content).encode = .ok frame ∧ e.Passes frame (.ok ()) after ∧
      call.requestId ∉ (e.correlator.kept now).map (·.1) ∧
      after.correlator.pending = (call.requestId, e.correlator.calls.length) :: e.correlator.kept now ∧
      after.correlator.call? e.correlator.calls.length = some call ∧
      (o.blocking = false → ∃ deadline, call.deadline = some deadline) := by
  generalize ended : Except.ok started = result at proceeds
  cases proceeds with
  | late => cases ended
  | oneWay nobody => cases nobody.symm.trans somebody
  | @begun frame t t' _ told packed there sent =>
    have listed : (e.entered o now).pending =
        ((e.recordOf o now).requestId, (e.correlator.advance now).calls.length) :: e.correlator.kept now := rfl
    have found := (e.correlator.advance now).call?_enter (e.recordOf o now)
    rw [e.correlator.length_advance now] at listed found
    exact ⟨frame, e.recordOf o now, (counting.record_range now _).1, packed, ⟨t, t', there, sent, rfl⟩,
      counting.record_free few _, listed, found, fun quiet => exists_deadline quiet told⟩
  | withdrawn => cases ended

theorem Proceeds.atomic (counting : e.correlator.Counting) (harmless : ∀ why, ¬e.Refuses typeId content o why)
    {result : Except RpcError Started} (proceeds : e.Proceeds typeId content o now result after) :
    e.Atomic typeId content o now result after where
  refused why refuses := absurd refuses (harmless why)
  failed why same := .inr (proceeds.failed counting same)
  untouched := untouched_of_failed (fun why refuses => absurd refuses (harmless why))
    fun why same => .inr (proceeds.failed counting same)
  sent started same nobody := by
    subst same
    exact proceeds.sent nobody
  begun started same somebody few := by
    subst same
    exact proceeds.recorded counting somebody few
  rest := by cases proceeds <;> rfl

theorem call_atomic (small : e.config.frame.limit ≤ Frame.maxContentLength) (counting : e.correlator.Counting)
    (typeId : Nat) (content : Value) (o : CallOptions) (now : Instant) :
    e.Atomic typeId content o now (e.call typeId content o now).1 (e.call typeId content o now).2 := by
  by_cases refused : ∃ why, e.Refuses typeId content o why
  · obtain ⟨why, refuses⟩ := refused
    obtain ⟨told, also, same⟩ := call_refused small refuses now
    rw [same]
    exact .of_refused also
  · have harmless : ∀ why, ¬e.Refuses typeId content o why := fun why refuses => refused ⟨why, refuses⟩
    exact (call_proceeds small counting harmless now).atomic counting harmless

end

-- The line takes the first frame and no other one.
theorem call_atomic_on_closed_line : ∃ e : Endpoint Line, e.config.frame.limit ≤ Frame.maxContentLength ∧
    e.correlator.Counting ∧ e.correlator.pending = [(1, 0)] ∧
    (e.call 3 .null .nonBlockingCall 1).1 = .error (.frame .connectionClosed) ∧
    (e.call 3 .null .nonBlockingCall 1).2.correlator.pending = [(1, 0)] ∧
    e.Atomic 3 .null .nonBlockingCall 1 (e.call 3 .null .nonBlockingCall 1).1
      (e.call 3 .null .nonBlockingCall 1).2 := by
  refine ⟨(((Endpoint.new .standard).attach (.failing 1 []) : Endpoint Line).call 3 .null .nonBlockingCall 0).2, ?_⟩
  refine ⟨by decide, by decide, rfl, rfl, by decide, call_atomic (by decide) ?_ 3 .null .nonBlockingCall 1⟩
  exact counting_call Correlator.counting_new 3 .null .nonBlockingCall 0

end Endpoint
end FramedRpc
