import Mathlib
import FramedRpc.Cli.Demo
import FramedRpc.Cli.Program
import FramedRpc.Proofs.Cli.Agreement
import FramedRpc.Proofs.Endpoint.Calling

namespace FramedRpc

namespace Instant

theorem reaches_seconds (now : Instant) (n : Nat) :
    now.Reaches (.seconds n) ↔ now / Duration.perSecond + n ≤ maxSeconds := by
  unfold Reaches Duration.seconds
  rw [Nat.add_mul_div_right _ _ (by decide : 0 < Duration.perSecond)]

theorem reaches_millis {now : Instant} {n : Nat} (small : n < 2 ^ 64)
    (early : now / Duration.perSecond ≤ 9000000000000000000) : now.Reaches (.millis n) := by
  have passed (time : Nat) (early : time / 1000000000 ≤ 9000000000000000000) :
      (time + n * 1000000) / 1000000000 ≤ 0x7FFFFFFFFFFFFFFF := by omega
  exact passed now early

end Instant

namespace Correlator

structure Recorded (c : Correlator) (now : Instant) (d : Duration) (call : PendingCall) : Prop where
  registered : (c.register now (some d)).1 = .ok c.calls.length
  found : (c.register now (some d)).2.call? c.calls.length = some call
  entered : (call.requestId, c.calls.length) ∈ (c.register now (some d)).2.pending
  deadline : call.deadline = some (now + d)
  waiting : call.slot = .waiting

theorem register_recorded_of_reaches (c : Correlator) {now : Instant} {d : Duration} (reaches : now.Reaches d) :
    ∃ call, c.Recorded now d call := by
  rcases c.register_eq now (some d) with ⟨⟨_, ⟨⟩, late⟩, -⟩ | ⟨-, registered⟩
  · exact absurd reaches (Instant.after?_eq_none.mp late)
  · have length := c.length_advance now
    refine ⟨c.record now (some d), ?_, ?_, ?_, ?_, rfl⟩
    · rw [registered, length]
    · rw [registered, ← length]
      exact (c.advance now).call?_enter (c.record now (some d))
    · rw [registered, ← length]
      exact List.mem_cons_self
    · exact Instant.after?_of_reaches reaches

theorem register_beyond (c : Correlator) {now : Instant} {d : Duration} (beyond : ¬now.Reaches d) :
    c.register now (some d) = (.error .deadlineOutOfRange, c.advance now) := by
  rcases c.register_eq now (some d) with ⟨-, refused⟩ | ⟨told, -⟩
  · exact refused
  · obtain ⟨deadline, there⟩ := told d rfl
    cases there.symm.trans (Instant.after?_eq_none.mpr beyond)

theorem poll_told {c : Correlator} {ticket : Nat} {now : Instant} {why : RpcError}
    (told : (c.poll ticket now).1 = some (.error why)) : why ≠ .deadlineOutOfRange := by
  cases there : c.call? ticket with
  | none =>
    unfold poll at told
    rw [there] at told
    cases told
  | some call =>
    rw [poll_outcome there] at told
    cases slot : call.slot with
    | waiting =>
      rw [PendingCall.claim_waiting slot] at told
      split at told
      · cases told
        nofun
      · cases told
    | resolved =>
      unfold PendingCall.claim at told
      rw [slot] at told
      cases told
    | taken | expired | interrupted =>
      unfold PendingCall.claim at told
      rw [slot] at told
      cases told
      nofun

end Correlator

namespace Network

variable {n : Network} {i : Nat}

theorem await_told {ticket : Nat} {n' : Network} {why : RpcError}
    (told : n.await i ticket = (some (.error why), n')) : why ≠ .deadlineOutOfRange := by
  have polled {now : Instant} {m : Network} (outcome : n.onEndpoint i (fun e => e.poll ticket now) =
      some (some (.error why), m)) : why ≠ .deadlineOutOfRange := by
    obtain ⟨e, -, same⟩ := Option.map_eq_some_iff.mp outcome
    exact Correlator.poll_told (congrArg Prod.fst same)
  unfold await at told
  split at told
  · rename_i outcome
    cases told
    exact polled outcome
  · rename_i waits
    obtain ⟨e, there, same⟩ := Option.map_eq_some_iff.mp waits
    split at told
    · cases told
    · split at told
      · rename_i again
        cases told
        obtain ⟨later, -, same⟩ := Option.map_eq_some_iff.mp again
        exact Correlator.poll_told (congrArg Prod.fst same)
      · cases told
  · cases told

theorem call_late_iff {e : Endpoint Line} (there : n.endpoint? i = some e) (f : Beginning) :
    (∃ n', n.call i f = some (.error .deadlineOutOfRange, n')) ↔
      (f (n.load e) n.now).1 = .error .deadlineOutOfRange := by
  cases begun : f (n.load e) n.now with
  | mk result after =>
    have started : ∃ m, n.start i f = some (result, m) := by
      unfold start onEndpoint
      rw [there]
      simp only [Option.map_some, begun]
      exact ⟨_, rfl⟩
    obtain ⟨m, started⟩ := started
    unfold call
    rw [started]
    cases result with
    | error why =>
      constructor
      · rintro ⟨n', same⟩
        cases same
        rfl
      · rintro ⟨⟩
        exact ⟨m, rfl⟩
    | ok how =>
      refine iff_of_false ?_ nofun
      rintro ⟨n', same⟩
      cases how with
      | sent => cases same
      | awaiting ticket =>
        simp only at same
        split at same
        · rename_i outcome m' waited
          cases outcome with
          | error why =>
            cases same
            exact await_told waited rfl
          | ok v => cases same
        · cases same

def dialled (timeout : Duration) : Endpoint Line :=
  (Endpoint.new { EndpointConfig.standard with defaultExpiry := some timeout }).attach
    (.stream 0 (.new .unix) .left FrameConfig.standard.writer)

theorem accept_dialled (timeout : Duration) (now : Instant) (handlers : Option HandlerTable) :
    let config := { EndpointConfig.standard with defaultExpiry := some timeout }
    let accepted := ({ Network.new [config] with now } : Network).accept 0 .standard handlers .empty
    accepted.1 = .ok () ∧ accepted.2.2.endpoint? 0 = some (dialled timeout) ∧
      accepted.2.2.load (dialled timeout) = dialled timeout ∧ accepted.2.2.now = now := by
  refine ⟨?_, ?_, ?_, ?_⟩ <;> cbv

end Network

namespace Endpoint

variable {τ : Type} [Transport τ] {e : Endpoint τ} {typeId : Nat} {content : Value} {o : CallOptions} {now : Instant}

theorem call_late_iff (small : e.config.frame.limit ≤ Frame.maxContentLength) (counting : e.correlator.Counting)
    (connected : e.isConnected = true) {d : Duration} (given : o.expiryUnder e.config = some d) :
    (e.call typeId content o now).1 = .error .deadlineOutOfRange ↔
      o.expectsResponse = true ∧ (∃ body, e.prepare typeId content o = .ok body) ∧ ¬now.Reaches d := by
  constructor
  · intro late
    by_cases refused : ∃ why, e.Refuses typeId content o why
    · obtain ⟨why, refuses⟩ := refused
      obtain ⟨told, also, same⟩ := call_refused small refuses now
      rw [same] at late
      cases late
      cases also
    · have harmless : ∀ why, ¬e.Refuses typeId content o why := fun why refuses => refused ⟨why, refuses⟩
      have prepared : ∃ body, e.prepare typeId content o = .ok body := by
        cases made : e.prepare typeId content o with
        | error why => exact absurd (refuses_of_prepare made) (harmless why)
        | ok body => exact ⟨body, rfl⟩
      have proceeds := call_proceeds small counting harmless now
      rw [late] at proceeds
      generalize (e.call typeId content o now).2 = after at proceeds
      generalize told : (Except.error RpcError.deadlineOutOfRange : Except RpcError Started) = result at proceeds
      cases proceeds with
      | late somebody also beyond =>
        cases given.symm.trans also
        exact ⟨somebody, prepared, Instant.after?_eq_none.mp beyond⟩
      | @oneWay _ _ _ answer =>
        cases answer with
        | ok done => cases told
        | error failure => cases told
      | begun => cases told
      | withdrawn => cases told
  · rintro ⟨somebody, ⟨body, prepared⟩, beyond⟩
    have refused := e.correlator.register_beyond beyond
    rw [← given] at refused
    unfold call sendAwaited
    simp [prepared, somebody, connected, refused, Except.map]

end Endpoint

namespace Cli

theorem Outcome.ofRpc_panicked_iff {context message : String} {e : RpcError} :
    ofRpc context e = .panicked message ↔ e = .deadlineOutOfRange ∧ message = RpcError.deadlineOutOfRange.message := by
  cases e with
  | deadlineOutOfRange => exact ⟨fun same => ⟨rfl, (Outcome.panicked.inj same).symm⟩, fun ⟨_, same⟩ => same ▸ rfl⟩
  | _ => exact ⟨nofun, fun late => nomatch late.1⟩

theorem natural?_le {limit n : Nat} {cs : List Char} (read : Text.natural? limit cs = some n) : n ≤ limit := by
  unfold Text.natural? at read
  exact of_decide_eq_true (Option.filter_eq_some_iff.mp read).2

theorem parseTimeout_range {text : String} {d : Duration} (accepted : parseTimeout text = .ok d) :
    ∃ n, 0 < n ∧ n < 2 ^ 64 ∧ (d = .seconds n ∨ d = .millis n) := by
  unfold parseTimeout at accepted
  simp only at accepted
  split at accepted
  · cases accepted
  · split at accepted
    · cases accepted
    · cases accepted
    · rename_i n positive read
      have small := natural?_le read
      refine ⟨n, Nat.pos_of_ne_zero positive, Nat.lt_succ_of_le small, ?_⟩
      cases accepted
      split <;> simp

structure CallRequest.Begins (s : Surroundings) (r : CallRequest) : Prop where
  waits : r.noWait = false
  type : r.typeId ≤ Frame.maxTypeId
  content : ∃ content, parseArguments r.args = .ok content ∧ content.fits Frame.defaultLimit = true
  connected : ∃ handlers, s.connect r.path = .ok handlers

variable {s : Surroundings} {r : CallRequest} {d : Duration}

theorem dialled_late_iff {content : Value} {o : CallOptions} (given : o.expiry = none) (harmless : o.conflict? = none) :
    ((Network.dialled d).call r.typeId content o s.now).1 = .error .deadlineOutOfRange ↔
      o.expectsResponse = true ∧ r.typeId ≤ Frame.maxTypeId ∧ content.fits Frame.defaultLimit = true ∧
        ¬s.now.Reaches d := by
  have timed : o.expiryUnder (Network.dialled d).config = some d := by
    unfold CallOptions.expiryUnder
    rw [given]
    show (if o.blocking = true then some d else some d) = some d
    exact ite_self _
  have small : Frame.defaultLimit ≤ Frame.maxContentLength := by decide
  rw [Endpoint.call_late_iff small Correlator.counting_new rfl timed,
    Value.fits_exact]
  simp only [Endpoint.prepare_eq_ok, Endpoint.encodeContent_eq_ok, harmless, true_and, exists_and_left, and_assoc]
  rfl

def CallRequest.options (r : CallRequest) : CallOptions := if r.noWait then .oneWay else .blockingCall

theorem call_connected (timed : parseTimeout r.timeout = .ok d) {content : Value} {handlers : HandlerTable}
    (typed : parseArguments r.args = .ok content) (reached : s.connect r.path = .ok handlers) :
    ∃ n : Network, n.endpoint? 0 = some (Network.dialled d) ∧ n.load (Network.dialled d) = Network.dialled d ∧
      n.now = s.now ∧ call s r =
        match n.call 0 fun e now => e.call r.typeId content r.options now with
        | none => .ok none
        | some (result, _) => result.mapError (.ofRpc "call failed") := by
  have facts := Network.accept_dialled d s.now (some handlers)
  unfold call
  simp only [timed, typed, reached, bind, Except.bind, Except.mapError] at facts ⊢
  generalize Network.accept _ 0 .standard (some handlers) .empty = accepted at facts ⊢
  obtain ⟨connected, there, loaded, now⟩ := facts
  refine ⟨accepted.2.2, there, loaded, now, ?_⟩
  simp only [connected]
  rfl

theorem call_untyped (timed : parseTimeout r.timeout = .ok d) {f : Failure}
    (untyped : parseArguments r.args = .error f) :
    call s r = .error (.failed f) := by
  unfold call
  simp only [timed, untyped]
  rfl

theorem call_unreached (timed : parseTimeout r.timeout = .ok d) {content : Value} {e : TransportError}
    (typed : parseArguments r.args = .ok content) (unreached : s.connect r.path = .error e) :
    call s r = .error (.failed (.ofTransport "connect failed" e)) := by
  unfold call
  simp only [timed, typed, unreached]
  rfl

theorem options_cases (r : CallRequest) : r.options.expiry = none ∧ r.options.conflict? = none ∧
    (r.options.expectsResponse = true ↔ r.noWait = false) := by
  unfold CallRequest.options
  cases r.noWait <;> decide

theorem call_panicked_iff (timed : parseTimeout r.timeout = .ok d) {message : String} :
    call s r = .error (.panicked message) ↔
      message = RpcError.deadlineOutOfRange.message ∧ r.Begins s ∧ ¬s.now.Reaches d := by
  cases typed : parseArguments r.args with
  | error f =>
    rw [call_untyped timed typed]
    refine iff_of_false nofun ?_
    rintro ⟨-, ⟨-, -, ⟨content, also, -⟩, -⟩, -⟩
    cases typed.symm.trans also
  | ok content =>
    cases reached : s.connect r.path with
    | error e =>
      rw [call_unreached timed typed reached]
      refine iff_of_false nofun ?_
      rintro ⟨-, ⟨-, -, -, ⟨handlers, also⟩⟩, -⟩
      cases reached.symm.trans also
    | ok handlers =>
      obtain ⟨n, there, loaded, now, called⟩ := call_connected timed typed reached
      obtain ⟨given, harmless, waits⟩ := options_cases r
      have late := Network.call_late_iff there fun e now => e.call r.typeId content r.options now
      rw [loaded, now, dialled_late_iff given harmless, waits] at late
      have panicked : call s r = .error (.panicked message) ↔ message = RpcError.deadlineOutOfRange.message ∧
          ∃ n', n.call 0 (fun e now => e.call r.typeId content r.options now) =
            some (.error .deadlineOutOfRange, n') := by
        rw [called]
        generalize n.call 0 _ = ended
        rcases ended with _ | ⟨why | answer, n'⟩
        · simp
        · simp [Except.mapError, Outcome.ofRpc_panicked_iff, and_comm]
        · simp [Except.mapError]
      rw [panicked, late]
      refine and_congr_right fun _ => ?_
      constructor
      · rintro ⟨waits, type, fits, beyond⟩
        exact ⟨⟨waits, type, ⟨content, typed, fits⟩, ⟨handlers, reached⟩⟩, beyond⟩
      · rintro ⟨⟨waits, type, ⟨_, also, fits⟩, -⟩, beyond⟩
        cases typed.symm.trans also
        exact ⟨waits, type, fits, beyond⟩

theorem execute_call_panicked_iff {format : OutputFormat} {message : String} :
    execute s format (.call r) = .finished (.panicked message) ↔ call s r = .error (.panicked message) := by
  unfold execute
  simp only [Course.finished.injEq]
  rcases call s r with outcome | _ | content
  · exact Except.error.injEq _ _ ▸ Iff.rfl
  · exact iff_of_false nofun nofun
  · exact iff_of_false nofun nofun

-- A timeout that is taken, against a clock that counts seconds in 63 bits.
structure Timed (text : String) (d : Duration) : Prop where
  range : ∃ n, 0 < n ∧ n < 2 ^ 64 ∧
    (d = .seconds n ∧ (∀ now : Instant, now.Reaches d ↔ now / Duration.perSecond + n ≤ Instant.maxSeconds) ∨
      d = .millis n ∧ ∀ now : Instant, now / Duration.perSecond ≤ 9000000000000000000 → now.Reaches d)
  -- A call gets a record with its deadline as long as the clock has a reading for that.
  recorded : ∀ (c : Correlator) now, Instant.Reaches now d → ∃ call, c.Recorded now d call
  -- Otherwise it gets none, and its id is used up.
  beyond : ∀ (c : Correlator) now, ¬Instant.Reaches now d →
    c.register now (some d) = (.error .deadlineOutOfRange, c.advance now)
  -- The program breaks down then, and only then, and what is told is that the clock has run over.
  panicked : ∀ s r format message, CallRequest.timeout r = text →
    (execute s format (.call r) = .finished (.panicked message) ↔
      message = "overflow when adding duration to instant" ∧ r.Begins s ∧ ¬s.now.Reaches d)

-- Whatever timeout is taken, a call under it is recorded with its deadline exactly as far as the clock reaches.
theorem parseTimeout_timed {text : String} {d : Duration} (accepted : parseTimeout text = .ok d) : Timed text d where
  range := by
    obtain ⟨n, positive, small, rfl | rfl⟩ := parseTimeout_range accepted
    · exact ⟨n, positive, small, .inl ⟨rfl, fun now => Instant.reaches_seconds now n⟩⟩
    · exact ⟨n, positive, small, .inr ⟨rfl, fun now => Instant.reaches_millis small⟩⟩
  recorded c now := c.register_recorded_of_reaches
  beyond c now := c.register_beyond
  panicked s r format message same := by
    subst same
    exact execute_call_panicked_iff.trans (call_panicked_iff accepted)

-- The largest number of milliseconds, with blanks around it.
theorem parseTimeout_timed_longest :
    parseTimeout " 18446744073709551615ms\n" = .ok (.millis 18446744073709551615) ∧
      Timed " 18446744073709551615ms\n" (.millis 18446744073709551615) := by
  have accepted : parseTimeout " 18446744073709551615ms\n" = .ok (.millis 18446744073709551615) := by decide +kernel
  exact ⟨accepted, parseTimeout_timed accepted⟩

-- The same number of seconds is taken as well. No call can be recorded under it: the program, connected to a service
-- that would answer, breaks down.
theorem parseTimeout_beyond_clock :
    let s := { Surroundings.closed [] [] [] with connect := fun _ => .ok Demo.handlers }
    let d := Duration.seconds 18446744073709551615
    parseTimeout "18446744073709551615s" = .ok d ∧
      (Correlator.new.register s.now (some d)).1 = .error .deadlineOutOfRange ∧
      (Correlator.new.register s.now (some d)).2.nextId = 2 ∧
      execute s .json (.call ⟨"/tmp/rpc.sock", Demo.ping, "[]", false, "18446744073709551615s"⟩) =
        .finished (.panicked "overflow when adding duration to instant") := by
  intro s d
  have accepted : parseTimeout "18446744073709551615s" = .ok d := by decide +kernel
  have beyond : ¬s.now.Reaches d := by decide +kernel
  have typed : parseArguments "[]" = .ok (.list []) := by cbv
  have refused := Correlator.new.register_beyond beyond
  refine ⟨accepted, congrArg Prod.fst refused, congrArg (·.2.nextId) refused, ?_⟩
  refine execute_call_panicked_iff.mpr ((call_panicked_iff accepted).mpr ⟨rfl, ?_, beyond⟩)
  exact ⟨rfl, (by decide : Demo.ping ≤ Frame.maxTypeId), ⟨_, typed, by cbv⟩, ⟨_, rfl⟩⟩

end Cli
end FramedRpc
