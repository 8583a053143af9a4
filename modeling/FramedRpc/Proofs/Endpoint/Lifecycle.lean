import Mathlib.Data.List.Permutation
import FramedRpc.Proofs.Endpoint.Connection
import FramedRpc.Proofs.Frame.Scanner

namespace FramedRpc

-- A reader carries the generation that it was started with.
structure Reader where
  generation : Nat
  since : Nat
  deriving DecidableEq, Repr

structure Lifetime (τ : Type) where
  endpoint : Endpoint τ
  attached : Nat
  readers : List Reader
  lines : List Nat

namespace Lifetime

variable {τ : Type}

def start (config : EndpointConfig) (handlers : Option HandlerTable) (methods : MethodTable) : Lifetime τ :=
  ⟨{ Endpoint.new config with handlers, methods }, 0, [], []⟩

-- A call that is waited for is begun by one action, and every look at its outcome is another one. So are the
-- end of a connection and the exit of the reader that is left over.
inductive Action (τ : Type) where
  | attachStream (offer : Endpoint.Offer τ)
  | detach
  | close
  | exit (reader : Reader)
  | call (typeId : Nat) (content : Value) (options : CallOptions) (now : Instant)
  | wait (ticket : Nat) (now : Instant)
  | feed (bytes : Bytes)
  | interruptPending
  | sweep (now : Instant)

-- Calls that were begun by now belong to the last transport.
def turn (l : Lifetime τ) (e : Endpoint τ) : Lifetime τ :=
  { l with
    endpoint := e
    lines := l.lines ++ List.replicate (e.correlator.calls.length - l.lines.length) l.attached }

def reattach (l : Lifetime τ) : Except RpcError Nat × Endpoint τ → Lifetime τ
  | (.error _, e) => { l with endpoint := e }
  | (.ok generation, e) =>
    { l with endpoint := e, attached := l.attached + 1, readers := ⟨generation, l.attached + 1⟩ :: l.readers }

def after [Transport τ] (l : Lifetime τ) : Action τ → Lifetime τ
  | .attachStream offer => l.reattach (l.endpoint.attachStream offer)
  | .detach | .close => l.turn l.endpoint.detach.2
  | .exit reader => { l.turn (l.endpoint.readerExit reader.generation) with readers := l.readers.erase reader }
  | .call typeId content options now => l.turn (l.endpoint.call typeId content options now).2
  | .wait ticket now => l.turn (l.endpoint.poll ticket now).2
  | .feed bytes => l.turn (l.endpoint.feed bytes)
  | .interruptPending => l.turn l.endpoint.interruptPending.2
  | .sweep now => l.turn (l.endpoint.sweep now)

def Legal (l : Lifetime τ) : Action τ → Prop
  | .exit reader => reader ∈ l.readers
  | _ => True

inductive Reached [Transport τ] (config : EndpointConfig) : Lifetime τ → Prop where
  | start (handlers : Option HandlerTable) (methods : MethodTable) : Reached config (start config handlers methods)
  | step {l : Lifetime τ} (prior : Reached config l) (action : Action τ) (legal : l.Legal action) :
    Reached config (l.after action)

end Lifetime

namespace Endpoint

variable {τ : Type}

-- The connection is over: whoever waits for a call that was in flight learns that it was interrupted.
structure Cut (e e' : Endpoint τ) : Prop where
  transport : e'.transport = none
  pending : e'.correlator.pending = []
  interrupted : ∀ entry ∈ e.correlator.pending, ∀ now,
    (e'.poll entry.2 now).1 = some (.error (.interrupted entry.1))
  others : ∀ ticket, ticket ∉ e.correlator.pending.map (·.2) → e'.correlator.call? ticket = e.correlator.call? ticket
  rest : { e' with transport := e.transport, correlator := e.correlator } = e

theorem detach_cut {e : Endpoint τ} (waiting : e.correlator.Waiting) : Cut e e.detach.2 where
  transport := rfl
  pending := rfl
  interrupted entry member now := by
    obtain ⟨call, there, id, waits⟩ := waiting entry member
    have listed : entry.2 ∈ e.correlator.pending.map (·.2) := List.mem_map_of_mem member
    have ended : e.correlator.interruptAll.2.call? entry.2 = some { call with slot := .interrupted } := by
      unfold Correlator.call? Correlator.interruptAll
      rw [Correlator.calls_completeAll _ _ Slot.noConfusion, there, Option.map_some, if_pos listed,
        call.complete_waiting waits]
    refine (Correlator.poll_outcome ended now).trans ?_
    unfold PendingCall.claim
    rw [← id]
  others ticket apart := by
    have same := e.correlator.calls_completeAll (e.correlator.pending.map (·.2))
      (show Slot.interrupted ≠ .waiting from Slot.noConfusion) ticket
    simp only [if_neg apart, Option.map_id_fun', id_eq] at same
    exact same
  rest := rfl

-- A connection that is just made: nothing is in flight, and nothing is left of what came in before.
structure Fresh (e e' : Endpoint τ) (transport : τ) : Prop where
  attached : e'.transport = some transport
  pending : e'.correlator.pending = []
  interrupted : ∀ entry ∈ e.correlator.pending, ∀ now,
    (e'.poll entry.2 now).1 = some (.error (.interrupted entry.1))
  idle : e'.deframer.isIdle = true
  buffered : e'.deframer.buffered = 0
  kept : e'.deframer.limit = e.deframer.limit ∧ e'.deframer.stats = e.deframer.stats

theorem renew_fresh {e : Endpoint τ} (waiting : e.correlator.Waiting) (transport : τ) :
    Fresh e (e.renew transport) transport where
  attached := rfl
  pending := rfl
  interrupted := (detach_cut waiting).interrupted
  idle := rfl
  buffered := rfl
  kept := ⟨rfl, rfl⟩

namespace Offer

-- Every step succeeds, and this is the transport that the writer makes.
structure Opens (offer : Offer τ) (config : FrameConfig) (transport : τ) : Prop where
  reader : offer.readerHandle = .ok ()
  shutdown : offer.shutdownHandle = .ok ()
  writer : offer.writer config = .ok transport
  timeout : offer.setReadTimeout config.readTimeout = .ok ()

-- The first step that fails, and what is told of it.
inductive Fails (offer : Offer τ) (config : FrameConfig) : RpcError → Prop where
  | reader {e : TransportError} (failed : offer.readerHandle = .error e) : Fails offer config (.transport e)
  | shutdown {e : TransportError} (reader : offer.readerHandle = .ok ()) (failed : offer.shutdownHandle = .error e) :
      Fails offer config (.transport e)
  | writer {e : FrameError} (reader : offer.readerHandle = .ok ()) (shutdown : offer.shutdownHandle = .ok ())
      (failed : offer.writer config = .error e) : Fails offer config (.frame e)
  | timeout {e : TransportError} {transport : τ} (reader : offer.readerHandle = .ok ())
      (shutdown : offer.shutdownHandle = .ok ()) (writer : offer.writer config = .ok transport)
      (failed : offer.setReadTimeout config.readTimeout = .error e) : Fails offer config (.transport e)

variable {offer : Offer τ} {config : FrameConfig}

theorem opened_opens {transport : τ} (opens : offer.Opens config transport) : offer.opened config = .ok transport := by
  unfold opened
  rw [opens.reader, opens.shutdown, opens.writer, opens.timeout]
  rfl

theorem opened_fails {why : RpcError} (fails : offer.Fails config why) : offer.opened config = .error why := by
  unfold opened
  cases fails with
  | reader failed =>
    rw [failed]
    rfl
  | shutdown reader failed =>
    rw [reader, failed]
    rfl
  | writer reader shutdown failed =>
    rw [reader, shutdown, failed]
    rfl
  | timeout reader shutdown writer failed =>
    rw [reader, shutdown, writer, failed]
    rfl

theorem opens_or_fails (offer : Offer τ) (config : FrameConfig) :
    (∃ transport, offer.Opens config transport) ∨ ∃ why, offer.Fails config why := by
  cases reader : offer.readerHandle with
  | error e => exact .inr ⟨_, .reader reader⟩
  | ok _ =>
    cases shutdown : offer.shutdownHandle with
    | error e => exact .inr ⟨_, .shutdown reader shutdown⟩
    | ok _ =>
      cases writer : offer.writer config with
      | error e => exact .inr ⟨_, .writer reader shutdown writer⟩
      | ok transport =>
        cases timeout : offer.setReadTimeout config.readTimeout with
        | error e => exact .inr ⟨_, .timeout reader shutdown writer timeout⟩
        | ok _ => exact .inl ⟨transport, reader, shutdown, writer, timeout⟩

end Offer

theorem attachStream_opens {e : Endpoint τ} {offer : Offer τ} {transport : τ}
    (opens : offer.Opens e.config.frame transport) :
    e.attachStream offer = (.ok (e.renew transport).generation, e.renew transport) := by
  unfold attachStream
  rw [Offer.opened_opens opens]

theorem attachStream_fails {e : Endpoint τ} {offer : Offer τ} {why : RpcError}
    (fails : offer.Fails e.config.frame why) : e.attachStream offer = (.error why, e) := by
  unfold attachStream
  rw [Offer.opened_fails fails]

theorem attachStream_cases (e : Endpoint τ) (offer : Offer τ) :
    (∃ transport, offer.Opens e.config.frame transport ∧
        e.attachStream offer = (.ok (e.renew transport).generation, e.renew transport)) ∨
      ∃ why, offer.Fails e.config.frame why ∧ e.attachStream offer = (.error why, e) := by
  rcases offer.opens_or_fails e.config.frame with ⟨transport, opens⟩ | ⟨why, fails⟩
  · exact .inl ⟨transport, opens, attachStream_opens opens⟩
  · exact .inr ⟨why, fails, attachStream_fails fails⟩

end Endpoint

namespace Lifetime

variable {τ : Type} {l : Lifetime τ}

structure Sound (l : Lifetime τ) : Prop where
  counted : l.endpoint.generation = l.attached
  started : ∀ reader ∈ l.readers, reader.generation = reader.since
  length : l.lines.length = l.endpoint.correlator.calls.length
  waiting : l.endpoint.correlator.Waiting
  idle : l.endpoint.isConnected = false → l.endpoint.correlator.pending = []
  current : ∀ entry ∈ l.endpoint.correlator.pending, l.lines[entry.2]? = some l.attached

theorem Sound.start (config : EndpointConfig) (handlers : Option HandlerTable) (methods : MethodTable) :
    Sound (start config handlers methods : Lifetime τ) where
  counted := rfl
  started := nofun
  length := rfl
  waiting := nofun
  idle _ := rfl
  current := nofun

namespace Sound

variable (sound : l.Sound)
include sound

theorem advance {e : Endpoint τ} (advances : l.endpoint.Advances e) : (l.turn e).Sound where
  counted := advances.generation.trans sound.counted
  started := sound.started
  length := by
    have longer := advances.begins.length
    have length := sound.length
    unfold turn
    simp only [List.length_append, List.length_replicate]
    omega
  waiting := advances.begins.waiting sound.waiting
  idle off := by
    have before : l.endpoint.isConnected = false := advances.connected.symm.trans off
    have settles := advances.idle before
    refine List.eq_nil_iff_forall_not_mem.mpr fun entry member => ?_
    have old := settles.pending entry member
    rw [sound.idle before] at old
    cases old
  current entry member := by
    have short : entry.2 < e.correlator.calls.length := by
      obtain ⟨call, there, -⟩ := advances.begins.waiting sound.waiting entry member
      exact (List.getElem?_eq_some_iff.mp there).1
    have length := sound.length
    show (l.lines ++ List.replicate _ l.attached)[entry.2]? = some l.attached
    rcases advances.begins.pending entry member with old | new
    · have there := sound.current entry old
      rw [List.getElem?_append_left (List.getElem?_eq_some_iff.mp there).1]
      exact there
    · rw [List.getElem?_append_right (by omega), List.getElem?_replicate, if_pos (by omega)]

theorem cut {e : Endpoint τ} (cut : l.endpoint.Cut e) (generation : e.generation = l.endpoint.generation)
    (settles : Correlator.Settles l.endpoint.correlator e.correlator) : (l.turn e).Sound where
  counted := generation.trans sound.counted
  started := sound.started
  length := by
    have length := sound.length.trans settles.length.symm
    unfold turn
    simp only [List.length_append, List.length_replicate]
    omega
  waiting := settles.waiting sound.waiting
  idle _ := cut.pending
  current entry member := by
    rw [show (l.turn e).endpoint.correlator.pending = [] from cut.pending] at member
    cases member

theorem detach : (l.turn l.endpoint.detach.2).Sound :=
  sound.cut (Endpoint.detach_cut sound.waiting) rfl l.endpoint.correlator.interruptAll_settles

theorem exit_cases {reader : Reader} (there : reader ∈ l.readers) :
    reader.since = l.attached ∧ l.endpoint.readerExit reader.generation = l.endpoint.detach.2 ∨
      reader.since ≠ l.attached ∧ l.endpoint.readerExit reader.generation = l.endpoint := by
  unfold Endpoint.readerExit
  rw [sound.counted, sound.started reader there]
  by_cases present : l.attached = reader.since
  · exact .inl ⟨present.symm, if_pos present⟩
  · exact .inr ⟨Ne.symm present, if_neg present⟩

theorem exit {reader : Reader} (there : reader ∈ l.readers) :
    (l.turn (l.endpoint.readerExit reader.generation)).Sound := by
  rcases sound.exit_cases there with ⟨-, down⟩ | ⟨-, same⟩
  · rw [down]
    exact sound.detach
  · rw [same]
    exact sound.advance (Endpoint.Steady.refl _).advances

theorem reattach (offer : Endpoint.Offer τ) : (l.reattach (l.endpoint.attachStream offer)).Sound := by
  rcases l.endpoint.attachStream_cases offer with ⟨transport, -, attached⟩ | ⟨why, -, refused⟩
  · rw [attached]
    have settles := l.endpoint.correlator.interruptAll_settles
    refine ⟨congrArg (· + 1) sound.counted, fun reader member => ?_, sound.length.trans settles.length.symm,
      settles.waiting sound.waiting, fun _ => rfl, nofun⟩
    rcases List.mem_cons.mp member with rfl | old
    · exact congrArg (· + 1) sound.counted
    · exact sound.started reader old
  · rw [refused]
    exact sound

theorem after [Transport τ] {action : Action τ} (legal : l.Legal action) : (l.after action).Sound := by
  cases action with
  | attachStream offer => exact sound.reattach offer
  | detach | close => exact sound.detach
  | exit reader =>
    have ended := sound.exit legal
    exact { ended with started := fun other member => sound.started other (List.mem_of_mem_erase member) }
  | call typeId content options now => exact sound.advance (l.endpoint.call_advances typeId content options now)
  | wait ticket now => exact sound.advance (l.endpoint.poll_steady ticket now).advances
  | feed bytes => exact sound.advance (l.endpoint.feed_steady bytes).advances
  | interruptPending => exact sound.advance l.endpoint.interruptPending_steady.advances
  | sweep now => exact sound.advance (l.endpoint.sweep_steady now).advances

end Sound

theorem Reached.sound [Transport τ] {config : EndpointConfig} (reached : Reached config l) : l.Sound := by
  induction reached with
  | start handlers methods => exact .start config handlers methods
  | step prior action legal ih => exact ih.after legal

-- What holds of an endpoint at any time.
structure Managed [Transport τ] (l : Lifetime τ) : Prop where
  idle : l.endpoint.transport = none → l.endpoint.correlator.pending = []
  current : ∀ entry ∈ l.endpoint.correlator.pending, l.lines[entry.2]? = some l.attached
  -- A reader goes quietly if a transport was attached after it was started, and takes the connection down otherwise.
  exit : ∀ reader ∈ l.readers,
    if reader.since = l.attached then l.endpoint.Cut (l.endpoint.readerExit reader.generation)
    else l.endpoint.readerExit reader.generation = l.endpoint
  attach : ∀ offer transport, offer.Opens l.endpoint.config.frame transport →
    l.endpoint.Fresh (l.after (.attachStream offer)).endpoint transport
  refused : ∀ offer why, offer.Fails l.endpoint.config.frame why →
    l.endpoint.attachStream offer = (.error why, l.endpoint) ∧ l.after (.attachStream offer) = l
  -- There is no third way, and a stream of which no step fails is attached.
  either : ∀ offer : Endpoint.Offer τ, (∃ transport, offer.Opens l.endpoint.config.frame transport) ∨
    ∃ why, offer.Fails l.endpoint.config.frame why

theorem Reached.managed [Transport τ] {config : EndpointConfig} (reached : Reached config l) : l.Managed where
  idle off := reached.sound.idle (Option.isSome_eq_false_iff.mpr (Option.isNone_iff_eq_none.mpr off))
  current := reached.sound.current
  exit reader there := by
    rcases reached.sound.exit_cases there with ⟨last, down⟩ | ⟨earlier, same⟩
    · rw [if_pos last, down]
      exact Endpoint.detach_cut reached.sound.waiting
    · rw [if_neg earlier]
      exact same
  attach offer transport opens := by
    rw [after, Endpoint.attachStream_opens opens]
    exact Endpoint.renew_fresh reached.sound.waiting transport
  refused offer why fails := by
    have same := Endpoint.attachStream_fails fails
    refine ⟨same, ?_⟩
    rw [after, same]
    rfl
  either offer := offer.opens_or_fails l.endpoint.config.frame

-- The first call was interrupted with its connection; the second one survives the exit of the first reader, and a
-- stream that takes no read timeout.
theorem reattached_managed :
    ∃ l : Lifetime Wire, Reached .standard l ∧ l.attached = 2 ∧ l.readers = [⟨2, 2⟩] ∧
      l.endpoint.correlator.pending = [(2, 1)] ∧ l.lines = [1, 2] ∧ l.Managed := by
  let offer : Endpoint.Offer Wire := ⟨.ok (), .ok (), fun _ => .ok ⟨[]⟩, fun _ => .ok ()⟩
  have reached := (Reached.start none .empty : Reached .standard (start .standard none .empty : Lifetime Wire))
    |>.step (.attachStream offer) trivial
    |>.step (.call 3 .null .blockingCall 0) trivial
    |>.step (.attachStream offer) trivial
    |>.step (.call 5 .null .nonBlockingCall 0) trivial
    |>.step (.exit ⟨1, 1⟩) (List.mem_cons_of_mem _ List.mem_cons_self)
    |>.step (.attachStream { offer with setReadTimeout := fun _ => .error (.io .zeroTimeout) }) trivial
  exact ⟨_, reached, by cbv, by cbv, by cbv, by cbv, reached.managed⟩

end Lifetime
end FramedRpc
