import FramedRpc.Proofs.Endpoint.Dispatch
import FramedRpc.Proofs.Endpoint.Operation

namespace FramedRpc
namespace Correlator

variable {c d e : Correlator}

structure Settles (c d : Correlator) : Prop where
  pending : ∀ entry ∈ d.pending, entry ∈ c.pending
  length : d.calls.length = c.calls.length
  waiting : c.Waiting → d.Waiting

-- One call may have been begun.
structure Begins (c d : Correlator) : Prop where
  pending : ∀ entry ∈ d.pending, entry ∈ c.pending ∨ entry.2 = c.calls.length
  length : c.calls.length ≤ d.calls.length
  waiting : c.Waiting → d.Waiting

theorem Settles.refl (c : Correlator) : Settles c c := ⟨fun _ member => member, rfl, id⟩

theorem Settles.trans (first : Settles c d) (second : Settles d e) : Settles c e where
  pending entry member := first.pending entry (second.pending entry member)
  length := second.length.trans first.length
  waiting := second.waiting ∘ first.waiting

theorem Settles.begins (settles : Settles c d) : Begins c d :=
  ⟨fun entry member => .inl (settles.pending entry member), Nat.le_of_eq settles.length.symm, settles.waiting⟩

theorem Begins.settles (begins : Begins c d) (settles : Settles d e) : Begins c e where
  pending entry member := begins.pending entry (settles.pending entry member)
  length := settles.length.symm ▸ begins.length
  waiting := settles.waiting ∘ begins.waiting

theorem length_completeAll (c : Correlator) (tickets : List Nat) (outcome : Slot) :
    (c.completeAll tickets outcome).calls.length = c.calls.length := by
  have same := congrArg List.length (c.ids_completeAll tickets outcome)
  rw [ids, ids, List.length_map, List.length_map] at same
  exact same

theorem sweep_settles (c : Correlator) (now : Instant) : Settles c (c.sweep now).2 where
  pending _ member := (List.mem_filter.mp member).1
  length := length_completeAll { c with pending := _ } _ _
  waiting waiting := waiting.sweep now

theorem resolve_settles (c : Correlator) (id : Nat) (content : Value) : Settles c (c.resolve id content).2 := by
  refine ⟨?_, ?_, fun waiting => waiting.resolve id content⟩
  · rcases c.resolve_cases id content with ⟨-, same⟩ | ⟨ticket, -, same⟩
    · rw [same]
      exact fun _ member => member
    · rw [same]
      exact fun _ member => (List.mem_filter.mp member).1
  · rcases c.resolve_cases id content with ⟨-, same⟩ | ⟨ticket, -, same⟩
    · rw [same]
    · rw [same]
      exact length_completeAll { c with pending := _ } _ _

theorem cancel_settles (c : Correlator) (id : Nat) : Settles c (c.cancel id).2 := by
  have table : (c.cancel id).2 = _ := c.remove_table id
  rw [table]
  exact ⟨fun _ member => (List.mem_filter.mp member).1, rfl,
    fun waiting entry member => waiting entry (List.mem_filter.mp member).1⟩

theorem interruptAll_settles (c : Correlator) : Settles c c.interruptAll.2 :=
  ⟨nofun, length_completeAll c _ _, fun _ => nofun⟩

theorem Waiting.set (waiting : c.Waiting) {ticket : Nat} {later : PendingCall} {pending : List (Nat × Nat)}
    (fewer : ∀ entry ∈ pending, entry ∈ c.pending)
    (still : ∀ entry ∈ pending, entry.2 = ticket → later.requestId = entry.1 ∧ later.slot = .waiting) :
    ({ c with calls := c.calls.set ticket later, pending } : Correlator).Waiting := by
  intro entry member
  obtain ⟨call, there, id, waits⟩ := waiting entry (fewer entry member)
  by_cases here : entry.2 = ticket
  · have short : entry.2 < c.calls.length := (List.getElem?_eq_some_iff.mp there).1
    refine ⟨later, ?_, still entry member here⟩
    subst here
    exact List.getElem?_set_self short
  · exact ⟨call, (List.getElem?_set_ne (Ne.symm here)).trans there, id, waits⟩

theorem poll_cases {ticket : Nat} {call : PendingCall} (there : c.call? ticket = some call) (now : Instant) :
    let changed := { c with calls := c.calls.set ticket (call.claim now).2 }
    (c.poll ticket now).2 = changed ∧ (∀ id after, (call.claim now).1 ≠ some (.error (.expired id after))) ∨
      ∃ id after, (call.claim now).1 = some (.error (.expired id after)) ∧
        (c.poll ticket now).2 = (changed.remove id).2 := by
  intro changed
  unfold poll
  simp only [there]
  split
  · rename_i id after told
    exact .inr ⟨id, after, told, rfl⟩
  · rename_i other
    exact .inl ⟨rfl, fun id after told => other id after told⟩

theorem poll_settles (c : Correlator) (ticket : Nat) (now : Instant) : Settles c (c.poll ticket now).2 := by
  cases there : c.call? ticket with
  | none =>
    unfold poll
    simp only [there]
    exact .refl c
  | some call =>
    have owner (waiting : c.Waiting) : ∀ entry ∈ c.pending, entry.2 = ticket →
        call.requestId = entry.1 ∧ call.slot = .waiting := by
      rintro entry member rfl
      obtain ⟨waiter, waits, id, still⟩ := waiting entry member
      cases there.symm.trans waits
      exact ⟨id, still⟩
    rcases poll_cases there now with ⟨same, untold⟩ | ⟨id, after, told, same⟩
    · rw [same]
      refine ⟨fun _ member => member, List.length_set, fun waiting => waiting.set (fun _ member => member) ?_⟩
      intro entry member here
      obtain ⟨own, waits⟩ := owner waiting entry member here
      rw [call.claim_waiting waits] at untold ⊢
      split
      · rename_i due
        rw [if_pos due] at untold
        exact absurd rfl (untold _ _)
      · exact ⟨own, waits⟩
    · rw [same, remove_table]
      have fewer : ∀ entry ∈ c.pending.filter fun entry => !decide (entry.1 = id), entry ∈ c.pending :=
        fun _ member => (List.mem_filter.mp member).1
      refine ⟨fewer, List.length_set, fun waiting => waiting.set fewer ?_⟩
      intro entry member here
      obtain ⟨old, kept⟩ := List.mem_filter.mp member
      obtain ⟨own, waits⟩ := owner waiting entry old here
      rw [call.claim_waiting waits] at told
      split at told
      · cases told
        rw [own, decide_eq_true rfl] at kept
        cases kept
      · cases told

theorem register_begins (c : Correlator) (now : Instant) (expiry : Option Duration) :
    Begins c (c.register now expiry).2 := by
  have swept := c.sweep_settles now
  have skipped (nextId : Nat) : Settles c { (c.sweep now).2 with nextId } :=
    ⟨swept.pending, swept.length, swept.waiting⟩
  have entered (nextId : Nat) (call : PendingCall) (waits : call.slot = .waiting) :
      Begins c (enter { (c.sweep now).2 with nextId } call) := by
    refine ⟨fun entry member => ?_, ?_, fun waiting => ((skipped nextId).waiting waiting).enter waits⟩
    · rcases List.mem_cons.mp member with rfl | old
      · exact .inr swept.length
      · exact .inl (swept.pending entry old)
    · unfold enter
      rw [List.length_append, swept.length]
      exact Nat.le_add_right _ _
  unfold register
  cases expiry with
  | none => exact entered _ _ rfl
  | some after =>
    simp only
    cases now.after? after with
    | none => exact (skipped _).begins
    | some deadline => exact entered _ _ rfl

end Correlator

namespace Endpoint

variable {τ : Type}

structure Steady (e e' : Endpoint τ) : Prop where
  generation : e'.generation = e.generation
  connected : e'.isConnected = e.isConnected
  settles : Correlator.Settles e.correlator e'.correlator

-- The connection is kept, and a call is begun at most while there is one.
structure Advances (e e' : Endpoint τ) : Prop where
  generation : e'.generation = e.generation
  connected : e'.isConnected = e.isConnected
  begins : Correlator.Begins e.correlator e'.correlator
  idle : e.isConnected = false → Correlator.Settles e.correlator e'.correlator

namespace Steady

variable {e e' e'' : Endpoint τ}

theorem refl (e : Endpoint τ) : Steady e e := ⟨rfl, rfl, .refl e.correlator⟩

theorem trans (first : Steady e e') (second : Steady e' e'') : Steady e e'' :=
  ⟨second.generation.trans first.generation, second.connected.trans first.connected,
    first.settles.trans second.settles⟩

theorem advances (steady : Steady e e') : Advances e e' :=
  ⟨steady.generation, steady.connected, steady.settles.begins, fun _ => steady.settles⟩

theorem foldl {α : Type} {f : Endpoint τ → α → Endpoint τ} (each : ∀ e a, Steady e (f e a)) (parts : List α)
    (e : Endpoint τ) : Steady e (parts.foldl f e) := by
  induction parts generalizing e with
  | nil => exact .refl e
  | cons first others ih => exact (each e first).trans (ih (f e first))

end Steady

variable (e : Endpoint τ)

theorem interruptPending_steady : Steady e e.interruptPending.2 := ⟨rfl, rfl, e.correlator.interruptAll_settles⟩

theorem sweep_steady (now : Instant) : Steady e (e.sweep now) := ⟨rfl, rfl, e.correlator.sweep_settles now⟩

theorem poll_steady (ticket : Nat) (now : Instant) : Steady e (e.poll ticket now).2 :=
  ⟨rfl, rfl, e.correlator.poll_settles ticket now⟩

variable [Transport τ]

theorem sendFrame_steady (frame : Bytes) : Steady e (e.sendFrame frame).2 := by
  unfold sendFrame
  cases attached : e.transport with
  | none => exact .refl e
  | some t =>
    refine ⟨rfl, ?_, .refl e.correlator⟩
    unfold isConnected
    rw [attached]
    rfl

theorem sendEach_steady (frames : List Bytes) : Steady e (e.sendEach frames) :=
  .foldl (fun e frame => e.sendFrame_steady frame) frames e

theorem deliver_steady (p : Packet) : Steady e (e.deliver p) := by
  have told : Steady e ((e.tell p).note (.settled p)) := ⟨rfl, rfl, .refl e.correlator⟩
  unfold deliver settle
  split
  · exact told.trans ⟨rfl, rfl, e.correlator.resolve_settles p.requestId p.content⟩
  · obtain ⟨frames, sent⟩ := dispatch_eq_sendEach ((e.tell p).note (.settled p)) p.typeId p.requestId p.content
    rw [sent]
    exact told.trans (sendEach_steady ..)

theorem feed_steady (bytes : Bytes) : Steady e (e.feed bytes) := by
  have read : Steady e { e with deframer := (e.deframer.feed bytes).1 } := ⟨rfl, rfl, .refl e.correlator⟩
  exact read.trans (.foldl (fun e p => e.deliver_steady p) (e.deframer.feed bytes).2 _)

-- What could not be sent is cancelled, so that only a call on the present connection stays in flight.
theorem sendAwaited_advances (typeId : Nat) (body : Bytes) (now : Instant) (expiry : Option Duration) :
    Advances e (e.sendAwaited typeId body now expiry).2 := by
  have registered := e.correlator.register_begins now expiry
  unfold sendAwaited
  split
  · exact (Steady.refl e).advances
  · rename_i connected
    have idle {d : Correlator} (off : e.isConnected = false) : Correlator.Settles e.correlator d := by
      rw [off] at connected
      exact absurd rfl connected
    split
    · rename_i refused
      rw [refused] at registered
      exact ⟨rfl, rfl, registered, idle⟩
    · rename_i ticket correlator entered
      rw [entered] at registered
      cases made : Frame.ofContent ⟨false, typeId, ((correlator.call? ticket).map (·.requestId)).getD 0⟩ body with
      | error why =>
        simp only [made]
        exact ⟨rfl, rfl, registered.settles (correlator.cancel_settles _), idle⟩
      | ok frame =>
        have steady := sendFrame_steady { e with correlator } frame
        cases sent : sendFrame { e with correlator } frame with
        | mk result after =>
          rw [sent] at steady
          have kept := registered.settles steady.settles
          simp only [made, sent]
          cases result with
          | ok done => exact ⟨steady.generation, steady.connected, kept, idle⟩
          | error why =>
            exact ⟨steady.generation, steady.connected, kept.settles (after.correlator.cancel_settles _), idle⟩

theorem call_advances (typeId : Nat) (content : Value) (o : CallOptions) (now : Instant) :
    Advances e (e.call typeId content o now).2 := by
  unfold call
  cases e.prepare typeId content o with
  | error why => exact (Steady.refl e).advances
  | ok body =>
    simp only
    split
    · exact e.sendAwaited_advances typeId body now _
    · obtain ⟨frames, sent⟩ := e.sendOneWay_eq_sendEach typeId body
      rw [sent]
      exact (e.sendEach_steady frames).advances

end Endpoint
end FramedRpc
