import Mathlib.Data.Nat.ModEq
import Mathlib.Data.List.Perm.Subperm
import FramedRpc.Proofs.Endpoint.Lifecycle

namespace FramedRpc

namespace Correlator

-- The id that is `steps` further on in the circle.
def idAt (id steps : Nat) : Nat := (id - 1 + steps) % Frame.maxRequestId + 1

theorem idAfter_range (id : Nat) : 0 < idAfter id ∧ idAfter id ≤ Frame.maxRequestId := by
  unfold idAfter
  split
  · exact ⟨Nat.one_pos, by decide⟩
  · omega

theorem idAt_inj {id j k : Nat} (first : j < Frame.maxRequestId) (second : k < Frame.maxRequestId)
    (same : idAt id j = idAt id k) : j = k := by
  have congruent : j ≡ k [MOD Frame.maxRequestId] := Nat.ModEq.add_left_cancel' (id - 1) (Nat.succ.inj same)
  exact congruent.eq_of_lt_of_lt first second

section

variable {id : Nat} (positive : 0 < id) (small : id ≤ Frame.maxRequestId)
include positive small

theorem idAt_zero : idAt id 0 = id := by
  unfold idAt
  rw [Nat.mod_eq_of_lt (by omega)]
  omega

theorem idAt_succ (steps : Nat) : idAt id (steps + 1) = idAt (idAfter id) steps := by
  unfold idAt idAfter
  split
  · have last : id - 1 + (steps + 1) = 1 - 1 + steps + Frame.maxRequestId := by omega
    rw [last, Nat.add_mod_right]
  · have next : id - 1 + (steps + 1) = id + 1 - 1 + steps := by omega
    rw [next]

end

theorem exists_idAt_free {inFlight : List Nat} (few : inFlight.length < Frame.maxRequestId) (id : Nat) :
    ∃ steps ≤ inFlight.length, idAt id steps ∉ inFlight := by
  apply Classical.byContradiction
  intro taken
  have all : (List.range (inFlight.length + 1)).map (idAt id) ⊆ inFlight := by
    intro given member
    obtain ⟨steps, near, rfl⟩ := List.mem_map.mp member
    by_cases here : idAt id steps ∈ inFlight
    · exact here
    · exact absurd ⟨steps, Nat.le_of_lt_succ (List.mem_range.mp near), here⟩ taken
  have distinct : ((List.range (inFlight.length + 1)).map (idAt id)).Nodup := by
    refine List.nodup_range.map_on ?_
    intro j first k second same
    have left := List.mem_range.mp first
    have right := List.mem_range.mp second
    exact idAt_inj (by omega) (by omega) same
  have short := (distinct.subperm all).length_le
  rw [List.length_map, List.length_range] at short
  omega

theorem freeId_range {inFlight : List Nat} {id : Nat} (positive : 0 < id) (small : id ≤ Frame.maxRequestId)
    (tries : Nat) : 0 < freeId inFlight id tries ∧ freeId inFlight id tries ≤ Frame.maxRequestId := by
  induction tries generalizing id with
  | zero => exact ⟨positive, small⟩
  | succ tries ih =>
    unfold freeId
    split
    · exact ih (idAfter_range id).1 (idAfter_range id).2
    · exact ⟨positive, small⟩

theorem freeId_free {inFlight : List Nat} {id tries : Nat} (positive : 0 < id) (small : id ≤ Frame.maxRequestId)
    (free : ∃ steps ≤ tries, idAt id steps ∉ inFlight) : freeId inFlight id tries ∉ inFlight := by
  obtain ⟨steps, near, free⟩ := free
  induction tries generalizing id steps with
  | zero =>
    cases Nat.le_zero.mp near
    rwa [idAt_zero positive small] at free
  | succ tries ih =>
    unfold freeId
    split
    · rename_i taken
      cases steps with
      | zero =>
        rw [idAt_zero positive small] at free
        exact absurd taken free
      | succ steps =>
        rw [idAt_succ positive small] at free
        exact ih (idAfter_range id).1 (idAfter_range id).2 steps (Nat.le_of_succ_le_succ near) free
    · assumption

def Counting (c : Correlator) : Prop := 0 < c.nextId ∧ c.nextId ≤ Frame.maxRequestId

instance (c : Correlator) : Decidable c.Counting := inferInstanceAs (Decidable (_ ∧ _))

theorem counting_new : Counting .new := by decide

theorem Counting.freshId_range {c : Correlator} (counting : c.Counting) :
    0 < c.freshId ∧ c.freshId ≤ Frame.maxRequestId :=
  freeId_range counting.1 counting.2 _

theorem Counting.freshId_free {c : Correlator} (counting : c.Counting)
    (few : c.pending.length < Frame.maxRequestId) : c.freshId ∉ c.pending.map (·.1) := by
  have shorter : (c.pending.map (·.1)).length < Frame.maxRequestId := by rwa [List.length_map]
  have free := exists_idAt_free shorter c.nextId
  rw [List.length_map] at free
  exact freeId_free counting.1 counting.2 free

-- Each id is in range because the circle is, wherever it stood before.
theorem counting_register (c : Correlator) (now : Instant) (expiry : Option Duration) :
    (c.register now expiry).2.Counting := by
  rcases c.register_eq now expiry with ⟨-, same⟩ | ⟨-, same⟩
  · rw [same]
    exact idAfter_range _
  · rw [same]
    exact idAfter_range _

namespace Counting

variable {c : Correlator} (counting : c.Counting)
include counting

theorem cancel (id : Nat) : (c.cancel id).2.Counting := by
  rw [show (c.cancel id).2 = _ from c.remove_table id]
  exact counting

theorem resolve (id : Nat) (content : Value) : (c.resolve id content).2.Counting := by
  rcases c.resolve_cases id content with ⟨-, same⟩ | ⟨ticket, -, same⟩
  · rw [same]
    exact counting
  · rw [same]
    exact counting

theorem poll (ticket : Nat) (now : Instant) : (c.poll ticket now).2.Counting := by
  cases there : c.call? ticket with
  | none =>
    unfold Correlator.poll
    rw [there]
    exact counting
  | some call =>
    rcases poll_cases there now with ⟨same, -⟩ | ⟨id, after, -, same⟩
    · rw [same]
      exact counting
    · rw [same, remove_table]
      exact counting

end Counting

end Correlator

namespace Endpoint

variable {τ : Type} [Transport τ] {e : Endpoint τ} (counting : e.correlator.Counting)
include counting

theorem counting_call (typeId : Nat) (content : Value) (o : CallOptions) (now : Instant) :
    (e.call typeId content o now).2.correlator.Counting := by
  unfold call
  cases e.prepare typeId content o with
  | error why => exact counting
  | ok body =>
    simp only
    split
    · have registered := e.correlator.counting_register now (o.expiryUnder e.config)
      rcases e.sendAwaited_correlator typeId body now (o.expiryUnder e.config) with same | same | ⟨id, same⟩
      · rw [same]
        exact counting
      · rw [same]
        exact registered
      · rw [same]
        exact registered.cancel id
    · obtain ⟨frames, sent⟩ := e.sendOneWay_eq_sendEach typeId body
      rw [sent, sendEach_correlator]
      exact counting

theorem counting_deliver (p : Packet) : (e.deliver p).correlator.Counting := by
  unfold deliver settle
  split
  · exact counting.resolve p.requestId p.content
  · obtain ⟨frames, sent⟩ := dispatch_eq_sendEach ((e.tell p).note (.settled p)) p.typeId p.requestId p.content
    rw [sent, sendEach_correlator]
    exact counting

theorem counting_feed (bytes : Bytes) : (e.feed bytes).correlator.Counting := by
  have delivered (packets : List Packet) (e : Endpoint τ) (counting : e.correlator.Counting) :
      (packets.foldl deliver e).correlator.Counting := by
    induction packets generalizing e with
    | nil => exact counting
    | cons p others ih => exact ih (e.deliver p) (counting_deliver counting p)
  exact delivered (e.deframer.feed bytes).2 { e with deframer := (e.deframer.feed bytes).1 } counting

end Endpoint

theorem Lifetime.Reached.counting {τ : Type} [Transport τ] {config : EndpointConfig} {l : Lifetime τ}
    (reached : Reached config l) : l.endpoint.correlator.Counting := by
  induction reached with
  | start handlers methods => exact Correlator.counting_new
  | @step l prior action legal ih =>
    cases action with
    | attachStream offer =>
      rcases l.endpoint.attachStream_cases offer with ⟨transport, -, same⟩ | ⟨why, -, same⟩
      · rw [after, same]
        exact ih
      · rw [after, same]
        exact ih
    | detach | close => exact ih
    | exit reader =>
      show (l.endpoint.readerExit reader.generation).correlator.Counting
      unfold Endpoint.readerExit
      split <;> exact ih
    | call typeId content options now => exact Endpoint.counting_call ih typeId content options now
    | wait ticket now => exact Correlator.Counting.poll ih ticket now
    | feed bytes => exact Endpoint.counting_feed ih bytes
    | interruptPending => exact ih
    | sweep now => exact ih

end FramedRpc
