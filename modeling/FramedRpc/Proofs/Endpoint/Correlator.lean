import Mathlib.Data.List.Lookmap
import Mathlib.Data.List.Nodup
import FramedRpc.Endpoint.Correlator

namespace FramedRpc

namespace PendingCall

theorem complete_waiting {call : PendingCall} (waiting : call.slot = .waiting) (outcome : Slot) :
    call.complete outcome = { call with slot := outcome } := by
  simp [complete, isComplete, waiting]

theorem complete_completed {call : PendingCall} (done : call.slot ≠ .waiting) (outcome : Slot) :
    call.complete outcome = call := by
  simp [complete, isComplete, done]

@[simp] theorem requestId_complete (call : PendingCall) (outcome : Slot) :
    (call.complete outcome).requestId = call.requestId := by
  unfold complete
  split <;> rfl

theorem slot_complete (call : PendingCall) {outcome : Slot} (ends : outcome ≠ .waiting) :
    (call.complete outcome).slot ≠ .waiting := by
  by_cases waiting : call.slot = .waiting
  · rw [complete_waiting waiting]
    exact ends
  · rw [complete_completed waiting]
    exact waiting

theorem complete_complete (call : PendingCall) {outcome : Slot} (ends : outcome ≠ .waiting) :
    (call.complete outcome).complete outcome = call.complete outcome :=
  complete_completed (call.slot_complete ends) outcome

theorem isDue_mono {call : PendingCall} {now later : Instant} (due : call.isDue now = true) (passed : now ≤ later) :
    call.isDue later = true := by
  unfold isDue at due ⊢
  cases deadline : call.deadline with
  | none =>
    rw [deadline] at due
    cases due
  | some time =>
    rw [deadline] at due
    exact decide_eq_true (Nat.le_trans (of_decide_eq_true due) passed)

end PendingCall

namespace Correlator

def ids (c : Correlator) : List Nat := c.calls.map (·.requestId)

def enter (c : Correlator) (call : PendingCall) : Correlator :=
  { c with calls := c.calls ++ [call], pending := (call.requestId, c.calls.length) :: c.pending }

variable {c d : Correlator} {outcome : Slot} {used : Nat}

theorem calls_completeAll (c : Correlator) (tickets : List Nat) (ends : outcome ≠ .waiting) (ticket : Nat) :
    (c.completeAll tickets outcome).calls[ticket]? =
      (c.calls[ticket]?).map fun call => if ticket ∈ tickets then call.complete outcome else call := by
  unfold completeAll
  simp only
  generalize c.calls = calls
  induction tickets generalizing calls with
  | nil => simp
  | cons first others ih =>
    rw [List.foldl_cons, ih, List.getElem?_modify]
    cases calls[ticket]? with
    | none => rfl
    | some call =>
      by_cases here : first = ticket
      · subst here
        simp only [Option.map_some, if_true, List.mem_cons_self]
        split
        · exact congrArg some (call.complete_complete ends)
        · rfl
      · have apart : ticket ≠ first := Ne.symm here
        simp [here, apart]

theorem ids_completeAll (c : Correlator) (tickets : List Nat) (outcome : Slot) :
    (c.completeAll tickets outcome).ids = c.ids := by
  unfold completeAll ids
  simp only
  generalize c.calls = calls
  induction tickets generalizing calls with
  | nil => rfl
  | cons first others ih =>
    rw [List.foldl_cons, ih]
    apply List.ext_getElem?
    intro ticket
    rw [List.getElem?_map, List.getElem?_map, List.getElem?_modify]
    cases calls[ticket]? with
    | none => rfl
    | some call =>
      simp only [Option.map_some]
      split
      · exact congrArg some (call.requestId_complete outcome)
      · rfl

theorem ids_enter (c : Correlator) (call : PendingCall) : (c.enter call).ids = c.ids ++ [call.requestId] :=
  List.map_append

def Continues (c d : Correlator) : Prop :=
  ∀ (ticket : Nat) (call : PendingCall), c.calls[ticket]? = some call → ∃ later : PendingCall,
    d.calls[ticket]? = some later ∧ later.requestId = call.requestId ∧ (call.slot ≠ .waiting → later = call)

theorem Continues.refl (c : Correlator) : Continues c c :=
  fun _ call there => ⟨call, there, rfl, fun _ => rfl⟩

theorem Continues.trans {e : Correlator} (first : Continues c d) (second : Continues d e) : Continues c e := by
  intro ticket call there
  obtain ⟨middle, kept, id, same⟩ := first ticket call there
  obtain ⟨later, still, again, fixed⟩ := second ticket middle kept
  refine ⟨later, still, again.trans id, ?_⟩
  intro done
  have equal := same done
  subst equal
  exact fixed done

theorem completeAll_continues (c : Correlator) (tickets : List Nat) (ends : outcome ≠ .waiting) :
    Continues c (c.completeAll tickets outcome) := by
  intro ticket call there
  refine ⟨if ticket ∈ tickets then call.complete outcome else call, ?_, ?_, ?_⟩
  · rw [calls_completeAll c tickets ends, there]
    rfl
  · split
    · exact call.requestId_complete outcome
    · rfl
  · intro done
    split
    · exact call.complete_completed done outcome
    · rfl

theorem enter_continues (c : Correlator) (call : PendingCall) : Continues c (c.enter call) := by
  intro ticket earlier there
  have short : ticket < c.calls.length := (List.getElem?_eq_some_iff.mp there).1
  exact ⟨earlier, (List.getElem?_append_left short).trans there, rfl, fun _ => rfl⟩

-- What the table leads to still waits, under the id by which it is found.
def Waiting (c : Correlator) : Prop :=
  ∀ entry ∈ c.pending, ∃ call : PendingCall,
    c.calls[entry.2]? = some call ∧ call.requestId = entry.1 ∧ call.slot = .waiting

namespace Waiting

variable (waiting : c.Waiting)
include waiting

theorem drop {keeps : Nat × Nat → Bool} {tickets : List Nat} (ends : outcome ≠ .waiting)
    (apart : ∀ entry ∈ c.pending, keeps entry = true → entry.2 ∉ tickets) :
    ({ c with pending := c.pending.filter keeps }.completeAll tickets outcome).Waiting := by
  intro entry member
  obtain ⟨kept, keeping⟩ := List.mem_filter.mp member
  obtain ⟨call, there, id, still⟩ := waiting entry kept
  refine ⟨call, ?_, id, still⟩
  rw [calls_completeAll _ _ ends]
  simp only [there, Option.map_some, if_neg (apart entry kept keeping)]

theorem enter {call : PendingCall} (waits : call.slot = .waiting) : (c.enter call).Waiting := by
  intro entry member
  rcases List.mem_cons.mp member with rfl | old
  · exact ⟨call, List.getElem?_concat_length, rfl, waits⟩
  · obtain ⟨earlier, there, id, still⟩ := waiting entry old
    have short : entry.2 < c.calls.length := (List.getElem?_eq_some_iff.mp there).1
    exact ⟨earlier, (List.getElem?_append_left short).trans there, id, still⟩

theorem ticket_ne {entry other : Nat × Nat} (member : entry ∈ c.pending) (also : other ∈ c.pending)
    (apart : other.1 ≠ entry.1) : other.2 ≠ entry.2 := by
  intro same
  obtain ⟨call, there, own, -⟩ := waiting entry member
  obtain ⟨call', there', own', -⟩ := waiting other also
  rw [same] at there'
  cases there.symm.trans there'
  exact apart (own'.symm.trans own)

end Waiting

-- Ids are given out in order, every call has its own, and what the table leads to still waits.
structure Orderly (c : Correlator) (used : Nat) : Prop where
  range : ∀ id ∈ c.ids, 0 < id ∧ id ≤ used
  distinct : c.ids.Nodup
  next : used < Frame.maxRequestId → c.nextId = used + 1
  entries : ∀ entry ∈ c.pending, ∃ call : PendingCall,
    c.calls[entry.2]? = some call ∧ call.requestId = entry.1 ∧ call.slot = .waiting

def Tracked (c : Correlator) : Prop :=
  ∀ (ticket : Nat) (call : PendingCall), c.calls[ticket]? = some call → call.slot = .waiting →
    (call.requestId, ticket) ∈ c.pending

theorem new_orderly : Orderly .new 0 where
  range := fun _ member => nomatch member
  distinct := List.nodup_nil
  next := fun _ => rfl
  entries := fun _ member => nomatch member

theorem new_tracked : Tracked .new := fun _ _ there => nomatch there

theorem ids_getElem? {ticket : Nat} {call : PendingCall} (there : c.calls[ticket]? = some call) :
    c.ids[ticket]? = some call.requestId := by
  unfold ids
  rw [List.getElem?_map, there]
  rfl

namespace Orderly

variable (orderly : Orderly c used)
include orderly

theorem ticket_eq {i k : Nat} {a b : PendingCall} (first : c.calls[i]? = some a) (second : c.calls[k]? = some b)
    (same : a.requestId = b.requestId) : i = k := by
  have left := ids_getElem? first
  have right := ids_getElem? second
  rw [← same] at right
  have short : i < c.ids.length := (List.getElem?_eq_some_iff.mp left).1
  exact (List.getElem?_inj short orderly.distinct).mp (left.trans right.symm)

-- Fewer ids than there are were given out, so the next one is nobody's.
theorem freeId_next (room : used < Frame.maxRequestId) (tries : Nat) :
    freeId (c.pending.map (·.1)) c.nextId tries = used + 1 := by
  have free : used + 1 ∉ c.pending.map (·.1) := by
    intro taken
    obtain ⟨entry, member, id⟩ := List.mem_map.mp taken
    obtain ⟨call, there, same, -⟩ := orderly.entries entry member
    have bound := (orderly.range _ (List.mem_of_getElem? (ids_getElem? there))).2
    omega
  rw [orderly.next room]
  cases tries with
  | zero => rfl
  | succ tries => rw [freeId, if_neg free]

theorem drop {keeps : Nat × Nat → Bool} {tickets : List Nat} (ends : outcome ≠ .waiting)
    (apart : ∀ entry ∈ c.pending, keeps entry = true → entry.2 ∉ tickets) :
    Orderly ({ c with pending := c.pending.filter keeps }.completeAll tickets outcome) used where
  range := by
    rw [ids_completeAll]
    exact orderly.range
  distinct := by
    rw [ids_completeAll]
    exact orderly.distinct
  next := orderly.next
  entries := Waiting.drop orderly.entries ends apart

theorem skip (room : used < Frame.maxRequestId) : Orderly c.nextRequestId.2 (used + 1) where
  range := by
    intro id member
    have bounds := orderly.range id member
    omega
  distinct := orderly.distinct
  next := by
    intro more
    have here := orderly.next room
    unfold nextRequestId idAfter
    simp only [here]
    rw [if_neg (by omega)]
  entries := orderly.entries

theorem enter {call : PendingCall} (positive : 0 < call.requestId) (given : call.requestId ≤ used)
    (new : call.requestId ∉ c.ids) (waiting : call.slot = .waiting) : Orderly (c.enter call) used := by
  refine ⟨?_, ?_, orderly.next, Waiting.enter orderly.entries waiting⟩
  · intro id member
    rw [ids_enter, List.mem_append, List.mem_singleton] at member
    rcases member with old | rfl
    · exact orderly.range id old
    · exact ⟨positive, given⟩
  · rw [ids_enter]
    exact orderly.distinct.append (List.nodup_singleton _) (List.disjoint_singleton.mpr new)

end Orderly

theorem calls_enter {call later : PendingCall} {ticket : Nat} (there : (c.enter call).calls[ticket]? = some later) :
    c.calls[ticket]? = some later ∨ ticket = c.calls.length ∧ later = call := by
  have both : (c.calls ++ [call])[ticket]? = some later := there
  rw [List.getElem?_append] at both
  split at both
  · exact .inl both
  · rw [List.getElem?_singleton] at both
    split at both
    · cases both
      exact .inr ⟨by omega, rfl⟩
    · cases both

theorem call?_enter (c : Correlator) (call : PendingCall) : (c.enter call).call? c.calls.length = some call :=
  List.getElem?_concat_length

namespace Tracked

variable (tracked : Tracked c)
include tracked

theorem enter (call : PendingCall) : Tracked (c.enter call) := by
  intro ticket later there waiting
  rcases calls_enter there with old | ⟨rfl, rfl⟩
  · exact List.mem_cons_of_mem _ (tracked ticket later old waiting)
  · exact List.mem_cons_self

theorem drop {keeps : Nat × Nat → Bool} {tickets : List Nat} (ends : outcome ≠ .waiting)
    (covered : ∀ entry ∈ c.pending, keeps entry = false → entry.2 ∈ tickets) :
    Tracked ({ c with pending := c.pending.filter keeps }.completeAll tickets outcome) := by
  intro ticket later there waiting
  rw [calls_completeAll _ _ ends] at there
  obtain ⟨call, old, same⟩ := Option.map_eq_some_iff.mp there
  split at same
  · subst same
    exact absurd waiting (call.slot_complete ends)
  · rename_i apart
    subst same
    have entry := tracked ticket call old waiting
    refine List.mem_filter.mpr ⟨entry, ?_⟩
    cases keeping : keeps (call.requestId, ticket) with
    | true => rfl
    | false => exact absurd (covered _ entry keeping) apart

end Tracked

theorem isDue_of_call {ticket : Nat} {call : PendingCall} (there : c.calls[ticket]? = some call) (now : Instant) :
    c.isDue ticket now = call.isDue now := by
  unfold isDue call?
  rw [there]
  rfl

theorem ids_sweep (c : Correlator) (now : Instant) : (c.sweep now).2.ids = c.ids :=
  ids_completeAll { c with pending := _ } _ .expired

theorem sweep_continues (c : Correlator) (now : Instant) : Continues c (c.sweep now).2 :=
  completeAll_continues { c with pending := _ } _ Slot.noConfusion

theorem sweep_apart (c : Correlator) (now : Instant) : ∀ entry ∈ c.pending, (!c.isDue entry.2 now) = true →
    entry.2 ∉ (c.pending.filter fun entry => c.isDue entry.2 now).map (·.2) := by
  intro entry member fresh overdue
  obtain ⟨other, late, same⟩ := List.mem_map.mp overdue
  have due := (List.mem_filter.mp late).2
  rw [same] at due
  rw [due] at fresh
  cases fresh

theorem Waiting.sweep (waiting : c.Waiting) (now : Instant) : (c.sweep now).2.Waiting :=
  waiting.drop Slot.noConfusion (c.sweep_apart now)

theorem Orderly.sweep (orderly : Orderly c used) (now : Instant) : Orderly (c.sweep now).2 used :=
  orderly.drop Slot.noConfusion (c.sweep_apart now)

theorem Tracked.sweep (tracked : Tracked c) (now : Instant) : Tracked (c.sweep now).2 := by
  refine tracked.drop Slot.noConfusion ?_
  intro entry member late
  exact List.mem_map.mpr ⟨entry, List.mem_filter.mpr ⟨member, by simpa using late⟩, rfl⟩

theorem Orderly.calls_sweep (orderly : Orderly c used) {now : Instant} {ticket : Nat} {later : PendingCall}
    (there : (c.sweep now).2.calls[ticket]? = some later) :
    ∃ call : PendingCall, c.calls[ticket]? = some call ∧
      (later = call ∨ call.slot = .waiting ∧ call.isDue now = true ∧ later = { call with slot := .expired }) := by
  rw [Correlator.sweep, calls_completeAll _ _ Slot.noConfusion] at there
  obtain ⟨call, old, same⟩ := Option.map_eq_some_iff.mp there
  refine ⟨call, old, ?_⟩
  split at same
  · rename_i overdue
    obtain ⟨entry, late, rfl⟩ := List.mem_map.mp overdue
    obtain ⟨member, due⟩ := List.mem_filter.mp late
    obtain ⟨waiter, waits, -, waiting⟩ := orderly.entries entry member
    cases old.symm.trans waits
    have overdue : call.isDue now = true := (isDue_of_call waits now).symm.trans due
    rw [call.complete_waiting waiting] at same
    exact .inr ⟨waiting, overdue, same.symm⟩
  · exact .inl same.symm

-- Calls

def freshId (c : Correlator) : Nat := freeId (c.pending.map (·.1)) c.nextId c.pending.length

def advance (c : Correlator) (now : Instant) : Correlator :=
  { (c.sweep now).2 with nextId := idAfter (c.sweep now).2.freshId }

def record (c : Correlator) (now : Instant) (expiry : Option Duration) : PendingCall :=
  ⟨(c.sweep now).2.freshId, expiry, expiry.bind (Instant.after? now), .waiting⟩

theorem register_eq (c : Correlator) (now : Instant) (expiry : Option Duration) :
    (∃ after, expiry = some after ∧ now.after? after = none) ∧
        c.register now expiry = (.error .deadlineOutOfRange, c.advance now) ∨
      (∀ after, expiry = some after → ∃ deadline, now.after? after = some deadline) ∧
        c.register now expiry = (.ok (c.advance now).calls.length, (c.advance now).enter (c.record now expiry)) := by
  unfold register record
  cases expiry with
  | none => exact .inr ⟨nofun, rfl⟩
  | some after =>
    simp only [Option.bind_some]
    cases late : now.after? after with
    | none => exact .inl ⟨⟨after, rfl, late⟩, rfl⟩
    | some deadline =>
      refine .inr ⟨?_, rfl⟩
      rintro _ ⟨⟩
      exact ⟨deadline, late⟩

theorem register_cases (orderly : Orderly c used) (room : used < Frame.maxRequestId) (now : Instant)
    (expiry : Option Duration) :
    let swept := (c.sweep now).2.nextRequestId.2
    (∃ after, expiry = some after ∧ now.after? after = none) ∧
        c.register now expiry = (.error .deadlineOutOfRange, swept) ∨
      c.register now expiry =
        (.ok swept.calls.length, swept.enter ⟨used + 1, expiry, expiry.bind (Instant.after? now), .waiting⟩) := by
  intro swept
  have id : (c.sweep now).2.freshId = used + 1 := (orderly.sweep now).freeId_next room _
  have advanced : swept = c.advance now := by
    unfold advance
    rw [id, ← (orderly.sweep now).next room]
    rfl
  rw [advanced, ← id]
  exact (c.register_eq now expiry).imp_right And.right

theorem register_continues (c : Correlator) (now : Instant) (expiry : Option Duration) :
    Continues c (c.register now expiry).2 := by
  have swept : Continues c (c.advance now) := c.sweep_continues now
  rcases c.register_eq now expiry with ⟨-, same⟩ | ⟨-, same⟩
  · rw [same]
    exact swept
  · rw [same]
    exact swept.trans (enter_continues _ _)

theorem register_recorded {c after : Correlator} {now : Instant} {expiry : Option Duration} {ticket : Nat}
    (entered : c.register now expiry = (.ok ticket, after)) : ∃ call, after.call? ticket = some call := by
  rcases c.register_eq now expiry with ⟨-, same⟩ | ⟨-, same⟩
  · cases entered.symm.trans same
  · cases entered.symm.trans same
    exact ⟨_, call?_enter _ _⟩

theorem cancel_continues (c : Correlator) (id : Nat) : Continues c (c.cancel id).2 := by
  unfold cancel remove
  cases c.pending.lookup id with
  | none => exact .refl c
  | some ticket => exact fun _ call there => ⟨call, there, rfl, fun _ => rfl⟩

theorem resolve_cases (c : Correlator) (id : Nat) (content : Value) :
    c.pending.lookup id = none ∧ c.resolve id content = (false, c) ∨
      ∃ ticket, (id, ticket) ∈ c.pending ∧ (c.resolve id content).2 =
        { c with pending := c.pending.filter fun entry => entry.1 ≠ id }.completeAll [ticket] (.resolved content) := by
  unfold resolve remove
  cases found : c.pending.lookup id with
  | none => exact .inl ⟨rfl, rfl⟩
  | some ticket =>
    obtain ⟨before, after, split, -⟩ := List.lookup_eq_some_iff.mp found
    refine .inr ⟨ticket, ?_, rfl⟩
    rw [split]
    exact List.mem_append_right before List.mem_cons_self

theorem resolve_continues (c : Correlator) (id : Nat) (content : Value) :
    Continues c (c.resolve id content).2 := by
  rcases c.resolve_cases id content with ⟨-, same⟩ | ⟨ticket, -, same⟩
  · rw [same]
    exact .refl c
  · rw [same]
    exact completeAll_continues { c with pending := _ } _ Slot.noConfusion

theorem ids_resolve (c : Correlator) (id : Nat) (content : Value) : (c.resolve id content).2.ids = c.ids := by
  rcases c.resolve_cases id content with ⟨-, same⟩ | ⟨ticket, -, same⟩
  · rw [same]
  · rw [same, ids_completeAll]
    rfl

theorem Orderly.resolve (orderly : Orderly c used) (id : Nat) (content : Value) :
    Orderly (c.resolve id content).2 used := by
  rcases c.resolve_cases id content with ⟨-, same⟩ | ⟨ticket, member, same⟩
  · rw [same]
    exact orderly
  · rw [same]
    refine orderly.drop Slot.noConfusion ?_
    intro entry kept other here
    exact Waiting.ticket_ne orderly.entries member kept (of_decide_eq_true other) (List.mem_singleton.mp here)

theorem Waiting.resolve (waiting : c.Waiting) (id : Nat) (content : Value) : (c.resolve id content).2.Waiting := by
  rcases c.resolve_cases id content with ⟨-, same⟩ | ⟨ticket, member, same⟩
  · rw [same]
    exact waiting
  · rw [same]
    refine waiting.drop Slot.noConfusion ?_
    intro entry kept other here
    exact waiting.ticket_ne member kept (of_decide_eq_true other) (List.mem_singleton.mp here)

theorem Tracked.resolve (tracked : Tracked c) (orderly : Orderly c used) (id : Nat) (content : Value) :
    Tracked (c.resolve id content).2 := by
  rcases c.resolve_cases id content with ⟨-, same⟩ | ⟨ticket, member, same⟩
  · rw [same]
    exact tracked
  · rw [same]
    refine tracked.drop Slot.noConfusion ?_
    intro entry kept answered
    have equal : entry.1 = id := Decidable.not_not.mp (of_decide_eq_false answered)
    obtain ⟨call, there, own, -⟩ := orderly.entries _ member
    obtain ⟨call', there', own', -⟩ := orderly.entries entry kept
    exact List.mem_singleton.mpr (orderly.ticket_eq there' there (own'.trans (equal.trans own.symm)))

theorem Orderly.calls_resolve (orderly : Orderly c used) (tracked : Tracked c) {id : Nat} {content : Value}
    {ticket : Nat} {later : PendingCall} (there : (c.resolve id content).2.calls[ticket]? = some later) :
    ∃ call : PendingCall, c.calls[ticket]? = some call ∧
      (later = call ∧ (call.slot = .waiting → call.requestId ≠ id) ∨
        call.slot = .waiting ∧ call.requestId = id ∧ later = { call with slot := .resolved content }) := by
  rcases c.resolve_cases id content with ⟨nobody, same⟩ | ⟨answered, member, same⟩
  · rw [same] at there
    refine ⟨later, there, .inl ⟨rfl, ?_⟩⟩
    intro waiting equal
    have entry := tracked ticket later there waiting
    have other := List.lookup_eq_none_iff.mp nobody _ entry
    simp [equal] at other
  · rw [same, calls_completeAll _ _ Slot.noConfusion] at there
    obtain ⟨call, old, outcome⟩ := Option.map_eq_some_iff.mp there
    obtain ⟨waiter, waits, own, waiting⟩ := orderly.entries _ member
    refine ⟨call, old, ?_⟩
    by_cases here : ticket = answered
    · subst here
      cases waits.symm.trans old
      rw [if_pos (List.mem_singleton_self ticket), call.complete_waiting waiting] at outcome
      exact .inr ⟨waiting, own, outcome.symm⟩
    · rw [if_neg fun member => here (List.mem_singleton.mp member)] at outcome
      refine .inl ⟨outcome.symm, ?_⟩
      intro _ equal
      exact here (orderly.ticket_eq old waits (equal.trans own.symm))

end Correlator
end FramedRpc
