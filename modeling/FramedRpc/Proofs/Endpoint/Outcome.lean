import Mathlib.Data.List.Perm.Basic
import FramedRpc.Proofs.Endpoint.Operation

namespace FramedRpc

def PendingCall.Told (call : PendingCall) (answers : List Value) (results : List (Except RpcError Value)) : Prop :=
  match call.slot with
  | .waiting => answers = [] ∧ results = []
  | .resolved v => answers = [v] ∧ results = []
  | .taken => ∃ v n, answers = [v] ∧ results = .ok v :: List.replicate n (.error (.interrupted call.requestId))
  | .expired => answers = [] ∧ ∃ n, results = List.replicate n (.error call.expiredError)
  | .interrupted => answers = [] ∧ ∃ n, results = List.replicate n (.error (.interrupted call.requestId))

namespace PendingCall

theorem isDue_iff {call : PendingCall} {now : Instant} :
    call.isDue now = true ↔ ∃ deadline, call.deadline = some deadline ∧ deadline ≤ now := by
  unfold isDue
  cases call.deadline <;> simp

namespace Told

variable {call : PendingCall} {answers : List Value} {results : List (Except RpcError Value)}
  (told : call.Told answers results)
include told

theorem of_waiting (waits : call.slot = .waiting) : answers = [] ∧ results = [] := by
  unfold Told at told
  rwa [waits] at told

theorem resolve (waits : call.slot = .waiting) (content : Value) :
    Told { call with slot := .resolved content } (answers ++ [content]) results := by
  obtain ⟨rfl, rfl⟩ := told.of_waiting waits
  exact ⟨rfl, rfl⟩

theorem expire (waits : call.slot = .waiting) : Told { call with slot := .expired } answers results := by
  obtain ⟨rfl, rfl⟩ := told.of_waiting waits
  exact ⟨rfl, 0, rfl⟩

theorem interrupt (waits : call.slot = .waiting) : Told { call with slot := .interrupted } answers results := by
  obtain ⟨rfl, rfl⟩ := told.of_waiting waits
  exact ⟨rfl, 0, rfl⟩

theorem claim {now : Instant} {result : Except RpcError Value} (learned : (call.claim now).1 = some result) :
    (call.claim now).2.Told answers (results ++ [result]) := by
  cases slot : call.slot with
  | waiting =>
    obtain ⟨rfl, rfl⟩ := told.of_waiting slot
    rw [claim_waiting slot] at learned ⊢
    split at learned
    · rename_i due
      cases learned
      rw [if_pos due]
      exact ⟨rfl, 1, rfl⟩
    · cases learned
  | resolved v =>
    unfold Told at told
    rw [slot] at told
    obtain ⟨rfl, rfl⟩ := told
    unfold PendingCall.claim at learned ⊢
    rw [slot] at learned ⊢
    cases learned
    exact ⟨v, 0, rfl, rfl⟩
  | taken =>
    unfold Told at told
    rw [slot] at told
    obtain ⟨v, n, rfl, rfl⟩ := told
    unfold PendingCall.claim at learned ⊢
    rw [slot] at learned ⊢
    cases learned
    unfold Told
    rw [slot]
    exact ⟨v, n + 1, rfl, by rw [List.cons_append, List.replicate_succ']⟩
  | expired | interrupted =>
    unfold Told at told
    rw [slot] at told
    obtain ⟨rfl, n, rfl⟩ := told
    unfold PendingCall.claim at learned ⊢
    rw [slot] at learned ⊢
    cases learned
    unfold Told
    rw [slot]
    exact ⟨rfl, n + 1, by rw [List.replicate_succ']⟩

end Told

end PendingCall

namespace Correlator

namespace Event

variable (e : Event)

def given : List Nat :=
  match e.reply with
  | .id id => [id]
  | _ => e.added.map (·.1)

def answer (id : Nat) : Option Value :=
  match e.operation, e.reply with
  | .resolve answered content, .found true => if answered = id then some content else none
  | _, _ => none

def result (ticket : Nat) : Option (Except RpcError Value) :=
  match e.operation, e.reply with
  | .wait waited, .outcome result => if waited = ticket then some result else none
  | _, _ => none

def completes (ticket : Nat) : Bool := !e.before.isComplete ticket && e.after.isComplete ticket

-- The ways in which a record stops waiting.
inductive Ends (ticket : Nat) (call : PendingCall) : Slot → Prop where
  | resolved {content : Value} (own : e.operation = .resolve call.requestId content) (found : e.reply = .found true) :
    Ends ticket call (.resolved content)
  | expired {deadline : Instant} (known : call.deadline = some deadline) (due : deadline ≤ e.time) :
    Ends ticket call .expired
  | interrupted (all : e.operation = .interruptAll) (pending : (call.requestId, ticket) ∈ e.before.pending) :
    Ends ticket call .interrupted

end Event

namespace Event.Lawful

variable {e : Event} (lawful : e.Lawful)
include lawful

theorem reply_of_resolve {id : Nat} {content : Value} (operation : e.operation = .resolve id content) :
    e.reply = .found (e.removed ≠ []) := by
  have answered := lawful.answered
  unfold Answered at answered
  rwa [operation] at answered

theorem reply_of_wait {ticket : Nat} (operation : e.operation = .wait ticket) :
    ∃ call learned, e.before.call? ticket = some call ∧ (call.claim e.time).1 = some learned ∧
      e.reply = .outcome learned := by
  have answered := lawful.answered
  unfold Answered at answered
  rwa [operation] at answered

theorem added_cases : e.added = [] ∨ ∃ call : PendingCall, e.added = [(call.requestId, e.before.calls.length)] ∧
    e.after.call? e.before.calls.length = some call ∧ call.slot = .waiting ∧ call.requestId = e.before.nextId ∧
    e.operation.issues = true := by
  have answered := lawful.answered
  unfold Answered at answered
  cases operation : e.operation with
  | register expiry =>
    rw [operation] at answered
    rcases answered with ⟨_, _, _, reply⟩ | ⟨reply, there⟩
    · exact .inl (by simp [added, reply])
    · exact .inr ⟨_, by simp [added, reply, there], there, rfl, rfl, rfl⟩
  | nextRequestId | resolve | cancel | sweep | interruptAll =>
    simp only [operation] at answered
    exact .inl (by simp [added, answered])
  | wait ticket =>
    obtain ⟨_, _, -, -, reply⟩ := lawful.reply_of_wait operation
    exact .inl (by simp [added, reply])

theorem given_cases : e.given = [] ∨ e.given = [e.before.nextId] ∧ e.operation.issues = true := by
  unfold given
  split
  · rename_i id reply
    have answered := lawful.answered
    unfold Answered at answered
    cases operation : e.operation <;> simp [operation, reply] at answered
    exact .inr ⟨congrArg ([·]) answered, rfl⟩
  · rcases lawful.added_cases with nothing | ⟨call, entry, -, -, next, issues⟩
    · exact .inl (by rw [nothing]; rfl)
    · exact .inr ⟨by rw [entry, ← next]; rfl, issues⟩

theorem call_after {ticket : Nat} {later : PendingCall} (there : e.after.call? ticket = some later) :
    (∃ call, e.before.call? ticket = some call ∧
      later = { call with slot := e.operation.slotAfter e.before e.time ticket call }) ∨
    e.before.call? ticket = none ∧ later.slot = .waiting ∧ later.requestId = e.before.nextId ∧
      e.operation.issues = true := by
  cases old : e.before.call? ticket with
  | some call =>
    refine .inl ⟨call, rfl, ?_⟩
    exact Option.some.inj (there.symm.trans (lawful.kept ticket call old))
  | none =>
    refine .inr ⟨rfl, ?_⟩
    have long : e.before.calls.length ≤ ticket := List.getElem?_eq_none_iff.mp old
    have short : ticket < e.after.calls.length := (List.getElem?_eq_some_iff.mp there).1
    have grown := congrArg List.length lawful.grown
    unfold ids at grown
    simp only [List.length_append, List.length_map] at grown
    rcases lawful.added_cases with nothing | ⟨call, entry, new, fresh⟩
    · rw [nothing] at grown
      exact absurd short (by simpa [grown] using long)
    · rw [entry] at grown
      have here : ticket = e.before.calls.length := by
        simp only [List.length_singleton] at grown
        omega
      subst here
      cases new.symm.trans there
      exact fresh

theorem parts_perm : (e.before.pending.filter (· ∉ e.removed) ++ e.removed).Perm e.before.pending := by
  have stays : e.before.pending.filter (· ∉ e.removed) =
      e.before.pending.filter (!e.operation.removes e.before e.time ·) := by
    refine List.filter_congr fun entry member => ?_
    rw [lawful.removes, Bool.eq_iff_iff]
    simp [member]
  rw [stays, lawful.removes]
  exact List.perm_append_comm.trans (List.filter_append_perm _ _)

end Event.Lawful

namespace Event

variable {e : Event} {used ticket : Nat} {call : PendingCall}

variable (orderly : e.before.Orderly used) (lawful : e.Lawful)
include orderly lawful

theorem mem_removed (there : e.before.call? ticket = some call) (flies : e.before.InFlight ticket)
    (removes : e.operation.removes e.before e.time (call.requestId, ticket) = true) :
    (call.requestId, ticket) ∈ e.removed := by
  rw [lawful.removes]
  exact List.mem_filter.mpr ⟨(orderly.inFlight there flies).2, removes⟩

theorem call_cases (there : e.before.call? ticket = some call) :
    e.after.call? ticket = some call ∨
      (call.slot = .waiting ∧ ∃ outcome, e.Ends ticket call outcome ∧
        e.after.call? ticket = some { call with slot := outcome }) ∨
      ∃ v, call.slot = .resolved v ∧ e.result ticket = some (.ok v) ∧
        e.after.call? ticket = some { call with slot := .taken } := by
  rw [lawful.kept ticket call there]
  have flight := orderly.inFlight there
  cases operation : e.operation with
  | register expiry | sweep =>
    unfold Operation.slotAfter
    simp only
    split
    · rename_i late
      obtain ⟨deadline, known, due⟩ := PendingCall.isDue_iff.mp late.2
      exact .inr (.inl ⟨(flight late.1).1, _, .expired known due, rfl⟩)
    · exact .inl rfl
  | resolve id content =>
    unfold Operation.slotAfter
    simp only
    split
    · rename_i own
      obtain ⟨flies, rfl⟩ := own
      have out := mem_removed orderly lawful there flies (by simp [operation, Operation.removes])
      have yes := (lawful.reply_of_resolve operation).trans (congrArg Reply.found (decide_eq_true (List.ne_nil_of_mem out)))
      exact .inr (.inl ⟨(flight flies).1, _, .resolved operation yes, rfl⟩)
    · exact .inl rfl
  | wait waited =>
    obtain ⟨waiter, learned, waits, told, reply⟩ := lawful.reply_of_wait operation
    unfold Operation.slotAfter
    simp only
    split
    · rename_i here
      subst here
      cases there.symm.trans waits
      rw [← PendingCall.claim_record]
      cases slot : call.slot with
      | waiting =>
        rw [PendingCall.claim_waiting slot]
        split
        · rename_i late
          obtain ⟨deadline, known, due⟩ := PendingCall.isDue_iff.mp late
          exact .inr (.inl ⟨rfl, _, .expired known due, rfl⟩)
        · exact .inl rfl
      | resolved v =>
        unfold PendingCall.claim at told ⊢
        rw [slot] at told ⊢
        cases told
        exact .inr (.inr ⟨v, rfl, by simp [result, operation, reply], rfl⟩)
      | taken | expired | interrupted =>
        unfold PendingCall.claim
        rw [slot]
        exact .inl rfl
    · exact .inl rfl
  | interruptAll =>
    unfold Operation.slotAfter
    simp only
    split
    · rename_i flies
      exact .inr (.inl ⟨(flight flies).1, _, .interrupted operation (flight flies).2, rfl⟩)
    · exact .inl rfl
  | cancel | nextRequestId => exact .inl rfl

theorem isComplete_after (done : e.before.isComplete ticket = true) : e.after.isComplete ticket = true := by
  obtain ⟨call, there, complete⟩ := (Option.any_eq_true _ _).mp done
  rcases call_cases orderly lawful there with same | ⟨waits, -⟩ | ⟨v, -, -, after⟩
  · exact (Option.any_eq_true _ _).mpr ⟨call, same, complete⟩
  · exact absurd waits (of_decide_eq_true complete)
  · exact (Option.any_eq_true _ _).mpr ⟨_, after, rfl⟩

theorem call_of_other (there : e.before.call? ticket = some call) (stays : (call.requestId, ticket) ∉ e.removed)
    (alone : e.result ticket = none) : e.after.call? ticket = some call := by
  rw [lawful.kept ticket call there]
  suffices same : e.operation.slotAfter e.before e.time ticket call = call.slot by rw [same]
  have leaves := mem_removed orderly lawful there
  cases operation : e.operation with
  | register expiry | sweep =>
    refine if_neg fun late => stays (leaves late.1 ?_)
    rw [operation]
    exact (isDue_of_call there e.time).trans late.2
  | resolve id content =>
    refine if_neg fun own => stays (leaves own.1 ?_)
    rw [operation]
    exact decide_eq_true own.2
  | wait waited =>
    obtain ⟨_, _, -, -, reply⟩ := lawful.reply_of_wait operation
    refine if_neg ?_
    rintro rfl
    simp [result, operation, reply] at alone
  | interruptAll =>
    refine if_neg fun flies => stays (leaves flies ?_)
    rw [operation]
    rfl
  | cancel | nextRequestId => rfl

theorem answer_of_resolve (there : e.before.call? ticket = some call) {id : Nat} {content : Value}
    (operation : e.operation = .resolve id content) :
    e.answer call.requestId = if e.before.InFlight ticket ∧ call.requestId = id then some content else none := by
  have found := lawful.reply_of_resolve operation
  split
  · rename_i own
    have out := mem_removed orderly lawful there own.1 (by simp [operation, Operation.removes, own.2])
    simp [answer, operation, found, List.ne_nil_of_mem out, own.2]
  · rename_i other
    by_cases same : id = call.requestId
    · have nothing : e.removed = [] := by
        rw [lawful.removes, operation]
        refine List.filter_eq_nil_iff.mpr fun entry member out => other ?_
        have here := (orderly.same_call there member).mp ((of_decide_eq_true out).trans same)
        exact ⟨here ▸ .of_mem member, same.symm⟩
      simp [answer, operation, found, nothing]
    · simp only [answer, operation, found]
      split
      · rename_i resolve _
        cases resolve
        exact if_neg same
      · rfl

theorem told_after (there : e.before.call? ticket = some call) {answers : List Value}
    {results : List (Except RpcError Value)} (told : call.Told answers results) :
    PendingCall.Told { call with slot := e.operation.slotAfter e.before e.time ticket call }
      (answers ++ (e.answer call.requestId).toList) (results ++ (e.result ticket).toList) := by
  have flight := orderly.inFlight there
  have unheard : ∀ later : PendingCall, e.answer call.requestId = none → e.result ticket = none →
      later.Told answers results →
      later.Told (answers ++ (e.answer call.requestId).toList) (results ++ (e.result ticket).toList) := by
    intro later mute alone told
    rw [mute, alone, Option.toList_none, Option.toList_none, List.append_nil, List.append_nil]
    exact told
  cases operation : e.operation with
  | register expiry | sweep =>
    refine unheard _ (by simp [answer, operation]) (by simp [result, operation]) ?_
    unfold Operation.slotAfter
    simp only
    split
    · rename_i late
      exact told.expire (flight late.1).1
    · exact told
  | resolve id content =>
    have alone : e.result ticket = none := by simp [result, operation]
    rw [answer_of_resolve orderly lawful there operation, alone, Option.toList_none, List.append_nil]
    unfold Operation.slotAfter
    simp only
    split
    · rename_i own
      exact told.resolve (flight own.1).1 content
    · rw [Option.toList_none, List.append_nil]
      exact told
  | wait waited =>
    have mute : e.answer call.requestId = none := by simp [answer, operation]
    obtain ⟨waiter, learned, waits, told', reply⟩ := lawful.reply_of_wait operation
    unfold Operation.slotAfter
    simp only
    split
    · rename_i here
      subst here
      cases there.symm.trans waits
      have here : e.result ticket = some learned := by simp [result, operation, reply]
      rw [mute, here, Option.toList_none, List.append_nil, ← PendingCall.claim_record]
      exact told.claim told'
    · rename_i apart
      exact unheard _ mute (by simp [result, operation, reply, Ne.symm apart]) told
  | interruptAll =>
    refine unheard _ (by simp [answer, operation]) (by simp [result, operation]) ?_
    unfold Operation.slotAfter
    simp only
    split
    · rename_i flies
      exact told.interrupt (flight flies).1
    · exact told
  | cancel | nextRequestId => exact unheard _ (by simp [answer, operation]) (by simp [result, operation]) told

omit orderly in
theorem result_of_nobody (nobody : e.before.call? ticket = none) : e.result ticket = none := by
  cases operation : e.operation with
  | wait waited =>
    obtain ⟨waiter, learned, waits, -, reply⟩ := lawful.reply_of_wait operation
    have apart : waited ≠ ticket := by
      rintro rfl
      cases nobody.symm.trans waits
    simp [result, operation, reply, apart]
  | register | nextRequestId | resolve | cancel | sweep | interruptAll => simp [result, operation]

theorem answer_of_nobody {id : Nat} (new : id ∉ e.before.ids) : e.answer id = none := by
  cases operation : e.operation with
  | resolve answered content =>
    simp only [answer, operation, lawful.reply_of_resolve operation]
    split
    · rename_i resolve out
      cases resolve
      refine if_neg ?_
      rintro rfl
      have some : e.removed ≠ [] := of_decide_eq_true (Reply.found.inj out)
      rw [lawful.removes, operation] at some
      obtain ⟨entry, member⟩ := List.exists_mem_of_ne_nil _ some
      obtain ⟨old, key⟩ := List.mem_filter.mp member
      obtain ⟨call, there, own, -⟩ := orderly.entries entry old
      rw [← of_decide_eq_true key, ← own] at new
      exact new (List.mem_of_getElem? (ids_getElem? there))
    · rfl
  | register | nextRequestId | wait | cancel | sweep | interruptAll => simp [answer, operation]

end Event

end Correlator
end FramedRpc
