import Mathlib.Algebra.Group.Nat.Defs
import FramedRpc.Proofs.Endpoint.Outcome
import FramedRpc.Proofs.Lookup

namespace FramedRpc
namespace Correlator

-- A run from the start, at times that do not decrease, with the operations that returned.
inductive Run : Correlator → Instant → List Event → Prop where
  | start (now : Instant) : Run .new now []
  | step {c d : Correlator} {now time : Instant} {events : List Event} {reply : Reply} (run : Run c now events)
    (operation : Operation) (passed : now ≤ time) (performed : c.perform time operation = some (reply, d)) :
    Run d time (events ++ [⟨time, operation, reply, c, d⟩])

section

variable (events : List Event)

def issued : Nat := events.countP (·.operation.issues)

def given : List Nat := events.flatMap (·.given)

def added : List (Nat × Nat) := events.flatMap (·.added)

def removed : List (Nat × Nat) := events.flatMap (·.removed)

def answers (id : Nat) : List Value := events.filterMap (·.answer id)

def results (ticket : Nat) : List (Except RpcError Value) := events.filterMap (·.result ticket)

end

theorem filterMap_concat {α : Type} (learn : Event → Option α) (events : List Event) (e : Event) :
    (events ++ [e]).filterMap learn = events.filterMap learn ++ (learn e).toList := by
  rw [List.filterMap_append, List.filterMap_cons]
  cases learn e <;> rfl

theorem issued_concat (events : List Event) (e : Event) :
    issued (events ++ [e]) = issued events + e.operation.issues.toNat := by
  unfold issued
  rw [List.countP_append, List.countP_singleton]
  cases e.operation.issues <;> rfl

namespace Run

variable {c : Correlator} {now : Instant} {events : List Event}

theorem orderly (run : Run c now events) (few : issued events ≤ Frame.maxRequestId) : c.Orderly (issued events) := by
  induction run with
  | start => exact new_orderly
  | step run operation passed performed ih =>
    rw [issued_concat] at few ⊢
    refine (ih (by omega)).perform (fun issues => ?_) performed
    simp only [issues, Bool.toNat_true] at few
    exact few

theorem rec_lawful {motive : Correlator → Instant → List Event → Prop} (start : ∀ now, motive .new now [])
    (step : ∀ {now : Instant} {events : List Event} (e : Event), Run e.before now events →
      issued events ≤ Frame.maxRequestId → (e.operation.issues = true → issued events < Frame.maxRequestId) →
      now ≤ e.time → e.Lawful → motive e.before now events → motive e.after e.time (events ++ [e]))
    (run : Run c now events) (few : issued events ≤ Frame.maxRequestId) : motive c now events := by
  induction run with
  | start now => exact start now
  | @step c d now time events reply run operation passed performed ih =>
    rw [issued_concat] at few
    have fewer : issued events ≤ Frame.maxRequestId := by omega
    have room : operation.issues = true → issued events < Frame.maxRequestId := by
      intro issues
      simp only [issues, Bool.toNat_true] at few
      exact few
    have lawful := perform_lawful (run.orderly fewer) room performed
    exact step ⟨time, operation, reply, c, d⟩ run fewer room passed lawful (ih fewer)

variable (run : Run c now events) (few : issued events ≤ Frame.maxRequestId)
include run few

theorem lawful : ∀ e ∈ events, e.Lawful ∧ ∃ used, e.before.Orderly used := by
  refine rec_lawful
    (motive := fun _ _ events => ∀ e ∈ events, e.Lawful ∧ ∃ used, e.before.Orderly used) ?_ ?_ run few
  · exact fun _ => List.forall_mem_nil _
  · intro now events e run few room passed law ih other member
    rcases List.mem_append.mp member with old | new
    · exact ih other old
    · cases List.mem_singleton.mp new
      exact ⟨law, _, run.orderly few⟩

theorem given_sublist : (given events).Sublist (List.range' 1 (issued events)) := by
  refine rec_lawful (motive := fun _ _ events => (given events).Sublist (List.range' 1 (issued events))) ?_ ?_ run few
  · exact fun _ => .slnil
  · intro now events e run few room passed law ih
    have all : given (events ++ [e]) = given events ++ e.given := by simp [given]
    rw [all, issued_concat]
    rcases law.given_cases with nothing | ⟨id, issues⟩
    · rw [nothing, List.append_nil]
      exact ih.trans (List.range'_sublist_right.mpr (Nat.le_add_right _ _))
    · rw [id, issues, Bool.toNat_true, List.range'_1_concat]
      rw [(run.orderly few).next (room issues), Nat.add_comm]
      exact ih.append (.refl _)

theorem added_eq : added events = c.ids.zipIdx := by
  refine rec_lawful (motive := fun c _ events => added events = c.ids.zipIdx) ?_ ?_ run few
  · exact fun _ => rfl
  · intro now events e run few room passed law ih
    have all : added (events ++ [e]) = added events ++ e.added := by simp [added]
    rw [all, ih, law.grown, List.zipIdx_append]
    rcases law.added_cases with nothing | ⟨call, entry, -⟩
    · rw [nothing]
      rfl
    · rw [entry]
      unfold ids
      rw [List.length_map, Nat.zero_add]
      rfl

theorem pending_perm : (c.pending ++ removed events).Perm (added events) := by
  refine rec_lawful (motive := fun c _ events => (c.pending ++ removed events).Perm (added events)) ?_ ?_ run few
  · exact fun _ => .refl _
  · intro now events e run few room passed law ih
    have every : added (events ++ [e]) = added events ++ e.added := by simp [added]
    have out : removed (events ++ [e]) = removed events ++ e.removed := by simp [removed]
    rw [every, out, law.table, List.append_assoc]
    have parted : (e.before.pending.filter (· ∉ e.removed) ++ (removed events ++ e.removed)).Perm
        (e.before.pending ++ removed events) := by
      refine (List.perm_append_comm.append_left _).trans ?_
      rw [← List.append_assoc]
      exact law.parts_perm.append_right _
    exact (parted.append_left e.added).trans (List.perm_append_comm.trans (ih.append_right e.added))

theorem keys_nodup : ((c.pending ++ removed events).map (·.1)).Nodup := by
  have entered : (added events).map (·.1) = c.ids := by rw [run.added_eq few, List.zipIdx_map_fst]
  exact (((run.pending_perm few).map (·.1)).trans (.of_eq entered)).nodup_iff.mpr (run.orderly few).distinct

theorem lookup_iff (id ticket : Nat) : c.pending.lookup id = some ticket ↔
    (id, ticket) ∈ added events ∧ (id, ticket) ∉ removed events := by
  have keys := run.keys_nodup few
  rw [List.map_append] at keys
  have apart := (List.nodup_append.mp keys).2.2
  rw [lookup_iff_mem (keys.of_append_left), ← (run.pending_perm few).mem_iff, List.mem_append]
  constructor
  · intro member
    refine ⟨.inl member, fun out => ?_⟩
    exact apart id (List.mem_map_of_mem member) id (List.mem_map_of_mem out) rfl
  · rintro ⟨member | out, stays⟩
    · exact member
    · exact absurd out stays

theorem once (ticket : Nat) : events.countP (·.completes ticket) = (c.isComplete ticket).toNat := by
  refine rec_lawful
    (motive := fun c _ events => events.countP (·.completes ticket) = (c.isComplete ticket).toNat) ?_ ?_ run few
  · exact fun _ => rfl
  · intro now events e run few room passed law ih
    rw [List.countP_append, ih, List.countP_singleton]
    unfold Event.completes
    cases before : e.before.isComplete ticket with
    | true =>
      rw [Event.isComplete_after (run.orderly few) law before]
      rfl
    | false =>
      cases e.after.isComplete ticket <;> rfl

theorem overdue : ∀ ticket call, c.call? ticket = some call → call.slot = .expired → call.isDue now = true := by
  refine rec_lawful (motive := fun c now _ => ∀ ticket call, c.call? ticket = some call → call.slot = .expired →
    call.isDue now = true) ?_ ?_ run few
  · exact fun _ _ _ => nofun
  · intro now events e run few room passed law ih ticket later there expired
    rcases law.call_after there with ⟨call, old, -⟩ | ⟨-, waits, -⟩
    · have cases := Event.call_cases (run.orderly few) law old
      rcases cases with same | ⟨-, outcome, ends, after⟩ | ⟨v, -, -, after⟩
      · cases there.symm.trans same
        exact PendingCall.isDue_mono (ih ticket later old expired) passed
      · cases there.symm.trans after
        cases expired
        cases ends with
        | expired known due => exact PendingCall.isDue_iff.mpr ⟨_, known, due⟩
      · cases there.symm.trans after
        cases expired
    · cases waits.symm.trans expired

theorem unheard : (∀ ticket, c.call? ticket = none → results events ticket = []) ∧
    ∀ id, id ∉ c.ids → answers events id = [] := by
  refine rec_lawful (motive := fun c _ events => (∀ ticket, c.call? ticket = none → results events ticket = []) ∧
    ∀ id, id ∉ c.ids → answers events id = []) ?_ ?_ run few
  · exact fun _ => ⟨fun _ _ => rfl, fun _ _ => rfl⟩
  · intro now events e run few room passed law ih
    obtain ⟨unheard, unanswered⟩ := ih
    constructor
    · intro ticket nobody
      have before : e.before.call? ticket = none := by
        cases there : e.before.call? ticket with
        | none => rfl
        | some call => cases nobody.symm.trans (law.kept ticket call there)
      unfold results
      rw [filterMap_concat, Event.result_of_nobody law before]
      exact congrArg (· ++ []) (unheard ticket before)
    · intro id new
      have before : id ∉ e.before.ids := fun old => new (law.grown ▸ List.mem_append_left _ old)
      unfold answers
      rw [filterMap_concat, Event.answer_of_nobody (run.orderly few) law before]
      exact congrArg (· ++ []) (unanswered id before)

theorem told : ∀ ticket call, c.call? ticket = some call →
    call.Told (answers events call.requestId) (results events ticket) := by
  refine rec_lawful (motive := fun c _ events => ∀ ticket call, c.call? ticket = some call →
    call.Told (answers events call.requestId) (results events ticket)) ?_ ?_ run few
  · exact fun _ _ _ => nofun
  · intro now events e run few room passed law ih ticket later there
    unfold results answers
    rw [filterMap_concat, filterMap_concat]
    rcases law.call_after there with ⟨call, old, rfl⟩ | ⟨nobody, waits, id, issues⟩
    · exact Event.told_after (run.orderly few) law old (ih ticket call old)
    · obtain ⟨silent, unanswered⟩ := run.unheard few
      have new : later.requestId ∉ e.before.ids := by
        intro old
        have bound := ((run.orderly few).range _ old).2
        rw [id, (run.orderly few).next (room issues)] at bound
        exact Nat.not_succ_le_self _ bound
      have heard := silent _ nobody
      have accepted := unanswered _ new
      unfold results at heard
      unfold answers at accepted
      rw [heard, accepted, Event.result_of_nobody law nobody, Event.answer_of_nobody (run.orderly few) law new]
      unfold PendingCall.Told
      rw [waits]
      exact ⟨rfl, rfl⟩

end Run

structure Consistent (c : Correlator) (now : Instant) (events : List Event) : Prop where
  lawful : ∀ e ∈ events, e.Lawful
  distinct : (given events).Nodup
  range : ∀ id ∈ given events, 0 < id ∧ id ≤ Frame.maxRequestId
  records : added events = c.ids.zipIdx
  -- The table leads from an id to the one record with it, until its entry is taken out.
  table : ∀ id ticket, c.pending.lookup id = some ticket ↔
    (id, ticket) ∈ added events ∧ (id, ticket) ∉ removed events
  waiting : ∀ id ticket, c.pending.lookup id = some ticket → ∃ call, c.call? ticket = some call ∧
    call.requestId = id ∧ call.slot = .waiting
  -- A record gets one outcome, and in one of few ways.
  once : ∀ ticket, events.countP (·.completes ticket) = (c.isComplete ticket).toNat
  changes : ∀ e ∈ events, ∀ ticket call, e.before.call? ticket = some call →
    e.after.call? ticket = some call ∨
      (call.slot = .waiting ∧ ∃ outcome, e.Ends ticket call outcome ∧
        e.after.call? ticket = some { call with slot := outcome }) ∨
      ∃ v, call.slot = .resolved v ∧ e.result ticket = some (.ok v) ∧
        e.after.call? ticket = some { call with slot := .taken }
  overdue : ∀ ticket call, c.call? ticket = some call → call.slot = .expired → call.isDue now = true
  -- A wait returns once there is an outcome, or the call is due, and everyone who waits learns the outcome.
  told : ∀ ticket call, c.call? ticket = some call →
    call.Told (answers events call.requestId) (results events ticket)
  returns : ∀ ticket call time, c.call? ticket = some call →
    ((c.perform time (.wait ticket)).isSome ↔ call.slot ≠ .waiting ∨ call.isDue time = true)
  -- Only a record changes whose entry leaves the table, or that somebody waits for.
  others : ∀ e ∈ events, ∀ ticket call, e.before.call? ticket = some call →
    (call.requestId, ticket) ∉ e.removed → e.result ticket = none → e.after.call? ticket = some call
  count : c.pendingCount + (removed events).length = (added events).length

-- Whatever is done with a correlator, every call is accounted for.
theorem Run.consistent {c : Correlator} {now : Instant} {events : List Event} (run : Run c now events)
    (few : issued events < 2 ^ 30) : Consistent c now events := by
  have few : issued events ≤ Frame.maxRequestId := Nat.le_of_lt_succ few
  have each := run.lawful few
  have given := run.given_sublist few
  exact {
    lawful := fun e member => (each e member).1
    distinct := given.nodup List.nodup_range'
    range := by
      intro id member
      have bounds := List.mem_range'_1.mp (given.subset member)
      omega
    records := run.added_eq few
    table := run.lookup_iff few
    waiting := by
      intro id ticket found
      have keys := run.keys_nodup few
      rw [List.map_append] at keys
      exact (run.orderly few).entries _ ((lookup_iff_mem keys.of_append_left).mp found)
    once := run.once few
    changes := by
      intro e member ticket call there
      obtain ⟨law, used, orderly⟩ := each e member
      exact e.call_cases orderly law there
    overdue := run.overdue few
    told := run.told few
    returns := by
      intro ticket call time there
      unfold perform
      rw [Option.isSome_map, poll_outcome there]
      exact call.claim_isSome time
    others := by
      intro e member ticket call there stays alone
      obtain ⟨law, used, orderly⟩ := each e member
      exact e.call_of_other orderly law there stays alone
    count := by
      have size := (run.pending_perm few).length_eq
      rwa [List.length_append] at size }

-- Two calls, one answered and one given up; whoever waits for the first a second time comes too late.
theorem consistent_after_answer : ∃ c events, Run c 5 events ∧ issued events = 2 ∧
    results events 0 = [.ok (.list []), .error (.interrupted 1)] ∧ results events 1 = [.error (.expired 2 5)] ∧
    Consistent c 5 events := by
  have run := Run.start 0
    |>.step (.register none) (Nat.le_refl 0) rfl
    |>.step (.register (some 5)) (Nat.le_refl 0) rfl
    |>.step (.resolve 1 (.list [])) (Nat.zero_le 3) rfl
    |>.step (.wait 0) (Nat.le_refl 3) rfl
    |>.step .sweep (Nat.le_add_right 3 2) rfl
    |>.step (.wait 1) (Nat.le_refl 5) rfl
    |>.step (.wait 0) (Nat.le_refl 5) rfl
  exact ⟨_, _, run, rfl, rfl, rfl, run.consistent (by decide)⟩

end Correlator
end FramedRpc
