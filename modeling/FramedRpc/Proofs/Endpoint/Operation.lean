import FramedRpc.Proofs.Endpoint.Correlator

namespace FramedRpc

namespace PendingCall

theorem claim_waiting {call : PendingCall} (waiting : call.slot = .waiting) (now : Instant) :
    call.claim now =
      if call.isDue now then (some (.error call.expiredError), { call with slot := .expired }) else (none, call) := by
  unfold claim
  rw [waiting]

theorem claim_record (call : PendingCall) (now : Instant) :
    (call.claim now).2 = { call with slot := (call.claim now).2.slot } := by
  cases slot : call.slot with
  | waiting =>
    rw [claim_waiting slot]
    split <;> rfl
  | resolved | taken | expired | interrupted =>
    unfold claim
    rw [slot]

theorem claim_isSome (call : PendingCall) (now : Instant) :
    (call.claim now).1.isSome ↔ call.slot ≠ .waiting ∨ call.isDue now = true := by
  cases slot : call.slot with
  | waiting =>
    rw [claim_waiting slot]
    split <;> simp_all
  | resolved | taken | expired | interrupted =>
    unfold claim
    rw [slot]
    exact ⟨fun _ => .inl Slot.noConfusion, fun _ => rfl⟩

theorem claim_told {call : PendingCall} {now : Instant} {result : Except RpcError Value}
    (told : (call.claim now).1 = some result) :
    result = .error call.expiredError ∨
      call.slot ≠ .waiting ∧ ∀ id after, result ≠ .error (.expired id after) := by
  cases slot : call.slot with
  | waiting =>
    rw [claim_waiting slot] at told
    split at told
    · cases told
      exact .inl rfl
    · cases told
  | expired =>
    unfold claim at told
    rw [slot] at told
    cases told
    exact .inl rfl
  | resolved | taken | interrupted =>
    unfold claim at told
    rw [slot] at told
    cases told
    exact .inr ⟨nofun, nofun⟩

end PendingCall

namespace Correlator

inductive Operation where
  | register (expiry : Option Duration)
  | nextRequestId
  | resolve (requestId : Nat) (content : Value)
  | cancel (requestId : Nat)
  | wait (ticket : Nat)
  | sweep
  | interruptAll

inductive Reply where
  | ticket (result : Except RpcError Nat)
  | id (requestId : Nat)
  | found (yes : Bool)
  | count (n : Nat)
  | outcome (result : Except RpcError Value)

-- A wait that has nothing to tell yet does not return.
def perform (c : Correlator) (time : Instant) : Operation → Option (Reply × Correlator)
  | .register expiry => some (.ticket (c.register time expiry).1, (c.register time expiry).2)
  | .nextRequestId => some (.id c.nextRequestId.1, c.nextRequestId.2)
  | .resolve id content => some (.found (c.resolve id content).1, (c.resolve id content).2)
  | .cancel id => some (.found (c.cancel id).1, (c.cancel id).2)
  | .wait ticket => (c.poll ticket time).1.map fun result => (.outcome result, (c.poll ticket time).2)
  | .sweep => some (.count (c.sweep time).1, (c.sweep time).2)
  | .interruptAll => some (.count c.interruptAll.1, c.interruptAll.2)

def InFlight (c : Correlator) (ticket : Nat) : Prop := ticket ∈ c.pending.map (·.2)

instance (c : Correlator) (ticket : Nat) : Decidable (c.InFlight ticket) :=
  inferInstanceAs (Decidable (ticket ∈ c.pending.map (·.2)))

namespace Operation

variable (operation : Operation) (c : Correlator) (time : Instant)

def issues : Bool :=
  match operation with
  | .register _ | .nextRequestId => true
  | _ => false

def removes (entry : Nat × Nat) : Bool :=
  match operation with
  | .register _ | .sweep => c.isDue entry.2 time
  | .resolve id _ | .cancel id => entry.1 = id
  | .wait ticket => entry.2 = ticket
  | .interruptAll => true
  | .nextRequestId => false

def slotAfter (ticket : Nat) (call : PendingCall) : Slot :=
  match operation with
  | .register _ | .sweep => if c.InFlight ticket ∧ call.isDue time = true then .expired else call.slot
  | .resolve id content => if c.InFlight ticket ∧ call.requestId = id then .resolved content else call.slot
  | .wait waited => if ticket = waited then (call.claim time).2.slot else call.slot
  | .interruptAll => if c.InFlight ticket then .interrupted else call.slot
  | .cancel _ | .nextRequestId => call.slot

end Operation

-- An operation as it took place.
structure Event where
  time : Instant
  operation : Operation
  reply : Reply
  before : Correlator
  after : Correlator

namespace Event

def added (e : Event) : List (Nat × Nat) :=
  match e.reply with
  | .ticket (.ok ticket) => (e.after.call? ticket).toList.map fun call => (call.requestId, ticket)
  | _ => []

def removed (e : Event) : List (Nat × Nat) := e.before.pending.filter (· ∉ e.after.pending)

def Answered (e : Event) : Prop :=
  match e.operation with
  | .register expiry =>
    (∃ after, expiry = some after ∧ e.time.after? after = none ∧
      e.reply = .ticket (.error .deadlineOutOfRange)) ∨
      e.reply = .ticket (.ok e.before.calls.length) ∧ e.after.call? e.before.calls.length =
        some ⟨e.before.nextId, expiry, expiry.bind (Instant.after? e.time), .waiting⟩
  | .nextRequestId => e.reply = .id e.before.nextId
  | .resolve .. | .cancel .. => e.reply = .found (e.removed ≠ [])
  | .wait ticket => ∃ call result, e.before.call? ticket = some call ∧ (call.claim e.time).1 = some result ∧
      e.reply = .outcome result
  | .sweep | .interruptAll => e.reply = .count e.removed.length

structure Lawful (e : Event) : Prop where
  kept : ∀ ticket call, e.before.call? ticket = some call →
    e.after.call? ticket = some { call with slot := e.operation.slotAfter e.before e.time ticket call }
  grown : e.after.ids = e.before.ids ++ e.added.map (·.1)
  removes : e.removed = e.before.pending.filter (e.operation.removes e.before e.time)
  table : e.after.pending = e.added ++ e.before.pending.filter (· ∉ e.removed)
  answered : e.Answered

end Event

section

variable {c d : Correlator} {used ticket : Nat} {call : PendingCall} {outcome : Slot} {time : Instant}

theorem InFlight.of_mem {entry : Nat × Nat} (member : entry ∈ c.pending) : c.InFlight entry.2 :=
  List.mem_map_of_mem member

namespace Orderly

variable (orderly : Orderly c used)
include orderly

theorem inFlight (there : c.call? ticket = some call) (flies : c.InFlight ticket) :
    call.slot = .waiting ∧ (call.requestId, ticket) ∈ c.pending := by
  obtain ⟨entry, member, rfl⟩ := List.mem_map.mp flies
  obtain ⟨waiter, waits, id, waiting⟩ := orderly.entries entry member
  cases there.symm.trans waits
  rw [id]
  exact ⟨waiting, member⟩

theorem same_call (there : c.call? ticket = some call) {entry : Nat × Nat} (member : entry ∈ c.pending) :
    entry.1 = call.requestId ↔ entry.2 = ticket := by
  obtain ⟨waiter, waits, id, -⟩ := orderly.entries entry member
  constructor
  · intro same
    exact orderly.ticket_eq waits there (id.trans same)
  · rintro rfl
    cases there.symm.trans waits
    exact id.symm

theorem ticket_lt {entry : Nat × Nat} (member : entry ∈ c.pending) : entry.2 < c.calls.length := by
  obtain ⟨waiter, waits, -⟩ := orderly.entries entry member
  exact (List.getElem?_eq_some_iff.mp waits).1

theorem call_completeAll (there : c.call? ticket = some call) {tickets : List Nat}
    (fly : ∀ ticket ∈ tickets, c.InFlight ticket) (ends : outcome ≠ .waiting) (pending : List (Nat × Nat)) :
    ({ c with pending := pending }.completeAll tickets outcome).call? ticket =
      some { call with slot := if ticket ∈ tickets then outcome else call.slot } := by
  unfold call?
  rw [calls_completeAll _ _ ends]
  unfold call? at there
  rw [there, Option.map_some]
  split
  · rename_i listed
    rw [call.complete_waiting (orderly.inFlight there (fly ticket listed)).1]
  · rfl

end Orderly

theorem Event.lawful {e : Event}
    (kept : ∀ ticket call, e.before.call? ticket = some call →
      e.after.call? ticket = some { call with slot := e.operation.slotAfter e.before e.time ticket call })
    (grown : e.after.ids = e.before.ids ++ e.added.map (·.1))
    (pending : e.after.pending = e.added ++ e.before.pending.filter fun entry =>
      !e.operation.removes e.before e.time entry)
    (fresh : ∀ entry ∈ e.added, entry ∉ e.before.pending)
    (answered : e.removed = e.before.pending.filter (e.operation.removes e.before e.time) → e.Answered) :
    e.Lawful := by
  have leaves : ∀ entry ∈ e.before.pending,
      entry ∉ e.after.pending ↔ e.operation.removes e.before e.time entry = true := by
    intro entry member
    have old : entry ∉ e.added := fun new => fresh entry new member
    simp [pending, old, member]
  have removes : e.removed = e.before.pending.filter (e.operation.removes e.before e.time) := by
    refine List.filter_congr fun entry member => ?_
    rw [Bool.eq_iff_iff, decide_eq_true_iff]
    exact leaves entry member
  refine ⟨kept, grown, removes, ?_, answered removes⟩
  rw [pending]
  congr 1
  refine List.filter_congr fun entry member => ?_
  rw [removes, Bool.eq_iff_iff]
  simp [member]

theorem lawful_sweep (orderly : Orderly c used) (time : Instant) :
    Event.Lawful ⟨time, .sweep, .count (c.sweep time).1, c, (c.sweep time).2⟩ := by
  apply Event.lawful
  case kept =>
    intro ticket call there
    have overdue : ticket ∈ (c.pending.filter fun entry => c.isDue entry.2 time).map (·.2) ↔
        c.InFlight ticket ∧ call.isDue time = true := by
      rw [← isDue_of_call there time]
      simp [InFlight]
    refine (orderly.call_completeAll there ?_ Slot.noConfusion _).trans ?_
    · intro other late
      obtain ⟨entry, member, rfl⟩ := List.mem_map.mp late
      exact .of_mem (List.mem_filter.mp member).1
    · simp only [overdue]
      rfl
  case grown => exact (c.ids_sweep time).trans (List.append_nil _).symm
  case pending => rfl
  case fresh => exact nofun
  case answered =>
    intro removed
    exact congrArg (Reply.count ·.length) removed.symm

theorem lawful_interruptAll (orderly : Orderly c used) (time : Instant) :
    Event.Lawful ⟨time, .interruptAll, .count c.interruptAll.1, c, c.interruptAll.2⟩ := by
  apply Event.lawful
  case kept =>
    intro ticket call there
    exact orderly.call_completeAll there (fun _ member => member) Slot.noConfusion []
  case grown => exact (ids_completeAll c _ .interrupted).trans (List.append_nil _).symm
  case pending => exact (List.filter_eq_nil_iff.mpr nofun).symm
  case fresh => exact nofun
  case answered =>
    intro removed
    have all : c.pending.filter (Operation.interruptAll.removes c time) = c.pending :=
      List.filter_eq_self.mpr fun _ _ => rfl
    exact congrArg (Reply.count ·.length) (removed.trans all).symm

theorem lawful_nextRequestId (c : Correlator) (time : Instant) :
    Event.Lawful ⟨time, .nextRequestId, .id c.nextRequestId.1, c, c.nextRequestId.2⟩ := by
  apply Event.lawful
  case kept => exact fun _ _ there => there
  case grown => exact (List.append_nil _).symm
  case pending => exact (List.filter_eq_self.mpr fun _ _ => rfl).symm
  case fresh => exact nofun
  case answered => exact fun _ => rfl

theorem remove_table (c : Correlator) (id : Nat) :
    (c.remove id).2 = { c with pending := c.pending.filter fun entry => !decide (entry.1 = id) } := by
  unfold remove
  cases found : c.pending.lookup id with
  | none =>
    have all : c.pending.filter (fun entry => !decide (entry.1 = id)) = c.pending := by
      refine List.filter_eq_self.mpr fun entry member => ?_
      have apart := bne_iff_ne.mp (List.lookup_eq_none_iff.mp found entry member)
      simpa using apart.symm
    simp only [all]
  | some ticket => simp only [decide_not]

theorem remove_cases (c : Correlator) (id : Nat) :
    (c.remove id).1 = none ∧ (∀ entry ∈ c.pending, entry.1 ≠ id) ∨
      ∃ ticket, (c.remove id).1 = some ticket ∧ (id, ticket) ∈ c.pending := by
  unfold remove
  cases found : c.pending.lookup id with
  | none =>
    refine .inl ⟨rfl, fun entry member same => ?_⟩
    simpa [same] using List.lookup_eq_none_iff.mp found entry member
  | some ticket =>
    obtain ⟨before, after, split, -⟩ := List.lookup_eq_some_iff.mp found
    refine .inr ⟨ticket, rfl, ?_⟩
    rw [split]
    exact List.mem_append_right before List.mem_cons_self

theorem isSome_remove (c : Correlator) (id : Nat) :
    (c.remove id).1.isSome = decide (c.pending.filter (fun entry => decide (entry.1 = id)) ≠ []) := by
  rw [Bool.eq_iff_iff, decide_eq_true_iff, Ne, List.filter_eq_nil_iff]
  rcases c.remove_cases id with ⟨nobody, apart⟩ | ⟨ticket, somebody, member⟩
  · rw [nobody]
    exact ⟨nofun, fun some => absurd (fun entry member => by simpa using apart entry member) some⟩
  · rw [somebody]
    exact ⟨fun _ none => none _ member (decide_eq_true rfl), fun _ => rfl⟩

theorem lawful_cancel (c : Correlator) (time : Instant) (id : Nat) :
    Event.Lawful ⟨time, .cancel id, .found (c.cancel id).1, c, (c.cancel id).2⟩ := by
  have table : (c.cancel id).2 = _ := c.remove_table id
  apply Event.lawful
  case kept =>
    intro ticket call there
    simp only [table]
    exact there
  case grown =>
    simp only [table]
    exact (List.append_nil _).symm
  case pending =>
    simp only [table]
    rfl
  case fresh => exact nofun
  case answered =>
    intro removed
    refine congrArg Reply.found ((c.isSome_remove id).trans ?_)
    rw [removed]
    rfl

theorem resolve_eq (orderly : Orderly c used) (id : Nat) (content : Value) :
    c.resolve id content = ((c.remove id).1.isSome,
      (c.remove id).2.completeAll (c.remove id).1.toList (.resolved content)) := by
  have table := c.remove_table id
  have found := c.remove_cases id
  unfold resolve
  generalize c.remove id = removal at table found ⊢
  obtain ⟨answered, left⟩ := removal
  rcases found with ⟨rfl, -⟩ | ⟨ticket, rfl, member⟩
  · rfl
  · obtain ⟨waiter, waits, -, waiting⟩ := orderly.entries _ member
    cases table
    simp [isComplete, call?, waits, PendingCall.isComplete, waiting]

theorem lawful_resolve (orderly : Orderly c used) (time : Instant) (id : Nat) (content : Value) :
    Event.Lawful ⟨time, .resolve id content, .found (c.resolve id content).1, c, (c.resolve id content).2⟩ := by
  rw [resolve_eq orderly, c.remove_table id]
  apply Event.lawful
  case kept =>
    intro ticket call there
    have found : ticket ∈ (c.remove id).1.toList ↔ c.InFlight ticket ∧ call.requestId = id := by
      rcases c.remove_cases id with ⟨nobody, apart⟩ | ⟨answered, somebody, member⟩
      · rw [nobody]
        exact ⟨nofun, fun ⟨flies, same⟩ => absurd same (apart _ (orderly.inFlight there flies).2)⟩
      · rw [somebody, Option.mem_toList, Option.some.injEq, ← orderly.same_call there member]
        constructor
        · intro same
          have here := (orderly.same_call there member).mp same
          exact ⟨here ▸ .of_mem member, same.symm⟩
        · exact fun ⟨_, same⟩ => same.symm
    refine (orderly.call_completeAll there ?_ Slot.noConfusion _).trans ?_
    · intro other listed
      rcases c.remove_cases id with ⟨nobody, -⟩ | ⟨answered, somebody, member⟩
      · rw [nobody] at listed
        cases listed
      · rw [somebody, Option.mem_toList] at listed
        cases listed
        exact .of_mem member
    · simp only [found]
      rfl
  case grown => exact (ids_completeAll _ _ _).trans (List.append_nil _).symm
  case pending => rfl
  case fresh => exact nofun
  case answered =>
    intro removed
    refine congrArg Reply.found ((c.isSome_remove id).trans ?_)
    rw [removed]
    rfl

theorem poll_returns (orderly : Orderly c used) {result : Except RpcError Value} (there : c.call? ticket = some call)
    (told : (call.claim time).1 = some result) :
    c.poll ticket time = (some result, { c with
      calls := c.calls.set ticket (call.claim time).2
      pending := c.pending.filter fun entry => !decide (entry.2 = ticket) }) := by
  unfold poll
  simp only [there, told]
  rcases PendingCall.claim_told told with rfl | ⟨done, other⟩
  · have given : c.pending.filter (fun entry => !decide (entry.1 = call.requestId)) =
        c.pending.filter fun entry => !decide (entry.2 = ticket) := by
      refine List.filter_congr fun entry member => ?_
      simp only [orderly.same_call there member]
    rw [← given]
    exact congrArg (Prod.mk _) (remove_table _ _)
  · have kept : c.pending.filter (fun entry => !decide (entry.2 = ticket)) = c.pending := by
      refine List.filter_eq_self.mpr fun entry member => ?_
      simp only [Bool.not_eq_true', decide_eq_false_iff_not]
      rintro rfl
      exact done (orderly.inFlight there (.of_mem member)).1
    rw [kept]
    split
    · rename_i id after same
      cases same
      exact absurd rfl (other id after)
    · rfl

theorem lawful_wait (orderly : Orderly c used) {result : Except RpcError Value} (there : c.call? ticket = some call)
    (told : (call.claim time).1 = some result) :
    Event.Lawful ⟨time, .wait ticket, .outcome result, c, (c.poll ticket time).2⟩ := by
  rw [poll_returns orderly there told]
  have short : ticket < c.calls.length := (List.getElem?_eq_some_iff.mp there).1
  apply Event.lawful
  case kept =>
    intro other record here
    refine (List.getElem?_set).trans ?_
    by_cases same : ticket = other
    · subst same
      cases there.symm.trans here
      rw [if_pos rfl, if_pos short, Operation.slotAfter, if_pos rfl, ← PendingCall.claim_record]
    · rw [if_neg same, Operation.slotAfter, if_neg (Ne.symm same)]
      exact here
  case grown =>
    refine Eq.trans ?_ (List.append_nil _).symm
    unfold ids
    apply List.ext_getElem?
    intro other
    simp only [List.getElem?_map, List.getElem?_set]
    split
    · rename_i same
      subst same
      rw [PendingCall.claim_record]
      exact (congrArg (Option.map (·.requestId)) there).symm
    · rfl
  case pending => rfl
  case fresh => exact nofun
  case answered => exact fun _ => ⟨call, result, there, told, rfl⟩

theorem lawful_register (orderly : Orderly c used) (room : used < Frame.maxRequestId) (time : Instant)
    (expiry : Option Duration) :
    Event.Lawful ⟨time, .register expiry, .ticket (c.register time expiry).1, c, (c.register time expiry).2⟩ := by
  have sweep := lawful_sweep orderly time
  rcases register_cases orderly room time expiry with ⟨⟨after, rfl, late⟩, refused⟩ | entered
  · rw [refused]
    apply Event.lawful
    case kept => exact sweep.kept
    case grown => exact sweep.grown
    case pending => rfl
    case fresh => exact nofun
    case answered => exact fun _ => .inl ⟨after, rfl, late, rfl⟩
  · rw [entered]
    have length : (c.sweep time).2.nextRequestId.2.calls.length = c.calls.length := by
      have same := congrArg List.length (c.ids_sweep time)
      unfold ids at same
      rwa [List.length_map, List.length_map] at same
    rw [length]
    generalize record : PendingCall.mk (used + 1) expiry (expiry.bind (Instant.after? time)) .waiting = call
    have there : ((c.sweep time).2.nextRequestId.2.enter call).call? c.calls.length = some call :=
      length ▸ call?_enter _ call
    have added : Event.added ⟨time, .register expiry, .ticket (.ok c.calls.length), c,
        (c.sweep time).2.nextRequestId.2.enter call⟩ = [(call.requestId, c.calls.length)] := by
      simp only [Event.added, there]
      rfl
    apply Event.lawful
    case kept =>
      intro ticket earlier here
      have short : ticket < (c.sweep time).2.nextRequestId.2.calls.length :=
        length ▸ (List.getElem?_eq_some_iff.mp here).1
      exact (List.getElem?_append_left short).trans (sweep.kept ticket earlier here)
    case grown =>
      rw [added, ids_enter]
      exact congrArg (· ++ [call.requestId]) (c.ids_sweep time)
    case pending =>
      rw [added, ← length]
      rfl
    case fresh =>
      rw [added]
      intro entry new old
      rw [List.mem_singleton.mp new] at old
      exact Nat.lt_irrefl _ (orderly.ticket_lt old)
    case answered =>
      intro removed
      refine .inr ⟨rfl, there.trans ?_⟩
      rw [← record, orderly.next room]

theorem poll_outcome (there : c.call? ticket = some call) (time : Instant) :
    (c.poll ticket time).1 = (call.claim time).1 := by
  unfold poll
  simp only [there]
  split <;> rfl

theorem perform_wait {reply : Reply} (performed : c.perform time (.wait ticket) = some (reply, d)) :
    ∃ call result, c.call? ticket = some call ∧ (call.claim time).1 = some result ∧ reply = .outcome result ∧
      d = (c.poll ticket time).2 := by
  obtain ⟨result, told, equal⟩ := Option.map_eq_some_iff.mp performed
  cases equal
  cases there : c.call? ticket with
  | none =>
    unfold poll at told
    rw [there] at told
    cases told
  | some call => exact ⟨call, result, rfl, (poll_outcome there time).symm.trans told, rfl, rfl⟩

theorem perform_lawful (orderly : Orderly c used) {operation : Operation} {reply : Reply}
    (room : operation.issues = true → used < Frame.maxRequestId)
    (performed : c.perform time operation = some (reply, d)) : Event.Lawful ⟨time, operation, reply, c, d⟩ := by
  cases operation with
  | register expiry =>
    cases performed
    exact lawful_register orderly (room rfl) time expiry
  | nextRequestId =>
    cases performed
    exact lawful_nextRequestId c time
  | resolve id content =>
    cases performed
    exact lawful_resolve orderly time id content
  | cancel id =>
    cases performed
    exact lawful_cancel c time id
  | wait ticket =>
    obtain ⟨call, result, there, told, rfl, rfl⟩ := perform_wait performed
    exact lawful_wait orderly there told
  | sweep =>
    cases performed
    exact lawful_sweep orderly time
  | interruptAll =>
    cases performed
    exact lawful_interruptAll orderly time

namespace Orderly

variable (orderly : Orderly c used)
include orderly

theorem register (room : used < Frame.maxRequestId) (time : Instant) (expiry : Option Duration) :
    Orderly (c.register time expiry).2 (used + 1) := by
  have swept := (orderly.sweep time).skip room
  rcases register_cases orderly room time expiry with ⟨-, refused⟩ | entered
  · rw [refused]
    exact swept
  · rw [entered]
    refine swept.enter (Nat.succ_pos used) (Nat.le_refl _) ?_ rfl
    intro old
    exact Nat.not_succ_le_self used ((orderly.sweep time).range _ old).2

theorem cancel (id : Nat) : Orderly (c.cancel id).2 used := by
  have table : (c.cancel id).2 = _ := c.remove_table id
  rw [table]
  have ends : Slot.interrupted ≠ .waiting := Slot.noConfusion
  exact orderly.drop ends fun _ _ _ => List.not_mem_nil

theorem interruptAll : Orderly c.interruptAll.2 used where
  range := by
    unfold Correlator.interruptAll
    exact (ids_completeAll c _ .interrupted).symm ▸ orderly.range
  distinct := (ids_completeAll c _ .interrupted).symm ▸ orderly.distinct
  next := orderly.next
  entries := nofun

theorem wait {result : Except RpcError Value} (there : c.call? ticket = some call)
    (told : (call.claim time).1 = some result) : Orderly (c.poll ticket time).2 used := by
  have grown : (c.poll ticket time).2.ids = c.ids := (lawful_wait orderly there told).grown.trans (List.append_nil _)
  refine ⟨grown ▸ orderly.range, grown ▸ orderly.distinct, ?_, ?_⟩
  · rw [poll_returns orderly there told]
    exact orderly.next
  · rw [poll_returns orderly there told]
    intro entry member
    obtain ⟨old, other⟩ := List.mem_filter.mp member
    obtain ⟨waiter, waits, id, waiting⟩ := orderly.entries entry old
    have apart : ticket ≠ entry.2 := by
      rintro rfl
      simp at other
    exact ⟨waiter, (List.getElem?_set_ne apart).trans waits, id, waiting⟩

theorem perform {operation : Operation} {reply : Reply}
    (room : operation.issues = true → used < Frame.maxRequestId)
    (performed : c.perform time operation = some (reply, d)) : Orderly d (used + operation.issues.toNat) := by
  cases operation with
  | register expiry =>
    cases performed
    exact orderly.register (room rfl) time expiry
  | nextRequestId =>
    cases performed
    exact orderly.skip (room rfl)
  | resolve id content =>
    cases performed
    exact orderly.resolve id content
  | cancel id =>
    cases performed
    exact orderly.cancel id
  | wait ticket =>
    obtain ⟨call, result, there, told, rfl, rfl⟩ := perform_wait performed
    exact orderly.wait there told
  | sweep =>
    cases performed
    exact orderly.sweep time
  | interruptAll =>
    cases performed
    exact orderly.interruptAll

end Orderly

end

end Correlator
end FramedRpc
