import FramedRpc.Transport.Conduit

namespace FramedRpc

namespace Pipe

variable (p : Pipe) (side other : Side)

theorem incoming_setIncoming (lane : Lane) :
    (p.setIncoming side lane).incoming other = if other = side then lane else p.incoming other := by
  cases side <;> cases other <;> rfl

theorem setIncoming_incoming : p.setIncoming side (p.incoming side) = p := by
  cases side <;> rfl

theorem handles_setIncoming (lane : Lane) : (p.setIncoming side lane).handles other = p.handles other := by
  cases side <;> cases other <;> rfl

theorem kind_setIncoming (lane : Lane) : (p.setIncoming side lane).kind = p.kind := by
  cases side <;> rfl

theorem incoming_setHandles (n : Nat) : (p.setHandles side n).incoming other = p.incoming other := by
  cases side <;> cases other <;> rfl

theorem handles_setHandles (n : Nat) :
    (p.setHandles side n).handles other = if other = side then n else p.handles other := by
  cases side <;> cases other <;> rfl

theorem kind_setHandles (n : Nat) : (p.setHandles side n).kind = p.kind := by
  cases side <;> rfl

theorem incoming_shutdown : p.shutdown.incoming side = (p.incoming side).close := by
  cases side <;> rfl

theorem handles_shutdown : p.shutdown.handles side = p.handles side := by
  cases side <;> rfl

variable {p}

theorem closeEnd_memory (memory : p.kind = .memory) : p.closeEnd side = p.shutdown := by
  unfold closeEnd
  simp only [memory, ne_eq, not_true_eq_false, false_and, if_false]

theorem drop_memory (memory : p.kind = .memory) :
    p.drop side =
      if p.handles side ≤ 1 then (p.setHandles side (p.handles side - 1)).shutdown
      else p.setHandles side (p.handles side - 1) := by
  unfold drop
  simp only [handles_setHandles, if_true]
  by_cases last : p.handles side ≤ 1
  · rw [if_pos (by omega), if_pos last, closeEnd_memory]
    rw [kind_setHandles]
    exact memory
  · rw [if_neg (by omega), if_neg last]

theorem read_memory (memory : p.kind = .memory) (whole : (p.incoming side).lost = false) (n : Nat) :
    p.read side n =
      if n = 0 then (.ok [], p)
      else if (p.incoming side).queued ≠ [] then
        (.ok ((p.incoming side).queued.take n),
          p.setIncoming side { p.incoming side with queued := (p.incoming side).queued.drop n })
      else if (p.incoming side).closed then (.ok [], p)
      else (.error (.ofKind .wouldBlock), p) := by
  unfold read wouldBlock
  simp only [memory, and_true, whole, Bool.false_eq_true, if_false]

theorem read_cases (memory : p.kind = .memory) (whole : (p.incoming side).lost = false) (n : Nat) :
    (∃ taken rest, (p.incoming side).queued = taken ++ rest ∧
      p.read side n = (.ok taken, p.setIncoming side { p.incoming side with queued := rest })) ∨
      ∃ why, p.read side n = (.error why, p) := by
  have same : p.setIncoming side { p.incoming side with queued := (p.incoming side).queued } = p :=
    p.setIncoming_incoming side
  rw [read_memory side memory whole]
  split
  · exact .inl ⟨[], _, rfl, by rw [same]⟩
  · split
    · exact .inl ⟨_, _, (List.take_append_drop n _).symm, rfl⟩
    · split
      · exact .inl ⟨[], _, rfl, by rw [same]⟩
      · exact .inr ⟨_, rfl⟩

end Pipe

namespace Conduit

-- A handle is in use while a read waits on it.
def Free (c : Conduit) (side : Side) : Prop := c.waiting.countP (·.side = side) < c.pipe.handles side

-- The clock only goes as far as it has readings.
def Legal (c : Conduit) : Action → Prop
  | .write side _ | .read side _ | .clone side | .drop side | .shutdown side | .setReadTimeout side _ => c.Free side
  | .resume waiter => waiter ∈ c.waiting
  | .pass time => c.now.Reaches time

def Action.asks? : Action → Option (Side × Nat)
  | .read side size => some (side, size)
  | .resume waiter => some (waiter.side, waiter.size)
  | _ => none

-- The clock has a reading for the deadline of a read that begins. One that goes on has its deadline already.
def Timely (c : Conduit) : Action → Prop
  | .read side _ => ∀ timeout, c.timeout side = some timeout → c.now.Reaches timeout
  | _ => True

instance (c : Conduit) (side : Side) : Decidable (c.Free side) :=
  inferInstanceAs (Decidable (c.waiting.countP (·.side = side) < c.pipe.handles side))

instance (c : Conduit) : (action : Action) → Decidable (c.Legal action)
  | .write side _ | .read side _ | .clone side | .drop side | .shutdown side | .setReadTimeout side _ =>
    inferInstanceAs (Decidable (c.Free side))
  | .resume waiter => inferInstanceAs (Decidable (waiter ∈ c.waiting))
  | .pass time => inferInstanceAs (Decidable (c.now.Reaches time))

structure Event where
  action : Action
  outcome : Outcome

namespace Event

variable (side : Side) (e : Event)

def accepted : Bytes :=
  match e.action, e.outcome with
  | .write writer bytes, .wrote (.ok n) => if writer = side then bytes.take n else []
  | _, _ => []

def returned : Bytes :=
  match e.action.asks?, e.outcome with
  | some (reader, _), .read (.ok bytes) => if reader = side then bytes else []
  | _, _ => []

def clones : Bool :=
  match e.action with
  | .clone cloned => cloned = side
  | _ => false

def drops : Bool :=
  match e.action with
  | .drop dropped => dropped = side
  | _ => false

def isShutdown : Bool :=
  match e.action with
  | .shutdown _ => true
  | _ => false

end Event

section

variable (side : Side) (events : List Event)

def accepted : Bytes := events.flatMap (·.accepted side)

def returned : Bytes := events.flatMap (·.returned side)

def clones : Nat := events.countP (·.clones side)

def drops : Nat := events.countP (·.drops side)

-- An end was shut down, or all of its handles were dropped: the first one and every clone.
def Ended : Prop := (∃ e ∈ events, e.isShutdown = true) ∨ ∃ side, drops side events = clones side events + 1

end

structure Effect (p q : Pipe) (e : Event) : Prop where
  kind : q.kind = p.kind
  lost : ∀ side, (q.incoming side).lost = (p.incoming side).lost
  flow : ∀ side, e.returned side ++ (q.incoming side).queued = (p.incoming side).queued ++ e.accepted side.other
  handles : ∀ side, q.handles side + (e.drops side).toNat = p.handles side + (e.clones side).toNat
  alive : ∀ side, e.drops side = true ∨ e.clones side = true → 0 < p.handles side
  closed : ∀ side, (q.incoming side).closed = true ↔
    (p.incoming side).closed = true ∨ e.isShutdown = true ∨ ∃ gone, e.drops gone = true ∧ q.handles gone = 0

theorem Effect.handles_eq_zero {p q : Pipe} {e : Event} (effect : Effect p q e) (side : Side) :
    q.handles side = 0 ↔ p.handles side = 0 ∨ e.drops side = true ∧ q.handles side = 0 := by
  have count := effect.handles side
  have alive := effect.alive side
  cases dropped : e.drops side with
  | true =>
    rw [or_iff_right (Nat.ne_of_gt (alive (.inl dropped)))]
    exact (and_iff_right rfl).symm
  | false =>
    rw [or_iff_left (fun both => Bool.false_ne_true both.1)]
    rw [dropped] at count
    cases cloned : e.clones side with
    | true =>
      have there := alive (.inr cloned)
      rw [cloned] at count
      simp only [Bool.toNat_true, Bool.toNat_false] at count
      omega
    | false =>
      rw [cloned] at count
      rw [show q.handles side = p.handles side from count]

variable {c : Conduit}

theorem Free.alive {side : Side} (free : c.Free side) : 0 < c.pipe.handles side :=
  Nat.lt_of_le_of_lt (Nat.zero_le _) free

theorem attempt_read (w : Waiter) :
    (c.attempt w).2.pipe = (c.pipe.read w.side w.size).2 ∧
      match (c.pipe.read w.side w.size).1 with
      | .ok bytes => (c.attempt w).1 = .read (.ok bytes)
      | .error why => (c.attempt w).1 = if w.isLate c.now then .read (.error why) else .waits := by
  unfold attempt
  obtain ⟨result, pipe⟩ := c.pipe.read w.side w.size
  cases result with
  | ok bytes => exact ⟨rfl, rfl⟩
  | error why =>
    cases w.isLate c.now with
    | true => exact ⟨rfl, rfl⟩
    | false => exact ⟨rfl, rfl⟩

theorem timeout_attempt (w : Waiter) : (c.attempt w).2.timeout = c.timeout := by
  unfold attempt
  obtain ⟨result, pipe⟩ := c.pipe.read w.side w.size
  cases result with
  | ok bytes => rfl
  | error why => cases w.isLate c.now <;> rfl

theorem read_cases (side : Side) (size : Nat) :
    size = 0 ∧ c.read side size = (.read (.ok []), c) ∨
      0 < size ∧ (∃ timeout, c.timeout side = some timeout ∧ ¬c.now.Reaches timeout) ∧
        c.read side size = (.panicked, c) ∨
      0 < size ∧ c.Timely (.read side size) ∧
        c.read side size = c.attempt ⟨side, size, (c.timeout side).map (c.now + ·)⟩ := by
  unfold read
  by_cases nothing : size = 0
  · rw [if_pos nothing]
    exact .inl ⟨nothing, rfl⟩
  · have asked := Nat.pos_of_ne_zero nothing
    rw [if_neg nothing]
    cases set : c.timeout side with
    | none =>
      have timely : c.Timely (.read side size) := fun _ other => absurd (set.symm.trans other) nofun
      exact .inr (.inr ⟨asked, timely, rfl⟩)
    | some timeout =>
      by_cases reaches : c.now.Reaches timeout
      · have timely : c.Timely (.read side size) := fun _ same => Option.some.inj (set.symm.trans same) ▸ reaches
        simp only [Instant.after?_of_reaches reaches]
        exact .inr (.inr ⟨asked, timely, rfl⟩)
      · simp only [Instant.after?_eq_none.mpr reaches]
        exact .inr (.inl ⟨asked, ⟨timeout, rfl, reaches⟩, trivial⟩)

-- How a read is told what the lane has for it: where that is nothing yet, it waits or gives up.
inductive Tells : Except IoError Bytes → Outcome → Prop where
  | bytes (taken : Bytes) : Tells (.ok taken) (.read (.ok taken))
  | waits (why : IoError) : Tells (.error why) .waits
  | refused (why : IoError) : Tells (.error why) (.read (.error why))

theorem Tells.outcome_ok {taken : Bytes} {outcome : Outcome} (tells : Tells (.ok taken) outcome) :
    outcome = .read (.ok taken) := by
  cases tells
  rfl

theorem attempt_tells (w : Waiter) : Tells (c.pipe.read w.side w.size).1 (c.attempt w).1 := by
  have answer := (c.attempt_read w).2
  cases found : (c.pipe.read w.side w.size).1 with
  | ok taken =>
    rw [found] at answer
    rw [answer]
    exact .bytes taken
  | error why =>
    rw [found] at answer
    rw [answer]
    split
    · exact .refused why
    · exact .waits why

theorem perform_read (memory : c.pipe.kind = .memory) {action : Action} {side : Side} {size : Nat}
    (asks : action.asks? = some (side, size)) :
    ¬c.Timely action ∧ c.perform action = (.panicked, c) ∨
      (c.perform action).2.pipe = (c.pipe.read side size).2 ∧
        Tells (c.pipe.read side size).1 (c.perform action).1 := by
  cases action with
  | read reader n =>
    cases asks
    rcases c.read_cases side size with ⟨rfl, nothing⟩ | ⟨-, ⟨timeout, set, beyond⟩, broke⟩ | ⟨-, -, begun⟩
    · refine .inr ?_
      have empty : c.pipe.read side 0 = (.ok [], c.pipe) := by
        unfold Pipe.read
        simp only [memory, and_self, if_true]
      rw [perform, nothing, empty]
      exact ⟨rfl, .bytes []⟩
    · exact .inl ⟨fun timely => beyond (timely timeout set), broke⟩
    · rw [perform, begun]
      let w : Waiter := ⟨side, size, (c.timeout side).map (c.now + ·)⟩
      exact .inr ⟨(c.attempt_read w).1, c.attempt_tells w⟩
  | resume waiter =>
    cases asks
    let d : Conduit := { c with waiting := c.waiting.erase waiter }
    exact .inr ⟨(d.attempt_read waiter).1, d.attempt_tells waiter⟩
  | write | clone | drop | shutdown | setReadTimeout | pass => cases asks

theorem timeout_perform (action : Action) (positive : ∀ side, c.timeout side ≠ some 0) (side : Side) :
    (c.perform action).2.timeout side ≠ some 0 := by
  cases action with
  | read reader size =>
    rcases c.read_cases reader size with ⟨-, same⟩ | ⟨-, -, same⟩ | ⟨-, -, same⟩
    · rw [perform, same]
      exact positive side
    · rw [perform, same]
      exact positive side
    · rw [perform, same, timeout_attempt]
      exact positive side
  | resume waiter =>
    rw [perform, timeout_attempt]
    exact positive side
  | setReadTimeout end_ timeout =>
    unfold perform setReadTimeout Pipe.setReadTimeout
    by_cases zero : timeout = some 0
    · simp only [if_pos zero]
      exact positive side
    · simp only [if_neg zero]
      split
      · exact zero
      · exact positive side
  | write | clone | drop | shutdown | pass => exact positive side

theorem Effect.lane {p : Pipe} {e : Event} (side : Side) {lane : Lane}
    (plain : (∀ other, e.clones other = false ∧ e.drops other = false) ∧ e.isShutdown = false)
    (closed : lane.closed = (p.incoming side).closed) (lost : lane.lost = (p.incoming side).lost)
    (here : e.returned side ++ lane.queued = (p.incoming side).queued ++ e.accepted side.other)
    (elsewhere : ∀ other, other ≠ side → e.returned other = [] ∧ e.accepted other.other = []) :
    Effect p (p.setIncoming side lane) e where
  kind := p.kind_setIncoming side lane
  lost other := by
    rw [Pipe.incoming_setIncoming]
    split
    · rename_i same
      rw [same, lost]
    · rfl
  flow other := by
    rw [Pipe.incoming_setIncoming]
    split
    · rename_i same
      rw [same, here]
    · rename_i different
      obtain ⟨nothing, neither⟩ := elsewhere other different
      rw [nothing, neither, List.nil_append, List.append_nil]
  handles other := by
    rw [Pipe.handles_setIncoming, (plain.1 other).1, (plain.1 other).2]
  alive other acts := by
    rw [(plain.1 other).1, (plain.1 other).2] at acts
    exact acts.elim nofun nofun
  closed other := by
    have ends : ¬(e.isShutdown = true ∨ ∃ gone, e.drops gone = true ∧ (p.setIncoming side lane).handles gone = 0) := by
      rintro (shut | ⟨gone, dropped, -⟩)
      · exact Bool.false_ne_true (plain.2.symm.trans shut)
      · exact Bool.false_ne_true ((plain.1 gone).2.symm.trans dropped)
    rw [or_iff_left ends, Pipe.incoming_setIncoming]
    split
    · rename_i same
      rw [same, closed]
    · rfl

theorem Effect.same {p : Pipe} {e : Event}
    (plain : (∀ other, e.clones other = false ∧ e.drops other = false) ∧ e.isShutdown = false)
    (silent : ∀ other, e.returned other = [] ∧ e.accepted other = []) : Effect p p e := by
  have here : e.returned .left ++ (p.incoming .left).queued = (p.incoming .left).queued ++ e.accepted .right := by
    rw [(silent _).1, (silent _).2, List.nil_append, List.append_nil]
  have still := Effect.lane .left plain rfl rfl here fun other _ => ⟨(silent other).1, (silent other.other).2⟩
  rw [Pipe.setIncoming_incoming] at still
  exact still

theorem Effect.clone {p : Pipe} {side : Side} (there : 0 < p.handles side) :
    Effect p (p.clone side) ⟨.clone side, .done⟩ where
  kind := p.kind_setHandles side _
  lost other := by rw [Pipe.clone, Pipe.incoming_setHandles]
  flow other := by
    rw [Pipe.clone, Pipe.incoming_setHandles]
    exact (List.append_nil _).symm
  handles other := by
    rw [Pipe.clone, Pipe.handles_setHandles]
    by_cases same : other = side
    · subst same
      simp only [Event.drops, Event.clones, if_true, decide_true, Bool.toNat_true, Bool.toNat_false, Nat.add_zero]
    · simp only [Event.drops, Event.clones, if_neg same, decide_eq_false (Ne.symm same), Bool.toNat_false]
  alive other acts := by
    rcases acts with never | cloned
    · cases never
    · cases of_decide_eq_true cloned
      exact there
  closed other := by
    rw [Pipe.clone, Pipe.incoming_setHandles]
    exact ⟨.inl, fun or => or.elim id fun ends => ends.elim nofun fun gone => gone.elim fun _ both => nomatch both.1⟩

theorem Effect.shutdown {p : Pipe} (side : Side) : Effect p p.shutdown ⟨.shutdown side, .done⟩ where
  kind := rfl
  lost other := by rw [Pipe.incoming_shutdown, Lane.close]
  flow other := by
    rw [Pipe.incoming_shutdown]
    exact (List.append_nil _).symm
  handles other := by
    rw [Pipe.handles_shutdown]
    rfl
  alive other acts := acts.elim nofun nofun
  closed other := by
    rw [Pipe.incoming_shutdown]
    exact ⟨fun _ => .inr (.inl rfl), fun _ => rfl⟩

theorem Effect.drop {p : Pipe} {side : Side} (memory : p.kind = .memory) (there : 0 < p.handles side) :
    Effect p (p.drop side) ⟨.drop side, .done⟩ := by
  have drops (other : Side) : Event.drops other ⟨.drop side, .done⟩ = decide (side = other) := rfl
  have fewer (other : Side) : (p.setHandles side (p.handles side - 1)).handles other + (decide (side = other)).toNat =
      p.handles other := by
    rw [Pipe.handles_setHandles]
    by_cases same : other = side
    · subst same
      simp only [if_true, decide_true, Bool.toNat_true]
      omega
    · simp only [if_neg same, decide_eq_false (Ne.symm same), Bool.toNat_false, Nat.add_zero]
  have handles (other : Side) : (p.drop side).handles other = (p.setHandles side (p.handles side - 1)).handles other := by
    rw [Pipe.drop_memory side memory]
    split
    · rw [Pipe.handles_shutdown]
    · rfl
  have incoming (other : Side) : (p.drop side).incoming other =
      if p.handles side ≤ 1 then (p.incoming other).close else p.incoming other := by
    rw [Pipe.drop_memory side memory]
    split
    · rw [Pipe.incoming_shutdown, Pipe.incoming_setHandles]
    · rw [Pipe.incoming_setHandles]
  refine ⟨?_, fun other => ?_, fun other => ?_, fun other => ?_, fun other acts => ?_, fun other => ?_⟩
  · rw [Pipe.drop_memory side memory]
    split
    · exact p.kind_setHandles side _
    · exact p.kind_setHandles side _
  · rw [incoming]
    split <;> rfl
  · rw [incoming]
    have kept : (if p.handles side ≤ 1 then (p.incoming other).close else p.incoming other).queued =
        (p.incoming other).queued := by
      split <;> rfl
    rw [kept]
    exact (List.append_nil _).symm
  · rw [handles]
    exact fewer other
  · rcases acts with dropped | never
    · cases of_decide_eq_true dropped
      exact there
    · cases never
  · rw [incoming]
    by_cases last : p.handles side ≤ 1
    · rw [if_pos last]
      refine ⟨fun _ => .inr (.inr ⟨side, decide_eq_true rfl, ?_⟩), fun _ => rfl⟩
      have here := fewer side
      rw [handles]
      simp only [decide_true, Bool.toNat_true] at here
      omega
    · rw [if_neg last]
      refine ⟨.inl, fun or => or.elim id fun ends => ends.elim nofun ?_⟩
      rintro ⟨gone, dropped, none⟩
      cases of_decide_eq_true dropped
      have here := fewer side
      rw [← handles, none] at here
      simp only [decide_true, Bool.toNat_true] at here
      omega

section

variable (memory : c.pipe.kind = .memory)
include memory

theorem perform_write (side : Side) (bytes : Bytes) :
    c.perform (.write side bytes) =
      let lane := c.pipe.incoming side.other
      if lane.closed then (.wrote (.error (.ofKind .brokenPipe)), c)
      else
        (.wrote (.ok bytes.length),
          { c with pipe := c.pipe.setIncoming side.other { lane with queued := lane.queued ++ bytes } }) := by
  unfold perform Pipe.write Pipe.brokenPipe
  simp only [Pipe.outgoing, memory]
  split
  · rfl
  · rfl

theorem write_effect (side : Side) (bytes : Bytes) :
    Effect c.pipe (c.perform (.write side bytes)).2.pipe ⟨.write side bytes, (c.perform (.write side bytes)).1⟩ := by
  rw [perform_write memory]
  by_cases closed : (c.pipe.incoming side.other).closed = true
  · simp only [if_pos closed]
    exact .same ⟨fun _ => ⟨rfl, rfl⟩, rfl⟩ fun _ => ⟨rfl, rfl⟩
  · simp only [if_neg closed]
    have back : side.other.other = side := by cases side <;> rfl
    refine .lane side.other ⟨fun _ => ⟨rfl, rfl⟩, rfl⟩ rfl rfl ?_ fun other different => ⟨rfl, ?_⟩
    · simp only [Event.returned, Event.accepted, Action.asks?, back, if_true, List.take_length, List.nil_append]
    · have others : side ≠ other.other := by
        rintro rfl
        cases other <;> exact different rfl
      simp only [Event.accepted, if_neg others]

theorem read_effect (whole : ∀ side, (c.pipe.incoming side).lost = false) {action : Action} {side : Side} {size : Nat}
    (asks : action.asks? = some (side, size)) :
    Effect c.pipe (c.perform action).2.pipe ⟨action, (c.perform action).1⟩ := by
  have plain (outcome : Outcome) : (∀ other, Event.clones other ⟨action, outcome⟩ = false ∧
      Event.drops other ⟨action, outcome⟩ = false) ∧ Event.isShutdown ⟨action, outcome⟩ = false := by
    cases action with
    | read | resume => exact ⟨fun _ => ⟨rfl, rfl⟩, rfl⟩
    | write | clone | drop | shutdown | setReadTimeout | pass => cases asks
  have writes (outcome : Outcome) (other : Side) : Event.accepted other ⟨action, outcome⟩ = [] := by
    cases action with
    | read | resume => rfl
    | write | clone | drop | shutdown | setReadTimeout | pass => cases asks
  rcases perform_read memory asks with ⟨-, broke⟩ | ⟨pipe, tells⟩
  · rw [broke]
    exact .same (plain _) fun other => ⟨by simp only [Event.returned, asks], writes _ _⟩
  rcases Pipe.read_cases side memory (whole side) size with ⟨taken, rest, queued, read⟩ | ⟨why, read⟩
  · rw [read] at pipe tells
    rw [pipe, tells.outcome_ok]
    have gives (other : Side) : Event.returned other ⟨action, .read (.ok taken)⟩ = if side = other then taken else [] := by
      simp only [Event.returned, asks]
    refine .lane side (plain _) rfl rfl ?_ fun other different => ⟨?_, writes _ _⟩
    · rw [gives, if_pos rfl, writes, List.append_nil, queued]
    · rw [gives, if_neg (Ne.symm different)]
  · rw [read] at pipe tells
    rw [pipe]
    refine .same (plain _) fun other => ⟨?_, writes _ _⟩
    generalize (c.perform action).1 = outcome at tells
    cases tells with
    | waits | refused => simp only [Event.returned, asks]

theorem perform_effect (whole : ∀ side, (c.pipe.incoming side).lost = false) {action : Action} (legal : c.Legal action) :
    Effect c.pipe (c.perform action).2.pipe ⟨action, (c.perform action).1⟩ := by
  cases action with
  | write side bytes => exact write_effect memory side bytes
  | read side size => exact read_effect memory whole rfl
  | resume waiter => exact read_effect memory whole rfl
  | clone side => exact .clone legal.alive
  | drop side => exact .drop memory legal.alive
  | shutdown side => exact .shutdown side
  | setReadTimeout side timeout =>
    have quiet (outcome : Outcome) : Effect c.pipe c.pipe ⟨.setReadTimeout side timeout, outcome⟩ :=
      .same ⟨fun _ => ⟨rfl, rfl⟩, rfl⟩ fun _ => ⟨rfl, rfl⟩
    show Effect c.pipe (c.setReadTimeout side timeout).2.pipe ⟨_, (c.setReadTimeout side timeout).1⟩
    unfold setReadTimeout
    split
    · exact quiet _
    · exact quiet _
  | pass time => exact .same ⟨fun _ => ⟨rfl, rfl⟩, rfl⟩ fun _ => ⟨rfl, rfl⟩

end

-- A run from the start, in which whoever acts has a handle to act with.
inductive Run : Conduit → List Event → Prop where
  | start (now : Instant) : Run (.new now) []
  | step {c : Conduit} {events : List Event} (run : Run c events) (action : Action) (legal : c.Legal action) :
    Run (c.perform action).2 (events ++ [⟨action, (c.perform action).1⟩])

structure Sound (c : Conduit) (events : List Event) : Prop where
  memory : c.pipe.kind = .memory
  whole : ∀ side, (c.pipe.incoming side).lost = false
  fifo : ∀ side, returned side events ++ (c.pipe.incoming side).queued = accepted side.other events
  handles : ∀ side, c.pipe.handles side + drops side events = clones side events + 1
  closed : ∀ side, (c.pipe.incoming side).closed = true ↔ Ended events
  positive : ∀ side, c.timeout side ≠ some 0

section

variable {events : List Event}

theorem accepted_concat (side : Side) (e : Event) :
    accepted side (events ++ [e]) = accepted side events ++ e.accepted side := by
  unfold accepted
  rw [List.flatMap_append, List.flatMap_singleton]

theorem returned_concat (side : Side) (e : Event) :
    returned side (events ++ [e]) = returned side events ++ e.returned side := by
  unfold returned
  rw [List.flatMap_append, List.flatMap_singleton]

theorem clones_concat (side : Side) (e : Event) :
    clones side (events ++ [e]) = clones side events + (e.clones side).toNat := by
  unfold clones
  rw [List.countP_append, List.countP_singleton]
  cases e.clones side <;> rfl

theorem drops_concat (side : Side) (e : Event) :
    drops side (events ++ [e]) = drops side events + (e.drops side).toNat := by
  unfold drops
  rw [List.countP_append, List.countP_singleton]
  cases e.drops side <;> rfl

theorem ended_iff (handles : ∀ side, c.pipe.handles side + drops side events = clones side events + 1) :
    Ended events ↔ (∃ e ∈ events, e.isShutdown = true) ∨ ∃ side, c.pipe.handles side = 0 := by
  have gone (side : Side) : drops side events = clones side events + 1 ↔ c.pipe.handles side = 0 := by
    have := handles side
    omega
  unfold Ended
  simp only [gone]

theorem Sound.new (now : Instant) : Sound (new now) [] where
  memory := rfl
  whole side := by cases side <;> rfl
  fifo side := by cases side <;> rfl
  handles side := by cases side <;> rfl
  closed side := by
    have open_ : ((Conduit.new now).pipe.incoming side).closed = false := by cases side <;> rfl
    rw [open_]
    refine ⟨nofun, fun ended => ?_⟩
    rcases ended with ⟨e, member, -⟩ | ⟨gone, dropped⟩
    · cases member
    · cases dropped
  positive _ := nofun

theorem Sound.step (sound : Sound c events) {action : Action} (legal : c.Legal action) :
    Sound (c.perform action).2 (events ++ [⟨action, (c.perform action).1⟩]) := by
  have effect := perform_effect sound.memory sound.whole legal
  have positive := timeout_perform action sound.positive
  generalize (⟨action, (c.perform action).1⟩ : Event) = e at effect ⊢
  generalize (c.perform action).2 = d at effect positive ⊢
  have handles (side : Side) :
      d.pipe.handles side + drops side (events ++ [e]) = clones side (events ++ [e]) + 1 := by
    have before := sound.handles side
    have after := effect.handles side
    rw [drops_concat, clones_concat]
    omega
  refine ⟨effect.kind.trans sound.memory, fun side => (effect.lost side).trans (sound.whole side), fun side => ?_,
    handles, fun side => ?_, positive⟩
  · rw [returned_concat, accepted_concat, List.append_assoc, effect.flow, ← List.append_assoc, sound.fifo]
  · have gone : (∃ side, d.pipe.handles side = 0) ↔
        (∃ side, c.pipe.handles side = 0) ∨ ∃ side, e.drops side = true ∧ d.pipe.handles side = 0 :=
      (exists_congr effect.handles_eq_zero).trans exists_or
    have shut : (∃ other ∈ events ++ [e], other.isShutdown = true) ↔
        (∃ other ∈ events, other.isShutdown = true) ∨ e.isShutdown = true := by
      simp only [List.mem_append, List.mem_singleton, or_and_right, exists_or, exists_eq_left]
    rw [effect.closed, sound.closed, ended_iff sound.handles, ended_iff handles, gone, shut]
    exact or_or_or_comm

theorem Run.sound (run : Run c events) : Sound c events := by
  induction run with
  | start now => exact .new now
  | step run action legal ih => exact ih.step legal

end

-- What the users of a pipe rely on after any run.
structure Faithful (c : Conduit) (events : List Event) : Prop where
  -- Nothing is lost, doubled or reordered.
  fifo : ∀ side, returned side events ++ (c.pipe.incoming side).queued = accepted side.other events
  closed : ∀ side, (c.pipe.incoming side).closed = true ↔ Ended events
  -- What has ended stays so, whatever is done next.
  stays : Ended events → ∀ action, c.Legal action → Ended (events ++ [⟨action, (c.perform action).1⟩])
  refused : Ended events → ∀ side bytes,
    c.perform (.write side bytes) = (.wrote (.error (.ofKind .brokenPipe)), c)
  taken : ¬Ended events → ∀ side bytes, (c.perform (.write side bytes)).1 = .wrote (.ok bytes.length)
  -- What a read returns stood first in the lane; it is nothing only at the end.
  returns : ∀ action side size taken, action.asks? = some (side, size) → (c.perform action).1 = .read (.ok taken) →
    taken = (c.pipe.incoming side).queued.take size ∧
      (taken = [] → size = 0 ∨ (c.pipe.incoming side).queued = [] ∧ Ended events)
  -- A read, or one that goes on, gets what is queued, and the end where nothing is queued any more.
  queued : ∀ action side size, action.asks? = some (side, size) → 0 < size → c.Timely action →
    (c.pipe.incoming side).queued ≠ [] →
      (c.perform action).1 = .read (.ok ((c.pipe.incoming side).queued.take size))
  drained : ∀ action side size, action.asks? = some (side, size) → 0 < size → c.Timely action →
    (c.pipe.incoming side).queued = [] → Ended events → (c.perform action).1 = .read (.ok [])
  -- Where it is not the end it never looks like it: a read begins to wait, and gives up once its time has come.
  waits : ∀ side size, 0 < size → c.Timely (.read side size) → (c.pipe.incoming side).queued = [] → ¬Ended events →
    (c.perform (.read side size)).1 = .waits
  late : ∀ waiter : Waiter, 0 < waiter.size → (c.pipe.incoming waiter.side).queued = [] → ¬Ended events →
    (c.perform (.resume waiter)).1 = if waiter.isLate c.now then .read (.error (.ofKind .wouldBlock)) else .waits
  nothing : ∀ action side, action.asks? = some (side, 0) → (c.perform action).1 = .read (.ok [])
  -- A timeout that takes the deadline beyond the clock breaks the read down, whatever is queued, and nothing else does.
  breaks : ∀ action, (c.perform action).1 = .panicked ↔
    ∃ side size timeout, action = .read side size ∧ 0 < size ∧ c.timeout side = some timeout ∧ ¬c.now.Reaches timeout
  untouched : ∀ action, (c.perform action).1 = .panicked → (c.perform action).2 = c

end Conduit
end FramedRpc
