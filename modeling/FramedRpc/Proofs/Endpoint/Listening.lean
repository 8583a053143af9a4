import Mathlib
import FramedRpc.Proofs.Endpoint.Dispatch
import FramedRpc.Proofs.Frame.Chunks

namespace FramedRpc.Endpoint

inductive Act where
  | add
  | remove (listener : Nat)
  | feed (bytes : Bytes)
  deriving DecidableEq

-- What an endpoint does about it, one thing at a time.
inductive Step where
  | added (listener : Nat)
  | removed (listener : Nat) (found : Bool)
  | read (bytes : Bytes)
  | told (listener : Nat) (p : Packet)
  -- The packet was resolved or dispatched.
  | settled (p : Packet)

namespace Act

def bytes : Act → Bytes
  | feed bytes => bytes
  | add | remove _ => []

def stream (acts : List Act) : Bytes := acts.flatMap bytes

theorem stream_cons (act : Act) (acts : List Act) : stream (act :: acts) = act.bytes ++ stream acts := rfl

theorem stream_append (acts others : List Act) : stream (acts ++ others) = stream acts ++ stream others :=
  List.flatMap_append

end Act

namespace Step

def number? : Step → Option Nat
  | added listener => some listener
  | removed .. | read _ | told .. | settled _ => none

def news? : Step → Option (Nat × Packet)
  | told listener p => some (listener, p)
  | added _ | removed .. | read _ | settled _ => none

-- What is noted of a step.
def note? : Step → Option Note
  | told listener p => some (.told listener p)
  | settled p => some (.settled p)
  | added _ | removed .. | read _ => none

def takes (listener : Nat) : Step → Bool
  | removed other found => found && other == listener
  | added _ | read _ | told .. | settled _ => false

-- A packet goes to the listeners first, and then where it belongs.
def delivery (listeners : List Nat) (p : Packet) : List Step := listeners.map (told · p) ++ [settled p]

def deliveries (listeners : List Nat) (packets : List Packet) : List Step := packets.flatMap (delivery listeners)

def toldTo (listener : Nat) (steps : List Step) : List Packet :=
  ((steps.filterMap news?).filter (·.1 == listener)).map (·.2)

variable {listeners : List Nat} {listener : Nat}

theorem toldTo_append (listener : Nat) (steps others : List Step) :
    toldTo listener (steps ++ others) = toldTo listener steps ++ toldTo listener others := by
  unfold toldTo
  rw [List.filterMap_append, List.filter_append, List.map_append]

theorem news_delivery (listeners : List Nat) (p : Packet) :
    (delivery listeners p).filterMap news? = listeners.map fun listener => (listener, p) := by
  have all : news? ∘ (told · p) = some ∘ fun listener => (listener, p) := rfl
  unfold delivery
  rw [List.filterMap_append, List.filterMap_map, all, List.filterMap_eq_map]
  exact List.append_nil _

theorem toldTo_delivery (nodup : listeners.Nodup) (p : Packet) :
    toldTo listener (delivery listeners p) = if listener ∈ listeners then [p] else [] := by
  have one : listeners.filter ((·.1 == listener) ∘ fun listener => (listener, p)) =
      List.replicate (listeners.count listener) listener := List.filter_beq listener
  unfold toldTo
  rw [news_delivery, List.filter_map, one, nodup.count, List.map_map, List.map_replicate]
  split <;> rfl

theorem toldTo_deliveries (nodup : listeners.Nodup) (packets : List Packet) :
    toldTo listener (deliveries listeners packets) = if listener ∈ listeners then packets else [] := by
  induction packets with
  | nil => exact (ite_self []).symm
  | cons p others ih =>
    have split : deliveries listeners (p :: others) = delivery listeners p ++ deliveries listeners others := rfl
    rw [split, toldTo_append, toldTo_delivery nodup, ih]
    split_ifs <;> rfl

theorem mem_deliveries {packets : List Packet} {step : Step} (found : step ∈ deliveries listeners packets)
    (listener : Nat) : step.number? = none ∧ step.takes listener = false := by
  obtain ⟨p, -, found⟩ := List.mem_flatMap.mp found
  rcases List.mem_append.mp found with told | settled
  · obtain ⟨other, -, rfl⟩ := List.mem_map.mp told
    exact ⟨rfl, rfl⟩
  · rw [List.mem_singleton.mp settled]
    exact ⟨rfl, rfl⟩

theorem notes_deliveries (listeners : List Nat) (packets : List Packet) :
    (deliveries listeners packets).filterMap note? =
      packets.flatMap fun p => listeners.map (.told · p) ++ [.settled p] := by
  have one (p : Packet) : (delivery listeners p).filterMap note? = listeners.map (.told · p) ++ [.settled p] := by
    have all : note? ∘ (told · p) = some ∘ (Note.told · p) := rfl
    unfold delivery
    rw [List.filterMap_append, List.filterMap_map, all, List.filterMap_eq_map]
    rfl
  unfold deliveries
  rw [List.filterMap_flatMap]
  exact List.flatMap_congr fun p _ => one p

theorem numbers_deliveries (listeners : List Nat) (packets : List Packet) :
    (deliveries listeners packets).filterMap number? = [] :=
  List.filterMap_eq_nil_iff.mpr fun _ found => (mem_deliveries found 0).1

theorem takes_deliveries (listeners : List Nat) (packets : List Packet) (listener : Nat) :
    (deliveries listeners packets).countP (takes listener) = 0 :=
  List.countP_eq_zero.mpr fun _ found => by simp [(mem_deliveries found listener).2]

end Step

variable {τ : Type} [Transport τ]

theorem sendFrame_eq (e : Endpoint τ) (frame : Bytes) : ∃ transport, (e.sendFrame frame).2 = { e with transport } := by
  unfold sendFrame
  cases e.transport with
  | none => exact ⟨e.transport, rfl⟩
  | some transport => exact ⟨_, rfl⟩

theorem sendEach_eq (e : Endpoint τ) (frames : List Bytes) : ∃ transport, e.sendEach frames = { e with transport } := by
  induction frames generalizing e with
  | nil => exact ⟨e.transport, rfl⟩
  | cons frame others ih =>
    obtain ⟨first, sent⟩ := e.sendFrame_eq frame
    obtain ⟨last, all⟩ := ih { e with transport := first }
    refine ⟨last, ?_⟩
    rw [sendEach, List.foldl_cons, sent]
    exact all

theorem settle_eq (e : Endpoint τ) (p : Packet) :
    ∃ transport correlator, e.settle p = { e with transport, correlator, log := e.log ++ [.settled p] } := by
  unfold settle
  split
  · exact ⟨e.transport, _, rfl⟩
  · obtain ⟨frames, sent⟩ := (e.note (.settled p)).dispatch_eq_sendEach p.typeId p.requestId p.content
    obtain ⟨transport, all⟩ := (e.note (.settled p)).sendEach_eq frames
    exact ⟨transport, e.correlator, sent.trans all⟩

theorem deliver_listeners (e : Endpoint τ) (p : Packet) : (e.deliver p).listeners = e.listeners := by
  obtain ⟨transport, correlator, settled⟩ := (e.tell p).settle_eq p
  rw [deliver, settled]
  rfl

theorem foldl_deliver_eq (e : Endpoint τ) (packets : List Packet) :
    ∃ transport correlator log, packets.foldl deliver e = { e with transport, correlator, log } := by
  induction packets generalizing e with
  | nil => exact ⟨e.transport, e.correlator, e.log, rfl⟩
  | cons p others ih =>
    obtain ⟨transport, correlator, settled⟩ := (e.tell p).settle_eq p
    obtain ⟨transport', correlator', log, all⟩ := ih (e.deliver p)
    refine ⟨transport', correlator', log, ?_⟩
    rw [List.foldl_cons, all, deliver, settled]
    rfl

def perform (e : Endpoint τ) : Act → Endpoint τ
  | .add => e.addListener.2
  | .remove listener => (e.removeListener listener).2
  | .feed bytes => e.feed bytes

theorem perform_feed (e : Endpoint τ) (bytes : Bytes) : ∃ transport correlator log,
    e.perform (.feed bytes) = { e with transport, correlator, log, deframer := (e.deframer.feed bytes).1 } :=
  foldl_deliver_eq { e with deframer := (e.deframer.feed bytes).1 } (e.deframer.feed bytes).2

def run (e : Endpoint τ) (acts : List Act) : Endpoint τ := acts.foldl perform e

def take (e : Endpoint τ) : Step → Endpoint τ
  | .added _ => e.addListener.2
  | .removed listener _ => (e.removeListener listener).2
  | .read bytes => { e with deframer := (e.deframer.feed bytes).1 }
  | .told listener p => e.note (.told listener p)
  | .settled p => e.settle p

def takeAll (e : Endpoint τ) (steps : List Step) : Endpoint τ := steps.foldl take e

-- The listeners of a packet are those that there are when its turn comes.
def deliveries (e : Endpoint τ) : List Packet → List Step
  | [] => []
  | p :: others => Step.delivery e.listeners p ++ (e.deliver p).deliveries others

def steps (e : Endpoint τ) : Act → List Step
  | .add => [.added e.addListener.1]
  | .remove listener => [.removed listener (e.removeListener listener).1]
  | .feed bytes =>
    let (deframer, packets) := e.deframer.feed bytes
    .read bytes :: deliveries { e with deframer } packets

def course (e : Endpoint τ) : List Act → List Step
  | [] => []
  | act :: others => e.steps act ++ (e.perform act).course others

section

variable (e : Endpoint τ)

theorem takeAll_append (steps others : List Step) : e.takeAll (steps ++ others) = (e.takeAll steps).takeAll others :=
  List.foldl_append

theorem run_append (acts others : List Act) : e.run (acts ++ others) = (e.run acts).run others := List.foldl_append

theorem course_append (acts others : List Act) :
    e.course (acts ++ others) = e.course acts ++ (e.run acts).course others := by
  induction acts generalizing e with
  | nil => rfl
  | cons act acts ih =>
    rw [List.cons_append, course, course, ih, List.append_assoc]
    rfl

theorem takeAll_told (listeners : List Nat) (p : Packet) :
    e.takeAll (listeners.map (.told · p)) = { e with log := e.log ++ listeners.map (.told · p) } := by
  induction listeners generalizing e with
  | nil => simp only [List.map_nil, List.append_nil, takeAll, List.foldl_nil]
  | cons listener others ih =>
    have first : e.takeAll ((listener :: others).map (.told · p)) =
        (e.note (.told listener p)).takeAll (others.map (.told · p)) := rfl
    rw [first, ih]
    simp only [note, List.map_cons, List.append_assoc, List.singleton_append]

theorem takeAll_delivery (p : Packet) : e.takeAll (Step.delivery e.listeners p) = e.deliver p := by
  rw [Step.delivery, takeAll_append, takeAll_told]
  rfl

theorem takeAll_deliveries (packets : List Packet) : e.takeAll (e.deliveries packets) = packets.foldl deliver e := by
  induction packets generalizing e with
  | nil => rfl
  | cons p others ih => rw [deliveries, takeAll_append, takeAll_delivery, ih, List.foldl_cons]

theorem takeAll_steps (act : Act) : e.takeAll (e.steps act) = e.perform act := by
  cases act with
  | add | remove => rfl
  | feed bytes => exact takeAll_deliveries { e with deframer := (e.deframer.feed bytes).1 } (e.deframer.feed bytes).2

theorem takeAll_course (acts : List Act) : e.takeAll (e.course acts) = e.run acts := by
  induction acts generalizing e with
  | nil => rfl
  | cons act others ih =>
    rw [course, takeAll_append, takeAll_steps, ih]
    rfl

theorem log_take (step : Step) : (e.take step).log = e.log ++ step.note?.toList := by
  cases step with
  | added | removed | read => exact (List.append_nil e.log).symm
  | told listener p => rfl
  | settled p =>
    obtain ⟨transport, correlator, settled⟩ := e.settle_eq p
    show (e.settle p).log = e.log ++ [.settled p]
    rw [settled]

theorem log_takeAll (steps : List Step) : (e.takeAll steps).log = e.log ++ steps.filterMap Step.note? := by
  induction steps generalizing e with
  | nil => exact (List.append_nil e.log).symm
  | cons step others ih =>
    have first : e.takeAll (step :: others) = (e.take step).takeAll others := rfl
    rw [first, ih, log_take, List.append_assoc, List.filterMap_cons]
    cases step.note? <;> rfl

theorem deliveries_eq (packets : List Packet) : e.deliveries packets = Step.deliveries e.listeners packets := by
  induction packets generalizing e with
  | nil => rfl
  | cons p others ih =>
    rw [deliveries, ih, deliver_listeners]
    rfl

theorem steps_feed (bytes : Bytes) :
    e.steps (.feed bytes) = .read bytes :: Step.deliveries e.listeners (e.deframer.feed bytes).2 := by
  simp only [steps, deliveries_eq]

theorem log_perform_feed (bytes : Bytes) :
    (e.perform (.feed bytes)).log = e.log ++ (e.deframer.feed bytes).2.flatMap fun p =>
      e.listeners.map (.told · p) ++ [.settled p] := by
  rw [← takeAll_steps, log_takeAll, steps_feed, List.filterMap_cons_none rfl, Step.notes_deliveries]

theorem perform_listeners (act : Act) :
    (e.perform act).listeners =
      match act with
      | .add => e.listeners ++ [e.nextListener]
      | .remove listener => e.listeners.filter (· ≠ listener)
      | .feed _ => e.listeners := by
  cases act with
  | add | remove => rfl
  | feed bytes =>
    obtain ⟨transport, correlator, log, fed⟩ := e.perform_feed bytes
    rw [fed]

theorem perform_nextListener (act : Act) : (e.perform act).nextListener = e.nextListener + [act].count .add := by
  cases act with
  | add | remove => rfl
  | feed bytes =>
    obtain ⟨transport, correlator, log, fed⟩ := e.perform_feed bytes
    rw [fed]
    rfl

theorem perform_deframer (act : Act) : (e.perform act).deframer = (e.deframer.feed act.bytes).1 := by
  cases act with
  | add | remove =>
    rw [Act.bytes, Deframer.feed]
    rfl
  | feed bytes =>
    obtain ⟨transport, correlator, log, fed⟩ := e.perform_feed bytes
    rw [fed]
    rfl

theorem run_cons (act : Act) (acts : List Act) : e.run (act :: acts) = (e.perform act).run acts := rfl

theorem run_nextListener (acts : List Act) : (e.run acts).nextListener = e.nextListener + acts.count .add := by
  induction acts generalizing e with
  | nil => rfl
  | cons act others ih =>
    rw [run_cons, ih, perform_nextListener, Nat.add_assoc, ← List.count_append]
    rfl

theorem run_deframer (acts : List Act) : (e.run acts).deframer = (e.deframer.feed (Act.stream acts)).1 := by
  induction acts generalizing e with
  | nil =>
    rw [Act.stream, List.flatMap_nil, Deframer.feed]
    rfl
  | cons act others ih => rw [run_cons, ih, perform_deframer, Act.stream_cons, Deframer.feed_append]

end

structure Numbered (e : Endpoint τ) : Prop where
  nodup : e.listeners.Nodup
  below : ∀ listener ∈ e.listeners, listener < e.nextListener

namespace Numbered

variable {e : Endpoint τ}

theorem perform (numbered : Numbered e) (act : Act) : Numbered (e.perform act) := by
  cases act with
  | add =>
    have new : e.nextListener ∉ e.listeners := fun found => absurd (numbered.below _ found) (Nat.lt_irrefl _)
    refine ⟨List.nodup_append'.mpr ⟨numbered.nodup, List.nodup_singleton _, List.disjoint_singleton.mpr new⟩, ?_⟩
    intro listener found
    rcases List.mem_append.mp found with old | last
    · exact Nat.lt_succ_of_lt (numbered.below listener old)
    · rw [List.mem_singleton.mp last]
      exact Nat.lt_succ_self _
  | remove other =>
    exact ⟨numbered.nodup.filter _, fun listener found => numbered.below listener (List.mem_of_mem_filter found)⟩
  | feed bytes =>
    obtain ⟨transport, correlator, log, fed⟩ := e.perform_feed bytes
    rw [fed]
    exact ⟨numbered.nodup, numbered.below⟩

theorem run (numbered : Numbered e) (acts : List Act) : Numbered (e.run acts) := by
  induction acts generalizing e with
  | nil => exact numbered
  | cons act others ih => exact ih (numbered.perform act)

theorem toldTo_steps (numbered : Numbered e) (listener : Nat) (act : Act) :
    Step.toldTo listener (e.steps act) = if listener ∈ e.listeners then (e.deframer.feed act.bytes).2 else [] := by
  cases act with
  | add | remove =>
    rw [Act.bytes, Deframer.feed]
    exact (ite_self []).symm
  | feed bytes =>
    rw [steps_feed]
    exact Step.toldTo_deliveries numbered.nodup (e.deframer.feed bytes).2

end Numbered

variable {e : Endpoint τ} {listener : Nat} {act : Act} {acts : List Act}

theorem mem_perform :
    listener ∈ (e.perform act).listeners ↔
      act = .add ∧ listener = e.nextListener ∨ listener ∈ e.listeners ∧ act ≠ .remove listener := by
  rw [perform_listeners]
  cases act with
  | add => simp [or_comm]
  | remove other =>
    have apart : listener ≠ other ↔ other ≠ listener := ne_comm
    simp [apart]
  | feed bytes => simp

theorem mem_run (there : listener ∈ e.listeners) (kept : .remove listener ∉ acts) :
    listener ∈ (e.run acts).listeners := by
  induction acts generalizing e with
  | nil => exact there
  | cons act others ih =>
    obtain ⟨other, kept⟩ := List.ne_and_not_mem_of_not_mem_cons kept
    exact ih (mem_perform.mpr (.inr ⟨there, Ne.symm other⟩)) kept

theorem toldTo_course (numbered : Numbered e) (there : listener ∈ e.listeners) (kept : .remove listener ∉ acts) :
    Step.toldTo listener (e.course acts) = (e.deframer.feed (Act.stream acts)).2 := by
  induction acts generalizing e with
  | nil =>
    rw [Act.stream, List.flatMap_nil, Deframer.feed]
    rfl
  | cons act others ih =>
    obtain ⟨other, kept⟩ := List.ne_and_not_mem_of_not_mem_cons kept
    have still := mem_perform.mpr (.inr ⟨there, Ne.symm other⟩)
    rw [course, Step.toldTo_append, numbered.toldTo_steps, if_pos there, ih (numbered.perform act) still kept,
      perform_deframer, Act.stream_cons, Deframer.feed_append]

def Unused (e : Endpoint τ) (listener : Nat) (acts : List Act) : Prop :=
  listener ∉ e.listeners ∧ (listener < e.nextListener ∨ e.nextListener + acts.count .add ≤ listener)

theorem Unused.perform (unused : Unused e listener (act :: acts)) : Unused (e.perform act) listener acts := by
  obtain ⟨absent, range⟩ := unused
  have counted : (act :: acts).count .add = [act].count .add + acts.count .add := by
    rw [← List.count_append]
    rfl
  refine ⟨fun found => ?_, ?_⟩
  · rcases mem_perform.mp found with ⟨rfl, rfl⟩ | ⟨old, -⟩
    · rw [List.count_cons_self] at range
      omega
    · exact absent old
  · rw [perform_nextListener]
    omega

theorem Unused.run (unused : Unused e listener acts) : listener ∉ (e.run acts).listeners := by
  induction acts generalizing e with
  | nil => exact unused.1
  | cons act others ih => exact ih unused.perform

theorem Unused.toldTo (numbered : Numbered e) (unused : Unused e listener acts) :
    Step.toldTo listener (e.course acts) = [] := by
  induction acts generalizing e with
  | nil => rfl
  | cons act others ih =>
    rw [course, Step.toldTo_append, numbered.toldTo_steps, if_neg unused.1, ih (numbered.perform act) unused.perform]
    rfl

theorem numbers_steps (e : Endpoint τ) (act : Act) :
    (e.steps act).filterMap Step.number? = List.range' e.nextListener ([act].count .add) := by
  cases act with
  | add | remove => rfl
  | feed bytes =>
    rw [steps_feed]
    exact Step.numbers_deliveries e.listeners (e.deframer.feed bytes).2

theorem numbers_course (e : Endpoint τ) (acts : List Act) :
    (e.course acts).filterMap Step.number? = List.range' e.nextListener (acts.count .add) := by
  induction acts generalizing e with
  | nil => rfl
  | cons act others ih =>
    have counted : (act :: others).count .add = [act].count .add + others.count .add := by
      rw [← List.count_append]
      rfl
    rw [course, List.filterMap_append, numbers_steps, ih, perform_nextListener, List.range'_append_1, counted]

theorem takes_steps (e : Endpoint τ) (listener : Nat) (act : Act) :
    (e.steps act).countP (Step.takes listener) =
      if act = .remove listener ∧ listener ∈ e.listeners then 1 else 0 := by
  cases act with
  | add => rfl
  | remove other =>
    by_cases same : other = listener <;> simp [steps, removeListener, Step.takes, same]
  | feed bytes =>
    rw [steps_feed, if_neg (fun found => nomatch found.1)]
    exact Step.takes_deliveries e.listeners (e.deframer.feed bytes).2 listener

theorem Unused.takes (unused : Unused e listener acts) : (e.course acts).countP (Step.takes listener) = 0 := by
  induction acts generalizing e with
  | nil => rfl
  | cons act others ih =>
    rw [course, List.countP_append, takes_steps, if_neg fun found => unused.1 found.2, ih unused.perform]

theorem Numbered.removed_unused (numbered : Numbered e) (there : listener ∈ e.listeners) (acts : List Act) :
    Unused (e.perform (.remove listener)) listener acts := by
  refine ⟨fun found => ?_, ?_⟩
  · rcases mem_perform.mp found with ⟨added, -⟩ | ⟨-, other⟩
    · cases added
    · exact other rfl
  · rw [perform_nextListener]
    exact .inl (numbered.below listener there)

theorem Numbered.takes_course (numbered : Numbered e) (listener : Nat) (acts : List Act) :
    (e.course acts).countP (Step.takes listener) ≤ 1 := by
  induction acts generalizing e with
  | nil => exact Nat.zero_le 1
  | cons act others ih =>
    rw [course, List.countP_append, takes_steps]
    split
    · rename_i found
      obtain ⟨rfl, there⟩ := found
      have later := (numbered.removed_unused there others).takes
      omega
    · rw [Nat.zero_add]
      exact ih (numbered.perform act)

omit [Transport τ] in
theorem removeListener_eq (numbered : Numbered e) (listener : Nat) :
    e.removeListener listener =
      (decide (listener ∈ e.listeners), { e with listeners := e.listeners.erase listener }) := by
  have rest : e.listeners.filter (· ≠ listener) = e.listeners.erase listener := by
    rw [numbered.nodup.erase_eq_filter]
    exact List.filter_congr fun other _ => by simp [bne, beq_eq_decide]
  rw [removeListener, rest, List.contains_eq_mem]

section

variable (empty : e.listeners = [])
include empty

omit [Transport τ] in
theorem numbered_of_empty : Numbered e := by
  refine ⟨?_, ?_⟩ <;> rw [empty]
  · exact .nil
  · exact nofun

omit [Transport τ] in
theorem unused_of_empty (range : listener < e.nextListener ∨ e.nextListener + acts.count .add ≤ listener) :
    Unused e listener acts := by
  refine ⟨?_, range⟩
  rw [empty]
  exact List.not_mem_nil

theorem mem_run_iff :
    listener ∈ (e.run acts).listeners ↔ ∃ before during, acts = before ++ .add :: during ∧
      listener = e.nextListener + before.count .add ∧ .remove listener ∉ during := by
  constructor
  · intro found
    induction acts using List.reverseRecOn with
    | nil =>
      rw [run, List.foldl_nil, empty] at found
      cases found
    | append_singleton acts act ih =>
      rw [run_append] at found
      rcases mem_perform.mp found with ⟨rfl, number⟩ | ⟨old, other⟩
      · rw [run_nextListener] at number
        exact ⟨acts, [], rfl, number, List.not_mem_nil⟩
      · obtain ⟨before, during, rfl, number, kept⟩ := ih old
        refine ⟨before, during ++ [act], List.append_assoc .., number, ?_⟩
        intro removed
        rcases List.mem_append.mp removed with early | last
        · exact kept early
        · exact other (List.mem_singleton.mp last).symm
  · rintro ⟨before, during, rfl, number, kept⟩
    rw [run_append, run_cons]
    refine mem_run (mem_perform.mpr (.inl ⟨rfl, ?_⟩)) kept
    rw [run_nextListener, number]

theorem toldTo_between (before during after : List Act) (number : listener = e.nextListener + before.count .add)
    (kept : .remove listener ∉ during) (ends : ∀ act ∈ after.head?, act = .remove listener) :
    Step.toldTo listener (e.course (before ++ .add :: during ++ after)) =
      ((e.run before).deframer.feed (Act.stream during)).2 := by
  have numbered := (numbered_of_empty empty).run before
  have early : Step.toldTo listener (e.course before) = [] := by
    rw [number]
    exact (unused_of_empty empty (.inr (Nat.le_refl _))).toldTo (numbered_of_empty empty)
  have added : listener ∈ ((e.run before).perform .add).listeners :=
    mem_perform.mpr (.inl ⟨rfl, number.trans (run_nextListener e before).symm⟩)
  have told := toldTo_course (numbered.perform .add) added kept
  have late : Step.toldTo listener ((((e.run before).perform .add).run during).course after) = [] := by
    cases after with
    | nil => rfl
    | cons act rest =>
      rw [ends act rfl, course, Step.toldTo_append]
      have numbered := (numbered.perform .add).run during
      exact (numbered.removed_unused (mem_run added kept) rest).toldTo (numbered.perform _)
  have split : e.course (before ++ .add :: during ++ after) =
      e.course before ++ (.added (e.run before).nextListener :: ((e.run before).perform .add).course during) ++
        (((e.run before).perform .add).run during).course after := by
    rw [course_append, course_append, run_append]
    rfl
  have nothing (steps : List Step) : Step.toldTo listener (.added (e.run before).nextListener :: steps) =
    Step.toldTo listener steps := rfl
  rw [split, Step.toldTo_append, Step.toldTo_append, early, late, nothing, told, List.nil_append, List.append_nil]
  rfl

end

-- What listeners learn in a run.
structure Observed (e : Endpoint τ) (acts : List Act) : Prop where
  same : e.takeAll (e.course acts) = e.run acts
  log : (e.run acts).log = e.log ++ (e.course acts).filterMap Step.note?
  -- Numbers are given out in order, none of them twice.
  numbers : (e.course acts).filterMap Step.number? = List.range' e.nextListener (acts.count .add)
  nodup : (e.run acts).listeners.Nodup
  present : ∀ listener, listener ∈ (e.run acts).listeners ↔ ∃ before during, acts = before ++ .add :: during ∧
    listener = e.nextListener + before.count .add ∧ .remove listener ∉ during
  -- Bytes come in: packet by packet, all who listen are told before the packet is resolved or dispatched.
  delivers : ∀ bytes, e.course (acts ++ [.feed bytes]) = e.course acts ++ .read bytes ::
    Step.deliveries (e.run acts).listeners ((e.deframer.feed (Act.stream acts)).1.feed bytes).2
  logs : ∀ bytes, (e.run (acts ++ [.feed bytes])).log = (e.run acts).log ++
    ((e.deframer.feed (Act.stream acts)).1.feed bytes).2.flatMap fun p =>
      (e.run acts).listeners.map (.told · p) ++ [.settled p]
  -- From when it is added until it is removed, a listener is told all that the stream completes.
  hears : ∀ before during after listener, acts = before ++ .add :: during ++ after →
    listener = e.nextListener + before.count .add → .remove listener ∉ during →
    (∀ act ∈ after.head?, act = .remove listener) →
    (e.deframer.feed (Act.stream (before ++ during))).2 =
      (e.deframer.feed (Act.stream before)).2 ++ Step.toldTo listener (e.course acts)
  others : ∀ listener, listener ∉ List.range' e.nextListener (acts.count .add) →
    Step.toldTo listener (e.course acts) = []
  -- A listener that is there is removed, and nothing else; no listener is removed twice.
  removes : ∀ listener, (e.run acts).removeListener listener =
    (decide (listener ∈ (e.run acts).listeners),
      { e.run acts with listeners := (e.run acts).listeners.erase listener })
  once : ∀ listener, (e.course acts).countP (Step.takes listener) ≤ 1

theorem run_observed (empty : e.listeners = []) (acts : List Act) : Observed e acts where
  same := e.takeAll_course acts
  log := by rw [← e.takeAll_course acts, log_takeAll]
  numbers := numbers_course e acts
  nodup := ((numbered_of_empty empty).run acts).nodup
  present listener := mem_run_iff empty
  delivers bytes := by
    rw [course_append, course, course, List.append_nil, steps_feed, run_deframer]
  logs bytes := by
    rw [run_append, ← run_deframer]
    exact (e.run acts).log_perform_feed bytes
  hears before during after listener split number kept ends := by
    rw [split, toldTo_between empty before during after number kept ends, run_deframer, Act.stream_append,
      Deframer.feed_append]
  others listener unknown := by
    refine (unused_of_empty empty ?_).toldTo (numbered_of_empty empty)
    rw [List.mem_range'_1] at unknown
    omega
  removes listener := removeListener_eq ((numbered_of_empty empty).run acts) listener
  once listener := (numbered_of_empty empty).takes_course listener acts

-- The second listener comes in the middle of a frame and learns of its packet; the first one is gone for the next.
theorem run_observed_midway :
    let e : Endpoint Wire := new .standard
    let acts : List Act := [.add, .feed [0x01, 0x07, 0, 0, 0, 0], .add, .feed [0, 0, 3, 168, 136, 72, 102], .remove 1,
      .feed [0x01, 0x07, 0, 0, 0, 0, 0, 0, 3, 168, 136, 72, 102]]
    let p := Packet.request 3 0 .null
    e.listeners = [] ∧ Observed e acts ∧ Step.toldTo 1 (e.course acts) = [p] ∧
      Step.toldTo 2 (e.course acts) = [p, p] ∧
      (e.run acts).log = [.told 1 p, .told 2 p, .settled p, .told 2 p, .settled p] := by
  have empty : (new .standard : Endpoint Wire).listeners = [] := rfl
  refine ⟨empty, run_observed empty _, ?_, ?_, ?_⟩
  · cbv
  · cbv
  · cbv

end FramedRpc.Endpoint
