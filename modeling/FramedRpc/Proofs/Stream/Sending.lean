import FramedRpc.Proofs.Stream.Scratch

namespace FramedRpc

inductive Attempt where
  | write (bytes : Bytes) (answer : Except IoError Nat)
  | flush (answer : Except IoError Unit)

namespace Attempt

def offered : Attempt → Option Bytes
  | write bytes _ => some bytes
  | flush _ => none

def took : Attempt → Bytes
  | write bytes answer => bytes.take (answer.toOption.getD 0)
  | flush _ => []

def failure : Attempt → Option IoError
  | write _ (.error e) | flush (.error e) => some e
  | write _ (.ok _) | flush (.ok _) => none

-- An attempt to write all the bytes that are left, or a flush if there are none.
def Asks (a : Attempt) (left : Bytes) : Prop := a.offered = if left = [] then none else some left

variable {a : Attempt} {left : Bytes} {e : IoError}

theorem Asks.write (some : left ≠ []) (answer : Except IoError Nat) : (write left answer).Asks left :=
  (if_neg some).symm

theorem Asks.flush (answer : Except IoError Unit) : (flush answer).Asks [] := rfl

theorem Asks.write_inv {bytes : Bytes} {answer : Except IoError Nat} (asks : (Attempt.write bytes answer).Asks left) :
    bytes = left := by
  unfold Asks at asks
  split at asks
  · cases asks
  · exact Option.some.inj asks

theorem Asks.flush_inv {answer : Except IoError Unit} (asks : (Attempt.flush answer).Asks left) : left = [] := by
  unfold Asks at asks
  split at asks
  · assumption
  · cases asks

theorem Asks.took_prefix (asks : a.Asks left) : a.took <+: left := by
  cases a with
  | write bytes answer => exact asks.write_inv ▸ List.take_prefix _ bytes
  | flush answer => exact List.nil_prefix

theorem took_of_failure (failed : a.failure = some e) : a.took = [] := by
  cases a with
  | write bytes answer =>
    cases answer with
    | ok n => cases failed
    | error e => rfl
  | flush answer => rfl

end Attempt

def takenBy (attempts : List Attempt) : Bytes := attempts.flatMap Attempt.took

theorem takenBy_cons (a : Attempt) (attempts : List Attempt) : takenBy (a :: attempts) = a.took ++ takenBy attempts :=
  List.flatMap_cons

theorem takenBy_append (attempts more : List Attempt) : takenBy (attempts ++ more) = takenBy attempts ++ takenBy more :=
  List.flatMap_append

theorem takenBy_single (a : Attempt) : takenBy [a] = a.took := List.append_nil _

-- The attempts that lead from one sink to another. A sink counts them, so none is left out.
inductive Tried : Sink → List Attempt → Sink → Prop where
  | nothing {s : Sink} : Tried s [] s
  | write {s next after : Sink} {bytes : Bytes} {answer : Except IoError Nat} {rest : List Attempt} :
    s.write bytes = (answer, next) → Tried next rest after → Tried s (.write bytes answer :: rest) after
  | flush {s next after : Sink} {answer : Except IoError Unit} {rest : List Attempt} :
    s.flush = (answer, next) → Tried next rest after → Tried s (.flush answer :: rest) after

theorem Tried.taken {s after : Sink} {attempts : List Attempt} (tried : Tried s attempts after) :
    after.taken = s.taken ++ takenBy attempts := by
  induction tried with
  | nothing => exact (List.append_nil _).symm
  | write wrote _ ih =>
    rw [ih, Sink.write_taken wrote, takenBy_cons, List.append_assoc]
    rfl
  | flush flushed _ ih =>
    rw [ih, Sink.flush_taken flushed, takenBy_cons]
    rfl

namespace PacketWriter

def Again (w : PacketWriter) (e : IoError) : Prop :=
  e.kind = .interrupted ∨ e.kind = .wouldBlock ∧ w.timed = false

theorem retries_iff {w : PacketWriter} {e : IoError} : w.retries e = true ↔ w.Again e := by
  unfold retries Again
  cases e.kind <;> cases w.timed <;> decide

inductive Ends (w : PacketWriter) : Attempt → Except FrameError Unit → Prop where
  | flushed : w.Ends (.flush (.ok ())) (.ok ())
  | refused {bytes : Bytes} : w.Ends (.write bytes (.ok 0)) (.error .connectionClosed)
  | failed {a : Attempt} {e : IoError} : a.failure = some e → ¬w.Again e → w.Ends a (.error (.io e))

inductive GoesOn (w : PacketWriter) : Attempt → Prop where
  | wrote {bytes : Bytes} {n : Nat} : w.GoesOn (.write bytes (.ok (n + 1)))
  | again {a : Attempt} {e : IoError} : a.failure = some e → w.Again e → w.GoesOn a

-- The attempts that send what is left of a frame.
inductive Sends (w : PacketWriter) : Bytes → List Attempt → Except FrameError Unit → Prop where
  | last {left : Bytes} {a : Attempt} {result : Except FrameError Unit} :
    a.Asks left → w.Ends a result → w.Sends left [a] result
  | next {whole left : Bytes} {a : Attempt} {rest : List Attempt} {result : Except FrameError Unit} :
    a.Asks whole → w.GoesOn a → a.took ++ left = whole → w.Sends left rest result → w.Sends whole (a :: rest) result

section

variable {w : PacketWriter}

theorem Sends.again {whole : Bytes} {a : Attempt} {e : IoError} {rest : List Attempt} {result : Except FrameError Unit}
    (asks : a.Asks whole) (failed : a.failure = some e) (again : w.retries e = true) (sends : w.Sends whole rest result) :
    w.Sends whole (a :: rest) result := by
  refine .next asks (.again failed (retries_iff.mp again)) ?_ sends
  rw [Attempt.took_of_failure failed]
  rfl

theorem Sends.failed {left : Bytes} {a : Attempt} {e : IoError} (asks : a.Asks left) (failed : a.failure = some e)
    (final : ¬w.retries e = true) : w.Sends left [a] (.error (.io e)) :=
  .last asks (.failed failed fun again => final (retries_iff.mpr again))

theorem flush_sends (s : Sink) : ∃ attempts, Tried s attempts (w.flush s).2 ∧ w.Sends [] attempts (w.flush s).1 := by
  unfold flush
  fun_induction Sink.settle w.retries s with
  | case1 s s' flushed => exact ⟨_, .flush flushed .nothing, .last (.flush _) .flushed⟩
  | case2 s e s' flushed again ih =>
    obtain ⟨attempts, tried, sends⟩ := ih
    exact ⟨_, .flush flushed tried, .again (.flush _) rfl again sends⟩
  | case3 s e s' flushed final => exact ⟨_, .flush flushed .nothing, .failed (.flush _) rfl final⟩

theorem sendFrame_sends (frame : Bytes) (s : Sink) :
    ∃ attempts, Tried s attempts (w.sendFrame frame s).2 ∧ w.Sends frame attempts (w.sendFrame frame s).1 := by
  unfold sendFrame
  fun_induction Sink.push w.retries s frame with
  | case1 s => exact flush_sends s
  | case2 s bytes some s' wrote => exact ⟨_, .write wrote .nothing, .last (.write some _) .refused⟩
  | case3 s bytes some n s' wrote ih =>
    obtain ⟨attempts, tried, sends⟩ := ih
    exact ⟨_, .write wrote tried, .next (.write some _) .wrote (List.take_append_drop _ _) sends⟩
  | case4 s bytes some e s' wrote again ih =>
    obtain ⟨attempts, tried, sends⟩ := ih
    exact ⟨_, .write wrote tried, .again (.write some _) rfl again sends⟩
  | case5 s bytes some e s' wrote final => exact ⟨_, .write wrote .nothing, .failed (.write some _) rfl final⟩

namespace Sends

variable {frame whole : Bytes} {a : Attempt} {attempts rest later : List Attempt} {result : Except FrameError Unit}

theorem cons_inv (sends : w.Sends whole (a :: rest) result) :
    a.Asks whole ∧ (rest = [] ∧ w.Ends a result ∨
      w.GoesOn a ∧ ∃ left, a.took ++ left = whole ∧ w.Sends left rest result) := by
  cases sends with
  | last asks ends => exact ⟨asks, .inl ⟨rfl, ends⟩⟩
  | next asks goes parts sends => exact ⟨asks, .inr ⟨goes, _, parts, sends⟩⟩

theorem suffix {earlier : List Attempt} (sends : w.Sends frame (earlier ++ a :: later) result) :
    ∃ left, takenBy earlier ++ left = frame ∧ w.Sends left (a :: later) result := by
  induction earlier generalizing frame with
  | nil => exact ⟨frame, rfl, sends⟩
  | cons first others ih =>
    obtain ⟨-, ⟨last, -⟩ | ⟨-, rest, parts, sends⟩⟩ := cons_inv sends
    · exact absurd last (List.append_ne_nil_of_right_ne_nil others (List.cons_ne_nil a later))
    · obtain ⟨left, split, sends⟩ := ih sends
      refine ⟨left, ?_, sends⟩
      rw [takenBy_cons, List.append_assoc, split, parts]

theorem ends (sends : w.Sends frame attempts result) :
    ∃ earlier a left, attempts = earlier ++ [a] ∧ takenBy earlier ++ left = frame ∧ a.Asks left ∧ w.Ends a result := by
  induction sends with
  | last asks ends => exact ⟨[], _, _, rfl, rfl, asks, ends⟩
  | @next whole left a rest result asks goes parts sends ih =>
    obtain ⟨earlier, b, less, rfl, split, asks, ends⟩ := ih
    refine ⟨a :: earlier, b, less, rfl, ?_, asks, ends⟩
    rw [takenBy_cons, List.append_assoc, split, parts]

theorem ne_nil (sends : w.Sends frame attempts result) : attempts ≠ [] := by
  cases sends <;> exact List.cons_ne_nil _ _

theorem repeats (sends : w.Sends whole (a :: rest) result) {e : IoError} (failed : a.failure = some e)
    (again : w.Again e) : ∃ b others, rest = b :: others ∧ b.offered = a.offered := by
  obtain ⟨asks, ⟨-, ends⟩ | ⟨-, left, parts, following⟩⟩ := cons_inv sends
  · cases ends with
    | flushed => cases failed
    | refused => cases failed
    | failed same final =>
      cases failed.symm.trans same
      exact absurd again final
  · rw [Attempt.took_of_failure failed, List.nil_append] at parts
    subst parts
    obtain ⟨b, others, rfl⟩ := List.exists_cons_of_ne_nil (ne_nil following)
    exact ⟨b, others, rfl, (cons_inv following).1.trans asks.symm⟩

theorem stops (sends : w.Sends whole (a :: rest) result) {e : IoError} (failed : a.failure = some e)
    (final : ¬w.Again e) : rest = [] ∧ result = .error (.io e) := by
  obtain ⟨-, ⟨last, ends⟩ | ⟨goes, -⟩⟩ := cons_inv sends
  · cases ends with
    | flushed => cases failed
    | refused => cases failed
    | failed same =>
      cases failed.symm.trans same
      exact ⟨last, rfl⟩
  · cases goes with
    | wrote => cases failed
    | again same again =>
      cases failed.symm.trans same
      exact absurd again final

theorem refused {bytes : Bytes} (sends : w.Sends whole (.write bytes (.ok 0) :: rest) result) :
    rest = [] ∧ result = .error .connectionClosed := by
  obtain ⟨-, ⟨last, ends⟩ | ⟨goes, -⟩⟩ := cons_inv sends
  · cases ends with
    | refused => exact ⟨last, rfl⟩
    | failed failed => cases failed
  · cases goes with
    | again failed => cases failed

theorem flushed (sends : w.Sends whole (.flush (.ok ()) :: rest) result) : result = .ok () := by
  obtain ⟨-, ⟨-, ends⟩ | ⟨goes, -⟩⟩ := cons_inv sends
  · cases ends with
    | flushed => rfl
    | failed failed => cases failed
  · cases goes with
    | again failed => cases failed

theorem part (sends : w.Sends frame attempts result) : takenBy attempts <+: frame := by
  obtain ⟨earlier, a, left, rfl, split, asks, -⟩ := ends sends
  obtain ⟨unsent, parts⟩ := asks.took_prefix
  refine ⟨unsent, ?_⟩
  rw [takenBy_append, takenBy_single, List.append_assoc, parts, split]

theorem succeeds (sends : w.Sends frame attempts result) :
    result = .ok () ↔ takenBy attempts = frame ∧ ∃ earlier, attempts = earlier ++ [.flush (.ok ())] := by
  constructor
  · rintro rfl
    obtain ⟨earlier, a, left, rfl, split, asks, ends⟩ := ends sends
    cases ends
    refine ⟨?_, earlier, rfl⟩
    rw [takenBy_append, takenBy_single, ← split, asks.flush_inv]
    rfl
  · rintro ⟨-, earlier, rfl⟩
    obtain ⟨left, -, sends⟩ := suffix sends
    exact flushed sends

theorem flushes {earlier : List Attempt} {answer : Except IoError Unit}
    (sends : w.Sends frame (earlier ++ .flush answer :: later) result) :
    takenBy earlier = frame ∧ ∀ a ∈ earlier, ∀ e, a.failure = some e → w.Again e := by
  constructor
  · obtain ⟨left, split, sends⟩ := suffix sends
    rw [← split, (cons_inv sends).1.flush_inv, List.append_nil]
  · intro a member e failed
    obtain ⟨first, others, rfl⟩ := List.append_of_mem member
    rw [List.append_assoc, List.cons_append] at sends
    obtain ⟨left, -, sends⟩ := suffix sends
    by_cases again : w.Again e
    · exact again
    · have last := (stops sends failed again).1
      exact absurd last (List.append_ne_nil_of_right_ne_nil others (List.cons_ne_nil _ later))

end Sends

end

-- How a frame went into a sink.
structure Delivers (w : PacketWriter) (frame : Bytes) (before : Sink) (attempts : List Attempt)
    (result : Except FrameError Unit) (after : Sink) : Prop where
  tried : Tried before attempts after
  taken : after.taken = before.taken ++ takenBy attempts
  part : takenBy attempts <+: frame
  succeeds : result = .ok () ↔ takenBy attempts = frame ∧ ∃ earlier, attempts = earlier ++ [.flush (.ok ())]
  -- All that was not taken is offered each time, and a flush is asked for once nothing is left.
  asks : ∀ earlier a later, attempts = earlier ++ a :: later → ∃ left, takenBy earlier ++ left = frame ∧ a.Asks left
  again : ∀ earlier a later e, attempts = earlier ++ a :: later → a.failure = some e → w.Again e →
    ∃ b others, later = b :: others ∧ b.offered = a.offered
  fails : ∀ earlier a later e, attempts = earlier ++ a :: later → a.failure = some e → ¬w.Again e →
    later = [] ∧ result = .error (.io e)
  refused : ∀ earlier bytes later, attempts = earlier ++ .write bytes (.ok 0) :: later →
    later = [] ∧ result = .error .connectionClosed
  -- No flush comes after a failure that ended the writing.
  flushes : ∀ earlier answer later, attempts = earlier ++ .flush answer :: later →
    takenBy earlier = frame ∧ ∀ a ∈ earlier, ∀ e, a.failure = some e → w.Again e
  told : ∀ e, result = .error e → ∃ earlier a, attempts = earlier ++ [a] ∧ w.Ends a (.error e)

theorem Sends.delivers {w : PacketWriter} {frame : Bytes} {before after : Sink} {attempts : List Attempt}
    {result : Except FrameError Unit} (tried : Tried before attempts after) (sends : w.Sends frame attempts result) :
    w.Delivers frame before attempts result after where
  tried := tried
  taken := tried.taken
  part := sends.part
  succeeds := sends.succeeds
  asks earlier a later same := by
    subst same
    obtain ⟨left, split, sends⟩ := sends.suffix
    exact ⟨left, split, sends.cons_inv.1⟩
  again earlier a later e same failed again := by
    subst same
    obtain ⟨left, -, sends⟩ := sends.suffix
    exact sends.repeats failed again
  fails earlier a later e same failed final := by
    subst same
    obtain ⟨left, -, sends⟩ := sends.suffix
    exact sends.stops failed final
  refused earlier bytes later same := by
    subst same
    obtain ⟨left, -, sends⟩ := sends.suffix
    exact sends.refused
  flushes earlier answer later same := by
    subst same
    exact sends.flushes
  told e same := by
    subst same
    obtain ⟨earlier, a, -, last, -, -, ends⟩ := sends.ends
    exact ⟨earlier, a, last, ends⟩

theorem sendFrame_delivers (w : PacketWriter) (frame : Bytes) (s : Sink) :
    ∃ attempts, w.Delivers frame s attempts (w.sendFrame frame s).1 (w.sendFrame frame s).2 := by
  obtain ⟨attempts, tried, sends⟩ := w.sendFrame_sends frame s
  exact ⟨attempts, sends.delivers tried⟩

-- What a writer is asked to send: a packet, a frame that is already made, or only what the sink still holds back.
inductive Errand where
  | packet (p : Packet)
  | made (bytes : Bytes)
  | flush

def Errand.Frame (limit : Nat) : Errand → Bytes → Prop
  | .packet p, frame => p.Framed limit frame
  | .made bytes, frame => frame = bytes
  | .flush, frame => frame = []

def perform (w : PacketWriter) (state : Scratch × Sink) : Errand → Except FrameError Unit × Scratch × Sink
  | .packet p => w.sendFrom state.1 p state.2
  | .made bytes => ((w.sendFrame bytes state.2).1, state.1, (w.sendFrame bytes state.2).2)
  | .flush => ((w.flush state.2).1, state.1, (w.flush state.2).2)

def performAll (w : PacketWriter) (start : Scratch × Sink) (errands : List Errand) : Scratch × Sink :=
  errands.foldl (fun state errand => (w.perform state errand).2) start

theorem sendFrame_nil (w : PacketWriter) (s : Sink) : w.sendFrame [] s = w.flush s := by
  unfold sendFrame Sink.push
  rfl

variable {w : PacketWriter} {errand : Errand}

theorem perform_framed {frame : Bytes} (framed : errand.Frame w.limit frame) (state : Scratch × Sink) :
    ((w.perform state errand).1, (w.perform state errand).2.2) = w.sendFrame frame state.2 := by
  cases errand with
  | packet p =>
    refine (w.sendFrom_eq state.1 p state.2).trans ?_
    unfold send
    rw [Packet.encodeWithin_eq_ok.mpr framed]
  | made bytes =>
    cases framed
    rfl
  | flush =>
    cases framed
    exact (w.sendFrame_nil state.2).symm

theorem perform_unframed (unframed : ∀ frame, ¬errand.Frame w.limit frame) (state : Scratch × Sink) :
    (w.perform state errand).1 ≠ .ok () ∧ (w.perform state errand).2.2 = state.2 := by
  cases errand with
  | packet p =>
    have same := w.sendFrom_eq state.1 p state.2
    refine ⟨?_, (congrArg Prod.snd same).trans (send_untouched unframed state.2)⟩
    intro sent
    have sent : (w.send p state.2).1 = .ok () := (congrArg Prod.fst same).symm.trans sent
    unfold send at sent
    cases made : p.encodeWithin w.limit with
    | error e =>
      rw [made] at sent
      cases sent
    | ok frame => exact unframed frame (Packet.encodeWithin_eq_ok.mp made)
  | made bytes => exact absurd rfl (unframed bytes)
  | flush => exact absurd rfl (unframed [])

theorem performAll_snoc (w : PacketWriter) (start : Scratch × Sink) (earlier : List Errand) (errand : Errand) :
    w.performAll start (earlier ++ [errand]) = (w.perform (w.performAll start earlier) errand).2 := by
  unfold performAll
  rw [List.foldl_append]
  rfl

-- Whatever was sent before, and however that ended: the frame of the errand itself goes out, or nothing does.
theorem performAll_delivers (w : PacketWriter) (start : Scratch × Sink) (earlier : List Errand) (errand : Errand) :
    (∃ frame attempts, errand.Frame w.limit frame ∧ w.Delivers frame (w.performAll start earlier).2 attempts
      (w.perform (w.performAll start earlier) errand).1 (w.performAll start (earlier ++ [errand])).2) ∨
    (∀ frame, ¬errand.Frame w.limit frame) ∧ (w.perform (w.performAll start earlier) errand).1 ≠ .ok () ∧
      (w.performAll start (earlier ++ [errand])).2 = (w.performAll start earlier).2 := by
  rw [performAll_snoc]
  by_cases framed : ∃ frame, errand.Frame w.limit frame
  · obtain ⟨frame, framed⟩ := framed
    obtain ⟨attempts, delivers⟩ := w.sendFrame_delivers frame (w.performAll start earlier).2
    rw [← perform_framed framed] at delivers
    exact .inl ⟨frame, attempts, framed, delivers⟩
  · have unframed (frame : Bytes) : ¬errand.Frame w.limit frame := fun made => framed ⟨frame, made⟩
    exact .inr ⟨unframed, perform_unframed unframed _⟩

end PacketWriter
end FramedRpc
