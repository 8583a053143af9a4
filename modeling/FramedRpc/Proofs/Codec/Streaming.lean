import FramedRpc.Proofs.Codec.Twin
import FramedRpc.Proofs.Stream.Course

namespace FramedRpc

namespace Twin

variable {σ τ : Type} [Supply σ] [Supply τ]

-- A supply that is only shown in another form.
def along (form : τ → σ) (takes : ∀ n t, Supply.take n (form t) = ((Supply.take n t).1, form (Supply.take n t).2)) :
    Twin σ τ where
  Level s t := s = form t
  Past _ := False
  Failed _ _ := False
  Shared e := ∃ n t, (Supply.take (σ := τ) n t).1 = .error e
  take n s t level := by
    subst level
    exact .inl ⟨_, _, _, takes n t, rfl, rfl, fun e same => ⟨n, t, same⟩⟩
  past _ _ past := past

def behind (start : Bytes) : Twin Bytes Bytes where
  Level s t := s = t ∧ ∃ taken, start = taken ++ s
  Past _ := False
  Failed _ _ := False
  Shared _ := True
  take n s t level := by
    obtain ⟨rfl, taken, split⟩ := level
    refine .inl ⟨_, _, _, rfl, rfl, ⟨rfl, taken ++ s.take n, ?_⟩, fun _ _ => trivial⟩
    rw [split, List.append_assoc]
    exact congrArg (taken ++ ·) (List.take_append_drop n s).symm
  past _ _ past := past

def cut (more : Bytes) (e : IoError) (rest : Course) : Twin Bytes Course where
  Level s c := ∃ data, s = data ++ more ∧ c = .broken data e rest
  Past s := s = [] ∨ s.length < more.length
  Failed failure c := failure = e ∧ c = rest
  Shared _ := False
  take n s c level := by
    obtain ⟨data, rfl, rfl⟩ := level
    by_cases enough : n ≤ data.length
    · refine .inl ⟨.ok (data.take n), data.drop n ++ more, .broken (data.drop n) e rest, ?_, ?_, ⟨_, rfl, rfl⟩, nofun⟩
      · simp [Supply.take, List.take_append_of_le_length enough, List.drop_append_of_le_length enough]
      · simp [Supply.take, Course.take, enough]
    · refine .inr ⟨?_, e, rest, ?_, rfl, rfl⟩
      · simp only [Supply.take, ← List.length_eq_zero_iff, List.length_drop, List.length_append]
        omega
      · simp [Supply.take, Course.take, enough]
  past n s past := by
    simp only [Supply.take, ← List.length_eq_zero_iff, List.length_drop] at past ⊢
    omega

end Twin

namespace Codec

section

variable {σ τ : Type} [Supply σ] [Supply τ]

theorem read_along (form : τ → σ) (takes : ∀ n t, Supply.take n (form t) = ((Supply.take n t).1, form (Supply.take n t).2))
    (t : τ) : read (form t) = ((read t).1, form (read t).2) ∧
      ∀ e, (read t).1 = .error (.io e) → ∃ n t', (Supply.take (σ := τ) n t').1 = .error e := by
  rcases (Alike.read (.along form takes)).level (form t) t rfl with
    ⟨result, s, t', left, right, level, shared⟩ | ⟨⟨⟩, -⟩
  rw [left, right]
  exact ⟨congrArg (Prod.mk result) level, shared⟩

def reads : Nat → σ → List (Except CodecError Value) × σ
  | 0, s => ([], s)
  | n + 1, s =>
    let (result, s) := read s
    let (results, s) := reads n s
    (result :: results, s)

theorem reads_along (form : τ → σ)
    (takes : ∀ n t, Supply.take n (form t) = ((Supply.take n t).1, form (Supply.take n t).2)) (n : Nat) (t : τ) :
    reads n (form t) = ((reads n t).1, form (reads n t).2) := by
  induction n generalizing t with
  | zero => rfl
  | succ n ih => simp only [reads, (read_along form takes t).1, ih]

end

theorem read_bytes_ne (bytes : Bytes) (e : IoError) : (read bytes).1 ≠ .error (.io e) := by
  intro failed
  obtain ⟨n, other, ⟨⟩⟩ := (read_along Course.whole (fun _ _ => rfl) bytes).2 e failed

theorem read_whole (data : Bytes) : read (Course.whole data) = ((read data).1, .whole (read data).2) :=
  (read_along Course.whole (fun _ _ => rfl) data).1

theorem read_suffix (bytes : Bytes) : ∃ taken, bytes = taken ++ (read bytes).2 := by
  rcases (Alike.read (.behind bytes)).level bytes bytes ⟨rfl, [], rfl⟩ with
    ⟨result, s, t, left, right, ⟨rfl, suffix⟩, -⟩ | ⟨⟨⟩, -⟩
  rw [left]
  exact suffix

-- The decoder is not done with these bytes: it takes the next one, whatever that is.
def Wants (bytes : Bytes) : Prop := ∀ byte, (read (bytes ++ [byte])).2 = []

-- It takes some of whatever follows them.
def Takes (bytes : Bytes) : Prop :=
  ∀ more, (read (bytes ++ more)).2 = [] ∨ (read (bytes ++ more)).2.length < more.length

-- It is done, and does not look at what follows them.
def Settled (bytes : Bytes) : Prop := ∀ more, read (bytes ++ more) = ((read bytes).1, (read bytes).2 ++ more)

theorem Takes.wants {bytes : Bytes} (takes : Takes bytes) : Wants bytes := by
  intro byte
  rcases takes [byte] with all | short
  · exact all
  · exact List.length_eq_zero_iff.mp (Nat.lt_one_iff.mp short)

theorem Settled.not_wants {bytes : Bytes} (settled : Settled bytes) : ¬Wants bytes := by
  intro wants
  have all := wants 0
  rw [settled] at all
  simp at all

theorem read_broken (data : Bytes) (e : IoError) (rest : Course) :
    Settled data ∧ read (Course.broken data e rest) = ((read data).1, .broken (read data).2 e rest) ∨
      Takes data ∧ read (Course.broken data e rest) = (.error (.io e), rest) := by
  have ends (more : Bytes) := (Alike.read (.cut more e rest)).level (data ++ more) _ ⟨data, rfl, rfl⟩
  rcases ends [] with ⟨result, s, c, left, right, ⟨behind, rfl, rfl⟩, shared⟩ | ⟨-, e', c, right, rfl, rfl⟩
  · rw [List.append_nil, List.append_nil] at left
    rw [left]
    refine .inl ⟨fun more => ?_, right⟩
    rw [left]
    rcases ends more with ⟨other, s, c, found, again, ⟨behind', rfl, rfl⟩, -⟩ | ⟨-, e', c, again, -⟩
    · cases right.symm.trans again
      exact found
    · cases right.symm.trans again
      exact (shared e' rfl).elim
  · refine .inr ⟨fun more => ?_, right⟩
    rcases ends more with ⟨other, s, c, found, again, -, shared⟩ | ⟨past, -⟩
    · cases right.symm.trans again
      exact (shared _ rfl).elim
    · exact past

-- What one read of a source comes to.
structure Streamed (s : Source) (result : Except CodecError Value) (after : Source) : Prop where
  -- As if all the data were there at once.
  whole : (∀ e, result ≠ .error (.io e)) →
    read s.unread = (result, after.unread) ∧ after.course.failures = s.course.failures
  exact : (∀ e, result ≠ .error (.io e)) → ∃ taken, s.unread = taken ++ after.unread ∧
    (Wants taken ∧ after.course = .whole [] ∨ ∀ more, read (taken ++ more) = (result, more))
  -- A failure comes where a byte is asked for, and is told of nowhere else.
  failed : ∀ data e rest, s.course = .broken data e rest → Wants data →
    result = .error (.io e) ∧ after.course = rest
  told : ∀ e, result = .error (.io e) → ∃ data, s.course = .broken data e after.course ∧ Wants data

inductive Streams : Source → List (Except CodecError Value) → Source → Prop where
  | nil (s : Source) : Streams s [] s
  | cons {s middle after : Source} {result : Except CodecError Value} {results : List (Except CodecError Value)}
    (first : Streamed s result middle) (others : Streams middle results after) : Streams s (result :: results) after

theorem read_exact (bytes : Bytes) : ∃ taken, bytes = taken ++ (read bytes).2 ∧
    (Wants taken ∧ (read bytes).2 = [] ∨ ∀ more, read (taken ++ more) = ((read bytes).1, more)) := by
  obtain ⟨taken, split⟩ := read_suffix bytes
  refine ⟨taken, split, ?_⟩
  rcases read_broken taken default (.whole []) with ⟨settled, -⟩ | ⟨takes, -⟩
  · have whole := settled (read bytes).2
    rw [← split] at whole
    obtain ⟨result, left⟩ := Prod.ext_iff.mp whole
    have all : (read taken).2 = [] := List.append_left_eq_self.mp left.symm
    refine .inr fun more => ?_
    rw [settled, result, all, List.nil_append]
  · refine .inl ⟨takes.wants, ?_⟩
    have left := takes (read bytes).2
    rw [← split] at left
    exact left.resolve_right (Nat.lt_irrefl _)

theorem read_cases (s : Source) :
    (∃ data, s.course = .whole data ∧ (read s).1 = (read data).1 ∧ (read s).2.course = .whole (read data).2) ∨
      ∃ data e rest, s.course = .broken data e rest ∧
        (Settled data ∧ (read s).1 = (read data).1 ∧ (read s).2.course = .broken (read data).2 e rest ∨
          Wants data ∧ (read s).1 = .error (.io e) ∧ (read s).2.course = rest) := by
  have course := (read_along Source.course Source.take_course s).1
  cases shape : s.course with
  | whole data =>
    rw [shape, read_whole] at course
    obtain ⟨result, after⟩ := Prod.mk.inj course
    exact .inl ⟨data, rfl, result.symm, after.symm⟩
  | broken data e rest =>
    refine .inr ⟨data, e, rest, rfl, ?_⟩
    rw [shape] at course
    rcases read_broken data e rest with ⟨settled, same⟩ | ⟨takes, same⟩
    · rw [same] at course
      obtain ⟨result, after⟩ := Prod.mk.inj course
      exact .inl ⟨settled, result.symm, after.symm⟩
    · rw [same] at course
      obtain ⟨result, after⟩ := Prod.mk.inj course
      exact .inr ⟨takes.wants, result.symm, after.symm⟩

theorem Streamed.of_clean {s after : Source} {result : Except CodecError Value} (clean : ∀ e, result ≠ .error (.io e))
    (whole : read s.unread = (result, after.unread)) (failures : after.course.failures = s.course.failures)
    (exact : ∃ taken, s.unread = taken ++ after.unread ∧
      (Wants taken ∧ after.course = .whole [] ∨ ∀ more, read (taken ++ more) = (result, more)))
    (unasked : ∀ data e rest, s.course = .broken data e rest → ¬Wants data) : Streamed s result after where
  whole _ := ⟨whole, failures⟩
  exact _ := exact
  failed data e rest shape wants := absurd wants (unasked data e rest shape)
  told e same := absurd same (clean e)

theorem read_streamed (s : Source) : Streamed s (read s).1 (read s).2 := by
  have before := s.unread_course
  have behind := (read s).2.unread_course
  rcases read_cases s with ⟨data, shape, result, after⟩ | ⟨data, e, rest, shape, ⟨settled, result, after⟩ | ⟨wants, result, after⟩⟩
  · rw [shape] at before
    rw [after] at behind
    simp only [Course.unread] at before behind
    apply Streamed.of_clean
    · rw [result]
      exact read_bytes_ne data
    · rw [← before, ← behind, result]
    · rw [after, shape]
      rfl
    · obtain ⟨taken, split, enough⟩ := read_exact data
      refine ⟨taken, by rw [← before, ← behind, ← split], ?_⟩
      rw [result, after]
      rcases enough with ⟨wants, all⟩ | enough
      · rw [all]
        exact .inl ⟨wants, rfl⟩
      · exact .inr enough
    · intro data' e rest broken
      cases shape.symm.trans broken
  · rw [shape] at before
    rw [after] at behind
    simp only [Course.unread] at before behind
    apply Streamed.of_clean
    · rw [result]
      exact read_bytes_ne data
    · rw [← before, ← behind, result, settled]
    · rw [after, shape]
      rfl
    · obtain ⟨taken, split, enough⟩ := read_exact data
      refine ⟨taken, by rw [← before, ← behind, ← List.append_assoc, ← split], .inr ?_⟩
      rw [result]
      rcases enough with ⟨wants, all⟩ | enough
      · rw [all, List.append_nil] at split
        rw [← split] at wants
        exact absurd wants settled.not_wants
      · exact enough
    · intro data' e' rest' broken
      cases shape.symm.trans broken
      exact settled.not_wants
  · have failure : ¬∀ e, (read s).1 ≠ .error (.io e) := fun clean => clean e result
    refine ⟨fun clean => absurd clean failure, fun clean => absurd clean failure, ?_, fun e' told => ?_⟩
    · intro data' e' rest' broken _
      cases shape.symm.trans broken
      exact ⟨result, after⟩
    · cases result.symm.trans told
      exact ⟨data, by rw [shape, after], wants⟩

theorem reads_streamed (room : Nat → Source → Nat) (s : Source) (n : Nat) :
    reads n (⟨room, s⟩ : Paced) = ((reads n s).1, ⟨room, (reads n s).2⟩) ∧
      reads n s.course = ((reads n s).1, (reads n s).2.course) ∧ Streams s (reads n s).1 (reads n s).2 := by
  refine ⟨reads_along (Paced.mk room) (fun n t => ?_) n s, reads_along Source.course Source.take_course n s, ?_⟩
  · simp only [Supply.take, Source.gather_eq_take]
  · induction n generalizing s with
    | zero => exact .nil s
    | succ n ih => exact .cons (read_streamed s) (ih (read s).2)

end Codec
end FramedRpc
