import FramedRpc.Proofs.Frame.Buffers
import FramedRpc.Proofs.Frame.Header

namespace FramedRpc.Frame

-- The bytes at the front of a stream that are as many as they ask for. Fewer of them ask for more than there are, but
-- never for a byte behind these.
structure Portion (size : Bytes → Nat) (s q : Bytes) : Prop where
  front : q <+: s
  complete : q.length = size q
  short : ∀ p, p <+: q → p ≠ q → p.length < size p ∧ size p ≤ q.length

-- One step of a section that is filled: of the next `n` bytes it takes those that it still asks for.
def fill (size : Bytes → Nat) (n : Nat) (held input : Bytes) : Bytes × Bytes :=
  let taken := min (size held - held.length) n
  (held ++ input.take taken, input.drop taken)

def fillAll (size : Bytes → Nat) (held input : Bytes) : List Nat → Bytes × Bytes
  | [] => (held, input)
  | n :: later => fillAll size (fill size n held input).1 (fill size n held input).2 later

section
variable {size : Bytes → Nat} {s q held input : Bytes}

theorem portion_of_sizing (sizing : Sizing size) (enough : size s ≤ s.length) : Portion size s (s.take (size s)) := by
  have whole := List.take_append_drop (size s) s
  have length : (s.take (size s)).length = size s := List.length_take_of_le enough
  generalize s.take (size s) = q at whole length
  generalize s.drop (size s) = behind at whole
  subst whole
  have grown := sizing.grows q behind
  have settled := sizing.settles q behind (by omega)
  refine ⟨List.prefix_append q behind, by omega, fun p part other => ?_⟩
  obtain ⟨more, rfl⟩ := part
  have asked := sizing.grows p more
  have some : more ≠ [] := fun none => other (by rw [none, List.append_nil])
  have longer := List.length_pos_iff.mpr some
  rw [List.length_append] at length
  refine ⟨Nat.lt_of_not_le fun enough => ?_, by rw [List.length_append]; omega⟩
  have done := sizing.settles p more enough
  omega

theorem Portion.settled (portion : Portion size s q) {p : Bytes} (part : p <+: q) : size p ≤ p.length ↔ p = q := by
  constructor
  · intro settled
    by_cases same : p = q
    · exact same
    · exact absurd settled (Nat.not_le_of_lt (portion.short p part same).1)
  · rintro rfl
    exact Nat.le_of_eq portion.complete.symm

theorem Portion.shortest (portion : Portion size s q) {p : Bytes} (front : p <+: s) (complete : p.length = size p) :
    q <+: p := by
  rcases Nat.le_total q.length p.length with within | within
  · exact List.prefix_of_prefix_length_le portion.front front within
  · have part : p <+: q := List.prefix_of_prefix_length_le front portion.front within
    have same : p = q := (portion.settled part).mp (Nat.le_of_eq complete.symm)
    subst same
    exact List.prefix_rfl

theorem fill_append (size : Bytes → Nat) (n : Nat) (held input : Bytes) :
    (fill size n held input).1 ++ (fill size n held input).2 = held ++ input := by
  unfold fill
  rw [List.append_assoc, List.take_append_drop]

theorem fillAll_append (size : Bytes → Nat) (held input : Bytes) (steps : List Nat) :
    (fillAll size held input steps).1 ++ (fillAll size held input steps).2 = held ++ input := by
  induction steps generalizing held input with
  | nil => rfl
  | cons n later ih =>
    rw [fillAll, ih]
    exact fill_append size n held input

theorem Portion.fill_step (portion : Portion size (held ++ input) q) (part : held <+: q) {n : Nat} (some : 0 < n) :
    (fill size n held input).1 <+: q ∧ min q.length (held.length + 1) ≤ (fill size n held input).1.length := by
  have front : (fill size n held input).1 <+: held ++ input := ⟨_, fill_append size n held input⟩
  have length : (fill size n held input).1.length =
      held.length + min (min (size held - held.length) n) input.length := by
    unfold fill
    rw [List.length_append, List.length_take]
  have within := portion.front.length_le
  rw [List.length_append] at within
  have lengths : (fill size n held input).1.length ≤ q.length ∧
      min q.length (held.length + 1) ≤ (fill size n held input).1.length := by
    by_cases done : held = q
    · have complete := portion.complete
      rw [← done] at complete ⊢
      omega
    · have asked := portion.short held part done
      omega
  exact ⟨List.prefix_of_prefix_length_le front portion.front lengths.1, lengths.2⟩

theorem Portion.fillAll_steps (portion : Portion size (held ++ input) q) (part : held <+: q) {steps : List Nat}
    (some : ∀ n ∈ steps, 0 < n) :
    (fillAll size held input steps).1 <+: q ∧
      min q.length (held.length + steps.length) ≤ (fillAll size held input steps).1.length := by
  induction steps generalizing held input with
  | nil => exact ⟨part, Nat.min_le_right _ _⟩
  | cons n later ih =>
    obtain ⟨onward, longer⟩ := portion.fill_step part (some n List.mem_cons_self)
    have same : Portion size ((fill size n held input).1 ++ (fill size n held input).2) q := by
      rw [fill_append]
      exact portion
    obtain ⟨kept, length⟩ := ih same onward fun m among => some m (List.mem_cons_of_mem n among)
    refine ⟨kept, ?_⟩
    rw [fillAll, List.length_cons]
    omega

-- A portion, and how a section comes to hold it from nothing, whatever the steps are.
structure Filled (size : Bytes → Nat) (s q : Bytes) : Prop extends Portion size s q where
  least : ∀ p, p <+: s → p.length = size p → q <+: p
  onward : ∀ steps : List Nat, (∀ n ∈ steps, 0 < n) →
    (fillAll size [] s steps).1 <+: q ∧ (fillAll size [] s steps).1 ++ (fillAll size [] s steps).2 = s ∧
      (size (fillAll size [] s steps).1 ≤ (fillAll size [] s steps).1.length ↔ (fillAll size [] s steps).1 = q)
  ends : ∀ steps : List Nat, (∀ n ∈ steps, 0 < n) → q.length ≤ steps.length →
    fillAll size [] s steps = (q, s.drop q.length)

theorem Portion.filled (portion : Portion size s q) : Filled size s q := by
  have course (steps : List Nat) (some : ∀ n ∈ steps, 0 < n) : (fillAll size [] s steps).1 <+: q ∧
      min q.length (([] : Bytes).length + steps.length) ≤ (fillAll size [] s steps).1.length :=
    Portion.fillAll_steps portion List.nil_prefix some
  refine ⟨portion, fun p => portion.shortest, fun steps some => ?_, fun steps some enough => ?_⟩
  · have part := (course steps some).1
    exact ⟨part, fillAll_append size [] s steps, portion.settled part⟩
  · obtain ⟨part, length⟩ := course steps some
    have joined := fillAll_append size [] s steps
    rw [List.length_nil, Nat.zero_add, Nat.min_eq_left enough] at length
    have held := part.eq_of_length_le length
    rw [held, List.nil_append] at joined
    have rest := congrArg (List.drop q.length) joined
    rw [List.drop_left] at rest
    exact Prod.ext held rest

end

def lookUpLength? (field : Bytes) : Option (Option Nat) := do
  let half := field.length / 2
  let first ← lookUp? half field
  let second ← lookUp? half (field.drop half)
  return if first = second then some (Bytes.ofBigEndian first % 2 ^ (8 * half - 1)) else none

theorem lookUpLength?_eq {field : Bytes} (complete : field.length = lengthSize field) :
    lookUpLength? field = some (readLength? field) := by
  have even : field.length = 2 * (field.length / 2) := by
    unfold lengthSize at complete
    split at complete
    · split at complete <;> omega
    · omega
  have behind : (field.drop (field.length / 2)).length = field.length / 2 := by
    rw [List.length_drop]
    omega
  unfold lookUpLength? readLength?
  simp only [lookUp?_eq (Nat.div_le_self field.length 2), lookUp?_eq (Nat.le_of_eq behind.symm)]
  rw [List.take_of_length_le (Nat.le_of_eq behind)]
  rfl

theorem filled_of_written {size : Bytes → Nat} (sizing : Sizing size) {q rest : Bytes}
    (complete : size (q ++ rest) = q.length) : Filled size (q ++ rest) q := by
  have portion := portion_of_sizing sizing (s := q ++ rest) (by rw [complete, List.length_append]; omega)
  rw [complete, List.take_left] at portion
  exact portion.filled

-- A deframer takes such steps, each of as many bytes as there are to be read

theorem fill_input (size : Bytes → Nat) (held input : Bytes) : fill size input.length held input =
    (held ++ input.take (size held - held.length), input.drop (size held - held.length)) := by
  simp only [fill]
  rcases Nat.le_total (size held - held.length) input.length with within | beyond
  · rw [Nat.min_eq_left within]
  · rw [Nat.min_eq_right beyond, List.take_length, List.drop_length, List.take_of_length_le beyond,
      List.drop_of_length_le beyond]

-- The section goes on while it lacks bytes, and is decided on as soon as it has them.
def afterFill (size : Bytes → Nat) (filling : Bytes → Phase) (verdict : Bytes → Verdict) (next : Bytes × Bytes) :
    Verdict × Bytes :=
  (if next.1.length < size next.1 then .more (filling next.1) else verdict next.1, next.2)

theorem round_length (limit : Nat) (held input : Bytes) : (Phase.length held).round limit input =
    afterFill lengthSize .length (Phase.afterLength limit) (fill lengthSize input.length held input) := by
  rw [fill_input]
  rfl

theorem round_fields (limit : Nat) (lengthBytes : Bytes) (n : Nat) (held input : Bytes) :
    (Phase.fields lengthBytes n held).round limit input =
      afterFill fieldsSize (.fields lengthBytes n) (Phase.afterFields lengthBytes · n)
        (fill fieldsSize input.length held input) := by
  rw [fill_input]
  rfl

-- The length and the fields are taken off a stream as they are written, and are read from nothing else.
theorem heads_filled :
    (∀ s : Bytes, 14 ≤ s.length →
      Filled lengthSize s (s.take (lengthSize s)) ∧
      lookUpLength? (s.take (lengthSize s)) = some (readLength? (s.take (lengthSize s))) ∧
      Filled fieldsSize s (s.take (fieldsSize s)) ∧
      lookUpFields? (s.take (fieldsSize s)) = some (readFields (s.take (fieldsSize s)))) ∧
    (∀ n ≤ maxContentLength, ∀ rest : Bytes,
      Filled lengthSize (writeLength n ++ writeLength n ++ rest) (writeLength n ++ writeLength n) ∧
      readLength? (writeLength n ++ writeLength n) = some n) ∧
    (∀ f : Fields, f.typeId ≤ maxTypeId → f.requestId ≤ maxRequestId → ∀ rest : Bytes,
      Filled fieldsSize (f.write ++ rest) f.write ∧ readFields f.write = f) ∧
    (∀ (limit : Nat) (held input : Bytes), (Phase.length held).round limit input =
      afterFill lengthSize .length (Phase.afterLength limit) (fill lengthSize input.length held input)) ∧
    ∀ (limit : Nat) (lengthBytes : Bytes) (n : Nat) (held input : Bytes),
      (Phase.fields lengthBytes n held).round limit input =
        afterFill fieldsSize (.fields lengthBytes n) (Phase.afterFields lengthBytes · n)
          (fill fieldsSize input.length held input) := by
  refine ⟨fun s enough => ?_, fun n small rest => ?_, fun f type id rest => ?_, round_length, round_fields⟩
  · have length := portion_of_sizing Sizing.lengthSize (s := s) (by have := (lengthSize_range s).2; omega)
    have fields := portion_of_sizing Sizing.fieldsSize (s := s) (by have := (fieldsSize_range s).2; omega)
    exact ⟨length.filled, lookUpLength?_eq length.complete, fields.filled, lookUpFields?_eq fields.complete⟩
  · refine ⟨filled_of_written Sizing.lengthSize ?_, readLength?_writeLength small⟩
    rw [List.append_assoc, lengthSize_writeLength small, List.length_append]
    omega
  · exact ⟨filled_of_written Sizing.fieldsSize (fieldsSize_write type id rest), readFields_write type id⟩

-- A stream whose length would be eight bytes that disagree, and whose fields would be of the widest form; a length and
-- an id just beyond a narrower form, taken in steps that cut each number.
theorem heads_filled_wide :
    let s : Bytes := [0xC0, 1, 2, 3, 0x45, 6, 7, 8, 9, 10, 11, 12, 13, 14]
    let f : Fields := ⟨true, 300, 0x400000⟩
    14 ≤ s.length ∧ 0x8000 ≤ maxContentLength ∧ f.typeId ≤ maxTypeId ∧ f.requestId ≤ maxRequestId ∧
      (∀ n ∈ [3, 1, 9, 2, 2, 2, 2, 2], 0 < n) ∧
      fillAll lengthSize [] s [3, 1, 9, 2, 2, 2, 2, 2] = ([0xC0, 1, 2, 3, 0x45, 6, 7, 8], [9, 10, 11, 12, 13, 14]) ∧
      lookUpLength? [0xC0, 1, 2, 3, 0x45, 6, 7, 8] = some none ∧
      fillAll fieldsSize [] s [3, 1, 9, 2, 2, 2, 2, 2] = ([0xC0, 1, 2, 3, 0x45, 6], [7, 8, 9, 10, 11, 12, 13, 14]) ∧
      lookUpFields? [0xC0, 1, 2, 3, 0x45, 6] = some ⟨false, 0x506, 0x10203⟩ ∧
      readLength? (writeLength 0x8000 ++ writeLength 0x8000) = some 0x8000 ∧
      Filled fieldsSize (f.write ++ s) f.write ∧ readFields f.write = f := by
  intro s f
  have enough : 14 ≤ s.length := by decide
  have small : 0x8000 ≤ maxContentLength := by decide
  have type : f.typeId ≤ maxTypeId := by decide
  have id : f.requestId ≤ maxRequestId := by decide
  have some : ∀ n ∈ [3, 1, 9, 2, 2, 2, 2, 2], 0 < n := by decide
  obtain ⟨heads, lengths, fields, -⟩ := heads_filled
  obtain ⟨length, lengthRead, head, fieldsRead⟩ := heads s enough
  exact ⟨enough, small, type, id, some, length.ends _ some (by decide), lengthRead.trans (by decide +kernel),
    head.ends _ some (by decide), fieldsRead.trans (by decide +kernel), (lengths 0x8000 small s).2, fields f type id s⟩

end FramedRpc.Frame
