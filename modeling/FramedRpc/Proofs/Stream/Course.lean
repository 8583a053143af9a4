import FramedRpc.Stream.Source

namespace FramedRpc

namespace Source

-- Attempts, each with room for at least one byte and no more than are missing, until there are `n` or no more.
def gather (room : Nat → Source → Nat) (n : Nat) (s : Source) : Except IoError Bytes × Source :=
  if n = 0 then (.ok [], s)
  else
    match _h : s.read (max 1 (min (room n s) n)) with
    | (.ok [], s') => (.ok [], s')
    | (.ok (byte :: bytes), s') =>
      match gather room (n - (byte :: bytes).length) s' with
      | (.ok more, s') => (.ok (byte :: bytes ++ more), s')
      | (.error e, s') => (.error e, s')
    | (.error e, s') => if e.isInterrupted then gather room n s' else (.error e, s')
termination_by s.weight
decreasing_by
  all_goals
    have := Source.weight_read (Nat.le_max_left ..) _h
    simpa using this

theorem take_zero (s : Source) : s.take 0 = (.ok [], s) := by
  cases s with
  | nil => rfl
  | cons d rest => cases d <;> simp [take]

theorem take_piece {n : Nat} {first : Bytes} (others : Bytes) (rest : Source) (less : first.length ≤ n) :
    take n (.data (first ++ others) :: rest) =
      match take (n - first.length) (.data others :: rest) with
      | (.ok more, s) => (.ok (first ++ more), s)
      | (.error e, s) => (.error e, s) := by
  obtain ⟨m, rfl⟩ := Nat.exists_eq_add_of_le less
  have fits : first.length + m ≤ first.length + others.length ↔ m ≤ others.length := by omega
  simp only [take, List.length_append, Nat.add_sub_cancel_left, fits]
  split
  · simp [List.take_length_add_append, List.drop_length_add_append]
  · rw [Nat.add_sub_add_left]
    cases take (m - others.length) rest with
    | mk result s => cases result <;> simp

theorem take_empty {n : Nat} (some : 0 < n) (rest : Source) : take n (.data [] :: rest) = take n rest := by
  have missing : ¬n ≤ 0 := by omega
  simp only [take, List.length_nil, if_neg missing, Nat.sub_zero]
  cases take n rest with
  | mk result s => cases result <;> rfl

theorem take_read_ok {room n : Nat} {s s' : Source} {byte : UInt8} {bytes : Bytes} (some : 0 < n) (less : room ≤ n)
    (read : s.read room = (.ok (byte :: bytes), s')) :
    s.take n =
      match s'.take (n - (byte :: bytes).length) with
      | (.ok more, s) => (.ok (byte :: bytes ++ more), s)
      | (.error e, s) => (.error e, s) := by
  induction s with
  | nil => cases read
  | cons d rest ih =>
    cases d with
    | failure e => cases read
    | data piece =>
      cases piece with
      | nil => rw [take_empty some, ih read]
      | cons first piece =>
        have parts := (List.take_append_drop room (first :: piece)).symm
        have short := List.length_take_le room (first :: piece)
        obtain ⟨given, rfl⟩ := Prod.mk.inj read
        rw [Except.ok.inj given] at parts short
        generalize (first :: piece).drop room = others at parts ⊢
        rw [parts, take_piece others rest (Nat.le_trans short less)]

theorem take_read_nothing {room n : Nat} {s s' : Source} (some : 0 < n) (place : 0 < room)
    (read : s.read room = (.ok [], s')) : s.take n = (.ok [], s') := by
  induction s with
  | nil =>
    cases read
    rfl
  | cons d rest ih =>
    cases d with
    | failure e => cases read
    | data piece =>
      cases piece with
      | nil => rw [take_empty some, ih read]
      | cons first piece =>
        obtain ⟨room, rfl⟩ := Nat.exists_eq_succ_of_ne_zero (Nat.ne_of_gt place)
        cases read

theorem take_read_error {room n : Nat} {s s' : Source} {e : IoError} (some : 0 < n)
    (read : s.read room = (.error e, s')) : s.take n = if e.isInterrupted then s'.take n else (.error e, s') := by
  induction s with
  | nil => cases read
  | cons d rest ih =>
    cases d with
    | failure e =>
      cases read
      rw [take, if_neg (Nat.ne_of_gt some)]
    | data piece =>
      cases piece with
      | nil => rw [take_empty some, ih read]
      | cons first piece => cases read

theorem gather_eq_take (room : Nat → Source → Nat) (n : Nat) (s : Source) : s.gather room n = s.take n := by
  fun_induction gather room n s with
  | case1 s => exact s.take_zero.symm
  | case2 n s some s' read => exact (take_read_nothing (by omega) (Nat.le_max_left ..) read).symm
  | case3 n s some byte bytes s' read more s'' rest ih =>
    rw [take_read_ok (by omega) (by omega) read, ← ih, rest]
  | case4 n s some byte bytes s' read e s'' rest ih =>
    rw [take_read_ok (by omega) (by omega) read, ← ih, rest]
  | case5 n s some e s' read again ih => rw [take_read_error (by omega) read, if_pos again, ih]
  | case6 n s some e s' read final => rw [take_read_error (by omega) read, if_neg final]

end Source

structure Paced where
  room : Nat → Source → Nat
  source : Source

instance : Supply Paced where
  size p := p.source.unread.length
  take n p := ((p.source.gather p.room n).1, { p with source := (p.source.gather p.room n).2 })
  size_take n p got p' h := by
    obtain ⟨taken, rfl⟩ := Prod.mk.inj h
    rw [Source.gather_eq_take] at taken ⊢
    exact Source.length_unread_take (Prod.ext taken rfl)

inductive Course where
  | whole (data : Bytes)
  | broken (data : Bytes) (e : IoError) (rest : Course)

namespace Course

def unread : Course → Bytes
  | whole data => data
  | broken data _ rest => data ++ rest.unread

def failures : Course → List IoError
  | whole _ => []
  | broken _ e rest => e :: rest.failures

def prepend (bytes : Bytes) : Course → Course
  | whole data => whole (bytes ++ data)
  | broken data e rest => broken (bytes ++ data) e rest

-- A failure is met only by whoever wants more than the data before it.
def take (n : Nat) : Course → Except IoError Bytes × Course
  | whole data => (.ok (data.take n), whole (data.drop n))
  | broken data e rest =>
    if n ≤ data.length then (.ok (data.take n), broken (data.drop n) e rest) else (.error e, rest)

theorem take_zero (c : Course) : c.take 0 = (.ok [], c) := by
  cases c <;> simp [take]

theorem length_unread_take {n : Nat} {c c' : Course} {got : Bytes} (h : take n c = (.ok got, c')) :
    c'.unread.length + got.length = c.unread.length := by
  cases c with
  | whole data =>
    cases h
    simp only [unread, List.length_drop, List.length_take]
    omega
  | broken data e rest =>
    simp only [take] at h
    split at h <;> cases h
    simp only [unread, List.length_append, List.length_drop, List.length_take]
    omega

theorem unread_prepend (bytes : Bytes) (c : Course) : (c.prepend bytes).unread = bytes ++ c.unread := by
  cases c <;> simp [prepend, unread]

theorem take_prepend (n : Nat) (bytes : Bytes) (c : Course) :
    (c.prepend bytes).take n =
      if n ≤ bytes.length then (.ok (bytes.take n), c.prepend (bytes.drop n))
      else
        match c.take (n - bytes.length) with
        | (.ok more, c) => (.ok (bytes ++ more), c)
        | (.error e, c) => (.error e, c) := by
  cases c with
  | whole data =>
    split
    · rename_i enough
      simp [prepend, take, List.take_append_of_le_length enough, List.drop_append_of_le_length enough]
    · rename_i more
      obtain ⟨m, rfl⟩ := Nat.exists_eq_add_of_le (Nat.le_of_not_le more)
      simp [prepend, take, List.take_length_add_append]
  | broken data e rest =>
    split
    · rename_i enough
      have fits : n ≤ bytes.length + data.length := by omega
      simp [prepend, take, fits, List.take_append_of_le_length enough, List.drop_append_of_le_length enough]
    · rename_i more
      obtain ⟨m, rfl⟩ := Nat.exists_eq_add_of_le (Nat.le_of_not_le more)
      by_cases fits : m ≤ data.length <;> simp [prepend, take, fits, List.take_length_add_append]

end Course

instance : Supply Course where
  size c := c.unread.length
  take := Course.take
  size_take _ _ _ _ := Course.length_unread_take

namespace Source

def course : Source → Course
  | [] => .whole []
  | .data bytes :: rest => (course rest).prepend bytes
  | .failure e :: rest => if e.isInterrupted then course rest else .broken [] e (course rest)

theorem unread_course (s : Source) : s.course.unread = s.unread := by
  induction s with
  | nil => rfl
  | cons d rest ih =>
    cases d with
    | data bytes => rw [course, Course.unread_prepend, unread, ih]
    | failure e =>
      rw [course, unread, ← ih]
      split <;> rfl

theorem take_course (n : Nat) (s : Source) : s.course.take n = ((s.take n).1, (s.take n).2.course) := by
  induction s generalizing n with
  | nil => simp [course, Course.take, take]
  | cons d rest ih =>
    cases d with
    | data bytes =>
      rw [course, Course.take_prepend, take, ih]
      split
      · rfl
      · cases take (n - bytes.length) rest with
        | mk result s => cases result <;> rfl
    | failure e =>
      by_cases some : n = 0
      · subst some
        rw [take_zero, Course.take_zero]
      · simp only [course, take, if_neg some]
        split
        · exact ih n
        · have more : ¬n ≤ 0 := by omega
          simp [Course.take, more]

end Source
end FramedRpc
