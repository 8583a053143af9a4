import FramedRpc.Frame.Deframer

namespace FramedRpc

-- A size that a section asks for in view of the bytes seen so far: more bytes never ask for less, and a
-- section that has what it asks for asks for no more.
structure Sizing (size : Bytes → Nat) : Prop where
  grows : ∀ seen more, size seen ≤ size (seen ++ more)
  settles : ∀ seen more, size seen ≤ seen.length → size (seen ++ more) = size seen

namespace Sizing

theorem constant (n : Nat) : Sizing fun _ => n :=
  ⟨fun _ _ => Nat.le_refl _, fun _ _ _ => rfl⟩

theorem lengthSize : Sizing Frame.lengthSize := by
  constructor
  · intro seen more
    cases seen with
    | nil =>
      cases more with
      | nil => exact Nat.le_refl _
      | cons first rest =>
        simp only [List.nil_append, Frame.lengthSize]
        split <;> omega
    | cons first rest => exact Nat.le_refl _
  · intro seen more enough
    cases seen with
    | nil => simp [Frame.lengthSize] at enough
    | cons first rest => rfl

theorem idWidth_append {seen : Bytes} (some : seen ≠ []) (more : Bytes) :
    Frame.idWidth (seen ++ more) = Frame.idWidth seen := by
  cases seen with
  | nil => exact absurd rfl some
  | cons first rest => rfl

theorem idWidth_pos (seen : Bytes) : 2 ≤ Frame.idWidth seen := by
  unfold Frame.idWidth
  split
  · split
    · omega
    · split <;> omega
  · exact Nat.le_refl _

theorem idWidth_le (seen : Bytes) : Frame.idWidth seen ≤ 4 := by
  unfold Frame.idWidth
  split
  · split
    · exact Nat.le_refl _
    · split <;> decide
  · decide

theorem fieldsSize_bounds (seen : Bytes) :
    Frame.idWidth seen + 1 ≤ Frame.fieldsSize seen ∧ Frame.fieldsSize seen ≤ Frame.idWidth seen + 2 := by
  unfold Frame.fieldsSize
  split
  · split <;> omega
  · omega

theorem fieldsSize_append {seen : Bytes} (there : Frame.idWidth seen < seen.length) (more : Bytes) :
    Frame.fieldsSize (seen ++ more) = Frame.fieldsSize seen := by
  have some : seen ≠ [] := by
    intro none
    rw [none] at there
    exact Nat.not_lt_zero _ there
  unfold Frame.fieldsSize
  rw [idWidth_append some, List.drop_append_of_le_length (Nat.le_of_lt there)]
  cases rest : seen.drop (Frame.idWidth seen) with
  | nil =>
    have := List.drop_eq_nil_iff.mp rest
    omega
  | cons type tail => rfl

theorem fieldsSize : Sizing Frame.fieldsSize := by
  constructor
  · intro seen more
    by_cases there : Frame.idWidth seen < seen.length
    · exact Nat.le_of_eq (fieldsSize_append there more).symm
    · -- Without a type byte the size is as if it were not extended.
      have bare : Frame.fieldsSize seen = Frame.idWidth seen + 1 := by
        unfold Frame.fieldsSize
        rw [List.drop_eq_nil_iff.mpr (by omega)]
      have wide : Frame.idWidth seen ≤ Frame.idWidth (seen ++ more) := by
        cases seen with
        | nil => exact idWidth_pos _
        | cons first rest => exact Nat.le_refl _
      have := (fieldsSize_bounds (seen ++ more)).1
      omega
  · intro seen more enough
    have := (fieldsSize_bounds seen).1
    exact fieldsSize_append (by omega) more

variable {size : Bytes → Nat}

theorem completed (sizing : Sizing size) {held : Bytes} {byte : UInt8} (short : held.length < size held)
    (enough : size (held ++ [byte]) ≤ (held ++ [byte]).length) (rest : Bytes) :
    size (held ++ byte :: rest) = (held ++ [byte]).length := by
  have grown := sizing.grows held [byte]
  have settled := sizing.settles (held ++ [byte]) rest enough
  rw [List.append_assoc, List.singleton_append] at settled
  rw [settled]
  simp only [List.length_append, List.length_singleton] at *
  omega

theorem filled_le (sizing : Sizing size) {held : Bytes} (short : held.length < size held) (input : Bytes) :
    (held ++ input.take (size held - held.length)).length ≤
      size (held ++ input.take (size held - held.length)) := by
  have grown := sizing.grows held (input.take (size held - held.length))
  rw [List.length_append, List.length_take]
  omega

end Sizing

-- What bytes lead to, up to the first decision on a frame, with the bytes that are read from there on.
inductive Outcome where
  | pending (phase : Phase)
  | packet (p : Packet) (rest : Bytes)
  | fault (fault : Fault) (rest : Bytes)

namespace Phase

def follow (limit : Nat) (phase : Phase) : Bytes → Outcome
  | [] => .pending phase
  | byte :: rest =>
    match phase.accept limit byte with
    | .more phase => follow limit phase rest
    | .packet p => .packet p rest
    | .fault fault again => .fault fault (again ++ rest)

def resume (limit : Nat) (rest : Bytes) : Verdict → Outcome
  | .more phase => phase.follow limit rest
  | .packet p => .packet p rest
  | .fault fault again => .fault fault (again ++ rest)

theorem follow_cons (limit : Nat) (phase : Phase) (byte : UInt8) (rest : Bytes) :
    phase.follow limit (byte :: rest) = resume limit rest (phase.accept limit byte) := by
  rw [follow]
  cases phase.accept limit byte <;> rfl

-- One statement for the sections that only differ in their size and in the verdict at their end.
theorem follow_section {limit : Nat} {size : Bytes → Nat} (sizing : Sizing size) (filling : Bytes → Phase)
    (verdict : Bytes → Verdict)
    (step : ∀ held byte, (filling held).accept limit byte =
      if (held ++ [byte]).length < size (held ++ [byte]) then .more (filling (held ++ [byte]))
      else verdict (held ++ [byte]))
    {held : Bytes} (short : held.length < size held) (bytes : Bytes) :
    (filling held).follow limit bytes =
      if (held ++ bytes).length < size (held ++ bytes) then .pending (filling (held ++ bytes))
      else resume limit ((held ++ bytes).drop (size (held ++ bytes)))
        (verdict ((held ++ bytes).take (size (held ++ bytes)))) := by
  induction bytes generalizing held with
  | nil =>
    rw [List.append_nil, if_pos short]
    rfl
  | cons byte rest ih =>
    rw [follow_cons, step]
    by_cases more : (held ++ [byte]).length < size (held ++ [byte])
    · rw [if_pos more]
      have later := ih more
      rw [List.append_assoc, List.singleton_append] at later
      exact later
    · rw [if_neg more]
      have reached := sizing.completed short (Nat.le_of_not_lt more) rest
      have whole : held ++ byte :: rest = (held ++ [byte]) ++ rest := by simp
      rw [reached, if_neg (by rw [whole, List.length_append]; omega), whole, List.take_left, List.drop_left]

theorem follow_length (limit : Nat) (bytes : Bytes) :
    (length []).follow limit bytes =
      if bytes.length < Frame.lengthSize bytes then .pending (length bytes)
      else resume limit (bytes.drop (Frame.lengthSize bytes))
        (afterLength limit (bytes.take (Frame.lengthSize bytes))) :=
  follow_section Sizing.lengthSize length (afterLength limit) (fun _ _ => rfl) (by decide) bytes

theorem follow_fields (limit : Nat) (lengthBytes : Bytes) (contentLength : Nat) (bytes : Bytes) :
    (fields lengthBytes contentLength []).follow limit bytes =
      if bytes.length < Frame.fieldsSize bytes then .pending (fields lengthBytes contentLength bytes)
      else resume limit (bytes.drop (Frame.fieldsSize bytes))
        (afterFields lengthBytes (bytes.take (Frame.fieldsSize bytes)) contentLength) :=
  follow_section Sizing.fieldsSize (fields lengthBytes contentLength)
    (fun held => afterFields lengthBytes held contentLength) (fun _ _ => rfl) (by decide) bytes

theorem follow_crc (limit : Nat) (lengthBytes fieldBytes contentBytes : Bytes) (register : UInt32)
    (bytes : Bytes) :
    (crc lengthBytes fieldBytes contentBytes register []).follow limit bytes =
      if bytes.length < Frame.crcSize then .pending (crc lengthBytes fieldBytes contentBytes register bytes)
      else resume limit (bytes.drop Frame.crcSize)
        (afterCrc lengthBytes fieldBytes contentBytes register (bytes.take Frame.crcSize)) :=
  follow_section (Sizing.constant _) (crc lengthBytes fieldBytes contentBytes register)
    (afterCrc lengthBytes fieldBytes contentBytes register) (fun _ _ => rfl) (by decide) bytes

-- The content is kept newest byte first, so its section has a statement of its own.
theorem follow_content (limit : Nat) (lengthBytes fieldBytes : Bytes) (register : UInt32) {missing : Nat}
    (some : 0 < missing) (newest bytes : Bytes) :
    (content lengthBytes fieldBytes register newest missing).follow limit bytes =
      if bytes.length < missing then
        .pending (content lengthBytes fieldBytes register (bytes.reverse ++ newest) (missing - bytes.length))
      else
        let contentBytes := newest.reverse ++ bytes.take missing
        (crc lengthBytes fieldBytes contentBytes (Crc32.updateAll register contentBytes) []).follow limit
          (bytes.drop missing) := by
  induction bytes generalizing newest missing with
  | nil =>
    rw [if_pos (by exact some)]
    rfl
  | cons byte rest ih =>
    rw [follow_cons]
    by_cases last : missing ≤ 1
    · have one : missing = 1 := by omega
      subst one
      simp [accept, resume]
    · obtain ⟨less, rfl⟩ : ∃ less, missing = less + 1 := ⟨missing - 1, by omega⟩
      have left : 0 < less := by omega
      have later := ih left (byte :: newest)
      simp only [accept, if_neg last, resume, Nat.add_sub_cancel, later]
      by_cases more : rest.length < less
      · rw [if_pos more, if_pos (by simpa using more)]
        simp
      · rw [if_neg more, if_neg (by simpa using more)]
        simp

end Phase

namespace Deframer

def proceed (d : Deframer) (rest : Bytes) : Verdict → Deframer × List Packet
  | .more phase => { d with phase }.feed rest
  | .packet p => ((d.emitted.feed rest).1, p :: (d.emitted.feed rest).2)
  | .fault fault again => (d.faulted fault).feed (again ++ rest)

theorem feed_cons (d : Deframer) (byte : UInt8) (rest : Bytes) :
    d.feed (byte :: rest) = d.proceed rest (d.phase.accept d.limit byte) := by
  rw [feed]
  split <;> rename_i step <;> rw [step] <;> rfl

def settle (d : Deframer) : Outcome → Deframer × List Packet
  | .pending phase => ({ d with phase }, [])
  | .packet p rest => ((d.emitted.feed rest).1, p :: (d.emitted.feed rest).2)
  | .fault fault rest => (d.faulted fault).feed rest

theorem feed_follow (d : Deframer) (bytes : Bytes) :
    d.feed bytes = d.settle (d.phase.follow d.limit bytes) := by
  induction bytes generalizing d with
  | nil => rw [feed]; rfl
  | cons byte rest ih =>
    rw [feed_cons, Phase.follow]
    cases d.phase.accept d.limit byte with
    | more phase => exact ih { d with phase }
    | packet p => rfl
    | fault fault again => rfl

theorem limit_feed (d : Deframer) (bytes : Bytes) : (d.feed bytes).1.limit = d.limit := by
  fun_induction feed d bytes with
  | case1 => rfl
  | case2 d byte rest phase step ih => exact ih
  | case3 d byte rest p step after packets fed ih =>
    rw [fed] at ih
    exact ih
  | case4 d byte rest fault again step ih => exact ih

end Deframer
end FramedRpc
