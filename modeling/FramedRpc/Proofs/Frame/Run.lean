import FramedRpc.Frame.Rounds
import FramedRpc.Proofs.Frame.Chunks
import FramedRpc.Proofs.Frame.Reached

namespace FramedRpc

namespace Phase

-- A section filled from what there is, and either still short or complete: in both cases what follows is as
-- if its bytes had come one by one.
theorem follow_fill {limit : Nat} {size : Bytes → Nat} (sizing : Sizing size) (filling : Bytes → Phase)
    (verdict : Bytes → Verdict)
    (step : ∀ held byte, (filling held).accept limit byte =
      if (held ++ [byte]).length < size (held ++ [byte]) then .more (filling (held ++ [byte]))
      else verdict (held ++ [byte]))
    {held : Bytes} (short : held.length < size held) (input : Bytes) :
    (filling held).follow limit input =
      resume limit (input.drop (size held - held.length))
        (if (held ++ input.take (size held - held.length)).length <
            size (held ++ input.take (size held - held.length))
          then .more (filling (held ++ input.take (size held - held.length)))
          else verdict (held ++ input.take (size held - held.length))) := by
  have whole : (held ++ input.take (size held - held.length)) ++ input.drop (size held - held.length) =
      held ++ input := by
    rw [List.append_assoc, List.take_append_drop]
  have atMost := sizing.filled_le short input
  rw [follow_section sizing filling verdict step short]
  generalize held ++ input.take (size held - held.length) = filled at *
  by_cases still : filled.length < size filled
  · rw [if_pos still, resume, follow_section sizing filling verdict step still, whole]
  · have settled := sizing.settles filled (input.drop (size held - held.length)) (Nat.le_of_not_lt still)
    have full : size filled = filled.length := by omega
    rw [whole] at settled
    rw [if_neg still, settled, full, ← whole, List.take_left, List.drop_left, List.length_append,
      if_neg (by omega)]

theorem follow_round {limit : Nat} {phase : Phase} (lacking : phase.Lacking) {input : Bytes}
    (unread : input ≠ []) :
    phase.follow limit input = resume limit (phase.round limit input).2 (phase.round limit input).1 := by
  cases phase with
  | seeking sawFirst =>
    cases input with
    | nil => exact absurd rfl unread
    | cons byte rest => exact follow_cons limit _ byte rest
  | length held => exact follow_fill Sizing.lengthSize length (afterLength limit) (fun _ _ => rfl) lacking input
  | fields lengthBytes contentLength held =>
    exact follow_fill Sizing.fieldsSize (fields lengthBytes contentLength)
      (fun held => afterFields lengthBytes held contentLength) (fun _ _ => rfl) lacking input
  | content lengthBytes fieldBytes register newest missing =>
    rw [follow_content _ _ _ _ lacking, round]
    by_cases more : input.length < missing
    · have all : input.take missing = input := List.take_of_length_le (Nat.le_of_lt more)
      have none : input.drop missing = [] := List.drop_eq_nil_of_le (Nat.le_of_lt more)
      simp only [if_pos more, all, none]
      rfl
    · simp only [if_neg more, resume, List.reverse_append, List.reverse_reverse]
  | crc lengthBytes fieldBytes contentBytes register held =>
    exact follow_fill (Sizing.constant _) (crc lengthBytes fieldBytes contentBytes register)
      (afterCrc lengthBytes fieldBytes contentBytes register) (fun _ _ => rfl) lacking input

theorem round_lacking {limit : Nat} {phase next : Phase} {input rest : Bytes}
    (step : phase.round limit input = (.more next, rest)) : next.Lacking := by
  have decided : (phase.round limit input).1 = .more next := congrArg Prod.fst step
  cases phase with
  | seeking sawFirst =>
    cases input with
    | nil =>
      cases decided
      trivial
    | cons byte tail =>
      have accepted : (seeking sawFirst).accept limit byte = .more next := decided
      exact accept_lacking accepted
  | length held => exact lacking_of_section decided id afterLength_lacking
  | fields lengthBytes contentLength held => exact lacking_of_section decided id afterFields_lacking
  | content lengthBytes fieldBytes register newest missing =>
    refine lacking_of_section decided Nat.sub_pos_of_lt ?_
    intro complete
    cases complete
    exact (by decide : 0 < Frame.crcSize)
  | crc lengthBytes fieldBytes contentBytes register held =>
    exact lacking_of_section decided id fun complete => absurd complete afterCrc_not_more

theorem round_takes (limit : Nat) {phase : Phase} (lacking : phase.Lacking) {input : Bytes}
    (unread : input ≠ []) : (phase.round limit input).2.length < input.length := by
  have positive : 0 < input.length := List.length_pos_iff.mpr unread
  cases phase with
  | seeking sawFirst =>
    cases input with
    | nil => exact absurd rfl unread
    | cons byte tail => exact Nat.lt_succ_self _
  | length held | fields lengthBytes contentLength held | content lengthBytes fieldBytes register newest missing
  | crc lengthBytes fieldBytes contentBytes register held =>
    simp only [Lacking] at lacking
    simp only [round, List.length_drop]
    omega

end Phase

-- What a verdict leaves of the stream; a fault leaves its magic pair behind.
def Verdict.weight : Verdict → Nat
  | .more phase => phase.weight
  | .packet _ => 0
  | .fault _ again => again.length + 2

namespace Phase

theorem weight_afterLength (limit : Nat) (lengthBytes : Bytes) :
    (afterLength limit lengthBytes).weight ≤ lengthBytes.length + 2 := by
  unfold afterLength
  split
  · split <;> simp [Verdict.weight, weight, held]
  · exact Nat.le_refl _

theorem weight_afterFields (lengthBytes fieldBytes : Bytes) (contentLength : Nat) :
    (afterFields lengthBytes fieldBytes contentLength).weight ≤ lengthBytes.length + fieldBytes.length + 2 := by
  simp only [afterFields]
  split
  · simp [Verdict.weight]
  · split <;> simp [Verdict.weight, weight, held]

theorem weight_afterCrc (lengthBytes fieldBytes contentBytes : Bytes) (register : UInt32) (held : Bytes) :
    (afterCrc lengthBytes fieldBytes contentBytes register held).weight ≤
      lengthBytes.length + fieldBytes.length + contentBytes.length + held.length + 2 := by
  simp only [afterCrc]
  split
  · cases Frame.decodeContent contentBytes with
    | error e =>
      simp only [Verdict.weight, List.length_append]
      omega
    | ok v => exact Nat.zero_le _
  · simp only [Verdict.weight, List.length_append]
    omega

theorem weight_fill (filling : Bytes → Phase) (verdict : Bytes → Verdict) {before : Nat}
    (weighs : ∀ held, (filling held).weight = before + held.length + 2)
    (decides : ∀ held, (verdict held).weight ≤ before + held.length + 2) {short : Prop} {_ : Decidable short}
    (held input : Bytes) (taken : Nat) :
    (if short then Verdict.more (filling (held ++ input.take taken))
        else verdict (held ++ input.take taken)).weight + (input.drop taken).length ≤
      (filling held).weight + input.length := by
  have moved : (held ++ input.take taken).length + (input.drop taken).length = held.length + input.length := by
    simp only [List.length_append, List.length_take, List.length_drop]
    omega
  have filled := weighs (held ++ input.take taken)
  have decided := decides (held ++ input.take taken)
  rw [weighs held]
  split
  · rw [Verdict.weight]
    omega
  · omega

theorem weight_round (limit : Nat) (phase : Phase) (input : Bytes) :
    (phase.round limit input).1.weight + (phase.round limit input).2.length ≤ phase.weight + input.length := by
  cases phase with
  | seeking sawFirst =>
    cases input with
    | nil => exact Nat.le_refl _
    | cons byte tail =>
      simp only [round, List.length_cons]
      split
      · rename_i pair
        simp [Verdict.weight, weight, held, pair.1]
        omega
      · have := Bool.toNat_le (decide (byte = 0x01))
        simp only [Verdict.weight, weight]
        omega
  | length held =>
    have weighs : ∀ held, (length held).weight = 0 + held.length + 2 := by simp [weight, Phase.held]
    refine weight_fill length (afterLength limit) weighs ?_ held input _
    intro held
    rw [Nat.zero_add]
    exact weight_afterLength limit held
  | fields lengthBytes contentLength held =>
    have weighs : ∀ held, (fields lengthBytes contentLength held).weight =
        lengthBytes.length + held.length + 2 := by simp [weight, Phase.held]
    exact weight_fill (fields lengthBytes contentLength) (fun held => afterFields lengthBytes held contentLength)
      weighs (fun held => weight_afterFields lengthBytes held contentLength) held input _
  | content lengthBytes fieldBytes register newest missing =>
    simp only [round, List.length_drop]
    split
    · simp only [Verdict.weight, weight, Phase.held, List.length_append, List.length_reverse, List.length_take]
      omega
    · simp only [Verdict.weight, weight, Phase.held, List.length_append, List.length_reverse, List.length_take,
        List.length_nil]
      omega
  | crc lengthBytes fieldBytes contentBytes register held =>
    have weighs : ∀ held, (crc lengthBytes fieldBytes contentBytes register held).weight =
        lengthBytes.length + fieldBytes.length + contentBytes.length + held.length + 2 := by
      intro held
      simp only [weight, Phase.held, List.length_append]
      omega
    exact weight_fill (crc lengthBytes fieldBytes contentBytes register)
      (afterCrc lengthBytes fieldBytes contentBytes register) weighs
      (weight_afterCrc lengthBytes fieldBytes contentBytes register) held input _

end Phase

theorem Deframer.feed_round {d : Deframer} (lacking : d.phase.Lacking) {input rest : Bytes} {v : Verdict}
    (unread : input ≠ []) (step : d.phase.round d.limit input = (v, rest)) :
    d.feed input = d.proceed rest v := by
  rw [feed_follow, Phase.follow_round lacking unread, step]
  cases v with
  | more phase =>
    have same : d.settle (phase.follow d.limit rest) = settle { d with phase } (phase.follow d.limit rest) := by
      cases phase.follow d.limit rest <;> rfl
    exact same.trans (feed_follow _ _).symm
  | packet p => rfl
  | fault fault again => rfl

namespace Runs

variable {d e : Deframer} {input : Bytes} {packets : List Packet}

theorem feed_eq {replay : Option Bytes} (run : Runs d input e packets replay) (lacking : d.phase.Lacking) :
    e.phase.Lacking ∧ d.feed input =
      ((e.feed (replay.getD [])).1, packets ++ (e.feed (replay.getD [])).2) := by
  induction run with
  | done => exact ⟨lacking, rfl⟩
  | more unread step later ih =>
    rw [Deframer.feed_round lacking unread step]
    exact ih (Phase.round_lacking step)
  | packet unread step later ih =>
    obtain ⟨ready, fed⟩ := ih trivial
    rw [Deframer.feed_round lacking unread step]
    refine ⟨ready, ?_⟩
    simp only [Deframer.proceed, fed, List.cons_append]
  | fault unread step =>
    rw [Deframer.feed_round lacking unread step]
    exact ⟨trivial, rfl⟩

theorem replay_less {replay : Bytes} (run : Runs d input e packets (some replay)) :
    e.phase.weight + replay.length < d.phase.weight + input.length := by
  generalize same : some replay = result at run
  induction run with
  | done => cases same
  | @more d e input rest phase packets result unread step later ih =>
    have kept := Phase.weight_round d.limit d.phase input
    have shorter : e.phase.weight + replay.length < phase.weight + rest.length := ih same
    simp only [step, Verdict.weight] at kept
    omega
  | @packet d e input rest p packets result unread step later ih =>
    have kept := Phase.weight_round d.limit d.phase input
    have shorter := ih same
    simp only [step, Verdict.weight] at kept
    have fresh : d.emitted.phase.weight = 0 := rfl
    omega
  | @fault d input rest again fault unread step =>
    cases same
    have kept := Phase.weight_round d.limit d.phase input
    simp only [step, Verdict.weight] at kept
    have fresh : (d.faulted fault).phase.weight = 0 := rfl
    rw [fresh, List.length_append]
    omega

theorem exists_run (lacking : d.phase.Lacking) (input : Bytes) :
    ∃ e packets replay, Runs d input e packets replay := by
  induction size : input.length using Nat.strongRecOn generalizing d input with
  | ind n ih =>
    subst size
    by_cases unread : input = []
    · subst unread
      exact ⟨d, [], none, .done⟩
    · have shorter := Phase.round_takes d.limit lacking unread
      cases step : d.phase.round d.limit input with
      | mk v rest =>
        rw [step] at shorter
        cases v with
        | more phase =>
          obtain ⟨e, packets, replay, later⟩ := ih rest.length shorter (d := { d with phase })
            (Phase.round_lacking step) rest rfl
          exact ⟨e, packets, replay, .more unread step later⟩
        | packet p =>
          obtain ⟨e, packets, replay, later⟩ := ih rest.length shorter (d := d.emitted) trivial rest rfl
          exact ⟨e, p :: packets, replay, .packet unread step later⟩
        | fault fault again => exact ⟨_, _, _, .fault unread step⟩

end Runs

namespace Drains

variable {d e : Deframer} {input : Bytes} {packets : List Packet}

theorem feed_eq (drains : Drains d input e packets) (lacking : d.phase.Lacking) :
    d.feed input = (e, packets) := by
  induction drains with
  | last run =>
    obtain ⟨-, fed⟩ := run.feed_eq lacking
    rw [fed, Option.getD_none, Deframer.feed, List.append_nil]
  | again run later ih =>
    obtain ⟨ready, fed⟩ := run.feed_eq lacking
    rw [fed, Option.getD_some, ih ready]

-- Each replay is shorter than what the run before it had, so there is a last run.
theorem exists_drain (lacking : d.phase.Lacking) (input : Bytes) : ∃ e packets, Drains d input e packets := by
  induction size : d.phase.weight + input.length using Nat.strongRecOn generalizing d input with
  | ind n ih =>
    subst size
    obtain ⟨e, packets, replay, run⟩ := Runs.exists_run lacking input
    cases replay with
    | none => exact ⟨e, packets, .last run⟩
    | some replay =>
      obtain ⟨ready, -⟩ := run.feed_eq lacking
      obtain ⟨f, more, later⟩ := ih _ run.replay_less ready replay rfl
      exact ⟨f, packets ++ more, .again run later⟩

theorem exact (lacking : d.phase.Lacking) : Drains d input e packets ↔ d.feed input = (e, packets) := by
  constructor
  · exact fun drains => drains.feed_eq lacking
  · intro fed
    obtain ⟨f, more, drains⟩ := exists_drain lacking input
    have other := drains.feed_eq lacking
    rw [fed] at other
    cases other
    exact drains

end Drains

-- Packets, counts and state depend on the bytes alone: a stream may come at once or in pieces, and its bytes
-- may be taken one by one or in bulk.
theorem Reached.feed_cut {d : Deframer} (reached : Reached d) :
    (∀ a b : Bytes, d.feed (a ++ b) = (((d.feed a).1.feed b).1, (d.feed a).2 ++ ((d.feed a).1.feed b).2)) ∧
      (∀ pieces : List Bytes, d.feedPieces pieces = d.feed pieces.flatten) ∧
      ∀ (bytes : Bytes) (e : Deframer) (packets : List Packet),
        Drains d bytes e packets ↔ d.feed bytes = (e, packets) :=
  ⟨d.feed_append, d.feedPieces_flatten, fun _ _ _ => Drains.exact reached.lacking⟩

-- A cut inside the length field, on a byte that is looked at again once the two lengths differ.
theorem feed_cut_in_length :
    let d := ((Deframer.new 4).feed [1, 7, 0]).1
    Reached d ∧ d.feed ([1, 7] ++ [0, 0, 0, 0]) =
      (((d.feed [1, 7]).1.feed [0, 0, 0, 0]).1,
        (d.feed [1, 7]).2 ++ ((d.feed [1, 7]).1.feed [0, 0, 0, 0]).2) := by
  have reached : Reached ((Deframer.new 4).feed [1, 7, 0]).1 := .feed (.new 4) _
  exact ⟨reached, reached.feed_cut.1 _ _⟩

end FramedRpc
