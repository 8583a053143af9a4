import FramedRpc.Proofs.Frame.Run
import FramedRpc.Proofs.Frame.Scanner

namespace FramedRpc

namespace Frame

structure Measured (bound : Nat) (lengthBytes : Bytes) (n : Nat) : Prop where
  complete : lengthBytes.length = lengthSize lengthBytes
  agrees : readLength? lengthBytes = some n
  small : n ≤ bound

structure Fielded (fieldBytes : Bytes) : Prop where
  complete : fieldBytes.length = fieldsSize fieldBytes
  answers : ¬((readFields fieldBytes).isResponse ∧ (readFields fieldBytes).requestId = 0)

theorem lengthSize_range (seen : Bytes) : 4 ≤ lengthSize seen ∧ lengthSize seen ≤ 8 := by
  unfold lengthSize
  split
  · split <;> omega
  · omega

theorem fieldsSize_range (seen : Bytes) : 3 ≤ fieldsSize seen ∧ fieldsSize seen ≤ 6 := by
  have least := Sizing.idWidth_pos seen
  have most := Sizing.idWidth_le seen
  have bounds := Sizing.fieldsSize_bounds seen
  omega

def lookUp? (n : Nat) (bytes : Bytes) : Option Bytes := (List.range n).mapM fun i => bytes[i]?

def lookUpFields? (fieldBytes : Bytes) : Option Fields := do
  let width := idWidth fieldBytes
  let id ← lookUp? width fieldBytes
  let lead ← fieldBytes[width]?
  let typeId ←
    if isExtended lead then (fieldBytes[width + 1]?).map fun next => lead.toNat % 64 * 256 + next.toNat
    else some (lead.toNat % 64)
  return ⟨0x80 ≤ lead, typeId, Bytes.ofBigEndian id % 2 ^ idBits width⟩

theorem lookUp?_eq {n : Nat} {bytes : Bytes} (enough : n ≤ bytes.length) : lookUp? n bytes = some (bytes.take n) := by
  induction n with
  | zero => rfl
  | succ n ih =>
    have prior : (List.range n).mapM (fun i => bytes[i]?) = some (bytes.take n) := ih (Nat.le_of_succ_le enough)
    have last : bytes[n]? = some bytes[n] := List.getElem?_eq_getElem enough
    unfold lookUp?
    rw [List.range_succ, List.mapM_append, prior, List.take_succ_eq_append_getElem enough]
    simp [last]

theorem lookUpFields?_eq {fieldBytes : Bytes} (complete : fieldBytes.length = fieldsSize fieldBytes) :
    lookUpFields? fieldBytes = some (readFields fieldBytes) := by
  have bounds := Sizing.fieldsSize_bounds fieldBytes
  have there : idWidth fieldBytes < fieldBytes.length := by omega
  have lead : fieldBytes[idWidth fieldBytes]? = some (fieldBytes.getD (idWidth fieldBytes) 0) := by
    rw [List.getD_eq_getElem?_getD, List.getElem?_eq_getElem there]
    rfl
  have next : isExtended (fieldBytes.getD (idWidth fieldBytes) 0) →
      fieldBytes[idWidth fieldBytes + 1]? = some (fieldBytes.getD (idWidth fieldBytes + 1) 0) := by
    intro extended
    have size : fieldsSize fieldBytes = idWidth fieldBytes + 2 := by
      unfold fieldsSize
      rw [List.drop_eq_getElem_cons there]
      rw [List.getD_eq_getElem?_getD, List.getElem?_eq_getElem there] at extended
      exact if_pos extended
    have after : idWidth fieldBytes + 1 < fieldBytes.length := by omega
    rw [List.getD_eq_getElem?_getD, List.getElem?_eq_getElem after]
    rfl
  unfold lookUpFields? readFields
  simp only [lookUp?_eq (Nat.le_of_lt there), lead, Option.bind_eq_bind, Option.bind_some]
  split
  · rename_i extended
    rw [next extended]
    rfl
  · rfl

end Frame

namespace Phase

inductive Formed (bound : Nat) : Phase → Prop where
  | seeking (sawFirst : Bool) : Formed bound (seeking sawFirst)
  | length {held : Bytes} (short : held.length < Frame.lengthSize held) : Formed bound (length held)
  | fields {lengthBytes held : Bytes} {n : Nat} (measured : Frame.Measured bound lengthBytes n)
      (short : held.length < Frame.fieldsSize held) : Formed bound (fields lengthBytes n held)
  | content {lengthBytes fieldBytes newest : Bytes} {register : UInt32} {missing : Nat}
      (measured : Frame.Measured bound lengthBytes (newest.length + missing)) (fielded : Frame.Fielded fieldBytes)
      (covers : register = Crc32.updateAll Crc32.start fieldBytes) (short : 0 < missing) :
      Formed bound (content lengthBytes fieldBytes register newest missing)
  | crc {lengthBytes fieldBytes contentBytes held : Bytes} {register : UInt32}
      (measured : Frame.Measured bound lengthBytes contentBytes.length) (fielded : Frame.Fielded fieldBytes)
      (covers : register = Crc32.updateAll (Crc32.updateAll Crc32.start fieldBytes) contentBytes)
      (short : held.length < Frame.crcSize) :
      Formed bound (crc lengthBytes fieldBytes contentBytes register held)

theorem Formed.lacking {bound : Nat} {phase : Phase} (formed : phase.Formed bound) : phase.Lacking := by
  cases formed with
  | seeking sawFirst => trivial
  | length short | fields _ short | content _ _ _ short | crc _ _ _ short => exact short

theorem Formed.held_le {bound : Nat} {phase : Phase} (formed : phase.Formed bound) :
    phase.held.length ≤ bound + 17 := by
  cases formed with
  | seeking sawFirst => exact Nat.zero_le _
  | @length held short =>
    have size := (Frame.lengthSize_range held).2
    simp only [Phase.held]
    omega
  | @fields lengthBytes held n measured short =>
    have size := (Frame.fieldsSize_range held).2
    have complete := measured.complete
    have before := (Frame.lengthSize_range lengthBytes).2
    simp only [Phase.held, List.length_append]
    omega
  | @content lengthBytes fieldBytes newest register missing measured fielded covers short =>
    have complete := measured.complete
    have before := (Frame.lengthSize_range lengthBytes).2
    have size := fielded.complete
    have fields := (Frame.fieldsSize_range fieldBytes).2
    have small := measured.small
    simp only [Phase.held, List.length_append, List.length_reverse]
    omega
  | @crc lengthBytes fieldBytes contentBytes held register measured fielded covers short =>
    have complete := measured.complete
    have before := (Frame.lengthSize_range lengthBytes).2
    have size := fielded.complete
    have fields := (Frame.fieldsSize_range fieldBytes).2
    have small := measured.small
    simp only [Phase.held, List.length_append]
    unfold Frame.crcSize at short
    omega

section
variable {bound limit : Nat}

theorem afterLength_formed (small : limit ≤ bound) {lengthBytes : Bytes}
    (complete : lengthBytes.length = Frame.lengthSize lengthBytes) {next : Phase}
    (step : afterLength limit lengthBytes = .more next) : next.Formed bound := by
  unfold afterLength at step
  split at step
  · rename_i agrees
    split at step
    · rename_i within
      cases step
      exact .fields ⟨complete, agrees, Nat.le_trans within small⟩ (by decide)
    · cases step
  · cases step

theorem afterFields_formed {lengthBytes fieldBytes : Bytes} {n : Nat}
    (measured : Frame.Measured bound lengthBytes n) (complete : fieldBytes.length = Frame.fieldsSize fieldBytes)
    {next : Phase} (step : afterFields lengthBytes fieldBytes n = .more next) : next.Formed bound := by
  simp only [afterFields] at step
  split at step
  · cases step
  · rename_i answers
    split at step
    · rename_i none
      cases step
      subst none
      exact .crc measured ⟨complete, answers⟩ rfl (by decide)
    · rename_i some
      cases step
      refine .content ?_ ⟨complete, answers⟩ rfl (Nat.pos_of_ne_zero some)
      rw [List.length_nil, Nat.zero_add]
      exact measured

theorem round_formed (small : limit ≤ bound) {phase next : Phase} (formed : phase.Formed bound) {input rest : Bytes}
    (step : phase.round limit input = (.more next, rest)) : next.Formed bound := by
  have decided : (phase.round limit input).1 = .more next := congrArg Prod.fst step
  cases formed with
  | seeking sawFirst =>
    cases input with
    | nil =>
      cases decided
      exact .seeking sawFirst
    | cons byte tail =>
      simp only [round] at decided
      split at decided <;> cases decided
      · exact .length (by decide)
      · exact .seeking _
  | length short =>
    have filled := Sizing.lengthSize.filled_le short input
    simp only [round] at decided
    split at decided
    · rename_i still
      cases decided
      exact .length still
    · exact afterLength_formed small (by omega) decided
  | fields measured short =>
    have filled := Sizing.fieldsSize.filled_le short input
    simp only [round] at decided
    split at decided
    · rename_i still
      cases decided
      exact .fields measured still
    · exact afterFields_formed measured (by omega) decided
  | @content lengthBytes fieldBytes newest register missing measured fielded covers short =>
    simp only [round] at decided
    split at decided
    · rename_i still
      cases decided
      refine .content ?_ fielded covers (Nat.sub_pos_of_lt still)
      rw [List.length_append, List.length_reverse, List.length_take]
      have same : min missing input.length + newest.length + (missing - input.length) =
          newest.length + missing := by omega
      rw [same]
      exact measured
    · rename_i enough
      cases decided
      refine .crc ?_ fielded (by rw [covers]) (by decide)
      rw [List.length_reverse, List.length_append, List.length_reverse, List.length_take]
      have same : min missing input.length + newest.length = newest.length + missing := by omega
      rw [same]
      exact measured
  | crc measured fielded covers short =>
    simp only [round] at decided
    split at decided
    · rename_i still
      cases decided
      exact .crc measured fielded covers still
    · exact absurd decided afterCrc_not_more

end

-- A round in which every byte of the fields and of the checksum is looked up; nothing if one is not there.
def roundAt? (limit : Nat) (phase : Phase) (input : Bytes) : Option (Verdict × Bytes) :=
  match phase with
  | fields lengthBytes contentLength held => do
    let taken := Frame.fieldsSize held - held.length
    let held := held ++ input.take taken
    let rest := input.drop taken
    if held.length < Frame.fieldsSize held then return (.more (fields lengthBytes contentLength held), rest)
    let read ← Frame.lookUpFields? held
    if read.isResponse ∧ read.requestId = 0 then return (.fault .range (lengthBytes ++ held), rest)
    let register := Crc32.updateAll Crc32.start held
    if contentLength = 0 then return (.more (crc lengthBytes held [] register []), rest)
    return (.more (content lengthBytes held register [] contentLength), rest)
  | crc lengthBytes fieldBytes contentBytes register held => do
    let taken := Frame.crcSize - held.length
    let held := held ++ input.take taken
    let rest := input.drop taken
    if held.length < Frame.crcSize then return (.more (crc lengthBytes fieldBytes contentBytes register held), rest)
    let again := lengthBytes ++ (fieldBytes ++ (contentBytes ++ held))
    let checksum ← Frame.lookUp? Frame.crcSize held
    if Bytes.ofLittleEndian checksum ≠ (Crc32.finish register).toNat then return (.fault .crc again, rest)
    match Frame.decodeContent contentBytes with
    | .error _ => return (.fault .decode again, rest)
    | .ok v =>
      let read ← Frame.lookUpFields? fieldBytes
      return (.packet ⟨read.isResponse, read.typeId, read.requestId, v⟩, rest)
  | _ => some (phase.round limit input)

theorem Formed.roundAt?_eq {bound : Nat} {phase : Phase} (formed : phase.Formed bound) (limit : Nat) (input : Bytes) :
    phase.roundAt? limit input = some (phase.round limit input) := by
  cases formed with
  | seeking sawFirst | length short | content measured fielded covers short => rfl
  | fields measured short =>
    have filled := Sizing.fieldsSize.filled_le short input
    simp only [roundAt?, round, afterFields]
    split
    · rfl
    · rw [Frame.lookUpFields?_eq (by omega)]
      simp only [Option.bind_eq_bind, Option.bind_some]
      split
      · rfl
      · split <;> rfl
  | @crc lengthBytes fieldBytes contentBytes held register measured fielded covers short =>
    have filled := (Sizing.constant Frame.crcSize).filled_le short input
    simp only [roundAt?, round, afterCrc]
    split
    · rfl
    · rename_i full
      rw [Frame.lookUp?_eq (by omega), List.take_of_length_le filled, Frame.lookUpFields?_eq fielded.complete]
      simp only [Option.bind_eq_bind, Option.bind_some, ne_eq, ite_not]
      split
      · cases Frame.decodeContent contentBytes <;> rfl
      · rfl

end Phase

namespace Deframer

def advance (d : Deframer) : Verdict → Deframer
  | .more phase => { d with phase }
  | .packet _ => d.emitted
  | .fault fault _ => d.faulted fault

inductive Midway : Deframer → Deframer → Prop where
  | here (d : Deframer) : Midway d d
  | round {d e : Deframer} (prior : Midway d e) (input : Bytes) :
      Midway d (e.advance (e.phase.round e.limit input).1)

-- What is true of a deframer that never had a larger limit.
structure Consistent (bound : Nat) (d : Deframer) : Prop where
  formed : d.phase.Formed bound
  limited : d.limit ≤ bound
  idle : d.isIdle → d.buffered = 0
  counted : d.stats.resyncs =
    d.stats.crcFailures + d.stats.decodeFailures + d.stats.rangeFailures + d.stats.lengthFailures
  bounded : d.buffered ≤ bound + 17
  readable : ∀ input, d.phase.roundAt? d.limit input = some (d.phase.round d.limit input)

variable {bound : Nat} {d e : Deframer}

theorem consistent_of_formed (formed : d.phase.Formed bound) (limited : d.limit ≤ bound)
    (counted : d.stats.resyncs =
      d.stats.crcFailures + d.stats.decodeFailures + d.stats.rangeFailures + d.stats.lengthFailures) :
    d.Consistent bound where
  formed := formed
  limited := limited
  idle := buffered_idle
  counted := counted
  bounded := formed.held_le
  readable := formed.roundAt?_eq d.limit

theorem Consistent.advance (consistent : d.Consistent bound) (input : Bytes) :
    (d.advance (d.phase.round d.limit input).1).Consistent bound := by
  cases step : d.phase.round d.limit input with
  | mk v rest =>
    cases v with
    | more phase =>
      exact consistent_of_formed (Phase.round_formed consistent.limited consistent.formed step) consistent.limited
        consistent.counted
    | packet p => exact consistent_of_formed (.seeking false) consistent.limited consistent.counted
    | fault fault again =>
      refine consistent_of_formed (.seeking false) consistent.limited ?_
      have counted := consistent.counted
      cases fault <;> simp only [Deframer.advance, faulted, Stats.faulted] <;> omega

theorem Consistent.midway (consistent : d.Consistent bound) (midway : Midway d e) : e.Consistent bound := by
  induction midway with
  | here => exact consistent
  | round prior input ih => exact ih.advance input

end Deframer

theorem Runs.midway {d e : Deframer} {input : Bytes} {packets : List Packet} {replay : Option Bytes}
    (run : Runs d input e packets replay) {start : Deframer} (before : Deframer.Midway start d) :
    Deframer.Midway start e := by
  induction run with
  | done => exact before
  | @more d e input rest phase packets replay unread step later ih =>
    have after := before.round input
    rw [step] at after
    exact ih after
  | @packet d e input rest p packets replay unread step later ih =>
    have after := before.round input
    rw [step] at after
    exact ih after
  | @fault d input rest again fault unread step =>
    have after := before.round input
    rw [step] at after
    exact after

theorem Drains.midway {d e : Deframer} {input : Bytes} {packets : List Packet} (drains : Drains d input e packets)
    {start : Deframer} (before : Deframer.Midway start d) : Deframer.Midway start e := by
  induction drains with
  | last run => exact run.midway before
  | again run later ih => exact ih (run.midway before)

namespace Deframer

variable {bound : Nat} {d : Deframer}

theorem midway_feed (lacking : d.phase.Lacking) (bytes : Bytes) : Midway d (d.feed bytes).1 :=
  ((Drains.exact lacking).mpr rfl).midway (.here d)

theorem largest_perform (d : Deframer) (operation : Operation) (later : List Operation) :
    largest (d.perform operation).limit later ≤ largest d.limit (operation :: later) := by
  cases operation with
  | feed bytes =>
    show largest (d.feed bytes).1.limit later ≤ _
    rw [limit_feed]
    exact Nat.le_refl _
  | reset => exact Nat.le_refl _
  | setLimit limit => exact Nat.le_max_right _ _

theorem Consistent.perform (consistent : d.Consistent bound) {operation : Operation} {later : List Operation}
    (within : largest d.limit (operation :: later) ≤ bound) : (d.perform operation).Consistent bound := by
  cases operation with
  | feed bytes => exact consistent.midway (midway_feed consistent.formed.lacking bytes)
  | reset => exact consistent_of_formed (.seeking false) consistent.limited consistent.counted
  | setLimit limit =>
    have limited : limit ≤ largest limit later := limit_le_largest limit later
    have next : largest limit later ≤ bound := Nat.le_trans (Nat.le_max_right _ _) within
    exact consistent_of_formed consistent.formed (Nat.le_trans limited next) consistent.counted

theorem Consistent.performAll (consistent : d.Consistent bound) {operations : List Operation}
    (within : largest d.limit operations ≤ bound) : (d.performAll operations).Consistent bound := by
  induction operations generalizing d with
  | nil => exact consistent
  | cons operation later ih =>
    exact ih (consistent.perform within) (Nat.le_trans (largest_perform d operation later) within)

theorem consistent_new (limit : Nat) (operations : List Operation) :
    (new limit).Consistent (largest limit operations) :=
  consistent_of_formed (.seeking false) (limit_le_largest limit operations) rfl

-- A deframer is consistent after any operations on a new one, and in the middle of every later call.
theorem performAll_consistent (limit : Nat) (operations : List Operation) {e : Deframer}
    (midway : Midway ((new limit).performAll operations) e) : e.Consistent (largest limit operations) := by
  have reached := (consistent_new limit operations).performAll (Nat.le_refl _)
  exact reached.midway midway

-- The limit is lowered after the length was accepted, and the next call is left after the fields.
theorem performAll_consistent_past_limit :
    let operations := [.feed [1, 7, 0, 3, 0, 3, 0], .setLimit 1]
    let d := (new 5).performAll operations
    let e := d.advance (d.phase.round d.limit [9, 5, 10]).1
    Midway d e ∧ e.phase = .content [0, 3, 0, 3] [0, 9, 5] (Crc32.updateAll Crc32.start [0, 9, 5]) [] 3 ∧
      e.limit = 1 ∧ e.Consistent 5 := by
  intro operations d e
  have midway : Midway d e := .round (.here d) [9, 5, 10]
  have fed : ((new 5).feed [1, 7, 0, 3, 0, 3, 0]).1 = ⟨.fields [0, 3, 0, 3] 3 [0], 5, .zero⟩ := by
    rw [feed_follow]
    rfl
  have start : d = ⟨.fields [0, 3, 0, 3] 3 [0], 1, .zero⟩ := congrArg (setLimit · 1) fed
  refine ⟨midway, ?_, ?_, performAll_consistent 5 operations midway⟩
  · simp only [e, start]
    rfl
  · simp only [e, start]
    rfl

end Deframer
end FramedRpc
