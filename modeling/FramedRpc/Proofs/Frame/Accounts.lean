import FramedRpc.Proofs.Frame.Buffers

namespace FramedRpc

namespace Phase

variable {bound limit : Nat}

-- The shortest frame has thirteen bytes: the magic pair, two lengths of two, fields of three, and the checksum.
theorem Formed.packet_size {phase : Phase} (formed : phase.Formed bound) {input rest : Bytes} {p : Packet}
    (step : phase.round limit input = (.packet p, rest)) : rest.length + 13 ≤ phase.weight + input.length := by
  have decided : (phase.round limit input).1 = .packet p := congrArg Prod.fst step
  have left : (phase.round limit input).2 = rest := congrArg Prod.snd step
  cases formed with
  | seeking sawFirst =>
    cases input with
    | nil => cases decided
    | cons byte tail =>
      simp only [round] at decided
      split at decided <;> cases decided
  | length short =>
    simp only [round, afterLength] at decided
    split at decided
    · cases decided
    · split at decided
      · split at decided <;> cases decided
      · cases decided
  | fields measured short =>
    simp only [round, afterFields] at decided
    split at decided
    · cases decided
    · split at decided
      · cases decided
      · split at decided <;> cases decided
  | content measured fielded covers short =>
    simp only [round] at decided
    split at decided <;> cases decided
  | @crc lengthBytes fieldBytes contentBytes held register measured fielded covers short =>
    have complete := measured.complete
    have before := (Frame.lengthSize_range lengthBytes).1
    have size := fielded.complete
    have fields := (Frame.fieldsSize_range fieldBytes).1
    simp only [round] at decided left
    split at decided
    · cases decided
    · rename_i full
      subst left
      simp only [List.length_append, List.length_take] at full
      simp only [weight, Phase.held, List.length_append, List.length_drop]
      unfold Frame.crcSize at *
      omega

end Phase

namespace Deframer

def accounted (d : Deframer) : Nat := 2 * d.stats.resyncs + 13 * d.stats.packets + d.phase.weight

theorem accounted_faulted (d : Deframer) (fault : Fault) :
    (d.faulted fault).accounted = 2 * d.stats.resyncs + 13 * d.stats.packets + 2 := by
  cases fault <;> simp only [accounted, faulted, Stats.faulted, Phase.weight, Bool.toNat_false] <;> omega

theorem accounted_emitted (d : Deframer) :
    d.emitted.accounted = 2 * d.stats.resyncs + 13 * d.stats.packets + 13 := by
  simp only [accounted, emitted, Stats.emitted, Phase.weight, Bool.toNat_false]
  omega

variable {bound : Nat} {d e : Deframer}

theorem buffered_le (d : Deframer) :
    2 * d.stats.resyncs + 13 * d.stats.packets + d.buffered + (if d.isIdle then 0 else 2) ≤ d.accounted := by
  unfold accounted buffered isIdle
  cases d.phase with
  | seeking sawFirst => simp [Phase.held, Phase.isIdle]
  | length | fields | content | crc =>
    simp only [Phase.weight, Phase.isIdle, Bool.false_eq_true, if_false]
    omega

end Deframer

theorem Runs.accounts {bound : Nat} {d e : Deframer} {input : Bytes} {packets : List Packet} {replay : Option Bytes}
    (run : Runs d input e packets replay) (consistent : d.Consistent bound) :
    e.accounted + (replay.getD []).length ≤ d.accounted + input.length := by
  induction run with
  | done => exact Nat.le_refl _
  | @more d e input rest phase packets replay unread step later ih =>
    have next := consistent.advance input
    have kept := Phase.weight_round d.limit d.phase input
    rw [step] at next kept
    have others := ih next
    simp only [Deframer.accounted, Verdict.weight] at *
    omega
  | @packet d e input rest p packets replay unread step later ih =>
    have next := consistent.advance input
    have size := consistent.formed.packet_size step
    rw [step] at next
    have others := ih next
    rw [d.accounted_emitted] at others
    unfold Deframer.accounted at *
    omega
  | @fault d input rest again fault unread step =>
    have kept := Phase.weight_round d.limit d.phase input
    rw [step] at kept
    simp only [Verdict.weight] at kept
    rw [d.accounted_faulted, Option.getD_some, List.length_append]
    unfold Deframer.accounted
    omega

theorem Drains.accounts {bound : Nat} {d e : Deframer} {input : Bytes} {packets : List Packet}
    (drains : Drains d input e packets) (consistent : d.Consistent bound) :
    e.accounted ≤ d.accounted + input.length := by
  induction drains with
  | last run => exact run.accounts consistent
  | again run later ih =>
    have first := run.accounts consistent
    have others := ih (consistent.midway (run.midway (.here _)))
    rw [Option.getD_some] at first
    omega

-- A replay, and the one that comes of it.
def Replayed (later earlier : Deframer × Bytes) : Prop :=
  ∃ packets, Runs earlier.1 earlier.2 later.1 packets (some later.2)

theorem wellFounded_replayed : WellFounded Replayed := by
  refine Subrelation.wf ?_ (measure fun pair : Deframer × Bytes => pair.1.phase.weight + pair.2.length).wf
  intro later earlier ⟨packets, run⟩
  exact run.replay_less

namespace Deframer

variable {bound : Nat} {d : Deframer}

theorem Consistent.accounts_perform (consistent : d.Consistent bound) (operation : Operation) :
    (d.perform operation).accounted ≤ d.accounted + fed [operation] := by
  cases operation with
  | feed bytes =>
    have drains : Drains d bytes (d.feed bytes).1 (d.feed bytes).2 := (Drains.exact consistent.formed.lacking).mpr rfl
    exact drains.accounts consistent
  | reset => exact Nat.le_add_right _ _
  | setLimit limit => exact Nat.le_refl _

theorem fed_cons (operation : Operation) (later : List Operation) :
    fed (operation :: later) = fed [operation] + fed later := by
  cases operation <;> simp only [fed] <;> omega

theorem Consistent.accounts (consistent : d.Consistent bound) {operations : List Operation}
    (within : largest d.limit operations ≤ bound) :
    (d.performAll operations).accounted ≤ d.accounted + fed operations := by
  induction operations generalizing d with
  | nil => exact Nat.le_refl _
  | cons operation later ih =>
    have others := ih (consistent.perform within) (Nat.le_trans (largest_perform d operation later) within)
    have first := consistent.accounts_perform operation
    rw [fed_cons]
    exact Nat.le_trans others (by omega)

-- After any operations the bytes that were fed pay for all that came of them, and the replays of a further call,
-- whatever its input, come to the end that the call comes to.
theorem performAll_accounted (limit : Nat) (operations : List Operation) :
    let d := (new limit).performAll operations
    2 * d.stats.resyncs + 13 * d.stats.packets + d.buffered + (if d.isIdle then 0 else 2) ≤ fed operations ∧
      ∀ input, Acc Replayed (d, input) ∧ Drains d input (d.feed input).1 (d.feed input).2 := by
  intro d
  have start := consistent_new limit operations
  have reached : d.Consistent (largest limit operations) := start.performAll (Nat.le_refl _)
  have paid : d.accounted ≤ 0 + fed operations := start.accounts (Nat.le_refl _)
  rw [Nat.zero_add] at paid
  refine ⟨Nat.le_trans d.buffered_le paid, fun input => ⟨wellFounded_replayed.apply _, ?_⟩⟩
  exact (Drains.exact reached.formed.lacking).mpr rfl

end Deframer
end FramedRpc
