import FramedRpc.Frame.Deframer

namespace FramedRpc

inductive Reached : Deframer → Prop where
  | new (limit : Nat) : Reached (.new limit)
  | feed {d : Deframer} (prior : Reached d) (bytes : Bytes) : Reached (d.feed bytes).1
  | reset {d : Deframer} (prior : Reached d) : Reached d.reset
  | setLimit {d : Deframer} (prior : Reached d) (limit : Nat) : Reached (d.setLimit limit)

namespace Deframer

inductive Operation where
  | feed (bytes : Bytes)
  | reset
  | setLimit (limit : Nat)

def perform (d : Deframer) : Operation → Deframer
  | .feed bytes => (d.feed bytes).1
  | .reset => d.reset
  | .setLimit limit => d.setLimit limit

def performAll (d : Deframer) (operations : List Operation) : Deframer := operations.foldl perform d

-- The largest limit that is in force at some time, from a first one on.
def largest (limit : Nat) : List Operation → Nat
  | [] => limit
  | .setLimit next :: later => max limit (largest next later)
  | _ :: later => largest limit later

def fed : List Operation → Nat
  | [] => 0
  | .feed bytes :: later => bytes.length + fed later
  | _ :: later => fed later

theorem limit_le_largest (limit : Nat) (operations : List Operation) : limit ≤ largest limit operations := by
  induction operations with
  | nil => exact Nat.le_refl _
  | cons operation later ih =>
    cases operation with
    | feed bytes | reset => exact ih
    | setLimit next => exact Nat.le_max_left _ _

end Deframer

-- A section is left as soon as it is complete, so the one in progress lacks at least one byte.
def Phase.Lacking : Phase → Prop
  | .seeking _ => True
  | .length held => held.length < Frame.lengthSize held
  | .fields _ _ held => held.length < Frame.fieldsSize held
  | .content _ _ _ _ missing => 0 < missing
  | .crc _ _ _ _ held => held.length < Frame.crcSize

namespace Phase

theorem afterLength_lacking {limit : Nat} {lengthBytes : Bytes} {phase : Phase}
    (step : afterLength limit lengthBytes = .more phase) : phase.Lacking := by
  unfold afterLength at step
  split at step
  · split at step
    · cases step
      exact (by decide : 0 < Frame.fieldsSize [])
    · cases step
  · cases step

theorem afterFields_lacking {lengthBytes fieldBytes : Bytes} {contentLength : Nat} {phase : Phase}
    (step : afterFields lengthBytes fieldBytes contentLength = .more phase) : phase.Lacking := by
  simp only [afterFields] at step
  split at step
  · cases step
  · split at step
    · cases step
      exact (by decide : 0 < Frame.crcSize)
    · rename_i some
      cases step
      exact Nat.pos_of_ne_zero some

theorem afterCrc_not_more {lengthBytes fieldBytes contentBytes held : Bytes} {register : UInt32} {phase : Phase} :
    afterCrc lengthBytes fieldBytes contentBytes register held ≠ .more phase := by
  intro step
  simp only [afterCrc] at step
  split at step
  · split at step <;> cases step
  · cases step

theorem lacking_of_section {short : Prop} [Decidable short] {filling next : Phase} {verdict : Verdict}
    (step : (if short then .more filling else verdict) = .more next) (still : short → filling.Lacking)
    (complete : verdict = .more next → next.Lacking) : next.Lacking := by
  split at step
  · rename_i missing
    cases step
    exact still missing
  · exact complete step

theorem accept_lacking {limit : Nat} {phase next : Phase} {byte : UInt8}
    (step : phase.accept limit byte = .more next) : next.Lacking := by
  cases phase with
  | seeking sawFirst =>
    simp only [accept] at step
    split at step
    · cases step
      exact (by decide : 0 < Frame.lengthSize [])
    · cases step
      trivial
  | length held => exact lacking_of_section step id afterLength_lacking
  | fields lengthBytes contentLength held => exact lacking_of_section step id afterFields_lacking
  | content lengthBytes fieldBytes register newest missing =>
    simp only [accept] at step
    split at step
    · cases step
      exact (by decide : 0 < Frame.crcSize)
    · rename_i some
      cases step
      exact Nat.sub_pos_of_lt (Nat.lt_of_not_le some)
  | crc lengthBytes fieldBytes contentBytes register held =>
    exact lacking_of_section step id fun decided => absurd decided afterCrc_not_more

end Phase

theorem Deframer.feed_lacking {d : Deframer} (lacking : d.phase.Lacking) (bytes : Bytes) :
    (d.feed bytes).1.phase.Lacking := by
  fun_induction feed d bytes with
  | case1 => exact lacking
  | case2 d byte rest phase step ih => exact ih (Phase.accept_lacking step)
  | case3 d byte rest p step after packets fed ih =>
    have later := ih trivial
    rw [fed] at later
    exact later
  | case4 d byte rest fault again step ih => exact ih trivial

theorem Reached.lacking {d : Deframer} (reached : Reached d) : d.phase.Lacking := by
  induction reached with
  | new limit => trivial
  | feed prior bytes ih => exact Deframer.feed_lacking ih bytes
  | reset prior ih => trivial
  | setLimit prior limit ih => exact ih

end FramedRpc
