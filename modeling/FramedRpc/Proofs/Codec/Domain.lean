import FramedRpc.Proofs.Codec.Appending

namespace FramedRpc

-- A text or binary that a length in three bytes is enough for.
def Scalar.Short : Scalar → Prop
  | .string s => s.utf8ByteSize ≤ 16777215
  | .binary bytes => bytes.length ≤ 16777215
  | _ => True

namespace Value

mutual

def scalars : Value → List Scalar
  | scalar s => [s]
  | list items => itemScalars items
  | map entries => entryScalars entries

def itemScalars : List Value → List Scalar
  | [] => []
  | v :: rest => scalars v ++ itemScalars rest

def entryScalars : List (Value × Value) → List Scalar
  | [] => []
  | (k, v) :: rest => scalars k ++ (scalars v ++ entryScalars rest)

end

end Value

namespace Codec

theorem length_utf8 (s : String) : (Text.Utf8.encode s).length = s.utf8ByteSize := by
  unfold Text.Utf8.encode
  rw [Array.length_toList]
  rfl

theorem unless_eq_none {p : Prop} [Decidable p] {why : Unsupported} : (if p then none else some why) = none ↔ p := by
  by_cases holds : p
  · rw [if_pos holds]
    exact iff_of_true rfl holds
  · rw [if_neg holds]
    exact iff_of_false nofun holds

theorem scalar_eq_none {s : Scalar} : s.obstacle? = none ↔ s.Short := by
  cases s with
  | string s =>
    simp only [Scalar.obstacle?, length_utf8]
    exact unless_eq_none
  | binary bytes => exact unless_eq_none
  | _ => exact iff_of_true rfl trivial

-- Whether containers of some depth can stand inside of `around` others.
def Fits (around depth : Nat) : Prop := depth = 0 ∨ around + depth ≤ maxDepth

theorem fits_zero (around : Nat) : Fits around 0 := .inl rfl

theorem fits_max {around m n : Nat} : Fits around (max m n) ↔ Fits around m ∧ Fits around n := by
  unfold Fits
  omega

theorem fits_succ {around n : Nat} : Fits around (n + 1) ↔ around < maxDepth ∧ Fits (around + 1) n := by
  unfold Fits
  omega

theorem container_eq_none {around : Nat} {inner : Option Unsupported} :
    (if maxDepth ≤ around then some .tooDeep else inner) = none ↔ around < maxDepth ∧ inner = none := by
  by_cases deep : maxDepth ≤ around
  · rw [if_pos deep]
    exact ⟨nofun, fun fits => absurd deep (Nat.not_le_of_lt fits.1)⟩
  · rw [if_neg deep]
    exact (and_iff_right (Nat.lt_of_not_le deep)).symm

end Codec

open Codec

namespace Value

-- The depth counts from the value that is written inwards, its obstacles from the outside.
mutual

theorem obstacleAt?_eq_none {around : Nat} {v : Value} :
    v.obstacleAt? around = none ↔ Fits around v.depth ∧ ∀ s ∈ v.scalars, s.Short := by
  cases v with
  | scalar s =>
    rw [obstacleAt?, depth, scalars, scalar_eq_none, List.forall_mem_singleton]
    exact (and_iff_right (fits_zero around)).symm
  | list items =>
    rw [obstacleAt?, depth, scalars, container_eq_none, itemObstacle?_eq_none, fits_succ, and_assoc]
  | map entries =>
    rw [obstacleAt?, depth, scalars, container_eq_none, entryObstacle?_eq_none, fits_succ, and_assoc]

theorem itemObstacle?_eq_none {around : Nat} {items : List Value} :
    itemObstacle? around items = none ↔ Fits around (depthItems items) ∧ ∀ s ∈ itemScalars items, s.Short := by
  cases items with
  | nil => simp [itemObstacle?, depthItems, itemScalars, fits_zero]
  | cons v rest =>
    rw [itemObstacle?, depthItems, itemScalars, Option.or_eq_none_iff, fits_max, List.forall_mem_append,
      obstacleAt?_eq_none, itemObstacle?_eq_none]
    exact and_and_and_comm

theorem entryObstacle?_eq_none {around : Nat} {entries : List (Value × Value)} :
    entryObstacle? around entries = none ↔
      Fits around (depthEntries entries) ∧ ∀ s ∈ entryScalars entries, s.Short := by
  cases entries with
  | nil => simp [entryObstacle?, depthEntries, entryScalars, fits_zero]
  | cons entry rest =>
    obtain ⟨k, v⟩ := entry
    rw [entryObstacle?, depthEntries, entryScalars, Option.or_eq_none_iff, Option.or_eq_none_iff, fits_max, fits_max,
      List.forall_mem_append, List.forall_mem_append, obstacleAt?_eq_none, obstacleAt?_eq_none,
      entryObstacle?_eq_none]
    constructor
    · rintro ⟨⟨key, short⟩, ⟨value, small⟩, others, rest⟩
      exact ⟨⟨⟨key, value⟩, others⟩, short, small, rest⟩
    · rintro ⟨⟨⟨key, value⟩, others⟩, short, small, rest⟩
      exact ⟨⟨key, short⟩, ⟨value, small⟩, others, rest⟩

end

theorem obstacle?_eq_none {v : Value} :
    v.obstacle? = none ↔ v.isContainer = true ∧ v.depth ≤ 512 ∧ ∀ s ∈ v.scalars, s.Short := by
  unfold obstacle?
  by_cases container : v.isContainer = true
  · rw [if_pos container, obstacleAt?_eq_none]
    unfold Fits maxDepth
    simp only [container, Nat.zero_add, true_and]
    constructor
    · rintro ⟨deep, short⟩
      exact ⟨by omega, short⟩
    · rintro ⟨deep, short⟩
      exact ⟨.inr deep, short⟩
  · rw [if_neg container]
    exact ⟨nofun, fun writable => absurd writable.1 container⟩

end Value

namespace Sink

theorem push_taken (retry : IoError → Bool) (s : Sink) (bytes : Bytes) :
    ∃ part, part <+: bytes ∧ (s.push retry bytes).2.taken = s.taken ++ part ∧
      ((s.push retry bytes).1 = .ok () ↔ part = bytes) := by
  fun_induction push retry s bytes with
  | case1 s => exact ⟨[], List.nil_prefix, (List.append_nil _).symm, iff_of_true rfl rfl⟩
  | case2 s bytes some s' wrote =>
    refine ⟨[], List.nil_prefix, write_taken wrote, ?_⟩
    exact iff_of_false nofun (Ne.symm some)
  | case3 s bytes some n s' wrote ih =>
    obtain ⟨part, first, taken, complete⟩ := ih
    refine ⟨bytes.take (n + 1) ++ part, ?_, ?_, ?_⟩
    · have whole := (List.prefix_append_right_inj (bytes.take (n + 1))).mpr first
      rwa [List.take_append_drop] at whole
    · rw [taken, write_taken wrote, List.append_assoc]
      rfl
    · have whole : bytes.take (n + 1) ++ part = bytes.take (n + 1) ++ bytes.drop (n + 1) ↔ part = bytes.drop (n + 1) :=
        List.append_right_inj _
      rw [List.take_append_drop] at whole
      exact complete.trans whole.symm
  | case4 s bytes some e s' wrote again ih =>
    have same : s'.taken = s.taken := (write_taken wrote).trans (List.append_nil _)
    rw [← same]
    exact ih
  | case5 s bytes some e s' wrote final =>
    refine ⟨[], List.nil_prefix, write_taken wrote, ?_⟩
    exact iff_of_false nofun (Ne.symm some)

end Sink

namespace Value

theorem encodeTo_push {v : Value} {bytes : Bytes} (encoded : v.encode = .ok bytes) (sink : Sink) :
    (v.encodeTo sink).2 = (sink.push IoError.isInterrupted bytes).2 ∧
      ((v.encodeTo sink).1 = .ok () ↔ (sink.push IoError.isInterrupted bytes).1 = .ok ()) := by
  unfold encodeTo
  simp only [encoded]
  rcases sink.push IoError.isInterrupted bytes with ⟨result, after⟩
  cases result with
  | ok done => exact ⟨rfl, iff_of_true rfl rfl⟩
  | error stop => cases stop <;> exact ⟨rfl, iff_of_false nofun nofun⟩

-- What becomes of a value that is to be written.
structure Encoded (v : Value) : Prop where
  domain : (∃ bytes, v.encode = .ok bytes) ↔ v.isContainer = true ∧ v.depth ≤ 512 ∧ ∀ s ∈ v.scalars, s.Short
  refused : ∀ e, v.encode = .error e → ∃ why, e = .unsupported why
  -- A buffer gets all of it or keeps what it held, also where a part was put onto it before the obstacle was met.
  appended : ∀ buffer bytes, v.encode = .ok bytes → v.generateOnto buffer = (.ok (), buffer ++ bytes)
  restored : ∀ buffer e, v.encode = .error e → v.generateOnto buffer = (.error e, buffer)
  same : ∀ buffer, v.encodeOnto buffer = v.generateOnto buffer
  sent : ∀ sink bytes, v.encode = .ok bytes → ∃ part, part <+: bytes ∧
    (v.encodeTo sink).2.taken = sink.taken ++ part ∧ ((v.encodeTo sink).1 = .ok () ↔ part = bytes)
  untouched : ∀ sink e, v.encode = .error e → v.encodeTo sink = (.error e, sink)

theorem encode_exact (v : Value) : v.Encoded where
  domain := by
    rw [← obstacle?_eq_none]
    unfold encode
    cases v.obstacle? with
    | none => exact iff_of_true ⟨v.write, rfl⟩ rfl
    | some why => exact iff_of_false nofun nofun
  refused e failed := by
    unfold encode at failed
    split at failed
    · rename_i why found
      cases failed
      exact ⟨why, rfl⟩
    · cases failed
  appended buffer bytes encoded := by
    rw [generateOnto_eq, encodeOnto, encoded]
  restored buffer e failed := by
    rw [generateOnto_eq, encodeOnto, failed]
  same buffer := (generateOnto_eq v buffer).symm
  sent sink bytes encoded := by
    obtain ⟨part, first, taken, complete⟩ := sink.push_taken IoError.isInterrupted bytes
    obtain ⟨after, result⟩ := encodeTo_push encoded sink
    exact ⟨part, first, after ▸ taken, result.trans complete⟩
  untouched sink e failed := by
    unfold encodeTo
    rw [failed]

end Value
end FramedRpc
