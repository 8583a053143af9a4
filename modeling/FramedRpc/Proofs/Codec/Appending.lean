import FramedRpc.Codec.Appending

namespace FramedRpc
namespace Codec

-- How a computation goes: it puts these bytes onto any buffer, or some bytes of its own before it meets the obstacle.
def Appends (m : Appending Unit) (obstacle : Option Unsupported) (bytes : Bytes) : Prop :=
  ∀ buffer : Bytes, match obstacle with
  | none => m buffer = (.ok (), buffer ++ bytes)
  | some why => ∃ part, m buffer = (.error (.unsupported why), buffer ++ part)

namespace Appends

variable {m n : Appending Unit} {first second : Option Unsupported} {bytes more : Bytes}

theorem put (bytes : Bytes) : Appends (put bytes) none bytes := fun _ => rfl

theorem refuse (why : Unsupported) (bytes : Bytes) : Appends (refuse why) (some why) bytes :=
  fun buffer => ⟨[], by rw [List.append_nil]; rfl⟩

theorem nothing : Appends (pure ()) none [] := fun buffer => by rw [List.append_nil]; rfl

theorem andThen (here : Appends m first bytes) (there : Appends n second more) :
    Appends (m >>= fun _ => n) (first.or second) (bytes ++ more) := by
  intro buffer
  have step : (m >>= fun _ => n) buffer =
      match m buffer with
      | (.ok _, after) => n after
      | (.error e, after) => (.error e, after) := by
    simp only [bind, ExceptT.bind, ExceptT.mk, StateT.bind, ExceptT.bindCont]
    rcases m buffer with ⟨_ | _, _⟩ <;> rfl
  have went := here buffer
  cases first with
  | some why =>
    obtain ⟨part, stopped⟩ := went
    refine ⟨part, ?_⟩
    rw [step, stopped]
  | none =>
    have next := there (buffer ++ bytes)
    rw [Option.none_or]
    cases second with
    | none =>
      simp only at went next ⊢
      rw [step, went, ← List.append_assoc]
      exact next
    | some why =>
      obtain ⟨part, stopped⟩ := next
      refine ⟨bytes ++ part, ?_⟩
      simp only at went
      rw [step, went, ← List.append_assoc]
      exact stopped

end Appends

theorem putSized_appends (shortTag longTag : UInt8) (what : String) (bytes : Bytes) :
    Appends (putSized shortTag longTag what bytes)
      (if bytes.length ≤ maxLength then none else some (.tooLong what bytes.length))
      (writeSized shortTag longTag bytes) := by
  unfold putSized putLength writeSized
  by_cases short : bytes.length ≤ 0xFF
  · have within : bytes.length ≤ maxLength := Nat.le_trans short (by decide)
    rw [if_pos short, if_pos short, if_pos within]
    exact (Appends.put [shortTag, UInt8.ofNat bytes.length]).andThen (.put bytes)
  · rw [if_neg short, if_neg short]
    by_cases within : bytes.length ≤ maxLength
    · rw [if_pos within, if_pos within]
      exact (Appends.put (longTag :: Bytes.bigEndian 3 bytes.length)).andThen (.put bytes)
    · rw [if_neg within, if_neg within]
      have refused := (Appends.refuse (.tooLong what bytes.length) []).andThen (.put bytes)
      exact refused

end Codec

open Codec

theorem Scalar.put_appends (s : Scalar) : Appends s.put s.obstacle? s.write := by
  cases s with
  | string s => exact putSized_appends 12 13 "string" (Text.Utf8.encode s)
  | binary bytes => exact putSized_appends 14 15 "binary" bytes
  | _ => exact .put _

theorem Codec.checkDepth_appends (depth : Nat) :
    Appends (checkDepth depth) (if maxDepth ≤ depth then some .tooDeep else none) [] := by
  unfold checkDepth
  split
  · exact .refuse .tooDeep []
  · exact .nothing

theorem Codec.Appends.container {tag : UInt8} {m : Appending Unit} {obstacle : Option Unsupported} {bytes : Bytes}
    (inner : Appends m obstacle bytes) (depth : Nat) :
    Appends (do checkDepth depth; Codec.put [tag]; m; Codec.put [0])
      (if maxDepth ≤ depth then some .tooDeep else obstacle) (tag :: (bytes ++ [0])) := by
  have whole := (checkDepth_appends depth).andThen ((Appends.put [tag]).andThen (inner.andThen (.put [0])))
  rw [Option.or_none, Option.none_or] at whole
  by_cases deep : maxDepth ≤ depth
  · rw [if_pos deep] at whole ⊢
    exact whole
  · rw [if_neg deep] at whole ⊢
    exact whole

namespace Value

mutual

theorem put_appends (depth : Nat) (v : Value) :
    Appends (v.put depth) (v.obstacleAt? depth) (v.tokens.flatMap Token.write) := by
  cases v with
  | scalar s =>
    rw [put, obstacleAt?, tokens, List.flatMap_singleton]
    exact s.put_appends
  | list items =>
    rw [put, obstacleAt?, tokens, List.flatMap_cons, List.flatMap_append]
    exact (putItems_appends (depth + 1) items).container depth
  | map entries =>
    rw [put, obstacleAt?, tokens, List.flatMap_cons, List.flatMap_append]
    exact (putEntries_appends (depth + 1) entries).container depth

theorem putItems_appends (depth : Nat) (items : List Value) :
    Appends (putItems depth items) (itemObstacle? depth items) ((itemTokens items).flatMap Token.write) := by
  cases items with
  | nil => exact .nothing
  | cons v rest =>
    rw [putItems, itemObstacle?, itemTokens, List.flatMap_append]
    exact (put_appends depth v).andThen (putItems_appends depth rest)

theorem putEntries_appends (depth : Nat) (entries : List (Value × Value)) :
    Appends (putEntries depth entries) (entryObstacle? depth entries)
      ((entryTokens entries).flatMap Token.write) := by
  cases entries with
  | nil => exact .nothing
  | cons entry rest =>
    obtain ⟨k, v⟩ := entry
    rw [putEntries, entryObstacle?, entryTokens, List.flatMap_append, List.flatMap_append]
    exact (put_appends depth k).andThen ((put_appends depth v).andThen (putEntries_appends depth rest))

end

theorem generateOnto_eq (v : Value) (buffer : Bytes) : v.generateOnto buffer = v.encodeOnto buffer := by
  unfold generateOnto encodeOnto encode obstacle?
  by_cases container : v.isContainer = true
  · rw [if_pos container, if_pos container]
    have went := v.put_appends 0 buffer
    cases found : v.obstacleAt? 0 with
    | none =>
      rw [found] at went
      simp only at went ⊢
      rw [went]
      rfl
    | some why =>
      rw [found] at went
      obtain ⟨part, stopped⟩ := went
      simp only [stopped, List.take_left]
  · rw [if_neg container, if_neg container]

end Value
end FramedRpc
