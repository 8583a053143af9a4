import Mathlib
import FramedRpc.Proofs.Codec.Rewriting

namespace FramedRpc
namespace Codec

def Token.nesting (depth : Nat) : Token → Nat
  | .openMap | .openList => depth + 1
  | .close => depth - 1
  | .scalar _ => depth

-- The number of containers that are open where a byte string ends, with `depth` of them open before it.
def openAtEnd (depth : Nat) (s : Bytes) : Nat :=
  match _h : readToken s with
  | (.ok (some t), rest) => openAtEnd (t.nesting depth) rest
  | (.ok none, _) | (.error _, _) => depth
termination_by Supply.size s
decreasing_by exact size_readToken_lt _h

theorem openAtEnd_nil (depth : Nat) : openAtEnd depth [] = depth := by
  have nothing : readToken ([] : Bytes) = (.ok none, []) := rfl
  rw [openAtEnd]
  split
  · rename_i read
    rw [nothing] at read
    cases read
  · rfl
  · rfl

theorem TokenForm.openAtEnd {t : Token} {bytes : Bytes} (form : TokenForm t bytes) (depth : Nat) (rest : Bytes) :
    openAtEnd depth (bytes ++ rest) = Codec.openAtEnd (t.nesting depth) rest := by
  have read := form.reads rest
  rw [Codec.openAtEnd]
  split
  · rename_i found
    cases found.symm.trans read
    rfl
  · rename_i found
    cases found.symm.trans read
  · rename_i found
    cases found.symm.trans read

mutual

theorem Item.openAtEnd {level : Nat} {v : Value} {bytes : Bytes} (item : Item level v bytes) (depth : Nat)
    (rest : Bytes) : openAtEnd depth (bytes ++ rest) = Codec.openAtEnd depth rest := by
  cases item with
  | scalar form => exact (TokenForm.scalar form).openAtEnd depth rest
  | list room inner =>
    have opened := TokenForm.openList.openAtEnd depth
    have closed := TokenForm.close.openAtEnd (depth + 1) rest
    rw [List.cons_append, List.append_assoc]
    exact (opened _).trans ((inner.openAtEnd (depth + 1) _).trans closed)
  | map room inner =>
    have opened := TokenForm.openMap.openAtEnd depth
    have closed := TokenForm.close.openAtEnd (depth + 1) rest
    rw [List.cons_append, List.append_assoc]
    exact (opened _).trans ((inner.openAtEnd (depth + 1) _).trans closed)

theorem Items.openAtEnd {level : Nat} {items : List Value} {bytes : Bytes} (inner : Items level items bytes)
    (depth : Nat) (rest : Bytes) : openAtEnd depth (bytes ++ rest) = Codec.openAtEnd depth rest := by
  cases inner with
  | nil => rfl
  | cons head tail => rw [List.append_assoc, head.openAtEnd, tail.openAtEnd]

theorem Entries.openAtEnd {level : Nat} {entries : List (Value × Value)} {bytes : Bytes}
    (inner : Entries level entries bytes) (depth : Nat) (rest : Bytes) :
    openAtEnd depth (bytes ++ rest) = Codec.openAtEnd depth rest := by
  cases inner with
  | nil => rfl
  | cons key value tail => rw [List.append_assoc, List.append_assoc, key.openAtEnd, value.openAtEnd, tail.openAtEnd]

end

theorem Unclosed.openAtEnd {level : Nat} {v : Value} {bytes : Bytes} {missing : Nat}
    (cut : Unclosed level v bytes missing) (depth : Nat) :
    0 < missing ∧ openAtEnd depth bytes = depth + missing := by
  induction cut generalizing depth with
  | @list level items body room inner =>
    have opened := TokenForm.openList.openAtEnd depth body
    have within := inner.openAtEnd (depth + 1) []
    rw [List.append_nil, openAtEnd_nil] at within
    exact ⟨Nat.one_pos, opened.trans within⟩
  | @map level entries body room inner =>
    have opened := TokenForm.openMap.openAtEnd depth body
    have within := inner.openAtEnd (depth + 1) []
    rw [List.append_nil, openAtEnd_nil] at within
    exact ⟨Nat.one_pos, opened.trans within⟩
  | @item level items v body bytes missing room before last ih =>
    have opened := TokenForm.openList.openAtEnd depth (body ++ bytes)
    refine ⟨Nat.succ_pos missing, opened.trans ((before.openAtEnd (depth + 1) bytes).trans ?_)⟩
    rw [(ih (depth + 1)).2]
    omega
  | @value level entries k v body first bytes missing room before key last ih =>
    have opened := TokenForm.openMap.openAtEnd depth (body ++ (first ++ bytes))
    refine ⟨Nat.succ_pos missing, opened.trans ((before.openAtEnd (depth + 1) _).trans ?_)⟩
    rw [key.openAtEnd, (ih (depth + 1)).2]
    omega

theorem openAtEnd_of_decode {bytes : Bytes} {v : Value} (decoded : Value.decode bytes = .ok v) :
    Item 0 v (bytes ++ List.replicate (openAtEnd 0 bytes) 0) ∧ openAtEnd 0 bytes ≤ maxDepth ∧
      (openAtEnd 0 bytes = 0 ↔ Item 0 v bytes) := by
  have none (item : Item 0 v bytes) : openAtEnd 0 bytes = 0 := by
    have closed := item.openAtEnd 0 []
    rwa [List.append_nil, openAtEnd_nil] at closed
  obtain ⟨container, missing, item, rfl | cut⟩ := Value.decode_exact.mp decoded
  · rw [List.replicate_zero, List.append_nil] at item
    rw [none item, List.replicate_zero, List.append_nil]
    exact ⟨item, Nat.zero_le _, fun _ => item, fun _ => rfl⟩
  · obtain ⟨some, count⟩ := cut.openAtEnd 0
    have few := cut.missing_le
    rw [Nat.zero_add] at count few
    rw [count]
    refine ⟨item, few, fun zero => absurd zero (Nat.ne_of_gt some), fun whole => ?_⟩
    rw [← count]
    exact none whole

end Codec

open Codec

-- What was read is written again and read as the same; no form with all its ends is shorter than the written one.
theorem Value.encode_shortest {bytes : Bytes} {v : Value} (decoded : decode bytes = .ok v) :
    ∃ written, v.encode = .ok written ∧ decode written = .ok v ∧
      written.length ≤ bytes.length + openAtEnd 0 bytes ∧ openAtEnd 0 bytes ≤ 512 ∧
      (openAtEnd 0 bytes = 0 ↔ Item 0 v bytes) ∧
      Item 0 v written ∧ ∀ other : Bytes, Item 0 v other → written.length ≤ other.length := by
  obtain ⟨container, -⟩ := decode_exact.mp decoded
  obtain ⟨item, few, closed⟩ := openAtEnd_of_decode decoded
  obtain ⟨encoded, within⟩ := encode_of_item item container
  rw [List.length_append, List.length_replicate] at within
  refine ⟨v.write, encoded, decode_of_encode encoded, within, few, closed, ?_, ?_⟩
  · exact write_item v (Item.write_le item).1
  · exact fun other form => (encode_of_item form container).2

-- Five in two bytes, a short text with a long length, and two containers open at the end.
theorem Value.encode_shortest_open :
    let bytes : Bytes := [2, 0x17, 0, 5, 13, 0, 0, 1, 97, 1]
    let v : Value := .list [.long 5, .string "a", .map []]
    decode bytes = .ok v ∧ openAtEnd 0 bytes = 2 ∧
      ∃ written, v.encode = .ok written ∧ decode written = .ok v ∧
        written.length ≤ bytes.length + openAtEnd 0 bytes ∧ openAtEnd 0 bytes ≤ 512 ∧
        (openAtEnd 0 bytes = 0 ↔ Item 0 v bytes) ∧
        Item 0 v written ∧ ∀ other : Bytes, Item 0 v other → written.length ≤ other.length := by
  intro bytes v
  have decoded : decode bytes = .ok v := by cbv
  exact ⟨decoded, by cbv, encode_shortest decoded⟩

end FramedRpc
