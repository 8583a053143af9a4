import Mathlib.Algebra.Group.Nat.Defs
import FramedRpc.Codec.Decode

namespace FramedRpc.Codec

inductive ScalarForm : Scalar → Bytes → Prop where
  | null : ScalarForm .null [10]
  | yes : ScalarForm (.bool true) [8]
  | no : ScalarForm (.bool false) [9]
  | float {body : Bytes} (size : body.length = 4) :
    ScalarForm (.float (UInt32.ofNat (Bytes.ofBigEndian body))) (3 :: body)
  | double {body : Bytes} (size : body.length = 8) :
    ScalarForm (.double (UInt64.ofNat (Bytes.ofBigEndian body))) (4 :: body)
  -- Any width of the kind, as long as the number fits the kind.
  | integer {kind : IntegerKind} {negative : Bool} {index : Nat} {body : Bytes}
    (width : kind.widths[index]? = some body.length) (small : Bytes.ofBigEndian body < 2 ^ 63)
    (fits : kind.Fits (signed negative (Bytes.ofBigEndian body))) :
    ScalarForm (kind.scalar (signed negative (Bytes.ofBigEndian body))) (integerTag kind negative index :: body)
  | text {tag : UInt8} {size : Bytes} {s : String} (form : (tag, size.length) ∈ [(12, 1), (13, 3)])
    (length : Bytes.ofBigEndian size = (Text.Utf8.encode s).length) :
    ScalarForm (.string s) (tag :: (size ++ Text.Utf8.encode s))
  | binary {tag : UInt8} {size bytes : Bytes} (form : (tag, size.length) ∈ [(14, 1), (15, 3)])
    (length : Bytes.ofBigEndian size = bytes.length) :
    ScalarForm (.binary bytes) (tag :: (size ++ bytes))

mutual

-- An item inside of `depth` containers.
inductive Item : Nat → Value → Bytes → Prop where
  | scalar {depth : Nat} {s : Scalar} {bytes : Bytes} (form : ScalarForm s bytes) : Item depth (.scalar s) bytes
  | list {depth : Nat} {items : List Value} {body : Bytes} (room : depth < maxDepth)
    (inner : Items (depth + 1) items body) : Item depth (.list items) (2 :: (body ++ [0]))
  | map {depth : Nat} {entries : List (Value × Value)} {body : Bytes} (room : depth < maxDepth)
    (inner : Entries (depth + 1) entries body) : Item depth (.map entries) (1 :: (body ++ [0]))

inductive Items : Nat → List Value → Bytes → Prop where
  | nil {depth : Nat} : Items depth [] []
  | cons {depth : Nat} {v : Value} {items : List Value} {first more : Bytes} (head : Item depth v first)
    (tail : Items depth items more) : Items depth (v :: items) (first ++ more)

inductive Entries : Nat → List (Value × Value) → Bytes → Prop where
  | nil {depth : Nat} : Entries depth [] []
  | cons {depth : Nat} {k v : Value} {entries : List (Value × Value)} {first second more : Bytes}
    (key : Item depth k first) (value : Item depth v second) (tail : Entries depth entries more) :
    Entries depth ((k, v) :: entries) (first ++ (second ++ more))

end

-- A container cut off where the next item of a list or the next key of a map is due, with the number of containers
-- that are still open there.
inductive Unclosed : Nat → Value → Bytes → Nat → Prop where
  | list {depth : Nat} {items : List Value} {body : Bytes} (room : depth < maxDepth)
    (inner : Items (depth + 1) items body) : Unclosed depth (.list items) (2 :: body) 1
  | map {depth : Nat} {entries : List (Value × Value)} {body : Bytes} (room : depth < maxDepth)
    (inner : Entries (depth + 1) entries body) : Unclosed depth (.map entries) (1 :: body) 1
  -- The last item of a list, or the last value of a map, is itself cut off.
  | item {depth : Nat} {items : List Value} {v : Value} {body bytes : Bytes} {missing : Nat} (room : depth < maxDepth)
    (before : Items (depth + 1) items body) (last : Unclosed (depth + 1) v bytes missing) :
    Unclosed depth (.list (items ++ [v])) (2 :: (body ++ bytes)) (missing + 1)
  | value {depth : Nat} {entries : List (Value × Value)} {k v : Value} {body first bytes : Bytes} {missing : Nat}
    (room : depth < maxDepth) (before : Entries (depth + 1) entries body) (key : Item (depth + 1) k first)
    (last : Unclosed (depth + 1) v bytes missing) :
    Unclosed depth (.map (entries ++ [(k, v)])) (1 :: (body ++ (first ++ bytes))) (missing + 1)

variable {depth : Nat}

theorem Items.concat {items : List Value} {v : Value} {body last : Bytes} (before : Items depth items body)
    (item : Item depth v last) : Items depth (items ++ [v]) (body ++ last) := by
  induction items generalizing body with
  | nil =>
    cases before
    have single := Items.cons item .nil
    rwa [List.append_nil] at single
  | cons first items ih =>
    cases before with
    | cons head tail =>
      rw [List.append_assoc]
      exact .cons head (ih tail)

theorem Entries.concat {entries : List (Value × Value)} {k v : Value} {body first last : Bytes}
    (before : Entries depth entries body) (key : Item depth k first) (value : Item depth v last) :
    Entries depth (entries ++ [(k, v)]) (body ++ (first ++ last)) := by
  induction entries generalizing body with
  | nil =>
    cases before
    have single := Entries.cons key value .nil
    rwa [List.append_nil] at single
  | cons entry entries ih =>
    cases before with
    | cons head second tail =>
      rw [List.append_assoc, List.append_assoc]
      exact .cons head second (ih tail)

namespace Unclosed

variable {v : Value} {bytes : Bytes} {missing : Nat}

theorem isContainer (cut : Unclosed depth v bytes missing) : v.isContainer = true := by
  cases cut <;> rfl

theorem closed (cut : Unclosed depth v bytes missing) : Item depth v (bytes ++ List.replicate missing 0) := by
  induction cut with
  | list room inner => exact .list room inner
  | map room inner => exact .map room inner
  | item room before last ih =>
    have whole := Item.list room (before.concat ih)
    rw [List.replicate_succ']
    simp only [List.cons_append, List.append_assoc] at whole ⊢
    exact whole
  | value room before key last ih =>
    have whole := Item.map room (before.concat key ih)
    rw [List.replicate_succ']
    simp only [List.cons_append, List.append_assoc] at whole ⊢
    exact whole

end Unclosed

end FramedRpc.Codec
