import Mathlib.Data.List.Forall2
import FramedRpc.Json.Value
import FramedRpc.Proofs.Json.Members

namespace FramedRpc

def Binary.Finite (bits : UInt64) : Prop := ∃ negative m q, double.decode bits.toNat = .finite negative m q

def Json.Narrow (n : Int64) : Prop := Int32.minValue.toInt ≤ n.toInt ∧ n.toInt ≤ Int32.maxValue.toInt

inductive Value.Native : Value → Prop where
  | null : Native .null
  | bool (b : Bool) : Native (.bool b)
  | int (n : Int32) : Native (.int n)
  | long {n : Int64} (wide : ¬Json.Narrow n) : Native (.long n)
  | double {bits : UInt64} (finite : Binary.Finite bits) : Native (.double bits)
  | string (s : String) : Native (.string s)
  | list {items : List Value} (each : ∀ v ∈ items, Native v) : Native (.list items)
  | map {members : List (String × Value)} (ascending : Json.Tree.Ascending members)
      (each : ∀ m ∈ members, Native m.2) : Native (.map (members.map fun m => (.string m.1, m.2)))

inductive Json.Tree.Signed : Json.Tree → Prop where
  | null : Signed .null
  | bool (b : Bool) : Signed (.bool b)
  | integer (n : Int64) : Signed (.number (.integer n))
  | real {bits : UInt64} (finite : Binary.Finite bits) : Signed (.number (.real bits))
  | string (s : String) : Signed (.string s)
  | list {items : List Tree} (each : ∀ t ∈ items, Signed t) : Signed (.list items)
  | object {members : List (String × Tree)} (ascending : Ascending members) (each : ∀ m ∈ members, Signed m.2) :
      Signed (.object members)

structure Value.Stands (v : Value) (t : Json.Tree) : Prop where
  native : v.Native
  signed : t.Signed
  there : v.toJson = t
  back : Value.ofJson t = .ok v

namespace Json

theorem narrow_toInt64 (n : Int32) : Narrow n.toInt64 := by
  unfold Narrow
  rw [Int32.toInt_toInt64]
  exact ⟨n.minValue_le_toInt, n.toInt_le⟩

theorem toInt64_toInt32 {n : Int64} (narrow : Narrow n) : n.toInt32.toInt64 = n := by
  have low : -2 ^ 31 ≤ n.toInt := narrow.1
  have high : n.toInt ≤ 2 ^ 31 - 1 := narrow.2
  rw [← Int64.toInt_inj, Int32.toInt_toInt64, Int64.toInt_toInt32]
  exact Int.bmod_eq_of_le (by omega) (by omega)

theorem ofDouble_finite {bits : UInt64} (finite : Binary.Finite bits) :
    Tree.ofDouble bits = .number (.real bits) := by
  obtain ⟨negative, m, q, decoded⟩ := finite
  unfold Tree.ofDouble
  rw [decoded]

theorem toValue_narrow {n : Int64} (narrow : Narrow n) : (Number.integer n).toValue = .ok (.int n.toInt32) :=
  if_pos narrow

theorem toValue_wide {n : Int64} (wide : ¬Narrow n) : (Number.integer n).toValue = .ok (.long n) :=
  if_neg wide

end Json

namespace Value

open Json (Tree)

-- Items and members stand for each other one by one.

theorem stands_list {items : List Value} {trees : List Tree} (each : List.Forall₂ Stands items trees) :
    Stands (.list items) (.list trees) := by
  have parts : (∀ v ∈ items, v.Native) ∧ (∀ t ∈ trees, t.Signed) ∧ toJsonItems items = trees ∧
      ofJsonItems trees = .ok items := by
    induction each with
    | nil => exact ⟨nofun, nofun, rfl, rfl⟩
    | cons first rest ih =>
      obtain ⟨native, signed, there, back⟩ := ih
      refine ⟨List.forall_mem_cons.mpr ⟨first.native, native⟩, List.forall_mem_cons.mpr ⟨first.signed, signed⟩, ?_, ?_⟩
      · rw [toJsonItems, first.there, there]
      · rw [ofJsonItems, first.back, back]
        rfl
  obtain ⟨native, signed, there, back⟩ := parts
  exact ⟨.list native, .list signed, by rw [toJson, there], by rw [ofJson, back]; rfl⟩

def SameMember (member : String × Value) (tree : String × Tree) : Prop :=
  member.1 = tree.1 ∧ Stands member.2 tree.2

theorem names_eq {members : List (String × Value)} {trees : List (String × Tree)}
    (each : List.Forall₂ SameMember members trees) : members.map (·.1) = trees.map (·.1) := by
  have same : List.Forall₂ (· = ·) (members.map (·.1)) (trees.map (·.1)) := by
    rw [List.forall₂_map_left_iff, List.forall₂_map_right_iff]
    exact each.imp fun _ _ member => member.1
  rwa [List.forall₂_eq_eq_eq] at same

theorem stands_map {members : List (String × Value)} {trees : List (String × Tree)}
    (each : List.Forall₂ SameMember members trees) (ascending : Tree.Ascending members) :
    Stands (.map (members.map fun m => (.string m.1, m.2))) (.object trees) := by
  have parts : (∀ m ∈ members, m.2.Native) ∧ (∀ t ∈ trees, t.2.Signed) ∧
      toJsonEntries (members.map fun m => (.string m.1, m.2)) = trees ∧
        ofJsonMembers trees = .ok (members.map fun m => (.string m.1, m.2)) := by
    clear ascending
    induction each with
    | nil => exact ⟨nofun, nofun, rfl, rfl⟩
    | @cons member tree _ _ first rest ih =>
      obtain ⟨name, member⟩ := member
      obtain ⟨_, tree⟩ := tree
      obtain ⟨rfl, first⟩ := first
      obtain ⟨native, signed, there, back⟩ := ih
      refine ⟨List.forall_mem_cons.mpr ⟨first.native, native⟩, List.forall_mem_cons.mpr ⟨first.signed, signed⟩, ?_, ?_⟩
      · rw [List.map_cons, toJsonEntries, first.there, there]
        rfl
      · rw [ofJsonMembers, first.back, back]
        rfl
  obtain ⟨native, signed, there, back⟩ := parts
  have sorted : Tree.Ascending trees := by
    unfold Tree.Ascending
    rw [← names_eq each]
    exact ascending
  refine ⟨.map ascending native, .object sorted signed, ?_, by rw [ofJson, back]; rfl⟩
  rw [toJson, there, Tree.ofMembers_ascending sorted]

theorem exists_forall₂ {α β : Type} {R : α → β → Prop} {as : List α} (each : ∀ a ∈ as, ∃ b, R a b) :
    ∃ bs, List.Forall₂ R as bs := by
  induction as with
  | nil => exact ⟨[], .nil⟩
  | cons first rest ih =>
    obtain ⟨b, related⟩ := each first (.head _)
    obtain ⟨bs, others⟩ := ih fun a member => each a (.tail _ member)
    exact ⟨b :: bs, .cons related others⟩

theorem Native.stands {v : Value} (native : v.Native) : ∃ t, Stands v t := by
  induction native with
  | null => exact ⟨.null, .null, .null, rfl, rfl⟩
  | bool b => exact ⟨.bool b, .bool b, .bool b, rfl, rfl⟩
  | int n =>
    have back := Json.toValue_narrow (Json.narrow_toInt64 n)
    rw [Int32.toInt32_toInt64] at back
    exact ⟨.number (.integer n.toInt64), .int n, .integer _, rfl, back⟩
  | @long n wide => exact ⟨.number (.integer n), .long wide, .integer n, rfl, Json.toValue_wide wide⟩
  | @double bits finite =>
    exact ⟨.number (.real bits), .double finite, .real finite, Json.ofDouble_finite finite, rfl⟩
  | string s => exact ⟨.string s, .string s, .string s, rfl, rfl⟩
  | list each ih =>
    obtain ⟨trees, stands⟩ := exists_forall₂ ih
    exact ⟨.list trees, stands_list stands⟩
  | @map members ascending each ih =>
    have one : ∀ m ∈ members, ∃ tree, SameMember m tree := fun m member =>
      (ih m member).imp' (Prod.mk m.1) fun _ stands => ⟨rfl, stands⟩
    obtain ⟨trees, stands⟩ := exists_forall₂ one
    exact ⟨.object trees, stands_map stands ascending⟩

end Value

theorem Json.Tree.Signed.stands {t : Tree} (signed : t.Signed) : ∃ v, Value.Stands v t := by
  induction signed with
  | null => exact ⟨.null, .null, .null, rfl, rfl⟩
  | bool b => exact ⟨.bool b, .bool b, .bool b, rfl, rfl⟩
  | integer n =>
    by_cases narrow : Narrow n
    · have there : Value.toJson (.int n.toInt32) = .number (.integer n) :=
        congrArg (Tree.number ∘ Number.integer) (toInt64_toInt32 narrow)
      exact ⟨.int n.toInt32, .int _, .integer n, there, toValue_narrow narrow⟩
    · exact ⟨.long n, .long narrow, .integer n, rfl, toValue_wide narrow⟩
  | @real bits finite => exact ⟨.double bits, .double finite, .real finite, ofDouble_finite finite, rfl⟩
  | string s => exact ⟨.string s, .string s, .string s, rfl, rfl⟩
  | @list items each ih =>
    obtain ⟨values, stands⟩ := Value.exists_forall₂ (R := fun t v => Value.Stands v t) ih
    exact ⟨.list values, Value.stands_list stands.flip⟩
  | @object members ascending each ih =>
    have one : ∀ m ∈ members, ∃ entry, Value.SameMember entry m := fun m member =>
      (ih m member).imp' (Prod.mk m.1) fun _ stands => ⟨rfl, stands⟩
    obtain ⟨entries, stands⟩ := Value.exists_forall₂ (R := fun m entry => Value.SameMember entry m) one
    have related : List.Forall₂ Value.SameMember entries members := stands.flip
    have sorted : Ascending entries := by
      unfold Ascending
      rw [Value.names_eq related]
      exact ascending
    exact ⟨_, Value.stands_map related sorted⟩

-- A value that JSON has a form for comes back from its tree, and a tree whose integers fit comes back from its
-- value; the trees of the one kind are those of the other.
theorem Value.json_round_trip :
    (∀ v : Value, v.Native → ofJson v.toJson = .ok v ∧ v.toJson.Signed) ∧
      ∀ t : Json.Tree, t.Signed → ∃ v, ofJson t = .ok v ∧ v.toJson = t ∧ v.Native := by
  constructor
  · intro v native
    obtain ⟨t, stands⟩ := native.stands
    rw [stands.there]
    exact ⟨stands.back, stands.signed⟩
  · intro t signed
    obtain ⟨v, stands⟩ := signed.stands
    exact ⟨v, stands.back, stands.there, stands.native⟩

-- A negative zero, an integer just beyond 32 bits, and names that are in order as bytes but not in an alphabet.
theorem Value.json_round_trip_nested :
    let v : Value := .map [(.string "Z", .list [.long 2147483648, .double 0x8000000000000000]), (.string "a", .int (-1))]
    let t : Json.Tree := .object [("", .null), ("Zz", .list [.number (.integer (-2147483648))]), ("é", .string "")]
    v.Native ∧ ofJson v.toJson = .ok v ∧ t.Signed ∧ ∃ w, ofJson t = .ok w ∧ w.toJson = t := by
  intro v t
  have wide : ¬Json.Narrow 2147483648 := by
    unfold Json.Narrow
    decide
  have native : v.Native := by
    refine @Native.map [("Z", .list [.long 2147483648, .double 0x8000000000000000]), ("a", .int (-1))] ?_ ?_
    · unfold Json.Tree.Ascending
      decide
    · simp only [List.mem_cons, List.not_mem_nil, or_false]
      rintro m (rfl | rfl)
      · refine .list ?_
        simp only [List.mem_cons, List.not_mem_nil, or_false]
        rintro item (rfl | rfl)
        · exact .long wide
        · exact .double ⟨true, 0, -1074, by decide⟩
      · exact .int (-1)
  have signed : t.Signed := by
    refine .object ?_ ?_
    · unfold Json.Tree.Ascending
      decide
    · simp only [List.mem_cons, List.not_mem_nil, or_false]
      rintro m (rfl | rfl | rfl)
      · exact .null
      · refine .list ?_
        simp only [List.mem_cons, List.not_mem_nil, or_false]
        rintro item rfl
        exact .integer _
      · exact .string ""
  obtain ⟨w, back, there, -⟩ := json_round_trip.2 t signed
  exact ⟨native, (json_round_trip.1 v native).1, signed, w, back, there⟩

end FramedRpc
