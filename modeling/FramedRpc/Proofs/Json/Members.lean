import FramedRpc.Json.Basic
import FramedRpc.Proofs.Text.Order

namespace FramedRpc.Json.Tree

-- In the order of their names, which is that of the bytes of the names, and no name twice.
def Ascending {α : Type} (members : List (String × α)) : Prop :=
  (members.map (·.1)).Pairwise fun a b => Text.Utf8.encode a < Text.Utf8.encode b

theorem insert_last {members : List (String × Tree)} {name : String} (last : ∀ m ∈ members, m.1 < name)
    (value : Tree) : insert name value members = members ++ [(name, value)] := by
  induction members with
  | nil => rfl
  | cons first rest ih =>
    have before : first.1 < name := last first (.head _)
    rw [insert, if_neg (lt_asymm before), if_neg (ne_of_gt before), ih fun m member => last m (.tail _ member)]
    rfl

theorem foldl_insert_ascending (sorted members : List (String × Tree)) (ascending : Ascending (sorted ++ members)) :
    members.foldl (fun sorted member => insert member.1 member.2 sorted) sorted = sorted ++ members := by
  induction members generalizing sorted with
  | nil => exact (List.append_nil sorted).symm
  | cons first rest ih =>
    have parts := List.pairwise_append.mp (List.pairwise_map.mp ascending)
    have last : ∀ m ∈ sorted, m.1 < first.1 := fun m member =>
      Text.Utf8.encode_lt_iff.mp (parts.2.2 m member first (.head _))
    have whole : sorted ++ first :: rest = (sorted ++ [first]) ++ rest := by simp
    rw [whole] at ascending
    rw [List.foldl_cons, insert_last last, ih _ ascending, whole]

theorem ofMembers_ascending {members : List (String × Tree)} (ascending : Ascending members) :
    ofMembers members = .object members := by
  unfold ofMembers
  rw [foldl_insert_ascending [] members ascending, List.nil_append]

theorem find?_insert (name other : String) (value : Tree) (members : List (String × Tree)) :
    (insert name value members).find? (·.1 = other) =
      if name = other then some (name, value) else members.find? (·.1 = other) := by
  induction members with
  | nil => by_cases same : name = other <;> simp [insert, same]
  | cons first rest ih =>
    rw [insert]
    split
    · by_cases same : name = other <;> simp [same]
    · split
      · rename_i equal
        by_cases same : name = other
        · simp [same]
        · have skipped : first.1 ≠ other := fun found => same (equal.trans found)
          simp [same, skipped]
      · rename_i apart
        rw [List.find?_cons, List.find?_cons, ih]
        by_cases found : first.1 = other
        · have different : name ≠ other := fun same => apart (same.trans found.symm)
          simp [found, different]
        · simp [found]

theorem find?_foldl_insert (name : String) (sorted members : List (String × Tree)) :
    (members.foldl (fun sorted member => insert member.1 member.2 sorted) sorted).find? (·.1 = name) =
      (members.reverse.find? (·.1 = name)).or (sorted.find? (·.1 = name)) := by
  induction members generalizing sorted with
  | nil => rfl
  | cons first rest ih =>
    rw [List.foldl_cons, ih, find?_insert, List.reverse_cons, List.find?_append, Option.or_assoc]
    by_cases same : first.1 = name
    · subst same
      simp
    · simp [same]

end FramedRpc.Json.Tree
