import Mathlib.Data.List.Basic
import FramedRpc.Endpoint.Handler

namespace FramedRpc.HandlerTable

variable {t : HandlerTable} {typeId other : Nat} {h : Handler}

theorem lookup_grow (t : HandlerTable) (typeId other : Nat) : (t.grow typeId).lookup other = t.lookup other := by
  unfold lookup grow
  by_cases inside : other < t.slots.length
  · rw [List.getElem?_append_left inside]
  · have outside : t.slots.length ≤ other := Nat.le_of_not_lt inside
    rw [List.getElem?_append_right outside, List.getElem?_eq_none outside, List.getElem?_replicate]
    split <;> rfl

theorem length_grow (t : HandlerTable) (typeId : Nat) :
    (t.grow typeId).slots.length = max t.slots.length (typeId + 1) := by
  unfold grow
  rw [List.length_append, List.length_replicate]
  omega

theorem lt_length_of_lookup (found : t.lookup typeId = some h) : typeId < t.slots.length :=
  (List.getElem?_eq_some_iff.mp (Option.join_eq_some_iff.mp found)).1

theorem grow_of_lookup (found : t.lookup typeId = some h) : t.grow typeId = t := by
  have room : typeId + 1 - t.slots.length = 0 := Nat.sub_eq_zero_of_le (lt_length_of_lookup found)
  unfold grow
  rw [room, List.replicate_zero, List.append_nil]

def enter (t : HandlerTable) (typeId : Nat) (h : Handler) : HandlerTable :=
  ⟨(t.grow typeId).slots.set typeId (some h), t.count + 1⟩

theorem lookup_enter (t : HandlerTable) (typeId : Nat) (h : Handler) (other : Nat) :
    (t.enter typeId h).lookup other = if other = typeId then some h else t.lookup other := by
  have room : typeId < (t.grow typeId).slots.length := by
    rw [length_grow]
    omega
  unfold enter lookup
  split
  · rename_i same
    rw [same, List.getElem?_set_self room]
    rfl
  · rename_i apart
    rw [List.getElem?_set_ne (Ne.symm apart)]
    exact t.lookup_grow typeId other

theorem register_cases (t : HandlerTable) (typeId : Nat) (h : Handler) :
    Frame.maxTypeId < typeId ∧ t.register typeId h =
        (.error (.frame (.fieldOutOfRange "request_type_id" typeId Frame.maxTypeId)), t) ∨
      typeId ≤ Frame.maxTypeId ∧ (∃ holder, t.lookup typeId = some holder) ∧
        t.register typeId h = (.error (.duplicateHandler typeId), t) ∨
      typeId ≤ Frame.maxTypeId ∧ t.lookup typeId = none ∧ t.register typeId h = (.ok (), t.enter typeId h) := by
  unfold register
  by_cases large : Frame.maxTypeId < typeId
  · exact .inl ⟨large, if_pos large⟩
  · have within : typeId ≤ Frame.maxTypeId := Nat.le_of_not_lt large
    simp only [if_neg large, lookup_grow]
    cases found : t.lookup typeId with
    | some holder => exact .inr (.inl ⟨within, ⟨holder, rfl⟩, by rw [grow_of_lookup found]⟩)
    | none => exact .inr (.inr ⟨within, rfl, rfl⟩)

theorem mem_typeIds : typeId ∈ t.typeIds ↔ (t.lookup typeId).isSome = true := by
  unfold typeIds
  rw [List.mem_filter, List.mem_range]
  constructor
  · exact And.right
  · intro found
    obtain ⟨holder, there⟩ := Option.isSome_iff_exists.mp found
    exact ⟨lt_length_of_lookup there, found⟩

theorem typeIds_ascending (t : HandlerTable) : t.typeIds.Pairwise (· < ·) :=
  List.pairwise_lt_range.filter _

theorem typeIds_nodup (t : HandlerTable) : t.typeIds.Nodup :=
  t.typeIds_ascending.imp Nat.ne_of_lt

theorem length_typeIds_enter (free : t.lookup typeId = none) (h : Handler) :
    (t.enter typeId h).typeIds.length = t.typeIds.length + 1 := by
  have new : typeId ∉ t.typeIds := by
    rw [mem_typeIds, free]
    exact Bool.false_ne_true
  have more : (t.enter typeId h).typeIds.Perm (typeId :: t.typeIds) := by
    refine (List.perm_ext_iff_of_nodup (typeIds_nodup _) (List.nodup_cons.mpr ⟨new, t.typeIds_nodup⟩)).mpr ?_
    intro other
    rw [List.mem_cons, mem_typeIds, mem_typeIds, lookup_enter]
    split
    · rename_i same
      exact ⟨fun _ => .inl same, fun _ => rfl⟩
    · rename_i apart
      exact (or_iff_right apart).symm
  exact more.length_eq

-- The counter and the slots agree, and the slots end with the largest request type that there can be.
structure Counted (t : HandlerTable) : Prop where
  count : t.count = t.typeIds.length
  length : t.slots.length ≤ Frame.maxTypeId + 1

theorem counted_empty : empty.Counted := ⟨rfl, Nat.zero_le _⟩

namespace Counted

theorem enter (counted : t.Counted) (within : typeId ≤ Frame.maxTypeId) (free : t.lookup typeId = none)
    (h : Handler) : (t.enter typeId h).Counted where
  count := by
    rw [length_typeIds_enter free]
    exact congrArg (· + 1) counted.count
  length := by
    have length := counted.length
    unfold HandlerTable.enter
    rw [List.length_set, length_grow]
    omega

theorem register (counted : t.Counted) (typeId : Nat) (h : Handler) : (t.register typeId h).2.Counted := by
  rcases t.register_cases typeId h with ⟨-, same⟩ | ⟨-, -, same⟩ | ⟨within, free, same⟩
  · rw [same]
    exact counted
  · rw [same]
    exact counted
  · rw [same]
    exact counted.enter within free h

theorem foldl (counted : t.Counted) (rows : List (Nat × Handler)) :
    (rows.foldl (fun t row => (t.register row.1 row.2).2) t).Counted := by
  induction rows generalizing t with
  | nil => exact counted
  | cons row later ih => exact ih (counted.register row.1 row.2)

end Counted

theorem lookup_register (t : HandlerTable) (typeId : Nat) (h : Handler) (other : Nat) :
    (t.register typeId h).2.lookup other =
      (t.lookup other).or (if other ≤ Frame.maxTypeId ∧ other = typeId then some h else none) := by
  rcases t.register_cases typeId h with ⟨large, same⟩ | ⟨-, ⟨holder, found⟩, same⟩ | ⟨within, free, same⟩
  · have apart : ¬(other ≤ Frame.maxTypeId ∧ other = typeId) := by omega
    rw [same, if_neg apart, Option.or_none]
  · rw [same]
    split
    · rename_i here
      rw [here.2, found]
      rfl
    · rw [Option.or_none]
  · rw [same, lookup_enter]
    by_cases here : other = typeId
    · subst here
      rw [if_pos rfl, if_pos ⟨within, rfl⟩, free]
      rfl
    · rw [if_neg here, if_neg (here ·.2), Option.or_none]

theorem lookup_foldl (rows : List (Nat × Handler)) (t : HandlerTable) (typeId : Nat) :
    (rows.foldl (fun t row => (t.register row.1 row.2).2) t).lookup typeId =
      (t.lookup typeId).or (if typeId ≤ Frame.maxTypeId then rows.lookup typeId else none) := by
  induction rows generalizing t with
  | nil =>
    rw [List.foldl_nil, List.lookup_nil, ite_self, Option.or_none]
  | cons row later ih =>
    obtain ⟨first, h⟩ := row
    rw [List.foldl_cons, ih, lookup_register, Option.or_assoc, List.lookup_cons]
    congr 1
    by_cases within : typeId ≤ Frame.maxTypeId
    · by_cases here : typeId = first
      · simp only [if_pos within, if_pos (And.intro within here), beq_iff_eq.mpr here, Option.some_or]
      · simp only [if_pos within, if_neg fun both => here (And.right both), beq_eq_false_iff_ne.mpr here,
          Option.none_or]
    · simp only [if_neg within, if_neg fun both => within (And.left both), Option.or_none]

structure Registered (rows : List (Nat × Handler)) (t : HandlerTable) : Prop where
  lookup : ∀ typeId, t.lookup typeId = if typeId ≤ Frame.maxTypeId then rows.lookup typeId else none
  typeIds : ∀ typeId, typeId ∈ t.typeIds ↔ typeId ≤ Frame.maxTypeId ∧ ∃ h, (typeId, h) ∈ rows
  ascending : t.typeIds.Pairwise (· < ·)
  size : t.size = t.typeIds.length
  isEmpty : t.isEmpty = true ↔ ∀ typeId, t.lookup typeId = none
  slots : t.slots.length ≤ 16384
  accepted : ∀ typeId h, (t.register typeId h).1 = .ok () ↔ typeId ≤ Frame.maxTypeId ∧ t.lookup typeId = none
  refused : ∀ typeId h why, (t.register typeId h).1 = .error why → (t.register typeId h).2 = t ∧
    (Frame.maxTypeId < typeId ∧ why = .frame (.fieldOutOfRange "request_type_id" typeId Frame.maxTypeId) ∨
      (∃ holder, t.lookup typeId = some holder) ∧ why = .duplicateHandler typeId)

theorem register_ok_iff (t : HandlerTable) (typeId : Nat) (h : Handler) :
    (t.register typeId h).1 = .ok () ↔ typeId ≤ Frame.maxTypeId ∧ t.lookup typeId = none := by
  rcases t.register_cases typeId h with ⟨large, same⟩ | ⟨-, ⟨holder, found⟩, same⟩ | ⟨within, free, same⟩
  · rw [same]
    exact ⟨nofun, fun accepted => absurd accepted.1 (Nat.not_le_of_lt large)⟩
  · rw [same, found]
    exact ⟨nofun, nofun⟩
  · rw [same]
    exact ⟨fun _ => ⟨within, free⟩, fun _ => rfl⟩

theorem register_error {why : RpcError} (refused : (t.register typeId h).1 = .error why) :
    (t.register typeId h).2 = t ∧
      (Frame.maxTypeId < typeId ∧ why = .frame (.fieldOutOfRange "request_type_id" typeId Frame.maxTypeId) ∨
        (∃ holder, t.lookup typeId = some holder) ∧ why = .duplicateHandler typeId) := by
  rcases t.register_cases typeId h with ⟨large, same⟩ | ⟨-, found, same⟩ | ⟨-, -, same⟩
  · rw [same] at refused ⊢
    cases refused
    exact ⟨rfl, .inl ⟨large, rfl⟩⟩
  · rw [same] at refused ⊢
    cases refused
    exact ⟨rfl, .inr ⟨found, rfl⟩⟩
  · rw [same] at refused
    cases refused

theorem Counted.isEmpty_iff (counted : t.Counted) : t.isEmpty = true ↔ ∀ typeId, t.lookup typeId = none := by
  unfold isEmpty
  rw [decide_eq_true_iff, counted.count, List.length_eq_zero_iff, List.eq_nil_iff_forall_not_mem]
  refine forall_congr' fun typeId => ?_
  rw [mem_typeIds, Option.not_isSome_iff_eq_none]

-- Whatever is registered, in whatever order, the table holds for every request type what came first.
theorem ofList_registered (rows : List (Nat × Handler)) : Registered rows (ofList rows) := by
  have counted : (ofList rows).Counted := counted_empty.foldl rows
  have first (typeId : Nat) : (ofList rows).lookup typeId =
      if typeId ≤ Frame.maxTypeId then rows.lookup typeId else none := by
    have found := lookup_foldl rows empty typeId
    rwa [show empty.lookup typeId = none from rfl, Option.none_or] at found
  refine ⟨first, fun typeId => ?_, typeIds_ascending _, counted.count, counted.isEmpty_iff, counted.length,
    register_ok_iff _, fun typeId h why => register_error⟩
  rw [mem_typeIds, first]
  split
  · rename_i within
    rw [List.lookup_isSome_iff]
    simp [within]
  · rename_i large
    exact ⟨nofun, fun given => absurd given.1 large⟩

-- A second handler for a request type is refused, and so is one for a type that no frame can carry.
example :
    (ofList [(300, ⟨.echo, true⟩), (1, ⟨.echo, false⟩), (300, ⟨.kindOf, false⟩), (16384, ⟨.echo, false⟩)]).typeIds =
    [1, 300] := by
  decide +kernel

end FramedRpc.HandlerTable
