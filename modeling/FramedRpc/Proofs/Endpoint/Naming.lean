import Mathlib.Data.List.Induction
import Mathlib.Data.List.ProdSigma
import FramedRpc.Endpoint.Method
import FramedRpc.Proofs.Lookup

namespace FramedRpc.MethodTable

variable {t : MethodTable} {name other : MethodName} {typeId taken : Nat}

def enter (t : MethodTable) (name : MethodName) (typeId : Nat) : MethodTable :=
  ⟨(name, typeId) :: t.byName, (typeId, name) :: t.byId⟩

theorem insert_cases (t : MethodTable) (name : MethodName) (typeId : Nat) :
    (∃ holder, t.lookup name = some holder) ∧
        t.insert name typeId = (.error (.duplicateMethod name.interface name.method), t) ∨
      t.lookup name = none ∧ (∃ holder, t.nameOf typeId = some holder) ∧
        t.insert name typeId = (.error (.duplicateHandler typeId), t) ∨
      t.lookup name = none ∧ t.nameOf typeId = none ∧ t.insert name typeId = (.ok (), t.enter name typeId) := by
  unfold insert
  cases named : t.lookup name with
  | some holder => exact .inl ⟨⟨holder, rfl⟩, rfl⟩
  | none =>
    cases used : t.nameOf typeId with
    | some holder => exact .inr (.inl ⟨rfl, ⟨holder, rfl⟩, rfl⟩)
    | none => exact .inr (.inr ⟨rfl, rfl, rfl⟩)

theorem insert_ok_iff (t : MethodTable) (name : MethodName) (typeId : Nat) :
    (t.insert name typeId).1 = .ok () ↔ t.lookup name = none ∧ t.nameOf typeId = none := by
  rcases t.insert_cases name typeId with ⟨⟨holder, found⟩, same⟩ | ⟨-, ⟨holder, found⟩, same⟩ | ⟨free, unused, same⟩
  · rw [same, found]
    exact ⟨nofun, nofun⟩
  · rw [same, found]
    exact ⟨nofun, nofun⟩
  · rw [same]
    exact ⟨fun _ => ⟨free, unused⟩, fun _ => rfl⟩

theorem insert_error {why : RpcError} (refused : (t.insert name typeId).1 = .error why) :
    (t.insert name typeId).2 = t ∧
      ((∃ holder, t.lookup name = some holder) ∧ why = .duplicateMethod name.interface name.method ∨
        t.lookup name = none ∧ (∃ holder, t.nameOf typeId = some holder) ∧ why = .duplicateHandler typeId) := by
  rcases t.insert_cases name typeId with ⟨found, same⟩ | ⟨free, found, same⟩ | ⟨-, -, same⟩
  · rw [same] at refused ⊢
    cases refused
    exact ⟨rfl, .inl ⟨found, rfl⟩⟩
  · rw [same] at refused ⊢
    cases refused
    exact ⟨rfl, .inr ⟨free, found, rfl⟩⟩
  · rw [same] at refused
    cases refused

theorem mem_insert (t : MethodTable) (row : MethodName × Nat) :
    (name, typeId) ∈ (t.insert row.1 row.2).2.byName ↔
      (name, typeId) ∈ t.byName ∨ row = (name, typeId) ∧ (t.insert name typeId).1 = .ok () := by
  obtain ⟨first, taken⟩ := row
  have refused (same : (t.insert first taken).1 ≠ .ok ()) :
      ¬((first, taken) = (name, typeId) ∧ (t.insert name typeId).1 = .ok ()) := by
    rintro ⟨⟨⟩, accepted⟩
    exact same accepted
  rcases t.insert_cases first taken with ⟨-, same⟩ | ⟨-, -, same⟩ | ⟨-, -, same⟩
  · rw [or_iff_left (refused (by rw [same]; nofun)), same]
  · rw [or_iff_left (refused (by rw [same]; nofun)), same]
  · rw [same, enter, List.mem_cons, or_comm]
    refine or_congr_right ?_
    constructor
    · rintro ⟨⟩
      exact ⟨rfl, congrArg Prod.fst same⟩
    · exact fun given => given.1.symm

-- The two maps are the same rows read in both directions, and neither of them has a key twice.
structure Paired (t : MethodTable) : Prop where
  mirrored : t.byId = t.byName.map Prod.swap
  names : (t.byName.map (·.1)).Nodup
  typeIds : (t.byId.map (·.1)).Nodup

theorem paired_empty : empty.Paired := ⟨rfl, .nil, .nil⟩

namespace Paired

theorem lookup_iff (paired : t.Paired) : t.lookup name = some typeId ↔ (name, typeId) ∈ t.byName :=
  lookup_iff_mem paired.names

theorem nameOf_iff (paired : t.Paired) : t.nameOf typeId = some name ↔ (name, typeId) ∈ t.byName := by
  unfold nameOf
  rw [lookup_iff_mem paired.typeIds, paired.mirrored]
  exact List.mem_map_swap name typeId t.byName

theorem enter (paired : t.Paired) (free : t.lookup name = none) (unused : t.nameOf typeId = none) :
    (t.enter name typeId).Paired where
  mirrored := by
    unfold MethodTable.enter
    rw [paired.mirrored]
    rfl
  names := List.nodup_cons.mpr ⟨lookup_eq_none_iff_not_mem.mp free, paired.names⟩
  typeIds := List.nodup_cons.mpr ⟨lookup_eq_none_iff_not_mem.mp unused, paired.typeIds⟩

theorem insert (paired : t.Paired) (name : MethodName) (typeId : Nat) : (t.insert name typeId).2.Paired := by
  rcases t.insert_cases name typeId with ⟨-, same⟩ | ⟨-, -, same⟩ | ⟨free, unused, same⟩
  · rw [same]
    exact paired
  · rw [same]
    exact paired
  · rw [same]
    exact paired.enter free unused

theorem name_eq (paired : t.Paired) (one : t.lookup name = some typeId) (another : t.lookup other = some typeId) :
    name = other := by
  have here := paired.nameOf_iff.mpr (paired.lookup_iff.mp one)
  have there := paired.nameOf_iff.mpr (paired.lookup_iff.mp another)
  exact Option.some.inj (here.symm.trans there)

end Paired

variable {rows : List (MethodName × Nat)} {row : MethodName × Nat} {place later : Nat}

theorem ofList_concat (rows : List (MethodName × Nat)) (row : MethodName × Nat) :
    ofList (rows ++ [row]) = ((ofList rows).insert row.1 row.2).2 := by
  unfold ofList
  rw [List.foldl_append]
  rfl

theorem paired_ofList (rows : List (MethodName × Nat)) : (ofList rows).Paired := by
  induction rows using List.reverseRecOn with
  | nil => exact paired_empty
  | append_singleton rows row ih =>
    rw [ofList_concat]
    exact ih.insert row.1 row.2

-- The row at a place in a sequence of insertions is accepted by the table that the rows in front of it made.
def AcceptedAt (rows : List (MethodName × Nat)) (place : Nat) (name : MethodName) (typeId : Nat) : Prop :=
  rows[place]? = some (name, typeId) ∧ ((ofList (rows.take place)).insert name typeId).1 = .ok ()

theorem AcceptedAt.lt_length (accepted : AcceptedAt rows place name typeId) : place < rows.length :=
  (List.getElem?_eq_some_iff.mp accepted.1).1

theorem acceptedAt_take :
    AcceptedAt (rows.take later) place name typeId ↔ place < later ∧ AcceptedAt rows place name typeId := by
  unfold AcceptedAt
  by_cases before : place < later
  · rw [List.getElem?_take_of_lt before, List.take_take, Nat.min_eq_left (Nat.le_of_lt before)]
    exact (and_iff_right before).symm
  · rw [List.getElem?_take_eq_none (Nat.le_of_not_lt before)]
    exact ⟨nofun, fun given => absurd given.1 before⟩

theorem acceptedAt_concat : AcceptedAt (rows ++ [row]) place name typeId ↔
    AcceptedAt rows place name typeId ∨
      place = rows.length ∧ row = (name, typeId) ∧ ((ofList rows).insert name typeId).1 = .ok () := by
  rcases Nat.lt_trichotomy place rows.length with before | rfl | behind
  · have front : AcceptedAt ((rows ++ [row]).take rows.length) place name typeId ↔
        place < rows.length ∧ AcceptedAt (rows ++ [row]) place name typeId := acceptedAt_take
    rw [List.take_left] at front
    rw [front]
    constructor
    · exact fun accepted => .inl ⟨before, accepted⟩
    · rintro (⟨-, accepted⟩ | ⟨rfl, -⟩)
      · exact accepted
      · exact absurd before (Nat.lt_irrefl _)
  · have unmade : ¬AcceptedAt rows rows.length name typeId := fun accepted => Nat.lt_irrefl _ accepted.lt_length
    unfold AcceptedAt at unmade ⊢
    rw [List.getElem?_concat_length, List.take_left, Option.some.injEq, or_iff_right unmade]
    exact (and_iff_right rfl).symm
  · constructor
    · intro accepted
      have inside := accepted.lt_length
      rw [List.length_append, List.length_singleton] at inside
      omega
    · rintro (accepted | ⟨rfl, -⟩)
      · exact absurd accepted.lt_length (Nat.lt_asymm behind)
      · exact absurd behind (Nat.lt_irrefl _)

theorem mem_ofList : (name, typeId) ∈ (ofList rows).byName ↔ ∃ place, AcceptedAt rows place name typeId := by
  induction rows using List.reverseRecOn with
  | nil => exact ⟨nofun, fun ⟨_, accepted⟩ => nomatch accepted.lt_length⟩
  | append_singleton rows row ih =>
    rw [ofList_concat, mem_insert, ih]
    simp only [acceptedAt_concat, exists_or, exists_eq_left]

theorem lookup_ofList : (ofList rows).lookup name = some typeId ↔ ∃ place, AcceptedAt rows place name typeId :=
  (paired_ofList rows).lookup_iff.trans mem_ofList

theorem nameOf_ofList : (ofList rows).nameOf typeId = some name ↔ ∃ place, AcceptedAt rows place name typeId :=
  (paired_ofList rows).nameOf_iff.trans mem_ofList

theorem acceptedAt_iff : AcceptedAt rows place name typeId ↔
    rows[place]? = some (name, typeId) ∧
      ∀ earlier < place, ∀ other taken, AcceptedAt rows earlier other taken → other ≠ name ∧ taken ≠ typeId := by
  refine and_congr_right fun _ => ?_
  rw [insert_ok_iff]
  constructor
  · rintro ⟨free, unused⟩ earlier before other taken accepted
    have front : AcceptedAt (rows.take place) earlier other taken := acceptedAt_take.mpr ⟨before, accepted⟩
    constructor
    · rintro rfl
      exact absurd (free.symm.trans (lookup_ofList.mpr ⟨earlier, front⟩)) nofun
    · rintro rfl
      exact absurd (unused.symm.trans (nameOf_ofList.mpr ⟨earlier, front⟩)) nofun
  · intro apart
    constructor
    · refine Option.eq_none_iff_forall_ne_some.mpr fun taken found => ?_
      obtain ⟨earlier, front⟩ := lookup_ofList.mp found
      obtain ⟨before, accepted⟩ := acceptedAt_take.mp front
      exact (apart earlier before name taken accepted).1 rfl
    · refine Option.eq_none_iff_forall_ne_some.mpr fun other found => ?_
      obtain ⟨earlier, front⟩ := nameOf_ofList.mp found
      obtain ⟨before, accepted⟩ := acceptedAt_take.mp front
      exact (apart earlier before other typeId accepted).2 rfl

theorem AcceptedAt.once {again : Nat} (accepted : AcceptedAt rows place name typeId)
    (repeated : AcceptedAt rows again other taken) (shared : name = other ∨ typeId = taken) : place = again := by
  rcases Nat.lt_trichotomy place again with before | same | behind
  · obtain ⟨named, numbered⟩ := (acceptedAt_iff.mp repeated).2 place before name typeId accepted
    exact absurd shared (not_or.mpr ⟨named, numbered⟩)
  · exact same
  · obtain ⟨named, numbered⟩ := (acceptedAt_iff.mp accepted).2 again behind other taken repeated
    exact absurd shared (not_or.mpr ⟨named.symm, numbered.symm⟩)

-- A table as its insertions made it, one after another, some of them refused.
structure Inserted (rows : List (MethodName × Nat)) (t : MethodTable) : Prop where
  inverse : ∀ name typeId, t.lookup name = some typeId ↔ t.nameOf typeId = some name
  distinct : ∀ name other typeId, t.lookup name = some typeId → t.lookup other = some typeId → name = other
  -- The size counts the entries of either map, with one entry for each name and one for each request type.
  size : t.size = t.byId.length
  names : (t.byName.map (·.1)).Nodup ∧ ∀ name, name ∈ t.byName.map (·.1) ↔ ∃ typeId, t.lookup name = some typeId
  typeIds : (t.byId.map (·.1)).Nodup ∧ ∀ typeId, typeId ∈ t.byId.map (·.1) ↔ ∃ name, t.nameOf typeId = some name
  named : ∀ name typeId, t.lookup name = some typeId ↔ ∃ place, AcceptedAt rows place name typeId ∧
    ∀ earlier < place, ∀ taken, ¬AcceptedAt rows earlier name taken
  numbered : ∀ name typeId, t.nameOf typeId = some name ↔ ∃ place, AcceptedAt rows place name typeId ∧
    ∀ earlier < place, ∀ other, ¬AcceptedAt rows earlier other typeId
  accepted : ∀ place name typeId, AcceptedAt rows place name typeId ↔
    rows[place]? = some (name, typeId) ∧
      ∀ earlier < place, ∀ other taken, AcceptedAt rows earlier other taken → other ≠ name ∧ taken ≠ typeId
  accepts : ∀ name typeId, (t.insert name typeId).1 = .ok () ↔ t.lookup name = none ∧ t.nameOf typeId = none
  refused : ∀ name typeId why, (t.insert name typeId).1 = .error why → (t.insert name typeId).2 = t ∧
    ((∃ holder, t.lookup name = some holder) ∧ why = .duplicateMethod name.interface name.method ∨
      t.lookup name = none ∧ (∃ holder, t.nameOf typeId = some holder) ∧ why = .duplicateHandler typeId)

-- Whatever is inserted, in whatever order, methods and request types stay paired off.
theorem ofList_inserted (rows : List (MethodName × Nat)) : Inserted rows (ofList rows) := by
  have paired := paired_ofList rows
  have inverse (name : MethodName) (typeId : Nat) :
      (ofList rows).lookup name = some typeId ↔ (ofList rows).nameOf typeId = some name :=
    paired.lookup_iff.trans paired.nameOf_iff.symm
  have mirrored : (ofList rows).size = (ofList rows).byId.length := by
    rw [paired.mirrored, List.length_map]
    rfl
  refine ⟨inverse, fun name other typeId => paired.name_eq, mirrored, ⟨paired.names, fun _ => mem_keys_iff_lookup⟩,
    ⟨paired.typeIds, fun _ => mem_keys_iff_lookup⟩, fun name typeId => ?_, fun name typeId => ?_,
    fun _ _ _ => acceptedAt_iff, insert_ok_iff _, fun name typeId why => insert_error⟩
  · rw [lookup_ofList]
    refine exists_congr fun place => (and_iff_left_of_imp fun accepted earlier before taken prior => ?_).symm
    exact Nat.ne_of_lt before (prior.once accepted (.inl rfl))
  · rw [nameOf_ofList]
    refine exists_congr fun place => (and_iff_left_of_imp fun accepted earlier before other prior => ?_).symm
    exact Nat.ne_of_lt before (prior.once accepted (.inr rfl))

-- The third row shares its method with the first row and its request type with the second.
example :
    let rows := [(⟨"Echo", "echo"⟩, 1), (⟨"Echo", "ping"⟩, 2), (⟨"Echo", "echo"⟩, 2), (⟨"Echo", "again"⟩, 1)]
    (ofList rows).byName = [(⟨"Echo", "ping"⟩, 2), (⟨"Echo", "echo"⟩, 1)] ∧
      ((ofList rows).insert ⟨"Echo", "echo"⟩ 2).1 = .error (.duplicateMethod "Echo" "echo") := by
  decide +kernel

end FramedRpc.MethodTable
