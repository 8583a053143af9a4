import Mathlib.Data.List.Nodup

namespace FramedRpc

variable {α β : Type} [DecidableEq α] {rows : List (α × β)} {key : α}

theorem lookup_iff_mem (keys : (rows.map (·.1)).Nodup) {entry : β} :
    rows.lookup key = some entry ↔ (key, entry) ∈ rows := by
  rw [List.lookup_eq_some_iff]
  constructor
  · rintro ⟨before, after, rfl, -⟩
    exact List.mem_append_right before List.mem_cons_self
  · intro member
    obtain ⟨before, after, rfl⟩ := List.append_of_mem member
    refine ⟨before, after, rfl, fun row earlier => bne_iff_ne.mpr ?_⟩
    rw [List.map_append] at keys
    exact ((List.nodup_append.mp keys).2.2 row.1 (List.mem_map_of_mem earlier) key (by simp)).symm

theorem lookup_eq_none_iff_not_mem : rows.lookup key = none ↔ key ∉ rows.map (·.1) := by
  rw [List.lookup_eq_none_iff, List.mem_map]
  constructor
  · rintro absent ⟨row, member, rfl⟩
    exact bne_iff_ne.mp (absent row member) rfl
  · intro absent row member
    exact bne_iff_ne.mpr fun same => absent ⟨row, member, same.symm⟩

theorem mem_keys_iff_lookup : key ∈ rows.map (·.1) ↔ ∃ entry, rows.lookup key = some entry := by
  rw [← not_iff_not, ← lookup_eq_none_iff_not_mem, Option.eq_none_iff_forall_ne_some, not_exists]

end FramedRpc
