import Mathlib.Data.List.Nodup

/-!
# Rows that are looked up by name

A name is looked up as the value of the first row of that name.

* `mem_of_lookup`: what is looked up is a row;
* `lookup_of_mem` and `lookup_eq_some_iff_mem`: where no name occurs twice, every row is found.
-/

namespace TenantGuard

variable {α : Type} {rows : List (String × α)} {name : String} {a : α}

theorem mem_of_lookup (h : rows.lookup name = some a) : (name, a) ∈ rows := by
  obtain ⟨before, behind, rfl, -⟩ := List.lookup_eq_some_iff.1 h
  simp

theorem lookup_of_mem : ∀ {rows : List (String × α)}, (rows.map Prod.fst).Nodup →
    (name, a) ∈ rows → rows.lookup name = some a
  | (n, b) :: rows, hdistinct, h => by
    rw [List.map_cons, List.nodup_cons] at hdistinct
    rcases List.mem_cons.1 h with heq | hmem
    · cases heq
      exact List.lookup_cons_self
    · have hne : name ≠ n := by
        rintro rfl
        exact hdistinct.1 (List.mem_map.2 ⟨_, hmem, rfl⟩)
      rw [List.lookup_cons, beq_false_of_ne hne]
      exact lookup_of_mem hdistinct.2 hmem

theorem lookup_eq_some_iff_mem (hdistinct : (rows.map Prod.fst).Nodup) :
    rows.lookup name = some a ↔ (name, a) ∈ rows :=
  ⟨mem_of_lookup, lookup_of_mem hdistinct⟩

end TenantGuard
