import Mathlib.Data.List.GetD
import Mathlib.Data.Nat.ModEq

namespace Usbipdcpp.Foundation.CircularWindow

universe u

variable {α : Type u} [Inhabited α] {cells : List α} {capacity head count : Nat}

/-- The `count` cells from `head` on, where the first cell comes after the last one. -/
def window (cells : List α) (capacity head count : Nat) : List α :=
  (List.range count).map fun i => cells.getD ((head + i) % capacity) default

@[simp] theorem length_window : (window cells capacity head count).length = count := by
  simp [window]

@[simp] theorem window_zero : window cells capacity head 0 = [] := rfl

theorem window_concat :
    window cells capacity head (count + 1) =
      window cells capacity head count ++ [cells.getD ((head + count) % capacity) default] := by
  simp [window, List.range_succ]

/-- Going one cell further at the front leaves the first cell out. -/
theorem window_cons :
    window cells capacity head (count + 1) =
      cells.getD (head % capacity) default ::
        window cells capacity ((head + 1) % capacity) count := by
  simp only [window, List.range_succ_eq_map, List.map_cons, List.map_map, Nat.add_zero,
    List.cons.injEq, true_and]
  refine List.map_congr_left fun i _ => ?_
  simp only [Function.comp_apply, Nat.mod_add_mod]
  rw [Nat.succ_eq_add_one, Nat.add_assoc, Nat.add_comm 1 i]

/-- Cells that are added behind the others do not show as long as nothing is stored in them. -/
theorem window_append_default (n : Nat) :
    window (cells ++ .replicate n default) capacity head count =
      window cells capacity head count := by
  refine List.map_congr_left fun i _ => ?_
  by_cases h : (head + i) % capacity < cells.length
  · rw [List.getD_append _ _ _ _ h]
  · have hle := Nat.le_of_not_lt h
    rw [List.getD_append_right _ _ _ _ hle, List.getD_eq_default _ _ hle,
      List.getD_eq_getElem?_getD, List.getElem?_getD_replicate_default_eq]

theorem add_mod_ne {i : Nat} (head : Nat) (hi : i < count) (hcount : count < capacity) :
    (head + i) % capacity ≠ (head + count) % capacity := by
  intro h
  have hmod : i ≡ count [MOD capacity] := Nat.ModEq.add_left_cancel' head h
  rw [Nat.ModEq, Nat.mod_eq_of_lt (hi.trans hcount), Nat.mod_eq_of_lt hcount] at hmod
  exact hi.ne hmod

/-- The cell behind the window is free as long as the window does not fill all cells. -/
theorem window_set (hcount : count < capacity) (a : α) :
    window (cells.set ((head + count) % capacity) a) capacity head count =
      window cells capacity head count := by
  refine List.map_congr_left fun i hi => ?_
  have hne := add_mod_ne head (List.mem_range.mp hi) hcount
  rw [List.getD_eq_getElem?_getD, List.getElem?_set_ne hne.symm, ← List.getD_eq_getElem?_getD]

theorem window_set_concat (hcount : count < capacity) (hcells : capacity ≤ cells.length) (a : α) :
    window (cells.set ((head + count) % capacity) a) capacity head (count + 1) =
      window cells capacity head count ++ [a] := by
  have hlt : (head + count) % capacity < cells.length :=
    (Nat.mod_lt _ (Nat.zero_lt_of_lt hcount)).trans_le hcells
  rw [window_concat, window_set hcount]
  simp [List.getD_eq_getElem?_getD, hlt]

end Usbipdcpp.Foundation.CircularWindow
