import Mathlib.Data.List.Perm.Basic

namespace Usbipdcpp.Foundation.FilledArray

universe u

variable {α : Type u} {n : Nat}

/-- An array of `n` places, the first of which hold the items. -/
def filled (n : Nat) (items : List α) : List (Option α) :=
  items.map some ++ .replicate (n - items.length) none

theorem take_filled (items : List α) : (filled n items).take items.length = items.map some :=
  List.take_left' (List.length_map _)

theorem filled_concat (items : List α) (a : α) :
    filled n (items ++ [a]) =
      items.map some ++ some a :: .replicate (n - (items.length + 1)) none := by
  simp [filled]

theorem filled_of_room {items : List α} (hroom : items.length < n) :
    filled n items = items.map some ++ none :: .replicate (n - (items.length + 1)) none := by
  have hsplit : n - items.length = n - (items.length + 1) + 1 := by omega
  rw [filled, hsplit, List.replicate_succ]

/-- An item put into the first place that holds none. -/
theorem put_filled {items : List α} (hroom : items.length < n) (a : α) :
    (filled n items).set items.length (some a) = filled n (items ++ [a]) := by
  rw [filled_of_room hroom, filled_concat]
  simp

/-- The last place that holds an item cleared. -/
theorem clear_filled {items : List α} (hroom : items.length < n) (a : α) :
    (filled n (items ++ [a])).set items.length none = filled n items := by
  rw [filled_of_room hroom, filled_concat]
  simp

theorem getD_filled (items : List α) (a : α) :
    (filled n (items ++ [a])).getD items.length none = some a := by
  rw [filled_concat]
  simp

theorem replace_filled (before after : List α) (a b : α) :
    (filled n (before ++ a :: after)).set before.length (some b) =
      filled n (before ++ b :: after) := by
  simp [filled]

/-- An item taken out, with the last one moved into its place. -/
theorem remove_filled {before after : List α} {a : α}
    (hfits : (before ++ a :: after).length ≤ n) :
    let slots := filled n (before ++ a :: after)
    let last := (before ++ a :: after).length - 1
    ∃ items : List α, items.Perm (before ++ after) ∧
      (slots.set before.length (slots.getD last none)).set last none = filled n items := by
  rcases List.eq_nil_or_concat after with rfl | ⟨middle, moved, rfl⟩
  · have hlast : (before ++ [a]).length - 1 = before.length := by simp
    have hroom : before.length < n := by
      rw [List.length_append] at hfits
      exact hfits
    refine ⟨before, .of_eq (List.append_nil before).symm, ?_⟩
    rw [hlast, getD_filled, replace_filled, clear_filled hroom]
  · rw [List.concat_eq_append] at hfits ⊢
    have hsplit (b : α) : before ++ b :: (middle ++ [moved]) =
        (before ++ b :: middle) ++ [moved] := by simp
    have hlength (b : α) :
        (before ++ b :: middle).length = before.length + (middle.length + 1) := by
      simp
    have hlast : (before ++ a :: (middle ++ [moved])).length - 1 =
        (before ++ a :: middle).length := by
      rw [hsplit]
      simp
    have hroom : (before ++ moved :: middle).length < n := by
      rw [hsplit, List.length_append, hlength] at hfits
      rw [hlength]
      exact hfits
    refine ⟨before ++ moved :: middle, ?_, ?_⟩
    · have hmoved := List.perm_append_singleton moved (before ++ middle)
      exact (List.perm_middle.trans hmoved.symm).trans
        (.of_eq (List.append_assoc before middle [moved]))
    · rw [hlast]
      conv_lhs => rw [hsplit a, getD_filled, ← hsplit a, replace_filled, hsplit moved]
      rw [hlength a, ← hlength moved, clear_filled hroom]

end Usbipdcpp.Foundation.FilledArray
