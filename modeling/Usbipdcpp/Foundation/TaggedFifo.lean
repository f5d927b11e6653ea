import Mathlib.Data.List.Infix

namespace Usbipdcpp.Foundation.TaggedFifo

universe u v

variable {κ : Type u} {α : Type v}

/-- The consumers that the items of a queue fall to, when the consumers are served one after the
other and each asks for so many items. -/
def demand (asks : List (κ × Nat)) : List κ :=
  asks.flatMap fun ask => List.replicate ask.2 ask.1

/-- Each item falls to the consumer that it is tagged with, and none is left over. -/
def Meets (items : List (κ × α)) (asks : List (κ × Nat)) : Prop :=
  items.map Prod.fst <+: demand asks

variable {items : List (κ × α)} {asks before after : List (κ × Nat)} {k : κ} {n : Nat}

theorem demand_cons : demand ((k, n) :: asks) = List.replicate n k ++ demand asks :=
  rfl

theorem demand_append : demand (before ++ after) = demand before ++ demand after :=
  List.flatMap_append

theorem meets_nil : Meets ([] : List (κ × α)) asks :=
  List.nil_prefix

/-- Without consumers there are no items. -/
theorem Meets.eq_nil (h : Meets items []) : items = [] :=
  List.map_eq_nil_iff.mp (List.prefix_nil.mp h)

/-- Another consumer comes last. -/
theorem Meets.concat (h : Meets items asks) (ask : κ × Nat) : Meets items (asks ++ [ask]) := by
  unfold Meets
  rw [demand_append]
  exact List.IsPrefix.trans h (List.prefix_append _ _)

/-- What the first consumer takes is its own. -/
theorem Meets.take (h : Meets items ((k, n) :: asks)) :
    items.take n = ((items.map Prod.snd).take n).map (k, ·) := by
  induction n generalizing items with
  | zero => rfl
  | succ n ih =>
      cases items with
      | nil => rfl
      | cons item items =>
          obtain ⟨k', a⟩ := item
          unfold Meets at h ih
          rw [demand_cons, List.replicate_succ, List.cons_append, List.map_cons,
            List.cons_prefix_cons] at h
          obtain ⟨rfl, hrest⟩ := h
          rw [List.take_succ_cons, ih hrest]
          rfl

/-- What it leaves falls to the others. -/
theorem Meets.drop (h : Meets items ((k, n) :: asks)) : Meets (items.drop n) asks := by
  unfold Meets at h ⊢
  rw [demand_cons] at h
  rw [List.map_drop]
  have hdrop := h.drop n
  rwa [List.drop_left' List.length_replicate] at hdrop

/-- A consumer leaves to whom no item falls. -/
theorem Meets.without (h : Meets items (before ++ (k, n) :: after))
    (hnone : k ∉ items.map Prod.fst) : Meets items (before ++ after) := by
  unfold Meets at h ⊢
  rw [demand_append, demand_cons] at h
  rw [demand_append]
  rcases List.prefix_or_prefix_of_prefix h (List.prefix_append (demand before) _) with
    hprefix | ⟨rest, hrest⟩
  · exact hprefix.trans (List.prefix_append _ _)
  · rw [← hrest, List.prefix_append_right_inj] at h
    rw [← hrest, List.mem_append, not_or] at hnone
    rw [← hrest, List.prefix_append_right_inj]
    cases n with
    | zero => exact h
    | succ n =>
        cases rest with
        | nil => exact List.nil_prefix
        | cons k' rest =>
            rw [List.replicate_succ, List.cons_append, List.cons_prefix_cons] at h
            exact absurd (h.1 ▸ List.mem_cons_self) hnone.2

/-- Items are put that are for the consumer to whom they fall. -/
theorem Meets.put {new : List α} (h : Meets items asks)
    (hfalls : ∀ i < new.length, (demand asks)[items.length + i]? = some k) :
    Meets (items ++ new.map (k, ·)) asks := by
  unfold Meets at h ⊢
  rw [List.map_append, List.map_map]
  rw [List.prefix_iff_getElem?] at h ⊢
  intro i hi
  rw [List.length_append, List.length_map, List.length_map] at hi
  by_cases hlt : i < (items.map Prod.fst).length
  · rw [h i hlt, List.getElem_append_left hlt]
  · rw [List.length_map] at hlt
    have hfall := hfalls (i - items.length) (by omega)
    rw [Nat.add_sub_cancel' (Nat.le_of_not_lt hlt)] at hfall
    rw [hfall, List.getElem_append_right (by simpa using hlt)]
    simp

end Usbipdcpp.Foundation.TaggedFifo
