import Mathlib.Data.List.Nodup
import Usbipdcpp.Foundation.FirstMatch

namespace Usbipdcpp.Foundation.PackedSlots

open FirstMatch

universe u

variable {α : Type u} {free a : α} {slots items : List α} {i n : Nat}

/-- The first `n` slots, filled with the items as far as these go. -/
def pad (n : Nat) (free : α) (items : List α) : List α := (items ++ .replicate n free).take n

theorem pad_eq : pad n free items = items.take n ++ .replicate (n - items.length) free := by
  rw [pad, List.take_append, List.take_replicate, Nat.min_eq_left (Nat.sub_le _ _)]

/-- All items of enough slots are there. -/
theorem mem_pad (hitems : items.length ≤ n) (ha : a ≠ free) : a ∈ pad n free items ↔ a ∈ items := by
  rw [pad_eq, List.take_of_length_le hitems, List.mem_append]
  exact or_iff_left fun hmem => ha (List.eq_of_mem_replicate hmem)

variable [DecidableEq α]

/-- The items in the slots that are not free. -/
def stored (free : α) (slots : List α) : List α := slots.filter (· ≠ free)

/-- The items are different from each other, and the free slots come behind them. -/
structure Packed (free : α) (slots : List α) : Prop where
  distinct : (stored free slots).Nodup
  packed : slots.Pairwise fun a later => a = free → later = free

theorem mem_stored : a ∈ stored free slots ↔ a ∈ slots ∧ a ≠ free := by
  rw [stored, List.mem_filter, decide_eq_true_iff]

theorem stored_append (before after : List α) :
    stored free (before ++ after) =
      stored free before ++ stored free after :=
  List.filter_append before after

theorem stored_cons_of_ne (h : a ≠ free) :
    stored free (a :: slots) = a :: stored free slots :=
  List.filter_cons_of_pos (decide_eq_true h)

theorem stored_cons_free :
    stored free (free :: slots) = stored free slots :=
  List.filter_cons_of_neg (by simp)

theorem stored_replicate : stored free (.replicate n free) = [] :=
  List.filter_eq_nil_iff.mpr fun a ha => by simp [List.eq_of_mem_replicate ha]

theorem stored_eq_self (h : free ∉ slots) : stored free slots = slots :=
  List.filter_eq_self.mpr fun _ hmem => decide_eq_true fun heq => h (heq ▸ hmem)

theorem stored_pad (h : free ∉ items) : stored free (pad n free items) = items.take n := by
  rw [pad_eq, stored_append, stored_replicate, List.append_nil]
  exact stored_eq_self fun hmem => h (List.mem_of_mem_take hmem)

/-- Filled from the front, the slots are packed just when no item comes twice among those there is
room for. -/
theorem packed_pad_iff (h : free ∉ items) :
    Packed free (pad n free items) ↔ (items.take n).Nodup := by
  constructor
  · intro hpacked
    have hdistinct := hpacked.distinct
    rwa [stored_pad h] at hdistinct
  · intro hnodup
    refine ⟨by rwa [stored_pad h], ?_⟩
    rw [pad_eq, List.pairwise_append]
    refine ⟨?_, ?_, fun a _ later hlater _ => List.eq_of_mem_replicate hlater⟩
    · refine List.pairwise_of_forall_mem_list fun a ha later _ hfree => ?_
      exact absurd (hfree ▸ List.mem_of_mem_take ha) h
    · exact List.pairwise_of_forall_mem_list fun a _ later hlater _ =>
        List.eq_of_mem_replicate hlater

/-- An item that is put in the first free slot. -/
theorem Packed.set_free (h : Packed free slots) (ha : a ≠ free) (hnew : a ∉ slots)
    (hfirst : slots.findIdx? (· = free) = some i) : Packed free (slots.set i a) := by
  obtain ⟨before, found, after, rfl, hfound, hbefore, hset, -⟩ := split_of_findIdx? hfirst
  obtain rfl : found = free := of_decide_eq_true hfound
  obtain ⟨hfront, hback, -⟩ := List.pairwise_append.mp h.packed
  obtain ⟨hallFree, hback⟩ := List.pairwise_cons.mp hback
  have hnone : found ∉ before := fun hmem => by simpa using hbefore found hmem
  have hbehind : stored found after = [] :=
    List.filter_eq_nil_iff.mpr fun later hlater => by simp [hallFree later hlater rfl]
  have hitems := h.distinct
  rw [stored_append, stored_cons_free, hbehind, List.append_nil, stored_eq_self hnone] at hitems
  rw [hset]
  constructor
  · rw [stored_append, stored_cons_of_ne ha, hbehind, stored_eq_self hnone]
    refine List.nodup_append.mpr ⟨hitems, List.nodup_singleton a, ?_⟩
    rintro b hb c hc rfl
    exact hnew (List.mem_append_left _ (List.mem_singleton.mp hc ▸ hb))
  · refine List.pairwise_append.mpr ⟨hfront, ?_, fun b hb later _ hfree => ?_⟩
    · exact List.pairwise_cons.mpr ⟨fun later _ hfree => absurd hfree ha, hback⟩
    · exact absurd (hfree ▸ hb) hnone

/-- What is left of the items when one is taken out of its slot. -/
theorem stored_set_sublist (hfirst : slots.findIdx? (· = a) = some i) :
    (stored free (slots.set i free)).Sublist (stored free slots) := by
  obtain ⟨before, found, after, rfl, -, -, hset, -⟩ := split_of_findIdx? hfirst
  rw [hset, stored_append, stored_append, stored_cons_free]
  exact (List.Sublist.refl _).append ((List.sublist_cons_self found after).filter _)

/-- The item that is taken out is nowhere else. -/
theorem not_mem_set (hdistinct : (stored free slots).Nodup) (ha : a ≠ free)
    (hfirst : slots.findIdx? (· = a) = some i) : a ∉ slots.set i free := by
  obtain ⟨before, found, after, rfl, hfound, hbefore, hset, -⟩ := split_of_findIdx? hfirst
  obtain rfl : found = a := of_decide_eq_true hfound
  rw [stored_append, stored_cons_of_ne ha] at hdistinct
  obtain ⟨-, hback, -⟩ := List.nodup_append.mp hdistinct
  rw [hset]
  intro hmem
  rcases List.mem_append.mp hmem with hmem | hmem
  · simpa using hbefore found hmem
  · rcases List.mem_cons.mp hmem with heq | hmem
    · exact ha heq
    · exact (List.nodup_cons.mp hback).1 (mem_stored.mpr ⟨hmem, ha⟩)

theorem mem_set_iff {b : α} (hb : b ≠ free) (hne : b ≠ a)
    (hfirst : slots.findIdx? (· = a) = some i) : b ∈ slots.set i free ↔ b ∈ slots := by
  obtain ⟨before, found, after, rfl, hfound, -, hset, -⟩ := split_of_findIdx? hfirst
  obtain rfl : found = a := of_decide_eq_true hfound
  rw [hset]
  simp [hb, hne]

end Usbipdcpp.Foundation.PackedSlots
