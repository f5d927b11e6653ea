import Mathlib.Data.Finmap
import Usbipdcpp.Foundation.KeyedList

namespace Usbipdcpp.Foundation

open KeyedList

universe u v

variable {κ : Type u} {σ : Type v} [DecidableEq κ]

/-- The entries of a finite map, each of them once, in some order. -/
structure Lists (m : Finmap fun _ : κ => σ) (l : List (κ × σ)) : Prop where
  distinct : Distinct Prod.fst l
  mem_iff : ∀ k v, (k, v) ∈ l ↔ m.lookup k = some v

namespace Lists

variable {m : Finmap fun _ : κ => σ} {l : List (κ × σ)} {k : κ} {v : σ}

theorem empty : Lists (∅ : Finmap fun _ : κ => σ) [] where
  distinct := List.nodup_nil
  mem_iff := by simp

theorem lookup_eq (h : Lists m l) (k : κ) :
    (lookup Prod.fst k l).map Prod.snd = m.lookup k := by
  cases hlookup : lookup Prod.fst k l with
  | none =>
      refine (Option.eq_none_iff_forall_not_mem.mpr fun v hv => ?_).symm
      exact lookup_eq_none_iff.mp hlookup (k, v) ((h.mem_iff k v).mpr hv) rfl
  | some entry =>
      obtain ⟨k', v⟩ := entry
      obtain rfl : k' = k := key_of_lookup hlookup
      exact ((h.mem_iff k' v).mp (mem_of_lookup hlookup)).symm

theorem mem_map_fst_iff (h : Lists m l) : k ∈ l.map Prod.fst ↔ k ∈ m := by
  rw [List.mem_map, Finmap.mem_iff]
  constructor
  · rintro ⟨⟨k, v⟩, hmem, rfl⟩
    exact ⟨v, (h.mem_iff k v).mp hmem⟩
  · rintro ⟨v, hlookup⟩
    exact ⟨(k, v), (h.mem_iff k v).mpr hlookup, rfl⟩

theorem card_keys (h : Lists m l) : m.keys.card = l.length := by
  have hkeys : m.keys = (l.map Prod.fst).toFinset := by
    ext k
    rw [Finmap.mem_keys, List.mem_toFinset, h.mem_map_fst_iff]
  rw [hkeys, List.toFinset_card_of_nodup h.distinct, List.length_map]

theorem insert (h : Lists m l) (hnew : k ∉ m) : Lists (m.insert k v) ((k, v) :: l) where
  distinct := List.nodup_cons.mpr ⟨fun hmem => hnew (h.mem_map_fst_iff.mp hmem), h.distinct⟩
  mem_iff k' v' := by
    rw [List.mem_cons, h.mem_iff]
    rcases eq_or_ne k' k with rfl | hne
    · have hnone : m.lookup k' = none := Finmap.lookup_eq_none.mpr hnew
      rw [Finmap.lookup_insert, hnone]
      simp [eq_comm]
    · rw [Finmap.lookup_insert_of_ne m hne]
      simp [hne]

theorem erase (h : Lists m l) : Lists (m.erase k) (remove Prod.fst k l) where
  distinct := distinct_remove h.distinct
  mem_iff k' v' := by
    rw [mem_remove_iff h.distinct, h.mem_iff]
    rcases eq_or_ne k' k with rfl | hne
    · simp
    · simp [Finmap.lookup_erase_ne hne, hne]

theorem of_perm {l' : List (κ × σ)} (h : Lists m l) (hperm : l'.Perm l) : Lists m l' where
  distinct := (hperm.map Prod.fst).nodup_iff.mpr h.distinct
  mem_iff k v := hperm.mem_iff.trans (h.mem_iff k v)

theorem exists_of_distinct (hdistinct : Distinct Prod.fst l) :
    ∃ m : Finmap fun _ : κ => σ, Lists m l := by
  induction l with
  | nil => exact ⟨∅, empty⟩
  | cons entry l ih =>
      obtain ⟨hnew, hrest⟩ := List.nodup_cons.mp hdistinct
      obtain ⟨m, hm⟩ := ih hrest
      exact ⟨m.insert entry.1 entry.2, hm.insert fun hmem => hnew (hm.mem_map_fst_iff.mpr hmem)⟩

/-- The entries with their values changed are those of a finite map. -/
theorem exists_map (h : Lists m l) (f : κ → σ → σ) :
    ∃ m' : Finmap fun _ : κ => σ, (∀ k, m'.lookup k = (m.lookup k).map (f k)) ∧
      Lists m' (l.map fun entry => (entry.1, f entry.1 entry.2)) := by
  have hdistinct : Distinct Prod.fst (l.map fun entry => (entry.1, f entry.1 entry.2)) := by
    rw [Distinct, List.map_map]
    exact h.distinct
  obtain ⟨m', hm'⟩ := exists_of_distinct hdistinct
  refine ⟨m', fun k => ?_, hm'⟩
  ext v
  rw [← hm'.mem_iff]
  simp [h.mem_iff]

end Lists

end Usbipdcpp.Foundation
