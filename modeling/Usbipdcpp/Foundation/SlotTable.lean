import Mathlib.Data.List.Basic
import Usbipdcpp.Foundation.FirstMatch
import Usbipdcpp.Foundation.KeyedList

namespace Usbipdcpp.Foundation

open FirstMatch KeyedList

universe u v

/-- A place for an entry; one that is not occupied may still hold an old one. -/
structure Slot (α : Type u) where
  entry : α
  occupied : Bool
  deriving DecidableEq, Repr

/-- Slots that are filled again when their entries have gone, and the number of entries, which is
counted apart. -/
structure SlotTable (α : Type u) where
  slots : List (Slot α) := []
  size : Nat := 0
  deriving DecidableEq, Repr

namespace SlotTable

variable {α : Type u} {κ : Type v} [DecidableEq κ] (key : α → κ)

/-- The entries in the occupied slots. -/
def entries (table : SlotTable α) : List α :=
  (table.slots.filter (·.occupied)).map (·.entry)

/-- The entry in the first occupied slot with that key. -/
def find (k : κ) (table : SlotTable α) : Option α :=
  (table.slots.find? fun slot => slot.occupied && decide (key slot.entry = k)).map (·.entry)

/-- The table with an entry in the first slot that is free, or in a new one behind the others. -/
def place (a : α) (table : SlotTable α) : SlotTable α where
  slots :=
    match table.slots.findIdx? (! ·.occupied) with
    | some i => table.slots.set i ⟨a, true⟩
    | none => table.slots ++ [⟨a, true⟩]
  size := table.size + 1

/-- Whether there is an occupied slot with that key, and the table with the first one freed. -/
def erase (k : κ) (table : SlotTable α) : Bool × SlotTable α :=
  match table.slots.findIdx? fun slot => slot.occupied && decide (key slot.entry = k) with
  | some i =>
      (true,
        { slots := table.slots.modify i fun slot => { slot with occupied := false }
          size := table.size - 1 })
  | none => (false, table)

/-- The table with its entries changed in their places. -/
def mapEntries (f : α → α) (table : SlotTable α) : SlotTable α :=
  { table with
    slots := table.slots.map fun slot =>
      if slot.occupied = true then { slot with entry := f slot.entry } else slot }

def clear (table : SlotTable α) : SlotTable α where
  slots := table.slots.map fun slot => { slot with occupied := false }
  size := 0

/-- The number is that of the occupied slots, of which no two have the same key. -/
structure Sound (table : SlotTable α) : Prop where
  size_eq : table.size = table.slots.countP (·.occupied)
  distinct : Distinct (fun slot => key slot.entry) (table.slots.filter (·.occupied))

/-- There are more slots than before only where all of these were occupied. -/
def GrowsWhenFull (table later : SlotTable α) : Prop :=
  table.slots.length < later.slots.length → ∀ slot ∈ table.slots, slot.occupied = true

variable {key} {table : SlotTable α} {k : κ} {a : α}

omit [DecidableEq κ] in
theorem length_entries : table.entries.length = table.slots.countP (·.occupied) := by
  rw [entries, List.length_map, List.countP_eq_length_filter]

omit [DecidableEq κ] in
theorem distinct_entries_iff :
    Distinct key table.entries ↔
      Distinct (fun slot => key slot.entry) (table.slots.filter (·.occupied)) := by
  rw [Distinct, Distinct, entries, List.map_map]
  rfl

omit [DecidableEq κ] in
theorem sound_iff :
    table.Sound key ↔ table.size = table.entries.length ∧ Distinct key table.entries := by
  rw [length_entries, distinct_entries_iff]
  exact ⟨fun h => ⟨h.size_eq, h.distinct⟩, fun h => ⟨h.1, h.2⟩⟩

theorem find_eq : table.find key k = lookup key k table.entries := by
  have hboth : (fun slot : Slot α => slot.occupied && decide (key slot.entry = k)) =
      fun slot => decide (slot.occupied = true ∧ decide (key slot.entry = k) = true) := by
    funext slot
    simp
  rw [find, hboth, lookup, entries, List.find?_map, List.find?_filter]
  rfl

omit [DecidableEq κ] in
theorem perm_entries_place : (table.place a).entries.Perm (a :: table.entries) := by
  unfold entries place
  cases hfree : table.slots.findIdx? (! ·.occupied) with
  | some i =>
      obtain ⟨before, free, after, hslots, hnot, -, hset, -⟩ := split_of_findIdx? hfree
      have hempty : free.occupied = false := Bool.not_eq_true' _ ▸ hnot
      dsimp only
      rw [hset, hslots, List.filter_append, List.filter_append, List.filter_cons_of_pos rfl,
        List.filter_cons_of_neg (by simp [hempty]), List.map_append, List.map_append]
      exact List.perm_middle
  | none =>
      dsimp only
      rw [List.filter_append, List.filter_cons_of_pos rfl, List.map_append]
      exact List.perm_append_singleton a _

omit [DecidableEq κ] in
theorem growsWhenFull_of_length_eq {later : SlotTable α}
    (h : later.slots.length = table.slots.length) : table.GrowsWhenFull later :=
  fun hlonger => absurd (h ▸ hlonger) (lt_irrefl _)

omit [DecidableEq κ] in
theorem growsWhenFull_place : table.GrowsWhenFull (table.place a) := by
  intro hlonger slot hslot
  unfold place at hlonger
  cases hfree : table.slots.findIdx? (! ·.occupied) with
  | some i =>
      rw [hfree, List.length_set] at hlonger
      exact absurd hlonger (lt_irrefl _)
  | none => simpa using List.findIdx?_eq_none_iff.mp hfree slot hslot

/-- The first entry with the key goes. -/
theorem entries_erase :
    (table.erase key k).1 = (lookup key k table.entries).isSome ∧
      (table.erase key k).2.entries = remove key k table.entries := by
  rw [← find_eq]
  unfold erase find
  cases hfirst : table.slots.findIdx? fun slot =>
      slot.occupied && decide (key slot.entry = k) with
  | some i =>
      obtain ⟨before, found, after, hslots, hfound, hbefore, -, hmodify⟩ :=
        split_of_findIdx? hfirst
      obtain ⟨hoccupied, hkey⟩ := Bool.and_eq_true_iff.mp hfound
      have hothers : ∀ a ∈ (before.filter (·.occupied)).map (·.entry),
          ¬decide (key a = k) = true := by
        intro a ha
        obtain ⟨slot, hslot, rfl⟩ := List.mem_map.mp ha
        obtain ⟨hmem, hslot⟩ := List.mem_filter.mp hslot
        have hnone := hbefore slot hmem
        rw [hslot, Bool.true_and] at hnone
        exact Bool.eq_false_iff.mp hnone
      constructor
      · rw [hslots, Option.isSome_map, List.find?_isSome.mpr]
        exact ⟨found, List.mem_append_right _ List.mem_cons_self, hfound⟩
      · dsimp only
        rw [entries, entries, remove, hmodify, hslots, List.filter_append, List.filter_append,
          List.filter_cons_of_pos hoccupied, List.filter_cons_of_neg Bool.false_ne_true,
          List.map_append, List.map_append, List.map_cons, List.eraseP_append_right _ hothers]
        refine congrArg (_ ++ ·) ?_
        rw [List.eraseP_cons, hkey]
        rfl
  | none =>
      have hnone := List.findIdx?_eq_none_iff.mp hfirst
      have hnotFound := List.find?_eq_none.mpr fun slot hslot =>
        Bool.eq_false_iff.mp (hnone slot hslot)
      constructor
      · rw [hnotFound]
        rfl
      · refine (List.eraseP_of_forall_not fun a ha => ?_).symm
        obtain ⟨slot, hslot, rfl⟩ := List.mem_map.mp ha
        obtain ⟨hmem, hslot⟩ := List.mem_filter.mp hslot
        have hother := hnone slot hmem
        rw [hslot, Bool.true_and] at hother
        exact Bool.eq_false_iff.mp hother

theorem length_erase : (table.erase key k).2.slots.length = table.slots.length := by
  unfold erase
  split
  next => exact List.length_modify _ _ _
  next => rfl

theorem size_erase :
    (table.erase key k).2.size = table.size - if (table.erase key k).1 = true then 1 else 0 := by
  unfold erase
  split <;> rfl

omit [DecidableEq κ] in
theorem sound_place (h : table.Sound key) (hnew : ∀ b ∈ table.entries, key b ≠ key a) :
    (table.place a).Sound key := by
  obtain ⟨hsize, hdistinct⟩ := sound_iff.mp h
  refine sound_iff.mpr ⟨?_, ?_⟩
  · rw [perm_entries_place.length_eq, List.length_cons, ← hsize]
    rfl
  · refine (perm_entries_place.map key).nodup_iff.mpr
      (List.nodup_cons.mpr ⟨fun hmem => ?_, hdistinct⟩)
    obtain ⟨b, hb, hkey⟩ := List.mem_map.mp hmem
    exact hnew b hb hkey

theorem sound_erase (h : table.Sound key) : (table.erase key k).2.Sound key := by
  obtain ⟨hsize, hdistinct⟩ := sound_iff.mp h
  obtain ⟨hfound, hentries⟩ := @entries_erase _ _ _ key table k
  refine sound_iff.mpr ⟨?_, ?_⟩
  · rw [size_erase, hfound, hentries, hsize]
    cases hlookup : lookup key k table.entries with
    | none =>
        have hall := lookup_eq_none_iff.mp hlookup
        rw [remove, List.eraseP_of_forall_not fun a ha => by simpa using hall a ha]
        rfl
    | some a => rw [(perm_cons_remove hlookup).length_eq, List.length_cons]; rfl
  · rw [hentries]
    exact distinct_remove hdistinct

omit [DecidableEq κ] in
theorem entries_mapEntries (f : α → α) : (table.mapEntries f).entries = table.entries.map f := by
  unfold mapEntries entries
  dsimp only
  induction table.slots with
  | nil => rfl
  | cons slot slots ih =>
      rw [List.map_cons]
      cases hslot : slot.occupied with
      | true =>
          rw [if_pos rfl, List.filter_cons_of_pos rfl, List.filter_cons_of_pos hslot,
            List.map_cons, List.map_cons, List.map_cons, ih]
      | false =>
          rw [if_neg Bool.false_ne_true, List.filter_cons_of_neg (by simp [hslot]),
            List.filter_cons_of_neg (by simp [hslot]), ih]

omit [DecidableEq κ] in
theorem sound_mapEntries {f : α → α} (hf : ∀ a, key (f a) = key a) (h : table.Sound key) :
    (table.mapEntries f).Sound key := by
  obtain ⟨hsize, hdistinct⟩ := sound_iff.mp h
  apply sound_iff.mpr
  rw [entries_mapEntries, List.length_map]
  refine ⟨hsize, ?_⟩
  rw [Distinct, List.map_map]
  exact (List.map_congr_left fun a _ => hf a) ▸ hdistinct

omit [DecidableEq κ] in
theorem entries_clear : table.clear.entries = [] := by
  unfold clear entries
  simp

omit [DecidableEq κ] in
theorem sound_clear : table.clear.Sound key := by
  apply sound_iff.mpr
  rw [entries_clear]
  exact ⟨rfl, List.nodup_nil⟩

end SlotTable

end Usbipdcpp.Foundation
