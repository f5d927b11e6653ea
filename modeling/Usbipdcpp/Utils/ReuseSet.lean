import Mathlib.Data.Finset.Card
import Usbipdcpp.Utils.ReuseMap

namespace Usbipdcpp.Utils

open Foundation Foundation.KeyedList Foundation.DataRefinement

universe u v w

/-- A set whose erased slots are taken again by later keys. -/
abbrev ReuseSet (Key : Type u) :=
  SlotTable Key

section

variable {Key : Type u} [DecidableEq Key]

namespace ReuseSet

def empty (set : ReuseSet Key) : Bool :=
  set.size == 0

def contains (key : Key) (set : ReuseSet Key) : Bool :=
  (SlotTable.find id key set).isSome

/-- Whether the key is new, and the set with it. -/
def insert (key : Key) (set : ReuseSet Key) : Bool × ReuseSet Key :=
  if set.contains key = true then (false, set) else (true, set.place key)

def erase (key : Key) (set : ReuseSet Key) : Bool × ReuseSet Key :=
  SlotTable.erase id key set

/-- The keys that the callback gets, in turn. -/
def for_each (set : ReuseSet Key) : List Key :=
  set.entries

def clear (set : ReuseSet Key) : ReuseSet Key :=
  SlotTable.clear set

end ReuseSet

/-- The calls of the set. -/
inductive ReuseSetCall (Key : Type u) where
  | insert (key : Key)
  | contains (key : Key)
  | erase (key : Key)
  | forEach
  | clear
  | size
  | empty
  deriving DecidableEq, Repr

/-- What a call returns, with what it has handed to its callback. -/
inductive ReuseSetAnswer (Key : Type u) where
  | done
  | flag (b : Bool)
  | count (n : Nat)
  | visited (keys : List Key)
  deriving DecidableEq, Repr

namespace ReuseSet

def answer (set : ReuseSet Key) : ReuseSetCall Key → ReuseSetAnswer Key × ReuseSet Key
  | .insert key => let (isNew, left) := set.insert key
      (.flag isNew, left)
  | .contains key => (.flag (set.contains key), set)
  | .erase key => let (found, left) := set.erase key
      (.flag found, left)
  | .forEach => (.visited set.for_each, set)
  | .clear => (.done, set.clear)
  | .size => (.count set.size, set)
  | .empty => (.flag set.empty, set)

end ReuseSet

/-- The calls of a finite set, whose elements are visited in any order. -/
def finiteSetCall (s : Finset Key) :
    ReuseSetCall Key → ReuseSetAnswer Key → Finset Key → Prop
  | .insert key, answer, later => answer = .flag (decide (key ∉ s)) ∧ later = insert key s
  | .contains key, answer, later => answer = .flag (decide (key ∈ s)) ∧ later = s
  | .erase key, answer, later => answer = .flag (decide (key ∈ s)) ∧ later = s.erase key
  | .forEach, answer, later =>
      (∃ visited : List Key, (visited.Nodup ∧ visited.toFinset = s) ∧ answer = .visited visited) ∧
        later = s
  | .clear, answer, later => answer = .done ∧ later = ∅
  | .size, answer, later => answer = .count s.card ∧ later = s
  | .empty, answer, later => answer = .flag (decide (s = ∅)) ∧ later = s

namespace ReuseSet

/-- The set whose slots fit together stands for the finite set of what its occupied ones hold. -/
structure StandsFor (set : ReuseSet Key) (s : Finset Key) : Prop where
  sound : set.Sound id
  lists : set.entries.toFinset = s

variable {set : ReuseSet Key} {s : Finset Key}

theorem standsFor_empty : StandsFor ({} : ReuseSet Key) ∅ where
  sound := SlotTable.sound_iff.mpr ⟨rfl, List.nodup_nil⟩
  lists := rfl

namespace StandsFor

theorem nodup (h : set.StandsFor s) : set.entries.Nodup := by
  have hdistinct := (SlotTable.sound_iff.mp h.sound).2
  rwa [Distinct, List.map_id] at hdistinct

theorem mem_iff (h : set.StandsFor s) {key : Key} : key ∈ set.entries ↔ key ∈ s := by
  rw [← h.lists, List.mem_toFinset]

theorem size_eq (h : set.StandsFor s) : set.size = s.card := by
  rw [← h.lists, List.toFinset_card_of_nodup h.nodup, (SlotTable.sound_iff.mp h.sound).1]

theorem empty_eq (h : set.StandsFor s) : set.empty = decide (s = ∅) := by
  rw [ReuseSet.empty, h.size_eq, beq_eq_decide]
  exact decide_eq_decide.mpr Finset.card_eq_zero

theorem lookup_isSome (h : set.StandsFor s) (key : Key) :
    (lookup id key set.entries).isSome = decide (key ∈ s) := by
  rw [Bool.eq_iff_iff, decide_eq_true_iff, ← h.mem_iff, ← not_iff_not, Bool.not_eq_true,
    Option.isSome_eq_false_iff, Option.isNone_iff_eq_none, lookup_eq_none_iff]
  exact ⟨fun hnone hmem => hnone key hmem rfl, fun hnot a ha heq => hnot (heq ▸ ha)⟩

theorem contains_eq (h : set.StandsFor s) (key : Key) : set.contains key = decide (key ∈ s) := by
  rw [contains, SlotTable.find_eq, h.lookup_isSome]

theorem insert (h : set.StandsFor s) (key : Key) :
    (set.insert key).1 = decide (key ∉ s) ∧ (set.insert key).2.StandsFor (Insert.insert key s) := by
  have hcontains : set.contains key = true ↔ key ∈ s := by
    rw [h.contains_eq, decide_eq_true_iff]
  unfold ReuseSet.insert
  by_cases hmem : key ∈ s
  · rw [if_pos (hcontains.mpr hmem), Finset.insert_eq_of_mem hmem]
    exact ⟨by simp [hmem], h⟩
  · rw [if_neg (mt hcontains.mp hmem)]
    refine ⟨by simp [hmem], ?_, ?_⟩
    · refine SlotTable.sound_place h.sound fun a ha heq => ?_
      obtain rfl : a = key := heq
      exact hmem (h.mem_iff.mp ha)
    · rw [List.toFinset_eq_of_perm _ _ SlotTable.perm_entries_place, List.toFinset_cons, h.lists]

theorem erase (h : set.StandsFor s) (key : Key) :
    (set.erase key).1 = decide (key ∈ s) ∧ (set.erase key).2.StandsFor (s.erase key) := by
  obtain ⟨hfound, hentries⟩ := @SlotTable.entries_erase _ _ _ id set key
  refine ⟨?_, SlotTable.sound_erase h.sound, ?_⟩
  · rw [ReuseSet.erase, hfound, h.lookup_isSome]
  · ext a
    rw [ReuseSet.erase, hentries, List.mem_toFinset,
      mem_remove_iff (SlotTable.sound_iff.mp h.sound).2, h.mem_iff, Finset.mem_erase, and_comm]
    rfl

theorem clear : set.clear.StandsFor ∅ where
  sound := SlotTable.sound_clear
  lists := by
    rw [ReuseSet.clear, SlotTable.entries_clear]
    rfl

end StandsFor

/-- Each call answers as one of the finite set may. -/
theorem answer_refines : Refines answer (@finiteSetCall Key _) StandsFor := by
  intro set s call h
  cases call with
  | insert key =>
      exact ⟨Insert.insert key s, ⟨congrArg ReuseSetAnswer.flag (h.insert key).1, rfl⟩,
        (h.insert key).2⟩
  | contains key => exact ⟨s, ⟨congrArg ReuseSetAnswer.flag (h.contains_eq key), rfl⟩, h⟩
  | erase key =>
      exact ⟨s.erase key, ⟨congrArg ReuseSetAnswer.flag (h.erase key).1, rfl⟩, (h.erase key).2⟩
  | forEach => exact ⟨s, ⟨⟨set.entries, ⟨h.nodup, h.lists⟩, rfl⟩, rfl⟩, h⟩
  | clear => exact ⟨∅, ⟨rfl, rfl⟩, .clear⟩
  | size => exact ⟨s, ⟨congrArg ReuseSetAnswer.count h.size_eq, rfl⟩, h⟩
  | empty => exact ⟨s, ⟨congrArg ReuseSetAnswer.flag h.empty_eq, rfl⟩, h⟩

theorem growsWhenFull_insert {key : Key} : set.GrowsWhenFull (set.insert key).2 := by
  unfold ReuseSet.insert
  split
  next => exact SlotTable.growsWhenFull_of_length_eq rfl
  next => exact SlotTable.growsWhenFull_place

/-- A call makes a slot only where none is free. -/
theorem growsWhenFull_answer (set : ReuseSet Key) (call : ReuseSetCall Key) :
    set.GrowsWhenFull (set.answer call).2 := by
  cases call with
  | insert key => exact growsWhenFull_insert
  | erase key => exact SlotTable.growsWhenFull_of_length_eq SlotTable.length_erase
  | clear => exact SlotTable.growsWhenFull_of_length_eq (List.length_map _)
  | contains | forEach | size | empty => exact SlotTable.growsWhenFull_of_length_eq rfl

example : (run answer ({} : ReuseSet Nat) [.insert 1, .insert 2, .insert 1, .erase 1, .insert 3,
    .forEach, .size]).1 =
      [.flag true, .flag true, .flag false, .flag true, .flag true, .visited [3, 2], .count 2] := by
  decide

end ReuseSet

end

/-- Whatever is called, the map answers as a finite map may and the set as a finite set may, with a
slot for each key of these and a new one only where all are taken. -/
theorem reuse_refines_finite {Key : Type u} {Value : Type v} {Element : Type w} [DecidableEq Key]
    [DecidableEq Element] :
    (∀ calls : List (ReuseMapCall Key Value), ∃ m : Finmap fun _ : Key => Value,
      Allows finiteMapCall ∅ calls (run ReuseMap.answer {} calls).1 m ∧
        ReuseMap.StandsFor (run ReuseMap.answer {} calls).2 m ∧
        ∀ call, SlotTable.GrowsWhenFull (run ReuseMap.answer {} calls).2
          (ReuseMap.answer (run ReuseMap.answer {} calls).2 call).2) ∧
      ∀ calls : List (ReuseSetCall Element), ∃ s : Finset Element,
        Allows finiteSetCall ∅ calls (run ReuseSet.answer {} calls).1 s ∧
          ReuseSet.StandsFor (run ReuseSet.answer {} calls).2 s ∧
          ∀ call, SlotTable.GrowsWhenFull (run ReuseSet.answer {} calls).2
            (ReuseSet.answer (run ReuseSet.answer {} calls).2 call).2 := by
  refine ⟨fun calls => ?_, fun calls => ?_⟩
  · obtain ⟨m, hallows, hstands⟩ := ReuseMap.answer_refines.run ReuseMap.standsFor_empty calls
    exact ⟨m, hallows, hstands, ReuseMap.growsWhenFull_answer _⟩
  · obtain ⟨s, hallows, hstands⟩ := ReuseSet.answer_refines.run ReuseSet.standsFor_empty calls
    exact ⟨s, hallows, hstands, ReuseSet.growsWhenFull_answer _⟩

end Usbipdcpp.Utils
