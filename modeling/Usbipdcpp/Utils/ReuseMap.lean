import Usbipdcpp.Foundation.DataRefinement
import Usbipdcpp.Foundation.ListedMap
import Usbipdcpp.Foundation.SlotTable

namespace Usbipdcpp.Utils

open Foundation Foundation.KeyedList Foundation.DataRefinement

universe u v

/-- A map whose erased slots are taken again by later keys. -/
abbrev ReuseMap (Key : Type u) (Value : Type v) :=
  SlotTable (Key × Value)

section

variable {Key : Type u} {Value : Type v} [DecidableEq Key]

namespace ReuseMap

def empty (map : ReuseMap Key Value) : Bool :=
  map.size == 0

/-- The value that the pointer which is returned leads to. -/
def find (key : Key) (map : ReuseMap Key Value) : Option Value :=
  (SlotTable.find Prod.fst key map).map Prod.snd

/-- The value under the key, which is an old one where the key is there already. -/
def insert (key : Key) (value : Value) (map : ReuseMap Key Value) : Value × ReuseMap Key Value :=
  match map.find key with
  | some held => (held, map)
  | none => (value, map.place (key, value))

def erase (key : Key) (map : ReuseMap Key Value) : Bool × ReuseMap Key Value :=
  SlotTable.erase Prod.fst key map

/-- The keys and values that the callback gets, in turn, and the map with what it makes of the
values. -/
def for_each (f : Key → Value → Value) (map : ReuseMap Key Value) :
    List (Key × Value) × ReuseMap Key Value :=
  (map.entries, map.mapEntries fun entry => (entry.1, f entry.1 entry.2))

def clear (map : ReuseMap Key Value) : ReuseMap Key Value :=
  SlotTable.clear map

end ReuseMap

/-- The calls of the map. -/
inductive ReuseMapCall (Key : Type u) (Value : Type v) where
  | insert (key : Key) (value : Value)
  | find (key : Key)
  | erase (key : Key)
  | forEach (f : Key → Value → Value)
  | clear
  | size
  | empty

/-- What a call returns, with what it has handed to its callback. -/
inductive ReuseMapAnswer (Key : Type u) (Value : Type v) where
  | done
  | value (v : Option Value)
  | flag (b : Bool)
  | count (n : Nat)
  | visited (entries : List (Key × Value))
  deriving DecidableEq, Repr

namespace ReuseMap

def answer (map : ReuseMap Key Value) :
    ReuseMapCall Key Value → ReuseMapAnswer Key Value × ReuseMap Key Value
  | .insert key value => let (held, left) := map.insert key value
      (.value (some held), left)
  | .find key => (.value (map.find key), map)
  | .erase key => let (found, left) := map.erase key
      (.flag found, left)
  | .forEach f => let (visited, left) := map.for_each f
      (.visited visited, left)
  | .clear => (.done, map.clear)
  | .size => (.count map.size, map)
  | .empty => (.flag map.empty, map)

end ReuseMap

/-- The calls of a finite map that keeps the value it has for a key. Its entries are visited in
any order. -/
def finiteMapCall (m : Finmap fun _ : Key => Value) :
    ReuseMapCall Key Value → ReuseMapAnswer Key Value → (Finmap fun _ : Key => Value) → Prop
  | .insert key value, answer, later =>
      later = (if key ∈ m then m else m.insert key value) ∧ answer = .value (later.lookup key)
  | .find key, answer, later => answer = .value (m.lookup key) ∧ later = m
  | .erase key, answer, later => answer = .flag (decide (key ∈ m)) ∧ later = m.erase key
  | .forEach f, answer, later =>
      (∃ visited, Lists m visited ∧ answer = .visited visited) ∧
        ∀ key, later.lookup key = (m.lookup key).map (f key)
  | .clear, answer, later => answer = .done ∧ later = ∅
  | .size, answer, later => answer = .count m.keys.card ∧ later = m
  | .empty, answer, later => answer = .flag (decide (m.keys = ∅)) ∧ later = m

namespace ReuseMap

/-- The map whose slots fit together stands for the finite map of what its occupied ones hold. -/
structure StandsFor (map : ReuseMap Key Value) (m : Finmap fun _ : Key => Value) : Prop where
  sound : map.Sound Prod.fst
  lists : Lists m map.entries

variable {map : ReuseMap Key Value} {m : Finmap fun _ : Key => Value}

theorem standsFor_empty : StandsFor ({} : ReuseMap Key Value) ∅ where
  sound := SlotTable.sound_iff.mpr ⟨rfl, List.nodup_nil⟩
  lists := .empty

namespace StandsFor

theorem size_eq (h : map.StandsFor m) : map.size = m.keys.card := by
  rw [h.lists.card_keys, (SlotTable.sound_iff.mp h.sound).1]

theorem empty_eq (h : map.StandsFor m) : map.empty = decide (m.keys = ∅) := by
  rw [ReuseMap.empty, h.size_eq, beq_eq_decide]
  exact decide_eq_decide.mpr Finset.card_eq_zero

theorem find_eq (h : map.StandsFor m) (key : Key) : map.find key = m.lookup key := by
  rw [find, SlotTable.find_eq, h.lists.lookup_eq]

theorem insert (h : map.StandsFor m) (key : Key) (value : Value) :
    ∃ later, finiteMapCall m (.insert key value) (.value (some (map.insert key value).1)) later ∧
      (map.insert key value).2.StandsFor later := by
  unfold ReuseMap.insert
  cases hfind : map.find key with
  | some held =>
      have hlookup : m.lookup key = some held := h.find_eq key ▸ hfind
      refine ⟨m, ⟨?_, ?_⟩, h⟩
      · rw [if_pos (Finmap.mem_of_lookup_eq_some hlookup)]
      · rw [hlookup]
  | none =>
      have hnew : key ∉ m := Finmap.lookup_eq_none.mp (h.find_eq key ▸ hfind)
      refine ⟨m.insert key value, ⟨?_, ?_⟩, ?_, ?_⟩
      · rw [if_neg hnew]
      · rw [Finmap.lookup_insert]
      · refine SlotTable.sound_place h.sound fun entry hentry hkey => hnew ?_
        exact h.lists.mem_map_fst_iff.mp (List.mem_map.mpr ⟨entry, hentry, hkey⟩)
      · exact (h.lists.insert hnew).of_perm SlotTable.perm_entries_place

theorem erase (h : map.StandsFor m) (key : Key) :
    (map.erase key).1 = decide (key ∈ m) ∧ (map.erase key).2.StandsFor (m.erase key) := by
  obtain ⟨hfound, hentries⟩ := @SlotTable.entries_erase _ _ _ Prod.fst map key
  refine ⟨?_, SlotTable.sound_erase h.sound, ?_⟩
  · rw [ReuseMap.erase, hfound, ← Option.isSome_map, h.lists.lookup_eq, Bool.eq_iff_iff,
      Finmap.lookup_isSome, decide_eq_true_iff]
  · rw [ReuseMap.erase, hentries]
    exact h.lists.erase

theorem for_each (h : map.StandsFor m) (f : Key → Value → Value) :
    ∃ later, finiteMapCall m (.forEach f) (.visited (map.for_each f).1) later ∧
      (map.for_each f).2.StandsFor later := by
  obtain ⟨later, hvalues, hlists⟩ := h.lists.exists_map f
  refine ⟨later, ⟨⟨map.entries, h.lists, rfl⟩, hvalues⟩, ?_, ?_⟩
  · exact SlotTable.sound_mapEntries (f := fun entry => (entry.1, f entry.1 entry.2))
      (fun _ => rfl) h.sound
  · rw [ReuseMap.for_each, SlotTable.entries_mapEntries]
    exact hlists

theorem clear : map.clear.StandsFor ∅ where
  sound := SlotTable.sound_clear
  lists := by
    rw [ReuseMap.clear, SlotTable.entries_clear]
    exact .empty

end StandsFor

/-- Each call answers as one of the finite map may. -/
theorem answer_refines : Refines answer (@finiteMapCall Key Value _) StandsFor := by
  intro map m call h
  cases call with
  | insert key value => exact h.insert key value
  | find key => exact ⟨m, ⟨congrArg ReuseMapAnswer.value (h.find_eq key), rfl⟩, h⟩
  | erase key =>
      exact ⟨m.erase key, ⟨congrArg ReuseMapAnswer.flag (h.erase key).1, rfl⟩, (h.erase key).2⟩
  | forEach f => exact h.for_each f
  | clear => exact ⟨∅, ⟨rfl, rfl⟩, .clear⟩
  | size => exact ⟨m, ⟨congrArg ReuseMapAnswer.count h.size_eq, rfl⟩, h⟩
  | empty => exact ⟨m, ⟨congrArg ReuseMapAnswer.flag h.empty_eq, rfl⟩, h⟩

theorem growsWhenFull_insert {key : Key} {value : Value} :
    map.GrowsWhenFull (map.insert key value).2 := by
  unfold ReuseMap.insert
  split
  next => exact SlotTable.growsWhenFull_of_length_eq rfl
  next => exact SlotTable.growsWhenFull_place

/-- A call makes a slot only where none is free. -/
theorem growsWhenFull_answer (map : ReuseMap Key Value) (call : ReuseMapCall Key Value) :
    map.GrowsWhenFull (map.answer call).2 := by
  cases call with
  | insert key value => exact growsWhenFull_insert
  | erase key => exact SlotTable.growsWhenFull_of_length_eq SlotTable.length_erase
  | forEach f => exact SlotTable.growsWhenFull_of_length_eq (List.length_map _)
  | clear => exact SlotTable.growsWhenFull_of_length_eq (List.length_map _)
  | find | size | empty => exact SlotTable.growsWhenFull_of_length_eq rfl

end ReuseMap

end

end Usbipdcpp.Utils
