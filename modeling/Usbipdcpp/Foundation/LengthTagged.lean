import Mathlib.Data.List.Basic
import Mathlib.Tactic.Ring

namespace Usbipdcpp.Foundation.LengthTagged

/-- Bytes that start with their own number, and have room for another byte. -/
def IsBlock (block : List UInt8) : Prop :=
  2 ≤ block.length ∧ block.head?.map UInt8.toNat = some block.length

/-- The blocks that bytes consist of, found from the length each starts with; `fuel` bounds their
number. -/
def walkFrom : Nat → List UInt8 → Option (List (List UInt8))
  | _, [] => some []
  | 0, _ :: _ => none
  | fuel + 1, bLength :: bytes =>
      if 2 ≤ bLength.toNat ∧ bLength.toNat ≤ (bLength :: bytes).length then
        (walkFrom fuel ((bLength :: bytes).drop bLength.toNat)).map
          ((bLength :: bytes).take bLength.toNat :: ·)
      else none

def walk (bytes : List UInt8) : Option (List (List UInt8)) := walkFrom bytes.length bytes

/-- Bytes are the blocks one after the other. -/
def Covers (bytes : List UInt8) (blocks : List (List UInt8)) : Prop :=
  blocks.flatten = bytes ∧ ∀ block ∈ blocks, IsBlock block

theorem covers_nil : Covers [] [] :=
  ⟨rfl, by simp⟩

theorem covers_cons {block bytes : List UInt8} {blocks : List (List UInt8)} (hblock : IsBlock block)
    (h : Covers bytes blocks) : Covers (block ++ bytes) (block :: blocks) :=
  ⟨by rw [List.flatten_cons, h.1], by simpa using ⟨hblock, h.2⟩⟩

theorem covers_append {bytes bytes' : List UInt8} {blocks blocks' : List (List UInt8)}
    (h : Covers bytes blocks) (h' : Covers bytes' blocks') :
    Covers (bytes ++ bytes') (blocks ++ blocks') := by
  refine ⟨by rw [List.flatten_append, h.1, h'.1], fun block hblock => ?_⟩
  rcases List.mem_append.mp hblock with hmem | hmem
  · exact h.2 block hmem
  · exact h'.2 block hmem

theorem covers_flatMap {α : Type} {bytesOf : α → List UInt8} {blocksOf : α → List (List UInt8)}
    {as : List α} (h : ∀ a ∈ as, Covers (bytesOf a) (blocksOf a)) :
    Covers (as.flatMap bytesOf) (as.flatMap blocksOf) := by
  induction as with
  | nil => exact covers_nil
  | cons a as ih =>
      rw [List.flatMap_cons, List.flatMap_cons]
      exact covers_append (h a List.mem_cons_self)
        (ih fun b hb => h b (List.mem_cons_of_mem a hb))

theorem covers_ite {condition : Prop} [Decidable condition] {bytes : List UInt8}
    {blocks : List (List UInt8)} (h : Covers bytes blocks) :
    Covers (if condition then bytes else []) (if condition then blocks else []) := by
  split
  · exact h
  · exact covers_nil

theorem covers_nil_iff {blocks : List (List UInt8)} : Covers [] blocks ↔ blocks = [] := by
  constructor
  · rintro ⟨hflatten, hblocks⟩
    refine List.eq_nil_iff_forall_not_mem.mpr fun block hblock => ?_
    have hnil : block = [] := List.flatten_eq_nil_iff.mp hflatten block hblock
    have hlength := (hblocks block hblock).1
    rw [hnil] at hlength
    simp at hlength
  · rintro rfl
    exact covers_nil

/-- The first block of bytes is the one that their first byte tells. -/
theorem covers_cons_iff {bLength : UInt8} {bytes : List UInt8} {blocks : List (List UInt8)} :
    Covers (bLength :: bytes) blocks ↔
      (2 ≤ bLength.toNat ∧ bLength.toNat ≤ (bLength :: bytes).length) ∧
        ∃ tail, Covers ((bLength :: bytes).drop bLength.toNat) tail ∧
          blocks = (bLength :: bytes).take bLength.toNat :: tail := by
  constructor
  · rintro ⟨hflatten, hblocks⟩
    cases blocks with
    | nil => cases hflatten
    | cons block tail =>
        obtain ⟨htwo, hhead⟩ := hblocks block List.mem_cons_self
        obtain ⟨first, rest, rfl⟩ : ∃ first rest, block = first :: rest :=
          List.exists_cons_of_length_pos (by omega)
        obtain ⟨rfl, hrest⟩ : first = bLength ∧ rest ++ tail.flatten = bytes := by
          simpa using hflatten
        have hfirst : first.toNat = (first :: rest).length := by simpa using hhead
        have hbytes : first :: bytes = (first :: rest) ++ tail.flatten := by
          rw [← hrest, List.cons_append]
        rw [hbytes, hfirst, List.drop_left, List.take_left]
        refine ⟨⟨htwo, by simp⟩, tail, ⟨rfl, fun block hblock => ?_⟩, rfl⟩
        exact hblocks block (List.mem_cons_of_mem _ hblock)
  · rintro ⟨⟨htwo, hfits⟩, tail, htail, rfl⟩
    have hlength : ((bLength :: bytes).take bLength.toNat).length = bLength.toNat :=
      List.length_take_of_le hfits
    have hblock : IsBlock ((bLength :: bytes).take bLength.toNat) := by
      refine ⟨by omega, ?_⟩
      rw [hlength, List.head?_take, if_neg (by omega)]
      rfl
    simpa using covers_cons hblock htail

theorem walkFrom_eq_some_iff {fuel : Nat} {bytes : List UInt8} {blocks : List (List UInt8)}
    (hfuel : bytes.length ≤ fuel) : walkFrom fuel bytes = some blocks ↔ Covers bytes blocks := by
  induction fuel generalizing bytes blocks with
  | zero =>
      obtain rfl : bytes = [] := List.eq_nil_of_length_eq_zero (by omega)
      rw [walkFrom, Option.some_inj, eq_comm, covers_nil_iff]
  | succ fuel ih =>
      cases bytes with
      | nil => rw [walkFrom, Option.some_inj, eq_comm, covers_nil_iff]
      | cons bLength bytes =>
          rw [walkFrom, covers_cons_iff]
          split
          next hfits =>
            have hrest : ((bLength :: bytes).drop bLength.toNat).length ≤ fuel := by
              rw [List.length_drop]
              omega
            simp only [Option.map_eq_some_iff, ih hrest, eq_comm (a := blocks), hfits, true_and]
          next hshort => exact iff_of_false (by simp) fun h => hshort h.1

/-- Walking over bytes finds the blocks that they consist of, if there are such blocks. -/
theorem walk_eq_some_iff {bytes : List UInt8} {blocks : List (List UInt8)} :
    walk bytes = some blocks ↔ Covers bytes blocks :=
  walkFrom_eq_some_iff (Nat.le_refl _)

end Usbipdcpp.Foundation.LengthTagged
