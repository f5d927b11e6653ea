import Mathlib.Data.List.Nodup
import Usbipdcpp.Foundation.NamedCells

namespace Usbipdcpp.Utils

open Foundation.NamedCells

/-- A string of wide characters. -/
abbrev WString : Type := List UInt32

inductive StringPoolError where
  | noBufferSpace
  | invalidArgument
  deriving DecidableEq, Repr

structure StringPool where
  strings : UInt8 → Option WString

namespace StringPool

def empty : StringPool := ⟨fun _ => none⟩

/-- The indices that are given away, which are all but that of the languages. -/
def indices : List UInt8 := (List.range 255).map fun n => .ofNat (n + 1)

def newString (str : WString) (pool : StringPool) : Except StringPoolError (UInt8 × StringPool) :=
  match firstFree indices pool.strings with
  | some index => .ok (index, ⟨Function.update pool.strings index (some str)⟩)
  | none => .error .noBufferSpace

def getString (index : UInt8) (pool : StringPool) : Option WString := pool.strings index

def changeString (index : UInt8) (newStr : WString) (pool : StringPool) :
    Except StringPoolError StringPool :=
  if (pool.strings index).isSome then
    .ok ⟨Function.update pool.strings index (some newStr)⟩
  else .error .invalidArgument

def removeString (index : UInt8) (pool : StringPool) : StringPool :=
  ⟨Function.update pool.strings index none⟩

theorem nodup_indices : indices.Nodup := by
  refine List.Nodup.map_on (fun m hm n hn heq => ?_) List.nodup_range
  rw [List.mem_range] at hm hn
  have hvalue := congrArg UInt8.toNat heq
  rw [UInt8.toNat_ofNat', UInt8.toNat_ofNat'] at hvalue
  omega

theorem zero_notMem_indices : (0 : UInt8) ∉ indices := by
  intro hmem
  obtain ⟨n, hn, heq⟩ := List.mem_map.mp hmem
  rw [List.mem_range] at hn
  have hvalue := congrArg UInt8.toNat heq
  rw [UInt8.toNat_ofNat'] at hvalue
  change (n + 1) % 256 = 0 at hvalue
  omega

@[simp] theorem length_indices : indices.length = 255 := by
  simp [indices]

/-- A string is refused where all indices are in use, and gets a free one otherwise. -/
theorem newString_cases (str : WString) (pool : StringPool) :
    (taken indices pool.strings = 255 ∧ pool.newString str = .error .noBufferSpace) ∨
      ∃ index, firstFree indices pool.strings = some index ∧
        taken indices pool.strings < 255 ∧
          pool.newString str = .ok (index, ⟨Function.update pool.strings index (some str)⟩) := by
  unfold newString
  cases hfree : firstFree indices pool.strings with
  | none =>
      refine .inl ⟨?_, rfl⟩
      rw [firstFree_eq_none_iff.mp hfree, length_indices]
  | some index =>
      refine .inr ⟨index, rfl, ?_, rfl⟩
      have hle := taken_le indices pool.strings
      rw [length_indices] at hle
      refine Nat.lt_of_le_of_ne hle fun heq => ?_
      rw [← length_indices] at heq
      rw [firstFree_eq_none_iff.mpr heq] at hfree
      cases hfree

end StringPool

end Usbipdcpp.Utils
