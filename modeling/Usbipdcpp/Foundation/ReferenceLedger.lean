import Mathlib.Data.List.Perm.Basic
import Mathlib.Logic.Function.Basic

namespace Usbipdcpp.Foundation.ReferenceLedger

universe u

variable {ν : Type u} [DecidableEq ν]

/-- How many references there are to each object, and whether one has ever been given back that
there was not. -/
structure References (ν : Type u) where
  count : ν → Nat
  overReleased : Bool

namespace References

def none : References ν := ⟨fun _ => 0, false⟩

def ref (n : ν) (r : References ν) : References ν :=
  { r with count := Function.update r.count n (r.count n + 1) }

def unref (n : ν) (r : References ν) : References ν where
  count := Function.update r.count n (r.count n - 1)
  overReleased := r.overReleased || r.count n == 0

def refAll (ns : List ν) (r : References ν) : References ν := ns.foldl (fun r n => r.ref n) r

def unrefAll (ns : List ν) (r : References ν) : References ν := ns.foldl (fun r n => r.unref n) r

end References

/-- The references are those of a list of holders, and none has been given back twice. -/
structure Balanced (held : List ν) (r : References ν) : Prop where
  count_eq : ∀ n, r.count n = held.count n
  sound : r.overReleased = false

variable {held held' : List ν} {r : References ν} {n : ν}

theorem balanced_none : Balanced [] (References.none : References ν) :=
  ⟨fun _ => rfl, rfl⟩

theorem Balanced.perm (h : Balanced held r) (hperm : held.Perm held') : Balanced held' r :=
  ⟨fun n => (h.count_eq n).trans (hperm.count_eq n), h.sound⟩

theorem Balanced.ref (h : Balanced held r) (n : ν) : Balanced (n :: held) (r.ref n) where
  count_eq m := by
    by_cases hm : m = n
    · simp [References.ref, hm, h.count_eq]
    · simp [References.ref, hm, h.count_eq, Ne.symm hm]
  sound := h.sound

theorem Balanced.unref (h : Balanced (n :: held) r) : Balanced held (r.unref n) where
  count_eq m := by
    by_cases hm : m = n
    · simp [References.unref, hm, h.count_eq]
    · simp [References.unref, hm, h.count_eq, Ne.symm hm]
  sound := by simp [References.unref, h.sound, h.count_eq]

theorem Balanced.refAll (h : Balanced held r) (ns : List ν) :
    Balanced (ns ++ held) (r.refAll ns) := by
  induction ns generalizing held r with
  | nil => exact h
  | cons n ns ih => exact (ih (h.ref n)).perm List.perm_middle

theorem Balanced.unrefAll {ns : List ν} (h : Balanced (ns ++ held) r) :
    Balanced held (r.unrefAll ns) := by
  induction ns generalizing r with
  | nil => exact h
  | cons n ns ih => exact ih h.unref

end Usbipdcpp.Foundation.ReferenceLedger
