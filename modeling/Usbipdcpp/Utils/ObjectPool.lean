import Mathlib.Data.List.FinRange
import Mathlib.Logic.Function.Basic

namespace Usbipdcpp.Utils

/-- A pool of `poolSize` objects: which of them are handed out, and the stack of the others. -/
structure ObjectPool (poolSize : Nat) where
  inUse : Fin poolSize → Bool
  freeStack : List (Fin poolSize)
  mem_freeStack : ∀ i, i ∈ freeStack ↔ inUse i = false
  nodup_freeStack : freeStack.Nodup

namespace ObjectPool

variable {poolSize : Nat}

def create (poolSize : Nat) : ObjectPool poolSize where
  inUse _ := false
  freeStack := (List.finRange poolSize).reverse
  mem_freeStack := by simp
  nodup_freeStack := List.nodup_reverse.mpr (List.nodup_finRange poolSize)

/-- The pool without the object on top of the stack. -/
def take (pool : ObjectPool poolSize) (i : Fin poolSize) (rest : List (Fin poolSize))
    (h : pool.freeStack = i :: rest) : ObjectPool poolSize where
  inUse := Function.update pool.inUse i true
  freeStack := rest
  mem_freeStack j := by
    have hnodup := pool.nodup_freeStack
    rw [h, List.nodup_cons] at hnodup
    by_cases heq : j = i
    · rw [heq, Function.update_self]
      exact iff_of_false hnodup.1 Bool.noConfusion
    · rw [Function.update_of_ne heq, ← pool.mem_freeStack j, h, List.mem_cons, or_iff_right heq]
  nodup_freeStack := (List.nodup_cons.mp (h ▸ pool.nodup_freeStack)).2

/-- The object that is handed out, or `none` where the pool is empty. -/
def alloc (pool : ObjectPool poolSize) : Option (Fin poolSize × ObjectPool poolSize) :=
  match h : pool.freeStack with
  | [] => none
  | i :: rest => some (i, pool.take i rest h)

/-- The pool that has the object back; an object that is not handed out is refused. -/
def free (i : Fin poolSize) (pool : ObjectPool poolSize) : Option (ObjectPool poolSize) :=
  if h : pool.inUse i = true then
    some
      { inUse := Function.update pool.inUse i false
        freeStack := i :: pool.freeStack
        mem_freeStack := fun j => by
          by_cases heq : j = i
          · simp [heq]
          · rw [Function.update_of_ne heq, List.mem_cons, or_iff_right heq]
            exact pool.mem_freeStack j
        nodup_freeStack := by
          refine List.nodup_cons.mpr ⟨fun hmem => ?_, pool.nodup_freeStack⟩
          rw [pool.mem_freeStack, h] at hmem
          cases hmem }
  else none

/-- All objects are given back, whoever has them. -/
def reset (_pool : ObjectPool poolSize) : ObjectPool poolSize :=
  create poolSize

variable {pool pool' : ObjectPool poolSize} {i j : Fin poolSize}

theorem inUse_of_alloc (h : pool.alloc = some (i, pool')) :
    pool.inUse i = false ∧ pool'.inUse = Function.update pool.inUse i true := by
  unfold alloc at h
  split at h
  next => cases h
  next k rest hstack =>
    obtain ⟨rfl, rfl⟩ := Prod.mk.inj (Option.some.inj h)
    refine ⟨(pool.mem_freeStack k).mp ?_, rfl⟩
    rw [hstack]
    exact List.mem_cons_self

theorem inUse_of_free (h : pool.free i = some pool') :
    pool.inUse i = true ∧ pool'.inUse = Function.update pool.inUse i false := by
  unfold free at h
  split at h
  next hinUse =>
    obtain rfl := Option.some.inj h
    exact ⟨hinUse, rfl⟩
  next => cases h

theorem alloc_eq_none_iff : pool.alloc = none ↔ pool.freeStack = [] := by
  unfold alloc
  split
  next hstack => simp [hstack]
  next hstack => simp [hstack]

theorem freeStack_of_alloc (h : pool.alloc = some (i, pool')) :
    pool.freeStack = i :: pool'.freeStack := by
  unfold alloc at h
  split at h
  next => cases h
  next k rest hstack =>
    obtain ⟨rfl, rfl⟩ := Prod.mk.inj (Option.some.inj h)
    exact hstack

theorem freeStack_of_free (h : pool.free i = some pool') :
    pool'.freeStack = i :: pool.freeStack := by
  unfold free at h
  split at h
  next =>
    obtain rfl := Option.some.inj h
    rfl
  next => cases h

theorem free_eq_none_iff : pool.free i = none ↔ pool.inUse i = false := by
  unfold free
  split
  next hinUse => simp [hinUse]
  next hinUse => simp [hinUse]

end ObjectPool

end Usbipdcpp.Utils
