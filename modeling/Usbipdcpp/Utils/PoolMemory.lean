import Mathlib.Data.Finset.Basic
import Mathlib.Data.List.Sort
import Usbipdcpp.Foundation.FirstMatch
import Usbipdcpp.Foundation.TransitionSystem
import Usbipdcpp.Utils.ObjectPool

namespace Usbipdcpp.Utils

open Foundation.FirstMatch Foundation.TransitionSystem

/-- The pointers that `create()` has returned for the slots of a pool, which are not null where it
has not failed. Objects that are there together have different addresses. -/
structure PoolObjects where
  pointers : List Nat
  nonempty : pointers ≠ []
  distinct : (pointers.filter (· ≠ 0)).Nodup

namespace PoolObjects

variable (objects : PoolObjects)

def poolSize : Nat := objects.pointers.length

/-- The pointers, sorted for the binary search. -/
def sorted (i : Fin objects.poolSize) : Nat :=
  (objects.pointers.insertionSort (· ≤ ·)).get (i.cast (List.length_insertionSort _ _).symm)

variable {objects}

theorem poolSize_pos : 0 < objects.poolSize :=
  List.length_pos_iff.mpr objects.nonempty

theorem exists_sorted_iff {p : Nat} : (∃ i, objects.sorted i = p) ↔ p ∈ objects.pointers := by
  rw [← List.mem_insertionSort (· ≤ ·), List.mem_iff_get]
  constructor
  · rintro ⟨i, hi⟩
    exact ⟨_, hi⟩
  · rintro ⟨i, hi⟩
    exact ⟨i.cast (List.length_insertionSort _ _), hi⟩

theorem strictMono_sorted (h : 0 ∉ objects.pointers) : StrictMono objects.sorted := by
  have hall : objects.pointers.filter (· ≠ 0) = objects.pointers :=
    List.filter_eq_self.mpr fun p hp => decide_eq_true fun hzero => h (hzero ▸ hp)
  have hnodup : (objects.pointers.insertionSort (· ≤ ·)).Nodup :=
    (List.perm_insertionSort (· ≤ ·) _).nodup_iff.mpr (hall ▸ objects.distinct)
  have hsorted := (List.sortedLE_insertionSort (l := objects.pointers)).sortedLT_of_nodup hnodup
  exact fun i j hij => hsorted.strictMono_get hij

end PoolObjects

/-- The members of a pool: the pointer of each slot, which is null where the object is destroyed,
whether the object is in use, and the indices on the free stack, the top first. -/
structure PoolMemory (poolSize : Nat) where
  object : Fin poolSize → Nat
  inUse : Fin poolSize → Bool
  freeStack : List (Fin poolSize)

namespace PoolMemory

variable {poolSize : Nat}

def create (objects : PoolObjects) : PoolMemory objects.poolSize where
  object := objects.sorted
  inUse _ := false
  freeStack := (List.finRange objects.poolSize).reverse

/-- The pointer that is handed out after `Reset::reset` has had what it points to, or `none` where
the pool is empty. -/
def alloc (m : PoolMemory poolSize) : Option Nat × PoolMemory poolSize :=
  match m.freeStack with
  | [] => (none, m)
  | i :: rest =>
      (some (m.object i), { m with inUse := Function.update m.inUse i true, freeStack := rest })

def free (obj : Nat) (m : PoolMemory poolSize) : Bool × PoolMemory poolSize :=
  if obj = 0 then (false, m)
  else
    match lowerBound m.object obj with
    | none => (false, m)
    | some it =>
        if m.object it ≠ obj then (false, m)
        else if m.inUse it = false then (false, m)
        else
          (true,
            { m with inUse := Function.update m.inUse it false, freeStack := it :: m.freeStack })

/-- All objects are destroyed. -/
def clear (m : PoolMemory poolSize) : PoolMemory poolSize where
  object _ := 0
  inUse i := if m.object i ≠ 0 then false else m.inUse i
  freeStack := []

def reset (m : PoolMemory poolSize) : PoolMemory poolSize :=
  { m with inUse := fun _ => false, freeStack := (List.finRange poolSize).reverse }

end PoolMemory

/-- The calls of the pool that change it. -/
inductive PoolCall where
  | alloc
  | free (obj : Nat)
  | reset
  | clear
  deriving DecidableEq, Repr

namespace PoolMemory

def call (m : PoolMemory poolSize) : PoolCall → PoolMemory poolSize
  | .alloc => m.alloc.2
  | .free obj => (m.free obj).2
  | .reset => m.reset
  | .clear => m.clear

/-- The pointers that were handed out since the last reset and have not been freed. -/
def record (allocated : Finset Nat) (m : PoolMemory poolSize) : PoolCall → Finset Nat
  | .alloc =>
      match m.alloc.1 with
      | some obj => insert obj allocated
      | none => allocated
  | .free obj => allocated.erase obj
  | .reset => ∅
  | .clear => allocated

/-- The pool beside the pointers that its callers hold. -/
def system (objects : PoolObjects) :
    System (PoolMemory objects.poolSize × Finset Nat) PoolCall :=
  System.observe ⟨(· = create objects), fun m c => some (m.call c)⟩ ∅
    fun allocated m c _ => record allocated m c

/-- What the pool is to keep: its stack, and the answers to the calls that may come next. -/
structure Sound (s : PoolMemory poolSize × Finset Nat) : Prop where
  nodup_freeStack : s.1.freeStack.Nodup
  mem_freeStack : ∀ i, i ∈ s.1.freeStack ↔ s.1.object i ≠ 0 ∧ s.1.inUse i = false
  exhausted : s.1.alloc.1 = none ↔ s.1.freeStack = []
  allocated : ∀ obj, s.1.alloc.1 = some obj → obj ≠ 0 ∧ obj ∉ s.2
  refused : ∀ obj, (∀ i, s.1.object i ≠ obj) ∨ obj ∉ s.2 → s.1.free obj = (false, s.1)

/-- The pool of indices that a pool is. -/
structure StandsFor (m : PoolMemory poolSize) (pool : ObjectPool poolSize) : Prop where
  inUse_eq : m.inUse = pool.inUse
  freeStack_eq : m.freeStack = pool.freeStack

variable {m : PoolMemory poolSize} {pool : ObjectPool poolSize}

theorem standsFor_reset : m.reset.StandsFor pool.reset := ⟨rfl, rfl⟩

/-- The object whose index is on top of the stack is handed out. -/
theorem StandsFor.alloc (h : m.StandsFor pool) {i : Fin poolSize} {pool' : ObjectPool poolSize}
    (halloc : pool.alloc = some (i, pool')) :
    m.alloc.1 = some (m.object i) ∧ m.alloc.2.object = m.object ∧ m.alloc.2.StandsFor pool' := by
  have hstack : m.freeStack = i :: pool'.freeStack :=
    h.freeStack_eq.trans (ObjectPool.freeStack_of_alloc halloc)
  have hinUse : Function.update m.inUse i true = pool'.inUse := by
    rw [(ObjectPool.inUse_of_alloc halloc).2, h.inUse_eq]
  unfold PoolMemory.alloc
  rw [hstack]
  exact ⟨rfl, rfl, hinUse, rfl⟩

theorem alloc_eq_none_iff : m.alloc.1 = none ↔ m.freeStack = [] := by
  unfold alloc
  split
  next hstack => simp [hstack]
  next hstack => simp [hstack]

theorem alloc_of_empty (h : m.freeStack = []) : m.alloc = (none, m) := by
  rw [alloc, h]

theorem StandsFor.alloc_of_none (h : m.StandsFor pool) (hnone : pool.alloc = none) :
    m.alloc = (none, m) :=
  alloc_of_empty (h.freeStack_eq.trans (ObjectPool.alloc_eq_none_iff.mp hnone))

theorem free_eq_of_foreign {obj : Nat} (h : ∀ i, m.object i ≠ obj) : m.free obj = (false, m) := by
  unfold free
  split
  next => rfl
  next =>
    split
    next => rfl
    next it _ => rw [if_pos (h it)]

theorem free_object (hascending : StrictMono m.object) {i : Fin poolSize}
    (hobject : m.object i ≠ 0) :
    m.free (m.object i) =
      if m.inUse i = false then (false, m)
      else
        (true,
          { m with inUse := Function.update m.inUse i false, freeStack := i :: m.freeStack }) := by
  rw [free, if_neg hobject, lowerBound_self hascending]
  dsimp only
  rw [if_neg (not_not_intro rfl)]

/-- An object that is in use is given back, and one that is not is refused. -/
theorem StandsFor.free (h : m.StandsFor pool) (hascending : StrictMono m.object) {i : Fin poolSize}
    (hobject : m.object i ≠ 0) :
    (m.free (m.object i)).1 = (pool.free i).isSome ∧
      (m.free (m.object i)).2.object = m.object ∧
        (m.free (m.object i)).2.StandsFor ((pool.free i).getD pool) := by
  rw [free_object hascending hobject]
  cases hfree : pool.free i with
  | none =>
      have hinUse : m.inUse i = false := by
        rw [h.inUse_eq]
        exact ObjectPool.free_eq_none_iff.mp hfree
      rw [if_pos hinUse]
      exact ⟨rfl, rfl, h⟩
  | some pool' =>
      obtain ⟨hbefore, hbehind⟩ := ObjectPool.inUse_of_free hfree
      have hinUse : m.inUse i ≠ false := by
        rw [h.inUse_eq, hbefore]
        exact Bool.noConfusion
      rw [if_neg hinUse]
      refine ⟨rfl, rfl, ?_, ?_⟩
      · rw [Option.getD_some, hbehind, ← h.inUse_eq]
      · rw [Option.getD_some, ObjectPool.freeStack_of_free hfree, ← h.freeStack_eq]

/-- The pool whose objects are there, with the pointers to those that are in use handed out. -/
structure Live (s : PoolMemory poolSize × Finset Nat) : Prop where
  ascending : StrictMono s.1.object
  not_null : ∀ i, s.1.object i ≠ 0
  pooled : ∃ pool : ObjectPool poolSize, s.1.StandsFor pool
  mem_allocated : ∀ obj, obj ∈ s.2 ↔ ∃ i, s.1.object i = obj ∧ s.1.inUse i = true

variable {s : PoolMemory poolSize × Finset Nat} {objects : PoolObjects}

theorem live_create (h : 0 ∉ objects.pointers) : Live (create objects, ∅) where
  ascending := PoolObjects.strictMono_sorted h
  not_null i hnull := h (PoolObjects.exists_sorted_iff.mp ⟨i, hnull⟩)
  pooled := ⟨ObjectPool.create _, rfl, rfl⟩
  mem_allocated obj := by simp [create]

namespace Live

theorem object_mem_iff (h : Live s) {i : Fin poolSize} :
    s.1.object i ∈ s.2 ↔ s.1.inUse i = true := by
  rw [h.mem_allocated]
  constructor
  · rintro ⟨j, hobject, hinUse⟩
    exact h.ascending.injective hobject ▸ hinUse
  · exact fun hinUse => ⟨i, rfl, hinUse⟩

theorem sound (h : Live s) : Sound s := by
  obtain ⟨pool, hpool⟩ := h.pooled
  refine ⟨?_, fun i => ?_, alloc_eq_none_iff, fun obj halloc => ?_, fun obj hobj => ?_⟩
  · rw [hpool.freeStack_eq]
    exact pool.nodup_freeStack
  · rw [hpool.freeStack_eq, pool.mem_freeStack, hpool.inUse_eq]
    exact (and_iff_right (h.not_null i)).symm
  · cases hnext : pool.alloc with
    | none =>
        rw [hpool.alloc_of_none hnext] at halloc
        cases halloc
    | some next =>
        obtain ⟨i, pool'⟩ := next
        obtain rfl := Option.some.inj ((hpool.alloc hnext).1.symm.trans halloc)
        refine ⟨h.not_null i, fun hmem => ?_⟩
        have hfree := (ObjectPool.inUse_of_alloc hnext).1
        rw [h.object_mem_iff, hpool.inUse_eq, hfree] at hmem
        cases hmem
  · by_cases hown : ∃ i, s.1.object i = obj
    · obtain ⟨i, rfl⟩ := hown
      have hnot : s.1.object i ∉ s.2 := hobj.resolve_left fun hforeign => hforeign i rfl
      rw [h.object_mem_iff, Bool.not_eq_true] at hnot
      rw [free_object h.ascending (h.not_null i), if_pos hnot]
    · exact free_eq_of_foreign (not_exists.mp hown)

/-- A call that destroys no object leaves them where they are. -/
theorem of_object_eq {t : PoolMemory poolSize × Finset Nat} {pool : ObjectPool poolSize}
    (h : Live s) (hobject : t.1.object = s.1.object) (hpool : t.1.StandsFor pool)
    (hallocated : ∀ obj, obj ∈ t.2 ↔ ∃ i, s.1.object i = obj ∧ t.1.inUse i = true) : Live t where
  ascending := hobject.symm ▸ h.ascending
  not_null := hobject.symm ▸ h.not_null
  pooled := ⟨pool, hpool⟩
  mem_allocated := hobject.symm ▸ hallocated

theorem alloc (h : Live s) : Live (s.1.alloc.2, record s.2 s.1 .alloc) := by
  obtain ⟨pool, hpool⟩ := h.pooled
  cases hnext : pool.alloc with
  | none =>
      rw [record, hpool.alloc_of_none hnext]
      exact h
  | some next =>
      obtain ⟨i, pool'⟩ := next
      obtain ⟨hanswer, hobject, hpool'⟩ := hpool.alloc hnext
      have hinUse : s.1.alloc.2.inUse = Function.update s.1.inUse i true := by
        rw [hpool'.inUse_eq, (ObjectPool.inUse_of_alloc hnext).2, hpool.inUse_eq]
      refine h.of_object_eq hobject hpool' fun obj => ?_
      dsimp only [record]
      rw [hanswer, hinUse, Finset.mem_insert, h.mem_allocated]
      constructor
      · rintro (rfl | ⟨j, hobj, hj⟩)
        · exact ⟨i, rfl, Function.update_self ..⟩
        · rcases eq_or_ne j i with rfl | hne
          · exact ⟨j, hobj, Function.update_self ..⟩
          · exact ⟨j, hobj, (Function.update_of_ne hne ..).trans hj⟩
      · rintro ⟨j, hobj, hj⟩
        rcases eq_or_ne j i with rfl | hne
        · exact .inl hobj.symm
        · exact .inr ⟨j, hobj, (Function.update_of_ne hne ..).symm.trans hj⟩

theorem free (h : Live s) (obj : Nat) : Live ((s.1.free obj).2, s.2.erase obj) := by
  by_cases hown : ∃ i, s.1.object i = obj
  · obtain ⟨i, rfl⟩ := hown
    obtain ⟨pool, hpool⟩ := h.pooled
    obtain ⟨-, hobject, hpool'⟩ := hpool.free h.ascending (h.not_null i)
    have hinUse : (s.1.free (s.1.object i)).2.inUse = Function.update s.1.inUse i false := by
      rw [free_object h.ascending (h.not_null i)]
      split
      next hfree => rw [← hfree, Function.update_eq_self]
      next => rfl
    refine h.of_object_eq hobject hpool' fun obj => ?_
    dsimp only
    rw [hinUse, Finset.mem_erase, h.mem_allocated]
    constructor
    · rintro ⟨hne, j, rfl, hj⟩
      have hother : j ≠ i := fun heq => hne (heq ▸ rfl)
      exact ⟨j, rfl, (Function.update_of_ne hother ..).trans hj⟩
    · rintro ⟨j, rfl, hj⟩
      rcases eq_or_ne j i with rfl | hne
      · rw [Function.update_self] at hj
        cases hj
      · rw [Function.update_of_ne hne] at hj
        exact ⟨fun heq => hne (h.ascending.injective heq), j, rfl, hj⟩
  · have hforeign := not_exists.mp hown
    have hnot : obj ∉ s.2 := fun hmem =>
      have ⟨i, hobject, _⟩ := (h.mem_allocated obj).mp hmem
      hforeign i hobject
    rw [free_eq_of_foreign hforeign, Finset.erase_eq_of_notMem hnot]
    exact h

theorem reset (h : Live s) : Live (s.1.reset, ∅) := by
  obtain ⟨pool, -⟩ := h.pooled
  exact h.of_object_eq rfl (@standsFor_reset _ _ pool) fun obj => by simp [PoolMemory.reset]

end Live

/-- The pool that has no object left. -/
def Destroyed (s : PoolMemory poolSize × Finset Nat) : Prop :=
  ∀ i, s.1.object i = 0

theorem free_of_destroyed (h : Destroyed s) (obj : Nat) : s.1.free obj = (false, s.1) := by
  rcases eq_or_ne obj 0 with rfl | hobj
  · rw [PoolMemory.free, if_pos rfl]
  · exact free_eq_of_foreign fun i => h i ▸ hobj.symm

theorem sound_iff_of_destroyed (h : Destroyed s) : Sound s ↔ s.1.freeStack = [] := by
  constructor
  · intro hsound
    refine List.eq_nil_iff_forall_not_mem.mpr fun i hi => ?_
    exact ((hsound.mem_freeStack i).mp hi).1 (h i)
  · intro hempty
    refine ⟨hempty ▸ List.nodup_nil, fun i => ?_, alloc_eq_none_iff, fun obj halloc => ?_,
      fun obj _ => free_of_destroyed h obj⟩
    · rw [hempty]
      exact iff_of_false List.not_mem_nil fun hlive => hlive.1 (h i)
    · rw [alloc_of_empty hempty] at halloc
      cases halloc

theorem object_call {c : PoolCall} (hc : c ≠ .clear) : (m.call c).object = m.object := by
  cases c with
  | alloc =>
      change m.alloc.2.object = m.object
      unfold PoolMemory.alloc
      split <;> rfl
  | free obj =>
      change (m.free obj).2.object = m.object
      unfold PoolMemory.free
      split
      next => rfl
      next =>
        split
        next => rfl
        next => split <;> [skip; split] <;> rfl
  | reset => rfl
  | clear => exact absurd rfl hc

/-- A pool is not reset when its objects have been destroyed. -/
def ResetsObjects (s : PoolMemory poolSize × Finset Nat) (c : PoolCall) : Prop :=
  c = .reset → ¬Destroyed s

theorem resetsObjects_of_ne {c : PoolCall} (hc : c ≠ .reset) : ResetsObjects s c :=
  fun h => absurd h hc

theorem not_destroyed_of_live (h : Live s) (hsize : 0 < poolSize) : ¬Destroyed s :=
  fun hdestroyed => h.not_null ⟨0, hsize⟩ (hdestroyed ⟨0, hsize⟩)

theorem finRange_ne_nil (hsize : 0 < poolSize) : (List.finRange poolSize).reverse ≠ [] := by
  rw [Ne, List.reverse_eq_nil_iff, ← List.length_eq_zero_iff, List.length_finRange]
  exact hsize.ne'

/-- The pool and the pointers that its callers hold, after a call. -/
def next (s : PoolMemory poolSize × Finset Nat) (c : PoolCall) : PoolMemory poolSize × Finset Nat :=
  (s.1.call c, record s.2 s.1 c)

theorem Live.next (h : Live s) {c : PoolCall} (hc : c ≠ .clear) : Live (next s c) := by
  cases c with
  | alloc => exact h.alloc
  | free obj => exact h.free obj
  | reset => exact h.reset
  | clear => exact absurd rfl hc

theorem destroyed_clear : Destroyed (next s .clear) := fun _ => rfl

theorem Destroyed.next (h : Destroyed s) (c : PoolCall) : Destroyed (next s c) := by
  rcases eq_or_ne c .clear with rfl | hc
  · exact destroyed_clear
  · intro i
    rw [PoolMemory.next, object_call hc]
    exact h i

/-- Where the pool is sound, it stays so in every call but the reset of a destroyed one. -/
theorem sound_next_iff (hsize : 0 < poolSize) (h : Live s ∨ Destroyed s) (hsound : Sound s)
    (c : PoolCall) : Sound (next s c) ↔ ResetsObjects s c := by
  rcases h with hlive | hdestroyed
  · refine iff_of_true ?_ fun _ => not_destroyed_of_live hlive hsize
    rcases eq_or_ne c .clear with rfl | hc
    · exact (sound_iff_of_destroyed destroyed_clear).mpr rfl
    · exact (hlive.next hc).sound
  · have hempty := (sound_iff_of_destroyed hdestroyed).mp hsound
    rw [sound_iff_of_destroyed (hdestroyed.next c)]
    cases c with
    | alloc =>
        refine iff_of_true ?_ (resetsObjects_of_ne PoolCall.noConfusion)
        rw [next, call, alloc_of_empty hempty]
        exact hempty
    | free obj =>
        refine iff_of_true ?_ (resetsObjects_of_ne PoolCall.noConfusion)
        rw [next, call, free_of_destroyed hdestroyed]
        exact hempty
    | reset => exact iff_of_false (finRange_ne_nil hsize) fun h => h rfl hdestroyed
    | clear => exact iff_of_true rfl (resetsObjects_of_ne PoolCall.noConfusion)

theorem destroyed_next_iff {c : PoolCall} (hc : c ≠ .clear) :
    Destroyed (next s c) ↔ Destroyed s := by
  rw [Destroyed, Destroyed, next, object_call hc]

theorem next_of_step {u v : PoolMemory objects.poolSize × Finset Nat} {c : PoolCall}
    (hstep : (system objects).step u c = some v) : next u c = v :=
  Option.some.inj hstep

/-- The objects are destroyed once the pool has been cleared. -/
theorem destroyed_iff_of_run (h : 0 ∉ objects.pointers) {calls : List PoolCall}
    {u : PoolMemory objects.poolSize × Finset Nat}
    (hrun : (system objects).run (create objects, ∅) calls = some u) :
    Destroyed u ↔ .clear ∈ calls := by
  refine System.run_invariant (I := fun calls u => Destroyed u ↔ .clear ∈ calls) ?_ ?_ hrun
  · exact iff_of_false (not_destroyed_of_live (live_create h) PoolObjects.poolSize_pos)
      List.not_mem_nil
  · intro calls u c v hu hstep
    obtain rfl := next_of_step hstep
    rw [List.mem_append, List.mem_singleton, ← hu]
    rcases eq_or_ne c .clear with rfl | hc
    · exact iff_of_true destroyed_clear (.inr rfl)
    · rw [destroyed_next_iff hc]
      exact (or_iff_left fun heq => hc heq.symm).symm

theorem not_sound_create (h : 0 ∈ objects.pointers) : ¬Sound (create objects, ∅) := by
  intro hsound
  obtain ⟨i, hnull⟩ := PoolObjects.exists_sorted_iff.mpr h
  have hfree : i ∈ (create objects).freeStack := List.mem_reverse.mpr (List.mem_finRange i)
  exact ((hsound.mem_freeStack i).mp hfree).1 hnull

/-- The pool keeps its books in every state, if and only if all its objects could be made and it is
not reset after it has been cleared. -/
theorem bookkeeping_iff {objects : PoolObjects} {calls : List PoolCall}
    {t : PoolMemory objects.poolSize × Finset Nat}
    (hrun : (system objects).run (create objects, ∅) calls = some t) :
    (∀ before after u, calls = before ++ after →
        (system objects).run (create objects, ∅) before = some u → Sound u) ↔
      0 ∉ objects.pointers ∧
        ∀ before after, calls = before ++ .reset :: after → .clear ∉ before := by
  by_cases hnull : 0 ∈ objects.pointers
  · exact iff_of_false (fun hall => not_sound_create hnull (hall [] calls _ rfl rfl))
      fun h => h.1 hnull
  · rw [and_iff_right hnull]
    have hlive := live_create hnull
    have hmeets := System.forall_prefix_iff_meets (T := system objects)
      (I := fun u => Live u ∨ Destroyed u) (P := Sound) (G := ResetsObjects) ?_ ?_
      (.inl hlive) hlive.sound hrun
    · refine hmeets.trans
        ⟨fun h before after heq hclear => ?_, fun h before c after u heq hu hc => ?_⟩
      · obtain ⟨u, hu, -⟩ := System.exists_run_of_append (heq ▸ hrun)
        exact h before .reset after u heq hu rfl ((destroyed_iff_of_run hnull hu).mpr hclear)
      · obtain rfl := hc
        exact fun hdestroyed => h before after heq ((destroyed_iff_of_run hnull hu).mp hdestroyed)
    · intro u c v hu hstep
      obtain rfl := next_of_step hstep
      rcases hu with hlive | hdestroyed
      · rcases eq_or_ne c .clear with rfl | hc
        · exact .inr destroyed_clear
        · exact .inl (hlive.next hc)
      · exact .inr (hdestroyed.next c)
    · intro u c v hu hsound hstep
      obtain rfl := next_of_step hstep
      exact sound_next_iff PoolObjects.poolSize_pos hu hsound c

theorem bookkeeping_iff_twoObjects :
    let objects : PoolObjects := ⟨[24, 8], by decide, by decide⟩
    let calls : List PoolCall :=
      [.alloc, .alloc, .alloc, .free 16, .free 24, .free 24, .reset, .free 8, .alloc, .clear]
    (∀ before after u, calls = before ++ after →
        (system objects).run (create objects, ∅) before = some u → Sound u) ↔
      0 ∉ objects.pointers ∧
        ∀ before after, calls = before ++ .reset :: after → .clear ∉ before :=
  @bookkeeping_iff ⟨[24, 8], by decide, by decide⟩
    [.alloc, .alloc, .alloc, .free 16, .free 24, .free 24, .reset, .free 8, .alloc, .clear]
    _ rfl

/-- A pool that is reset after it has been cleared hands out the null pointer. -/
theorem not_bookkeeping : ¬∀ (objects : PoolObjects) (calls : List PoolCall)
    (t : PoolMemory objects.poolSize × Finset Nat), 0 ∉ objects.pointers →
      (system objects).run (create objects, ∅) calls = some t → Sound t := by
  intro h
  have hsound := h ⟨[8], by decide, by decide⟩ [.clear, .reset] _ (by decide) rfl
  exact (hsound.allocated 0 rfl).1 rfl

end PoolMemory

end Usbipdcpp.Utils
