import Mathlib.Data.List.TakeDrop
import Mathlib.Logic.Function.Basic
import Usbipdcpp.Foundation.TransitionSystem

namespace Usbipdcpp.Utils

open Foundation.TransitionSystem

universe u v

/-- The places that a vector has in itself. -/
abbrev StackStorage (T : Type u) (N : Nat) :=
  { places : List T // places.length = N }

namespace StackStorage

variable {T : Type u} {N : Nat}

def set (storage : StackStorage T N) (i : Nat) (value : T) : StackStorage T N :=
  ⟨storage.val.set i value, by rw [List.length_set, storage.property]⟩

/-- The places with the first ones assigned, as far as there are any. -/
def assign (storage : StackStorage T N) (values : List T) : StackStorage T N :=
  ⟨(values ++ storage.val.drop values.length).take N, by
    rw [List.length_take, List.length_append, List.length_drop, storage.property]
    omega⟩

variable {storage : StackStorage T N} {values : List T}

theorem take_set {n : Nat} (h : n < N) (value : T) :
    (storage.set n value).val.take (n + 1) = storage.val.take n ++ [value] := by
  have hplace : n < storage.val.length := storage.property.symm ▸ h
  change (storage.val.set n value).take (n + 1) = _
  rw [List.take_add_one, List.take_set_of_le (Nat.le_refl n), List.getElem?_set_self hplace]
  rfl

theorem prefix_assign (h : values.length ≤ N) : values <+: (storage.assign values).val := by
  change values <+: (values ++ storage.val.drop values.length).take N
  exact List.prefix_take_iff.mpr ⟨List.prefix_append _ _, h⟩

theorem take_assign {n : Nat} (hlength : values.length = n) (h : n ≤ N) :
    (storage.assign values).val.take n = values := by
  rw [← hlength]
  exact (List.prefix_iff_eq_take.mp (prefix_assign (hlength.symm ▸ h))).symm

end StackStorage

/-- A vector that keeps up to `N` elements in itself and more of them on the heap. -/
structure SmallVector (T : Type u) (N : Nat) where
  stackStorage : StackStorage T N
  heapStorage : List T
  size : Nat
  onHeap : Bool

/-- What the argument of a call leads to, which may be in the vector's own elements. -/
abbrev Argument (T : Type u) :=
  List T → T

namespace SmallVector

variable {T : Type u} {N : Nat}

/-- What is read at the positions below the size. -/
def elements (v : SmallVector T N) : List T :=
  (if v.onHeap = true then v.heapStorage else v.stackStorage.val).take v.size

def create [Inhabited T] : SmallVector T N where
  stackStorage := ⟨List.replicate N default, List.length_replicate⟩
  heapStorage := []
  size := 0
  onHeap := false

def clear (v : SmallVector T N) : SmallVector T N :=
  { v with
    heapStorage := if v.onHeap = true then [] else v.heapStorage
    size := 0
    onHeap := false }

/-- The elements of another vector copied into an empty one. -/
def copyFrom (other v : SmallVector T N) : SmallVector T N where
  stackStorage :=
    if other.onHeap = true then v.stackStorage
    else v.stackStorage.assign (other.stackStorage.val.take other.size)
  heapStorage := if other.onHeap = true then other.heapStorage else v.heapStorage
  size := other.size
  onHeap := other.onHeap

/-- The first elements of the heap vector, or all of them with new ones behind. -/
def resizeHeap [Inhabited T] (newSize : Nat) (l : List T) : List T :=
  l.take newSize ++ List.replicate (newSize - l.length) default

section Moves

variable (moved : T → T)

/-- What is left of a vector whose elements are moved into another one. -/
def movedFrom (other : SmallVector T N) : SmallVector T N where
  stackStorage :=
    if other.onHeap = true then other.stackStorage
    else other.stackStorage.assign ((other.stackStorage.val.take other.size).map moved)
  heapStorage := if other.onHeap = true then [] else other.heapStorage
  size := 0
  onHeap := false

def migrateToHeap (v : SmallVector T N) : SmallVector T N :=
  { v with
    stackStorage := v.stackStorage.assign ((v.stackStorage.val.take v.size).map moved)
    heapStorage := v.heapStorage ++ v.stackStorage.val.take v.size
    onHeap := true }

/-- The value is built where it is stored: from the elements of a full vector when these have been
moved to the heap. -/
def append (argument : Argument T) (v : SmallVector T N) : SmallVector T N :=
  if v.onHeap = true then
    { v with
      heapStorage := v.heapStorage ++ [argument v.heapStorage]
      size := v.size + 1 }
  else if v.size < N then
    { v with
      stackStorage := v.stackStorage.set v.size (argument (v.stackStorage.val.take v.size))
      size := v.size + 1 }
  else
    let w := v.migrateToHeap moved
    { w with
      heapStorage := w.heapStorage ++ [argument (w.stackStorage.val.take v.size)]
      size := v.size + 1 }

def pushBack (value : Argument T) (v : SmallVector T N) : SmallVector T N :=
  append moved value v

def emplaceBack (args : Argument T) (v : SmallVector T N) : SmallVector T N :=
  append moved args v

def popBack (v : SmallVector T N) : SmallVector T N :=
  { v with
    heapStorage := if v.onHeap = true then v.heapStorage.dropLast else v.heapStorage
    size := v.size - 1 }

def resize [Inhabited T] (newSize : Nat) (v : SmallVector T N) : SmallVector T N :=
  if newSize ≤ N then
    if v.onHeap = true then
      { stackStorage := v.stackStorage.assign (v.heapStorage.take (min newSize v.size))
        heapStorage := []
        size := newSize
        onHeap := false }
    else { v with size := newSize }
  else
    let w := if v.onHeap = true then v else v.migrateToHeap moved
    { w with
      heapStorage := resizeHeap newSize w.heapStorage
      size := newSize }

def reserve (newCap : Nat) (v : SmallVector T N) : SmallVector T N :=
  if N < newCap ∧ v.onHeap = false then v.migrateToHeap moved else v

end Moves

end SmallVector

/-- The calls of one vector. -/
inductive VectorCall (T : Type u) where
  | pushBack (value : Argument T)
  | emplaceBack (args : Argument T)
  | popBack
  | clear
  | resize (newSize : Nat)
  | reserve (newCap : Nat)

/-- The calls of the vectors that are there, and the making of new ones in their places. -/
inductive SmallVectorCall (ι : Type v) (T : Type u) where
  | on (target : ι) (c : VectorCall T)
  | create (target : ι)
  | copyConstruct (target source : ι)
  | moveConstruct (target source : ι)
  | copyAssign (target source : ι)
  | moveAssign (target source : ι)

namespace SmallVector

variable {T : Type u} {N : Nat} {ι : Type v} [DecidableEq ι] [Inhabited T]

/-- An empty vector has no last element to take away. -/
def call (moved : T → T) (v : SmallVector T N) : VectorCall T → Option (SmallVector T N)
  | .pushBack value => some (v.pushBack moved value)
  | .emplaceBack args => some (v.emplaceBack moved args)
  | .popBack => if v.size = 0 then none else some v.popBack
  | .clear => some v.clear
  | .resize newSize => some (v.resize moved newSize)
  | .reserve newCap => some (v.reserve moved newCap)

/-- The vectors after a call. An assignment to itself leaves a vector as it is, and none is made
from itself. -/
def callAll (moved : T → T) (vectors : ι → SmallVector T N) :
    SmallVectorCall ι T → Option (ι → SmallVector T N)
  | .on target c => (call moved (vectors target) c).map (Function.update vectors target)
  | .create target => some (Function.update vectors target create)
  | .copyConstruct target source =>
      if target = source then none
      else some (Function.update vectors target (copyFrom (vectors source) create))
  | .moveConstruct target source =>
      if target = source then none
      else
        some (Function.update (Function.update vectors target (copyFrom (vectors source) create))
          source ((vectors source).movedFrom moved))
  | .copyAssign target source =>
      if target = source then some vectors
      else some (Function.update vectors target (copyFrom (vectors source) (vectors target).clear))
  | .moveAssign target source =>
      if target = source then some vectors
      else
        some (Function.update
          (Function.update vectors target (copyFrom (vectors source) (vectors target).clear))
          source ((vectors source).movedFrom moved))

/-- Any number of vectors, empty at first, of elements of which a move leaves what `moved` says. -/
def system (ι : Type v) [DecidableEq ι] (N : Nat) (moved : T → T) :
    System (ι → SmallVector T N) (SmallVectorCall ι T) where
  initial vectors := vectors = fun _ => create
  step := callAll moved

end SmallVector

section Lists

variable {T : Type u}

/-- The calls of a list. The elements that it gets when it is made longer may be any. -/
def listCall (l : List T) : VectorCall T → List T → Prop
  | .pushBack argument, later | .emplaceBack argument, later => later = l ++ [argument l]
  | .popBack, later => later = l.dropLast
  | .clear, later => later = []
  | .resize newSize, later => l.take newSize <+: later ∧ later.length = newSize
  | .reserve _, later => later = l

/-- The calls of some lists, in which a list that is moved is empty afterwards. -/
def listCallAll {ι : Type v} [DecidableEq ι] (lists : ι → List T) :
    SmallVectorCall ι T → (ι → List T) → Prop
  | .on target c, later =>
      listCall (lists target) c (later target) ∧
        later = Function.update lists target (later target)
  | .create target, later => later = Function.update lists target []
  | .copyConstruct target source, later | .copyAssign target source, later =>
      later = Function.update lists target (lists source)
  | .moveConstruct target source, later | .moveAssign target source, later =>
      later = if target = source then lists
        else Function.update (Function.update lists target (lists source)) source []

end Lists

namespace SmallVector

variable {T : Type u} {N : Nat}

/-- A vector on the heap has its elements there and no others, and one that is not has no more than
it has places for. -/
structure Shape (v : SmallVector T N) : Prop where
  heap : v.onHeap = true → v.heapStorage.length = v.size
  stack : v.onHeap = false → v.heapStorage = [] ∧ v.size ≤ N

variable {v w : SmallVector T N}

theorem Shape.elements_of_heap (h : Shape v) (hheap : v.onHeap = true) :
    v.elements = v.heapStorage := by
  rw [elements, if_pos hheap, ← h.heap hheap, List.take_length]

theorem elements_of_stack (hstack : v.onHeap = false) :
    v.elements = v.stackStorage.val.take v.size := by
  rw [elements, hstack]
  rfl

theorem length_take_stack (h : v.size ≤ N) : (v.stackStorage.val.take v.size).length = v.size := by
  rw [List.length_take, v.stackStorage.property]
  exact Nat.min_eq_left h

theorem Shape.length_elements (h : Shape v) : v.elements.length = v.size := by
  cases hheap : v.onHeap with
  | true => rw [h.elements_of_heap hheap, h.heap hheap]
  | false => rw [elements_of_stack hheap, length_take_stack (h.stack hheap).2]

/-- The vector has the shape of one that holds the elements of a list. -/
def Holds (v : SmallVector T N) (l : List T) : Prop :=
  Shape v ∧ v.elements = l

variable {l : List T}

theorem holds_of_heap (hheap : v.onHeap = true) (helements : v.heapStorage = l)
    (hsize : l.length = v.size) : Holds v l := by
  have hshape : Shape v :=
    ⟨fun _ => helements.symm ▸ hsize, fun hstack => Bool.noConfusion (hheap.symm.trans hstack)⟩
  exact ⟨hshape, (hshape.elements_of_heap hheap).trans helements⟩

theorem holds_of_stack (hstack : v.onHeap = false) (hempty : v.heapStorage = [])
    (hsize : v.size ≤ N) (helements : v.stackStorage.val.take v.size = l) : Holds v l :=
  ⟨⟨fun hheap => Bool.noConfusion (hheap.symm.trans hstack), fun _ => ⟨hempty, hsize⟩⟩,
    (elements_of_stack hstack).trans helements⟩

theorem holds_create [Inhabited T] : Holds (create : SmallVector T N) [] :=
  holds_of_stack rfl rfl (Nat.zero_le N) rfl

theorem heapStorage_clear (h : Shape v) : v.clear.heapStorage = [] := by
  cases hheap : v.onHeap with
  | true => exact if_pos hheap
  | false =>
      rw [clear, hheap]
      exact (h.stack hheap).1

theorem holds_clear (h : Shape v) : Holds v.clear [] :=
  holds_of_stack rfl (heapStorage_clear h) (Nat.zero_le N) rfl

/-- The copy is in the same kind of storage. -/
theorem holds_copyFrom (h : Shape v) (hempty : w.heapStorage = []) :
    Holds (copyFrom v w) v.elements := by
  cases hheap : v.onHeap with
  | true =>
      rw [h.elements_of_heap hheap]
      exact holds_of_heap hheap (if_pos hheap) (h.heap hheap)
  | false =>
      have hsize := (h.stack hheap).2
      rw [elements_of_stack hheap]
      refine holds_of_stack hheap ?_ hsize ?_
      · rw [copyFrom, hheap]
        exact hempty
      · rw [copyFrom, hheap]
        exact StackStorage.take_assign (length_take_stack hsize) hsize

theorem holds_movedFrom (h : Shape v) (moved : T → T) : Holds (v.movedFrom moved) [] := by
  refine holds_of_stack rfl ?_ (Nat.zero_le N) rfl
  cases hheap : v.onHeap with
  | true => exact if_pos hheap
  | false =>
      rw [movedFrom, hheap]
      exact (h.stack hheap).1

theorem holds_popBack (h : Shape v) : Holds v.popBack v.elements.dropLast := by
  cases hheap : v.onHeap with
  | true =>
      rw [h.elements_of_heap hheap]
      refine holds_of_heap hheap (if_pos hheap) ?_
      rw [List.length_dropLast, h.heap hheap]
      rfl
  | false =>
      have hsize := (h.stack hheap).2
      rw [elements_of_stack hheap]
      refine holds_of_stack hheap ?_ (Nat.le_trans (Nat.sub_le _ _) hsize) ?_
      · rw [popBack, hheap]
        exact (h.stack hheap).1
      · rw [List.dropLast_eq_take, length_take_stack hsize, List.take_take]
        exact congrArg (v.stackStorage.val.take ·) (Nat.min_eq_left (Nat.sub_le _ _)).symm

/-- The elements are in the same order on the heap. -/
theorem holds_migrateToHeap (h : Shape v) (hstack : v.onHeap = false) (moved : T → T) :
    Holds (v.migrateToHeap moved) v.elements := by
  refine holds_of_heap rfl ?_ h.length_elements
  rw [migrateToHeap, elements_of_stack hstack, (h.stack hstack).1]
  rfl

theorem holds_reserve (h : Shape v) (moved : T → T) (newCap : Nat) :
    Holds (v.reserve moved newCap) v.elements := by
  unfold reserve
  split
  next hmigrate => exact holds_migrateToHeap h hmigrate.2 moved
  next => exact ⟨h, rfl⟩

/-- The vector is full, and its elements are still in it. -/
def FullStack (v : SmallVector T N) : Prop :=
  v.onHeap = false ∧ v.size = N

instance (v : SmallVector T N) : Decidable v.FullStack :=
  inferInstanceAs (Decidable (_ ∧ _))

/-- The argument is taken from what a move has left of the elements where they have to leave the
vector. -/
theorem holds_append (h : Shape v) (moved : T → T) (argument : Argument T) :
    Holds (v.append moved argument)
      (v.elements ++
        [argument (if v.FullStack then v.elements.map moved else v.elements)]) := by
  cases hheap : v.onHeap with
  | true =>
      have hnot : ¬v.FullStack := fun hfull => Bool.noConfusion (hheap.symm.trans hfull.1)
      rw [if_neg hnot, h.elements_of_heap hheap, append, if_pos hheap]
      refine holds_of_heap hheap rfl ?_
      rw [List.length_append, h.heap hheap]
      rfl
  | false =>
      obtain ⟨hempty, hsize⟩ := h.stack hheap
      have hstack : ¬v.onHeap = true := Bool.eq_false_iff.mp hheap
      rw [elements_of_stack hheap, append, if_neg hstack]
      by_cases hplace : v.size < N
      · have hnot : ¬v.FullStack := fun hfull => absurd hfull.2 (Nat.ne_of_lt hplace)
        rw [if_neg hnot, if_pos hplace]
        exact holds_of_stack hheap hempty hplace (StackStorage.take_set hplace _)
      · have hfull : v.FullStack := ⟨hheap, Nat.le_antisymm hsize (Nat.le_of_not_lt hplace)⟩
        have hlength : ((v.stackStorage.val.take v.size).map moved).length = v.size := by
          rw [List.length_map, length_take_stack hsize]
        rw [if_pos hfull, if_neg hplace]
        refine holds_of_heap rfl ?_ ?_
        · dsimp only [migrateToHeap]
          rw [hempty, StackStorage.take_assign hlength hsize, List.nil_append]
        · rw [List.length_append, length_take_stack hsize]
          rfl

theorem length_resizeHeap [Inhabited T] (newSize : Nat) (l : List T) :
    (resizeHeap newSize l).length = newSize := by
  rw [resizeHeap, List.length_append, List.length_take, List.length_replicate]
  omega

/-- The elements that are there stay, as far as there is room for them. -/
theorem exists_holds_resize [Inhabited T] (h : Shape v) (moved : T → T) (newSize : Nat) :
    ∃ l, Holds (v.resize moved newSize) l ∧ v.elements.take newSize <+: l ∧
      l.length = newSize := by
  unfold resize
  split
  next hfits =>
    have hlength (storage : StackStorage T N) : (storage.val.take newSize).length = newSize := by
      rw [List.length_take, storage.property]
      exact Nat.min_eq_left hfits
    split
    next hheap =>
      refine ⟨_, holds_of_stack rfl rfl hfits rfl, ?_, hlength _⟩
      have hkept : v.heapStorage.take (min newSize v.size) = v.heapStorage.take newSize := by
        rw [← h.heap hheap, ← List.take_eq_take_min]
      have hshort : (v.heapStorage.take newSize).length ≤ newSize := List.length_take_le _ _
      rw [h.elements_of_heap hheap, hkept]
      exact List.prefix_take_iff.mpr
        ⟨StackStorage.prefix_assign (Nat.le_trans hshort hfits), hshort⟩
    next hstack =>
      have hstack : v.onHeap = false := Bool.eq_false_iff.mpr hstack
      refine ⟨_, holds_of_stack hstack (h.stack hstack).1 hfits rfl, ?_, hlength _⟩
      rw [elements_of_stack hstack, List.take_take]
      exact List.take_prefix_take_left (Nat.min_le_left _ _)
  next =>
    obtain ⟨w, hw, hheap, hmigrated⟩ : ∃ w : SmallVector T N, Holds w v.elements ∧
        w.onHeap = true ∧ (if v.onHeap = true then v else v.migrateToHeap moved) = w := by
      cases hheap : v.onHeap with
      | true => exact ⟨v, ⟨h, rfl⟩, hheap, rfl⟩
      | false => exact ⟨_, holds_migrateToHeap h hheap moved, rfl, rfl⟩
    rw [hmigrated]
    refine ⟨_, holds_of_heap hheap rfl (length_resizeHeap newSize _), ?_,
      length_resizeHeap newSize _⟩
    rw [← hw.2, hw.1.elements_of_heap hheap]
    exact List.prefix_append _ _

/-- The argument leads to the same when the elements have left the vector, if they have to. -/
def ArgumentKept (moved : T → T) (v : SmallVector T N) : VectorCall T → Prop
  | .pushBack argument | .emplaceBack argument =>
      v.FullStack → argument (v.elements.map moved) = argument v.elements
  | _ => True

theorem listCall_append_iff (h : Shape v) (moved : T → T) (argument : Argument T) :
    (v.append moved argument).elements = v.elements ++ [argument v.elements] ↔
      (v.FullStack → argument (v.elements.map moved) = argument v.elements) := by
  rw [(holds_append h moved argument).2, List.append_cancel_left_eq, List.singleton_inj]
  by_cases hfull : v.FullStack
  · rw [if_pos hfull, imp_iff_right hfull]
  · rw [if_neg hfull]
    exact iff_of_true rfl fun h => absurd h hfull

/-- The elements are those of the list that has had the call. -/
theorem shape_call [Inhabited T] {moved : T → T} {c : VectorCall T} (h : Shape v)
    (hcall : v.call moved c = some w) :
    Shape w ∧ (listCall v.elements c w.elements ↔ ArgumentKept moved v c) := by
  cases c with
  | pushBack argument | emplaceBack argument =>
      obtain rfl := Option.some.inj hcall
      exact ⟨(holds_append h moved argument).1, listCall_append_iff h moved argument⟩
  | popBack =>
      obtain ⟨-, hpopped⟩ := Option.ite_none_left_eq_some.mp hcall
      obtain rfl := Option.some.inj hpopped
      obtain ⟨hshape, helements⟩ := holds_popBack h
      exact ⟨hshape, iff_true_intro helements⟩
  | clear =>
      obtain rfl := Option.some.inj hcall
      exact ⟨(holds_clear h).1, iff_true_intro (holds_clear h).2⟩
  | resize newSize =>
      obtain rfl := Option.some.inj hcall
      obtain ⟨l, ⟨hshape, rfl⟩, hl⟩ := exists_holds_resize h moved newSize
      exact ⟨hshape, iff_true_intro hl⟩
  | reserve newCap =>
      obtain rfl := Option.some.inj hcall
      obtain ⟨hshape, helements⟩ := holds_reserve h moved newCap
      exact ⟨hshape, iff_true_intro helements⟩

section Vectors

variable {ι : Type v} [DecidableEq ι] {vectors : ι → SmallVector T N} {target : ι}

/-- What the vectors hold. -/
def contents (vectors : ι → SmallVector T N) : ι → List T :=
  fun i => (vectors i).elements

/-- Each vector holds its list. -/
def Hold (vectors : ι → SmallVector T N) (lists : ι → List T) : Prop :=
  ∀ i, Holds (vectors i) (lists i)

omit [DecidableEq ι] in
theorem hold_contents (hvectors : ∀ i, Shape (vectors i)) : Hold vectors (contents vectors) :=
  fun i => ⟨hvectors i, rfl⟩

omit [DecidableEq ι] in
theorem Hold.contents_eq {lists : ι → List T} (h : Hold vectors lists) :
    contents vectors = lists :=
  funext fun i => (h i).2

theorem Hold.update {lists : ι → List T} (h : Hold vectors lists) (hw : Holds w l) :
    Hold (Function.update vectors target w) (Function.update lists target l) := by
  intro i
  rcases eq_or_ne i target with rfl | hne
  · rw [Function.update_self, Function.update_self]
    exact hw
  · rw [Function.update_of_ne hne, Function.update_of_ne hne]
    exact h i

/-- The argument of a call is kept where the call has one. -/
def ArgumentsKept (moved : T → T) (vectors : ι → SmallVector T N) : SmallVectorCall ι T → Prop
  | .on target c => ArgumentKept moved (vectors target) c
  | _ => True

/-- What the vectors are to do in a call. -/
structure ActsAsLists (vectors : ι → SmallVector T N) (c : SmallVectorCall ι T)
    (later : ι → SmallVector T N) : Prop where
  lists : listCallAll (contents vectors) c (contents later)
  heap : ∀ i, (later i).onHeap = true → (later i).heapStorage.length = (later i).size
  size : ∀ i, (later i).size = (later i).elements.length

theorem actsAsLists_iff {c : SmallVectorCall ι T} {later : ι → SmallVector T N}
    (hlater : ∀ i, Shape (later i)) :
    ActsAsLists vectors c later ↔ listCallAll (contents vectors) c (contents later) :=
  ⟨fun h => h.lists,
    fun h => ⟨h, fun i => (hlater i).heap, fun i => (hlater i).length_elements.symm⟩⟩

/-- The vectors keep their shapes, and are the lists that they are to be, if and only if the
argument is kept. -/
theorem shape_callAll [Inhabited T] {moved : T → T} {c : SmallVectorCall ι T}
    {later : ι → SmallVector T N} (hvectors : ∀ i, Shape (vectors i))
    (hcall : callAll moved vectors c = some later) :
    (∀ i, Shape (later i)) ∧
      (listCallAll (contents vectors) c (contents later) ↔ ArgumentsKept moved vectors c) := by
  have hhold := hold_contents hvectors
  have hdone {lists : ι → List T} (h : Hold later lists)
      (hlists : listCallAll (contents vectors) c lists) (hkept : ArgumentsKept moved vectors c) :
      (∀ i, Shape (later i)) ∧
        (listCallAll (contents vectors) c (contents later) ↔ ArgumentsKept moved vectors c) :=
    ⟨fun i => (h i).1, iff_of_true (h.contents_eq ▸ hlists) hkept⟩
  cases c with
  | on target c =>
      obtain ⟨w, hw, rfl⟩ := Option.map_eq_some_iff.mp hcall
      obtain ⟨hshape, hlist⟩ := shape_call (hvectors target) hw
      have hlater : Hold (Function.update vectors target w) _ := hhold.update ⟨hshape, rfl⟩
      refine ⟨fun i => (hlater i).1, ?_⟩
      rw [hlater.contents_eq, listCallAll, Function.update_self, and_iff_left rfl]
      exact hlist
  | create target =>
      obtain rfl := Option.some.inj hcall
      exact hdone (hhold.update holds_create) rfl trivial
  | copyConstruct target source =>
      obtain ⟨-, hmade⟩ := Option.ite_none_left_eq_some.mp hcall
      obtain rfl := Option.some.inj hmade
      exact hdone (hhold.update (holds_copyFrom (hvectors source) rfl)) rfl trivial
  | moveConstruct target source =>
      obtain ⟨hne, hmade⟩ := Option.ite_none_left_eq_some.mp hcall
      obtain rfl := Option.some.inj hmade
      have hmoved : Hold (Function.update vectors target (copyFrom (vectors source) create)) _ :=
        hhold.update (holds_copyFrom (hvectors source) rfl)
      refine hdone (hmoved.update (holds_movedFrom (hvectors source) moved)) ?_ trivial
      exact (if_neg hne).symm
  | copyAssign target source =>
      change (if target = source then some vectors else some _) = some later at hcall
      split at hcall
      next heq =>
        obtain rfl := Option.some.inj hcall
        refine hdone hhold ?_ trivial
        rw [heq]
        exact (Function.update_eq_self source (contents vectors)).symm
      next =>
        obtain rfl := Option.some.inj hcall
        have hempty := heapStorage_clear (hvectors target)
        exact hdone (hhold.update (holds_copyFrom (hvectors source) hempty)) rfl trivial
  | moveAssign target source =>
      change (if target = source then some vectors else some _) = some later at hcall
      split at hcall
      next heq =>
        obtain rfl := Option.some.inj hcall
        exact hdone hhold (if_pos heq).symm trivial
      next hne =>
        obtain rfl := Option.some.inj hcall
        have hempty := heapStorage_clear (hvectors target)
        have hmoved : Hold (Function.update vectors target
            (copyFrom (vectors source) (vectors target).clear)) _ :=
          hhold.update (holds_copyFrom (hvectors source) hempty)
        refine hdone (hmoved.update (holds_movedFrom (hvectors source) moved)) ?_ trivial
        exact (if_neg hne).symm

/-- Whatever is done with the vectors, they are the lists of their elements all the time, if and
only if each argument leads to the same when the elements of a full vector leave for the heap. -/
theorem actsAsLists_iff_argumentsKept [Inhabited T] {moved : T → T}
    {calls : List (SmallVectorCall ι T)} {t : ι → SmallVector T N}
    (hrun : (system ι N moved).run (fun _ => create) calls = some t) :
    (system ι N moved).Meets
        (fun vectors c => ∀ later, (system ι N moved).step vectors c = some later →
          ActsAsLists vectors c later)
        (fun _ => create) calls ↔
      (system ι N moved).Meets (ArgumentsKept moved) (fun _ => create) calls := by
  refine System.meets_congr (I := fun vectors => ∀ i, Shape (vectors i)) ?_ ?_
    (fun _ => holds_create.1) hrun
  · exact fun _ _ _ hvectors hstep => (shape_callAll hvectors hstep).1
  · intro vectors c later hvectors hstep
    obtain ⟨hlater, hiff⟩ := shape_callAll hvectors hstep
    rw [← hiff, ← actsAsLists_iff hlater]
    refine ⟨fun h => h later hstep, fun h later' hstep' => ?_⟩
    obtain rfl := Option.some.inj (hstep.symm.trans hstep')
    exact h

end Vectors

/-- Strings, of which a move leaves the empty one, in two vectors. -/
theorem actsAsLists_iff_argumentsKept_twoVectors :
    let calls : List (SmallVectorCall Bool (List UInt8)) :=
      [.on false (.pushBack fun _ => [1]), .on false (.emplaceBack fun l => l.headD []),
        .on false (.pushBack fun _ => [2]), .on false (.pushBack fun l => l.headD []),
        .copyConstruct true false, .on false .popBack, .on true (.resize 1),
        .moveAssign true false, .on true (.resize 2), .copyAssign false true, .on true .clear]
    (system Bool 2 fun _ => []).Meets
        (fun vectors c => ∀ later, (system Bool 2 fun _ => []).step vectors c = some later →
          ActsAsLists vectors c later)
        (fun _ => create) calls ↔
      (system Bool 2 fun _ => []).Meets (ArgumentsKept fun _ => []) (fun _ => create) calls :=
  @actsAsLists_iff_argumentsKept (List UInt8) 2 Bool _ _ (fun _ => [])
    [.on false (.pushBack fun _ => [1]), .on false (.emplaceBack fun l => l.headD []),
      .on false (.pushBack fun _ => [2]), .on false (.pushBack fun l => l.headD []),
      .copyConstruct true false, .on false .popBack, .on true (.resize 1),
      .moveAssign true false, .on true (.resize 2), .copyAssign false true, .on true .clear]
    _ rfl

/-- A full vector to which its own element is added gets what the move has left of it. -/
theorem not_actsAsLists : ¬∀ (calls : List (SmallVectorCall Unit (List UInt8)))
    (t : Unit → SmallVector (List UInt8) 1),
    (system Unit 1 fun _ => []).run (fun _ => create) calls = some t →
      (system Unit 1 fun _ => []).Meets
        (fun vectors c => ∀ later, (system Unit 1 fun _ => []).step vectors c = some later →
          ActsAsLists vectors c later)
        (fun _ => create) calls := by
  intro h
  have hacts := h [.on () (.pushBack fun _ => [1]), .on () (.pushBack fun l => l.headD [])] _ rfl
    [.on () (.pushBack fun _ => [1])] (.on () (.pushBack fun l => l.headD [])) [] _ rfl rfl _ rfl
  have hadded : ([[1], []] : List (List UInt8)) = [[1], [1]] := hacts.lists.1
  exact absurd hadded (by decide)

end SmallVector

end Usbipdcpp.Utils
