import Mathlib.Data.List.Basic

namespace Usbipdcpp.Foundation

universe u

/-- A queue with room for so many items, the oldest one first. -/
structure BoundedQueue (α : Type u) where
  capacity : Nat
  items : List α
  length_le : items.length ≤ capacity

namespace BoundedQueue

variable {α : Type u}

@[ext] theorem ext {q q' : BoundedQueue α} (hcapacity : q.capacity = q'.capacity)
    (hitems : q.items = q'.items) : q = q' := by
  obtain ⟨capacity, items, hle⟩ := q
  obtain ⟨capacity', items', hle'⟩ := q'
  obtain rfl : capacity = capacity' := hcapacity
  obtain rfl : items = items' := hitems
  rfl

def empty (capacity : Nat) : BoundedQueue α := ⟨capacity, [], Nat.zero_le capacity⟩

def available (q : BoundedQueue α) : Nat := q.capacity - q.items.length

/-- The longest part from the front on that has room, and the queue with it. -/
def write (q : BoundedQueue α) (data : List α) : Nat × BoundedQueue α :=
  (min data.length q.available,
    { q with
      items := q.items ++ data.take q.available
      length_le := by
        have hle := q.length_le
        rw [List.length_append, List.length_take, available]
        omega })

def peek (q : BoundedQueue α) (n : Nat) : List α := q.items.take n

/-- The oldest items, and the queue without them. -/
def read (q : BoundedQueue α) (n : Nat) : List α × BoundedQueue α :=
  (q.peek n,
    { q with
      items := q.items.drop n
      length_le := by
        have hle := q.length_le
        rw [List.length_drop]
        omega })

/-- The oldest items are kept, as many as there is room for. -/
def resize (q : BoundedQueue α) (capacity : Nat) : BoundedQueue α where
  capacity
  items := q.items.take capacity
  length_le := List.length_take_le _ _

def clear (q : BoundedQueue α) : BoundedQueue α := empty q.capacity

end BoundedQueue

end Usbipdcpp.Foundation
