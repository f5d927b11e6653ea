import Usbipdcpp.Foundation.BoundedQueue
import Usbipdcpp.Foundation.DataRefinement
import Usbipdcpp.Utils.RingBuffer

namespace Usbipdcpp.Utils

open Foundation Foundation.DataRefinement

/-- The calls of the circular buffer. -/
inductive RingCall where
  | write (data : List UInt8)
  | read (maxSize : Nat)
  | peek (maxSize : Nat)
  | resize (newCapacity : Nat)
  | clear
  | size
  | capacity
  | available
  | empty
  | full
  deriving DecidableEq, Repr

/-- What a call returns, with the bytes it has stored for its caller. -/
inductive RingAnswer where
  | done
  | count (n : Nat)
  | bytes (data : List UInt8)
  | flag (b : Bool)
  deriving DecidableEq, Repr

namespace RingBuffer

def answer (ring : RingBuffer) : RingCall → RingAnswer × RingBuffer
  | .write data => let (n, left) := ring.write data
      (.count n, left)
  | .read maxSize => let (data, left) := ring.read maxSize
      (.bytes data, left)
  | .peek maxSize => (.bytes (ring.peek maxSize), ring)
  | .resize newCapacity => (.done, ring.resize newCapacity)
  | .clear => (.done, ring.clear)
  | .size => (.count ring.size, ring)
  | .capacity => (.count ring.capacity, ring)
  | .available => (.count ring.available, ring)
  | .empty => (.flag ring.empty, ring)
  | .full => (.flag ring.full, ring)

end RingBuffer

/-- The calls of a queue of bytes. -/
def queueAnswer (queue : BoundedQueue UInt8) : RingCall → RingAnswer × BoundedQueue UInt8
  | .write data => let (n, left) := queue.write data
      (.count n, left)
  | .read maxSize => let (data, left) := queue.read maxSize
      (.bytes data, left)
  | .peek maxSize => (.bytes (queue.peek maxSize), queue)
  | .resize newCapacity => (.done, queue.resize newCapacity)
  | .clear => (.done, queue.clear)
  | .size => (.count queue.items.length, queue)
  | .capacity => (.count queue.capacity, queue)
  | .available => (.count queue.available, queue)
  | .empty => (.flag queue.items.isEmpty, queue)
  | .full => (.flag (queue.items.length == queue.capacity), queue)

namespace RingBuffer

/-- The buffer whose members fit together stands for the queue of its bytes. -/
structure StandsFor (ring : RingBuffer) (queue : BoundedQueue UInt8) : Prop where
  valid : ring.Valid
  capacity_eq : ring.capacity = queue.capacity
  contents_eq : ring.contents = queue.items

theorem standsFor_create (capacity : Nat) :
    (create capacity).StandsFor (.empty capacity) where
  valid := valid_create capacity
  capacity_eq := rfl
  contents_eq := rfl

variable {ring : RingBuffer} {queue : BoundedQueue UInt8}

namespace StandsFor

theorem count_eq (h : ring.StandsFor queue) : ring.count = queue.items.length := by
  rw [← h.contents_eq, length_contents]

theorem available_eq (h : ring.StandsFor queue) : ring.available = queue.available := by
  rw [RingBuffer.available, BoundedQueue.available, h.capacity_eq, h.count_eq]

theorem empty_eq (h : ring.StandsFor queue) : ring.empty = queue.items.isEmpty := by
  rw [RingBuffer.empty, h.count_eq]
  cases queue.items <;> rfl

theorem full_eq (h : ring.StandsFor queue) :
    ring.full = (queue.items.length == queue.capacity) := by
  rw [RingBuffer.full, h.count_eq, h.capacity_eq]

theorem write (h : ring.StandsFor queue) (data : List UInt8) :
    (ring.write data).1 = (queue.write data).1 ∧
      (ring.write data).2.StandsFor (queue.write data).2 := by
  have hwritten : (ring.write data).1 = min data.length queue.available := by
    rw [written_write, h.available_eq]
  obtain ⟨hvalid, hcontents, hcapacity⟩ := write_refines h.valid data
  refine ⟨hwritten, hvalid, hcapacity.trans h.capacity_eq, ?_⟩
  rw [hcontents, hwritten, h.contents_eq, BoundedQueue.write]
  apply congrArg (queue.items ++ ·)
  rw [List.take_eq_take_iff]
  omega

theorem peek (h : ring.StandsFor queue) (maxSize : Nat) :
    ring.peek maxSize = queue.peek maxSize := by
  rw [peek_eq h.valid, h.contents_eq, BoundedQueue.peek]

theorem read (h : ring.StandsFor queue) (maxSize : Nat) :
    (ring.read maxSize).1 = (queue.read maxSize).1 ∧
      (ring.read maxSize).2.StandsFor (queue.read maxSize).2 := by
  obtain ⟨hread, hleft, hvalid, hcapacity⟩ := read_refines h.valid maxSize
  rw [h.contents_eq] at hread hleft
  exact ⟨hread, hvalid, hcapacity.trans h.capacity_eq, hleft⟩

theorem resize (h : ring.StandsFor queue) (newCapacity : Nat) :
    (ring.resize newCapacity).StandsFor (queue.resize newCapacity) := by
  obtain ⟨hvalid, hcontents, hcapacity⟩ := resize_refines h.valid newCapacity
  exact ⟨hvalid, hcapacity, hcontents.trans (congrArg (List.take newCapacity) h.contents_eq)⟩

theorem clear (h : ring.StandsFor queue) : ring.clear.StandsFor queue.clear where
  valid := valid_clear
  capacity_eq := h.capacity_eq
  contents_eq := contents_clear

end StandsFor

/-- Each call answers as that of the queue does. -/
theorem answer_refines : Refines answer (graph queueAnswer) StandsFor := by
  intro ring queue call h
  refine ⟨(queueAnswer queue call).2, Prod.ext ?_ rfl, ?_⟩
  · cases call with
    | write data => exact congrArg RingAnswer.count (h.write data).1.symm
    | read maxSize => exact congrArg RingAnswer.bytes (h.read maxSize).1.symm
    | peek maxSize => exact congrArg RingAnswer.bytes (h.peek maxSize).symm
    | resize newCapacity => rfl
    | clear => rfl
    | size => exact congrArg RingAnswer.count h.count_eq.symm
    | capacity => exact congrArg RingAnswer.count h.capacity_eq.symm
    | available => exact congrArg RingAnswer.count h.available_eq.symm
    | empty => exact congrArg RingAnswer.flag h.empty_eq.symm
    | full => exact congrArg RingAnswer.flag h.full_eq.symm
  · cases call with
    | write data => exact (h.write data).2
    | read maxSize => exact (h.read maxSize).2
    | resize newCapacity => exact h.resize newCapacity
    | clear => exact h.clear
    | peek | size | capacity | available | empty | full => exact h

/-- Whatever is called, the circular buffer answers as a bounded queue of bytes does. -/
theorem answers_eq_queue (capacity : Nat) (calls : List RingCall) :
    (run answer (create capacity) calls).1 = (run queueAnswer (.empty capacity) calls).1 ∧
      (run answer (create capacity) calls).2.StandsFor
        (run queueAnswer (.empty capacity) calls).2 :=
  answer_refines.answers_eq (standsFor_create capacity) calls

example : (run answer (create 2) [.write [1, 2, 3], .read 1, .write [4], .peek 9, .resize 1,
    .read 9]).1 = [.count 2, .bytes [1], .count 1, .bytes [2, 4], .done, .bytes [2]] := by
  decide

end RingBuffer

end Usbipdcpp.Utils
