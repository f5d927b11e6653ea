import Usbipdcpp.Foundation.CircularWindow

namespace Usbipdcpp.Utils

open Foundation.CircularWindow

/-- The members of the circular buffer.  Its memory is allocated with the first write. -/
structure RingBuffer where
  buffer : List UInt8
  capacity : Nat
  head : Nat
  tail : Nat
  count : Nat
  deriving DecidableEq, Repr

namespace RingBuffer

def create (capacity : Nat) : RingBuffer where
  buffer := []
  capacity := capacity
  head := 0
  tail := 0
  count := 0

def size (ring : RingBuffer) : Nat := ring.count

def available (ring : RingBuffer) : Nat := ring.capacity - ring.count

def empty (ring : RingBuffer) : Bool := ring.count == 0

def full (ring : RingBuffer) : Bool := ring.count == ring.capacity

def clear (ring : RingBuffer) : RingBuffer := { ring with head := 0, tail := 0, count := 0 }

/-- One round of the loop of `write`. -/
def writeByte (ring : RingBuffer) (byte : UInt8) : RingBuffer :=
  { ring with
    buffer := ring.buffer.set ring.tail byte
    tail := (ring.tail + 1) % ring.capacity
    count := ring.count + 1 }

def allocate (ring : RingBuffer) : RingBuffer :=
  if ring.buffer.length < ring.capacity then
    { ring with buffer := ring.buffer ++ .replicate (ring.capacity - ring.buffer.length) 0 }
  else ring

/-- The number of bytes written, and the buffer with them. -/
def write (ring : RingBuffer) (data : List UInt8) : Nat × RingBuffer :=
  if ring.capacity = 0 then (0, ring)
  else
    let toWrite := min data.length (ring.capacity - ring.count)
    (toWrite, (data.take toWrite).foldl writeByte ring.allocate)

/-- The loop of `read`. -/
def readBytes (ring : RingBuffer) : Nat → List UInt8 × RingBuffer
  | 0 => ([], ring)
  | n + 1 =>
      let rest := readBytes
        { ring with head := (ring.head + 1) % ring.capacity, count := ring.count - 1 } n
      (ring.buffer.getD ring.head 0 :: rest.1, rest.2)

/-- The bytes read, and the buffer without them. -/
def read (ring : RingBuffer) (maxSize : Nat) : List UInt8 × RingBuffer :=
  ring.readBytes (min maxSize ring.count)

/-- The loop of `peek`, from the position on that it has got to. -/
def peekBytes (ring : RingBuffer) (pos : Nat) : Nat → List UInt8
  | 0 => []
  | n + 1 => ring.buffer.getD pos 0 :: peekBytes ring ((pos + 1) % ring.capacity) n

/-- The bytes that would be read. -/
def peek (ring : RingBuffer) (maxSize : Nat) : List UInt8 :=
  ring.peekBytes ring.head (min maxSize ring.count)

def resize (ring : RingBuffer) (newCapacity : Nat) : RingBuffer :=
  if newCapacity = 0 then create 0
  else
    let oldData := (ring.read ring.count).1
    let fresh := { create newCapacity with buffer := .replicate newCapacity 0 }
    if oldData = [] then fresh
    else (fresh.write (oldData.take (min oldData.length newCapacity))).2

/-- The bytes in the buffer, in the order in which they are read. -/
def contents (ring : RingBuffer) : List UInt8 :=
  window ring.buffer ring.capacity ring.head ring.count

@[simp] theorem length_contents {ring : RingBuffer} : ring.contents.length = ring.count :=
  length_window

structure Valid (ring : RingBuffer) : Prop where
  count_le : ring.count ≤ ring.capacity
  head_eq : ring.head % ring.capacity = ring.head
  tail_eq : ring.tail = (ring.head + ring.count) % ring.capacity
  allocated : 0 < ring.count → ring.capacity ≤ ring.buffer.length

variable {ring : RingBuffer}

theorem valid_of_count_eq_zero (hhead : ring.head = 0) (htail : ring.tail = 0)
    (hcount : ring.count = 0) : ring.Valid where
  count_le := by omega
  head_eq := by rw [hhead, Nat.zero_mod]
  tail_eq := by rw [hhead, htail, hcount, Nat.zero_mod]
  allocated := by omega

theorem valid_create (capacity : Nat) : (create capacity).Valid :=
  valid_of_count_eq_zero rfl rfl rfl

theorem valid_clear : ring.clear.Valid :=
  valid_of_count_eq_zero rfl rfl rfl

@[simp] theorem contents_clear : ring.clear.contents = [] := rfl

theorem valid_allocate (hring : ring.Valid) :
    ring.allocate.Valid ∧ ring.capacity ≤ ring.allocate.buffer.length := by
  unfold allocate
  split
  next hshort =>
    have hlength : ring.capacity ≤
        (ring.buffer ++ .replicate (ring.capacity - ring.buffer.length) 0).length := by
      rw [List.length_append, List.length_replicate]
      omega
    exact ⟨⟨hring.count_le, hring.head_eq, hring.tail_eq, fun _ => hlength⟩, hlength⟩
  next hlong => exact ⟨hring, Nat.le_of_not_lt hlong⟩

@[simp] theorem contents_allocate : ring.allocate.contents = ring.contents := by
  unfold allocate
  split
  next => exact window_append_default _
  next => rfl

theorem allocate_frame (ring : RingBuffer) :
    ring.allocate = { ring with buffer := ring.allocate.buffer } := by
  unfold allocate
  split <;> rfl

theorem valid_writeByte (hring : ring.Valid) (hroom : ring.count < ring.capacity)
    (hallocated : ring.capacity ≤ ring.buffer.length) (byte : UInt8) :
    (ring.writeByte byte).Valid where
  count_le := hroom
  head_eq := hring.head_eq
  tail_eq := by
    change (ring.tail + 1) % ring.capacity = (ring.head + (ring.count + 1)) % ring.capacity
    rw [hring.tail_eq, Nat.mod_add_mod, Nat.add_assoc]
  allocated _ := by simpa [writeByte] using hallocated

theorem contents_writeByte (hring : ring.Valid) (hroom : ring.count < ring.capacity)
    (hallocated : ring.capacity ≤ ring.buffer.length) (byte : UInt8) :
    (ring.writeByte byte).contents = ring.contents ++ [byte] := by
  change window (ring.buffer.set ring.tail byte) _ _ _ = _
  rw [hring.tail_eq]
  exact window_set_concat hroom hallocated byte

/-- What the loop of `write` does when all its bytes have room. -/
theorem foldl_writeByte (bytes : List UInt8) (hring : ring.Valid)
    (hroom : ring.count + bytes.length ≤ ring.capacity)
    (hallocated : ring.capacity ≤ ring.buffer.length) :
    (bytes.foldl writeByte ring).Valid ∧
      (bytes.foldl writeByte ring).contents = ring.contents ++ bytes ∧
      (bytes.foldl writeByte ring).capacity = ring.capacity := by
  induction bytes generalizing ring with
  | nil => exact ⟨hring, (List.append_nil _).symm, rfl⟩
  | cons byte bytes ih =>
      rw [List.length_cons] at hroom
      have hlt : ring.count < ring.capacity := by omega
      obtain ⟨hvalid, hcontents, hcapacity⟩ := ih (valid_writeByte hring hlt hallocated byte)
        (by change ring.count + 1 + bytes.length ≤ ring.capacity; omega)
        (by simpa [writeByte] using hallocated)
      refine ⟨hvalid, ?_, hcapacity⟩
      rw [List.foldl_cons, hcontents, contents_writeByte hring hlt hallocated, List.append_assoc,
        List.singleton_append]

theorem written_write (data : List UInt8) :
    (ring.write data).1 = min data.length ring.available := by
  unfold write available
  split
  next hzero =>
    rw [hzero, Nat.zero_sub, Nat.min_zero]
  next => rfl

/-- Writing stores the first bytes that have room behind those that are there. -/
theorem write_refines (hring : ring.Valid) (data : List UInt8) :
    (ring.write data).2.Valid ∧
      (ring.write data).2.contents = ring.contents ++ data.take (ring.write data).1 ∧
      (ring.write data).2.capacity = ring.capacity := by
  unfold write
  split
  next => exact ⟨hring, (List.append_nil _).symm, rfl⟩
  next =>
    obtain ⟨hvalid, hallocated⟩ := valid_allocate hring
    have hframe := allocate_frame ring
    have hcapacity : ring.allocate.capacity = ring.capacity := by rw [hframe]
    have hcount : ring.allocate.count = ring.count := by rw [hframe]
    have hle := hring.count_le
    have h := foldl_writeByte (data.take (min data.length (ring.capacity - ring.count))) hvalid
      (by rw [hcapacity, hcount, List.length_take]; omega) (by rwa [hcapacity])
    rw [contents_allocate, hcapacity] at h
    exact h

/-- What the loop of `read` does when there are enough bytes. -/
theorem readBytes_refines (n : Nat) (hring : ring.Valid) (hn : n ≤ ring.count) :
    (ring.readBytes n).1 = ring.contents.take n ∧
      (ring.readBytes n).2.contents = ring.contents.drop n ∧ (ring.readBytes n).2.Valid ∧
      (ring.readBytes n).2.capacity = ring.capacity := by
  induction n generalizing ring with
  | zero => exact ⟨rfl, rfl, hring, rfl⟩
  | succ n ih =>
      obtain ⟨count, hcount⟩ : ∃ count, ring.count = count + 1 :=
        ⟨ring.count - 1, by omega⟩
      have hcontents : ring.contents = ring.buffer.getD ring.head 0 ::
          window ring.buffer ring.capacity ((ring.head + 1) % ring.capacity) (ring.count - 1) := by
        rw [contents, hcount, window_cons, hring.head_eq]
        rfl
      have hvalid : Valid { ring with
          head := (ring.head + 1) % ring.capacity, count := ring.count - 1 } := by
        have hle := hring.count_le
        refine ⟨by dsimp only; omega, Nat.mod_mod _ _, ?_, fun _ => hring.allocated (by omega)⟩
        dsimp only
        rw [hring.tail_eq, Nat.mod_add_mod, hcount, Nat.add_sub_cancel, Nat.add_assoc,
          Nat.add_comm 1 count]
      obtain ⟨hread, hleft, hvalid', hcapacity⟩ := ih hvalid (by dsimp only; omega)
      refine ⟨?_, ?_, hvalid', hcapacity⟩
      · rw [hcontents, List.take_succ_cons, readBytes, hread]
        rfl
      · rw [hcontents, List.drop_succ_cons, readBytes, hleft]
        rfl

/-- Reading takes bytes off the front. -/
theorem read_refines (hring : ring.Valid) (maxSize : Nat) :
    (ring.read maxSize).1 = ring.contents.take maxSize ∧
      (ring.read maxSize).2.contents = ring.contents.drop maxSize ∧
      (ring.read maxSize).2.Valid ∧ (ring.read maxSize).2.capacity = ring.capacity := by
  obtain ⟨hread, hleft, hvalid, hcapacity⟩ :=
    readBytes_refines (min maxSize ring.count) hring (Nat.min_le_right _ _)
  refine ⟨?_, ?_, hvalid, hcapacity⟩
  · rw [read, hread, ← length_contents, List.take_eq_take_iff]
    omega
  · rw [read, hleft]
    rcases Nat.le_total maxSize ring.count with hle | hle
    · rw [Nat.min_eq_left hle]
    · rw [Nat.min_eq_right hle, List.drop_of_length_le (by simp),
        List.drop_of_length_le (by simpa using hle)]

theorem peekBytes_eq_readBytes (n : Nat) :
    ring.peekBytes ring.head n = (ring.readBytes n).1 := by
  have hmembers (left : RingBuffer) (pos : Nat) (hbuffer : left.buffer = ring.buffer)
      (hcapacity : left.capacity = ring.capacity) (hpos : left.head = pos) :
      ring.peekBytes pos n = (left.readBytes n).1 := by
    induction n generalizing left pos with
    | zero => rfl
    | succ n ih =>
        rw [peekBytes, readBytes, hbuffer, hpos]
        refine congrArg (List.cons _) (ih _ _ rfl hcapacity ?_)
        rw [hcapacity]
  exact hmembers ring ring.head rfl rfl rfl

/-- Peeking gives the bytes that reading would. -/
theorem peek_eq (hring : ring.Valid) (maxSize : Nat) :
    ring.peek maxSize = ring.contents.take maxSize := by
  rw [← (read_refines hring maxSize).1]
  exact peekBytes_eq_readBytes _

/-- A new capacity keeps the first bytes that it has room for. -/
theorem resize_refines (hring : ring.Valid) (newCapacity : Nat) :
    (ring.resize newCapacity).Valid ∧
      (ring.resize newCapacity).contents = ring.contents.take newCapacity ∧
      (ring.resize newCapacity).capacity = newCapacity := by
  unfold resize
  split
  next hzero =>
    subst hzero
    exact ⟨valid_create 0, rfl, rfl⟩
  next =>
    have hdata : (ring.read ring.count).1 = ring.contents := by
      rw [(read_refines hring ring.count).1, List.take_of_length_le (by simp)]
    have hfresh : Valid { create newCapacity with buffer := .replicate newCapacity 0 } :=
      valid_of_count_eq_zero rfl rfl rfl
    dsimp only
    rw [hdata]
    split
    next hnone =>
      refine ⟨hfresh, ?_, rfl⟩
      rw [hnone, List.take_nil]
      rfl
    next =>
      obtain ⟨hvalid, hcontents, hcapacity⟩ := write_refines hfresh
        (ring.contents.take (min ring.contents.length newCapacity))
      refine ⟨hvalid, ?_, hcapacity⟩
      rw [hcontents, written_write, List.take_take]
      change [] ++ _ = _
      rw [List.nil_append, List.take_eq_take_iff, available, List.length_take]
      simp only [create]
      omega

end RingBuffer

/-- A circular buffer whose members fit together. -/
structure ByteBuffer where
  ring : RingBuffer
  valid : ring.Valid

namespace ByteBuffer

def create (capacity : Nat) : ByteBuffer := ⟨.create capacity, RingBuffer.valid_create capacity⟩

def contents (buffer : ByteBuffer) : List UInt8 := buffer.ring.contents

def size (buffer : ByteBuffer) : Nat := buffer.ring.size

def available (buffer : ByteBuffer) : Nat := buffer.ring.available

def empty (buffer : ByteBuffer) : Bool := buffer.ring.empty

def clear (buffer : ByteBuffer) : ByteBuffer := ⟨buffer.ring.clear, RingBuffer.valid_clear⟩

def write (buffer : ByteBuffer) (data : List UInt8) : Nat × ByteBuffer :=
  ((buffer.ring.write data).1,
    ⟨(buffer.ring.write data).2, (RingBuffer.write_refines buffer.valid data).1⟩)

def read (buffer : ByteBuffer) (maxSize : Nat) : List UInt8 × ByteBuffer :=
  ((buffer.ring.read maxSize).1,
    ⟨(buffer.ring.read maxSize).2, (RingBuffer.read_refines buffer.valid maxSize).2.2.1⟩)

def resize (buffer : ByteBuffer) (newCapacity : Nat) : ByteBuffer :=
  ⟨buffer.ring.resize newCapacity, (RingBuffer.resize_refines buffer.valid newCapacity).1⟩

variable (buffer : ByteBuffer)

@[simp] theorem contents_clear : buffer.clear.contents = [] := rfl

theorem contents_write (data : List UInt8) :
    (buffer.write data).2.contents = buffer.contents ++ data.take (buffer.write data).1 :=
  (RingBuffer.write_refines buffer.valid data).2.1

theorem written_write (data : List UInt8) :
    (buffer.write data).1 = min data.length buffer.available :=
  RingBuffer.written_write data

theorem contents_read (maxSize : Nat) :
    (buffer.read maxSize).1 = buffer.contents.take maxSize ∧
      (buffer.read maxSize).2.contents = buffer.contents.drop maxSize :=
  ⟨(RingBuffer.read_refines buffer.valid maxSize).1,
    (RingBuffer.read_refines buffer.valid maxSize).2.1⟩

theorem contents_resize (newCapacity : Nat) :
    (buffer.resize newCapacity).contents = buffer.contents.take newCapacity :=
  (RingBuffer.resize_refines buffer.valid newCapacity).2.1

theorem empty_iff : buffer.empty = true ↔ buffer.contents = [] := by
  rw [← List.length_eq_zero_iff, contents, RingBuffer.length_contents]
  simp [empty, RingBuffer.empty]

end ByteBuffer

end Usbipdcpp.Utils
