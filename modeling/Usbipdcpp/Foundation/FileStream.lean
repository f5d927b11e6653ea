import Mathlib.Data.List.Basic

namespace Usbipdcpp.Foundation.FileStream

/-- A stream that writes to one file: `content` is what the file holds, whether or not the stream is
open. -/
structure OutStream (β : Type*) where
  isOpen : Bool
  fail : Bool
  position : Nat
  content : List β
  deriving DecidableEq, Repr

variable {β : Type*} {s : OutStream β} {bytes : List β}

namespace OutStream

/-- Opens the file, which is emptied; an attempt that does not succeed leaves it as it is. -/
def openTrunc (s : OutStream β) (succeeds : Bool) : OutStream β :=
  if s.isOpen = false ∧ succeeds = true then
    { isOpen := true, fail := false, position := 0, content := [] }
  else
    { s with fail := true }

def close (s : OutStream β) : OutStream β := { s with isOpen := false }

/-- The stream takes what is written to it. -/
def Good (s : OutStream β) : Prop := s.isOpen = true ∧ s.fail = false

instance (s : OutStream β) : Decidable s.Good :=
  inferInstanceAs (Decidable (_ ∧ _))

def write (s : OutStream β) (bytes : List β) : OutStream β :=
  if s.Good then
    { s with
      position := s.position + bytes.length
      content := s.content.take s.position ++ bytes ++
        s.content.drop (s.position + bytes.length) }
  else
    { s with fail := true }

def tellp (s : OutStream β) : Option Nat :=
  if s.Good then some s.position else none

def seekp (s : OutStream β) : Option Nat → OutStream β
  | some position => if s.Good then { s with position } else { s with fail := true }
  | none => { s with fail := true }

/-- Only opening makes a stream good. -/
theorem write_of_not_good (h : ¬s.Good) : s.write bytes = { s with fail := true } :=
  if_neg h

theorem seekp_of_not_good {position : Option Nat} (h : ¬s.Good) :
    s.seekp position = { s with fail := true } := by
  cases position with
  | none => rfl
  | some position => exact if_neg h

/-- A good stream that stands at `position`. -/
def standingAt (content : List β) (position : Nat) : OutStream β :=
  ⟨true, false, position, content⟩

theorem good_standingAt (content : List β) (position : Nat) :
    (standingAt content position).Good :=
  ⟨rfl, rfl⟩

theorem seekp_standingAt {content : List β} {position position' : Nat} :
    (standingAt content position).seekp (some position') = standingAt content position' := by
  rw [seekp, if_pos (good_standingAt content position)]
  rfl

theorem tellp_standingAt {content : List β} {position : Nat} :
    (standingAt content position).tellp = some position :=
  if_pos (good_standingAt content position)

theorem write_standingAt_end (content bytes : List β) :
    (standingAt content content.length).write bytes =
      standingAt (content ++ bytes) (content ++ bytes).length := by
  rw [write, if_pos (good_standingAt _ _)]
  simp only [standingAt, List.take_length, List.drop_of_length_le (Nat.le_add_right _ _),
    List.append_nil, List.length_append]

/-- What is written in the middle takes the place of as much. -/
theorem write_standingAt_middle (front old bytes back : List β)
    (h : bytes.length = old.length) :
    (standingAt (front ++ (old ++ back)) front.length).write bytes =
      standingAt (front ++ (bytes ++ back)) (front.length + bytes.length) := by
  have hdrop : (front ++ (old ++ back)).drop (front.length + bytes.length) = back := by
    rw [h, ← List.drop_drop, List.drop_left, List.drop_left]
  rw [write, if_pos (good_standingAt _ _)]
  simp only [standingAt, List.take_left, hdrop, List.append_assoc]

end OutStream

end Usbipdcpp.Foundation.FileStream
