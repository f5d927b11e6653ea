import Usbipdcpp.VirtualDevice.HidInputReports

namespace Usbipdcpp.VirtualDevice.DigitizerHandler

open Foundation.TransitionSystem Foundation.WaitingSender

def reportSize : Nat := 6

structure TouchState where
  touching : Bool := false
  x : UInt16 := 0
  y : UInt16 := 0
  pressure : UInt8 := 0
  deriving DecidableEq, Repr

/-- What a call makes of the state, and whether it notifies the thread that sends. -/
abbrev Change : Type := TouchState × Bool

def touch (s : TouchState) (x y : UInt16) (pressure : UInt8) : Change :=
  (⟨true, x, y, pressure⟩,
    decide (s.touching = false ∨ s.x ≠ x ∨ s.y ≠ y ∨ s.pressure ≠ pressure))

def release (s : TouchState) : Change :=
  if s.touching = true then ({ s with touching := false }, true) else (s, false)

inductive TouchCall where
  | touch (x y : UInt16) (pressure : UInt8)
  | release
  deriving DecidableEq, Repr

def call (s : TouchState) : TouchCall → Change
  | .touch x y pressure => touch s x y pressure
  | .release => release s

/-- All is zero while the screen is not touched. -/
def report (s : TouchState) : List UInt8 :=
  if s.touching = true then [0x03] ++ le16 s.x ++ le16 s.y ++ [s.pressure]
  else List.replicate reportSize 0

/-- The handler does not override the callback. -/
def requestGetReport (_s : TouchState) (type reportId : UInt8) (length : UInt16) :
    UInt32 × List UInt8 :=
  HidVirtualInterfaceHandler.requestGetReport type reportId length

/-- The handler in a connection, which resets both copies of the state. -/
def sender : Sender (Mirror TouchState) TouchCall (List UInt8) :=
  Mirror.sender call (fun current _ => [report current]) id

def system : System (Running (Mirror TouchState) (List UInt8)) (Event TouchCall) :=
  sender.system (Mirror.Starts {})

/-- A call that does not notify the thread has changed nothing. -/
theorem call_of_silent (s : TouchState) (c : TouchCall) (h : (call s c).2 = false) :
    (call s c).1 = s := by
  cases c with
  | touch x y pressure =>
      have hsame := of_decide_eq_false h
      obtain ⟨touching, x', y', pressure'⟩ := s
      obtain ⟨htouching, hx, hy, hpressure⟩ :
          touching = true ∧ x' = x ∧ y' = y ∧ pressure' = pressure := by
        simpa only [not_or, not_not, Bool.not_eq_false] using hsame
      rw [htouching, hx, hy, hpressure]
      rfl
  | release =>
      change (release s).2 = false at h
      change (release s).1 = s
      unfold release at h ⊢
      split at h
      next => exact absurd h.symm Bool.false_ne_true
      next hup => rw [if_neg hup]

theorem notifies : sender.Notifies := Mirror.notifies call_of_silent

/-- Where the screen is touched, and how firmly. -/
def contact (s : TouchState) : Option (UInt16 × UInt16 × UInt8) :=
  if s.touching = true then some (s.x, s.y, s.pressure) else none

/-- What a host reads of a report: a contact, when the bit of the tip is set. -/
def hostContact (report : List UInt8) : Option (UInt16 × UInt16 × UInt8) :=
  if report.getD 0 0 &&& 0x01 ≠ 0 then
    some (hostLe16 (report.drop 1) 0, hostLe16 (report.drop 3) 0, report.getD 5 0)
  else
    none

theorem hostContact_report (s : TouchState) : hostContact (report s) = contact s := by
  obtain ⟨touching, x, y, pressure⟩ := s
  cases touching with
  | false =>
      have htip : ¬(0x00 : UInt8) &&& 0x01 ≠ 0 := by decide
      exact if_neg htip
  | true =>
      have htip : (0x03 : UInt8) &&& 0x01 ≠ 0 := by decide
      have hx : hostLe16 ((report ⟨true, x, y, pressure⟩).drop 1) 0 = x := hostLe16_le16 x _
      have hy : hostLe16 ((report ⟨true, x, y, pressure⟩).drop 3) 0 = y := hostLe16_le16 y _
      rw [hostContact, hx, hy]
      exact if_pos htip

def UpToDate (s : Running (Mirror TouchState) (List UInt8)) : Prop :=
  lastView anyReport hostContact none s.sent = contact s.state.current

theorem upToDate_of_pending {s : Running (Mirror TouchState) (List UInt8)}
    (hreached : Reachable system s) (hblocked : sender.pending s.state = false) : UpToDate s := by
  have hshown (current last : TouchState) (_ : current ≠ last) :
      lastView anyReport hostContact (contact last) [report current] = contact current :=
    hostContact_report current
  exact Mirror.converges hshown hreached hblocked

end Usbipdcpp.VirtualDevice.DigitizerHandler
