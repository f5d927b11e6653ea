import Usbipdcpp.VirtualDevice.HidInputReports

namespace Usbipdcpp.VirtualDevice

open Foundation.TransitionSystem Foundation.WaitingSender

namespace RelativeMouseHandler

structure ButtonState where
  left : Bool := false
  right : Bool := false
  middle : Bool := false
  side : Bool := false
  extra : Bool := false
  deriving DecidableEq, Repr

structure RelativeDataState where
  dx : Int16 := 0
  dy : Int16 := 0
  wheel : Int8 := 0
  deriving DecidableEq

structure State where
  button : ButtonState := {}
  relativeData : RelativeDataState := {}
  deriving DecidableEq

/-- What a call makes of the state; all of them notify the thread that sends. -/
abbrev Change : Type := State × Bool

/-- Motion adds up until it is sent, within the bounds of the descriptor. -/
def move (s : State) (dx dy : Int16) : Change :=
  let newDx := max (-32767) (min (s.relativeData.dx.toInt + dx.toInt) 32767)
  let newDy := max (-32767) (min (s.relativeData.dy.toInt + dy.toInt) 32767)
  ({ s with relativeData := { s.relativeData with dx := .ofInt newDx, dy := .ofInt newDy } }, true)

def setWheel (s : State) (delta : Int8) : Change :=
  let newWheel := max (-127) (min (s.relativeData.wheel.toInt + delta.toInt) 127)
  ({ s with relativeData := { s.relativeData with wheel := .ofInt newWheel } }, true)

def setButton (s : State) (change : ButtonState → ButtonState) : Change :=
  ({ s with button := change s.button }, true)

def setLeftButton (s : State) (pressed : Bool) : Change :=
  setButton s fun button => { button with left := pressed }

def setRightButton (s : State) (pressed : Bool) : Change :=
  setButton s fun button => { button with right := pressed }

def setMiddleButton (s : State) (pressed : Bool) : Change :=
  setButton s fun button => { button with middle := pressed }

def setSideButton (s : State) (pressed : Bool) : Change :=
  setButton s fun button => { button with side := pressed }

def setExtraButton (s : State) (pressed : Bool) : Change :=
  setButton s fun button => { button with extra := pressed }

/-- The clicks are two of these calls with a pause between. -/
inductive MouseCall where
  | move (dx dy : Int16)
  | setWheel (delta : Int8)
  | setLeftButton (pressed : Bool)
  | setRightButton (pressed : Bool)
  | setMiddleButton (pressed : Bool)
  | setSideButton (pressed : Bool)
  | setExtraButton (pressed : Bool)
  deriving DecidableEq

def call (s : State) : MouseCall → Change
  | .move dx dy => move s dx dy
  | .setWheel delta => setWheel s delta
  | .setLeftButton pressed => setLeftButton s pressed
  | .setRightButton pressed => setRightButton s pressed
  | .setMiddleButton pressed => setMiddleButton s pressed
  | .setSideButton pressed => setSideButton s pressed
  | .setExtraButton pressed => setExtraButton s pressed

def buttonByte (button : ButtonState) : UInt8 :=
  (if button.left = true then 0x01 else 0) ||| (if button.right = true then 0x02 else 0) |||
    (if button.middle = true then 0x04 else 0) ||| (if button.side = true then 0x08 else 0) |||
    (if button.extra = true then 0x10 else 0)

def report (s : State) : List UInt8 :=
  [buttonByte s.button] ++ le16 s.relativeData.dx.toUInt16 ++ le16 s.relativeData.dy.toUInt16 ++
    [s.relativeData.wheel.toUInt8]

/-- Motion that has been sent is taken back. -/
def settle (current : State) : State := { current with relativeData := {} }

/-- The handler in a connection, which resets both copies of the state. -/
def sender : Sender (Mirror State) MouseCall (List UInt8) :=
  Mirror.sender call (fun current _ => [report current]) settle

def system : System (Running (Mirror State) (List UInt8)) (Event MouseCall) :=
  sender.system (Mirror.Starts {})

theorem call_notifies (s : State) (c : MouseCall) : (call s c).2 = true := by
  cases c <;> rfl

theorem notifies : sender.Notifies :=
  Mirror.notifies fun s c h => absurd (h.symm.trans (call_notifies s c)) Bool.false_ne_true

def buttonsOfByte (buttons : UInt8) : ButtonState :=
  ⟨buttons &&& 0x01 ≠ 0, buttons &&& 0x02 ≠ 0, buttons &&& 0x04 ≠ 0, buttons &&& 0x08 ≠ 0,
    buttons &&& 0x10 ≠ 0⟩

theorem buttonsOfByte_buttonByte (button : ButtonState) :
    buttonsOfByte (buttonByte button) = button := by
  obtain ⟨left, right, middle, side, extra⟩ := button
  cases left <;> cases right <;> cases middle <;> cases side <;> cases extra <;> decide

/-- What a host reads of a report that is not relative. -/
def hostButtons (report : List UInt8) : ButtonState := buttonsOfByte (report.getD 0 0)

theorem hostButtons_report (s : State) : hostButtons (report s) = s.button :=
  buttonsOfByte_buttonByte s.button

def UpToDate (s : Running (Mirror State) (List UInt8)) : Prop :=
  lastView anyReport hostButtons {} s.sent = s.state.current.button

theorem upToDate_of_pending {s : Running (Mirror State) (List UInt8)}
    (hreached : Reachable system s) (hblocked : sender.pending s.state = false) : UpToDate s := by
  have hshown (current last : State) (_ : current ≠ last) :
      lastView anyReport hostButtons last.button [report current] = (settle current).button :=
    hostButtons_report current
  exact Mirror.converges hshown hreached hblocked

end RelativeMouseHandler

namespace AbsoluteMouseHandler

def hidMax : Int := 32767

structure State where
  hidX : Int16
  hidY : Int16
  leftButton : Bool
  rightButton : Bool
  middleButton : Bool
  wheel : Int8
  stateChanged : Bool
  deriving DecidableEq

/-- What a call makes of the state; all of them notify the thread that sends. -/
abbrev Change : Type := State × Bool

def notifyStateChange (s : State) : Change := ({ s with stateChanged := true }, true)

def clampHid (v : Int16) : Int16 := .ofInt (max 0 (min v.toInt hidMax))

def setPositionRaw (s : State) (x y : Int16) : Change :=
  notifyStateChange { s with hidX := clampHid x, hidY := clampHid y }

def setLeftButton (s : State) (pressed : Bool) : Change :=
  notifyStateChange { s with leftButton := pressed }

def setRightButton (s : State) (pressed : Bool) : Change :=
  notifyStateChange { s with rightButton := pressed }

def setMiddleButton (s : State) (pressed : Bool) : Change :=
  notifyStateChange { s with middleButton := pressed }

def setWheel (s : State) (delta : Int8) : Change := notifyStateChange { s with wheel := delta }

/-- Moves, clicks and drags are made of these calls; `setPosition` is one of raw numbers too, for
which the point on the screen is scaled. -/
inductive MouseCall where
  | setPositionRaw (x y : Int16)
  | setLeftButton (pressed : Bool)
  | setRightButton (pressed : Bool)
  | setMiddleButton (pressed : Bool)
  | setWheel (delta : Int8)
  deriving DecidableEq

def call (s : State) : MouseCall → Change
  | .setPositionRaw x y => setPositionRaw s x y
  | .setLeftButton pressed => setLeftButton s pressed
  | .setRightButton pressed => setRightButton s pressed
  | .setMiddleButton pressed => setMiddleButton s pressed
  | .setWheel delta => setWheel s delta

def buttonByte (leftButton rightButton middleButton : Bool) : UInt8 :=
  (if leftButton = true then 0x01 else 0) ||| (if rightButton = true then 0x02 else 0) |||
    (if middleButton = true then 0x04 else 0)

def report (s : State) : List UInt8 :=
  [buttonByte s.leftButton s.rightButton s.middleButton] ++
    le16 s.hidX.toUInt16 ++ le16 s.hidY.toUInt16 ++ [s.wheel.toUInt8]

def sender : Sender State MouseCall (List UInt8) where
  call := call
  pending s := s.stateChanged
  send s := ([report s], { s with wheel := 0, stateChanged := false })

/-- A connection leaves the state as it was, and has it sent. -/
def system : System (Running State (List UInt8)) (Event MouseCall) :=
  sender.system fun s => s.stateChanged = true

theorem stateChanged_call (s : State) (c : MouseCall) :
    (call s c).1.stateChanged = true ∧ (call s c).2 = true := by
  cases c <;> exact ⟨rfl, rfl⟩

theorem notifies : sender.Notifies := fun s c _ h =>
  absurd (h.symm.trans (stateChanged_call s c).2) Bool.false_ne_true

/-- The buttons and the position. -/
def pointer (s : State) : (Bool × Bool × Bool) × Int16 × Int16 :=
  ((s.leftButton, s.rightButton, s.middleButton), s.hidX, s.hidY)

def buttonsOfByte (buttons : UInt8) : Bool × Bool × Bool :=
  (buttons &&& 0x01 ≠ 0, buttons &&& 0x02 ≠ 0, buttons &&& 0x04 ≠ 0)

theorem buttonsOfByte_buttonByte (left right middle : Bool) :
    buttonsOfByte (buttonByte left right middle) = (left, right, middle) := by
  cases left <;> cases right <;> cases middle <;> decide

/-- What a host reads of a report that is not relative. -/
def hostPointer (report : List UInt8) : (Bool × Bool × Bool) × Int16 × Int16 :=
  (buttonsOfByte (report.getD 0 0), (hostLe16 (report.drop 1) 0).toInt16,
    (hostLe16 (report.drop 3) 0).toInt16)

theorem hostPointer_report (s : State) : hostPointer (report s) = pointer s := by
  obtain ⟨hidX, hidY, left, right, middle, wheel, stateChanged⟩ := s
  have hx : hostLe16 ((report ⟨hidX, hidY, left, right, middle, wheel, stateChanged⟩).drop 1) 0 =
      hidX.toUInt16 := hostLe16_le16 _ _
  have hy : hostLe16 ((report ⟨hidX, hidY, left, right, middle, wheel, stateChanged⟩).drop 3) 0 =
      hidY.toUInt16 := hostLe16_le16 _ _
  rw [hostPointer, hx, hy, Int16.toInt16_toUInt16, Int16.toInt16_toUInt16]
  exact Prod.ext (buttonsOfByte_buttonByte left right middle) rfl

/-- The thread sends the state once without a call, so there is a last report. -/
def UpToDate (s : Running State (List UInt8)) : Prop :=
  ∀ initial, lastView anyReport hostPointer initial s.sent = pointer s.state

theorem upToDate_of_pending {s : Running State (List UInt8)} (hreached : Reachable system s)
    (hblocked : sender.pending s.state = false) : UpToDate s := by
  intro initial
  have hshown := Sender.reachable_invariant sender (fun s => s.stateChanged = true)
    (I := fun s sent => s.stateChanged = true ∨
      lastView anyReport hostPointer initial sent = pointer s) ?_ ?_ ?_ hreached
  · exact hshown.resolve_left fun hchanged =>
      Bool.false_ne_true (hblocked.symm.trans hchanged)
  · exact fun s hs => .inl hs
  · exact fun s sent c _ => .inl (stateChanged_call s c).1
  · intro s sent _ _
    refine .inr ?_
    rw [lastView_append]
    exact hostPointer_report s

end AbsoluteMouseHandler

end Usbipdcpp.VirtualDevice
