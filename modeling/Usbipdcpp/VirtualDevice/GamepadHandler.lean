import Usbipdcpp.VirtualDevice.HidInputReports

namespace Usbipdcpp.VirtualDevice.GamepadHandler

open Foundation.TransitionSystem Foundation.WaitingSender Protocol

def numButtons : Nat := 16

def numAxes : Nat := 4

inductive HatDirection where
  | north
  | northEast
  | east
  | southEast
  | south
  | southWest
  | west
  | northWest
  | center
  deriving DecidableEq, Repr

def HatDirection.value : HatDirection → UInt8
  | .north => 0
  | .northEast => 1
  | .east => 2
  | .southEast => 3
  | .south => 4
  | .southWest => 5
  | .west => 6
  | .northWest => 7
  | .center => 0x0F

abbrev Axes : Type := { values : List Int16 // values.length = numAxes }

structure GamepadState where
  buttons : UInt16 := 0
  hat : UInt8 := HatDirection.center.value
  axes : Axes := ⟨List.replicate numAxes 0, rfl⟩
  deriving DecidableEq

/-- What a call makes of the state, and whether it notifies the thread that sends. -/
abbrev Change : Type := GamepadState × Bool

def buttonBit (index : UInt8) : UInt16 := 1 <<< index.toUInt16

def setButton (s : GamepadState) (index : UInt8) (pressed : Bool) : Change :=
  if numButtons ≤ index.toNat then
    (s, false)
  else
    let buttons := if pressed = true then s.buttons ||| buttonBit index
      else s.buttons &&& ~~~buttonBit index
    ({ s with buttons }, decide (buttons ≠ s.buttons))

def pressButtons (s : GamepadState) (indices : List UInt8) : Change :=
  let buttons := (indices.filter (·.toNat < numButtons)).foldl (· ||| buttonBit ·) 0
  ({ s with buttons }, true)

def releaseAllButtons (s : GamepadState) : Change :=
  if s.buttons ≠ 0 then ({ s with buttons := 0 }, true) else (s, false)

def setHat (s : GamepadState) (dir : HatDirection) : Change :=
  if s.hat ≠ dir.value then ({ s with hat := dir.value }, true) else (s, false)

def setAxis (s : GamepadState) (index : UInt8) (value : Int16) : Change :=
  if numAxes ≤ index.toNat then
    (s, false)
  else if s.axes.val.getD index.toNat 0 ≠ value then
    ({ s with axes := ⟨s.axes.val.set index.toNat value,
        by rw [List.length_set, s.axes.property]⟩ }, true)
  else
    (s, false)

inductive GamepadCall where
  | setButton (index : UInt8) (pressed : Bool)
  | pressButtons (indices : List UInt8)
  | releaseAllButtons
  | setHat (dir : HatDirection)
  | setAxis (index : UInt8) (value : Int16)
  deriving DecidableEq

def call (s : GamepadState) : GamepadCall → Change
  | .setButton index pressed => setButton s index pressed
  | .pressButtons indices => pressButtons s indices
  | .releaseAllButtons => releaseAllButtons s
  | .setHat dir => setHat s dir
  | .setAxis index value => setAxis s index value

def report (s : GamepadState) : List UInt8 :=
  le16 s.buttons ++ [s.hat] ++ s.axes.val.flatMap fun value => le16 value.toUInt16

def requestGetReport (s : GamepadState) (type _reportId : UInt8) (_length : UInt16) :
    UInt32 × List UInt8 :=
  if type = HIDReportType.input then (UrbStatusType.statusOK, report s)
  else (UrbStatusType.statusEPIPE, [])

/-- The handler in a connection, which resets both copies of the state. -/
def sender : Sender (Mirror GamepadState) GamepadCall (List UInt8) :=
  Mirror.sender call (fun current _ => [report current]) id

def system : System (Running (Mirror GamepadState) (List UInt8)) (Event GamepadCall) :=
  sender.system (Mirror.Starts {})

/-- A call that does not notify the thread has changed nothing. -/
theorem call_of_silent (s : GamepadState) (c : GamepadCall) (h : (call s c).2 = false) :
    (call s c).1 = s := by
  cases c with
  | setButton index pressed =>
      change (setButton s index pressed).2 = false at h
      change (setButton s index pressed).1 = s
      unfold setButton at h ⊢
      split at h
      next hbeyond => rw [if_pos hbeyond]
      next hbeyond =>
        have hsame := not_not.mp (of_decide_eq_false h)
        rw [if_neg hbeyond]
        dsimp only
        rw [hsame]
  | pressButtons indices => exact absurd h.symm Bool.false_ne_true
  | releaseAllButtons =>
      change (releaseAllButtons s).2 = false at h
      change (releaseAllButtons s).1 = s
      unfold releaseAllButtons at h ⊢
      split at h
      next => exact absurd h.symm Bool.false_ne_true
      next hnone => rw [if_neg hnone]
  | setHat dir =>
      change (setHat s dir).2 = false at h
      change (setHat s dir).1 = s
      unfold setHat at h ⊢
      split at h
      next => exact absurd h.symm Bool.false_ne_true
      next hsame => rw [if_neg hsame]
  | setAxis index value =>
      change (setAxis s index value).2 = false at h
      change (setAxis s index value).1 = s
      unfold setAxis at h ⊢
      split at h
      next hbeyond => rw [if_pos hbeyond]
      next hbeyond =>
        rw [if_neg hbeyond]
        split at h
        next => exact absurd h.symm Bool.false_ne_true
        next hsame => rw [if_neg hsame]

theorem notifies : sender.Notifies := Mirror.notifies call_of_silent

/-- What a host reads of a report: the buttons, the hat and the axes. -/
def hostControls (report : List UInt8) : UInt16 × UInt8 × List Int16 :=
  (hostLe16 report 0, report.getD 2 0,
    (List.range numAxes).map fun axis => (hostLe16 (report.drop (3 + 2 * axis)) 0).toInt16)

theorem hostControls_report (s : GamepadState) :
    hostControls (report s) = (s.buttons, s.hat, s.axes.val) := by
  obtain ⟨buttons, hat, axes, haxes⟩ := s
  obtain ⟨x, y, z, rz, rfl⟩ : ∃ x y z rz, axes = [x, y, z, rz] := by
    match axes, haxes with
    | [x, y, z, rz], _ => exact ⟨x, y, z, rz, rfl⟩
  have haxis (value : Int16) (rest : List UInt8) :
      (hostLe16 (le16 value.toUInt16 ++ rest) 0).toInt16 = value := by
    rw [hostLe16_le16, Int16.toInt16_toUInt16]
  have hbuttons : hostLe16 (report ⟨buttons, hat, [x, y, z, rz], haxes⟩) 0 = buttons :=
    hostLe16_le16 buttons _
  refine Prod.ext hbuttons (Prod.ext rfl ?_)
  exact List.cons_eq_cons.mpr ⟨haxis x _, List.cons_eq_cons.mpr ⟨haxis y _,
    List.cons_eq_cons.mpr ⟨haxis z _, List.cons_eq_cons.mpr ⟨haxis rz [], rfl⟩⟩⟩⟩

/-- The last report is what the host would be answered, and shows the buttons, the hat and the axes
as they are. -/
def UpToDate (s : Running (Mirror GamepadState) (List UInt8)) : Prop :=
  let shown := lastView anyReport id (report {}) s.sent
  (∀ reportId length, requestGetReport s.state.current HIDReportType.input reportId length =
      (UrbStatusType.statusOK, shown)) ∧
    hostControls shown =
      (s.state.current.buttons, s.state.current.hat, s.state.current.axes.val)

theorem upToDate_of_pending {s : Running (Mirror GamepadState) (List UInt8)}
    (hreached : Reachable system s) (hblocked : sender.pending s.state = false) : UpToDate s := by
  have hshown : lastView anyReport id (report {}) s.sent = report s.state.current :=
    Mirror.converges (fun _ _ _ => rfl) hreached hblocked
  refine ⟨fun reportId length => ?_, ?_⟩
  · rw [hshown]
    rfl
  · rw [hshown, hostControls_report]

end Usbipdcpp.VirtualDevice.GamepadHandler
