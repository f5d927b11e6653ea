import Mathlib.Algebra.Group.Int.Defs
import Mathlib.Algebra.Group.Prod
import Mathlib.Algebra.Order.Group.Abs
import Usbipdcpp.VirtualDevice.MouseHandlers

namespace Usbipdcpp.VirtualDevice.RelativeMouseHandler

open Foundation.TransitionSystem Foundation.WaitingSender

/-- Motion across, motion down and turns of the wheel, each a number without bounds. -/
abbrev Motion : Type := Int × Int × Int

def RelativeDataState.motion (data : RelativeDataState) : Motion :=
  (data.dx.toInt, data.dy.toInt, data.wheel.toInt)

/-- The motion that a call asks for. -/
def MouseCall.motion : MouseCall → Motion
  | .move dx dy => (dx.toInt, dy.toInt, 0)
  | .setWheel delta => (0, 0, delta.toInt)
  | .setLeftButton _ => 0
  | .setRightButton _ => 0
  | .setMiddleButton _ => 0
  | .setSideButton _ => 0
  | .setExtraButton _ => 0

/-- What a host reads of a report that is relative. -/
def hostMotion (report : List UInt8) : Motion :=
  ((hostLe16 (report.drop 1) 0).toInt16.toInt, (hostLe16 (report.drop 3) 0).toInt16.toInt,
    (report.getD 5 0).toInt8.toInt)

theorem hostMotion_report (s : State) : hostMotion (report s) = s.relativeData.motion := by
  have hx : hostLe16 ((report s).drop 1) 0 = s.relativeData.dx.toUInt16 := hostLe16_le16 _ _
  have hy : hostLe16 ((report s).drop 3) 0 = s.relativeData.dy.toUInt16 := hostLe16_le16 _ _
  rw [hostMotion, hx, hy, Int16.toInt16_toUInt16, Int16.toInt16_toUInt16]
  rfl

/-- What is pending and what the call asks for add up within the bounds of the descriptor. -/
def Unclamped (s : Running (Mirror State) (List UInt8)) : Event MouseCall → Prop
  | .call (.move dx dy) =>
      |s.state.current.relativeData.dx.toInt + dx.toInt| ≤ 32767 ∧
        |s.state.current.relativeData.dy.toInt + dy.toInt| ≤ 32767
  | .call (.setWheel delta) => |s.state.current.relativeData.wheel.toInt + delta.toInt| ≤ 127
  | _ => True

theorem toInt_clamp16 {n : Int} (hn : |n| ≤ 32767) :
    (Int16.ofInt (max (-32767) (min n 32767))).toInt = n := by
  obtain ⟨hlow, hhigh⟩ := abs_le.mp hn
  rw [min_eq_left hhigh, max_eq_right hlow]
  exact Int16.toInt_ofInt_of_le (by omega) (by omega)

theorem toInt_clamp8 {n : Int} (hn : |n| ≤ 127) :
    (Int8.ofInt (max (-127) (min n 127))).toInt = n := by
  obtain ⟨hlow, hhigh⟩ := abs_le.mp hn
  rw [min_eq_left hhigh, max_eq_right hlow]
  exact Int8.toInt_ofInt_of_le (by omega) (by omega)

/-- A call adds its motion to what is pending. -/
theorem motion_call {s : Running (Mirror State) (List UInt8)} {c : MouseCall}
    (h : Unclamped s (.call c)) :
    (call s.state.current c).1.relativeData.motion =
      s.state.current.relativeData.motion + c.motion := by
  cases c with
  | move dx dy =>
      obtain ⟨hx, hy⟩ := h
      exact Prod.ext (toInt_clamp16 hx) (Prod.ext (toInt_clamp16 hy) (add_zero _).symm)
  | setWheel delta =>
      exact Prod.ext (add_zero _).symm (Prod.ext (add_zero _).symm (toInt_clamp8 h))
  | setLeftButton | setRightButton | setMiddleButton | setSideButton | setExtraButton =>
      exact (add_zero _).symm

/-- The report takes with it what has been pending. -/
theorem motion_send (s : Mirror State) :
    ((sender.send s).1.map hostMotion).sum + (sender.send s).2.current.relativeData.motion =
      s.current.relativeData.motion := by
  change ([hostMotion (report s.current)]).sum + 0 = _
  rw [List.sum_singleton, add_zero, hostMotion_report]

theorem relativeData_last {s : Running (Mirror State) (List UInt8)}
    (hreached : Reachable system s) : s.state.last.relativeData = {} := by
  refine Sender.reachable_invariant sender (Mirror.Starts {})
    (I := fun s _ => s.last.relativeData = {}) ?_ ?_ ?_ hreached
  · rintro s rfl
    rfl
  · exact fun s sent c hs => hs
  · exact fun s sent _ _ => rfl

/-- Nothing is pending while the thread waits. -/
theorem motion_of_blocked {s : Running (Mirror State) (List UInt8)}
    (hreached : Reachable system s) (hblocked : sender.pending s.state = false) :
    s.state.current.relativeData.motion = 0 := by
  have hsame : s.state.current = s.state.last := not_not.mp (of_decide_eq_false hblocked)
  rw [hsame, relativeData_last hreached]
  rfl

/-- A connection that has just begun. -/
def connected : Running (Mirror State) (List UInt8) := ⟨⟨{}, {}⟩, false, []⟩

theorem reachable_connected : Reachable system connected := .initial ⟨rfl, rfl, rfl⟩

/-- Motion is neither lost nor sent twice: what the reports carry and what is pending are together
what the calls have asked for, and nothing is pending while the thread waits. -/
theorem motion_conserved {events : List (Event MouseCall)}
    {t : Running (Mirror State) (List UInt8)} (hmeets : system.Meets Unclamped connected events)
    (hrun : system.run connected events = some t) :
    (t.sent.map hostMotion).sum + t.state.current.relativeData.motion =
        (events.map (Sender.brought MouseCall.motion)).sum ∧
      (sender.pending t.state = false → t.state.current.relativeData.motion = 0) := by
  refine ⟨?_, motion_of_blocked (reachable_connected.run events hrun)⟩
  have hbalance := Sender.run_balance (G := Unclamped)
    (fun s : Mirror State => s.current.relativeData.motion)
    (fun s c hc => motion_call hc) (fun s _ => motion_send s) hmeets hrun
  rw [hbalance]
  exact zero_add _

/-- A report is sent for the first move, and the second one is pending. -/
theorem motion_conserved_twoMoves :
    let events : List (Event MouseCall) := [.call (.move 5 (-3)), .turn, .call (.move (-5) 3)]
    ∃ t, system.run connected events = some t ∧
      (t.sent.map hostMotion).sum + t.state.current.relativeData.motion =
          (events.map (Sender.brought MouseCall.motion)).sum ∧
        (sender.pending t.state = false → t.state.current.relativeData.motion = 0) := by
  have hmeets : system.Meets Unclamped connected
      [.call (.move 5 (-3)), .turn, .call (.move (-5) 3)] :=
    (System.meets_cons rfl).mpr ⟨⟨by decide, by decide⟩, (System.meets_cons rfl).mpr
      ⟨trivial, (System.meets_cons rfl).mpr ⟨⟨by decide, by decide⟩, System.meets_nil⟩⟩⟩
  exact ⟨_, rfl, motion_conserved hmeets rfl⟩

end Usbipdcpp.VirtualDevice.RelativeMouseHandler
