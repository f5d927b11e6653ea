import Usbipdcpp.VirtualDevice.DigitizerHandler
import Usbipdcpp.VirtualDevice.GamepadHandler
import Usbipdcpp.VirtualDevice.KeyboardHandler
import Usbipdcpp.VirtualDevice.MouseHandlers

namespace Usbipdcpp.VirtualDevice

open Foundation.TransitionSystem Foundation.WaitingSender Protocol

namespace DigitizerHandler

/-- Where a report says that the screen is touched, whatever the bit of the tip. -/
def hostPosition (report : List UInt8) : UInt16 × UInt16 :=
  (hostLe16 (report.drop 1) 0, hostLe16 (report.drop 3) 0)

end DigitizerHandler

/-- Whatever the calls and however they fall between the turns of the thread that sends, the host
has seen the keys, buttons, axes and positions as they are when the thread waits. -/
theorem hostView_converges :
    KeyboardHandler.sender.Converges (Mirror.Starts {}) KeyboardHandler.UpToDate ∧
      GamepadHandler.sender.Converges (Mirror.Starts {}) GamepadHandler.UpToDate ∧
      DigitizerHandler.sender.Converges (Mirror.Starts {}) DigitizerHandler.UpToDate ∧
      RelativeMouseHandler.sender.Converges (Mirror.Starts {}) RelativeMouseHandler.UpToDate ∧
      AbsoluteMouseHandler.sender.Converges (fun s => s.stateChanged = true)
        AbsoluteMouseHandler.UpToDate := by
  refine ⟨fun s hreached => ⟨?_, ?_⟩, fun s hreached => ⟨?_, ?_⟩, fun s hreached => ⟨?_, ?_⟩,
    fun s hreached => ⟨?_, ?_⟩, fun s hreached => ⟨?_, ?_⟩⟩
  · exact Sender.pending_of_asleep KeyboardHandler.notifies hreached
  · exact KeyboardHandler.upToDate_of_pending hreached
  · exact Sender.pending_of_asleep GamepadHandler.notifies hreached
  · exact GamepadHandler.upToDate_of_pending hreached
  · exact Sender.pending_of_asleep DigitizerHandler.notifies hreached
  · exact DigitizerHandler.upToDate_of_pending hreached
  · exact Sender.pending_of_asleep RelativeMouseHandler.notifies hreached
  · exact RelativeMouseHandler.upToDate_of_pending hreached
  · exact Sender.pending_of_asleep AbsoluteMouseHandler.notifies hreached
  · exact AbsoluteMouseHandler.upToDate_of_pending hreached

/-- No report takes a media key back that has been sent, a digitizer that is not touched sends zeros
in place of the position it keeps, and the base class answers for a digitizer that is touched. -/
theorem not_hostView_current :
    (∃ s, Reachable KeyboardHandler.system s ∧ s.asleep = true ∧
      lastView KeyboardHandler.isConsumerReport KeyboardHandler.hostUsage 0 s.sent ≠
        s.state.current.consumerUsage) ∧
    (∃ s, Reachable DigitizerHandler.system s ∧ s.asleep = true ∧
      lastView anyReport DigitizerHandler.hostPosition (0, 0) s.sent ≠
        (s.state.current.x, s.state.current.y)) ∧
    ∃ s, Reachable DigitizerHandler.system s ∧ s.asleep = true ∧
      DigitizerHandler.requestGetReport s.state.current HIDReportType.input 0 6 ≠
        (UrbStatusType.statusOK,
          lastView anyReport id (DigitizerHandler.report {}) s.sent) := by
  have hkeyboard : Reachable KeyboardHandler.system ⟨⟨{}, {}⟩, false, []⟩ :=
    .initial ⟨rfl, rfl, rfl⟩
  have hdigitizer : Reachable DigitizerHandler.system ⟨⟨{}, {}⟩, false, []⟩ :=
    .initial ⟨rfl, rfl, rfl⟩
  refine ⟨⟨⟨⟨{}, {}⟩, true, [[2, 0xCD, 0]]⟩, ?_, rfl, by decide⟩,
    ⟨⟨⟨⟨false, 5, 6, 7⟩, ⟨false, 5, 6, 7⟩⟩, true, [[3, 5, 0, 6, 0, 7], [0, 0, 0, 0, 0, 0]]⟩,
      ?_, rfl, by decide⟩,
    ⟨⟨⟨⟨true, 5, 6, 7⟩, ⟨true, 5, 6, 7⟩⟩, true, [[3, 5, 0, 6, 0, 7]]⟩, ?_, rfl, by decide⟩⟩
  · exact hkeyboard.run [.call (.pressMediaKey 0xCD), .turn, .turn] (by decide)
  · exact hdigitizer.run [.call (.touch 5 6 7), .turn, .call .release, .turn, .turn] (by decide)
  · exact hdigitizer.run [.call (.touch 5 6 7), .turn, .turn] (by decide)

end Usbipdcpp.VirtualDevice
