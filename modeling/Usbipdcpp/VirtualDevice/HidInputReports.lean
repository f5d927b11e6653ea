import Usbipdcpp.Foundation.WaitingSender
import Usbipdcpp.VirtualDevice.HidControl

namespace Usbipdcpp.VirtualDevice

open Foundation.ByteStream Protocol

namespace HIDReportType

def output : UInt8 := 0x01
def input : UInt8 := 0x02
def feature : UInt8 := 0x03

end HIDReportType

/-- Sixteen bits of a report, least significant byte first. -/
def le16 (v : UInt16) : List UInt8 := [(v &&& 0xFF).toUInt8, ((v >>> 8) &&& 0xFF).toUInt8]

/-- Devices without numbers on their reports have one kind. -/
def anyReport (_report : List UInt8) : Bool := true

/-- Sixteen bits as the host puts them together. -/
def hostLe16 (report : List UInt8) (offset : Nat) : UInt16 :=
  .ofNat ((report.getD offset 0).toNat + 256 * (report.getD (offset + 1) 0).toNat)

theorem hostLe16_le16 (v : UInt16) (rest : List UInt8) : hostLe16 (le16 v ++ rest) 0 = v := by
  have hv := v.toNat_lt
  have hbytes : le16 v = [.ofNat (v.toNat % 256 / 1), .ofNat (v.toNat / 256)] :=
    shifts_eq_leBytesOfNat_two v
  have hlow : (UInt8.ofNat (v.toNat % 256 / 1)).toNat = v.toNat % 256 := by
    rw [UInt8.toNat_ofNat', Nat.div_one, Nat.mod_mod]
  have hhigh : (UInt8.ofNat (v.toNat / 256)).toNat = v.toNat / 256 := by
    rw [UInt8.toNat_ofNat', Nat.mod_eq_of_lt (by omega)]
  have hread : hostLe16 (le16 v ++ rest) 0 =
      .ofNat ((UInt8.ofNat (v.toNat % 256 / 1)).toNat +
        256 * (UInt8.ofNat (v.toNat / 256)).toNat) := by
    rw [hbytes]
    rfl
  rw [hread, hlow, hhigh, Nat.mod_add_div, UInt16.ofNat_toNat]

/-- What an HID handler answers that does not override the callback. -/
def HidVirtualInterfaceHandler.requestGetReport (_type _reportId : UInt8) (length : UInt16) :
    UInt32 × List UInt8 :=
  (UrbStatusType.statusOK, List.replicate length.toNat 0)

theorem HidCallbacks.default_getReport (interfaceSubclass type reportId : UInt8)
    (length : UInt16) :
    (HidCallbacks.default interfaceSubclass).in_ (.getReport type reportId length) =
      HidVirtualInterfaceHandler.requestGetReport type reportId length := rfl

end Usbipdcpp.VirtualDevice
