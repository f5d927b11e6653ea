import Usbipdcpp.Protocol.CmdSubmit

namespace Usbipdcpp.VirtualDevice

open Protocol

structure UsbEndpoint where
  address : UInt8
  attributes : UInt8
  deriving DecidableEq, Repr

inductive EndpointAttributes where
  | control
  | isochronous
  | bulk
  | interrupt
  deriving DecidableEq, Repr

/-- The value of a transfer type in `bmAttributes`. -/
def EndpointAttributes.toUInt8 : EndpointAttributes → UInt8
  | .control => 0
  | .isochronous => 1
  | .bulk => 2
  | .interrupt => 3

namespace UsbEndpoint

def isIn (ep : UsbEndpoint) : Bool := ep.address &&& 0x80 != 0

/-- The transfer type in the lower two bits of `bmAttributes`. -/
def transferType (ep : UsbEndpoint) : EndpointAttributes :=
  if ep.attributes &&& 0x03 = 0 then .control
  else if ep.attributes &&& 0x03 = 1 then .isochronous
  else if ep.attributes &&& 0x03 = 2 then .bulk
  else .interrupt

end UsbEndpoint

variable {Handler : Type}

/-- An interface with the endpoints of each of its alternate settings. -/
structure UsbInterface (Handler : Type) where
  handler : Option Handler
  currentAltsetting : UInt8
  endpoints : List (List UsbEndpoint)
  deriving DecidableEq, Repr

/-- An alternate setting that does not exist stands for the first one, and an interface without
any has no endpoints. -/
def UsbInterface.currentEndpoints (intf : UsbInterface Handler) : List UsbEndpoint :=
  (intf.endpoints[intf.currentAltsetting.toNat]?).getD (intf.endpoints.headD [])

structure UsbDevice (Handler : Type) where
  ep0In : UsbEndpoint
  ep0Out : UsbEndpoint
  interfaces : List (UsbInterface Handler)
  deriving DecidableEq, Repr

namespace UsbDevice

def findEp (device : UsbDevice Handler) (ep : UInt8) :
    Option (UsbEndpoint × Option (UsbInterface Handler)) :=
  if ep = device.ep0In.address then some (device.ep0In, none)
  else if ep = device.ep0Out.address then some (device.ep0Out, none)
  else
    device.interfaces.findSome? fun intf =>
      (intf.currentEndpoints.find? fun endpoint => endpoint.address = ep).map
        fun endpoint => (endpoint, some intf)

theorem address_of_findEp {device : UsbDevice Handler} {ep : UInt8} {endpoint : UsbEndpoint}
    {intf : Option (UsbInterface Handler)} (h : device.findEp ep = some (endpoint, intf)) :
    endpoint.address = ep := by
  unfold findEp at h
  split at h
  next hep => cases h; exact hep.symm
  next =>
    split at h
    next hep => cases h; exact hep.symm
    next =>
      obtain ⟨intf', -, hfound⟩ := List.exists_of_findSome?_eq_some h
      obtain ⟨endpoint', hendpoint, heq⟩ := Option.map_eq_some_iff.mp hfound
      cases heq
      simpa using List.find?_some hendpoint

end UsbDevice

end Usbipdcpp.VirtualDevice
