import Usbipdcpp.VirtualDevice.AudioControl
import Usbipdcpp.VirtualDevice.RndisHandler
import Usbipdcpp.VirtualDevice.VideoControl

namespace Usbipdcpp.VirtualDevice

open Foundation.ByteStream Protocol

namespace CdcAcmRequest

def setLineCoding : UInt8 := 0x20
def getLineCoding : UInt8 := 0x21
def setControlLineState : UInt8 := 0x22
def sendBreak : UInt8 := 0x23

end CdcAcmRequest

namespace EcmRequest

def setEthernetPacketFilter : UInt8 := 0x43

end EcmRequest

/-- The settings of a serial line. -/
structure LineCoding where
  dwDTERate : UInt32
  bCharFormat : UInt8
  bParityType : UInt8
  bDataBits : UInt8
  deriving DecidableEq, Repr

namespace LineCoding

def toBytes (coding : LineCoding) : List UInt8 :=
  leBytesOfNat 4 coding.dwDTERate.toNat ++
    [coding.bCharFormat, coding.bParityType, coding.bDataBits]

@[simp] theorem length_toBytes (coding : LineCoding) : coding.toBytes.length = 7 := by
  simp [toBytes]

end LineCoding

variable {Handler : Type}

namespace ControlUrb

variable (urb : ControlUrb Handler)

/-- The reply of `CdcAcmCommunicationInterfaceHandler`; the line coding is cut to the length asked
for. -/
def handleCdcAcmControlUrb (coding : LineCoding) : UsbIpRetSubmit Handler :=
  let request := urb.setup.request
  if ¬ urb.IsClass then urb.stall
  else if urb.setup.isOut = false then
    let (status, trx) :=
      if request = CdcAcmRequest.getLineCoding then
        let data := coding.toBytes.take urb.setup.length.toNat
        (UrbStatusType.statusOK, { urb.trx with data, actualLength := data.length })
      else (UrbStatusType.statusEPIPE, { urb.trx with actualLength := 0 })
    .createRetSubmitWithStatusAndNoIso urb.seqnum status (.ofNat trx.actualLength)
      (.generic urb.owner trx)
  else
    let status :=
      if request = CdcAcmRequest.setLineCoding ∨ request = CdcAcmRequest.setControlLineState ∨
          request = CdcAcmRequest.sendBreak then UrbStatusType.statusOK
      else UrbStatusType.statusEPIPE
    .createRetSubmitWithStatusAndNoData urb.seqnum status 0

/-- The reply of `EcmCommunicationInterfaceHandler`, which has no data for the host. -/
def handleEcmControlUrb : UsbIpRetSubmit Handler :=
  if ¬ urb.IsClass then urb.stall
  else
    let status :=
      if urb.setup.isOut = true ∧ urb.setup.request = EcmRequest.setEthernetPacketFilter ∧
          urb.setup.length = 0 then UrbStatusType.statusOK
      else UrbStatusType.statusEPIPE
    .createRetSubmitWithStatusAndNoData urb.seqnum status 0

def cdcAcmStage : DataStage :=
  if urb.IsClass ∧ urb.setup.isOut = false ∧ urb.setup.request = CdcAcmRequest.getLineCoding then
    .cutToLength 7
  else .none

/-- The oldest response of the queue is asked for. -/
def rndisStage (responseQueue : List (List UInt8)) : DataStage :=
  if urb.IsClass ∧ urb.setup.isOut = false ∧
      urb.setup.request = Rndis.CdcAcmRequest.getEncapsulatedResponse then
    responseQueue.head?.elim .none fun front => .cutToBuffer front.length
  else .none

variable {urb}

theorem hasStage_handleCdcAcmControlUrb (h : IsControlIn urb) (coding : LineCoding) :
    HasStage urb (urb.handleCdcAcmControlUrb coding) urb.cdcAcmStage := by
  unfold handleCdcAcmControlUrb cdcAcmStage
  by_cases hclass : urb.IsClass
  · cases hout : urb.setup.isOut with
    | true =>
        simp only [hclass, not_true, if_false, Bool.true_eq_false, false_and, and_false]
        exact hasStage_none urb _
    | false =>
        simp only [hclass, not_true, if_false, if_true, true_and]
        split
        · exact hasStage_take h (by simp) _ _ (by rw [coding.length_toBytes]; rfl)
        · exact ⟨rfl, rfl⟩
  · simp only [hclass, not_false_eq_true, if_true, false_and, if_false]
    exact hasStage_stall urb

theorem hasStage_handleEcmControlUrb (urb : ControlUrb Handler) :
    HasStage urb urb.handleEcmControlUrb .none := by
  unfold handleEcmControlUrb
  split
  · exact hasStage_stall urb
  · exact hasStage_none urb _

theorem hasStage_getEncapsulatedResponse (h : IsControlIn urb)
    (handler : Rndis.RndisCommunicationInterfaceHandler Handler) :
    HasStage urb (handler.getEncapsulatedResponse urb).1
      (handler.responseQueue.head?.elim .none fun front => .cutToBuffer front.length) := by
  unfold Rndis.RndisCommunicationInterfaceHandler.getEncapsulatedResponse
  cases handler.responseQueue with
  | nil => exact hasStage_stall urb
  | cons front responseQueue => exact hasStage_take h (by simp) _ _ rfl

theorem hasStage_rndis (h : IsControlIn urb)
    (handler : Rndis.RndisCommunicationInterfaceHandler Handler) :
    HasStage urb (handler.handleNonStandardRequestTypeControlUrb urb).1
      (urb.rndisStage handler.responseQueue) := by
  unfold Rndis.RndisCommunicationInterfaceHandler.handleNonStandardRequestTypeControlUrb rndisStage
  dsimp only
  by_cases hclass : urb.IsClass
  · have htype : ¬ urb.setup.calcRequestType ≠ Rndis.requestTypeClass := not_not_intro hclass
    cases hout : urb.setup.isOut with
    | true =>
        simp only [htype, if_false, Bool.true_eq_false, false_and, and_false]
        split
        · exact hasStage_none urb _
        · exact hasStage_stall urb
    | false =>
        simp only [htype, hclass, Bool.false_eq_true, and_false, if_false, and_true, true_and]
        split
        · exact hasStage_getEncapsulatedResponse h handler
        · exact hasStage_stall urb
  · have htype : urb.setup.calcRequestType ≠ Rndis.requestTypeClass := hclass
    simp only [htype, hclass, ne_eq, not_false_eq_true, if_true, false_and, if_false]
    exact hasStage_stall urb

end ControlUrb

/-- The device handlers of the library, by what they do with requests to the device that are not
standard ones; with a compatible identifier there is a descriptor to ask for. -/
inductive LibraryDeviceHandler where
  | simple
  | msOsSimple (compatibleId subCompatibleId : List UInt8) (vendorCode : UInt8)
  deriving DecidableEq, Repr

namespace MsOs

def compatIdWindex : UInt16 := 0x0004

/-- A vendor request to the device for data. -/
def compatRequestType : UInt8 := 0xC0

/-- An identifier in a field of eight bytes. -/
def identifierField (identifier : List UInt8) : List UInt8 :=
  identifier.take 8 ++ List.replicate (8 - identifier.length) 0

@[simp] theorem length_identifierField (identifier : List UInt8) :
    (identifierField identifier).length = 8 := by
  simp only [identifierField, List.length_append, List.length_take, List.length_replicate]
  omega

/-- The descriptor by which a host finds a driver: its header and one section. -/
def compatIdDescriptor (compatibleId subCompatibleId : List UInt8) : List UInt8 :=
  leBytesOfNat 4 40 ++ leBytesOfNat 2 0x0100 ++ leBytesOfNat 2 compatIdWindex.toNat ++ [1] ++
    List.replicate 7 0 ++ [0, 0x01] ++ identifierField compatibleId ++
    identifierField subCompatibleId ++ List.replicate 6 0

@[simp] theorem length_compatIdDescriptor (compatibleId subCompatibleId : List UInt8) :
    (compatIdDescriptor compatibleId subCompatibleId).length = 40 := by
  simp [compatIdDescriptor]

end MsOs

namespace ControlUrb

variable (urb : ControlUrb Handler)

/-- The descriptor is asked for by its vendor code and its index. -/
def AsksCompatId (compatibleId : List UInt8) (vendorCode : UInt8) : Prop :=
  compatibleId ≠ [] ∧ urb.setup.requestType = MsOs.compatRequestType ∧
    urb.setup.request = vendorCode ∧ urb.setup.index = MsOs.compatIdWindex ∧
    urb.setup.value &&& 0xFF = 0

instance (compatibleId : List UInt8) (vendorCode : UInt8) :
    Decidable (urb.AsksCompatId compatibleId vendorCode) :=
  inferInstanceAs (Decidable (_ ∧ _))

end ControlUrb

namespace LibraryDeviceHandler

variable {urb : ControlUrb Handler}

def handleNonStandardRequestTypeControlUrb (urb : ControlUrb Handler) :
    LibraryDeviceHandler → UsbIpRetSubmit Handler
  | .simple => urb.stall
  | .msOsSimple compatibleId subCompatibleId vendorCode =>
      if urb.AsksCompatId compatibleId vendorCode then
        let data := (MsOs.compatIdDescriptor compatibleId subCompatibleId).take
          urb.transferBufferLength.toNat
        .createRetSubmitOkWithNoIso urb.seqnum (.ofNat data.length)
          (.generic urb.owner { urb.trx with data })
      else urb.stall

def dataStage (urb : ControlUrb Handler) : LibraryDeviceHandler → DataStage
  | .simple => .none
  | .msOsSimple compatibleId _ vendorCode =>
      if urb.AsksCompatId compatibleId vendorCode then .cutToBuffer 40 else .none

theorem hasStage_handleNonStandardRequestTypeControlUrb (h : urb.IsControlIn)
    (handler : LibraryDeviceHandler) :
    urb.HasStage (handler.handleNonStandardRequestTypeControlUrb urb) (handler.dataStage urb) := by
  cases handler with
  | simple => exact ControlUrb.hasStage_stall urb
  | msOsSimple compatibleId subCompatibleId vendorCode =>
      unfold handleNonStandardRequestTypeControlUrb dataStage
      dsimp only
      split
      · exact ControlUrb.hasStage_take h (by simp) _ _ (by simp [DataStage.sent])
      · exact ControlUrb.hasStage_stall urb

end LibraryDeviceHandler

/-- The interface handlers of the library, with the state that their replies depend on. -/
inductive LibraryHandler (Handler : Type) where
  | hid (callbacks : HidCallbacks)
  | cdcAcmCommunication (lineCoding : LineCoding)
  | cdcAcmData
  | ecmCommunication
  | ecmData
  | rndisCommunication (handler : Rndis.RndisCommunicationInterfaceHandler Handler)
  | rndisData
  | uacAudioControl (handler : Uac.UacAudioControlHandler)
  | uacAudioStreamingSource (classDesc : List UInt8) (source : Uac.AudioStream)
  | uacAudioStreamingSink (classDesc : List UInt8) (sink : Uac.AudioStream)
  | uvcVideoControl (handler : Uvc.UvcVideoControlHandler)
  | uvcVideoStreaming (handler : Uvc.UvcVideoStreamingHandler)
  | mscBulkOnly

namespace LibraryHandler

variable {urb : ControlUrb Handler}

/-- The reply to a request to the interface that is not a standard one. -/
def handleNonStandardRequestTypeControlUrb (urb : ControlUrb Handler) :
    LibraryHandler Handler → UsbIpRetSubmit Handler
  | .hid callbacks => urb.handleHidControlUrb callbacks
  | .cdcAcmCommunication lineCoding => urb.handleCdcAcmControlUrb lineCoding
  | .ecmCommunication => urb.handleEcmControlUrb
  | .rndisCommunication handler => (handler.handleNonStandardRequestTypeControlUrb urb).1
  | .uacAudioControl handler => handler.handleNonStandardRequestTypeControlUrb urb
  | .uacAudioStreamingSource classDesc source =>
      (Uac.uacAudioStreamingSourceHandler classDesc
        source).handleNonStandardRequestTypeControlUrb urb
  | .uacAudioStreamingSink classDesc sink =>
      (Uac.uacAudioStreamingSinkHandler classDesc
        sink).handleNonStandardRequestTypeControlUrb urb
  | .uvcVideoControl handler => handler.handleNonStandardRequestTypeControlUrb urb
  | .uvcVideoStreaming handler => handler.handleNonStandardRequestTypeControlUrb urb
  | .cdcAcmData | .ecmData | .rndisData | .mscBulkOnly => urb.stall

/-- The reply to such a request to an endpoint of the interface. -/
def handleNonStandardRequestTypeControlUrbToEndpoint (urb : ControlUrb Handler) :
    LibraryHandler Handler → UsbIpRetSubmit Handler
  | .uacAudioStreamingSource classDesc source =>
      (Uac.uacAudioStreamingSourceHandler classDesc
        source).handleNonStandardRequestTypeControlUrbToEndpoint urb
  | .uacAudioStreamingSink classDesc sink =>
      (Uac.uacAudioStreamingSinkHandler classDesc
        sink).handleNonStandardRequestTypeControlUrbToEndpoint urb
  | _ => urb.handleNonStandardRequestTypeControlUrbToEndpoint

def dataStage (urb : ControlUrb Handler) : LibraryHandler Handler → DataStage
  | .hid callbacks => urb.hidStage callbacks
  | .cdcAcmCommunication _ => urb.cdcAcmStage
  | .rndisCommunication handler => urb.rndisStage handler.responseQueue
  | .uacAudioControl handler => handler.dataStage urb
  | .uacAudioStreamingSource classDesc source =>
      (Uac.uacAudioStreamingSourceHandler classDesc source).dataStage urb
  | .uacAudioStreamingSink classDesc sink =>
      (Uac.uacAudioStreamingSinkHandler classDesc sink).dataStage urb
  | .uvcVideoControl handler => handler.dataStage urb
  | .uvcVideoStreaming handler => handler.dataStage urb
  | .cdcAcmData | .ecmCommunication | .ecmData | .rndisData | .mscBulkOnly => .none

def endpointDataStage (urb : ControlUrb Handler) : LibraryHandler Handler → DataStage
  | .uacAudioStreamingSource classDesc source =>
      (Uac.uacAudioStreamingSourceHandler classDesc source).endpointDataStage urb
  | .uacAudioStreamingSink classDesc sink =>
      (Uac.uacAudioStreamingSinkHandler classDesc sink).endpointDataStage urb
  | _ => .none

/-- Every handler of the library answers a request with its data stage. -/
theorem hasStage_handleNonStandardRequestTypeControlUrb (h : urb.IsControlIn)
    (handler : LibraryHandler Handler) :
    urb.HasStage (handler.handleNonStandardRequestTypeControlUrb urb) (handler.dataStage urb) := by
  cases handler with
  | hid callbacks => exact ControlUrb.hasStage_handleHidControlUrb h callbacks
  | cdcAcmCommunication lineCoding => exact ControlUrb.hasStage_handleCdcAcmControlUrb h lineCoding
  | ecmCommunication => exact urb.hasStage_handleEcmControlUrb
  | rndisCommunication handler => exact ControlUrb.hasStage_rndis h handler
  | uacAudioControl handler => exact handler.hasStage_handleNonStandardRequestTypeControlUrb h
  | uacAudioStreamingSource classDesc source =>
      exact (Uac.uacAudioStreamingSourceHandler classDesc
        source).hasStage_handleNonStandardRequestTypeControlUrb h
  | uacAudioStreamingSink classDesc sink =>
      exact (Uac.uacAudioStreamingSinkHandler classDesc
        sink).hasStage_handleNonStandardRequestTypeControlUrb h
  | uvcVideoControl handler => exact handler.hasStage_handleNonStandardRequestTypeControlUrb h
  | uvcVideoStreaming handler => exact handler.hasStage_handleNonStandardRequestTypeControlUrb h
  | cdcAcmData | ecmData | rndisData | mscBulkOnly => exact ControlUrb.hasStage_stall urb

theorem hasStage_handleNonStandardRequestTypeControlUrbToEndpoint (h : urb.IsControlIn)
    (handler : LibraryHandler Handler) :
    urb.HasStage (handler.handleNonStandardRequestTypeControlUrbToEndpoint urb)
      (handler.endpointDataStage urb) := by
  cases handler with
  | uacAudioStreamingSource classDesc source =>
      exact (Uac.uacAudioStreamingSourceHandler classDesc
        source).hasStage_handleNonStandardRequestTypeControlUrbToEndpoint h
  | uacAudioStreamingSink classDesc sink =>
      exact (Uac.uacAudioStreamingSinkHandler classDesc
        sink).hasStage_handleNonStandardRequestTypeControlUrbToEndpoint h
  | _ => exact ControlUrb.hasStage_stall urb

end LibraryHandler

end Usbipdcpp.VirtualDevice
