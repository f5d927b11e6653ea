import Usbipdcpp.Protocol.Responses
import Usbipdcpp.VirtualDevice.Device

namespace Usbipdcpp.VirtualDevice

open Protocol

inductive RequestRecipient where
  | device
  | interface
  | endpoint
  | other
  | unknown
  deriving DecidableEq, Repr

def RequestRecipient.ofSetup (setup : SetupPacket) : RequestRecipient :=
  if setup.calcRecipient = 0 then .device
  else if setup.calcRecipient = 1 then .interface
  else if setup.calcRecipient = 2 then .endpoint
  else if setup.calcRecipient = 3 then .other
  else .unknown

namespace StandardRequest

def getStatus : UInt8 := 0
def clearFeature : UInt8 := 1
def setFeature : UInt8 := 3
def setAddress : UInt8 := 5
def getDescriptor : UInt8 := 6
def setDescriptor : UInt8 := 7
def getConfiguration : UInt8 := 8
def setConfiguration : UInt8 := 9
def getInterface : UInt8 := 10
def setInterface : UInt8 := 11
def synchFrame : UInt8 := 12

end StandardRequest

variable {Handler : Type}

/-- The callbacks of the device and of its interface handlers for standard requests without
data for the host, with their arguments. -/
inductive OutRequest (Handler : Type) where
  | clearFeature (featureSelector : UInt16)
  | setAddress (address : UInt16)
  | setConfiguration (configurationValue : UInt16)
  | setDescriptor (descType descIndex : UInt8) (languageId descriptorLength : UInt16)
      (data : List UInt8)
  | setFeature (featureSelector : UInt16)
  | interfaceClearFeature (handler : Handler) (featureSelector : UInt16)
  | interfaceSetFeature (handler : Handler) (featureSelector : UInt16)
  | interfaceSetInterface (handler : Handler) (alternateSetting : UInt16)
  | endpointClearFeature (handler : Handler) (featureSelector : UInt16) (epAddress : UInt8)
  | endpointSetFeature (handler : Handler) (featureSelector : UInt16) (epAddress : UInt8)
  deriving DecidableEq, Repr

/-- The callbacks for standard requests with data for the host. -/
inductive InRequest (Handler : Type) where
  | getConfiguration
  | getDescriptor (type languageId : UInt8) (descriptorLength : UInt16)
  | getStatus
  | getInterface (intf : UInt16)
  | interfaceGetStatus (handler : Handler)
  | interfaceGetDescriptor (handler : Handler) (type languageId : UInt8)
      (descriptorLength : UInt16)
  | endpointGetStatus (handler : Handler) (epAddress : UInt8)
  | endpointSyncFrame (handler : Handler) (epAddress : UInt8)
  deriving DecidableEq, Repr

namespace InRequest

/-- What a callback returns. -/
def Result : InRequest Handler → Type
  | .getConfiguration | .getInterface _ => UInt8
  | .getDescriptor .. | .interfaceGetDescriptor .. => List UInt8
  | .getStatus | .interfaceGetStatus _ | .endpointGetStatus .. | .endpointSyncFrame .. => UInt16

/-- The data stage made of it: a descriptor is cut to the length asked for, and the frame number
is not sent. -/
def resultBytes (length : UInt16) : (request : InRequest Handler) → request.Result → List UInt8
  | .getConfiguration, result | .getInterface _, result => u8ToBytes result
  | .getDescriptor .., result | .interfaceGetDescriptor .., result =>
      List.take length.toNat result
  | .getStatus, result | .interfaceGetStatus _, result | .endpointGetStatus .., result =>
      u16leToBytes result
  | .endpointSyncFrame .., _ => []

end InRequest

/-- The status that each callback leaves, with what it returns. -/
structure Callbacks (Handler : Type) where
  out : OutRequest Handler → UInt32
  in_ : (request : InRequest Handler) → UInt32 × request.Result

/-- Callbacks that stall every request. -/
def Callbacks.stalling : Callbacks Handler where
  out _ := UrbStatusType.statusEPIPE
  in_
    | .getConfiguration | .getInterface _ => (UrbStatusType.statusEPIPE, (0 : UInt8))
    | .getDescriptor .. | .interfaceGetDescriptor .. =>
        (UrbStatusType.statusEPIPE, ([] : List UInt8))
    | .getStatus | .interfaceGetStatus _ | .endpointGetStatus .. | .endpointSyncFrame .. =>
        (UrbStatusType.statusEPIPE, (0 : UInt16))

/-- A control URB with its transfer, which a generic operator allocated. -/
structure ControlUrb (Handler : Type) where
  seqnum : UInt32
  transferBufferLength : UInt32
  setup : SetupPacket
  owner : Option Handler
  trx : GenericTransfer
  deriving DecidableEq, Repr

/-- The functions that requests other than standard ones are handed to. -/
inductive ControlHook (Handler : Type) where
  | device
  | interface (handler : Handler)
  | endpoint (handler : Handler)
  deriving DecidableEq, Repr

inductive ControlAction (Handler : Type) where
  | submitRetSubmit (ret : UsbIpRetSubmit Handler)
  | hook (hook : ControlHook Handler) (transfer : TransferHandle Handler)
  deriving DecidableEq, Repr

structure ControlOutcome (Handler : Type) where
  actions : List (ControlAction Handler)
  device : UsbDevice Handler
  ec : Option ErrorType
  deriving DecidableEq, Repr

namespace ControlUrb

variable (callbacks : Callbacks Handler) (device : UsbDevice Handler) (urb : ControlUrb Handler)

def reply (ret : UsbIpRetSubmit Handler) : ControlOutcome Handler :=
  { actions := [.submitRetSubmit ret], device, ec := none }

def replyEpipe : ControlOutcome Handler :=
  reply device (.createRetSubmitEpipeWithoutData urb.seqnum 0)

/-- A request for a handler that is not there. -/
def replyInvalid : ControlOutcome Handler :=
  { replyEpipe device urb with ec := some .invalidArg }

def handOver (hook : ControlHook Handler) : ControlOutcome Handler :=
  { actions := [.hook hook (.generic urb.owner urb.trx)], device, ec := none }

/-- The status of a request without data for the host; one that is not handled stalls. -/
def outStatus (request : Option (OutRequest Handler)) : UInt32 :=
  request.elim UrbStatusType.statusEPIPE callbacks.out

def replyOut (request : Option (OutRequest Handler)) : ControlOutcome Handler :=
  reply device (.createRetSubmitWithStatusAndNoData urb.seqnum (outStatus callbacks request) 0)

/-- The reply to a request with data for the host, which the transfer carries. -/
def replyIn (request : Option (InRequest Handler)) : ControlOutcome Handler :=
  let (status, result) : UInt32 × List UInt8 :=
    match request with
    | some request =>
        let (status, result) := callbacks.in_ request
        (status, request.resultBytes urb.setup.length result)
    | none => (UrbStatusType.statusEPIPE, [])
  let trx :=
    { urb.trx with data := result, actualLength := result.length, dataOffset := 0 }
  reply device (.createRetSubmitWithStatusAndNoIso urb.seqnum status
    (.ofNat trx.actualLength) (.generic urb.owner trx))

def deviceOutRequest : Option (OutRequest Handler) :=
  let setup := urb.setup
  if setup.request = StandardRequest.clearFeature then some (.clearFeature setup.value)
  else if setup.request = StandardRequest.setAddress then some (.setAddress setup.value)
  else if setup.request = StandardRequest.setConfiguration then
    some (.setConfiguration setup.value)
  else if setup.request = StandardRequest.setDescriptor then
    some (.setDescriptor (setup.value >>> 8).toUInt8 setup.value.toUInt8 setup.index setup.length
      (urb.trx.data.take urb.transferBufferLength.toNat))
  else if setup.request = StandardRequest.setFeature then some (.setFeature setup.value)
  else none

def deviceInRequest : Option (InRequest Handler) :=
  let setup := urb.setup
  if setup.request = StandardRequest.getConfiguration then some .getConfiguration
  else if setup.request = StandardRequest.getDescriptor then
    some (.getDescriptor (setup.value >>> 8).toUInt8 setup.value.toUInt8 setup.length)
  else if setup.request = StandardRequest.getStatus then some .getStatus
  else none

def interfaceOutRequest (handler : Handler) : Option (OutRequest Handler) :=
  let setup := urb.setup
  if setup.request = StandardRequest.clearFeature then
    some (.interfaceClearFeature handler setup.value)
  else if setup.request = StandardRequest.setFeature then
    some (.interfaceSetFeature handler setup.value)
  else if setup.request = StandardRequest.setInterface then
    some (.interfaceSetInterface handler setup.value)
  else none

/-- The device is asked for the alternate setting, and the handler for the rest. -/
def interfaceInRequest (handler : Handler) : Option (InRequest Handler) :=
  let setup := urb.setup
  if setup.request = StandardRequest.getInterface then some (.getInterface setup.index)
  else if setup.request = StandardRequest.getStatus then some (.interfaceGetStatus handler)
  else if setup.request = StandardRequest.getDescriptor then
    some (.interfaceGetDescriptor handler (setup.value >>> 8).toUInt8 setup.value.toUInt8
      setup.length)
  else none

def endpointOutRequest (handler : Handler) : Option (OutRequest Handler) :=
  let setup := urb.setup
  if setup.request = StandardRequest.clearFeature then
    some (.endpointClearFeature handler setup.value setup.index.toUInt8)
  else if setup.request = StandardRequest.setFeature then
    some (.endpointSetFeature handler setup.value setup.index.toUInt8)
  else none

def endpointInRequest (handler : Handler) : Option (InRequest Handler) :=
  let setup := urb.setup
  if setup.request = StandardRequest.getStatus then
    some (.endpointGetStatus handler setup.index.toUInt8)
  else if setup.request = StandardRequest.synchFrame then
    some (.endpointSyncFrame handler setup.index.toUInt8)
  else none

/-- The device once a request to an interface is done: an alternate setting that the handler
accepts and the interface has becomes the current one. -/
def selectAltsetting (intf : UsbInterface Handler) (request : Option (OutRequest Handler)) :
    UsbDevice Handler :=
  let setup := urb.setup
  if setup.request = StandardRequest.setInterface ∧ outStatus callbacks request = 0 ∧
      setup.value.toNat < intf.endpoints.length then
    { device with
      interfaces := device.interfaces.modify setup.index.toNat fun intf =>
        { intf with currentAltsetting := setup.value.toUInt8 } }
  else device

def handleDeviceRequest : ControlOutcome Handler :=
  if urb.setup.isOut then replyOut callbacks device urb (deviceOutRequest urb)
  else replyIn callbacks device urb (deviceInRequest urb)

def handleInterfaceRequest : ControlOutcome Handler :=
  match device.interfaces[urb.setup.index.toNat]? with
  | none => replyEpipe device urb
  | some intf =>
      match intf.handler with
      | none => replyInvalid device urb
      | some handler =>
          if urb.setup.isOut then
            let request := interfaceOutRequest urb handler
            replyOut callbacks (selectAltsetting callbacks device urb intf request) urb request
          else replyIn callbacks device urb (interfaceInRequest urb handler)

/-- An endpoint that is not found is passed over. -/
def handleEndpointRequest : ControlOutcome Handler :=
  match device.findEp urb.setup.index.toUInt8 with
  | none => { actions := [], device, ec := none }
  | some (_, none) => replyInvalid device urb
  | some (_, some intf) =>
      match intf.handler with
      | none => replyInvalid device urb
      | some handler =>
          if urb.setup.isOut then replyOut callbacks device urb (endpointOutRequest urb handler)
          else replyIn callbacks device urb (endpointInRequest urb handler)

def handleStandardRequest : ControlOutcome Handler :=
  match RequestRecipient.ofSetup urb.setup with
  | .device => handleDeviceRequest callbacks device urb
  | .interface => handleInterfaceRequest callbacks device urb
  | .endpoint => handleEndpointRequest callbacks device urb
  | .other | .unknown => replyEpipe device urb

/-- A class or vendor request goes to the device or to the handler it is for; only the lower
byte of `wIndex` names an interface here. -/
def handleNonStandardRequest : ControlOutcome Handler :=
  match RequestRecipient.ofSetup urb.setup with
  | .device => handOver device urb .device
  | .interface =>
      match device.interfaces[urb.setup.index.toNat &&& 0xFF]? with
      | none => replyEpipe device urb
      | some intf =>
          match intf.handler with
          | none => replyInvalid device urb
          | some handler => handOver device urb (.interface handler)
  | .endpoint =>
      match device.findEp urb.setup.index.toUInt8 with
      | none | some (_, none) => replyInvalid device urb
      | some (_, some intf) =>
          match intf.handler with
          | none => replyInvalid device urb
          | some handler => handOver device urb (.endpoint handler)
  | .other | .unknown => replyEpipe device urb

/-- The request type in `bmRequestType` is the standard one. -/
def IsStandard : Prop := urb.setup.calcRequestType = 0

instance : Decidable (IsStandard urb) := inferInstanceAs (Decidable (_ = _))

def handleControlUrb : ControlOutcome Handler :=
  if IsStandard urb then handleStandardRequest callbacks device urb
  else handleNonStandardRequest device urb

end ControlUrb

/-- The status and the data of the reply, where that is all that is done. -/
def ControlOutcome.answer (outcome : ControlOutcome Handler) :
    Option (UInt32 × List UInt8) :=
  match outcome.actions with
  | [.submitRetSubmit ret] =>
      some (ret.status,
        match ret.transfer with
        | some (.generic _ trx) => trx.data
        | _ => [])
  | _ => none

/-- The only action is a reply with the request's seqnum. -/
def ControlOutcome.RepliesOnce (seqnum : UInt32) (outcome : ControlOutcome Handler) : Prop :=
  ∃ ret, outcome.actions = [.submitRetSubmit ret] ∧ ret.header.seqnum = seqnum

/-- The only action hands the transfer to a hook. -/
def ControlOutcome.HandsOver (outcome : ControlOutcome Handler) : Prop :=
  ∃ hook transfer, outcome.actions = [.hook hook transfer]

namespace ControlUrb

/-- A standard request is replied to, any other is replied to or handed over, and nothing else
is done. -/
def Answered (urb : ControlUrb Handler) (outcome : ControlOutcome Handler) : Prop :=
  if IsStandard urb then outcome.RepliesOnce urb.seqnum
  else outcome.RepliesOnce urb.seqnum ∨ outcome.HandsOver

section Answered

variable {callbacks : Callbacks Handler} {device : UsbDevice Handler} {urb : ControlUrb Handler}

theorem repliesOnce_replyEpipe : (replyEpipe device urb).RepliesOnce urb.seqnum :=
  ⟨_, rfl, rfl⟩

theorem repliesOnce_replyInvalid : (replyInvalid device urb).RepliesOnce urb.seqnum :=
  ⟨_, rfl, rfl⟩

theorem repliesOnce_replyOut (request : Option (OutRequest Handler)) :
    (replyOut callbacks device urb request).RepliesOnce urb.seqnum :=
  ⟨_, rfl, rfl⟩

theorem repliesOnce_replyIn (request : Option (InRequest Handler)) :
    (replyIn callbacks device urb request).RepliesOnce urb.seqnum :=
  ⟨_, rfl, rfl⟩

theorem repliesOnce_handleDeviceRequest :
    (handleDeviceRequest callbacks device urb).RepliesOnce urb.seqnum := by
  unfold handleDeviceRequest
  split
  next => exact repliesOnce_replyOut _
  next => exact repliesOnce_replyIn _

theorem repliesOnce_handleInterfaceRequest :
    (handleInterfaceRequest callbacks device urb).RepliesOnce urb.seqnum := by
  unfold handleInterfaceRequest
  split
  next => exact repliesOnce_replyEpipe
  next intf _ =>
    split
    next => exact repliesOnce_replyInvalid
    next handler _ =>
      split
      next => exact repliesOnce_replyOut _
      next => exact repliesOnce_replyIn _

/-- The one path of a standard request without a reply is an endpoint that is not found. -/
theorem repliesOnce_handleEndpointRequest_iff :
    (handleEndpointRequest callbacks device urb).RepliesOnce urb.seqnum ↔
      device.findEp urb.setup.index.toUInt8 ≠ none := by
  unfold handleEndpointRequest
  split
  next hnone =>
    refine iff_of_false ?_ (not_not_intro hnone)
    rintro ⟨ret, hactions, -⟩
    cases hactions
  next hfound => exact iff_of_true repliesOnce_replyInvalid (by simp [hfound])
  next intf hfound =>
    refine iff_of_true ?_ (by simp [hfound])
    split
    next => exact repliesOnce_replyInvalid
    next handler _ =>
      split
      next => exact repliesOnce_replyOut _
      next => exact repliesOnce_replyIn _

theorem repliesOnce_handleStandardRequest_iff :
    (handleStandardRequest callbacks device urb).RepliesOnce urb.seqnum ↔
      ¬ (RequestRecipient.ofSetup urb.setup = .endpoint ∧
        device.findEp urb.setup.index.toUInt8 = none) := by
  unfold handleStandardRequest
  split
  next h => exact iff_of_true repliesOnce_handleDeviceRequest (by simp [h])
  next h => exact iff_of_true repliesOnce_handleInterfaceRequest (by simp [h])
  next h => rw [repliesOnce_handleEndpointRequest_iff, h]; simp
  next h => exact iff_of_true repliesOnce_replyEpipe (by simp [h])
  next h => exact iff_of_true repliesOnce_replyEpipe (by simp [h])

theorem handsOver_handOver (hook : ControlHook Handler) : (handOver device urb hook).HandsOver :=
  ⟨_, _, rfl⟩

theorem answered_handleNonStandardRequest :
    (handleNonStandardRequest device urb).RepliesOnce urb.seqnum ∨
      (handleNonStandardRequest device urb).HandsOver := by
  unfold handleNonStandardRequest
  split
  next => exact .inr (handsOver_handOver _)
  next =>
    split
    next => exact .inl repliesOnce_replyEpipe
    next intf _ =>
      split
      next => exact .inl repliesOnce_replyInvalid
      next => exact .inr (handsOver_handOver _)
  next =>
    split
    next => exact .inl repliesOnce_replyInvalid
    next => exact .inl repliesOnce_replyInvalid
    next intf _ =>
      split
      next => exact .inl repliesOnce_replyInvalid
      next => exact .inr (handsOver_handOver _)
  next => exact .inl repliesOnce_replyEpipe
  next => exact .inl repliesOnce_replyEpipe

/-- A control URB is answered, if and only if it is not a standard request to an endpoint that
the device does not have. -/
theorem answered_handleControlUrb_iff (callbacks : Callbacks Handler)
    (device : UsbDevice Handler) (urb : ControlUrb Handler) :
    Answered urb (handleControlUrb callbacks device urb) ↔
      ¬ (IsStandard urb ∧ RequestRecipient.ofSetup urb.setup = .endpoint ∧
        device.findEp urb.setup.index.toUInt8 = none) := by
  unfold Answered handleControlUrb
  by_cases hstandard : IsStandard urb
  · rw [if_pos hstandard, if_pos hstandard, repliesOnce_handleStandardRequest_iff,
      and_iff_right hstandard]
  · rw [if_neg hstandard, if_neg hstandard]
    exact iff_of_true answered_handleNonStandardRequest fun h => hstandard h.1

/-- A request to clear the halt of endpoint 5, which no interface has. -/
def clearMissingEndpoint : ControlUrb Unit where
  seqnum := 7
  transferBufferLength := 0
  setup := ⟨0x02, StandardRequest.clearFeature, 0, 5, 0⟩
  owner := none
  trx := ⟨[], [], 0, 0, false⟩

def bareDevice : UsbDevice Unit where
  ep0In := ⟨0x80, 0⟩
  ep0Out := ⟨0x00, 0⟩
  interfaces := []

theorem not_answered_of_missing_endpoint :
    ¬ ∀ callbacks : Callbacks Unit, Answered clearMissingEndpoint
      (handleControlUrb callbacks bareDevice clearMissingEndpoint) := by
  intro h
  obtain ⟨ret, hactions, -⟩ := h ⟨fun _ => 0, fun
    | .getConfiguration | .getInterface _ => (0, (0 : UInt8))
    | .getDescriptor .. | .interfaceGetDescriptor .. => (0, ([] : List UInt8))
    | .getStatus | .interfaceGetStatus _ | .endpointGetStatus .. | .endpointSyncFrame .. =>
        (0, (0 : UInt16))⟩
  cases hactions

end Answered

end ControlUrb

end Usbipdcpp.VirtualDevice
