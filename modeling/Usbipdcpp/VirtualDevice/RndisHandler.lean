import Mathlib.Data.Vector.Basic
import Usbipdcpp.VirtualDevice.ControlUrb
import Usbipdcpp.VirtualDevice.MessageInChannel
import Usbipdcpp.VirtualDevice.RndisPackets

namespace Usbipdcpp.VirtualDevice.Rndis

open Protocol

inductive RndisStatus where
  | success
  | mediaConnect
  | mediaDisconnect
  | notSupported
  | invalidData
  deriving DecidableEq, Repr

/-- The value of a status on the wire. -/
def rndisStatus : RndisStatus → UInt32
  | .success => 0x00000000
  | .mediaConnect => 0x4001000B
  | .mediaDisconnect => 0x4001000C
  | .notSupported => 0xC00000BB
  | .invalidData => 0xC0010015

namespace Oid

def genSupportedList : UInt32 := 0x00010101
def genHardwareStatus : UInt32 := 0x00010102
def genMediaSupported : UInt32 := 0x00010103
def genMediaInUse : UInt32 := 0x00010104
def genMaximumFrameSize : UInt32 := 0x00010106
def genLinkSpeed : UInt32 := 0x00010107
def genTransmitBlockSize : UInt32 := 0x0001010A
def genReceiveBlockSize : UInt32 := 0x0001010B
def genVendorId : UInt32 := 0x0001010C
def genVendorDescription : UInt32 := 0x0001010D
def genCurrentPacketFilter : UInt32 := 0x0001010E
def genMaximumTotalSize : UInt32 := 0x00010111
def genMacOptions : UInt32 := 0x00010113
def genMediaConnectStatus : UInt32 := 0x00010114
def genVendorDriverVersion : UInt32 := 0x00010116
def genPhysicalMedium : UInt32 := 0x00010202
def genXmitOk : UInt32 := 0x00020101
def genRcvOk : UInt32 := 0x00020102
def genXmitError : UInt32 := 0x00020103
def genRcvError : UInt32 := 0x00020104
def genRcvNoBuffer : UInt32 := 0x00020105
def ieee8023PermanentAddress : UInt32 := 0x01010101
def ieee8023CurrentAddress : UInt32 := 0x01010102
def ieee8023MulticastList : UInt32 := 0x01010103
def ieee8023MaximumListSize : UInt32 := 0x01010104
def ieee8023MacOptions : UInt32 := 0x01010105
def ieee8023RcvErrorAlignment : UInt32 := 0x01020101
def ieee8023XmitOneCollision : UInt32 := 0x01020102
def ieee8023XmitMoreCollisions : UInt32 := 0x01020103

end Oid

def rndisMajorVersion : UInt32 := 1
def rndisMinorVersion : UInt32 := 0
def rndisDfConnectionless : UInt32 := 1
def rndisMedium8023 : UInt32 := 0
def rndisMaxTotalSize : UInt32 := 1558
def rndisMaxTransferSize : UInt32 := 1580
def rndisMacOptionsSerializedFullDuplex : UInt32 := 0x12
def rndisResponseQueueLimit : Nat := 64

/-- A packed structure at the start of a message, where the message has all of it. -/
def copyMsg {T : Type} (size : Nat) (read : List UInt8 → T) (msg : List UInt8) : Option T :=
  if msg.length < size then none else some (read msg)

/-- The fields that every message begins with. -/
structure RndisMessageHeader where
  messageType : UInt32
  messageLength : UInt32
  requestId : UInt32
  deriving DecidableEq, Repr

def RndisMessageHeader.size : Nat := 12

def RndisMessageHeader.read (msg : List UInt8) : RndisMessageHeader where
  messageType := readLe32 0 msg
  messageLength := readLe32 4 msg
  requestId := readLe32 8 msg

structure RndisInitMsg extends RndisMessageHeader where
  majorVersion : UInt32
  minorVersion : UInt32
  maxTransferSize : UInt32
  deriving DecidableEq, Repr

def RndisInitMsg.size : Nat := 24

def RndisInitMsg.read (msg : List UInt8) : RndisInitMsg where
  toRndisMessageHeader := .read msg
  majorVersion := readLe32 12 msg
  minorVersion := readLe32 16 msg
  maxTransferSize := readLe32 20 msg

/-- `RndisQueryMsg` and `RndisSetMsg`, which have the same fields. -/
structure RndisOidMsg extends RndisMessageHeader where
  oid : UInt32
  informationBufferLength : UInt32
  informationBufferOffset : UInt32
  deviceVcHandle : UInt32
  deriving DecidableEq, Repr

def RndisOidMsg.size : Nat := 28

def RndisOidMsg.read (msg : List UInt8) : RndisOidMsg where
  toRndisMessageHeader := .read msg
  oid := readLe32 12 msg
  informationBufferLength := readLe32 16 msg
  informationBufferOffset := readLe32 20 msg
  deviceVcHandle := readLe32 24 msg

/-- Where the value of a SET begins in its message, a sum of 32 bits. -/
def bufOff (set : RndisOidMsg) : Nat := (8 + set.informationBufferOffset).toNat

/-- The fields of a message for the host, one behind the other. -/
def packed (fields : List UInt32) : List UInt8 := fields.flatMap le32Bytes

def rndisInitCmplt (requestId : UInt32) : List UInt8 :=
  packed [rndisMsg .initComplete, 52, requestId, rndisStatus .success, rndisMajorVersion,
    rndisMinorVersion, rndisDfConnectionless, rndisMedium8023, 1, rndisMaxTransferSize, 0, 0, 0]

def makeIndicate (status : RndisStatus) : List UInt8 :=
  packed [rndisMsg .indicate, 20, rndisStatus status, 0, 0]

/-- The data stand right behind the 24 bytes of the header. -/
def rndisQueryCmplt (requestId : UInt32) (status : RndisStatus) (payload : List UInt8) :
    List UInt8 :=
  packed [rndisMsg .queryComplete, .ofNat (24 + payload.length), requestId, rndisStatus status,
    .ofNat payload.length, 16] ++ payload

def rndisSetCmplt (requestId : UInt32) (status : RndisStatus) : List UInt8 :=
  packed [rndisMsg .setComplete, 16, requestId, rndisStatus status]

def rndisResetCmplt : List UInt8 :=
  packed [rndisMsg .resetComplete, 16, rndisStatus .success, 1]

def rndisKeepaliveCmplt (requestId : UInt32) : List UInt8 :=
  packed [rndisMsg .keepaliveComplete, 16, requestId, rndisStatus .success]

def makeRndisResponseAvailableNotification : List UInt8 := [1, 0, 0, 0, 0, 0, 0, 0]

/-- A command that the host has sent whole, with the structure that its type calls for. -/
inductive RndisCommand where
  | init (init : RndisInitMsg)
  | halt
  | query (query : RndisOidMsg)
  | set (set : RndisOidMsg)
  | reset
  | keepalive (ka : RndisMessageHeader)
  deriving DecidableEq, Repr

/-- The checks of `process_rndis_message` before it does anything; `none` is where the message
is dropped. -/
def parseRndisMessage (msg : List UInt8) : Option RndisCommand :=
  match copyMsg RndisMessageHeader.size RndisMessageHeader.read msg with
  | none => none
  | some hdr =>
      if hdr.messageLength.toNat < RndisMessageHeader.size ∨
          msg.length < hdr.messageLength.toNat then none
      else if hdr.messageType = rndisMsg .init then
        (copyMsg RndisInitMsg.size RndisInitMsg.read msg).map .init
      else if hdr.messageType = rndisMsg .halt then some .halt
      else if hdr.messageType = rndisMsg .query then
        (copyMsg RndisOidMsg.size RndisOidMsg.read msg).map .query
      else if hdr.messageType = rndisMsg .set then
        (copyMsg RndisOidMsg.size RndisOidMsg.read msg).map .set
      else if hdr.messageType = rndisMsg .reset then some .reset
      else if hdr.messageType = rndisMsg .keepalive then
        (copyMsg RndisMessageHeader.size RndisMessageHeader.read msg).map .keepalive
      else none

inductive RndisState where
  | uninitialized
  | initialized
  | dataInitialized
  deriving DecidableEq, Repr

structure RndisCommunicationInterfaceHandler (Handler : Type) where
  responseQueue : List (List UInt8)
  state : RndisState
  packetFilter : UInt16
  macAddress : List.Vector UInt8 6
  linkSpeed100bps : UInt32
  notificationChannel : MessageInChannel Handler

inductive UsbSpeed where
  | unknown
  | low
  | full
  | high
  | wireless
  | super
  | superPlus
  deriving DecidableEq, Repr

namespace RndisCommunicationInterfaceHandler

variable {Handler : Type}

/-- A speed that no rate is known of is reported as zero. -/
def linkSpeed : UsbSpeed → UInt32
  | .full => 97280
  | .high => 4259840
  | .super => 37500000
  | .superPlus => 42500000
  | .unknown | .low | .wireless => 0

/-- The notifications that wait for the host are limited to thirty. -/
def create (macAddress : List.Vector UInt8 6) (speed : UsbSpeed) :
    RndisCommunicationInterfaceHandler Handler where
  responseQueue := []
  state := .uninitialized
  packetFilter := 0
  macAddress := macAddress
  linkSpeed100bps := linkSpeed speed
  notificationChannel :=
    { MessageInChannel.create with
      channel.buffer.maxPending := 30 }

variable (h : RndisCommunicationInterfaceHandler Handler)

def isDataEnabled : Bool := h.state == .dataInitialized

def supportedList : List UInt32 :=
  [Oid.genSupportedList, Oid.genHardwareStatus, Oid.genMediaSupported, Oid.genMediaInUse,
    Oid.genMaximumFrameSize, Oid.genLinkSpeed, Oid.genTransmitBlockSize, Oid.genReceiveBlockSize,
    Oid.genVendorId, Oid.genVendorDescription, Oid.genVendorDriverVersion,
    Oid.genCurrentPacketFilter, Oid.genMaximumTotalSize, Oid.genMediaConnectStatus,
    Oid.genMacOptions, Oid.genPhysicalMedium, Oid.ieee8023PermanentAddress,
    Oid.ieee8023CurrentAddress, Oid.ieee8023MulticastList, Oid.ieee8023MaximumListSize,
    Oid.ieee8023MacOptions]

/-- The data of an object, none where it is not supported. -/
def queryOid (oid : UInt32) : List UInt8 :=
  if oid = Oid.genSupportedList then packed supportedList
  else if oid = Oid.genHardwareStatus then le32Bytes 0
  else if oid = Oid.genMediaSupported ∨ oid = Oid.genMediaInUse then le32Bytes rndisMedium8023
  else if oid = Oid.genMaximumFrameSize then le32Bytes 1500
  else if oid = Oid.genLinkSpeed then le32Bytes h.linkSpeed100bps
  else if oid = Oid.genTransmitBlockSize ∨ oid = Oid.genReceiveBlockSize then le32Bytes 1500
  else if oid = Oid.genVendorId then le32Bytes 0
  else if oid = Oid.genVendorDescription then le32Bytes 0
  else if oid = Oid.genVendorDriverVersion then le32Bytes 1
  else if oid = Oid.genCurrentPacketFilter then le32Bytes h.packetFilter.toUInt32
  else if oid = Oid.genMaximumTotalSize then le32Bytes rndisMaxTotalSize
  else if oid = Oid.genMediaConnectStatus then le32Bytes 0
  else if oid = Oid.genMacOptions then le32Bytes rndisMacOptionsSerializedFullDuplex
  else if oid = Oid.genPhysicalMedium then le32Bytes 0
  else if oid = Oid.genXmitOk ∨ oid = Oid.genRcvOk ∨ oid = Oid.genXmitError ∨
      oid = Oid.genRcvError ∨ oid = Oid.genRcvNoBuffer then le32Bytes 0
  else if oid = Oid.ieee8023PermanentAddress ∨ oid = Oid.ieee8023CurrentAddress then
    h.macAddress.toList
  else if oid = Oid.ieee8023MulticastList then le32Bytes 0xE0000000
  else if oid = Oid.ieee8023MaximumListSize then le32Bytes 1
  else if oid = Oid.ieee8023MacOptions then le32Bytes 0
  else if oid = Oid.ieee8023RcvErrorAlignment ∨ oid = Oid.ieee8023XmitOneCollision ∨
      oid = Oid.ieee8023XmitMoreCollisions then le32Bytes 0
  else []

/-- A full queue loses its oldest response. -/
def enqueueResponse (response : List UInt8) : RndisCommunicationInterfaceHandler Handler :=
  { h with
    responseQueue :=
      (if rndisResponseQueueLimit ≤ h.responseQueue.length then h.responseQueue.tail
        else h.responseQueue) ++ [response]
    notificationChannel :=
      h.notificationChannel.push makeRndisResponseAvailableNotification true }

def resetDeviceState : RndisCommunicationInterfaceHandler Handler :=
  { h with state := .uninitialized, packetFilter := 0, responseQueue := [] }

/-- What a SET does to the state, with the status that it is answered with. -/
def applySet (msg : List UInt8) (set : RndisOidMsg) :
    RndisCommunicationInterfaceHandler Handler × RndisStatus :=
  if set.oid = Oid.genCurrentPacketFilter then
    if msg.length < bufOff set + 4 then (h, .invalidData)
    else
      let packetFilter := (readLe32 (bufOff set) msg).toUInt16
      ({ h with
          packetFilter
          state := if packetFilter ≠ 0 then .dataInitialized else .initialized },
        .success)
  else if set.oid = Oid.ieee8023MulticastList then (h, .success)
  else (h, .notSupported)

def execute (msg : List UInt8) : RndisCommand → RndisCommunicationInterfaceHandler Handler
  | .init init =>
      enqueueResponse
        (enqueueResponse { h with state := .initialized } (rndisInitCmplt init.requestId))
        (makeIndicate .mediaConnect)
  | .halt => h.resetDeviceState
  | .query query =>
      let payload := h.queryOid query.oid
      let status := if payload.isEmpty then .notSupported else .success
      h.enqueueResponse (rndisQueryCmplt query.requestId status payload)
  | .set set =>
      let (h, status) := h.applySet msg set
      h.enqueueResponse (rndisSetCmplt set.requestId status)
  | .reset => enqueueResponse { h with responseQueue := [] } rndisResetCmplt
  | .keepalive ka => h.enqueueResponse (rndisKeepaliveCmplt ka.requestId)

def processRndisMessage (msg : List UInt8) : RndisCommunicationInterfaceHandler Handler :=
  match parseRndisMessage msg with
  | none => h
  | some command => h.execute msg command

def onNewConnection : RndisCommunicationInterfaceHandler Handler :=
  { h.resetDeviceState with
    notificationChannel.channel :=
      h.notificationChannel.channel.onNewConnection MessageInChannel.derived }

def onDisconnection : RndisCommunicationInterfaceHandler Handler :=
  let channel := h.notificationChannel.channel.disconnectBuffer MessageInChannel.derived
  { h with notificationChannel.channel := channel.disconnectRequests }.resetDeviceState

end RndisCommunicationInterfaceHandler

namespace CdcAcmRequest

def sendEncapsulatedCommand : UInt8 := 0x00

def getEncapsulatedResponse : UInt8 := 0x01

end CdcAcmRequest

/-- The class of requests in `bmRequestType`. -/
def requestTypeClass : UInt8 := 0x20

section ControlUrb

variable {Handler : Type}

/-- The message that a control URB brings to the handler, if it brings one. -/
def encapsulatedCommand (urb : ControlUrb Handler) : Option (List UInt8) :=
  if urb.setup.calcRequestType = requestTypeClass ∧
      urb.setup.request = CdcAcmRequest.sendEncapsulatedCommand ∧ urb.setup.isOut = true then
    some urb.trx.data
  else none

namespace RndisCommunicationInterfaceHandler

variable (h : RndisCommunicationInterfaceHandler Handler)

/-- The host takes the oldest response, cut to its buffer. -/
def getEncapsulatedResponse (urb : ControlUrb Handler) :
    UsbIpRetSubmit Handler × RndisCommunicationInterfaceHandler Handler :=
  match h.responseQueue with
  | [] => (.createRetSubmitEpipeWithoutData urb.seqnum 0, h)
  | front :: responseQueue =>
      let trx := { urb.trx with data := front.take urb.transferBufferLength.toNat }
      (.createRetSubmitOkWithNoIso urb.seqnum (.ofNat trx.data.length) (.generic urb.owner trx),
        { h with responseQueue })

def handleNonStandardRequestTypeControlUrb (urb : ControlUrb Handler) :
    UsbIpRetSubmit Handler × RndisCommunicationInterfaceHandler Handler :=
  let setup := urb.setup
  if setup.calcRequestType ≠ requestTypeClass then
    (.createRetSubmitEpipeWithoutData urb.seqnum 0, h)
  else if setup.request = CdcAcmRequest.sendEncapsulatedCommand ∧ setup.isOut = true then
    (.createRetSubmitWithStatusAndNoData urb.seqnum UrbStatusType.statusOK 0,
      h.processRndisMessage urb.trx.data)
  else if setup.request = CdcAcmRequest.getEncapsulatedResponse ∧ setup.isOut = false then
    h.getEncapsulatedResponse urb
  else (.createRetSubmitEpipeWithoutData urb.seqnum 0, h)

@[simp] theorem state_enqueueResponse (response : List UInt8) :
    (h.enqueueResponse response).state = h.state := rfl

@[simp] theorem packetFilter_enqueueResponse (response : List UInt8) :
    (h.enqueueResponse response).packetFilter = h.packetFilter := rfl

theorem getLast?_enqueueResponse (response : List UInt8) :
    (h.enqueueResponse response).responseQueue.getLast? = some response :=
  List.getLast?_concat

end RndisCommunicationInterfaceHandler

theorem copyMsg_eq_some_iff {T : Type} {size : Nat} {read : List UInt8 → T} {msg : List UInt8}
    {t : T} : copyMsg size read msg = some t ↔ size ≤ msg.length ∧ t = read msg := by
  unfold copyMsg
  split <;> simp [eq_comm] <;> omega

end ControlUrb

end Usbipdcpp.VirtualDevice.Rndis
