import Usbipdcpp.Protocol.TransferOperator

namespace Usbipdcpp.Protocol

namespace UrbStatusType

def statusOK : UInt32 := 0

def statusECONNRESET : UInt32 := 0 - 104

def statusEPIPE : UInt32 := 0 - 32

end UrbStatusType

variable {Handler : Type}

structure UsbIpRetSubmit (Handler : Type) where
  header : UsbIpHeaderBasic
  status : UInt32
  actualLength : UInt32
  startFrame : UInt32
  numberOfPackets : UInt32
  errorCount : UInt32
  transfer : Option (TransferHandle Handler)
  deriving DecidableEq, Repr

namespace UsbIpRetSubmit

def createRetSubmit (seqnum status actualLength startFrame numberOfPackets : UInt32)
    (transfer : TransferHandle Handler) : UsbIpRetSubmit Handler where
  header := .getServerHeader usbipRetSubmit seqnum
  status := status
  actualLength := actualLength
  startFrame := startFrame
  numberOfPackets := numberOfPackets
  errorCount := 0
  transfer := some transfer

def createRetSubmitWithStatusAndNoData (seqnum status actualLength : UInt32) :
    UsbIpRetSubmit Handler where
  header := .getServerHeader usbipRetSubmit seqnum
  status := status
  actualLength := actualLength
  startFrame := 0
  numberOfPackets := 0
  errorCount := 0
  transfer := none

def createRetSubmitOkWithoutData (seqnum actualLength : UInt32) : UsbIpRetSubmit Handler :=
  createRetSubmitWithStatusAndNoData seqnum UrbStatusType.statusOK actualLength

def createRetSubmitEpipeWithoutData (seqnum actualLength : UInt32) : UsbIpRetSubmit Handler :=
  createRetSubmitWithStatusAndNoData seqnum UrbStatusType.statusEPIPE actualLength

def createRetSubmitWithStatusAndNoIso (seqnum status actualLength : UInt32)
    (transfer : TransferHandle Handler) : UsbIpRetSubmit Handler :=
  createRetSubmit seqnum status actualLength 0 0 transfer

def createRetSubmitEpipeNoIso (seqnum actualLength : UInt32) (transfer : TransferHandle Handler) :
    UsbIpRetSubmit Handler :=
  createRetSubmitWithStatusAndNoIso seqnum UrbStatusType.statusEPIPE actualLength transfer

def createRetSubmitOkWithNoIso (seqnum actualLength : UInt32) (transfer : TransferHandle Handler) :
    UsbIpRetSubmit Handler :=
  createRetSubmitWithStatusAndNoIso seqnum UrbStatusType.statusOK actualLength transfer

/-- The 48 bytes that every reply starts with. -/
def headerBytes (ret : UsbIpRetSubmit Handler) : List UInt8 :=
  ret.header.toBytes ++ u32ToBytes ret.status ++ u32ToBytes ret.actualLength ++
    u32ToBytes ret.startFrame ++ u32ToBytes ret.numberOfPackets ++ u32ToBytes ret.errorCount ++
    .replicate 8 0

/-- The bytes of a reply; what a transfer to the device has taken is not sent back. -/
def toSocket (storageHandler : Handler → MscBulkOnlyHandler) (ret : UsbIpRetSubmit Handler) :
    List UInt8 :=
  match ret.transfer with
  | none => ret.headerBytes
  | some handle =>
      if ret.actualLength > 0 ∨ ret.numberOfPackets > 0 then
        ret.headerBytes ++ handle.sendTransferData storageHandler
          (if handle.transferIsIn then ret.actualLength.toNat else 0)
      else ret.headerBytes

@[simp] theorem length_headerBytes (ret : UsbIpRetSubmit Handler) :
    ret.headerBytes.length = 48 := by
  simp [headerBytes]

end UsbIpRetSubmit

structure UsbIpRetUnlink where
  header : UsbIpHeaderBasic
  status : UInt32
  deriving DecidableEq, Repr

def UsbIpRetUnlink.createRetUnlink (seqnum status : UInt32) : UsbIpRetUnlink where
  header := .getServerHeader usbipRetUnlink seqnum
  status := status

end Usbipdcpp.Protocol
