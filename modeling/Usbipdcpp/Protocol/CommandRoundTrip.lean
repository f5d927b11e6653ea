import Usbipdcpp.Protocol.CommandFraming

namespace Usbipdcpp.Protocol

open Foundation.ByteStream

variable {Handler : Type}

namespace GenericTransferOperator

/-- The part of a buffer that a descriptor points to. -/
def packetData (data : List UInt8) (iso : UsbIpIsoPacketDescriptor) : List UInt8 :=
  bytesAt data iso.offset.toNat iso.actualLength.toNat

/-- The bytes that `send_transfer_data` sends before the descriptors. -/
def sentPayload (trx : GenericTransfer) (length : Nat) : List UInt8 :=
  if trx.isoDescriptors = [] then bytesAt trx.data trx.dataOffset length
  else if 0 < length then trx.isoDescriptors.flatMap (packetData trx.data)
  else []

/-- They are bytes of the transfer's own buffer. -/
def Within (trx : GenericTransfer) (length : Nat) : Prop :=
  0 < length →
    if trx.isoDescriptors = [] then trx.dataOffset + length ≤ trx.data.length
    else ∀ iso ∈ trx.isoDescriptors, iso.offset.toNat + iso.actualLength.toNat ≤ trx.data.length

theorem sendTransferData_eq (trx : GenericTransfer) (length : Nat) :
    sendTransferData trx length = sentPayload trx length ++
      trx.isoDescriptors.flatMap UsbIpIsoPacketDescriptor.toBytes := by
  unfold sendTransferData sentPayload
  split
  next hnone => rw [hnone, List.flatMap_nil, List.append_nil]
  next => rfl

end GenericTransferOperator

theorem sentPayload_zero (trx : GenericTransfer) :
    GenericTransferOperator.sentPayload trx 0 = [] := by
  unfold GenericTransferOperator.sentPayload
  split
  · rfl
  · rfl

namespace UsbIpCmdSubmit

def toSocket (storageHandler : Handler → MscBulkOnlyHandler) (cmd : UsbIpCmdSubmit Handler) :
    List UInt8 :=
  cmd.header.toBytes ++ u32ToBytes cmd.transferFlags ++ u32ToBytes cmd.transferBufferLength ++
    u32ToBytes cmd.startFrame ++ u32ToBytes cmd.numberOfPackets ++ u32ToBytes cmd.interval ++
    cmd.setup.toBytes ++
    cmd.transfer.sendTransferData storageHandler
      (if cmd.transfer.transferIsIn then 0 else cmd.transferBufferLength.toNat)

/-- The direction as `from_socket` judges it. -/
def isIn (cmd : CmdSubmitFields) : Bool := cmd.header.direction == UsbIpDirection.in_

variable {ctx : ReceiveContext Handler} {cmd : CmdSubmitFields} {owner : Option Handler}
  {trx : GenericTransfer}

/-- The payload of a command with its transfer, and the one that the other side reads. -/
def payload (cmd : CmdSubmitFields) (trx : GenericTransfer) : List UInt8 :=
  GenericTransferOperator.sentPayload trx
    (if trx.isIn then 0 else cmd.transferBufferLength.toNat)

def expected (cmd : CmdSubmitFields) (trx : GenericTransfer) : List UInt8 :=
  if isIn cmd then [] else trx.data

theorem toSocket_eq :
    toSocket ctx.storageHandler { cmd with transfer := .generic owner trx } =
      u32ToBytes cmd.header.command ++ (cmd.toBytes ++ (payload cmd trx ++
        trx.isoDescriptors.flatMap UsbIpIsoPacketDescriptor.toBytes)) := by
  rw [payload, ← GenericTransferOperator.sendTransferData_eq]
  simp only [toSocket, CmdSubmitFields.toBytes, UsbIpHeaderBasic.toBytes, List.append_assoc]
  rfl

/-- The transfer that the other side ends with. -/
def received (cmd : CmdSubmitFields) (trx : GenericTransfer) : GenericTransfer where
  data := storeAt (.replicate cmd.transferBufferLength.toNat 0) 0 (expected cmd trx)
  isoDescriptors := trx.isoDescriptors
  actualLength := 0
  dataOffset := 0
  isIn := isIn cmd

end UsbIpCmdSubmit

end Usbipdcpp.Protocol
