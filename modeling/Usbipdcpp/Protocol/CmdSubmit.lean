import Usbipdcpp.Protocol.TransferOperator

namespace Usbipdcpp.Protocol

open Foundation.ByteStream

/-- The part of a submit command that is read before its transfer is allocated. -/
structure CmdSubmitFields where
  header : UsbIpHeaderBasic
  transferFlags : UInt32
  transferBufferLength : UInt32
  startFrame : UInt32
  numberOfPackets : UInt32
  interval : UInt32
  setup : SetupPacket
  deriving DecidableEq, Repr

structure UsbIpCmdSubmit (Handler : Type) extends CmdSubmitFields where
  transfer : TransferHandle Handler
  deriving DecidableEq, Repr

structure UsbIpCmdUnlink where
  header : UsbIpHeaderBasic
  unlinkSeqnum : UInt32
  deriving DecidableEq, Repr

inductive CmdVariant (Handler : Type) where
  | submit (cmd : UsbIpCmdSubmit Handler)
  | unlink (cmd : UsbIpCmdUnlink)
  deriving DecidableEq, Repr

variable {Handler : Type}

/-- The endpoint address that `from_socket` restores: the direction bit is set for
`UsbIpDirection::In` only. -/
def UsbIpHeaderBasic.realEp (header : UsbIpHeaderBasic) : UInt8 :=
  if header.direction == UsbIpDirection.in_ then header.ep.toUInt8 ||| 0x80
  else header.ep.toUInt8

namespace CmdSubmitFields

def fromSocket : Reader CmdSubmitFields := do
  let header ← UsbIpHeaderBasic.fromSocket usbipCmdSubmit
  let transferFlags ← readU32
  let transferBufferLength ← readU32
  let startFrame ← readU32
  let numberOfPackets ← readU32
  let interval ← readU32
  let setup ← SetupPacket.parse
  return { header, transferFlags, transferBufferLength, startFrame, numberOfPackets, interval,
           setup }

/-- The bytes that follow the command word. -/
def toBytes (fields : CmdSubmitFields) : List UInt8 :=
  u32ToBytes fields.header.seqnum ++ u32ToBytes fields.header.devid ++
    u32ToBytes fields.header.direction ++ u32ToBytes fields.header.ep ++
    u32ToBytes fields.transferFlags ++ u32ToBytes fields.transferBufferLength ++
    u32ToBytes fields.startFrame ++ u32ToBytes fields.numberOfPackets ++
    u32ToBytes fields.interval ++ fields.setup.toBytes

def numIso (fields : CmdSubmitFields) : Nat :=
  if fields.numberOfPackets ≠ 0 ∧ fields.numberOfPackets ≠ nonIsoPackets then
    fields.numberOfPackets.toNat
  else 0

/-- The length of the data stage that the client sends. -/
def dataLength (fields : CmdSubmitFields) : Nat :=
  if fields.header.direction == UsbIpDirection.in_ then 0 else fields.transferBufferLength.toNat

/-- The length of a whole submit command: the header, the data stage and the descriptors. -/
def wireLength (fields : CmdSubmitFields) : Nat :=
  48 + fields.dataLength + 16 * fields.numIso

def check (fields : CmdSubmitFields) : Reader Unit := do
  failIf (fields.header.ep > 0x7F) .protocolError
  failIf (fields.transferBufferLength > maxTransferBufferSize) .noBufferSpace
  failIf (fields.numberOfPackets != nonIsoPackets && fields.numberOfPackets > maxIsoPackets)
    .noBufferSpace

/-- The checks that a command passes before its transfer is allocated. -/
def Acceptable (fields : CmdSubmitFields) : Prop :=
  fields.header.ep ≤ 0x7F ∧ fields.transferBufferLength ≤ maxTransferBufferSize ∧
    (fields.numberOfPackets = nonIsoPackets ∨ fields.numberOfPackets ≤ maxIsoPackets)

instance (fields : CmdSubmitFields) : Decidable fields.Acceptable :=
  inferInstanceAs (Decidable (_ ∧ _ ∧ _))

def allocTransferHandle (ctx : ReceiveContext Handler) (fields : CmdSubmitFields) :
    Option (TransferHandle Handler) :=
  (ctx.routingOp.getOperatorForEp fields.header.realEp).allocTransferHandle ctx
    fields.transferBufferLength.toNat fields.numIso fields.header

/-- The transfer of an accepted command, allocated and filled by the endpoint's operator. -/
def recvTransfer (ctx : ReceiveContext Handler) (fields : CmdSubmitFields) :
    Reader (TransferHandle Handler) :=
  match fields.allocTransferHandle ctx with
  | none => fail .noBufferSpace
  | some handle => handle.recvTransferData ctx fields.dataLength

theorem recvTransfer_eq_ok_iff {ctx : ReceiveContext Handler} {fields : CmdSubmitFields}
    {s rest : List UInt8} {transfer : TransferHandle Handler} :
    fields.recvTransfer ctx s = .ok (transfer, rest) ↔
      ∃ handle, fields.allocTransferHandle ctx = some handle ∧
        handle.recvTransferData ctx fields.dataLength s = .ok (transfer, rest) := by
  unfold recvTransfer
  rcases fields.allocTransferHandle ctx with _ | handle <;> simp [fail]

theorem check_eq_ok_iff {fields : CmdSubmitFields} {s rest : List UInt8} {u : Unit} :
    fields.check s = .ok (u, rest) ↔ fields.Acceptable ∧ rest = s := by
  have hpackets : (fields.numberOfPackets != nonIsoPackets &&
      decide (fields.numberOfPackets > maxIsoPackets)) = false ↔
        fields.numberOfPackets = nonIsoPackets ∨ fields.numberOfPackets ≤ maxIsoPackets := by
    simp only [Bool.and_eq_false_iff, bne_eq_false_iff_eq, decide_eq_false_iff_not,
      UInt32.not_lt, gt_iff_lt]
  simp only [check, bind_eq_ok_iff, failIf_eq_ok_iff, hpackets, decide_eq_false_iff_not, gt_iff_lt,
    UInt32.not_lt, Acceptable]
  constructor
  · rintro ⟨-, mid, ⟨hep, rfl⟩, -, mid', ⟨hlength, rfl⟩, hiso, rfl⟩
    exact ⟨⟨hep, hlength, hiso⟩, rfl⟩
  · rintro ⟨⟨hep, hlength, hiso⟩, rfl⟩
    exact ⟨(), rest, ⟨hep, rfl⟩, (), rest, ⟨hlength, rfl⟩, hiso, rfl⟩

theorem consumes_fromSocket : Consumes fromSocket fun _ => 44 :=
  consumes_bind (UsbIpHeaderBasic.consumes_fromSocket _) fun _ =>
    consumes_bind consumes_readU32 fun _ => consumes_bind consumes_readU32 fun _ =>
      consumes_bind consumes_readU32 fun _ => consumes_bind consumes_readU32 fun _ =>
        consumes_bind consumes_readU32 fun _ =>
          consumes_bind SetupPacket.consumes_parse fun _ => consumes_pure _

theorem decodes_fromSocket {fields : CmdSubmitFields}
    (hcommand : fields.header.command = usbipCmdSubmit) :
    Decodes fromSocket fields.toBytes fields := by
  have hheader := UsbIpHeaderBasic.decodes_fromSocket fields.header
  rw [hcommand] at hheader
  exact decodes_of_bytes_eq (by simp [toBytes]) <|
    decodes_bind hheader <|
      decodes_bind (decodes_readU32 fields.transferFlags) <|
        decodes_bind (decodes_readU32 fields.transferBufferLength) <|
          decodes_bind (decodes_readU32 fields.startFrame) <|
            decodes_bind (decodes_readU32 fields.numberOfPackets) <|
              decodes_bind (decodes_readU32 fields.interval) <|
                decodes_bind (SetupPacket.decodes_parse fields.setup) <| decodes_pure fields

end CmdSubmitFields

namespace UsbIpCmdSubmit

def fromSocket (ctx : ReceiveContext Handler) : Reader (UsbIpCmdSubmit Handler) := do
  let fields ← CmdSubmitFields.fromSocket
  fields.check
  let transfer ← fields.recvTransfer ctx
  return { fields with transfer }

/-- What a submit command that is accepted has passed, and how its transfer came about. -/
theorem fromSocket_eq_ok_iff {ctx : ReceiveContext Handler} {s rest : List UInt8}
    {cmd : UsbIpCmdSubmit Handler} :
    fromSocket ctx s = .ok (cmd, rest) ↔
      ∃ mid handle, CmdSubmitFields.fromSocket s = .ok (cmd.toCmdSubmitFields, mid) ∧
        cmd.toCmdSubmitFields.Acceptable ∧
        cmd.toCmdSubmitFields.allocTransferHandle ctx = some handle ∧
        handle.recvTransferData ctx cmd.dataLength mid = .ok (cmd.transfer, rest) := by
  constructor
  · intro h
    obtain ⟨fields, mid, hfields, hafter⟩ := bind_eq_ok_iff.mp h
    obtain ⟨u, mid', hcheck, hchecked⟩ := bind_eq_ok_iff.mp hafter
    obtain ⟨hacceptable, rfl⟩ := CmdSubmitFields.check_eq_ok_iff.mp hcheck
    obtain ⟨transfer, left, hrecv, hpure⟩ := bind_eq_ok_iff.mp hchecked
    obtain ⟨handle, halloc, hrecv⟩ := CmdSubmitFields.recvTransfer_eq_ok_iff.mp hrecv
    cases hpure
    exact ⟨mid', handle, hfields, hacceptable, halloc, hrecv⟩
  · rintro ⟨mid, handle, hfields, hacceptable, halloc, hrecv⟩
    have hcheck : cmd.toCmdSubmitFields.check mid = .ok ((), mid) :=
      CmdSubmitFields.check_eq_ok_iff.mpr ⟨hacceptable, rfl⟩
    have htransfer : cmd.toCmdSubmitFields.recvTransfer ctx mid = .ok (cmd.transfer, rest) :=
      CmdSubmitFields.recvTransfer_eq_ok_iff.mpr ⟨handle, halloc, hrecv⟩
    refine bind_eq_ok_iff.mpr ⟨_, mid, hfields, ?_⟩
    refine bind_eq_ok_iff.mpr ⟨(), mid, hcheck, ?_⟩
    exact bind_eq_ok_iff.mpr ⟨cmd.transfer, rest, htransfer, rfl⟩

end UsbIpCmdSubmit

namespace UsbIpCmdUnlink

def fromSocket : Reader UsbIpCmdUnlink := do
  let header ← UsbIpHeaderBasic.fromSocket usbipCmdUnlink
  let unlinkSeqnum ← readU32
  let _padding ← readBytes .eof 24
  return { header, unlinkSeqnum }

/-- The bytes that follow the command word. -/
def toBytes (cmd : UsbIpCmdUnlink) : List UInt8 :=
  u32ToBytes cmd.header.seqnum ++ u32ToBytes cmd.header.devid ++
    u32ToBytes cmd.header.direction ++ u32ToBytes cmd.header.ep ++
    u32ToBytes cmd.unlinkSeqnum ++ .replicate 24 0

theorem decodes_fromSocket {cmd : UsbIpCmdUnlink} (hcommand : cmd.header.command = usbipCmdUnlink) :
    Decodes fromSocket cmd.toBytes cmd := by
  have hheader := UsbIpHeaderBasic.decodes_fromSocket cmd.header
  rw [hcommand] at hheader
  have hpadding : Decodes (readBytes SocketError.eof 24) (.replicate 24 0) (.replicate 24 0) :=
    decodes_readBytes SocketError.eof (.replicate 24 0)
  exact decodes_of_bytes_eq (by simp [toBytes]) <|
    decodes_bind hheader <|
      decodes_bind (decodes_readU32 cmd.unlinkSeqnum) <|
        decodes_bind hpadding <| decodes_pure cmd

end UsbIpCmdUnlink

/-- The command word and the packet it announces; `none` where it announces none. -/
def readCmd (ctx : ReceiveContext Handler) : Reader (Option (CmdVariant Handler)) := do
  let command ← readU32
  if command = usbipCmdSubmit then do
    let cmd ← UsbIpCmdSubmit.fromSocket ctx
    return some (.submit cmd)
  else if command = usbipCmdUnlink then do
    let cmd ← UsbIpCmdUnlink.fromSocket
    return some (.unlink cmd)
  else return none

def getCmdFromSocket (ctx : ReceiveContext Handler) : ByteReader ErrorType (CmdVariant Handler) :=
  fun s =>
    match readCmd ctx s with
    | .ok (some cmd, rest) => .ok (cmd, rest)
    | .ok (none, _) => .error .unknownCmd
    | .error .eof => .error .socketEof
    | .error _ => .error .socketErr

theorem getCmdFromSocket_eq_ok_iff {ctx : ReceiveContext Handler} {s rest : List UInt8}
    {cmd : CmdVariant Handler} :
    getCmdFromSocket ctx s = .ok (cmd, rest) ↔ readCmd ctx s = .ok (some cmd, rest) := by
  unfold getCmdFromSocket
  split <;> simp_all

/-- A submit command is accepted where the command word announces one and `from_socket`
accepts the rest. -/
theorem getCmdFromSocket_submit_iff {ctx : ReceiveContext Handler} {s rest : List UInt8}
    {cmd : UsbIpCmdSubmit Handler} :
    getCmdFromSocket ctx s = .ok (.submit cmd, rest) ↔
      ∃ mid, readU32 s = .ok (usbipCmdSubmit, mid) ∧
        UsbIpCmdSubmit.fromSocket ctx mid = .ok (cmd, rest) := by
  rw [getCmdFromSocket_eq_ok_iff]
  constructor
  · intro h
    obtain ⟨command, mid, hcommand, hpacket⟩ := bind_eq_ok_iff.mp h
    split at hpacket
    next hsubmit =>
      obtain ⟨cmd', left, hcmd, hpure⟩ := bind_eq_ok_iff.mp hpacket
      cases hpure
      exact ⟨mid, hsubmit ▸ hcommand, hcmd⟩
    next =>
      split at hpacket
      · obtain ⟨cmd', left, -, hpure⟩ := bind_eq_ok_iff.mp hpacket
        cases hpure
      · cases hpacket
  · rintro ⟨mid, hcommand, hcmd⟩
    refine bind_eq_ok_iff.mpr ⟨usbipCmdSubmit, mid, hcommand, ?_⟩
    rw [if_pos rfl]
    exact bind_eq_ok_iff.mpr ⟨cmd, rest, hcmd, rfl⟩

section Accepted

variable {ctx : ReceiveContext Handler} {s rest : List UInt8} {cmd : UsbIpCmdSubmit Handler}

theorem acceptable_of_getCmdFromSocket (h : getCmdFromSocket ctx s = .ok (.submit cmd, rest)) :
    cmd.toCmdSubmitFields.Acceptable := by
  obtain ⟨mid, -, hsubmit⟩ := getCmdFromSocket_submit_iff.mp h
  obtain ⟨mid', handle, -, hacceptable, -⟩ := UsbIpCmdSubmit.fromSocket_eq_ok_iff.mp hsubmit
  exact hacceptable

/-- The transfer of an accepted command has the packets that the client announces. -/
theorem hasPackets_of_getCmdFromSocket (h : getCmdFromSocket ctx s = .ok (.submit cmd, rest)) :
    cmd.transfer.HasPackets cmd.numIso := by
  obtain ⟨mid, -, hsubmit⟩ := getCmdFromSocket_submit_iff.mp h
  obtain ⟨mid', handle, -, -, halloc, hrecv⟩ := UsbIpCmdSubmit.fromSocket_eq_ok_iff.mp hsubmit
  exact hasPackets_of_recvTransferData (hasPackets_of_allocTransferHandle halloc) hrecv

/-- The packets of an accepted libusb transfer take up no more than its buffer. -/
theorem slotBytes_of_getCmdFromSocket (h : getCmdFromSocket ctx s = .ok (.submit cmd, rest))
    {trx : LibusbTransfer} (htransfer : cmd.transfer = .libusb trx) :
    LibusbTransferOperator.slotBytes trx.isoPacketDesc ≤
      cmd.transferBufferLength.toNat + LibusbTransferOperator.controlSetupSize := by
  obtain ⟨mid, -, hsubmit⟩ := getCmdFromSocket_submit_iff.mp h
  obtain ⟨mid', handle, -, -, halloc, hrecv⟩ := UsbIpCmdSubmit.fromSocket_eq_ok_iff.mp hsubmit
  have hop := getOperator_of_allocTransferHandle halloc
  rw [← getOperator_of_recvTransferData hrecv, htransfer] at hop
  rw [CmdSubmitFields.allocTransferHandle, ← hop] at halloc
  obtain ⟨-, rfl⟩ := allocTransferHandle_libusb_eq_some_iff.mp halloc
  obtain ⟨trx', left, hreceived, hpure⟩ := bind_eq_ok_iff.mp hrecv
  rw [htransfer] at hpure
  cases hpure
  apply (LibusbTransferOperator.slotBytes_of_recvTransferData hreceived).2.trans
  unfold LibusbTransferOperator.allocTransferHandle
  dsimp only
  split <;> omega

/-- The storage transfer of an accepted command that is not to the device goes through the
process's memory until a handler decides otherwise. -/
theorem directIo_of_getCmdFromSocket (h : getCmdFromSocket ctx s = .ok (.submit cmd, rest))
    (hdirection : (cmd.header.direction == UsbIpDirection.out) = false) {handler : Handler}
    {trx : StorageIoTransfer} (htransfer : cmd.transfer = .storage handler trx) :
    trx.directIo = false := by
  obtain ⟨mid, -, hsubmit⟩ := getCmdFromSocket_submit_iff.mp h
  obtain ⟨mid', handle, -, -, halloc, hrecv⟩ := UsbIpCmdSubmit.fromSocket_eq_ok_iff.mp hsubmit
  have hop := getOperator_of_allocTransferHandle halloc
  rw [← getOperator_of_recvTransferData hrecv, htransfer] at hop
  rw [CmdSubmitFields.allocTransferHandle, ← hop] at halloc
  cases halloc
  obtain ⟨trx', left, hreceived, hpure⟩ := bind_eq_ok_iff.mp hrecv
  rw [htransfer] at hpure
  cases hpure
  exact (StorageTransferOperator.directIo_of_recvTransferData hreceived).trans
    (StorageTransferOperator.directIo_of_allocTransferHandle _ _ hdirection)

theorem numIso_le_of_acceptable {fields : CmdSubmitFields} (h : fields.Acceptable) :
    fields.numIso ≤ 1024 := by
  obtain ⟨-, -, hpackets⟩ := h
  unfold CmdSubmitFields.numIso
  split
  next hiso =>
    rcases hpackets with hnone | hle
    · exact absurd hnone hiso.2
    · exact UInt32.le_iff_toNat_le.mp hle
  next => exact Nat.zero_le _

end Accepted

theorem decodes_getCmdFromSocket_unlink (ctx : ReceiveContext Handler) {cmd : UsbIpCmdUnlink}
    (hcommand : cmd.header.command = usbipCmdUnlink) :
    Decodes (getCmdFromSocket ctx) (u32ToBytes usbipCmdUnlink ++ cmd.toBytes) (.unlink cmd) := by
  intro rest
  apply getCmdFromSocket_eq_ok_iff.mpr
  rw [List.append_assoc]
  refine bind_eq_ok_iff.mpr ⟨usbipCmdUnlink, _, decodes_readU32 _ _, ?_⟩
  rw [if_neg (by decide), if_pos rfl]
  exact bind_eq_ok_iff.mpr ⟨cmd, rest, UsbIpCmdUnlink.decodes_fromSocket hcommand rest, rfl⟩

end Usbipdcpp.Protocol
