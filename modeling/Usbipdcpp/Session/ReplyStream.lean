import Usbipdcpp.LibusbHandler.TransferCallback
import Usbipdcpp.VirtualDevice.EndpointRouting
import Usbipdcpp.VirtualDevice.IsochronousReplies
import Usbipdcpp.VirtualDevice.MscBulkIn

namespace Usbipdcpp.Session

open Protocol VirtualDevice LibusbHandler

variable {Handler : Type}

/-- The code that answers a command with its transfer, with what it finds when it does.  The
control replies of a virtual device and those of its message and byte channels announce no
packets and differ only in what they put into the transfer. -/
inductive ReplySite where
  | noIso (status actualLength : UInt32) (data : List UInt8) (dataOffset : Nat)
  | uvc (handler : UvcVideoStreamingHandler) (now : Int) (getFrame : Option (List UInt8))
  | uacSource (handler : UacAudioStreamingSourceHandler)
      (applyVolume : List UInt8 → List UInt8)
  | uacSink (handler : UacAudioStreamingSinkHandler) (applyVolume : List UInt8 → List UInt8)
  | mscBulk (handler : MscBulkInHandler)
  | transferCallback (ep : UsbEndpoint) (hasInterface tweaked : Bool)
      (clientDisconnection unlinking : Bool) (complete : ∀ trx, LibusbCompletion trx)

namespace ReplySite

/-- The endpoint to which the receiver passes a command is one to the host. -/
def epIsIn (header : UsbIpHeaderBasic) : Bool := receiverEp header &&& 0x80 != 0

/-- The reply to a command; `none` where the transfer is not the site's, or no reply comes of
it. -/
def reply (cmd : UsbIpCmdSubmit Handler) (site : ReplySite) : Option (UsbIpRetSubmit Handler) :=
  let seqnum := cmd.header.seqnum
  match site, cmd.transfer with
  | .noIso status actualLength data dataOffset, .generic owner trx =>
      some (.createRetSubmitWithStatusAndNoIso seqnum status actualLength
        (.generic owner { trx with data, dataOffset, actualLength := actualLength.toNat }))
  | .uvc handler now getFrame, .generic owner trx =>
      some (handler.handleIsochronousTransfer seqnum owner trx cmd.numIso now getFrame).2
  | .uacSource handler applyVolume, .generic owner trx =>
      some (handler.handleIsochronousTransfer seqnum owner trx cmd.numIso applyVolume).2
  | .uacSink handler applyVolume, .generic owner trx =>
      some (handler.handleIsochronousTransfer seqnum owner trx applyVolume).2
  | .mscBulk handler, .storage owner trx =>
      some (handler.handleBulkTransfer owner (epIsIn cmd.header) seqnum cmd.transferBufferLength
        trx).2
  | .transferCallback ep hasInterface tweaked clientDisconnection unlinking complete,
      .libusb trx =>
      match receiveUrb cmd.toCmdSubmitFields trx ep hasInterface tweaked with
      | none => none
      | some args =>
          LibusbHandler.transferCallback args clientDisconnection unlinking
            (complete args.trx).transfer
  | _, _ => none

/-- What a reply with its transfer needs to be as long as the client takes it to be. -/
def KeepsFraming (storageHandler : Handler → MscBulkOnlyHandler) (cmd : UsbIpCmdSubmit Handler)
    (site : ReplySite) : Prop :=
  match site, cmd.transfer with
  | .noIso _ actualLength _ _, .generic _ trx =>
      actualLength = 0 ∨ cmd.numIso = 0 ∨
        trx.isIn = true ∧ packetBytes trx.isoDescriptors + 16 * cmd.numIso = actualLength.toNat
  | .uvc handler now getFrame, .generic _ trx =>
      ∀ packets ∈ (handler.fillPackets trx cmd.numIso now getFrame).2,
        AccountsForData trx packets.written
  | .uacSource handler applyVolume, .generic _ trx =>
      ∀ packets ∈ (handler.fillPackets trx cmd.numIso applyVolume).2,
        AccountsForData trx packets.written
  | .uacSink handler applyVolume, .generic _ trx =>
      ∀ packets ∈ (handler.fillPackets trx applyVolume).2, AccountsForData trx packets.written
  | .mscBulk handler, .storage owner trx =>
      handler.SendsMappedWhole (storageHandler owner) (epIsIn cmd.header)
        cmd.transferBufferLength trx
  | .transferCallback ep hasInterface tweaked _ _ _, .libusb trx =>
      ∀ args ∈ receiveUrb cmd.toCmdSubmitFields trx ep hasInterface tweaked,
        args.isOut = true ∨ args.trx.type = .isochronous ∨ cmd.numIso = 0
  | _, _ => True

end ReplySite

/-- A reply on its way out: the command that was accepted, the code that has answered it, and
the storage handlers that the sender finds. -/
structure SubmittedReply (Handler : Type) where
  ctx : ReceiveContext Handler
  stream : List UInt8
  rest : List UInt8
  cmd : UsbIpCmdSubmit Handler
  accepted : getCmdFromSocket ctx stream = .ok (.submit cmd, rest)
  site : ReplySite
  ret : UsbIpRetSubmit Handler
  submits : site.reply cmd = some ret
  storageHandler : Handler → MscBulkOnlyHandler

namespace SubmittedReply

def toSocket (reply : SubmittedReply Handler) : List UInt8 :=
  reply.ret.toSocket reply.storageHandler

def Framed (reply : SubmittedReply Handler) : Prop :=
  reply.ret.Framed reply.storageHandler

def KeepsFraming (reply : SubmittedReply Handler) : Prop :=
  reply.site.KeepsFraming reply.storageHandler reply.cmd

end SubmittedReply

theorem direction_of_epIsIn {header : UsbIpHeaderBasic} (hep : header.ep ≤ 0x7F)
    (hin : ReplySite.epIsIn header = true) :
    (header.direction == UsbIpDirection.out) = false := by
  by_contra hout
  rw [Bool.not_eq_false] at hout
  have hbit : ∀ n < 128, n % 256 &&& 128 = 0 := by decide
  have hzero : header.ep.toUInt8 &&& 0x80 = 0 := by
    apply UInt8.toNat.inj
    rw [UInt8.toNat_and, UInt32.toNat_toUInt8]
    exact hbit _ (Nat.lt_succ_of_le (UInt32.le_iff_toNat_le.mp hep))
  simp [ReplySite.epIsIn, receiverEp, hout, hzero] at hin

section Sites

variable {ctx : ReceiveContext Handler} {stream rest : List UInt8} {cmd : UsbIpCmdSubmit Handler}
  {site : ReplySite} {ret : UsbIpRetSubmit Handler}
  {storageHandler : Handler → MscBulkOnlyHandler}

theorem framed_iff_of_generic (haccepted : getCmdFromSocket ctx stream = .ok (.submit cmd, rest))
    (hsubmits : site.reply cmd = some ret) {owner : Option Handler} {trx : GenericTransfer}
    (htransfer : cmd.transfer = .generic owner trx) :
    ret.Framed storageHandler ↔ site.KeepsFraming storageHandler cmd := by
  have hcount := numIso_le_of_acceptable (acceptable_of_getCmdFromSocket haccepted)
  have hpackets := hasPackets_of_getCmdFromSocket haccepted
  rw [htransfer] at hpackets
  change trx.isoDescriptors.length = cmd.numIso at hpackets
  cases site with
  | noIso status actualLength data dataOffset =>
      simp only [ReplySite.reply, htransfer, Option.some.injEq] at hsubmits
      simp only [ReplySite.KeepsFraming, htransfer]
      rw [← hsubmits, UsbIpRetSubmit.framed_no_iso_generic_iff, ← hpackets,
        List.length_eq_zero_iff]
  | uvc handler now getFrame =>
      simp only [ReplySite.reply, htransfer, Option.some.injEq] at hsubmits
      simp only [ReplySite.KeepsFraming, htransfer]
      rw [← hsubmits]
      exact framed_replyPackets_iff (by omega) fun _ h =>
        UvcVideoStreamingHandler.length_written_fillPackets_le _ _ h
  | uacSource handler applyVolume =>
      simp only [ReplySite.reply, htransfer, Option.some.injEq] at hsubmits
      simp only [ReplySite.KeepsFraming, htransfer]
      rw [← hsubmits]
      exact framed_replyPackets_iff (by omega) fun _ h =>
        UacAudioStreamingSourceHandler.length_written_fillPackets_le _ _ _ h
  | uacSink handler applyVolume =>
      simp only [ReplySite.reply, htransfer, Option.some.injEq] at hsubmits
      simp only [ReplySite.KeepsFraming, htransfer]
      rw [← hsubmits]
      exact framed_replyPackets_iff (by omega) fun _ h =>
        UacAudioStreamingSinkHandler.length_written_fillPackets_le _ _ h
  | mscBulk handler => simp [ReplySite.reply, htransfer] at hsubmits
  | transferCallback ep hasInterface tweaked clientDisconnection unlinking complete =>
      simp [ReplySite.reply, htransfer] at hsubmits

theorem framed_iff_of_libusb (haccepted : getCmdFromSocket ctx stream = .ok (.submit cmd, rest))
    (hsubmits : site.reply cmd = some ret) {trx : LibusbTransfer}
    (htransfer : cmd.transfer = .libusb trx) :
    ret.Framed storageHandler ↔ site.KeepsFraming storageHandler cmd := by
  have hacceptable := acceptable_of_getCmdFromSocket haccepted
  have hcount := numIso_le_of_acceptable hacceptable
  have hpackets := hasPackets_of_getCmdFromSocket haccepted
  rw [htransfer] at hpackets
  change trx.isoPacketDesc.length = cmd.numIso at hpackets
  have hroom : LibusbTransferOperator.slotBytes trx.isoPacketDesc < 2 ^ 32 := by
    have hslots := slotBytes_of_getCmdFromSocket haccepted htransfer
    have hlength : cmd.transferBufferLength.toNat ≤ 16 * 1024 * 1024 :=
      UInt32.le_iff_toNat_le.mp hacceptable.2.1
    have hsetup : LibusbTransferOperator.controlSetupSize = 8 := rfl
    omega
  cases site with
  | transferCallback ep hasInterface tweaked clientDisconnection unlinking complete =>
      simp only [ReplySite.reply, htransfer] at hsubmits
      simp only [ReplySite.KeepsFraming, htransfer]
      rcases hargs : receiveUrb cmd.toCmdSubmitFields trx ep hasInterface tweaked with _ | args
      · simp [hargs] at hsubmits
      · simp only [hargs] at hsubmits
        obtain ⟨-, rfl⟩ := transferCallback_eq_some hsubmits
        rw [framed_retSubmit_iff hargs (complete args.trx) hroom (by omega), ← hpackets,
          List.length_eq_zero_iff]
        simp
  | noIso | uvc | uacSource | uacSink | mscBulk =>
      simp [ReplySite.reply, htransfer] at hsubmits

theorem framed_iff_of_storage (haccepted : getCmdFromSocket ctx stream = .ok (.submit cmd, rest))
    (hsubmits : site.reply cmd = some ret) {owner : Handler} {trx : StorageIoTransfer}
    (htransfer : cmd.transfer = .storage owner trx) :
    ret.Framed storageHandler ↔ site.KeepsFraming storageHandler cmd := by
  cases site with
  | mscBulk handler =>
      simp only [ReplySite.reply, htransfer, Option.some.injEq] at hsubmits
      simp only [ReplySite.KeepsFraming, htransfer]
      rw [← hsubmits]
      refine MscBulkInHandler.framed_handleBulkTransfer_iff fun hin => ?_
      have hep := (acceptable_of_getCmdFromSocket haccepted).1
      exact directIo_of_getCmdFromSocket haccepted (direction_of_epIsIn hep hin) htransfer
  | noIso | uvc | uacSource | uacSink | transferCallback =>
      simp [ReplySite.reply, htransfer] at hsubmits

end Sites

/-- A reply ends where the client takes it to end just where its site keeps it so. -/
theorem framed_iff_keepsFraming (reply : SubmittedReply Handler) :
    reply.Framed ↔ reply.KeepsFraming := by
  rcases htransfer : reply.cmd.transfer with ⟨owner, trx⟩ | ⟨trx⟩ | ⟨owner, trx⟩
  · exact framed_iff_of_generic reply.accepted reply.submits htransfer
  · exact framed_iff_of_libusb reply.accepted reply.submits htransfer
  · exact framed_iff_of_storage reply.accepted reply.submits htransfer

/-- What is sent lies where it is looked for at every boundary just where each part is as long
as it is taken to be. -/
theorem aligned_iff {α : Type} {bytes : α → List UInt8} {size : α → Nat} {as : List α} :
    (∀ sent, sent <+: as → (sent.flatMap bytes).length = (sent.map size).sum) ↔
      ∀ a ∈ as, (bytes a).length = size a := by
  constructor
  · intro haligned a ha
    obtain ⟨before, after, rfl⟩ := List.append_of_mem ha
    have hbefore := haligned before (List.prefix_append _ _)
    have hbehind := haligned (before ++ [a]) ⟨after, by simp⟩
    simp only [List.flatMap_append, List.length_append, List.map_append, List.sum_append,
      List.flatMap_cons, List.flatMap_nil, List.append_nil, List.map_cons, List.map_nil,
      List.sum_cons, List.sum_nil, Nat.add_zero] at hbehind
    omega
  · intro hsizes sent hsent
    rw [List.length_flatMap]
    exact congrArg List.sum (List.map_congr_left fun a ha => hsizes a (hsent.subset ha))

/-- A reply is as long as its header says just where its site keeps it so; and in a run of
replies, every one starts where the client looks for it just where all the sites do. -/
theorem replies_framed_iff :
    (∀ reply : SubmittedReply Handler, reply.Framed ↔ reply.KeepsFraming) ∧
    ∀ replies : List (SubmittedReply Handler),
      (∀ sent, sent <+: replies →
        (sent.flatMap SubmittedReply.toSocket).length =
          (sent.map fun reply => reply.ret.wireLength).sum) ↔
        ∀ reply ∈ replies, reply.KeepsFraming := by
  refine ⟨framed_iff_keepsFraming, fun replies => ?_⟩
  rw [aligned_iff]
  exact forall₂_congr fun reply _ => framed_iff_keepsFraming reply

/-- A submit command with room for one packet, to an endpoint that has no use for it. -/
def onePacketIn : CmdSubmitFields where
  header := ⟨usbipCmdSubmit, 7, 0x10001, UsbIpDirection.in_, 1⟩
  transferFlags := 0
  transferBufferLength := 8
  startFrame := 0
  numberOfPackets := 1
  interval := 0
  setup := ⟨0, 0, 0, 0, 0⟩

def onePacket : UsbIpIsoPacketDescriptor := ⟨0, 8, 0, 0⟩

def onePacketStream : List UInt8 :=
  u32ToBytes usbipCmdSubmit ++ onePacketIn.toBytes ++ onePacket.toBytes

def contextOf (routingOp : RoutingOperator Unit) : ReceiveContext Unit where
  routingOp := routingOp
  storageHandler _ := { state := .idle, writeMmapBase := none, writeLba := 0,
                        writeAccumulated := 0, backend := none }
  memoryLeft := true

/-- The one byte that a virtual device's interrupt endpoint reports. -/
def interruptReply : SubmittedReply Unit where
  ctx := contextOf .generic
  stream := onePacketStream
  rest := []
  cmd := { onePacketIn with transfer := .generic none ⟨.replicate 8 0, [onePacket], 0, 0, true⟩ }
  accepted := rfl
  site := .noIso UrbStatusType.statusOK 1 [0x2A] 0
  ret := .createRetSubmitWithStatusAndNoIso 7 UrbStatusType.statusOK 1
    (.generic none ⟨[0x2A], [onePacket], 1, 0, true⟩)
  submits := rfl
  storageHandler := (contextOf .generic).storageHandler

/-- A transfer that the device has stalled. -/
def stalled (trx : LibusbTransfer) : LibusbCompletion trx where
  status := .stall
  actualLength := 0
  data := []
  packets := trx.isoPacketDesc.map fun pkt => { pkt with actualLength := 0 }
  packets_fit := List.forall₂_map_right_iff.mpr <|
    List.forall₂_same.mpr fun _ _ => UInt32.zero_le

/-- The answer to the same command by the bulk endpoint 0x81 of a device behind libusb. -/
def bulkReply : SubmittedReply Unit where
  ctx := contextOf .libusb
  stream := onePacketStream
  rest := []
  cmd := { onePacketIn with
           transfer := .libusb ⟨0, .control, .completed, 8, 0, .replicate 8 0,
             [⟨8, 0, .completed⟩]⟩ }
  accepted := rfl
  site := .transferCallback ⟨0x81, 2⟩ true false false false stalled
  ret := .createRetSubmit 7 UrbStatusType.statusEPIPE 0 0 1
    (.libusb ⟨0x81, .bulk, .stall, 8, 0, .replicate 8 0, [⟨8, 0, .completed⟩]⟩)
  submits := rfl
  storageHandler := (contextOf .libusb).storageHandler

/-- Of a reply of 64 bytes the client reads 49, and 64 of one that has 48. -/
theorem reply_not_framed_of_packet :
    (¬ ∀ reply : SubmittedReply Unit, reply.Framed) ∧
      (interruptReply.toSocket.length = 64 ∧ interruptReply.ret.wireLength = 49) ∧
      bulkReply.toSocket.length = 48 ∧ bulkReply.ret.wireLength = 64 := by
  have hinterrupt : interruptReply.toSocket.length = 64 := rfl
  have hwire : interruptReply.ret.wireLength = 49 := rfl
  refine ⟨fun h => ?_, ⟨hinterrupt, hwire⟩, rfl, rfl⟩
  have hframed : interruptReply.toSocket.length = interruptReply.ret.wireLength :=
    h interruptReply
  omega

end Usbipdcpp.Session
