import Mathlib.Data.List.Forall2
import Usbipdcpp.Protocol.ReplyFraming
import Usbipdcpp.VirtualDevice.Device

namespace Usbipdcpp.LibusbHandler

open Protocol VirtualDevice

/-- A transfer as it is handed to libusb, with the arguments of its callback. -/
structure SubmittedTransfer where
  seqnum : UInt32
  isOut : Bool
  shortNotOk : Bool
  trx : LibusbTransfer
  deriving DecidableEq, Repr

def urbShortNotOk : UInt32 := 0x0001

/-- `LIBUSB_TRANSFER_SHORT_NOT_OK` behind `get_libusb_transfer_flags` and
`masking_bogus_flags`. -/
def shortNotOk (transferFlags : UInt32) (isOut : Bool) (type : LibusbTransferType) : Bool :=
  transferFlags &&& urbShortNotOk != 0 && !isOut && type != .isochronous

def submit (cmd : CmdSubmitFields) (isOut : Bool) (trx : LibusbTransfer) : SubmittedTransfer where
  seqnum := cmd.header.seqnum
  isOut := isOut
  shortNotOk := shortNotOk cmd.transferFlags isOut trx.type
  trx := trx

/-- The attributes are compared as a whole; those of any other endpoint are not known. -/
def transferType (ep : UsbEndpoint) : Option LibusbTransferType :=
  if ep.attributes = EndpointAttributes.bulk.toUInt8 then some .bulk
  else if ep.attributes = EndpointAttributes.interrupt.toUInt8 then some .interrupt
  else if ep.attributes = EndpointAttributes.isochronous.toUInt8 then some .isochronous
  else none

/-- The transfer that `receive_urb` submits, and `none` where it answers the URB at once,
without a transfer. -/
def receiveUrb (cmd : CmdSubmitFields) (trx : LibusbTransfer) (ep : UsbEndpoint)
    (hasInterface tweaked : Bool) : Option SubmittedTransfer :=
  if ep.attributes = EndpointAttributes.control.toUInt8 then
    if tweaked || cmd.setup.length.toUInt32 > cmd.transferBufferLength then none
    else
      some (submit cmd cmd.setup.isOut
        { trx with
          endpoint := 0
          type := .control
          length := LibusbTransferOperator.controlSetupSize + cmd.setup.length.toNat
          buffer := storeAt trx.buffer 0 cmd.setup.toBytes })
  else if hasInterface then
    (transferType ep).map fun type =>
      submit cmd (!ep.isIn)
        { trx with endpoint := ep.address, type, length := cmd.transferBufferLength.toNat }
  else none

/-- What libusb reports of a transfer: no packet holds more than there was room for. -/
structure LibusbCompletion (trx : LibusbTransfer) where
  status : LibusbTransferStatus
  actualLength : Nat
  data : List UInt8
  packets : List LibusbIsoPacket
  packets_fit : List.Forall₂ (fun before after => after.actualLength ≤ before.length)
    trx.isoPacketDesc packets

/-- The transfer as the callback gets it; the data lies behind the setup packet. -/
def LibusbCompletion.transfer {trx : LibusbTransfer} (completion : LibusbCompletion trx) :
    LibusbTransfer :=
  { trx with
    status := completion.status
    actualLength := completion.actualLength
    buffer := storeAt trx.buffer
      (if trx.type = .control then LibusbTransferOperator.controlSetupSize else 0) completion.data
    isoPacketDesc := completion.packets }

variable {Handler : Type}

/-- The length that the header of the reply reports. -/
def reportedLength (args : SubmittedTransfer) (trx : LibusbTransfer) : UInt32 :=
  if trx.type = .isochronous ∧ args.isOut = false then
    .ofNat (LibusbTransferOperator.packetBytes trx.isoPacketDesc)
  else .ofNat trx.actualLength

/-- The reply to a transfer that has come back: one to the device needs its transfer for the
descriptors only. -/
def retSubmit (args : SubmittedTransfer) (trx : LibusbTransfer) : UsbIpRetSubmit Handler :=
  let status :=
    -- a short packet that the client accepts counts as completed
    if trx.status = .error ∧ args.shortNotOk = false then .completed else trx.status
  let urbStatus := LibusbTransferOperator.trxstat2error status
  let actualLength := reportedLength args trx
  let ret : UsbIpRetSubmit Handler :=
    if args.isOut && trx.type != .isochronous then
      .createRetSubmitWithStatusAndNoData args.seqnum urbStatus actualLength
    else
      .createRetSubmit args.seqnum urbStatus actualLength 0 (.ofNat trx.isoPacketDesc.length)
        (.libusb { trx with status })
  let errorCount : UInt32 :=
    if trx.type = .isochronous then
      .ofNat (trx.isoPacketDesc.countP fun pkt => pkt.status != .completed)
    else 0
  { ret with errorCount }

/-- No reply is sent once the client is gone, and that to a cancelled transfer is a
`RET_UNLINK`. -/
def transferCallback (args : SubmittedTransfer) (clientDisconnection unlinking : Bool)
    (trx : LibusbTransfer) : Option (UsbIpRetSubmit Handler) :=
  if clientDisconnection || unlinking then none else some (retSubmit args trx)

theorem transferCallback_eq_some {args : SubmittedTransfer} {clientDisconnection unlinking : Bool}
    {trx : LibusbTransfer} {ret : UsbIpRetSubmit Handler}
    (h : transferCallback args clientDisconnection unlinking trx = some ret) :
    (clientDisconnection || unlinking) = false ∧ ret = retSubmit args trx := by
  unfold transferCallback at h
  split at h
  next => cases h
  next hreplies => exact ⟨Bool.eq_false_iff.mpr hreplies, (Option.some.inj h).symm⟩

section Framing

open LibusbTransferOperator (slotBytes)

theorem packetBytes_le_of_packets_fit {before after : List LibusbIsoPacket}
    (h : List.Forall₂ (fun before after => after.actualLength ≤ before.length) before after) :
    LibusbTransferOperator.packetBytes after ≤ slotBytes before := by
  induction h with
  | nil => exact Nat.le_refl 0
  | cons hfit _ ih =>
      have hhead := UInt32.le_iff_toNat_le.mp hfit
      simp only [LibusbTransferOperator.packetBytes, slotBytes, List.map_cons, List.sum_cons]
        at ih ⊢
      omega

theorem head_storeAt_setup (setup : SetupPacket) (buffer data : List UInt8) :
    (storeAt (storeAt buffer 0 setup.toBytes) LibusbTransferOperator.controlSetupSize data).getD
      0 0 = setup.requestType := by
  have hsetup : ∃ rest, setup.toBytes = setup.requestType :: rest := by
    refine ⟨u8ToBytes setup.request ++ u16leToBytes setup.value ++ u16leToBytes setup.index ++
      u16leToBytes setup.length, ?_⟩
    simp [SetupPacket.toBytes, u8ToBytes, Foundation.ByteStream.bytesOfNat]
  obtain ⟨rest, hrest⟩ := hsetup
  simp [storeAt, hrest, LibusbTransferOperator.controlSetupSize]

variable {trx : LibusbTransfer} {cmd : CmdSubmitFields} {ep : UsbEndpoint}
  {hasInterface tweaked : Bool} {args : SubmittedTransfer}

theorem isoPacketDesc_of_receiveUrb
    (h : receiveUrb cmd trx ep hasInterface tweaked = some args) :
    args.trx.isoPacketDesc = trx.isoPacketDesc := by
  unfold receiveUrb at h
  split at h
  next =>
    split at h
    next => cases h
    next => cases h; rfl
  next =>
    split at h
    next =>
      obtain ⟨type, -, rfl⟩ := Option.map_eq_some_iff.mp h
      rfl
    next => cases h

theorem transferType_ne_control {type : LibusbTransferType} (h : transferType ep = some type) :
    type ≠ .control := by
  rintro rfl
  unfold transferType at h
  grind

/-- The direction that the callback is told is the one that the operator reads off the
transfer. -/
theorem transferIsIn_of_receiveUrb (h : receiveUrb cmd trx ep hasInterface tweaked = some args)
    (completion : LibusbCompletion args.trx)
    (hcarried : args.isOut = false ∨ args.trx.type = .isochronous) :
    LibusbTransferOperator.transferIsIn completion.transfer = !args.isOut := by
  unfold receiveUrb at h
  split at h
  next =>
    split at h
    next => cases h
    next =>
      cases h
      -- a control transfer's direction lies in the setup packet, which libusb leaves alone
      have hout : cmd.setup.isOut = false := hcarried.resolve_right nofun
      have hhead := head_storeAt_setup cmd.setup trx.buffer completion.data
      have hin : (cmd.setup.requestType &&& 0x80 == 0) = false :=
        (Bool.or_eq_false_iff.mp hout).1
      change ((storeAt (storeAt trx.buffer 0 cmd.setup.toBytes)
        LibusbTransferOperator.controlSetupSize completion.data).getD 0 0 &&& 0x80 != 0) =
          !cmd.setup.isOut
      rw [hhead, hout, bne, hin]
  next =>
    split at h
    next =>
      obtain ⟨type, htype, rfl⟩ := Option.map_eq_some_iff.mp h
      have hne := transferType_ne_control htype
      change LibusbTransferOperator.transferIsIn _ = !(!ep.isIn)
      rw [Bool.not_not, LibusbTransferOperator.transferIsIn]
      exact if_neg hne
    next => cases h

/-- What the reply is where it carries its transfer. -/
theorem retSubmit_of_carried {trx : LibusbTransfer}
    (hcarried : args.isOut = false ∨ trx.type = .isochronous) :
    ∃ status, (retSubmit args trx : UsbIpRetSubmit Handler).transfer =
        some (.libusb { trx with status }) ∧
      (retSubmit args trx : UsbIpRetSubmit Handler).actualLength = reportedLength args trx ∧
      (retSubmit args trx : UsbIpRetSubmit Handler).numberOfPackets =
        .ofNat trx.isoPacketDesc.length := by
  have hreply : (args.isOut && trx.type != .isochronous) = false := by
    rcases hcarried with h | h <;> simp [h]
  unfold retSubmit
  simp only [hreply, Bool.false_eq_true, if_false]
  exact ⟨_, rfl, rfl, rfl⟩

theorem retSubmit_of_not_carried {trx : LibusbTransfer}
    (hcarried : ¬ (args.isOut = false ∨ trx.type = .isochronous)) :
    (retSubmit args trx : UsbIpRetSubmit Handler).transfer = none ∧
      (retSubmit args trx : UsbIpRetSubmit Handler).numberOfPackets = 0 := by
  obtain ⟨hout, htype⟩ := not_or.mp hcarried
  have hreply : (args.isOut && trx.type != .isochronous) = true := by
    simp [Bool.not_eq_false _ ▸ hout, htype]
  unfold retSubmit
  simp only [hreply, if_true]
  exact ⟨rfl, rfl⟩

/-- A reply to a transfer that libusb has done is framed just where it carries no transfer, the
transfer is isochronous, or the client has announced no packets. -/
theorem framed_retSubmit_iff {storageHandler : Handler → MscBulkOnlyHandler}
    (h : receiveUrb cmd trx ep hasInterface tweaked = some args)
    (completion : LibusbCompletion args.trx) (hroom : slotBytes trx.isoPacketDesc < 2 ^ 32)
    (hcount : trx.isoPacketDesc.length < 2 ^ 32) :
    (retSubmit args completion.transfer).Framed storageHandler ↔
      args.isOut = true ∨ args.trx.type = .isochronous ∨ trx.isoPacketDesc = [] := by
  have hdescs := isoPacketDesc_of_receiveUrb h
  have hlength : completion.packets.length = trx.isoPacketDesc.length := by
    rw [← hdescs]
    exact completion.packets_fit.length_eq.symm
  have hempty : completion.packets = [] ↔ trx.isoPacketDesc = [] := by
    rw [← List.length_eq_zero_iff, hlength, List.length_eq_zero_iff]
  have hfit : LibusbTransferOperator.packetBytes completion.packets < 2 ^ 32 :=
    Nat.lt_of_le_of_lt (packetBytes_le_of_packets_fit completion.packets_fit) (hdescs ▸ hroom)
  by_cases hcarried : args.isOut = false ∨ args.trx.type = .isochronous
  · have hin := transferIsIn_of_receiveUrb h completion hcarried
    obtain ⟨status, htransfer, hactual, hpackets⟩ :=
      @retSubmit_of_carried Handler args completion.transfer hcarried
    have hcountOf : (UInt32.ofNat completion.packets.length).toNat = completion.packets.length :=
      UInt32.toNat_ofNat_of_lt' (hlength ▸ hcount)
    have hdata : (retSubmit args completion.transfer : UsbIpRetSubmit Handler).dataLength =
        if args.isOut then 0 else (reportedLength args completion.transfer).toNat := by
      rw [UsbIpRetSubmit.dataLength, UsbIpRetSubmit.transferIsIn, htransfer, hactual]
      change (if LibusbTransferOperator.transferIsIn completion.transfer then _ else 0) = _
      rw [hin]
      cases args.isOut <;> rfl
    rw [UsbIpRetSubmit.framed_libusb_iff htransfer (hpackets ▸ hcountOf), hdata]
    change completion.packets = [] ∨ args.trx.type = .isochronous ∧
      (_ ∨ LibusbTransferOperator.packetBytes completion.packets = _) ↔ _
    rw [hempty]
    by_cases htype : args.trx.type = .isochronous
    · refine iff_of_true (.inr ⟨htype, ?_⟩) (.inr (.inl htype))
      cases hout : args.isOut with
      | true => exact .inl (if_pos rfl)
      | false =>
          have hreported : reportedLength args completion.transfer =
              .ofNat (LibusbTransferOperator.packetBytes completion.packets) :=
            if_pos ⟨htype, hout⟩
          rw [hreported, UInt32.toNat_ofNat_of_lt' hfit]
          exact .inr rfl
    · have hout := hcarried.resolve_right htype
      simp [htype, hout]
  · obtain ⟨htransfer, hpackets⟩ :=
      @retSubmit_of_not_carried Handler args completion.transfer hcarried
    refine iff_of_true (UsbIpRetSubmit.framed_of_no_transfer htransfer hpackets) (.inl ?_)
    exact (Bool.not_eq_false _).mp (not_or.mp hcarried).1

end Framing

end Usbipdcpp.LibusbHandler
