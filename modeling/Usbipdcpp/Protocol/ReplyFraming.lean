import Usbipdcpp.Protocol.Responses

namespace Usbipdcpp.Protocol

variable {Handler : Type}

/-- The bytes of data that a transfer's descriptors announce. -/
def packetBytes (descs : List UsbIpIsoPacketDescriptor) : Nat :=
  (descs.map fun desc => desc.actualLength.toNat).sum

@[simp] theorem packetBytes_nil : packetBytes [] = 0 := rfl

@[simp] theorem packetBytes_cons (desc : UsbIpIsoPacketDescriptor)
    (descs : List UsbIpIsoPacketDescriptor) :
    packetBytes (desc :: descs) = desc.actualLength.toNat + packetBytes descs := rfl

theorem GenericTransferOperator.length_sendTransferData (trx : GenericTransfer) (length : Nat) :
    (sendTransferData trx length).length =
      if trx.isoDescriptors = [] then length
      else (if 0 < length then packetBytes trx.isoDescriptors else 0) +
        16 * trx.isoDescriptors.length := by
  unfold sendTransferData
  split
  next => exact length_bytesAt _ _ _
  next =>
    rw [List.length_append, UsbIpIsoPacketDescriptor.length_flatMap_toBytes]
    split
    next => simp [packetBytes, List.length_flatMap]
    next => rfl

namespace LibusbTransferOperator

def packetBytes (packets : List LibusbIsoPacket) : Nat :=
  (packets.map fun pkt => pkt.actualLength.toNat).sum

theorem length_sendIsoPackets (trx : LibusbTransfer) (needToSendBuffer : Bool)
    (packets : List LibusbIsoPacket) (offset : UInt32) :
    (sendIsoPackets trx needToSendBuffer packets offset).1.length =
        (if needToSendBuffer then packetBytes packets else 0) ∧
      (sendIsoPackets trx needToSendBuffer packets offset).2.length = 16 * packets.length := by
  induction packets generalizing offset with
  | nil => cases needToSendBuffer <;> exact ⟨rfl, rfl⟩
  | cons pkt packets ih =>
      obtain ⟨hdata, hdescs⟩ := ih (offset + pkt.length)
      constructor
      · rw [sendIsoPackets, List.length_append, hdata]
        cases needToSendBuffer <;> simp [packetBytes]
      · rw [sendIsoPackets, List.length_append, hdescs, UsbIpIsoPacketDescriptor.length_toBytes,
          List.length_cons]
        omega

theorem length_sendTransferData (trx : LibusbTransfer) (length : Nat) :
    (sendTransferData trx length).length =
      if trx.type = .isochronous ∧ trx.isoPacketDesc ≠ [] then
        (if 0 < length then packetBytes trx.isoPacketDesc else 0) + 16 * trx.isoPacketDesc.length
      else length := by
  unfold sendTransferData
  split
  next =>
    obtain ⟨hdata, hdescs⟩ :=
      length_sendIsoPackets trx (decide (0 < length)) trx.isoPacketDesc 0
    rw [List.length_append, hdata, hdescs]
    simp only [decide_eq_true_eq]
  next => exact length_bytesAt _ _ _

end LibusbTransferOperator

namespace StorageTransferOperator

/-- A backend that sends on its own sends all of the data stage, or leaves all of it to the
fallback. -/
def SendsWhole (handler : MscBulkOnlyHandler) (trx : StorageIoTransfer) (length : Nat) : Prop :=
  match handler.backend with
  | none => True
  | some backend =>
      trx.directIo = true →
        (backend.sendDirect trx.fileLba trx.fileOffset length).sent.length =
          if (backend.sendDirect trx.fileLba trx.fileOffset length).accepted then length else 0

theorem sendsWhole_of_not_directIo (handler : MscBulkOnlyHandler) {trx : StorageIoTransfer}
    (h : trx.directIo = false) (length : Nat) : SendsWhole handler trx length := by
  unfold SendsWhole
  split
  next => trivial
  next => simp [h]

theorem length_sendTransferData_eq_iff (handler : MscBulkOnlyHandler) (trx : StorageIoTransfer)
    (length : Nat) :
    (sendTransferData handler trx length).length = length ↔ SendsWhole handler trx length := by
  unfold sendTransferData SendsWhole
  rcases handler.backend with _ | backend
  · simp
  · cases hdirectIo : trx.directIo with
    | false => simp
    | true =>
        dsimp only
        generalize backend.sendDirect trx.fileLba trx.fileOffset length = direct
        obtain ⟨accepted, sent⟩ := direct
        cases accepted <;> simp

end StorageTransferOperator

namespace UsbIpRetSubmit

variable (storageHandler : Handler → MscBulkOnlyHandler)

def transferIsIn (ret : UsbIpRetSubmit Handler) : Bool :=
  ret.transfer.any TransferHandle.transferIsIn

/-- The length of the data stage that the client reads behind the header. -/
def dataLength (ret : UsbIpRetSubmit Handler) : Nat :=
  if ret.transferIsIn then ret.actualLength.toNat else 0

/-- Where the client takes the reply to end: behind the header, the data of a transfer to the
host and the descriptors that the header announces. -/
def wireLength (ret : UsbIpRetSubmit Handler) : Nat :=
  48 + ret.dataLength + 16 * ret.numberOfPackets.toNat

/-- The next reply starts where the client expects it. -/
def Framed (ret : UsbIpRetSubmit Handler) : Prop :=
  (ret.toSocket storageHandler).length = ret.wireLength

instance (ret : UsbIpRetSubmit Handler) : Decidable (ret.Framed storageHandler) :=
  inferInstanceAs (Decidable (_ = _))

variable {storageHandler} {ret : UsbIpRetSubmit Handler}

theorem framed_of_header_only (hlength : ret.actualLength = 0)
    (hpackets : ret.numberOfPackets = 0) :
    ret.Framed storageHandler := by
  have hwire : ret.wireLength = 48 := by simp [wireLength, dataLength, hlength, hpackets]
  have hsent : ret.toSocket storageHandler = ret.headerBytes := by
    unfold toSocket
    split
    next => rfl
    next => simp [hlength, hpackets]
  unfold Framed
  rw [hwire, hsent, length_headerBytes]

theorem framed_of_no_transfer (htransfer : ret.transfer = none)
    (hpackets : ret.numberOfPackets = 0) :
    ret.Framed storageHandler := by
  have hwire : ret.wireLength = 48 := by
    simp [wireLength, dataLength, transferIsIn, htransfer, hpackets]
  have hsent : ret.toSocket storageHandler = ret.headerBytes := by
    unfold toSocket
    rw [htransfer]
  unfold Framed
  rw [hwire, hsent, length_headerBytes]

/-- Once there is something to send behind the header, all depends on what the operator sends. -/
theorem framed_iff_sent {handle : TransferHandle Handler} (htransfer : ret.transfer = some handle)
    (hsends : ret.actualLength > 0 ∨ ret.numberOfPackets > 0) :
    ret.Framed storageHandler ↔
      (handle.sendTransferData storageHandler ret.dataLength).length =
        ret.dataLength + 16 * ret.numberOfPackets.toNat := by
  have hin : ret.transferIsIn = handle.transferIsIn := by simp [transferIsIn, htransfer]
  have hsent : ret.toSocket storageHandler =
      ret.headerBytes ++ handle.sendTransferData storageHandler ret.dataLength := by
    unfold toSocket dataLength
    simp only [htransfer, hin, if_pos hsends]
  unfold Framed wireLength
  rw [hsent, List.length_append, length_headerBytes]
  omega

section Operators

variable {seqnum status actualLength numberOfPackets : UInt32}

/-- A reply that announces no packets, over a generic transfer with the descriptors that the
client sent. -/
theorem framed_no_iso_generic_iff {owner : Option Handler} {trx : GenericTransfer} :
    (createRetSubmitWithStatusAndNoIso seqnum status actualLength
        (.generic owner trx)).Framed storageHandler ↔
      actualLength = 0 ∨ trx.isoDescriptors = [] ∨
        trx.isIn = true ∧
          packetBytes trx.isoDescriptors + 16 * trx.isoDescriptors.length =
            actualLength.toNat := by
  by_cases hlength : actualLength = 0
  · exact iff_of_true (framed_of_header_only hlength rfl) (.inl hlength)
  have hsends : actualLength > 0 := UInt32.pos_iff_ne_zero.mpr hlength
  have hpos : 0 < actualLength.toNat := UInt32.lt_iff_toNat_lt.mp hsends
  have hin : (createRetSubmitWithStatusAndNoIso seqnum status actualLength
      (.generic owner trx)).dataLength = if trx.isIn then actualLength.toNat else 0 := rfl
  rw [framed_iff_sent rfl (.inl hsends), hin]
  change (GenericTransferOperator.sendTransferData trx _).length = _ + 16 * 0 ↔ _
  rw [GenericTransferOperator.length_sendTransferData]
  by_cases hdescs : trx.isoDescriptors = []
  · simp [hdescs]
  · have hcount := List.length_pos_iff.mpr hdescs
    cases trx.isIn with
    | true => simp [hlength, hdescs, hpos]
    | false =>
        simp only [hlength, hdescs, if_false, Bool.false_eq_true, false_and, or_self, iff_false]
        omega

/-- A reply that announces the packets of its generic transfer. -/
theorem framed_iso_generic_iff {owner : Option Handler} {trx : GenericTransfer}
    (hpackets : numberOfPackets.toNat = trx.isoDescriptors.length)
    (hempty : trx.isoDescriptors = [] → actualLength = 0) :
    (createRetSubmit seqnum status actualLength 0 numberOfPackets
        (.generic owner trx)).Framed storageHandler ↔
      trx.isIn = false ∨ actualLength = 0 ∨
        packetBytes trx.isoDescriptors = actualLength.toNat := by
  by_cases hdescs : trx.isoDescriptors = []
  · have hlength := hempty hdescs
    refine iff_of_true (framed_of_header_only hlength ?_) (.inr (.inl hlength))
    rw [hdescs] at hpackets
    exact UInt32.toNat.inj hpackets
  have hcount := List.length_pos_iff.mpr hdescs
  have hin : (createRetSubmit seqnum status actualLength 0 numberOfPackets
      (.generic owner trx)).dataLength = if trx.isIn then actualLength.toNat else 0 := rfl
  have hsends : numberOfPackets > 0 := UInt32.lt_iff_toNat_lt.mpr (hpackets ▸ hcount)
  rw [framed_iff_sent rfl (.inr hsends), hin]
  change (GenericTransferOperator.sendTransferData trx _).length =
    _ + 16 * numberOfPackets.toNat ↔ _
  rw [GenericTransferOperator.length_sendTransferData, if_neg hdescs, hpackets]
  cases trx.isIn with
  | false => simp
  | true =>
      by_cases hlength : actualLength = 0
      · simp [hlength]
      · have hpos : 0 < actualLength.toNat :=
          UInt32.lt_iff_toNat_lt.mp (UInt32.pos_iff_ne_zero.mpr hlength)
        simp only [if_true, hpos, hlength, Bool.true_eq_false, false_or]
        omega

theorem framed_no_iso_storage_iff {handler : Handler} {trx : StorageIoTransfer}
    (hlength : actualLength ≠ 0) :
    (createRetSubmitWithStatusAndNoIso seqnum status actualLength
        (.storage handler trx)).Framed storageHandler ↔
      StorageTransferOperator.SendsWhole (storageHandler handler) trx
        (if trx.isIn then actualLength.toNat else 0) := by
  rw [framed_iff_sent rfl (.inl (UInt32.pos_iff_ne_zero.mpr hlength))]
  exact StorageTransferOperator.length_sendTransferData_eq_iff _ _ _

/-- A reply that announces the packets of its libusb transfer. -/
theorem framed_libusb_iff {trx : LibusbTransfer} (htransfer : ret.transfer = some (.libusb trx))
    (hpackets : ret.numberOfPackets.toNat = trx.isoPacketDesc.length) :
    ret.Framed storageHandler ↔
      trx.isoPacketDesc = [] ∨
        trx.type = .isochronous ∧
          (ret.dataLength = 0 ∨
            LibusbTransferOperator.packetBytes trx.isoPacketDesc = ret.dataLength) := by
  by_cases hempty : ret.actualLength = 0 ∧ ret.numberOfPackets = 0
  · obtain ⟨hlength, hnone⟩ := hempty
    rw [hnone] at hpackets
    exact iff_of_true (framed_of_header_only hlength hnone)
      (.inl (List.eq_nil_of_length_eq_zero hpackets.symm))
  have hsends : ret.actualLength > 0 ∨ ret.numberOfPackets > 0 := by
    rcases not_and_or.mp hempty with h | h
    · exact .inl (UInt32.pos_iff_ne_zero.mpr h)
    · exact .inr (UInt32.pos_iff_ne_zero.mpr h)
  rw [framed_iff_sent htransfer hsends]
  change (LibusbTransferOperator.sendTransferData trx _).length = _ ↔ _
  rw [LibusbTransferOperator.length_sendTransferData, hpackets]
  by_cases hdescs : trx.isoPacketDesc = []
  · simp [hdescs]
  have hcount := List.length_pos_iff.mpr hdescs
  by_cases htype : trx.type = .isochronous
  · rw [if_pos ⟨htype, hdescs⟩]
    simp only [hdescs, htype, false_or, true_and]
    split <;> omega
  · rw [if_neg fun h => htype h.1]
    simp only [hdescs, htype, false_and, or_self, iff_false]
    omega

end Operators

end UsbIpRetSubmit

end Usbipdcpp.Protocol
