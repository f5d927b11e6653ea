import Usbipdcpp.Protocol.GenericTransferOperator

namespace Usbipdcpp.Protocol

open Foundation.ByteStream

inductive LibusbTransferType where
  | control
  | isochronous
  | bulk
  | interrupt
  deriving DecidableEq, Repr

inductive LibusbTransferStatus where
  | completed
  | error
  | timedOut
  | cancelled
  | stall
  | noDevice
  | overflow
  deriving DecidableEq, Repr

/-- `libusb_iso_packet_descriptor`. -/
structure LibusbIsoPacket where
  length : UInt32
  actualLength : UInt32
  status : LibusbTransferStatus
  deriving DecidableEq, Repr

/-- `libusb_transfer`, whose `num_iso_packets` is the length of `isoPacketDesc`. -/
structure LibusbTransfer where
  endpoint : UInt8
  type : LibusbTransferType
  status : LibusbTransferStatus
  length : Nat
  actualLength : Nat
  buffer : List UInt8
  isoPacketDesc : List LibusbIsoPacket
  deriving DecidableEq, Repr

namespace LibusbTransferOperator

def controlSetupSize : Nat := 8

/-- `LibusbDeviceHandler::error2trxstat`, on the statuses as 32-bit words. -/
def error2trxstat (status : UInt32) : LibusbTransferStatus :=
  if status = 0 then .completed
  else if status = 0 - 2 then .error
  else if status = 0 - 104 then .cancelled
  else if status = 0 - 110 then .timedOut
  else if status = 0 - 32 then .stall
  else if status = 0 - 108 then .noDevice
  else if status = 0 - 75 then .overflow
  else .error

/-- `LibusbDeviceHandler::trxstat2error`. -/
def trxstat2error : LibusbTransferStatus → UInt32
  | .completed => 0
  | .cancelled => 0 - 104
  | .error | .stall | .timedOut | .overflow => 0 - 32
  | .noDevice => 0 - 108

/-- A fresh transfer; its `endpoint` and `type` are set when the transfer is filled. -/
def allocTransferHandle (bufferLength numIsoPackets : Nat) (header : UsbIpHeaderBasic) :
    LibusbTransfer :=
  let writeOffset := if header.ep == 0 then controlSetupSize else 0
  { endpoint := 0
    type := .control
    status := .completed
    length := bufferLength + writeOffset
    actualLength := 0
    buffer := .replicate (bufferLength + writeOffset) 0
    isoPacketDesc := .replicate numIsoPackets ⟨0, 0, .completed⟩ }

/-- A control transfer's direction is that of the setup packet at the head of its buffer. -/
def transferIsIn (trx : LibusbTransfer) : Bool :=
  if trx.type = .control then trx.buffer.getD 0 0 &&& 0x80 != 0 else trx.endpoint &&& 0x80 != 0

def setIsoDescriptor (desc : UsbIpIsoPacketDescriptor) : LibusbIsoPacket where
  length := desc.length
  actualLength := desc.actualLength
  status := error2trxstat desc.status

/-- The descriptor loop, with the packets still to read and the sum of the lengths read so
far. -/
def recvIsoDescriptors (bufferLength : Nat) : Nat → Nat → Reader (List LibusbIsoPacket)
  | 0, _ => pure []
  | n + 1, totalLength => do
      let desc ← UsbIpIsoPacketDescriptor.fromSocket
      failIf (desc.actualLength > desc.length ||
        totalLength + desc.length.toNat > bufferLength) .invalidArgument
      let packets ← recvIsoDescriptors bufferLength n (totalLength + desc.length.toNat)
      return setIsoDescriptor desc :: packets

def recvTransferData (trx : LibusbTransfer) (length : Nat) : Reader LibusbTransfer := do
  -- a buffer longer than the data stage starts with room for the setup packet
  let offset := if trx.length > length then controlSetupSize else 0
  let buffer ← readPayload trx.buffer offset length
  let isoPacketDesc ← recvIsoDescriptors trx.length trx.isoPacketDesc.length 0
  return { trx with buffer, isoPacketDesc }

/-- The data and the descriptors of the packets from `offset` in the buffer on. -/
def sendIsoPackets (trx : LibusbTransfer) (needToSendBuffer : Bool) :
    List LibusbIsoPacket → UInt32 → List UInt8 × List UInt8
  | [], _ => ([], [])
  | pkt :: pkts, offset =>
      let (data, descs) := sendIsoPackets trx needToSendBuffer pkts (offset + pkt.length)
      let desc : UsbIpIsoPacketDescriptor :=
        ⟨offset, pkt.length, pkt.actualLength, trxstat2error pkt.status⟩
      ((if needToSendBuffer then bytesAt trx.buffer offset.toNat pkt.actualLength.toNat
        else []) ++ data, desc.toBytes ++ descs)

def sendTransferData (trx : LibusbTransfer) (length : Nat) : List UInt8 :=
  if trx.type = .isochronous ∧ trx.isoPacketDesc ≠ [] then
    let (data, descs) := sendIsoPackets trx (0 < length) trx.isoPacketDesc 0
    data ++ descs
  else
    bytesAt trx.buffer (if trx.type = .control then controlSetupSize else 0) length

/-- The room that the packets take up in the buffer. -/
def slotBytes (packets : List LibusbIsoPacket) : Nat :=
  (packets.map fun pkt => pkt.length.toNat).sum

/-- The packets that are accepted lie within the buffer. -/
theorem slotBytes_of_recvIsoDescriptors {bufferLength n totalLength : Nat} {s rest : List UInt8}
    {packets : List LibusbIsoPacket}
    (h : recvIsoDescriptors bufferLength n totalLength s = .ok (packets, rest)) :
    packets.length = n ∧ (packets = [] ∨ totalLength + slotBytes packets ≤ bufferLength) := by
  induction n generalizing totalLength s rest packets with
  | zero =>
      obtain ⟨rfl, -⟩ : [] = packets ∧ s = rest := by
        simpa [recvIsoDescriptors, Pure.pure, ByteReader.pure] using h
      exact ⟨rfl, .inl rfl⟩
  | succ n ih =>
      obtain ⟨desc, mid, -, hdesc⟩ := bind_eq_ok_iff.mp h
      obtain ⟨u, mid', hcheck, hchecked⟩ := bind_eq_ok_iff.mp hdesc
      obtain ⟨packets', left, hpackets, hpure⟩ := bind_eq_ok_iff.mp hchecked
      obtain ⟨hcount, hslots⟩ := ih hpackets
      have hlength := (failIf_eq_ok_iff.mp hcheck).1
      simp only [Bool.or_eq_false_iff, decide_eq_false_iff_not] at hlength
      obtain ⟨rfl, -⟩ : setIsoDescriptor desc :: packets' = packets ∧ left = rest := by
        simpa [Pure.pure, ByteReader.pure] using hpure
      refine ⟨congrArg Nat.succ hcount, .inr ?_⟩
      have hhead : slotBytes (setIsoDescriptor desc :: packets') =
          desc.length.toNat + slotBytes packets' := rfl
      rcases hslots with rfl | hslots
      · have hnil : slotBytes [] = 0 := rfl
        omega
      · omega

theorem slotBytes_of_recvTransferData {trx trx' : LibusbTransfer} {length : Nat}
    {s rest : List UInt8} (h : recvTransferData trx length s = .ok (trx', rest)) :
    trx'.isoPacketDesc.length = trx.isoPacketDesc.length ∧
      slotBytes trx'.isoPacketDesc ≤ trx.length := by
  obtain ⟨buffer, mid, -, hbuffer⟩ := bind_eq_ok_iff.mp h
  obtain ⟨packets, left, hpackets, hpure⟩ := bind_eq_ok_iff.mp hbuffer
  cases hpure
  obtain ⟨hcount, hslots⟩ := slotBytes_of_recvIsoDescriptors hpackets
  refine ⟨hcount, ?_⟩
  rcases hslots with hnone | hslots
  · exact hnone ▸ Nat.zero_le _
  · exact Nat.zero_add (slotBytes packets) ▸ hslots

theorem consumes_recvIsoDescriptors (bufferLength n totalLength : Nat) :
    Consumes (recvIsoDescriptors bufferLength n totalLength) fun _ => 16 * n := by
  induction n generalizing totalLength with
  | zero => exact consumes_pure []
  | succ n ih =>
      refine consumes_of_size_eq
        (consumes_bind UsbIpIsoPacketDescriptor.consumes_fromSocket fun _ =>
          consumes_bind (consumes_failIf _ _) fun _ =>
            consumes_bind (ih _) fun _ => consumes_pure _) fun _ => ?_
      omega

theorem consumes_recvTransferData (trx : LibusbTransfer) (length : Nat) :
    Consumes (recvTransferData trx length) fun _ => length + 16 * trx.isoPacketDesc.length :=
  consumes_of_size_eq
    (consumes_bind (consumes_readPayload _ _ _) fun _ =>
      consumes_bind (consumes_recvIsoDescriptors _ _ _) fun _ => consumes_pure _)
    fun _ => by omega

/-- The packets fit one after the other into the part of the buffer that follows
`totalLength`, each with its data in its slot. -/
def PacketsFit (bufferLength : Nat) : Nat → List UsbIpIsoPacketDescriptor → Prop
  | _, [] => True
  | totalLength, desc :: descs =>
      desc.actualLength ≤ desc.length ∧ totalLength + desc.length.toNat ≤ bufferLength ∧
        PacketsFit bufferLength (totalLength + desc.length.toNat) descs

theorem decodes_recvIsoDescriptors {bufferLength totalLength : Nat}
    {descs : List UsbIpIsoPacketDescriptor} (hfit : PacketsFit bufferLength totalLength descs) :
    Decodes (recvIsoDescriptors bufferLength descs.length totalLength)
      (descs.flatMap UsbIpIsoPacketDescriptor.toBytes) (descs.map setIsoDescriptor) := by
  induction descs generalizing totalLength with
  | nil => exact decodes_pure []
  | cons desc descs ih =>
      obtain ⟨hactual, hlength, hrest⟩ := hfit
      have haccepted : (decide (desc.actualLength > desc.length) ||
          decide (totalLength + desc.length.toNat > bufferLength)) = false := by
        simp [hactual, hlength]
      exact decodes_of_bytes_eq (by simp) <|
        decodes_bind (UsbIpIsoPacketDescriptor.decodes_fromSocket desc) <|
          decodes_bind (decodes_failIf haccepted _) <|
            decodes_bind (ih hrest) <| decodes_pure _

theorem decodes_recvTransferData {trx : LibusbTransfer} (bytes : List UInt8)
    {descs : List UsbIpIsoPacketDescriptor} (hdescs : descs.length = trx.isoPacketDesc.length)
    (hfit : PacketsFit trx.length 0 descs) :
    Decodes (recvTransferData trx bytes.length)
      (bytes ++ descs.flatMap UsbIpIsoPacketDescriptor.toBytes)
      { trx with
        buffer := storeAt trx.buffer (if trx.length > bytes.length then controlSetupSize else 0)
          bytes
        isoPacketDesc := descs.map setIsoDescriptor } := by
  unfold recvTransferData
  rw [← hdescs]
  apply decodes_bind (decodes_readPayload trx.buffer _ bytes)
  exact decodes_of_bytes_eq (by simp) <|
    decodes_bind (decodes_recvIsoDescriptors hfit) <| decodes_pure _

end LibusbTransferOperator

end Usbipdcpp.Protocol
