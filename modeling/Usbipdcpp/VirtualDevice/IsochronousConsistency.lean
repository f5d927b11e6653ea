import Usbipdcpp.Protocol.CommandRoundTrip
import Usbipdcpp.VirtualDevice.PacketPlans

namespace Usbipdcpp.VirtualDevice

open Protocol

variable {Handler : Type}

/-- A reply over a generic transfer says in its header what its descriptors say, and that is how
much data it sends before them. -/
def DescribesData (storageHandler : Handler → Protocol.MscBulkOnlyHandler)
    (ret : UsbIpRetSubmit Handler) : Prop :=
  ∀ owner trx, ret.transfer = some (.generic owner trx) →
    ret.actualLength.toNat = packetBytes trx.isoDescriptors ∧
      ∃ data, data.length = ret.actualLength.toNat ∧
        ret.toSocket storageHandler =
          ret.headerBytes ++ data ++ trx.isoDescriptors.flatMap UsbIpIsoPacketDescriptor.toBytes

theorem length_sentPayload {trx : GenericTransfer} {length : Nat}
    (hdescs : trx.isoDescriptors ≠ []) :
    (GenericTransferOperator.sentPayload trx length).length =
      if 0 < length then packetBytes trx.isoDescriptors else 0 := by
  have hsent := GenericTransferOperator.length_sendTransferData trx length
  rw [GenericTransferOperator.sendTransferData_eq, List.length_append,
    UsbIpIsoPacketDescriptor.length_flatMap_toBytes, if_neg hdescs] at hsent
  omega

section Replies

variable {storageHandler : Handler → Protocol.MscBulkOnlyHandler} {seqnum : UInt32}
  {owner : Option Handler} {trx : GenericTransfer} {status actualLength numberOfPackets : UInt32}

/-- A reply that announces the packets of its transfer has something behind its header just where
there are packets. -/
theorem sends_iff {descs : List UsbIpIsoPacketDescriptor}
    (hpackets : numberOfPackets.toNat = descs.length) (hempty : descs = [] → actualLength = 0) :
    (actualLength > 0 ∨ numberOfPackets > 0) ↔ descs ≠ [] := by
  constructor
  · rintro hsends rfl
    have hnone : numberOfPackets = 0 := UInt32.toNat.inj hpackets
    rw [hempty rfl, hnone] at hsends
    exact absurd hsends (by decide)
  · exact fun hdescs =>
      .inr (UInt32.lt_iff_toNat_lt.mpr (hpackets ▸ List.length_pos_iff.mpr hdescs))

/-- The bytes of a reply that announces the packets of its generic transfer. -/
theorem toSocket_iso_generic {ret : UsbIpRetSubmit Handler}
    (htransfer : ret.transfer = some (.generic owner trx))
    (hpackets : ret.numberOfPackets.toNat = trx.isoDescriptors.length)
    (hempty : trx.isoDescriptors = [] → ret.actualLength = 0) :
    ret.toSocket storageHandler =
      ret.headerBytes ++
        GenericTransferOperator.sentPayload trx (if trx.isIn then ret.actualLength.toNat else 0) ++
        trx.isoDescriptors.flatMap UsbIpIsoPacketDescriptor.toBytes := by
  unfold UsbIpRetSubmit.toSocket
  rw [htransfer]
  dsimp only
  by_cases hdescs : trx.isoDescriptors = []
  · rw [if_neg fun hsends => (sends_iff hpackets hempty).mp hsends hdescs, hempty hdescs, hdescs,
      UInt32.toNat_zero, ite_self, sentPayload_zero, List.flatMap_nil, List.append_nil,
      List.append_nil]
  · rw [if_pos ((sends_iff hpackets hempty).mpr hdescs)]
    change _ ++ GenericTransferOperator.sendTransferData trx _ = _
    rw [GenericTransferOperator.sendTransferData_eq, List.append_assoc]
    rfl

/-- A reply is consistent if and only if its descriptors add up to its header, and nothing is
announced that is not sent. -/
theorem describesData_iso_generic_iff (hpackets : numberOfPackets.toNat = trx.isoDescriptors.length)
    (hempty : trx.isoDescriptors = [] → actualLength = 0) :
    DescribesData storageHandler (UsbIpRetSubmit.createRetSubmit seqnum status actualLength 0
        numberOfPackets (.generic owner trx)) ↔
      actualLength.toNat = packetBytes trx.isoDescriptors ∧
        (trx.isIn = true ∨ actualLength = 0) := by
  have hsocket : (UsbIpRetSubmit.createRetSubmit seqnum status actualLength 0 numberOfPackets
      (.generic owner trx)).toSocket storageHandler = _ :=
    toSocket_iso_generic rfl hpackets hempty
  constructor
  · intro h
    obtain ⟨hsum, data, hlength, hbytes⟩ := h owner trx rfl
    refine ⟨hsum, ?_⟩
    rw [hsocket, List.append_assoc, List.append_assoc] at hbytes
    have hdata := List.append_cancel_right (List.append_cancel_left hbytes)
    cases hin : trx.isIn with
    | true => exact .inl rfl
    | false =>
        rw [hin, if_neg Bool.false_ne_true, sentPayload_zero] at hdata
        rw [← hdata] at hlength
        exact .inr (UInt32.toNat.inj hlength.symm)
  · rintro ⟨hsum, hsends⟩ owner' trx' heq
    obtain ⟨rfl, rfl⟩ : owner = owner' ∧ trx = trx' := by
      cases heq
      exact ⟨rfl, rfl⟩
    refine ⟨hsum, _, ?_, hsocket⟩
    change (GenericTransferOperator.sentPayload trx
      (if trx.isIn then actualLength.toNat else 0)).length = actualLength.toNat
    by_cases hdescs : trx.isoDescriptors = []
    · rw [hempty hdescs, UInt32.toNat_zero, ite_self, sentPayload_zero]
      rfl
    · rw [length_sentPayload hdescs]
      rcases hsends with hin | hzero
      · rw [hin, if_pos rfl, hsum]
        split
        next => rfl
        next hnone => omega
      · rw [hzero, UInt32.toNat_zero, ite_self, if_neg (Nat.lt_irrefl 0)]

/-- What a handler has filled is answered consistently if and only if the packets that it has left
alone announce nothing and the total fits its field. -/
theorem describesData_replyPackets_iff {packets : FilledPackets}
    (hcount : trx.isoDescriptors.length < 2 ^ 32)
    (hreached : packets.written.length ≤ trx.isoDescriptors.length) :
    DescribesData storageHandler (replyPackets seqnum owner trx (some packets)) ↔
      bytesLeft packets.written trx.isoDescriptors = 0 ∧ bytesWritten packets.written < 2 ^ 32 ∧
        (trx.isIn = true ∨ bytesWritten packets.written = 0) := by
  have hactual : packetBytes (recordActual packets.written
      (trx.isoDescriptors.map fun iso => { iso with status := 0 })) =
        bytesWritten packets.written + bytesLeft packets.written trx.isoDescriptors := by
    rw [packetBytes_recordActual (by simpa using hreached), bytesLeft_map_status]
  have htotal := toNat_totalSent packets.written
  have hzero : totalSent packets.written = 0 ↔ bytesWritten packets.written % 2 ^ 32 = 0 := by
    rw [← htotal, ← UInt32.toNat_inj, UInt32.toNat_zero]
  obtain ⟨hpackets, hempty⟩ := announced_recordActual hcount hreached
  refine (describesData_iso_generic_iff hpackets hempty).trans ?_
  rw [hactual, htotal, hzero]
  cases trx.isIn with
  | true =>
      simp only [true_or, and_true]
      omega
  | false =>
      simp only [Bool.false_eq_true, false_or]
      omega

theorem describesData_stall :
    DescribesData storageHandler
      (.createRetSubmitEpipeWithoutData seqnum 0 : UsbIpRetSubmit Handler) :=
  fun _ _ htransfer => by cases htransfer

end Replies

/-- The packets that the plan leaves alone announce nothing, and the others fit the field of the
header. -/
def PacketPlan.Accounts (plan : PacketPlan) (trx : GenericTransfer) : Prop :=
  packetBytes (plan.leftAlone trx.isoDescriptors) = 0 ∧ plan.total < 2 ^ 32 ∧
    (trx.isIn = true ∨ plan.total = 0)

/-- What a handler answers that follows its plan. -/
theorem describesData_of_plan {storageHandler : Handler → MscBulkOnlyHandler} {seqnum : UInt32}
    {owner : Option Handler} {trx : GenericTransfer} {filled : Option FilledPackets}
    {plan : Option PacketPlan} (hcount : trx.isoDescriptors.length < 2 ^ 32)
    (hreached : ∀ packets, filled = some packets →
      packets.written.length ≤ trx.isoDescriptors.length)
    (hwritten : filled.map FilledPackets.written = plan.map PacketPlan.written)
    (hwritable : ∀ p ∈ plan, p.Writable) :
    DescribesData storageHandler (replyPackets seqnum owner trx filled) ↔
      ∀ p ∈ plan, p.Accounts trx := by
  cases filled with
  | none =>
      obtain rfl : plan = none := Option.map_eq_none_iff.mp hwritten.symm
      exact iff_of_true describesData_stall nofun
  | some packets =>
      obtain ⟨p, rfl, hpackets⟩ := Option.map_eq_some_iff.mp hwritten.symm
      refine (describesData_replyPackets_iff hcount (hreached packets rfl)).trans ?_
      rw [← hpackets, PacketPlan.bytesWritten_written (hwritable p rfl),
        PacketPlan.bytesLeft_written]
      simp only [Option.mem_def, Option.some.injEq, forall_eq', PacketPlan.Accounts]

/-- The sources answer consistently exactly where the packets that they leave alone announce
nothing and the others fit the field of the header. -/
theorem isochronousIn_consistent {storageHandler : Handler → MscBulkOnlyHandler} {seqnum : UInt32}
    {owner : Option Handler} {trx : GenericTransfer} (hcount : trx.isoDescriptors.length < 2 ^ 32)
    (numIsoPackets : Nat) :
    (∀ (handler : UvcVideoStreamingHandler) (now : Int) (getFrame : Option (List UInt8)),
      DescribesData storageHandler
          (handler.handleIsochronousTransfer seqnum owner trx numIsoPackets now getFrame).2 ↔
        ∀ plan ∈ handler.plan trx numIsoPackets now getFrame, plan.Accounts trx) ∧
    ∀ (handler : UacAudioStreamingSourceHandler) (applyVolume : List UInt8 → List UInt8),
      DescribesData storageHandler
          (handler.handleIsochronousTransfer seqnum owner trx numIsoPackets applyVolume).2 ↔
        ∀ plan ∈ handler.plan trx numIsoPackets, plan.Accounts trx := by
  constructor
  · intro handler now getFrame
    exact describesData_of_plan hcount
      (fun _ => UvcVideoStreamingHandler.length_written_fillPackets_le trx numIsoPackets)
      UvcVideoStreamingHandler.written_fillPackets UvcVideoStreamingHandler.writable_plan
  · intro handler applyVolume
    exact describesData_of_plan hcount
      (fun _ => UacAudioStreamingSourceHandler.length_written_fillPackets_le trx numIsoPackets
        applyVolume)
      UacAudioStreamingSourceHandler.written_fillPackets
      UacAudioStreamingSourceHandler.writable_plan

/-- A client's transfer of two packets, filled as far as they reach. -/
def clientPackets : GenericTransfer where
  data := .replicate 8 0
  isoDescriptors := [⟨0, 4, 4, 0⟩, ⟨4, 4, 4, 0⟩]
  actualLength := 0
  dataOffset := 0
  isIn := true

/-- A stream between two frames. -/
def startedStream : UvcVideoStreamingHandler where
  streaming := true
  committed := true
  frameBuffer := []
  frameOffset := 0
  currentFid := false
  frameStartedAt := 0
  frameInterval := 0

theorem isochronousIn_consistent_instance :
    DescribesData nofun (startedStream.handleIsochronousTransfer 1 (none : Option Empty)
      clientPackets 2 0 (some [1, 2, 3, 4])).2 := by
  refine ((isochronousIn_consistent (by decide) 2).1 startedStream 0 (some [1, 2, 3, 4])).mpr ?_
  rintro plan ⟨rfl⟩
  exact ⟨by decide, by decide, .inl rfl⟩

/-- The frame ends in the first packet, and the second still announces what the client has said. -/
theorem isochronousIn_inconsistent :
    ¬DescribesData nofun (startedStream.handleIsochronousTransfer 1 (none : Option Empty)
      clientPackets 2 0 (some [1])).2 := by
  intro h
  have hsum := (h none _ rfl).1
  revert hsum
  decide

end Usbipdcpp.VirtualDevice
