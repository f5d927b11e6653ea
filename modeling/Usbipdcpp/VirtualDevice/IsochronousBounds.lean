import Usbipdcpp.VirtualDevice.IsochronousConsistency

namespace Usbipdcpp.VirtualDevice

open Foundation.ByteStream Protocol

variable {Handler : Type}

/-- `size` bytes of a buffer from `offset` on. -/
structure BufferRange where
  offset : Nat
  size : Nat
  deriving DecidableEq, Repr

/-- Each byte of the range is one of the buffer's. -/
def BufferRange.Inside (range : BufferRange) (buffer : List UInt8) : Prop :=
  ∀ i, range.offset ≤ i → i < range.offset + range.size → i < buffer.length

theorem BufferRange.inside_iff {range : BufferRange} {buffer : List UInt8} :
    range.Inside buffer ↔ range.size = 0 ∨ range.offset + range.size ≤ buffer.length := by
  constructor
  · intro h
    rcases Nat.eq_zero_or_pos range.size with hzero | hpos
    · exact .inl hzero
    · have hlast := h (range.offset + range.size - 1) (by omega) (by omega)
      exact .inr (by omega)
  · intro h i hfrom hto
    omega

instance (range : BufferRange) (buffer : List UInt8) : Decidable (range.Inside buffer) :=
  decidable_of_iff _ BufferRange.inside_iff.symm

/-- The part of the buffer that `n` bytes of a packet lie in. -/
def packetRange (iso : UsbIpIsoPacketDescriptor) (n : Nat) : BufferRange where
  offset := iso.offset.toNat
  size := n

theorem inside_packetRange {iso : UsbIpIsoPacketDescriptor} {n : Nat} {buffer : List UInt8} :
    (packetRange iso n).Inside buffer ↔ n = 0 ∨ iso.offset.toNat + n ≤ buffer.length :=
  BufferRange.inside_iff

theorem inside_announced {iso : UsbIpIsoPacketDescriptor} {buffer : List UInt8} :
    (packetRange iso iso.actualLength.toNat).Inside buffer ↔ iso.actualLength = 0 ∨
      iso.offset.toNat + iso.actualLength.toNat ≤ buffer.length :=
  inside_packetRange.trans (or_congr_left (UInt32.toNat_inj (b := 0)))

/-- What is read of two buffers is the same where they are. -/
theorem bytesAt_congr {data data' : List UInt8} {offset n : Nat}
    (h : ∀ i, offset ≤ i → i < offset + n → data'[i]? = data[i]?) :
    bytesAt data' offset n = bytesAt data offset n := by
  refine List.map_congr_left fun i hi => ?_
  have hwithin : i < n := List.mem_range.mp hi
  rw [List.getD_eq_getElem?_getD, List.getD_eq_getElem?_getD,
    h _ (Nat.le_add_right _ _) (Nat.add_lt_add_left hwithin _)]

theorem bytesAt_storeAt {buffer bytes : List UInt8} {offset : Nat}
    (h : offset + bytes.length ≤ buffer.length) :
    bytesAt (storeAt buffer offset bytes) offset bytes.length = bytes := by
  rw [bytesAt_eq_take_drop (by rwa [length_storeAt h])]
  exact take_drop_storeAt (le_trans (Nat.le_add_right _ _) h) bytes

/-- A buffer after bytes have been stored in the ranges, one behind the other. -/
inductive Stores : List UInt8 → List BufferRange → List UInt8 → Prop
  | nil (data : List UInt8) : Stores data [] data
  | cons {data data' : List UInt8} {range : BufferRange} {ranges : List BufferRange}
      (bytes : List UInt8) (hsize : bytes.length = range.size)
      (hrest : Stores (storeAt data range.offset bytes) ranges data') :
      Stores data (range :: ranges) data'

/-- The ranges that a loop stores into which has left the lengths `written`. -/
def writes : List (Option UInt32) → List UsbIpIsoPacketDescriptor → List BufferRange
  | some actualLength :: written, iso :: descs =>
      packetRange iso actualLength.toNat :: writes written descs
  | none :: written, _ :: descs => writes written descs
  | _, _ => []

/-- A body stores just the bytes of the packet whose length it writes. -/
def PacketLoop.StoresPackets {σ : Type} (loop : PacketLoop σ) (data : σ → List UInt8) : Prop :=
  ∀ s iso, match (loop.body s iso).1 with
    | none => data (loop.body s iso).2 = data s
    | some actualLength => ∃ bytes : List UInt8, bytes.length = actualLength.toNat ∧
        data (loop.body s iso).2 = storeAt (data s) iso.offset.toNat bytes

theorem PacketLoop.stores_run {σ : Type} {loop : PacketLoop σ} {data : σ → List UInt8}
    (h : loop.StoresPackets data) (numIsoPackets : Nat) (descs : List UsbIpIsoPacketDescriptor)
    (s : σ) :
    Stores (data s) (writes (loop.run numIsoPackets descs s).1 descs)
      (data (loop.run numIsoPackets descs s).2) := by
  induction descs generalizing numIsoPackets s with
  | nil => cases numIsoPackets <;> exact .nil _
  | cons iso descs ih =>
      cases numIsoPackets with
      | zero => exact .nil _
      | succ n =>
          have hrest := ih n (loop.body s iso).2
          have hbody := h s iso
          unfold run
          split
          next =>
            dsimp only
            split at hbody
            next hnone =>
              rw [hnone, ← hbody]
              exact hrest
            next actualLength hsome =>
              obtain ⟨bytes, hbytes, hstored⟩ := hbody
              rw [hsome]
              rw [hstored] at hrest
              exact .cons bytes hbytes hrest
          next => exact .nil _

namespace UvcVideoStreamingHandler

theorem storesPackets (handler : UvcVideoStreamingHandler) :
    handler.packetLoop.StoresPackets FrameCursor.data := by
  intro s iso
  have hlength := iso.length.toNat_lt
  simp only [packetLoop]
  by_cases hshort : iso.length.toNat < payloadHeaderSize
  · rw [if_pos hshort]
    exact ⟨[], rfl, by simp [storeAt]⟩
  · rw [if_neg hshort]
    refine ⟨_, ?_, rfl⟩
    have hchunk : payloadHeaderSize +
        min (iso.length.toNat - payloadHeaderSize) (handler.frameBuffer.length - s.frameOffset) <
          2 ^ 32 := by
      omega
    rw [UInt32.toNat_ofNat', Nat.mod_eq_of_lt hchunk]
    simp only [List.length_cons, List.length_take, List.length_drop, payloadHeaderSize]
    omega

theorem stores_fillPackets {handler : UvcVideoStreamingHandler} {trx : GenericTransfer}
    {numIsoPackets : Nat} {now : Int} {getFrame : Option (List UInt8)} {packets : FilledPackets}
    (h : (handler.fillPackets trx numIsoPackets now getFrame).2 = some packets) :
    Stores trx.data (writes packets.written trx.isoDescriptors) packets.data := by
  unfold fillPackets at h
  split at h
  next => cases h
  next =>
    split at h
    next =>
      cases h
      cases trx.isoDescriptors <;> exact .nil _
    next =>
      split at h
      next => cases h
      next handler' _ =>
        cases h
        exact PacketLoop.stores_run handler'.storesPackets numIsoPackets trx.isoDescriptors
          ⟨trx.data, handler'.frameOffset⟩

end UvcVideoStreamingHandler

namespace PcmSource

variable {applyVolume : List UInt8 → List UInt8}

theorem length_pullPcm (hvolume : ∀ pcm, (applyVolume pcm).length = pcm.length)
    (chunks : List (List UInt8)) (chunk : List UInt8) (n : Nat) :
    (pullPcm applyVolume chunks chunk n).1.length = n := by
  induction chunks generalizing chunk n with
  | nil =>
      simp only [pullPcm, List.length_append, hvolume, List.length_take, List.length_replicate]
      omega
  | cons next chunks ih =>
      unfold pullPcm
      split
      next hchunk => simpa only [hvolume, List.length_take] using Nat.min_eq_left hchunk
      next hchunk =>
        simp only [List.length_append, hvolume, ih]
        omega

theorem length_fillPcm (hvolume : ∀ pcm, (applyVolume pcm).length = pcm.length) (n : Nat)
    (source : PcmSource) : (source.fillPcm applyVolume n).1.length = n := by
  unfold fillPcm
  split
  next => exact List.length_replicate
  next => exact length_pullPcm hvolume _ _ _

end PcmSource

namespace UacAudioStreamingSourceHandler

/-- The volume is applied sample by sample. -/
theorem storesPackets {applyVolume : List UInt8 → List UInt8}
    (hvolume : ∀ pcm, (applyVolume pcm).length = pcm.length)
    (handler : UacAudioStreamingSourceHandler) :
    (handler.packetLoop applyVolume).StoresPackets PcmCursor.data := by
  intro s iso
  unfold packetLoop
  dsimp only
  generalize (if s.packetResidueAcc + handler.packetResidueStep ≥
      handler.packetFramesize * handler.packetInterval then _ else _ : Nat × Nat) = packet
  obtain ⟨due, acc⟩ := packet
  dsimp only
  by_cases hnone : min iso.length.toNat due = 0
  · rw [if_pos hnone]
  · have hwant : min iso.length.toNat due < 2 ^ 32 :=
      lt_of_le_of_lt (Nat.min_le_left _ _) iso.length.toNat_lt
    rw [if_neg hnone]
    refine ⟨_, ?_, rfl⟩
    rw [PcmSource.length_fillPcm hvolume, UInt32.toNat_ofNat', Nat.mod_eq_of_lt hwant]

theorem stores_fillPackets {handler : UacAudioStreamingSourceHandler} {trx : GenericTransfer}
    {numIsoPackets : Nat} {applyVolume : List UInt8 → List UInt8} {packets : FilledPackets}
    (hvolume : ∀ pcm, (applyVolume pcm).length = pcm.length)
    (h : (handler.fillPackets trx numIsoPackets applyVolume).2 = some packets) :
    Stores trx.data (writes packets.written trx.isoDescriptors) packets.data := by
  unfold fillPackets at h
  split at h
  next =>
    cases h
    exact PacketLoop.stores_run (storesPackets hvolume handler) numIsoPackets trx.isoDescriptors
      ⟨trx.data, handler.packetResidueAcc, handler.source⟩
  next => cases h

end UacAudioStreamingSourceHandler

/-- The ranges that `send_transfer_data` sends. -/
def reads (trx : GenericTransfer) (length : Nat) : List BufferRange :=
  if trx.isoDescriptors = [] then [⟨trx.dataOffset, length⟩]
  else if 0 < length then
    trx.isoDescriptors.map fun iso => packetRange iso iso.actualLength.toNat
  else []

theorem sentPayload_eq_reads (trx : GenericTransfer) (length : Nat) :
    GenericTransferOperator.sentPayload trx length =
      (reads trx length).flatMap fun range => bytesAt trx.data range.offset range.size := by
  unfold GenericTransferOperator.sentPayload reads
  split
  next => exact (List.flatMap_singleton _ _).symm
  next =>
    split
    next =>
      rw [List.flatMap_map]
      rfl
    next => rfl

/-- The ranges that a reply over a generic transfer sends. -/
def replyReads (ret : UsbIpRetSubmit Handler) : List BufferRange :=
  match ret.transfer with
  | some (.generic _ trx) =>
      if ret.actualLength > 0 ∨ ret.numberOfPackets > 0 then
        reads trx (if trx.isIn then ret.actualLength.toNat else 0)
      else []
  | _ => []

/-- What a handler has stored in the buffer of a transfer, and what the reply sends of it, lies in
the buffer. -/
def InBounds (trx : GenericTransfer) (filled : Option FilledPackets)
    (ret : UsbIpRetSubmit Handler) : Prop :=
  (∀ packets ∈ filled, ∀ range ∈ writes packets.written trx.isoDescriptors,
      range.Inside trx.data) ∧
    ∀ range ∈ replyReads ret, range.Inside trx.data

/-- A reply that announces the packets of its transfer sends them where it announces data. -/
theorem forall_replyReads {seqnum status actualLength numberOfPackets : UInt32}
    {owner : Option Handler} {trx : GenericTransfer} {P : BufferRange → Prop}
    (hpackets : numberOfPackets.toNat = trx.isoDescriptors.length)
    (hempty : trx.isoDescriptors = [] → actualLength = 0) :
    (∀ range ∈ replyReads (.createRetSubmit seqnum status actualLength 0 numberOfPackets
        (.generic owner trx)), P range) ↔
      (trx.isIn = true → actualLength.toNat ≠ 0 →
        ∀ iso ∈ trx.isoDescriptors, P (packetRange iso iso.actualLength.toNat)) := by
  change (∀ range ∈ (if actualLength > 0 ∨ numberOfPackets > 0 then
    reads trx (if trx.isIn then actualLength.toNat else 0) else []), P range) ↔ _
  by_cases hdescs : trx.isoDescriptors = []
  · rw [if_neg fun hsends => (sends_iff hpackets hempty).mp hsends hdescs, hdescs]
    exact iff_of_true nofun fun _ _ => nofun
  · rw [if_pos ((sends_iff hpackets hempty).mpr hdescs), reads, if_neg hdescs]
    cases trx.isIn with
    | false => exact iff_of_true nofun nofun
    | true =>
        rw [if_pos rfl, forall_prop_of_true rfl]
        by_cases hlength : 0 < actualLength.toNat
        · rw [if_pos hlength, forall_prop_of_true (Nat.ne_of_gt hlength), List.forall_mem_map]
        · rw [if_neg hlength]
          exact iff_of_true nofun fun hsome => absurd (Nat.pos_of_ne_zero hsome) hlength

theorem writes_written {plan : PacketPlan} (h : plan.Writable)
    (descs : List UsbIpIsoPacketDescriptor) :
    writes plan.written descs = (plan.filled descs).map fun p => packetRange p.1 p.2 := by
  induction plan generalizing descs with
  | nil => cases descs <;> rfl
  | cons size plan ih =>
      obtain ⟨hsize, hplan⟩ := h.of_cons
      cases descs with
      | nil => cases size <;> rfl
      | cons iso descs =>
          cases size with
          | none => exact ih hplan descs
          | some n =>
              have hwritten : (UInt32.ofNat n).toNat = n := UInt32.toNat_ofNat_of_lt' hsize
              change packetRange iso (UInt32.ofNat n).toNat ::
                writes (PacketPlan.written plan) descs = _
              rw [ih hplan, hwritten]
              rfl

/-- Each packet that is sent back has the range that it has been filled in, or the one that the
client has announced. -/
theorem forall_recordActual {plan : PacketPlan} (h : plan.Writable)
    (descs : List UsbIpIsoPacketDescriptor) (P : BufferRange → Prop) :
    (∀ iso ∈ recordActual plan.written (descs.map fun iso => { iso with status := 0 }),
        P (packetRange iso iso.actualLength.toNat)) ↔
      (∀ p ∈ plan.filled descs, P (packetRange p.1 p.2)) ∧
        ∀ iso ∈ plan.leftAlone descs, P (packetRange iso iso.actualLength.toNat) := by
  induction plan generalizing descs with
  | nil =>
      have hrecord : recordActual (PacketPlan.written [])
          (descs.map fun iso => { iso with status := 0 }) =
            descs.map fun iso => { iso with status := 0 } := by
        cases descs <;> rfl
      rw [hrecord, List.forall_mem_map]
      cases descs <;> simp [PacketPlan.filled, PacketPlan.leftAlone, packetRange]
  | cons size plan ih =>
      obtain ⟨hsize, hplan⟩ := h.of_cons
      cases descs with
      | nil => cases size <;> simp [PacketPlan.written, PacketPlan.filled, PacketPlan.leftAlone,
          recordActual]
      | cons iso descs =>
          cases size with
          | none =>
              simp only [PacketPlan.filled, PacketPlan.leftAlone, List.forall_mem_cons]
              rw [and_left_comm, ← ih hplan descs]
              exact List.forall_mem_cons
          | some n =>
              have hwritten : (UInt32.ofNat n).toNat = n := UInt32.toNat_ofNat_of_lt' hsize
              simp only [PacketPlan.filled, PacketPlan.leftAlone, List.forall_mem_cons]
              rw [and_assoc, ← ih hplan descs]
              refine List.forall_mem_cons.trans (and_congr_left' ?_)
              change P (packetRange iso (UInt32.ofNat n).toNat) ↔ _
              rw [hwritten]

/-- The packets that get something lie in the buffer, and so do those that are left alone where
the reply sends them too. -/
def PacketPlan.InBuffer (plan : PacketPlan) (bufferLength : Nat) (trx : GenericTransfer) : Prop :=
  (∀ p ∈ plan.filled trx.isoDescriptors, p.2 = 0 ∨ p.1.offset.toNat + p.2 ≤ bufferLength) ∧
    (trx.isIn = true → plan.total % 2 ^ 32 ≠ 0 →
      ∀ iso ∈ plan.leftAlone trx.isoDescriptors,
        iso.actualLength = 0 ∨ iso.offset.toNat + iso.actualLength.toNat ≤ bufferLength)

theorem inBounds_replyPackets_iff {seqnum : UInt32} {owner : Option Handler}
    {trx : GenericTransfer} {plan : PacketPlan} {data : List UInt8}
    (hcount : trx.isoDescriptors.length < 2 ^ 32)
    (hreached : plan.written.length ≤ trx.isoDescriptors.length) (h : plan.Writable) :
    InBounds trx (some ⟨plan.written, data⟩)
        (replyPackets seqnum owner trx (some ⟨plan.written, data⟩)) ↔
      plan.InBuffer trx.data.length trx := by
  have htotal : (totalSent plan.written).toNat = plan.total % 2 ^ 32 := by
    rw [toNat_totalSent, PacketPlan.bytesWritten_written h]
  have hwrites : (∀ range ∈ writes plan.written trx.isoDescriptors, range.Inside trx.data) ↔
      ∀ p ∈ plan.filled trx.isoDescriptors, (packetRange p.1 p.2).Inside trx.data := by
    rw [writes_written h, List.forall_mem_map]
  have hsent := forall_recordActual h trx.isoDescriptors fun range => range.Inside trx.data
  simp only [InBounds, PacketPlan.InBuffer, Option.mem_def, Option.some.injEq, forall_eq', hwrites,
    ← inside_packetRange, ← inside_announced]
  refine and_congr_right fun hfilled => ?_
  obtain ⟨hpackets, hempty⟩ := announced_recordActual hcount hreached
  refine (forall_replyReads hpackets hempty).trans ?_
  rw [htotal]
  refine forall_congr' fun hin => forall_congr' fun hsends => ?_
  rw [hsent]
  exact and_iff_right hfilled

/-- What a handler does that follows its plan. -/
theorem inBounds_of_plan {seqnum : UInt32} {owner : Option Handler} {trx : GenericTransfer}
    {filled : Option FilledPackets} {plan : Option PacketPlan}
    (hcount : trx.isoDescriptors.length < 2 ^ 32)
    (hreached : ∀ packets, filled = some packets →
      packets.written.length ≤ trx.isoDescriptors.length)
    (hwritten : filled.map FilledPackets.written = plan.map PacketPlan.written)
    (hwritable : ∀ p ∈ plan, p.Writable) :
    InBounds trx filled (replyPackets seqnum owner trx filled) ↔
      ∀ p ∈ plan, p.InBuffer trx.data.length trx := by
  rcases filled with _ | ⟨written, data⟩
  · obtain rfl : plan = none := Option.map_eq_none_iff.mp hwritten.symm
    exact iff_of_true ⟨nofun, nofun⟩ nofun
  · obtain ⟨p, rfl, rfl⟩ := Option.map_eq_some_iff.mp hwritten.symm
    refine (inBounds_replyPackets_iff hcount (hreached _ rfl) (hwritable p rfl)).trans ?_
    simp only [Option.mem_def, Option.some.injEq, forall_eq']

section Accepted

variable {ctx : ReceiveContext Handler} {s rest : List UInt8} {cmd : UsbIpCmdSubmit Handler}
  {owner : Option Handler} {trx : GenericTransfer}

/-- The transfer of an accepted command has the buffer and the packets that the client
announces. -/
theorem lengths_of_accepted (h : UsbIpCmdSubmit.fromSocket ctx s = .ok (cmd, rest))
    (htransfer : cmd.transfer = .generic owner trx) :
    trx.data.length = cmd.transferBufferLength.toNat ∧
      trx.isoDescriptors.length = cmd.numIso := by
  obtain ⟨mid, handle, -, -, halloc, hrecv⟩ := UsbIpCmdSubmit.fromSocket_eq_ok_iff.mp h
  have hpackets := hasPackets_of_recvTransferData (hasPackets_of_allocTransferHandle halloc) hrecv
  have hop := getOperator_of_allocTransferHandle halloc
  rw [← getOperator_of_recvTransferData hrecv, htransfer] at hop
  rw [CmdSubmitFields.allocTransferHandle, ← hop] at halloc
  cases halloc
  obtain ⟨trx', left, hreceived, hpure⟩ := bind_eq_ok_iff.mp hrecv
  rw [htransfer] at hpure hpackets
  cases hpure
  refine ⟨(GenericTransferOperator.length_data_of_recvTransferData ?_ hreceived).trans
    List.length_replicate, hpackets⟩
  change cmd.dataLength ≤ (List.replicate cmd.transferBufferLength.toNat (0 : UInt8)).length
  rw [List.length_replicate, CmdSubmitFields.dataLength]
  split
  next => exact Nat.zero_le _
  next => exact Nat.le_refl _

end Accepted

/-- The sources, and the replies that they have sent, keep to the buffer exactly where the packets
that get something lie in it, and, where data is sent, the others do so as the client announces
them. -/
theorem isochronousIn_inBounds {ctx : ReceiveContext Handler} {s rest : List UInt8}
    {cmd : UsbIpCmdSubmit Handler} {owner : Option Handler} {trx : GenericTransfer}
    (haccepted : UsbIpCmdSubmit.fromSocket ctx s = .ok (cmd, rest))
    (htransfer : cmd.transfer = .generic owner trx) (seqnum : UInt32) :
    (∀ (handler : UvcVideoStreamingHandler) (now : Int) (getFrame : Option (List UInt8)),
      InBounds trx (handler.fillPackets trx cmd.numIso now getFrame).2
          (handler.handleIsochronousTransfer seqnum owner trx cmd.numIso now getFrame).2 ↔
        ∀ plan ∈ handler.plan trx cmd.numIso now getFrame,
          plan.InBuffer cmd.transferBufferLength.toNat trx) ∧
    ∀ (handler : UacAudioStreamingSourceHandler) (applyVolume : List UInt8 → List UInt8),
      InBounds trx (handler.fillPackets trx cmd.numIso applyVolume).2
          (handler.handleIsochronousTransfer seqnum owner trx cmd.numIso applyVolume).2 ↔
        ∀ plan ∈ handler.plan trx cmd.numIso,
          plan.InBuffer cmd.transferBufferLength.toNat trx := by
  obtain ⟨hbuffer, hpackets⟩ := lengths_of_accepted haccepted htransfer
  have hcount : trx.isoDescriptors.length < 2 ^ 32 := by
    rw [hpackets]
    unfold CmdSubmitFields.numIso
    split
    next => exact cmd.numberOfPackets.toNat_lt
    next => exact Nat.two_pow_pos 32
  rw [← hbuffer]
  constructor
  · intro handler now getFrame
    exact inBounds_of_plan hcount
      (fun _ => UvcVideoStreamingHandler.length_written_fillPackets_le trx cmd.numIso)
      UvcVideoStreamingHandler.written_fillPackets UvcVideoStreamingHandler.writable_plan
  · intro handler applyVolume
    exact inBounds_of_plan hcount
      (fun _ => UacAudioStreamingSourceHandler.length_written_fillPackets_le trx cmd.numIso
        applyVolume)
      UacAudioStreamingSourceHandler.written_fillPackets
      UacAudioStreamingSourceHandler.writable_plan

/-- A client's command for eight bytes from endpoint 1. -/
def eightBytesIn : CmdSubmitFields where
  header := ⟨usbipCmdSubmit, 7, 0x10001, UsbIpDirection.in_, 1⟩
  transferFlags := 0
  transferBufferLength := 8
  startFrame := 0
  numberOfPackets := 2
  interval := 1
  setup := ⟨0, 0, 0, 0, 0⟩

theorem isochronousIn_inBounds_instance :
    InBounds clientPackets (startedStream.fillPackets clientPackets 2 0 (some [1, 2, 3, 4])).2
      (startedStream.handleIsochronousTransfer 7 (none : Option Unit) clientPackets 2 0
        (some [1, 2, 3, 4])).2 := by
  have haccepted : UsbIpCmdSubmit.fromSocket genericDevice
      (eightBytesIn.toBytes ++ clientPackets.isoDescriptors.flatMap
        UsbIpIsoPacketDescriptor.toBytes) =
      .ok ({ eightBytesIn with transfer := .generic none clientPackets }, []) := rfl
  refine ((isochronousIn_inBounds haccepted rfl 7).1 startedStream 0 (some [1, 2, 3, 4])).mpr ?_
  rintro plan ⟨rfl⟩
  exact ⟨by decide, by decide⟩

/-- The second packet reaches past the buffer. -/
def strayPackets : GenericTransfer :=
  { clientPackets with isoDescriptors := [⟨0, 4, 0, 0⟩, ⟨6, 4, 0, 0⟩] }

theorem isochronousIn_outOfBounds :
    UsbIpCmdSubmit.fromSocket genericDevice
        (eightBytesIn.toBytes ++ strayPackets.isoDescriptors.flatMap
          UsbIpIsoPacketDescriptor.toBytes) =
        .ok ({ eightBytesIn with transfer := .generic none strayPackets }, []) ∧
      ¬InBounds strayPackets (startedStream.fillPackets strayPackets 2 0 (some [1, 2, 3, 4])).2
        (startedStream.handleIsochronousTransfer 7 (none : Option Unit) strayPackets 2 0
          (some [1, 2, 3, 4])).2 := by
  refine ⟨rfl, fun h => ?_⟩
  have hrange := h.1 _ rfl (packetRange ⟨6, 4, 0, 0⟩ 4) (by decide)
  revert hrange
  decide

end Usbipdcpp.VirtualDevice
