import Usbipdcpp.Protocol.ReplyFraming

namespace Usbipdcpp.VirtualDevice

open Protocol

/-- A loop over the packets of a transfer: while `goesOn`, the next packet is given to `body`,
which tells the length it leaves in the packet's descriptor, if it writes one at all. -/
structure PacketLoop (σ : Type) where
  goesOn : σ → Bool
  body : σ → UsbIpIsoPacketDescriptor → Option UInt32 × σ

namespace PacketLoop

/-- The lengths left in the packets that the loop has reached, and the state it ends in. -/
def run {σ : Type} (loop : PacketLoop σ) :
    Nat → List UsbIpIsoPacketDescriptor → σ → List (Option UInt32) × σ
  | numIsoPackets + 1, iso :: descs, s =>
      if loop.goesOn s then
        let (written, s) := loop.body s iso
        let (rest, s) := loop.run numIsoPackets descs s
        (written :: rest, s)
      else ([], s)
  | _, _, s => ([], s)

theorem length_run_le {σ : Type} (loop : PacketLoop σ) (numIsoPackets : Nat)
    (descs : List UsbIpIsoPacketDescriptor) (s : σ) :
    (loop.run numIsoPackets descs s).1.length ≤ descs.length := by
  induction descs generalizing numIsoPackets s with
  | nil => cases numIsoPackets <;> simp [run]
  | cons iso descs ih =>
      cases numIsoPackets with
      | zero => simp [run]
      | succ n =>
          have hrest := ih n (loop.body s iso).2
          unfold run
          split
          · exact Nat.succ_le_succ hrest
          · exact Nat.zero_le _

end PacketLoop

/-- The descriptors with the lengths that a loop has written. -/
def recordActual : List (Option UInt32) → List UsbIpIsoPacketDescriptor →
    List UsbIpIsoPacketDescriptor
  | some actualLength :: written, iso :: descs =>
      { iso with actualLength } :: recordActual written descs
  | none :: written, iso :: descs => iso :: recordActual written descs
  | [], descs => descs
  | _, [] => []

/-- The sum that a loop forms of the lengths it writes. -/
def totalSent (written : List (Option UInt32)) : UInt32 :=
  written.foldl (fun total actualLength => total + actualLength.getD 0) 0

/-- The bytes that a loop has put into packets. -/
def bytesWritten (written : List (Option UInt32)) : Nat :=
  (written.map fun actualLength => (actualLength.getD 0).toNat).sum

/-- The bytes that the client's descriptors announce for packets which a loop has not written. -/
def bytesLeft : List (Option UInt32) → List UsbIpIsoPacketDescriptor → Nat
  | some _ :: written, _ :: descs => bytesLeft written descs
  | none :: written, iso :: descs => iso.actualLength.toNat + bytesLeft written descs
  | [], descs => packetBytes descs
  | _, [] => 0

@[simp] theorem length_recordActual (written : List (Option UInt32))
    (descs : List UsbIpIsoPacketDescriptor) :
    (recordActual written descs).length = descs.length := by
  fun_induction recordActual written descs with
  | case1 actualLength written iso descs ih => simp [ih]
  | case2 written iso descs ih => simp [ih]
  | case3 descs => rfl
  | case4 written => rfl

/-- Each packet that is sent back holds either what the loop has put into it or what the client
has announced. -/
theorem packetBytes_recordActual {written : List (Option UInt32)}
    {descs : List UsbIpIsoPacketDescriptor} (h : written.length ≤ descs.length) :
    packetBytes (recordActual written descs) = bytesWritten written + bytesLeft written descs := by
  fun_induction recordActual written descs with
  | case1 actualLength written iso descs ih =>
      have hrest := ih (Nat.le_of_succ_le_succ h)
      simp only [packetBytes_cons, hrest, bytesLeft, bytesWritten, List.map_cons, List.sum_cons,
        Option.getD_some]
      omega
  | case2 written iso descs ih =>
      have hrest := ih (Nat.le_of_succ_le_succ h)
      simp only [packetBytes_cons, hrest, bytesLeft, bytesWritten, List.map_cons, List.sum_cons,
        Option.getD_none, UInt32.toNat_zero]
      omega
  | case3 descs => simp [bytesWritten, bytesLeft]
  | case4 written hwritten =>
      exact absurd (List.eq_nil_of_length_eq_zero (Nat.le_zero.mp h)) hwritten

theorem toNat_totalSent (written : List (Option UInt32)) :
    (totalSent written).toNat = bytesWritten written % 2 ^ 32 := by
  have hfold (total : UInt32) :
      (written.foldl (fun total actualLength => total + actualLength.getD 0) total).toNat =
        (total.toNat + bytesWritten written) % 2 ^ 32 := by
    induction written generalizing total with
    | nil => exact (Nat.mod_eq_of_lt total.toNat_lt).symm
    | cons actualLength written ih =>
        rw [List.foldl_cons, ih, UInt32.toNat_add]
        simp only [bytesWritten, List.map_cons, List.sum_cons]
        omega
  have htotal := hfold 0
  rwa [UInt32.toNat_zero, Nat.zero_add] at htotal

/-- What a handler makes of the packets of a transfer. -/
structure FilledPackets where
  written : List (Option UInt32)
  data : List UInt8
  deriving DecidableEq, Repr

variable {Handler : Type}

/-- The answer to an isochronous URB: its packets with the statuses cleared, or a stall. -/
def replyPackets (seqnum : UInt32) (owner : Option Handler) (trx : GenericTransfer) :
    Option FilledPackets → UsbIpRetSubmit Handler
  | none => .createRetSubmitEpipeWithoutData seqnum 0
  | some filled =>
      let isoDescs := trx.isoDescriptors.map fun iso => { iso with status := 0 }
      .createRetSubmit seqnum UrbStatusType.statusOK (totalSent filled.written) 0
        (.ofNat isoDescs.length)
        (.generic owner
          { trx with data := filled.data, isoDescriptors := recordActual filled.written isoDescs })

/-- What the packets sent back announce is what the header says: nothing is sent at all, or the
client announces nothing for the packets that are left alone. -/
def AccountsForData (trx : GenericTransfer) (written : List (Option UInt32)) : Prop :=
  trx.isIn = false ∨ bytesWritten written % 2 ^ 32 = 0 ∨
    bytesLeft written trx.isoDescriptors = 0 ∧ bytesWritten written < 2 ^ 32

theorem bytesLeft_map_status (written : List (Option UInt32))
    (descs : List UsbIpIsoPacketDescriptor) :
    bytesLeft written (descs.map fun iso => { iso with status := 0 }) =
      bytesLeft written descs := by
  fun_induction bytesLeft written descs with
  | case1 actualLength written iso descs ih => simpa [bytesLeft] using ih
  | case2 written iso descs ih => simpa [bytesLeft] using ih
  | case3 descs => simp [bytesLeft, packetBytes, Function.comp_def]
  | case4 written hwritten => simp [bytesLeft]

/-- The number of packets that a reply announces is that of its descriptors, and one without
descriptors announces no data. -/
theorem announced_recordActual {written : List (Option UInt32)}
    {descs : List UsbIpIsoPacketDescriptor} (hcount : descs.length < 2 ^ 32)
    (hreached : written.length ≤ descs.length) :
    let isoDescs := descs.map fun iso => { iso with status := 0 }
    (UInt32.ofNat isoDescs.length).toNat = (recordActual written isoDescs).length ∧
      (recordActual written isoDescs = [] → totalSent written = 0) := by
  constructor
  · simp only [UInt32.toNat_ofNat', length_recordActual, List.length_map]
    omega
  · intro hdescs
    have hnone : descs.length = 0 := by
      simpa using congrArg List.length hdescs
    have hnothing : written = [] :=
      List.eq_nil_of_length_eq_zero (Nat.le_zero.mp (hnone ▸ hreached))
    rw [hnothing]
    rfl

theorem framed_replyPackets_iff {storageHandler : Handler → MscBulkOnlyHandler} {seqnum : UInt32}
    {owner : Option Handler} {trx : GenericTransfer} {filled : Option FilledPackets}
    (hcount : trx.isoDescriptors.length < 2 ^ 32)
    (hreached : ∀ packets ∈ filled, packets.written.length ≤ trx.isoDescriptors.length) :
    (replyPackets seqnum owner trx filled).Framed storageHandler ↔
      ∀ packets ∈ filled, AccountsForData trx packets.written := by
  rcases filled with _ | packets
  · exact iff_of_true (UsbIpRetSubmit.framed_of_header_only rfl rfl) nofun
  have hwritten := hreached packets rfl
  have hactual : packetBytes (recordActual packets.written
      (trx.isoDescriptors.map fun iso => { iso with status := 0 })) =
        bytesWritten packets.written + bytesLeft packets.written trx.isoDescriptors := by
    rw [packetBytes_recordActual (by simpa using hwritten), bytesLeft_map_status]
  have htotal := toNat_totalSent packets.written
  have hzero : totalSent packets.written = 0 ↔ bytesWritten packets.written % 2 ^ 32 = 0 := by
    rw [← htotal, ← UInt32.toNat_inj, UInt32.toNat_zero]
  obtain ⟨hpackets, hempty⟩ := announced_recordActual hcount hwritten
  refine (UsbIpRetSubmit.framed_iso_generic_iff hpackets hempty).trans ?_
  simp only [hactual, htotal, hzero, Option.mem_def, Option.some.injEq, forall_eq',
    AccountsForData]
  refine or_congr_right (or_congr_right ?_)
  omega

section Handlers

variable (seqnum : UInt32) (owner : Option Handler) (trx : GenericTransfer) (numIsoPackets : Nat)

/-- The video handler with the frame it is sending; the times are points on the steady clock. -/
structure UvcVideoStreamingHandler where
  streaming : Bool
  committed : Bool
  frameBuffer : List UInt8
  frameOffset : Nat
  currentFid : Bool
  frameStartedAt : Int
  frameInterval : Int
  deriving DecidableEq, Repr

/-- The buffer of the transfer and the part of the frame that has been sent. -/
structure FrameCursor where
  data : List UInt8
  frameOffset : Nat
  deriving DecidableEq, Repr

namespace UvcVideoStreamingHandler

def payloadHeaderSize : Nat := 2

def payloadHeaderFid : UInt8 := 0x01

def payloadHeaderEof : UInt8 := 0x80

/-- The loop that spreads the frame over the packets. -/
def packetLoop (handler : UvcVideoStreamingHandler) : PacketLoop FrameCursor where
  goesOn s := decide (0 < handler.frameBuffer.length - s.frameOffset)
  body s iso :=
    if iso.length.toNat < payloadHeaderSize then (some 0, s)
    else
      let chunk := min (iso.length.toNat - payloadHeaderSize)
        (handler.frameBuffer.length - s.frameOffset)
      let fid := if handler.currentFid then payloadHeaderFid else 0
      let headerInfo :=
        if s.frameOffset + chunk ≥ handler.frameBuffer.length then fid ||| payloadHeaderEof
        else fid
      (some (.ofNat (payloadHeaderSize + chunk)),
        { data := storeAt s.data iso.offset.toNat
            (.ofNat payloadHeaderSize :: headerInfo ::
              (handler.frameBuffer.drop s.frameOffset).take chunk)
          frameOffset := s.frameOffset + chunk })

/-- The handler with a frame to send, the next one of the source between two frames. -/
def nextFrame (now : Int) (getFrame : Option (List UInt8)) (handler : UvcVideoStreamingHandler) :
    Option UvcVideoStreamingHandler :=
  if handler.frameOffset = 0 then
    getFrame.map fun frame =>
      { handler with
        frameBuffer := frame
        currentFid := !handler.currentFid
        frameStartedAt := now }
  else some handler

def fillPackets (now : Int) (getFrame : Option (List UInt8)) (handler : UvcVideoStreamingHandler) :
    UvcVideoStreamingHandler × Option FilledPackets :=
  if !handler.streaming || !handler.committed then (handler, none)
  else if handler.frameInterval > 0 ∧ handler.frameOffset = 0 ∧
      now < handler.frameStartedAt + handler.frameInterval then
    -- the frame has been sent and the next one is not due: empty packets
    (handler, some ⟨[], trx.data⟩)
  else
    match handler.nextFrame now getFrame with
    | none => (handler, none)
    | some handler =>
        let (written, s) := handler.packetLoop.run numIsoPackets trx.isoDescriptors
          ⟨trx.data, handler.frameOffset⟩
        ({ handler with
            frameOffset := if s.frameOffset ≥ handler.frameBuffer.length then 0
              else s.frameOffset },
          some ⟨written, s.data⟩)

def handleIsochronousTransfer (now : Int) (getFrame : Option (List UInt8))
    (handler : UvcVideoStreamingHandler) : UvcVideoStreamingHandler × UsbIpRetSubmit Handler :=
  let (handler, filled) := handler.fillPackets trx numIsoPackets now getFrame
  (handler, replyPackets seqnum owner trx filled)

theorem length_written_fillPackets_le {now : Int} {getFrame : Option (List UInt8)}
    {handler : UvcVideoStreamingHandler} {packets : FilledPackets}
    (h : (handler.fillPackets trx numIsoPackets now getFrame).2 = some packets) :
    packets.written.length ≤ trx.isoDescriptors.length := by
  unfold fillPackets at h
  split at h
  next => cases h
  next =>
    split at h
    next => cases h; exact Nat.zero_le _
    next =>
      split at h
      next => cases h
      next handler' _ =>
        cases h
        exact handler'.packetLoop.length_run_le _ _ _

end UvcVideoStreamingHandler

/-- What `fill_pcm` draws on: the rest of the current chunk, and the chunks that the source is
going to yield before it has nothing more. -/
structure PcmSource where
  muted : Bool
  chunk : List UInt8
  chunks : List (List UInt8)
  deriving DecidableEq, Repr

namespace PcmSource

variable (applyVolume : List UInt8 → List UInt8)

/-- `n` bytes from the chunks, with silence behind the last one. -/
def pullPcm : List (List UInt8) → List UInt8 → Nat → List UInt8 × List UInt8 × List (List UInt8)
  | [], chunk, n =>
      (applyVolume (chunk.take n) ++ .replicate (n - chunk.length) 0, chunk.drop n, [])
  | next :: chunks, chunk, n =>
      if n ≤ chunk.length then (applyVolume (chunk.take n), chunk.drop n, next :: chunks)
      else
        let (pcm, left) := pullPcm chunks next (n - chunk.length)
        (applyVolume chunk ++ pcm, left)

def fillPcm (n : Nat) (source : PcmSource) : List UInt8 × PcmSource :=
  if source.muted then (.replicate n 0, source)
  else
    let (pcm, chunk, chunks) := pullPcm applyVolume source.chunks source.chunk n
    (pcm, { source with chunk, chunks })

end PcmSource

structure UacAudioStreamingSourceHandler where
  streaming : Bool
  packetFramesize : Nat
  packetInterval : Nat
  packetBase : Nat
  packetResidueStep : Nat
  packetResidueAcc : Nat
  source : PcmSource
  deriving DecidableEq, Repr

/-- The buffer of the transfer with what goes from packet to packet. -/
structure PcmCursor where
  data : List UInt8
  packetResidueAcc : Nat
  source : PcmSource
  deriving DecidableEq, Repr

namespace UacAudioStreamingSourceHandler

variable (applyVolume : List UInt8 → List UInt8)

/-- The loop that gives each packet the samples of its interval, a frame more where the residue
has added up to one. -/
def packetLoop (handler : UacAudioStreamingSourceHandler) : PacketLoop PcmCursor where
  goesOn _ := true
  body s iso :=
    let threshold := handler.packetFramesize * handler.packetInterval
    let acc := s.packetResidueAcc + handler.packetResidueStep
    let (packetBytes, acc) :=
      if acc ≥ threshold then (handler.packetBase + handler.packetFramesize, acc - threshold)
      else (handler.packetBase, acc)
    let want := min iso.length.toNat packetBytes
    if want = 0 then (none, { s with packetResidueAcc := acc })
    else
      let (pcm, source) := s.source.fillPcm applyVolume want
      (some (.ofNat want),
        { data := storeAt s.data iso.offset.toNat pcm, packetResidueAcc := acc, source })

def processIsoIn (handler : UacAudioStreamingSourceHandler) :
    UacAudioStreamingSourceHandler × Option FilledPackets :=
  let (written, s) := (handler.packetLoop applyVolume).run numIsoPackets trx.isoDescriptors
    ⟨trx.data, handler.packetResidueAcc, handler.source⟩
  ({ handler with packetResidueAcc := s.packetResidueAcc, source := s.source },
    some ⟨written, s.data⟩)

/-- The packets are filled once the scheduler serves the URB. -/
def fillPackets (handler : UacAudioStreamingSourceHandler) :
    UacAudioStreamingSourceHandler × Option FilledPackets :=
  if handler.streaming then handler.processIsoIn trx numIsoPackets applyVolume else (handler, none)

def handleIsochronousTransfer (handler : UacAudioStreamingSourceHandler) :
    UacAudioStreamingSourceHandler × UsbIpRetSubmit Handler :=
  let (handler, filled) := handler.fillPackets trx numIsoPackets applyVolume
  (handler, replyPackets seqnum owner trx filled)

theorem length_written_fillPackets_le {handler : UacAudioStreamingSourceHandler}
    {packets : FilledPackets}
    (h : (handler.fillPackets trx numIsoPackets applyVolume).2 = some packets) :
    packets.written.length ≤ trx.isoDescriptors.length := by
  unfold fillPackets at h
  split at h
  next =>
    cases h
    exact (handler.packetLoop applyVolume).length_run_le _ _ _
  next => cases h

end UacAudioStreamingSourceHandler

/-- The handler of an audio sink, with the samples that it has been given. -/
structure UacAudioStreamingSinkHandler where
  streaming : Bool
  samples : List UInt8
  deriving DecidableEq, Repr

/-- The buffer of the transfer, the place of the next packet in it, and the samples so far. -/
structure ReceiveCursor where
  data : List UInt8
  dataPos : UInt64
  samples : List UInt8
  deriving DecidableEq, Repr

namespace UacAudioStreamingSinkHandler

variable (applyVolume : List UInt8 → List UInt8)

/-- The loop that hands the data of each packet to the sink.  The packets lie one behind the
other; where they reach past the buffer, the room left wraps round. -/
def packetLoop : PacketLoop ReceiveCursor where
  goesOn _ := true
  body s iso :=
    let take := min iso.length.toNat (.ofNat s.data.length - s.dataPos).toNat
    let dataPos := s.dataPos + iso.length.toUInt64
    if take > 0 then
      let pcm := applyVolume (bytesAt s.data s.dataPos.toNat take)
      (some (.ofNat take),
        { data := storeAt s.data s.dataPos.toNat pcm, dataPos, samples := s.samples ++ pcm })
    else (none, { s with dataPos })

def processIsoOut (handler : UacAudioStreamingSinkHandler) :
    UacAudioStreamingSinkHandler × Option FilledPackets :=
  let (written, s) := (packetLoop applyVolume).run trx.isoDescriptors.length trx.isoDescriptors
    ⟨trx.data, 0, handler.samples⟩
  ({ handler with samples := s.samples }, some ⟨written, s.data⟩)

/-- The packets are taken once the scheduler serves the URB. -/
def fillPackets (handler : UacAudioStreamingSinkHandler) :
    UacAudioStreamingSinkHandler × Option FilledPackets :=
  if handler.streaming then handler.processIsoOut trx applyVolume else (handler, none)

def handleIsochronousTransfer (handler : UacAudioStreamingSinkHandler) :
    UacAudioStreamingSinkHandler × UsbIpRetSubmit Handler :=
  let (handler, filled) := handler.fillPackets trx applyVolume
  (handler, replyPackets seqnum owner trx filled)

theorem length_written_fillPackets_le {handler : UacAudioStreamingSinkHandler}
    {packets : FilledPackets} (h : (handler.fillPackets trx applyVolume).2 = some packets) :
    packets.written.length ≤ trx.isoDescriptors.length := by
  unfold fillPackets at h
  split at h
  next =>
    cases h
    exact (packetLoop applyVolume).length_run_le _ _ _
  next => cases h

end UacAudioStreamingSinkHandler

end Handlers

end Usbipdcpp.VirtualDevice
