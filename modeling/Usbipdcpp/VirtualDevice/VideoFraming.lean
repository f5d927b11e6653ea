import Usbipdcpp.Foundation.TransitionSystem
import Usbipdcpp.VirtualDevice.IsochronousBounds

namespace Usbipdcpp.VirtualDevice

open Foundation.TransitionSystem Protocol

/-- No byte lies in both ranges. -/
def BufferRange.Apart (a b : BufferRange) : Prop :=
  ∀ i, a.offset ≤ i → i < a.offset + a.size → ¬(b.offset ≤ i ∧ i < b.offset + b.size)

/-- The part of a range that `n` bytes at its beginning make up. -/
theorem BufferRange.Apart.shrink {iso other : UsbIpIsoPacketDescriptor} {n m : Nat}
    (h : (packetRange iso iso.length.toNat).Apart (packetRange other other.length.toNat))
    (hn : n ≤ iso.length.toNat) (hm : m ≤ other.length.toNat) :
    (packetRange iso n).Apart (packetRange other m) := by
  intro i hfrom hto hother
  unfold packetRange at hfrom hto hother
  refine h i hfrom ?_ ⟨hother.1, ?_⟩ <;> unfold packetRange <;> dsimp only at * <;> omega

theorem Stores.getElem?_of_apart {data data' : List UInt8} {ranges : List BufferRange}
    (h : Stores data ranges data') (hinside : ∀ range ∈ ranges, range.Inside data) {i : Nat}
    (hapart : ∀ range ∈ ranges, ¬(range.offset ≤ i ∧ i < range.offset + range.size)) :
    data'.length = data.length ∧ data'[i]? = data[i]? := by
  induction h with
  | nil data => exact ⟨rfl, rfl⟩
  | cons bytes hsize hrest ih =>
      rename_i data data' range ranges
      obtain ⟨hin, hinside⟩ := List.forall_mem_cons.mp hinside
      obtain ⟨hout, hapart⟩ := List.forall_mem_cons.mp hapart
      rcases BufferRange.inside_iff.mp hin with hnone | hend
      · have hbytes : bytes = [] := List.eq_nil_of_length_eq_zero (hsize.trans hnone)
        rw [hbytes, storeAt_nil] at ih
        exact ih hinside hapart
      · have hfits : range.offset + bytes.length ≤ data.length := hsize ▸ hend
        have hlength := length_storeAt hfits
        have hinside' : ∀ range' ∈ ranges, range'.Inside (storeAt data range.offset bytes) := by
          intro range' hmem j hfrom hto
          rw [hlength]
          exact hinside range' hmem j hfrom hto
        obtain ⟨hsame, hget⟩ := ih hinside' hapart
        refine ⟨hsame.trans hlength, hget.trans ?_⟩
        rw [getElem?_storeAt hfits, if_neg (hsize ▸ hout)]

/-- A packet as the host takes it apart. -/
structure VideoPacket where
  fid : Bool
  eof : Bool
  payload : List UInt8
  deriving DecidableEq, Repr

namespace VideoPacket

open UvcVideoStreamingHandler

/-- The packet that is made of bytes; one without a header is none. -/
def ofBytes : List UInt8 → Option VideoPacket
  | _ :: info :: payload =>
      some ⟨info &&& payloadHeaderFid ≠ 0, info &&& payloadHeaderEof ≠ 0, payload⟩
  | _ => none

end VideoPacket

/-- The mark is on the last packet alone, which holds bytes of the frame. -/
def EndsFrame (packets : List VideoPacket) : Prop :=
  ∃ before last, packets = before ++ [last] ∧ last.eof = true ∧ last.payload ≠ [] ∧
    ∀ packet ∈ before, packet.eof = false

/-- The packets hold the bytes of a frame from one place to another, all with the same bit, and the
mark is on the one that holds its last byte. -/
structure Carried (frame : List UInt8) (fid : Bool) (start stop : Nat)
    (packets : List VideoPacket) : Prop where
  start_le : start ≤ stop
  stop_le : stop ≤ frame.length
  payload : packets.flatMap VideoPacket.payload = (frame.drop start).take (stop - start)
  fid : ∀ packet ∈ packets, packet.fid = fid
  unmarked : stop < frame.length → ∀ packet ∈ packets, packet.eof = false
  marked : start < frame.length → stop = frame.length → EndsFrame packets

namespace Carried

variable {frame : List UInt8} {fid : Bool} {start mid stop : Nat} {packets more : List VideoPacket}

theorem nil (hstart : start ≤ frame.length) : Carried frame fid start start [] where
  start_le := Nat.le_refl start
  stop_le := hstart
  payload := by rw [Nat.sub_self, List.take_zero, List.flatMap_nil]
  fid := nofun
  unmarked _ := nofun
  marked hopen hend := absurd hend hopen.ne

theorem singleton {n : Nat} (hn : start + n ≤ frame.length) :
    Carried frame fid start (start + n)
      [⟨fid, start + n ≥ frame.length, (frame.drop start).take n⟩] where
  start_le := Nat.le_add_right start n
  stop_le := hn
  payload := by rw [List.flatMap_singleton, Nat.add_sub_cancel_left]
  fid := List.forall_mem_singleton.mpr rfl
  unmarked hopen := List.forall_mem_singleton.mpr (decide_eq_false (Nat.not_le_of_lt hopen))
  marked hopen hend := by
    refine ⟨[], _, rfl, decide_eq_true hend.ge, ?_, nofun⟩
    refine List.ne_nil_of_length_pos ?_
    rw [List.length_take, List.length_drop]
    omega

/-- A frame goes on where it has stopped. -/
theorem append (h : Carried frame fid start mid packets) (hmid : mid < frame.length)
    (hmore : Carried frame fid mid stop more) : Carried frame fid start stop (packets ++ more) where
  start_le := le_trans h.start_le hmore.start_le
  stop_le := hmore.stop_le
  payload := by
    have hstart := h.start_le
    have hstop := hmore.start_le
    have hsum : stop - start = (mid - start) + (stop - mid) := by omega
    rw [List.flatMap_append, h.payload, hmore.payload, hsum, List.take_add, List.drop_drop,
      Nat.add_sub_cancel' hstart]
  fid := List.forall_mem_append.mpr ⟨h.fid, hmore.fid⟩
  unmarked hopen := List.forall_mem_append.mpr ⟨h.unmarked hmid, hmore.unmarked hopen⟩
  marked _ hend := by
    obtain ⟨before, last, rfl, heof, hpayload, hbefore⟩ := hmore.marked hmid hend
    refine ⟨packets ++ before, last, (List.append_assoc _ _ _).symm, heof, hpayload, ?_⟩
    exact List.forall_mem_append.mpr ⟨h.unmarked hmid, hbefore⟩

end Carried

/-- The packets that a reply sends of those that a loop has written. -/
def videoPackets (filled : FilledPackets) (descs : List UsbIpIsoPacketDescriptor) :
    List VideoPacket :=
  (writes filled.written descs).filterMap fun range =>
    VideoPacket.ofBytes (bytesAt filled.data range.offset range.size)

theorem videoPackets_cons (n : UInt32) (written : List (Option UInt32)) (data : List UInt8)
    (iso : UsbIpIsoPacketDescriptor) (descs : List UsbIpIsoPacketDescriptor) :
    videoPackets ⟨some n :: written, data⟩ (iso :: descs) =
      (VideoPacket.ofBytes (bytesAt data iso.offset.toNat n.toNat)).toList ++
        videoPackets ⟨written, data⟩ descs := by
  unfold videoPackets
  rw [writes, List.filterMap_cons]
  cases hpacket : VideoPacket.ofBytes (bytesAt data iso.offset.toNat n.toNat) with
  | none => simp [packetRange, hpacket]
  | some packet => simp [packetRange, hpacket]

/-- The packets of a transfer lie in its buffer, apart from each other. -/
structure PlacedApart (trx : GenericTransfer) : Prop where
  inside : ∀ iso ∈ trx.isoDescriptors, (packetRange iso iso.length.toNat).Inside trx.data
  apart : trx.isoDescriptors.Pairwise fun iso later =>
    (packetRange iso iso.length.toNat).Apart (packetRange later later.length.toNat)

namespace UvcVideoStreamingHandler

/-- The header that a packet gets. -/
def headerInfo (handler : UvcVideoStreamingHandler) (frameEnd : Nat) : UInt8 :=
  let fid := if handler.currentFid then payloadHeaderFid else 0
  if frameEnd ≥ handler.frameBuffer.length then fid ||| payloadHeaderEof else fid

theorem header_bits (fid eof : Bool) :
    let info := if eof then (if fid then payloadHeaderFid else 0) ||| payloadHeaderEof
      else if fid then payloadHeaderFid else 0
    decide (info &&& payloadHeaderFid ≠ 0) = fid ∧
      decide (info &&& payloadHeaderEof ≠ 0) = eof := by
  revert fid eof
  decide

theorem ofBytes_header (handler : UvcVideoStreamingHandler) (frameEnd : Nat)
    (payload : List UInt8) :
    VideoPacket.ofBytes (.ofNat payloadHeaderSize :: handler.headerInfo frameEnd :: payload) =
      some ⟨handler.currentFid, frameEnd ≥ handler.frameBuffer.length, payload⟩ := by
  obtain ⟨hfid, heof⟩ := header_bits handler.currentFid
    (decide (frameEnd ≥ handler.frameBuffer.length))
  have hinfo : handler.headerInfo frameEnd =
      if decide (frameEnd ≥ handler.frameBuffer.length) = true then
        (if handler.currentFid then payloadHeaderFid else 0) ||| payloadHeaderEof
      else if handler.currentFid then payloadHeaderFid else 0 := by
    simp only [headerInfo, decide_eq_true_eq]
  rw [VideoPacket.ofBytes, hinfo]
  exact congrArg some (VideoPacket.mk.injEq .. |>.mpr ⟨hfid, heof, rfl⟩)

/-- The packet that is next filled: none without room for a header. -/
def nextPacket (handler : UvcVideoStreamingHandler) (frameOffset : Nat)
    (iso : UsbIpIsoPacketDescriptor) : List UInt8 :=
  if iso.length.toNat < payloadHeaderSize then []
  else
    let chunk := min (iso.length.toNat - payloadHeaderSize)
      (handler.frameBuffer.length - frameOffset)
    .ofNat payloadHeaderSize :: handler.headerInfo (frameOffset + chunk) ::
      (handler.frameBuffer.drop frameOffset).take chunk

/-- The cursor behind that packet. -/
def advance (handler : UvcVideoStreamingHandler) (s : FrameCursor)
    (iso : UsbIpIsoPacketDescriptor) : FrameCursor where
  data := storeAt s.data iso.offset.toNat (handler.nextPacket s.frameOffset iso)
  frameOffset := s.frameOffset + min (iso.length.toNat - payloadHeaderSize)
    (handler.frameBuffer.length - s.frameOffset)

/-- The packets that a loop fills from a place in the frame, and the place it gets to. -/
def spread (handler : UvcVideoStreamingHandler) :
    Nat → List UsbIpIsoPacketDescriptor → Nat → List VideoPacket × Nat
  | numIsoPackets + 1, iso :: descs, frameOffset =>
      if frameOffset < handler.frameBuffer.length then
        let chunk := min (iso.length.toNat - payloadHeaderSize)
          (handler.frameBuffer.length - frameOffset)
        let (packets, last) := handler.spread numIsoPackets descs (frameOffset + chunk)
        (if iso.length.toNat < payloadHeaderSize then packets
          else ⟨handler.currentFid, frameOffset + chunk ≥ handler.frameBuffer.length,
            (handler.frameBuffer.drop frameOffset).take chunk⟩ :: packets, last)
      else ([], frameOffset)
  | _, _, frameOffset => ([], frameOffset)

theorem length_nextPacket_le (handler : UvcVideoStreamingHandler) (frameOffset : Nat)
    (iso : UsbIpIsoPacketDescriptor) :
    (handler.nextPacket frameOffset iso).length ≤ iso.length.toNat := by
  unfold nextPacket
  split
  · exact Nat.zero_le _
  · simp only [List.length_cons, List.length_take, List.length_drop]
    unfold payloadHeaderSize at *
    omega

theorem toNat_length_nextPacket (handler : UvcVideoStreamingHandler) (frameOffset : Nat)
    (iso : UsbIpIsoPacketDescriptor) :
    (UInt32.ofNat (handler.nextPacket frameOffset iso).length).toNat =
      (handler.nextPacket frameOffset iso).length :=
  UInt32.toNat_ofNat_of_lt' (lt_of_le_of_lt (handler.length_nextPacket_le frameOffset iso)
    iso.length.toNat_lt)

theorem nextPacket_fits (handler : UvcVideoStreamingHandler) {s : FrameCursor}
    {iso : UsbIpIsoPacketDescriptor} (hinside : (packetRange iso iso.length.toNat).Inside s.data) :
    iso.offset.toNat + (handler.nextPacket s.frameOffset iso).length ≤ s.data.length ∨
      handler.nextPacket s.frameOffset iso = [] := by
  have hlength := handler.length_nextPacket_le s.frameOffset iso
  rcases inside_packetRange.mp hinside with hnone | hend
  · exact .inr (List.eq_nil_of_length_eq_zero (by omega))
  · exact .inl (by omega)

theorem length_advance (handler : UvcVideoStreamingHandler) {s : FrameCursor}
    {iso : UsbIpIsoPacketDescriptor} (hinside : (packetRange iso iso.length.toNat).Inside s.data) :
    (handler.advance s iso).data.length = s.data.length := by
  unfold advance
  rcases handler.nextPacket_fits hinside with hfits | hnone
  · exact length_storeAt hfits
  · rw [hnone, storeAt_nil]

/-- The packet stands where the cursor has put it. -/
theorem bytesAt_advance (handler : UvcVideoStreamingHandler) {s : FrameCursor}
    {iso : UsbIpIsoPacketDescriptor} (hinside : (packetRange iso iso.length.toNat).Inside s.data) :
    bytesAt (handler.advance s iso).data iso.offset.toNat
      (handler.nextPacket s.frameOffset iso).length = handler.nextPacket s.frameOffset iso := by
  unfold advance
  rcases handler.nextPacket_fits hinside with hfits | hnone
  · exact bytesAt_storeAt hfits
  · rw [hnone]
    rfl

theorem body_packetLoop (handler : UvcVideoStreamingHandler) (s : FrameCursor)
    (iso : UsbIpIsoPacketDescriptor) :
    handler.packetLoop.body s iso =
      (some (.ofNat (handler.nextPacket s.frameOffset iso).length), handler.advance s iso) := by
  unfold advance nextPacket
  by_cases hshort : iso.length.toNat < payloadHeaderSize
  · have hnone : iso.length.toNat - payloadHeaderSize = 0 := Nat.sub_eq_zero_of_le hshort.le
    simp only [packetLoop, if_pos hshort, storeAt_nil, hnone, Nat.zero_min, Nat.add_zero,
      List.length_nil]
    rfl
  · have hlength : payloadHeaderSize + min (iso.length.toNat - payloadHeaderSize)
        (handler.frameBuffer.length - s.frameOffset) =
          min (min (iso.length.toNat - payloadHeaderSize)
            (handler.frameBuffer.length - s.frameOffset))
              (handler.frameBuffer.length - s.frameOffset) + 1 + 1 := by
      unfold payloadHeaderSize
      omega
    simp only [packetLoop, if_neg hshort, List.length_cons, List.length_take, List.length_drop,
      hlength]
    rfl

theorem writes_run (handler : UvcVideoStreamingHandler) (numIsoPackets : Nat)
    (descs : List UsbIpIsoPacketDescriptor) (s : FrameCursor) :
    ∀ range ∈ writes (handler.packetLoop.run numIsoPackets descs s).1 descs,
      ∃ iso ∈ descs, ∃ n ≤ iso.length.toNat, range = packetRange iso n := by
  induction descs generalizing numIsoPackets s with
  | nil => cases numIsoPackets <;> exact fun _ hrange => absurd hrange List.not_mem_nil
  | cons iso descs ih =>
      cases numIsoPackets with
      | zero => exact fun _ hrange => absurd hrange List.not_mem_nil
      | succ n =>
          rw [PacketLoop.run]
          by_cases hgoes : handler.packetLoop.goesOn s = true
          · rw [if_pos hgoes, body_packetLoop]
            have hlength := handler.length_nextPacket_le s.frameOffset iso
            refine List.forall_mem_cons.mpr ⟨?_, fun range hrange => ?_⟩
            · exact ⟨iso, List.mem_cons_self, _, hlength,
                congrArg (packetRange iso) (handler.toNat_length_nextPacket s.frameOffset iso)⟩
            · obtain ⟨other, hmem, hrest⟩ := ih n _ range hrange
              exact ⟨other, List.mem_cons_of_mem _ hmem, hrest⟩
          · rw [if_neg hgoes]
            exact fun _ hrange => absurd hrange List.not_mem_nil

/-- A packet apart from those that a loop fills is left as it was. -/
theorem bytesAt_run_of_apart (handler : UvcVideoStreamingHandler) (numIsoPackets : Nat)
    (descs : List UsbIpIsoPacketDescriptor) (s : FrameCursor)
    (hinside : ∀ later ∈ descs, (packetRange later later.length.toNat).Inside s.data)
    {iso : UsbIpIsoPacketDescriptor} (hapart : ∀ later ∈ descs,
      (packetRange iso iso.length.toNat).Apart (packetRange later later.length.toNat))
    {n : Nat} (hn : n ≤ iso.length.toNat) :
    bytesAt (handler.packetLoop.run numIsoPackets descs s).2.data iso.offset.toNat n =
      bytesAt s.data iso.offset.toNat n := by
  have hstores := PacketLoop.stores_run handler.storesPackets numIsoPackets descs s
  have hwrites := handler.writes_run numIsoPackets descs s
  refine bytesAt_congr fun i hfrom hto => (hstores.getElem?_of_apart ?_ ?_).2
  · intro range hrange
    obtain ⟨later, hlater, m, hm, rfl⟩ := hwrites range hrange
    rcases inside_packetRange.mp (hinside later hlater) with hnone | hend
    · exact inside_packetRange.mpr (.inl (by omega))
    · exact inside_packetRange.mpr (.inr (by omega))
  · intro range hrange
    obtain ⟨later, hlater, m, hm, rfl⟩ := hwrites range hrange
    exact (hapart later hlater).shrink hn hm i hfrom hto

/-- What the reply sends of a transfer are the packets that the loop has filled: no packet is
written over by a later one. -/
theorem videoPackets_run (handler : UvcVideoStreamingHandler) (numIsoPackets : Nat)
    (descs : List UsbIpIsoPacketDescriptor) (s : FrameCursor)
    (hinside : ∀ iso ∈ descs, (packetRange iso iso.length.toNat).Inside s.data)
    (hapart : descs.Pairwise fun iso later =>
      (packetRange iso iso.length.toNat).Apart (packetRange later later.length.toNat)) :
    let out := handler.packetLoop.run numIsoPackets descs s
    (videoPackets ⟨out.1, out.2.data⟩ descs, out.2.frameOffset) =
      handler.spread numIsoPackets descs s.frameOffset := by
  induction descs generalizing numIsoPackets s with
  | nil => cases numIsoPackets <;> rfl
  | cons iso descs ih =>
      cases numIsoPackets with
      | zero => rfl
      | succ n =>
          obtain ⟨hfirst, hinside⟩ := List.forall_mem_cons.mp hinside
          obtain ⟨hfirstApart, hapart⟩ := List.pairwise_cons.mp hapart
          rw [PacketLoop.run, spread]
          by_cases hgoes : handler.packetLoop.goesOn s = true
          · have hleft : s.frameOffset < handler.frameBuffer.length := by
              have hsome := of_decide_eq_true hgoes
              omega
            rw [if_pos hgoes, if_pos hleft, body_packetLoop]
            have hinside' : ∀ later ∈ descs,
                (packetRange later later.length.toNat).Inside (handler.advance s iso).data := by
              intro later hlater i hfrom hto
              rw [handler.length_advance hfirst]
              exact hinside later hlater i hfrom hto
            have hrest := ih n (handler.advance s iso) hinside' hapart
            have hkept := handler.bytesAt_run_of_apart n descs (handler.advance s iso) hinside'
              hfirstApart (handler.length_nextPacket_le s.frameOffset iso)
            rw [handler.bytesAt_advance hfirst] at hkept
            dsimp only at hrest ⊢
            change _ = (if iso.length.toNat < payloadHeaderSize then
              (handler.spread n descs (handler.advance s iso).frameOffset).1 else
                _ :: (handler.spread n descs (handler.advance s iso).frameOffset).1,
              (handler.spread n descs (handler.advance s iso).frameOffset).2)
            rw [← hrest]
            generalize handler.packetLoop.run n descs (handler.advance s iso) = out at hkept ⊢
            refine Prod.ext ?_ rfl
            rw [videoPackets_cons, handler.toNat_length_nextPacket, hkept]
            by_cases hshort : iso.length.toNat < payloadHeaderSize
            · rw [if_pos hshort, nextPacket, if_pos hshort]
              rfl
            · rw [if_neg hshort, nextPacket, if_neg hshort, ofBytes_header]
              rfl
          · have hdone : ¬s.frameOffset < handler.frameBuffer.length := by
              have hnone := of_decide_eq_false (Bool.eq_false_of_not_eq_true hgoes)
              omega
            rw [if_neg hgoes, if_neg hdone]
            rfl

theorem spread_done {handler : UvcVideoStreamingHandler} {frameOffset : Nat}
    (hdone : handler.frameBuffer.length ≤ frameOffset) (numIsoPackets : Nat)
    (descs : List UsbIpIsoPacketDescriptor) :
    handler.spread numIsoPackets descs frameOffset = ([], frameOffset) := by
  cases numIsoPackets with
  | zero => rfl
  | succ n =>
      cases descs with
      | nil => rfl
      | cons iso descs =>
          rw [spread]
          exact if_neg (Nat.not_lt_of_le hdone)

/-- A loop carries the frame on as far as it gets. -/
theorem carried_spread (handler : UvcVideoStreamingHandler) (numIsoPackets : Nat)
    (descs : List UsbIpIsoPacketDescriptor) {frameOffset : Nat}
    (hoffset : frameOffset ≤ handler.frameBuffer.length) :
    Carried handler.frameBuffer handler.currentFid frameOffset
      (handler.spread numIsoPackets descs frameOffset).2
      (handler.spread numIsoPackets descs frameOffset).1 := by
  induction descs generalizing numIsoPackets frameOffset with
  | nil => cases numIsoPackets <;> exact .nil hoffset
  | cons iso descs ih =>
      cases numIsoPackets with
      | zero => exact .nil hoffset
      | succ n =>
          rw [spread]
          by_cases hleft : frameOffset < handler.frameBuffer.length
          · rw [if_pos hleft]
            by_cases hshort : iso.length.toNat < payloadHeaderSize
            · have hnone : iso.length.toNat - payloadHeaderSize = 0 :=
                Nat.sub_eq_zero_of_le hshort.le
              simp only [if_pos hshort, hnone, Nat.zero_min, Nat.add_zero]
              exact ih n hoffset
            · simp only [if_neg hshort]
              have hchunk : min (iso.length.toNat - payloadHeaderSize)
                  (handler.frameBuffer.length - frameOffset) ≤
                    handler.frameBuffer.length - frameOffset :=
                Nat.min_le_right _ _
              generalize min (iso.length.toNat - payloadHeaderSize)
                (handler.frameBuffer.length - frameOffset) = chunk at hchunk ⊢
              have hend : frameOffset + chunk ≤ handler.frameBuffer.length := by omega
              have hfirst := @Carried.singleton _ handler.currentFid _ _ hend
              rcases Nat.lt_or_ge (frameOffset + chunk) handler.frameBuffer.length with
                hopen | hdone
              · exact hfirst.append hopen (ih n hend)
              · rw [spread_done hdone]
                exact hfirst
          · rw [if_neg hleft]
            exact .nil hoffset

/-- A packet with room behind its header takes the frame on. -/
theorem lt_spread (handler : UvcVideoStreamingHandler) (numIsoPackets : Nat)
    (descs : List UsbIpIsoPacketDescriptor) {frameOffset : Nat}
    (hoffset : frameOffset < handler.frameBuffer.length)
    (hroom : ∃ iso ∈ descs.take numIsoPackets, payloadHeaderSize < iso.length.toNat) :
    frameOffset < (handler.spread numIsoPackets descs frameOffset).2 := by
  induction descs generalizing numIsoPackets frameOffset with
  | nil => simp at hroom
  | cons iso descs ih =>
      cases numIsoPackets with
      | zero => simp at hroom
      | succ n =>
          rw [spread, if_pos hoffset]
          dsimp only
          have hbehind := (@carried_spread handler n descs (frameOffset +
            min (iso.length.toNat - payloadHeaderSize)
              (handler.frameBuffer.length - frameOffset)) (by omega)).start_le
          by_cases hfirst : payloadHeaderSize < iso.length.toNat
          · omega
          · have hnone : iso.length.toNat - payloadHeaderSize = 0 := by omega
            rw [hnone, Nat.zero_min, Nat.add_zero]
            refine ih n hoffset ?_
            rw [List.take_succ_cons] at hroom
            obtain ⟨later, hlater, hlong⟩ := hroom
            rcases List.mem_cons.mp hlater with rfl | hlater
            · exact absurd hlong hfirst
            · exact ⟨later, hlater, hlong⟩

/-- The frame that a transfer makes the handler fetch, if it does. -/
def fetched (handler : UvcVideoStreamingHandler) (now : Int) (getFrame : Option (List UInt8)) :
    Option (List UInt8) :=
  if !handler.streaming || !handler.committed then none
  else if handler.frameInterval > 0 ∧ handler.frameOffset = 0 ∧
      now < handler.frameStartedAt + handler.frameInterval then none
  else if handler.frameOffset = 0 then getFrame
  else none

section

variable {handler : UvcVideoStreamingHandler} {trx : GenericTransfer} {numIsoPackets : Nat}
  {now : Int} {getFrame : Option (List UInt8)}

/-- A transfer leaves the handler alone and carries nothing, or carries on the frame that there is
to send behind it. -/
theorem fillPackets_cases (hplaced : PlacedApart trx) :
    (∃ filled, handler.fillPackets trx numIsoPackets now getFrame = (handler, filled) ∧
        (filled.elim [] fun packets => videoPackets packets trx.isoDescriptors) = [] ∧
        handler.fetched now getFrame = none) ∨
      ∃ next filled, handler.nextFrame now getFrame = some next ∧
        handler.fetched now getFrame = (if handler.frameOffset = 0 then getFrame else none) ∧
        handler.fillPackets trx numIsoPackets now getFrame =
          ({ next with
            frameOffset :=
              if (next.spread numIsoPackets trx.isoDescriptors next.frameOffset).2 ≥
                  next.frameBuffer.length then 0
              else (next.spread numIsoPackets trx.isoDescriptors next.frameOffset).2 },
            some filled) ∧
        videoPackets filled trx.isoDescriptors =
          (next.spread numIsoPackets trx.isoDescriptors next.frameOffset).1 := by
  unfold fillPackets fetched
  by_cases hstopped : (!handler.streaming || !handler.committed) = true
  · left
    rw [if_pos hstopped, if_pos hstopped]
    exact ⟨none, rfl, rfl, rfl⟩
  · rw [if_neg hstopped, if_neg hstopped]
    by_cases hwaits : handler.frameInterval > 0 ∧ handler.frameOffset = 0 ∧
        now < handler.frameStartedAt + handler.frameInterval
    · left
      rw [if_pos hwaits, if_pos hwaits]
      refine ⟨_, rfl, ?_, rfl⟩
      cases trx.isoDescriptors <;> rfl
    · rw [if_neg hwaits, if_neg hwaits]
      cases hnext : handler.nextFrame now getFrame with
      | none =>
          left
          refine ⟨none, rfl, rfl, ?_⟩
          unfold nextFrame at hnext
          split at hnext
          next hbetween =>
            rw [if_pos hbetween]
            exact Option.map_eq_none_iff.mp hnext
          next => cases hnext
      | some next =>
          right
          have hrun := next.videoPackets_run numIsoPackets trx.isoDescriptors
            ⟨trx.data, next.frameOffset⟩ hplaced.inside hplaced.apart
          dsimp only at hrun ⊢
          obtain ⟨hpackets, hlast⟩ := Prod.ext_iff.mp hrun
          dsimp only at hpackets hlast
          refine ⟨next, _, rfl, rfl, ?_, hpackets⟩
          rw [← hlast]

end

end UvcVideoStreamingHandler

/-- A transfer on the video endpoint, with the time at which it comes and what the source has for
it. -/
structure VideoUrb where
  trx : GenericTransfer
  numIsoPackets : Nat
  now : Int
  getFrame : Option (List UInt8)

/-- The video handler, and what it has fetched and sent since it was between two frames. -/
structure VideoRun where
  handler : UvcVideoStreamingHandler
  startFid : Bool
  frames : List (List UInt8)
  packets : List VideoPacket

namespace VideoRun

open UvcVideoStreamingHandler

def step (s : VideoRun) (urb : VideoUrb) : VideoRun :=
  let (handler, filled) := s.handler.fillPackets urb.trx urb.numIsoPackets urb.now urb.getFrame
  { s with
    handler
    frames := s.frames ++ (s.handler.fetched urb.now urb.getFrame).toList
    packets := s.packets ++ filled.elim [] fun packets =>
      videoPackets packets urb.trx.isoDescriptors }

def system : System VideoRun VideoUrb where
  initial s := s.handler.frameOffset = 0 ∧ s.startFid = s.handler.currentFid ∧ s.frames = [] ∧
    s.packets = []
  step s urb := some (s.step urb)

/-- The source has frames with bytes in them, and the packets of the transfer lie apart. -/
def WellPlaced (_ : VideoRun) (urb : VideoUrb) : Prop :=
  PlacedApart urb.trx ∧ urb.getFrame ≠ some []

/-- A transfer that makes the handler fetch a frame has room for a byte of it. -/
def TakesFrame (s : VideoRun) (urb : VideoUrb) : Prop :=
  s.handler.fetched urb.now urb.getFrame ≠ none →
    ∃ iso ∈ urb.trx.isoDescriptors.take urb.numIsoPackets, payloadHeaderSize < iso.length.toNat

/-- Frames that have been sent from the first byte to the last, one behind the other; the bit is
turned from frame to frame, and ends as the second one says. -/
inductive WholeFrames (startFid : Bool) : Bool → List (List UInt8) → List VideoPacket → Prop
  | nil : WholeFrames startFid startFid [] []
  | concat {fid : Bool} {frames : List (List UInt8)} {frame : List UInt8}
      {sent packets : List VideoPacket} (hsent : WholeFrames startFid fid frames sent)
      (hsome : frame ≠ []) (hframe : Carried frame (!fid) 0 frame.length packets) :
      WholeFrames startFid (!fid) (frames ++ [frame]) (sent ++ packets)

/-- All frames that have been fetched have been sent, but for the last one, of which a part has. -/
def FramesInOrder (s : VideoRun) : Prop :=
  ∃ fid, WholeFrames s.startFid fid s.frames s.packets ∨
    ∃ frames frame sent packets stop, s.frames = frames ++ [frame] ∧
      s.packets = sent ++ packets ∧ WholeFrames s.startFid fid frames sent ∧
      Carried frame (!fid) 0 stop packets ∧ stop < frame.length

/-- Where the handler stands: between two frames, or within the last one. -/
inductive Standing (s : VideoRun) : Prop
  | between (hoffset : s.handler.frameOffset = 0)
      (hsent : WholeFrames s.startFid s.handler.currentFid s.frames s.packets)
  | within {fid : Bool} {frames : List (List UInt8)} {sent packets : List VideoPacket}
      (hoffset : 0 < s.handler.frameOffset) (hfid : s.handler.currentFid = !fid)
      (hframes : s.frames = frames ++ [s.handler.frameBuffer])
      (hpackets : s.packets = sent ++ packets) (hsent : WholeFrames s.startFid fid frames sent)
      (hcurrent : Carried s.handler.frameBuffer (!fid) 0 s.handler.frameOffset packets)
      (hopen : s.handler.frameOffset < s.handler.frameBuffer.length)

theorem Standing.framesInOrder {s : VideoRun} (h : s.Standing) : s.FramesInOrder := by
  cases h with
  | between hoffset hsent => exact ⟨_, .inl hsent⟩
  | within hoffset hfid hframes hpackets hsent hcurrent hopen =>
      exact ⟨_, .inr ⟨_, _, _, _, _, hframes, hpackets, hsent, hcurrent, hopen⟩⟩

/-- A frame that has been carried on from its beginning is complete, or the handler stands in it. -/
theorem standing_of_carried {startFid fid : Bool} {frames : List (List UInt8)}
    {sent packets : List VideoPacket} {handler : UvcVideoStreamingHandler} {frame : List UInt8}
    {stop : Nat} (hsent : WholeFrames startFid fid frames sent) (hfid : handler.currentFid = !fid)
    (hbuffer : handler.frameBuffer = frame) (hcarried : Carried frame (!fid) 0 stop packets)
    (hstop : 0 < stop) (hsome : frame ≠ []) :
    (⟨{ handler with frameOffset := if stop ≥ handler.frameBuffer.length then 0 else stop },
      startFid, frames ++ [frame], sent ++ packets⟩ : VideoRun).Standing := by
  subst hbuffer
  by_cases hdone : stop ≥ handler.frameBuffer.length
  · have hend : stop = handler.frameBuffer.length := Nat.le_antisymm hcarried.stop_le hdone
    rw [if_pos hdone]
    refine .between rfl ?_
    dsimp only
    rw [hfid]
    exact .concat hsent hsome (hend ▸ hcarried)
  · rw [if_neg hdone]
    exact .within hstop hfid rfl rfl hsent hcarried (Nat.lt_of_not_le hdone)

theorem Standing.step {s : VideoRun} {urb : VideoUrb} (h : s.Standing)
    (hplaced : s.WellPlaced urb) (htakes : s.TakesFrame urb) : (s.step urb).Standing := by
  rcases @fillPackets_cases s.handler _ _ _ _ hplaced.1 with
    ⟨filled, hfill, hnothing, hfetched⟩ | ⟨next, filled, hnext, hfetched, hfill, hpackets⟩
  · have hsame : s.step urb = s := by
      unfold VideoRun.step
      rw [hfill, hfetched]
      dsimp only
      rw [hnothing, List.append_nil, Option.toList_none, List.append_nil]
    rw [hsame]
    exact h
  · have hstep : s.step urb =
        { handler := { next with
            frameOffset :=
              if (next.spread urb.numIsoPackets urb.trx.isoDescriptors next.frameOffset).2 ≥
                  next.frameBuffer.length then 0
              else (next.spread urb.numIsoPackets urb.trx.isoDescriptors next.frameOffset).2 }
          startFid := s.startFid
          frames := s.frames ++
            (if s.handler.frameOffset = 0 then urb.getFrame else none).toList
          packets := s.packets ++
            (next.spread urb.numIsoPackets urb.trx.isoDescriptors next.frameOffset).1 } := by
      unfold VideoRun.step
      rw [hfill, hfetched]
      dsimp only [Option.elim_some]
      rw [hpackets]
    unfold nextFrame at hnext
    cases h with
    | between hoffset hsent =>
        rw [if_pos hoffset] at hnext hfetched
        obtain ⟨frame, hframe, hmade⟩ := Option.map_eq_some_iff.mp hnext
        have hfid : next.currentFid = !s.handler.currentFid := hmade ▸ rfl
        have hbuffer : next.frameBuffer = frame := hmade ▸ rfl
        have hzero : next.frameOffset = 0 := hmade ▸ hoffset
        have hsome : frame ≠ [] := fun hnone => hplaced.2 (hnone ▸ hframe)
        have hroom := htakes (by rw [hfetched, hframe]; exact Option.some_ne_none frame)
        have hcarried := next.carried_spread urb.numIsoPackets urb.trx.isoDescriptors
          (Nat.zero_le next.frameBuffer.length)
        have hlength : 0 < next.frameBuffer.length := by
          rw [hbuffer]
          exact List.length_pos_iff.mpr hsome
        rw [hfid, hbuffer] at hcarried
        rw [hstep, if_pos hoffset, hframe, hzero]
        exact standing_of_carried hsent hfid hbuffer hcarried
          (next.lt_spread _ _ hlength hroom) hsome
    | within hoffset hfid hframes hpackets' hsent hcurrent hopen =>
        rw [if_neg hoffset.ne'] at hnext
        obtain rfl := Option.some.inj hnext
        have hmore := s.handler.carried_spread urb.numIsoPackets urb.trx.isoDescriptors hopen.le
        rw [hfid] at hmore
        rw [hstep, if_neg hoffset.ne', hframes, hpackets', Option.toList_none, List.append_nil,
          List.append_assoc]
        refine standing_of_carried hsent hfid rfl (hcurrent.append hopen hmore) ?_ ?_
        · exact lt_of_lt_of_le hoffset hmore.start_le
        · exact List.ne_nil_of_length_pos (lt_of_le_of_lt (Nat.zero_le _) hopen)

theorem standing_reachable {s : VideoRun}
    (h : ReachableUnder system (fun s urb => s.WellPlaced urb ∧ s.TakesFrame urb) s) :
    s.Standing := by
  refine ReachableUnder.invariant (I := Standing) ?_ ?_ h
  · rintro ⟨handler, startFid, frames, packets⟩ ⟨hoffset, hfid, hframes, hpackets⟩
    dsimp only at hoffset hfid hframes hpackets
    subst hfid hframes hpackets
    exact .between hoffset .nil
  · rintro s urb t hs ⟨hplaced, htakes⟩ ⟨rfl⟩
    exact hs.step hplaced htakes

/-- Where each transfer that fetches a frame takes a byte of it, the host gets the frames of the
source one after the other, each whole and marked. -/
theorem framesInOrder_of_takesFrame {s : VideoRun}
    (h : ReachableUnder system (fun s urb => s.WellPlaced urb ∧ s.TakesFrame urb) s) :
    s.FramesInOrder :=
  (standing_reachable h).framesInOrder

theorem WholeFrames.payload {startFid fid : Bool} {frames : List (List UInt8)}
    {packets : List VideoPacket} (h : WholeFrames startFid fid frames packets) :
    packets.flatMap VideoPacket.payload = frames.flatten := by
  induction h with
  | nil => rfl
  | concat hsent hsome hframe ih =>
      rw [List.flatMap_append, ih, hframe.payload, List.flatten_append, List.drop_zero,
        Nat.sub_zero, List.take_length]
      exact congrArg _ (List.append_nil _).symm

/-- The bytes that the host has got are the first ones of the source's stream. -/
theorem FramesInOrder.payload_prefix_frames {s : VideoRun} (h : s.FramesInOrder) :
    s.packets.flatMap VideoPacket.payload <+: s.frames.flatten := by
  obtain ⟨fid, hsent | ⟨frames, frame, sent, packets, stop, hframes, hpackets, hsent, hcurrent,
    -⟩⟩ := h
  · exact hsent.payload ▸ List.prefix_rfl
  · rw [hframes, hpackets, List.flatMap_append, hsent.payload, List.flatten_append,
      hcurrent.payload, List.drop_zero, List.flatten_singleton]
    exact (List.prefix_append_right_inj _).mpr (List.take_prefix _ _)

theorem placedApart_clientPackets : PlacedApart clientPackets where
  inside := by decide
  apart := by
    refine List.pairwise_pair.mpr fun i hfrom hto hlater => ?_
    unfold packetRange at hfrom hto hlater
    have hto : i < 4 := hto
    have hlater : 4 ≤ i := hlater.1
    omega

/-- A stream of which nothing has been sent yet. -/
def started : VideoRun := ⟨startedStream, false, [], []⟩

theorem framesInOrder_of_takesFrame_twoPackets :
    (started.step ⟨clientPackets, 2, 0, some [1, 2, 3, 4]⟩).FramesInOrder := by
  have htakes : started.TakesFrame ⟨clientPackets, 2, 0, some [1, 2, 3, 4]⟩ :=
    fun _ => ⟨⟨0, 4, 4, 0⟩, by decide, by decide⟩
  have hplaced : started.WellPlaced ⟨clientPackets, 2, 0, some [1, 2, 3, 4]⟩ :=
    ⟨placedApart_clientPackets, by decide⟩
  exact framesInOrder_of_takesFrame
    (.step (.initial ⟨rfl, rfl, rfl, rfl⟩) ⟨hplaced, htakes⟩ rfl)

/-- A packet that has room for its header alone. -/
def headerPacket : GenericTransfer :=
  { clientPackets with isoDescriptors := [⟨0, 2, 0, 0⟩] }

/-- The first frame is fetched for a packet without room for it, and given up for the second. -/
theorem not_framesInOrder :
    ¬ ∀ s, ReachableUnder system WellPlaced s → s.FramesInOrder := by
  intro hinOrder
  have hheader : PlacedApart headerPacket := ⟨by decide, List.pairwise_singleton _ _⟩
  have hreached : ReachableUnder system WellPlaced
      ((started.step ⟨headerPacket, 1, 0, some [1]⟩).step ⟨clientPackets, 2, 0, some [2]⟩) :=
    .step (.step (.initial ⟨rfl, rfl, rfl, rfl⟩) ⟨hheader, by decide⟩ rfl)
      ⟨placedApart_clientPackets, by decide⟩ rfl
  exact absurd (hinOrder _ hreached).payload_prefix_frames (by decide)

end VideoRun

end Usbipdcpp.VirtualDevice
