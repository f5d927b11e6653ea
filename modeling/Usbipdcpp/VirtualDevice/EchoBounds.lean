import Usbipdcpp.VirtualDevice.EthernetEchoBackend

namespace Usbipdcpp.VirtualDevice

open Foundation.ByteStream Protocol Protocol.DeviceList EchoOutput

namespace EchoOutput

/-- No byte outside a buffer is read or written. -/
def Fits (output : EchoOutput) : Prop :=
  ∀ access ∈ output.accesses, access.Fits

instance (output : EchoOutput) : Decidable output.Fits :=
  inferInstanceAs (Decidable (∀ access ∈ output.accesses, access.Fits))

@[simp] theorem fits_append {first second : EchoOutput} :
    (first ++ second).Fits ↔ first.Fits ∧ second.Fits :=
  List.forall_mem_append

@[simp] theorem fits_touches_nil : (touches []).Fits := List.forall_mem_nil _

@[simp] theorem fits_touches_cons {buffer : EchoBuffer} {offset size : Nat}
    {accesses : List BufferAccess} :
    (touches (⟨buffer, offset, size⟩ :: accesses)).Fits ↔
      offset + size ≤ buffer.capacity ∧ (touches accesses).Fits :=
  List.forall_mem_cons

theorem fits_copies {slice : Slice} {buffer : EchoBuffer} {offset : Nat} :
    (copies slice buffer offset).Fits ↔ slice.bytes.length = 0 ∨
      slice.offset + slice.bytes.length ≤ slice.buffer.capacity ∧
        offset + slice.bytes.length ≤ buffer.capacity := by
  unfold copies
  by_cases hsome : 0 < slice.bytes.length
  · have hnone : slice.bytes.length ≠ 0 := Nat.pos_iff_ne_zero.mp hsome
    simp only [if_pos hsome, fits_touches_cons, fits_touches_nil, and_true, hnone, false_or]
  · rw [if_neg hsome]
    exact iff_of_true fits_touches_nil (.inl (Nat.eq_zero_of_not_pos hsome))

end EchoOutput

namespace TcpEcho

/-- Every answer carries the data of the segment or none, and the data come back just when the
connection is established. -/
theorem forall_payload_receive (tcp : TcpEcho) (seq ack : UInt32) (flags : UInt8)
    (payload : List UInt8) {P : List UInt8 → Prop} (hnone : P []) :
    (∀ reply ∈ (tcp.receive seq ack flags payload).2, P reply.payload) ↔
      (tcp.established = true → P payload) := by
  have hecho : (∀ reply ∈ (tcp.echo seq payload).2, P reply.payload) ↔ P payload := by
    unfold echo
    split
    next => exact List.forall_mem_singleton
    next hempty =>
      have hpayload : payload = [] := List.eq_nil_of_length_eq_zero (Nat.eq_zero_of_not_pos hempty)
      exact iff_of_true (List.forall_mem_nil _) (hpayload ▸ hnone)
  unfold receive
  by_cases hestablished : tcp.established = true
  · rw [if_neg (by simp only [hestablished, Bool.true_eq_false, and_false, not_false_eq_true]),
      if_pos hestablished]
    dsimp only
    split
    next =>
      rw [List.forall_mem_append, List.forall_mem_singleton, hecho]
      exact ⟨fun h _ => h.1, fun h => ⟨h hestablished, hnone⟩⟩
    next =>
      rw [← hecho]
      split <;> exact ⟨fun h _ => h, fun h => h hestablished⟩
  · refine iff_of_true ?_ fun h => absurd h hestablished
    split
    next => exact List.forall_mem_singleton.mpr hnone
    next => exact List.forall_mem_nil _

end TcpEcho

namespace EthernetEchoBackend

theorem fits_sendFrameToHost {backend : EthernetEchoBackend} {dstMac : MacAddress}
    {ethertype : UInt16} {payload : Slice} :
    (backend.sendFrameToHost dstMac ethertype payload).Fits ↔ payload.bytes.length = 0 ∨
      payload.offset + payload.bytes.length ≤ payload.buffer.capacity ∧
        ethHlen + payload.bytes.length ≤ ethFrameMax := by
  have hpadding (total : Nat) : (touches (if total < ethMinFrame then
      [⟨.etherFrame, total, ethMinFrame - total⟩] else [])).Fits := by
    split
    next hshort =>
      refine fits_touches_cons.mpr ⟨?_, fits_touches_nil⟩
      rw [Nat.add_sub_cancel' hshort.le]
      decide
    next => exact fits_touches_nil
  have hsent (total : Nat) (frames : List (List UInt8)) :
      EchoOutput.Fits ⟨[⟨.etherFrame, 0, max total ethMinFrame⟩], frames⟩ ↔
        total ≤ ethFrameMax := by
    refine List.forall_mem_singleton.trans ?_
    change 0 + max total ethMinFrame ≤ ethFrameMax ↔ total ≤ ethFrameMax
    rw [Nat.zero_add, Nat.max_le]
    exact and_iff_left (by decide)
  have hheader : (touches [⟨.etherFrame, 0, 6⟩, ⟨.etherFrame, 6, 6⟩, ⟨.etherFrame, 12, 2⟩]).Fits :=
    by decide
  simp only [sendFrameToHost, fits_append, hpadding, hsent, hheader, fits_copies, true_and,
    and_true, EchoBuffer.capacity]
  constructor
  · rintro ⟨hcopy, -⟩
    exact hcopy
  · intro hcopy
    refine ⟨hcopy, ?_⟩
    rcases hcopy with hnone | ⟨-, hfits⟩
    · rw [hnone]
      decide
    · exact hfits

/-- The packet buffer is the one that decides: the frame buffer holds more. -/
theorem fits_sendIpv4 {backend : EthernetEchoBackend} {proto : UInt8} {dstIp : Ipv4Address}
    {payload : Slice} :
    (backend.sendIpv4 proto dstIp payload).Fits ↔ payload.bytes.length = 0 ∨
      payload.offset + payload.bytes.length ≤ payload.buffer.capacity ∧
        payload.bytes.length ≤ tcpMaxPayload := by
  have hheader : (touches [⟨.ipv4Packet, 0, ipv4Hlen⟩]).Fits := by decide
  have hlength (c : UInt16) : (ipv4Header proto backend.ip dstIp payload.bytes.length c ++
      payload.bytes).length = ipv4Hlen + payload.bytes.length := by
    simp only [ipv4Header, List.length_append, length_u16ToBytes, List.length_cons,
      List.length_nil, backend.ip.property, dstIp.property, ipv4Hlen]
  simp only [sendIpv4, fits_append, hheader, fits_copies, fits_sendFrameToHost, hlength, true_and]
  simp only [EchoBuffer.capacity, ethHlen, ethFrameMax, ipv4Hlen, tcpHlen, tcpMaxPayload]
  omega

theorem fits_handleArp (backend : EthernetEchoBackend) (frame : List UInt8) :
    (backend.handleArp frame).Fits := by
  have hreply : (touches [⟨.arpReply, 0, arpHlen⟩]).Fits := by decide
  unfold handleArp
  split
  next => exact fits_touches_nil
  next hlong =>
    have hheader : (touches [⟨.hostFrame frame.length, ethHlen, arpHlen⟩]).Fits :=
      fits_touches_cons.mpr ⟨Nat.not_lt.mp hlong, fits_touches_nil⟩
    dsimp only
    split
    next => exact hheader
    next =>
      split
      next => exact hheader
      next =>
        refine fits_append.mpr ⟨fits_append.mpr ⟨hheader, hreply⟩, fits_sendFrameToHost.mpr ?_⟩
        have hlength : (u16ToBytes (ArpHeader.htype frame) ++ u16ToBytes (ArpHeader.ptype frame) ++
            [6, 4] ++ u16ToBytes arpOpReply ++ backend.mac.val ++ backend.ip.val ++
            (ArpHeader.sha frame).val ++ (ArpHeader.spa frame).val).length = arpHlen := by
          simp only [List.length_append, length_u16ToBytes, List.length_cons, List.length_nil,
            backend.mac.property, backend.ip.property, (ArpHeader.sha frame).property,
            (ArpHeader.spa frame).property, arpHlen]
        dsimp only
        rw [hlength]
        decide

theorem length_icmpReply {message : List UInt8} (h : 4 ≤ message.length) :
    (icmpReply message).length = message.length := by
  have hfirst : (storeAt message 0 [icmpEchoReply]).length = message.length :=
    length_storeAt (by rw [List.length_singleton]; omega)
  have hsecond := length_storeAt (show 2 + [(0 : UInt8), 0].length ≤
    (storeAt message 0 [icmpEchoReply]).length by rwa [hfirst])
  unfold icmpReply
  dsimp only
  rw [length_storeAt (by rwa [hsecond, hfirst, length_u16ToBytes]), hsecond, hfirst]

/-- An answer to an echo request is bounded by the buffer it is copied to. -/
theorem fits_handleIcmp (backend : EthernetEchoBackend) {frame : List UInt8} {icmp icmpLen : Nat}
    (h : icmp + icmpLen ≤ frame.length) : (backend.handleIcmp frame icmp icmpLen).Fits := by
  unfold handleIcmp
  split
  next => exact fits_touches_nil
  next hbounds =>
    have hheader : (touches [⟨.hostFrame frame.length, icmp, icmpEchoHlen⟩]).Fits :=
      fits_touches_cons.mpr ⟨by unfold EchoBuffer.capacity; dsimp only; omega, fits_touches_nil⟩
    dsimp only
    split
    next => exact hheader
    next =>
      have hlength : (icmpReply (bytesAt frame icmp icmpLen)).length = icmpLen := by
        rw [length_icmpReply] <;> rw [length_bytesAt]
        unfold icmpEchoHlen at hbounds
        omega
      refine fits_append.mpr ⟨fits_append.mpr ⟨fits_append.mpr ⟨hheader, fits_copies.mpr ?_⟩, ?_⟩,
        fits_sendIpv4.mpr ?_⟩
      · simp only [length_bytesAt, EchoBuffer.capacity]
        omega
      · simp only [fits_touches_cons, fits_touches_nil, and_true, EchoBuffer.capacity]
        unfold icmpEchoHlen at *
        omega
      · simp only [hlength, EchoBuffer.capacity]
        omega

theorem fits_sendSegment {backend : EthernetEchoBackend} {frame : List UInt8} {tcp payload : Nat}
    {reply : TcpReply} (hheader : ethHlen + ipv4Hlen ≤ frame.length)
    (hpayload : payload + reply.payload.length ≤ frame.length) :
    (backend.sendSegment frame tcp payload reply).Fits ↔
      tcpHlen + reply.payload.length ≤ tcpMaxPayload := by
  have hstart : (touches [⟨.tcpSegment, 0, tcpHlen⟩]).Fits := by decide
  have hlength (c : UInt16) : (tcpHeader backend.tcpPort (TcpHeader.srcPort frame tcp) reply c ++
      reply.payload).length = tcpHlen + reply.payload.length := by
    simp only [tcpHeader, List.length_append, length_u16ToBytes, length_u32ToBytes,
      List.length_cons, List.length_nil, tcpHlen]
  simp only [sendSegment, fits_append, hstart, fits_copies, fits_touches_cons, fits_touches_nil,
    fits_sendIpv4, hlength, true_and, and_true]
  simp only [EchoBuffer.capacity, ethHlen, ipv4Hlen, tcpHlen, tcpMaxPayload] at *
  omega

theorem fits_sendSegments {backend : EthernetEchoBackend} {frame : List UInt8} {tcp payload : Nat}
    {replies : List TcpReply} (hheader : ethHlen + ipv4Hlen ≤ frame.length)
    (hpayload : ∀ reply ∈ replies, payload + reply.payload.length ≤ frame.length) :
    (backend.sendSegments frame tcp payload replies).Fits ↔
      ∀ reply ∈ replies, tcpHlen + reply.payload.length ≤ tcpMaxPayload := by
  induction replies with
  | nil => exact iff_of_true fits_touches_nil (List.forall_mem_nil _)
  | cons reply replies ih =>
      obtain ⟨hreply, hreplies⟩ := List.forall_mem_cons.mp hpayload
      rw [sendSegments, fits_append, fits_sendSegment hheader hreply, ih hreplies,
        List.forall_mem_cons]

/-- The segment is one that the service on the port takes. -/
structure AcceptsTcp (tcpPort : UInt16) (frame : List UInt8) (tcp tcpLen : Nat) :
    Prop where
  header : tcpHlen ≤ tcpLen
  dstPort : TcpHeader.dstPort frame tcp = tcpPort
  dataOffset_ge : tcpHlen ≤ TcpHeader.dataOffset frame tcp
  dataOffset_le : TcpHeader.dataOffset frame tcp ≤ tcpLen

/-- The packet is one for the address that the frame holds as a whole. -/
structure AcceptsIpv4 (ip : Ipv4Address) (frame : List UInt8) : Prop where
  ethertype : EthHeader.ethertype frame = ethTypeIpv4
  header : ethHlen + ipv4Hlen ≤ frame.length
  ihl_ge : ipv4Hlen ≤ Ipv4Header.ihl frame
  ihl_le : Ipv4Header.ihl frame ≤ Ipv4Header.totalLen frame
  totalLen_le : ethHlen + Ipv4Header.totalLen frame ≤ frame.length
  dst : Ipv4Header.dst frame = ip

/-- Data of the established connection that do not fit into a packet behind both headers. -/
structure Oversized (backend : EthernetEchoBackend) (frame : List UInt8) : Prop where
  ipv4 : AcceptsIpv4 backend.ip frame
  proto : Ipv4Header.proto frame = ipProtoTcp
  tcp : AcceptsTcp backend.tcpPort frame (ethHlen + Ipv4Header.ihl frame)
    (Ipv4Header.totalLen frame - Ipv4Header.ihl frame)
  established : backend.tcp.established = true
  payload : tcpMaxPayload < tcpHlen + (Ipv4Header.totalLen frame - Ipv4Header.ihl frame -
    TcpHeader.dataOffset frame (ethHlen + Ipv4Header.ihl frame))

theorem handleTcp_of_accepts {backend : EthernetEchoBackend} {frame : List UInt8}
    {tcp tcpLen : Nat} (h : AcceptsTcp backend.tcpPort frame tcp tcpLen) :
    let dataOffset := TcpHeader.dataOffset frame tcp
    let out := backend.tcp.receive (TcpHeader.seq frame tcp) (TcpHeader.ack frame tcp)
      (TcpHeader.flags frame tcp) (bytesAt frame (tcp + dataOffset) (tcpLen - dataOffset))
    backend.handleTcp frame tcp tcpLen = ({ backend with tcp := out.1 },
      touches [⟨.hostFrame frame.length, tcp, tcpHlen⟩] ++
        backend.sendSegments frame tcp (tcp + dataOffset) out.2) := by
  intro dataOffset out
  unfold handleTcp
  dsimp only
  rw [if_neg (Nat.not_lt.mpr h.header), if_neg (not_not.mpr h.dstPort),
    if_neg (not_or.mpr ⟨Nat.not_lt.mpr h.dataOffset_ge, Nat.not_lt.mpr h.dataOffset_le⟩)]

theorem handleTcp_of_not_accepts {backend : EthernetEchoBackend} {frame : List UInt8}
    {tcp tcpLen : Nat} (h : ¬AcceptsTcp backend.tcpPort frame tcp tcpLen) :
    backend.handleTcp frame tcp tcpLen = (backend, touches (if tcpLen < tcpHlen then [] else
      [⟨.hostFrame frame.length, tcp, tcpHlen⟩])) := by
  unfold handleTcp
  split
  next => rfl
  next hheader =>
    dsimp only
    split
    next => rfl
    next hport =>
      split
      next => rfl
      next hoffset =>
        obtain ⟨hge, hle⟩ := not_or.mp hoffset
        exact absurd ⟨Nat.not_lt.mp hheader, not_not.mp hport, Nat.not_lt.mp hge,
          Nat.not_lt.mp hle⟩ h

theorem fits_handleTcp {backend : EthernetEchoBackend} {frame : List UInt8} {tcp tcpLen : Nat}
    (hheader : ethHlen + ipv4Hlen ≤ frame.length) (hinside : tcp + tcpLen ≤ frame.length) :
    (backend.handleTcp frame tcp tcpLen).2.Fits ↔
      ¬(AcceptsTcp backend.tcpPort frame tcp tcpLen ∧ backend.tcp.established = true ∧
        tcpMaxPayload < tcpHlen + (tcpLen - TcpHeader.dataOffset frame tcp)) := by
  by_cases haccepts : AcceptsTcp backend.tcpPort frame tcp tcpLen
  · have hlength := length_bytesAt frame (tcp + TcpHeader.dataOffset frame tcp)
      (tcpLen - TcpHeader.dataOffset frame tcp)
    have hread : (touches [⟨.hostFrame frame.length, tcp, tcpHlen⟩]).Fits :=
      fits_touches_cons.mpr ⟨(Nat.add_le_add_left haccepts.header tcp).trans hinside,
        fits_touches_nil⟩
    have hinside' : tcp + TcpHeader.dataOffset frame tcp +
        (tcpLen - TcpHeader.dataOffset frame tcp) ≤ frame.length := by
      have hle := haccepts.dataOffset_le
      omega
    -- All answers are read from the frame where the data of the segment are.
    have hslices := (backend.tcp.forall_payload_receive (TcpHeader.seq frame tcp)
      (TcpHeader.ack frame tcp) (TcpHeader.flags frame tcp)
      (bytesAt frame (tcp + TcpHeader.dataOffset frame tcp)
        (tcpLen - TcpHeader.dataOffset frame tcp))
      (P := fun payload => tcp + TcpHeader.dataOffset frame tcp + payload.length ≤ frame.length)
      ((Nat.le_add_right _ _).trans hinside')).mpr fun _ => by rwa [hlength]
    rw [handleTcp_of_accepts haccepts, fits_append, and_iff_right hread,
      fits_sendSegments hheader hslices,
      TcpEcho.forall_payload_receive _ _ _ _ _
        (P := fun payload => tcpHlen + payload.length ≤ tcpMaxPayload) (by decide), hlength]
    simp only [haccepts, true_and, not_and, not_lt]
  · rw [handleTcp_of_not_accepts haccepts]
    refine iff_of_true ?_ fun h => haccepts h.1
    split
    next => exact fits_touches_nil
    next hheader =>
      refine fits_touches_cons.mpr ⟨?_, fits_touches_nil⟩
      exact (Nat.add_le_add_left (Nat.not_lt.mp hheader) tcp).trans hinside

theorem handleIpv4_of_accepts {backend : EthernetEchoBackend} {frame : List UInt8}
    (h : AcceptsIpv4 backend.ip frame) :
    backend.handleIpv4 frame =
      let ip := ethHlen + Ipv4Header.ihl frame
      let len := Ipv4Header.totalLen frame - Ipv4Header.ihl frame
      let header := touches [⟨.hostFrame frame.length, ethHlen, ipv4Hlen⟩]
      if Ipv4Header.proto frame = ipProtoIcmp then
        (backend, header ++ backend.handleIcmp frame ip len)
      else if Ipv4Header.proto frame = ipProtoTcp then
        ((backend.handleTcp frame ip len).1, header ++ (backend.handleTcp frame ip len).2)
      else
        (backend, header) := by
  have hbounds : ¬(Ipv4Header.ihl frame < ipv4Hlen ∨
      Ipv4Header.totalLen frame < Ipv4Header.ihl frame ∨
      frame.length < ethHlen + Ipv4Header.totalLen frame) :=
    not_or.mpr ⟨Nat.not_lt.mpr h.ihl_ge,
      not_or.mpr ⟨Nat.not_lt.mpr h.ihl_le, Nat.not_lt.mpr h.totalLen_le⟩⟩
  unfold handleIpv4
  dsimp only
  rw [if_neg (Nat.not_lt.mpr h.header), if_neg hbounds, if_neg (not_not.mpr h.dst)]

theorem handleIpv4_of_not_accepts {backend : EthernetEchoBackend} {frame : List UInt8}
    (hethertype : EthHeader.ethertype frame = ethTypeIpv4) (h : ¬AcceptsIpv4 backend.ip frame) :
    backend.handleIpv4 frame = (backend, touches (if frame.length < ethHlen + ipv4Hlen then [] else
      [⟨.hostFrame frame.length, ethHlen, ipv4Hlen⟩])) := by
  unfold handleIpv4
  split
  next => rfl
  next hheader =>
    dsimp only
    split
    next => rfl
    next hbounds =>
      split
      next => rfl
      next hdst =>
        obtain ⟨hihl, hrest⟩ := not_or.mp hbounds
        obtain ⟨htotal, hsize⟩ := not_or.mp hrest
        exact absurd ⟨hethertype, Nat.not_lt.mp hheader, Nat.not_lt.mp hihl, Nat.not_lt.mp htotal,
          Nat.not_lt.mp hsize, not_not.mp hdst⟩ h

theorem fits_handleIpv4 {backend : EthernetEchoBackend} {frame : List UInt8}
    (hethertype : EthHeader.ethertype frame = ethTypeIpv4) :
    (backend.handleIpv4 frame).2.Fits ↔ ¬Oversized backend frame := by
  by_cases haccepts : AcceptsIpv4 backend.ip frame
  · have hread : (touches [⟨.hostFrame frame.length, ethHlen, ipv4Hlen⟩]).Fits :=
      fits_touches_cons.mpr ⟨haccepts.header, fits_touches_nil⟩
    have hinside : ethHlen + Ipv4Header.ihl frame +
        (Ipv4Header.totalLen frame - Ipv4Header.ihl frame) ≤ frame.length := by
      have hle := haccepts.ihl_le
      have htotal := haccepts.totalLen_le
      omega
    rw [handleIpv4_of_accepts haccepts]
    dsimp only
    split
    next hicmp =>
      refine iff_of_true (fits_append.mpr ⟨hread, backend.fits_handleIcmp hinside⟩) fun h => ?_
      exact absurd (hicmp.symm.trans h.proto) (by decide)
    next =>
      split
      next htcp =>
        rw [fits_append, and_iff_right hread, fits_handleTcp haccepts.header hinside]
        exact not_congr ⟨fun h => ⟨haccepts, htcp, h.1, h.2.1, h.2.2⟩,
          fun h => ⟨h.tcp, h.established, h.payload⟩⟩
      next htcp => exact iff_of_true hread fun h => htcp h.proto
  · rw [handleIpv4_of_not_accepts hethertype haccepts]
    refine iff_of_true ?_ fun h => haccepts h.ipv4
    split
    next => exact fits_touches_nil
    next hheader => exact fits_touches_cons.mpr ⟨Nat.not_lt.mp hheader, fits_touches_nil⟩

/-- The peer's address is none of what decides about the buffers. -/
theorem oversized_peerMac {backend : EthernetEchoBackend} {frame : List UInt8}
    {peerMac : MacAddress} :
    Oversized { backend with peerMac } frame ↔ Oversized backend frame :=
  ⟨fun h => ⟨h.ipv4, h.proto, h.tcp, h.established, h.payload⟩,
    fun h => ⟨h.ipv4, h.proto, h.tcp, h.established, h.payload⟩⟩

theorem fits_sendFrame (backend : EthernetEchoBackend) (frame : List UInt8) :
    (backend.sendFrame frame).2.Fits ↔ ¬Oversized backend frame := by
  unfold sendFrame handleFrame
  split
  next hshort =>
    refine iff_of_true fits_touches_nil fun h => ?_
    have hheader := h.ipv4.header
    omega
  next hlong =>
    have hread : (touches [⟨.hostFrame frame.length, 0, ethHlen⟩]).Fits :=
      fits_touches_cons.mpr ⟨(Nat.zero_add _).trans_le (Nat.not_lt.mp hlong), fits_touches_nil⟩
    dsimp only
    split
    next harp =>
      refine iff_of_true (fits_append.mpr ⟨hread, fits_handleArp _ _⟩) fun h => ?_
      exact absurd (harp.symm.trans h.ipv4.ethertype) (by decide)
    next =>
      split
      next hipv4 =>
        rw [fits_append, and_iff_right hread, fits_handleIpv4 hipv4, oversized_peerMac]
      next hipv4 => exact iff_of_true hread fun h => hipv4 h.ipv4.ethertype

/-- The frames that the host sends, one after the other. -/
def sendFrames (backend : EthernetEchoBackend) :
    List (List UInt8) → EthernetEchoBackend × EchoOutput
  | [] => (backend, touches [])
  | frame :: frames =>
      let (backend, output) := backend.sendFrame frame
      let (backend, outputs) := backend.sendFrames frames
      (backend, output ++ outputs)

/-- Over any frames, the buffers hold what is copied to them just when none brings data of the
established connection that are too many for a packet. -/
theorem buffers_fit_iff (backend : EthernetEchoBackend) (frames : List (List UInt8)) :
    (backend.sendFrames frames).2.Fits ↔ ∀ before frame after,
      frames = before ++ frame :: after → ¬Oversized (backend.sendFrames before).1 frame := by
  induction frames generalizing backend with
  | nil => exact iff_of_true fits_touches_nil fun before frame after h => by simp at h
  | cons first frames ih =>
      have hrest := ih (backend.sendFrame first).1
      have hfirst := backend.fits_sendFrame first
      rw [sendFrames, fits_append, hfirst, hrest]
      constructor
      · rintro ⟨hfits, hrest⟩ before frame after hframes
        cases before with
        | nil =>
            obtain ⟨rfl, -⟩ := List.cons.inj hframes
            exact hfits
        | cons _ before =>
            obtain ⟨rfl, htail⟩ := List.cons.inj hframes
            exact hrest before frame after htail
      · intro h
        refine ⟨h [] first frames rfl, fun before frame after hframes => ?_⟩
        exact h (first :: before) frame after (congrArg (first :: ·) hframes)

def sampleBackend : EthernetEchoBackend where
  mac := ⟨[2, 0, 0, 0, 0, 1], rfl⟩
  ip := ⟨[10, 0, 0, 1], rfl⟩
  tcpPort := 7

/-- A frame that brings a segment to the service of the sample. -/
def sampleSegment (flags seq : UInt8) (payload : List UInt8) : List UInt8 :=
  [2, 0, 0, 0, 0, 1, 2, 0, 0, 0, 0, 2, 8, 0] ++
    ([0x45, 0] ++ u16ToBytes (.ofNat (ipv4Hlen + tcpHlen + payload.length)) ++
      [0, 0, 0, 0, 64, 6, 0, 0, 10, 0, 0, 2, 10, 0, 0, 1]) ++
    [0x12, 0x34, 0, 7, 0, 0, 0, seq, 0, 0, 0, 0, 0x50, flags, 0, 0, 0, 0, 0, 0] ++ payload

/-- One byte more than a packet holds behind both headers is written past the end of its buffer. -/
theorem not_buffers_fit : ¬∀ (backend : EthernetEchoBackend) (frames : List (List UInt8)),
    (backend.sendFrames frames).2.Fits := by
  intro h
  exact absurd (h sampleBackend [sampleSegment tcpFlagSyn 0 [],
    sampleSegment tcpFlagPsh 1 (List.replicate 1481 0)]) (by decide +kernel)

end EthernetEchoBackend

end Usbipdcpp.VirtualDevice
