import Mathlib.Data.List.GetD
import Usbipdcpp.Foundation.OnesComplement
import Usbipdcpp.VirtualDevice.EchoBounds

namespace Usbipdcpp.VirtualDevice

open Foundation.ByteStream Foundation.OnesComplement Protocol Protocol.DeviceList EchoOutput

theorem toNat_readBe16 (data : List UInt8) (offset : Nat) :
    (readBe16 data offset).toNat =
      256 * (data.getD offset 0).toNat + (data.getD (offset + 1) 0).toNat := by
  have hhigh := (data.getD offset 0).toNat_lt
  have hlow := (data.getD (offset + 1) 0).toNat_lt
  change (UInt16.ofNat (256 * (256 * 0 + (data.getD offset 0).toNat) +
    (data.getD (offset + 1) 0).toNat)).toNat = _
  rw [UInt16.toNat_ofNat_of_lt' (by change _ < 65536; omega)]
  omega

/-- The words of an address are those that its fields are read as. -/
theorem words_bytesAt_four (data : List UInt8) (offset : Nat) :
    words (bytesAt data offset 4) =
      [(readBe16 data offset).toNat, (readBe16 data (offset + 2)).toNat] := by
  rw [toNat_readBe16, toNat_readBe16]
  rfl

theorem toNat_addWords {sum : UInt32} {data : List UInt8}
    (h : sum.toNat + (words data).sum < 4294967296) :
    (addWords sum data).toNat = sum.toNat + (words data).sum := by
  fun_induction addWords sum data with
  | case1 sum high low rest ih =>
      rw [words, List.sum_cons] at h ⊢
      have hword : (sum + (readBe16 [high, low] 0).toUInt32).toNat =
          sum.toNat + (256 * high.toNat + low.toNat) := by
        rw [UInt32.toNat_add, UInt16.toNat_toUInt32, toNat_readBe16]
        change (_ + (256 * high.toNat + low.toNat)) % 4294967296 = _
        omega
      rw [ih (by omega), hword]
      omega
  | case2 sum last =>
      rw [words, List.sum_singleton] at h ⊢
      have hlast := last.toNat_lt
      have hword : (last.toUInt32 <<< 8).toNat = 256 * last.toNat := by
        rw [UInt32.toNat_shiftLeft, UInt8.toNat_toUInt32]
        change last.toNat <<< 8 % 4294967296 = _
        rw [Nat.shiftLeft_eq]
        omega
      rw [UInt32.toNat_add, hword]
      omega
  | case3 sum => rfl

theorem toNat_carry (sum : UInt32) :
    ((sum &&& (0xFFFF : UInt32)) + (sum >>> 16)).toNat =
      sum.toNat % 65536 + sum.toNat / 65536 := by
  have hsum := sum.toNat_lt
  have hlow : (sum &&& (0xFFFF : UInt32)).toNat = sum.toNat % 65536 :=
    (UInt32.toNat_and sum 0xFFFF).trans (Nat.and_two_pow_sub_one_eq_mod sum.toNat 16)
  have hhigh : (sum >>> 16).toNat = sum.toNat / 65536 :=
    (UInt32.toNat_shiftRight sum 16).trans (Nat.shiftRight_eq_div_pow sum.toNat 16)
  rw [UInt32.toNat_add, hlow, hhigh]
  omega

theorem shiftRight_eq_zero_iff {sum : UInt32} : sum >>> 16 = 0 ↔ sum.toNat < 65536 := by
  have hhigh : (sum >>> 16).toNat = sum.toNat / 65536 :=
    (UInt32.toNat_shiftRight sum 16).trans (Nat.shiftRight_eq_div_pow sum.toNat 16)
  rw [← UInt32.toNat_inj, hhigh]
  change sum.toNat / 65536 = 0 ↔ _
  omega

theorem fold_foldCarries (fuel : Nat) (sum : UInt32) :
    fold (foldCarries fuel sum).toNat = fold sum.toNat := by
  induction fuel generalizing sum with
  | zero => rfl
  | succ fuel ih =>
      rw [foldCarries]
      split
      next => rw [ih, toNat_carry, fold_carry]
      next => rfl

/-- The loop has ended after two rounds. -/
theorem foldCarries_lt (sum : UInt32) : (foldCarries 2 sum).toNat < 65536 := by
  have hsum := sum.toNat_lt
  rw [foldCarries]
  split
  next =>
    rw [foldCarries]
    split
    next hcarry =>
      have hcarry := mt shiftRight_eq_zero_iff.mpr hcarry
      rw [foldCarries, toNat_carry, toNat_carry]
      rw [toNat_carry] at hcarry
      omega
    next hcarry => exact shiftRight_eq_zero_iff.mp (not_not.mp hcarry)
  next hcarry => exact shiftRight_eq_zero_iff.mp (not_not.mp hcarry)

theorem toNat_checksum {data : List UInt8} {initial : UInt32}
    (h : initial.toNat + (words data).sum < 4294967296) :
    (checksum data initial).toNat = 65535 - fold (initial.toNat + (words data).sum) := by
  have hlt := foldCarries_lt (addWords initial data)
  have hfold := fold_foldCarries 2 (addWords initial data)
  rw [fold_of_lt hlt, toNat_addWords h] at hfold
  rw [checksum, UInt32.toNat_toUInt16, UInt32.toNat_not, hfold]
  have hle := fold_le (initial.toNat + (words data).sum)
  change (4294967296 - 1 - _) % 65536 = _
  omega

theorem words_u16ToBytes (x : UInt16) : words (u16ToBytes x) = [x.toNat] := by
  have hx := x.toNat_lt
  change [256 * (UInt8.ofNat (x.toNat / 256)).toNat +
    (UInt8.ofNat (x.toNat % 256 / 1)).toNat] = [x.toNat]
  rw [UInt8.toNat_ofNat', UInt8.toNat_ofNat']
  congr 1
  omega

/-- With the checksum in its field, the words sum to all ones: both ends of the string and what the
sum has begun with are covered. -/
theorem endAroundSum_checksum {front back : List UInt8} {pseudo : List Nat} {initial : UInt32}
    (hfront : 2 ∣ front.length) (hpseudo : ∀ w ∈ pseudo, w < 65536)
    (hinitial : initial.toNat = pseudo.sum)
    (hsize : pseudo.sum + 65535 * (front.length + back.length) < 4294967296) :
    endAroundSum (pseudo ++ words (front ++ u16ToBytes (checksum (front ++ u16ToBytes 0 ++ back)
      initial) ++ back)) = 65535 := by
  have hwords (field : UInt16) : words (front ++ u16ToBytes field ++ back) =
      words front ++ field.toNat :: words back := by
    have heven : 2 ∣ (front ++ u16ToBytes field).length := by
      rw [List.length_append, length_u16ToBytes]
      exact Nat.dvd_add hfront (by decide)
    rw [words_append _ _ heven, words_append _ _ hfront, words_u16ToBytes, List.append_assoc,
      List.singleton_append]
  have hsum : (words (front ++ u16ToBytes 0 ++ back)).sum =
      (words front).sum + (words back).sum := by
    rw [hwords, List.sum_append, List.sum_cons]
    exact congrArg _ (Nat.zero_add _)
  have hfrontSum := sum_words_le front
  have hbackSum := sum_words_le back
  refine @endAroundSum_of_complement _ (pseudo ++ words front) (words back)
    (checksum (front ++ u16ToBytes 0 ++ back) initial).toNat ?_ ?_ ?_
  · rw [hwords]
    exact (List.append_assoc _ _ _).symm
  · exact List.forall_mem_append.mpr ⟨hpseudo, words_lt _⟩
  · rw [toNat_checksum (by rw [hinitial, hsum]; omega), hinitial, hsum]
    simp only [List.sum_append, List.sum_cons, Nat.zero_add, Nat.add_assoc]

theorem bytesAt_append_left {front back : List UInt8} {offset n : Nat}
    (h : offset + n ≤ front.length) :
    bytesAt (front ++ back) offset n = bytesAt front offset n := by
  refine List.map_congr_left fun i hi => List.getD_append _ _ _ _ ?_
  have hi := List.mem_range.mp hi
  omega

theorem bytesAt_append_right (front back : List UInt8) (offset n : Nat) :
    bytesAt (front ++ back) (front.length + offset) n = bytesAt back offset n := by
  refine List.map_congr_left fun i _ => ?_
  rw [List.getD_append_right _ _ _ _ (by omega), Nat.add_assoc, Nat.add_sub_cancel_left]

theorem drop_bytesAt {buffer : List UInt8} {offset k n : Nat} (h : k ≤ n) :
    (bytesAt buffer offset n).drop k = bytesAt buffer (offset + k) (n - k) := by
  rw [← Nat.add_sub_cancel' h, ← bytesAt_append, Nat.add_sub_cancel_left,
    List.drop_left' (length_bytesAt buffer offset k)]

theorem readBe16_of_bytesAt {data : List UInt8} {offset : Nat} {x : UInt16}
    (h : bytesAt data offset 2 = u16ToBytes x) : readBe16 data offset = x := by
  rw [readBe16, h, u16ToBytes, natOfBytes_bytesOfNat x.toNat_lt, UInt16.ofNat_toNat]

theorem getD_of_bytesAt {data : List UInt8} {offset : Nat} {x : UInt8}
    (h : bytesAt data offset 1 = [x]) : data.getD offset 0 = x :=
  List.singleton_inj.mp h

/-- What a packet carries behind its header, as its fields tell. -/
def ipPayload (frame : List UInt8) : List UInt8 :=
  bytesAt frame (ethHlen + Ipv4Header.ihl frame)
    (Ipv4Header.totalLen frame - Ipv4Header.ihl frame)

def icmpData (frame : List UInt8) : List UInt8 := (ipPayload frame).drop icmpEchoHlen

def tcpData (frame : List UInt8) : List UInt8 :=
  (ipPayload frame).drop (TcpHeader.dataOffset frame (ethHlen + Ipv4Header.ihl frame))

def tcpFlags (frame : List UInt8) : UInt8 :=
  TcpHeader.flags frame (ethHlen + Ipv4Header.ihl frame)

/-- The words of the pseudo-header of a segment. -/
def pseudoHeader (frame : List UInt8) : List Nat :=
  words ((Ipv4Header.src frame).val ++ (Ipv4Header.dst frame).val) ++
    [(Ipv4Header.proto frame).toNat, (ipPayload frame).length]

/-- What a host checks of a packet: its lengths are those of its bytes, behind which a short frame
has zeros, and the sums of its words are all ones. -/
structure Verified (frame : List UInt8) : Prop where
  length : frame.length = max ethMinFrame (ethHlen + Ipv4Header.totalLen frame)
  padding : ∀ byte ∈ frame.drop (ethHlen + Ipv4Header.totalLen frame), byte = 0
  ihl : Ipv4Header.ihl frame = ipv4Hlen
  totalLen : Ipv4Header.totalLen frame = ipv4Hlen + (ipPayload frame).length
  headerSum : endAroundSum (words (bytesAt frame ethHlen (Ipv4Header.ihl frame))) = 0xFFFF
  icmpSum : Ipv4Header.proto frame = ipProtoIcmp →
    endAroundSum (words (ipPayload frame)) = 0xFFFF
  tcpSum : Ipv4Header.proto frame = ipProtoTcp →
    endAroundSum (pseudoHeader frame ++ words (ipPayload frame)) = 0xFFFF

namespace EthernetEchoBackend

/-- A packet as `sendIpv4` puts it together. -/
def ipv4Packet (backend : EthernetEchoBackend) (proto : UInt8) (dstIp : Ipv4Address)
    (segment : List UInt8) : List UInt8 :=
  ipv4Header proto backend.ip dstIp segment.length
    (checksum (ipv4Header proto backend.ip dstIp segment.length 0) 0) ++ segment

def ipv4Frame (backend : EthernetEchoBackend) (proto : UInt8) (dstIp : Ipv4Address)
    (segment : List UInt8) : List UInt8 :=
  let packet := backend.ipv4Packet proto dstIp segment
  backend.peerMac.val ++ (backend.mac.val ++ (u16ToBytes ethTypeIpv4 ++ (packet ++
    List.replicate (ethMinFrame - (ethHlen + packet.length)) 0)))

theorem frames_copies (slice : Slice) (buffer : EchoBuffer) (offset : Nat) :
    (copies slice buffer offset).frames = [] := by
  unfold copies
  split <;> rfl

theorem frames_sendIpv4 (backend : EthernetEchoBackend) (proto : UInt8) (dstIp : Ipv4Address)
    (payload : Slice) :
    (backend.sendIpv4 proto dstIp payload).frames =
      [backend.ipv4Frame proto dstIp payload.bytes] := by
  simp only [sendIpv4, sendFrameToHost, frames_append, frames_copies]
  rfl

variable (backend : EthernetEchoBackend) (proto : UInt8) (dstIp : Ipv4Address)
  (segment : List UInt8)

@[simp] theorem length_ipv4Header (src dst : Ipv4Address) (payloadLen : Nat) (c : UInt16) :
    (ipv4Header proto src dst payloadLen c).length = ipv4Hlen := by
  simp only [ipv4Header, List.length_append, length_u16ToBytes, List.length_cons,
    List.length_nil, src.property, dst.property, ipv4Hlen]

@[simp] theorem length_ipv4Packet :
    (backend.ipv4Packet proto dstIp segment).length = ipv4Hlen + segment.length := by
  rw [ipv4Packet, List.length_append, length_ipv4Header]

theorem length_ethHeader :
    (backend.peerMac.val ++ (backend.mac.val ++ u16ToBytes ethTypeIpv4)).length = ethHlen := by
  rw [List.length_append, List.length_append, backend.peerMac.property, backend.mac.property,
    length_u16ToBytes]
  rfl

theorem ipv4Frame_eq : backend.ipv4Frame proto dstIp segment =
    (backend.peerMac.val ++ (backend.mac.val ++ u16ToBytes ethTypeIpv4)) ++
      (backend.ipv4Packet proto dstIp segment ++
        List.replicate (ethMinFrame - (ethHlen + (ipv4Hlen + segment.length))) 0) := by
  simp only [ipv4Frame, List.append_assoc, length_ipv4Packet]

theorem length_ipv4Frame : (backend.ipv4Frame proto dstIp segment).length =
    max ethMinFrame (ethHlen + (ipv4Hlen + segment.length)) := by
  rw [ipv4Frame_eq, List.length_append, length_ethHeader, List.length_append, length_ipv4Packet,
    List.length_replicate]
  omega

theorem drop_ipv4Frame :
    (backend.ipv4Frame proto dstIp segment).drop (ethHlen + (ipv4Hlen + segment.length)) =
      List.replicate (ethMinFrame - (ethHlen + (ipv4Hlen + segment.length))) 0 := by
  rw [ipv4Frame_eq, ← List.drop_drop, List.drop_left' (length_ethHeader backend),
    List.drop_left' (length_ipv4Packet backend proto dstIp segment)]

theorem bytesAt_ipv4Frame {offset n : Nat} (h : offset + n ≤ ipv4Hlen + segment.length) :
    bytesAt (backend.ipv4Frame proto dstIp segment) (ethHlen + offset) n =
      bytesAt (backend.ipv4Packet proto dstIp segment) offset n := by
  rw [ipv4Frame_eq, ← length_ethHeader backend, bytesAt_append_right, bytesAt_append_left]
  rwa [length_ipv4Packet]

theorem bytesAt_addresses_left (src dst : Ipv4Address) :
    bytesAt (src.val ++ dst.val) 0 4 = src.val := by
  have hall := bytesAt_zero src.val
  rw [src.property] at hall
  rw [bytesAt_append_left (by rw [src.property]), hall]

theorem bytesAt_addresses_right (src dst : Ipv4Address) :
    bytesAt (src.val ++ dst.val) 4 4 = dst.val := by
  have hall := bytesAt_append_right src.val dst.val 0 4
  have hzero := bytesAt_zero dst.val
  rw [src.property] at hall
  rw [dst.property] at hzero
  exact hall.trans hzero

/-- The header of a sent packet, its checksum in it. -/
def sentHeader : List UInt8 :=
  ipv4Header proto backend.ip dstIp segment.length
    (checksum (ipv4Header proto backend.ip dstIp segment.length 0) 0)

theorem bytesAt_header (offset n : Nat) (h : offset + n ≤ ipv4Hlen) :
    bytesAt (backend.ipv4Frame proto dstIp segment) (ethHlen + offset) n =
      bytesAt (backend.sentHeader proto dstIp segment) offset n := by
  rw [bytesAt_ipv4Frame _ _ _ _ (Nat.le_add_right_of_le h)]
  exact bytesAt_append_left (h.trans_eq (length_ipv4Header _ _ _ _ _).symm)

theorem ihl_ipv4Frame : Ipv4Header.ihl (backend.ipv4Frame proto dstIp segment) = ipv4Hlen := by
  have hfirst : (backend.ipv4Frame proto dstIp segment).getD ethHlen 0 = 0x45 :=
    getD_of_bytesAt (bytesAt_header backend proto dstIp segment 0 1 (by decide))
  rw [Ipv4Header.ihl, hfirst]
  decide

theorem totalLen_ipv4Frame (h : segment.length ≤ tcpMaxPayload) :
    Ipv4Header.totalLen (backend.ipv4Frame proto dstIp segment) = ipv4Hlen + segment.length := by
  have hfield : readBe16 (backend.ipv4Frame proto dstIp segment) (ethHlen + 2) =
      .ofNat (ipv4Hlen + segment.length) :=
    readBe16_of_bytesAt (bytesAt_header backend proto dstIp segment 2 2 (by decide))
  rw [Ipv4Header.totalLen, hfield]
  refine UInt16.toNat_ofNat_of_lt' ?_
  unfold tcpMaxPayload at h
  unfold ipv4Hlen
  change _ < 65536
  omega

theorem proto_ipv4Frame : Ipv4Header.proto (backend.ipv4Frame proto dstIp segment) = proto :=
  getD_of_bytesAt (bytesAt_header backend proto dstIp segment 9 1 (by decide))

theorem src_ipv4Frame : Ipv4Header.src (backend.ipv4Frame proto dstIp segment) = backend.ip := by
  refine Subtype.ext ((bytesAt_header backend proto dstIp segment 12 4 (by decide)).trans ?_)
  refine (bytesAt_append_right _ (backend.ip.val ++ dstIp.val) 0 4).trans ?_
  exact bytesAt_addresses_left backend.ip dstIp

theorem dst_ipv4Frame : Ipv4Header.dst (backend.ipv4Frame proto dstIp segment) = dstIp := by
  refine Subtype.ext ((bytesAt_header backend proto dstIp segment 16 4 (by decide)).trans ?_)
  refine (bytesAt_append_right _ (backend.ip.val ++ dstIp.val) 4 4).trans ?_
  exact bytesAt_addresses_right backend.ip dstIp

theorem ipPayload_ipv4Frame (h : segment.length ≤ tcpMaxPayload) :
    ipPayload (backend.ipv4Frame proto dstIp segment) = segment := by
  rw [ipPayload, ihl_ipv4Frame, totalLen_ipv4Frame _ _ _ _ h, Nat.add_sub_cancel_left,
    bytesAt_ipv4Frame _ _ _ _ (le_refl _), ipv4Packet,
    ← length_ipv4Header proto backend.ip dstIp segment.length
      (checksum (ipv4Header proto backend.ip dstIp segment.length 0) 0)]
  exact (bytesAt_append_right _ _ 0 _).trans (bytesAt_zero segment)

theorem headerSum_ipv4Frame :
    endAroundSum (words (bytesAt (backend.ipv4Frame proto dstIp segment) ethHlen ipv4Hlen)) =
      65535 := by
  have hheader : bytesAt (backend.ipv4Frame proto dstIp segment) ethHlen ipv4Hlen =
      backend.sentHeader proto dstIp segment := by
    refine (bytesAt_header backend proto dstIp segment 0 ipv4Hlen (le_refl _)).trans ?_
    rw [← length_ipv4Header proto backend.ip dstIp segment.length
      (checksum (ipv4Header proto backend.ip dstIp segment.length 0) 0)]
    exact bytesAt_zero _
  let front : List UInt8 := [0x45, 0] ++ u16ToBytes (.ofNat (ipv4Hlen + segment.length)) ++
    u16ToBytes 0 ++ u16ToBytes 0x4000 ++ [64, proto]
  have hfront : front.length = 10 := rfl
  have hback : (backend.ip.val ++ dstIp.val).length = 8 := by
    rw [List.length_append, backend.ip.property, dstIp.property]
  rw [hheader]
  exact @endAroundSum_checksum front (backend.ip.val ++ dstIp.val) [] 0
    (by rw [hfront]; decide) (List.forall_mem_nil _) rfl (by rw [hfront, hback]; decide)

/-- A message that is sent back sums to all ones, and its data are those of the request. -/
theorem icmpReply_spec {message : List UInt8} (h : icmpEchoHlen ≤ message.length)
    (hsize : message.length ≤ tcpMaxPayload) :
    endAroundSum (words (icmpReply message)) = 65535 ∧
      (icmpReply message).drop icmpEchoHlen = message.drop icmpEchoHlen := by
  unfold icmpEchoHlen at h
  obtain ⟨type, code, high, low, rest, rfl⟩ :
      ∃ type code high low rest, message = type :: code :: high :: low :: rest := by
    match message, h with
    | type :: code :: high :: low :: rest, _ => exact ⟨type, code, high, low, rest, rfl⟩
  have hreply : icmpReply (type :: code :: high :: low :: rest) = [icmpEchoReply, code] ++
      u16ToBytes (checksum ([icmpEchoReply, code] ++ u16ToBytes 0 ++ rest) 0) ++ rest := rfl
  refine ⟨?_, rfl⟩
  rw [hreply]
  refine @endAroundSum_checksum [icmpEchoReply, code] rest [] 0 ⟨1, rfl⟩ (List.forall_mem_nil _)
    rfl ?_
  simp only [List.length_cons, tcpMaxPayload] at hsize
  simp only [List.sum_nil, List.length_cons, List.length_nil]
  omega

theorem toNat_pseudoSum {frame : List UInt8} {segmentLen : Nat} (h : segmentLen < 65536) :
    (pseudoSum frame segmentLen).toNat = (words (Ipv4Header.src frame).val).sum +
      (words (Ipv4Header.dst frame).val).sum + ipProtoTcp.toNat + segmentLen := by
  have hsrc : words (bytesAt frame (ethHlen + 12) 4) =
      [(readBe16 frame (ethHlen + 12)).toNat, (readBe16 frame (ethHlen + 14)).toNat] :=
    words_bytesAt_four frame (ethHlen + 12)
  have hdst : words (bytesAt frame (ethHlen + 16) 4) =
      [(readBe16 frame (ethHlen + 16)).toNat, (readBe16 frame (ethHlen + 18)).toNat] :=
    words_bytesAt_four frame (ethHlen + 16)
  have hfirst := (readBe16 frame (ethHlen + 12)).toNat_lt
  have hsecond := (readBe16 frame (ethHlen + 14)).toNat_lt
  have hthird := (readBe16 frame (ethHlen + 16)).toNat_lt
  have hfourth := (readBe16 frame (ethHlen + 18)).toNat_lt
  have hproto : ipProtoTcp.toNat = 6 := rfl
  rw [Ipv4Header.src, Ipv4Header.dst, hsrc, hdst]
  simp only [pseudoSum, UInt32.toNat_add, UInt16.toNat_toUInt32, UInt8.toNat_toUInt32,
    UInt32.toNat_ofNat', List.sum_cons, List.sum_nil, hproto]
  omega

/-- The sum of the pseudo-header is begun with the addresses of the request, which are those of the
answer the other way round. -/
theorem segmentSum {frame : List UInt8} {srcPort dstPort : UInt16} {reply : TcpReply}
    (h : reply.payload.length ≤ tcpMaxPayload) :
    endAroundSum ((words ((Ipv4Header.dst frame).val ++ (Ipv4Header.src frame).val) ++
      [ipProtoTcp.toNat, tcpHlen + reply.payload.length]) ++
        words (tcpHeader srcPort dstPort reply (checksum (tcpHeader srcPort dstPort reply 0 ++
          reply.payload) (pseudoSum frame (tcpHlen + reply.payload.length))) ++
            reply.payload)) = 65535 := by
  let front : List UInt8 := u16ToBytes srcPort ++ u16ToBytes dstPort ++ u32ToBytes reply.seq ++
    u32ToBytes reply.ack ++ [.ofNat (5 <<< 4), reply.flags] ++ u16ToBytes 4096
  have hfront : front.length = 16 := rfl
  have hheader (c : UInt16) : tcpHeader srcPort dstPort reply c ++ reply.payload =
      front ++ u16ToBytes c ++ (u16ToBytes 0 ++ reply.payload) := List.append_assoc _ _ _
  have hproto : ipProtoTcp.toNat = 6 := rfl
  have heven : 2 ∣ (Ipv4Header.dst frame).val.length := by
    rw [(Ipv4Header.dst frame).property]
    decide
  have hdst := sum_words_le (Ipv4Header.dst frame).val
  have hsrc := sum_words_le (Ipv4Header.src frame).val
  rw [(Ipv4Header.dst frame).property] at hdst
  rw [(Ipv4Header.src frame).property] at hsrc
  unfold tcpMaxPayload at h
  rw [hheader, hheader]
  refine endAroundSum_checksum (by rw [hfront]; decide) ?_ ?_ ?_
  · refine List.forall_mem_append.mpr ⟨words_lt _, List.forall_mem_cons.mpr ⟨by decide, ?_⟩⟩
    refine List.forall_mem_singleton.mpr ?_
    unfold tcpHlen
    omega
  · rw [toNat_pseudoSum (by unfold tcpHlen; omega), words_append _ _ heven]
    simp only [List.sum_append, List.sum_cons, List.sum_nil]
    omega
  · rw [words_append _ _ heven, hfront]
    simp only [List.sum_append, List.sum_cons, List.sum_nil, List.length_append, length_u16ToBytes,
      tcpHlen]
    omega

theorem getD_bytesAt {buffer : List UInt8} {offset k n : Nat} (h : k < n) :
    (bytesAt buffer offset n).getD k 0 = buffer.getD (offset + k) 0 := by
  rw [bytesAt, List.getD_eq_getElem?_getD, List.getElem?_map, List.getElem?_range h]
  rfl

theorem getD_ipPayload {frame : List UInt8} {k : Nat} (h : k < (ipPayload frame).length) :
    frame.getD (ethHlen + Ipv4Header.ihl frame + k) 0 = (ipPayload frame).getD k 0 := by
  rw [ipPayload, length_bytesAt] at h
  exact (getD_bytesAt h).symm

theorem verified_ipv4Frame (h : segment.length ≤ tcpMaxPayload)
    (hicmp : proto = ipProtoIcmp → endAroundSum (words segment) = 65535)
    (htcp : proto = ipProtoTcp → endAroundSum ((words (backend.ip.val ++ dstIp.val) ++
      [ipProtoTcp.toNat, segment.length]) ++ words segment) = 65535) :
    Verified (backend.ipv4Frame proto dstIp segment) where
  length := by rw [length_ipv4Frame, totalLen_ipv4Frame _ _ _ _ h]
  padding := by
    rw [totalLen_ipv4Frame _ _ _ _ h, drop_ipv4Frame]
    exact fun byte => List.eq_of_mem_replicate
  ihl := ihl_ipv4Frame backend proto dstIp segment
  totalLen := by rw [totalLen_ipv4Frame _ _ _ _ h, ipPayload_ipv4Frame _ _ _ _ h]
  headerSum := by
    rw [ihl_ipv4Frame]
    exact headerSum_ipv4Frame backend proto dstIp segment
  icmpSum := by
    rw [proto_ipv4Frame, ipPayload_ipv4Frame _ _ _ _ h]
    exact hicmp
  tcpSum := by
    rw [pseudoHeader, src_ipv4Frame, dst_ipv4Frame, proto_ipv4Frame, ipPayload_ipv4Frame _ _ _ _ h]
    rintro rfl
    exact htcp rfl

/-- What an answer is to the request: as sent, and with the data of the request, which the segments
of the handshake and of the end do not carry. -/
structure Answers (frame out : List UInt8) : Prop where
  verified : Verified out
  proto : Ipv4Header.proto out = Ipv4Header.proto frame
  protocols : Ipv4Header.proto out = ipProtoIcmp ∨ Ipv4Header.proto out = ipProtoTcp
  icmp : Ipv4Header.proto out = ipProtoIcmp → icmpData out = icmpData frame
  tcp : Ipv4Header.proto out = ipProtoTcp →
    tcpData out = if tcpFlags out = tcpFlagPsh ||| tcpFlagAck then tcpData frame else []

theorem answers_of_mem_handleIcmp {backend : EthernetEchoBackend} {frame out : List UInt8}
    (hproto : Ipv4Header.proto frame = ipProtoIcmp)
    (hout : out ∈ (backend.handleIcmp frame (ethHlen + Ipv4Header.ihl frame)
      (Ipv4Header.totalLen frame - Ipv4Header.ihl frame)).frames) : Answers frame out := by
  unfold handleIcmp at hout
  split at hout
  next => exact absurd hout List.not_mem_nil
  next hbounds =>
    obtain ⟨hlong, hshort⟩ := not_or.mp hbounds
    dsimp only at hout
    split at hout
    next => exact absurd hout List.not_mem_nil
    next =>
      rw [frames_append, frames_sendIpv4, frames_append, frames_append, frames_copies] at hout
      obtain rfl := List.mem_singleton.mp hout
      have hlength := length_bytesAt frame (ethHlen + Ipv4Header.ihl frame)
        (Ipv4Header.totalLen frame - Ipv4Header.ihl frame)
      obtain ⟨hsum, hdata⟩ := icmpReply_spec (hlength.symm ▸ Nat.not_lt.mp hlong)
        (hlength.symm ▸ Nat.not_lt.mp hshort)
      have hsize : (icmpReply (bytesAt frame (ethHlen + Ipv4Header.ihl frame)
          (Ipv4Header.totalLen frame - Ipv4Header.ihl frame))).length ≤ tcpMaxPayload := by
        unfold icmpEchoHlen at hlong
        rw [length_icmpReply (by rw [hlength]; omega), hlength]
        exact Nat.not_lt.mp hshort
      refine ⟨verified_ipv4Frame _ _ _ _ hsize (fun _ => hsum) fun h => absurd h (by decide),
        (proto_ipv4Frame _ _ _ _).trans hproto.symm, .inl (proto_ipv4Frame _ _ _ _), fun _ => ?_,
        fun h => ?_⟩
      · rw [icmpData, ipPayload_ipv4Frame _ _ _ _ hsize, hdata]
        rfl
      · rw [proto_ipv4Frame] at h
        exact absurd h (by decide)

/-- Each segment that is sent is one of the answers, with its checksum. -/
theorem mem_frames_sendSegments {backend : EthernetEchoBackend} {frame out : List UInt8}
    {tcp payload : Nat} {replies : List TcpReply}
    (hout : out ∈ (backend.sendSegments frame tcp payload replies).frames) :
    ∃ reply ∈ replies, out = backend.ipv4Frame ipProtoTcp (Ipv4Header.src frame)
      (tcpHeader backend.tcpPort (TcpHeader.srcPort frame tcp) reply
        (checksum (tcpHeader backend.tcpPort (TcpHeader.srcPort frame tcp) reply 0 ++
          reply.payload) (pseudoSum frame (tcpHlen + reply.payload.length))) ++
            reply.payload) := by
  induction replies with
  | nil => exact absurd hout List.not_mem_nil
  | cons reply replies ih =>
      rw [sendSegments, frames_append] at hout
      rcases List.mem_append.mp hout with hfirst | hrest
      · rw [sendSegment, frames_append, frames_sendIpv4, frames_append, frames_append,
          frames_copies] at hfirst
        exact ⟨reply, List.mem_cons_self, List.mem_singleton.mp hfirst⟩
      · obtain ⟨other, hmem, hother⟩ := ih hrest
        exact ⟨other, List.mem_cons_of_mem _ hmem, hother⟩

end EthernetEchoBackend

theorem TcpEcho.payload_of_mem_receive {tcp : TcpEcho} {seq ack : UInt32} {flags : UInt8}
    {payload : List UInt8} {reply : TcpReply}
    (h : reply ∈ (tcp.receive seq ack flags payload).2) :
    reply.payload = if reply.flags = tcpFlagPsh ||| tcpFlagAck then payload else [] := by
  have hecho (hmem : reply ∈ (tcp.echo seq payload).2) :
      reply.payload = if reply.flags = tcpFlagPsh ||| tcpFlagAck then payload else [] := by
    unfold echo at hmem
    split at hmem
    next =>
      obtain rfl := List.mem_singleton.mp hmem
      rfl
    next => exact absurd hmem List.not_mem_nil
  unfold receive at h
  split at h
  next =>
    obtain rfl := List.mem_singleton.mp h
    rfl
  next =>
    split at h
    next =>
      dsimp only at h
      split at h
      next =>
        rcases List.mem_append.mp h with hfirst | hlast
        · exact hecho hfirst
        · obtain rfl := List.mem_singleton.mp hlast
          rfl
      next => split at h <;> exact hecho h
    next => exact absurd h List.not_mem_nil

namespace EthernetEchoBackend

theorem answers_of_segment {backend : EthernetEchoBackend} {frame : List UInt8}
    {srcPort dstPort : UInt16} {reply : TcpReply}
    (hproto : Ipv4Header.proto frame = ipProtoTcp) (hdst : Ipv4Header.dst frame = backend.ip)
    (hsize : tcpHlen + reply.payload.length ≤ tcpMaxPayload)
    (hpayload : reply.payload =
      if reply.flags = tcpFlagPsh ||| tcpFlagAck then tcpData frame else []) :
    Answers frame (backend.ipv4Frame ipProtoTcp (Ipv4Header.src frame)
      (tcpHeader srcPort dstPort reply (checksum (tcpHeader srcPort dstPort reply 0 ++
        reply.payload) (pseudoSum frame (tcpHlen + reply.payload.length))) ++ reply.payload)) := by
  have hsum := @segmentSum frame srcPort dstPort reply ((Nat.le_add_left _ _).trans hsize)
  generalize checksum (tcpHeader srcPort dstPort reply 0 ++ reply.payload)
    (pseudoSum frame (tcpHlen + reply.payload.length)) = c at hsum ⊢
  have hheader : (tcpHeader srcPort dstPort reply c).length = tcpHlen := rfl
  have hlength : (tcpHeader srcPort dstPort reply c ++ reply.payload).length =
      tcpHlen + reply.payload.length := by
    rw [List.length_append, hheader]
  have hsegment := ipPayload_ipv4Frame backend ipProtoTcp (Ipv4Header.src frame)
    (tcpHeader srcPort dstPort reply c ++ reply.payload) (hlength.trans_le hsize)
  have hverified := verified_ipv4Frame backend ipProtoTcp (Ipv4Header.src frame)
    (tcpHeader srcPort dstPort reply c ++ reply.payload) (hlength.trans_le hsize)
    (fun h => absurd h (by decide)) fun _ => by
      rw [hlength, ← hdst]
      exact hsum
  have hsent := proto_ipv4Frame backend ipProtoTcp (Ipv4Header.src frame)
    (tcpHeader srcPort dstPort reply c ++ reply.payload)
  generalize backend.ipv4Frame ipProtoTcp (Ipv4Header.src frame)
    (tcpHeader srcPort dstPort reply c ++ reply.payload) = out at *
  have hlong : tcpHlen ≤ (ipPayload out).length := by
    rw [hsegment, hlength]
    exact Nat.le_add_right _ _
  have hfield : (tcpHeader srcPort dstPort reply c ++ reply.payload).getD 12 0 =
      .ofNat (5 <<< 4) := rfl
  have hoffset : TcpHeader.dataOffset out (ethHlen + Ipv4Header.ihl out) = tcpHlen := by
    rw [TcpHeader.dataOffset, getD_ipPayload (Nat.lt_of_lt_of_le (by decide) hlong), hsegment,
      hfield]
    decide
  have hflags : tcpFlags out = reply.flags := by
    rw [tcpFlags, TcpHeader.flags, getD_ipPayload (Nat.lt_of_lt_of_le (by decide) hlong), hsegment]
    rfl
  refine ⟨hverified, hsent.trans hproto.symm, .inr hsent, fun h => ?_, fun _ => ?_⟩
  · rw [hsent] at h
    exact absurd h (by decide)
  · rw [tcpData, hoffset, hsegment, List.drop_left' hheader, hflags]
    exact hpayload

theorem answers_of_mem_handleTcp {backend : EthernetEchoBackend} {frame out : List UInt8}
    (haccepts : AcceptsIpv4 backend.ip frame) (hproto : Ipv4Header.proto frame = ipProtoTcp)
    (hfits : ¬Oversized backend frame)
    (hout : out ∈ (backend.handleTcp frame (ethHlen + Ipv4Header.ihl frame)
      (Ipv4Header.totalLen frame - Ipv4Header.ihl frame)).2.frames) : Answers frame out := by
  by_cases htcp : AcceptsTcp backend.tcpPort frame (ethHlen + Ipv4Header.ihl frame)
      (Ipv4Header.totalLen frame - Ipv4Header.ihl frame)
  · rw [handleTcp_of_accepts htcp] at hout
    obtain ⟨reply, hreply, rfl⟩ := mem_frames_sendSegments hout
    have hpayload := TcpEcho.payload_of_mem_receive hreply
    have hdata : bytesAt frame (ethHlen + Ipv4Header.ihl frame +
        TcpHeader.dataOffset frame (ethHlen + Ipv4Header.ihl frame))
        (Ipv4Header.totalLen frame - Ipv4Header.ihl frame -
          TcpHeader.dataOffset frame (ethHlen + Ipv4Header.ihl frame)) = tcpData frame :=
      (drop_bytesAt htcp.dataOffset_le).symm
    have hsize : tcpHlen + reply.payload.length ≤ tcpMaxPayload := by
      refine (TcpEcho.forall_payload_receive _ _ _ _ _
        (P := fun payload => tcpHlen + payload.length ≤ tcpMaxPayload) (by decide)).mpr
        (fun hestablished => ?_) reply hreply
      rw [length_bytesAt]
      by_contra hover
      exact hfits ⟨haccepts, hproto, htcp, hestablished, Nat.lt_of_not_le hover⟩
    rw [hdata] at hpayload
    exact answers_of_segment hproto haccepts.dst hsize hpayload
  · rw [handleTcp_of_not_accepts htcp] at hout
    exact absurd hout List.not_mem_nil

theorem ethertype_of_mem_sendFrameToHost {backend : EthernetEchoBackend} {dstMac : MacAddress}
    {ethertype : UInt16} {payload : Slice} {out : List UInt8}
    (hout : out ∈ (backend.sendFrameToHost dstMac ethertype payload).frames) :
    EthHeader.ethertype out = ethertype := by
  have hmacs : (dstMac.val ++ backend.mac.val).length = 12 := by
    rw [List.length_append, dstMac.property, backend.mac.property]
  simp only [sendFrameToHost, frames_append, frames_copies, touches, List.nil_append] at hout
  obtain rfl := List.mem_singleton.mp hout
  refine readBe16_of_bytesAt ?_
  rw [← List.append_assoc, ← hmacs]
  exact bytesAt_append_right _ _ 0 2

theorem ethertype_of_mem_handleArp {backend : EthernetEchoBackend} {frame out : List UInt8}
    (hout : out ∈ (backend.handleArp frame).frames) : EthHeader.ethertype out = ethTypeArp := by
  unfold handleArp at hout
  split at hout
  next => exact absurd hout List.not_mem_nil
  next =>
    dsimp only at hout
    split at hout
    next => exact absurd hout List.not_mem_nil
    next =>
      split at hout
      next => exact absurd hout List.not_mem_nil
      next =>
        rw [frames_append] at hout
        rcases List.mem_append.mp hout with htouched | hsent
        · exact absurd htouched List.not_mem_nil
        · exact ethertype_of_mem_sendFrameToHost hsent

theorem answers_of_mem_handleIpv4 {backend : EthernetEchoBackend} {frame out : List UInt8}
    (hethertype : EthHeader.ethertype frame = ethTypeIpv4) (hfits : ¬Oversized backend frame)
    (hout : out ∈ (backend.handleIpv4 frame).2.frames) : Answers frame out := by
  by_cases haccepts : AcceptsIpv4 backend.ip frame
  · rw [handleIpv4_of_accepts haccepts] at hout
    dsimp only at hout
    split at hout
    next hicmp => exact answers_of_mem_handleIcmp hicmp hout
    next =>
      split at hout
      next htcp => exact answers_of_mem_handleTcp haccepts htcp hfits hout
      next => exact absurd hout List.not_mem_nil
  · rw [handleIpv4_of_not_accepts hethertype haccepts] at hout
    exact absurd hout List.not_mem_nil

/-- Every packet with which the backend answers a frame is sound in its lengths and sums, and brings
the data of the request back, when the buffers hold the answer. -/
theorem replies_verified (backend : EthernetEchoBackend) (frame out : List UInt8)
    (hfits : (backend.sendFrame frame).2.Fits)
    (hout : out ∈ (backend.sendFrame frame).2.frames)
    (hipv4 : EthHeader.ethertype out = ethTypeIpv4) : Answers frame out := by
  have hsize := (backend.fits_sendFrame frame).mp hfits
  unfold sendFrame handleFrame at hout
  split at hout
  next => exact absurd hout List.not_mem_nil
  next =>
    dsimp only at hout
    split at hout
    next =>
      exact absurd ((ethertype_of_mem_handleArp hout).symm.trans hipv4) (by decide)
    next =>
      split at hout
      next hethertype =>
        exact answers_of_mem_handleIpv4 hethertype (mt oversized_peerMac.mp hsize) hout
      next => exact absurd hout List.not_mem_nil

theorem replies_verified_odd :
    let backend := (sampleBackend.sendFrame (sampleSegment tcpFlagSyn 0 [])).1
    let frame := sampleSegment tcpFlagPsh 1 [1, 2, 3]
    Answers frame ((backend.sendFrame frame).2.frames.getD 0 []) :=
  replies_verified (sampleBackend.sendFrame (sampleSegment tcpFlagSyn 0 [])).1
    (sampleSegment tcpFlagPsh 1 [1, 2, 3]) _ (by decide +kernel) (by decide +kernel)
    (by decide +kernel)

/-- Data that come with the first segment of the handshake are not sent back. -/
theorem not_payload_returned : ¬∀ (backend : EthernetEchoBackend) (frame out : List UInt8),
    (backend.sendFrame frame).2.Fits → out ∈ (backend.sendFrame frame).2.frames →
    EthHeader.ethertype out = ethTypeIpv4 → Ipv4Header.proto out = ipProtoTcp →
    tcpData out = tcpData frame := by
  intro h
  exact absurd (h sampleBackend (sampleSegment tcpFlagSyn 0 [1])
    ((sampleBackend.sendFrame (sampleSegment tcpFlagSyn 0 [1])).2.frames.getD 0 [])
    (by decide +kernel) (by decide +kernel) (by decide +kernel) (by decide +kernel))
    (by decide +kernel)

end EthernetEchoBackend

end Usbipdcpp.VirtualDevice
