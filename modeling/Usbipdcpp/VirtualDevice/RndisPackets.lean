import Mathlib.Data.List.Basic
import Usbipdcpp.Foundation.ByteStream

namespace Usbipdcpp.VirtualDevice.Rndis

open Foundation.ByteStream

/-- A value of 32 bits, least significant byte first. -/
def le32Bytes (v : UInt32) : List UInt8 := leBytesOfNat 4 v.toNat

/-- A field of 32 bits of a packed message. -/
def readLe32 (offset : Nat) (data : List UInt8) : UInt32 := .ofNat (leField 4 offset data)

@[simp] theorem length_le32Bytes (v : UInt32) : (le32Bytes v).length = 4 :=
  length_leBytesOfNat 4 v.toNat

@[simp] theorem readLe32_le32Bytes (v : UInt32) (rest : List UInt8) :
    readLe32 0 (le32Bytes v ++ rest) = v := by
  rw [readLe32, le32Bytes, leField_leBytesOfNat v.toNat_lt, UInt32.ofNat_toNat]

theorem readLe32_append_right {offset : Nat} {taken : List UInt8} (rest : List UInt8)
    (h : taken.length ≤ offset) :
    readLe32 offset (taken ++ rest) = readLe32 (offset - taken.length) rest :=
  congrArg UInt32.ofNat (leField_append_right rest h)

inductive RndisMessageType where
  | packet
  | init
  | initComplete
  | halt
  | query
  | queryComplete
  | set
  | setComplete
  | reset
  | resetComplete
  | indicate
  | keepalive
  | keepaliveComplete
  deriving DecidableEq, Repr

/-- The value of a message type on the wire. -/
def rndisMsg : RndisMessageType → UInt32
  | .packet => 0x00000001
  | .init => 0x00000002
  | .initComplete => 0x80000002
  | .halt => 0x00000003
  | .query => 0x00000004
  | .queryComplete => 0x80000004
  | .set => 0x00000005
  | .setComplete => 0x80000005
  | .reset => 0x00000006
  | .resetComplete => 0x80000006
  | .indicate => 0x00000007
  | .keepalive => 0x00000008
  | .keepaliveComplete => 0x80000008

/-- The length of the header that a host puts before a frame. -/
def rndisHostHeaderLen : Nat := 24

/-- The header that the device puts before a frame. -/
structure RndisPacketHeader where
  messageType : UInt32
  messageLength : UInt32
  dataOffset : UInt32
  dataLength : UInt32
  oobDataOffset : UInt32
  oobDataLength : UInt32
  numOobDataElements : UInt32
  perPacketInfoOffset : UInt32
  perPacketInfoLength : UInt32
  vcHandle : UInt32
  reserved : UInt32
  deriving DecidableEq, Repr

namespace RndisPacketHeader

def size : Nat := 44

def toBytes (h : RndisPacketHeader) : List UInt8 :=
  le32Bytes h.messageType ++ le32Bytes h.messageLength ++ le32Bytes h.dataOffset ++
    le32Bytes h.dataLength ++ le32Bytes h.oobDataOffset ++ le32Bytes h.oobDataLength ++
    le32Bytes h.numOobDataElements ++ le32Bytes h.perPacketInfoOffset ++
    le32Bytes h.perPacketInfoLength ++ le32Bytes h.vcHandle ++ le32Bytes h.reserved

@[simp] theorem length_toBytes (h : RndisPacketHeader) : h.toBytes.length = size := by
  simp [toBytes, size]

end RndisPacketHeader

/-- Where the data of a message begin in it: `DataOffset` counts from the field itself, which is
at byte 8. -/
def dataStartOffset (dataOffset : UInt32) : Nat := 8 + dataOffset.toNat

/-- A frame behind the header of the device.  A byte that no field counts keeps the length off
the multiples of the packet size. -/
def wrapRndisPacket (data : List UInt8) : List UInt8 :=
  let header : RndisPacketHeader :=
    { messageType := 1
      messageLength := .ofNat (44 + data.length)
      dataOffset := 36
      dataLength := .ofNat data.length
      oobDataOffset := 0
      oobDataLength := 0
      numOobDataElements := 0
      perPacketInfoOffset := 0
      perPacketInfoLength := 0
      vcHandle := 0
      reserved := 0 }
  header.toBytes ++ data ++ if (44 + data.length) % 64 = 0 then [0] else []

/-- A message of a transfer that has passed the checks of the parser. -/
structure PacketMessage where
  pos : Nat
  messageLength : Nat
  frameOff : Nat
  frameLen : Nat
  deriving DecidableEq, Repr

namespace PacketMessage

/-- The bytes of a transfer that a message has as its frame. -/
def frame (data : List UInt8) (m : PacketMessage) : List UInt8 :=
  (data.drop m.frameOff).take m.frameLen

/-- A frame has at least an Ethernet header. -/
def frames (data : List UInt8) (m : PacketMessage) : List (List UInt8) :=
  if 14 ≤ m.frameLen then [m.frame data] else []

def shift (n : Nat) (m : PacketMessage) : PacketMessage :=
  { m with pos := n + m.pos, frameOff := n + m.frameOff }

end PacketMessage

/-- The checks of one round of the parser's loop; `none` is where it breaks off. -/
def packetAt (data : List UInt8) (pos : Nat) : Option PacketMessage :=
  if data.length < pos + rndisHostHeaderLen then none
  else
    let messageLength := (readLe32 (pos + 4) data).toNat
    if messageLength < rndisHostHeaderLen ∨ data.length < pos + messageLength then none
    else if readLe32 pos data ≠ rndisMsg .packet then none
    else
      let frameOff := pos + dataStartOffset (readLe32 (pos + 8) data)
      let frameLen := (readLe32 (pos + 12) data).toNat
      if data.length < frameOff + frameLen then none
      else some { pos, messageLength, frameOff, frameLen }

/-- The loop of the parser, `none` where so many rounds are not enough. -/
def unwrapLoop (data : List UInt8) : Nat → Nat → Option (List (List UInt8))
  | 0, _ => none
  | rounds + 1, pos =>
      match packetAt data pos with
      | none => some []
      | some m =>
          (unwrapLoop data rounds (pos + m.messageLength)).map (m.frames data ++ ·)

def unwrapRounds (data : List UInt8) : Nat := data.length / rndisHostHeaderLen + 1

def unwrapRndisPackets (data : List UInt8) : List (List UInt8) :=
  (unwrapLoop data (unwrapRounds data) 0).getD []

/-- The messages that the loop passes by, recorded beside it. -/
def walkLoop (data : List UInt8) : Nat → Nat → List PacketMessage
  | 0, _ => []
  | rounds + 1, pos =>
      match packetAt data pos with
      | none => []
      | some m => m :: walkLoop data rounds (pos + m.messageLength)

def walkMessages (data : List UInt8) : List PacketMessage :=
  walkLoop data (unwrapRounds data) 0

/-- What the parser has checked of a message that it passes by. -/
structure PacketMessage.Accepted (data : List UInt8) (m : PacketMessage) : Prop where
  header : rndisHostHeaderLen ≤ m.messageLength
  length : m.messageLength = (readLe32 (m.pos + 4) data).toNat
  type : readLe32 m.pos data = rndisMsg .packet
  within : m.pos + m.messageLength ≤ data.length
  frameOff_eq : m.frameOff = m.pos + dataStartOffset (readLe32 (m.pos + 8) data)
  frameLen_eq : m.frameLen = (readLe32 (m.pos + 12) data).toNat
  frame : m.frameOff + m.frameLen ≤ data.length

theorem packetAt_eq_some_iff {data : List UInt8} {pos : Nat} {m : PacketMessage} :
    packetAt data pos = some m ↔ m.pos = pos ∧ m.Accepted data := by
  obtain ⟨mpos, messageLength, frameOff, frameLen⟩ := m
  unfold packetAt
  constructor
  · intro h
    split at h
    next => cases h
    next hroom =>
      dsimp only at h
      split at h
      next => cases h
      next hlength =>
        split at h
        next => cases h
        next htype =>
          split at h
          next => cases h
          next hframe =>
            obtain ⟨rfl, rfl, rfl, rfl⟩ := by simpa using h
            have hheader := not_lt.mp (not_or.mp hlength).1
            have hwithin := not_lt.mp (not_or.mp hlength).2
            exact ⟨rfl, hheader, rfl, not_not.mp htype, hwithin, rfl, rfl, not_lt.mp hframe⟩
  · rintro ⟨hpos, hheader, hlength, htype, hwithin, hoff, hlen, hframe⟩
    dsimp only at hpos hheader hlength htype hwithin hoff hlen hframe
    obtain rfl := hpos
    dsimp only
    rw [← hlength, ← hoff, ← hlen, if_neg (by omega), if_neg (by omega),
      if_neg (by simpa using htype), if_neg (by omega)]

theorem unwrapLoop_eq_some {data : List UInt8} {rounds pos : Nat} {m : PacketMessage}
    (h : packetAt data pos = some m) :
    unwrapLoop data (rounds + 1) pos =
      (unwrapLoop data rounds (pos + m.messageLength)).map (m.frames data ++ ·) := by
  rw [unwrapLoop, h]

theorem unwrapLoop_eq_none {data : List UInt8} {rounds pos : Nat} (h : packetAt data pos = none) :
    unwrapLoop data (rounds + 1) pos = some [] := by
  rw [unwrapLoop, h]

/-- Every round takes a header at least, so that the loop ends before it runs out of rounds. -/
theorem unwrapLoop_isSome {data : List UInt8} {rounds pos : Nat} (hpos : pos ≤ data.length)
    (hrounds : data.length < pos + rndisHostHeaderLen * rounds) :
    (unwrapLoop data rounds pos).isSome := by
  induction rounds generalizing pos with
  | zero => omega
  | succ rounds ih =>
      cases hpacket : packetAt data pos with
      | none => rw [unwrapLoop_eq_none hpacket, Option.isSome_some]
      | some m =>
          obtain ⟨rfl, haccepted⟩ := packetAt_eq_some_iff.mp hpacket
          have hheader := haccepted.header
          have hrest : data.length < m.pos + m.messageLength + rndisHostHeaderLen * rounds := by
            rw [Nat.mul_succ] at hrounds
            omega
          rw [unwrapLoop_eq_some hpacket, Option.isSome_map]
          exact ih haccepted.within hrest

theorem length_lt_unwrapRounds (data : List UInt8) :
    data.length < rndisHostHeaderLen * unwrapRounds data := by
  have hdiv := Nat.div_add_mod data.length rndisHostHeaderLen
  have hmod := Nat.mod_lt data.length (show 0 < rndisHostHeaderLen by decide)
  rw [unwrapRounds, Nat.mul_succ]
  omega

/-- The parser passes by no more messages than headers fit in the transfer. -/
theorem unwrapLoop_eq_unwrapRndisPackets (data : List UInt8) :
    unwrapLoop data (unwrapRounds data) 0 = some (unwrapRndisPackets data) := by
  have hsome : (unwrapLoop data (unwrapRounds data) 0).isSome :=
    unwrapLoop_isSome (Nat.zero_le _) (by simpa using length_lt_unwrapRounds data)
  obtain ⟨frames, hframes⟩ := Option.isSome_iff_exists.mp hsome
  rw [unwrapRndisPackets, hframes, Option.getD_some]

/-- What the parser sees of a transfer does not depend on the messages it has passed by. -/
theorem packetAt_append (taken rest : List UInt8) (pos : Nat) :
    packetAt (taken ++ rest) (taken.length + pos) =
      (packetAt rest pos).map (PacketMessage.shift taken.length) := by
  have hread (k : Nat) : readLe32 (taken.length + k) (taken ++ rest) = readLe32 k rest := by
    rw [readLe32_append_right rest (by omega), Nat.add_sub_cancel_left]
  unfold packetAt
  simp only [Nat.add_assoc, hread, List.length_append, Nat.add_lt_add_iff_left,
    apply_ite (Option.map _), Option.map_none, Option.map_some, PacketMessage.shift]

theorem frames_shift (taken rest : List UInt8) (m : PacketMessage) :
    (m.shift taken.length).frames (taken ++ rest) = m.frames rest := by
  unfold PacketMessage.frames PacketMessage.frame PacketMessage.shift
  dsimp only
  rw [List.drop_append, List.drop_of_length_le (by omega), List.nil_append,
    Nat.add_sub_cancel_left]

theorem unwrapLoop_append (taken rest : List UInt8) (rounds pos : Nat) :
    unwrapLoop (taken ++ rest) rounds (taken.length + pos) = unwrapLoop rest rounds pos := by
  induction rounds generalizing pos with
  | zero => rfl
  | succ rounds ih =>
      have hpacket := packetAt_append taken rest pos
      cases hrest : packetAt rest pos with
      | none =>
          rw [hrest, Option.map_none] at hpacket
          rw [unwrapLoop_eq_none hrest, unwrapLoop_eq_none hpacket]
      | some m =>
          rw [hrest, Option.map_some] at hpacket
          rw [unwrapLoop_eq_some hrest, unwrapLoop_eq_some hpacket, frames_shift, Nat.add_assoc]
          exact congrArg _ (ih (pos + m.messageLength))

/-- A message as a host sends it: the header of 24 bytes, and behind it `body` with the frame and
whatever padding the length counts. -/
structure HostPacket where
  dataOffset : UInt32
  dataLength : UInt32
  oobDataOffset : UInt32
  oobDataLength : UInt32
  body : List UInt8
  fits : rndisHostHeaderLen + body.length < 2 ^ 32
  inside : dataStartOffset dataOffset + dataLength.toNat ≤ rndisHostHeaderLen + body.length

namespace HostPacket

def messageLength (p : HostPacket) : Nat := rndisHostHeaderLen + p.body.length

def headerBytes (p : HostPacket) : List UInt8 :=
  le32Bytes (rndisMsg .packet) ++ (le32Bytes (.ofNat p.messageLength) ++
    (le32Bytes p.dataOffset ++ (le32Bytes p.dataLength ++
      (le32Bytes p.oobDataOffset ++ le32Bytes p.oobDataLength))))

def toBytes (p : HostPacket) : List UInt8 := p.headerBytes ++ p.body

/-- The bytes of the message that its header announces as data. -/
def frame (p : HostPacket) : List UInt8 :=
  (p.toBytes.drop (dataStartOffset p.dataOffset)).take p.dataLength.toNat

@[simp] theorem length_headerBytes (p : HostPacket) :
    p.headerBytes.length = rndisHostHeaderLen := by
  simp [headerBytes, rndisHostHeaderLen]

@[simp] theorem length_toBytes (p : HostPacket) : p.toBytes.length = p.messageLength := by
  rw [toBytes, List.length_append, length_headerBytes, messageLength]

@[simp] theorem length_frame (p : HostPacket) : p.frame.length = p.dataLength.toNat := by
  have hinside := p.inside
  rw [frame, List.length_take, List.length_drop, length_toBytes, messageLength]
  omega

/-- The frame that stands in the body where the header says. -/
theorem frame_eq {p : HostPacket} {before frame after : List UInt8}
    (hbody : p.body = before ++ frame ++ after)
    (hoffset : dataStartOffset p.dataOffset = rndisHostHeaderLen + before.length)
    (hlength : p.dataLength.toNat = frame.length) : p.frame = frame := by
  have hbytes : p.toBytes = (p.headerBytes ++ before) ++ (frame ++ after) := by
    rw [toBytes, hbody, List.append_assoc, List.append_assoc]
  have hstart : (p.headerBytes ++ before).length = dataStartOffset p.dataOffset := by
    rw [List.length_append, length_headerBytes, hoffset]
  rw [HostPacket.frame, hbytes, ← hstart, List.drop_left, hlength, List.take_left]

/-- What the parser takes the message for when it stands at the front of a transfer. -/
def message (p : HostPacket) : PacketMessage where
  pos := 0
  messageLength := p.messageLength
  frameOff := dataStartOffset p.dataOffset
  frameLen := p.dataLength.toNat

theorem packetAt_toBytes (p : HostPacket) (rest : List UInt8) :
    packetAt (p.toBytes ++ rest) 0 = some p.message := by
  have hlength : (UInt32.ofNat p.messageLength).toNat = p.messageLength :=
    UInt32.toNat_ofNat_of_lt' p.fits
  have hread : readLe32 (0 + 4) (p.toBytes ++ rest) = .ofNat p.messageLength := by
    simp [toBytes, headerBytes, readLe32_append_right]
  refine packetAt_eq_some_iff.mpr ⟨rfl, ?_, ?_, ?_, ?_, ?_, ?_, ?_⟩
  · exact Nat.le_add_right _ _
  · exact (hread ▸ hlength).symm
  · simp [message, toBytes, headerBytes]
  · simp [message]
  · simp [message, toBytes, headerBytes, readLe32_append_right]
  · simp [message, toBytes, headerBytes, readLe32_append_right]
  · have hinside := p.inside
    rw [List.length_append, length_toBytes]
    exact hinside.trans (Nat.le_add_right _ _)

theorem frames_message (p : HostPacket) (rest : List UInt8) :
    p.message.frames (p.toBytes ++ rest) = [p.frame].filter fun f => 14 ≤ f.length := by
  have hinside := p.inside
  have hslice : ((p.toBytes ++ rest).drop (dataStartOffset p.dataOffset)).take
      p.dataLength.toNat = p.frame := by
    rw [List.drop_append_of_le_length (by rw [length_toBytes, messageLength]; omega),
      List.take_append_of_le_length
        (by rw [List.length_drop, length_toBytes, messageLength]; omega), HostPacket.frame]
  rw [PacketMessage.frames, PacketMessage.frame, message, hslice, List.filter_singleton,
    length_frame, Bool.cond_decide]

/-- The loop takes the messages off the front of a transfer one by one. -/
theorem unwrapLoop_flatMap (packets : List HostPacket) (tail : List UInt8) {rounds : Nat}
    (htail : tail.length < rndisHostHeaderLen) (hrounds : packets.length < rounds) :
    unwrapLoop (packets.flatMap toBytes ++ tail) rounds 0 =
      some ((packets.map frame).filter fun f => 14 ≤ f.length) := by
  induction packets generalizing rounds with
  | nil =>
      obtain ⟨rounds, rfl⟩ := Nat.exists_eq_succ_of_ne_zero (Nat.ne_zero_of_lt hrounds)
      have hnone : packetAt tail 0 = none := by
        rw [packetAt, if_pos (by omega)]
      exact unwrapLoop_eq_none hnone
  | cons p packets ih =>
      obtain ⟨rounds, rfl⟩ := Nat.exists_eq_succ_of_ne_zero (Nat.ne_zero_of_lt hrounds)
      have hrest : unwrapLoop (p.toBytes ++ (packets.flatMap toBytes ++ tail)) rounds
          (0 + p.message.messageLength) =
            some ((packets.map frame).filter fun f => 14 ≤ f.length) := by
        have hshift := unwrapLoop_append p.toBytes (packets.flatMap toBytes ++ tail) rounds 0
        rw [length_toBytes] at hshift
        rw [Nat.zero_add]
        exact hshift.trans (ih (Nat.lt_of_succ_lt_succ hrounds))
      rw [List.flatMap_cons, List.append_assoc, unwrapLoop_eq_some (p.packetAt_toBytes _), hrest,
        Option.map_some, frames_message, ← List.filter_append, List.map_cons,
        List.singleton_append]

theorem length_le_flatMap (packets : List HostPacket) :
    rndisHostHeaderLen * packets.length ≤ (packets.flatMap toBytes).length := by
  induction packets with
  | nil => exact Nat.zero_le _
  | cons p packets ih =>
      rw [List.flatMap_cons, List.length_append, length_toBytes, messageLength, List.length_cons,
        Nat.mul_succ]
      omega

/-- Messages in one transfer, with less than a header behind them, yield their frames in
order. -/
theorem unwrapRndisPackets_flatMap (packets : List HostPacket) {tail : List UInt8}
    (htail : tail.length < rndisHostHeaderLen) :
    unwrapRndisPackets (packets.flatMap toBytes ++ tail) =
      (packets.map frame).filter fun f => 14 ≤ f.length := by
  have hrounds : packets.length < unwrapRounds (packets.flatMap toBytes ++ tail) := by
    have hlength := length_lt_unwrapRounds (packets.flatMap toBytes ++ tail)
    have hpackets := length_le_flatMap packets
    rw [List.length_append] at hlength
    exact Nat.lt_of_mul_lt_mul_left ((hpackets.trans (Nat.le_add_right _ _)).trans_lt hlength)
  rw [unwrapRndisPackets, unwrapLoop_flatMap packets tail htail hrounds, Option.getD_some]

end HostPacket

/-- A wrapped frame as a message of a host: the fields that only the device sends stand in the
body. -/
def wrappedPacket (data : List UInt8) (h : RndisPacketHeader.size + data.length < 2 ^ 32) :
    HostPacket where
  dataOffset := 36
  dataLength := .ofNat data.length
  oobDataOffset := 0
  oobDataLength := 0
  body := List.replicate 20 0 ++ data
  fits := by
    rw [List.length_append, List.length_replicate, ← Nat.add_assoc]
    exact h
  inside := by
    rw [List.length_append, List.length_replicate, UInt32.toNat_ofNat']
    exact Nat.le_trans (Nat.add_le_add_left (Nat.mod_le _ _) _) (Nat.add_assoc 24 20 _).le

theorem wrapRndisPacket_eq {data : List UInt8}
    (h : RndisPacketHeader.size + data.length < 2 ^ 32) :
    wrapRndisPacket data = (wrappedPacket data h).toBytes ++
      if (44 + data.length) % 64 = 0 then [0] else [] := by
  have hlength : (wrappedPacket data h).messageLength = 44 + data.length := by
    rw [HostPacket.messageLength, wrappedPacket, List.length_append, List.length_replicate,
      ← Nat.add_assoc]
    rfl
  have hzero : List.replicate 20 (0 : UInt8) =
      le32Bytes 0 ++ (le32Bytes 0 ++ (le32Bytes 0 ++ (le32Bytes 0 ++ le32Bytes 0))) := by decide
  have hheader : (wrappedPacket data h).headerBytes =
      le32Bytes 1 ++ (le32Bytes (.ofNat (44 + data.length)) ++
        (le32Bytes 36 ++ (le32Bytes (.ofNat data.length) ++ (le32Bytes 0 ++ le32Bytes 0)))) := by
    rw [HostPacket.headerBytes, hlength]
    rfl
  have hbody : (wrappedPacket data h).body = List.replicate 20 0 ++ data := rfl
  rw [HostPacket.toBytes, hheader, hbody, hzero]
  simp only [wrapRndisPacket, RndisPacketHeader.toBytes, List.append_assoc]

theorem frame_wrappedPacket {data : List UInt8}
    (h : RndisPacketHeader.size + data.length < 2 ^ 32) :
    (wrappedPacket data h).frame = data := by
  have hbody : (wrappedPacket data h).body = List.replicate 20 0 ++ data ++ [] :=
    (List.append_nil _).symm
  have hlength : (UInt32.ofNat data.length).toNat = data.length :=
    UInt32.toNat_ofNat_of_lt' ((Nat.le_add_left _ _).trans_lt h)
  exact HostPacket.frame_eq hbody rfl hlength

theorem length_wrapRndisPacket (data : List UInt8) :
    (wrapRndisPacket data).length =
      44 + data.length + if (44 + data.length) % 64 = 0 then 1 else 0 := by
  unfold wrapRndisPacket
  dsimp only
  rw [List.length_append, List.length_append, RndisPacketHeader.length_toBytes]
  split <;> rfl

/-- A frame comes back from its wrapping, whatever its length, as long as the lengths fit in the
header. -/
theorem unwrapRndisPackets_wrapRndisPacket {data : List UInt8}
    (hframe : 14 ≤ data.length) (hfits : RndisPacketHeader.size + data.length < 2 ^ 32) :
    unwrapRndisPackets (wrapRndisPacket data) = [data] := by
  have htail : (if (44 + data.length) % 64 = 0 then [(0 : UInt8)] else []).length <
      rndisHostHeaderLen := by
    split <;> decide
  have hframes := HostPacket.unwrapRndisPackets_flatMap [wrappedPacket data hfits] htail
  rw [List.flatMap_singleton, ← wrapRndisPacket_eq hfits, List.map_singleton,
    frame_wrappedPacket, List.filter_singleton, Bool.cond_decide, if_pos hframe] at hframes
  exact hframes

/-- From 4 GiB on the lengths no longer fit, and the parser takes the shortest such message for
one that is shorter than its header. -/
theorem unwrapRndisPackets_wrapRndisPacket_overflow {data : List UInt8}
    (h : RndisPacketHeader.size + data.length = 2 ^ 32) :
    unwrapRndisPackets (wrapRndisPacket data) = [] := by
  have hzero : UInt32.ofNat (44 + data.length) = 0 := by
    rw [show 44 + data.length = 2 ^ 32 from h]
    rfl
  have hlength : readLe32 (0 + 4) (wrapRndisPacket data) = 0 := by
    simp [wrapRndisPacket, RndisPacketHeader.toBytes, readLe32_append_right, hzero]
  have hnone : packetAt (wrapRndisPacket data) 0 = none := by
    cases hpacket : packetAt (wrapRndisPacket data) 0 with
    | none => rfl
    | some m =>
        obtain ⟨hpos, haccepted⟩ := packetAt_eq_some_iff.mp hpacket
        have hheader := haccepted.header
        rw [haccepted.length, hpos, hlength] at hheader
        exact absurd hheader (by decide)
  have hloop := unwrapLoop_eq_unwrapRndisPackets (wrapRndisPacket data)
  rw [unwrapRounds, unwrapLoop_eq_none hnone] at hloop
  exact (Option.some.inj hloop).symm

/-- Frames come back from the messages of a host and from the wrapping of the device, wrapped
frames never fill a last packet, and the parser ends on every transfer. -/
theorem packet_framing :
    (∀ packets : List HostPacket, unwrapRndisPackets (packets.flatMap HostPacket.toBytes) =
      (packets.map HostPacket.frame).filter fun f => 14 ≤ f.length) ∧
    (∀ frame : List UInt8, 14 ≤ frame.length → frame.length + 44 < 2 ^ 32 →
      unwrapRndisPackets (wrapRndisPacket frame) = [frame]) ∧
    (∀ frame : List UInt8, (wrapRndisPacket frame).length % 64 ≠ 0) ∧
    ∀ data : List UInt8,
      unwrapLoop data (data.length / 24 + 1) 0 = some (unwrapRndisPackets data) := by
  refine ⟨fun packets => ?_, fun frame hframe hfits => ?_, fun frame => ?_, fun data => ?_⟩
  · have htail : ([] : List UInt8).length < rndisHostHeaderLen := by decide
    simpa using HostPacket.unwrapRndisPackets_flatMap packets htail
  · exact unwrapRndisPackets_wrapRndisPacket hframe (by unfold RndisPacketHeader.size; omega)
  · rw [length_wrapRndisPacket]
    split <;> omega
  · exact unwrapLoop_eq_unwrapRndisPackets data

/-- The bound on the frame is needed. -/
theorem packet_framing_overflow :
    ¬ ∀ frame : List UInt8, 14 ≤ frame.length →
      unwrapRndisPackets (wrapRndisPacket frame) = [frame] := by
  intro h
  obtain ⟨frame, hlength⟩ : ∃ frame : List UInt8, frame.length = 2 ^ 32 - 44 :=
    ⟨List.replicate (2 ^ 32 - 44) 0, List.length_replicate⟩
  have hoverflow : RndisPacketHeader.size + frame.length = 2 ^ 32 := by
    rw [hlength]
    rfl
  have hframe := h frame (by rw [hlength]; decide)
  rw [unwrapRndisPackets_wrapRndisPacket_overflow hoverflow] at hframe
  cases hframe

/-- A message begins at the start of a transfer, and where one that passes the checks ends. -/
inductive MessageStart (data : List UInt8) : Nat → Prop
  | first : MessageStart data 0
  | next {m : PacketMessage} (hstart : MessageStart data m.pos) (haccepted : m.Accepted data) :
      MessageStart data (m.pos + m.messageLength)

theorem messageStart_of_mem_walkLoop {data : List UInt8} {rounds pos : Nat} {m : PacketMessage}
    (hstart : MessageStart data pos) (h : m ∈ walkLoop data rounds pos) :
    MessageStart data m.pos ∧ m.Accepted data := by
  induction rounds generalizing pos with
  | zero => cases h
  | succ rounds ih =>
      rw [walkLoop] at h
      split at h
      next => cases h
      next first hpacket =>
        obtain ⟨rfl, haccepted⟩ := packetAt_eq_some_iff.mp hpacket
        rcases List.mem_cons.mp h with rfl | hrest
        · exact ⟨hstart, haccepted⟩
        · exact ih (.next hstart haccepted) hrest

/-- From every start of a message on, the walk goes on with rounds enough for the rest. -/
theorem exists_walkLoop_of_messageStart {data : List UInt8} {pos : Nat}
    (h : MessageStart data pos) :
    ∃ before rounds, walkMessages data = before ++ walkLoop data rounds pos ∧
      pos ≤ data.length ∧ data.length < pos + rndisHostHeaderLen * rounds := by
  induction h with
  | first =>
      exact ⟨[], unwrapRounds data, rfl, Nat.zero_le _, by
        simpa using length_lt_unwrapRounds data⟩
  | next hstart haccepted ih =>
      rename_i m
      obtain ⟨before, rounds, hwalk, hpos, hrounds⟩ := ih
      have hpacket : packetAt data m.pos = some m := packetAt_eq_some_iff.mpr ⟨rfl, haccepted⟩
      have hheader := haccepted.header
      obtain ⟨rounds, rfl⟩ : ∃ r, rounds = r + 1 :=
        Nat.exists_eq_succ_of_ne_zero fun hzero => by rw [hzero] at hrounds; omega
      refine ⟨before ++ [m], rounds, ?_, haccepted.within, ?_⟩
      · rw [hwalk, walkLoop, hpacket, List.append_assoc, List.singleton_append]
      · rw [Nat.mul_succ] at hrounds
        omega

theorem mem_walkMessages_iff {data : List UInt8} {m : PacketMessage} :
    m ∈ walkMessages data ↔ MessageStart data m.pos ∧ m.Accepted data := by
  constructor
  · exact messageStart_of_mem_walkLoop .first
  · rintro ⟨hstart, haccepted⟩
    obtain ⟨before, rounds, hwalk, hpos, hrounds⟩ := exists_walkLoop_of_messageStart hstart
    obtain ⟨rounds, rfl⟩ : ∃ r, rounds = r + 1 :=
      Nat.exists_eq_succ_of_ne_zero fun hzero => by rw [hzero] at hrounds; omega
    have hpacket : packetAt data m.pos = some m := packetAt_eq_some_iff.mpr ⟨rfl, haccepted⟩
    rw [hwalk, walkLoop, hpacket]
    exact List.mem_append_right _ List.mem_cons_self

theorem unwrapLoop_eq_walkLoop {data : List UInt8} {rounds pos : Nat}
    {frames : List (List UInt8)} (h : unwrapLoop data rounds pos = some frames) :
    frames = (walkLoop data rounds pos).flatMap (PacketMessage.frames data) := by
  induction rounds generalizing pos frames with
  | zero => cases h
  | succ rounds ih =>
      rw [walkLoop]
      split
      next hpacket =>
        rw [unwrapLoop_eq_none hpacket] at h
        exact (Option.some.inj h).symm
      next m hpacket =>
        rw [unwrapLoop_eq_some hpacket] at h
        obtain ⟨rest, hrest, rfl⟩ := Option.map_eq_some_iff.mp h
        rw [List.flatMap_cons, ih hrest]

/-- The messages whose frames the parser returns. -/
def returnedMessages (data : List UInt8) : List PacketMessage :=
  (walkMessages data).filter fun m => 14 ≤ m.frameLen

theorem unwrapRndisPackets_eq_map (data : List UInt8) :
    unwrapRndisPackets data = (returnedMessages data).map (PacketMessage.frame data) := by
  have hflat (messages : List PacketMessage) : messages.flatMap (PacketMessage.frames data) =
      (messages.filter fun m => 14 ≤ m.frameLen).map (PacketMessage.frame data) := by
    induction messages with
    | nil => rfl
    | cons m messages ih =>
        by_cases hframe : 14 ≤ m.frameLen <;>
          simp [PacketMessage.frames, ih, hframe]
  rw [unwrapLoop_eq_walkLoop (unwrapLoop_eq_unwrapRndisPackets data), hflat, returnedMessages,
    walkMessages]

/-- The frame of a message lies in the message. -/
def PacketMessage.Contained (m : PacketMessage) : Prop :=
  m.pos ≤ m.frameOff ∧ m.frameOff + m.frameLen ≤ m.pos + m.messageLength

/-- The parser accepts the type and the length of a message at `pos`. -/
structure HeaderAt (data : List UInt8) (pos : Nat) : Prop where
  header : rndisHostHeaderLen ≤ (readLe32 (pos + 4) data).toNat
  within : pos + (readLe32 (pos + 4) data).toNat ≤ data.length
  type : readLe32 pos data = rndisMsg .packet

/-- The data that a header announces are too few for a frame, or too many for the transfer, or
end where its message ends at the latest. -/
def DataInMessage (data : List UInt8) (pos : Nat) : Prop :=
  let messageLength := (readLe32 (pos + 4) data).toNat
  let start := dataStartOffset (readLe32 (pos + 8) data)
  let dataLength := (readLe32 (pos + 12) data).toNat
  dataLength < 14 ∨ data.length < pos + start + dataLength ∨ start + dataLength ≤ messageLength

theorem contained_returnedMessages_iff (data : List UInt8) :
    (∀ m ∈ returnedMessages data, m.Contained) ↔
      ∀ pos, MessageStart data pos → HeaderAt data pos → DataInMessage data pos := by
  constructor
  · intro hcontained pos hstart hheader
    let m : PacketMessage :=
      { pos
        messageLength := (readLe32 (pos + 4) data).toNat
        frameOff := pos + dataStartOffset (readLe32 (pos + 8) data)
        frameLen := (readLe32 (pos + 12) data).toNat }
    by_cases hlength : m.frameLen < 14
    · exact .inl hlength
    by_cases hroom : data.length < m.frameOff + m.frameLen
    · exact .inr (.inl hroom)
    have haccepted : m.Accepted data :=
      ⟨hheader.header, rfl, hheader.type, hheader.within, rfl, rfl, not_lt.mp hroom⟩
    have hmem : m ∈ returnedMessages data :=
      List.mem_filter.mpr ⟨mem_walkMessages_iff.mpr ⟨hstart, haccepted⟩,
        decide_eq_true (not_lt.mp hlength)⟩
    have hend : pos + dataStartOffset (readLe32 (pos + 8) data) + m.frameLen ≤
        pos + m.messageLength := (hcontained m hmem).2
    exact .inr (.inr (by rw [Nat.add_assoc] at hend; exact Nat.le_of_add_le_add_left hend))
  · intro hdata m hmem
    obtain ⟨hwalk, hlong⟩ := List.mem_filter.mp hmem
    obtain ⟨hstart, haccepted⟩ := mem_walkMessages_iff.mp hwalk
    have hlength := haccepted.length
    have hoff := haccepted.frameOff_eq
    have hlen := haccepted.frameLen_eq
    have hframe := haccepted.frame
    have hheader : HeaderAt data m.pos :=
      ⟨hlength ▸ haccepted.header, hlength ▸ haccepted.within, haccepted.type⟩
    have hlong := of_decide_eq_true hlong
    refine ⟨hoff ▸ Nat.le_add_right _ _, ?_⟩
    rcases hdata m.pos hstart hheader with hshort | hroom | hend <;> omega

end Usbipdcpp.VirtualDevice.Rndis
