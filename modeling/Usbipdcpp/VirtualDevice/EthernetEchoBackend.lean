import Usbipdcpp.Protocol.DeviceList
import Usbipdcpp.Protocol.GenericTransferOperator

namespace Usbipdcpp.VirtualDevice

open Foundation.ByteStream Protocol Protocol.DeviceList

def ethHlen : Nat := 14

def ethMinFrame : Nat := 60

def ipv4Hlen : Nat := 20

def tcpHlen : Nat := 20

def arpHlen : Nat := 28

def icmpEchoHlen : Nat := 8

def tcpMaxPayload : Nat := 1500

def ethFrameMax : Nat := ethHlen + ipv4Hlen + tcpHlen + tcpMaxPayload

def ethTypeArp : UInt16 := 0x0806

def ethTypeIpv4 : UInt16 := 0x0800

def ipProtoIcmp : UInt8 := 1

def ipProtoTcp : UInt8 := 6

def arpOpRequest : UInt16 := 1

def arpOpReply : UInt16 := 2

def icmpEchoRequest : UInt8 := 8

def icmpEchoReply : UInt8 := 0

def tcpFlagFin : UInt8 := 0x01

def tcpFlagSyn : UInt8 := 0x02

def tcpFlagPsh : UInt8 := 0x08

def tcpFlagAck : UInt8 := 0x10

abbrev MacAddress : Type := { bytes : List UInt8 // bytes.length = 6 }

abbrev Ipv4Address : Type := { bytes : List UInt8 // bytes.length = 4 }

/-- Sixteen bits in network order. -/
def readBe16 (data : List UInt8) (offset : Nat) : UInt16 :=
  .ofNat (natOfBytes (bytesAt data offset 2))

def readBe32 (data : List UInt8) (offset : Nat) : UInt32 :=
  .ofNat (natOfBytes (bytesAt data offset 4))

namespace EthHeader

def src (frame : List UInt8) : MacAddress := ⟨bytesAt frame 6 6, length_bytesAt frame 6 6⟩

def ethertype (frame : List UInt8) : UInt16 := readBe16 frame 12

end EthHeader

namespace ArpHeader

def htype (frame : List UInt8) : UInt16 := readBe16 frame ethHlen

def ptype (frame : List UInt8) : UInt16 := readBe16 frame (ethHlen + 2)

def hlen (frame : List UInt8) : UInt8 := frame.getD (ethHlen + 4) 0

def plen (frame : List UInt8) : UInt8 := frame.getD (ethHlen + 5) 0

def op (frame : List UInt8) : UInt16 := readBe16 frame (ethHlen + 6)

def sha (frame : List UInt8) : MacAddress :=
  ⟨bytesAt frame (ethHlen + 8) 6, length_bytesAt frame (ethHlen + 8) 6⟩

def spa (frame : List UInt8) : Ipv4Address :=
  ⟨bytesAt frame (ethHlen + 14) 4, length_bytesAt frame (ethHlen + 14) 4⟩

def tpa (frame : List UInt8) : Ipv4Address :=
  ⟨bytesAt frame (ethHlen + 24) 4, length_bytesAt frame (ethHlen + 24) 4⟩

end ArpHeader

namespace Ipv4Header

/-- The length of the header in bytes, of which the field counts words of four. -/
def ihl (frame : List UInt8) : Nat := (frame.getD ethHlen 0 &&& 0x0F).toNat * 4

def totalLen (frame : List UInt8) : Nat := (readBe16 frame (ethHlen + 2)).toNat

def proto (frame : List UInt8) : UInt8 := frame.getD (ethHlen + 9) 0

def src (frame : List UInt8) : Ipv4Address :=
  ⟨bytesAt frame (ethHlen + 12) 4, length_bytesAt frame (ethHlen + 12) 4⟩

def dst (frame : List UInt8) : Ipv4Address :=
  ⟨bytesAt frame (ethHlen + 16) 4, length_bytesAt frame (ethHlen + 16) 4⟩

end Ipv4Header

namespace TcpHeader

def srcPort (frame : List UInt8) (tcp : Nat) : UInt16 := readBe16 frame tcp

def dstPort (frame : List UInt8) (tcp : Nat) : UInt16 := readBe16 frame (tcp + 2)

def seq (frame : List UInt8) (tcp : Nat) : UInt32 := readBe32 frame (tcp + 4)

def ack (frame : List UInt8) (tcp : Nat) : UInt32 := readBe32 frame (tcp + 8)

def dataOffset (frame : List UInt8) (tcp : Nat) : Nat := (frame.getD (tcp + 12) 0 >>> 4).toNat * 4

def flags (frame : List UInt8) (tcp : Nat) : UInt8 := frame.getD (tcp + 13) 0

end TcpHeader

/-- Adds up the words of a byte string; the last byte of an odd string is the high one of its
word. -/
def addWords (sum : UInt32) : List UInt8 → UInt32
  | high :: low :: rest => addWords (sum + (readBe16 [high, low] 0).toUInt32) rest
  | [last] => sum + (last.toUInt32 <<< 8)
  | [] => sum

/-- Brings the carries round, at most `fuel` times. -/
def foldCarries : Nat → UInt32 → UInt32
  | 0, sum => sum
  | fuel + 1, sum =>
      if sum >>> 16 ≠ 0 then foldCarries fuel ((sum &&& (0xFFFF : UInt32)) + (sum >>> 16)) else sum

/-- The checksum of IP, TCP and ICMP; two rounds leave no carry of a sum of 32 bits. -/
def checksum (data : List UInt8) (initial : UInt32) : UInt16 :=
  (~~~ foldCarries 2 (addWords initial data)).toUInt16

/-- The memory that the handlers read and write: the host's frame and the local variables in which
the layers of a reply are put together. -/
inductive EchoBuffer where
  | hostFrame (size : Nat)
  | arpReply
  | icmpReply
  | tcpSegment
  | ipv4Packet
  | etherFrame
  deriving DecidableEq, Repr

def EchoBuffer.capacity : EchoBuffer → Nat
  | .hostFrame size => size
  | .arpReply => arpHlen
  | .icmpReply => tcpMaxPayload
  | .tcpSegment => tcpHlen + tcpMaxPayload
  | .ipv4Packet => ipv4Hlen + tcpMaxPayload
  | .etherFrame => ethFrameMax

/-- A read or a write of `size` bytes of a buffer from `offset` on. -/
structure BufferAccess where
  buffer : EchoBuffer
  offset : Nat
  size : Nat
  deriving DecidableEq, Repr

def BufferAccess.Fits (access : BufferAccess) : Prop :=
  access.offset + access.size ≤ access.buffer.capacity

instance (access : BufferAccess) : Decidable access.Fits :=
  inferInstanceAs (Decidable (access.offset + access.size ≤ access.buffer.capacity))

/-- Bytes that are handed on by a pointer and a length. -/
structure Slice where
  buffer : EchoBuffer
  offset : Nat
  bytes : List UInt8

/-- What handling a frame does besides changing the state: the memory it touches and the frames it
sends to the host. -/
structure EchoOutput where
  accesses : List BufferAccess
  frames : List (List UInt8)
  deriving DecidableEq, Repr

namespace EchoOutput

def touches (accesses : List BufferAccess) : EchoOutput := ⟨accesses, []⟩

instance : Append EchoOutput where
  append first second := ⟨first.accesses ++ second.accesses, first.frames ++ second.frames⟩

@[simp] theorem accesses_append (first second : EchoOutput) :
    (first ++ second).accesses = first.accesses ++ second.accesses := rfl

@[simp] theorem frames_append (first second : EchoOutput) :
    (first ++ second).frames = first.frames ++ second.frames := rfl

/-- A copy of a slice, which is left out when it is empty. -/
def copies (slice : Slice) (buffer : EchoBuffer) (offset : Nat) : EchoOutput :=
  if 0 < slice.bytes.length then
    touches [⟨slice.buffer, slice.offset, slice.bytes.length⟩,
      ⟨buffer, offset, slice.bytes.length⟩]
  else
    touches []

end EchoOutput

open EchoOutput

/-- A segment with which the TCP service answers. -/
structure TcpReply where
  flags : UInt8
  seq : UInt32
  ack : UInt32
  payload : List UInt8
  deriving DecidableEq, Repr

/-- The state of the one connection that the TCP service holds. -/
structure TcpEcho where
  established : Bool := false
  mySeq : UInt32 := 0x10000000
  peerSeq : UInt32 := 0
  deriving DecidableEq, Repr

namespace TcpEcho

/-- The numbers after the data of a segment, which is sent back. -/
def echo (tcp : TcpEcho) (seq : UInt32) (payload : List UInt8) : TcpEcho × List TcpReply :=
  if 0 < payload.length then
    let peerSeq := seq + .ofNat payload.length
    ({ tcp with peerSeq, mySeq := tcp.mySeq + .ofNat payload.length },
      [⟨tcpFlagPsh ||| tcpFlagAck, tcp.mySeq, peerSeq, payload⟩])
  else
    (tcp, [])

/-- What a segment to the service's port does. -/
def receive (tcp : TcpEcho) (seq ack : UInt32) (flags : UInt8) (payload : List UInt8) :
    TcpEcho × List TcpReply :=
  if flags &&& tcpFlagSyn ≠ 0 ∧ tcp.established = false then
    let peerSeq := seq + 1
    ({ tcp with peerSeq, established := true },
      [⟨tcpFlagSyn ||| tcpFlagAck, tcp.mySeq, peerSeq, []⟩])
  else if tcp.established = true then
    let (tcp, replies) := tcp.echo seq payload
    if flags &&& tcpFlagFin ≠ 0 then
      let peerSeq := seq + .ofNat payload.length + 1
      ({ tcp with peerSeq, established := false },
        replies ++ [⟨tcpFlagAck ||| tcpFlagFin, tcp.mySeq, peerSeq, []⟩])
    else if payload.length = 0 ∧ tcp.mySeq < ack then
      ({ tcp with mySeq := ack }, replies)
    else
      (tcp, replies)
  else
    (tcp, [])

end TcpEcho

/-- Answers ARP requests, ICMP echo requests and one TCP connection. -/
structure EthernetEchoBackend where
  mac : MacAddress
  ip : Ipv4Address
  tcpPort : UInt16
  peerMac : MacAddress := ⟨List.replicate 6 0, rfl⟩
  tcp : TcpEcho := {}
  deriving DecidableEq

namespace EthernetEchoBackend

def sendFrameToHost (backend : EthernetEchoBackend) (dstMac : MacAddress) (ethertype : UInt16)
    (payload : Slice) : EchoOutput :=
  let total := ethHlen + payload.bytes.length
  touches [⟨.etherFrame, 0, 6⟩, ⟨.etherFrame, 6, 6⟩, ⟨.etherFrame, 12, 2⟩] ++
    copies payload .etherFrame ethHlen ++
    touches (if total < ethMinFrame then [⟨.etherFrame, total, ethMinFrame - total⟩] else []) ++
    ⟨[⟨.etherFrame, 0, max total ethMinFrame⟩],
      [dstMac.val ++ (backend.mac.val ++ (u16ToBytes ethertype ++ (payload.bytes ++
        List.replicate (ethMinFrame - total) 0)))]⟩

/-- A header without options; the packet must not be taken apart on its way. -/
def ipv4Header (proto : UInt8) (src dst : Ipv4Address) (payloadLen : Nat) (checksum : UInt16) :
    List UInt8 :=
  ([0x45, 0] ++ u16ToBytes (.ofNat (ipv4Hlen + payloadLen)) ++ u16ToBytes 0 ++
    u16ToBytes 0x4000 ++ [64, proto]) ++ u16ToBytes checksum ++ (src.val ++ dst.val)

def sendIpv4 (backend : EthernetEchoBackend) (proto : UInt8) (dstIp : Ipv4Address)
    (payload : Slice) : EchoOutput :=
  let header := ipv4Header proto backend.ip dstIp payload.bytes.length
  touches [⟨.ipv4Packet, 0, ipv4Hlen⟩] ++ copies payload .ipv4Packet ipv4Hlen ++
    backend.sendFrameToHost backend.peerMac ethTypeIpv4
      ⟨.ipv4Packet, 0, header (checksum (header 0) 0) ++ payload.bytes⟩

def handleArp (backend : EthernetEchoBackend) (frame : List UInt8) : EchoOutput :=
  if frame.length < ethHlen + arpHlen then
    touches []
  else
    let header := touches [⟨.hostFrame frame.length, ethHlen, arpHlen⟩]
    if ArpHeader.htype frame ≠ 1 ∨ ArpHeader.ptype frame ≠ ethTypeIpv4 ∨
        ArpHeader.hlen frame ≠ 6 ∨ ArpHeader.plen frame ≠ 4 then
      header
    else if ArpHeader.op frame ≠ arpOpRequest ∨ ArpHeader.tpa frame ≠ backend.ip then
      header
    else
      header ++ touches [⟨.arpReply, 0, arpHlen⟩] ++
        backend.sendFrameToHost (ArpHeader.sha frame) ethTypeArp
          ⟨.arpReply, 0, u16ToBytes (ArpHeader.htype frame) ++
            u16ToBytes (ArpHeader.ptype frame) ++ [6, 4] ++ u16ToBytes arpOpReply ++
            backend.mac.val ++ backend.ip.val ++ (ArpHeader.sha frame).val ++
            (ArpHeader.spa frame).val⟩

/-- The message that is sent back: of another type, all else but the checksum as it was. -/
def icmpReply (message : List UInt8) : List UInt8 :=
  let cleared := storeAt (storeAt message 0 [icmpEchoReply]) 2 [0, 0]
  storeAt cleared 2 (u16ToBytes (checksum cleared 0))

/-- `icmp` is where the message begins in the frame. -/
def handleIcmp (backend : EthernetEchoBackend) (frame : List UInt8) (icmp icmpLen : Nat) :
    EchoOutput :=
  if icmpLen < icmpEchoHlen ∨ tcpMaxPayload < icmpLen then
    touches []
  else
    let header := touches [⟨.hostFrame frame.length, icmp, icmpEchoHlen⟩]
    if frame.getD icmp 0 ≠ icmpEchoRequest ∨ frame.getD (icmp + 1) 0 ≠ 0 then
      header
    else
      let request : Slice := ⟨.hostFrame frame.length, icmp, bytesAt frame icmp icmpLen⟩
      header ++ copies request .icmpReply 0 ++
        touches [⟨.icmpReply, 0, icmpEchoHlen⟩, ⟨.icmpReply, 0, icmpLen⟩] ++
        backend.sendIpv4 ipProtoIcmp (Ipv4Header.src frame)
          ⟨.icmpReply, 0, icmpReply request.bytes⟩

/-- A header without options; the port of the peer is that of its segment. -/
def tcpHeader (srcPort dstPort : UInt16) (reply : TcpReply) (checksum : UInt16) : List UInt8 :=
  (u16ToBytes srcPort ++ u16ToBytes dstPort ++ u32ToBytes reply.seq ++ u32ToBytes reply.ack ++
    [.ofNat (5 <<< 4), reply.flags] ++ u16ToBytes 4096) ++ u16ToBytes checksum ++ u16ToBytes 0

/-- The sum of the pseudo-header, which the checksum of a segment begins with. -/
def pseudoSum (frame : List UInt8) (segmentLen : Nat) : UInt32 :=
  (readBe16 frame (ethHlen + 12)).toUInt32 + (readBe16 frame (ethHlen + 14)).toUInt32 +
    (readBe16 frame (ethHlen + 16)).toUInt32 + (readBe16 frame (ethHlen + 18)).toUInt32 +
    ipProtoTcp.toUInt32 + .ofNat segmentLen

/-- Sends an answer to the segment at `tcp`, whose data begin at `payload`. -/
def sendSegment (backend : EthernetEchoBackend) (frame : List UInt8) (tcp payload : Nat)
    (reply : TcpReply) : EchoOutput :=
  let header := tcpHeader backend.tcpPort (TcpHeader.srcPort frame tcp) reply
  let segmentLen := tcpHlen + reply.payload.length
  touches [⟨.tcpSegment, 0, tcpHlen⟩] ++
    copies ⟨.hostFrame frame.length, payload, reply.payload⟩ .tcpSegment tcpHlen ++
    touches [⟨.hostFrame frame.length, ethHlen + 12, 8⟩, ⟨.tcpSegment, 0, segmentLen⟩] ++
    backend.sendIpv4 ipProtoTcp (Ipv4Header.src frame)
      ⟨.tcpSegment, 0,
        header (checksum (header 0 ++ reply.payload) (pseudoSum frame segmentLen)) ++
          reply.payload⟩

def sendSegments (backend : EthernetEchoBackend) (frame : List UInt8) (tcp payload : Nat) :
    List TcpReply → EchoOutput
  | [] => touches []
  | reply :: replies =>
      backend.sendSegment frame tcp payload reply ++
        backend.sendSegments frame tcp payload replies

/-- `tcp` is where the segment begins in the frame. -/
def handleTcp (backend : EthernetEchoBackend) (frame : List UInt8) (tcp tcpLen : Nat) :
    EthernetEchoBackend × EchoOutput :=
  if tcpLen < tcpHlen then
    (backend, touches [])
  else
    let header := touches [⟨.hostFrame frame.length, tcp, tcpHlen⟩]
    if TcpHeader.dstPort frame tcp ≠ backend.tcpPort then
      (backend, header)
    else
      let dataOffset := TcpHeader.dataOffset frame tcp
      if dataOffset < tcpHlen ∨ tcpLen < dataOffset then
        (backend, header)
      else
        let (echo, replies) := backend.tcp.receive (TcpHeader.seq frame tcp)
          (TcpHeader.ack frame tcp) (TcpHeader.flags frame tcp)
          (bytesAt frame (tcp + dataOffset) (tcpLen - dataOffset))
        ({ backend with tcp := echo },
          header ++ backend.sendSegments frame tcp (tcp + dataOffset) replies)

def handleIpv4 (backend : EthernetEchoBackend) (frame : List UInt8) :
    EthernetEchoBackend × EchoOutput :=
  if frame.length < ethHlen + ipv4Hlen then
    (backend, touches [])
  else
    let header := touches [⟨.hostFrame frame.length, ethHlen, ipv4Hlen⟩]
    let ihl := Ipv4Header.ihl frame
    let totalLen := Ipv4Header.totalLen frame
    if ihl < ipv4Hlen ∨ totalLen < ihl ∨ frame.length < ethHlen + totalLen then
      (backend, header)
    else if Ipv4Header.dst frame ≠ backend.ip then
      (backend, header)
    else if Ipv4Header.proto frame = ipProtoIcmp then
      (backend, header ++ backend.handleIcmp frame (ethHlen + ihl) (totalLen - ihl))
    else if Ipv4Header.proto frame = ipProtoTcp then
      let (backend, output) := backend.handleTcp frame (ethHlen + ihl) (totalLen - ihl)
      (backend, header ++ output)
    else
      (backend, header)

/-- The frame of the host is handled on the thread that brings it. -/
def handleFrame (backend : EthernetEchoBackend) (frame : List UInt8) :
    EthernetEchoBackend × EchoOutput :=
  if frame.length < ethHlen then
    (backend, touches [])
  else
    let header := touches [⟨.hostFrame frame.length, 0, ethHlen⟩]
    let backend := { backend with peerMac := EthHeader.src frame }
    if EthHeader.ethertype frame = ethTypeArp then
      (backend, header ++ backend.handleArp frame)
    else if EthHeader.ethertype frame = ethTypeIpv4 then
      let (backend, output) := backend.handleIpv4 frame
      (backend, header ++ output)
    else
      (backend, header)

def sendFrame (backend : EthernetEchoBackend) (data : List UInt8) :
    EthernetEchoBackend × EchoOutput :=
  backend.handleFrame data

end EthernetEchoBackend

end Usbipdcpp.VirtualDevice
