import Usbipdcpp.Foundation.ByteStream

namespace Usbipdcpp.Protocol

open Foundation.ByteStream

/-- The errors with which reading a command from the socket fails. -/
inductive SocketError where
  | eof
  | protocolError
  | noBufferSpace
  | invalidArgument
  deriving DecidableEq, Repr

/-- The errors that reach the session. -/
inductive ErrorType where
  | unknownCmd
  | socketEof
  | socketErr
  | invalidArg
  deriving DecidableEq, Repr

abbrev Reader (α : Type) : Type := ByteReader SocketError α

def usbipCmdSubmit : UInt32 := 0x0001

def usbipCmdUnlink : UInt32 := 0x0002

def usbipRetSubmit : UInt32 := 0x0003

def usbipRetUnlink : UInt32 := 0x0004

def maxTransferBufferSize : UInt32 := 16 * 1024 * 1024

def maxIsoPackets : UInt32 := 1024

/-- The `number_of_packets` of a transfer that is not isochronous. -/
def nonIsoPackets : UInt32 := 0xFFFFFFFF

namespace UsbIpDirection

def out : UInt32 := 0

def in_ : UInt32 := 1

end UsbIpDirection

def readU8 : Reader UInt8 := do
  let bytes ← readBytes .eof 1
  return .ofNat (natOfBytes bytes)

/-- Sixteen bits of a setup packet, least significant byte first. -/
def readU16le : Reader UInt16 := do
  let bytes ← readBytes .eof 2
  return .ofNat (natOfBytes bytes.reverse)

def readU32 : Reader UInt32 := do
  let bytes ← readBytes .eof 4
  return .ofNat (natOfBytes bytes)

def u8ToBytes (x : UInt8) : List UInt8 := bytesOfNat 1 x.toNat

def u16leToBytes (x : UInt16) : List UInt8 := (bytesOfNat 2 x.toNat).reverse

def u32ToBytes (x : UInt32) : List UInt8 := bytesOfNat 4 x.toNat

theorem u8ToBytes_eq (x : UInt8) : u8ToBytes x = [x] := by
  simp [u8ToBytes, Foundation.ByteStream.bytesOfNat]

@[simp] theorem length_u8ToBytes (x : UInt8) : (u8ToBytes x).length = 1 :=
  length_bytesOfNat 1 x.toNat

@[simp] theorem length_u16leToBytes (x : UInt16) : (u16leToBytes x).length = 2 := by
  rw [u16leToBytes, List.length_reverse]
  exact length_bytesOfNat 2 x.toNat

@[simp] theorem length_u32ToBytes (x : UInt32) : (u32ToBytes x).length = 4 :=
  length_bytesOfNat 4 x.toNat

theorem consumes_readU8 : Consumes readU8 fun _ => 1 :=
  consumes_bind (consumes_readBytes _ 1) fun _ => consumes_pure _

theorem consumes_readU16le : Consumes readU16le fun _ => 2 :=
  consumes_bind (consumes_readBytes _ 2) fun _ => consumes_pure _

theorem consumes_readU32 : Consumes readU32 fun _ => 4 :=
  consumes_bind (consumes_readBytes _ 4) fun _ => consumes_pure _

/-- A fixed-width field is read back as whatever its bytes denote. -/
theorem decodes_readField {α : Type} (bytes : List UInt8) (ofBytes : List UInt8 → α) :
    Decodes (readBytes SocketError.eof bytes.length >>= fun bytes => pure (ofBytes bytes)) bytes
      (ofBytes bytes) := by
  simpa using decodes_bind (k := fun bytes => pure (ofBytes bytes))
    (decodes_readBytes SocketError.eof bytes) (decodes_pure (ofBytes bytes))

theorem decodes_readU8 (x : UInt8) : Decodes readU8 (u8ToBytes x) x := by
  have hx : natOfBytes (u8ToBytes x) = x.toNat := natOfBytes_bytesOfNat x.toNat_lt
  simpa [readU8, hx] using
    decodes_readField (u8ToBytes x) fun bytes => UInt8.ofNat (natOfBytes bytes)

theorem decodes_readU16le (x : UInt16) : Decodes readU16le (u16leToBytes x) x := by
  have hx : natOfBytes (u16leToBytes x).reverse = x.toNat := by
    rw [u16leToBytes, List.reverse_reverse]
    exact natOfBytes_bytesOfNat x.toNat_lt
  simpa [readU16le, hx] using
    decodes_readField (u16leToBytes x) fun bytes => UInt16.ofNat (natOfBytes bytes.reverse)

theorem decodes_readU32 (x : UInt32) : Decodes readU32 (u32ToBytes x) x := by
  have hx : natOfBytes (u32ToBytes x) = x.toNat := natOfBytes_bytesOfNat x.toNat_lt
  simpa [readU32, hx] using
    decodes_readField (u32ToBytes x) fun bytes => UInt32.ofNat (natOfBytes bytes)

structure UsbIpHeaderBasic where
  command : UInt32
  seqnum : UInt32
  devid : UInt32
  direction : UInt32
  ep : UInt32
  deriving DecidableEq, Repr

namespace UsbIpHeaderBasic

/-- The command has been read already, to tell which packet follows. -/
def fromSocket (command : UInt32) : Reader UsbIpHeaderBasic := do
  let seqnum ← readU32
  let devid ← readU32
  let direction ← readU32
  let ep ← readU32
  return { command, seqnum, devid, direction, ep }

def toBytes (header : UsbIpHeaderBasic) : List UInt8 :=
  u32ToBytes header.command ++ u32ToBytes header.seqnum ++ u32ToBytes header.devid ++
    u32ToBytes header.direction ++ u32ToBytes header.ep

def getServerHeader (command seqnum : UInt32) : UsbIpHeaderBasic :=
  { command, seqnum, devid := 0, direction := 0, ep := 0 }

@[simp] theorem length_toBytes (header : UsbIpHeaderBasic) : header.toBytes.length = 20 := by
  simp [toBytes]

theorem consumes_fromSocket (command : UInt32) : Consumes (fromSocket command) fun _ => 16 :=
  consumes_bind consumes_readU32 fun _ => consumes_bind consumes_readU32 fun _ =>
    consumes_bind consumes_readU32 fun _ => consumes_bind consumes_readU32 fun _ =>
      consumes_pure _

theorem decodes_fromSocket (header : UsbIpHeaderBasic) :
    Decodes (fromSocket header.command)
      (u32ToBytes header.seqnum ++ u32ToBytes header.devid ++ u32ToBytes header.direction ++
        u32ToBytes header.ep) header :=
  decodes_of_bytes_eq (by simp) <|
    decodes_bind (decodes_readU32 header.seqnum) <|
      decodes_bind (decodes_readU32 header.devid) <|
        decodes_bind (decodes_readU32 header.direction) <|
          decodes_bind (decodes_readU32 header.ep) <| decodes_pure header

end UsbIpHeaderBasic

structure SetupPacket where
  requestType : UInt8
  request : UInt8
  value : UInt16
  index : UInt16
  length : UInt16
  deriving DecidableEq, Repr

namespace SetupPacket

def parse : Reader SetupPacket := do
  let requestType ← readU8
  let request ← readU8
  let value ← readU16le
  let index ← readU16le
  let length ← readU16le
  return { requestType, request, value, index, length }

def toBytes (setup : SetupPacket) : List UInt8 :=
  u8ToBytes setup.requestType ++ u8ToBytes setup.request ++ u16leToBytes setup.value ++
    u16leToBytes setup.index ++ u16leToBytes setup.length

def calcRequestType (setup : SetupPacket) : UInt8 := setup.requestType &&& 0b01100000

def calcRecipient (setup : SetupPacket) : UInt8 := setup.requestType &&& 0b00011111

/-- A transfer without a data stage counts as one to the device. -/
def isOut (setup : SetupPacket) : Bool :=
  setup.requestType &&& 0x80 == 0 || setup.length == 0

@[simp] theorem length_toBytes (setup : SetupPacket) : setup.toBytes.length = 8 := by
  simp [toBytes]

theorem consumes_parse : Consumes parse fun _ => 8 :=
  consumes_bind consumes_readU8 fun _ => consumes_bind consumes_readU8 fun _ =>
    consumes_bind consumes_readU16le fun _ => consumes_bind consumes_readU16le fun _ =>
      consumes_bind consumes_readU16le fun _ => consumes_pure _

theorem decodes_parse (setup : SetupPacket) : Decodes parse setup.toBytes setup :=
  decodes_of_bytes_eq (by simp [toBytes]) <|
    decodes_bind (decodes_readU8 setup.requestType) <|
      decodes_bind (decodes_readU8 setup.request) <|
        decodes_bind (decodes_readU16le setup.value) <|
          decodes_bind (decodes_readU16le setup.index) <|
            decodes_bind (decodes_readU16le setup.length) <| decodes_pure setup

end SetupPacket

structure UsbIpIsoPacketDescriptor where
  offset : UInt32
  length : UInt32
  actualLength : UInt32
  status : UInt32
  deriving DecidableEq, Repr

namespace UsbIpIsoPacketDescriptor

/-- A descriptor as the transfer is allocated, before one is read into it. -/
def zero : UsbIpIsoPacketDescriptor := ⟨0, 0, 0, 0⟩

def fromSocket : Reader UsbIpIsoPacketDescriptor := do
  let offset ← readU32
  let length ← readU32
  let actualLength ← readU32
  let status ← readU32
  return { offset, length, actualLength, status }

def toBytes (desc : UsbIpIsoPacketDescriptor) : List UInt8 :=
  u32ToBytes desc.offset ++ u32ToBytes desc.length ++ u32ToBytes desc.actualLength ++
    u32ToBytes desc.status

@[simp] theorem length_toBytes (desc : UsbIpIsoPacketDescriptor) : desc.toBytes.length = 16 := by
  simp [toBytes]

theorem consumes_fromSocket : Consumes fromSocket fun _ => 16 :=
  consumes_bind consumes_readU32 fun _ => consumes_bind consumes_readU32 fun _ =>
    consumes_bind consumes_readU32 fun _ => consumes_bind consumes_readU32 fun _ =>
      consumes_pure _

theorem decodes_fromSocket (desc : UsbIpIsoPacketDescriptor) :
    Decodes fromSocket desc.toBytes desc :=
  decodes_of_bytes_eq (by simp [toBytes]) <|
    decodes_bind (decodes_readU32 desc.offset) <|
      decodes_bind (decodes_readU32 desc.length) <|
        decodes_bind (decodes_readU32 desc.actualLength) <|
          decodes_bind (decodes_readU32 desc.status) <| decodes_pure desc

theorem length_flatMap_toBytes (descs : List UsbIpIsoPacketDescriptor) :
    (descs.flatMap toBytes).length = 16 * descs.length := by
  induction descs with
  | nil => rfl
  | cons desc descs ih =>
      rw [List.flatMap_cons, List.length_append, ih, length_toBytes, List.length_cons]
      omega

end UsbIpIsoPacketDescriptor

end Usbipdcpp.Protocol
