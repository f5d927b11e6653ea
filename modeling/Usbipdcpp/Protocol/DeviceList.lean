import Usbipdcpp.Protocol.Wire

namespace Usbipdcpp.Protocol.DeviceList

open Foundation.ByteStream

def usbipVersion : UInt16 := 0x0111

def opRepDevlist : UInt16 := 0x0005

def opRepImport : UInt16 := 0x0003

def readU16 : Reader UInt16 := do
  let bytes ← readBytes .eof 2
  return .ofNat (natOfBytes bytes)

def u16ToBytes (x : UInt16) : List UInt8 := bytesOfNat 2 x.toNat

@[simp] theorem length_u16ToBytes (x : UInt16) : (u16ToBytes x).length = 2 :=
  length_bytesOfNat 2 x.toNat

theorem decodes_readU16 (x : UInt16) : Decodes readU16 (u16ToBytes x) x := by
  have hx : natOfBytes (u16ToBytes x) = x.toNat := natOfBytes_bytesOfNat x.toNat_lt
  simpa [readU16, hx, length_u16ToBytes] using
    decodes_readField (u16ToBytes x) fun bytes => UInt16.ofNat (natOfBytes bytes)

/-- The buffer of `size` zero bytes with a string copied to its start; a byte is kept for the
NUL. -/
def nulPadded (size : Nat) (str : List UInt8) : List UInt8 :=
  str.take (size - 1) ++ List.replicate (size - (str.take (size - 1)).length) 0

/-- A string ends before the first NUL of its buffer. -/
def untilNul (buffer : List UInt8) : List UInt8 :=
  buffer.takeWhile (· ≠ 0)

theorem length_nulPadded (size : Nat) (str : List UInt8) :
    (nulPadded size str).length = size := by
  have htake : (str.take (size - 1)).length ≤ size := by
    rw [List.length_take]
    omega
  rw [nulPadded, List.length_append, List.length_replicate]
  omega

theorem takeWhile_replicate_zero (n : Nat) :
    (List.replicate n (0 : UInt8)).takeWhile (· ≠ 0) = [] := by
  cases n <;> simp [List.replicate_succ]

theorem untilNul_nulPadded {size : Nat} {str : List UInt8} (hlength : str.length ≤ size - 1)
    (hnul : 0 ∉ str) : untilNul (nulPadded size str) = str := by
  have hstr : ∀ byte ∈ str, byte ≠ 0 := fun byte hbyte hzero => hnul (hzero ▸ hbyte)
  rw [untilNul, nulPadded, List.take_of_length_le hlength,
    List.takeWhile_append_of_pos (by simpa using hstr), takeWhile_replicate_zero,
    List.append_nil]

def readString (size : Nat) : Reader (List UInt8) := do
  let buffer ← readBytes .eof size
  return untilNul buffer

theorem decodes_readString {size : Nat} {str : List UInt8} (hlength : str.length ≤ size - 1)
    (hnul : 0 ∉ str) : Decodes (readString size) (nulPadded size str) str := by
  have hread := decodes_readField (nulPadded size str) untilNul
  rwa [length_nulPadded, untilNul_nulPadded hlength hnul] at hread

@[ext] structure Version where
  major : UInt8
  minor : UInt8
  patch : UInt8
  deriving DecidableEq, Repr

namespace Version

def ofBcd (bcd : UInt16) : Version where
  major := (bcd >>> 8).toUInt8
  minor := ((bcd >>> 4) &&& 0xF).toUInt8
  patch := (bcd &&& 0xF).toUInt8

def toBcd (version : Version) : UInt16 :=
  version.major.toUInt16 <<< 8 ||| version.minor.toUInt16 <<< 4 ||| version.patch.toUInt16

theorem toNat_toBcd {version : Version} (hminor : version.minor.toNat ≤ 15)
    (hpatch : version.patch.toNat ≤ 15) :
    version.toBcd.toNat =
      256 * version.major.toNat + (16 * version.minor.toNat + version.patch.toNat) := by
  have hmajor : version.major.toNat < 256 := version.major.toNat_lt
  have hshift8 : (version.major.toUInt16 <<< 8).toNat = version.major.toNat <<< 8 := by
    rw [UInt16.toNat_shiftLeft, Nat.shiftLeft_eq, Nat.shiftLeft_eq]
    exact Nat.mod_eq_of_lt (by change version.major.toNat * 256 < 65536; omega)
  have hshift4 : (version.minor.toUInt16 <<< 4).toNat = version.minor.toNat <<< 4 := by
    rw [UInt16.toNat_shiftLeft, Nat.shiftLeft_eq, Nat.shiftLeft_eq]
    exact Nat.mod_eq_of_lt (by change version.minor.toNat * 16 < 65536; omega)
  have hlow : version.minor.toNat <<< 4 ||| version.patch.toNat =
      16 * version.minor.toNat + version.patch.toNat := by
    rw [← Nat.shiftLeft_add_eq_or_of_lt (by omega), Nat.shiftLeft_eq, Nat.mul_comm]
  rw [toBcd, UInt16.toNat_or, UInt16.toNat_or, hshift8, hshift4, UInt8.toNat_toUInt16,
    Nat.or_assoc, hlow, ← Nat.shiftLeft_add_eq_or_of_lt (by omega), Nat.shiftLeft_eq,
    Nat.mul_comm]

/-- Four bits hold the minor number and the patch number. -/
theorem ofBcd_toBcd {version : Version} (hminor : version.minor.toNat ≤ 15)
    (hpatch : version.patch.toNat ≤ 15) : ofBcd version.toBcd = version := by
  have hbcd := toNat_toBcd hminor hpatch
  have hmajor : version.major.toNat < 256 := version.major.toNat_lt
  have hmask : ∀ n : Nat, n &&& 15 = n % 16 := fun n => Nat.and_two_pow_sub_one_eq_mod n 4
  apply Version.ext
  · apply UInt8.toNat_inj.mp
    simp only [ofBcd, UInt16.toNat_toUInt8, UInt16.toNat_shiftRight, hbcd,
      Nat.shiftRight_eq_div_pow, UInt16.reduceToNat, Nat.reduceMod, Nat.reducePow]
    omega
  · apply UInt8.toNat_inj.mp
    simp only [ofBcd, UInt16.toNat_toUInt8, UInt16.toNat_and, UInt16.toNat_shiftRight, hbcd,
      Nat.shiftRight_eq_div_pow, UInt16.reduceToNat, Nat.reduceMod, Nat.reducePow, hmask]
    omega
  · apply UInt8.toNat_inj.mp
    simp only [ofBcd, UInt16.toNat_toUInt8, UInt16.toNat_and, hbcd, UInt16.reduceToNat, hmask]
    omega

end Version

/-- What a devlist reply tells of an interface. -/
structure UsbInterface where
  interfaceClass : UInt8
  interfaceSubclass : UInt8
  interfaceProtocol : UInt8
  deriving DecidableEq, Repr

namespace UsbInterface

/-- An interface that no socket has been read into. -/
def blank : UsbInterface := ⟨0, 0, 0⟩

def toBytes (intf : UsbInterface) : List UInt8 :=
  [intf.interfaceClass, intf.interfaceSubclass, intf.interfaceProtocol, 0]

def fromSocket : Reader UsbInterface := do
  let interfaceClass ← readU8
  let interfaceSubclass ← readU8
  let interfaceProtocol ← readU8
  let _padding ← readU8
  return { interfaceClass, interfaceSubclass, interfaceProtocol }

theorem decodes_fromSocket (intf : UsbInterface) : Decodes fromSocket intf.toBytes intf :=
  decodes_of_bytes_eq (by simp [toBytes, u8ToBytes_eq]) <|
    decodes_bind (decodes_readU8 intf.interfaceClass) <|
      decodes_bind (decodes_readU8 intf.interfaceSubclass) <|
        decodes_bind (decodes_readU8 intf.interfaceProtocol) <|
          decodes_bind (decodes_readU8 0) <| decodes_pure intf

end UsbInterface

/-- The fields of a device that the replies carry; a string is its bytes. -/
structure UsbDevice where
  path : List UInt8
  busid : List UInt8
  busNum : UInt32
  devNum : UInt32
  speed : UInt32
  vendorId : UInt16
  productId : UInt16
  deviceBcd : Version
  deviceClass : UInt8
  deviceSubclass : UInt8
  deviceProtocol : UInt8
  configurationValue : UInt8
  numConfigurations : UInt8
  interfaces : List UsbInterface
  deriving DecidableEq, Repr

namespace UsbDevice

def toBytesWithoutInterfaces (device : UsbDevice) : List UInt8 :=
  nulPadded 256 device.path ++ nulPadded 32 device.busid ++ u32ToBytes device.busNum ++
    u32ToBytes device.devNum ++ u32ToBytes device.speed ++ u16ToBytes device.vendorId ++
    u16ToBytes device.productId ++ u16ToBytes device.deviceBcd.toBcd ++
    u8ToBytes device.deviceClass ++ u8ToBytes device.deviceSubclass ++
    u8ToBytes device.deviceProtocol ++ u8ToBytes device.configurationValue ++
    u8ToBytes device.numConfigurations ++ u8ToBytes (.ofNat device.interfaces.length)

def toBytes (device : UsbDevice) : List UInt8 := device.toBytesWithoutInterfaces

def toBytesWithInterfaces (device : UsbDevice) : List UInt8 :=
  device.toBytesWithoutInterfaces ++ device.interfaces.flatMap UsbInterface.toBytes

/-- The interfaces are counted here and read by the caller, where the reply has them. -/
def fromSocket : Reader UsbDevice := do
  let path ← readString 256
  let busid ← readString 32
  let busNum ← readU32
  let devNum ← readU32
  let speed ← readU32
  let vendorId ← readU16
  let productId ← readU16
  let deviceBcdRaw ← readU16
  let deviceClass ← readU8
  let deviceSubclass ← readU8
  let deviceProtocol ← readU8
  let configurationValue ← readU8
  let numConfigurations ← readU8
  let interfaceCount ← readU8
  return { path, busid, busNum, devNum, speed, vendorId, productId,
           deviceBcd := .ofBcd deviceBcdRaw, deviceClass, deviceSubclass, deviceProtocol,
           configurationValue, numConfigurations,
           interfaces := List.replicate interfaceCount.toNat .blank }

/-- The device as far as its own bytes tell: its interfaces are only counted. -/
def withoutBodies (device : UsbDevice) : UsbDevice :=
  { device with interfaces := List.replicate device.interfaces.length .blank }

/-- A device whose fields fit where the header keeps them. -/
structure Representable (device : UsbDevice) : Prop where
  path_length : device.path.length ≤ 255
  path_nul : 0 ∉ device.path
  busid_length : device.busid.length ≤ 31
  busid_nul : 0 ∉ device.busid
  minor_le : device.deviceBcd.minor.toNat ≤ 15
  patch_le : device.deviceBcd.patch.toNat ≤ 15
  interfaces_length : device.interfaces.length ≤ 255

variable {device : UsbDevice}

theorem length_toBytes (device : UsbDevice) : device.toBytes.length = 312 := by
  simp [toBytes, toBytesWithoutInterfaces, length_nulPadded]

theorem decodes_fromSocket (h : device.Representable) :
    Decodes fromSocket device.toBytes device.withoutBodies := by
  have hcount : (UInt8.ofNat device.interfaces.length).toNat = device.interfaces.length :=
    UInt8.toNat_ofNat_of_lt' (Nat.lt_succ_of_le h.interfaces_length)
  have hread : (UsbDevice.mk device.path device.busid device.busNum device.devNum device.speed
      device.vendorId device.productId (.ofBcd device.deviceBcd.toBcd) device.deviceClass
      device.deviceSubclass device.deviceProtocol device.configurationValue
      device.numConfigurations
      (List.replicate (UInt8.ofNat device.interfaces.length).toNat .blank)) =
      device.withoutBodies := by
    rw [Version.ofBcd_toBcd h.minor_le h.patch_le, hcount]
    rfl
  rw [← hread]
  exact decodes_of_bytes_eq (by simp [toBytes, toBytesWithoutInterfaces]) <|
    decodes_bind (decodes_readString h.path_length h.path_nul) <|
      decodes_bind (decodes_readString h.busid_length h.busid_nul) <|
        decodes_bind (decodes_readU32 device.busNum) <|
          decodes_bind (decodes_readU32 device.devNum) <|
            decodes_bind (decodes_readU32 device.speed) <|
              decodes_bind (decodes_readU16 device.vendorId) <|
                decodes_bind (decodes_readU16 device.productId) <|
                  decodes_bind (decodes_readU16 device.deviceBcd.toBcd) <|
                    decodes_bind (decodes_readU8 device.deviceClass) <|
                      decodes_bind (decodes_readU8 device.deviceSubclass) <|
                        decodes_bind (decodes_readU8 device.deviceProtocol) <|
                          decodes_bind (decodes_readU8 device.configurationValue) <|
                            decodes_bind (decodes_readU8 device.numConfigurations) <|
                              decodes_bind (decodes_readU8 _) <| decodes_pure _

/-- A device of a devlist reply: the bodies of its interfaces follow the header. -/
def fromSocketWithInterfaces : Reader UsbDevice := do
  let device ← fromSocket
  let interfaces ← readMany UsbInterface.fromSocket device.interfaces.length
  return { device with interfaces }

theorem decodes_fromSocketWithInterfaces (h : device.Representable) :
    Decodes fromSocketWithInterfaces device.toBytesWithInterfaces device := by
  have hbodies : Decodes
      (readMany UsbInterface.fromSocket device.withoutBodies.interfaces.length)
      (device.interfaces.flatMap UsbInterface.toBytes) device.interfaces := by
    rw [withoutBodies, List.length_replicate]
    exact decodes_readMany UsbInterface.decodes_fromSocket device.interfaces
  exact decodes_bind (decodes_fromSocket h) <|
    decodes_of_bytes_eq (List.append_nil _) <|
      decodes_bind hbodies <| decodes_pure device

end UsbDevice

/-- The version and the command tell which reply follows, and are read before it. -/
def readReply {α : Type} (fromSocket : Reader α) : Reader (UInt16 × UInt16 × α) := do
  let version ← readU16
  let command ← readU16
  let reply ← fromSocket
  return (version, command, reply)

theorem decodes_readReply {α : Type} {fromSocket : Reader α} {bytes : List UInt8} {reply : α}
    (version command : UInt16) (h : Decodes fromSocket bytes reply) :
    Decodes (readReply fromSocket) (u16ToBytes version ++ u16ToBytes command ++ bytes)
      (version, command, reply) :=
  decodes_of_bytes_eq (by simp) <|
    decodes_bind (decodes_readU16 version) <|
      decodes_bind (decodes_readU16 command) <|
        decodes_bind h <| decodes_pure (version, command, reply)

structure OpRepDevlist where
  status : UInt32
  deviceCount : UInt32
  devices : List UsbDevice
  deriving DecidableEq, Repr

namespace OpRepDevlist

def headerBytes (reply : OpRepDevlist) : List UInt8 :=
  u16ToBytes usbipVersion ++ u16ToBytes opRepDevlist ++ u32ToBytes reply.status ++
    u32ToBytes reply.deviceCount

def toBytes (reply : OpRepDevlist) : List UInt8 :=
  reply.headerBytes ++ reply.devices.flatMap UsbDevice.toBytesWithInterfaces

/-- The writes to the socket, one for the header and one for each device. -/
def toSocket (reply : OpRepDevlist) : List (List UInt8) :=
  reply.headerBytes :: reply.devices.map UsbDevice.toBytesWithInterfaces

def fromSocket : Reader OpRepDevlist := do
  let status ← readU32
  let deviceCount ← readU32
  let devices ← readMany UsbDevice.fromSocketWithInterfaces deviceCount.toNat
  return { status, deviceCount, devices }

def createFromDevices (devices : List UsbDevice) : OpRepDevlist where
  status := 0
  deviceCount := .ofNat devices.length
  devices := devices

theorem deviceCount_createFromDevices {devices : List UsbDevice}
    (h : devices.length < 2 ^ 32) :
    (createFromDevices devices).deviceCount.toNat = devices.length :=
  UInt32.toNat_ofNat_of_lt' h

theorem flatten_toSocket (reply : OpRepDevlist) : reply.toSocket.flatten = reply.toBytes := by
  rw [toSocket, toBytes, List.flatten_cons, List.flatMap]

theorem decodes_fromSocket {reply : OpRepDevlist}
    (hcount : reply.deviceCount.toNat = reply.devices.length)
    (hdevices : ∀ device ∈ reply.devices, device.Representable) :
    Decodes fromSocket (u32ToBytes reply.status ++ u32ToBytes reply.deviceCount ++
      reply.devices.flatMap UsbDevice.toBytesWithInterfaces) reply := by
  have hbodies : Decodes (readMany UsbDevice.fromSocketWithInterfaces reply.deviceCount.toNat)
      (reply.devices.flatMap UsbDevice.toBytesWithInterfaces) reply.devices := by
    rw [hcount]
    exact decodes_readMany_of_mem fun device hdevice =>
      UsbDevice.decodes_fromSocketWithInterfaces (hdevices device hdevice)
  exact decodes_of_bytes_eq (by simp) <|
    decodes_bind (decodes_readU32 reply.status) <|
      decodes_bind (decodes_readU32 reply.deviceCount) <|
        decodes_bind hbodies <| decodes_pure reply

end OpRepDevlist

structure OpRepImport where
  status : UInt32
  device : Option UsbDevice
  deriving DecidableEq, Repr

namespace OpRepImport

def headerBytes (reply : OpRepImport) : List UInt8 :=
  u16ToBytes usbipVersion ++ u16ToBytes opRepImport ++ u32ToBytes reply.status

def toBytes (reply : OpRepImport) : List UInt8 :=
  if reply.status = 0 then
    match reply.device with
    | some device => reply.headerBytes ++ device.toBytes
    | none => reply.headerBytes
  else reply.headerBytes

/-- The buffers of the one write to the socket. -/
def toSocket (reply : OpRepImport) : List (List UInt8) :=
  if reply.status = 0 then
    match reply.device with
    | some device => [reply.headerBytes, device.toBytes]
    | none => [reply.headerBytes]
  else [reply.headerBytes]

/-- A failure leaves the device of `received` as it was. -/
def fromSocket (received : OpRepImport) : Reader OpRepImport := do
  let status ← readU32
  if status = 0 then
    let device ← UsbDevice.fromSocket
    return { status, device := some device }
  else
    return { received with status }

def createOnFailureWithStatus (status : UInt32) : OpRepImport where
  status := status
  device := none

def createOnSuccess (device : UsbDevice) : OpRepImport where
  status := 0
  device := some device

theorem flatten_toSocket (reply : OpRepImport) : reply.toSocket.flatten = reply.toBytes := by
  unfold toSocket toBytes
  split
  · split <;> simp
  · simp

theorem decodes_success (received : OpRepImport) {device : UsbDevice}
    (h : device.Representable) :
    Decodes received.fromSocket (u32ToBytes 0 ++ device.toBytes)
      (createOnSuccess device.withoutBodies) := by
  have hdevice : Decodes (UsbDevice.fromSocket >>= fun device => pure (createOnSuccess device))
      device.toBytes (createOnSuccess device.withoutBodies) :=
    decodes_of_bytes_eq (List.append_nil _) <|
      decodes_bind (UsbDevice.decodes_fromSocket h) <| decodes_pure _
  exact decodes_bind (decodes_readU32 0) hdevice

theorem decodes_failure (received : OpRepImport) {status : UInt32} (h : status ≠ 0) :
    Decodes received.fromSocket (u32ToBytes status) { received with status } := by
  refine decodes_of_bytes_eq (List.append_nil _) <| decodes_bind (decodes_readU32 status) ?_
  rw [if_neg h]
  exact decodes_pure { received with status }

end OpRepImport

/-- A reply to a devlist or an import request is read back from its bytes and nothing behind
them is touched; of the interfaces of an imported device only the count is sent. -/
theorem replies_round_trip :
    (∀ reply : OpRepDevlist, reply.deviceCount.toNat = reply.devices.length →
      (∀ device ∈ reply.devices, device.Representable) →
        reply.toSocket.flatten = reply.toBytes ∧
          Decodes (readReply OpRepDevlist.fromSocket) reply.toBytes
            (usbipVersion, opRepDevlist, reply)) ∧
      (∀ (received : OpRepImport) (device : UsbDevice), device.Representable →
        (OpRepImport.createOnSuccess device).toSocket.flatten =
            (OpRepImport.createOnSuccess device).toBytes ∧
          Decodes (readReply received.fromSocket) (OpRepImport.createOnSuccess device).toBytes
            (usbipVersion, opRepImport, OpRepImport.createOnSuccess device.withoutBodies)) ∧
      ∀ (received : OpRepImport) (status : UInt32), received.device = none → status ≠ 0 →
        (OpRepImport.createOnFailureWithStatus status).toSocket.flatten =
            (OpRepImport.createOnFailureWithStatus status).toBytes ∧
          Decodes (readReply received.fromSocket)
            (OpRepImport.createOnFailureWithStatus status).toBytes
            (usbipVersion, opRepImport, OpRepImport.createOnFailureWithStatus status) := by
  refine ⟨fun reply hcount hdevices => ⟨reply.flatten_toSocket, ?_⟩,
    fun received device hdevice => ⟨OpRepImport.flatten_toSocket _, ?_⟩,
    fun received status hfresh hstatus => ⟨OpRepImport.flatten_toSocket _, ?_⟩⟩
  · refine decodes_of_bytes_eq ?_ <| decodes_readReply usbipVersion opRepDevlist <|
      OpRepDevlist.decodes_fromSocket hcount hdevices
    simp only [OpRepDevlist.toBytes, OpRepDevlist.headerBytes, List.append_assoc]
  · refine decodes_of_bytes_eq ?_ <| decodes_readReply usbipVersion opRepImport <|
      OpRepImport.decodes_success received hdevice
    simp only [OpRepImport.toBytes, OpRepImport.headerBytes, OpRepImport.createOnSuccess,
      if_true, List.append_assoc]
  · have hread : ({ received with status } : OpRepImport) =
        OpRepImport.createOnFailureWithStatus status := by
      rw [OpRepImport.createOnFailureWithStatus, ← hfresh]
    rw [← hread]
    refine decodes_of_bytes_eq ?_ <| decodes_readReply usbipVersion opRepImport <|
      OpRepImport.decodes_failure received hstatus
    simp only [OpRepImport.toBytes, OpRepImport.headerBytes, if_neg hstatus]

/-- A keyboard at `/usb` with the busid `1-1`. -/
def keyboard : UsbDevice where
  path := [0x2F, 0x75, 0x73, 0x62]
  busid := [0x31, 0x2D, 0x31]
  busNum := 1
  devNum := 1
  speed := 3
  vendorId := 0x1234
  productId := 0x5678
  deviceBcd := ⟨1, 2, 3⟩
  deviceClass := 0
  deviceSubclass := 0
  deviceProtocol := 0
  configurationValue := 1
  numConfigurations := 1
  interfaces := [⟨3, 1, 1⟩, ⟨3, 0, 0⟩]

theorem replies_round_trip_keyboard :
    Decodes (readReply OpRepDevlist.fromSocket)
        (OpRepDevlist.createFromDevices [keyboard, keyboard]).toBytes
        (usbipVersion, opRepDevlist, OpRepDevlist.createFromDevices [keyboard, keyboard]) ∧
      Decodes (readReply (OpRepImport.fromSocket ⟨0, none⟩))
        (OpRepImport.createOnSuccess keyboard).toBytes
        (usbipVersion, opRepImport, OpRepImport.createOnSuccess keyboard.withoutBodies) ∧
      Decodes (readReply (OpRepImport.fromSocket ⟨0, none⟩))
        (OpRepImport.createOnFailureWithStatus 1).toBytes
        (usbipVersion, opRepImport, OpRepImport.createOnFailureWithStatus 1) := by
  have hkeyboard : keyboard.Representable :=
    ⟨by decide, by decide, by decide, by decide, by decide, by decide, by decide⟩
  obtain ⟨hdevlist, hsuccess, hfailure⟩ := replies_round_trip
  refine ⟨(hdevlist _ (OpRepDevlist.deviceCount_createFromDevices (by decide)) ?_).2,
    (hsuccess ⟨0, none⟩ keyboard hkeyboard).2, (hfailure ⟨0, none⟩ 1 rfl (by decide)).2⟩
  intro device hdevice
  obtain rfl : device = keyboard := by simpa [OpRepDevlist.createFromDevices] using hdevice
  exact hkeyboard

end Usbipdcpp.Protocol.DeviceList
