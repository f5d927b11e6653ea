import Mathlib.Data.Vector.Basic
import Usbipdcpp.VirtualDevice.MscBulkIn

namespace Usbipdcpp.MassStorage

open Foundation.ByteStream

/-- The bytes of a multi-byte field, most significant first. -/
def putBe16 (v : UInt16) : List UInt8 := bytesOfNat 2 v.toNat

def putBe24 (v : UInt32) : List UInt8 := bytesOfNat 3 v.toNat

def putBe32 (v : UInt32) : List UInt8 := bytesOfNat 4 v.toNat

def putBe64 (v : UInt64) : List UInt8 := bytesOfNat 8 v.toNat

def getBe16 (p : List UInt8) : UInt16 := .ofNat (natOfBytes (p.take 2))

def getBe32 (p : List UInt8) : UInt32 := .ofNat (natOfBytes (p.take 4))

def getBe64 (p : List UInt8) : UInt64 := .ofNat (natOfBytes (p.take 8))

/-- A field of the command wrapper, least significant byte first. -/
def getLe32 (p : List UInt8) : UInt32 := .ofNat (natOfBytes (p.take 4).reverse)

def putLe32 (v : UInt32) : List UInt8 := (putBe32 v).reverse

@[simp] theorem length_putBe16 (v : UInt16) : (putBe16 v).length = 2 :=
  length_bytesOfNat 2 v.toNat

@[simp] theorem length_putBe24 (v : UInt32) : (putBe24 v).length = 3 :=
  length_bytesOfNat 3 v.toNat

@[simp] theorem length_putBe32 (v : UInt32) : (putBe32 v).length = 4 :=
  length_bytesOfNat 4 v.toNat

@[simp] theorem length_putBe64 (v : UInt64) : (putBe64 v).length = 8 :=
  length_bytesOfNat 8 v.toNat

@[simp] theorem length_putLe32 (v : UInt32) : (putLe32 v).length = 4 := by
  rw [putLe32, List.length_reverse]
  exact length_putBe32 v

theorem getLe32_putLe32 (v : UInt32) (rest : List UInt8) : getLe32 (putLe32 v ++ rest) = v := by
  have hbytes : (putLe32 v ++ rest).take 4 = putLe32 v := by
    rw [← length_putLe32 v, List.take_left]
  have hvalue : natOfBytes (bytesOfNat 4 v.toNat) = v.toNat := natOfBytes_bytesOfNat v.toNat_lt
  rw [getLe32, hbytes, putLe32, List.reverse_reverse, putBe32, hvalue, UInt32.ofNat_toNat]

/-- The command block wrapper. -/
@[ext]
structure Cbw where
  signature : UInt32
  tag : UInt32
  dataTransferLength : UInt32
  flags : UInt8
  lun : UInt8
  cbLength : UInt8
  cb : List.Vector UInt8 16
  deriving DecidableEq

namespace Cbw

def signatureValue : UInt32 := 0x43425355

def size : Nat := 31

def empty : Cbw where
  signature := 0
  tag := 0
  dataTransferLength := 0
  flags := 0
  lun := 0
  cbLength := 0
  cb := .replicate 16 0

def ofBytes (bytes : List UInt8) (h : size ≤ bytes.length) : Cbw where
  signature := getLe32 bytes
  tag := getLe32 (bytes.drop 4)
  dataTransferLength := getLe32 (bytes.drop 8)
  flags := bytes.getD 12 0
  lun := bytes.getD 13 0
  cbLength := bytes.getD 14 0
  cb := ⟨(bytes.drop 15).take 16, by
    rw [List.length_take, List.length_drop]
    unfold size at h
    omega⟩

/-- The wrapper of a command block, whose unused bytes are zero. -/
def ofCommand (tag dataTransferLength : UInt32) (dataIn : Bool) (cdb : List UInt8) : Cbw where
  signature := signatureValue
  tag := tag
  dataTransferLength := dataTransferLength
  flags := if dataIn then 0x80 else 0
  lun := 0
  cbLength := .ofNat cdb.length
  cb := ⟨cdb.takeD 16 0, List.takeD_length 16 cdb 0⟩

/-- The bytes that a host sends for a wrapper. -/
def toBytes (cbw : Cbw) : List UInt8 :=
  putLe32 cbw.signature ++ putLe32 cbw.tag ++ putLe32 cbw.dataTransferLength ++
    [cbw.flags, cbw.lun, cbw.cbLength] ++ cbw.cb.toList

@[simp] theorem length_toBytes (cbw : Cbw) : cbw.toBytes.length = size := by
  simp [toBytes, size]

/-- The device reads the wrapper that the host has written. -/
theorem ofBytes_toBytes (cbw : Cbw) : ofBytes cbw.toBytes (length_toBytes cbw).ge = cbw := by
  have hcb : cbw.cb.toList.length = 16 := cbw.cb.toList_length
  have hdrop (n : Nat) (p q : List UInt8) (hp : p.length = n) : (p ++ q).drop n = q := by
    rw [← hp, List.drop_left]
  have hsignature : cbw.toBytes = putLe32 cbw.signature ++ (putLe32 cbw.tag ++
      (putLe32 cbw.dataTransferLength ++
        ([cbw.flags, cbw.lun, cbw.cbLength] ++ cbw.cb.toList))) := by
    simp only [toBytes, List.append_assoc]
  have htag : cbw.toBytes.drop 4 = putLe32 cbw.tag ++ (putLe32 cbw.dataTransferLength ++
      ([cbw.flags, cbw.lun, cbw.cbLength] ++ cbw.cb.toList)) := by
    rw [hsignature, hdrop 4 _ _ (length_putLe32 _)]
  have hlength : cbw.toBytes.drop 8 = putLe32 cbw.dataTransferLength ++
      ([cbw.flags, cbw.lun, cbw.cbLength] ++ cbw.cb.toList) := by
    rw [← List.drop_drop (i := 4) (j := 4), htag, hdrop 4 _ _ (length_putLe32 _)]
  have hflags : cbw.toBytes.drop 12 = [cbw.flags, cbw.lun, cbw.cbLength] ++ cbw.cb.toList := by
    rw [← List.drop_drop (i := 4) (j := 8), hlength, hdrop 4 _ _ (length_putLe32 _)]
  have hbyte (i : Nat) : cbw.toBytes.getD (12 + i) 0 =
      ([cbw.flags, cbw.lun, cbw.cbLength] ++ cbw.cb.toList).getD i 0 := by
    rw [← hflags]
    simp [List.getD_eq_getElem?_getD]
  have hblock : (cbw.toBytes.drop 15).take 16 = cbw.cb.toList := by
    rw [← List.drop_drop (i := 3) (j := 12), hflags, hdrop 3 _ _ rfl, List.take_of_length_le hcb.le]
  refine Cbw.ext ?_ ?_ ?_ (hbyte 0) (hbyte 1) (hbyte 2) (Subtype.ext hblock)
  · exact (congrArg getLe32 hsignature).trans (getLe32_putLe32 _ _)
  · exact (congrArg getLe32 htag).trans (getLe32_putLe32 _ _)
  · exact (congrArg getLe32 hlength).trans (getLe32_putLe32 _ _)

/-- The command block from one of its bytes on. -/
def cdb (cbw : Cbw) (i : Nat) : List UInt8 := cbw.cb.toList.drop i

def cdbByte (cbw : Cbw) (i : Nat) : UInt8 := cbw.cb.toList.getD i 0

def isDataIn (cbw : Cbw) : Bool := cbw.flags &&& 0x80 != 0

end Cbw

inductive ScsiCmd where
  | testUnitReady
  | requestSense
  | inquiry
  | modeSense6
  | startStopUnit
  | preventAllowMediumRemoval
  | readFormatCapacities
  | readCapacity10
  | readCapacity16
  | read10
  | write10
  | verify10
  | synchronizeCache
  | writeSame10
  | unmap
  | modeSense10
  | ataPassThrough
  | writeSame16
  deriving DecidableEq, Repr

namespace ScsiCmd

def opcode : ScsiCmd → UInt8
  | testUnitReady => 0x00
  | requestSense => 0x03
  | inquiry => 0x12
  | modeSense6 => 0x1A
  | startStopUnit => 0x1B
  | preventAllowMediumRemoval => 0x1E
  | readFormatCapacities => 0x23
  | readCapacity10 => 0x25
  | readCapacity16 => 0x9E
  | read10 => 0x28
  | write10 => 0x2A
  | verify10 => 0x2F
  | synchronizeCache => 0x35
  | writeSame10 => 0x41
  | unmap => 0x42
  | modeSense10 => 0x5A
  | ataPassThrough => 0x85
  | writeSame16 => 0x93

def all : List ScsiCmd :=
  [testUnitReady, requestSense, inquiry, modeSense6, startStopUnit, preventAllowMediumRemoval,
    readFormatCapacities, readCapacity10, readCapacity16, read10, write10, verify10,
    synchronizeCache, writeSame10, unmap, modeSense10, ataPassThrough, writeSame16]

/-- The command that a byte stands for, where the device knows it. -/
def ofOpcode (byte : UInt8) : Option ScsiCmd := all.find? fun cmd => cmd.opcode == byte

@[simp] theorem ofOpcode_opcode (cmd : ScsiCmd) : ofOpcode cmd.opcode = some cmd := by
  cases cmd <;> rfl

end ScsiCmd

/-- What the device says of itself in the data of INQUIRY. -/
structure MscConfig where
  vendor : List UInt8
  product : List UInt8
  revision : List UInt8
  serial : List UInt8
  deriving DecidableEq, Repr

/-- A string in a field of its own size, cut off or filled up with blanks. -/
def pad (s : List UInt8) (n : Nat) : List UInt8 := s.takeD n 0x20

@[simp] theorem length_pad (s : List UInt8) (n : Nat) : (pad s n).length = n :=
  List.takeD_length n s 0x20

def senseData : List UInt8 := [0x70, 0, 0, 0, 0, 0, 0, 10, 0, 0, 0, 0, 0, 0, 0, 0, 0, 0]

def inquiryData (config : MscConfig) : List UInt8 :=
  [0x00, 0x80, 0x07, 0x12, 31, 0, 0, 0x02] ++ pad config.vendor 8 ++ pad config.product 16 ++
    pad config.revision 4

def vpdSupportedPages : List UInt8 := [0x00, 0x00, 5, 0x00, 0x80, 0xB0, 0xB1, 0xB2]

/-- The part of the serial number that fits into its page. -/
def serialLength (config : MscConfig) : Nat := min config.serial.length 32

/-- The page that holds the serial number, which is filled up with zeros. -/
def vpdUnitSerialNumber (config : MscConfig) : List UInt8 :=
  [0x00, 0x80, .ofNat (serialLength config)] ++ config.serial.takeD 32 0

def vpdBlockDeviceCharacteristics : List UInt8 :=
  [0x00, 0xB0] ++ putBe16 60 ++ List.replicate 60 0

def vpdBlockLimits : List UInt8 :=
  [0x00, 0xB1] ++ putBe16 0x3C ++ List.replicate 20 0 ++ putBe32 65536 ++ putBe32 64 ++
    putBe32 8 ++ putBe32 0x80000008 ++ putBe32 65535 ++ List.replicate 20 0

def vpdLogicalBlockProvisioning : List UInt8 :=
  [0x00, 0xB2] ++ putBe16 0x0004 ++ [0, 0x80, 0x02, 0]

/-- The bit that says that the medium is write-protected. -/
def writeProtect (readOnly : Bool) : UInt8 := if readOnly then 0x80 else 0

def modeSense6Data (readOnly : Bool) : List UInt8 := [3, 0, writeProtect readOnly, 0]

def modeSense10Data (readOnly : Bool) : List UInt8 :=
  putBe16 6 ++ [0, writeProtect readOnly, 0, 0, 0, 0]

def readFormatCapacitiesData (blocks : UInt64) (blockSize : UInt32) : List UInt8 :=
  [0, 0] ++ putBe16 8 ++ putBe32 blocks.toUInt32 ++ [0x02] ++ putBe24 blockSize

def readCapacity10Data (lastLba : UInt64) (blockSize : UInt32) : List UInt8 :=
  putBe32 lastLba.toUInt32 ++ putBe32 blockSize

def readCapacity16Data (lastLba : UInt64) (blockSize : UInt32) : List UInt8 :=
  putBe64 lastLba ++ putBe32 blockSize ++ [0, 0, 0, 0]

/-- One of the ranges that the data of UNMAP lists. -/
structure UnmapBlockDescriptor where
  lba : UInt64
  blockCount : UInt32
  deriving DecidableEq, Repr

/-- The descriptors behind the header of UNMAP's data, as many as are there in full. -/
def unmapBlockDescriptors (data : List UInt8) : List UnmapBlockDescriptor :=
  (List.range ((data.length - 8) / 16)).map fun k =>
    let desc := data.drop (8 + 16 * k)
    ⟨getBe64 desc, getBe32 (desc.drop 8)⟩

theorem unmapBlockDescriptors_eq_nil_iff {data : List UInt8} :
    unmapBlockDescriptors data = [] ↔ data.length < 24 := by
  simp only [unmapBlockDescriptors, List.map_eq_nil_iff, List.range_eq_nil]
  omega

section Sizes

variable {config : MscConfig} {readOnly : Bool} {blocks : UInt64} {blockSize : UInt32}

@[simp] theorem length_inquiryData : (inquiryData config).length = 36 := by
  simp [inquiryData]

@[simp] theorem length_vpdUnitSerialNumber : (vpdUnitSerialNumber config).length = 35 := by
  simp only [vpdUnitSerialNumber, List.length_append, List.takeD_length, List.length_cons,
    List.length_nil]

@[simp] theorem length_vpdBlockDeviceCharacteristics :
    vpdBlockDeviceCharacteristics.length = 64 := by
  simp only [vpdBlockDeviceCharacteristics, List.length_append, length_putBe16,
    List.length_replicate, List.length_cons, List.length_nil]

@[simp] theorem length_vpdBlockLimits : vpdBlockLimits.length = 64 := by
  simp only [vpdBlockLimits, List.length_append, length_putBe16, length_putBe32,
    List.length_replicate, List.length_cons, List.length_nil]

@[simp] theorem length_vpdLogicalBlockProvisioning : vpdLogicalBlockProvisioning.length = 8 := by
  simp only [vpdLogicalBlockProvisioning, List.length_append, length_putBe16, List.length_cons,
    List.length_nil]

@[simp] theorem length_modeSense6Data : (modeSense6Data readOnly).length = 4 := rfl

@[simp] theorem length_modeSense10Data : (modeSense10Data readOnly).length = 8 := by
  simp [modeSense10Data]

@[simp] theorem length_readFormatCapacitiesData :
    (readFormatCapacitiesData blocks blockSize).length = 12 := by
  simp [readFormatCapacitiesData]

@[simp] theorem length_readCapacity10Data :
    (readCapacity10Data blocks blockSize).length = 8 := by
  simp [readCapacity10Data]

@[simp] theorem length_readCapacity16Data :
    (readCapacity16Data blocks blockSize).length = 16 := by
  simp [readCapacity16Data]

end Sizes

end Usbipdcpp.MassStorage
