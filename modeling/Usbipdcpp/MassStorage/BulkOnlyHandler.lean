import Usbipdcpp.Foundation.TransitionSystem
import Usbipdcpp.MassStorage.ScsiData

namespace Usbipdcpp.MassStorage

open Foundation.TransitionSystem
open Protocol (BotState)
open VirtualDevice (Csw)

/-- A use of the medium: a call of the backend, or bytes behind a pointer that
`get_direct_buffer` has returned for a block, counted from there. -/
inductive MediumAccess where
  | read (lba : UInt64) (count : UInt16)
  | write (lba : UInt64) (count : UInt16)
  | punchHole (lba count : UInt64)
  | directSource (lba : UInt64) (offset length : Nat)
  | directDestination (lba : UInt64) (offset length : Nat)
  deriving DecidableEq, Repr

/-- A block device over its medium, with the memory that a direct buffer gives access to.  The
zero-copy calls move the same bytes. -/
structure StorageBackend (Medium : Type) where
  blockCount : UInt64
  blockSize : UInt32
  read : Medium → (lba : UInt64) → (count : UInt16) → List UInt8
  write : Medium → (lba : UInt64) → (count : UInt16) → List UInt8 → Medium
  punchHole : Medium → (lba count : UInt64) → Medium
  getDirectBuffer : Medium → (lba : UInt64) → Bool
  load : Medium → (lba : UInt64) → (offset length : Nat) → List UInt8
  store : Medium → (lba : UInt64) → (offset : Nat) → List UInt8 → Medium

/-- The backend whose blocks lie one after the other in memory, all of which is mapped. -/
def memoryBackend (blocks : UInt64) (blockSize : UInt32) : StorageBackend (List UInt8) where
  blockCount := blocks
  blockSize := blockSize
  read medium lba count :=
    Protocol.bytesAt medium (lba.toNat * blockSize.toNat) (count.toNat * blockSize.toNat)
  write medium lba count data :=
    Protocol.storeAt medium (lba.toNat * blockSize.toNat)
      (data.take (count.toNat * blockSize.toNat))
  punchHole medium lba count :=
    Protocol.storeAt medium (lba.toNat * blockSize.toNat)
      (List.replicate (count.toNat * blockSize.toNat) 0)
  getDirectBuffer _ _ := true
  load medium lba offset length :=
    Protocol.bytesAt medium (lba.toNat * blockSize.toNat + offset) length
  store medium lba offset bytes :=
    Protocol.storeAt medium (lba.toNat * blockSize.toNat + offset) bytes

/-- The members of a mass storage handler, its medium and what it has done with it.  A pointer
into mapped memory is the block that it has been asked for. -/
structure MscBulkOnlyHandler (Medium : Type) where
  backend : Option (StorageBackend Medium)
  readOnly : Bool
  config : MscConfig
  state : BotState
  currentCbw : Cbw
  stagingData : List UInt8
  stagingOffset : Nat
  dataResidue : UInt32
  commandFailed : Bool
  writeLba : UInt64
  writeCount : UInt16
  dataOutUnmap : Bool
  writeSameLba : UInt64
  writeSameCount : UInt64
  dataOutWriteSame : Bool
  readLba : UInt64
  readMmapBase : Option UInt64
  readTotalSize : Nat
  writeMmapBase : Option UInt64
  writeAccumulated : Nat
  medium : Medium
  accesses : List MediumAccess

/-- What a reply's data is taken from when it is sent. -/
inductive ReplySource where
  | none
  | staging (offset length : Nat)
  | mapped (lba : UInt64) (offset length : Nat)
  | fallback (csw : Csw)
  deriving DecidableEq

/-- A `RET_SUBMIT` of the bulk endpoints. -/
structure BulkReply where
  status : UInt32
  actualLength : UInt32
  source : ReplySource
  deriving DecidableEq

/-- A `CMD_SUBMIT` for the bulk endpoints.  A direction that is neither 0 nor 1 is read as OUT and
answered as IN, if the device has an IN endpoint of the same number. -/
inductive HostTransfer where
  | out (bytes : List UInt8)
  | in_ (length : UInt32)
  | undirected (bytes : List UInt8) (epFound : Bool)
  deriving DecidableEq

namespace MscBulkOnlyHandler

variable {Medium : Type}

def create (backend : Option (StorageBackend Medium)) (readOnly : Bool) (config : MscConfig)
    (medium : Medium) : MscBulkOnlyHandler Medium where
  backend := backend
  readOnly := readOnly
  config := config
  state := .idle
  currentCbw := .empty
  stagingData := []
  stagingOffset := 0
  dataResidue := 0
  commandFailed := false
  writeLba := 0
  writeCount := 0
  dataOutUnmap := false
  writeSameLba := 0
  writeSameCount := 0
  dataOutWriteSame := false
  readLba := 0
  readMmapBase := none
  readTotalSize := 0
  writeMmapBase := none
  writeAccumulated := 0
  medium := medium
  accesses := []

/-- What `on_new_connection` and `on_disconnection` both do. -/
def resetState (s : MscBulkOnlyHandler Medium) : MscBulkOnlyHandler Medium :=
  { s with
    state := .idle
    currentCbw := .empty
    stagingData := []
    stagingOffset := 0
    dataResidue := 0
    commandFailed := false
    dataOutUnmap := false
    dataOutWriteSame := false
    readMmapBase := none
    readTotalSize := 0
    writeMmapBase := none
    writeAccumulated := 0 }

def onNewConnection (s : MscBulkOnlyHandler Medium) : MscBulkOnlyHandler Medium := s.resetState

def onDisconnection (s : MscBulkOnlyHandler Medium) : MscBulkOnlyHandler Medium := s.resetState

/-- The size of the medium in blocks, none where there is no backend. -/
def blockCount (s : MscBulkOnlyHandler Medium) : UInt64 :=
  match s.backend with
  | some backend => backend.blockCount
  | none => 0

def command (s : MscBulkOnlyHandler Medium) : Option ScsiCmd :=
  ScsiCmd.ofOpcode (s.currentCbw.cdbByte 0)

def fail (s : MscBulkOnlyHandler Medium) : MscBulkOnlyHandler Medium :=
  { s with commandFailed := true, state := .status }

def pass (s : MscBulkOnlyHandler Medium) : MscBulkOnlyHandler Medium :=
  { s with state := .status }

/-- A command is answered with data from memory, no more than the host has room for. -/
def answer (data : List UInt8) (s : MscBulkOnlyHandler Medium) : MscBulkOnlyHandler Medium :=
  { s with
    stagingOffset := 0
    stagingData := data.take s.currentCbw.dataTransferLength.toNat
    state := .dataIn }

def punchHole (backend : StorageBackend Medium) (lba count : UInt64)
    (s : MscBulkOnlyHandler Medium) : MscBulkOnlyHandler Medium :=
  { s with
    medium := backend.punchHole s.medium lba count
    accesses := s.accesses ++ [.punchHole lba count] }

def writeBlocks (backend : StorageBackend Medium) (lba : UInt64) (count : UInt16)
    (data : List UInt8) (s : MscBulkOnlyHandler Medium) : MscBulkOnlyHandler Medium :=
  { s with
    medium := backend.write s.medium lba count data
    accesses := s.accesses ++ [.write lba count] }

def testUnitReady (s : MscBulkOnlyHandler Medium) : MscBulkOnlyHandler Medium :=
  { s with commandFailed := s.backend.isNone, state := .status }

/-- The page of the serial number is read past its end where the number fills it and the host asks
for all of it. -/
def inquiryResponse (config : MscConfig) (cbw : Cbw) : Option (List UInt8) :=
  if cbw.cdbByte 1 &&& 0x01 = 0 then some (inquiryData config)
  else
    match cbw.cdbByte 2 with
    | 0x00 => some vpdSupportedPages
    | 0x80 =>
        let page := vpdUnitSerialNumber config
        let length := 4 + serialLength config
        if min cbw.dataTransferLength.toNat length ≤ page.length then some (page.take length)
        else none
    | 0xB0 => some vpdBlockDeviceCharacteristics
    | 0xB1 => some vpdBlockLimits
    | 0xB2 => some vpdLogicalBlockProvisioning
    | _ => some []

def inquiry (s : MscBulkOnlyHandler Medium) : Option (MscBulkOnlyHandler Medium) :=
  (inquiryResponse s.config s.currentCbw).map fun data => s.answer data

def readFormatCapacities (s : MscBulkOnlyHandler Medium) : MscBulkOnlyHandler Medium :=
  let blockSize :=
    match s.backend with
    | some backend => backend.blockSize
    | none => 512
  s.answer (readFormatCapacitiesData s.blockCount blockSize)

/-- The low twelve bytes are enough. -/
def readCapacity16 (s : MscBulkOnlyHandler Medium) : Option (MscBulkOnlyHandler Medium) :=
  s.backend.map fun backend =>
    s.answer ((readCapacity16Data (backend.blockCount - 1) backend.blockSize).take 12)

def readCapacity10 (s : MscBulkOnlyHandler Medium) : Option (MscBulkOnlyHandler Medium) :=
  s.backend.map fun backend =>
    s.answer (readCapacity10Data (backend.blockCount - 1) backend.blockSize)

/-- Blocks are sent from mapped memory where there is some, else by way of `staging_data_`. -/
def read10 (backend : StorageBackend Medium) (lba : UInt32) (count : UInt16)
    (s : MscBulkOnlyHandler Medium) : MscBulkOnlyHandler Medium :=
  let total := count.toNat * backend.blockSize.toNat
  if backend.getDirectBuffer s.medium lba.toUInt64 then
    { s with
      stagingOffset := 0
      readLba := lba.toUInt64
      readMmapBase := some lba.toUInt64
      readTotalSize := total
      stagingData := []
      state := .dataIn }
  else
    { s with
      stagingOffset := 0
      readLba := lba.toUInt64
      readMmapBase := none
      readTotalSize := total
      stagingData := (backend.read s.medium lba.toUInt64 count).takeD total 0
      accesses := s.accesses ++ [.read lba.toUInt64 count]
      state := .dataIn }

def write10 (backend : StorageBackend Medium) (lba : UInt32) (count : UInt16)
    (s : MscBulkOnlyHandler Medium) : MscBulkOnlyHandler Medium :=
  { s with
    writeLba := lba.toUInt64
    writeCount := count
    writeAccumulated := 0
    writeMmapBase :=
      if backend.getDirectBuffer s.medium lba.toUInt64 then some lba.toUInt64 else none
    stagingData :=
      if backend.getDirectBuffer s.medium lba.toUInt64 then s.stagingData else []
    state := .dataOut }

/-- The range of READ (10) and WRITE (10), in which no blocks mean 256. -/
def lba10 (cbw : Cbw) : UInt32 := getBe32 (cbw.cdb 2)

def count10 (cbw : Cbw) : UInt16 :=
  if getBe16 (cbw.cdb 7) = 0 then 256 else getBe16 (cbw.cdb 7)

/-- The end of the range is computed in 32 bits. -/
def readWrite10 (cmd : ScsiCmd) (s : MscBulkOnlyHandler Medium) :
    Option (MscBulkOnlyHandler Medium) :=
  let lba := lba10 s.currentCbw
  let count := count10 s.currentCbw
  if s.blockCount < (lba + count.toUInt32).toUInt64 then some s.fail
  else if cmd = .read10 then s.backend.map fun backend => s.read10 backend lba count
  else if s.readOnly then some s.fail
  else s.backend.map fun backend => s.write10 backend lba count

def writeSameBegin (backend : StorageBackend Medium) (lba count : UInt64)
    (s : MscBulkOnlyHandler Medium) : MscBulkOnlyHandler Medium :=
  let transferLength := s.currentCbw.dataTransferLength
  { s with
    writeSameLba := lba
    writeSameCount := count
    dataOutWriteSame := true
    stagingOffset := 0
    stagingData := []
    dataResidue :=
      if backend.blockSize < transferLength then transferLength - backend.blockSize else 0
    state := .dataOut }

/-- The range of WRITE SAME as the command block gives it. -/
def writeSameLbaOf (cmd : ScsiCmd) (cbw : Cbw) : UInt64 :=
  if cmd = .writeSame10 then (getBe32 (cbw.cdb 2)).toUInt64 else getBe64 (cbw.cdb 2)

def writeSameCountOf (cmd : ScsiCmd) (cbw : Cbw) : UInt64 :=
  if cmd = .writeSame10 then (getBe16 (cbw.cdb 7)).toUInt64
  else (getBe32 (cbw.cdb 10)).toUInt64

/-- No blocks mean all up to the end of the medium. -/
def writeSame (cmd : ScsiCmd) (s : MscBulkOnlyHandler Medium) :
    Option (MscBulkOnlyHandler Medium) :=
  let lba := writeSameLbaOf cmd s.currentCbw
  if s.blockCount ≤ lba then some s.fail
  else
    let count :=
      if writeSameCountOf cmd s.currentCbw = 0 then s.blockCount - lba
      else writeSameCountOf cmd s.currentCbw
    if s.readOnly = true ∨ s.blockCount - lba < count then some s.fail
    else
      s.backend.map fun backend =>
        if s.currentCbw.cdbByte 1 &&& 0x08 ≠ 0 then (s.punchHole backend lba count).pass
        else s.writeSameBegin backend lba count

/-- The length of the list is taken from the wrapper, and kept in 16 bits. -/
def unmapBegin (s : MscBulkOnlyHandler Medium) : MscBulkOnlyHandler Medium :=
  { s with
    writeCount := s.currentCbw.dataTransferLength.toUInt16
    dataOutUnmap := true
    stagingOffset := 0
    stagingData := []
    state := .dataOut }

def unmap (s : MscBulkOnlyHandler Medium) : MscBulkOnlyHandler Medium :=
  if s.readOnly then s.fail
  else if s.currentCbw.dataTransferLength = 0 then s.pass
  else s.unmapBegin

/-- The command of a valid wrapper; `none` where the handler uses a backend that it has not got. -/
def execute (s : MscBulkOnlyHandler Medium) : Option (MscBulkOnlyHandler Medium) :=
  match s.command with
  | some .testUnitReady => some s.testUnitReady
  | some .requestSense => some (s.answer senseData)
  | some .inquiry => s.inquiry
  | some .modeSense6 => some (s.answer (modeSense6Data s.readOnly))
  | some .preventAllowMediumRemoval => some s.pass
  | some .readFormatCapacities => some s.readFormatCapacities
  | some .readCapacity16 => s.readCapacity16
  | some .readCapacity10 => s.readCapacity10
  | some .read10 => s.readWrite10 .read10
  | some .write10 => s.readWrite10 .write10
  | some .startStopUnit => some s.pass
  | some .verify10 => some s.pass
  | some .synchronizeCache => some s.pass
  | some .modeSense10 => some (s.answer (modeSense10Data s.readOnly))
  | some .writeSame10 => s.writeSame .writeSame10
  | some .writeSame16 => s.writeSame .writeSame16
  | some .ataPassThrough => some s.fail
  | some .unmap => some s.unmap
  | none => some s.fail

/-- What the last command has left behind goes before a wrapper is looked at. -/
def clearLast (s : MscBulkOnlyHandler Medium) : MscBulkOnlyHandler Medium :=
  { s with
    stagingData := []
    readMmapBase := none
    readTotalSize := 0
    writeMmapBase := none
    writeAccumulated := 0 }

def loadCbw (cbw : Cbw) (s : MscBulkOnlyHandler Medium) : MscBulkOnlyHandler Medium :=
  { s.clearLast with currentCbw := cbw }

/-- A wrapper that is too short is not looked at, one with a wrong signature is. -/
def onCommand (fallbackData : List UInt8) (s : MscBulkOnlyHandler Medium) :
    Option (MscBulkOnlyHandler Medium) :=
  if h : Cbw.size ≤ fallbackData.length then
    let cbw := Cbw.ofBytes fallbackData h
    if cbw.signature = Cbw.signatureValue then (s.loadCbw cbw).execute
    else some (s.loadCbw cbw).fail
  else some s.clearLast.fail

def punchDescriptor (s : MscBulkOnlyHandler Medium) (desc : UnmapBlockDescriptor) :
    Option (MscBulkOnlyHandler Medium) :=
  s.backend.map fun backend => s.punchHole backend desc.lba desc.blockCount.toUInt64

def onUnmapData (s : MscBulkOnlyHandler Medium) : Option (MscBulkOnlyHandler Medium) :=
  if s.writeCount.toNat ≤ s.stagingData.length then
    ((unmapBlockDescriptors s.stagingData).foldlM punchDescriptor s).map fun t =>
      { t with
        stagingData := []
        dataOutUnmap := false
        dataResidue := 0
        state := .status }
  else some s

/-- One block at a time, since the data is of one block only. -/
def fillBlocks (backend : StorageBackend Medium) (data : List UInt8) :
    (count : Nat) → (lba : UInt64) → MscBulkOnlyHandler Medium → MscBulkOnlyHandler Medium
  | 0, _, s => s
  | count + 1, lba, s => fillBlocks backend data count (lba + 1) (s.writeBlocks backend lba 1 data)

def onWriteSameData (s : MscBulkOnlyHandler Medium) : Option (MscBulkOnlyHandler Medium) :=
  s.backend.map fun backend =>
    if backend.blockSize.toNat ≤ s.stagingData.length then
      { s.fillBlocks backend s.stagingData s.writeSameCount.toNat s.writeSameLba with
        stagingData := []
        dataOutWriteSame := false
        state := .status }
    else s

def onMappedData (length : Nat) (s : MscBulkOnlyHandler Medium) :
    Option (MscBulkOnlyHandler Medium) :=
  s.backend.map fun backend =>
    if s.writeCount.toNat * backend.blockSize.toNat ≤ s.writeAccumulated + length then
      { s with writeMmapBase := none, writeAccumulated := 0, dataResidue := 0, state := .status }
    else { s with writeAccumulated := s.writeAccumulated + length }

def onStagedData (s : MscBulkOnlyHandler Medium) : Option (MscBulkOnlyHandler Medium) :=
  s.backend.map fun backend =>
    if s.writeLba + s.writeCount.toUInt64 ≤ backend.blockCount ∧
        s.writeCount.toNat * backend.blockSize.toNat ≤ s.stagingData.length then
      { s.writeBlocks backend s.writeLba s.writeCount s.stagingData with
        stagingData := []
        dataResidue := 0
        state := .status }
    else s

def onData (length : Nat) (s : MscBulkOnlyHandler Medium) : Option (MscBulkOnlyHandler Medium) :=
  if s.dataOutUnmap then s.onUnmapData
  else if s.dataOutWriteSame then s.onWriteSameData
  else if s.writeMmapBase.isSome then s.onMappedData length
  else s.onStagedData

def onOutDataReceived (fallbackData : List UInt8) (length : Nat) (s : MscBulkOnlyHandler Medium) :
    Option (MscBulkOnlyHandler Medium) :=
  match s.state with
  | .idle => s.onCommand fallbackData
  | .dataOut => s.onData length
  | _ => some s

/-- An OUT transfer of `length` bytes, all of which are handed out as its destination. -/
def receiveMapped (base : UInt64) (length : Nat) (bytes : List UInt8)
    (s : MscBulkOnlyHandler Medium) : MscBulkOnlyHandler Medium :=
  { s with
    medium :=
      match s.backend with
      | some backend => backend.store s.medium base s.writeAccumulated bytes
      | none => s.medium
    accesses := s.accesses ++ [.directDestination base s.writeAccumulated length] }

def receiveStaged (length : Nat) (bytes : List UInt8) (s : MscBulkOnlyHandler Medium) :
    MscBulkOnlyHandler Medium :=
  { s with stagingData := s.stagingData ++ bytes.takeD length 0 }

/-- The bytes of an OUT transfer go where `prepare_out_buffer` has pointed: to the medium, to the
end of `staging_data_` or, without a pointer, to the transfer's own buffer. -/
def receiveOut (length : Nat) (bytes : List UInt8) (s : MscBulkOnlyHandler Medium) :
    MscBulkOnlyHandler Medium × List UInt8 :=
  match s.state, s.writeMmapBase with
  | .dataOut, some base => (s.receiveMapped base length bytes, [])
  | .dataOut, none => (s.receiveStaged length bytes, [])
  | _, _ => (s, bytes)

/-- The size of the data that a command is answered with. -/
def total (s : MscBulkOnlyHandler Medium) : Nat :=
  match s.readMmapBase with
  | some _ => s.readTotalSize
  | none => s.stagingData.length

def csw (s : MscBulkOnlyHandler Medium) : Csw :=
  if s.commandFailed then ⟨s.currentCbw.tag, s.currentCbw.dataTransferLength, 1⟩
  else ⟨s.currentCbw.tag, s.dataResidue, 0⟩

/-- The state behind a data stage, which ends where all the data has been handed out. -/
def finishDataIn (s : MscBulkOnlyHandler Medium) : MscBulkOnlyHandler Medium :=
  if s.total ≤ s.stagingOffset then
    { s with stagingOffset := 0, dataResidue := 0, state := .status }
  else s

/-- Where the next part of the data comes from. -/
def dataSource (length : Nat) (s : MscBulkOnlyHandler Medium) : ReplySource :=
  match s.readMmapBase with
  | some base => .mapped base s.stagingOffset length
  | none => .staging s.stagingOffset length

def handOut (length : Nat) (s : MscBulkOnlyHandler Medium) : MscBulkOnlyHandler Medium :=
  { s with
    stagingOffset := s.stagingOffset + length
    accesses :=
      match s.readMmapBase with
      | some base => s.accesses ++ [.directSource base s.stagingOffset length]
      | none => s.accesses }

/-- `handle_bulk_transfer` for an IN transfer. -/
def handleBulkIn (transferBufferLength : UInt32) (s : MscBulkOnlyHandler Medium) :
    MscBulkOnlyHandler Medium × BulkReply :=
  match s.state with
  | .dataIn =>
      let length := min transferBufferLength.toNat (s.total - s.stagingOffset)
      if length > 0 then
        ((s.handOut length).finishDataIn,
          ⟨Protocol.UrbStatusType.statusOK, .ofNat length, s.dataSource length⟩)
      else (s.finishDataIn, ⟨Protocol.UrbStatusType.statusOK, 0, .none⟩)
  | .status =>
      ({ s with commandFailed := false, state := .idle },
        ⟨Protocol.UrbStatusType.statusOK, .ofNat Csw.size, .fallback s.csw⟩)
  | _ => (s, ⟨Protocol.UrbStatusType.statusEPIPE, 0, .none⟩)

/-- An OUT transfer has been dealt with by the time that it is acknowledged. -/
def handleBulkOut (transferBufferLength : UInt32) : BulkReply :=
  ⟨Protocol.UrbStatusType.statusOK, transferBufferLength, .none⟩

/-- A transfer from its allocation to its reply.  The data stage of an IN transfer is empty, but
announced all the same. -/
def transfer (s : MscBulkOnlyHandler Medium) :
    HostTransfer → Option (MscBulkOnlyHandler Medium × Option BulkReply)
  | .out bytes =>
      let (t, fallbackData) := s.receiveOut bytes.length bytes
      (t.onOutDataReceived fallbackData bytes.length).map fun u =>
        (u, some (handleBulkOut (.ofNat bytes.length)))
  | .in_ length =>
      (s.onOutDataReceived [] 0).map fun t =>
        let (u, reply) := t.handleBulkIn length
        (u, some reply)
  | .undirected bytes epFound =>
      (s.onOutDataReceived bytes bytes.length).map fun t =>
        if epFound then
          let (u, reply) := t.handleBulkIn (.ofNat bytes.length)
          (u, some reply)
        else (t, none)

end MscBulkOnlyHandler

/-- The steps of a handler over any number of connections.  An OUT transfer that breaks off is
allocated and partly received, and ends the connection. -/
inductive MscAction where
  | onNewConnection
  | transfer (t : HostTransfer)
  | brokenOut (length : Nat) (received : List UInt8)
  | onDisconnection
  deriving DecidableEq

namespace MscBulkOnlyHandler

variable {Medium : Type}

def step (s : MscBulkOnlyHandler Medium) : MscAction → Option (MscBulkOnlyHandler Medium)
  | .onNewConnection => some s.onNewConnection
  | .transfer t => (s.transfer t).map Prod.fst
  | .brokenOut length received => some (s.receiveOut length received).1.onDisconnection
  | .onDisconnection => some s.onDisconnection

/-- The runs of a handler with a given backend, from its construction on. -/
def system (backend : Option (StorageBackend Medium)) (readOnly : Bool) (config : MscConfig)
    (medium : Medium) : System (MscBulkOnlyHandler Medium) MscAction where
  initial s := s = create backend readOnly config medium
  step := step

end MscBulkOnlyHandler

end Usbipdcpp.MassStorage
