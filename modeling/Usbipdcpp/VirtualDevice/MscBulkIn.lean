import Usbipdcpp.Protocol.ReplyFraming

namespace Usbipdcpp.VirtualDevice

open Protocol

/-- A mass storage handler with the members that its replies are made from. -/
structure MscBulkInHandler extends MscBulkOnlyHandler where
  readMmapBase : Option (List UInt8)
  readTotalSize : Nat
  readLba : Nat
  stagingData : List UInt8
  stagingOffset : Nat
  cbwTag : UInt32
  cbwDataTransferLength : UInt32
  commandFailed : Bool
  dataResidue : UInt32

/-- The command status wrapper, least significant byte first. -/
structure Csw where
  tag : UInt32
  dataResidue : UInt32
  status : UInt8
  deriving DecidableEq, Repr

namespace Csw

def signature : UInt32 := 0x53425355

def size : Nat := 13

def toBytes (csw : Csw) : List UInt8 :=
  (u32ToBytes signature).reverse ++ (u32ToBytes csw.tag).reverse ++
    (u32ToBytes csw.dataResidue).reverse ++ u8ToBytes csw.status

@[simp] theorem length_toBytes (csw : Csw) : csw.toBytes.length = size := by
  simp [toBytes, size]

end Csw

namespace MscBulkInHandler

variable {Handler : Type}

/-- The size of the data that a command is answered with. -/
def total (handler : MscBulkInHandler) : Nat :=
  match handler.readMmapBase with
  | some _ => handler.readTotalSize
  | none => handler.stagingData.length

/-- The transfer that is to send the next part of the data: past the process's memory where the
medium is mapped. -/
def prepareIn (handler : MscBulkInHandler) (trx : StorageIoTransfer) (length : Nat) :
    StorageIoTransfer :=
  match handler.readMmapBase with
  | some base =>
      { trx with
        directIo := true
        externalBuf := some ⟨.mapped, base.drop handler.stagingOffset⟩
        fileLba := handler.readLba
        fileOffset := handler.stagingOffset
        actualLength := length }
  | none =>
      { trx with
        externalBuf := some ⟨.staging, handler.stagingData.drop handler.stagingOffset⟩
        actualLength := length }

/-- The state behind a data stage, which ends where all the data has been handed out. -/
def finishDataIn (handler : MscBulkInHandler) : MscBulkInHandler :=
  if handler.stagingOffset ≥ handler.total then
    { handler with stagingOffset := 0, dataResidue := 0, state := .status }
  else handler

def csw (handler : MscBulkInHandler) : Csw :=
  if handler.commandFailed then ⟨handler.cbwTag, handler.cbwDataTransferLength, 1⟩
  else ⟨handler.cbwTag, handler.dataResidue, 0⟩

/-- The length of the next part: as much as the host has room for. -/
def inLength (handler : MscBulkInHandler) (transferBufferLength : UInt32) : Nat :=
  min transferBufferLength.toNat (handler.total - handler.stagingOffset)

def handleBulkTransfer (owner : Handler) (epIsIn : Bool) (seqnum transferBufferLength : UInt32)
    (trx : StorageIoTransfer) (handler : MscBulkInHandler) :
    MscBulkInHandler × UsbIpRetSubmit Handler :=
  if epIsIn then
    match handler.state with
    | .dataIn =>
        let length := handler.inLength transferBufferLength
        if length > 0 then
          (finishDataIn { handler with stagingOffset := handler.stagingOffset + length },
            .createRetSubmitWithStatusAndNoIso seqnum UrbStatusType.statusOK (.ofNat length)
              (.storage owner (handler.prepareIn trx length)))
        else
          (handler.finishDataIn,
            .createRetSubmitWithStatusAndNoData seqnum UrbStatusType.statusOK 0)
    | .status =>
        let cswBytes := handler.csw.toBytes
        ({ handler with commandFailed := false, state := .idle },
          .createRetSubmitWithStatusAndNoIso seqnum UrbStatusType.statusOK
            (.ofNat Csw.size)
            (.storage owner
              { trx with
                fallbackData := cswBytes
                externalBuf := some ⟨.fallback, cswBytes⟩
                actualLength := Csw.size }))
    | _ => (handler, .createRetSubmitEpipeWithoutData seqnum 0)
  else
    (handler,
      .createRetSubmitWithStatusAndNoData seqnum UrbStatusType.statusOK transferBufferLength)

section Reply

variable {owner : Handler} {epIsIn : Bool} {seqnum transferBufferLength : UInt32}
  {trx : StorageIoTransfer} {handler : MscBulkInHandler}

/-- Data that is sent straight from the medium goes out as a whole. -/
def SendsMappedWhole (sendHandler : MscBulkOnlyHandler) (epIsIn : Bool)
    (transferBufferLength : UInt32) (trx : StorageIoTransfer) (handler : MscBulkInHandler) : Prop :=
  let length := handler.inLength transferBufferLength
  epIsIn = true → handler.state = .dataIn → handler.readMmapBase ≠ none → length ≠ 0 →
    StorageTransferOperator.SendsWhole sendHandler (handler.prepareIn trx length)
      (if trx.isIn then length else 0)

theorem inLength_lt : handler.inLength transferBufferLength < 2 ^ 32 :=
  Nat.lt_of_le_of_lt (Nat.min_le_left _ _) transferBufferLength.toNat_lt

@[simp] theorem prepareIn_isIn (length : Nat) : (handler.prepareIn trx length).isIn = trx.isIn := by
  unfold prepareIn
  split <;> rfl

theorem prepareIn_directIo_of_staging (h : handler.readMmapBase = none) (length : Nat) :
    (handler.prepareIn trx length).directIo = trx.directIo := by
  unfold prepareIn
  rw [h]

/-- A reply is framed just where data sent straight from the medium goes out as a whole. -/
theorem framed_handleBulkTransfer_iff {storageHandler : Handler → MscBulkOnlyHandler}
    (hdirectIo : epIsIn = true → trx.directIo = false) :
    (handler.handleBulkTransfer owner epIsIn seqnum transferBufferLength
        trx).2.Framed storageHandler ↔
      handler.SendsMappedWhole (storageHandler owner) epIsIn transferBufferLength trx := by
  unfold handleBulkTransfer SendsMappedWhole
  extract_lets length
  split
  next hin =>
    split
    next hstate =>
      split
      next hpos =>
        have hlength : (UInt32.ofNat length).toNat = length :=
          UInt32.toNat_ofNat_of_lt' inLength_lt
        have hne : UInt32.ofNat length ≠ 0 := by
          intro hzero
          rw [hzero, UInt32.toNat_zero] at hlength
          omega
        rw [UsbIpRetSubmit.framed_no_iso_storage_iff hne, prepareIn_isIn, hlength]
        constructor
        · exact fun hsends _ _ _ _ => hsends
        · intro hsends
          rcases hbase : handler.readMmapBase with _ | base
          · refine StorageTransferOperator.sendsWhole_of_not_directIo _ ?_ _
            exact (prepareIn_directIo_of_staging hbase _).trans (hdirectIo hin)
          · exact hsends hin hstate (by simp [hbase]) (by omega)
      next hnone =>
        apply iff_of_true (UsbIpRetSubmit.framed_of_no_transfer rfl rfl)
        exact fun _ _ _ hlength => absurd (Nat.pos_of_ne_zero hlength) hnone
    next hstate =>
      have hne : UInt32.ofNat Csw.size ≠ 0 := by decide
      rw [UsbIpRetSubmit.framed_no_iso_storage_iff hne]
      refine iff_of_true ?_ fun _ hdata => ?_
      · exact StorageTransferOperator.sendsWhole_of_not_directIo _ (hdirectIo hin) _
      · rw [hstate] at hdata
        cases hdata
    next hstate _ =>
      apply iff_of_true (UsbIpRetSubmit.framed_of_no_transfer rfl rfl)
      exact fun _ hdata => absurd hdata hstate
  next hout =>
    apply iff_of_true (UsbIpRetSubmit.framed_of_no_transfer rfl rfl)
    exact fun hin => absurd hin hout

end Reply

end MscBulkInHandler

end Usbipdcpp.VirtualDevice
