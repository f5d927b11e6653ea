import Usbipdcpp.VirtualDevice.HidControl

namespace Usbipdcpp.VirtualDevice

open Protocol

/-- What a request has for the host: nothing; or so many bytes, sent whole, cut to the length
asked for or cut to the buffer of the transfer; or nothing although the length of the buffer is
reported. -/
inductive DataStage where
  | none
  | whole (length : UInt32)
  | cutToLength (length : Nat)
  | cutToBuffer (length : Nat)
  | announced
  deriving DecidableEq, Repr

namespace DataStage

/-- The bytes to send are no more than the host asks for and no more than its buffer holds. -/
def Fits (wLength bufferLength : Nat) : DataStage → Prop
  | .none => True
  | .whole length => length.toNat ≤ wLength ∧ length.toNat ≤ bufferLength
  | .cutToLength length => length ≤ bufferLength ∨ wLength ≤ bufferLength
  | .cutToBuffer length => length ≤ wLength ∨ bufferLength ≤ wLength
  | .announced => bufferLength = 0

/-- The number of bytes sent. -/
def sent (wLength bufferLength : Nat) : DataStage → Nat
  | .none | .announced => 0
  | .whole length => length.toNat
  | .cutToLength length => min length wLength
  | .cutToBuffer length => min length bufferLength

end DataStage

variable {Handler : Type}

/-- The bytes of a reply behind its header. -/
def dataBytes (storageHandler : Handler → MscBulkOnlyHandler) (ret : UsbIpRetSubmit Handler) :
    List UInt8 :=
  (ret.toSocket storageHandler).drop 48

namespace ControlUrb

variable {urb : ControlUrb Handler} {ret : UsbIpRetSubmit Handler} {stage : DataStage}

/-- A control request for data, with the transfer that is allocated for it; it has no packets. -/
structure IsControlIn (urb : ControlUrb Handler) : Prop where
  toHost : urb.setup.requestType &&& 0x80 ≠ 0
  allocated : ∃ header : UsbIpHeaderBasic, header.direction = UsbIpDirection.in_ ∧
    urb.trx = GenericTransferOperator.allocTransferHandle urb.transferBufferLength.toNat 0 header

/-- The reply reports what it sends, and keeps to the length asked for and to the buffer. -/
def KeepsLength (storageHandler : Handler → MscBulkOnlyHandler) (urb : ControlUrb Handler)
    (ret : UsbIpRetSubmit Handler) : Prop :=
  ret.actualLength.toNat ≤ min urb.setup.length.toNat urb.transferBufferLength.toNat ∧
    ret.actualLength.toNat = (dataBytes storageHandler ret).length

/-- A transfer to the host whose data are sent from their start. -/
structure Sendable (trx : GenericTransfer) : Prop where
  isoDescriptors : trx.isoDescriptors = []
  dataOffset : trx.dataOffset = 0
  isIn : trx.isIn = true

/-- The reply to a request with this data stage. -/
def HasStage (urb : ControlUrb Handler) (ret : UsbIpRetSubmit Handler) : DataStage → Prop
  | .none => ret.actualLength = 0 ∧ ret.numberOfPackets = 0
  | .announced => ret.actualLength = urb.transferBufferLength ∧ ret.transfer = none
  | stage => ∃ status trx, Sendable trx ∧
      trx.data.length =
        stage.sent urb.setup.length.toNat urb.transferBufferLength.toNat ∧
      ret = .createRetSubmitWithStatusAndNoIso urb.seqnum status (.ofNat trx.data.length)
        (.generic urb.owner trx)

theorem dataBytes_of_none (storageHandler : Handler → MscBulkOnlyHandler)
    (hlength : ret.actualLength = 0) (hpackets : ret.numberOfPackets = 0) :
    dataBytes storageHandler ret = [] := by
  have hsocket : ret.toSocket storageHandler = ret.headerBytes := by
    unfold UsbIpRetSubmit.toSocket
    split
    · rfl
    · rw [hlength, hpackets, if_neg (by simp)]
  rw [dataBytes, hsocket]
  exact List.drop_of_length_le (Nat.le_of_eq ret.length_headerBytes)

theorem dataBytes_of_no_transfer (storageHandler : Handler → MscBulkOnlyHandler)
    (h : ret.transfer = none) : dataBytes storageHandler ret = [] := by
  have hsocket : ret.toSocket storageHandler = ret.headerBytes := by
    unfold UsbIpRetSubmit.toSocket
    rw [h]
  rw [dataBytes, hsocket]
  exact List.drop_of_length_le (Nat.le_of_eq ret.length_headerBytes)

theorem length_dataBytes (storageHandler : Handler → MscBulkOnlyHandler) {seqnum status : UInt32}
    {owner : Option Handler} {trx : GenericTransfer} (h : Sendable trx) (actualLength : UInt32) :
    (dataBytes storageHandler (.createRetSubmitWithStatusAndNoIso seqnum status actualLength
      (.generic owner trx))).length = actualLength.toNat := by
  by_cases hzero : actualLength = 0
  · rw [dataBytes_of_none storageHandler hzero rfl, hzero]
    rfl
  · have hpos : actualLength > 0 := UInt32.pos_iff_ne_zero.mpr hzero
    have hsent : GenericTransferOperator.sendTransferData trx actualLength.toNat =
        bytesAt trx.data trx.dataOffset actualLength.toNat := by
      rw [GenericTransferOperator.sendTransferData, if_pos h.isoDescriptors]
    have hin : (TransferHandle.generic owner trx).transferIsIn = true := h.isIn
    rw [dataBytes, UsbIpRetSubmit.toSocket]
    simp only [UsbIpRetSubmit.createRetSubmitWithStatusAndNoIso, UsbIpRetSubmit.createRetSubmit,
      hpos, true_or, if_true, hin, TransferHandle.sendTransferData, hsent, List.length_drop,
      List.length_append, UsbIpRetSubmit.length_headerBytes, length_bytesAt,
      Nat.add_sub_cancel_left]

theorem sent_lt (urb : ControlUrb Handler) (stage : DataStage) :
    stage.sent urb.setup.length.toNat urb.transferBufferLength.toNat < 2 ^ 32 := by
  have hlength := urb.setup.length.toNat_lt
  have hbuffer := urb.transferBufferLength.toNat_lt
  cases stage with
  | none | announced => exact Nat.pow_pos (by decide)
  | whole length => exact length.toNat_lt
  | cutToLength length => exact Nat.lt_of_le_of_lt (Nat.min_le_right _ _) (by omega)
  | cutToBuffer length => exact Nat.lt_of_le_of_lt (Nat.min_le_right _ _) hbuffer

theorem sent_le_iff {wLength bufferLength : Nat} (hannounced : stage ≠ .announced) :
    stage.sent wLength bufferLength ≤ min wLength bufferLength ↔
      stage.Fits wLength bufferLength := by
  cases stage with
  | none => simp [DataStage.sent, DataStage.Fits]
  | announced => exact absurd rfl hannounced
  | whole length => exact Nat.le_min
  | cutToLength length => simp only [DataStage.sent, DataStage.Fits]; omega
  | cutToBuffer length => simp only [DataStage.sent, DataStage.Fits]; omega

theorem keepsLength_iff_of_data (storageHandler : Handler → MscBulkOnlyHandler) {status : UInt32}
    {trx : GenericTransfer} (htrx : Sendable trx)
    (hlength : trx.data.length =
      stage.sent urb.setup.length.toNat urb.transferBufferLength.toNat)
    (hannounced : stage ≠ .announced) :
    KeepsLength storageHandler urb (.createRetSubmitWithStatusAndNoIso urb.seqnum status
        (.ofNat trx.data.length) (.generic urb.owner trx)) ↔
      stage.Fits urb.setup.length.toNat urb.transferBufferLength.toNat := by
  have hactual : (UInt32.ofNat trx.data.length).toNat = trx.data.length :=
    UInt32.toNat_ofNat_of_lt' (hlength ▸ sent_lt urb stage)
  refine (and_iff_left (length_dataBytes storageHandler htrx _).symm).trans ?_
  change (UInt32.ofNat trx.data.length).toNat ≤ _ ↔ _
  rw [hactual, hlength]
  exact sent_le_iff hannounced

/-- A reply with a data stage keeps to the lengths exactly where the data stage fits. -/
theorem keepsLength_iff (storageHandler : Handler → MscBulkOnlyHandler)
    (h : HasStage urb ret stage) :
    KeepsLength storageHandler urb ret ↔
      stage.Fits urb.setup.length.toNat urb.transferBufferLength.toNat := by
  cases stage with
  | none =>
      obtain ⟨hlength, hpackets⟩ := h
      refine iff_of_true ?_ trivial
      rw [KeepsLength, dataBytes_of_none storageHandler hlength hpackets, hlength]
      exact ⟨Nat.zero_le _, rfl⟩
  | announced =>
      obtain ⟨hlength, htransfer⟩ := h
      rw [KeepsLength, dataBytes_of_no_transfer storageHandler htransfer, hlength,
        DataStage.Fits, List.length_nil]
      omega
  | whole length =>
      obtain ⟨status, trx, htrx, hlength, rfl⟩ := h
      exact keepsLength_iff_of_data storageHandler htrx hlength (by simp)
  | cutToLength length =>
      obtain ⟨status, trx, htrx, hlength, rfl⟩ := h
      exact keepsLength_iff_of_data storageHandler htrx hlength (by simp)
  | cutToBuffer length =>
      obtain ⟨status, trx, htrx, hlength, rfl⟩ := h
      exact keepsLength_iff_of_data storageHandler htrx hlength (by simp)

/-- Every reply keeps to the lengths. -/
def KeepsLengths (storageHandler : Handler → MscBulkOnlyHandler) (urb : ControlUrb Handler)
    (actions : List (ControlAction Handler)) : Prop :=
  ∀ ret, .submitRetSubmit ret ∈ actions → KeepsLength storageHandler urb ret

/-- There is one reply, which has the data stage, or neither a reply nor data. -/
def AnswersWith (urb : ControlUrb Handler) (stage : DataStage)
    (actions : List (ControlAction Handler)) : Prop :=
  (∃ ret, actions = [.submitRetSubmit ret] ∧ HasStage urb ret stage) ∨
    stage = .none ∧ actions = []

theorem keepsLengths_iff (storageHandler : Handler → MscBulkOnlyHandler)
    {actions : List (ControlAction Handler)} (h : AnswersWith urb stage actions) :
    KeepsLengths storageHandler urb actions ↔
      stage.Fits urb.setup.length.toNat urb.transferBufferLength.toNat := by
  rcases h with ⟨ret, rfl, hstage⟩ | ⟨rfl, rfl⟩
  · rw [← keepsLength_iff storageHandler hstage]
    simp [KeepsLengths]
  · exact iff_of_true (fun ret hret => absurd hret List.not_mem_nil) trivial

theorem hasStage_none (urb : ControlUrb Handler) (status : UInt32) :
    HasStage urb (.createRetSubmitWithStatusAndNoData urb.seqnum status 0) .none :=
  ⟨rfl, rfl⟩

theorem sendable_of_isControlIn (h : IsControlIn urb) : Sendable urb.trx := by
  obtain ⟨header, hdirection, htrx⟩ := h.allocated
  rw [htrx]
  exact ⟨rfl, rfl, beq_iff_eq.mpr hdirection⟩

theorem Sendable.withData {trx : GenericTransfer} (h : Sendable trx) (data : List UInt8)
    (actualLength : Nat) : Sendable { trx with data, actualLength, dataOffset := 0 } :=
  ⟨h.isoDescriptors, rfl, h.isIn⟩

/-- The reply with the bytes that a data stage sends. -/
theorem hasStage_of_data {trx : GenericTransfer} (htrx : Sendable trx)
    (hannounced : stage ≠ .announced)
    (hlength : trx.data.length =
      stage.sent urb.setup.length.toNat urb.transferBufferLength.toNat) (status : UInt32) :
    HasStage urb (.createRetSubmitWithStatusAndNoIso urb.seqnum status (.ofNat trx.data.length)
      (.generic urb.owner trx)) stage := by
  cases stage with
  | none => exact ⟨by rw [hlength]; rfl, rfl⟩
  | announced => exact absurd rfl hannounced
  | whole length => exact ⟨status, trx, htrx, hlength, rfl⟩
  | cutToLength length => exact ⟨status, trx, htrx, hlength, rfl⟩
  | cutToBuffer length => exact ⟨status, trx, htrx, hlength, rfl⟩

end ControlUrb

/-- The data stage of a standard request; a descriptor is as long as its callback has it. -/
def InRequest.dataStage (callbacks : Callbacks Handler) : InRequest Handler → DataStage
  | .getConfiguration | .getInterface _ => .whole 1
  | .getStatus | .interfaceGetStatus _ | .endpointGetStatus .. => .whole 2
  | .getDescriptor type languageId descriptorLength =>
      .cutToLength (List.length (callbacks.in_ (.getDescriptor type languageId descriptorLength)).2)
  | .interfaceGetDescriptor handler type languageId descriptorLength =>
      .cutToLength (List.length
        (callbacks.in_ (.interfaceGetDescriptor handler type languageId descriptorLength)).2)
  | .endpointSyncFrame .. => .none

/-- The data stage of an HID request; a report is as long as its callback has it. -/
def HidInRequest.dataStage (hid : HidCallbacks) : HidInRequest → DataStage
  | .getProtocol => .whole 1
  | .getIdle type reportId length =>
      .cutToLength (List.length (hid.in_ (.getIdle type reportId length)).2)
  | .getReport type reportId length =>
      .cutToLength (List.length (hid.in_ (.getReport type reportId length)).2)

namespace ControlUrb

variable {callbacks : Callbacks Handler} {device : UsbDevice Handler} {urb : ControlUrb Handler}

/-- The data stage of a standard request. -/
def standardStage (callbacks : Callbacks Handler) (device : UsbDevice Handler)
    (urb : ControlUrb Handler) : DataStage :=
  let stage (request : Option (InRequest Handler)) :=
    request.elim .none (InRequest.dataStage callbacks)
  if urb.setup.isOut then .none
  else
    match RequestRecipient.ofSetup urb.setup with
    | .device => stage (deviceInRequest urb)
    | .interface =>
        (servingHandler device urb).elim .none fun handler =>
          stage (interfaceInRequest urb handler)
    | .endpoint =>
        (servingHandler device urb).elim .none fun handler =>
          stage (endpointInRequest urb handler)
    | .other | .unknown => .none

/-- The data stage of a class request to an HID interface. -/
def hidStage (hid : HidCallbacks) (urb : ControlUrb Handler) : DataStage :=
  if IsClass urb ∧ urb.setup.isOut = false then
    (hidInRequest urb).elim .none (HidInRequest.dataStage hid)
  else .none

theorem length_resultBytes (callbacks : Callbacks Handler) (request : InRequest Handler)
    (length : UInt16) (bufferLength : Nat) :
    (request.resultBytes length (callbacks.in_ request).2).length =
      (request.dataStage callbacks).sent length.toNat bufferLength := by
  cases request with
  | getConfiguration => exact length_u8ToBytes _
  | getInterface intf => exact length_u8ToBytes _
  | getStatus => exact length_u16leToBytes _
  | interfaceGetStatus handler => exact length_u16leToBytes _
  | endpointGetStatus handler epAddress => exact length_u16leToBytes _
  | getDescriptor type languageId descriptorLength =>
      exact (List.length_take ..).trans (Nat.min_comm ..)
  | interfaceGetDescriptor handler type languageId descriptorLength =>
      exact (List.length_take ..).trans (Nat.min_comm ..)
  | endpointSyncFrame handler epAddress => rfl

theorem dataStage_ne_announced (callbacks : Callbacks Handler) (request : InRequest Handler) :
    request.dataStage callbacks ≠ .announced := by
  cases request <;> simp [InRequest.dataStage]

theorem answersWith_replyIn (h : IsControlIn urb) (callbacks : Callbacks Handler)
    (device : UsbDevice Handler) (request : Option (InRequest Handler)) :
    AnswersWith urb (request.elim .none (InRequest.dataStage callbacks))
      (replyIn callbacks device urb request).actions := by
  refine .inl ⟨_, rfl, ?_⟩
  cases request with
  | none => exact ⟨rfl, rfl⟩
  | some request =>
      exact hasStage_of_data ((sendable_of_isControlIn h).withData _ _)
        (dataStage_ne_announced callbacks request) (length_resultBytes callbacks request _ _)
        (callbacks.in_ request).1

theorem answersWith_replyOut (callbacks : Callbacks Handler) (device : UsbDevice Handler)
    (urb : ControlUrb Handler) (request : Option (OutRequest Handler)) :
    AnswersWith urb .none (replyOut callbacks device urb request).actions :=
  .inl ⟨_, rfl, hasStage_none urb _⟩

theorem answersWith_replyEpipe (device : UsbDevice Handler) (urb : ControlUrb Handler) :
    AnswersWith urb .none (replyEpipe device urb).actions :=
  .inl ⟨_, rfl, hasStage_none urb _⟩

theorem answersWith_replyInvalid (device : UsbDevice Handler) (urb : ControlUrb Handler) :
    AnswersWith urb .none (replyInvalid device urb).actions :=
  .inl ⟨_, rfl, hasStage_none urb _⟩

theorem answersWith_handleInterfaceRequest (h : IsControlIn urb)
    (hrecipient : RequestRecipient.ofSetup urb.setup = .interface) (hstandard : IsStandard urb) :
    AnswersWith urb (standardStage callbacks device urb)
      (handleInterfaceRequest callbacks device urb).actions := by
  have hserved : servingHandler device urb =
      device.interfaces[urb.setup.index.toNat]?.bind fun intf => intf.handler := by
    simp only [servingHandler, hrecipient, hstandard, if_true]
  rw [standardStage, hrecipient]
  dsimp only
  rw [hserved, handleInterfaceRequest]
  cases hintf : device.interfaces[urb.setup.index.toNat]? with
  | none => simpa using answersWith_replyEpipe device urb
  | some intf =>
      cases hhandler : intf.handler with
      | none => simpa [hhandler] using answersWith_replyInvalid device urb
      | some handler =>
          simp only [Option.bind_some, hhandler, Option.elim_some]
          split
          · exact answersWith_replyOut callbacks _ urb _
          · exact answersWith_replyIn h callbacks device _

theorem answersWith_handleEndpointRequest (h : IsControlIn urb)
    (hrecipient : RequestRecipient.ofSetup urb.setup = .endpoint) :
    AnswersWith urb (standardStage callbacks device urb)
      (handleEndpointRequest callbacks device urb).actions := by
  have hserved : servingHandler device urb =
      (device.findEp urb.setup.index.toUInt8).bind fun found =>
        found.2.bind fun intf => intf.handler := by
    simp only [servingHandler, hrecipient]
  rw [standardStage, hrecipient]
  dsimp only
  rw [hserved, handleEndpointRequest]
  cases hfound : device.findEp urb.setup.index.toUInt8 with
  | none => exact .inr ⟨by simp, rfl⟩
  | some found =>
      obtain ⟨endpoint, intf⟩ := found
      cases intf with
      | none => simpa using answersWith_replyInvalid device urb
      | some intf =>
          cases hhandler : intf.handler with
          | none => simpa [hhandler] using answersWith_replyInvalid device urb
          | some handler =>
              simp only [Option.bind_some, hhandler, Option.elim_some]
              split
              · exact answersWith_replyOut callbacks _ urb _
              · exact answersWith_replyIn h callbacks device _

/-- A standard request is answered with its data stage. -/
theorem answersWith_handleStandardRequest (h : IsControlIn urb) (hstandard : IsStandard urb)
    (callbacks : Callbacks Handler) (device : UsbDevice Handler) :
    AnswersWith urb (standardStage callbacks device urb)
      (handleStandardRequest callbacks device urb).actions := by
  unfold handleStandardRequest
  split
  next hrecipient =>
    rw [standardStage, hrecipient, handleDeviceRequest]
    dsimp only
    split
    · exact answersWith_replyOut callbacks device urb _
    · exact answersWith_replyIn h callbacks device _
  next hrecipient => exact answersWith_handleInterfaceRequest h hrecipient hstandard
  next hrecipient => exact answersWith_handleEndpointRequest h hrecipient
  all_goals
    next hrecipient =>
      rw [standardStage, hrecipient]
      simpa using answersWith_replyEpipe device urb

theorem length_hidResultBytes (hid : HidCallbacks) (request : HidInRequest) (length : UInt16)
    (bufferLength : Nat) :
    (request.resultBytes length (hid.in_ request).2).length =
      (request.dataStage hid).sent length.toNat bufferLength := by
  cases request with
  | getProtocol => exact length_u8ToBytes _
  | getIdle type reportId length => exact (List.length_take ..).trans (Nat.min_comm ..)
  | getReport type reportId length => exact (List.length_take ..).trans (Nat.min_comm ..)

/-- An HID handler answers a request with its data stage. -/
theorem hasStage_handleHidControlUrb (h : IsControlIn urb) (hid : HidCallbacks) :
    HasStage urb (handleHidControlUrb hid urb) (hidStage hid urb) := by
  unfold handleHidControlUrb hidStage
  by_cases hclass : IsClass urb
  · by_cases hout : urb.setup.isOut = true
    · simp only [hclass, hout, if_true, Bool.true_eq_false, and_false, if_false]
      exact hasStage_none urb _
    · have hin : urb.setup.isOut = false := by simpa using hout
      simp only [hclass, hin, if_true, Bool.false_eq_true, and_self, if_false]
      cases hrequest : hidInRequest urb with
      | none => exact ⟨rfl, rfl⟩
      | some request =>
          refine hasStage_of_data ((sendable_of_isControlIn h).withData _ _) ?_ ?_
            UrbStatusType.statusOK
          · cases request <;> simp [HidInRequest.dataStage]
          · exact length_hidResultBytes hid request _ _
  · simp only [hclass, if_false, false_and]
    exact hasStage_none urb _

/-- The reply that sends `data`. -/
def replyData (urb : ControlUrb Handler) (data : List UInt8) : UsbIpRetSubmit Handler :=
  let trx := { urb.trx with data, actualLength := data.length }
  .createRetSubmitWithStatusAndNoIso urb.seqnum UrbStatusType.statusOK (.ofNat trx.actualLength)
    (.generic urb.owner trx)

/-- The reply that sends nothing, with the transfer. -/
def acknowledge (urb : ControlUrb Handler) : UsbIpRetSubmit Handler :=
  let trx := { urb.trx with actualLength := 0 }
  .createRetSubmitWithStatusAndNoIso urb.seqnum UrbStatusType.statusOK (.ofNat trx.actualLength)
    (.generic urb.owner trx)

def stall (urb : ControlUrb Handler) : UsbIpRetSubmit Handler :=
  .createRetSubmitEpipeWithoutData urb.seqnum 0

theorem hasStage_stall (urb : ControlUrb Handler) : HasStage urb urb.stall .none :=
  hasStage_none urb _

theorem hasStage_acknowledge (urb : ControlUrb Handler) : HasStage urb urb.acknowledge .none :=
  ⟨rfl, rfl⟩

theorem hasStage_replyData (h : IsControlIn urb) {stage : DataStage} {data : List UInt8}
    (hannounced : stage ≠ .announced)
    (hlength : data.length =
      stage.sent urb.setup.length.toNat urb.transferBufferLength.toNat) :
    HasStage urb (urb.replyData data) stage := by
  obtain ⟨hiso, hoffset, hin⟩ := sendable_of_isControlIn h
  have htrx : Sendable { urb.trx with data, actualLength := data.length } :=
    ⟨hiso, hoffset, hin⟩
  exact hasStage_of_data htrx hannounced hlength UrbStatusType.statusOK

/-- The reply that sends few bytes. -/
theorem hasStage_replyData_whole (h : IsControlIn urb) {data : List UInt8} {length : UInt32}
    (hlength : data.length = length.toNat) : HasStage urb (urb.replyData data) (.whole length) :=
  hasStage_replyData h (by simp) hlength

/-- A reply whose data are cut to one of the two limits. -/
theorem hasStage_take (h : IsControlIn urb) {stage : DataStage} (hannounced : stage ≠ .announced)
    {data : List UInt8} {limit : Nat} (actualLength : Nat) (status : UInt32)
    (hlength : min data.length limit =
      stage.sent urb.setup.length.toNat urb.transferBufferLength.toNat) :
    HasStage urb (.createRetSubmitWithStatusAndNoIso urb.seqnum status
      (.ofNat (data.take limit).length)
      (.generic urb.owner { urb.trx with data := data.take limit, actualLength })) stage := by
  obtain ⟨hiso, hoffset, hin⟩ := sendable_of_isControlIn h
  have htrx : Sendable { urb.trx with data := data.take limit, actualLength } :=
    ⟨hiso, hoffset, hin⟩
  refine hasStage_of_data htrx hannounced ?_ status
  rw [List.length_take, Nat.min_comm, hlength]

section Codes

variable {request code : UInt8} {codes : List UInt8} {ret ret' : UsbIpRetSubmit Handler}
  {stage stage' : DataStage}

/-- The first of several request codes with the same data stage. -/
theorem hasStage_code (hret : HasStage urb ret stage)
    (hrest : HasStage urb ret' (if request ∈ codes then stage else stage')) :
    HasStage urb (if request = code then ret else ret')
      (if request ∈ code :: codes then stage else stage') := by
  by_cases hcode : request = code
  · rw [if_pos hcode, if_pos (hcode ▸ List.mem_cons_self)]
    exact hret
  · simpa [hcode] using hrest

/-- None of the codes is left. -/
theorem hasStage_no_code (hret : HasStage urb ret stage') :
    HasStage urb ret (if request ∈ [] then stage else stage') := by
  simpa using hret

end Codes

end ControlUrb

namespace ClassRequest

def setCur : UInt8 := 0x01
def getCur : UInt8 := 0x81
def getMin : UInt8 := 0x82
def getMax : UInt8 := 0x83
def getRes : UInt8 := 0x84
def getLen : UInt8 := 0x85
def getInfo : UInt8 := 0x86
def getDef : UInt8 := 0x87

end ClassRequest

/-- The type of a class-specific interface descriptor. -/
def csInterface : UInt8 := 0x24

/-- A number of sixteen bits, least significant byte first. -/
def int16Bytes (value : Int16) : List UInt8 := u16leToBytes value.toUInt16

namespace ControlUrb

variable {urb : ControlUrb Handler}

/-- The unit or terminal that a class request is for. -/
def entity (urb : ControlUrb Handler) : UInt8 := (urb.setup.index >>> 8).toUInt8

/-- The control that a class request is about; the type of descriptor that it asks for. -/
def controlSelector (urb : ControlUrb Handler) : UInt8 := (urb.setup.value >>> 8).toUInt8

/-- A class request for the class-specific descriptor, which is cut to the buffer. -/
def getClassDescriptor (urb : ControlUrb Handler) (classDesc : List UInt8) :
    UsbIpRetSubmit Handler :=
  if urb.controlSelector = csInterface then
    urb.replyData (classDesc.take (min classDesc.length urb.transferBufferLength.toNat))
  else urb.stall

def classDescriptorStage (urb : ControlUrb Handler) (classDesc : List UInt8) : DataStage :=
  if urb.controlSelector = csInterface then .cutToBuffer classDesc.length else .none

theorem hasStage_getClassDescriptor (h : IsControlIn urb) (classDesc : List UInt8) :
    HasStage urb (urb.getClassDescriptor classDesc) (urb.classDescriptorStage classDesc) := by
  unfold getClassDescriptor classDescriptorStage
  split
  · refine hasStage_replyData h (by simp) ?_
    rw [List.length_take, DataStage.sent]
    omega
  · exact hasStage_stall urb

/-- A request to an audio or a video interface: only class requests are for it, and all of them
but the one for the descriptor go on to `rest`. -/
def classRequest (urb : ControlUrb Handler) (classDesc : List UInt8)
    (rest : UsbIpRetSubmit Handler) : UsbIpRetSubmit Handler :=
  if ¬ urb.IsClass then urb.stall
  else if urb.setup.request = StandardRequest.getDescriptor then urb.getClassDescriptor classDesc
  else rest

def classRequestStage (urb : ControlUrb Handler) (classDesc : List UInt8) (rest : DataStage) :
    DataStage :=
  if ¬ urb.IsClass then .none
  else if urb.setup.request = StandardRequest.getDescriptor then
    urb.classDescriptorStage classDesc
  else rest

theorem hasStage_classRequest (h : IsControlIn urb) (classDesc : List UInt8)
    {rest : UsbIpRetSubmit Handler} {stage : DataStage} (hrest : HasStage urb rest stage) :
    HasStage urb (urb.classRequest classDesc rest) (urb.classRequestStage classDesc stage) := by
  unfold classRequest classRequestStage
  split
  · exact hasStage_stall urb
  · split
    · exact hasStage_getClassDescriptor h classDesc
    · exact hrest

@[simp] theorem length_int16Bytes (value : Int16) : (int16Bytes value).length = 2 :=
  length_u16leToBytes _

end ControlUrb

end Usbipdcpp.VirtualDevice
