import Usbipdcpp.VirtualDevice.LibraryControl

namespace Usbipdcpp.VirtualDevice

open Protocol

variable {Handler : Type}

/-- The handlers of the library do what is handed over to them. -/
def ControlAction.serveLibrary (deviceHandler : LibraryDeviceHandler)
    (library : Handler → LibraryHandler Handler) (urb : ControlUrb Handler) :
    ControlAction Handler → ControlAction Handler
  | .hook .device _ =>
      .submitRetSubmit (deviceHandler.handleNonStandardRequestTypeControlUrb urb)
  | .hook (.interface handler) _ =>
      .submitRetSubmit ((library handler).handleNonStandardRequestTypeControlUrb urb)
  | .hook (.endpoint handler) _ =>
      .submitRetSubmit ((library handler).handleNonStandardRequestTypeControlUrbToEndpoint urb)
  | .submitRetSubmit ret => .submitRetSubmit ret

namespace ControlUrb

section Library

variable (callbacks : Callbacks Handler) (deviceHandler : LibraryDeviceHandler)
  (library : Handler → LibraryHandler Handler) (device : UsbDevice Handler)
  (urb : ControlUrb Handler)

/-- A control URB on a device whose handlers are those of the library. -/
def handleControlUrbWithLibrary : ControlOutcome Handler :=
  let outcome := handleControlUrb callbacks device urb
  { outcome with
    actions := outcome.actions.map (ControlAction.serveLibrary deviceHandler library urb) }

/-- What a request asks for, by its type, its recipient and the handler that serves it. -/
def asked : DataStage :=
  if IsStandard urb then standardStage callbacks device urb
  else
    match RequestRecipient.ofSetup urb.setup with
    | .device => deviceHandler.dataStage urb
    | .interface =>
        (servingHandler device urb).elim .none fun handler => (library handler).dataStage urb
    | .endpoint =>
        (servingHandler device urb).elim .none fun handler =>
          (library handler).endpointDataStage urb
    | .other | .unknown => .none

end Library

variable {callbacks : Callbacks Handler} {deviceHandler : LibraryDeviceHandler}
  {library : Handler → LibraryHandler Handler} {device : UsbDevice Handler}
  {urb : ControlUrb Handler}

/-- A reply passes by the handlers. -/
theorem answersWith_serveLibrary {stage : DataStage} {actions : List (ControlAction Handler)}
    (h : AnswersWith urb stage actions) :
    AnswersWith urb stage
      (actions.map (ControlAction.serveLibrary deviceHandler library urb)) := by
  rcases h with ⟨ret, rfl, hstage⟩ | ⟨hnone, rfl⟩
  · exact .inl ⟨ret, rfl, hstage⟩
  · exact .inr ⟨hnone, rfl⟩

theorem servingHandler_of_interface (hrecipient : RequestRecipient.ofSetup urb.setup = .interface)
    (hstandard : ¬ IsStandard urb) :
    servingHandler device urb =
      device.interfaces[urb.setup.index.toNat &&& 0xFF]?.bind fun intf => intf.handler := by
  simp only [servingHandler, hrecipient, hstandard, if_false]

theorem answersWith_interface (h : IsControlIn urb)
    (hrecipient : RequestRecipient.ofSetup urb.setup = .interface) (hstandard : ¬ IsStandard urb) :
    AnswersWith urb
      ((servingHandler device urb).elim .none fun handler => (library handler).dataStage urb)
      ((handleNonStandardRequest device urb).actions.map
        (ControlAction.serveLibrary deviceHandler library urb)) := by
  rw [servingHandler_of_interface hrecipient hstandard, handleNonStandardRequest, hrecipient]
  dsimp only
  cases hintf : device.interfaces[urb.setup.index.toNat &&& 0xFF]? with
  | none => exact answersWith_serveLibrary (answersWith_replyEpipe device urb)
  | some intf =>
      cases hhandler : intf.handler with
      | none =>
          simp only [Option.bind_some, hhandler, Option.elim_none]
          exact answersWith_serveLibrary (answersWith_replyInvalid device urb)
      | some handler =>
          simp only [Option.bind_some, hhandler, Option.elim_some]
          exact .inl ⟨_, rfl, (library handler).hasStage_handleNonStandardRequestTypeControlUrb h⟩

theorem answersWith_endpoint (h : IsControlIn urb)
    (hrecipient : RequestRecipient.ofSetup urb.setup = .endpoint) :
    AnswersWith urb
      ((servingHandler device urb).elim .none fun handler =>
        (library handler).endpointDataStage urb)
      ((handleNonStandardRequest device urb).actions.map
        (ControlAction.serveLibrary deviceHandler library urb)) := by
  simp only [servingHandler, handleNonStandardRequest, hrecipient]
  cases hfound : device.findEp urb.setup.index.toUInt8 with
  | none => exact answersWith_serveLibrary (answersWith_replyInvalid device urb)
  | some found =>
      obtain ⟨endpoint, intf⟩ := found
      cases intf with
      | none => exact answersWith_serveLibrary (answersWith_replyInvalid device urb)
      | some intf =>
          cases hhandler : intf.handler with
          | none =>
              simp only [Option.bind_some, hhandler, Option.elim_none]
              exact answersWith_serveLibrary (answersWith_replyInvalid device urb)
          | some handler =>
              simp only [Option.bind_some, hhandler, Option.elim_some]
              exact .inl ⟨_, rfl,
                (library handler).hasStage_handleNonStandardRequestTypeControlUrbToEndpoint h⟩

/-- A request for data is answered with what it asks for. -/
theorem answersWith_handleControlUrbWithLibrary (h : IsControlIn urb)
    (callbacks : Callbacks Handler) (deviceHandler : LibraryDeviceHandler)
    (library : Handler → LibraryHandler Handler) (device : UsbDevice Handler) :
    AnswersWith urb (asked callbacks deviceHandler library device urb)
      (handleControlUrbWithLibrary callbacks deviceHandler library device urb).actions := by
  unfold asked handleControlUrbWithLibrary handleControlUrb
  by_cases hstandard : IsStandard urb
  · rw [if_pos hstandard, if_pos hstandard]
    exact answersWith_serveLibrary (answersWith_handleStandardRequest h hstandard callbacks device)
  · rw [if_neg hstandard, if_neg hstandard]
    cases hrecipient : RequestRecipient.ofSetup urb.setup with
    | device =>
        rw [handleNonStandardRequest, hrecipient]
        exact .inl ⟨_, rfl,
          LibraryDeviceHandler.hasStage_handleNonStandardRequestTypeControlUrb h deviceHandler⟩
    | interface => exact answersWith_interface h hrecipient hstandard
    | endpoint => exact answersWith_endpoint h hrecipient
    | other | unknown =>
        rw [handleNonStandardRequest, hrecipient]
        exact answersWith_serveLibrary (answersWith_replyEpipe device urb)

/-- The replies keep to the length asked for and to the buffer exactly where what is asked for
fits in the one that it is not cut to. -/
theorem keepsLengths_iff_asked_fits (storageHandler : Handler → MscBulkOnlyHandler)
    (callbacks : Callbacks Handler) (deviceHandler : LibraryDeviceHandler)
    (library : Handler → LibraryHandler Handler) (device : UsbDevice Handler)
    (urb : ControlUrb Handler) (h : IsControlIn urb) :
    KeepsLengths storageHandler urb
        (handleControlUrbWithLibrary callbacks deviceHandler library device urb).actions ↔
      (asked callbacks deviceHandler library device urb).Fits urb.setup.length.toNat
        urb.transferBufferLength.toNat :=
  keepsLengths_iff storageHandler
    (answersWith_handleControlUrbWithLibrary h callbacks deviceHandler library device)

/-- A microphone, at endpoint 0x81. -/
def microphone : UsbDevice Unit where
  ep0In := ⟨0x80, 0⟩
  ep0Out := ⟨0x00, 0⟩
  interfaces := [⟨some (), 0, [[⟨0x81, 1⟩]]⟩]

def microphoneHandler : LibraryHandler Unit :=
  .uacAudioStreamingSource []
    { supportedFormats := [⟨1, 16, 44100⟩, ⟨1, 16, 48000⟩]
      currentFormat := ⟨1, 16, 48000⟩
      setFormat := fun _ _ _ => true
      current_mem := by decide }

/-- The request for the sampling rate of the microphone, with room for its three bytes. -/
def getSamplingRate : ControlUrb Unit where
  seqnum := 9
  transferBufferLength := 3
  setup := ⟨0xA2, ClassRequest.getCur, 0x0100, 0x81, 3⟩
  owner := none
  trx := GenericTransferOperator.allocTransferHandle 3 0 ⟨0, 9, 0, UsbIpDirection.in_, 0⟩

theorem keepsLengths_getSamplingRate :
    KeepsLengths (fun _ => ⟨.idle, none, 0, 0, none⟩) getSamplingRate
      (handleControlUrbWithLibrary .stalling .simple (fun _ => microphoneHandler) microphone
        getSamplingRate).actions := by
  have hasked : asked .stalling .simple (fun _ => microphoneHandler) microphone getSamplingRate =
      .whole 3 := rfl
  refine (keepsLengths_iff_asked_fits _ _ _ _ _ getSamplingRate
    ⟨by decide, ⟨0, 9, 0, UsbIpDirection.in_, 0⟩, rfl, rfl⟩).mpr ?_
  rw [hasked]
  exact ⟨by decide, by decide⟩

/-- A request for the first byte of the two of the device status. -/
def getStatusByte : ControlUrb Empty where
  seqnum := 9
  transferBufferLength := 1
  setup := ⟨0x80, StandardRequest.getStatus, 0, 0, 1⟩
  owner := none
  trx := GenericTransferOperator.allocTransferHandle 1 0 ⟨0, 9, 0, UsbIpDirection.in_, 0⟩

def deviceWithoutInterfaces : UsbDevice Empty where
  ep0In := ⟨0x80, 0⟩
  ep0Out := ⟨0x00, 0⟩
  interfaces := []

theorem isControlIn_getStatusByte : IsControlIn getStatusByte :=
  ⟨by decide, ⟨0, 9, 0, UsbIpDirection.in_, 0⟩, rfl, rfl⟩

/-- Two bytes are sent. -/
theorem not_keepsLengths_getStatusByte :
    ¬ (IsControlIn getStatusByte → KeepsLengths Empty.elim getStatusByte
      (handleControlUrbWithLibrary .stalling .simple Empty.elim deviceWithoutInterfaces
        getStatusByte).actions) := by
  intro h
  have hanswers := answersWith_handleControlUrbWithLibrary isControlIn_getStatusByte .stalling
    .simple Empty.elim deviceWithoutInterfaces
  have hfits := (keepsLengths_iff Empty.elim hanswers).mp (h isControlIn_getStatusByte)
  exact absurd hfits.1 (by decide)

end ControlUrb

end Usbipdcpp.VirtualDevice
