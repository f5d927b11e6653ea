import Usbipdcpp.Foundation.ByteStream
import Usbipdcpp.VirtualDevice.ControlData

namespace Usbipdcpp.VirtualDevice

open Foundation.ByteStream Protocol

variable {Handler : Type}

namespace ControlUrb

variable (urb : ControlUrb Handler)

/-- The last error, of which there is none. -/
def errorCodeControl : UsbIpRetSubmit Handler :=
  let request := urb.setup.request
  if request = ClassRequest.getCur then urb.replyData [0x00]
  else if request = ClassRequest.getInfo then urb.replyData [0x01]
  else urb.stall

def errorCodeStage : DataStage :=
  if urb.setup.request ∈ [ClassRequest.getCur, ClassRequest.getInfo] then .whole 1 else .none

variable {urb}

theorem hasStage_errorCodeControl (hin : IsControlIn urb) :
    HasStage urb urb.errorCodeControl urb.errorCodeStage := by
  unfold errorCodeControl errorCodeStage
  refine hasStage_code (hasStage_replyData_whole hin rfl) ?_
  refine hasStage_code (hasStage_replyData_whole hin rfl) ?_
  exact hasStage_no_code (hasStage_stall urb)

end ControlUrb

namespace Uvc

def entityVcInterface : UInt8 := 0x00
def entityInputTerminal : UInt8 := 0x01
def entityProcessingUnit : UInt8 := 0x02
def entityOutputTerminal : UInt8 := 0x03
def vcVideoPowerModeControl : UInt8 := 0x01
def vcRequestErrorCodeControl : UInt8 := 0x02
def vsProbeControl : UInt8 := 0x01
def vsCommitControl : UInt8 := 0x02
def vsStreamErrorCodeControl : UInt8 := 0x06
def puBrightness : UInt8 := 0x02
def puContrast : UInt8 := 0x03
def puGain : UInt8 := 0x04
def puHue : UInt8 := 0x06
def puSaturation : UInt8 := 0x07
def puSharpness : UInt8 := 0x08

/-- A control of the processing unit. -/
structure PuControl where
  selector : UInt8
  cur : Int16
  min : Int16
  max : Int16
  default : Int16
  step : Int16
  deriving DecidableEq, Repr

def PuControl.controls : List PuControl :=
  [⟨puBrightness, 128, 0, 255, 128, 1⟩, ⟨puContrast, 128, 0, 255, 128, 1⟩,
    ⟨puHue, 0, -180, 180, 0, 1⟩, ⟨puSaturation, 128, 0, 255, 128, 1⟩,
    ⟨puSharpness, 2, 0, 15, 2, 1⟩, ⟨puGain, 64, 0, 255, 64, 1⟩]

structure UvcVideoControlHandler where
  classDesc : List UInt8
  powerOn : Bool
  deriving DecidableEq, Repr

namespace UvcVideoControlHandler

variable (h : UvcVideoControlHandler) (urb : ControlUrb Handler)

def videoPowerModeControl : UsbIpRetSubmit Handler :=
  let request := urb.setup.request
  if request = ClassRequest.getCur then urb.replyData [if h.powerOn then 1 else 0]
  else if request = ClassRequest.getInfo then urb.replyData [0x03]
  else if request = ClassRequest.setCur then urb.acknowledge
  else urb.stall

/-- A control that the processing unit does not have reads as zero. -/
def processingUnitControl : UsbIpRetSubmit Handler :=
  let request := urb.setup.request
  let ctrl := PuControl.controls.find? fun ctrl => ctrl.selector = urb.controlSelector
  if request = ClassRequest.getCur then urb.replyData (int16Bytes (ctrl.elim 0 PuControl.cur))
  else if request = ClassRequest.getMin then urb.replyData (int16Bytes (ctrl.elim 0 PuControl.min))
  else if request = ClassRequest.getMax then urb.replyData (int16Bytes (ctrl.elim 0 PuControl.max))
  else if request = ClassRequest.getDef then
    urb.replyData (int16Bytes (ctrl.elim 0 PuControl.default))
  else if request = ClassRequest.getRes then urb.replyData (int16Bytes (ctrl.elim 1 PuControl.step))
  else if request = ClassRequest.getLen then urb.replyData [0x02, 0x00]
  else if request = ClassRequest.getInfo then urb.replyData [if ctrl.isSome then 0x03 else 0x00]
  else if request = ClassRequest.setCur then urb.acknowledge
  else urb.stall

/-- The reply of `UvcVideoControlHandler::handle_non_standard_request_type_control_urb`. -/
def handleNonStandardRequestTypeControlUrb : UsbIpRetSubmit Handler :=
  urb.classRequest h.classDesc <|
    if urb.entity = entityVcInterface then
      if urb.controlSelector = vcVideoPowerModeControl then h.videoPowerModeControl urb
      else if urb.controlSelector = vcRequestErrorCodeControl then urb.errorCodeControl
      else urb.stall
    else if urb.entity = entityInputTerminal ∨ urb.entity = entityOutputTerminal then
      urb.acknowledge
    else if urb.entity ≠ entityProcessingUnit then urb.stall
    else processingUnitControl urb

def videoPowerModeStage : DataStage :=
  if urb.setup.request ∈ [ClassRequest.getCur, ClassRequest.getInfo] then .whole 1 else .none

/-- The requests to the processing unit for a number of sixteen bits. -/
def numberRequests : List UInt8 :=
  [ClassRequest.getCur, ClassRequest.getMin, ClassRequest.getMax, ClassRequest.getDef,
    ClassRequest.getRes, ClassRequest.getLen]

def processingUnitStage : DataStage :=
  if urb.setup.request ∈ numberRequests then .whole 2
  else if urb.setup.request = ClassRequest.getInfo then .whole 1
  else .none

def dataStage : DataStage :=
  urb.classRequestStage h.classDesc <|
    if urb.entity = entityVcInterface then
      if urb.controlSelector = vcVideoPowerModeControl then videoPowerModeStage urb
      else if urb.controlSelector = vcRequestErrorCodeControl then urb.errorCodeStage
      else .none
    else if urb.entity = entityProcessingUnit then processingUnitStage urb
    else .none

variable {urb}

open ControlUrb

theorem hasStage_videoPowerModeControl (hin : IsControlIn urb) :
    HasStage urb (h.videoPowerModeControl urb) (videoPowerModeStage urb) := by
  unfold videoPowerModeControl videoPowerModeStage
  refine hasStage_code (hasStage_replyData_whole hin rfl) ?_
  refine hasStage_code (hasStage_replyData_whole hin rfl) ?_
  refine hasStage_no_code ?_
  split
  · exact hasStage_acknowledge urb
  · exact hasStage_stall urb

theorem hasStage_processingUnitControl (hin : IsControlIn urb) :
    HasStage urb (processingUnitControl urb) (processingUnitStage urb) := by
  have hvalue (value : Int16) : HasStage urb (urb.replyData (int16Bytes value)) (.whole 2) :=
    hasStage_replyData_whole hin (length_int16Bytes value)
  unfold processingUnitControl processingUnitStage numberRequests
  refine hasStage_code (hvalue _) ?_
  refine hasStage_code (hvalue _) ?_
  refine hasStage_code (hvalue _) ?_
  refine hasStage_code (hvalue _) ?_
  refine hasStage_code (hvalue _) ?_
  refine hasStage_code (hasStage_replyData_whole hin rfl) ?_
  refine hasStage_no_code ?_
  split
  · exact hasStage_replyData_whole hin rfl
  · split
    · exact hasStage_acknowledge urb
    · exact hasStage_stall urb

/-- The control interface answers a request with its data stage. -/
theorem hasStage_handleNonStandardRequestTypeControlUrb (hin : IsControlIn urb) :
    HasStage urb (h.handleNonStandardRequestTypeControlUrb urb) (h.dataStage urb) := by
  unfold handleNonStandardRequestTypeControlUrb dataStage
  refine hasStage_classRequest hin h.classDesc ?_
  split
  · split
    · exact h.hasStage_videoPowerModeControl hin
    split
    · exact hasStage_errorCodeControl hin
    · exact hasStage_stall urb
  · by_cases hunit : urb.entity = entityProcessingUnit
    · have hterminal : ¬ (urb.entity = entityInputTerminal ∨
          urb.entity = entityOutputTerminal) := by
        rw [hunit]
        decide
      rw [if_neg hterminal, if_neg (not_not_intro hunit), if_pos hunit]
      exact hasStage_processingUnitControl hin
    · rw [if_pos hunit, if_neg hunit]
      split
      · exact hasStage_acknowledge urb
      · exact hasStage_stall urb

end UvcVideoControlHandler

/-- What a host and a video device settle on before a stream. -/
structure UvcStreamingControl where
  bmHint : UInt16
  bFormatIndex : UInt8
  bFrameIndex : UInt8
  dwFrameInterval : UInt32
  wKeyFrameRate : UInt16
  wPFrameRate : UInt16
  wCompQuality : UInt16
  wCompWindowSize : UInt16
  wDelay : UInt16
  dwMaxVideoFrameSize : UInt32
  dwMaxPayloadTransferSize : UInt32
  dwClockFrequency : UInt32
  bmFramingInfo : UInt8
  bPreferredVersion : UInt8
  bMinVersion : UInt8
  bMaxVersion : UInt8
  bUsage : UInt8
  bBitDepthLuma : UInt8
  bmSettings : UInt8
  bMaxNumberOfRefFramesPlus1 : UInt8
  bmRateControlModes : UInt16
  bmLayoutPerStream : UInt64
  deriving DecidableEq, Repr

namespace UvcStreamingControl

/-- The length of the block on the wire. -/
def size : Nat := 48

def serialize (ctrl : UvcStreamingControl) : List UInt8 :=
  leBytesOfNat 2 ctrl.bmHint.toNat ++ [ctrl.bFormatIndex, ctrl.bFrameIndex] ++
    leBytesOfNat 4 ctrl.dwFrameInterval.toNat ++ leBytesOfNat 2 ctrl.wKeyFrameRate.toNat ++
    leBytesOfNat 2 ctrl.wPFrameRate.toNat ++ leBytesOfNat 2 ctrl.wCompQuality.toNat ++
    leBytesOfNat 2 ctrl.wCompWindowSize.toNat ++ leBytesOfNat 2 ctrl.wDelay.toNat ++
    leBytesOfNat 4 ctrl.dwMaxVideoFrameSize.toNat ++
    leBytesOfNat 4 ctrl.dwMaxPayloadTransferSize.toNat ++
    leBytesOfNat 4 ctrl.dwClockFrequency.toNat ++
    [ctrl.bmFramingInfo, ctrl.bPreferredVersion, ctrl.bMinVersion, ctrl.bMaxVersion,
      ctrl.bUsage, ctrl.bBitDepthLuma, ctrl.bmSettings, ctrl.bMaxNumberOfRefFramesPlus1] ++
    leBytesOfNat 2 ctrl.bmRateControlModes.toNat ++ leBytesOfNat 8 ctrl.bmLayoutPerStream.toNat

@[simp] theorem length_serialize (ctrl : UvcStreamingControl) : ctrl.serialize.length = size := by
  simp [serialize, size]

end UvcStreamingControl

/-- The source of a video stream, as far as the host settles on it. -/
structure VideoSource where
  defaultFrameInterval : UInt32
  minFrameInterval : UInt32
  maxFrameInterval : UInt32
  maxFrameSize : UInt32
  deriving DecidableEq, Repr

structure UvcVideoStreamingHandler where
  classDesc : List UInt8
  source : VideoSource
  probeData : UvcStreamingControl
  deriving DecidableEq, Repr

namespace UvcVideoStreamingHandler

variable (h : UvcVideoStreamingHandler) (urb : ControlUrb Handler)

/-- The settings with what the host has no say in. -/
def deviceControl : UvcStreamingControl :=
  { h.probeData with
    bmFramingInfo := 0x03
    bPreferredVersion := 1
    bMinVersion := 1
    bMaxVersion := 1
    dwClockFrequency := 27000000
    wKeyFrameRate := 0
    wPFrameRate := 0
    wCompQuality := 0
    wCompWindowSize := 0
    wDelay := 0 }

/-- The settings that a request reads: the least, the greatest, those of the device or those
settled on last. -/
def reportedControl (request : UInt8) : UvcStreamingControl :=
  let ctrl := h.deviceControl
  if request = ClassRequest.getMin then
    { ctrl with
      dwMaxVideoFrameSize := 1
      dwMaxPayloadTransferSize := 1
      dwFrameInterval := h.source.maxFrameInterval }
  else if request = ClassRequest.getMax then
    { ctrl with
      dwMaxVideoFrameSize := h.source.maxFrameSize
      dwMaxPayloadTransferSize := h.source.maxFrameSize
      dwFrameInterval := h.source.minFrameInterval }
  else if request = ClassRequest.getDef then
    { ctrl with
      bFormatIndex := 1
      bFrameIndex := 1
      dwFrameInterval := h.source.defaultFrameInterval
      dwMaxVideoFrameSize := h.source.maxFrameSize
      dwMaxPayloadTransferSize := 512 }
  else
    { ctrl with
      dwMaxVideoFrameSize :=
        if ctrl.dwMaxVideoFrameSize = 0 then h.source.maxFrameSize
        else ctrl.dwMaxVideoFrameSize
      dwFrameInterval :=
        if ctrl.dwFrameInterval = 0 then h.source.defaultFrameInterval
        else ctrl.dwFrameInterval }

/-- The requests that read the settings. -/
def controlRequests : List UInt8 :=
  [ClassRequest.getCur, ClassRequest.getMin, ClassRequest.getMax, ClassRequest.getDef]

/-- The settings are cut to the buffer, and new ones are confirmed with its length. -/
def probeCommitControl : UsbIpRetSubmit Handler :=
  let request := urb.setup.request
  if request ∈ controlRequests then
    urb.replyData ((h.reportedControl request).serialize.take
      (min UvcStreamingControl.size urb.transferBufferLength.toNat))
  else if request = ClassRequest.getLen then
    urb.replyData (leBytesOfNat 2 UvcStreamingControl.size)
  else if request = ClassRequest.getInfo then urb.replyData [0x03]
  else if request = ClassRequest.setCur then
    .createRetSubmitWithStatusAndNoData urb.seqnum UrbStatusType.statusOK urb.transferBufferLength
  else urb.stall

/-- The reply of `UvcVideoStreamingHandler::handle_non_standard_request_type_control_urb`. -/
def handleNonStandardRequestTypeControlUrb : UsbIpRetSubmit Handler :=
  let ctrlCode := urb.controlSelector
  urb.classRequest h.classDesc <|
    if ¬ (ctrlCode = vsProbeControl ∨ ctrlCode = vsCommitControl ∨
        ctrlCode = vsStreamErrorCodeControl) then urb.stall
    else if ctrlCode = vsStreamErrorCodeControl then urb.errorCodeControl
    else h.probeCommitControl urb

def probeCommitStage : DataStage :=
  let request := urb.setup.request
  if request ∈ controlRequests then .cutToBuffer UvcStreamingControl.size
  else if request = ClassRequest.getLen then .whole 2
  else if request = ClassRequest.getInfo then .whole 1
  else if request = ClassRequest.setCur then .announced
  else .none

def dataStage : DataStage :=
  let ctrlCode := urb.controlSelector
  urb.classRequestStage h.classDesc <|
    if ctrlCode = vsProbeControl ∨ ctrlCode = vsCommitControl then
      probeCommitStage urb
    else if ctrlCode = vsStreamErrorCodeControl then urb.errorCodeStage
    else .none

variable {urb}

open ControlUrb

theorem hasStage_probeCommitControl (hin : IsControlIn urb) :
    HasStage urb (h.probeCommitControl urb) (probeCommitStage urb) := by
  unfold probeCommitControl probeCommitStage
  dsimp only
  split
  · refine hasStage_replyData hin (by simp) ?_
    rw [List.length_take, UvcStreamingControl.length_serialize, DataStage.sent]
    omega
  split
  · exact hasStage_replyData_whole hin (length_leBytesOfNat _ _)
  split
  · exact hasStage_replyData_whole hin rfl
  split
  · exact ⟨rfl, rfl⟩
  · exact hasStage_stall urb

/-- The streaming interface answers a request with its data stage. -/
theorem hasStage_handleNonStandardRequestTypeControlUrb (hin : IsControlIn urb) :
    HasStage urb (h.handleNonStandardRequestTypeControlUrb urb) (h.dataStage urb) := by
  unfold handleNonStandardRequestTypeControlUrb dataStage
  dsimp only
  refine hasStage_classRequest hin h.classDesc ?_
  by_cases hsettings : urb.controlSelector = vsProbeControl ∨
      urb.controlSelector = vsCommitControl
  · have herror : urb.controlSelector ≠ vsStreamErrorCodeControl := by
      rcases hsettings with hprobe | hcommit
      · rw [hprobe]
        decide
      · rw [hcommit]
        decide
    rw [if_pos hsettings, if_neg (by simp [← or_assoc, hsettings]), if_neg herror]
    exact h.hasStage_probeCommitControl hin
  · rw [if_neg hsettings]
    by_cases herror : urb.controlSelector = vsStreamErrorCodeControl
    · rw [if_neg (by simp [herror]), if_pos herror, if_pos herror]
      exact hasStage_errorCodeControl hin
    · rw [if_pos (by simp [hsettings, herror]), if_neg herror]
      exact hasStage_stall urb

end UvcVideoStreamingHandler

end Uvc

end Usbipdcpp.VirtualDevice
