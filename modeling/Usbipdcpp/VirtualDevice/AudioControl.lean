import Mathlib.Data.List.MinMax
import Usbipdcpp.Foundation.ByteStream
import Usbipdcpp.VirtualDevice.ControlData

namespace Usbipdcpp.VirtualDevice

open Foundation.ByteStream Protocol

namespace Uac

def entityInputTerminal : UInt8 := 0x01
def entityFeatureUnit : UInt8 := 0x02
def entityOutputTerminal : UInt8 := 0x03
def fuMuteControl : UInt8 := 0x01
def fuVolumeControl : UInt8 := 0x02
def asSamplingFreqControl : UInt8 := 0x01

/-- What the control interface of an audio device offers. -/
structure UacDeviceConfig where
  featureUnitMute : Bool
  featureUnitVolume : Bool
  volumeMinDb256 : Int16
  volumeMaxDb256 : Int16
  deriving DecidableEq, Repr

structure UacAudioControlHandler where
  classDesc : List UInt8
  config : UacDeviceConfig
  mute : Bool
  volumeDb : Int16
  deriving DecidableEq, Repr

variable {Handler : Type}

namespace UacAudioControlHandler

variable (h : UacAudioControlHandler) (urb : ControlUrb Handler)

def muteControl : UsbIpRetSubmit Handler :=
  let request := urb.setup.request
  if h.config.featureUnitMute = false then urb.stall
  else if request = ClassRequest.getCur then urb.replyData [if h.mute then 1 else 0]
  else if request = ClassRequest.setCur then urb.acknowledge
  else urb.stall

def volumeControl : UsbIpRetSubmit Handler :=
  let request := urb.setup.request
  if h.config.featureUnitVolume = false then urb.stall
  else if request = ClassRequest.getCur then urb.replyData (int16Bytes h.volumeDb)
  else if request = ClassRequest.getMin then urb.replyData (int16Bytes h.config.volumeMinDb256)
  else if request = ClassRequest.getMax then urb.replyData (int16Bytes h.config.volumeMaxDb256)
  else if request = ClassRequest.getDef then urb.replyData (int16Bytes 0)
  else if request = ClassRequest.getRes then urb.replyData (int16Bytes 0x0100)
  else if request = ClassRequest.setCur then urb.acknowledge
  else urb.stall

/-- The reply of `UacAudioControlHandler::handle_non_standard_request_type_control_urb`; the
direction of the request is not looked at. -/
def handleNonStandardRequestTypeControlUrb : UsbIpRetSubmit Handler :=
  urb.classRequest h.classDesc <|
    if urb.entity = entityInputTerminal ∨ urb.entity = entityOutputTerminal then
      urb.acknowledge
    else if urb.entity ≠ entityFeatureUnit then urb.stall
    else if urb.controlSelector = fuMuteControl then h.muteControl urb
    else if urb.controlSelector = fuVolumeControl then h.volumeControl urb
    else urb.stall

/-- One byte tells of the mute switch. -/
def muteStage : DataStage :=
  if h.config.featureUnitMute ∧ urb.setup.request = ClassRequest.getCur then .whole 1 else .none

/-- The requests for a volume. -/
def volumeRequests : List UInt8 :=
  [ClassRequest.getCur, ClassRequest.getMin, ClassRequest.getMax, ClassRequest.getDef,
    ClassRequest.getRes]

/-- Two bytes tell of a volume. -/
def volumeStage : DataStage :=
  if h.config.featureUnitVolume ∧ urb.setup.request ∈ volumeRequests then .whole 2 else .none

def dataStage : DataStage :=
  urb.classRequestStage h.classDesc <|
    if urb.entity ≠ entityFeatureUnit then .none
    else if urb.controlSelector = fuMuteControl then h.muteStage urb
    else if urb.controlSelector = fuVolumeControl then h.volumeStage urb
    else .none

variable {urb}

open ControlUrb

theorem hasStage_muteControl (hin : IsControlIn urb) :
    HasStage urb (h.muteControl urb) (h.muteStage urb) := by
  unfold muteControl muteStage
  cases hmute : h.config.featureUnitMute with
  | false => simpa using hasStage_stall urb
  | true =>
      simp only [Bool.true_eq_false, if_false, true_and]
      split
      · exact hasStage_replyData_whole hin rfl
      · split
        · exact hasStage_acknowledge urb
        · exact hasStage_stall urb

theorem hasStage_volumeControl (hin : IsControlIn urb) :
    HasStage urb (h.volumeControl urb) (h.volumeStage urb) := by
  have hvalue (value : Int16) : HasStage urb (urb.replyData (int16Bytes value)) (.whole 2) :=
    hasStage_replyData_whole hin (length_int16Bytes value)
  unfold volumeControl volumeStage
  cases hvolume : h.config.featureUnitVolume with
  | false => simpa using hasStage_stall urb
  | true =>
      simp only [Bool.true_eq_false, if_false, true_and]
      unfold volumeRequests
      refine hasStage_code (hvalue h.volumeDb) ?_
      refine hasStage_code (hvalue h.config.volumeMinDb256) ?_
      refine hasStage_code (hvalue h.config.volumeMaxDb256) ?_
      refine hasStage_code (hvalue 0) ?_
      refine hasStage_code (hvalue 0x0100) ?_
      refine hasStage_no_code ?_
      split
      · exact hasStage_acknowledge urb
      · exact hasStage_stall urb

/-- The control interface answers a request with its data stage. -/
theorem hasStage_handleNonStandardRequestTypeControlUrb (hin : IsControlIn urb) :
    HasStage urb (h.handleNonStandardRequestTypeControlUrb urb) (h.dataStage urb) := by
  unfold handleNonStandardRequestTypeControlUrb dataStage
  refine hasStage_classRequest hin h.classDesc ?_
  by_cases hunit : urb.entity = entityFeatureUnit
  · have hterminal : ¬ (urb.entity = entityInputTerminal ∨
        urb.entity = entityOutputTerminal) := by
      rw [hunit]
      decide
    rw [if_neg hterminal, if_neg (not_not_intro hunit), if_neg (not_not_intro hunit)]
    split
    · exact h.hasStage_muteControl hin
    · split
      · exact h.hasStage_volumeControl hin
      · exact hasStage_stall urb
  · rw [if_pos hunit]
    split
    · exact hasStage_acknowledge urb
    · exact hasStage_stall urb

end UacAudioControlHandler

structure AudioFormatInfo where
  channels : UInt16
  bitsPerSample : UInt8
  sampleRate : UInt32
  deriving DecidableEq, Repr

/-- A source or a sink of audio; the format it was set to is one of those it supports. -/
structure AudioStream where
  supportedFormats : List AudioFormatInfo
  currentFormat : AudioFormatInfo
  setFormat : UInt16 → UInt8 → UInt32 → Bool
  current_mem : currentFormat ∈ supportedFormats

/-- The sampling rates that a stream offers. -/
abbrev SampleRates : Type := { rates : List UInt32 // rates ≠ [] }

namespace SampleRates

variable (rates : SampleRates)

def first : UInt32 := rates.val.head rates.property

def last : UInt32 := rates.val.getLast rates.property

/-- The first of the rates that are nearest to `rate`. -/
def nearest (rate : UInt32) : UInt32 :=
  (rates.val.argmin fun a => ((a.toNat : Int) - rate.toNat).natAbs).get
    (Option.isSome_iff_ne_none.mpr (mt List.argmin_eq_none.mp rates.property))

end SampleRates

namespace AudioStream

variable (stream : AudioStream)

/-- The rates of the formats with as many channels and bits as the current one, in order. -/
def sortedRates : List UInt32 :=
  let fmt := stream.currentFormat
  ((stream.supportedFormats.filter fun f =>
    f.channels = fmt.channels ∧ f.bitsPerSample = fmt.bitsPerSample).map
      AudioFormatInfo.sampleRate).mergeSort

theorem current_mem_sortedRates : stream.currentFormat.sampleRate ∈ stream.sortedRates := by
  refine List.mem_mergeSort.mpr (List.mem_map_of_mem ?_)
  exact List.mem_filter.mpr ⟨stream.current_mem, by simp⟩

/-- The rates with those that a sink lists twice. -/
def sinkRates : SampleRates :=
  ⟨stream.sortedRates, List.ne_nil_of_mem stream.current_mem_sortedRates⟩

/-- The rates without those that a source lists twice. -/
def supportedSampleRates : SampleRates :=
  ⟨stream.sortedRates.eraseDups,
    List.ne_nil_of_mem (List.mem_eraseDups.mpr stream.current_mem_sortedRates)⟩

end AudioStream

/-- A sampling rate, of which 24 bits are sent. -/
def rateBytes (rate : UInt32) : List UInt8 := leBytesOfNat 3 rate.toNat

@[simp] theorem length_rateBytes (rate : UInt32) : (rateBytes rate).length = 3 :=
  length_leBytesOfNat 3 rate.toNat

/-- The streaming interface of an audio device, with the rates it offers. -/
structure UacAudioStreamingHandler where
  classDesc : List UInt8
  stream : AudioStream
  rates : SampleRates

/-- The interface of a microphone. -/
def uacAudioStreamingSourceHandler (classDesc : List UInt8) (source : AudioStream) :
    UacAudioStreamingHandler :=
  ⟨classDesc, source, source.supportedSampleRates⟩

/-- The interface of a loudspeaker. -/
def uacAudioStreamingSinkHandler (classDesc : List UInt8) (sink : AudioStream) :
    UacAudioStreamingHandler :=
  ⟨classDesc, sink, sink.sinkRates⟩

namespace UacAudioStreamingHandler

variable (h : UacAudioStreamingHandler) (urb : ControlUrb Handler)

/-- The stream takes the offered rate that is nearest to the one in the data. -/
def TakesRate : Prop :=
  let fmt := h.stream.currentFormat
  3 ≤ urb.trx.data.length ∧
    h.stream.setFormat fmt.channels fmt.bitsPerSample
      (h.rates.nearest (.ofNat (leField 3 0 urb.trx.data))) = true

instance : Decidable (h.TakesRate urb) := inferInstanceAs (Decidable (_ ∧ _))

/-- A new rate is confirmed with the length of the buffer. -/
def handleSamplingFreqControl : Option (UsbIpRetSubmit Handler) :=
  let request := urb.setup.request
  if request = ClassRequest.getCur then
    some (urb.replyData (rateBytes h.stream.currentFormat.sampleRate))
  else if request = ClassRequest.getMin then some (urb.replyData (rateBytes h.rates.first))
  else if request = ClassRequest.getMax then some (urb.replyData (rateBytes h.rates.last))
  else if request = ClassRequest.setCur ∧ h.TakesRate urb then
    some (.createRetSubmitWithStatusAndNoData urb.seqnum UrbStatusType.statusOK
      urb.transferBufferLength)
  else none

/-- The reply to a request to the interface. -/
def handleNonStandardRequestTypeControlUrb : UsbIpRetSubmit Handler :=
  urb.classRequest h.classDesc <|
    if urb.entity ≠ 0 ∨ urb.controlSelector ≠ asSamplingFreqControl then urb.stall
    else (h.handleSamplingFreqControl urb).getD urb.stall

/-- The reply to a request to its endpoint, of whatever type. -/
def handleNonStandardRequestTypeControlUrbToEndpoint : UsbIpRetSubmit Handler :=
  if urb.controlSelector ≠ asSamplingFreqControl then urb.stall
  else (h.handleSamplingFreqControl urb).getD urb.stall

def samplingFreqStage : DataStage :=
  let request := urb.setup.request
  if request ∈ [ClassRequest.getCur, ClassRequest.getMin, ClassRequest.getMax] then .whole 3
  else if request = ClassRequest.setCur ∧ h.TakesRate urb then .announced
  else .none

def dataStage : DataStage :=
  urb.classRequestStage h.classDesc <|
    if urb.entity ≠ 0 ∨ urb.controlSelector ≠ asSamplingFreqControl then .none
    else h.samplingFreqStage urb

def endpointDataStage : DataStage :=
  if urb.controlSelector ≠ asSamplingFreqControl then .none else h.samplingFreqStage urb

variable {urb}

open ControlUrb

theorem hasStage_handleSamplingFreqControl (hin : IsControlIn urb) :
    HasStage urb ((h.handleSamplingFreqControl urb).getD urb.stall)
      (h.samplingFreqStage urb) := by
  have hrate (rate : UInt32) : HasStage urb (urb.replyData (rateBytes rate)) (.whole 3) :=
    hasStage_replyData_whole hin (length_rateBytes rate)
  unfold handleSamplingFreqControl samplingFreqStage
  dsimp only
  by_cases hrequest :
      urb.setup.request ∈ [ClassRequest.getCur, ClassRequest.getMin, ClassRequest.getMax]
  · rw [if_pos hrequest]
    split
    · exact hrate h.stream.currentFormat.sampleRate
    split
    · exact hrate h.rates.first
    split
    · exact hrate h.rates.last
    next hcur hmin hmax => exact absurd hrequest (by simp [hcur, hmin, hmax])
  · rw [if_neg hrequest]
    simp only [List.mem_cons, List.not_mem_nil, or_false, not_or] at hrequest
    obtain ⟨hcur, hmin, hmax⟩ := hrequest
    simp only [hcur, hmin, hmax, if_false]
    split
    · exact ⟨rfl, rfl⟩
    · exact hasStage_stall urb

/-- A streaming interface answers a request with its data stage. -/
theorem hasStage_handleNonStandardRequestTypeControlUrb (hin : IsControlIn urb) :
    HasStage urb (h.handleNonStandardRequestTypeControlUrb urb) (h.dataStage urb) := by
  unfold handleNonStandardRequestTypeControlUrb dataStage
  refine hasStage_classRequest hin h.classDesc ?_
  split
  · exact hasStage_stall urb
  · exact h.hasStage_handleSamplingFreqControl hin

theorem hasStage_handleNonStandardRequestTypeControlUrbToEndpoint (hin : IsControlIn urb) :
    HasStage urb (h.handleNonStandardRequestTypeControlUrbToEndpoint urb)
      (h.endpointDataStage urb) := by
  unfold handleNonStandardRequestTypeControlUrbToEndpoint endpointDataStage
  split
  · exact hasStage_stall urb
  · exact h.hasStage_handleSamplingFreqControl hin

end UacAudioStreamingHandler

end Uac

end Usbipdcpp.VirtualDevice
