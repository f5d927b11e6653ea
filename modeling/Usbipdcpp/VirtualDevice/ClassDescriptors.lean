import Usbipdcpp.VirtualDevice.AudioControl
import Usbipdcpp.VirtualDevice.ConfigurationDescriptor
import Usbipdcpp.VirtualDevice.VideoNegotiation

namespace Usbipdcpp.VirtualDevice

open Foundation.ByteStream Foundation.LengthTagged Protocol

namespace ConfigurationDescriptor

def csInterface : UInt8 := 0x24

/-- The length of the descriptors, filled in at an offset when they are built. -/
def backfill (offset : Nat) (desc : List UInt8) : List UInt8 :=
  (desc.set offset (.ofNat desc.length)).set (offset + 1) (.ofNat (desc.length >>> 8))

section Hid

/-- `HidVirtualInterfaceHandler::get_class_specific_descriptor`. -/
def hidDescriptor (reportDescriptorSize : UInt16) : List UInt8 :=
  [0x09, 0x21, 0x11, 0x01, 0x00, 0x01, 0x22, reportDescriptorSize.toUInt8,
    (reportDescriptorSize >>> 8).toUInt8]

end Hid

section Communication

def cdcHeaderFunctionalDesc : List UInt8 := [0x05, csInterface, 0x00] ++ u16leToBytes 0x0110

def cdcCallManagementDesc (dataInterface : UInt8) : List UInt8 :=
  [0x05, csInterface, 0x01, 0x00, dataInterface]

def cdcAcmFunctionalDesc (capabilities : UInt8) : List UInt8 :=
  [0x04, csInterface, 0x02, capabilities]

def cdcUnionFunctionalDesc (masterInterface slaveInterface : UInt8) : List UInt8 :=
  [0x05, csInterface, 0x06, masterInterface, slaveInterface]

def cdcEthernetFunctionalDesc (macStringIndex : UInt8) : List UInt8 :=
  [0x0D, csInterface, 0x0F, macStringIndex] ++ leBytesOfNat 4 0 ++ u16leToBytes 1514 ++
    u16leToBytes 0 ++ [0]

/-- The number of the data interface, which is 1 as long as there is no data handler. -/
def slaveInterface (dataHandler : Option UInt8) : UInt8 := dataHandler.getD 1

/-- `CdcAcmCommunicationInterfaceHandler::get_class_specific_descriptor`. -/
def cdcAcmDescriptor (interfaceNumber : UInt8) (dataHandler : Option UInt8) : List UInt8 :=
  cdcHeaderFunctionalDesc ++ cdcCallManagementDesc (slaveInterface dataHandler) ++
    cdcAcmFunctionalDesc 0x02 ++
    cdcUnionFunctionalDesc interfaceNumber (slaveInterface dataHandler)

/-- `EcmCommunicationInterfaceHandler::get_class_specific_descriptor`. -/
def ecmDescriptor (interfaceNumber : UInt8) (dataHandler : Option UInt8)
    (macStringIndex : UInt8) : List UInt8 :=
  cdcHeaderFunctionalDesc ++ cdcUnionFunctionalDesc interfaceNumber (slaveInterface dataHandler) ++
    cdcEthernetFunctionalDesc macStringIndex

/-- `RndisCommunicationInterfaceHandler::get_class_specific_descriptor`; a host takes the function
for another one if there are capabilities. -/
def rndisDescriptor (interfaceNumber : UInt8) (dataHandler : Option UInt8) : List UInt8 :=
  cdcHeaderFunctionalDesc ++ cdcCallManagementDesc (slaveInterface dataHandler) ++
    cdcAcmFunctionalDesc 0x00 ++
    cdcUnionFunctionalDesc interfaceNumber (slaveInterface dataHandler)

end Communication

section Audio

def ttUsbStreaming : UInt16 := 0x0101

/-- The configuration of an audio device with its terminals. -/
structure UacTopology extends Uac.UacDeviceConfig where
  inputTerminalType : UInt16
  outputTerminalType : UInt16
  channels : UInt8
  deriving DecidableEq, Repr

namespace UacTopology

variable (config : UacTopology)

/-- `UacAudioControlHandler::set_config`: one channel stands in for a number that is not
supported. -/
def setConfig : UacTopology :=
  { config with channels :=
      if config.channels ≠ 1 ∧ config.channels ≠ 2 then 1 else config.channels }

def isSpeaker : Bool := config.inputTerminalType = ttUsbStreaming

def bmaControls : UInt8 :=
  (if config.featureUnitMute then 0x01 else 0) ||| if config.featureUnitVolume then 0x02 else 0

def channelConfig : UInt16 := if config.channels = 2 then 0x0003 else 0x0004

def outputType : UInt16 := if config.isSpeaker then config.outputTerminalType else ttUsbStreaming

end UacTopology

def acHeaderDesc (wTotalLength : UInt16) (interfaceNumber : UInt8) : List UInt8 :=
  [9, csInterface, 0x01] ++ u16leToBytes 0x0100 ++ u16leToBytes wTotalLength ++
    [0x01, interfaceNumber]

def acInputTerminalDesc (config : UacTopology) : List UInt8 :=
  [12, csInterface, 0x02, Uac.entityInputTerminal] ++ u16leToBytes config.inputTerminalType ++
    [0x00, config.channels] ++ u16leToBytes config.channelConfig ++ [0x00, 0x00]

def acFeatureUnitDesc (config : UacTopology) : List UInt8 :=
  [7 + config.channels + 1, csInterface, 0x06, Uac.entityFeatureUnit, Uac.entityInputTerminal,
    0x01] ++ List.replicate (config.channels.toNat + 1) config.bmaControls ++ [0x00]

def acOutputTerminalDesc (config : UacTopology) : List UInt8 :=
  [9, csInterface, 0x03, Uac.entityOutputTerminal] ++ u16leToBytes config.outputType ++
    [0x00, Uac.entityFeatureUnit, 0x00]

/-- `UacAudioControlHandler::build_class_descriptor`. -/
def audioControlDescriptor (config : UacTopology) (asInterfaceNumber : UInt8) : List UInt8 :=
  backfill 5 (acHeaderDesc 0 asInterfaceNumber ++ acInputTerminalDesc config ++
    acFeatureUnitDesc config ++ acOutputTerminalDesc config)

def asGeneralDesc (terminalLink : UInt8) : List UInt8 :=
  [7, csInterface, 0x01, terminalLink, 0x01] ++ u16leToBytes 0x0001

/-- The rates may be more than the length of the descriptor can tell. -/
def asFormatTypeIDesc (fmt : Uac.AudioFormatInfo) (rates : List UInt32) : List UInt8 :=
  [.ofNat (8 + rates.length * 3), csInterface, 0x02, 0x01, fmt.channels.toUInt8, 0x02,
    fmt.bitsPerSample, .ofNat rates.length] ++ rates.flatMap Uac.rateBytes

/-- `build_class_descriptor` of the streaming interface of a microphone or a loudspeaker. -/
def audioStreamingDescriptor (terminalLink : UInt8) (stream : Uac.AudioStream) : List UInt8 :=
  asGeneralDesc terminalLink ++
    asFormatTypeIDesc stream.currentFormat stream.supportedSampleRates.val

/-- The samples of a microphone leave through its output terminal. -/
def microphoneStreamingDescriptor (source : Uac.AudioStream) : List UInt8 :=
  audioStreamingDescriptor Uac.entityOutputTerminal source

/-- The samples of a loudspeaker come in through its input terminal. -/
def speakerStreamingDescriptor (sink : Uac.AudioStream) : List UInt8 :=
  audioStreamingDescriptor Uac.entityInputTerminal sink

end Audio

section Video

def vcHeaderDesc (wTotalLength : UInt16) (interfaceNumber : UInt8) : List UInt8 :=
  [13, csInterface, 0x01] ++ u16leToBytes 0x0150 ++ u16leToBytes wTotalLength ++
    leBytesOfNat 4 0x019BFCC0 ++ [0x01, interfaceNumber]

def vcCameraTerminalDesc : List UInt8 :=
  [18, csInterface, 0x02, 0x01] ++ u16leToBytes 0x0201 ++ [0x00, 0x00] ++ u16leToBytes 0 ++
    u16leToBytes 0 ++ u16leToBytes 0 ++ [0x03, 0x00, 0x00, 0x00]

def vcProcessingUnitDesc : List UInt8 :=
  [13, csInterface, 0x05, 0x02, 0x01] ++ u16leToBytes 0 ++ [0x03, 0x1F, 0x02, 0x00, 0x00, 0x00]

def vcOutputTerminalDesc : List UInt8 :=
  [9, csInterface, 0x03, 0x03] ++ u16leToBytes ttUsbStreaming ++ [0x00, 0x02, 0x00]

/-- `UvcVideoControlHandler::build_class_descriptor`; the streaming interface is 1 as long as there
is no handler of it. -/
def videoControlDescriptor (vsHandler : Option UInt8) : List UInt8 :=
  backfill 5 (vcHeaderDesc 0 (vsHandler.getD 1) ++ vcCameraTerminalDesc ++
    vcProcessingUnitDesc ++ vcOutputTerminalDesc)

/-- A format of a video source with the size of its frames and of its pixels. -/
structure VideoFormat extends Uvc.VideoFormatInfo where
  maxFrameSize : UInt32
  bitsPerPixel : UInt8
  deriving DecidableEq, Repr

/-- `UvcGuid::from_fourcc`. -/
def guidOfFourcc (fourcc : UInt32) : List UInt8 :=
  leBytesOfNat 4 fourcc.toNat ++
    [0x00, 0x00, 0x10, 0x00, 0x80, 0x00, 0x00, 0xAA, 0x00, 0x38, 0x9B, 0x71]

namespace VideoFormat

variable (fmt : VideoFormat)

def category : Uvc.UvcFormatCategory := Uvc.uvcFormatCategory fmt.fourcc

def formatDesc : List UInt8 :=
  match fmt.category with
  | .uncompressed =>
      [27, 0x24, 0x04, 0x01, 0x01] ++ guidOfFourcc fmt.fourcc ++
        [fmt.bitsPerPixel, 0x01, 0x00, 0x00, 0x00, 0x00]
  | .mjpeg => [11, 0x24, 0x06, 0x01, 0x01, 0x01, 0x01] ++ List.replicate 4 0x00
  | .frameBased =>
      [28, 0x24, 0x10, 0x01, 0x01] ++ guidOfFourcc fmt.fourcc ++
        [fmt.bitsPerPixel, 0x01, 0x00, 0x00, 0x00, 0x00, 0x01]
  | .h264 =>
      [52, 0x24, 0x13, 0x01, 0x01, 0x01] ++ List.replicate 15 0x00 ++ guidOfFourcc fmt.fourcc ++
        [fmt.bitsPerPixel, 0x01, 0x01] ++ List.replicate 12 0x00

def frameSubtype : UInt8 :=
  match fmt.category with
  | .uncompressed => 0x05
  | .mjpeg => 0x07
  | .frameBased => 0x11
  | .h264 => 0x14

def frameBase : Nat := if fmt.category = .h264 then 44 else 26

/-- The bits of a second; the product is taken modulo `2 ^ 32`. -/
def bitRate : Nat :=
  fmt.maxFrameSize.toNat * 8 * (10000000 / fmt.defaultFrameInterval.toNat)

def frameDesc : List UInt8 :=
  [.ofNat (fmt.frameBase + 12), 0x24, fmt.frameSubtype, 0x01, 0x00] ++
    leBytesOfNat 2 fmt.width.toNat ++ leBytesOfNat 2 fmt.height.toNat ++
    leBytesOfNat 4 (UInt32.ofNat fmt.bitRate).toNat ++
    leBytesOfNat 4 (UInt32.ofNat fmt.bitRate).toNat ++ leBytesOfNat 4 fmt.maxFrameSize.toNat ++
    leBytesOfNat 4 fmt.defaultFrameInterval.toNat ++ List.replicate (fmt.frameBase - 25) 0x00 ++
    leBytesOfNat 4 fmt.minFrameInterval.toNat ++ leBytesOfNat 4 fmt.maxFrameInterval.toNat ++
    leBytesOfNat 4 fmt.minFrameInterval.toNat

/-- Two of the payload formats ask for the colours. -/
def hasColor : Bool := fmt.category = .uncompressed ∨ fmt.category = .mjpeg

end VideoFormat

def vsColorMatchingDesc : List UInt8 := [6, csInterface, 0x0D, 0x01, 0x01, 0x04]

def vsInputHeaderDesc (wTotalLength : UInt16) (endpointAddress : UInt8) : List UInt8 :=
  [14, csInterface, 0x01, 0x01] ++ u16leToBytes wTotalLength ++
    [endpointAddress, 0x00, 0x03, 0x00, 0x00, 0x00, 1, 0x00]

/-- The endpoint of the streaming setting, or else of the first one. -/
def streamingEndpointAddress (endpoints : List (List UsbEndpoint)) : UInt8 :=
  match (endpoints[1]?).bind List.head?, (endpoints[0]?).bind List.head? with
  | some endpoint, _ => endpoint.address
  | none, some endpoint => endpoint.address
  | none, none => 0x81

/-- `UvcVideoStreamingHandler::build_class_descriptor`. -/
def videoStreamingDescriptor (fmt : VideoFormat) (endpoints : List (List UsbEndpoint)) :
    List UInt8 :=
  backfill 4 (vsInputHeaderDesc 0 (streamingEndpointAddress endpoints) ++ fmt.formatDesc ++
    fmt.frameDesc ++ if fmt.hasColor then vsColorMatchingDesc else [])

end Video

section Blocks

/-- A descriptor of a class, behind the standard one of its interface. -/
def IsClassBlock (block : List UInt8) : Prop :=
  IsBlock block ∧ (bDescriptorType block = csInterface ∨ bDescriptorType block = 0x21)

theorem classSpecific_of_blocks {blocks : List (List UInt8)}
    (h : ∀ block ∈ blocks, IsClassBlock block) : ClassSpecific blocks.flatten := by
  have hcovers : Covers blocks.flatten blocks := ⟨rfl, fun block hblock => (h block hblock).1⟩
  refine ⟨blocks, walk_eq_some_iff.mpr hcovers, fun block hblock => ?_⟩
  rcases (h block hblock).2 with htype | htype
  · rw [htype]
    decide
  · rw [htype]
    decide

theorem u16leToBytes_ofNat (n : Nat) :
    u16leToBytes (.ofNat n) = [.ofNat n, .ofNat (n >>> 8)] := by
  have hbytes : u16leToBytes (.ofNat n) =
      [.ofNat (n % 65536 % 256 / 1), .ofNat (n % 65536 / 256)] := rfl
  have hlow : UInt8.ofNat (n % 65536 % 256 / 1) = .ofNat n := by
    refine UInt8.toNat_inj.mp ?_
    rw [UInt8.toNat_ofNat', UInt8.toNat_ofNat']
    omega
  have hhigh : UInt8.ofNat (n % 65536 / 256) = .ofNat (n >>> 8) := by
    refine UInt8.toNat_inj.mp ?_
    rw [UInt8.toNat_ofNat', UInt8.toNat_ofNat', Nat.shiftRight_eq_div_pow]
    omega
  rw [hbytes, hlow, hhigh]

/-- A descriptor that starts with its length, whatever numbers it tells. -/
theorem isClassBlock_of_length {bLength : UInt8} {rest : List UInt8}
    (h : bLength.toNat = rest.length + 2) : IsClassBlock (bLength :: csInterface :: rest) := by
  refine ⟨⟨?_, ?_⟩, .inl rfl⟩
  · simp
  · simp [h]

def hidBlocks (reportDescriptorSize : UInt16) : List (List UInt8) :=
  [hidDescriptor reportDescriptorSize]

def cdcAcmBlocks (interfaceNumber slave capabilities : UInt8) : List (List UInt8) :=
  [cdcHeaderFunctionalDesc, cdcCallManagementDesc slave, cdcAcmFunctionalDesc capabilities,
    cdcUnionFunctionalDesc interfaceNumber slave]

def ecmBlocks (interfaceNumber slave macStringIndex : UInt8) : List (List UInt8) :=
  [cdcHeaderFunctionalDesc, cdcUnionFunctionalDesc interfaceNumber slave,
    cdcEthernetFunctionalDesc macStringIndex]

/-- The descriptors behind the header of an audio function. -/
def audioEntities (config : UacTopology) : List (List UInt8) :=
  [acInputTerminalDesc config, acFeatureUnitDesc config, acOutputTerminalDesc config]

def audioControlBlocks (config : UacTopology) (asInterfaceNumber : UInt8) : List (List UInt8) :=
  acHeaderDesc (.ofNat (9 + (audioEntities config).flatten.length)) asInterfaceNumber ::
    audioEntities config

def audioStreamingBlocks (terminalLink : UInt8) (stream : Uac.AudioStream) : List (List UInt8) :=
  [asGeneralDesc terminalLink,
    asFormatTypeIDesc stream.currentFormat stream.supportedSampleRates.val]

/-- The descriptors behind the header of a video function. -/
def videoEntities : List (List UInt8) :=
  [vcCameraTerminalDesc, vcProcessingUnitDesc, vcOutputTerminalDesc]

def videoControlBlocks (vsInterfaceNumber : UInt8) : List (List UInt8) :=
  vcHeaderDesc 53 vsInterfaceNumber :: videoEntities

def videoFormats (fmt : VideoFormat) : List (List UInt8) :=
  [fmt.formatDesc, fmt.frameDesc] ++ if fmt.hasColor then [vsColorMatchingDesc] else []

def videoStreamingBlocks (fmt : VideoFormat) (endpointAddress : UInt8) : List (List UInt8) :=
  vsInputHeaderDesc (.ofNat (14 + (videoFormats fmt).flatten.length)) endpointAddress ::
    videoFormats fmt

theorem backfill_acHeaderDesc (interfaceNumber : UInt8) (rest : List UInt8) :
    backfill 5 (acHeaderDesc 0 interfaceNumber ++ rest) =
      acHeaderDesc (.ofNat (9 + rest.length)) interfaceNumber ++ rest := by
  rw [acHeaderDesc, acHeaderDesc, u16leToBytes_ofNat, backfill, List.length_append,
    show ([9, csInterface, 0x01] ++ u16leToBytes 0x0100 ++ u16leToBytes 0 ++
      [0x01, interfaceNumber]).length = 9 from rfl]
  rfl

theorem backfill_vcHeaderDesc (interfaceNumber : UInt8) (rest : List UInt8) :
    backfill 5 (vcHeaderDesc 0 interfaceNumber ++ rest) =
      vcHeaderDesc (.ofNat (13 + rest.length)) interfaceNumber ++ rest := by
  rw [vcHeaderDesc, vcHeaderDesc, u16leToBytes_ofNat, backfill, List.length_append,
    show ([13, csInterface, 0x01] ++ u16leToBytes 0x0150 ++ u16leToBytes 0 ++
      leBytesOfNat 4 0x019BFCC0 ++ [0x01, interfaceNumber]).length = 13 from rfl]
  rfl

theorem backfill_vsInputHeaderDesc (endpointAddress : UInt8) (rest : List UInt8) :
    backfill 4 (vsInputHeaderDesc 0 endpointAddress ++ rest) =
      vsInputHeaderDesc (.ofNat (14 + rest.length)) endpointAddress ++ rest := by
  rw [vsInputHeaderDesc, vsInputHeaderDesc, u16leToBytes_ofNat, backfill, List.length_append,
    show ([14, csInterface, 0x01, 0x01] ++ u16leToBytes 0 ++
      [endpointAddress, 0x00, 0x03, 0x00, 0x00, 0x00, 1, 0x00]).length = 14 from rfl]
  rfl

theorem hidDescriptor_eq (reportDescriptorSize : UInt16) :
    hidDescriptor reportDescriptorSize = (hidBlocks reportDescriptorSize).flatten := rfl

theorem cdcAcmDescriptor_eq (interfaceNumber : UInt8) (dataHandler : Option UInt8) :
    cdcAcmDescriptor interfaceNumber dataHandler =
      (cdcAcmBlocks interfaceNumber (slaveInterface dataHandler) 0x02).flatten := rfl

theorem ecmDescriptor_eq (interfaceNumber : UInt8) (dataHandler : Option UInt8)
    (macStringIndex : UInt8) :
    ecmDescriptor interfaceNumber dataHandler macStringIndex =
      (ecmBlocks interfaceNumber (slaveInterface dataHandler) macStringIndex).flatten := rfl

theorem rndisDescriptor_eq (interfaceNumber : UInt8) (dataHandler : Option UInt8) :
    rndisDescriptor interfaceNumber dataHandler =
      (cdcAcmBlocks interfaceNumber (slaveInterface dataHandler) 0x00).flatten := rfl

theorem audioControlDescriptor_eq (config : UacTopology) (asInterfaceNumber : UInt8) :
    audioControlDescriptor config asInterfaceNumber =
      (audioControlBlocks config asInterfaceNumber).flatten := by
  have hentities : acInputTerminalDesc config ++ acFeatureUnitDesc config ++
      acOutputTerminalDesc config = (audioEntities config).flatten := by
    simp [audioEntities]
  rw [audioControlDescriptor, audioControlBlocks, List.flatten_cons, List.append_assoc,
    List.append_assoc, ← List.append_assoc (acInputTerminalDesc config), hentities,
    backfill_acHeaderDesc]

theorem audioStreamingDescriptor_eq (terminalLink : UInt8) (stream : Uac.AudioStream) :
    audioStreamingDescriptor terminalLink stream =
      (audioStreamingBlocks terminalLink stream).flatten := by
  simp [audioStreamingDescriptor, audioStreamingBlocks]

theorem videoControlDescriptor_eq (vsHandler : Option UInt8) :
    videoControlDescriptor vsHandler = (videoControlBlocks (vsHandler.getD 1)).flatten := by
  have hentities : vcCameraTerminalDesc ++ vcProcessingUnitDesc ++ vcOutputTerminalDesc =
      videoEntities.flatten := rfl
  rw [videoControlDescriptor, videoControlBlocks, List.flatten_cons, List.append_assoc,
    List.append_assoc, ← List.append_assoc vcCameraTerminalDesc, hentities,
    backfill_vcHeaderDesc]
  rfl

theorem videoStreamingDescriptor_eq (fmt : VideoFormat) (endpoints : List (List UsbEndpoint)) :
    videoStreamingDescriptor fmt endpoints =
      (videoStreamingBlocks fmt (streamingEndpointAddress endpoints)).flatten := by
  have hformats : fmt.formatDesc ++ fmt.frameDesc ++
      (if fmt.hasColor then vsColorMatchingDesc else []) = (videoFormats fmt).flatten := by
    unfold videoFormats
    split <;> simp
  rw [videoStreamingDescriptor, videoStreamingBlocks, List.flatten_cons, List.append_assoc,
    List.append_assoc, ← List.append_assoc fmt.formatDesc, hformats, backfill_vsInputHeaderDesc]

theorem isClassBlock_hid (reportDescriptorSize : UInt16) :
    ∀ block ∈ hidBlocks reportDescriptorSize, IsClassBlock block := by
  intro block hblock
  obtain rfl : block = hidDescriptor reportDescriptorSize := by simpa [hidBlocks] using hblock
  exact ⟨⟨by simp [hidDescriptor], by simp [hidDescriptor]⟩, .inr rfl⟩

theorem isClassBlock_cdcAcm (interfaceNumber slave capabilities : UInt8) :
    ∀ block ∈ cdcAcmBlocks interfaceNumber slave capabilities, IsClassBlock block := by
  intro block hblock
  have hcases : block = cdcHeaderFunctionalDesc ∨ block = cdcCallManagementDesc slave ∨
      block = cdcAcmFunctionalDesc capabilities ∨
        block = cdcUnionFunctionalDesc interfaceNumber slave := by
    simpa [cdcAcmBlocks] using hblock
  rcases hcases with rfl | rfl | rfl | rfl <;> exact isClassBlock_of_length rfl

theorem isClassBlock_ecm (interfaceNumber slave macStringIndex : UInt8) :
    ∀ block ∈ ecmBlocks interfaceNumber slave macStringIndex, IsClassBlock block := by
  intro block hblock
  have hcases : block = cdcHeaderFunctionalDesc ∨
      block = cdcUnionFunctionalDesc interfaceNumber slave ∨
        block = cdcEthernetFunctionalDesc macStringIndex := by
    simpa [ecmBlocks] using hblock
  rcases hcases with rfl | rfl | rfl <;> exact isClassBlock_of_length rfl

/-- The length of the feature unit has room for the channels that are supported. -/
theorem isClassBlock_audioControl {config : UacTopology}
    (hchannels : config.channels = 1 ∨ config.channels = 2) (asInterfaceNumber : UInt8) :
    ∀ block ∈ audioControlBlocks config asInterfaceNumber, IsClassBlock block := by
  intro block hblock
  have hcases : block = acHeaderDesc (.ofNat (9 + (audioEntities config).flatten.length))
        asInterfaceNumber ∨ block = acInputTerminalDesc config ∨
      block = acFeatureUnitDesc config ∨ block = acOutputTerminalDesc config := by
    simpa only [audioControlBlocks, audioEntities, List.mem_cons, List.not_mem_nil,
      or_false] using hblock
  rcases hcases with rfl | rfl | rfl | rfl
  · exact isClassBlock_of_length rfl
  · exact isClassBlock_of_length rfl
  · refine isClassBlock_of_length ?_
    rcases hchannels with hone | htwo
    · rw [hone]
      rfl
    · rw [htwo]
      rfl
  · exact isClassBlock_of_length rfl

theorem length_flatMap_rateBytes (rates : List UInt32) :
    (rates.flatMap Uac.rateBytes).length = rates.length * 3 := by
  simp [List.length_flatMap]

/-- The descriptor of the rates tells its length as long as they are not more than 82. -/
theorem isBlock_asFormatTypeIDesc_iff (fmt : Uac.AudioFormatInfo) (rates : List UInt32) :
    IsBlock (asFormatTypeIDesc fmt rates) ↔ rates.length ≤ 82 := by
  have hlength : (asFormatTypeIDesc fmt rates).length = 8 + rates.length * 3 := by
    rw [asFormatTypeIDesc, List.length_append, length_flatMap_rateBytes]
    rfl
  have hhead : (asFormatTypeIDesc fmt rates).head? = some (.ofNat (8 + rates.length * 3)) := rfl
  rw [IsBlock, hlength, hhead, Option.map_some, Option.some_inj, UInt8.toNat_ofNat']
  omega

theorem isClassBlock_audioStreaming {stream : Uac.AudioStream}
    (hrates : stream.supportedSampleRates.val.length ≤ 82) (terminalLink : UInt8) :
    ∀ block ∈ audioStreamingBlocks terminalLink stream, IsClassBlock block := by
  intro block hblock
  have hcases : block = asGeneralDesc terminalLink ∨
      block = asFormatTypeIDesc stream.currentFormat stream.supportedSampleRates.val := by
    simpa [audioStreamingBlocks] using hblock
  rcases hcases with rfl | rfl
  · exact isClassBlock_of_length rfl
  · exact ⟨(isBlock_asFormatTypeIDesc_iff _ _).mpr hrates, .inl rfl⟩

theorem isClassBlock_videoControl (vsInterfaceNumber : UInt8) :
    ∀ block ∈ videoControlBlocks vsInterfaceNumber, IsClassBlock block := by
  intro block hblock
  have hcases : block = vcHeaderDesc 53 vsInterfaceNumber ∨ block = vcCameraTerminalDesc ∨
      block = vcProcessingUnitDesc ∨ block = vcOutputTerminalDesc := by
    simpa only [videoControlBlocks, videoEntities, List.mem_cons, List.not_mem_nil,
      or_false] using hblock
  rcases hcases with rfl | rfl | rfl | rfl <;> exact isClassBlock_of_length rfl

theorem isClassBlock_formatDesc (fmt : VideoFormat) : IsClassBlock fmt.formatDesc := by
  unfold VideoFormat.formatDesc
  split <;> exact isClassBlock_of_length rfl

theorem isClassBlock_frameDesc (fmt : VideoFormat) : IsClassBlock fmt.frameDesc := by
  refine isClassBlock_of_length ?_
  unfold VideoFormat.frameBase
  split <;> simp

theorem isClassBlock_videoStreaming (fmt : VideoFormat) (endpointAddress : UInt8) :
    ∀ block ∈ videoStreamingBlocks fmt endpointAddress, IsClassBlock block := by
  intro block hblock
  rcases List.mem_cons.mp hblock with rfl | hformat
  · exact isClassBlock_of_length rfl
  rcases List.mem_append.mp hformat with hmem | hcolor
  · have hcases : block = fmt.formatDesc ∨ block = fmt.frameDesc := by simpa using hmem
    rcases hcases with rfl | rfl
    · exact isClassBlock_formatDesc fmt
    · exact isClassBlock_frameDesc fmt
  · obtain ⟨-, rfl⟩ : _ ∧ block = vsColorMatchingDesc := by simpa using hcolor
    exact isClassBlock_of_length rfl

end Blocks

end ConfigurationDescriptor

end Usbipdcpp.VirtualDevice
