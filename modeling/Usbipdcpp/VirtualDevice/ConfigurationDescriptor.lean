import Usbipdcpp.Foundation.LengthTagged
import Usbipdcpp.VirtualDevice.ControlUrb

namespace Usbipdcpp.VirtualDevice.ConfigurationDescriptor

open Foundation.ByteStream Foundation.LengthTagged Protocol

namespace DescriptorType

def configuration : UInt8 := 2
def interface : UInt8 := 4
def endpoint : UInt8 := 5
def interfaceAssociation : UInt8 := 0x0B

end DescriptorType

def csEndpoint : UInt8 := 0x25

/-- The type that a descriptor has behind its length. -/
def bDescriptorType (desc : List UInt8) : UInt8 := desc.getD 1 0

def bFirstInterface (desc : List UInt8) : UInt8 := desc.getD 2 0

def bInterfaceNumber (desc : List UInt8) : UInt8 := desc.getD 2 0

def bAlternateSetting (desc : List UInt8) : UInt8 := desc.getD 3 0

def bNumEndpoints (desc : List UInt8) : UInt8 := desc.getD 4 0

def wTotalLength (desc : List UInt8) : Nat := leField 2 2 desc

/-- An association descriptor; its first interface is filled in where it is sent. -/
structure IadDesc where
  bLength : UInt8
  bDescriptorType : UInt8
  bFirstInterface : UInt8
  bInterfaceCount : UInt8
  bFunctionClass : UInt8
  bFunctionSubClass : UInt8
  bFunctionProtocol : UInt8
  iFunction : UInt8
  bLength_eq : bLength = 8
  bDescriptorType_eq : bDescriptorType = DescriptorType.interfaceAssociation

namespace IadDesc

def make (bInterfaceCount bFunctionClass bFunctionSubClass bFunctionProtocol iFunction : UInt8) :
    IadDesc where
  bLength := 8
  bDescriptorType := DescriptorType.interfaceAssociation
  bFirstInterface := 0
  bInterfaceCount := bInterfaceCount
  bFunctionClass := bFunctionClass
  bFunctionSubClass := bFunctionSubClass
  bFunctionProtocol := bFunctionProtocol
  iFunction := iFunction
  bLength_eq := rfl
  bDescriptorType_eq := rfl

def toBytes (iad : IadDesc) : List UInt8 :=
  [iad.bLength, iad.bDescriptorType, iad.bFirstInterface, iad.bInterfaceCount,
    iad.bFunctionClass, iad.bFunctionSubClass, iad.bFunctionProtocol, iad.iFunction]

end IadDesc

structure UsbEndpoint extends VirtualDevice.UsbEndpoint where
  maxPacketSize : UInt16
  interval : UInt8

/-- What an interface handler contributes to the configuration descriptor. -/
structure VirtualInterfaceHandler where
  getClassSpecificDescriptor : List UInt8
  putClassSpecificDescriptorInAllAlts : Bool
  getStringInterfaceValue : UInt8

structure UsbInterface where
  interfaceClass : UInt8
  interfaceSubclass : UInt8
  interfaceProtocol : UInt8
  interfaceNumber : UInt8
  interfaceAssociationDescriptor : Option IadDesc
  endpoints : List (List UsbEndpoint)
  handler : Option VirtualInterfaceHandler

structure UsbDevice where
  configurationValue : UInt8
  stringConfigurationValue : UInt8
  interfaces : List UsbInterface

def endpointDesc (endpoint : UsbEndpoint) : List UInt8 :=
  [0x07, DescriptorType.endpoint, endpoint.address, endpoint.attributes] ++
    u16leToBytes endpoint.maxPacketSize ++ [endpoint.interval]

def vcInterruptEndpointDesc (endpoint : UsbEndpoint) : List UInt8 :=
  [0x05, csEndpoint, 0x03] ++ u16leToBytes endpoint.maxPacketSize

/-- The sampling rate of the endpoint can be set. -/
def asEpGeneralDesc : List UInt8 := [7, csEndpoint, 0x01, 0x01, 0x00, 0x00, 0x00]

@[simp] theorem bDescriptorType_endpointDesc (endpoint : UsbEndpoint) :
    bDescriptorType (endpointDesc endpoint) = DescriptorType.endpoint := rfl

@[simp] theorem bDescriptorType_vcInterruptEndpointDesc (endpoint : UsbEndpoint) :
    bDescriptorType (vcInterruptEndpointDesc endpoint) = csEndpoint := rfl

namespace UsbInterface

variable (intf : UsbInterface)

/-- An interrupt endpoint of a video control interface. -/
def IsVideoInterrupt (endpoint : UsbEndpoint) : Prop :=
  intf.interfaceClass = 0x0E ∧ intf.interfaceSubclass = 0x01 ∧ endpoint.attributes &&& 0x03 = 0x03

/-- An isochronous endpoint of an audio streaming interface. -/
def IsAudioStream (endpoint : UsbEndpoint) : Prop :=
  intf.interfaceClass = 0x01 ∧ intf.interfaceSubclass = 0x02 ∧ endpoint.attributes &&& 0x03 = 0x01

instance (endpoint : UsbEndpoint) : Decidable (intf.IsVideoInterrupt endpoint) :=
  inferInstanceAs (Decidable (_ ∧ _))

instance (endpoint : UsbEndpoint) : Decidable (intf.IsAudioStream endpoint) :=
  inferInstanceAs (Decidable (_ ∧ _))

def endpointBytes (endpoint : UsbEndpoint) : List UInt8 :=
  endpointDesc endpoint ++
    ((if intf.IsVideoInterrupt endpoint then vcInterruptEndpointDesc endpoint else []) ++
      if intf.IsAudioStream endpoint then asEpGeneralDesc else [])

/-- Without a handler there is no class-specific descriptor. -/
def classSpecificDescriptor : List UInt8 :=
  intf.handler.elim [] VirtualInterfaceHandler.getClassSpecificDescriptor

def allAlts : Bool :=
  intf.handler.any VirtualInterfaceHandler.putClassSpecificDescriptorInAllAlts

def numAlts : Nat := if intf.endpoints.length = 0 then 1 else intf.endpoints.length

def altEndpoints (alt : Nat) : List UsbEndpoint :=
  (intf.endpoints[alt]?).getD (intf.endpoints.headD [])

def interfaceDesc (alt : Nat) : List UInt8 :=
  [0x09, DescriptorType.interface, intf.interfaceNumber, .ofNat alt,
    .ofNat (intf.altEndpoints alt).length, intf.interfaceClass, intf.interfaceSubclass,
    intf.interfaceProtocol, intf.handler.elim 0 VirtualInterfaceHandler.getStringInterfaceValue]

/-- The class-specific descriptor follows alternate setting 0, or every one. -/
def settingBytes (alt : Nat) : List UInt8 :=
  intf.interfaceDesc alt ++
    ((if (alt = 0 ∨ intf.allAlts) ∧ intf.classSpecificDescriptor ≠ [] then
        intf.classSpecificDescriptor else []) ++
      (intf.altEndpoints alt).flatMap intf.endpointBytes)

/-- The association descriptor of a function stands before its first interface. -/
def associationBytes : List UInt8 :=
  intf.interfaceAssociationDescriptor.elim [] fun iad =>
    { iad with bFirstInterface := intf.interfaceNumber }.toBytes

def bytes : List UInt8 :=
  intf.associationBytes ++ (List.range intf.numAlts).flatMap intf.settingBytes

end UsbInterface

namespace UsbDevice

variable (device : UsbDevice)

def configHeaderDesc (totalLength : Nat) : List UInt8 :=
  [0x09, DescriptorType.configuration, .ofNat totalLength, .ofNat (totalLength >>> 8),
    .ofNat device.interfaces.length, device.configurationValue, device.stringConfigurationValue,
    0x80, 0xFA]

/-- The descriptors, with the total length still zero. -/
def assembled : List UInt8 :=
  device.configHeaderDesc 0 ++ device.interfaces.flatMap UsbInterface.bytes

/-- `VirtualDeviceHandler::get_configuration_descriptor`. -/
def getConfigurationDescriptor (descriptorLength : UInt16) : List UInt8 :=
  let desc := device.assembled
  let desc := (desc.set 2 (.ofNat desc.length)).set 3 (.ofNat (desc.length >>> 8))
  desc.take descriptorLength.toNat

end UsbDevice

/-- A class-specific descriptor can be walked over, and the descriptors in it are none of the
standard ones that stand around it. -/
def ClassSpecific (bytes : List UInt8) : Prop :=
  ∃ blocks, walk bytes = some blocks ∧ ∀ block ∈ blocks,
    bDescriptorType block ≠ DescriptorType.interface ∧
      bDescriptorType block ≠ DescriptorType.endpoint ∧
        bDescriptorType block ≠ DescriptorType.interfaceAssociation

structure UsbInterface.WellFormed (intf : UsbInterface) : Prop where
  classSpecific : ClassSpecific intf.classSpecificDescriptor
  numEndpoints_le : ∀ endpoints ∈ intf.endpoints, endpoints.length ≤ 255
  numAlts_le : intf.endpoints.length ≤ 255

structure UsbDevice.WellFormed (device : UsbDevice) : Prop where
  interfaces : ∀ intf ∈ device.interfaces, intf.WellFormed
  totalLength_le : device.assembled.length ≤ 65535

def IsInterface (desc : List UInt8) : Prop := bDescriptorType desc = DescriptorType.interface

def IsEndpoint (desc : List UInt8) : Prop := bDescriptorType desc = DescriptorType.endpoint

def IsAssociation (desc : List UInt8) : Prop :=
  bDescriptorType desc = DescriptorType.interfaceAssociation

instance : DecidablePred IsInterface := fun desc =>
  inferInstanceAs (Decidable (bDescriptorType desc = _))

instance : DecidablePred IsEndpoint := fun desc =>
  inferInstanceAs (Decidable (bDescriptorType desc = _))

instance : DecidablePred IsAssociation := fun desc =>
  inferInstanceAs (Decidable (bDescriptorType desc = _))

section Blocks

variable {intf : UsbInterface} {endpoint : UsbEndpoint} {alt : Nat}

namespace UsbInterface

def endpointBlocks (intf : UsbInterface) (endpoint : UsbEndpoint) : List (List UInt8) :=
  endpointDesc endpoint ::
    ((if intf.IsVideoInterrupt endpoint then [vcInterruptEndpointDesc endpoint] else []) ++
      if intf.IsAudioStream endpoint then [asEpGeneralDesc] else [])

def classSpecificBlocks (intf : UsbInterface) : List (List UInt8) :=
  (walk intf.classSpecificDescriptor).getD []

def settingBlocks (intf : UsbInterface) (alt : Nat) : List (List UInt8) :=
  intf.interfaceDesc alt ::
    ((if (alt = 0 ∨ intf.allAlts) ∧ intf.classSpecificDescriptor ≠ [] then
        intf.classSpecificBlocks else []) ++
      (intf.altEndpoints alt).flatMap intf.endpointBlocks)

def associationDesc (intf : UsbInterface) (iad : IadDesc) : List UInt8 :=
  { iad with bFirstInterface := intf.interfaceNumber }.toBytes

def associationBlocks (intf : UsbInterface) : List (List UInt8) :=
  intf.interfaceAssociationDescriptor.elim [] fun iad => [intf.associationDesc iad]

def blocks (intf : UsbInterface) : List (List UInt8) :=
  intf.associationBlocks ++ (List.range intf.numAlts).flatMap intf.settingBlocks

theorem covers_single {block : List UInt8} (h : IsBlock block) : Covers block [block] := by
  simpa using covers_cons h covers_nil

theorem covers_endpointBlocks :
    Covers (intf.endpointBytes endpoint) (intf.endpointBlocks endpoint) := by
  have hendpoint : IsBlock (endpointDesc endpoint) := by simp [IsBlock, endpointDesc]
  have hvideo : IsBlock (vcInterruptEndpointDesc endpoint) := by
    simp [IsBlock, vcInterruptEndpointDesc]
  have haudio : IsBlock asEpGeneralDesc := by simp [IsBlock, asEpGeneralDesc]
  exact covers_cons hendpoint
    (covers_append (covers_ite (covers_single hvideo)) (covers_ite (covers_single haudio)))

theorem covers_classSpecificBlocks (h : intf.WellFormed) :
    Covers intf.classSpecificDescriptor intf.classSpecificBlocks := by
  obtain ⟨blocks, hwalk, -⟩ := h.classSpecific
  rw [classSpecificBlocks, hwalk]
  exact walk_eq_some_iff.mp hwalk

theorem covers_settingBlocks (h : intf.WellFormed) (alt : Nat) :
    Covers (intf.settingBytes alt) (intf.settingBlocks alt) := by
  have hinterface : IsBlock (intf.interfaceDesc alt) := by simp [IsBlock, interfaceDesc]
  exact covers_cons hinterface
    (covers_append (covers_ite (covers_classSpecificBlocks h))
      (covers_flatMap fun endpoint _ => covers_endpointBlocks))

theorem covers_associationBlocks : Covers intf.associationBytes intf.associationBlocks := by
  unfold associationBytes associationBlocks
  cases intf.interfaceAssociationDescriptor with
  | none => exact covers_nil
  | some iad =>
      refine covers_single ?_
      simp [IsBlock, IadDesc.toBytes, iad.bLength_eq]

theorem covers_blocks (h : intf.WellFormed) : Covers intf.bytes intf.blocks :=
  covers_append covers_associationBlocks (covers_flatMap fun alt _ => covers_settingBlocks h alt)

end UsbInterface

namespace UsbDevice

variable {device : UsbDevice}

def blocks (device : UsbDevice) : List (List UInt8) :=
  device.configHeaderDesc device.assembled.length ::
    device.interfaces.flatMap UsbInterface.blocks

theorem getConfigurationDescriptor_eq (device : UsbDevice) (descriptorLength : UInt16) :
    device.getConfigurationDescriptor descriptorLength =
      (device.configHeaderDesc device.assembled.length ++
        device.interfaces.flatMap UsbInterface.bytes).take descriptorLength.toNat := rfl

theorem covers_blocks (h : device.WellFormed) :
    Covers (device.configHeaderDesc device.assembled.length ++
      device.interfaces.flatMap UsbInterface.bytes) device.blocks := by
  have hheader : IsBlock (device.configHeaderDesc device.assembled.length) := by
    simp [IsBlock, configHeaderDesc]
  exact covers_cons hheader
    (covers_flatMap fun intf hintf => UsbInterface.covers_blocks (h.interfaces intf hintf))

theorem length_filled (device : UsbDevice) :
    (device.configHeaderDesc device.assembled.length ++
      device.interfaces.flatMap UsbInterface.bytes).length = device.assembled.length := by
  simp [assembled, configHeaderDesc]

theorem wTotalLength_configHeaderDesc {totalLength : Nat} (h : totalLength ≤ 65535)
    (rest : List UInt8) :
    wTotalLength (device.configHeaderDesc totalLength ++ rest) = totalLength := by
  have hfield : wTotalLength (device.configHeaderDesc totalLength ++ rest) =
      256 * (UInt8.ofNat (totalLength >>> 8)).toNat + (UInt8.ofNat totalLength).toNat := by
    simp [wTotalLength, leField, configHeaderDesc, natOfBytes]
  rw [hfield, UInt8.toNat_ofNat', UInt8.toNat_ofNat', Nat.shiftRight_eq_div_pow]
  omega

end UsbDevice

end Blocks

section Presented

variable {descs rest : List (List UInt8)}

/-- Descriptors that belong to the interface descriptor before them. -/
def Inner (descs : List (List UInt8)) : Prop :=
  ∀ desc ∈ descs, ¬ IsInterface desc ∧ ¬ IsAssociation desc

theorem inner_single {desc : List UInt8} {type : UInt8} (htype : bDescriptorType desc = type)
    (hinterface : type ≠ DescriptorType.interface)
    (hassociation : type ≠ DescriptorType.interfaceAssociation) : Inner [desc] := by
  subst htype
  rintro other hother
  obtain rfl : other = desc := by simpa using hother
  exact ⟨hinterface, hassociation⟩

theorem inner_append {descs' : List (List UInt8)} (h : Inner descs) (h' : Inner descs') :
    Inner (descs ++ descs') := by
  intro desc hdesc
  rcases List.mem_append.mp hdesc with hmem | hmem
  · exact h desc hmem
  · exact h' desc hmem

theorem inner_ite {condition : Prop} [Decidable condition] (h : Inner descs) :
    Inner (if condition then descs else []) := by
  split
  · exact h
  · exact fun desc hdesc => absurd hdesc (by simp)

theorem filter_isAssociation_of_inner (h : Inner descs) : descs.filter IsAssociation = [] :=
  List.filter_eq_nil_iff.mpr fun desc hdesc hassociation =>
    (h desc hdesc).2 (of_decide_eq_true hassociation)

namespace UsbInterface

variable {intf : UsbInterface}

theorem isInterface_interfaceDesc (alt : Nat) : IsInterface (intf.interfaceDesc alt) := rfl

theorem not_isAssociation_interfaceDesc (alt : Nat) :
    ¬ IsAssociation (intf.interfaceDesc alt) := by
  rw [IsAssociation, isInterface_interfaceDesc alt]
  decide

theorem isAssociation_associationDesc (iad : IadDesc) :
    IsAssociation (intf.associationDesc iad) := iad.bDescriptorType_eq

theorem not_isInterface_associationDesc (iad : IadDesc) :
    ¬ IsInterface (intf.associationDesc iad) := by
  rw [IsInterface, isAssociation_associationDesc iad]
  decide

theorem inner_endpointBlocks (endpoint : UsbEndpoint) : Inner (intf.endpointBlocks endpoint) := by
  have hendpoint : Inner [endpointDesc endpoint] :=
    inner_single (bDescriptorType_endpointDesc endpoint) (by decide) (by decide)
  have hvideo : Inner [vcInterruptEndpointDesc endpoint] :=
    inner_single (bDescriptorType_vcInterruptEndpointDesc endpoint) (by decide) (by decide)
  have haudio : Inner [asEpGeneralDesc] := inner_single rfl (by decide) (by decide)
  exact inner_append hendpoint (inner_append (inner_ite hvideo) (inner_ite haudio))

theorem inner_classSpecificBlocks (h : intf.WellFormed) : Inner intf.classSpecificBlocks := by
  obtain ⟨blocks, hwalk, hblocks⟩ := h.classSpecific
  rw [classSpecificBlocks, hwalk]
  exact fun desc hdesc => ⟨(hblocks desc hdesc).1, (hblocks desc hdesc).2.2⟩

theorem filter_classSpecificBlocks (h : intf.WellFormed) :
    intf.classSpecificBlocks.filter IsEndpoint = [] := by
  obtain ⟨blocks, hwalk, hblocks⟩ := h.classSpecific
  rw [classSpecificBlocks, hwalk, List.filter_eq_nil_iff]
  exact fun desc hdesc hendpoint => (hblocks desc hdesc).2.1 (of_decide_eq_true hendpoint)

/-- The descriptors of an alternate setting behind its interface descriptor. -/
def innerBlocks (intf : UsbInterface) (alt : Nat) : List (List UInt8) :=
  (if (alt = 0 ∨ intf.allAlts) ∧ intf.classSpecificDescriptor ≠ [] then
      intf.classSpecificBlocks else []) ++
    (intf.altEndpoints alt).flatMap intf.endpointBlocks

theorem settingBlocks_eq (intf : UsbInterface) (alt : Nat) :
    intf.settingBlocks alt = intf.interfaceDesc alt :: intf.innerBlocks alt := rfl

theorem inner_innerBlocks (h : intf.WellFormed) (alt : Nat) : Inner (intf.innerBlocks alt) := by
  refine inner_append (inner_ite (inner_classSpecificBlocks h)) fun desc hdesc => ?_
  obtain ⟨endpoint, -, hmem⟩ := List.mem_flatMap.mp hdesc
  exact inner_endpointBlocks endpoint desc hmem

theorem numAlts_pos (intf : UsbInterface) : 0 < intf.numAlts := by
  unfold numAlts
  split <;> omega

theorem filter_isAssociation_blocks (h : intf.WellFormed) :
    intf.blocks.filter IsAssociation = intf.associationBlocks := by
  have hassociation : intf.associationBlocks.filter IsAssociation = intf.associationBlocks := by
    unfold associationBlocks
    cases intf.interfaceAssociationDescriptor with
    | none => rfl
    | some iad => exact List.filter_cons_of_pos (by simpa using isAssociation_associationDesc iad)
  have hsettings : ((List.range intf.numAlts).flatMap intf.settingBlocks).filter IsAssociation =
      [] := by
    rw [List.filter_flatMap, List.flatMap_eq_nil_iff]
    intro alt _
    rw [settingBlocks_eq,
      List.filter_cons_of_neg (by simpa using not_isAssociation_interfaceDesc alt),
      filter_isAssociation_of_inner (inner_innerBlocks h alt)]
  rw [blocks, List.filter_append, hassociation, hsettings, List.append_nil]

theorem numAlts_le (h : intf.WellFormed) : intf.numAlts ≤ 255 := by
  have hle := h.numAlts_le
  unfold numAlts
  split <;> omega

end UsbInterface

namespace UsbDevice

variable {device : UsbDevice}

/-- The interface and the alternate setting of each interface descriptor. -/
def settings (device : UsbDevice) : List (UInt8 × Nat) :=
  device.interfaces.flatMap fun intf =>
    (List.range intf.numAlts).map fun alt => (intf.interfaceNumber, alt)

/-- The interfaces that start a function. -/
def functions (device : UsbDevice) : List UInt8 :=
  device.interfaces.filterMap fun intf =>
    intf.interfaceAssociationDescriptor.map fun _ => intf.interfaceNumber

end UsbDevice

end Presented

namespace UsbDevice

variable {Handler : Type} (device : UsbDevice)

/-- The callbacks of a handler whose device has this configuration. -/
def describing (callbacks : Callbacks Handler) : Callbacks Handler where
  out := callbacks.out
  in_
    | .getDescriptor type languageId descriptorLength =>
        if type = DescriptorType.configuration then
          (UrbStatusType.statusOK, device.getConfigurationDescriptor descriptorLength)
        else callbacks.in_ (.getDescriptor type languageId descriptorLength)
    | request => callbacks.in_ request

/-- A request of the host for the configuration descriptor. -/
def AsksForConfiguration (urb : ControlUrb Handler) : Prop :=
  urb.setup.requestType = 0x80 ∧ urb.setup.request = StandardRequest.getDescriptor ∧
    (urb.setup.value >>> 8).toUInt8 = DescriptorType.configuration

/-- A request for no bytes has no data stage, and stalls. -/
theorem answer_of_asksForConfiguration {callbacks : Callbacks Handler}
    {usbDevice : VirtualDevice.UsbDevice Handler} {urb : ControlUrb Handler}
    (h : AsksForConfiguration urb) :
    ((urb.handleControlUrb (device.describing callbacks) usbDevice).answer).map Prod.snd =
      some ((device.getConfigurationDescriptor urb.setup.length).take urb.setup.length.toNat) := by
  obtain ⟨htype, hrequest, hdescriptor⟩ := h
  have hstandard : urb.IsStandard := by
    rw [ControlUrb.IsStandard, SetupPacket.calcRequestType, htype]
    decide
  have hrecipient : RequestRecipient.ofSetup urb.setup = .device := by
    rw [RequestRecipient.ofSetup, SetupPacket.calcRecipient, htype]
    decide
  have hout : urb.setup.isOut = (urb.setup.length == 0) := by
    rw [SetupPacket.isOut, htype]
    rfl
  rw [ControlUrb.handleControlUrb, if_pos hstandard, ControlUrb.handleStandardRequest, hrecipient]
  dsimp only
  rw [ControlUrb.handleDeviceRequest, hout]
  by_cases hlength : urb.setup.length = 0
  · rw [if_pos (by simpa using hlength), hlength]
    rfl
  · have hasked : urb.deviceInRequest = some (.getDescriptor DescriptorType.configuration
        urb.setup.value.toUInt8 urb.setup.length) := by
      rw [ControlUrb.deviceInRequest, hrequest, ← hdescriptor]
      rfl
    rw [if_neg (by simpa using hlength), hasked]
    rfl

variable {device}

/-- A microphone: an audio control interface and a streaming interface with two settings. -/
def microphone : UsbDevice where
  configurationValue := 1
  stringConfigurationValue := 0
  interfaces :=
    [{ interfaceClass := 0x01
       interfaceSubclass := 0x01
       interfaceProtocol := 0
       interfaceNumber := 0
       interfaceAssociationDescriptor := some (.make 2 0x01 0 0 0)
       endpoints := []
       handler := some ⟨[9, 0x24, 0x01, 0, 1, 9, 0, 1, 1], false, 0⟩ },
     { interfaceClass := 0x01
       interfaceSubclass := 0x02
       interfaceProtocol := 0
       interfaceNumber := 1
       interfaceAssociationDescriptor := none
       endpoints := [[], [⟨⟨0x81, 0x05⟩, 192, 1⟩]]
       handler := some ⟨[7, 0x24, 0x01, 1, 1, 1, 0], true, 0⟩ }]

theorem microphone_wellFormed : microphone.WellFormed := by
  refine ⟨fun intf hintf => ?_, by decide⟩
  have hcases : intf = microphone.interfaces[0] ∨ intf = microphone.interfaces[1] := by
    simpa [microphone] using hintf
  rcases hcases with rfl | rfl
  · exact ⟨⟨[[9, 0x24, 0x01, 0, 1, 9, 0, 1, 1]], by decide, by decide⟩, by decide, by decide⟩
  · exact ⟨⟨[[7, 0x24, 0x01, 1, 1, 1, 0]], by decide, by decide⟩, by decide, by decide⟩

end UsbDevice

end Usbipdcpp.VirtualDevice.ConfigurationDescriptor
