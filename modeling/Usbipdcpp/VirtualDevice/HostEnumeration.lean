import Usbipdcpp.Foundation.Sections
import Usbipdcpp.VirtualDevice.ConfigurationDescriptor

namespace Usbipdcpp.VirtualDevice.ConfigurationDescriptor

open Foundation.ByteStream Foundation.LengthTagged Foundation.Sections Protocol

/-- An endpoint as a host reads it, with the descriptors that follow it. -/
structure HostEndpoint where
  address : UInt8
  attributes : UInt8
  maxPacketSize : UInt16
  interval : UInt8
  classSpecific : List (List UInt8)
  deriving DecidableEq, Repr

/-- An alternate setting as a host reads it. -/
structure HostSetting where
  interfaceNumber : UInt8
  alternateSetting : UInt8
  interfaceClass : UInt8
  interfaceSubclass : UInt8
  interfaceProtocol : UInt8
  stringInterface : UInt8
  classSpecific : List (List UInt8)
  endpoints : List HostEndpoint
  deriving DecidableEq, Repr

/-- A function as a host reads it. -/
structure HostFunction where
  firstInterface : UInt8
  interfaceCount : UInt8
  functionClass : UInt8
  functionSubClass : UInt8
  functionProtocol : UInt8
  stringFunction : UInt8
  deriving DecidableEq, Repr

structure HostConfiguration where
  numInterfaces : UInt8
  configurationValue : UInt8
  stringConfiguration : UInt8
  functions : List HostFunction
  settings : List HostSetting
  deriving DecidableEq, Repr

/-- A descriptor that ends what is told of an alternate setting. -/
def endsSetting (desc : List UInt8) : Bool := decide (IsInterface desc ∨ IsAssociation desc)

def readEndpoint (part : List UInt8 × List (List UInt8)) : HostEndpoint where
  address := part.1.getD 2 0
  attributes := part.1.getD 3 0
  maxPacketSize := .ofNat (leField 2 4 part.1)
  interval := part.1.getD 6 0
  classSpecific := part.2

/-- What precedes the first endpoint of a setting is of the interface. -/
def readSetting (part : List UInt8 × List (List UInt8)) : HostSetting where
  interfaceNumber := part.1.getD 2 0
  alternateSetting := part.1.getD 3 0
  interfaceClass := part.1.getD 5 0
  interfaceSubclass := part.1.getD 6 0
  interfaceProtocol := part.1.getD 7 0
  stringInterface := part.1.getD 8 0
  classSpecific := part.2.takeWhile fun desc => !decide (IsEndpoint desc)
  endpoints :=
    (sections (fun desc => IsEndpoint desc) (fun desc => IsEndpoint desc) part.2).map readEndpoint

def readFunction (desc : List UInt8) : HostFunction where
  firstInterface := desc.getD 2 0
  interfaceCount := desc.getD 3 0
  functionClass := desc.getD 4 0
  functionSubClass := desc.getD 5 0
  functionProtocol := desc.getD 6 0
  stringFunction := desc.getD 7 0

def readBlocks (header : List UInt8) (blocks : List (List UInt8)) : HostConfiguration where
  numInterfaces := header.getD 4 0
  configurationValue := header.getD 5 0
  stringConfiguration := header.getD 6 0
  functions := (blocks.filter IsAssociation).map readFunction
  settings := (sections (fun desc => IsInterface desc) endsSetting blocks).map readSetting

/-- A host accepts descriptors that it can walk over, the first one of a configuration. -/
def readConfiguration (bytes : List UInt8) : Option HostConfiguration :=
  match walk bytes with
  | some (header :: blocks) =>
      if bDescriptorType header = DescriptorType.configuration then some (readBlocks header blocks)
      else none
  | _ => none

namespace UsbEndpoint

/-- What a host is to know of an endpoint. -/
def toHost (intf : UsbInterface) (endpoint : UsbEndpoint) : HostEndpoint where
  address := endpoint.address
  attributes := endpoint.attributes
  maxPacketSize := endpoint.maxPacketSize
  interval := endpoint.interval
  classSpecific :=
    (if intf.IsVideoInterrupt endpoint then [vcInterruptEndpointDesc endpoint] else []) ++
      if intf.IsAudioStream endpoint then [asEpGeneralDesc] else []

end UsbEndpoint

namespace UsbInterface

/-- What a host is to know of an alternate setting. -/
def toHost (intf : UsbInterface) (alt : Nat) : HostSetting where
  interfaceNumber := intf.interfaceNumber
  alternateSetting := .ofNat alt
  interfaceClass := intf.interfaceClass
  interfaceSubclass := intf.interfaceSubclass
  interfaceProtocol := intf.interfaceProtocol
  stringInterface := intf.handler.elim 0 VirtualInterfaceHandler.getStringInterfaceValue
  classSpecific := if alt = 0 ∨ intf.allAlts then intf.classSpecificBlocks else []
  endpoints := (intf.altEndpoints alt).map (UsbEndpoint.toHost intf)

def function (intf : UsbInterface) : Option HostFunction :=
  intf.interfaceAssociationDescriptor.map fun iad =>
    { firstInterface := intf.interfaceNumber
      interfaceCount := iad.bInterfaceCount
      functionClass := iad.bFunctionClass
      functionSubClass := iad.bFunctionSubClass
      functionProtocol := iad.bFunctionProtocol
      stringFunction := iad.iFunction }

end UsbInterface

namespace UsbDevice

/-- What a host is to know of a device. -/
def toHost (device : UsbDevice) : HostConfiguration where
  numInterfaces := .ofNat device.interfaces.length
  configurationValue := device.configurationValue
  stringConfiguration := device.stringConfigurationValue
  functions := device.interfaces.filterMap UsbInterface.function
  settings := device.interfaces.flatMap fun intf => (List.range intf.numAlts).map intf.toHost

end UsbDevice

section Reading

variable {intf : UsbInterface} {endpoint : UsbEndpoint} {alt : Nat}

theorem readEndpoint_endpointDesc (endpoint : UsbEndpoint) (extras : List (List UInt8)) :
    readEndpoint (endpointDesc endpoint, extras) =
      ⟨endpoint.address, endpoint.attributes, endpoint.maxPacketSize, endpoint.interval,
        extras⟩ := by
  have hsize : leField 2 4 (endpointDesc endpoint) = endpoint.maxPacketSize.toNat := by
    have hlt : endpoint.maxPacketSize.toNat < 256 ^ 2 := endpoint.maxPacketSize.toNat_lt
    exact leField_leBytesOfNat hlt [endpoint.interval]
  have hinterval : (endpointDesc endpoint).getD 6 0 = endpoint.interval := by
    simp [endpointDesc, List.getD_eq_getElem?_getD]
  simp only [readEndpoint, hsize, hinterval, UInt16.ofNat_toNat]
  rfl

namespace UsbInterface

/-- The endpoints of a setting stand one after the other, each with what belongs to it. -/
theorem laidOut_endpoints (intf : UsbInterface) (endpoints : List UsbEndpoint) :
    LaidOut (fun desc => IsEndpoint desc) (fun desc => IsEndpoint desc)
      (endpoints.flatMap intf.endpointBlocks)
      (endpoints.map fun endpoint =>
        (endpointDesc endpoint, (endpoint.toHost intf).classSpecific)) := by
  rw [List.map_eq_flatMap]
  refine LaidOut.flatMap fun endpoint _ => ?_
  have hendpoint : decide (IsEndpoint (endpointDesc endpoint)) = true :=
    decide_eq_true (bDescriptorType_endpointDesc endpoint)
  refine LaidOut.single hendpoint hendpoint fun desc hdesc => decide_eq_false ?_
  rcases List.mem_append.mp hdesc with hvideo | haudio
  · obtain ⟨-, rfl⟩ : _ ∧ desc = vcInterruptEndpointDesc endpoint := by simpa using hvideo
    rw [IsEndpoint, bDescriptorType_vcInterruptEndpointDesc]
    decide
  · obtain ⟨-, rfl⟩ : _ ∧ desc = asEpGeneralDesc := by simpa using haudio
    decide

/-- Without class-specific descriptors there are none to leave out. -/
theorem classSpecificBlocks_eq (intf : UsbInterface) (alt : Nat) :
    (if (alt = 0 ∨ intf.allAlts) ∧ intf.classSpecificDescriptor ≠ [] then
      intf.classSpecificBlocks else []) = (intf.toHost alt).classSpecific := by
  by_cases hnil : intf.classSpecificDescriptor = []
  · have hblocks : intf.classSpecificBlocks = [] := by
      rw [classSpecificBlocks, hnil]
      rfl
    simp [toHost, hblocks]
  · simp [toHost, hnil]

theorem innerBlocks_eq (intf : UsbInterface) (alt : Nat) :
    intf.innerBlocks alt = (intf.toHost alt).classSpecific ++
      (intf.altEndpoints alt).flatMap intf.endpointBlocks := by
  rw [innerBlocks, classSpecificBlocks_eq]

theorem not_isEndpoint_of_mem_classSpecific (h : intf.WellFormed) (alt : Nat) {desc : List UInt8}
    (hdesc : desc ∈ (intf.toHost alt).classSpecific) : decide (IsEndpoint desc) = false := by
  have hmem : desc ∈ intf.classSpecificBlocks := by
    dsimp only [toHost] at hdesc
    split at hdesc
    · exact hdesc
    · cases hdesc
  have hnone := List.filter_eq_nil_iff.mp (filter_classSpecificBlocks h) desc hmem
  exact decide_eq_false fun hendpoint => hnone (decide_eq_true hendpoint)

theorem readSetting_interfaceDesc (h : intf.WellFormed) (alt : Nat) :
    readSetting (intf.interfaceDesc alt, intf.innerBlocks alt) = intf.toHost alt := by
  have hclass : ∀ desc ∈ (intf.toHost alt).classSpecific, decide (IsEndpoint desc) = false :=
    fun desc hdesc => not_isEndpoint_of_mem_classSpecific h alt hdesc
  have hlaid := laidOut_endpoints intf (intf.altEndpoints alt)
  have htake : (intf.innerBlocks alt).takeWhile (fun desc => !decide (IsEndpoint desc)) =
      (intf.toHost alt).classSpecific := by
    rw [innerBlocks_eq]
    exact hlaid.takeWhile_append hclass
  have hsections : sections (fun desc => IsEndpoint desc) (fun desc => IsEndpoint desc)
      (intf.innerBlocks alt) = (intf.altEndpoints alt).map fun endpoint =>
        (endpointDesc endpoint, (endpoint.toHost intf).classSpecific) := by
    rw [innerBlocks_eq, sections_append_of_no_head hclass]
    exact sections_eq (fun _ hendpoint => hendpoint) hlaid
  have hendpoints : ((intf.altEndpoints alt).map fun endpoint =>
      (endpointDesc endpoint, (endpoint.toHost intf).classSpecific)).map readEndpoint =
        (intf.toHost alt).endpoints := by
    rw [List.map_map]
    exact List.map_congr_left fun endpoint _ => readEndpoint_endpointDesc endpoint _
  rw [readSetting, htake, hsections, hendpoints]
  rfl

theorem endsSetting_of_isInterface {desc : List UInt8} (h : IsInterface desc) :
    endsSetting desc = true := decide_eq_true (.inl h)

theorem laidOut_settingBlocks (h : intf.WellFormed) (alt : Nat) :
    LaidOut (fun desc => IsInterface desc) endsSetting (intf.settingBlocks alt)
      [(intf.interfaceDesc alt, intf.innerBlocks alt)] := by
  have hinterface : IsInterface (intf.interfaceDesc alt) := isInterface_interfaceDesc alt
  refine LaidOut.single (decide_eq_true hinterface) (endsSetting_of_isInterface hinterface) ?_
  intro desc hdesc
  obtain ⟨hnot, hassociation⟩ := inner_innerBlocks h alt desc hdesc
  exact decide_eq_false (not_or.mpr ⟨hnot, hassociation⟩)

theorem laidOut_blocks (h : intf.WellFormed) :
    LaidOut (fun desc => IsInterface desc) endsSetting intf.blocks
      ((List.range intf.numAlts).map fun alt =>
        (intf.interfaceDesc alt, intf.innerBlocks alt)) := by
  have hsettings : LaidOut (fun desc => IsInterface desc) endsSetting
      ((List.range intf.numAlts).flatMap intf.settingBlocks)
      ((List.range intf.numAlts).map fun alt =>
        (intf.interfaceDesc alt, intf.innerBlocks alt)) := by
    rw [List.map_eq_flatMap]
    exact LaidOut.flatMap fun alt _ => laidOut_settingBlocks h alt
  unfold blocks associationBlocks
  cases intf.interfaceAssociationDescriptor with
  | none => exact hsettings
  | some iad =>
      refine LaidOut.skip (decide_eq_false (not_isInterface_associationDesc iad)) ?_ hsettings
      exact decide_eq_true (.inr (isAssociation_associationDesc iad))

end UsbInterface

namespace UsbDevice

variable {device : UsbDevice}

theorem settings_read (h : device.WellFormed) :
    (sections (fun desc => IsInterface desc) endsSetting
      (device.interfaces.flatMap UsbInterface.blocks)).map readSetting =
        device.toHost.settings := by
  have hlaid := LaidOut.flatMap fun intf hintf =>
    UsbInterface.laidOut_blocks (h.interfaces intf hintf)
  rw [sections_eq (fun _ hhead => UsbInterface.endsSetting_of_isInterface
    (of_decide_eq_true hhead)) hlaid, List.map_flatMap]
  refine List.flatMap_congr fun intf hintf => ?_
  rw [List.map_map]
  exact List.map_congr_left fun alt _ =>
    UsbInterface.readSetting_interfaceDesc (h.interfaces intf hintf) alt

theorem functions_read (h : device.WellFormed) :
    ((device.interfaces.flatMap UsbInterface.blocks).filter IsAssociation).map readFunction =
      device.toHost.functions := by
  have hread {intf : UsbInterface} (hintf : intf ∈ device.interfaces) :
      (intf.blocks.filter IsAssociation).map readFunction = intf.function.toList := by
    rw [UsbInterface.filter_isAssociation_blocks (h.interfaces intf hintf),
      UsbInterface.associationBlocks, UsbInterface.function]
    cases intf.interfaceAssociationDescriptor <;> rfl
  rw [List.filter_flatMap, List.map_flatMap, List.flatMap_congr fun intf hintf => hread hintf]
  exact (List.filterMap_eq_flatMap_toList UsbInterface.function device.interfaces).symm

theorem readConfiguration_blocks (h : device.WellFormed) {bytes : List UInt8}
    (hcovers : Covers bytes device.blocks) : readConfiguration bytes = some device.toHost := by
  have htype : bDescriptorType (device.configHeaderDesc device.assembled.length) =
      DescriptorType.configuration := rfl
  rw [readConfiguration, walk_eq_some_iff.mpr hcovers, blocks]
  dsimp only
  rw [if_pos htype, readBlocks, settings_read h, functions_read h]
  rfl

/-- A host that asks for the start of the configuration descriptor, and then for as much as that
tells, reads the configuration of the device. -/
theorem host_reads_configuration {Handler : Type} (h : device.WellFormed)
    (callbacks : Callbacks Handler) (usbDevice : VirtualDevice.UsbDevice Handler)
    {first second : ControlUrb Handler} {start whole : List UInt8}
    (hfirst : AsksForConfiguration first) (hsecond : AsksForConfiguration second)
    (hstart : ((first.handleControlUrb (device.describing callbacks) usbDevice).answer).map
      Prod.snd = some start)
    (hwhole : ((second.handleControlUrb (device.describing callbacks) usbDevice).answer).map
      Prod.snd = some whole)
    (henough : 4 ≤ first.setup.length.toNat)
    (hasked : second.setup.length.toNat = wTotalLength start) :
    readConfiguration whole = some device.toHost := by
  have hcovers := covers_blocks h
  have hlength := device.length_filled
  rw [answer_of_asksForConfiguration device hfirst, Option.some_inj,
    getConfigurationDescriptor_eq, List.take_take, Nat.min_self] at hstart
  rw [answer_of_asksForConfiguration device hsecond, Option.some_inj,
    getConfigurationDescriptor_eq, List.take_take, Nat.min_self] at hwhole
  have htotal : wTotalLength start = device.assembled.length := by
    rw [← hstart, wTotalLength, leField_take (by omega)]
    exact wTotalLength_configHeaderDesc h.totalLength_le _
  rw [hasked, htotal, List.take_of_length_le (Nat.le_of_eq hlength)] at hwhole
  rw [← hwhole]
  exact readConfiguration_blocks h hcovers

def configurationUrb (length : UInt16) : ControlUrb Nat where
  seqnum := 7
  transferBufferLength := length.toUInt32
  setup := ⟨0x80, StandardRequest.getDescriptor, 0x0200, 0, length⟩
  owner := none
  trx := ⟨List.replicate length.toNat 0, [], 0, 0, true⟩

theorem asksForConfiguration_configurationUrb (length : UInt16) :
    AsksForConfiguration (configurationUrb length) :=
  have hvalue : ((0x0200 : UInt16) >>> 8).toUInt8 = DescriptorType.configuration := by decide
  ⟨rfl, rfl, hvalue⟩

theorem host_reads_configuration_microphone :
    readConfiguration ((microphone.getConfigurationDescriptor 81).take 81) =
      some microphone.toHost := by
  let usbDevice : VirtualDevice.UsbDevice Nat := ⟨⟨0x80, 0⟩, ⟨0, 0⟩, []⟩
  have hfirst := asksForConfiguration_configurationUrb 9
  have hsecond := asksForConfiguration_configurationUrb 81
  exact host_reads_configuration microphone_wellFormed .stalling usbDevice hfirst hsecond
    (answer_of_asksForConfiguration microphone hfirst)
    (answer_of_asksForConfiguration microphone hsecond) (by decide) (by decide)

end UsbDevice

end Reading

end Usbipdcpp.VirtualDevice.ConfigurationDescriptor
