import Usbipdcpp.VirtualDevice.AudioRates
import Usbipdcpp.VirtualDevice.ClassDescriptors
import Usbipdcpp.VirtualDevice.HostEnumeration

namespace Usbipdcpp.VirtualDevice.ConfigurationDescriptor

open Foundation.ByteStream Foundation.LengthTagged Foundation.Sections Protocol

/-- An interface without a number and without a handler. -/
structure InterfaceTemplate where
  interfaceClass : UInt8
  interfaceSubclass : UInt8
  interfaceProtocol : UInt8
  interfaceAssociationDescriptor : Option IadDesc
  endpoints : List (List UsbEndpoint)

/-- An interface that has a number and a handler. -/
def InterfaceTemplate.bind (template : InterfaceTemplate) (interfaceNumber : UInt8)
    (handler : VirtualInterfaceHandler) : UsbInterface where
  interfaceClass := template.interfaceClass
  interfaceSubclass := template.interfaceSubclass
  interfaceProtocol := template.interfaceProtocol
  interfaceNumber := interfaceNumber
  interfaceAssociationDescriptor := template.interfaceAssociationDescriptor
  endpoints := template.endpoints
  handler := some handler

def bulkEndpoint (address : UInt8) (maxPacketSize : UInt16) : UsbEndpoint :=
  ⟨⟨address, 0x02⟩, maxPacketSize, 0⟩

def interruptEndpoint (address : UInt8) (maxPacketSize : UInt16) (interval : UInt8) :
    UsbEndpoint :=
  ⟨⟨address, 0x03⟩, maxPacketSize, interval⟩

/-- The input devices of the library. -/
inductive HidDevice where
  | keyboard
  | relativeMouse
  | absoluteMouse
  | digitizer
  | gamepad
  deriving DecidableEq, Repr

def hidInterface (interfaceSubclass interfaceProtocol : UInt8) (maxPacketSize : UInt16)
    (interval inEp : UInt8) : InterfaceTemplate :=
  ⟨0x03, interfaceSubclass, interfaceProtocol, none,
    [[interruptEndpoint inEp maxPacketSize interval]]⟩

def HidDevice.makeInterface (inEp : UInt8) : HidDevice → InterfaceTemplate
  | .keyboard => hidInterface 0x01 0x01 16 10 inEp
  | .relativeMouse => hidInterface 0x00 0x00 8 10 inEp
  | .absoluteMouse => hidInterface 0x01 0x02 8 1 inEp
  | .digitizer => hidInterface 0x00 0x00 6 10 inEp
  | .gamepad => hidInterface 0x00 0x00 16 8 inEp

/-- `MscBulkOnlyHandler::make_interface`. -/
def mscInterface (inEp outEp : UInt8) : InterfaceTemplate :=
  ⟨0x08, 0x06, 0x50, none, [[bulkEndpoint inEp 512, bulkEndpoint outEp 512]]⟩

/-- `CdcAcmCommunicationInterfaceHandler::make_interface`. -/
def cdcAcmCommunicationInterface (interruptInEp : UInt8) : InterfaceTemplate :=
  ⟨0x02, 0x02, 0x01, some (.make 2 0x02 0x02 0x01 0), [[interruptEndpoint interruptInEp 64 16]]⟩

/-- `make_interface` of the data interface of a serial line or of a network function without an
idle setting. -/
def cdcDataInterface (inEp outEp : UInt8) : InterfaceTemplate :=
  ⟨0x0A, 0x00, 0x00, none, [[bulkEndpoint inEp 64, bulkEndpoint outEp 64]]⟩

/-- `EcmCommunicationInterfaceHandler::make_interface`. -/
def ecmCommunicationInterface (interruptInEp : UInt8) : InterfaceTemplate :=
  ⟨0x02, 0x06, 0x00, some (.make 2 0x02 0x06 0x00 0), [[interruptEndpoint interruptInEp 16 32]]⟩

/-- `EcmDataInterfaceHandler::make_interface`. -/
def ecmDataInterface (inEp outEp : UInt8) : InterfaceTemplate :=
  ⟨0x0A, 0x00, 0x00, none, [[], [bulkEndpoint inEp 64, bulkEndpoint outEp 64]]⟩

/-- `RndisCommunicationInterfaceHandler::make_interface`. -/
def rndisCommunicationInterface (interruptInEp : UInt8) : InterfaceTemplate :=
  ⟨0x02, 0x02, 0xFF, some (.make 2 0x02 0x06 0x00 0), [[interruptEndpoint interruptInEp 8 32]]⟩

/-- The configuration that `setup_microphone` and `setup_speaker` give to the control interface. -/
def audioTopology (direction : Uac.AudioDirection) (config : UacTopology)
    (stream : Uac.AudioStream) : UacTopology :=
  let resolved := match direction with
    | .source => config
    | .sink => { config with inputTerminalType := ttUsbStreaming }
  (if resolved.channels = 0 then
      { resolved with channels := stream.currentFormat.channels.toUInt8 }
    else resolved).setConfig

def audioTerminalLink : Uac.AudioDirection → UInt8
  | .source => Uac.entityOutputTerminal
  | .sink => Uac.entityInputTerminal

/-- The class-specific descriptors of the streaming interface in each direction. -/
def streamingDescriptor : Uac.AudioDirection → Uac.AudioStream → List UInt8
  | .source, stream => microphoneStreamingDescriptor stream
  | .sink, stream => speakerStreamingDescriptor stream

/-- What a device can be put together from, with the numbers of its strings; the endpoints of audio
and video are those of the caller. -/
inductive DeviceFunction where
  | hid (device : HidDevice) (inEp : UInt8) (reportDescriptorSize : UInt16) (string : UInt8)
  | massStorage (inEp outEp string : UInt8)
  | cdcAcm (interruptInEp inEp outEp string dataString : UInt8)
  | ecm (interruptInEp inEp outEp macStringIndex string dataString : UInt8)
  | rndis (interruptInEp inEp outEp string dataString : UInt8)
  | audio (direction : Uac.AudioDirection) (config : UacTopology) (stream : Uac.AudioStream)
      (control streaming : List (List UsbEndpoint)) (string streamingString : UInt8)
  | video (fmt : VideoFormat) (control streaming : List (List UsbEndpoint)) (string : UInt8)

namespace DeviceFunction

/-- The interfaces of a function of which the first has a number; the handlers of a pair know each
other. -/
def interfaces (first : UInt8) : DeviceFunction → List UsbInterface
  | .hid device inEp reportDescriptorSize string =>
      [(device.makeInterface inEp).bind first
        ⟨hidDescriptor reportDescriptorSize, false, string⟩]
  | .massStorage inEp outEp string => [(mscInterface inEp outEp).bind first ⟨[], false, string⟩]
  | .cdcAcm interruptInEp inEp outEp string dataString =>
      [(cdcAcmCommunicationInterface interruptInEp).bind first
        ⟨cdcAcmDescriptor first (some (first + 1)), false, string⟩,
       (cdcDataInterface inEp outEp).bind (first + 1) ⟨[], false, dataString⟩]
  | .ecm interruptInEp inEp outEp macStringIndex string dataString =>
      [(ecmCommunicationInterface interruptInEp).bind first
        ⟨ecmDescriptor first (some (first + 1)) macStringIndex, false, string⟩,
       (ecmDataInterface inEp outEp).bind (first + 1) ⟨[], false, dataString⟩]
  | .rndis interruptInEp inEp outEp string dataString =>
      [(rndisCommunicationInterface interruptInEp).bind first
        ⟨rndisDescriptor first (some (first + 1)), false, string⟩,
       (cdcDataInterface inEp outEp).bind (first + 1) ⟨[], false, dataString⟩]
  | .audio direction config stream control streaming string streamingString =>
      [InterfaceTemplate.bind
        ⟨0x01, 0x01, 0x00, some (.make 2 0x01 0 0 string), control⟩ first
        ⟨audioControlDescriptor (audioTopology direction config stream) (first + 1), false,
          string⟩,
       InterfaceTemplate.bind ⟨0x01, 0x02, 0x00, none, streaming⟩ (first + 1)
        ⟨streamingDescriptor direction stream, true, streamingString⟩]
  | .video fmt control streaming string =>
      [InterfaceTemplate.bind
        ⟨0x0E, 0x01, 0x01, some (.make 2 0x0E 0x03 0 string), control⟩ first
        ⟨videoControlDescriptor (some (first + 1)), false, string⟩,
       InterfaceTemplate.bind ⟨0x0E, 0x02, 0x01, none, streaming⟩ (first + 1)
        ⟨videoStreamingDescriptor fmt streaming, false, string⟩]

def interfaceCount : DeviceFunction → Nat
  | .hid .. | .massStorage .. => 1
  | _ => 2

/-- Settings and endpoints that a descriptor can count. -/
def Countable (endpoints : List (List UsbEndpoint)) : Prop :=
  endpoints.length ≤ 255 ∧ ∀ setting ∈ endpoints, setting.length ≤ 255

/-- What the caller has to see to: the rates fit their descriptor, a video source has a frame
interval, and the input of a microphone is none of a loudspeaker. -/
def Admissible : DeviceFunction → Prop
  | .audio direction config stream control streaming _ _ =>
      Countable control ∧ Countable streaming ∧ stream.supportedSampleRates.val.length ≤ 82 ∧
        (direction = .source → config.inputTerminalType ≠ ttUsbStreaming)
  | .video fmt control streaming _ =>
      Countable control ∧ Countable streaming ∧ fmt.defaultFrameInterval ≠ 0
  | _ => True

end DeviceFunction

/-- The functions one after the other, each with the number of its first interface. -/
def placed : Nat → List DeviceFunction → List (Nat × DeviceFunction)
  | _, [] => []
  | first, function :: functions =>
      (first, function) :: placed (first + function.interfaceCount) functions

def interfacesOf (entry : Nat × DeviceFunction) : List UsbInterface :=
  entry.2.interfaces (.ofNat entry.1)

/-- A device that consists of functions of the library. -/
def compositeDevice (configurationValue stringConfigurationValue : UInt8)
    (functions : List DeviceFunction) : UsbDevice where
  configurationValue := configurationValue
  stringConfigurationValue := stringConfigurationValue
  interfaces := (placed 0 functions).flatMap interfacesOf

/-- A terminal or a unit as a host reads it. -/
structure HostEntity where
  id : UInt8
  terminalType : Option UInt16
  source : Option UInt8
  deriving DecidableEq, Repr

/-- A frame of a video format as a host reads it. -/
structure HostFrame where
  width : UInt16
  height : UInt16
  defaultFrameInterval : UInt32
  minFrameInterval : UInt32
  maxFrameInterval : UInt32
  deriving DecidableEq, Repr

namespace HostSetting

variable (setting : HostSetting)

def descriptorSubtype (desc : List UInt8) : UInt8 := desc.getD 2 0

/-- A control interface of audio or video. -/
def IsControl : Prop :=
  (setting.interfaceClass = 0x01 ∨ setting.interfaceClass = 0x0E) ∧
    setting.interfaceSubclass = 0x01

/-- A streaming interface of audio or video. -/
def IsStreaming : Prop :=
  (setting.interfaceClass = 0x01 ∨ setting.interfaceClass = 0x0E) ∧
    setting.interfaceSubclass = 0x02

instance : Decidable setting.IsControl := inferInstanceAs (Decidable (_ ∧ _))

instance : Decidable setting.IsStreaming := inferInstanceAs (Decidable (_ ∧ _))

/-- The interface that a descriptor of a communication or control interface names. -/
def linkOf (desc : List UInt8) : Option UInt8 :=
  if setting.interfaceClass = 0x02 then
    if descriptorSubtype desc = 0x01 ∨ descriptorSubtype desc = 0x06 then some (desc.getD 4 0)
    else none
  else if setting.IsControl ∧ descriptorSubtype desc = 0x01 then
    if setting.interfaceClass = 0x01 then some (desc.getD 8 0) else some (desc.getD 12 0)
  else none

def links : List UInt8 := setting.classSpecific.filterMap setting.linkOf

def entityOf (desc : List UInt8) : Option HostEntity :=
  if setting.IsControl then
    if descriptorSubtype desc = 0x02 then
      some ⟨desc.getD 3 0, some (.ofNat (leField 2 4 desc)), none⟩
    else if descriptorSubtype desc = 0x03 then
      some ⟨desc.getD 3 0, some (.ofNat (leField 2 4 desc)), some (desc.getD 7 0)⟩
    else if descriptorSubtype desc = (if setting.interfaceClass = 0x01 then 0x06 else 0x05) then
      some ⟨desc.getD 3 0, none, some (desc.getD 4 0)⟩
    else none
  else none

def entities : List HostEntity := setting.classSpecific.filterMap setting.entityOf

/-- The total length that the header of a control interface tells. -/
def totalLengthOf (desc : List UInt8) : Option Nat :=
  if setting.IsControl ∧ descriptorSubtype desc = 0x01 then some (leField 2 5 desc)
  else if setting.IsStreaming ∧ setting.interfaceClass = 0x0E ∧ descriptorSubtype desc = 0x01 then
    some (leField 2 4 desc)
  else none

/-- The terminal that a streaming interface says its data passes through. -/
def terminalLinkOf (desc : List UInt8) : Option UInt8 :=
  if setting.IsStreaming ∧ descriptorSubtype desc = 0x01 then
    if setting.interfaceClass = 0x01 then some (desc.getD 3 0) else some (desc.getD 8 0)
  else none

def terminalLinks : List UInt8 := setting.classSpecific.filterMap setting.terminalLinkOf

/-- The sampling rates of an audio format. -/
def ratesOf (desc : List UInt8) : Option (List Nat) :=
  if setting.IsStreaming ∧ setting.interfaceClass = 0x01 ∧ descriptorSubtype desc = 0x02 then
    some ((List.range (desc.getD 7 0).toNat).map fun i => leField 3 (8 + 3 * i) desc)
  else none

def rates : List (List Nat) := setting.classSpecific.filterMap setting.ratesOf

/-- The frame of a video format, whose intervals are at the end. -/
def frameOf (desc : List UInt8) : Option HostFrame :=
  if setting.IsStreaming ∧ setting.interfaceClass = 0x0E ∧
      descriptorSubtype desc ∈ [(0x05 : UInt8), 0x07, 0x11, 0x14] then
    some
      { width := .ofNat (leField 2 5 desc)
        height := .ofNat (leField 2 7 desc)
        defaultFrameInterval := .ofNat (leField 4 21 desc)
        minFrameInterval := .ofNat (leField 4 (desc.length - 12) desc)
        maxFrameInterval := .ofNat (leField 4 (desc.length - 8) desc) }
  else none

def frames : List HostFrame := setting.classSpecific.filterMap setting.frameOf

/-- The data of a communication or control interface passes through another interface. -/
def Serves (control data : HostSetting) : Prop :=
  (control.interfaceClass = 0x02 ∧ data.interfaceClass = 0x0A) ∨
    (control.IsControl ∧ data.IsStreaming ∧ data.interfaceClass = control.interfaceClass)

end HostSetting

/-- Every entity has an id of its own, and takes its data from one that was described before. -/
def Described : List UInt8 → List HostEntity → Prop
  | _, [] => True
  | known, entity :: entities =>
      entity.id ∉ known ∧ (∀ source ∈ entity.source, source ∈ known) ∧
        Described (entity.id :: known) entities

/-- The descriptors of a device refer to what there is. -/
structure Linked (functions : List HostFunction) (settings : List HostSetting) : Prop where
  /-- A control interface names the other interface of its function. -/
  links : ∀ control ∈ settings, ∀ number ∈ control.links,
    (∃ function ∈ functions, function.firstInterface = control.interfaceNumber ∧
      function.interfaceCount = 2 ∧ number.toNat = control.interfaceNumber.toNat + 1) ∧
    ∃ data ∈ settings, data.interfaceNumber = number ∧ control.Serves data
  /-- A streaming interface names the terminal of its function that faces the host. -/
  terminals : ∀ streaming ∈ settings, ∀ link ∈ streaming.terminalLinks,
    ∃ control ∈ settings, streaming.interfaceNumber ∈ control.links ∧
      ∃ entity ∈ control.entities, entity.id = link ∧ entity.terminalType = some ttUsbStreaming
  entities : ∀ control ∈ settings, Described [] control.entities
  totals : ∀ setting ∈ settings, ∀ desc ∈ setting.classSpecific,
    ∀ total ∈ setting.totalLengthOf desc,
      total = (setting.classSpecific.map List.length).sum

def settingsOf (interfaces : List UsbInterface) : List HostSetting :=
  interfaces.flatMap fun intf => (List.range intf.numAlts).map intf.toHost

def functionsOf (interfaces : List UsbInterface) : List HostFunction :=
  interfaces.filterMap UsbInterface.function

section Linked

variable {functions functions' : List HostFunction} {settings settings' : List HostSetting}

namespace Linked

theorem nil : Linked [] [] := ⟨by simp, by simp, by simp, by simp⟩

theorem append (h : Linked functions settings) (h' : Linked functions' settings') :
    Linked (functions ++ functions') (settings ++ settings') := by
  refine ⟨fun control hcontrol number hnumber => ?_, fun streaming hstreaming link hlink => ?_,
    fun control hcontrol => ?_, fun setting hsetting => ?_⟩
  · rcases List.mem_append.mp hcontrol with hmem | hmem
    · obtain ⟨⟨function, hfunction, hfirst⟩, data, hdata, hserves⟩ :=
        h.links control hmem number hnumber
      exact ⟨⟨function, List.mem_append_left _ hfunction, hfirst⟩, data,
        List.mem_append_left _ hdata, hserves⟩
    · obtain ⟨⟨function, hfunction, hfirst⟩, data, hdata, hserves⟩ :=
        h'.links control hmem number hnumber
      exact ⟨⟨function, List.mem_append_right _ hfunction, hfirst⟩, data,
        List.mem_append_right _ hdata, hserves⟩
  · rcases List.mem_append.mp hstreaming with hmem | hmem
    · obtain ⟨control, hcontrol, hterminal⟩ := h.terminals streaming hmem link hlink
      exact ⟨control, List.mem_append_left _ hcontrol, hterminal⟩
    · obtain ⟨control, hcontrol, hterminal⟩ := h'.terminals streaming hmem link hlink
      exact ⟨control, List.mem_append_right _ hcontrol, hterminal⟩
  · rcases List.mem_append.mp hcontrol with hmem | hmem
    · exact h.entities control hmem
    · exact h'.entities control hmem
  · rcases List.mem_append.mp hsetting with hmem | hmem
    · exact h.totals setting hmem
    · exact h'.totals setting hmem

theorem flatMap {ι : Type} {is : List ι} {interfacesAt : ι → List UsbInterface}
    (h : ∀ i ∈ is, Linked (functionsOf (interfacesAt i)) (settingsOf (interfacesAt i))) :
    Linked (functionsOf (is.flatMap interfacesAt)) (settingsOf (is.flatMap interfacesAt)) := by
  induction is with
  | nil => exact nil
  | cons i is ih =>
      rw [List.flatMap_cons, functionsOf, settingsOf, List.filterMap_append,
        List.flatMap_append]
      exact (h i List.mem_cons_self).append (ih fun j hj => h j (List.mem_cons_of_mem i hj))

end Linked

namespace UsbInterface

variable {intf : UsbInterface} {alt : Nat}

/-- A setting has the class-specific descriptors of the first one, or none. -/
theorem classSpecific_toHost (intf : UsbInterface) (alt : Nat) :
    (intf.toHost alt).classSpecific = (intf.toHost 0).classSpecific ∨
      (intf.toHost alt).classSpecific = [] := by
  dsimp only [toHost]
  split
  · exact .inl rfl
  · exact .inr rfl

/-- What descriptors tell is told in the first setting, if it is told in any. -/
theorem mem_first_setting {β : Type} {read : List UInt8 → Option β} {b : β}
    (h : b ∈ (intf.toHost alt).classSpecific.filterMap read) :
    b ∈ (intf.toHost 0).classSpecific.filterMap read := by
  rcases classSpecific_toHost intf alt with hsame | hnone
  · rwa [hsame] at h
  · rw [hnone] at h
    cases h

theorem toHost_zero_mem (intf : UsbInterface) :
    intf.toHost 0 ∈ (List.range intf.numAlts).map intf.toHost :=
  List.mem_map_of_mem (List.mem_range.mpr intf.numAlts_pos)

theorem described_toHost (h : Described [] (intf.toHost 0).entities) (alt : Nat) :
    Described [] (intf.toHost alt).entities := by
  rcases classSpecific_toHost intf alt with hsame | hnone
  · have hentities : (intf.toHost alt).entities = (intf.toHost 0).entities := by
      rw [HostSetting.entities, hsame]
      rfl
    rwa [hentities]
  · rw [HostSetting.entities, hnone]
    trivial

theorem total_toHost (h : ∀ desc ∈ (intf.toHost 0).classSpecific,
      ∀ total ∈ (intf.toHost 0).totalLengthOf desc,
        total = ((intf.toHost 0).classSpecific.map List.length).sum) (alt : Nat) :
    ∀ desc ∈ (intf.toHost alt).classSpecific, ∀ total ∈ (intf.toHost alt).totalLengthOf desc,
      total = ((intf.toHost alt).classSpecific.map List.length).sum := by
  intro desc hdesc total htotal
  rcases classSpecific_toHost intf alt with hsame | hnone
  · rw [hsame] at hdesc ⊢
    exact h desc hdesc total htotal
  · rw [hnone] at hdesc
    cases hdesc

end UsbInterface

namespace HostSetting

variable {setting : HostSetting}

theorem links_eq_nil (hclass : setting.interfaceClass ≠ 0x02) (hcontrol : ¬ setting.IsControl) :
    setting.links = [] := by
  refine List.filterMap_eq_nil_iff.mpr fun desc _ => ?_
  rw [linkOf, if_neg hclass, if_neg fun h => hcontrol h.1]

theorem entities_eq_nil (hcontrol : ¬ setting.IsControl) : setting.entities = [] :=
  List.filterMap_eq_nil_iff.mpr fun _ _ => if_neg hcontrol

theorem terminalLinks_eq_nil (hstreaming : ¬ setting.IsStreaming) : setting.terminalLinks = [] :=
  List.filterMap_eq_nil_iff.mpr fun _ _ => if_neg fun h => hstreaming h.1

theorem not_isStreaming_of_isControl (h : setting.IsControl) : ¬ setting.IsStreaming := by
  rintro ⟨-, hstreaming⟩
  rw [h.2] at hstreaming
  cases hstreaming

theorem not_isControl_of_class (hclass : setting.interfaceClass ≠ 0x01)
    (hclass' : setting.interfaceClass ≠ 0x0E) : ¬ setting.IsControl :=
  fun h => h.1.elim hclass hclass'

theorem not_isStreaming_of_class (hclass : setting.interfaceClass ≠ 0x01)
    (hclass' : setting.interfaceClass ≠ 0x0E) : ¬ setting.IsStreaming :=
  fun h => h.1.elim hclass hclass'

theorem totalLengthOf_eq_none (hcontrol : ¬ setting.IsControl) (hstreaming : ¬ setting.IsStreaming)
    (desc : List UInt8) : setting.totalLengthOf desc = none := by
  rw [totalLengthOf, if_neg fun h => hcontrol h.1, if_neg fun h => hstreaming h.1]

end HostSetting

/-- An interface of another class has nothing to refer to. -/
theorem linked_single {intf : UsbInterface} (hcommunication : intf.interfaceClass ≠ 0x02)
    (haudio : intf.interfaceClass ≠ 0x01) (hvideo : intf.interfaceClass ≠ 0x0E) :
    Linked (functionsOf [intf]) (settingsOf [intf]) := by
  have hsetting : ∀ setting ∈ settingsOf [intf], setting.links = [] ∧
      setting.terminalLinks = [] ∧ setting.entities = [] ∧
        ∀ desc, setting.totalLengthOf desc = none := by
    intro setting hmem
    obtain ⟨alt, -, rfl⟩ : ∃ alt, alt < intf.numAlts ∧ intf.toHost alt = setting := by
      simpa [settingsOf] using hmem
    have hcontrol : ¬ (intf.toHost alt).IsControl :=
      HostSetting.not_isControl_of_class haudio hvideo
    have hstreaming : ¬ (intf.toHost alt).IsStreaming :=
      HostSetting.not_isStreaming_of_class haudio hvideo
    exact ⟨HostSetting.links_eq_nil hcommunication hcontrol,
      HostSetting.terminalLinks_eq_nil hstreaming, HostSetting.entities_eq_nil hcontrol,
      HostSetting.totalLengthOf_eq_none hcontrol hstreaming⟩
  refine ⟨fun control hmem number hnumber => ?_, fun streaming hmem link hlink => ?_,
    fun control hmem => ?_, fun setting hmem desc _ total htotal => ?_⟩
  · rw [(hsetting control hmem).1] at hnumber
    cases hnumber
  · rw [(hsetting streaming hmem).2.1] at hlink
    cases hlink
  · rw [(hsetting control hmem).2.2.1]
    trivial
  · rw [(hsetting setting hmem).2.2.2] at htotal
    cases htotal

/-- What two interfaces have to tell to be linked: the first one names the second, and the second a
terminal of the first. -/
structure Pair (control data : UsbInterface) : Prop where
  function : ∃ function ∈ control.function, function.firstInterface = control.interfaceNumber ∧
    function.interfaceCount = 2
  number : data.interfaceNumber.toNat = control.interfaceNumber.toNat + 1
  serves : (control.toHost 0).Serves (data.toHost 0)
  links : ∀ number ∈ (control.toHost 0).links, number = data.interfaceNumber
  terminals : ∀ link ∈ (data.toHost 0).terminalLinks,
    data.interfaceNumber ∈ (control.toHost 0).links ∧
      ∃ entity ∈ (control.toHost 0).entities, entity.id = link ∧
        entity.terminalType = some ttUsbStreaming
  entities : Described [] (control.toHost 0).entities
  totals : ∀ intf ∈ [control, data], ∀ desc ∈ (intf.toHost 0).classSpecific,
    ∀ total ∈ (intf.toHost 0).totalLengthOf desc,
      total = ((intf.toHost 0).classSpecific.map List.length).sum

namespace Pair

variable {control data : UsbInterface}

theorem not_isControl_data (h : Pair control data) (alt : Nat) : ¬ (data.toHost alt).IsControl := by
  rcases h.serves with ⟨-, hclass⟩ | ⟨-, hstreaming, -⟩
  · intro hcontrol
    rcases hcontrol.1 with hone | hvideo
    · exact absurd (hone.symm.trans hclass) (by decide)
    · exact absurd (hvideo.symm.trans hclass) (by decide)
  · intro hcontrol
    exact HostSetting.not_isStreaming_of_isControl hcontrol hstreaming

theorem class_data (h : Pair control data) (alt : Nat) :
    (data.toHost alt).interfaceClass ≠ 0x02 := by
  intro htwo
  rcases h.serves with ⟨-, hclass⟩ | ⟨-, hstreaming, -⟩
  · exact absurd (htwo.symm.trans hclass) (by decide)
  · rcases hstreaming.1 with hone | hvideo
    · exact absurd (htwo.symm.trans hone) (by decide)
    · exact absurd (htwo.symm.trans hvideo) (by decide)

theorem not_isStreaming_control (h : Pair control data) (alt : Nat) :
    ¬ (control.toHost alt).IsStreaming := by
  rcases h.serves with ⟨hclass, -⟩ | ⟨hcontrol, -⟩
  · intro hstreaming
    rcases hstreaming.1 with hone | hvideo
    · exact absurd (hone.symm.trans hclass) (by decide)
    · exact absurd (hvideo.symm.trans hclass) (by decide)
  · intro hstreaming
    exact HostSetting.not_isStreaming_of_isControl hcontrol hstreaming

theorem linked (h : Pair control data) :
    Linked (functionsOf [control, data]) (settingsOf [control, data]) := by
  have hsettings : settingsOf [control, data] =
      (List.range control.numAlts).map control.toHost ++
        (List.range data.numAlts).map data.toHost := by
    simp [settingsOf]
  have hcases {setting : HostSetting} (hmem : setting ∈ settingsOf [control, data]) :
      ∃ alt, setting = control.toHost alt ∨ setting = data.toHost alt := by
    rw [hsettings] at hmem
    rcases List.mem_append.mp hmem with hfirst | hsecond
    · obtain ⟨alt, -, rfl⟩ := List.mem_map.mp hfirst
      exact ⟨alt, .inl rfl⟩
    · obtain ⟨alt, -, rfl⟩ := List.mem_map.mp hsecond
      exact ⟨alt, .inr rfl⟩
  have hcontrol : control.toHost 0 ∈ settingsOf [control, data] := by
    rw [hsettings]
    exact List.mem_append_left _ control.toHost_zero_mem
  have hdata : data.toHost 0 ∈ settingsOf [control, data] := by
    rw [hsettings]
    exact List.mem_append_right _ data.toHost_zero_mem
  refine ⟨fun setting hmem number hnumber => ?_, fun setting hmem link hlink => ?_,
    fun setting hmem => ?_, fun setting hmem => ?_⟩
  · obtain ⟨alt, rfl | rfl⟩ := hcases hmem
    · have hfirst : number ∈ (control.toHost 0).links := UsbInterface.mem_first_setting hnumber
      obtain rfl := h.links number hfirst
      obtain ⟨function, hfunction, hinterface, hcount⟩ := h.function
      refine ⟨⟨function, ?_, hinterface, hcount, h.number⟩, data.toHost 0, hdata, rfl, h.serves⟩
      exact List.mem_filterMap.mpr ⟨control, List.mem_cons_self, hfunction⟩
    · rw [HostSetting.links_eq_nil (h.class_data alt) (h.not_isControl_data alt)] at hnumber
      cases hnumber
  · obtain ⟨alt, rfl | rfl⟩ := hcases hmem
    · rw [HostSetting.terminalLinks_eq_nil (h.not_isStreaming_control alt)] at hlink
      cases hlink
    · have hfirst : link ∈ (data.toHost 0).terminalLinks := UsbInterface.mem_first_setting hlink
      exact ⟨control.toHost 0, hcontrol, h.terminals link hfirst⟩
  · obtain ⟨alt, rfl | rfl⟩ := hcases hmem
    · exact UsbInterface.described_toHost h.entities alt
    · rw [HostSetting.entities_eq_nil (h.not_isControl_data alt)]
      trivial
  · obtain ⟨alt, rfl | rfl⟩ := hcases hmem
    · exact UsbInterface.total_toHost (h.totals control (by simp)) alt
    · exact UsbInterface.total_toHost (h.totals data (by simp)) alt

end Pair

end Linked

end Usbipdcpp.VirtualDevice.ConfigurationDescriptor
