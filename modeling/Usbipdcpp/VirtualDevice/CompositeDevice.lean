import Usbipdcpp.VirtualDevice.FunctionReadings

namespace Usbipdcpp.VirtualDevice.ConfigurationDescriptor

open Foundation.ByteStream Foundation.LengthTagged Protocol

section Pairs

variable {control data : UsbInterface} {iad : IadDesc}

theorem toNat_succ {first : UInt8} (hlt : first.toNat + 1 < 256) :
    (first + 1).toNat = first.toNat + 1 := by
  rw [UInt8.toNat_add]
  exact Nat.mod_eq_of_lt hlt

/-- A serial line or a network function whose communication interface names its data interface. -/
theorem pair_communication {blocks : List (List UInt8)}
    (hnumber : data.interfaceNumber.toNat = control.interfaceNumber.toNat + 1)
    (hcontrol : control.interfaceClass = 0x02) (hdata : data.interfaceClass = 0x0A)
    (hiad : control.interfaceAssociationDescriptor = some iad) (hcount : iad.bInterfaceCount = 2)
    (hcontrolBytes : control.classSpecificDescriptor = blocks.flatten)
    (hblocks : ∀ block ∈ blocks, IsClassBlock block)
    (hdataBytes : data.classSpecificDescriptor = [])
    (hnames : ∀ block ∈ blocks,
      HostSetting.descriptorSubtype block = 0x01 ∨ HostSetting.descriptorSubtype block = 0x06 →
        block.getD 4 0 = data.interfaceNumber) : Pair control data := by
  have hcontrolBlocks : (control.toHost 0).classSpecific = blocks :=
    classSpecificBlocks_of_flatten hcontrolBytes hblocks
  have hdataBlocks : (data.toHost 0).classSpecific = [] :=
    classSpecificBlocks_of_flatten (hdataBytes.trans List.flatten_nil.symm) fun _ h => nomatch h
  have hclass : (control.toHost 0).interfaceClass = 0x02 := hcontrol
  have haudio : (control.toHost 0).interfaceClass ≠ 0x01 := by
    rw [hclass]
    decide
  have hvideo : (control.toHost 0).interfaceClass ≠ 0x0E := by
    rw [hclass]
    decide
  have hnotControl := HostSetting.not_isControl_of_class haudio hvideo
  have hnotStreaming := HostSetting.not_isStreaming_of_class haudio hvideo
  refine ⟨⟨_, congrArg (Option.map _) hiad, rfl, hcount⟩, hnumber, .inl ⟨hcontrol, hdata⟩,
    fun number hnumber => ?_, fun link hlink => ?_, ?_, fun intf hmem desc hdesc total htotal => ?_⟩
  · obtain ⟨block, hblock, hlink⟩ := List.mem_filterMap.mp hnumber
    rw [hcontrolBlocks] at hblock
    rw [HostSetting.linkOf, if_pos hclass] at hlink
    split at hlink
    next hnamed =>
      rw [← Option.some.inj hlink]
      exact hnames block hblock hnamed
    next => cases hlink
  · rw [HostSetting.terminalLinks, hdataBlocks] at hlink
    cases hlink
  · rw [HostSetting.entities_eq_nil hnotControl]
    trivial
  · rcases List.mem_pair.mp hmem with rfl | rfl
    · rw [HostSetting.totalLengthOf_eq_none hnotControl hnotStreaming] at htotal
      cases htotal
    · rw [hdataBlocks] at hdesc
      cases hdesc

/-- A control interface that names its streaming interface, which names a terminal of it. -/
theorem Pair.of_streaming {link : UInt8}
    (hfunction : ∃ function ∈ control.function,
      function.firstInterface = control.interfaceNumber ∧ function.interfaceCount = 2)
    (hnumber : data.interfaceNumber.toNat = control.interfaceNumber.toNat + 1)
    (hserves : (control.toHost 0).Serves (data.toHost 0))
    (hlinks : (control.toHost 0).links = [data.interfaceNumber])
    (hterminals : (data.toHost 0).terminalLinks = [link])
    (hentity : ∃ entity ∈ (control.toHost 0).entities, entity.id = link ∧
      entity.terminalType = some ttUsbStreaming)
    (hdescribed : Described [] (control.toHost 0).entities)
    (htotals : ∀ intf ∈ [control, data], ∀ desc ∈ (intf.toHost 0).classSpecific,
      ∀ total ∈ (intf.toHost 0).totalLengthOf desc,
        total = ((intf.toHost 0).classSpecific.map List.length).sum) : Pair control data where
  function := hfunction
  number := hnumber
  serves := hserves
  links := by
    intro number hmem
    rw [hlinks] at hmem
    exact List.mem_singleton.mp hmem
  terminals := by
    intro other hmem
    rw [hterminals] at hmem
    obtain rfl := List.mem_singleton.mp hmem
    rw [hlinks]
    exact ⟨List.mem_singleton.mpr rfl, hentity⟩
  entities := hdescribed
  totals := htotals

/-- The interfaces of an audio device, whose control interface was given its number. -/
theorem pair_audio {direction : Uac.AudioDirection} {config : UacTopology}
    {stream : Uac.AudioStream}
    (hnumber : data.interfaceNumber.toNat = control.interfaceNumber.toNat + 1)
    (hcontrol : control.interfaceClass = 0x01 ∧ control.interfaceSubclass = 0x01)
    (hdata : data.interfaceClass = 0x01 ∧ data.interfaceSubclass = 0x02)
    (hiad : control.interfaceAssociationDescriptor = some iad) (hcount : iad.bInterfaceCount = 2)
    (hcontrolBytes : control.classSpecificDescriptor =
      audioControlDescriptor (audioTopology direction config stream) data.interfaceNumber)
    (hdataBytes : data.classSpecificDescriptor = streamingDescriptor direction stream)
    (hrates : stream.supportedSampleRates.val.length ≤ 82)
    (hinput : direction = .source → config.inputTerminalType ≠ ttUsbStreaming) :
    Pair control data := by
  have hchannels := channels_audioTopology direction config stream
  have hcontrolBlocks : (control.toHost 0).classSpecific =
      audioControlBlocks (audioTopology direction config stream) data.interfaceNumber :=
    classSpecificBlocks_of_flatten (hcontrolBytes.trans (audioControlDescriptor_eq _ _))
      (isClassBlock_audioControl hchannels _)
  have hdataBlocks : (data.toHost 0).classSpecific =
      audioStreamingBlocks (audioTerminalLink direction) stream :=
    classSpecificBlocks_of_flatten (hdataBytes.trans (streamingDescriptor_eq _ _))
      (isClassBlock_audioStreaming hrates _)
  have hisControl : (control.toHost 0).IsControl := ⟨.inl hcontrol.1, hcontrol.2⟩
  have hisStreaming : (data.toHost 0).IsStreaming := ⟨.inl hdata.1, hdata.2⟩
  have hclass : (control.toHost 0).interfaceClass = 0x01 := hcontrol.1
  have hdataClass : (data.toHost 0).interfaceClass = 0x01 := hdata.1
  refine Pair.of_streaming ⟨_, congrArg (Option.map _) hiad, rfl, hcount⟩ hnumber
    (.inr ⟨hisControl, hisStreaming, hdataClass.trans hclass.symm⟩)
    (links_audio hisControl hclass hcontrolBlocks)
    (terminalLinks_audio hisStreaming hdataClass hdataBlocks)
    (mem_entities_audioTopology hinput hisControl hclass hcontrolBlocks) ?_ ?_
  · rw [entities_audio hisControl hclass hcontrolBlocks]
    simp [Described, Uac.entityInputTerminal, Uac.entityFeatureUnit, Uac.entityOutputTerminal]
  · intro intf hmem
    rcases List.mem_pair.mp hmem with rfl | rfl
    · exact total_audio hisControl hcontrolBlocks
    · intro desc _ total htotal
      have hnot : ¬ (intf.toHost 0).IsControl := fun h =>
        HostSetting.not_isStreaming_of_isControl h hisStreaming
      rw [HostSetting.totalLengthOf, if_neg fun h => hnot h.1, hdataClass] at htotal
      simp at htotal

/-- The interfaces of a video device. -/
theorem pair_video {fmt : VideoFormat}
    (hnumber : data.interfaceNumber.toNat = control.interfaceNumber.toNat + 1)
    (hcontrol : control.interfaceClass = 0x0E ∧ control.interfaceSubclass = 0x01)
    (hdata : data.interfaceClass = 0x0E ∧ data.interfaceSubclass = 0x02)
    (hiad : control.interfaceAssociationDescriptor = some iad) (hcount : iad.bInterfaceCount = 2)
    (hcontrolBytes : control.classSpecificDescriptor =
      videoControlDescriptor (some data.interfaceNumber))
    (hdataBytes : data.classSpecificDescriptor = videoStreamingDescriptor fmt data.endpoints) :
    Pair control data := by
  have hcontrolBlocks : (control.toHost 0).classSpecific =
      videoControlBlocks data.interfaceNumber :=
    classSpecificBlocks_of_flatten (hcontrolBytes.trans (videoControlDescriptor_eq _))
      (isClassBlock_videoControl _)
  have hdataBlocks : (data.toHost 0).classSpecific =
      videoStreamingBlocks fmt (streamingEndpointAddress data.endpoints) :=
    classSpecificBlocks_of_flatten (hdataBytes.trans (videoStreamingDescriptor_eq _ _))
      (isClassBlock_videoStreaming _ _)
  have hisControl : (control.toHost 0).IsControl := ⟨.inr hcontrol.1, hcontrol.2⟩
  have hisStreaming : (data.toHost 0).IsStreaming := ⟨.inr hdata.1, hdata.2⟩
  have hclass : (control.toHost 0).interfaceClass = 0x0E := hcontrol.1
  have hdataClass : (data.toHost 0).interfaceClass = 0x0E := hdata.1
  have hentities := entities_video hisControl hclass hcontrolBlocks
  refine Pair.of_streaming ⟨_, congrArg (Option.map _) hiad, rfl, hcount⟩ hnumber
    (.inr ⟨hisControl, hisStreaming, hdataClass.trans hclass.symm⟩)
    (links_video hisControl hclass hcontrolBlocks)
    (terminalLinks_video hisStreaming hdataClass hdataBlocks) ?_ ?_ ?_
  · rw [hentities]
    exact ⟨_, .tail _ (.tail _ (.head _)), rfl, rfl⟩
  · rw [hentities]
    simp [Described]
  · intro intf hmem
    rcases List.mem_pair.mp hmem with rfl | rfl
    · exact total_videoControl hisControl hcontrolBlocks
    · exact total_videoStreaming hisStreaming hdataBlocks

theorem names_cdcAcm (number slave capabilities : UInt8) :
    ∀ block ∈ cdcAcmBlocks number slave capabilities,
      HostSetting.descriptorSubtype block = 0x01 ∨ HostSetting.descriptorSubtype block = 0x06 →
        block.getD 4 0 = slave := by
  intro block hblock hnamed
  have hcases : block = cdcHeaderFunctionalDesc ∨ block = cdcCallManagementDesc slave ∨
      block = cdcAcmFunctionalDesc capabilities ∨ block = cdcUnionFunctionalDesc number slave := by
    simpa [cdcAcmBlocks] using hblock
  rcases hcases with rfl | rfl | rfl | rfl
  · exact absurd hnamed (by decide)
  · rfl
  · have hsubtype : (0x02 : UInt8) = 0x01 ∨ (0x02 : UInt8) = 0x06 := hnamed
    exact absurd hsubtype (by decide)
  · rfl

theorem names_ecm (number slave macStringIndex : UInt8) :
    ∀ block ∈ ecmBlocks number slave macStringIndex,
      HostSetting.descriptorSubtype block = 0x01 ∨ HostSetting.descriptorSubtype block = 0x06 →
        block.getD 4 0 = slave := by
  intro block hblock hnamed
  have hcases : block = cdcHeaderFunctionalDesc ∨ block = cdcUnionFunctionalDesc number slave ∨
      block = cdcEthernetFunctionalDesc macStringIndex := by
    simpa [ecmBlocks] using hblock
  rcases hcases with rfl | rfl | rfl
  · exact absurd hnamed (by decide)
  · rfl
  · have hsubtype : (0x0F : UInt8) = 0x01 ∨ (0x0F : UInt8) = 0x06 := hnamed
    exact absurd hsubtype (by decide)

end Pairs

section Composite

variable {first : UInt8}

section Endpoints

variable {intf : UsbInterface}

theorem wellFormed_of_nil (hbytes : intf.classSpecificDescriptor = [])
    (hcountable : DeviceFunction.Countable intf.endpoints) : intf.WellFormed :=
  wellFormed_of_flatten (hbytes.trans List.flatten_nil.symm) (fun _ h => nomatch h) hcountable

theorem countable_of_length {endpoints : List UsbEndpoint} (h : endpoints.length ≤ 255) :
    DeviceFunction.Countable [endpoints] := by
  refine ⟨(by decide : 1 ≤ 255), fun setting hsetting => ?_⟩
  obtain rfl := List.mem_singleton.mp hsetting
  exact h

theorem countable_idle {endpoints : List UsbEndpoint} (h : endpoints.length ≤ 255) :
    DeviceFunction.Countable [[], endpoints] := by
  refine ⟨(by decide : 2 ≤ 255), fun setting hsetting => ?_⟩
  rcases List.mem_pair.mp hsetting with rfl | rfl
  · exact Nat.zero_le _
  · exact h

end Endpoints

namespace DeviceFunction

variable {function : DeviceFunction}

/-- What the descriptors of a function refer to is in the function. -/
theorem linked_interfaces (hadmissible : function.Admissible)
    (hlt : first.toNat + function.interfaceCount ≤ 256) :
    Linked (functionsOf (function.interfaces first)) (settingsOf (function.interfaces first)) := by
  cases function with
  | hid device inEp reportDescriptorSize string =>
      refine linked_single ?_ ?_ ?_ <;> cases device <;>
        exact fun h : (0x03 : UInt8) = _ => absurd h (by decide)
  | massStorage inEp outEp string =>
      refine linked_single ?_ ?_ ?_ <;>
        exact fun h : (0x08 : UInt8) = _ => absurd h (by decide)
  | cdcAcm interruptInEp inEp outEp string dataString =>
      exact Pair.linked (pair_communication (toNat_succ hlt) rfl rfl rfl rfl
        (cdcAcmDescriptor_eq _ _) (isClassBlock_cdcAcm _ _ _) rfl (names_cdcAcm _ _ _))
  | ecm interruptInEp inEp outEp macStringIndex string dataString =>
      exact Pair.linked (pair_communication (toNat_succ hlt) rfl rfl rfl rfl
        (ecmDescriptor_eq _ _ _) (isClassBlock_ecm _ _ _) rfl (names_ecm _ _ _))
  | rndis interruptInEp inEp outEp string dataString =>
      exact Pair.linked (pair_communication (toNat_succ hlt) rfl rfl rfl rfl
        (rndisDescriptor_eq _ _) (isClassBlock_cdcAcm _ _ _) rfl (names_cdcAcm _ _ _))
  | audio direction config stream control streaming string streamingString =>
      obtain ⟨-, -, hrates, hinput⟩ := hadmissible
      exact (pair_audio (toNat_succ hlt) ⟨rfl, rfl⟩ ⟨rfl, rfl⟩ rfl rfl rfl rfl hrates
        hinput).linked
  | video fmt control streaming string =>
      exact (pair_video (toNat_succ hlt) ⟨rfl, rfl⟩ ⟨rfl, rfl⟩ rfl rfl rfl rfl).linked

/-- A host can walk over the descriptors of a function. -/
theorem wellFormed_interfaces (hadmissible : function.Admissible) (first : UInt8) :
    ∀ intf ∈ function.interfaces first, intf.WellFormed := by
  intro intf hintf
  cases function with
  | hid device inEp reportDescriptorSize string =>
      obtain rfl := List.mem_singleton.mp hintf
      refine wellFormed_of_flatten (hidDescriptor_eq _) (isClassBlock_hid _) ?_
      cases device <;> exact countable_of_length (by decide : 1 ≤ 255)
  | massStorage inEp outEp string =>
      obtain rfl := List.mem_singleton.mp hintf
      exact wellFormed_of_nil rfl (countable_of_length (by decide : 2 ≤ 255))
  | cdcAcm interruptInEp inEp outEp string dataString =>
      rcases List.mem_pair.mp hintf with rfl | rfl
      · exact wellFormed_of_flatten (cdcAcmDescriptor_eq _ _) (isClassBlock_cdcAcm _ _ _)
          (countable_of_length (by decide : 1 ≤ 255))
      · exact wellFormed_of_nil rfl (countable_of_length (by decide : 2 ≤ 255))
  | ecm interruptInEp inEp outEp macStringIndex string dataString =>
      rcases List.mem_pair.mp hintf with rfl | rfl
      · exact wellFormed_of_flatten (ecmDescriptor_eq _ _ _) (isClassBlock_ecm _ _ _)
          (countable_of_length (by decide : 1 ≤ 255))
      · exact wellFormed_of_nil rfl (countable_idle (by decide : 2 ≤ 255))
  | rndis interruptInEp inEp outEp string dataString =>
      rcases List.mem_pair.mp hintf with rfl | rfl
      · exact wellFormed_of_flatten (rndisDescriptor_eq _ _) (isClassBlock_cdcAcm _ _ _)
          (countable_of_length (by decide : 1 ≤ 255))
      · exact wellFormed_of_nil rfl (countable_of_length (by decide : 2 ≤ 255))
  | audio direction config stream control streaming string streamingString =>
      obtain ⟨hcontrol, hstreaming, hrates, -⟩ := hadmissible
      rcases List.mem_pair.mp hintf with rfl | rfl
      · exact wellFormed_of_flatten (audioControlDescriptor_eq _ _)
          (isClassBlock_audioControl (channels_audioTopology _ _ _) _) hcontrol
      · exact wellFormed_of_flatten (streamingDescriptor_eq _ _)
          (isClassBlock_audioStreaming hrates _) hstreaming
  | video fmt control streaming string =>
      obtain ⟨hcontrol, hstreaming, -⟩ := hadmissible
      rcases List.mem_pair.mp hintf with rfl | rfl
      · exact wellFormed_of_flatten (videoControlDescriptor_eq _) (isClassBlock_videoControl _)
          hcontrol
      · exact wellFormed_of_flatten (videoStreamingDescriptor_eq _ _)
          (isClassBlock_videoStreaming _ _) hstreaming

/-- The rates of an audio function and the frame of a video function are told in a setting of its
second interface; a rate is cut off to 24 bits. -/
def Offered (first : UInt8) (settings : List HostSetting) : DeviceFunction → Prop
  | .audio _ _ stream .. =>
      ∃ setting ∈ settings, setting.interfaceNumber = first + 1 ∧
        setting.rates = [stream.supportedSampleRates.val.map fun rate => rate.toNat % 2 ^ 24]
  | .video fmt .. =>
      ∃ setting ∈ settings, setting.interfaceNumber = first + 1 ∧
        setting.frames = [⟨fmt.width, fmt.height, fmt.defaultFrameInterval, fmt.minFrameInterval,
          fmt.maxFrameInterval⟩]
  | _ => True

theorem Offered.mono {settings settings' : List HostSetting} (hsub : settings ⊆ settings')
    (h : function.Offered first settings) : function.Offered first settings' := by
  cases function with
  | audio =>
      obtain ⟨setting, hsetting, hrates⟩ := h
      exact ⟨setting, hsub hsetting, hrates⟩
  | video =>
      obtain ⟨setting, hsetting, hframes⟩ := h
      exact ⟨setting, hsub hsetting, hframes⟩
  | _ => trivial

theorem offered_interfaces (hadmissible : function.Admissible) (first : UInt8) :
    function.Offered first (settingsOf (function.interfaces first)) := by
  cases function with
  | audio direction config stream control streaming string streamingString =>
      obtain ⟨-, -, hrates, -⟩ := hadmissible
      have hblocks := isClassBlock_audioStreaming hrates (audioTerminalLink direction)
      exact ⟨UsbInterface.toHost _ 0,
        List.mem_flatMap.mpr ⟨_, .tail _ (.head _), UsbInterface.toHost_zero_mem _⟩, rfl,
        rates_audio ⟨.inl rfl, rfl⟩ rfl hrates
          (classSpecificBlocks_of_flatten (streamingDescriptor_eq _ _) hblocks)⟩
  | video fmt control streaming string =>
      have hblocks := isClassBlock_videoStreaming fmt (streamingEndpointAddress streaming)
      exact ⟨UsbInterface.toHost _ 0,
        List.mem_flatMap.mpr ⟨_, .tail _ (.head _), UsbInterface.toHost_zero_mem _⟩, rfl,
        frames_video ⟨.inr rfl, rfl⟩ rfl
          (classSpecificBlocks_of_flatten (videoStreamingDescriptor_eq _ _) hblocks)⟩
  | _ => trivial

theorem interfaceCount_pos (function : DeviceFunction) : 0 < function.interfaceCount := by
  cases function <;> exact Nat.succ_pos _

theorem numbers_interfaces (hlt : first.toNat + function.interfaceCount ≤ 256) :
    (function.interfaces first).map (fun intf => intf.interfaceNumber.toNat) =
      List.range' first.toNat function.interfaceCount := by
  cases function with
  | hid => rfl
  | massStorage => rfl
  | _ => exact congrArg (fun second => [first.toNat, second]) (toNat_succ hlt)

end DeviceFunction

variable {start : Nat} {functions : List DeviceFunction}

/-- How many interfaces functions have together. -/
def interfaceCountOf (functions : List DeviceFunction) : Nat :=
  (functions.map DeviceFunction.interfaceCount).sum

theorem mem_placed {entry : Nat × DeviceFunction} (hmem : entry ∈ placed start functions) :
    entry.2 ∈ functions ∧
      entry.1 + entry.2.interfaceCount ≤ start + interfaceCountOf functions := by
  induction functions generalizing start with
  | nil => cases hmem
  | cons function functions ih =>
      have hcount : interfaceCountOf (function :: functions) =
          function.interfaceCount + interfaceCountOf functions := by
        rw [interfaceCountOf, List.map_cons, List.sum_cons, interfaceCountOf]
      rcases List.mem_cons.mp hmem with rfl | htail
      · refine ⟨List.mem_cons_self, ?_⟩
        change start + function.interfaceCount ≤ _
        omega
      · obtain ⟨hfunction, hbound⟩ := ih htail
        exact ⟨List.mem_cons_of_mem _ hfunction, by omega⟩

/-- The number of a first interface is not cut off. -/
theorem toNat_first {entry : Nat × DeviceFunction} (hmem : entry ∈ placed start functions)
    (hcount : start + interfaceCountOf functions ≤ 256) :
    (UInt8.ofNat entry.1).toNat = entry.1 := by
  have hbound := (mem_placed hmem).2
  have hpos := entry.2.interfaceCount_pos
  exact UInt8.toNat_ofNat_of_lt' (show entry.1 < 256 by omega)

/-- The interfaces are numbered one after the other. -/
theorem numbers_placed (hcount : start + interfaceCountOf functions ≤ 256) :
    ((placed start functions).flatMap interfacesOf).map
      (fun intf => intf.interfaceNumber.toNat) =
        List.range' start (interfaceCountOf functions) := by
  induction functions generalizing start with
  | nil => rfl
  | cons function functions ih =>
      have htotal : interfaceCountOf (function :: functions) =
          function.interfaceCount + interfaceCountOf functions := by
        rw [interfaceCountOf, List.map_cons, List.sum_cons, interfaceCountOf]
      have hfirst : (UInt8.ofNat start).toNat = start :=
        toNat_first (List.mem_cons_self) hcount
      have hlt : (UInt8.ofNat start).toNat + function.interfaceCount ≤ 256 := by
        rw [hfirst]
        omega
      have hhead := DeviceFunction.numbers_interfaces hlt
      rw [placed, List.flatMap_cons, List.map_append, ih (by omega), interfacesOf, hhead,
        hfirst, htotal, List.range'_append_1]

theorem numbers_from_zero (hcount : interfaceCountOf functions ≤ 256) :
    ((placed 0 functions).flatMap interfacesOf).map (fun intf => intf.interfaceNumber.toNat) =
      List.range (interfaceCountOf functions) := by
  rw [List.range_eq_range']
  exact numbers_placed (by omega)

/-- `UsbDevice::assign_interface_numbers`. -/
def assignInterfaceNumbers (interfaces : List UsbInterface) : List UsbInterface :=
  interfaces.mapIdx fun i intf => { intf with interfaceNumber := .ofNat i }

/-- The interfaces already have the numbers that they are assigned by their places. -/
theorem assignInterfaceNumbers_placed (hcount : interfaceCountOf functions ≤ 256) :
    assignInterfaceNumbers ((placed 0 functions).flatMap interfacesOf) =
      (placed 0 functions).flatMap interfacesOf := by
  refine List.ext_getElem List.length_mapIdx fun i h h' => ?_
  have hassigned : ((placed 0 functions).flatMap interfacesOf)[i].interfaceNumber = .ofNat i := by
    have hnumber := List.getElem_of_eq (numbers_from_zero hcount)
      (i := i) (by rwa [List.length_map])
    rw [List.getElem_map, List.getElem_range] at hnumber
    exact UInt8.ofNat_toNat.symm.trans (congrArg UInt8.ofNat hnumber)
  simp only [assignInterfaceNumbers, List.getElem_mapIdx, ← hassigned]

/-- The interfaces that a host reads have the numbers below how many it is told. -/
def Numbered (config : HostConfiguration) : Prop :=
  ∀ number : Nat, number < config.numInterfaces.toNat ↔
    ∃ setting ∈ config.settings, setting.interfaceNumber.toNat = number

theorem wellFormed_compositeDevice {configurationValue stringConfigurationValue : UInt8}
    (hadmissible : ∀ function ∈ functions, function.Admissible)
    (hlength : (compositeDevice configurationValue stringConfigurationValue
      functions).assembled.length ≤ 65535) :
    (compositeDevice configurationValue stringConfigurationValue functions).WellFormed := by
  refine ⟨fun intf hintf => ?_, hlength⟩
  obtain ⟨entry, hentry, hmem⟩ := List.mem_flatMap.mp hintf
  exact DeviceFunction.wellFormed_interfaces (hadmissible _ (mem_placed hentry).1) _ intf hmem

theorem linked_compositeDevice {configurationValue stringConfigurationValue : UInt8}
    (hadmissible : ∀ function ∈ functions, function.Admissible)
    (hcount : interfaceCountOf functions ≤ 255) :
    Linked (compositeDevice configurationValue stringConfigurationValue functions).toHost.functions
      (compositeDevice configurationValue stringConfigurationValue functions).toHost.settings := by
  refine Linked.flatMap fun entry hentry => ?_
  obtain ⟨hfunction, hbound⟩ := mem_placed hentry
  refine DeviceFunction.linked_interfaces (hadmissible _ hfunction) ?_
  rw [toNat_first hentry (by omega)]
  omega

theorem numbered_compositeDevice {configurationValue stringConfigurationValue : UInt8}
    (hcount : interfaceCountOf functions ≤ 255) :
    Numbered (compositeDevice configurationValue stringConfigurationValue functions).toHost := by
  have hnumbers := numbers_from_zero (hcount.trans (by decide : 255 ≤ 256))
  have hlength : ((placed 0 functions).flatMap interfacesOf).length =
      interfaceCountOf functions := by
    have hlengths := congrArg List.length hnumbers
    rwa [List.length_map, List.length_range] at hlengths
  have hmem (number : Nat) : number < interfaceCountOf functions ↔
      ∃ intf ∈ (placed 0 functions).flatMap interfacesOf,
        intf.interfaceNumber.toNat = number := by
    rw [← List.mem_map, hnumbers, List.mem_range]
  intro number
  have htold : (UInt8.ofNat ((placed 0 functions).flatMap interfacesOf).length).toNat =
      interfaceCountOf functions := by
    rw [hlength]
    exact UInt8.toNat_ofNat_of_lt' (show interfaceCountOf functions < 256 by omega)
  change number < (UInt8.ofNat ((placed 0 functions).flatMap interfacesOf).length).toNat ↔ _
  rw [htold, hmem]
  constructor
  · rintro ⟨intf, hintf, hnumber⟩
    exact ⟨intf.toHost 0, List.mem_flatMap.mpr ⟨intf, hintf, intf.toHost_zero_mem⟩, hnumber⟩
  · rintro ⟨setting, hsetting, hnumber⟩
    obtain ⟨intf, hintf, hmap⟩ := List.mem_flatMap.mp hsetting
    obtain ⟨alt, -, rfl⟩ := List.mem_map.mp hmap
    exact ⟨intf, hintf, hnumber⟩

theorem offered_compositeDevice {configurationValue stringConfigurationValue : UInt8}
    (hadmissible : ∀ function ∈ functions, function.Admissible) :
    ∀ entry ∈ placed 0 functions, entry.2.Offered (.ofNat entry.1)
      (compositeDevice configurationValue stringConfigurationValue
        functions).toHost.settings := by
  intro entry hentry
  refine (DeviceFunction.offered_interfaces (hadmissible _ (mem_placed hentry).1) _).mono ?_
  intro setting hsetting
  obtain ⟨intf, hintf, hmem⟩ := List.mem_flatMap.mp hsetting
  exact List.mem_flatMap.mpr ⟨intf, List.mem_flatMap.mpr ⟨entry, hentry, hintf⟩, hmem⟩

/-- A configuration in which a host finds functions. -/
structure ConsistsOf (config : HostConfiguration) (functions : List DeviceFunction) : Prop where
  numbered : Numbered config
  linked : Linked config.functions config.settings
  offered : ∀ entry ∈ placed 0 functions, entry.2.Offered (.ofNat entry.1) config.settings

/-- A host that asks a device for its whole configuration finds the functions that the device was
put together from, whichever these are and in whichever order they stand. -/
theorem host_reads_functions {Handler : Type} {configurationValue stringConfigurationValue : UInt8}
    (hadmissible : ∀ function ∈ functions, function.Admissible)
    (hcount : interfaceCountOf functions ≤ 255)
    (callbacks : Callbacks Handler) (usbDevice : VirtualDevice.UsbDevice Handler)
    {urb : ControlUrb Handler} {whole : List UInt8} (hasks : UsbDevice.AsksForConfiguration urb)
    (hanswer : ((urb.handleControlUrb ((compositeDevice configurationValue
      stringConfigurationValue functions).describing callbacks) usbDevice).answer).map Prod.snd =
        some whole)
    (hasked : (compositeDevice configurationValue stringConfigurationValue
      functions).assembled.length ≤ urb.setup.length.toNat) :
    ∃ config, readConfiguration whole = some config ∧ ConsistsOf config functions := by
  have hlength := hasked.trans (Nat.le_of_lt_succ urb.setup.length.toNat_lt)
  have hwellFormed := wellFormed_compositeDevice hadmissible hlength
  have hread := UsbDevice.readConfiguration_blocks hwellFormed
    (UsbDevice.covers_blocks hwellFormed)
  rw [UsbDevice.answer_of_asksForConfiguration _ hasks, Option.some_inj,
    UsbDevice.getConfigurationDescriptor_eq, List.take_take, Nat.min_self,
    List.take_of_length_le ((UsbDevice.length_filled _).trans_le hasked)] at hanswer
  rw [hanswer] at hread
  exact ⟨_, hread, ⟨numbered_compositeDevice hcount, linked_compositeDevice hadmissible hcount,
    offered_compositeDevice hadmissible⟩⟩

/-- A camera, a serial line and a keyboard. -/
def exampleFunctions : List DeviceFunction :=
  [.video ⟨⟨0x32595559, 640, 480, 333333, 333333, 666666⟩, 614400, 16⟩ [[]] [[],
      [⟨⟨0x81, 0x05⟩, 1024, 1⟩]] 4,
    .cdcAcm 0x83 0x82 0x02 5 6, .hid .keyboard 0x84 63 7]

theorem host_reads_functions_example :
    ∃ config, readConfiguration (((compositeDevice 1 0 exampleFunctions).getConfigurationDescriptor
      1024).take 1024) = some config ∧ ConsistsOf config exampleFunctions := by
  let usbDevice : VirtualDevice.UsbDevice Nat := ⟨⟨0x80, 0⟩, ⟨0, 0⟩, []⟩
  have hasks := UsbDevice.asksForConfiguration_configurationUrb 1024
  have hadmissible : ∀ function ∈ exampleFunctions, function.Admissible := by
    simp [exampleFunctions, DeviceFunction.Admissible, DeviceFunction.Countable]
  exact host_reads_functions hadmissible (by decide) .stalling usbDevice hasks
    (UsbDevice.answer_of_asksForConfiguration _ hasks) (by decide +kernel)

end Composite

end Usbipdcpp.VirtualDevice.ConfigurationDescriptor
