import Usbipdcpp.VirtualDevice.DeviceFunctions

namespace Usbipdcpp.VirtualDevice.ConfigurationDescriptor

open Foundation.ByteStream Foundation.LengthTagged Protocol

theorem classSpecificBlocks_of_flatten {intf : UsbInterface} {blocks : List (List UInt8)}
    (hbytes : intf.classSpecificDescriptor = blocks.flatten)
    (hblocks : ∀ block ∈ blocks, IsClassBlock block) :
    intf.classSpecificBlocks = blocks := by
  have hcovers : Covers intf.classSpecificDescriptor blocks :=
    ⟨hbytes.symm, fun block hblock => (hblocks block hblock).1⟩
  rw [UsbInterface.classSpecificBlocks, walk_eq_some_iff.mpr hcovers]
  rfl

theorem wellFormed_of_flatten {intf : UsbInterface} {blocks : List (List UInt8)}
    (hbytes : intf.classSpecificDescriptor = blocks.flatten)
    (hblocks : ∀ block ∈ blocks, IsClassBlock block)
    (hcountable : DeviceFunction.Countable intf.endpoints) : intf.WellFormed := by
  refine ⟨?_, hcountable.2, hcountable.1⟩
  rw [hbytes]
  exact classSpecific_of_blocks hblocks

theorem channels_setConfig (config : UacTopology) :
    config.setConfig.channels = 1 ∨ config.setConfig.channels = 2 := by
  dsimp only [UacTopology.setConfig]
  split
  next => exact .inl rfl
  next hsupported =>
    rcases not_and_or.mp hsupported with hone | htwo
    · exact .inl (not_not.mp hone)
    · exact .inr (not_not.mp htwo)

/-- The configuration that the control interface works with has one channel or two. -/
theorem channels_audioTopology (direction : Uac.AudioDirection) (config : UacTopology)
    (stream : Uac.AudioStream) :
    (audioTopology direction config stream).channels = 1 ∨
      (audioTopology direction config stream).channels = 2 :=
  channels_setConfig _

section Streaming

variable {setting : HostSetting} {header desc : List UInt8} {rest : List (List UInt8)}

namespace HostSetting

theorem class_of_isControl (h : setting.IsControl) : setting.interfaceClass ≠ 0x02 := by
  intro htwo
  rcases h.1 with hone | hvideo
  · exact absurd (htwo.symm.trans hone) (by decide)
  · exact absurd (htwo.symm.trans hvideo) (by decide)

/-- Only a header names an interface. -/
theorem linkOf_eq_none (hcontrol : setting.IsControl) (h : descriptorSubtype desc ≠ 0x01) :
    setting.linkOf desc = none := by
  rw [linkOf, if_neg (class_of_isControl hcontrol), if_neg fun hheader => h hheader.2]

theorem links_of_header {number : UInt8} (hcontrol : setting.IsControl)
    (hblocks : setting.classSpecific = header :: rest)
    (hheader : setting.linkOf header = some number)
    (hrest : ∀ desc ∈ rest, descriptorSubtype desc ≠ 0x01) : setting.links = [number] := by
  have hnone : rest.filterMap setting.linkOf = [] :=
    List.filterMap_eq_nil_iff.mpr fun desc hdesc => linkOf_eq_none hcontrol (hrest desc hdesc)
  rw [links, hblocks, List.filterMap_cons_some hheader, hnone]

theorem terminalLinks_of_header {link : UInt8}
    (hblocks : setting.classSpecific = header :: rest)
    (hheader : setting.terminalLinkOf header = some link)
    (hrest : ∀ desc ∈ rest, descriptorSubtype desc ≠ 0x01) : setting.terminalLinks = [link] := by
  have hnone : rest.filterMap setting.terminalLinkOf = [] :=
    List.filterMap_eq_nil_iff.mpr fun desc hdesc => if_neg fun h => hrest desc hdesc h.2
  rw [terminalLinks, hblocks, List.filterMap_cons_some hheader, hnone]

/-- A header that tells its own length and that of what follows. -/
theorem total_of_header (hblocks : setting.classSpecific = header :: rest)
    (hheader : ∀ total ∈ setting.totalLengthOf header,
      total = header.length + rest.flatten.length)
    (hrest : ∀ desc ∈ rest, descriptorSubtype desc ≠ 0x01) :
    ∀ desc ∈ setting.classSpecific, ∀ total ∈ setting.totalLengthOf desc,
      total = (setting.classSpecific.map List.length).sum := by
  intro desc hdesc total htotal
  rw [hblocks] at hdesc
  rcases List.mem_cons.mp hdesc with rfl | hmem
  · rw [hblocks, List.map_cons, List.sum_cons, ← List.length_flatten]
    exact hheader total htotal
  · have hsubtype := hrest desc hmem
    rw [totalLengthOf, if_neg fun h => hsubtype h.2, if_neg fun h => hsubtype h.2.2] at htotal
    cases htotal

end HostSetting

end Streaming

section AudioPair

variable {setting : HostSetting} {config : UacTopology} {number : UInt8}

theorem subtype_audioEntities (config : UacTopology) :
    ∀ desc ∈ audioEntities config, HostSetting.descriptorSubtype desc ≠ 0x01 := by
  intro desc hdesc
  have hcases : desc = acInputTerminalDesc config ∨ desc = acFeatureUnitDesc config ∨
      desc = acOutputTerminalDesc config := by
    simpa only [audioEntities, List.mem_cons, List.not_mem_nil, or_false] using hdesc
  rcases hcases with rfl | rfl | rfl
  · exact fun h : (0x02 : UInt8) = 0x01 => absurd h (by decide)
  · exact fun h : (0x06 : UInt8) = 0x01 => absurd h (by decide)
  · exact fun h : (0x03 : UInt8) = 0x01 => absurd h (by decide)

theorem terminalType_acInputTerminalDesc (config : UacTopology) :
    UInt16.ofNat (leField 2 4 (acInputTerminalDesc config)) = config.inputTerminalType := by
  have hfield : leField 2 4 (acInputTerminalDesc config) = config.inputTerminalType.toNat := by
    rw [acInputTerminalDesc, List.append_assoc, List.append_assoc, List.append_assoc]
    exact leField_field (by rfl) (UInt16.toNat_lt _)
  rw [hfield, UInt16.ofNat_toNat]

theorem terminalType_acOutputTerminalDesc (config : UacTopology) :
    UInt16.ofNat (leField 2 4 (acOutputTerminalDesc config)) = config.outputType := by
  have hfield : leField 2 4 (acOutputTerminalDesc config) = config.outputType.toNat := by
    rw [acOutputTerminalDesc, List.append_assoc]
    exact leField_field (by rfl) (UInt16.toNat_lt _)
  rw [hfield, UInt16.ofNat_toNat]

theorem links_audio (hcontrol : setting.IsControl) (hclass : setting.interfaceClass = 0x01)
    (hblocks : setting.classSpecific = audioControlBlocks config number) :
    setting.links = [number] := by
  refine HostSetting.links_of_header hcontrol hblocks ?_ (subtype_audioEntities config)
  rw [HostSetting.linkOf, if_neg (HostSetting.class_of_isControl hcontrol),
    if_pos ⟨hcontrol, rfl⟩, if_pos hclass]
  rfl

theorem entities_audio (hcontrol : setting.IsControl) (hclass : setting.interfaceClass = 0x01)
    (hblocks : setting.classSpecific = audioControlBlocks config number) :
    setting.entities = [⟨Uac.entityInputTerminal, some config.inputTerminalType, none⟩,
      ⟨Uac.entityFeatureUnit, none, some Uac.entityInputTerminal⟩,
      ⟨Uac.entityOutputTerminal, some config.outputType, some Uac.entityFeatureUnit⟩] := by
  have hheader (total : UInt16) : setting.entityOf (acHeaderDesc total number) = none := by
    rw [HostSetting.entityOf, if_pos hcontrol, hclass]
    rfl
  have hinput : setting.entityOf (acInputTerminalDesc config) =
      some ⟨Uac.entityInputTerminal, some config.inputTerminalType, none⟩ := by
    rw [HostSetting.entityOf, if_pos hcontrol, terminalType_acInputTerminalDesc]
    rfl
  have hunit : setting.entityOf (acFeatureUnitDesc config) =
      some ⟨Uac.entityFeatureUnit, none, some Uac.entityInputTerminal⟩ := by
    rw [HostSetting.entityOf, if_pos hcontrol, hclass]
    rfl
  have houtput : setting.entityOf (acOutputTerminalDesc config) =
      some ⟨Uac.entityOutputTerminal, some config.outputType, some Uac.entityFeatureUnit⟩ := by
    rw [HostSetting.entityOf, if_pos hcontrol, terminalType_acOutputTerminalDesc]
    rfl
  rw [HostSetting.entities, hblocks, audioControlBlocks, audioEntities]
  simp only [List.filterMap_cons, hheader, hinput, hunit, houtput, List.filterMap_nil]

theorem length_audioEntities (config : UacTopology) :
    (audioEntities config).flatten.length = 29 + config.channels.toNat := by
  simp [audioEntities, acInputTerminalDesc, acFeatureUnitDesc, acOutputTerminalDesc]
  omega

/-- The header of the control interface tells how long its descriptors are together. -/
theorem total_audio (hcontrol : setting.IsControl)
    (hblocks : setting.classSpecific = audioControlBlocks config number) :
    ∀ desc ∈ setting.classSpecific, ∀ total ∈ setting.totalLengthOf desc,
      total = (setting.classSpecific.map List.length).sum := by
  refine HostSetting.total_of_header hblocks (fun total htotal => ?_)
    (subtype_audioEntities config)
  have hchannels := config.channels.toNat_lt
  have hfield (wTotalLength : UInt16) :
      leField 2 5 (acHeaderDesc wTotalLength number) = wTotalLength.toNat := by
    rw [acHeaderDesc, List.append_assoc]
    exact leField_field (by rfl) (UInt16.toNat_lt _)
  have hlength (wTotalLength : UInt16) : (acHeaderDesc wTotalLength number).length = 9 := rfl
  rw [HostSetting.totalLengthOf, if_pos ⟨hcontrol, rfl⟩, Option.mem_some_iff] at htotal
  rw [← htotal, hfield, hlength, length_audioEntities]
  exact UInt16.toNat_ofNat_of_lt' (show 9 + _ < 65536 by omega)

theorem streamingDescriptor_eq (direction : Uac.AudioDirection) (stream : Uac.AudioStream) :
    streamingDescriptor direction stream =
      (audioStreamingBlocks (audioTerminalLink direction) stream).flatten := by
  cases direction with
  | source => exact audioStreamingDescriptor_eq _ stream
  | sink => exact audioStreamingDescriptor_eq _ stream

theorem terminalLinks_audio {terminalLink : UInt8} {stream : Uac.AudioStream}
    (hstreaming : setting.IsStreaming) (hclass : setting.interfaceClass = 0x01)
    (hblocks : setting.classSpecific = audioStreamingBlocks terminalLink stream) :
    setting.terminalLinks = [terminalLink] := by
  refine HostSetting.terminalLinks_of_header hblocks ?_ fun desc hdesc => ?_
  · rw [HostSetting.terminalLinkOf, if_pos ⟨hstreaming, rfl⟩, if_pos hclass]
    rfl
  · obtain rfl := List.mem_singleton.mp hdesc
    exact fun h : (0x02 : UInt8) = 0x01 => absurd h (by decide)

/-- The data of an audio device passes through the terminal that is of the host. -/
theorem mem_entities_audioTopology {direction : Uac.AudioDirection} {stream : Uac.AudioStream}
    (hinput : direction = .source → config.inputTerminalType ≠ ttUsbStreaming)
    (hcontrol : setting.IsControl) (hclass : setting.interfaceClass = 0x01)
    (hblocks : setting.classSpecific =
      audioControlBlocks (audioTopology direction config stream) number) :
    ∃ entity ∈ setting.entities, entity.id = audioTerminalLink direction ∧
      entity.terminalType = some ttUsbStreaming := by
  rw [entities_audio hcontrol hclass hblocks]
  cases direction with
  | source =>
      have htype : (audioTopology .source config stream).inputTerminalType =
          config.inputTerminalType := by
        dsimp only [audioTopology, UacTopology.setConfig]
        split <;> rfl
      have hnot : (audioTopology .source config stream).isSpeaker = false :=
        decide_eq_false (htype ▸ hinput rfl)
      refine ⟨_, .tail _ (.tail _ (.head _)), rfl, ?_⟩
      rw [UacTopology.outputType, hnot]
      rfl
  | sink =>
      have htype : (audioTopology .sink config stream).inputTerminalType = ttUsbStreaming := by
        dsimp only [audioTopology, UacTopology.setConfig]
        split <;> rfl
      exact ⟨_, .head _, rfl, congrArg some htype⟩

end AudioPair

section VideoPair

variable {setting : HostSetting} {number : UInt8}

theorem subtype_videoEntities :
    ∀ desc ∈ videoEntities, HostSetting.descriptorSubtype desc ≠ 0x01 := by
  decide

theorem links_video (hcontrol : setting.IsControl) (hclass : setting.interfaceClass = 0x0E)
    (hblocks : setting.classSpecific = videoControlBlocks number) : setting.links = [number] := by
  refine HostSetting.links_of_header hcontrol hblocks ?_ subtype_videoEntities
  rw [HostSetting.linkOf, if_neg (HostSetting.class_of_isControl hcontrol),
    if_pos ⟨hcontrol, rfl⟩, hclass]
  rfl

theorem entities_video (hcontrol : setting.IsControl) (hclass : setting.interfaceClass = 0x0E)
    (hblocks : setting.classSpecific = videoControlBlocks number) :
    setting.entities = [⟨1, some 0x0201, none⟩, ⟨2, none, some 1⟩,
      ⟨3, some ttUsbStreaming, some 2⟩] := by
  have hentity (desc : List UInt8) : setting.entityOf desc =
      if HostSetting.descriptorSubtype desc = 0x02 then
        some ⟨desc.getD 3 0, some (.ofNat (leField 2 4 desc)), none⟩
      else if HostSetting.descriptorSubtype desc = 0x03 then
        some ⟨desc.getD 3 0, some (.ofNat (leField 2 4 desc)), some (desc.getD 7 0)⟩
      else if HostSetting.descriptorSubtype desc = 0x05 then
        some ⟨desc.getD 3 0, none, some (desc.getD 4 0)⟩
      else none := by
    rw [HostSetting.entityOf, if_pos hcontrol, hclass]
    rfl
  have hheader (total : UInt16) : setting.entityOf (vcHeaderDesc total number) = none := by
    rw [hentity]
    rfl
  have hrest : videoEntities.filterMap setting.entityOf =
      [⟨1, some 0x0201, none⟩, ⟨2, none, some 1⟩, ⟨3, some ttUsbStreaming, some 2⟩] := by
    rw [funext hentity]
    decide
  rw [HostSetting.entities, hblocks, videoControlBlocks, List.filterMap_cons_none (hheader _),
    hrest]

theorem total_videoControl (hcontrol : setting.IsControl)
    (hblocks : setting.classSpecific = videoControlBlocks number) :
    ∀ desc ∈ setting.classSpecific, ∀ total ∈ setting.totalLengthOf desc,
      total = (setting.classSpecific.map List.length).sum := by
  refine HostSetting.total_of_header hblocks (fun total htotal => ?_) subtype_videoEntities
  rw [HostSetting.totalLengthOf, if_pos ⟨hcontrol, rfl⟩, Option.mem_some_iff] at htotal
  rw [← htotal]
  rfl

theorem subtype_videoFormats (fmt : VideoFormat) :
    ∀ desc ∈ videoFormats fmt, HostSetting.descriptorSubtype desc ≠ 0x01 := by
  intro desc hdesc
  rcases List.mem_append.mp hdesc with hformat | hcolor
  · have hcases : desc = fmt.formatDesc ∨ desc = fmt.frameDesc := by simpa using hformat
    rcases hcases with rfl | rfl
    · unfold VideoFormat.formatDesc
      split
      · exact fun h : (0x04 : UInt8) = 0x01 => absurd h (by decide)
      · exact fun h : (0x06 : UInt8) = 0x01 => absurd h (by decide)
      · exact fun h : (0x10 : UInt8) = 0x01 => absurd h (by decide)
      · exact fun h : (0x13 : UInt8) = 0x01 => absurd h (by decide)
    · have hsubtype : HostSetting.descriptorSubtype fmt.frameDesc = fmt.frameSubtype := rfl
      rw [hsubtype, VideoFormat.frameSubtype]
      split <;> decide
  · obtain ⟨-, rfl⟩ : _ ∧ desc = vsColorMatchingDesc := by simpa using hcolor
    decide

theorem length_videoFormats_le (fmt : VideoFormat) : (videoFormats fmt).flatten.length ≤ 768 := by
  have hblock {desc : List UInt8} (h : IsClassBlock desc) : desc.length ≤ 256 := by
    obtain ⟨bLength, -, hlength⟩ := Option.map_eq_some_iff.mp h.1.2
    rw [← hlength]
    exact bLength.toNat_lt.le
  have hformat := hblock (isClassBlock_formatDesc fmt)
  have hframe := hblock (isClassBlock_frameDesc fmt)
  unfold videoFormats
  split
  · simp [vsColorMatchingDesc]
    omega
  · simp
    omega

theorem total_videoStreaming {fmt : VideoFormat} {endpointAddress : UInt8}
    (hstreaming : setting.IsStreaming)
    (hblocks : setting.classSpecific = videoStreamingBlocks fmt endpointAddress) :
    ∀ desc ∈ setting.classSpecific, ∀ total ∈ setting.totalLengthOf desc,
      total = (setting.classSpecific.map List.length).sum := by
  refine HostSetting.total_of_header hblocks (fun total htotal => ?_) (subtype_videoFormats fmt)
  have hformats := length_videoFormats_le fmt
  have hfield (wTotalLength : UInt16) :
      leField 2 4 (vsInputHeaderDesc wTotalLength endpointAddress) = wTotalLength.toNat := by
    rw [vsInputHeaderDesc, List.append_assoc]
    exact leField_field (by rfl) (UInt16.toNat_lt _)
  have hlength (wTotalLength : UInt16) :
      (vsInputHeaderDesc wTotalLength endpointAddress).length = 14 := rfl
  have hnot : ¬ setting.IsControl := fun hcontrol =>
    HostSetting.not_isStreaming_of_isControl hcontrol hstreaming
  rw [HostSetting.totalLengthOf, if_neg fun h => hnot h.1] at htotal
  split at htotal
  next =>
    rw [Option.mem_some_iff] at htotal
    rw [← htotal, hfield, hlength]
    exact UInt16.toNat_ofNat_of_lt' (show 14 + _ < 65536 by omega)
  next => cases htotal

theorem terminalLinks_video {fmt : VideoFormat} {endpointAddress : UInt8}
    (hstreaming : setting.IsStreaming) (hclass : setting.interfaceClass = 0x0E)
    (hblocks : setting.classSpecific = videoStreamingBlocks fmt endpointAddress) :
    setting.terminalLinks = [3] := by
  refine HostSetting.terminalLinks_of_header hblocks ?_ (subtype_videoFormats fmt)
  rw [HostSetting.terminalLinkOf, if_pos ⟨hstreaming, rfl⟩, hclass]
  rfl

end VideoPair

section Offers

variable {setting : HostSetting}

theorem rates_audio {terminalLink : UInt8} {stream : Uac.AudioStream}
    (hstreaming : setting.IsStreaming) (hclass : setting.interfaceClass = 0x01)
    (hrates : stream.supportedSampleRates.val.length ≤ 82)
    (hblocks : setting.classSpecific = audioStreamingBlocks terminalLink stream) :
    setting.rates = [stream.supportedSampleRates.val.map fun rate => rate.toNat % 2 ^ 24] := by
  have hgeneral : setting.ratesOf (asGeneralDesc terminalLink) = none :=
    if_neg fun h => absurd (show (0x01 : UInt8) = 0x02 from h.2.2) (by decide)
  have hformat : setting.ratesOf
      (asFormatTypeIDesc stream.currentFormat stream.supportedSampleRates.val) =
        some (stream.supportedSampleRates.val.map fun rate => rate.toNat % 2 ^ 24) := by
    have hcount : (UInt8.ofNat stream.supportedSampleRates.val.length).toNat =
        (stream.supportedSampleRates.val.map UInt32.toNat).length := by
      rw [List.length_map]
      exact UInt8.toNat_ofNat_of_lt' (show _ < 256 by omega)
    have hbytes : stream.supportedSampleRates.val.flatMap Uac.rateBytes =
        (stream.supportedSampleRates.val.map UInt32.toNat).flatMap (leBytesOfNat 3) := by
      rw [List.flatMap_map]
      rfl
    have hfield (i : Nat) : leField 3 (8 + 3 * i)
        (asFormatTypeIDesc stream.currentFormat stream.supportedSampleRates.val) =
          leField 3 (3 * i) (stream.supportedSampleRates.val.flatMap Uac.rateBytes) := by
      rw [asFormatTypeIDesc, leField_append_right _ (Nat.le_add_right 8 _)]
      exact congrArg (leField 3 · _) (Nat.add_sub_cancel_left 8 _)
    rw [HostSetting.ratesOf, if_pos ⟨hstreaming, hclass, rfl⟩]
    change some ((List.range (UInt8.ofNat stream.supportedSampleRates.val.length).toNat).map
      fun i => leField 3 (8 + 3 * i) _) = _
    simp only [hfield, hcount, hbytes]
    rw [leFields_flatMap, List.map_map]
    rfl
  rw [HostSetting.rates, hblocks, audioStreamingBlocks, List.filterMap_cons_none hgeneral,
    List.filterMap_cons_some hformat, List.filterMap_nil]

namespace VideoFormat

variable (fmt : VideoFormat)

/-- The bytes of a frame before its default interval. -/
def frameStart : List UInt8 :=
  [.ofNat (fmt.frameBase + 12), 0x24, fmt.frameSubtype, 0x01, 0x00] ++
    leBytesOfNat 2 fmt.width.toNat ++ leBytesOfNat 2 fmt.height.toNat ++
    leBytesOfNat 4 (UInt32.ofNat fmt.bitRate).toNat ++
    leBytesOfNat 4 (UInt32.ofNat fmt.bitRate).toNat ++ leBytesOfNat 4 fmt.maxFrameSize.toNat

theorem length_frameStart : fmt.frameStart.length = 21 := by simp [frameStart]

theorem length_frameDesc : fmt.frameDesc.length = fmt.frameBase + 12 := by
  unfold frameDesc frameBase
  split <;> simp

theorem frame_frameDesc :
    (⟨.ofNat (leField 2 5 fmt.frameDesc), .ofNat (leField 2 7 fmt.frameDesc),
      .ofNat (leField 4 21 fmt.frameDesc),
      .ofNat (leField 4 (fmt.frameDesc.length - 12) fmt.frameDesc),
      .ofNat (leField 4 (fmt.frameDesc.length - 8) fmt.frameDesc)⟩ : HostFrame) =
        ⟨fmt.width, fmt.height, fmt.defaultFrameInterval, fmt.minFrameInterval,
          fmt.maxFrameInterval⟩ := by
  have hbase : 26 ≤ fmt.frameBase := by
    unfold frameBase
    split <;> decide
  have hwidth : leField 2 5 fmt.frameDesc = fmt.width.toNat := by
    simp only [frameDesc, List.append_assoc]
    exact leField_field (by rfl) fmt.width.toNat_lt
  have hheight : leField 2 7 fmt.frameDesc = fmt.height.toNat := by
    simp only [frameDesc, List.append_assoc]
    rw [← List.append_assoc]
    exact leField_field (by simp) fmt.height.toNat_lt
  have hdefault : leField 4 21 fmt.frameDesc = fmt.defaultFrameInterval.toNat := by
    have hshape : fmt.frameDesc = fmt.frameStart ++ (leBytesOfNat 4 fmt.defaultFrameInterval.toNat
        ++ (List.replicate (fmt.frameBase - 25) 0x00 ++ leBytesOfNat 4 fmt.minFrameInterval.toNat ++
          leBytesOfNat 4 fmt.maxFrameInterval.toNat ++
            leBytesOfNat 4 fmt.minFrameInterval.toNat)) := by
      simp [frameDesc, frameStart]
    rw [hshape]
    exact leField_field fmt.length_frameStart fmt.defaultFrameInterval.toNat_lt
  have hmin : leField 4 (fmt.frameDesc.length - 12) fmt.frameDesc =
      fmt.minFrameInterval.toNat := by
    have hshape : fmt.frameDesc = fmt.frameStart ++ leBytesOfNat 4 fmt.defaultFrameInterval.toNat
        ++ List.replicate (fmt.frameBase - 25) 0x00 ++ (leBytesOfNat 4 fmt.minFrameInterval.toNat ++
          (leBytesOfNat 4 fmt.maxFrameInterval.toNat ++
            leBytesOfNat 4 fmt.minFrameInterval.toNat)) := by
      simp [frameDesc, frameStart]
    rw [length_frameDesc, hshape]
    refine leField_field ?_ fmt.minFrameInterval.toNat_lt
    simp [length_frameStart]
    omega
  have hmax : leField 4 (fmt.frameDesc.length - 8) fmt.frameDesc =
      fmt.maxFrameInterval.toNat := by
    have hshape : fmt.frameDesc = fmt.frameStart ++ leBytesOfNat 4 fmt.defaultFrameInterval.toNat
        ++ List.replicate (fmt.frameBase - 25) 0x00 ++ leBytesOfNat 4 fmt.minFrameInterval.toNat ++
          (leBytesOfNat 4 fmt.maxFrameInterval.toNat ++
            leBytesOfNat 4 fmt.minFrameInterval.toNat) := by
      simp [frameDesc, frameStart]
    rw [length_frameDesc, hshape]
    refine leField_field ?_ fmt.maxFrameInterval.toNat_lt
    simp [length_frameStart]
    omega
  rw [hwidth, hheight, hdefault, hmin, hmax, UInt16.ofNat_toNat, UInt16.ofNat_toNat,
    UInt32.ofNat_toNat, UInt32.ofNat_toNat, UInt32.ofNat_toNat]

end VideoFormat

theorem frames_video {fmt : VideoFormat} {endpointAddress : UInt8}
    (hstreaming : setting.IsStreaming) (hclass : setting.interfaceClass = 0x0E)
    (hblocks : setting.classSpecific = videoStreamingBlocks fmt endpointAddress) :
    setting.frames = [⟨fmt.width, fmt.height, fmt.defaultFrameInterval, fmt.minFrameInterval,
      fmt.maxFrameInterval⟩] := by
  have hnone {desc : List UInt8}
      (h : HostSetting.descriptorSubtype desc ∉ [(0x05 : UInt8), 0x07, 0x11, 0x14]) :
      setting.frameOf desc = none := if_neg fun hframe => h hframe.2.2
  have hheader : setting.frameOf (vsInputHeaderDesc
      (.ofNat (14 + (videoFormats fmt).flatten.length)) endpointAddress) = none :=
    hnone (show (0x01 : UInt8) ∉ _ by decide)
  have hformat : setting.frameOf fmt.formatDesc = none := by
    refine hnone ?_
    unfold VideoFormat.formatDesc
    split
    · exact (show (0x04 : UInt8) ∉ _ by decide)
    · exact (show (0x06 : UInt8) ∉ _ by decide)
    · exact (show (0x10 : UInt8) ∉ _ by decide)
    · exact (show (0x13 : UInt8) ∉ _ by decide)
  have hframe : setting.frameOf fmt.frameDesc = some ⟨fmt.width, fmt.height,
      fmt.defaultFrameInterval, fmt.minFrameInterval, fmt.maxFrameInterval⟩ := by
    have hsubtype : fmt.frameSubtype ∈ [(0x05 : UInt8), 0x07, 0x11, 0x14] := by
      unfold VideoFormat.frameSubtype
      split <;> decide
    rw [HostSetting.frameOf, if_pos ⟨hstreaming, hclass, hsubtype⟩, fmt.frame_frameDesc]
  have hcolor : (if fmt.hasColor then [vsColorMatchingDesc] else []).filterMap setting.frameOf =
      [] := by
    refine List.filterMap_eq_nil_iff.mpr fun desc hdesc => hnone ?_
    obtain ⟨-, rfl⟩ : _ ∧ desc = vsColorMatchingDesc := by simpa using hdesc
    decide
  rw [HostSetting.frames, hblocks, videoStreamingBlocks, List.filterMap_cons_none hheader,
    videoFormats, List.filterMap_append, List.filterMap_cons_none hformat,
    List.filterMap_cons_some hframe, List.filterMap_nil, hcolor]
  rfl

end Offers

end Usbipdcpp.VirtualDevice.ConfigurationDescriptor
