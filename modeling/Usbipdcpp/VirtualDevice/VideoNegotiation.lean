import Usbipdcpp.Foundation.Latch
import Usbipdcpp.VirtualDevice.IsochronousReplies
import Usbipdcpp.VirtualDevice.VideoControl

namespace Usbipdcpp.VirtualDevice

open Foundation.ByteStream Foundation.Latch Protocol

namespace Uvc

namespace UvcStreamingControl

/-- A block with the settings that it is declared with. -/
def new : UvcStreamingControl where
  bmHint := 0
  bFormatIndex := 1
  bFrameIndex := 1
  dwFrameInterval := 333333
  wKeyFrameRate := 0
  wPFrameRate := 0
  wCompQuality := 0
  wCompWindowSize := 0
  wDelay := 0
  dwMaxVideoFrameSize := 0
  dwMaxPayloadTransferSize := 0
  dwClockFrequency := 27000000
  bmFramingInfo := 0x03
  bPreferredVersion := 1
  bMinVersion := 1
  bMaxVersion := 1
  bUsage := 0
  bBitDepthLuma := 0
  bmSettings := 0
  bMaxNumberOfRefFramesPlus1 := 0
  bmRateControlModes := 0
  bmLayoutPerStream := 0

/-- The fields that are in every block. -/
def readCommon (ctrl : UvcStreamingControl) (data : List UInt8) : UvcStreamingControl :=
  { ctrl with
    bmHint := .ofNat (leField 2 0 data)
    bFormatIndex := data.getD 2 0
    bFrameIndex := data.getD 3 0
    dwFrameInterval := .ofNat (leField 4 4 data)
    wKeyFrameRate := .ofNat (leField 2 8 data)
    wPFrameRate := .ofNat (leField 2 10 data)
    wCompQuality := .ofNat (leField 2 12 data)
    wCompWindowSize := .ofNat (leField 2 14 data)
    wDelay := .ofNat (leField 2 16 data)
    dwMaxVideoFrameSize := .ofNat (leField 4 18 data)
    dwMaxPayloadTransferSize := .ofNat (leField 4 22 data) }

/-- Those that came with version 1.1. -/
def readVersions (ctrl : UvcStreamingControl) (data : List UInt8) : UvcStreamingControl :=
  { ctrl with
    dwClockFrequency := .ofNat (leField 4 26 data)
    bmFramingInfo := data.getD 30 0
    bPreferredVersion := data.getD 31 0
    bMinVersion := data.getD 32 0
    bMaxVersion := data.getD 33 0 }

/-- Those that came with version 1.5. -/
def readCoding (ctrl : UvcStreamingControl) (data : List UInt8) : UvcStreamingControl :=
  { ctrl with
    bUsage := data.getD 34 0
    bBitDepthLuma := data.getD 35 0
    bmSettings := data.getD 36 0
    bMaxNumberOfRefFramesPlus1 := data.getD 37 0
    bmRateControlModes := .ofNat (leField 2 38 data)
    bmLayoutPerStream := .ofNat (leField 8 40 data) }

/-- A block read over another one; what is too short for a part leaves that part. -/
def deserialize (ctrl : UvcStreamingControl) (data : List UInt8) : UvcStreamingControl :=
  if data.length < 26 then ctrl
  else
    let ctrl := ctrl.readCommon data
    let ctrl := if data.length ≥ 34 then ctrl.readVersions data else ctrl
    if data.length ≥ 48 then ctrl.readCoding data else ctrl

/-- The bytes of the fields that are in every block. -/
def commonBytes (ctrl : UvcStreamingControl) : List UInt8 :=
  leBytesOfNat 2 ctrl.bmHint.toNat ++ [ctrl.bFormatIndex, ctrl.bFrameIndex] ++
    leBytesOfNat 4 ctrl.dwFrameInterval.toNat ++ leBytesOfNat 2 ctrl.wKeyFrameRate.toNat ++
    leBytesOfNat 2 ctrl.wPFrameRate.toNat ++ leBytesOfNat 2 ctrl.wCompQuality.toNat ++
    leBytesOfNat 2 ctrl.wCompWindowSize.toNat ++ leBytesOfNat 2 ctrl.wDelay.toNat ++
    leBytesOfNat 4 ctrl.dwMaxVideoFrameSize.toNat ++
    leBytesOfNat 4 ctrl.dwMaxPayloadTransferSize.toNat

def versionBytes (ctrl : UvcStreamingControl) : List UInt8 :=
  leBytesOfNat 4 ctrl.dwClockFrequency.toNat ++
    [ctrl.bmFramingInfo, ctrl.bPreferredVersion, ctrl.bMinVersion, ctrl.bMaxVersion]

def codingBytes (ctrl : UvcStreamingControl) : List UInt8 :=
  [ctrl.bUsage, ctrl.bBitDepthLuma, ctrl.bmSettings, ctrl.bMaxNumberOfRefFramesPlus1] ++
    leBytesOfNat 2 ctrl.bmRateControlModes.toNat ++ leBytesOfNat 8 ctrl.bmLayoutPerStream.toNat

theorem serialize_eq (ctrl : UvcStreamingControl) :
    ctrl.serialize = ctrl.commonBytes ++ ctrl.versionBytes ++ ctrl.codingBytes := by
  simp only [serialize, commonBytes, versionBytes, codingBytes, List.append_assoc,
    List.cons_append, List.nil_append]

section Fields

variable {data : List UInt8} {offset : Nat}

theorem bytes_toUInt16 (h : offset + 2 ≤ data.length) :
    leBytesOfNat 2 (UInt16.ofNat (leField 2 offset data)).toNat = bytesAt data offset 2 := by
  rw [UInt16.toNat_ofNat_of_lt' (leField_lt 2 offset data), leBytesOfNat_leField h,
    bytesAt_eq_take_drop h]

theorem bytes_toUInt32 (h : offset + 4 ≤ data.length) :
    leBytesOfNat 4 (UInt32.ofNat (leField 4 offset data)).toNat = bytesAt data offset 4 := by
  rw [UInt32.toNat_ofNat_of_lt' (leField_lt 4 offset data), leBytesOfNat_leField h,
    bytesAt_eq_take_drop h]

theorem bytes_toUInt64 (h : offset + 8 ≤ data.length) :
    leBytesOfNat 8 (UInt64.ofNat (leField 8 offset data)).toNat = bytesAt data offset 8 := by
  rw [UInt64.toNat_ofNat_of_lt' (leField_lt 8 offset data), leBytesOfNat_leField h,
    bytesAt_eq_take_drop h]

end Fields

/-- The fields that are read are made of the bytes that they are written as. -/
theorem commonBytes_readCommon (ctrl : UvcStreamingControl) {data : List UInt8}
    (h : 26 ≤ data.length) : (ctrl.readCommon data).commonBytes = bytesAt data 0 26 := by
  have hindices : [data.getD 2 0, data.getD 3 0] = bytesAt data 2 2 := rfl
  unfold commonBytes readCommon
  dsimp only
  rw [hindices, bytes_toUInt16 (by omega), bytes_toUInt32 (by omega), bytes_toUInt16 (by omega),
    bytes_toUInt16 (by omega), bytes_toUInt16 (by omega), bytes_toUInt16 (by omega),
    bytes_toUInt16 (by omega), bytes_toUInt32 (by omega), bytes_toUInt32 (by omega)]
  rfl

theorem codingBytes_readCoding (ctrl : UvcStreamingControl) {data : List UInt8}
    (h : 48 ≤ data.length) : (ctrl.readCoding data).codingBytes = bytesAt data 34 14 := by
  have hsingle : [data.getD 34 0, data.getD 35 0, data.getD 36 0, data.getD 37 0] =
      bytesAt data 34 4 := rfl
  unfold codingBytes readCoding
  dsimp only
  rw [hsingle, bytes_toUInt16 (by omega), bytes_toUInt64 (by omega)]
  rfl

/-- Without the features of a coded format the last fields are zero. -/
theorem codingBytes_of_zero {ctrl : UvcStreamingControl} (husage : ctrl.bUsage = 0)
    (hdepth : ctrl.bBitDepthLuma = 0) (hsettings : ctrl.bmSettings = 0)
    (hframes : ctrl.bMaxNumberOfRefFramesPlus1 = 0) (hmodes : ctrl.bmRateControlModes = 0)
    (hlayout : ctrl.bmLayoutPerStream = 0) : ctrl.codingBytes = List.replicate 14 0 := by
  rw [codingBytes, husage, hdepth, hsettings, hframes, hmodes, hlayout]
  decide

theorem length_commonBytes (ctrl : UvcStreamingControl) : ctrl.commonBytes.length = 26 := by
  simp [commonBytes]

theorem bytesAt_commonBytes (ctrl : UvcStreamingControl) :
    bytesAt ctrl.commonBytes 0 26 = ctrl.commonBytes := by
  have h := bytesAt_zero ctrl.commonBytes
  rwa [length_commonBytes] at h

theorem dwFrameInterval_eq (ctrl : UvcStreamingControl) :
    leField 4 4 ctrl.commonBytes = ctrl.dwFrameInterval.toNat := by
  have hbytes : (ctrl.commonBytes.drop 4).take 4 = leBytesOfNat 4 ctrl.dwFrameInterval.toNat := rfl
  rw [leField, hbytes, leBytesOfNat, List.reverse_reverse,
    natOfBytes_bytesOfNat ctrl.dwFrameInterval.toNat_lt]

theorem dwMaxVideoFrameSize_eq (ctrl : UvcStreamingControl) :
    leField 4 18 ctrl.commonBytes = ctrl.dwMaxVideoFrameSize.toNat := by
  have hbytes : (ctrl.commonBytes.drop 18).take 4 =
      leBytesOfNat 4 ctrl.dwMaxVideoFrameSize.toNat := rfl
  rw [leField, hbytes, leBytesOfNat, List.reverse_reverse,
    natOfBytes_bytesOfNat ctrl.dwMaxVideoFrameSize.toNat_lt]

end UvcStreamingControl

/-- The block that a host reads as the current settings, made of what the settings hold in their
first 26 bytes and in their last 14 ones. -/
def currentSettings (source : VideoSource) (common coding : List UInt8) : List UInt8 :=
  bytesAt common 0 4 ++
    (if leField 4 4 common = 0 then leBytesOfNat 4 source.defaultFrameInterval.toNat
      else bytesAt common 4 4) ++
    List.replicate 10 0 ++
    (if leField 4 18 common = 0 then leBytesOfNat 4 source.maxFrameSize.toNat
      else bytesAt common 18 4) ++
    bytesAt common 22 4 ++ leBytesOfNat 4 27000000 ++ [0x03, 1, 1, 1] ++ coding

theorem serialize_reportedControl_getCur (h : UvcVideoStreamingHandler) :
    (h.reportedControl ClassRequest.getCur).serialize =
      currentSettings h.source h.probeData.commonBytes h.probeData.codingBytes := by
  have hinterval : leField 4 4 h.probeData.commonBytes = 0 ↔ h.probeData.dwFrameInterval = 0 := by
    rw [h.probeData.dwFrameInterval_eq, ← UInt32.toNat_inj, UInt32.toNat_zero]
  have hsize : leField 4 18 h.probeData.commonBytes = 0 ↔
      h.probeData.dwMaxVideoFrameSize = 0 := by
    rw [h.probeData.dwMaxVideoFrameSize_eq, ← UInt32.toNat_inj, UInt32.toNat_zero]
  have hpart {offset n : Nat} (hle : offset + n ≤ 26) : bytesAt h.probeData.commonBytes offset n =
      (h.probeData.commonBytes.drop offset).take n :=
    bytesAt_eq_take_drop (hle.trans_eq h.probeData.length_commonBytes.symm)
  have hindices : (h.probeData.commonBytes.drop 0).take 4 =
      leBytesOfNat 2 h.probeData.bmHint.toNat ++
        [h.probeData.bFormatIndex, h.probeData.bFrameIndex] := rfl
  have hintervalBytes : (h.probeData.commonBytes.drop 4).take 4 =
      leBytesOfNat 4 h.probeData.dwFrameInterval.toNat := rfl
  have hsizeBytes : (h.probeData.commonBytes.drop 18).take 4 =
      leBytesOfNat 4 h.probeData.dwMaxVideoFrameSize.toNat := rfl
  have hpayload : (h.probeData.commonBytes.drop 22).take 4 =
      leBytesOfNat 4 h.probeData.dwMaxPayloadTransferSize.toNat := rfl
  have hbytes (value default : UInt32) :
      leBytesOfNat 4 (if value = 0 then default else value).toNat =
        if value = 0 then leBytesOfNat 4 default.toNat else leBytesOfNat 4 value.toNat := by
    split <;> rfl
  unfold currentSettings
  simp only [hinterval, hsize]
  rw [hpart (by omega), hpart (by omega), hpart (by omega), hpart (by omega), hindices,
    hintervalBytes, hsizeBytes, hpayload, ← hbytes, ← hbytes, UvcStreamingControl.serialize_eq]
  unfold UvcVideoStreamingHandler.reportedControl
  dsimp only
  rw [if_neg (by decide), if_neg (by decide), if_neg (by decide)]
  unfold UvcVideoStreamingHandler.deviceControl UvcStreamingControl.commonBytes
    UvcStreamingControl.versionBytes UvcStreamingControl.codingBytes
  have hzero : leBytesOfNat 2 (0 : UInt16).toNat = [0, 0] := rfl
  have hclock : leBytesOfNat 4 (27000000 : UInt32).toNat = leBytesOfNat 4 27000000 :=
    congrArg (leBytesOfNat 4) (UInt32.toNat_ofNat_of_lt' (by decide))
  have hzeros : List.replicate 10 (0 : UInt8) =
      [0, 0] ++ [0, 0] ++ [0, 0] ++ [0, 0] ++ [0, 0] := rfl
  rw [hzero, hclock, hzeros]
  simp only [List.append_assoc, List.cons_append, List.nil_append]

/-- What a video source says of the format that it is set to. -/
structure VideoFormatInfo where
  fourcc : UInt32
  width : UInt16
  height : UInt16
  defaultFrameInterval : UInt32
  minFrameInterval : UInt32
  maxFrameInterval : UInt32
  deriving DecidableEq, Repr

/-- The functions that every video source has. -/
structure VideoSourceApi (Source : Type) where
  currentFormat : Source → VideoFormatInfo
  setFormat : UInt32 → UInt16 → UInt16 → UInt32 → Source → Source
  getFrame : Source → Source × Option (List UInt8)
  maxFrameSize : Source → Nat
  frameInterval : Source → UInt32

/-- A source that is set to the format it has, whatever the interval, keeps its FOURCC. -/
structure VideoSourceApi.KeepsFourcc {Source : Type} (api : VideoSourceApi Source) : Prop where
  setFormat : ∀ source interval,
    (api.currentFormat (api.setFormat (api.currentFormat source).fourcc
      (api.currentFormat source).width (api.currentFormat source).height interval source)).fourcc =
      (api.currentFormat source).fourcc
  getFrame : ∀ source,
    (api.currentFormat (api.getFrame source).1).fourcc = (api.currentFormat source).fourcc

namespace UvcFourCC

def mjpeg : UInt32 := 0x47504A4D
def yuy2 : UInt32 := 0x32595559
def h264 : UInt32 := 0x34363248

end UvcFourCC

/-- A test picture of eight bars; its width is even and no less than the number of bars. -/
structure ColorBarSource where
  width : UInt16
  height : UInt16
  frameInterval : UInt32
  deriving DecidableEq, Repr

namespace ColorBarSource

/-- What two pixels of each bar are written as. -/
def colors : List (List UInt8) :=
  [[235, 128, 235, 128], [210, 16, 210, 146], [170, 166, 170, 16], [145, 54, 145, 34],
    [106, 202, 106, 222], [81, 90, 81, 240], [41, 240, 41, 110], [16, 128, 16, 128]]

def generateColorBars (source : ColorBarSource) : List UInt8 :=
  let barWidth := source.width.toNat / 8
  let row := (List.range (source.width.toNat / 2)).flatMap fun pair =>
    colors.getD (min (2 * pair / barWidth) 7) []
  (List.replicate source.height.toNat row).flatten

def setFormat (fourcc : UInt32) (width height : UInt16) (frameInterval : UInt32)
    (source : ColorBarSource) : ColorBarSource :=
  if fourcc ≠ UvcFourCC.yuy2 then source else { width, height, frameInterval }

/-- One frame rate is native; the longest interval is ten times as long. -/
def api : VideoSourceApi ColorBarSource where
  currentFormat source :=
    { fourcc := UvcFourCC.yuy2
      width := source.width
      height := source.height
      defaultFrameInterval := source.frameInterval
      minFrameInterval := source.frameInterval
      maxFrameInterval := source.frameInterval * 10 }
  setFormat := setFormat
  getFrame source := (source, some source.generateColorBars)
  maxFrameSize source := source.width.toNat * source.height.toNat * 2
  frameInterval source := source.frameInterval

theorem keepsFourcc_api : api.KeepsFourcc where
  setFormat _ _ := rfl
  getFrame _ := rfl

end ColorBarSource

inductive UvcFormatCategory where
  | uncompressed
  | mjpeg
  | frameBased
  | h264
  deriving DecidableEq, Repr

def uvcFormatCategory (fourcc : UInt32) : UvcFormatCategory :=
  if fourcc = UvcFourCC.mjpeg then .mjpeg
  else if fourcc = UvcFourCC.h264 then .h264
  else .uncompressed

end Uvc

/-- The two interface handlers of a video function, which has a source of frames. -/
structure VideoFunction (Source : Type) where
  control : Uvc.UvcVideoControlHandler
  streamingDesc : List UInt8
  source : Source
  probeData : Uvc.UvcStreamingControl
  stream : UvcVideoStreamingHandler

/-- What happens to a video function. -/
inductive VideoEvent (Handler : Type) where
  | newConnection
  | disconnection
  | controlRequest (urb : ControlUrb Handler)
  | streamingRequest (urb : ControlUrb Handler)
  | setInterface (alternateSetting : UInt16)
  | isochronous (seqnum : UInt32) (owner : Option Handler) (trx : GenericTransfer)
      (numIsoPackets : Nat) (now : Int)

namespace VideoFunction

variable {Source Handler : Type} (api : Uvc.VideoSourceApi Source)

/-- The function before the first connection. -/
def new (controlDesc streamingDesc : List UInt8) (source : Source) : VideoFunction Source where
  control := ⟨controlDesc, true⟩
  streamingDesc := streamingDesc
  source := source
  probeData :=
    { Uvc.UvcStreamingControl.new with
      dwMaxVideoFrameSize := .ofNat (api.maxFrameSize source)
      dwMaxPayloadTransferSize := 512
      dwFrameInterval := api.frameInterval source }
  stream := ⟨false, false, [], 0, false, 0, (api.frameInterval source).toNat / 10⟩

variable (f : VideoFunction Source)

/-- The settings that a host sends, with what it has no say in; a short block changes nothing. -/
def settle (data : List UInt8) : VideoFunction Source :=
  if data.length ≥ 26 then
    let ctrl :=
      { f.probeData.deserialize data with
        bmFramingInfo := 0x03
        bPreferredVersion := 1
        bMinVersion := 1
        bMaxVersion := 1
        dwClockFrequency := 27000000 }
    { f with
      probeData :=
        if Uvc.uvcFormatCategory (api.currentFormat f.source).fourcc ≠ .h264 then
          { ctrl with
            bUsage := 0
            bBitDepthLuma := 0
            bmSettings := 0
            bMaxNumberOfRefFramesPlus1 := 0
            bmRateControlModes := 0
            bmLayoutPerStream := 0 }
        else ctrl }
  else f

/-- The source is set to the interval of the settings and the frame clock starts anew; this is so
after a short block too. -/
def commit (data : List UInt8) : VideoFunction Source :=
  let f := f.settle api data
  let fmt := api.currentFormat f.source
  let source := api.setFormat fmt.fourcc fmt.width fmt.height f.probeData.dwFrameInterval f.source
  let frameBuffer := f.stream.frameBuffer.take (api.maxFrameSize source)
  { f with
    source
    stream :=
      { f.stream with
        committed := true
        frameBuffer :=
          frameBuffer ++ .replicate (api.maxFrameSize source - frameBuffer.length) 0
        frameOffset := 0
        currentFid := false
        frameStartedAt := 0
        frameInterval := (api.frameInterval source).toNat / 10 } }

/-- What a request to the control interface changes: a host that turns the power off stops the
stream. -/
def handleControlRequest (urb : ControlUrb Handler) : VideoFunction Source :=
  if urb.IsClass ∧ urb.entity = Uvc.entityVcInterface ∧
      urb.controlSelector = Uvc.vcVideoPowerModeControl ∧
      urb.setup.request = ClassRequest.setCur then
    match urb.trx.data with
    | [] => f
    | mode :: _ =>
        { f with
          control := { f.control with powerOn := mode ≠ 0 }
          stream := if mode = 0 then { f.stream with streaming := false } else f.stream }
  else f

def handleStreamingRequest (urb : ControlUrb Handler) : VideoFunction Source :=
  if urb.IsClass ∧ urb.setup.request = ClassRequest.setCur then
    if urb.controlSelector = Uvc.vsProbeControl then f.settle api urb.trx.data
    else if urb.controlSelector = Uvc.vsCommitControl then f.commit api urb.trx.data
    else f
  else f

def requestSetInterface (alternateSetting : UInt16) : VideoFunction Source :=
  if alternateSetting = 0 then { f with stream := { f.stream with streaming := false } }
  else if alternateSetting = 1 then
    if f.stream.committed then
      { f with
        stream := { f.stream with streaming := true, frameOffset := 0, currentFid := false } }
    else f
  else f

/-- The handler asks the source for a frame. -/
def PullsFrame (now : Int) : Prop :=
  f.stream.streaming = true ∧ f.stream.committed = true ∧ f.stream.frameOffset = 0 ∧
    ¬ (f.stream.frameInterval > 0 ∧ now < f.stream.frameStartedAt + f.stream.frameInterval)

instance (now : Int) : Decidable (f.PullsFrame now) := inferInstanceAs (Decidable (_ ∧ _))

def step : VideoEvent Handler → VideoFunction Source
  | .newConnection =>
      { f with
        stream :=
          { f.stream with
            committed := false
            streaming := false
            frameOffset := 0
            currentFid := false
            frameStartedAt := 0 } }
  | .disconnection =>
      { f with
        stream := { f.stream with streaming := false, committed := false, frameStartedAt := 0 } }
  | .controlRequest urb => f.handleControlRequest urb
  | .streamingRequest urb => f.handleStreamingRequest api urb
  | .setInterface alternateSetting => f.requestSetInterface alternateSetting
  | .isochronous _ _ trx numIsoPackets now =>
      { f with
        source := if f.PullsFrame now then (api.getFrame f.source).1 else f.source
        stream := (f.stream.fillPackets trx numIsoPackets now (api.getFrame f.source).2).1 }

/-- The streaming handler as requests for its settings see it. -/
def streamingHandler : Uvc.UvcVideoStreamingHandler where
  classDesc := f.streamingDesc
  source :=
    { defaultFrameInterval := (api.currentFormat f.source).defaultFrameInterval
      minFrameInterval := (api.currentFormat f.source).minFrameInterval
      maxFrameInterval := (api.currentFormat f.source).maxFrameInterval
      maxFrameSize := .ofNat (api.maxFrameSize f.source) }
  probeData := f.probeData

def reply : VideoEvent Handler → Option (UsbIpRetSubmit Handler)
  | .controlRequest urb => some (f.control.handleNonStandardRequestTypeControlUrb urb)
  | .streamingRequest urb =>
      some ((f.streamingHandler api).handleNonStandardRequestTypeControlUrb urb)
  | .isochronous seqnum owner trx numIsoPackets now =>
      some (f.stream.handleIsochronousTransfer seqnum owner trx numIsoPackets now
        (api.getFrame f.source).2).2
  | .newConnection | .disconnection | .setInterface _ => none

def run (events : List (VideoEvent Handler)) : VideoFunction Source :=
  events.foldl (step api) f

theorem run_concat (events : List (VideoEvent Handler)) (event : VideoEvent Handler) :
    f.run api (events ++ [event]) = (f.run api events).step api event := by
  rw [run, List.foldl_append]
  rfl

end VideoFunction

namespace VideoEvent

variable {Handler : Type}

/-- The settings that an event sends to the function, of at least the common fields. -/
def settings : VideoEvent Handler → Option (List UInt8)
  | .streamingRequest urb =>
      if urb.IsClass ∧ urb.setup.request = ClassRequest.setCur ∧
          (urb.controlSelector = Uvc.vsProbeControl ∨
            urb.controlSelector = Uvc.vsCommitControl) ∧
          urb.trx.data.length ≥ 26 then
        some urb.trx.data
      else none
  | _ => none

theorem le_of_settings {event : VideoEvent Handler} {data : List UInt8}
    (h : event.settings = some data) : 26 ≤ data.length := by
  unfold settings at h
  split at h
  · split at h
    next hsets =>
      obtain rfl := Option.some.inj h
      exact hsets.2.2.2
    next => cases h
  · cases h

/-- The bytes of the common fields in them. -/
def commonBytes (event : VideoEvent Handler) : Option (List UInt8) :=
  event.settings.map fun data => bytesAt data 0 26

/-- The bytes of the coding fields, which only a block of full length has. -/
def codingBytes (event : VideoEvent Handler) : Option (List UInt8) :=
  (event.settings.filter fun data => data.length ≥ 48).map fun data => bytesAt data 34 14

def Commits : VideoEvent Handler → Prop
  | .streamingRequest urb =>
      urb.IsClass ∧ urb.setup.request = ClassRequest.setCur ∧
        urb.controlSelector = Uvc.vsCommitControl
  | _ => False

/-- The connection is a new one, or there is none. -/
def EndsConnection : VideoEvent Handler → Prop
  | .newConnection | .disconnection => True
  | _ => False

def SwitchesOff : VideoEvent Handler → Prop
  | .controlRequest urb =>
      urb.IsClass ∧ urb.entity = Uvc.entityVcInterface ∧
        urb.controlSelector = Uvc.vcVideoPowerModeControl ∧
        urb.setup.request = ClassRequest.setCur ∧ urb.trx.data.head? = some 0
  | _ => False

/-- The stream does not outlast this event. -/
def Stops (event : VideoEvent Handler) : Prop :=
  event.EndsConnection ∨ event.SwitchesOff ∨ event = .setInterface 0

end VideoEvent

variable {Handler : Type}

/-- The host has committed settings on this connection. -/
def Committed : List (VideoEvent Handler) → Prop :=
  HeldSince (fun _ event => event.Commits) VideoEvent.EndsConnection

/-- Then it has selected the setting with the endpoint, and nothing has stopped the stream. -/
def Negotiated : List (VideoEvent Handler) → Prop :=
  HeldSince (fun before event => event = .setInterface 1 ∧ Committed before) VideoEvent.Stops

namespace VideoFunction

variable {Source : Type} (api : Uvc.VideoSourceApi Source) (f : VideoFunction Source)

@[simp] theorem stream_settle (data : List UInt8) : (f.settle api data).stream = f.stream := by
  unfold settle
  split <;> rfl

@[simp] theorem source_settle (data : List UInt8) : (f.settle api data).source = f.source := by
  unfold settle
  split <;> rfl

theorem flags_fillPackets (trx : GenericTransfer) (numIsoPackets : Nat) (now : Int)
    (getFrame : Option (List UInt8)) (handler : UvcVideoStreamingHandler) :
    (handler.fillPackets trx numIsoPackets now getFrame).1.streaming = handler.streaming ∧
      (handler.fillPackets trx numIsoPackets now getFrame).1.committed = handler.committed := by
  unfold UvcVideoStreamingHandler.fillPackets
  split
  · exact ⟨rfl, rfl⟩
  split
  · exact ⟨rfl, rfl⟩
  split
  next => exact ⟨rfl, rfl⟩
  next handler' hframe =>
    unfold UvcVideoStreamingHandler.nextFrame at hframe
    split at hframe
    · obtain ⟨frame, -, rfl⟩ := Option.map_eq_some_iff.mp hframe
      exact ⟨rfl, rfl⟩
    · obtain rfl := Option.some.inj hframe
      exact ⟨rfl, rfl⟩

theorem committed_step (event : VideoEvent Handler) :
    (f.step api event).stream.committed = true ↔
      event.Commits ∨ f.stream.committed = true ∧ ¬ event.EndsConnection := by
  cases event with
  | newConnection | disconnection => simp [step, VideoEvent.Commits, VideoEvent.EndsConnection]
  | controlRequest urb =>
      simp only [step, handleControlRequest, VideoEvent.Commits, VideoEvent.EndsConnection,
        false_or, not_false_eq_true, and_true]
      split
      · split
        · rfl
        · dsimp only
          split <;> rfl
      · rfl
  | streamingRequest urb =>
      simp only [step, handleStreamingRequest, VideoEvent.Commits, VideoEvent.EndsConnection,
        not_false_eq_true, and_true]
      by_cases hset : urb.IsClass ∧ urb.setup.request = ClassRequest.setCur
      · rw [if_pos hset]
        split
        next hprobe =>
          have hcommit : urb.controlSelector ≠ Uvc.vsCommitControl := by
            rw [hprobe]
            decide
          simp [hcommit]
        next =>
          split
          next hcommit => simp [commit, hset, hcommit]
          next hcommit => simp [hcommit]
      · rw [if_neg hset]
        have hno : ¬ (urb.IsClass ∧ urb.setup.request = ClassRequest.setCur ∧
            urb.controlSelector = Uvc.vsCommitControl) := fun h => hset ⟨h.1, h.2.1⟩
        simp [hno]
  | setInterface alternateSetting =>
      simp only [step, requestSetInterface, VideoEvent.Commits, VideoEvent.EndsConnection,
        false_or, not_false_eq_true, and_true]
      repeat' split
      all_goals rfl
  | isochronous seqnum owner trx numIsoPackets now =>
      simp [step, flags_fillPackets, VideoEvent.Commits, VideoEvent.EndsConnection]

theorem streaming_step (event : VideoEvent Handler) :
    (f.step api event).stream.streaming = true ↔
      (event = .setInterface 1 ∧ f.stream.committed = true) ∨
        f.stream.streaming = true ∧ ¬ event.Stops := by
  cases event with
  | newConnection | disconnection => simp [step, VideoEvent.Stops, VideoEvent.EndsConnection]
  | controlRequest urb =>
      simp only [step, handleControlRequest, VideoEvent.Stops, VideoEvent.EndsConnection,
        VideoEvent.SwitchesOff, reduceCtorEq, false_and, false_or, or_false]
      by_cases hset : urb.IsClass ∧ urb.entity = Uvc.entityVcInterface ∧
          urb.controlSelector = Uvc.vcVideoPowerModeControl ∧
          urb.setup.request = ClassRequest.setCur
      · obtain ⟨hclass, hentity, hselector, hrequest⟩ := hset
        rw [if_pos ⟨hclass, hentity, hselector, hrequest⟩]
        cases hdata : urb.trx.data with
        | nil => simp
        | cons mode rest =>
            by_cases hoff : mode = 0
            · simp [hclass, hentity, hselector, hrequest, hoff]
            · simp [hoff]
      · rw [if_neg hset]
        have hno : ¬ (urb.IsClass ∧ urb.entity = Uvc.entityVcInterface ∧
            urb.controlSelector = Uvc.vcVideoPowerModeControl ∧
            urb.setup.request = ClassRequest.setCur ∧ urb.trx.data.head? = some 0) :=
          fun h => hset ⟨h.1, h.2.1, h.2.2.1, h.2.2.2.1⟩
        simp [hno]
  | streamingRequest urb =>
      simp only [step, handleStreamingRequest, VideoEvent.Stops, VideoEvent.EndsConnection,
        VideoEvent.SwitchesOff, reduceCtorEq, false_and, false_or, not_false_eq_true, and_true]
      repeat' split
      all_goals simp [commit]
  | setInterface alternateSetting =>
      simp only [step, requestSetInterface, VideoEvent.Stops, VideoEvent.EndsConnection,
        VideoEvent.SwitchesOff, VideoEvent.setInterface.injEq, false_or]
      split
      next hzero => simp [hzero]
      next hzero =>
        split
        next hone =>
          split
          next hcommitted => simp [hone, hcommitted]
          next hcommitted => simp [hone, hcommitted]
        next hone => simp [hone, hzero]
  | isochronous seqnum owner trx numIsoPackets now =>
      simp [step, flags_fillPackets, VideoEvent.Stops, VideoEvent.EndsConnection,
        VideoEvent.SwitchesOff]

theorem committed_iff (controlDesc streamingDesc : List UInt8) (source : Source)
    (events : List (VideoEvent Handler)) :
    ((new api controlDesc streamingDesc source).run api events).stream.committed = true ↔
      Committed events := by
  refine iff_heldSince (fun events =>
    ((new api controlDesc streamingDesc source).run api events).stream.committed = true)
    Bool.false_ne_true (fun events event => ?_) events
  rw [run_concat, committed_step]

theorem streaming_iff (controlDesc streamingDesc : List UInt8) (source : Source)
    (events : List (VideoEvent Handler)) :
    ((new api controlDesc streamingDesc source).run api events).stream.streaming = true ↔
      Negotiated events := by
  refine iff_heldSince (fun events =>
    ((new api controlDesc streamingDesc source).run api events).stream.streaming = true)
    Bool.false_ne_true (fun events event => ?_) events
  rw [run_concat, streaming_step, committed_iff]

/-- A stream that goes on does so on a connection on which settings are committed. -/
theorem committed_of_negotiated {events : List (VideoEvent Handler)} (h : Negotiated events) :
    Committed events := by
  induction events using List.reverseRecOn with
  | nil => exact absurd h not_heldSince_nil
  | append_singleton events event ih =>
      rcases heldSince_concat.mp h with ⟨rfl, hcommitted⟩ | ⟨hheld, hgoes⟩
      · exact heldSince_concat.mpr (.inr ⟨hcommitted, not_false⟩)
      · exact heldSince_concat.mpr (.inr ⟨ih hheld, fun hends => hgoes (.inl hends)⟩)

/-- A transfer is filled exactly when a stream is going on and the source has a frame for it. -/
theorem isSome_fillPackets_iff (trx : GenericTransfer) (numIsoPackets : Nat) (now : Int) :
    (f.stream.fillPackets trx numIsoPackets now (api.getFrame f.source).2).2.isSome = true ↔
      (f.stream.streaming = true ∧ f.stream.committed = true) ∧
        (f.PullsFrame now → (api.getFrame f.source).2.isSome = true) := by
  unfold UvcVideoStreamingHandler.fillPackets PullsFrame
  cases hstreaming : f.stream.streaming with
  | false => simp
  | true =>
      cases hcommitted : f.stream.committed with
      | false => simp
      | true =>
          by_cases hwait : f.stream.frameInterval > 0 ∧ f.stream.frameOffset = 0 ∧
              now < f.stream.frameStartedAt + f.stream.frameInterval
          · have hnot : ¬ (f.stream.frameOffset = 0 ∧ ¬ (f.stream.frameInterval > 0 ∧
                now < f.stream.frameStartedAt + f.stream.frameInterval)) :=
              fun h => h.2 ⟨hwait.1, hwait.2.2⟩
            simp [hwait]
          · rw [if_neg (by simp), if_neg hwait]
            unfold UvcVideoStreamingHandler.nextFrame
            by_cases hoffset : f.stream.frameOffset = 0
            · have hdue : ¬ (f.stream.frameInterval > 0 ∧
                  now < f.stream.frameStartedAt + f.stream.frameInterval) :=
                fun h => hwait ⟨h.1, hoffset, h.2⟩
              rw [if_pos hoffset]
              cases hframe : (api.getFrame f.source).2 with
              | none => simp [hoffset, hdue]
              | some frame => simp
            · simp [hoffset]

theorem status_replyPackets (seqnum : UInt32) (owner : Option Handler) (trx : GenericTransfer)
    (filled : Option FilledPackets) :
    (replyPackets seqnum owner trx filled).status = UrbStatusType.statusOK ↔
      filled.isSome = true := by
  cases filled with
  | none => exact iff_of_false (by decide : UrbStatusType.statusEPIPE ≠ _) Bool.false_ne_true
  | some filled => exact iff_of_true rfl rfl

/-- After any history an isochronous transfer is served exactly when the host has committed
settings on this connection, has then selected the setting with the endpoint, and nothing has
stopped the stream since; but for a source that has no frame when the next one is due. -/
theorem isochronous_served_iff (controlDesc streamingDesc : List UInt8) (source : Source)
    (events : List (VideoEvent Handler)) (seqnum : UInt32) (owner : Option Handler)
    (trx : GenericTransfer) (numIsoPackets : Nat) (now : Int) :
    let f := (new api controlDesc streamingDesc source).run api events
    ∃ ret, f.reply api (.isochronous seqnum owner trx numIsoPackets now) = some ret ∧
      (ret.status = UrbStatusType.statusOK ↔
        Negotiated events ∧
          (f.PullsFrame now → (api.getFrame f.source).2.isSome = true)) := by
  intro f
  refine ⟨_, rfl, ?_⟩
  have hstreaming := streaming_iff api controlDesc streamingDesc source events
  have hcommitted := committed_iff api controlDesc streamingDesc source events
  refine (status_replyPackets seqnum owner trx
    (f.stream.fillPackets trx numIsoPackets now (api.getFrame f.source).2).2).trans ?_
  rw [isSome_fillPackets_iff]
  refine and_congr_left' ⟨fun h => hstreaming.mp h.1, fun h => ?_⟩
  exact ⟨hstreaming.mpr h, hcommitted.mpr (committed_of_negotiated h)⟩

/-- What a settings block leaves in the settings. -/
theorem commonBytes_settle {data : List UInt8} (h : 26 ≤ data.length) :
    (f.settle api data).probeData.commonBytes = bytesAt data 0 26 := by
  have hread : (f.probeData.deserialize data).commonBytes = bytesAt data 0 26 := by
    rw [Uvc.UvcStreamingControl.deserialize, if_neg (Nat.not_lt_of_le h),
      ← f.probeData.commonBytes_readCommon h]
    dsimp only
    split <;> split <;> rfl
  rw [settle, if_pos h, ← hread]
  dsimp only
  split <;> rfl

theorem codingBytes_settle_of_h264 {data : List UInt8} (h : 26 ≤ data.length)
    (hcategory : Uvc.uvcFormatCategory (api.currentFormat f.source).fourcc = .h264) :
    (f.settle api data).probeData.codingBytes =
      if 48 ≤ data.length then bytesAt data 34 14 else f.probeData.codingBytes := by
  have hread : (f.probeData.deserialize data).codingBytes =
      if 48 ≤ data.length then bytesAt data 34 14 else f.probeData.codingBytes := by
    rw [Uvc.UvcStreamingControl.deserialize, if_neg (Nat.not_lt_of_le h)]
    dsimp only
    by_cases hfull : 48 ≤ data.length
    · rw [if_pos hfull, if_pos hfull, Uvc.UvcStreamingControl.codingBytes_readCoding _ hfull]
    · rw [if_neg hfull, if_neg hfull]
      split <;> rfl
  rw [settle, if_pos h, ← hread]
  dsimp only
  rw [if_neg (not_not_intro hcategory)]
  rfl

theorem codingBytes_settle_of_not_h264 {data : List UInt8} (h : 26 ≤ data.length)
    (hcategory : Uvc.uvcFormatCategory (api.currentFormat f.source).fourcc ≠ .h264) :
    (f.settle api data).probeData.codingBytes = List.replicate 14 0 := by
  rw [settle, if_pos h]
  dsimp only
  rw [if_pos hcategory]
  exact Uvc.UvcStreamingControl.codingBytes_of_zero rfl rfl rfl rfl rfl rfl

theorem settle_of_short {data : List UInt8} (h : ¬ 26 ≤ data.length) : f.settle api data = f :=
  if_neg h

/-- The settings change only as a settings block changes them. -/
theorem probeData_step (event : VideoEvent Handler) :
    (f.step api event).probeData =
      event.settings.elim f.probeData fun data => (f.settle api data).probeData := by
  cases event with
  | newConnection | disconnection | setInterface alternateSetting =>
      simp only [step, requestSetInterface, VideoEvent.settings, Option.elim_none]
      repeat' split
      all_goals rfl
  | controlRequest urb =>
      simp only [step, handleControlRequest, VideoEvent.settings, Option.elim_none]
      repeat' split
      all_goals rfl
  | isochronous seqnum owner trx numIsoPackets now => rfl
  | streamingRequest urb =>
      simp only [step, handleStreamingRequest, VideoEvent.settings]
      by_cases hset : urb.IsClass ∧ urb.setup.request = ClassRequest.setCur
      · rw [if_pos hset]
        by_cases hlong : 26 ≤ urb.trx.data.length
        · by_cases hprobe : urb.controlSelector = Uvc.vsProbeControl
          · rw [if_pos hprobe, if_pos ⟨hset.1, hset.2, .inl hprobe, hlong⟩]
            rfl
          · rw [if_neg hprobe]
            by_cases hcommit : urb.controlSelector = Uvc.vsCommitControl
            · rw [if_pos hcommit, if_pos ⟨hset.1, hset.2, .inr hcommit, hlong⟩]
              rfl
            · rw [if_neg hcommit, if_neg fun h => h.2.2.1.elim hprobe hcommit]
              rfl
        · have hnone : ¬ (urb.IsClass ∧ urb.setup.request = ClassRequest.setCur ∧
              (urb.controlSelector = Uvc.vsProbeControl ∨
                urb.controlSelector = Uvc.vsCommitControl) ∧ urb.trx.data.length ≥ 26) :=
            fun h => hlong h.2.2.2
          rw [if_neg hnone]
          unfold commit
          rw [f.settle_of_short api hlong]
          split
          · rfl
          · split <;> rfl
      · have hnone : ¬ (urb.IsClass ∧ urb.setup.request = ClassRequest.setCur ∧
            (urb.controlSelector = Uvc.vsProbeControl ∨
              urb.controlSelector = Uvc.vsCommitControl) ∧ urb.trx.data.length ≥ 26) :=
          fun h => hset ⟨h.1, h.2.1⟩
        rw [if_neg hset, if_neg hnone]
        rfl

variable {api}

/-- A source that keeps its FOURCC keeps it over any history. -/
theorem fourcc_step (hkeeps : api.KeepsFourcc) (event : VideoEvent Handler) :
    (api.currentFormat (f.step api event).source).fourcc =
      (api.currentFormat f.source).fourcc := by
  cases event with
  | newConnection | disconnection => rfl
  | setInterface alternateSetting =>
      simp only [step, requestSetInterface]
      repeat' split
      all_goals rfl
  | controlRequest urb =>
      simp only [step, handleControlRequest]
      repeat' split
      all_goals rfl
  | isochronous seqnum owner trx numIsoPackets now =>
      simp only [step]
      split
      · exact hkeeps.getFrame f.source
      · rfl
  | streamingRequest urb =>
      simp only [step, handleStreamingRequest]
      split
      · split
        · rw [source_settle]
        · split
          · unfold commit
            dsimp only
            rw [source_settle]
            exact hkeeps.setFormat f.source _
          · rfl
      · rfl

theorem fourcc_run (hkeeps : api.KeepsFourcc) (events : List (VideoEvent Handler)) :
    (api.currentFormat (f.run api events).source).fourcc =
      (api.currentFormat f.source).fourcc := by
  induction events using List.reverseRecOn with
  | nil => rfl
  | append_singleton events event ih => rw [run_concat, fourcc_step _ hkeeps, ih]

theorem commonBytes_run (events : List (VideoEvent Handler)) :
    (f.run api events).probeData.commonBytes =
      (lastOf VideoEvent.commonBytes events).getD f.probeData.commonBytes := by
  refine eq_lastOf (fun events : List (VideoEvent Handler) =>
    (f.run api events).probeData.commonBytes) rfl (fun events event => ?_) events
  rw [run_concat, probeData_step, VideoEvent.commonBytes]
  cases hsettings : event.settings with
  | none => rfl
  | some data =>
      exact commonBytes_settle api _ (VideoEvent.le_of_settings hsettings)

/-- The coding fields are those of the last full block where the format has any, else zero. -/
theorem codingBytes_run (hkeeps : api.KeepsFourcc) (events : List (VideoEvent Handler))
    (hinit : f.probeData.codingBytes = List.replicate 14 0) :
    (f.run api events).probeData.codingBytes =
      if Uvc.uvcFormatCategory (api.currentFormat f.source).fourcc = .h264 then
        (lastOf VideoEvent.codingBytes events).getD (List.replicate 14 0)
      else List.replicate 14 0 := by
  have hlong {event : VideoEvent Handler} {data : List UInt8} (h : event.settings = some data) :
      26 ≤ data.length := VideoEvent.le_of_settings h
  have hfourcc (events : List (VideoEvent Handler)) := f.fourcc_run hkeeps events
  split
  next hcategory =>
    rw [← hinit]
    refine eq_lastOf (fun events : List (VideoEvent Handler) =>
      (f.run api events).probeData.codingBytes) rfl (fun events event => ?_) events
    rw [run_concat, probeData_step, VideoEvent.codingBytes]
    cases hsettings : event.settings with
    | none => rfl
    | some data =>
        rw [Option.elim_some, codingBytes_settle_of_h264 api _ (hlong hsettings)
          (by rw [hfourcc, hcategory])]
        by_cases hfull : 48 ≤ data.length
        · simp [hfull, Option.filter]
        · simp [hfull, Option.filter]
  next hcategory =>
    induction events using List.reverseRecOn with
    | nil => exact hinit
    | append_singleton events event ih =>
        rw [run_concat, probeData_step]
        cases hsettings : event.settings with
        | none => exact ih
        | some data =>
            exact codingBytes_settle_of_not_h264 api _ (hlong hsettings) (by rwa [hfourcc])

/-- After any history a host that asks for the current settings reads those of the last block that
was sent, whatever connections have come and gone and whatever streams have run since. -/
theorem host_reads_settings (hkeeps : api.KeepsFourcc) (controlDesc streamingDesc : List UInt8)
    (source : Source) (events : List (VideoEvent Handler)) (urb : ControlUrb Handler)
    (hclass : urb.IsClass) (hrequest : urb.setup.request = ClassRequest.getCur)
    (hselector : urb.controlSelector = Uvc.vsProbeControl ∨
      urb.controlSelector = Uvc.vsCommitControl) :
    let f₀ := new api controlDesc streamingDesc source
    let f := f₀.run api events
    f.reply api (.streamingRequest urb) =
      some (urb.replyData ((Uvc.currentSettings (f.streamingHandler api).source
        ((lastOf VideoEvent.commonBytes events).getD f₀.probeData.commonBytes)
        (if Uvc.uvcFormatCategory (api.currentFormat source).fourcc = .h264 then
          (lastOf VideoEvent.codingBytes events).getD (List.replicate 14 0)
        else List.replicate 14 0)).take (min 48 urb.transferBufferLength.toNat))) := by
  intro f₀ f
  have hcommon : f.probeData.commonBytes = _ := f₀.commonBytes_run events
  have hcoding : f.probeData.codingBytes =
      if Uvc.uvcFormatCategory (api.currentFormat source).fourcc = .h264 then
        (lastOf VideoEvent.codingBytes events).getD (List.replicate 14 0)
      else List.replicate 14 0 :=
    f₀.codingBytes_run hkeeps events
      (Uvc.UvcStreamingControl.codingBytes_of_zero rfl rfl rfl rfl rfl rfl)
  have hcontrol : (f.streamingHandler api).handleNonStandardRequestTypeControlUrb urb =
      (f.streamingHandler api).probeCommitControl urb := by
    have hdescriptor : urb.setup.request ≠ StandardRequest.getDescriptor := by
      rw [hrequest]
      decide
    have herror : urb.controlSelector ≠ Uvc.vsStreamErrorCodeControl := by
      rcases hselector with h | h
      · rw [h]
        decide
      · rw [h]
        decide
    unfold Uvc.UvcVideoStreamingHandler.handleNonStandardRequestTypeControlUrb
      ControlUrb.classRequest
    rw [if_neg (not_not_intro hclass), if_neg hdescriptor,
      if_neg (by simp [← or_assoc, hselector]), if_neg herror]
  have hread : (f.streamingHandler api).probeCommitControl urb =
      urb.replyData (((f.streamingHandler api).reportedControl ClassRequest.getCur).serialize.take
        (min Uvc.UvcStreamingControl.size urb.transferBufferLength.toNat)) := by
    unfold Uvc.UvcVideoStreamingHandler.probeCommitControl
    dsimp only
    rw [hrequest, if_pos (by decide)]
  refine congrArg some (hcontrol.trans (hread.trans ?_))
  rw [Uvc.serialize_reportedControl_getCur, ← hcommon, ← hcoding]
  rfl

/-- A class request of a host to a streaming interface. -/
def settingsUrb (requestType request selector : UInt8) (data : List UInt8) : ControlUrb Nat where
  seqnum := 5
  transferBufferLength := 48
  setup := ⟨requestType, request, selector.toUInt16 <<< 8, 1, 48⟩
  owner := none
  trx := ⟨data, [], 0, 0, requestType &&& 0x80 ≠ 0⟩

/-- The host commits settings of version 1.0 and comes back on another connection. -/
def reconnected : List (VideoEvent Nat) :=
  [.newConnection,
    .streamingRequest (settingsUrb 0x21 ClassRequest.setCur Uvc.vsCommitControl
      ([1, 0, 1, 1] ++ leBytesOfNat 4 666666 ++ List.replicate 18 7)),
    .setInterface 1, .disconnection, .newConnection]

theorem host_reads_settings_instance :
    let f₀ := new Uvc.ColorBarSource.api [] [] ⟨640, 480, 333333⟩
    let f := f₀.run Uvc.ColorBarSource.api reconnected
    let urb := settingsUrb 0xA1 ClassRequest.getCur Uvc.vsProbeControl (List.replicate 48 0)
    f.reply Uvc.ColorBarSource.api (.streamingRequest urb) =
      some (urb.replyData ((Uvc.currentSettings (f.streamingHandler Uvc.ColorBarSource.api).source
        ((lastOf VideoEvent.commonBytes reconnected).getD f₀.probeData.commonBytes)
        (List.replicate 14 0)).take 48)) :=
  host_reads_settings Uvc.ColorBarSource.keepsFourcc_api [] [] ⟨640, 480, 333333⟩ reconnected
    (settingsUrb 0xA1 ClassRequest.getCur Uvc.vsProbeControl (List.replicate 48 0)) rfl rfl
    (.inl rfl)

end VideoFunction

end Usbipdcpp.VirtualDevice
