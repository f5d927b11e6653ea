import Usbipdcpp.Foundation.Latch
import Usbipdcpp.VirtualDevice.AudioControl

namespace Usbipdcpp.VirtualDevice.Uac

open Foundation.ByteStream Foundation.Latch Protocol

variable {Handler : Type}

/-- The status that tells the host that a setting of the feature unit has changed. -/
def featureUnitStatus : List UInt8 := [0x01, entityFeatureUnit]

/-- `std::clamp`, for bounds in order. -/
def clamp (value min max : Int16) : Int16 :=
  if value < min then min else if max < value then max else value

/-- The control interface of an audio device with the gain of its volume and the statuses that it
has pushed into its channel. -/
structure AudioControlFunction where
  control : UacAudioControlHandler
  gainQ16 : UInt32
  statuses : List (List UInt8)
  deriving DecidableEq, Repr

namespace AudioControlFunction

/-- The gain of a volume; `linear` is the power of ten that the source computes. -/
def gainOf (linear : Int16 → UInt32) (volumeDb : Int16) : UInt32 :=
  if volumeDb ≤ -0x7800 then 0 else linear volumeDb

def new (classDesc : List UInt8) (config : UacDeviceConfig) : AudioControlFunction :=
  ⟨⟨classDesc, config, false, 0⟩, 65536, []⟩

variable (linear : Int16 → UInt32) (f : AudioControlFunction)

def sendAcStatus : AudioControlFunction :=
  { f with statuses := f.statuses ++ [featureUnitStatus] }

/-- A switch that is turned tells the host of it. -/
def turnMute (newMute : Bool) : AudioControlFunction :=
  if newMute ≠ f.control.mute then
    { f with control := { f.control with mute := newMute } }.sendAcStatus
  else f

def setMute (data : List UInt8) : AudioControlFunction :=
  match data with
  | [] => f
  | byte :: _ => f.turnMute (byte ≠ 0)

def turnVolume (clamped : Int16) : AudioControlFunction :=
  if clamped ≠ f.control.volumeDb then
    { f with
      control := { f.control with volumeDb := clamped }
      gainQ16 := gainOf linear clamped }.sendAcStatus
  else f

def setVolume (data : List UInt8) : AudioControlFunction :=
  if data.length ≥ 2 then
    f.turnVolume linear (clamp (UInt16.ofNat (leField 2 0 data)).toInt16
      f.control.config.volumeMinDb256 f.control.config.volumeMaxDb256)
  else f

theorem turnMute_eq (newMute : Bool) :
    f.turnMute newMute =
      { f with
        control := { f.control with mute := newMute }
        statuses := f.statuses ++
          if newMute ≠ f.control.mute then [featureUnitStatus] else [] } := by
  unfold turnMute
  split
  next hturned => rfl
  next hsame =>
    rw [not_not.mp hsame, List.append_nil]

theorem turnVolume_eq (clamped : Int16) :
    f.turnVolume linear clamped =
      { control := { f.control with volumeDb := clamped }
        gainQ16 := if clamped ≠ f.control.volumeDb then gainOf linear clamped else f.gainQ16
        statuses := f.statuses ++
          if clamped ≠ f.control.volumeDb then [featureUnitStatus] else [] } := by
  unfold turnVolume
  split
  next hturned => rfl
  next hsame =>
    rw [not_not.mp hsame, List.append_nil]

end AudioControlFunction

namespace UacDeviceConfig

variable (config : UacDeviceConfig) (urb : ControlUrb Handler)

/-- A request for the mute switch of the feature unit, where there is one. -/
def AsksMute (request : UInt8) : Prop :=
  urb.IsClass ∧ urb.entity = entityFeatureUnit ∧ urb.controlSelector = fuMuteControl ∧
    config.featureUnitMute = true ∧ urb.setup.request = request

def AsksVolume (request : UInt8) : Prop :=
  urb.IsClass ∧ urb.entity = entityFeatureUnit ∧ urb.controlSelector = fuVolumeControl ∧
    config.featureUnitVolume = true ∧ urb.setup.request = request

instance (request : UInt8) : Decidable (config.AsksMute urb request) :=
  inferInstanceAs (Decidable (_ ∧ _))

instance (request : UInt8) : Decidable (config.AsksVolume urb request) :=
  inferInstanceAs (Decidable (_ ∧ _))

/-- The state of the switch that a request sets. -/
def muteIn : Option Bool :=
  if config.AsksMute urb ClassRequest.setCur then urb.trx.data.head?.map (· ≠ 0) else none

/-- The volume that a request sets. -/
def volumeIn : Option Int16 :=
  if config.AsksVolume urb ClassRequest.setCur ∧ urb.trx.data.length ≥ 2 then
    some (clamp (UInt16.ofNat (leField 2 0 urb.trx.data)).toInt16 config.volumeMinDb256
      config.volumeMaxDb256)
  else none

/-- What a host has set the feature unit to. -/
def settings (urbs : List (ControlUrb Handler)) : Bool × Int16 :=
  ((lastOf config.muteIn urbs).getD false, (lastOf config.volumeIn urbs).getD 0)

end UacDeviceConfig

namespace AudioControlFunction

variable (linear : Int16 → UInt32) (f : AudioControlFunction)

/-- What a request changes. -/
def handleControlRequest (urb : ControlUrb Handler) : AudioControlFunction :=
  if f.control.config.AsksMute urb ClassRequest.setCur then f.setMute urb.trx.data
  else if f.control.config.AsksVolume urb ClassRequest.setCur then
    f.setVolume linear urb.trx.data
  else f

def run (urbs : List (ControlUrb Handler)) : AudioControlFunction :=
  urbs.foldl (handleControlRequest linear) f

theorem run_concat (urbs : List (ControlUrb Handler)) (urb : ControlUrb Handler) :
    f.run linear (urbs ++ [urb]) = (f.run linear urbs).handleControlRequest linear urb := by
  rw [run, List.foldl_append]
  rfl

theorem not_asksVolume_of_asksMute {config : UacDeviceConfig} {urb : ControlUrb Handler}
    {request : UInt8} (h : config.AsksMute urb request) : ¬ config.AsksVolume urb request := by
  intro hvolume
  have hselector : fuMuteControl = fuVolumeControl := h.2.2.1.symm.trans hvolume.2.2.1
  exact absurd hselector (by decide)

/-- A request leaves the settings that it sets, and pushes a status exactly where these are other
ones than before. -/
theorem handleControlRequest_eq (urb : ControlUrb Handler) :
    let mute := (f.control.config.muteIn urb).getD f.control.mute
    let volumeDb := (f.control.config.volumeIn urb).getD f.control.volumeDb
    f.handleControlRequest linear urb =
      { control := { f.control with mute, volumeDb }
        gainQ16 := if volumeDb ≠ f.control.volumeDb then gainOf linear volumeDb else f.gainQ16
        statuses := f.statuses ++
          if (mute, volumeDb) ≠ (f.control.mute, f.control.volumeDb) then [featureUnitStatus]
          else [] } := by
  dsimp only
  unfold handleControlRequest UacDeviceConfig.muteIn UacDeviceConfig.volumeIn
  by_cases hmute : f.control.config.AsksMute urb ClassRequest.setCur
  · have hvolume := not_asksVolume_of_asksMute hmute
    simp only [if_pos hmute, hvolume, false_and, if_false, Option.getD_none, ne_eq,
      not_true_eq_false]
    cases hdata : urb.trx.data with
    | nil => simp [setMute]
    | cons byte rest => simp [setMute, turnMute_eq]
  · rw [if_neg hmute, if_neg hmute]
    by_cases hvolume : f.control.config.AsksVolume urb ClassRequest.setCur
    · rw [if_pos hvolume, setVolume]
      by_cases hdata : urb.trx.data.length ≥ 2
      · simp only [hvolume, hdata, and_self, if_true, turnVolume_eq, Option.getD_some,
          Option.getD_none, ne_eq, Prod.mk.injEq, true_and]
      · simp [hdata]
    · simp [hvolume]

/-- Of the register's values those that are not the ones before them. -/
theorem statuses_concat (urbs : List (ControlUrb Handler)) (urb : ControlUrb Handler) :
    (f.run linear (urbs ++ [urb])).statuses = (f.run linear urbs).statuses ++
      if ((f.run linear (urbs ++ [urb])).control.mute,
          (f.run linear (urbs ++ [urb])).control.volumeDb) ≠
        ((f.run linear urbs).control.mute, (f.run linear urbs).control.volumeDb) then
        [featureUnitStatus]
      else [] := by
  rw [run_concat, handleControlRequest_eq]

theorem config_run (urbs : List (ControlUrb Handler)) :
    (f.run linear urbs).control.config = f.control.config := by
  induction urbs using List.reverseRecOn with
  | nil => rfl
  | append_singleton urbs urb ih =>
      rw [run_concat, handleControlRequest_eq]
      exact ih

variable (classDesc : List UInt8) (config : UacDeviceConfig)

/-- The feature unit holds what the host has set it to. -/
theorem settings_run (urbs : List (ControlUrb Handler)) :
    let f := (new classDesc config).run linear urbs
    (f.control.mute, f.control.volumeDb) = config.settings urbs := by
  have hconfig (urbs : List (ControlUrb Handler)) :
      ((new classDesc config).run linear urbs).control.config = config :=
    config_run linear (new classDesc config) urbs
  refine Prod.ext ?_ ?_
  · refine eq_lastOf (fun urbs : List (ControlUrb Handler) =>
      ((new classDesc config).run linear urbs).control.mute) rfl (fun urbs urb => ?_) urbs
    rw [run_concat, handleControlRequest_eq, hconfig]
  · refine eq_lastOf (fun urbs : List (ControlUrb Handler) =>
      ((new classDesc config).run linear urbs).control.volumeDb) rfl (fun urbs urb => ?_) urbs
    rw [run_concat, handleControlRequest_eq, hconfig]

theorem statuses_run (urbs : List (ControlUrb Handler)) :
    ((new classDesc config).run linear urbs).statuses =
      List.replicate (changes config.settings urbs) featureUnitStatus := by
  induction urbs using List.reverseRecOn with
  | nil => rfl
  | append_singleton urbs urb ih =>
      rw [statuses_concat, ih, changes_concat, List.replicate_add]
      have hbefore := settings_run linear classDesc config urbs
      have hafter := settings_run linear classDesc config (urbs ++ [urb])
      dsimp only at hbefore hafter
      rw [hbefore, hafter]
      split <;> rfl

theorem gainQ16_run (hlinear : linear 0 = 65536) (urbs : List (ControlUrb Handler)) :
    let f := (new classDesc config).run linear urbs
    f.gainQ16 = gainOf linear f.control.volumeDb := by
  induction urbs using List.reverseRecOn with
  | nil => exact hlinear.symm
  | append_singleton urbs urb ih =>
      dsimp only at ih ⊢
      rw [run_concat, handleControlRequest_eq]
      dsimp only
      split
      next hturned => rfl
      next hsame => rw [not_not.mp hsame, ih]

theorem clamp_mem {value min max : Int16} (h : min ≤ max) :
    min ≤ clamp value min max ∧ clamp value min max ≤ max := by
  unfold clamp
  split
  · exact ⟨Int16.le_refl min, h⟩
  split
  · exact ⟨h, Int16.le_refl max⟩
  next hmin hmax => exact ⟨Int16.not_lt.mp hmin, Int16.not_lt.mp hmax⟩

/-- A volume that a host has set lies within the bounds of the configuration. -/
theorem volume_mem (hbounds : config.volumeMinDb256 ≤ config.volumeMaxDb256)
    {urbs : List (ControlUrb Handler)} {volume : Int16}
    (h : lastOf config.volumeIn urbs = some volume) :
    config.volumeMinDb256 ≤ volume ∧ volume ≤ config.volumeMaxDb256 := by
  obtain ⟨urb, -, hurb⟩ := List.mem_filterMap.mp (List.mem_of_getLast? h)
  unfold UacDeviceConfig.volumeIn at hurb
  split at hurb
  · obtain rfl := Option.some.inj hurb
    exact clamp_mem hbounds
  · cases hurb

theorem entity_featureUnit {urb : ControlUrb Handler} (hentity : urb.entity = entityFeatureUnit) :
    ¬ (urb.entity = entityInputTerminal ∨ urb.entity = entityOutputTerminal) ∧
      ¬ urb.entity ≠ entityFeatureUnit := by
  rw [hentity]
  decide

theorem reply_of_asksMute (control : UacAudioControlHandler) {urb : ControlUrb Handler}
    (h : control.config.AsksMute urb ClassRequest.getCur) :
    control.handleNonStandardRequestTypeControlUrb urb =
      urb.replyData [if control.mute then 1 else 0] := by
  obtain ⟨hclass, hentity, hselector, hmute, hrequest⟩ := h
  obtain ⟨hterminal, hunit⟩ := entity_featureUnit hentity
  have hdescriptor : urb.setup.request ≠ StandardRequest.getDescriptor := by
    rw [hrequest]
    decide
  rw [UacAudioControlHandler.handleNonStandardRequestTypeControlUrb, ControlUrb.classRequest,
    if_neg (not_not_intro hclass), if_neg hdescriptor, if_neg hterminal, if_neg hunit,
    if_pos hselector, UacAudioControlHandler.muteControl, if_neg (by simp [hmute]), if_pos hrequest]

theorem reply_of_asksVolume (control : UacAudioControlHandler) {urb : ControlUrb Handler}
    (h : control.config.AsksVolume urb ClassRequest.getCur) :
    control.handleNonStandardRequestTypeControlUrb urb =
      urb.replyData (int16Bytes control.volumeDb) := by
  obtain ⟨hclass, hentity, hselector, hvolume, hrequest⟩ := h
  obtain ⟨hterminal, hunit⟩ := entity_featureUnit hentity
  have hdescriptor : urb.setup.request ≠ StandardRequest.getDescriptor := by
    rw [hrequest]
    decide
  have hmute : urb.controlSelector ≠ fuMuteControl := by
    rw [hselector]
    decide
  rw [UacAudioControlHandler.handleNonStandardRequestTypeControlUrb, ControlUrb.classRequest,
    if_neg (not_not_intro hclass), if_neg hdescriptor, if_neg hterminal, if_neg hunit,
    if_neg hmute, if_pos hselector, UacAudioControlHandler.volumeControl,
    if_neg (by simp [hvolume]), if_pos hrequest]

/-- After any requests the host reads the switch and the volume as it has set them last, the volume
within its bounds; the samples are scaled by the gain of that volume; and one status has been
pushed for each time that the host has changed what it reads. -/
theorem feature_unit_settled (hlinear : linear 0 = 65536) (urbs : List (ControlUrb Handler)) :
    let f := (new classDesc config).run linear urbs
    (∀ urb : ControlUrb Handler, config.AsksMute urb ClassRequest.getCur →
      f.control.handleNonStandardRequestTypeControlUrb urb =
        urb.replyData [if (config.settings urbs).1 then 1 else 0]) ∧
    (∀ urb : ControlUrb Handler, config.AsksVolume urb ClassRequest.getCur →
      f.control.handleNonStandardRequestTypeControlUrb urb =
        urb.replyData (int16Bytes (config.settings urbs).2)) ∧
    (config.volumeMinDb256 ≤ config.volumeMaxDb256 → ∀ volume,
      lastOf config.volumeIn urbs = some volume →
        config.volumeMinDb256 ≤ volume ∧ volume ≤ config.volumeMaxDb256) ∧
    f.gainQ16 = gainOf linear (config.settings urbs).2 ∧
    f.statuses = List.replicate (changes config.settings urbs) featureUnitStatus := by
  intro f
  have hconfig : f.control.config = config := config_run linear (new classDesc config) urbs
  have hsettings : (f.control.mute, f.control.volumeDb) = config.settings urbs :=
    settings_run linear classDesc config urbs
  rw [← hsettings]
  refine ⟨fun urb hasks => ?_, fun urb hasks => ?_, ?_, ?_, ?_⟩
  · exact reply_of_asksMute f.control (by rwa [hconfig])
  · exact reply_of_asksVolume f.control (by rwa [hconfig])
  · exact fun hbounds volume => volume_mem config hbounds
  · exact gainQ16_run linear classDesc config hlinear urbs
  · exact statuses_run linear classDesc config urbs

/-- The gains at no attenuation and at twenty decibels. -/
def twoGains (volumeDb : Int16) : UInt32 := if volumeDb = -5120 then 6554 else 65536

def setVolumeUrb (volumeDb : Int16) : ControlUrb Nat where
  seqnum := 7
  transferBufferLength := 2
  setup := ⟨0x21, ClassRequest.setCur, 0x0200, 0x0200, 2⟩
  owner := none
  trx := ⟨int16Bytes volumeDb, [], 0, 0, false⟩

theorem feature_unit_settled_instance :
    let config : UacDeviceConfig := ⟨true, true, -5120, 0⟩
    let f := (new [] config).run twoGains [setVolumeUrb (-6000), setVolumeUrb (-5120)]
    f.gainQ16 = 6554 ∧ f.statuses = [featureUnitStatus] := by
  obtain ⟨-, -, -, hgain, hstatuses⟩ := feature_unit_settled twoGains [] ⟨true, true, -5120, 0⟩ rfl
    [setVolumeUrb (-6000), setVolumeUrb (-5120)]
  exact ⟨hgain.trans (by decide), hstatuses.trans (by decide)⟩

end AudioControlFunction

end Usbipdcpp.VirtualDevice.Uac
