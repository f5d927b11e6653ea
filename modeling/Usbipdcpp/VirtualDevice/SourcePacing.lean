import Mathlib.Data.Nat.ModEq
import Mathlib.Tactic.Ring
import Usbipdcpp.Foundation.TransitionSystem
import Usbipdcpp.VirtualDevice.AudioControl
import Usbipdcpp.VirtualDevice.PacketPlans

namespace Usbipdcpp.VirtualDevice

open Foundation.TransitionSystem Protocol Uac

/-- The bytes that a loop has put into each of the packets it has reached. -/
def sentSizes (written : List (Option UInt32)) : List Nat :=
  written.map fun actualLength => (actualLength.getD 0).toNat

namespace UacAudioStreamingSourceHandler

section Model

variable (handler : UacAudioStreamingSourceHandler)

def updatePacketBytes (fmt : AudioFormatInfo) : UacAudioStreamingSourceHandler :=
  let packetFramesize := fmt.channels.toNat * (fmt.bitsPerSample.toNat / 8)
  let packetInterval := 1000
  let rate := fmt.sampleRate.toNat
  { handler with
    packetFramesize
    packetInterval
    packetBase := packetFramesize * (rate / packetInterval)
    packetResidueStep := packetFramesize * (rate % packetInterval)
    packetResidueAcc := 0 }

/-- Setting 1 also begins the current chunk again, which the next transfer finds in its source. -/
def requestSetInterface (alternateSetting : UInt16) : UacAudioStreamingSourceHandler × UInt32 :=
  if alternateSetting = 0 then ({ handler with streaming := false }, 0)
  else if alternateSetting = 1 then
    ({ handler with streaming := true, packetResidueAcc := 0 }, 0)
  else (handler, UrbStatusType.statusEPIPE)

/-- The length that the next packet is scheduled to have. -/
def dueBytes (acc : Nat) : Nat :=
  if acc + handler.packetResidueStep ≥ handler.packetFramesize * handler.packetInterval then
    handler.packetBase + handler.packetFramesize
  else handler.packetBase

/-- What the next packet leaves of the residue. -/
def residueAfter (acc : Nat) : Nat :=
  if acc + handler.packetResidueStep ≥ handler.packetFramesize * handler.packetInterval then
    acc + handler.packetResidueStep - handler.packetFramesize * handler.packetInterval
  else acc + handler.packetResidueStep

/-- Every packet is at least as long as it is scheduled to be. -/
def HasRoom : Nat → List UsbIpIsoPacketDescriptor → Prop
  | _, [] => True
  | acc, iso :: descs =>
      handler.dueBytes acc ≤ iso.length.toNat ∧ HasRoom (handler.residueAfter acc) descs

end Model

theorem samplePlan_cons (handler : UacAudioStreamingSourceHandler) (acc : Nat)
    (iso : UsbIpIsoPacketDescriptor) (descs : List UsbIpIsoPacketDescriptor) :
    handler.samplePlan acc (iso :: descs) =
      (if min iso.length.toNat (handler.dueBytes acc) = 0 then none
        else some (min iso.length.toNat (handler.dueBytes acc))) ::
          handler.samplePlan (handler.residueAfter acc) descs :=
  rfl

/-- A loop over packets takes the residue on, whatever the packets and the source hold. -/
theorem residue_run_packetLoop (applyVolume : List UInt8 → List UInt8)
    (handler : UacAudioStreamingSourceHandler) (numIsoPackets : Nat)
    (descs : List UsbIpIsoPacketDescriptor) (s : PcmCursor) :
    ((handler.packetLoop applyVolume).run numIsoPackets descs s).2.packetResidueAcc =
      handler.residueAfter^[(descs.take numIsoPackets).length] s.packetResidueAcc := by
  induction descs generalizing numIsoPackets s with
  | nil => cases numIsoPackets <;> rfl
  | cons iso descs ih =>
      cases numIsoPackets with
      | zero => rfl
      | succ n =>
          have hgoes : (handler.packetLoop applyVolume).goesOn s = true := rfl
          have hbody : ((handler.packetLoop applyVolume).body s iso).2.packetResidueAcc =
              handler.residueAfter s.packetResidueAcc := by
            simp only [packetLoop, residueAfter]
            split
            next hframe =>
              dsimp only
              split <;> rfl
            next hframe =>
              dsimp only
              split <;> rfl
          rw [List.take_succ_cons, List.length_cons, Function.iterate_succ_apply, ← hbody,
            PacketLoop.run, if_pos hgoes]
          exact ih n _

/-- The handler paces its packets by the format, whatever its residue is at. -/
structure PacedBy (handler : UacAudioStreamingSourceHandler) (fmt : AudioFormatInfo) : Prop where
  framesize : handler.packetFramesize = fmt.channels.toNat * (fmt.bitsPerSample.toNat / 8)
  interval : handler.packetInterval = 1000
  base : handler.packetBase =
    handler.packetFramesize * (fmt.sampleRate.toNat / handler.packetInterval)
  step : handler.packetResidueStep =
    handler.packetFramesize * (fmt.sampleRate.toNat % handler.packetInterval)

namespace PacedBy

variable {handler : UacAudioStreamingSourceHandler} {fmt : AudioFormatInfo}
  (hpaced : handler.PacedBy fmt)

include hpaced

/-- A frame more is due where the remainders of the rate add up to one. -/
theorem full_iff (hframe : 0 < handler.packetFramesize) (n : Nat) :
    handler.packetFramesize * (n * fmt.sampleRate.toNat % handler.packetInterval) +
        handler.packetResidueStep ≥ handler.packetFramesize * handler.packetInterval ↔
      handler.packetInterval ≤ n * fmt.sampleRate.toNat % handler.packetInterval +
        fmt.sampleRate.toNat % handler.packetInterval := by
  rw [hpaced.step, ← Nat.mul_add]
  exact Nat.mul_le_mul_left_iff hframe

theorem dueBytes_eq (n : Nat) :
    handler.packetFramesize * (n * fmt.sampleRate.toNat / handler.packetInterval) +
        handler.dueBytes
          (handler.packetFramesize * (n * fmt.sampleRate.toNat % handler.packetInterval)) =
      handler.packetFramesize * ((n + 1) * fmt.sampleRate.toNat / handler.packetInterval) := by
  have hinterval : 0 < handler.packetInterval := hpaced.interval ▸ Nat.succ_pos 999
  rcases Nat.eq_zero_or_pos handler.packetFramesize with hnone | hframe
  · simp [dueBytes, hpaced.base, hnone]
  · unfold dueBytes
    rw [Nat.succ_mul, Nat.add_div hinterval, hpaced.base]
    by_cases hfull : handler.packetInterval ≤ n * fmt.sampleRate.toNat % handler.packetInterval +
        fmt.sampleRate.toNat % handler.packetInterval
    · rw [if_pos ((hpaced.full_iff hframe n).mpr hfull), if_pos hfull]
      ring
    · rw [if_neg (mt (hpaced.full_iff hframe n).mp hfull), if_neg hfull]
      ring

theorem residueAfter_eq (n : Nat) :
    handler.residueAfter
        (handler.packetFramesize * (n * fmt.sampleRate.toNat % handler.packetInterval)) =
      handler.packetFramesize * ((n + 1) * fmt.sampleRate.toNat % handler.packetInterval) := by
  rcases Nat.eq_zero_or_pos handler.packetFramesize with hnone | hframe
  · simp [residueAfter, hpaced.step, hnone]
  · unfold residueAfter
    rw [Nat.succ_mul, Nat.add_mod_eq_ite]
    by_cases hfull : handler.packetInterval ≤ n * fmt.sampleRate.toNat % handler.packetInterval +
        fmt.sampleRate.toNat % handler.packetInterval
    · rw [if_pos ((hpaced.full_iff hframe n).mpr hfull), if_pos hfull, hpaced.step,
        ← Nat.mul_add, ← Nat.mul_sub]
    · rw [if_neg (mt (hpaced.full_iff hframe n).mp hfull), if_neg hfull, hpaced.step,
        ← Nat.mul_add]

theorem dvd_dueBytes (acc : Nat) : handler.packetFramesize ∣ handler.dueBytes acc := by
  have hbase : handler.packetFramesize ∣ handler.packetBase := hpaced.base ▸ Nat.dvd_mul_right _ _
  unfold dueBytes
  split
  · exact Nat.dvd_add_self_right.mpr hbase
  · exact hbase

theorem iterate_residueAfter (n count : Nat) :
    handler.residueAfter^[count]
        (handler.packetFramesize * (n * fmt.sampleRate.toNat % handler.packetInterval)) =
      handler.packetFramesize *
        ((n + count) * fmt.sampleRate.toNat % handler.packetInterval) := by
  induction count with
  | zero => rfl
  | succ count ih => rw [Function.iterate_succ_apply', ih, hpaced.residueAfter_eq, Nat.add_assoc]

/-- Packets with room for what is due get it: whole frames, as many as the intervals are worth. -/
theorem sentSizes_samplePlan (n : Nat) (descs : List UsbIpIsoPacketDescriptor)
    (hroom : handler.HasRoom
      (handler.packetFramesize * (n * fmt.sampleRate.toNat % handler.packetInterval)) descs) :
    let sizes := sentSizes (handler.samplePlan
      (handler.packetFramesize * (n * fmt.sampleRate.toNat % handler.packetInterval)) descs).written
    (∀ size ∈ sizes, handler.packetFramesize ∣ size) ∧
      handler.packetFramesize * (n * fmt.sampleRate.toNat / handler.packetInterval) + sizes.sum =
        handler.packetFramesize *
          ((n + descs.length) * fmt.sampleRate.toNat / handler.packetInterval) := by
  induction descs generalizing n with
  | nil => exact ⟨nofun, rfl⟩
  | cons iso descs ih =>
      obtain ⟨hfits, hrest⟩ := hroom
      rw [hpaced.residueAfter_eq] at hrest
      obtain ⟨hwhole, hsum⟩ := ih (n + 1) hrest
      have hdue := hpaced.dueBytes_eq n
      have hlength := iso.length.toNat_lt
      have hhead : sentSizes (handler.samplePlan
          (handler.packetFramesize * (n * fmt.sampleRate.toNat % handler.packetInterval))
            (iso :: descs)).written =
          handler.dueBytes
              (handler.packetFramesize * (n * fmt.sampleRate.toNat % handler.packetInterval)) ::
            sentSizes (handler.samplePlan (handler.packetFramesize *
              ((n + 1) * fmt.sampleRate.toNat % handler.packetInterval)) descs).written := by
        rw [samplePlan_cons, hpaced.residueAfter_eq, Nat.min_eq_right hfits]
        refine congrArg (· :: _) ?_
        split
        next hnone => exact hnone.symm
        next => exact UInt32.toNat_ofNat_of_lt' (lt_of_le_of_lt hfits hlength)
      dsimp only
      rw [hhead]
      refine ⟨List.forall_mem_cons.mpr ⟨hpaced.dvd_dueBytes _, hwhole⟩, ?_⟩
      rw [List.sum_cons, ← Nat.add_assoc, hdue, hsum, List.length_cons, Nat.add_assoc,
        Nat.add_comm 1]

end PacedBy

end UacAudioStreamingSourceHandler

/-- What concerns the pacing of a microphone: a sampling rate that its source has taken, an
alternate setting, and a transfer with what its packets find in the source. -/
inductive SourceEvent where
  | setSamplingFreq (fmt : AudioFormatInfo)
  | setInterface (alternateSetting : UInt16)
  | processIsoIn (applyVolume : List UInt8 → List UInt8) (source : PcmSource)
      (trx : GenericTransfer) (numIsoPackets : Nat)

/-- The handler of a microphone with the format it was last paced for, and the bytes sent in each
packet since the residue was last cleared. -/
structure PacedSource where
  fmt : AudioFormatInfo
  handler : UacAudioStreamingSourceHandler
  sizes : List Nat

namespace PacedSource

/-- The handler as a transfer finds it. -/
def served (p : PacedSource) (source : PcmSource) : UacAudioStreamingSourceHandler :=
  { p.handler with source }

def step (p : PacedSource) : SourceEvent → PacedSource
  | .setSamplingFreq fmt => ⟨fmt, p.handler.updatePacketBytes fmt, []⟩
  | .setInterface alternateSetting =>
      { p with
        handler := (p.handler.requestSetInterface alternateSetting).1
        sizes := if alternateSetting = 1 then [] else p.sizes }
  | .processIsoIn applyVolume source trx numIsoPackets =>
      let (handler, filled) :=
        (p.served source).processIsoIn trx numIsoPackets applyVolume
      { p with
        handler
        sizes := p.sizes ++ sentSizes (filled.elim [] FilledPackets.written) }

/-- A run begins with a handler that has just been made for the format of its source. -/
def system : System PacedSource SourceEvent where
  initial p := ∃ handler : UacAudioStreamingSourceHandler,
    p.handler = handler.updatePacketBytes p.fmt ∧ p.sizes = []
  step p event := some (p.step event)

/-- The packets of a transfer are at least as long as they are scheduled to be. -/
def HasRoom (p : PacedSource) : SourceEvent → Prop
  | .processIsoIn _ source trx numIsoPackets =>
      (p.served source).HasRoom p.handler.packetResidueAcc (trx.isoDescriptors.take numIsoPackets)
  | _ => True

/-- What the pacing keeps: the residue is what the packets so far have left of a frame, and they
have got the frames that their intervals are worth. -/
structure OnSchedule (p : PacedSource) : Prop where
  paced : p.handler.PacedBy p.fmt
  residue : p.handler.packetResidueAcc = p.handler.packetFramesize *
    (p.sizes.length * p.fmt.sampleRate.toNat % p.handler.packetInterval)
  whole : ∀ size ∈ p.sizes, p.handler.packetFramesize ∣ size
  total : p.sizes.sum = p.handler.packetFramesize *
    (p.sizes.length * p.fmt.sampleRate.toNat / p.handler.packetInterval)

theorem onSchedule_reset {p : PacedSource} (hpaced : p.handler.PacedBy p.fmt)
    (hresidue : p.handler.packetResidueAcc = 0) (hsizes : p.sizes = []) : p.OnSchedule where
  paced := hpaced
  residue := by simp [hresidue, hsizes]
  whole := by simp [hsizes]
  total := by simp [hsizes]

theorem OnSchedule.setInterface {p : PacedSource} (h : p.OnSchedule) (alternateSetting : UInt16) :
    (p.step (.setInterface alternateSetting)).OnSchedule := by
  obtain ⟨hpaced, hresidue, hwhole, htotal⟩ := h
  unfold step UacAudioStreamingSourceHandler.requestSetInterface
  by_cases hstart : alternateSetting = 1
  · have hnotStop : ¬alternateSetting = 0 := hstart ▸ by decide
    simp only [if_neg hnotStop, if_pos hstart]
    exact onSchedule_reset ⟨hpaced.1, hpaced.2, hpaced.3, hpaced.4⟩ rfl rfl
  · simp only [if_neg hstart]
    by_cases hstop : alternateSetting = 0
    · simp only [if_pos hstop]
      exact ⟨⟨hpaced.1, hpaced.2, hpaced.3, hpaced.4⟩, hresidue, hwhole, htotal⟩
    · simp only [if_neg hstop]
      exact ⟨hpaced, hresidue, hwhole, htotal⟩

theorem length_sentSizes_samplePlan (handler : UacAudioStreamingSourceHandler) (acc : Nat)
    (descs : List UsbIpIsoPacketDescriptor) :
    (sentSizes (handler.samplePlan acc descs).written).length = descs.length := by
  unfold sentSizes PacketPlan.written
  rw [List.length_map, List.length_map]
  induction descs generalizing acc with
  | nil => rfl
  | cons iso descs ih =>
      rw [UacAudioStreamingSourceHandler.samplePlan_cons, List.length_cons, ih, List.length_cons]

theorem OnSchedule.processIsoIn {p : PacedSource} (h : p.OnSchedule)
    (applyVolume : List UInt8 → List UInt8) (source : PcmSource) (trx : GenericTransfer)
    (numIsoPackets : Nat) (hroom : p.HasRoom (.processIsoIn applyVolume source trx numIsoPackets)) :
    (p.step (.processIsoIn applyVolume source trx numIsoPackets)).OnSchedule := by
  obtain ⟨hpaced, hresidue, hwhole, htotal⟩ := h
  have hserved : (p.served source).PacedBy p.fmt := ⟨hpaced.1, hpaced.2, hpaced.3, hpaced.4⟩
  have hroom : (p.served source).HasRoom (p.served source).packetResidueAcc
      (trx.isoDescriptors.take numIsoPackets) := hroom
  have hresidue : (p.served source).packetResidueAcc = (p.served source).packetFramesize *
      (p.sizes.length * p.fmt.sampleRate.toNat % (p.served source).packetInterval) := hresidue
  have hwritten := UacAudioStreamingSourceHandler.run_packetLoop applyVolume (p.served source)
    numIsoPackets trx.isoDescriptors ⟨trx.data, (p.served source).packetResidueAcc, source⟩
  have hacc := UacAudioStreamingSourceHandler.residue_run_packetLoop applyVolume (p.served source)
    numIsoPackets trx.isoDescriptors ⟨trx.data, (p.served source).packetResidueAcc, source⟩
  have hcount := length_sentSizes_samplePlan (p.served source)
    (p.served source).packetResidueAcc (trx.isoDescriptors.take numIsoPackets)
  dsimp only at hwritten hacc
  rw [hresidue] at hroom hwritten hacc hcount
  obtain ⟨hsent, hsum⟩ := hserved.sentSizes_samplePlan p.sizes.length _ hroom
  rw [hserved.iterate_residueAfter] at hacc
  rw [← hwritten, ← hresidue] at hcount hsent hsum
  rw [← hresidue] at hacc
  refine ⟨⟨hpaced.1, hpaced.2, hpaced.3, hpaced.4⟩, ?_, ?_, ?_⟩
  · refine hacc.trans ?_
    rw [← hcount, ← List.length_append]
    rfl
  · exact List.forall_mem_append.mpr ⟨hwhole, hsent⟩
  · refine List.sum_append.trans ?_
    rw [htotal]
    refine hsum.trans ?_
    rw [← hcount, ← List.length_append]
    rfl

/-- A microphone with two channels of 16 bits at 44100 samples a second. -/
def microphone : PacedSource where
  fmt := ⟨2, 16, 44100⟩
  handler := UacAudioStreamingSourceHandler.updatePacketBytes
    ⟨true, 0, 0, 0, 0, 0, ⟨false, [], []⟩⟩ ⟨2, 16, 44100⟩
  sizes := []

end PacedSource

end Usbipdcpp.VirtualDevice
