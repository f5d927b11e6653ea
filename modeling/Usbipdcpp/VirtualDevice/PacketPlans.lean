import Usbipdcpp.VirtualDevice.IsochronousReplies

namespace Usbipdcpp.VirtualDevice

open Protocol

/-- How many bytes the packets of a transfer are to get, in order; `none` leaves a packet alone. -/
abbrev PacketPlan := List (Option Nat)

namespace PacketPlan

def total (plan : PacketPlan) : Nat :=
  (plan.map fun size => size.getD 0).sum

/-- The packets that get something, with its size. -/
def filled : PacketPlan → List UsbIpIsoPacketDescriptor → List (UsbIpIsoPacketDescriptor × Nat)
  | some size :: plan, iso :: descs => (iso, size) :: filled plan descs
  | none :: plan, _ :: descs => filled plan descs
  | _, _ => []

/-- The packets that are left alone, or lie behind the plan. -/
def leftAlone : PacketPlan → List UsbIpIsoPacketDescriptor → List UsbIpIsoPacketDescriptor
  | some _ :: plan, _ :: descs => leftAlone plan descs
  | none :: plan, iso :: descs => iso :: leftAlone plan descs
  | [], descs => descs
  | _, [] => []

/-- The lengths that a handler which follows the plan leaves in the packets. -/
def written (plan : PacketPlan) : List (Option UInt32) :=
  plan.map (Option.map UInt32.ofNat)

/-- Every size fits the field that it is written to. -/
def Writable (plan : PacketPlan) : Prop :=
  ∀ size ∈ plan, size.getD 0 < 2 ^ 32

theorem Writable.of_cons {size : Option Nat} {plan : PacketPlan}
    (h : Writable (size :: plan)) : size.getD 0 < 2 ^ 32 ∧ plan.Writable :=
  List.forall_mem_cons.mp h

theorem bytesWritten_written {plan : PacketPlan} (h : plan.Writable) :
    bytesWritten plan.written = plan.total := by
  have hsizes : ∀ size ∈ plan, ((Option.map UInt32.ofNat size).getD 0).toNat = size.getD 0 := by
    intro size hsize
    cases size with
    | none => rfl
    | some n =>
        have hfits : n < 2 ^ 32 := h _ hsize
        change (UInt32.ofNat n).toNat = n
        rw [UInt32.toNat_ofNat', Nat.mod_eq_of_lt hfits]
  unfold bytesWritten written total
  rw [List.map_map]
  exact congrArg List.sum (List.map_congr_left hsizes)

theorem bytesLeft_written (plan : PacketPlan) (descs : List UsbIpIsoPacketDescriptor) :
    bytesLeft plan.written descs = packetBytes (plan.leftAlone descs) := by
  fun_induction leftAlone plan descs with
  | case1 size plan iso descs ih => exact ih
  | case2 plan iso descs ih =>
      rw [packetBytes_cons, ← ih]
      rfl
  | case3 descs => cases descs <;> rfl
  | case4 plan hplan =>
      cases plan with
      | nil => exact absurd rfl hplan
      | cons size plan => cases size <;> rfl

end PacketPlan

namespace UvcVideoStreamingHandler

/-- The rest of a frame, spread over the packets: as much video as there is room for behind the
header of each, until none is left. -/
def framePlan (remaining : Nat) : List UsbIpIsoPacketDescriptor → PacketPlan
  | [] => []
  | iso :: descs =>
      if remaining = 0 then []
      else if iso.length.toNat < payloadHeaderSize then some 0 :: framePlan remaining descs
      else
        some (payloadHeaderSize + min (iso.length.toNat - payloadHeaderSize) remaining) ::
          framePlan (remaining - (iso.length.toNat - payloadHeaderSize)) descs

theorem writable_framePlan (remaining : Nat) (descs : List UsbIpIsoPacketDescriptor) :
    (framePlan remaining descs).Writable := by
  fun_induction framePlan remaining descs with
  | case1 remaining => exact nofun
  | case2 iso descs => exact nofun
  | case3 remaining iso descs hsome hshort ih => exact List.forall_mem_cons.mpr ⟨by decide, ih⟩
  | case4 remaining iso descs hsome hlong ih =>
      have hlength := iso.length.toNat_lt
      refine List.forall_mem_cons.mpr ⟨?_, ih⟩
      rw [Option.getD_some]
      omega

theorem run_packetLoop (handler : UvcVideoStreamingHandler) (numIsoPackets : Nat)
    (descs : List UsbIpIsoPacketDescriptor) (s : FrameCursor) :
    (handler.packetLoop.run numIsoPackets descs s).1 =
      (framePlan (handler.frameBuffer.length - s.frameOffset)
        (descs.take numIsoPackets)).written := by
  induction descs generalizing numIsoPackets s with
  | nil => cases numIsoPackets <;> rfl
  | cons iso descs ih =>
      cases numIsoPackets with
      | zero => rfl
      | succ n =>
          rw [List.take_succ_cons, framePlan, PacketLoop.run]
          by_cases hdone : handler.frameBuffer.length - s.frameOffset = 0
          · have hends : ¬handler.packetLoop.goesOn s = true := by
              simp only [packetLoop, hdone, decide_eq_true_eq, Nat.lt_irrefl, not_false_eq_true]
            rw [if_pos hdone, if_neg hends]
            rfl
          · have hgoes : handler.packetLoop.goesOn s = true := by
              simp only [packetLoop, decide_eq_true_eq]
              omega
            rw [if_neg hdone, if_pos hgoes]
            dsimp only
            rw [ih]
            by_cases hshort : iso.length.toNat < payloadHeaderSize
            · rw [if_pos hshort]
              simp only [packetLoop, if_pos hshort]
              rfl
            · have hrest : handler.frameBuffer.length -
                  (s.frameOffset + min (iso.length.toNat - payloadHeaderSize)
                    (handler.frameBuffer.length - s.frameOffset)) =
                  handler.frameBuffer.length - s.frameOffset -
                    (iso.length.toNat - payloadHeaderSize) := by
                omega
              rw [if_neg hshort]
              simp only [packetLoop, if_neg hshort, hrest]
              rfl

/-- The plan of a transfer: no packet between two frames, the frame otherwise; `none` is a
stall. -/
def plan (trx : GenericTransfer) (numIsoPackets : Nat) (now : Int)
    (getFrame : Option (List UInt8)) (handler : UvcVideoStreamingHandler) : Option PacketPlan :=
  if !handler.streaming || !handler.committed then none
  else if handler.frameInterval > 0 ∧ handler.frameOffset = 0 ∧
      now < handler.frameStartedAt + handler.frameInterval then
    some []
  else
    (handler.nextFrame now getFrame).map fun next =>
      framePlan (next.frameBuffer.length - next.frameOffset)
        (trx.isoDescriptors.take numIsoPackets)

section

variable {trx : GenericTransfer} {numIsoPackets : Nat} {now : Int}
  {getFrame : Option (List UInt8)} {handler : UvcVideoStreamingHandler}

/-- The handler follows its plan. -/
theorem written_fillPackets :
    (handler.fillPackets trx numIsoPackets now getFrame).2.map FilledPackets.written =
      (handler.plan trx numIsoPackets now getFrame).map PacketPlan.written := by
  unfold fillPackets plan
  split
  next => rfl
  next =>
    split
    next => rfl
    next =>
      cases handler.nextFrame now getFrame with
      | none => rfl
      | some next => exact congrArg some (run_packetLoop next _ _ ⟨trx.data, next.frameOffset⟩)

theorem writable_plan : ∀ plan ∈ handler.plan trx numIsoPackets now getFrame, plan.Writable := by
  unfold plan
  split
  next => exact nofun
  next =>
    split
    next =>
      rintro plan ⟨rfl⟩
      exact nofun
    next =>
      intro plan hplan
      obtain ⟨next, -, rfl⟩ := Option.map_eq_some_iff.mp hplan
      exact writable_framePlan _ _

end

end UvcVideoStreamingHandler

namespace UacAudioStreamingSourceHandler

/-- The samples that the packets have room for, a frame more in those where the residue adds up to
one; a packet that gets none is left alone. -/
def samplePlan (handler : UacAudioStreamingSourceHandler) :
    Nat → List UsbIpIsoPacketDescriptor → PacketPlan
  | _, [] => []
  | acc, iso :: descs =>
      let threshold := handler.packetFramesize * handler.packetInterval
      let acc := acc + handler.packetResidueStep
      let due := if acc ≥ threshold then handler.packetBase + handler.packetFramesize
        else handler.packetBase
      let want := min iso.length.toNat due
      (if want = 0 then none else some want) ::
        handler.samplePlan (if acc ≥ threshold then acc - threshold else acc) descs

theorem writable_samplePlan (handler : UacAudioStreamingSourceHandler) (acc : Nat)
    (descs : List UsbIpIsoPacketDescriptor) : (handler.samplePlan acc descs).Writable := by
  induction descs generalizing acc with
  | nil => exact nofun
  | cons iso descs ih =>
      have hlength := iso.length.toNat_lt
      have hsize (want : Nat) : (if want = 0 then none else some want).getD 0 = want := by
        split
        next hnone => exact hnone.symm
        next => rfl
      refine List.forall_mem_cons.mpr ⟨?_, ih _⟩
      rw [hsize]
      exact lt_of_le_of_lt (Nat.min_le_left _ _) hlength

theorem run_packetLoop (applyVolume : List UInt8 → List UInt8)
    (handler : UacAudioStreamingSourceHandler) (numIsoPackets : Nat)
    (descs : List UsbIpIsoPacketDescriptor) (s : PcmCursor) :
    ((handler.packetLoop applyVolume).run numIsoPackets descs s).1 =
      (handler.samplePlan s.packetResidueAcc (descs.take numIsoPackets)).written := by
  induction descs generalizing numIsoPackets s with
  | nil => cases numIsoPackets <;> rfl
  | cons iso descs ih =>
      cases numIsoPackets with
      | zero => rfl
      | succ n =>
          have hgoes : (handler.packetLoop applyVolume).goesOn s = true := rfl
          rw [List.take_succ_cons, samplePlan, PacketLoop.run, if_pos hgoes]
          dsimp only
          rw [ih]
          simp only [packetLoop]
          split
          next hframe =>
            dsimp only
            split <;> rfl
          next hframe =>
            dsimp only
            split <;> rfl

/-- The plan of a transfer; `none` is a stall. -/
def plan (trx : GenericTransfer) (numIsoPackets : Nat) (handler : UacAudioStreamingSourceHandler) :
    Option PacketPlan :=
  if handler.streaming then
    some (handler.samplePlan handler.packetResidueAcc (trx.isoDescriptors.take numIsoPackets))
  else none

section

variable {trx : GenericTransfer} {numIsoPackets : Nat} {applyVolume : List UInt8 → List UInt8}
  {handler : UacAudioStreamingSourceHandler}

/-- The handler follows its plan. -/
theorem written_fillPackets :
    (handler.fillPackets trx numIsoPackets applyVolume).2.map FilledPackets.written =
      (handler.plan trx numIsoPackets).map PacketPlan.written := by
  unfold fillPackets plan
  split
  next =>
    exact congrArg some (run_packetLoop applyVolume handler _ _
      ⟨trx.data, handler.packetResidueAcc, handler.source⟩)
  next => rfl

theorem writable_plan : ∀ plan ∈ handler.plan trx numIsoPackets, plan.Writable := by
  unfold plan
  split
  next =>
    rintro plan ⟨rfl⟩
    exact writable_samplePlan handler _ _
  next => exact nofun

end

end UacAudioStreamingSourceHandler

end Usbipdcpp.VirtualDevice
