import Usbipdcpp.MassStorage.BulkOnlyHandler

namespace Usbipdcpp.MassStorage

open Protocol (BotState)
open MscBulkOnlyHandler

/-- What the handler is going to do behind a command: the answer at once, data in either direction
first, data that it never has enough of, or something undefined.  Data from the host leaves a
residue that is known beforehand. -/
inductive DataPhase where
  | passed
  | failed
  | toHost (size : Nat)
  | fromHost (size : Nat) (residue : UInt32)
  | stuck
  | undefined
  deriving DecidableEq, Repr

variable {Medium : Type}

def inquirySize (config : MscConfig) (cbw : Cbw) : Nat :=
  if cbw.cdbByte 1 &&& 0x01 = 0 then 36
  else
    match cbw.cdbByte 2 with
    | 0x00 => 8
    | 0x80 => 4 + serialLength config
    | 0xB0 => 64
    | 0xB1 => 64
    | 0xB2 => 8
    | _ => 0

/-- The host asks for more of the page of the serial number than there is. -/
def AsksBeyondPage (config : MscConfig) (cbw : Cbw) : Prop :=
  cbw.cdbByte 1 &&& 0x01 ≠ 0 ∧ cbw.cdbByte 2 = 0x80 ∧
    35 < min cbw.dataTransferLength.toNat (4 + serialLength config)

instance (config : MscConfig) (cbw : Cbw) : Decidable (AsksBeyondPage config cbw) :=
  inferInstanceAs (Decidable (_ ∧ _ ∧ _))

/-- The blocks are there, as far as 32 bits can tell. -/
def InRange10 (s : MscBulkOnlyHandler Medium) : Prop :=
  (lba10 s.currentCbw + (count10 s.currentCbw).toUInt32).toUInt64 ≤ s.blockCount

instance (s : MscBulkOnlyHandler Medium) : Decidable (InRange10 s) :=
  inferInstanceAs (Decidable (_ ≤ _))

def readPhase (s : MscBulkOnlyHandler Medium) : DataPhase :=
  if InRange10 s then
    match s.backend with
    | some backend => .toHost ((count10 s.currentCbw).toNat * backend.blockSize.toNat)
    | none => .undefined
  else .failed

/-- Where the range wraps and the medium is not mapped, the data waits for good. -/
def writePhase (s : MscBulkOnlyHandler Medium) : DataPhase :=
  if InRange10 s ∧ s.readOnly = false then
    match s.backend with
    | some backend =>
        if backend.getDirectBuffer s.medium (lba10 s.currentCbw).toUInt64 = true ∨
            (lba10 s.currentCbw).toUInt64 + (count10 s.currentCbw).toUInt64 ≤
              backend.blockCount then
          .fromHost ((count10 s.currentCbw).toNat * backend.blockSize.toNat) 0
        else .stuck
    | none => .undefined
  else .failed

/-- The blocks of WRITE SAME, all the rest of the medium where the command block names none. -/
def writeSameBlocks (cmd : ScsiCmd) (s : MscBulkOnlyHandler Medium) : UInt64 :=
  if writeSameCountOf cmd s.currentCbw = 0 then
    s.blockCount - writeSameLbaOf cmd s.currentCbw
  else writeSameCountOf cmd s.currentCbw

def WriteSameAllowed (cmd : ScsiCmd) (s : MscBulkOnlyHandler Medium) : Prop :=
  writeSameLbaOf cmd s.currentCbw < s.blockCount ∧ s.readOnly = false ∧
    writeSameBlocks cmd s ≤ s.blockCount - writeSameLbaOf cmd s.currentCbw

instance (cmd : ScsiCmd) (s : MscBulkOnlyHandler Medium) : Decidable (WriteSameAllowed cmd s) :=
  inferInstanceAs (Decidable (_ ∧ _ ∧ _))

def writeSamePhase (cmd : ScsiCmd) (s : MscBulkOnlyHandler Medium) : DataPhase :=
  if WriteSameAllowed cmd s then
    if s.currentCbw.cdbByte 1 &&& 0x08 ≠ 0 then .passed
    else
      match s.backend with
      | some backend =>
          .fromHost backend.blockSize.toNat
            (if backend.blockSize < s.currentCbw.dataTransferLength then
              s.currentCbw.dataTransferLength - backend.blockSize else 0)
      | none => .undefined
  else .failed

def unmapPhase (s : MscBulkOnlyHandler Medium) : DataPhase :=
  if s.readOnly then .failed
  else if s.currentCbw.dataTransferLength = 0 then .passed
  else .fromHost s.currentCbw.dataTransferLength.toUInt16.toNat 0

/-- The data phase of each command. -/
def dataPhase (s : MscBulkOnlyHandler Medium) : DataPhase :=
  let room := s.currentCbw.dataTransferLength.toNat
  match s.command with
  | some .testUnitReady => if s.backend.isSome then .passed else .failed
  | some .requestSense => .toHost (min room 18)
  | some .inquiry =>
      if AsksBeyondPage s.config s.currentCbw then .undefined
      else .toHost (min room (inquirySize s.config s.currentCbw))
  | some .modeSense6 => .toHost (min room 4)
  | some .modeSense10 => .toHost (min room 8)
  | some .readFormatCapacities => .toHost (min room 12)
  | some .readCapacity10 => if s.backend.isSome then .toHost (min room 8) else .undefined
  | some .readCapacity16 => if s.backend.isSome then .toHost (min room 12) else .undefined
  | some .preventAllowMediumRemoval => .passed
  | some .startStopUnit => .passed
  | some .verify10 => .passed
  | some .synchronizeCache => .passed
  | some .read10 => readPhase s
  | some .write10 => writePhase s
  | some .writeSame10 => writeSamePhase .writeSame10 s
  | some .writeSame16 => writeSamePhase .writeSame16 s
  | some .unmap => unmapPhase s
  | some .ataPassThrough => .failed
  | none => .failed

/-- What a command does, in the terms of its data phase. -/
inductive Executed (s : MscBulkOnlyHandler Medium) :
    DataPhase → MscBulkOnlyHandler Medium → Prop
  | passed : Executed s .passed s.pass
  | punched {backend : StorageBackend Medium} {lba count : UInt64}
      (hbackend : s.backend = some backend) (hwritable : s.readOnly = false)
      (hrange : lba.toNat + count.toNat ≤ backend.blockCount.toNat) :
      Executed s .passed (s.punchHole backend lba count).pass
  | failed : Executed s .failed s.fail
  | answered {data : List UInt8} :
      Executed s (.toHost (min s.currentCbw.dataTransferLength.toNat data.length)) (s.answer data)
  | read {backend : StorageBackend Medium} (hbackend : s.backend = some backend)
      (hcommand : s.command = some .read10) (hrange : InRange10 s) :
      Executed s (.toHost ((count10 s.currentCbw).toNat * backend.blockSize.toNat))
        (s.read10 backend (lba10 s.currentCbw) (count10 s.currentCbw))
  | write {backend : StorageBackend Medium} (hbackend : s.backend = some backend)
      (hwritable : s.readOnly = false) :
      Executed s
        (if backend.getDirectBuffer s.medium (lba10 s.currentCbw).toUInt64 = true ∨
            (lba10 s.currentCbw).toUInt64 + (count10 s.currentCbw).toUInt64 ≤
              backend.blockCount then
          .fromHost ((count10 s.currentCbw).toNat * backend.blockSize.toNat) 0
        else .stuck)
        (s.write10 backend (lba10 s.currentCbw) (count10 s.currentCbw))
  | writeSame {backend : StorageBackend Medium} {lba count : UInt64}
      (hbackend : s.backend = some backend) (hwritable : s.readOnly = false)
      (hrange : lba.toNat + count.toNat ≤ backend.blockCount.toNat) :
      Executed s
        (.fromHost backend.blockSize.toNat
          (if backend.blockSize < s.currentCbw.dataTransferLength then
            s.currentCbw.dataTransferLength - backend.blockSize else 0))
        (s.writeSameBegin backend lba count)
  | unmap (hwritable : s.readOnly = false) (hlength : s.currentCbw.dataTransferLength ≠ 0) :
      Executed s (.fromHost s.currentCbw.dataTransferLength.toUInt16.toNat 0) s.unmapBegin

/-- A command leads into its data phase, or has none where it does something undefined. -/
def Leads (s : MscBulkOnlyHandler Medium) (phase : DataPhase)
    (result : Option (MscBulkOnlyHandler Medium)) : Prop :=
  match result with
  | some t => phase ≠ .undefined ∧ Executed s phase t
  | none => phase = .undefined

section Commands

variable {s t : MscBulkOnlyHandler Medium}

theorem leads_answer {data : List UInt8} {size : Nat} (hsize : data.length = size) :
    Leads s (.toHost (min s.currentCbw.dataTransferLength.toNat size)) (some (s.answer data)) := by
  subst hsize
  exact ⟨by simp, .answered⟩

theorem leads_pass : Leads s .passed (some s.pass) := ⟨by simp, .passed⟩

theorem leads_fail : Leads s .failed (some s.fail) := ⟨by simp, .failed⟩

theorem leads_testUnitReady (hclean : s.commandFailed = false) :
    Leads s (if s.backend.isSome then .passed else .failed) (some s.testUnitReady) := by
  unfold MscBulkOnlyHandler.testUnitReady
  split
  next hsome =>
    have hnone : s.backend.isNone = s.commandFailed := by
      rw [hclean, Option.isNone_eq_false_iff]
      exact hsome
    rw [hnone]
    exact leads_pass
  next hnone =>
    have hnone : s.backend.isNone = true := by simpa using hnone
    rw [hnone]
    exact leads_fail

/-- The page of the serial number is sent as far as the host has room for it, if that ends within
the page. -/
theorem leads_unitSerialNumber :
    Leads s
      (if 35 < min s.currentCbw.dataTransferLength.toNat (4 + serialLength s.config) then .undefined
      else .toHost (min s.currentCbw.dataTransferLength.toNat (4 + serialLength s.config)))
      (Option.map (fun data => s.answer data)
        (if min s.currentCbw.dataTransferLength.toNat (4 + serialLength s.config) ≤
            (vpdUnitSerialNumber s.config).length then
          some ((vpdUnitSerialNumber s.config).take (4 + serialLength s.config))
        else none)) := by
  rw [length_vpdUnitSerialNumber]
  by_cases hfits : min s.currentCbw.dataTransferLength.toNat (4 + serialLength s.config) ≤ 35
  · rw [if_pos hfits, if_neg (by omega)]
    refine ⟨by simp, ?_⟩
    have hanswer : Executed s _
        (s.answer ((vpdUnitSerialNumber s.config).take (4 + serialLength s.config))) := .answered
    rw [List.length_take, length_vpdUnitSerialNumber] at hanswer
    have hlength : serialLength s.config ≤ 32 := Nat.min_le_right _ _
    have hmin : min s.currentCbw.dataTransferLength.toNat (min (4 + serialLength s.config) 35) =
        min s.currentCbw.dataTransferLength.toNat (4 + serialLength s.config) := by
      omega
    rw [hmin] at hanswer
    exact hanswer
  · rw [if_neg hfits, if_pos (by omega)]
    rfl

theorem leads_inquiry :
    Leads s
      (if AsksBeyondPage s.config s.currentCbw then .undefined
      else .toHost (min s.currentCbw.dataTransferLength.toNat
        (inquirySize s.config s.currentCbw)))
      s.inquiry := by
  unfold MscBulkOnlyHandler.inquiry inquiryResponse inquirySize AsksBeyondPage
  by_cases hevpd : s.currentCbw.cdbByte 1 &&& 0x01 = 0
  · simp only [hevpd, if_true, ne_eq, not_true_eq_false, false_and, if_false]
    exact leads_answer length_inquiryData
  · simp only [hevpd, if_false, ne_eq, not_false_eq_true, true_and]
    generalize s.currentCbw.cdbByte 2 = page
    by_cases hpage : page = 0x80
    · subst hpage
      simp only [true_and]
      exact leads_unitSerialNumber
    · rw [if_neg fun hbeyond => hpage hbeyond.1]
      split
      next => exact leads_answer rfl
      next => exact absurd rfl hpage
      next => exact leads_answer length_vpdBlockDeviceCharacteristics
      next => exact leads_answer length_vpdBlockLimits
      next => exact leads_answer length_vpdLogicalBlockProvisioning
      next h00 h80 hB0 hB1 hB2 =>
        have hempty : Leads s (.toHost (min s.currentCbw.dataTransferLength.toNat 0))
            (some (s.answer [])) := leads_answer rfl
        grind

theorem leads_readCapacity10 :
    Leads s
      (if s.backend.isSome then .toHost (min s.currentCbw.dataTransferLength.toNat 8)
      else .undefined) s.readCapacity10 := by
  unfold MscBulkOnlyHandler.readCapacity10
  cases s.backend with
  | none => rfl
  | some backend => exact leads_answer length_readCapacity10Data

theorem leads_readCapacity16 :
    Leads s
      (if s.backend.isSome then .toHost (min s.currentCbw.dataTransferLength.toNat 12)
      else .undefined) s.readCapacity16 := by
  unfold MscBulkOnlyHandler.readCapacity16
  cases s.backend with
  | none => rfl
  | some backend =>
      refine leads_answer ?_
      rw [List.length_take, length_readCapacity16Data]
      rfl

theorem leads_read10 (hcommand : s.command = some .read10) :
    Leads s (readPhase s) (s.readWrite10 .read10) := by
  unfold MscBulkOnlyHandler.readWrite10 readPhase
  dsimp only
  by_cases hrange : InRange10 s
  · rw [if_pos hrange, if_neg (UInt64.not_lt.mpr hrange), if_pos rfl]
    cases hbackend : s.backend with
    | none => rfl
    | some backend => exact ⟨by simp, .read hbackend hcommand hrange⟩
  · rw [if_neg hrange, if_pos (UInt64.not_le.mp hrange)]
    exact leads_fail

theorem leads_write10 : Leads s (writePhase s) (s.readWrite10 .write10) := by
  unfold MscBulkOnlyHandler.readWrite10 writePhase
  dsimp only
  have hwrite : ScsiCmd.write10 ≠ .read10 := by decide
  by_cases hrange : InRange10 s
  · rw [if_neg (UInt64.not_lt.mpr hrange), if_neg hwrite]
    cases hreadOnly : s.readOnly with
    | true =>
        rw [if_pos rfl, if_neg (by simp)]
        exact leads_fail
    | false =>
        rw [if_pos ⟨hrange, rfl⟩, if_neg Bool.false_ne_true]
        cases hbackend : s.backend with
        | none => rfl
        | some backend =>
            refine ⟨?_, .write hbackend hreadOnly⟩
            dsimp only
            split
            next => exact DataPhase.noConfusion
            next => exact DataPhase.noConfusion
  · rw [if_neg fun h => hrange h.1, if_pos (UInt64.not_le.mp hrange)]
    exact leads_fail

theorem writeSame_of_not_allowed {cmd : ScsiCmd} (h : ¬WriteSameAllowed cmd s) :
    s.writeSame cmd = some s.fail := by
  unfold MscBulkOnlyHandler.writeSame
  dsimp only
  rw [← writeSameBlocks]
  split
  next hbeyond => rfl
  next hlba =>
    rw [if_pos]
    by_contra hno
    rw [not_or, Bool.not_eq_true, UInt64.not_lt] at hno
    exact h ⟨UInt64.not_le.mp hlba, hno.1, hno.2⟩

theorem writeSame_of_allowed {cmd : ScsiCmd} (h : WriteSameAllowed cmd s) :
    s.writeSame cmd = s.backend.map fun backend =>
      if s.currentCbw.cdbByte 1 &&& 0x08 ≠ 0 then
        (s.punchHole backend (writeSameLbaOf cmd s.currentCbw) (writeSameBlocks cmd s)).pass
      else
        s.writeSameBegin backend (writeSameLbaOf cmd s.currentCbw) (writeSameBlocks cmd s) := by
  obtain ⟨hlba, hwritable, hcount⟩ := h
  have hallows : ¬(s.readOnly = true ∨
      s.blockCount - writeSameLbaOf cmd s.currentCbw < writeSameBlocks cmd s) := by
    rw [not_or, Bool.not_eq_true, UInt64.not_lt]
    exact ⟨hwritable, hcount⟩
  unfold MscBulkOnlyHandler.writeSame
  dsimp only
  rw [← writeSameBlocks, if_neg (UInt64.not_le.mpr hlba), if_neg hallows]

/-- The blocks that WRITE SAME is allowed are there. -/
theorem le_blockCount_of_writeSameAllowed {cmd : ScsiCmd} (h : WriteSameAllowed cmd s) :
    (writeSameLbaOf cmd s.currentCbw).toNat + (writeSameBlocks cmd s).toNat ≤
      s.blockCount.toNat := by
  obtain ⟨hlba, -, hcount⟩ := h
  rw [UInt64.le_iff_toNat_le, UInt64.toNat_sub_of_le _ _ (UInt64.le_of_lt hlba)] at hcount
  rw [UInt64.lt_iff_toNat_lt] at hlba
  omega

theorem leads_writeSame {cmd : ScsiCmd} : Leads s (writeSamePhase cmd s) (s.writeSame cmd) := by
  unfold writeSamePhase
  by_cases hallowed : WriteSameAllowed cmd s
  · rw [if_pos hallowed, writeSame_of_allowed hallowed]
    have hrange := le_blockCount_of_writeSameAllowed hallowed
    obtain ⟨hlba, hwritable, -⟩ := hallowed
    cases hbackend : s.backend with
    | none =>
        have hzero : s.blockCount = 0 := by simp [MscBulkOnlyHandler.blockCount, hbackend]
        rw [hzero] at hlba
        exact absurd hlba UInt64.not_lt_zero
    | some backend =>
        have hsize : s.blockCount = backend.blockCount := by
          simp [MscBulkOnlyHandler.blockCount, hbackend]
        rw [hsize] at hrange
        rw [Option.map_some]
        split
        next hunmap => exact ⟨by simp, .punched hbackend hwritable hrange⟩
        next hfill => exact ⟨by simp, .writeSame hbackend hwritable hrange⟩
  · rw [if_neg hallowed, writeSame_of_not_allowed hallowed]
    exact leads_fail

theorem leads_unmap : Leads s (unmapPhase s) (some s.unmap) := by
  unfold MscBulkOnlyHandler.unmap unmapPhase
  split
  next hreadOnly => exact leads_fail
  next hwritable =>
    split
    next hlength => exact leads_pass
    next hlength => exact ⟨by simp, .unmap (by simpa using hwritable) hlength⟩

/-- Every command leads into the data phase that the table gives it. -/
theorem leads_execute (hclean : s.commandFailed = false) : Leads s (dataPhase s) s.execute := by
  unfold MscBulkOnlyHandler.execute dataPhase
  cases hcommand : s.command with
  | none => exact leads_fail
  | some cmd =>
      cases cmd with
      | testUnitReady => exact leads_testUnitReady hclean
      | requestSense => exact leads_answer rfl
      | inquiry => exact leads_inquiry
      | modeSense6 => exact leads_answer length_modeSense6Data
      | startStopUnit => exact leads_pass
      | preventAllowMediumRemoval => exact leads_pass
      | readFormatCapacities => exact leads_answer length_readFormatCapacitiesData
      | readCapacity10 => exact leads_readCapacity10
      | readCapacity16 => exact leads_readCapacity16
      | read10 => exact leads_read10 hcommand
      | write10 => exact leads_write10
      | verify10 => exact leads_pass
      | synchronizeCache => exact leads_pass
      | writeSame10 => exact leads_writeSame
      | unmap => exact leads_unmap
      | modeSense10 => exact leads_answer length_modeSense10Data
      | ataPassThrough => exact leads_fail
      | writeSame16 => exact leads_writeSame

theorem executed_of_execute (hclean : s.commandFailed = false) (h : s.execute = some t) :
    dataPhase s ≠ .undefined ∧ Executed s (dataPhase s) t := by
  have hleads := leads_execute hclean
  rw [h] at hleads
  exact hleads

theorem execute_eq_none_iff (hclean : s.commandFailed = false) :
    s.execute = none ↔ dataPhase s = .undefined := by
  have hleads := leads_execute hclean
  cases h : s.execute with
  | none =>
      rw [h] at hleads
      exact iff_of_true rfl hleads
  | some t =>
      rw [h] at hleads
      exact iff_of_false (Option.some_ne_none t) hleads.1

end Commands

end Usbipdcpp.MassStorage
