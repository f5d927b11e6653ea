import Usbipdcpp.MassStorage.TransferSteps

namespace Usbipdcpp.MassStorage

open Foundation.TransitionSystem
open Protocol (BotState)
open MscBulkOnlyHandler

/-- What the handler is about, with the members that still matter for it. -/
inductive Activity where
  | idle
  | sendingMapped (base : UInt64) (total offset : Nat)
  | sendingStaged (data : List UInt8) (offset : Nat)
  | unmapping (count : UInt16) (data : List UInt8)
  | filling (lba count : UInt64) (data : List UInt8)
  | receivingMapped (base : UInt64) (count : UInt16) (accumulated : Nat)
  | receivingStaged (lba : UInt64) (count : UInt16) (data : List UInt8)
  | status (failed : Bool)
  deriving DecidableEq

def Activity.botState : Activity → BotState
  | idle => .idle
  | sendingMapped .. => .dataIn
  | sendingStaged .. => .dataIn
  | unmapping .. => .dataOut
  | filling .. => .dataOut
  | receivingMapped .. => .dataOut
  | receivingStaged .. => .dataOut
  | status _ => .status

def Activity.isUnmapping : Activity → Bool
  | unmapping .. => true
  | _ => false

def Activity.isFilling : Activity → Bool
  | filling .. => true
  | _ => false

/-- The part of the handler that its answers can depend on. -/
structure LiveState (Medium : Type) where
  backend : Option (StorageBackend Medium)
  readOnly : Bool
  config : MscConfig
  medium : Medium
  tag : UInt32
  dataTransferLength : UInt32
  dataResidue : UInt32
  activity : Activity

variable {Medium : Type}

def activity (s : MscBulkOnlyHandler Medium) : Activity :=
  match s.state with
  | .idle => .idle
  | .status => .status s.commandFailed
  | .dataIn =>
      match s.readMmapBase with
      | some base => .sendingMapped base s.readTotalSize s.stagingOffset
      | none => .sendingStaged s.stagingData s.stagingOffset
  | .dataOut =>
      if s.dataOutUnmap then .unmapping s.writeCount s.stagingData
      else if s.dataOutWriteSame then .filling s.writeSameLba s.writeSameCount s.stagingData
      else
        match s.writeMmapBase with
        | some base => .receivingMapped base s.writeCount s.writeAccumulated
        | none => .receivingStaged s.writeLba s.writeCount s.stagingData

def live (s : MscBulkOnlyHandler Medium) : LiveState Medium where
  backend := s.backend
  readOnly := s.readOnly
  config := s.config
  medium := s.medium
  tag := s.currentCbw.tag
  dataTransferLength := s.currentCbw.dataTransferLength
  dataResidue := s.dataResidue
  activity := activity s

/-- A reply as the host sees it: its status, its length and its data. -/
structure Answer where
  status : UInt32
  actualLength : UInt32
  data : List UInt8
  deriving DecidableEq

/-- The bytes that a reply refers to. -/
def ReplySource.bytes (s : MscBulkOnlyHandler Medium) : ReplySource → List UInt8
  | .none => []
  | .staging offset length => (s.stagingData.drop offset).take length
  | .mapped lba offset length =>
      match s.backend with
      | Option.some backend => backend.load s.medium lba offset length
      | Option.none => []
  | .fallback csw => csw.toBytes

def BulkReply.answer (s : MscBulkOnlyHandler Medium) (reply : BulkReply) : Answer where
  status := reply.status
  actualLength := reply.actualLength
  data := reply.source.bytes s

/-- The state behind a transfer, and what the host gets for it. -/
def exchange (s : MscBulkOnlyHandler Medium) (transfer : HostTransfer) :
    Option (MscBulkOnlyHandler Medium × Option Answer) :=
  (s.transfer transfer).map fun p => (p.1, p.2.map fun reply => reply.answer p.1)

/-- The answers to the transfers of a host, up to where the handler does something undefined. -/
def answers (s : MscBulkOnlyHandler Medium) : List HostTransfer → List (Option (Option Answer))
  | [] => []
  | transfer :: transfers =>
      match exchange s transfer with
      | some (t, answer) => some answer :: answers t transfers
      | none => [none]

/-- The members that a command leaves behind without anybody looking at them before the next one
sets them. -/
structure Scratch where
  writeLba : UInt64
  writeCount : UInt16
  writeSameLba : UInt64
  writeSameCount : UInt64
  readLba : UInt64
  stagingOffset : Nat
  accesses : List MediumAccess

def setScratch (x : Scratch) (s : MscBulkOnlyHandler Medium) : MscBulkOnlyHandler Medium :=
  { s with
    writeLba := x.writeLba
    writeCount := x.writeCount
    writeSameLba := x.writeSameLba
    writeSameCount := x.writeSameCount
    readLba := x.readLba
    stagingOffset := x.stagingOffset
    accesses := x.accesses }

section Commands

variable {s t : MscBulkOnlyHandler Medium} {x : Scratch}

theorem live_inquiry : (setScratch x s).inquiry.map live = s.inquiry.map live := by
  have hresponse : (setScratch x s).inquiry =
      (inquiryResponse s.config s.currentCbw).map fun data => (setScratch x s).answer data := rfl
  rw [hresponse, MscBulkOnlyHandler.inquiry, Option.map_map, Option.map_map]
  rfl

theorem live_readCapacity10 :
    (setScratch x s).readCapacity10.map live = s.readCapacity10.map live := by
  rw [MscBulkOnlyHandler.readCapacity10, MscBulkOnlyHandler.readCapacity10, Option.map_map,
    Option.map_map]
  rfl

theorem live_readCapacity16 :
    (setScratch x s).readCapacity16.map live = s.readCapacity16.map live := by
  rw [MscBulkOnlyHandler.readCapacity16, MscBulkOnlyHandler.readCapacity16, Option.map_map,
    Option.map_map]
  rfl

theorem live_read10 {backend : StorageBackend Medium} {lba : UInt32} {count : UInt16} :
    live ((setScratch x s).read10 backend lba count) = live (s.read10 backend lba count) := by
  have hmedium : (setScratch x s).medium = s.medium := rfl
  unfold MscBulkOnlyHandler.read10
  dsimp only
  rw [hmedium]
  split
  next => rfl
  next => rfl

theorem live_write10 {backend : StorageBackend Medium} {lba : UInt32} {count : UInt16}
    (hunmap : s.dataOutUnmap = false) (hwriteSame : s.dataOutWriteSame = false) :
    live ((setScratch x s).write10 backend lba count) = live (s.write10 backend lba count) := by
  simp only [live, activity, MscBulkOnlyHandler.write10, setScratch, hunmap, hwriteSame,
    Bool.false_eq_true, if_false]

theorem live_readWrite10 {cmd : ScsiCmd} (hunmap : s.dataOutUnmap = false)
    (hwriteSame : s.dataOutWriteSame = false) :
    ((setScratch x s).readWrite10 cmd).map live = (s.readWrite10 cmd).map live := by
  have hcbw : (setScratch x s).currentCbw = s.currentCbw := rfl
  have hblocks : (setScratch x s).blockCount = s.blockCount := rfl
  have hreadOnly : (setScratch x s).readOnly = s.readOnly := rfl
  have hbackend : (setScratch x s).backend = s.backend := rfl
  unfold MscBulkOnlyHandler.readWrite10
  rw [hcbw, hblocks, hreadOnly, hbackend]
  dsimp only
  split
  next => rfl
  next =>
    split
    next =>
      rw [Option.map_map, Option.map_map]
      exact congrArg (Option.map · s.backend) (funext fun _ => live_read10)
    next =>
      split
      next => rfl
      next =>
        rw [Option.map_map, Option.map_map]
        exact congrArg (Option.map · s.backend) (funext fun _ => live_write10 hunmap hwriteSame)

theorem live_writeSameBegin {backend : StorageBackend Medium} {lba count : UInt64}
    (hunmap : s.dataOutUnmap = false) :
    live ((setScratch x s).writeSameBegin backend lba count) =
      live (s.writeSameBegin backend lba count) := by
  simp only [live, activity, MscBulkOnlyHandler.writeSameBegin, setScratch, hunmap,
    Bool.false_eq_true, if_false, if_true]

theorem live_writeSame {cmd : ScsiCmd} (hunmap : s.dataOutUnmap = false) :
    ((setScratch x s).writeSame cmd).map live = (s.writeSame cmd).map live := by
  have hcbw : (setScratch x s).currentCbw = s.currentCbw := rfl
  have hblocks : (setScratch x s).blockCount = s.blockCount := rfl
  have hreadOnly : (setScratch x s).readOnly = s.readOnly := rfl
  have hbackend : (setScratch x s).backend = s.backend := rfl
  unfold MscBulkOnlyHandler.writeSame
  rw [hcbw, hblocks, hreadOnly, hbackend]
  dsimp only
  split
  next => rfl
  next =>
    generalize (if writeSameCountOf cmd s.currentCbw = 0 then _ else _) = count
    split
    next => rfl
    next =>
      rw [Option.map_map, Option.map_map]
      refine congrArg (Option.map · s.backend) (funext fun backend => ?_)
      dsimp only [Function.comp_apply]
      split
      next => rfl
      next => exact live_writeSameBegin hunmap

theorem live_unmap : live (setScratch x s).unmap = live s.unmap := by
  have hcbw : (setScratch x s).currentCbw = s.currentCbw := rfl
  have hreadOnly : (setScratch x s).readOnly = s.readOnly := rfl
  unfold MscBulkOnlyHandler.unmap
  rw [hcbw, hreadOnly]
  split
  next => rfl
  next =>
    split
    next => rfl
    next => rfl

/-- No command looks at what an earlier one has left in the scratch members. -/
theorem live_execute (hunmap : s.dataOutUnmap = false) (hwriteSame : s.dataOutWriteSame = false) :
    (setScratch x s).execute.map live = s.execute.map live := by
  have hcommand : (setScratch x s).command = s.command := rfl
  unfold MscBulkOnlyHandler.execute
  rw [hcommand]
  cases s.command with
  | none => rfl
  | some cmd =>
      cases cmd with
      | inquiry => exact live_inquiry
      | readCapacity10 => exact live_readCapacity10
      | readCapacity16 => exact live_readCapacity16
      | read10 => exact live_readWrite10 hunmap hwriteSame
      | write10 => exact live_readWrite10 hunmap hwriteSame
      | writeSame10 => exact live_writeSame hunmap
      | writeSame16 => exact live_writeSame hunmap
      | unmap => exact congrArg some live_unmap
      | _ => rfl

end Commands

section Congruence

variable {s t : MscBulkOnlyHandler Medium} {bytes : List UInt8} {length : Nat}

/-- What two handlers have in common that are live in the same way. -/
structure SameLife (s t : MscBulkOnlyHandler Medium) : Prop where
  backend : t.backend = s.backend
  readOnly : t.readOnly = s.readOnly
  config : t.config = s.config
  medium : t.medium = s.medium
  tag : t.currentCbw.tag = s.currentCbw.tag
  dataTransferLength : t.currentCbw.dataTransferLength = s.currentCbw.dataTransferLength
  dataResidue : t.dataResidue = s.dataResidue
  state : t.state = s.state
  failed : s.state = .status → t.commandFailed = s.commandFailed
  sending : s.state = .dataIn → t.readMmapBase = s.readMmapBase ∧
    t.stagingOffset = s.stagingOffset ∧
    (s.readMmapBase ≠ none → t.readTotalSize = s.readTotalSize) ∧
    (s.readMmapBase = none → t.stagingData = s.stagingData)
  marks : s.state = .dataOut → t.dataOutUnmap = s.dataOutUnmap ∧
    (s.dataOutUnmap = false → t.dataOutWriteSame = s.dataOutWriteSame)
  unmapping : s.state = .dataOut → s.dataOutUnmap = true →
    t.writeCount = s.writeCount ∧ t.stagingData = s.stagingData
  filling : s.state = .dataOut → s.dataOutUnmap = false → s.dataOutWriteSame = true →
    t.writeSameLba = s.writeSameLba ∧ t.writeSameCount = s.writeSameCount ∧
      t.stagingData = s.stagingData
  receiving : s.state = .dataOut → s.dataOutUnmap = false → s.dataOutWriteSame = false →
    t.writeMmapBase = s.writeMmapBase ∧ t.writeCount = s.writeCount ∧
      (s.writeMmapBase ≠ none → t.writeAccumulated = s.writeAccumulated) ∧
      (s.writeMmapBase = none → t.writeLba = s.writeLba ∧ t.stagingData = s.stagingData)

theorem botState_activity : (activity s).botState = s.state := by
  unfold activity
  cases hstate : s.state with
  | idle => rfl
  | status => rfl
  | dataIn =>
      dsimp only
      split <;> rfl
  | dataOut =>
      dsimp only
      split
      next => rfl
      next =>
        split
        next => rfl
        next => split <;> rfl

theorem isUnmapping_activity (hs : s.state = .dataOut) :
    (activity s).isUnmapping = s.dataOutUnmap := by
  simp only [activity, hs]
  split
  next hunmap => exact hunmap.symm
  next hunmap =>
    rw [Bool.eq_false_of_not_eq_true hunmap]
    split
    next => rfl
    next => split <;> rfl

theorem isFilling_activity (hs : s.state = .dataOut) (hunmap : s.dataOutUnmap = false) :
    (activity s).isFilling = s.dataOutWriteSame := by
  simp only [activity, hs, hunmap, Bool.false_eq_true, if_false]
  split
  next hwriteSame => exact hwriteSame.symm
  next hwriteSame =>
    rw [Bool.eq_false_of_not_eq_true hwriteSame]
    split <;> rfl

theorem sending_of_activity (hs : s.state = .dataIn) (ht : t.state = .dataIn)
    (h : activity s = activity t) :
    t.readMmapBase = s.readMmapBase ∧ t.stagingOffset = s.stagingOffset ∧
      (s.readMmapBase ≠ none → t.readTotalSize = s.readTotalSize) ∧
      (s.readMmapBase = none → t.stagingData = s.stagingData) := by
  simp only [activity, hs, ht] at h
  cases hbase : s.readMmapBase with
  | some base =>
      cases hbase' : t.readMmapBase with
      | some base' => simp_all
      | none => simp [hbase, hbase'] at h
  | none =>
      cases hbase' : t.readMmapBase with
      | some base' => simp [hbase, hbase'] at h
      | none => simp_all

theorem receiving_of_activity (hs : s.state = .dataOut) (ht : t.state = .dataOut)
    (hunmap : s.dataOutUnmap = false) (hwriteSame : s.dataOutWriteSame = false)
    (hunmap' : t.dataOutUnmap = false) (hwriteSame' : t.dataOutWriteSame = false)
    (h : activity s = activity t) :
    t.writeMmapBase = s.writeMmapBase ∧ t.writeCount = s.writeCount ∧
      (s.writeMmapBase ≠ none → t.writeAccumulated = s.writeAccumulated) ∧
      (s.writeMmapBase = none → t.writeLba = s.writeLba ∧ t.stagingData = s.stagingData) := by
  simp only [activity, hs, ht, hunmap, hunmap', hwriteSame, hwriteSame', Bool.false_eq_true,
    if_false] at h
  cases hbase : s.writeMmapBase with
  | some base =>
      cases hbase' : t.writeMmapBase with
      | some base' => simp_all
      | none => simp [hbase, hbase'] at h
  | none =>
      cases hbase' : t.writeMmapBase with
      | some base' => simp [hbase, hbase'] at h
      | none => simp_all

theorem sameLife_of_live (h : live s = live t) : SameLife s t := by
  simp only [live, LiveState.mk.injEq] at h
  obtain ⟨hbackend, hreadOnly, hconfig, hmedium, htag, hlength, hresidue, hactivity⟩ := h
  have hstate : t.state = s.state := by
    rw [← botState_activity, ← hactivity, botState_activity]
  have hunmapping (hs : s.state = .dataOut) : t.dataOutUnmap = s.dataOutUnmap := by
    rw [← isUnmapping_activity hs, hactivity, isUnmapping_activity (hstate.trans hs)]
  have hfilling (hs : s.state = .dataOut) (hunmap : s.dataOutUnmap = false) :
      t.dataOutWriteSame = s.dataOutWriteSame := by
    rw [← isFilling_activity hs hunmap, hactivity,
      isFilling_activity (hstate.trans hs) ((hunmapping hs).trans hunmap)]
  refine ⟨hbackend.symm, hreadOnly.symm, hconfig.symm, hmedium.symm, htag.symm, hlength.symm,
    hresidue.symm, hstate, fun hs => ?_, fun hs => ?_, fun hs => ⟨hunmapping hs, hfilling hs⟩,
    fun hs hunmap => ?_, fun hs hunmap hwriteSame => ?_, fun hs hunmap hwriteSame => ?_⟩
  · simp only [activity, hs, hstate.trans hs, Activity.status.injEq] at hactivity
    exact hactivity.symm
  · exact sending_of_activity hs (hstate.trans hs) hactivity
  · simp only [activity, hs, hstate.trans hs, hunmap, (hunmapping hs).trans hunmap, if_true,
      Activity.unmapping.injEq] at hactivity
    exact ⟨hactivity.1.symm, hactivity.2.symm⟩
  · simp only [activity, hs, hstate.trans hs, hunmap, (hunmapping hs).trans hunmap, hwriteSame,
      (hfilling hs hunmap).trans hwriteSame, Bool.false_eq_true, if_false, if_true,
      Activity.filling.injEq] at hactivity
    exact ⟨hactivity.1.symm, hactivity.2.1.symm, hactivity.2.2.symm⟩
  · exact receiving_of_activity hs (hstate.trans hs) hunmap hwriteSame
      ((hunmapping hs).trans hunmap) ((hfilling hs hunmap).trans hwriteSame) hactivity

/-- The members that an idle handler keeps without any use for them. -/
def scratchOf (s : MscBulkOnlyHandler Medium) : Scratch where
  writeLba := s.writeLba
  writeCount := s.writeCount
  writeSameLba := s.writeSameLba
  writeSameCount := s.writeSameCount
  readLba := s.readLba
  stagingOffset := s.stagingOffset
  accesses := s.accesses

/-- Two idle handlers that have loaded the same wrapper differ in nothing else. -/
theorem loadCbw_eq_setScratch {cbw : Cbw} (hs : Settled s) (ht : Settled t) (h : SameLife s t)
    (hstate : s.state = .idle) : t.loadCbw cbw = setScratch (scratchOf t) (s.loadCbw cbw) := by
  have hclean : t.commandFailed = s.commandFailed := by
    rw [hs.clean (by simp [hstate]), ht.clean (by simp [h.state, hstate])]
  have hunmap : t.dataOutUnmap = s.dataOutUnmap := by
    rw [hs.unmap (by simp [hstate]), ht.unmap (by simp [h.state, hstate])]
  have hwriteSame : t.dataOutWriteSame = s.dataOutWriteSame := by
    rw [hs.writeSame (by simp [hstate]), ht.writeSame (by simp [h.state, hstate])]
  simp only [MscBulkOnlyHandler.loadCbw, MscBulkOnlyHandler.clearLast, setScratch, scratchOf,
    h.backend, h.readOnly, h.config, h.medium, h.dataResidue, h.state, hclean, hunmap, hwriteSame]

theorem live_onCommand (hs : Settled s) (ht : Settled t) (h : live s = live t)
    (hstate : s.state = .idle) : (t.onCommand bytes).map live = (s.onCommand bytes).map live := by
  have hlife := sameLife_of_live h
  have hunmap : s.dataOutUnmap = false := hs.unmap (by simp [hstate])
  have hwriteSame : s.dataOutWriteSame = false := hs.writeSame (by simp [hstate])
  unfold MscBulkOnlyHandler.onCommand
  split
  next hlength =>
    dsimp only
    rw [loadCbw_eq_setScratch hs ht hlife hstate]
    split
    next => exact live_execute hunmap hwriteSame
    next => rfl
  next =>
    simp only [live, activity, MscBulkOnlyHandler.fail, MscBulkOnlyHandler.clearLast,
      hlife.backend, hlife.readOnly, hlife.config, hlife.medium, hlife.tag,
      hlife.dataTransferLength, hlife.dataResidue, Option.map_some]

/-- The state behind a data stage that is complete, whatever its data was for. -/
theorem live_status_eq {u v : MscBulkOnlyHandler Medium} (h : SameLife s t) (hu : u.state = .status)
    (hv : v.state = .status) (hfailed : v.commandFailed = u.commandFailed)
    (hus : u.backend = s.backend ∧ u.readOnly = s.readOnly ∧ u.config = s.config ∧
      u.currentCbw = s.currentCbw)
    (hvt : v.backend = t.backend ∧ v.readOnly = t.readOnly ∧ v.config = t.config ∧
      v.currentCbw = t.currentCbw)
    (hmedium : v.medium = u.medium) (hresidue : v.dataResidue = u.dataResidue) :
    live v = live u := by
  simp only [live, activity, hu, hv, hfailed, hus.1, hus.2.1, hus.2.2.1, hus.2.2.2, hvt.1,
    hvt.2.1, hvt.2.2.1, hvt.2.2.2, hmedium, hresidue, h.backend, h.readOnly, h.config, h.tag,
    h.dataTransferLength]

theorem live_onUnmapData (hs : Settled s) (ht : Settled t) (h : live s = live t)
    (hstate : s.state = .dataOut) (hunmap : s.dataOutUnmap = true) :
    t.onUnmapData.map live = s.onUnmapData.map live := by
  have hlife := sameLife_of_live h
  have hclean : t.commandFailed = s.commandFailed := by
    rw [hs.clean (by simp [hstate]), ht.clean (by simp [hlife.state, hstate])]
  obtain ⟨hcount, hdata⟩ := hlife.unmapping hstate hunmap
  unfold MscBulkOnlyHandler.onUnmapData
  rw [hcount, hdata]
  split
  next hfull =>
    rw [Option.map_map, Option.map_map]
    cases hbackend : s.backend with
    | none =>
        rw [foldlM_punchDescriptor_none hbackend,
          foldlM_punchDescriptor_none (hlife.backend.trans hbackend)]
        split
        next =>
          exact congrArg some (live_status_eq hlife rfl rfl hclean ⟨rfl, rfl, rfl, rfl⟩
            ⟨rfl, rfl, rfl, rfl⟩ hlife.medium rfl)
        next => rfl
    | some backend =>
        rw [foldlM_punchDescriptor hbackend,
          foldlM_punchDescriptor (hlife.backend.trans hbackend)]
        exact congrArg some (live_status_eq hlife rfl rfl hclean ⟨rfl, rfl, rfl, rfl⟩
          ⟨rfl, rfl, rfl, rfl⟩
          (congrArg (punchMedium backend (unmapBlockDescriptors s.stagingData)) hlife.medium) rfl)
  next => exact congrArg some h.symm

theorem live_onWriteSameData (hs : Settled s) (ht : Settled t) (h : live s = live t)
    (hstate : s.state = .dataOut) (hunmap : s.dataOutUnmap = false)
    (hwriteSame : s.dataOutWriteSame = true) :
    t.onWriteSameData.map live = s.onWriteSameData.map live := by
  have hlife := sameLife_of_live h
  have hclean : t.commandFailed = s.commandFailed := by
    rw [hs.clean (by simp [hstate]), ht.clean (by simp [hlife.state, hstate])]
  obtain ⟨hlba, hcount, hdata⟩ := hlife.filling hstate hunmap hwriteSame
  unfold MscBulkOnlyHandler.onWriteSameData
  rw [hlife.backend, hdata, hlba, hcount, Option.map_map, Option.map_map]
  refine congrArg (Option.map · s.backend) (funext fun backend => ?_)
  dsimp only [Function.comp_apply]
  split
  next hfull =>
    rw [fillBlocks_eq, fillBlocks_eq]
    exact live_status_eq hlife rfl rfl hclean ⟨rfl, rfl, rfl, rfl⟩ ⟨rfl, rfl, rfl, rfl⟩
      (congrArg (fillMedium backend s.stagingData s.writeSameCount.toNat s.writeSameLba)
        hlife.medium) hlife.dataResidue
  next => exact h.symm

theorem live_onMappedData {base : UInt64} (hs : Settled s) (ht : Settled t) (h : live s = live t)
    (hstate : s.state = .dataOut) (hunmap : s.dataOutUnmap = false)
    (hwriteSame : s.dataOutWriteSame = false) (hbase : s.writeMmapBase = some base) :
    (t.onMappedData length).map live = (s.onMappedData length).map live := by
  have hlife := sameLife_of_live h
  have hclean : t.commandFailed = s.commandFailed := by
    rw [hs.clean (by simp [hstate]), ht.clean (by simp [hlife.state, hstate])]
  obtain ⟨hunmap', hwriteSame'⟩ := hlife.marks hstate
  obtain ⟨hbase', hcount, haccumulated, -⟩ := hlife.receiving hstate hunmap hwriteSame
  have haccumulated := haccumulated (by simp [hbase])
  unfold MscBulkOnlyHandler.onMappedData
  rw [hcount, haccumulated, Option.map_map, Option.map_map, hlife.backend]
  refine congrArg (Option.map · s.backend) (funext fun backend => ?_)
  dsimp only [Function.comp_apply]
  split
  next hfull =>
    exact live_status_eq hlife rfl rfl hclean ⟨rfl, rfl, rfl, rfl⟩
      ⟨hlife.backend.symm, rfl, rfl, rfl⟩ hlife.medium rfl
  next hshort =>
    simp only [live, activity, hlife.state, hstate, hunmap'.trans hunmap, hunmap,
      (hwriteSame' hunmap).trans hwriteSame, hwriteSame, hbase'.trans hbase, hbase,
      hlife.readOnly, hlife.config, hlife.medium, hlife.tag,
      hlife.dataTransferLength, hlife.dataResidue, Bool.false_eq_true, if_false]

theorem live_onStagedData (hs : Settled s) (ht : Settled t) (h : live s = live t)
    (hstate : s.state = .dataOut) (hunmap : s.dataOutUnmap = false)
    (hwriteSame : s.dataOutWriteSame = false) (hbase : s.writeMmapBase = none) :
    t.onStagedData.map live = s.onStagedData.map live := by
  have hlife := sameLife_of_live h
  have hclean : t.commandFailed = s.commandFailed := by
    rw [hs.clean (by simp [hstate]), ht.clean (by simp [hlife.state, hstate])]
  obtain ⟨-, hcount, -, hstaged⟩ := hlife.receiving hstate hunmap hwriteSame
  obtain ⟨hlba, hdata⟩ := hstaged hbase
  unfold MscBulkOnlyHandler.onStagedData
  rw [hlife.backend, hlba, hcount, hdata, Option.map_map, Option.map_map]
  refine congrArg (Option.map · s.backend) (funext fun backend => ?_)
  dsimp only [Function.comp_apply]
  split
  next hfull =>
    exact live_status_eq hlife rfl rfl hclean ⟨rfl, rfl, rfl, rfl⟩ ⟨rfl, rfl, rfl, rfl⟩
      (congrArg (backend.write · s.writeLba s.writeCount s.stagingData) hlife.medium) rfl
  next => exact h.symm

theorem live_onData (hs : Settled s) (ht : Settled t) (h : live s = live t)
    (hstate : s.state = .dataOut) : (t.onData length).map live = (s.onData length).map live := by
  have hlife := sameLife_of_live h
  obtain ⟨hunmap, hwriteSame⟩ := hlife.marks hstate
  unfold MscBulkOnlyHandler.onData
  rw [hunmap]
  split
  next hset => exact live_onUnmapData hs ht h hstate hset
  next hunset =>
    have hunset := Bool.eq_false_of_not_eq_true hunset
    rw [hwriteSame hunset]
    split
    next hset => exact live_onWriteSameData hs ht h hstate hunset hset
    next hunset' =>
      have hunset' := Bool.eq_false_of_not_eq_true hunset'
      rw [(hlife.receiving hstate hunset hunset').1]
      cases hbase : s.writeMmapBase with
      | some base =>
          rw [if_pos (by rfl), if_pos (by rfl)]
          exact live_onMappedData hs ht h hstate hunset hunset' hbase
      | none =>
          rw [if_neg (by simp), if_neg (by simp)]
          exact live_onStagedData hs ht h hstate hunset hunset' hbase

theorem live_onOutDataReceived (hs : Settled s) (ht : Settled t) (h : live s = live t) :
    (t.onOutDataReceived bytes length).map live = (s.onOutDataReceived bytes length).map live := by
  have hstate : t.state = s.state := (sameLife_of_live h).state
  cases hs' : s.state with
  | idle =>
      rw [onOutDataReceived_of_idle hs', onOutDataReceived_of_idle (hstate.trans hs')]
      exact live_onCommand hs ht h hs'
  | dataOut =>
      rw [onOutDataReceived_of_dataOut hs', onOutDataReceived_of_dataOut (hstate.trans hs')]
      exact live_onData hs ht h hs'
  | dataIn =>
      rw [onOutDataReceived_of_other (by simp [hstate.trans hs']) (by simp [hstate.trans hs']),
        onOutDataReceived_of_other (by simp [hs']) (by simp [hs'])]
      exact congrArg some h.symm
  | status =>
      rw [onOutDataReceived_of_other (by simp [hstate.trans hs']) (by simp [hstate.trans hs']),
        onOutDataReceived_of_other (by simp [hs']) (by simp [hs'])]
      exact congrArg some h.symm

theorem writeMmapBase_of_live (hs : Settled s) (ht : Settled t) (h : live s = live t)
    (hstate : s.state = .dataOut) : t.writeMmapBase = s.writeMmapBase := by
  have hlife := sameLife_of_live h
  obtain ⟨hunmap, hwriteSame⟩ := hlife.marks hstate
  cases hset : s.dataOutUnmap with
  | true => rw [hs.unmapped (.inl hset), ht.unmapped (.inl (hunmap.trans hset))]
  | false =>
      cases hset' : s.dataOutWriteSame with
      | true =>
          rw [hs.unmapped (.inr hset'), ht.unmapped (.inr ((hwriteSame hset).trans hset'))]
      | false => exact (hlife.receiving hstate hset hset').1

/-- Data that is gathered in memory grows by what has been received. -/
def Activity.gather (bytes : List UInt8) : Activity → Activity
  | unmapping count data => unmapping count (data ++ bytes)
  | filling lba count data => filling lba count (data ++ bytes)
  | receivingStaged lba count data => receivingStaged lba count (data ++ bytes)
  | other => other

theorem activity_receiveStaged (hstate : s.state = .dataOut) (hbase : s.writeMmapBase = none) :
    activity (s.receiveStaged length bytes) = (activity s).gather (bytes.takeD length 0) := by
  simp only [activity, MscBulkOnlyHandler.receiveStaged, hstate, hbase]
  split
  next => rfl
  next => split <;> rfl

/-- The bytes of a transfer go the same way in both handlers. -/
theorem live_receiveOut (hs : Settled s) (ht : Settled t) (h : live s = live t) (length : Nat)
    (bytes : List UInt8) :
    live (t.receiveOut length bytes).1 = live (s.receiveOut length bytes).1 ∧
      (t.receiveOut length bytes).2 = (s.receiveOut length bytes).2 := by
  have hlife := sameLife_of_live h
  by_cases hstate : s.state = .dataOut
  · have hstate' : t.state = .dataOut := hlife.state.trans hstate
    have hbase := writeMmapBase_of_live hs ht h hstate
    cases hmapped : s.writeMmapBase with
    | some base =>
        have hunmap : s.dataOutUnmap = false := by
          by_contra hset
          rw [hs.unmapped (.inl (by simpa using hset))] at hmapped
          cases hmapped
        have hwriteSame : s.dataOutWriteSame = false := by
          by_contra hset
          rw [hs.unmapped (.inr (by simpa using hset))] at hmapped
          cases hmapped
        have haccumulated : t.writeAccumulated = s.writeAccumulated :=
          (hlife.receiving hstate hunmap hwriteSame).2.2.1 (by simp [hmapped])
        have hlive (u : MscBulkOnlyHandler Medium) : live (u.receiveMapped base length bytes) =
            { live u with medium := (u.receiveMapped base length bytes).medium } := rfl
        rw [receiveOut_of_mapped hstate hmapped, receiveOut_of_mapped hstate' (hbase.trans hmapped)]
        refine ⟨?_, rfl⟩
        dsimp only
        rw [hlive, hlive, h]
        simp only [MscBulkOnlyHandler.receiveMapped, hlife.backend, hlife.medium, haccumulated]
    | none =>
        have hlive (u : MscBulkOnlyHandler Medium) : live (u.receiveStaged length bytes) =
            { live u with activity := activity (u.receiveStaged length bytes) } := rfl
        have hactivity : activity s = activity t := congrArg LiveState.activity h
        rw [receiveOut_of_staged hstate hmapped, receiveOut_of_staged hstate' (hbase.trans hmapped)]
        refine ⟨?_, rfl⟩
        dsimp only
        rw [hlive, hlive, h, activity_receiveStaged hstate hmapped,
          activity_receiveStaged hstate' (hbase.trans hmapped), hactivity]
  · rw [receiveOut_of_not_dataOut hstate,
      receiveOut_of_not_dataOut fun hstate' => hstate (hlife.state.symm.trans hstate')]
    exact ⟨h.symm, rfl⟩

theorem total_of_sending (hlife : SameLife s t) (hstate : s.state = .dataIn) :
    t.total = s.total := by
  obtain ⟨hbase, -, hsize, hdata⟩ := hlife.sending hstate
  unfold MscBulkOnlyHandler.total
  rw [hbase]
  cases hmapped : s.readMmapBase with
  | some base => exact hsize (by simp [hmapped])
  | none => exact congrArg List.length (hdata hmapped)

theorem live_finishDataIn (hclean : t.commandFailed = s.commandFailed) (h : live s = live t)
    (hstate : s.state = .dataIn) : live t.finishDataIn = live s.finishDataIn := by
  have hlife := sameLife_of_live h
  obtain ⟨-, hoffset, -⟩ := hlife.sending hstate
  unfold MscBulkOnlyHandler.finishDataIn
  rw [total_of_sending hlife hstate, hoffset]
  split
  next =>
    exact live_status_eq hlife rfl rfl hclean ⟨rfl, rfl, rfl, rfl⟩ ⟨rfl, rfl, rfl, rfl⟩
      hlife.medium rfl
  next => exact h.symm

theorem live_handOut (h : live s = live t) (hstate : s.state = .dataIn) :
    live (s.handOut length) = live (t.handOut length) := by
  have hlife := sameLife_of_live h
  obtain ⟨hbase, hoffset, hsize, hdata⟩ := hlife.sending hstate
  have hactivity : activity (s.handOut length) = activity (t.handOut length) := by
    simp only [activity, MscBulkOnlyHandler.handOut, hlife.state, hstate, hbase, hoffset]
    cases hmapped : s.readMmapBase with
    | some base => simp only [hsize (by simp [hmapped])]
    | none => simp only [hdata hmapped]
  have hlive (u : MscBulkOnlyHandler Medium) :
      live (u.handOut length) = { live u with activity := activity (u.handOut length) } := rfl
  rw [hlive, hlive, h, hactivity]

theorem bytes_finishDataIn {source : ReplySource} :
    source.bytes s.finishDataIn = source.bytes s := by
  unfold MscBulkOnlyHandler.finishDataIn
  split
  next => cases source <;> rfl
  next => rfl

theorem bytes_dataSource (hlife : SameLife s t) (hstate : s.state = .dataIn) :
    (t.dataSource length).bytes (t.handOut length) =
      (s.dataSource length).bytes (s.handOut length) := by
  obtain ⟨hbase, hoffset, -, hdata⟩ := hlife.sending hstate
  unfold MscBulkOnlyHandler.dataSource
  rw [hbase, hoffset]
  cases hmapped : s.readMmapBase with
  | some base =>
      simp only [ReplySource.bytes, MscBulkOnlyHandler.handOut, hlife.backend, hlife.medium]
  | none => simp only [ReplySource.bytes, MscBulkOnlyHandler.handOut, hdata hmapped]

theorem csw_of_status (hlife : SameLife s t) (hstate : s.state = .status) : t.csw = s.csw := by
  simp only [MscBulkOnlyHandler.csw, hlife.failed hstate, hlife.tag, hlife.dataTransferLength,
    hlife.dataResidue]

/-- An IN transfer gets the same answer from both handlers. -/
theorem live_handleBulkIn (hs : Settled s) (ht : Settled t) (h : live s = live t)
    (transferBufferLength : UInt32) :
    live (t.handleBulkIn transferBufferLength).1 = live (s.handleBulkIn transferBufferLength).1 ∧
      (t.handleBulkIn transferBufferLength).2.answer (t.handleBulkIn transferBufferLength).1 =
        (s.handleBulkIn transferBufferLength).2.answer
          (s.handleBulkIn transferBufferLength).1 := by
  have hlife := sameLife_of_live h
  have hstate' := hlife.state
  unfold MscBulkOnlyHandler.handleBulkIn
  rw [hstate']
  cases hstate : s.state with
  | dataIn =>
      have hclean : t.commandFailed = s.commandFailed := by
        rw [hs.clean (by simp [hstate]), ht.clean (by simp [hstate', hstate])]
      obtain ⟨-, hoffset, -⟩ := hlife.sending hstate
      dsimp only
      rw [total_of_sending hlife hstate, hoffset]
      generalize min transferBufferLength.toNat (s.total - s.stagingOffset) = length
      split
      next =>
        refine ⟨live_finishDataIn hclean (live_handOut h hstate) hstate, ?_⟩
        simp only [BulkReply.answer, bytes_finishDataIn, bytes_dataSource hlife hstate]
      next => exact ⟨live_finishDataIn hclean h hstate, rfl⟩
  | status =>
      constructor
      · simp only [live, activity, hlife.backend, hlife.readOnly, hlife.config, hlife.medium,
          hlife.tag, hlife.dataTransferLength, hlife.dataResidue]
      · simp only [BulkReply.answer, ReplySource.bytes, csw_of_status hlife hstate]
  | idle => exact ⟨h.symm, rfl⟩
  | dataOut => exact ⟨h.symm, rfl⟩

theorem Settled.onOutDataReceived (hs : Settled s)
    (ht : s.onOutDataReceived bytes length = some t) : Settled t :=
  onOutDataReceived_invariant (fun _ _ _ hs hstate ht => hs.onCommand hstate ht)
    (fun _ _ _ hs _ ht => hs.onData ht) hs ht

/-- Data from the host is undefined in both handlers or in none. -/
theorem received_cases (hs : Settled s) (ht : Settled t) (h : live s = live t)
    (bytes : List UInt8) (length : Nat) :
    (s.onOutDataReceived bytes length = none ∧ t.onOutDataReceived bytes length = none) ∨
      ∃ u v, s.onOutDataReceived bytes length = some u ∧
        t.onOutDataReceived bytes length = some v ∧ Settled u ∧ Settled v ∧ live u = live v := by
  have hlive : (t.onOutDataReceived bytes length).map live =
      (s.onOutDataReceived bytes length).map live := live_onOutDataReceived hs ht h
  cases hu : s.onOutDataReceived bytes length with
  | none =>
      rw [hu, Option.map_none, Option.map_eq_none_iff] at hlive
      exact .inl ⟨rfl, hlive⟩
  | some u =>
      rw [hu, Option.map_some] at hlive
      obtain ⟨v, hv, hlive⟩ := Option.map_eq_some_iff.mp hlive
      exact .inr ⟨u, v, rfl, hv, hs.onOutDataReceived hu, ht.onOutDataReceived hv, hlive.symm⟩

/-- A transfer does the same to both handlers, as far as the host can tell. -/
def SameExchange (p q : Option (MscBulkOnlyHandler Medium × Option Answer)) : Prop :=
  (p = none ∧ q = none) ∨
    ∃ u v answer, p = some (u, answer) ∧ q = some (v, answer) ∧ Settled u ∧ Settled v ∧
      live u = live v

theorem exchange_of_live (hs : Settled s) (ht : Settled t) (h : live s = live t)
    (transfer : HostTransfer) : SameExchange (exchange s transfer) (exchange t transfer) := by
  cases transfer with
  | out bytes =>
      obtain ⟨hlive, hfallback⟩ := live_receiveOut hs ht h bytes.length bytes
      simp only [exchange, MscBulkOnlyHandler.transfer, hfallback]
      obtain ⟨hu, hv⟩ | ⟨u, v, hu, hv, hsettled, hsettled', hlive⟩ :=
        received_cases hs.receiveOut ht.receiveOut hlive.symm (s.receiveOut bytes.length bytes).2
          bytes.length
      · rw [hu, hv]
        exact .inl ⟨rfl, rfl⟩
      · rw [hu, hv]
        exact .inr ⟨u, v, _, rfl, rfl, hsettled, hsettled', hlive⟩
  | in_ length =>
      simp only [exchange, MscBulkOnlyHandler.transfer]
      obtain ⟨hu, hv⟩ | ⟨u, v, hu, hv, hsettled, hsettled', hlive⟩ :=
        received_cases hs ht h [] 0
      · rw [hu, hv]
        exact .inl ⟨rfl, rfl⟩
      · obtain ⟨hlive, hanswer⟩ :=
          live_handleBulkIn hsettled hsettled' hlive length
        rw [hu, hv]
        refine .inr ⟨_, _, _, rfl, ?_, hsettled.handleBulkIn, hsettled'.handleBulkIn, hlive.symm⟩
        simp only [Option.map_some, hanswer]
  | undirected bytes epFound =>
      simp only [exchange, MscBulkOnlyHandler.transfer]
      obtain ⟨hu, hv⟩ | ⟨u, v, hu, hv, hsettled, hsettled', hlive⟩ :=
        received_cases hs ht h bytes bytes.length
      · rw [hu, hv]
        exact .inl ⟨rfl, rfl⟩
      · rw [hu, hv]
        cases epFound with
        | true =>
            obtain ⟨hlive, hanswer⟩ :=
              live_handleBulkIn hsettled hsettled' hlive (.ofNat bytes.length)
            refine .inr ⟨_, _, _, rfl, ?_, hsettled.handleBulkIn, hsettled'.handleBulkIn,
              hlive.symm⟩
            simp only [Option.map_some, if_true, hanswer]
        | false => exact .inr ⟨u, v, none, rfl, rfl, hsettled, hsettled', hlive⟩

/-- Handlers that are live in the same way cannot be told apart by any host. -/
theorem answers_of_live (hs : Settled s) (ht : Settled t) (h : live s = live t)
    (transfers : List HostTransfer) : answers s transfers = answers t transfers := by
  induction transfers generalizing s t with
  | nil => rfl
  | cons transfer transfers ih =>
      obtain ⟨hu, hv⟩ | ⟨u, v, answer, hu, hv, hsettled, hsettled', hlive⟩ :=
        exchange_of_live hs ht h transfer
      · rw [answers, answers, hu, hv]
      · rw [answers, answers, hu, hv]
        exact congrArg (List.cons (some answer)) (ih hsettled hsettled' hlive)

end Congruence

section Leftovers

variable {s t : MscBulkOnlyHandler Medium}

theorem putLe32_injective : Function.Injective putLe32 := by
  intro v w h
  rw [← getLe32_putLe32 v [], ← getLe32_putLe32 w [], h]

theorem csw_toBytes_injective {csw csw' : VirtualDevice.Csw} (h : csw.toBytes = csw'.toBytes) :
    csw.tag = csw'.tag ∧ csw.dataResidue = csw'.dataResidue := by
  simp only [VirtualDevice.Csw.toBytes, List.append_assoc] at h
  obtain ⟨-, h⟩ := List.append_inj h rfl
  obtain ⟨htag, h⟩ := List.append_inj h (by simp)
  obtain ⟨hresidue, -⟩ := List.append_inj h (by simp)
  exact ⟨putLe32_injective htag, putLe32_injective hresidue⟩

/-- The bytes of a PREVENT ALLOW MEDIUM REMOVAL command. -/
def preventAllow : List UInt8 := (Cbw.ofCommand 0 0 false [0x1E]).toBytes

theorem answers_preventAllow (hclean : s.commandFailed = false) (hstate : s.state = .idle)
    {length : UInt32} :
    answers s [.out preventAllow, .in_ length] =
      [some (some ⟨Protocol.UrbStatusType.statusOK, 31, []⟩),
        some (some ⟨Protocol.UrbStatusType.statusOK, 13,
          VirtualDevice.Csw.toBytes ⟨0, s.dataResidue, 0⟩⟩)] := by
  have hout : exchange s (.out preventAllow) =
      some ((s.loadCbw (Cbw.ofCommand 0 0 false [0x1E])).pass,
        some ⟨Protocol.UrbStatusType.statusOK, 31, []⟩) := by
    have hlength : Cbw.size ≤ preventAllow.length := (Cbw.length_toBytes _).ge
    have hcbw : Cbw.ofBytes preventAllow hlength = Cbw.ofCommand 0 0 false [0x1E] :=
      Cbw.ofBytes_toBytes _
    have hcommand : s.onCommand preventAllow =
        some (s.loadCbw (Cbw.ofCommand 0 0 false [0x1E])).pass := by
      rw [MscBulkOnlyHandler.onCommand, dif_pos hlength, hcbw]
      rfl
    simp only [exchange, MscBulkOnlyHandler.transfer,
      receiveOut_of_not_dataOut (by simp [hstate] : s.state ≠ .dataOut),
      onOutDataReceived_of_idle hstate, hcommand]
    rfl
  have hin : exchange (s.loadCbw (Cbw.ofCommand 0 0 false [0x1E])).pass (.in_ length) =
      some ({ (s.loadCbw (Cbw.ofCommand 0 0 false [0x1E])).pass with
          commandFailed := false, state := .idle },
        some ⟨Protocol.UrbStatusType.statusOK, 13,
          VirtualDevice.Csw.toBytes ⟨0, s.dataResidue, 0⟩⟩) := by
    have hcsw : (s.loadCbw (Cbw.ofCommand 0 0 false [0x1E])).pass.csw = ⟨0, s.dataResidue, 0⟩ := by
      have hfailed : (s.loadCbw (Cbw.ofCommand 0 0 false [0x1E])).pass.commandFailed = false :=
        hclean
      rw [MscBulkOnlyHandler.csw, hfailed]
      rfl
    rw [← hcsw]
    rfl
  simp only [answers, hout, hin]

/-- An IN transfer that finds the handler idle is a wrapper that is too short. -/
theorem answers_in (hstate : s.state = .idle) {length : UInt32} :
    answers s [.in_ length] =
      [some (some ⟨Protocol.UrbStatusType.statusOK, 13, VirtualDevice.Csw.toBytes
        ⟨s.currentCbw.tag, s.currentCbw.dataTransferLength, 1⟩⟩)] := by
  simp only [answers, exchange, MscBulkOnlyHandler.transfer, onOutDataReceived_of_idle hstate]
  rfl

end Leftovers

/-- A handler between two commands is as good as new to any host if and only if its last wrapper
and its residue are as they are behind `on_new_connection`. -/
theorem history_independent {backend : Option (StorageBackend Medium)} {readOnly : Bool}
    {config : MscConfig} {medium : Medium} {s t : MscBulkOnlyHandler Medium}
    (hs : Reachable (system backend readOnly config medium) s) (hstate : s.state = .idle)
    (hbackend : t.backend = s.backend) (hreadOnly : t.readOnly = s.readOnly)
    (hconfig : t.config = s.config) (hmedium : t.medium = s.medium) :
    (∀ transfers, answers s transfers = answers t.onNewConnection transfers) ↔
      s.currentCbw.tag = 0 ∧ s.currentCbw.dataTransferLength = 0 ∧ s.dataResidue = 0 := by
  have hsettled := settled_of_reachable hs
  constructor
  · intro h
    have hin := h [.in_ 13]
    rw [answers_in hstate, answers_in (by rfl)] at hin
    simp only [List.cons.injEq, Option.some.injEq, Answer.mk.injEq, true_and, and_true] at hin
    have hout := h [.out preventAllow, .in_ 13]
    rw [answers_preventAllow (hsettled.clean (by simp [hstate])) hstate,
      answers_preventAllow (by rfl) (by rfl)] at hout
    simp only [List.cons.injEq, Option.some.injEq, Answer.mk.injEq, true_and, and_true] at hout
    exact ⟨(csw_toBytes_injective hin).1, (csw_toBytes_injective hin).2,
      (csw_toBytes_injective hout).2⟩
  · rintro ⟨htag, hlength, hresidue⟩ transfers
    refine answers_of_live hsettled .reset ?_ transfers
    have hlive : live s = ⟨s.backend, s.readOnly, s.config, s.medium, 0, 0, 0, .idle⟩ := by
      simp only [live, htag, hlength, hresidue, activity, hstate]
    rw [hlive, ← hbackend, ← hreadOnly, ← hconfig, ← hmedium]
    rfl

/-- A command without data that carries the tag 0 leaves nothing behind. -/
theorem history_independent_instance :
    ∃ s : MscBulkOnlyHandler (List UInt8),
      (system (some (memoryBackend 2 2)) false ⟨[], [], [], []⟩ [1, 2, 3, 4]).run
        (create (some (memoryBackend 2 2)) false ⟨[], [], [], []⟩ [1, 2, 3, 4])
        [.transfer (.out (Cbw.ofCommand 0 0 false [0x00]).toBytes), .transfer (.in_ 13)] = some s ∧
      ∀ transfers, answers s transfers =
        answers (create (some (memoryBackend 2 2)) false ⟨[], [], [], []⟩ s.medium).onNewConnection
          transfers := by
  obtain ⟨s, hs, hstate, hbackend, hreadOnly, hconfig, hleft⟩ :
      ∃ s : MscBulkOnlyHandler (List UInt8),
        (system (some (memoryBackend 2 2)) false ⟨[], [], [], []⟩ [1, 2, 3, 4]).run
          (create (some (memoryBackend 2 2)) false ⟨[], [], [], []⟩ [1, 2, 3, 4])
          [.transfer (.out (Cbw.ofCommand 0 0 false [0x00]).toBytes),
            .transfer (.in_ 13)] = some s ∧
        s.state = .idle ∧ some (memoryBackend 2 2) = s.backend ∧ false = s.readOnly ∧
        ⟨[], [], [], []⟩ = s.config ∧
        s.currentCbw.tag = 0 ∧ s.currentCbw.dataTransferLength = 0 ∧ s.dataResidue = 0 :=
    ⟨_, rfl, rfl, rfl, rfl, rfl, rfl, rfl, rfl⟩
  exact ⟨s, hs, (history_independent
    (t := create (some (memoryBackend 2 2)) false ⟨[], [], [], []⟩ s.medium)
    (Reachable.run _ (.initial rfl) hs) hstate hbackend hreadOnly hconfig rfl).mpr hleft⟩

/-- WRITE SAME leaves the residue of a host that has sent two blocks, where a command that passes
without data looks for it. -/
theorem history_dependent :
    ∃ s : MscBulkOnlyHandler (List UInt8),
      (system (some (memoryBackend 2 2)) false ⟨[], [], [], []⟩ [1, 2, 3, 4]).run
        (create (some (memoryBackend 2 2)) false ⟨[], [], [], []⟩ [1, 2, 3, 4])
        [.transfer (.out (Cbw.ofCommand 1 4 false [0x41, 0, 0, 0, 0, 0, 0, 0, 1]).toBytes),
          .transfer (.out [5, 6, 7, 8]), .transfer (.in_ 13)] = some s ∧
      s.state = .idle ∧
      answers s [.out preventAllow, .in_ 13] ≠
        answers (create (some (memoryBackend 2 2)) false ⟨[], [], [], []⟩ s.medium).onNewConnection
          [.out preventAllow, .in_ 13] := by
  obtain ⟨s, hs, hstate, hclean, hresidue⟩ :
      ∃ s : MscBulkOnlyHandler (List UInt8),
        (system (some (memoryBackend 2 2)) false ⟨[], [], [], []⟩ [1, 2, 3, 4]).run
          (create (some (memoryBackend 2 2)) false ⟨[], [], [], []⟩ [1, 2, 3, 4])
          [.transfer (.out (Cbw.ofCommand 1 4 false [0x41, 0, 0, 0, 0, 0, 0, 0, 1]).toBytes),
            .transfer (.out [5, 6, 7, 8]), .transfer (.in_ 13)] = some s ∧
        s.state = .idle ∧ s.commandFailed = false ∧ s.dataResidue = 2 :=
    ⟨_, rfl, rfl, rfl, rfl⟩
  refine ⟨s, hs, hstate, fun hsame => ?_⟩
  have hfresh : (create (some (memoryBackend 2 2)) false ⟨[], [], [], []⟩
      s.medium).onNewConnection.dataResidue = 0 := rfl
  rw [answers_preventAllow hclean hstate, answers_preventAllow (by rfl) (by rfl), hresidue,
    hfresh] at hsame
  exact absurd hsame (by decide)

end Usbipdcpp.MassStorage
