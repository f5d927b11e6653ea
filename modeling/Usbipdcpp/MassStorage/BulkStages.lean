import Usbipdcpp.Foundation.Lockstep
import Usbipdcpp.MassStorage.TransferSteps

namespace Usbipdcpp.MassStorage

open Foundation.TransitionSystem
open Foundation.Lockstep
open Protocol (BotState)
open VirtualDevice (Csw)
open MscBulkOnlyHandler

variable {Medium : Type}

/-- How a wrapper is answered whose command has passed, and how one whose command has failed. -/
def Cbw.passedCsw (cbw : Cbw) (residue : UInt32) : Csw := ⟨cbw.tag, residue, 0⟩

def Cbw.failedCsw (cbw : Cbw) : Csw := ⟨cbw.tag, cbw.dataTransferLength, 1⟩

/-- Where a command is between its wrapper and its status, in sizes alone.  Data from the host is
gathered until there is as much as is needed, if that is ever enough; without a backend it can be
gathered, but not a whole block descriptor of it used. -/
inductive Stage where
  | idle
  | status (csw : Csw)
  | sending (left : Nat)
  | collecting (needed : Option Nat) (gathered : Nat) (residue : UInt32) (backed : Bool)
  deriving DecidableEq

/-- How an IN transfer is answered. -/
inductive StageReply where
  | data (length : Nat)
  | csw (csw : Csw)
  | stall
  deriving DecidableEq

/-- The length of a reply. -/
def StageReply.length : StageReply → Nat
  | data length => length
  | csw _ => Csw.size
  | stall => 0

namespace Stage

def grow (length : Nat) : Stage → Stage
  | collecting needed gathered residue backed =>
      collecting needed (gathered + length) residue backed
  | stage => stage

/-- What has been gathered is used as soon as it is enough.  Between commands, a transfer without
data is a wrapper that is too short. -/
def settle (cbw : Cbw) : Stage → Option Stage
  | idle => some (status cbw.failedCsw)
  | collecting needed gathered residue backed =>
      if needed.any (· ≤ gathered) then
        if backed ∨ gathered < 24 then some (status (cbw.passedCsw residue)) else none
      else some (collecting needed gathered residue backed)
  | stage => some stage

def reply (cbw : Cbw) (length : Nat) : Stage → Stage × StageReply
  | idle => (idle, .stall)
  | status csw => (idle, .csw csw)
  | sending left =>
      (if left ≤ length then status (cbw.passedCsw 0) else sending (left - length),
        .data (min length left))
  | collecting needed gathered residue backed =>
      (collecting needed gathered residue backed, .stall)

/-- The transfers of a data stage. -/
def out (cbw : Cbw) (length : Nat) (stage : Stage) : Option Stage := (stage.grow length).settle cbw

def in_ (cbw : Cbw) (length : Nat) (stage : Stage) : Option (Stage × StageReply) :=
  (stage.settle cbw).map (reply cbw length)

/-- A stage stays as it is, or is the end of the data from the host. -/
theorem eq_or_of_settle {cbw : Cbw} {stage next : Stage} (hstage : stage ≠ .idle)
    (h : stage.settle cbw = some next) :
    next = stage ∨ ∃ needed gathered residue backed,
      stage = collecting needed gathered residue backed ∧
        next = status (cbw.passedCsw residue) := by
  cases stage with
  | idle => exact absurd rfl hstage
  | status csw => exact .inl (Option.some.inj h).symm
  | sending left => exact .inl (Option.some.inj h).symm
  | collecting needed gathered residue backed =>
      simp only [settle] at h
      split at h
      next =>
        split at h
        next => exact .inr ⟨_, _, _, _, rfl, (Option.some.inj h).symm⟩
        next => cases h
      next => exact .inl (Option.some.inj h).symm

theorem settle_ne_idle {cbw : Cbw} {stage next : Stage} (hstage : stage ≠ .idle)
    (h : stage.settle cbw = some next) : next ≠ .idle := by
  obtain rfl | ⟨needed, gathered, residue, backed, rfl, rfl⟩ := eq_or_of_settle hstage h
  · exact hstage
  · exact Stage.noConfusion

theorem grow_ne_idle {stage : Stage} {length : Nat} (hstage : stage ≠ .idle) :
    stage.grow length ≠ .idle := by
  cases stage with
  | idle => exact absurd rfl hstage
  | _ => exact Stage.noConfusion

end Stage

/-- The stage that a command begins with.  The residue of a command that passes at once is the one
that the handler happens to have. -/
def DataPhase.stage (cbw : Cbw) (residue : UInt32) (backed : Bool) : DataPhase → Option Stage
  | passed => some (.status (cbw.passedCsw residue))
  | failed => some (.status cbw.failedCsw)
  | toHost size => some (.sending size)
  | fromHost size residue => some (.collecting (some size) 0 residue backed)
  | stuck => some (.collecting none 0 0 backed)
  | undefined => none

section Phase

variable {phase : DataPhase} {stage : Stage} {cbw : Cbw} {residue : UInt32} {backed : Bool}

theorem ne_idle_of_stage (hphase : phase.stage cbw residue backed = some stage) :
    stage ≠ .idle := by
  cases phase with
  | undefined => cases hphase
  | _ =>
      obtain rfl := Option.some.inj hphase
      exact Stage.noConfusion

theorem eq_undefined_of_stage (hphase : phase.stage cbw residue backed = none) :
    phase = .undefined := by
  cases phase with
  | undefined => rfl
  | _ => cases hphase

end Phase

/-- What the handler gathers, with the bytes of a transfer that is being received counted in. -/
inductive Collects (s : MscBulkOnlyHandler Medium) (length : Nat) :
    Option Nat → Nat → UInt32 → Bool → Prop
  | unmap (hunmap : s.dataOutUnmap = true) (hbase : s.writeMmapBase = none) :
      Collects s length (some s.writeCount.toNat) s.stagingData.length 0 s.backend.isSome
  | writeSame {backend : StorageBackend Medium} (hbackend : s.backend = some backend)
      (hunmap : s.dataOutUnmap = false) (hwriteSame : s.dataOutWriteSame = true)
      (hbase : s.writeMmapBase = none) :
      Collects s length (some backend.blockSize.toNat) s.stagingData.length s.dataResidue
        s.backend.isSome
  | mapped {backend : StorageBackend Medium} {base : UInt64} (hbackend : s.backend = some backend)
      (hunmap : s.dataOutUnmap = false) (hwriteSame : s.dataOutWriteSame = false)
      (hbase : s.writeMmapBase = some base) :
      Collects s length (some (s.writeCount.toNat * backend.blockSize.toNat))
        (s.writeAccumulated + length) 0 s.backend.isSome
  | staged {backend : StorageBackend Medium} (hbackend : s.backend = some backend)
      (hunmap : s.dataOutUnmap = false) (hwriteSame : s.dataOutWriteSame = false)
      (hbase : s.writeMmapBase = none)
      (hrange : s.writeLba + s.writeCount.toUInt64 ≤ backend.blockCount) :
      Collects s length (some (s.writeCount.toNat * backend.blockSize.toNat)) s.stagingData.length 0
        s.backend.isSome
  | stuck {backend : StorageBackend Medium} (hbackend : s.backend = some backend)
      (hunmap : s.dataOutUnmap = false) (hwriteSame : s.dataOutWriteSame = false)
      (hbase : s.writeMmapBase = none)
      (hrange : ¬s.writeLba + s.writeCount.toUInt64 ≤ backend.blockCount) :
      Collects s length none s.stagingData.length 0 s.backend.isSome

/-- The handler is at a stage of the command of a wrapper. -/
inductive At (cbw : Cbw) (s : MscBulkOnlyHandler Medium) : Stage → Prop
  | idle (hcbw : s.currentCbw = cbw) (hstate : s.state = .idle) (hclean : s.commandFailed = false) :
      At cbw s .idle
  | status {csw : Csw} (hcbw : s.currentCbw = cbw) (hstate : s.state = .status)
      (hcsw : s.csw = csw) : At cbw s (.status csw)
  | sending {left : Nat} (hcbw : s.currentCbw = cbw) (hstate : s.state = .dataIn)
      (hclean : s.commandFailed = false) (hleft : s.stagingOffset + left = s.total) :
      At cbw s (.sending left)
  | collecting {needed : Option Nat} {gathered : Nat} {residue : UInt32} {backed : Bool}
      (hcbw : s.currentCbw = cbw) (hstate : s.state = .dataOut) (hclean : s.commandFailed = false)
      (hcollects : Collects s 0 needed gathered residue backed) :
      At cbw s (.collecting needed gathered residue backed)

/-- What a reply of the handler amounts to. -/
inductive BulkReply.Conveys (reply : BulkReply) : StageReply → Prop
  | data {length : Nat} (hstatus : reply.status = Protocol.UrbStatusType.statusOK)
      (hlength : reply.actualLength.toNat = length)
      (hsource : ∀ csw, reply.source ≠ .fallback csw) : Conveys reply (.data length)
  | csw {csw : Csw} (hreply : reply = ⟨Protocol.UrbStatusType.statusOK, 13, .fallback csw⟩) :
      Conveys reply (.csw csw)
  | stall (hreply : reply = ⟨Protocol.UrbStatusType.statusEPIPE, 0, .none⟩) : Conveys reply .stall

theorem BulkReply.Conveys.length {reply : BulkReply} {r : StageReply} (h : reply.Conveys r) :
    reply.actualLength.toNat = r.length := by
  cases h with
  | data hstatus hlength => exact hlength
  | csw hreply =>
      subst hreply
      rfl
  | stall hreply =>
      subst hreply
      rfl

section Entry

variable {s t : MscBulkOnlyHandler Medium} {phase : DataPhase} {stage : Stage} {cbw : Cbw}
  {bytes : List UInt8} {length : Nat}

theorem at_status_of_clean (hcbw : s.currentCbw = cbw) (hstate : s.state = .status)
    (hclean : s.commandFailed = false) : At cbw s (.status (cbw.passedCsw s.dataResidue)) := by
  refine .status hcbw hstate ?_
  rw [MscBulkOnlyHandler.csw, hclean, if_neg Bool.false_ne_true, hcbw]
  rfl

theorem at_status_of_failed (hcbw : s.currentCbw = cbw) (hstate : s.state = .status)
    (hfailed : s.commandFailed = true) : At cbw s (.status cbw.failedCsw) := by
  refine .status hcbw hstate ?_
  rw [MscBulkOnlyHandler.csw, hfailed, if_pos rfl, hcbw]
  rfl

theorem at_sending {left : Nat} (hcbw : s.currentCbw = cbw) (hstate : s.state = .dataIn)
    (hclean : s.commandFailed = false) (hoffset : s.stagingOffset = 0) (htotal : s.total = left) :
    At cbw s (.sending left) :=
  .sending hcbw hstate hclean (by rw [hoffset, htotal, Nat.zero_add])

theorem at_of_read10 {backend : StorageBackend Medium} {lba : UInt32} {count : UInt16}
    (hclean : s.commandFailed = false) :
    At s.currentCbw (s.read10 backend lba count)
      (.sending (count.toNat * backend.blockSize.toNat)) := by
  unfold MscBulkOnlyHandler.read10
  dsimp only
  split
  next => exact at_sending rfl rfl hclean rfl rfl
  next => exact at_sending rfl rfl hclean rfl (List.takeD_length _ _ _)

theorem collects_write10 {backend : StorageBackend Medium} (lba : UInt32) (count : UInt16)
    (hunmap : s.dataOutUnmap = false) (hwriteSame : s.dataOutWriteSame = false)
    (hbackend : s.backend = some backend) :
    Collects (s.write10 backend lba count) 0
      (if backend.getDirectBuffer s.medium lba.toUInt64 = true ∨
          lba.toUInt64 + count.toUInt64 ≤ backend.blockCount then
        some (count.toNat * backend.blockSize.toNat) else none) 0 0 s.backend.isSome := by
  by_cases hdirect : backend.getDirectBuffer s.medium lba.toUInt64 = true
  · rw [if_pos (.inl hdirect)]
    have hbase : (s.write10 backend lba count).writeMmapBase = some lba.toUInt64 := if_pos hdirect
    exact .mapped (by exact hbackend) (by exact hunmap) (by exact hwriteSame) hbase
  · have hbase : (s.write10 backend lba count).writeMmapBase = none := if_neg hdirect
    have hdata : (s.write10 backend lba count).stagingData.length = 0 :=
      congrArg List.length (if_neg hdirect)
    by_cases hrange : lba.toUInt64 + count.toUInt64 ≤ backend.blockCount
    · rw [if_pos (.inr hrange)]
      rw [← hdata]
      exact .staged (by exact hbackend) (by exact hunmap) (by exact hwriteSame) hbase hrange
    · rw [if_neg (not_or.mpr ⟨hdirect, hrange⟩)]
      rw [← hdata]
      exact .stuck (by exact hbackend) (by exact hunmap) (by exact hwriteSame) hbase hrange

/-- A command that has been loaded begins with the stage that its data phase calls for. -/
theorem at_of_executed (hclean : s.commandFailed = false) (hunmap : s.dataOutUnmap = false)
    (hwriteSame : s.dataOutWriteSame = false) (hread : s.readMmapBase = none)
    (hwrite : s.writeMmapBase = none) (ht : Executed s phase t) :
    ∃ stage, phase.stage s.currentCbw s.dataResidue s.backend.isSome = some stage ∧
      At s.currentCbw t stage := by
  cases ht with
  | passed => exact ⟨_, rfl, at_status_of_clean rfl rfl hclean⟩
  | punched => exact ⟨_, rfl, at_status_of_clean rfl rfl hclean⟩
  | failed => exact ⟨_, rfl, at_status_of_failed rfl rfl rfl⟩
  | answered =>
      refine ⟨_, rfl, at_sending rfl rfl hclean rfl ?_⟩
      simp [MscBulkOnlyHandler.total, MscBulkOnlyHandler.answer, hread]
  | read => exact ⟨_, rfl, at_of_read10 hclean⟩
  | write hbackend =>
      have hcollects := collects_write10 (lba10 s.currentCbw) (count10 s.currentCbw) hunmap
        hwriteSame hbackend
      split
      next hends =>
        rw [if_pos hends] at hcollects
        exact ⟨_, rfl, .collecting rfl rfl hclean hcollects⟩
      next hwraps =>
        rw [if_neg hwraps] at hcollects
        exact ⟨_, rfl, .collecting rfl rfl hclean hcollects⟩
  | writeSame hbackend =>
      exact ⟨_, rfl, .collecting rfl rfl hclean
        (.writeSame (by exact hbackend) (by exact hunmap) rfl (by exact hwrite))⟩
  | unmap => exact ⟨_, rfl, .collecting rfl rfl hclean (.unmap rfl (by exact hwrite))⟩

/-- A wrapper takes an idle handler to the first stage of its command. -/
theorem rel_onCommand (hs : Settled s) (hstate : s.state = .idle)
    (hlength : Cbw.size ≤ bytes.length)
    (hsignature : (Cbw.ofBytes bytes hlength).signature = Cbw.signatureValue) :
    Option.Rel (At (Cbw.ofBytes bytes hlength)) (s.onCommand bytes)
      ((dataPhase (s.loadCbw (.ofBytes bytes hlength))).stage (.ofBytes bytes hlength)
        s.dataResidue s.backend.isSome) := by
  have hclean : (s.loadCbw (.ofBytes bytes hlength)).commandFailed = false :=
    hs.clean (by simp [hstate])
  have hcommand : s.onCommand bytes = (s.loadCbw (.ofBytes bytes hlength)).execute := by
    rw [MscBulkOnlyHandler.onCommand, dif_pos hlength]
    exact if_pos hsignature
  rw [hcommand]
  cases ht : (s.loadCbw (.ofBytes bytes hlength)).execute with
  | none =>
      rw [(execute_eq_none_iff hclean).mp ht]
      exact .none
  | some t =>
      obtain ⟨stage, hstage, hat⟩ := at_of_executed hclean (by exact hs.unmap (by simp [hstate]))
        (by exact hs.writeSame (by simp [hstate])) rfl rfl (executed_of_execute hclean ht).2
      have hrel : Option.Rel (At (s.loadCbw (.ofBytes bytes hlength)).currentCbw) (some t)
          ((dataPhase (s.loadCbw (.ofBytes bytes hlength))).stage
            (s.loadCbw (.ofBytes bytes hlength)).currentCbw
            (s.loadCbw (.ofBytes bytes hlength)).dataResidue
            (s.loadCbw (.ofBytes bytes hlength)).backend.isSome) := by
        rw [hstage]
        exact .some hat
      exact hrel

end Entry

section Progress

variable {s t : MscBulkOnlyHandler Medium} {stage : Stage} {cbw : Cbw} {needed : Option Nat}
  {gathered : Nat} {residue : UInt32} {backed : Bool} {bytes : List UInt8} {length : Nat}

/-- The bytes of a transfer are counted in where they are put. -/
theorem Collects.receiveOut (hstate : s.state = .dataOut)
    (h : Collects s 0 needed gathered residue backed) :
    Collects (s.receiveOut bytes.length bytes).1 bytes.length needed (gathered + bytes.length)
      residue backed := by
  cases h with
  | unmap hunmap hbase =>
      rw [receiveOut_of_staged hstate hbase, receiveStaged_length, ← List.length_append]
      exact .unmap (by exact hunmap) (by exact hbase)
  | writeSame hbackend hunmap hwriteSame hbase =>
      rw [receiveOut_of_staged hstate hbase, receiveStaged_length, ← List.length_append]
      exact .writeSame (by exact hbackend) (by exact hunmap) (by exact hwriteSame) (by exact hbase)
  | mapped hbackend hunmap hwriteSame hbase =>
      rw [receiveOut_of_mapped hstate hbase]
      exact .mapped (by exact hbackend) (by exact hunmap) (by exact hwriteSame) (by exact hbase)
  | staged hbackend hunmap hwriteSame hbase hrange =>
      rw [receiveOut_of_staged hstate hbase, receiveStaged_length, ← List.length_append]
      exact .staged (by exact hbackend) (by exact hunmap) (by exact hwriteSame) (by exact hbase)
        (by exact hrange)
  | stuck hbackend hunmap hwriteSame hbase hrange =>
      rw [receiveOut_of_staged hstate hbase, receiveStaged_length, ← List.length_append]
      exact .stuck (by exact hbackend) (by exact hunmap) (by exact hwriteSame) (by exact hbase)
        (by exact hrange)

theorem settle_of_enough {size : Nat} (hfull : size ≤ gathered) (hbacked : backed = true) :
    (Stage.collecting (some size) gathered residue backed).settle cbw =
      some (.status (cbw.passedCsw residue)) := by
  simp [Stage.settle, hfull, hbacked]

theorem settle_of_short (hshort : ∀ size, needed = some size → gathered < size) :
    (Stage.collecting needed gathered residue backed).settle cbw =
      some (.collecting needed gathered residue backed) := by
  cases needed with
  | none => rfl
  | some size => simp [Stage.settle, Nat.not_le.mpr (hshort size rfl)]

theorem rel_onUnmapData (hcbw : s.currentCbw = cbw) (hstate : s.state = .dataOut)
    (hclean : s.commandFailed = false) (hunmap : s.dataOutUnmap = true)
    (hbase : s.writeMmapBase = none) :
    Option.Rel (At cbw) s.onUnmapData
      ((Stage.collecting (some s.writeCount.toNat) s.stagingData.length 0
        s.backend.isSome).settle cbw) := by
  unfold MscBulkOnlyHandler.onUnmapData
  by_cases hfull : s.writeCount.toNat ≤ s.stagingData.length
  · rw [if_pos hfull]
    cases hbackend : s.backend with
    | none =>
        rw [foldlM_punchDescriptor_none hbackend]
        by_cases hdescs : unmapBlockDescriptors s.stagingData = []
        · have hshort := unmapBlockDescriptors_eq_nil_iff.mp hdescs
          rw [if_pos hdescs, Stage.settle, if_pos (by simpa using hfull), if_pos (.inr hshort)]
          exact .some (at_status_of_clean hcbw rfl hclean)
        · have hlong : ¬s.stagingData.length < 24 :=
            fun hshort => hdescs (unmapBlockDescriptors_eq_nil_iff.mpr hshort)
          rw [if_neg hdescs, Stage.settle, if_pos (by simpa using hfull),
            if_neg (by simpa using hlong)]
          exact .none
    | some backend =>
        rw [foldlM_punchDescriptor hbackend, Option.isSome_some,
          settle_of_enough hfull rfl]
        exact .some (at_status_of_clean hcbw rfl hclean)
  · rw [if_neg hfull, settle_of_short fun size hsize => by simp at hsize; omega]
    exact .some (.collecting hcbw hstate hclean (.unmap hunmap hbase))

/-- What has been gathered is used as soon as it is enough. -/
theorem Collects.onData (hcbw : s.currentCbw = cbw) (hstate : s.state = .dataOut)
    (hclean : s.commandFailed = false) (h : Collects s length needed gathered residue backed) :
    Option.Rel (At cbw) (s.onData length)
      ((Stage.collecting needed gathered residue backed).settle cbw) := by
  unfold MscBulkOnlyHandler.onData
  cases h with
  | unmap hunmap hbase =>
      rw [if_pos hunmap]
      exact rel_onUnmapData hcbw hstate hclean hunmap hbase
  | @writeSame backend hbackend hunmap hwriteSame hbase =>
      rw [if_neg (by simp [hunmap]), if_pos hwriteSame, MscBulkOnlyHandler.onWriteSameData,
        hbackend, Option.map_some]
      by_cases hfull : backend.blockSize.toNat ≤ s.stagingData.length
      · rw [if_pos hfull, fillBlocks_eq, Option.isSome_some,
          settle_of_enough hfull rfl]
        exact .some (at_status_of_clean hcbw rfl hclean)
      · rw [if_neg hfull, settle_of_short fun size hsize => by simp at hsize; omega, ← hbackend]
        exact .some (.collecting hcbw hstate hclean (.writeSame hbackend hunmap hwriteSame hbase))
  | @mapped backend base hbackend hunmap hwriteSame hbase =>
      rw [if_neg (by simp [hunmap]), if_neg (by simp [hwriteSame]), if_pos (by simp [hbase]),
        MscBulkOnlyHandler.onMappedData, hbackend, Option.map_some]
      by_cases hfull : s.writeCount.toNat * backend.blockSize.toNat ≤ s.writeAccumulated + length
      · rw [if_pos hfull, Option.isSome_some,
          settle_of_enough hfull rfl]
        exact .some (at_status_of_clean hcbw rfl hclean)
      · rw [if_neg hfull, settle_of_short fun size hsize => by simp at hsize; omega, ← hbackend]
        exact .some (.collecting hcbw hstate hclean (.mapped hbackend hunmap hwriteSame hbase))
  | @staged backend hbackend hunmap hwriteSame hbase hrange =>
      rw [if_neg (by simp [hunmap]), if_neg (by simp [hwriteSame]), if_neg (by simp [hbase]),
        MscBulkOnlyHandler.onStagedData, hbackend, Option.map_some]
      by_cases hfull : s.writeCount.toNat * backend.blockSize.toNat ≤ s.stagingData.length
      · rw [if_pos ⟨hrange, hfull⟩, Option.isSome_some,
          settle_of_enough hfull rfl]
        exact .some (at_status_of_clean hcbw rfl hclean)
      · rw [if_neg fun hdone => hfull hdone.2,
          settle_of_short fun size hsize => by simp at hsize; omega, ← hbackend]
        exact .some (.collecting hcbw hstate hclean
          (.staged hbackend hunmap hwriteSame hbase hrange))
  | @stuck backend hbackend hunmap hwriteSame hbase hrange =>
      rw [if_neg (by simp [hunmap]), if_neg (by simp [hwriteSame]), if_neg (by simp [hbase]),
        MscBulkOnlyHandler.onStagedData, hbackend, Option.map_some,
        if_neg fun hdone => hrange hdone.1, settle_of_short (fun size hsize => by simp at hsize),
        ← hbackend]
      exact .some (.collecting hcbw hstate hclean
        (.stuck hbackend hunmap hwriteSame hbase hrange))

theorem at_finishDataIn_of_done (hcbw : s.currentCbw = cbw) (hclean : s.commandFailed = false)
    (hdone : s.stagingOffset = s.total) : At cbw s.finishDataIn (.status (cbw.passedCsw 0)) := by
  rw [MscBulkOnlyHandler.finishDataIn, if_pos hdone.ge]
  exact at_status_of_clean hcbw rfl hclean

theorem at_finishDataIn_of_left {left : Nat} (hcbw : s.currentCbw = cbw)
    (hstate : s.state = .dataIn) (hclean : s.commandFailed = false)
    (hleft : s.stagingOffset + left = s.total) (hpos : 0 < left) :
    At cbw s.finishDataIn (.sending left) := by
  rw [MscBulkOnlyHandler.finishDataIn, if_neg (by omega)]
  exact .sending hcbw hstate hclean hleft

theorem conveys_dataSource (hlength : length < 2 ^ 32) :
    BulkReply.Conveys ⟨Protocol.UrbStatusType.statusOK, .ofNat length, s.dataSource length⟩
      (.data length) := by
  refine .data rfl (UInt32.toNat_ofNat_of_lt hlength) fun csw => ?_
  unfold MscBulkOnlyHandler.dataSource
  split
  next => exact ReplySource.noConfusion
  next => exact ReplySource.noConfusion

/-- A data reply takes as much as the host has room for, and the last one ends the stage. -/
theorem at_sending_reply {left room : Nat} (hcbw : s.currentCbw = cbw) (hstate : s.state = .dataIn)
    (hclean : s.commandFailed = false) (hleft : s.stagingOffset + left = s.total) :
    At cbw (s.handOut (min room left)).finishDataIn
      (if left ≤ room then .status (cbw.passedCsw 0) else .sending (left - room)) := by
  have htotal : (s.handOut (min room left)).total = s.total := rfl
  have hoffset : (s.handOut (min room left)).stagingOffset = s.stagingOffset + min room left := rfl
  split
  next hlast => exact at_finishDataIn_of_done (by exact hcbw) (by exact hclean) (by omega)
  next hmore =>
    exact at_finishDataIn_of_left (by exact hcbw) (by exact hstate) (by exact hclean) (by omega)
      (by omega)

theorem at_sending_empty {left room : Nat} (hcbw : s.currentCbw = cbw) (hstate : s.state = .dataIn)
    (hclean : s.commandFailed = false) (hleft : s.stagingOffset + left = s.total)
    (hnone : min room left = 0) :
    At cbw s.finishDataIn
      (if left ≤ room then .status (cbw.passedCsw 0) else .sending (left - room)) := by
  split
  next hlast => exact at_finishDataIn_of_done hcbw hclean (by omega)
  next hmore => exact at_finishDataIn_of_left hcbw hstate hclean (by omega) (by omega)

/-- A reply is what the stage calls for, and so is the state behind it. -/
theorem At.handleBulkIn (h : At cbw s stage) (transferBufferLength : UInt32) :
    At cbw (s.handleBulkIn transferBufferLength).1
        (stage.reply cbw transferBufferLength.toNat).1 ∧
      (s.handleBulkIn transferBufferLength).2.Conveys
        (stage.reply cbw transferBufferLength.toNat).2 := by
  unfold MscBulkOnlyHandler.handleBulkIn
  cases h with
  | idle hcbw hstate hclean =>
      rw [hstate]
      exact ⟨.idle hcbw hstate hclean, .stall rfl⟩
  | status hcbw hstate hcsw =>
      rw [hstate]
      exact ⟨.idle hcbw rfl rfl, .csw (by rw [hcsw]; rfl)⟩
  | @sending left hcbw hstate hclean hleft =>
      have hbound := transferBufferLength.toNat_lt
      have hrest : s.total - s.stagingOffset = left := by omega
      rw [hstate]
      dsimp only [Stage.reply]
      rw [hrest]
      split
      next hsome =>
        exact ⟨at_sending_reply hcbw hstate hclean hleft, conveys_dataSource (by omega)⟩
      next hnone =>
        have hnone : min transferBufferLength.toNat left = 0 := by omega
        rw [hnone]
        exact ⟨at_sending_empty hcbw hstate hclean hleft hnone,
          .data rfl rfl fun csw => ReplySource.noConfusion⟩
  | collecting hcbw hstate hclean hcollects =>
      rw [hstate]
      exact ⟨.collecting hcbw hstate hclean hcollects, .stall rfl⟩

/-- Data that a stage has no use for changes nothing; an IN transfer that finds the handler idle is
a wrapper that is too short. -/
theorem At.onOutDataReceived (h : At cbw s stage) :
    Option.Rel (At cbw) (s.onOutDataReceived [] 0) (stage.settle cbw) := by
  cases h with
  | idle hcbw hstate hclean =>
      rw [onOutDataReceived_of_idle hstate]
      exact .some (at_status_of_failed hcbw rfl rfl)
  | status hcbw hstate hcsw =>
      rw [onOutDataReceived_of_other (by simp [hstate]) (by simp [hstate])]
      exact .some (.status hcbw hstate hcsw)
  | sending hcbw hstate hclean hleft =>
      rw [onOutDataReceived_of_other (by simp [hstate]) (by simp [hstate])]
      exact .some (.sending hcbw hstate hclean hleft)
  | collecting hcbw hstate hclean hcollects =>
      rw [onOutDataReceived_of_dataOut hstate]
      exact hcollects.onData hcbw hstate hclean

theorem At.in_ (h : At cbw s stage) (length : UInt32) :
    Option.Rel (fun p q => At cbw p.1 q.1 ∧ ∃ reply, p.2 = some reply ∧ reply.Conveys q.2)
      (s.transfer (.in_ length)) (stage.in_ cbw length.toNat) := by
  refine rel_map h.onOutDataReceived fun t stage' ht => ?_
  obtain ⟨hat, hconveys⟩ := ht.handleBulkIn length
  exact ⟨hat, _, rfl, hconveys⟩

theorem receiveOut_keeps (length : Nat) (bytes : List UInt8) :
    (s.receiveOut length bytes).1.currentCbw = s.currentCbw ∧
    (s.receiveOut length bytes).1.state = s.state ∧
    (s.receiveOut length bytes).1.commandFailed = s.commandFailed := by
  obtain ⟨base, -, -, heq⟩ | ⟨-, -, heq⟩ | ⟨-, heq⟩ := receiveOut_cases s length bytes
  · rw [heq]
    exact ⟨rfl, rfl, rfl⟩
  · rw [heq]
    exact ⟨rfl, rfl, rfl⟩
  · rw [heq]
    exact ⟨rfl, rfl, rfl⟩

theorem At.receiveOut (h : At cbw s stage) (hstage : stage ≠ .idle) (bytes : List UInt8) :
    Option.Rel (At cbw)
      ((s.receiveOut bytes.length bytes).1.onOutDataReceived (s.receiveOut bytes.length bytes).2
        bytes.length) (stage.out cbw bytes.length) := by
  cases h with
  | idle => exact absurd rfl hstage
  | status hcbw hstate hcsw =>
      rw [receiveOut_of_not_dataOut (by simp [hstate]),
        onOutDataReceived_of_other (by simp [hstate]) (by simp [hstate])]
      exact .some (.status hcbw hstate hcsw)
  | sending hcbw hstate hclean hleft =>
      rw [receiveOut_of_not_dataOut (by simp [hstate]),
        onOutDataReceived_of_other (by simp [hstate]) (by simp [hstate])]
      exact .some (.sending hcbw hstate hclean hleft)
  | collecting hcbw hstate hclean hcollects =>
      obtain ⟨hcbw', hstate', hclean'⟩ := receiveOut_keeps (s := s) bytes.length bytes
      rw [onOutDataReceived_of_dataOut (hstate'.trans hstate)]
      exact (hcollects.receiveOut hstate).onData (hcbw'.trans hcbw) (hstate'.trans hstate)
        (hclean'.trans hclean)

/-- An OUT transfer that is not a wrapper. -/
theorem At.out (h : At cbw s stage) (hstage : stage ≠ .idle) (bytes : List UInt8) :
    Option.Rel (fun p stage' => At cbw p.1 stage') (s.transfer (.out bytes))
      (stage.out cbw bytes.length) :=
  rel_map_left (h.receiveOut hstage bytes) fun _ _ hat => hat

end Progress

end Usbipdcpp.MassStorage
