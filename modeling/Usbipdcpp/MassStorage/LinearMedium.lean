import Usbipdcpp.MassStorage.DataTransfers
import Usbipdcpp.MassStorage.PunchHole

namespace Usbipdcpp.MassStorage

open Foundation.TransitionSystem
open Protocol (BotState bytesAt storeAt length_le_length_storeAt)
open MscBulkOnlyHandler

/-- The position of a block's byte on the medium. -/
def StorageBackend.position {Medium : Type} (backend : StorageBackend Medium) (lba : UInt64)
    (offset : Nat) : Nat :=
  lba.toNat * backend.blockSize.toNat + offset

/-- A backend whose blocks lie one after the other, whether or not it gives direct access to them.
Punching may change any of them, but takes none away. -/
structure StorageBackend.Linear (backend : StorageBackend (List UInt8)) : Prop where
  read : ∀ medium lba count, backend.read medium lba count =
    bytesAt medium (backend.position lba 0) (count.toNat * backend.blockSize.toNat)
  write : ∀ medium lba count data, backend.write medium lba count data =
    storeAt medium (backend.position lba 0) (data.take (count.toNat * backend.blockSize.toNat))
  load : ∀ medium lba offset length, backend.load medium lba offset length =
    bytesAt medium (backend.position lba offset) length
  store : ∀ medium lba offset bytes, backend.store medium lba offset bytes =
    storeAt medium (backend.position lba offset) bytes
  punchHole : ∀ medium lba count, medium.length ≤ (backend.punchHole medium lba count).length

/-- The blocks of the backend are on the medium. -/
def StorageBackend.Fits (backend : StorageBackend (List UInt8)) (medium : List UInt8) : Prop :=
  backend.blockCount.toNat * backend.blockSize.toNat ≤ medium.length

instance (backend : StorageBackend (List UInt8)) (medium : List UInt8) :
    Decidable (backend.Fits medium) :=
  inferInstanceAs (Decidable (_ ≤ _))

section Backends

variable {blocks : UInt64} {blockSize : UInt32}

theorem linear_memoryBackend : (memoryBackend blocks blockSize).Linear where
  read _ _ _ := rfl
  write _ _ _ _ := rfl
  load _ _ _ _ := rfl
  store _ _ _ _ := rfl
  punchHole _ _ _ := length_le_length_storeAt

theorem linear_rawImageBackend {fsBlockSize : Nat} :
    (rawImageBackend blocks blockSize fsBlockSize).Linear where
  read _ _ _ := rfl
  write _ _ _ _ := rfl
  load _ _ _ _ := rfl
  store _ _ _ _ := rfl
  punchHole _ _ _ := by
    simp only [rawImageBackend, fallocate, Foundation.ErasedRanges.length_erase]
    exact length_le_length_storeAt

/-- Direct access may be given or not. -/
theorem StorageBackend.Linear.setGetDirectBuffer {backend : StorageBackend (List UInt8)}
    (h : backend.Linear) (getDirectBuffer : List UInt8 → UInt64 → Bool) :
    ({ backend with getDirectBuffer } : StorageBackend (List UInt8)).Linear :=
  ⟨h.read, h.write, h.load, h.store, h.punchHole⟩

end Backends

section Runs

variable {backend : StorageBackend (List UInt8)} {medium : List UInt8} {readOnly : Bool}
  {s : MscBulkOnlyHandler (List UInt8)}

theorem StorageBackend.Linear.preserves_fits (h : backend.Linear) :
    backend.Preserves backend.Fits where
  write medium lba count data hmedium := by
    rw [h.write]
    exact hmedium.trans length_le_length_storeAt
  punchHole medium lba count hmedium := hmedium.trans (h.punchHole medium lba count)
  store medium lba offset bytes hmedium := by
    rw [h.store]
    exact hmedium.trans length_le_length_storeAt

/-- No run takes a block away. -/
theorem StorageBackend.Linear.worksWith (h : backend.Linear) {config : MscConfig}
    (hfits : backend.Fits medium)
    (hs : Reachable (system (some backend) readOnly config medium) s) :
    WorksWith backend readOnly backend.Fits s :=
  worksWith_of_reachable h.preserves_fits hfits hs

end Runs

section InRange

variable {backend : StorageBackend (List UInt8)} {s : MscBulkOnlyHandler (List UInt8)}

/-- The range of READ (10) or WRITE (10) is on the medium. -/
def OnMedium (backend : StorageBackend (List UInt8)) (cbw : Cbw) : Prop :=
  (lba10 cbw).toNat + (count10 cbw).toNat ≤ backend.blockCount.toNat

instance (backend : StorageBackend (List UInt8)) (cbw : Cbw) : Decidable (OnMedium backend cbw) :=
  inferInstanceAs (Decidable (_ ≤ _))

/-- The size of the range in bytes. -/
def size10 (backend : StorageBackend (List UInt8)) (cbw : Cbw) : Nat :=
  (count10 cbw).toNat * backend.blockSize.toNat

/-- The position of the range's first byte. -/
def start10 (backend : StorageBackend (List UInt8)) (cbw : Cbw) : Nat :=
  backend.position (lba10 cbw).toUInt64 0

theorem le_blockCount_of_onMedium {cbw : Cbw} (h : OnMedium backend cbw) :
    (lba10 cbw).toUInt64 + (count10 cbw).toUInt64 ≤ backend.blockCount := by
  rw [UInt64.le_iff_toNat_le, UInt64.toNat_add, UInt32.toNat_toUInt64, UInt16.toNat_toUInt64]
  exact (Nat.mod_le _ _).trans h

/-- What is on the medium is so in 32 bits too. -/
theorem inRange10_of_onMedium (hbackend : s.backend = some backend)
    (h : OnMedium backend s.currentCbw) : InRange10 s := by
  have hblocks : s.blockCount = backend.blockCount := by
    simp only [MscBulkOnlyHandler.blockCount, hbackend]
  unfold InRange10
  rw [hblocks, UInt64.le_iff_toNat_le, UInt32.toNat_toUInt64, UInt32.toNat_add,
    UInt16.toNat_toUInt32]
  exact (Nat.mod_le _ _).trans h

theorem readWrite10_of_inRange {cmd : ScsiCmd} (hbackend : s.backend = some backend)
    (h : InRange10 s) :
    s.readWrite10 cmd =
      some (if cmd = .read10 then s.read10 backend (lba10 s.currentCbw) (count10 s.currentCbw)
        else if s.readOnly then s.fail
        else s.write10 backend (lba10 s.currentCbw) (count10 s.currentCbw)) := by
  unfold MscBulkOnlyHandler.readWrite10
  dsimp only
  rw [if_neg (UInt64.not_lt.mpr h), hbackend, Option.map_some, Option.map_some]
  split
  next => rfl
  next =>
    split
    next => rfl
    next => rfl

theorem start10_add_size10_le {cbw : Cbw} {medium : List UInt8} (h : OnMedium backend cbw)
    (hfits : backend.Fits medium) : start10 backend cbw + size10 backend cbw ≤ medium.length := by
  have hmul := Nat.mul_le_mul_right backend.blockSize.toNat h
  rw [Nat.add_mul] at hmul
  rw [start10, StorageBackend.position, UInt32.toNat_toUInt64, Nat.add_zero]
  exact hmul.trans hfits

end InRange

end Usbipdcpp.MassStorage
